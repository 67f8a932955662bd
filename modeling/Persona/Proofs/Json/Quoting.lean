import Persona.Json.Reader
import Persona.Json.Writer
import Persona.Proofs.Text.Joining

/-!
# Texts in quotes

A quoted text holds nothing but printable ASCII characters, and is read back as the text it was
written from, whatever follows its closing quote.

The reader gives code units, one or two for each code point written; joining them gives the code
points again (`Text.joinUnits_flatMap_unitsOf`).

Main statements:

* `readString_quoted`: reading gives the text and what stands behind its closing quote;
* `isPrintable_of_mem_quoted`: every character of a quoted text is printable.
-/

namespace Persona.Json

open Text (hexDigit hexDigits hexValue? isHalf unitsOf)

/-! ## Hexadecimal digits -/

theorem hexValue?_hexDigit : ∀ d, d < 16 → hexValue? (hexDigit d) = some d := by decide

theorem hexDigits_four (n : Nat) :
    hexDigits 4 n =
      [hexDigit (n / 4096 % 16), hexDigit (n / 256 % 16), hexDigit (n / 16 % 16),
        hexDigit (n % 16)] := by
  simp [hexDigits, Nat.div_div_eq_div_mul]

/-- Four digits of a code unit are read as that unit. -/
theorem codeUnit?_hexDigits {n : Nat} (h : n < 0x10000) :
    codeUnit? (hexDigit (n / 4096 % 16)) (hexDigit (n / 256 % 16)) (hexDigit (n / 16 % 16))
      (hexDigit (n % 16)) = some n := by
  have hn : ((n / 4096 % 16 * 16 + n / 256 % 16) * 16 + n / 16 % 16) * 16 + n % 16 = n := by
    omega
  simp only [codeUnit?, hexValue?_hexDigit _ (Nat.mod_lt _ (by decide : 0 < 16)), bind,
    Option.bind_some, pure]
  rw [hn]

/-! ## One step of the reader -/

variable {start rest tail : List Char} {units : List Nat}

theorem stringUnits_plain {c : Char} (hq : c ≠ '"') (hb : c ≠ '\\') (hc : 0x20 ≤ c.toNat)
    (h : stringUnits start rest = .ok (units, tail)) :
    stringUnits start (c :: rest) = .ok (c.toNat :: units, tail) := by
  rw [stringUnits.eq_def]
  simp only [beq_iff_eq, hq, hb, if_false]
  rw [if_neg (by omega), h]
  rfl

theorem stringUnits_simple {e ch : Char} (he : simpleEscape? e = some ch)
    (h : stringUnits start rest = .ok (units, tail)) :
    stringUnits start ('\\' :: e :: rest) = .ok (ch.toNat :: units, tail) := by
  have hu : e ≠ 'u' := by
    rintro rfl
    cases he
  rw [stringUnits.eq_5 _ _ _ _ (fun _ _ _ _ _ _ h => absurd h hu) hu, if_neg (by decide),
    if_pos (by decide), he, h]
  rfl

/-- The escape of a code unit is read, if any character follows it. -/
theorem stringUnits_unitEscape {n : Nat} {next : Char} (hn : n < 0x10000)
    (h : stringUnits start (next :: rest) = .ok (units, tail)) :
    stringUnits start (unitEscape n ++ next :: rest) = .ok (n :: units, tail) := by
  rw [unitEscape, hexDigits_four]
  simp only [List.cons_append, List.nil_append]
  rw [stringUnits.eq_def]
  simp only [beq_iff_eq, Char.reduceEq, if_false, if_true, codeUnit?_hexDigits hn, h]
  rfl

/-! ## Characters and code points -/

/-- The letter of an escape for a character of the basic plane. -/
theorem stringUnits_simple_of_toNat {c e ch next : Char} (he : simpleEscape? e = some ch)
    (hc : c.toNat = ch.toNat) (hlt : ch.toNat < 0x10000)
    (h : stringUnits start (next :: rest) = .ok (units, tail)) :
    stringUnits start (['\\', e] ++ next :: rest) = .ok (unitsOf c.toNat ++ units, tail) := by
  rw [unitsOf, if_pos (by omega), hc]
  exact stringUnits_simple he h

/-- What stands for a character inside quotes is read as the code units of that character. -/
theorem stringUnits_escapeChar {c next : Char}
    (h : stringUnits start (next :: rest) = .ok (units, tail)) :
    stringUnits start (escapeChar c ++ next :: rest) = .ok (unitsOf c.toNat ++ units, tail) := by
  have hlt : c.toNat < 0x110000 := by
    have hvalid : c.toNat.isValidChar := c.valid
    unfold Nat.isValidChar at hvalid
    omega
  unfold escapeChar
  -- the escapes of one letter
  split
  · next hc => exact stringUnits_simple_of_toNat rfl (by rw [beq_iff_eq.mp hc]) (by decide) h
  split
  · next hc => exact stringUnits_simple_of_toNat rfl (by rw [beq_iff_eq.mp hc]) (by decide) h
  split
  · next hc => exact stringUnits_simple_of_toNat rfl (by rw [beq_iff_eq.mp hc]) (by decide) h
  split
  · next hc => exact stringUnits_simple_of_toNat rfl (by rw [beq_iff_eq.mp hc]) (by decide) h
  split
  · next hc => exact stringUnits_simple_of_toNat rfl (by rw [beq_iff_eq.mp hc]) (by decide) h
  split
  · next hc => exact stringUnits_simple_of_toNat rfl (beq_iff_eq.mp hc) (by decide) h
  split
  · next hc => exact stringUnits_simple_of_toNat rfl (beq_iff_eq.mp hc) (by decide) h
  split
  -- printable characters
  · next hq hb _ _ _ _ _ hc =>
      simp only [Bool.and_eq_true, decide_eq_true_eq] at hc
      rw [unitsOf, if_pos (by omega)]
      exact stringUnits_plain (by simpa using hq) (by simpa using hb) hc.1 h
  split
  -- one code unit, and two of them
  · next hc =>
      rw [unitsOf, if_pos hc]
      exact stringUnits_unitEscape hc h
  · next hc =>
      rw [unitsOf, if_neg hc, List.append_assoc]
      have hlow := stringUnits_unitEscape (n := 0xdc00 + (c.toNat - 0x10000) % 0x400) (by omega) h
      rw [unitEscape, List.cons_append] at hlow
      exact stringUnits_unitEscape (by omega) hlow

/-- What stands for a code point inside quotes is read as the code units of that code point. -/
theorem stringUnits_escapePoint {p : Nat} {next : Char} (hp : p < 0x110000)
    (h : stringUnits start (next :: rest) = .ok (units, tail)) :
    stringUnits start (escapePoint p ++ next :: rest) = .ok (unitsOf p ++ units, tail) := by
  unfold escapePoint
  split
  · next hh =>
      simp only [isHalf, Bool.and_eq_true, decide_eq_true_eq] at hh
      rw [unitsOf, if_pos (by omega)]
      exact stringUnits_unitEscape (by omega) h
  · next hh =>
      simp only [isHalf, Bool.and_eq_true, decide_eq_true_eq] at hh
      have hn : (Char.ofNat p).toNat = p := Text.toNat_ofNat (by unfold Nat.isValidChar; omega)
      have hc := stringUnits_escapeChar (c := Char.ofNat p) h
      rwa [hn] at hc

theorem exists_cons_flatMap_escapePoint (ps : List Nat) (rest : List Char) :
    ∃ next more, ps.flatMap escapePoint ++ '"' :: rest = next :: more := by
  cases hcs : ps.flatMap escapePoint with
  | nil => exact ⟨'"', rest, rfl⟩
  | cons c cs => exact ⟨c, cs ++ '"' :: rest, rfl⟩

/-- Code points written one after the other are read as their code units, up to the quote. -/
theorem stringUnits_flatMap_escapePoint {ps : List Nat} (hps : ∀ p ∈ ps, p < 0x110000) :
    stringUnits start (ps.flatMap escapePoint ++ '"' :: rest) = .ok (ps.flatMap unitsOf, rest) := by
  induction ps with
  | nil =>
      rw [List.flatMap_nil, List.nil_append, stringUnits.eq_def]
      rfl
  | cons p ps ih =>
      have hread := ih fun q hq => hps q (List.mem_cons_of_mem p hq)
      obtain ⟨next, more, hmore⟩ := exists_cons_flatMap_escapePoint ps rest
      rw [List.flatMap_cons, List.append_assoc, List.flatMap_cons]
      rw [hmore] at hread ⊢
      exact stringUnits_escapePoint (hps p (by simp)) hread

/-! ## Whole texts -/

/-- A quoted text is read back, from the character after its opening quote on. -/
theorem readString_quoted {s : String} (hs : Text.Sound s) (rest : List Char) :
    readString ((Text.points s).flatMap escapePoint ++ '"' :: rest) = .ok (s, rest) := by
  obtain ⟨hjoined, hpoints⟩ := hs.points
  simp only [readString, stringUnits_flatMap_escapePoint hjoined.lt, bind, Except.bind, pure,
    Except.pure, Text.joinUnits_flatMap_unitsOf hjoined]
  rw [← Text.ofPoints, ← hpoints]

theorem quoted_append (s : String) (rest : List Char) :
    quoted s ++ rest = '"' :: ((Text.points s).flatMap escapePoint ++ '"' :: rest) := by
  simp [quoted]

/-! ## Printable characters -/

/-- A character that stands for itself in every text of this format. -/
def isPrintable (c : Char) : Bool := 0x20 ≤ c.toNat && c.toNat ≤ 0x7e

theorem toNat_lt_of_isPrintable {c : Char} (h : isPrintable c = true) : c.toNat < 128 := by
  simp only [isPrintable, Bool.and_eq_true, decide_eq_true_eq] at h
  omega

theorem isPrintable_hexDigit : ∀ d, d < 16 → isPrintable (hexDigit d) = true := by decide

theorem isPrintable_of_mem_unitEscape {n : Nat} : ∀ c ∈ unitEscape n, isPrintable c = true := by
  intro c hc
  rw [unitEscape, hexDigits_four] at hc
  simp only [List.mem_cons, List.not_mem_nil, or_false] at hc
  rcases hc with rfl | rfl | rfl | rfl | rfl | rfl
  · rfl
  · rfl
  all_goals exact isPrintable_hexDigit _ (Nat.mod_lt _ (by decide))

theorem isPrintable_of_mem_simple {e : Char} (he : isPrintable e = true) :
    ∀ c ∈ ['\\', e], isPrintable c = true := by
  intro c hc
  simp only [List.mem_cons, List.not_mem_nil, or_false] at hc
  rcases hc with rfl | rfl
  · rfl
  · exact he

theorem isPrintable_of_mem_escapeChar (d : Char) : ∀ c ∈ escapeChar d, isPrintable c = true := by
  unfold escapeChar
  split
  · exact isPrintable_of_mem_simple rfl
  split
  · exact isPrintable_of_mem_simple rfl
  split
  · exact isPrintable_of_mem_simple rfl
  split
  · exact isPrintable_of_mem_simple rfl
  split
  · exact isPrintable_of_mem_simple rfl
  split
  · exact isPrintable_of_mem_simple rfl
  split
  · exact isPrintable_of_mem_simple rfl
  split
  · next hd =>
      intro c hc
      rw [List.mem_singleton.mp hc]
      exact hd
  split
  · exact isPrintable_of_mem_unitEscape
  · intro c hc
    rcases List.mem_append.mp hc with hc | hc
    · exact isPrintable_of_mem_unitEscape c hc
    · exact isPrintable_of_mem_unitEscape c hc

/-- Every character of a quoted text is printable, whatever the text holds. -/
theorem isPrintable_of_mem_quoted (s : String) : ∀ c ∈ quoted s, isPrintable c = true := by
  intro c hc
  simp only [quoted, List.cons_append, List.mem_cons, List.mem_append, List.mem_flatMap,
    List.not_mem_nil, or_false] at hc
  rcases hc with rfl | ⟨p, _, hc⟩ | rfl
  · rfl
  · unfold escapePoint at hc
    split at hc
    · exact isPrintable_of_mem_unitEscape c hc
    · exact isPrintable_of_mem_escapeChar _ c hc
  · rfl

end Persona.Json
