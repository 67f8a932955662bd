import Persona.Proofs.Json.Roundtrip

/-!
# All ways to write an object of texts

A text can be written in many ways: its code points as they are or escaped by a letter or by their
code units, with digits in either case, and blanks between the parts of a list or an object. Which
texts these are is said here without the reader, for objects of texts and lists of texts.

The reader takes every one of them for the object that it was written from. As in `Quoting`, it
gives code units first; a code point that stands as it is gives the characters that hold it.

Main statements:

* `readText_writes`: the reader takes what is written for the object;
* `writesObject_chars`: the way of the writer is one of these.
-/

namespace Persona.Json

open Text (Joined Sound hold isHalf isHigh isLow joinUnits unitsOf)

/-! ## The grammar -/

/-- The ways to write code points between quotes. -/
inductive Spells : List Nat → List Char → Prop
  | nil : Spells [] []
  /-- A code point as it is. -/
  | plain {p ps cs} (hcontrol : 0x20 ≤ p) (hquote : p ≠ '"'.toNat) (hslash : p ≠ '\\'.toNat)
      (h : Spells ps cs) : Spells (p :: ps) (hold p ++ cs)
  | letter {e ch ps cs} (he : simpleEscape? e = some ch) (h : Spells ps cs) :
      Spells (ch.toNat :: ps) ('\\' :: e :: cs)
  | unit {a b c d p ps cs} (hp : codeUnit? a b c d = some p) (h : Spells ps cs) :
      Spells (p :: ps) ('\\' :: 'u' :: a :: b :: c :: d :: cs)
  /-- A code point above the basic plane by its two code units. -/
  | pair {a b c d a' b' c' d' p ps cs} (hp : 0x10000 ≤ p)
      (hhigh : codeUnit? a b c d = some (0xd800 + (p - 0x10000) / 0x400))
      (hlow : codeUnit? a' b' c' d' = some (0xdc00 + (p - 0x10000) % 0x400))
      (h : Spells ps cs) :
      Spells (p :: ps)
        ('\\' :: 'u' :: a :: b :: c :: d :: '\\' :: 'u' :: a' :: b' :: c' :: d' :: cs)

/-- The ways to write a text in quotes. -/
def Quotes (s : String) (cs : List Char) : Prop :=
  ∃ body, Spells (Text.points s) body ∧ cs = '"' :: (body ++ ['"'])

/-- Nothing but blanks. -/
def Blanks (gap : List Char) : Prop := ∀ c ∈ gap, isBlank c = true

/-- The ways to write texts up to the closing bracket of their list. -/
inductive WritesItems : List String → List Char → Prop
  | last {s cs gap} (hs : Quotes s cs) (hgap : Blanks gap) :
      WritesItems [s] (cs ++ (gap ++ [']']))
  | cons {s ss cs gap gap' more} (hs : Quotes s cs) (hgap : Blanks gap) (hgap' : Blanks gap')
      (h : WritesItems ss more) : WritesItems (s :: ss) (cs ++ (gap ++ ',' :: (gap' ++ more)))

/-- The ways to write a text or a list of texts. -/
inductive Writes : Json → List Char → Prop
  | text {s cs} (hs : Quotes s cs) : Writes (.str s) cs
  | empty {gap} (hgap : Blanks gap) : Writes (.arr []) ('[' :: (gap ++ [']']))
  | list {ss gap cs} (hgap : Blanks gap) (h : WritesItems ss cs) :
      Writes (.arr (ss.map .str)) ('[' :: (gap ++ cs))

/-- The ways to write a field. -/
def WritesField (key : String) (v : Json) (cs : List Char) : Prop :=
  ∃ name gap gap' value, Quotes key name ∧ Blanks gap ∧ Blanks gap' ∧ Writes v value ∧
    cs = name ++ (gap ++ ':' :: (gap' ++ value))

/-- The ways to write fields up to the closing brace of their object. -/
inductive WritesFields : List (String × Json) → List Char → Prop
  | last {key v cs gap} (h : WritesField key v cs) (hgap : Blanks gap) :
      WritesFields [(key, v)] (cs ++ (gap ++ ['\x7d']))
  | cons {key v fs cs gap gap' more} (h : WritesField key v cs) (hgap : Blanks gap)
      (hgap' : Blanks gap') (hfs : WritesFields fs more) :
      WritesFields ((key, v) :: fs) (cs ++ (gap ++ ',' :: (gap' ++ more)))

/-- The ways to write an object that is not empty. -/
def WritesObject (fs : List (String × Json)) (cs : List Char) : Prop :=
  ∃ gap body, Blanks gap ∧ WritesFields fs body ∧ cs = '\x7b' :: (gap ++ body)

/-! ## Code units -/

theorem hexValue?_lt {c : Char} {n : Nat} (h : Text.hexValue? c = some n) : n < 16 := by
  have hle {d : Char} (hd : c ≤ d) : c.toNat ≤ d.toNat := UInt32.le_iff_toNat_le.mp hd
  unfold Text.hexValue? at h
  simp only [Bool.and_eq_true, decide_eq_true_eq] at h
  split at h
  · next hc =>
      have hle : c.toNat ≤ 57 := hle hc.2
      cases h
      omega
  split at h
  · next hc =>
      have hle : c.toNat ≤ 102 := hle hc.2
      cases h
      omega
  split at h
  · next hc =>
      have hle : c.toNat ≤ 70 := hle hc.2
      cases h
      omega
  · cases h

theorem codeUnit?_lt {a b c d : Char} {n : Nat} (h : codeUnit? a b c d = some n) :
    n < 0x10000 := by
  simp only [codeUnit?, bind, Option.bind_eq_some_iff, pure, Option.some.injEq] at h
  obtain ⟨a, ha, b, hb, c, hc, d, hd, rfl⟩ := h
  have ha := hexValue?_lt ha
  have hb := hexValue?_lt hb
  have hc := hexValue?_lt hc
  have hd := hexValue?_lt hd
  omega

/-- A character is no half of a pair, so its code unit stands for itself. -/
theorem joinUnits_chars (cs : List Char) (us : List Nat) :
    joinUnits (cs.map Char.toNat ++ us) = cs ++ joinUnits us := by
  induction cs with
  | nil => rfl
  | cons c cs ih =>
      have hhalf := Text.isHalf_toNat c
      rw [List.map_cons, List.cons_append, List.cons_append, ← ih]
      cases cs.map Char.toNat ++ us with
      | nil => simp [joinUnits, hhalf]
      | cons v rest =>
          rw [joinUnits, hhalf, if_neg Bool.false_ne_true, Char.ofNat_toNat, if_neg]
          · rfl
          · simp only [isHalf, Bool.and_eq_false_iff, decide_eq_false_iff_not] at hhalf
            simp only [Bool.and_eq_true, decide_eq_true_eq]
            omega

/-! ## Texts -/

/-- A character that stands for itself between quotes. -/
def Ordinary (c : Char) : Prop := c ≠ '"' ∧ c ≠ '\\' ∧ 0x20 ≤ c.toNat

theorem ordinary_of_toNat {c : Char} (hcontrol : 0x20 ≤ c.toNat) (hquote : c.toNat ≠ '"'.toNat)
    (hslash : c.toNat ≠ '\\'.toNat) : Ordinary c :=
  ⟨fun h => hquote (congrArg _ h), fun h => hslash (congrArg _ h), hcontrol⟩

theorem ordinary_of_mem_hold {p : Nat} (hp : p < 0x110000) (hcontrol : 0x20 ≤ p)
    (hquote : p ≠ '"'.toNat) (hslash : p ≠ '\\'.toNat) : ∀ c ∈ hold p, Ordinary c := by
  have hmark : Ordinary Text.mark := by
    refine ordinary_of_toNat ?_ ?_ ?_ <;> rw [Text.toNat_mark] <;> decide
  intro c hc
  unfold hold at hc
  split at hc
  · next hhalf =>
      simp only [isHalf, Bool.and_eq_true, decide_eq_true_eq] at hhalf
      have hn : (Char.ofNat (p + 0x800)).toNat = p + 0x800 :=
        Text.toNat_ofNat (.inr ⟨by omega, by omega⟩)
      rcases List.mem_cons.mp hc with rfl | hc
      · exact hmark
      · rw [List.mem_singleton.mp hc]
        have hq : '"'.toNat = 34 := rfl
        have hs : '\\'.toNat = 92 := rfl
        exact ordinary_of_toNat (by omega) (by omega) (by omega)
  · next hhalf =>
      simp only [isHalf, Bool.and_eq_true, decide_eq_true_eq] at hhalf
      split at hc
      · rcases List.mem_cons.mp hc with rfl | hc
        · exact hmark
        · rw [List.mem_singleton.mp hc]
          exact hmark
      · have hn : (Char.ofNat p).toNat = p := Text.toNat_ofNat (by unfold Nat.isValidChar; omega)
        rw [List.mem_singleton.mp hc]
        exact ordinary_of_toNat (by omega) (by omega) (by omega)

section
variable {start rest tail : List Char} {units : List Nat}

theorem stringUnits_chars {cs : List Char} (hcs : ∀ c ∈ cs, Ordinary c)
    (h : stringUnits start rest = .ok (units, tail)) :
    stringUnits start (cs ++ rest) = .ok (cs.map Char.toNat ++ units, tail) := by
  induction cs with
  | nil => exact h
  | cons c cs ih =>
      obtain ⟨hquote, hslash, hcontrol⟩ := hcs c (by simp)
      exact stringUnits_plain hquote hslash hcontrol
        (ih fun d hd => hcs d (List.mem_cons_of_mem c hd))

/-- Four digits of a code unit are read, if any character follows them. -/
theorem stringUnits_digits {a b c d next : Char} {n : Nat} (hn : codeUnit? a b c d = some n)
    (h : stringUnits start (next :: rest) = .ok (units, tail)) :
    stringUnits start ('\\' :: 'u' :: a :: b :: c :: d :: next :: rest) =
      .ok (n :: units, tail) := by
  rw [stringUnits.eq_def]
  simp only [beq_iff_eq, Char.reduceEq, if_false, if_true, hn, h]
  rfl

end

/-- A text in quotes goes on with some character: the quote if with nothing else. -/
theorem exists_cons_append_quote (cs rest : List Char) :
    ∃ next more, cs ++ '"' :: rest = next :: more := by
  cases cs with
  | nil => exact ⟨'"', rest, rfl⟩
  | cons c cs => exact ⟨c, cs ++ '"' :: rest, rfl⟩

/-- The first of two joined code points is no high half where the second one is a low half. -/
theorem not_isHigh_of_joined {p : Nat} {ps : List Nat} (h : Joined (p :: ps))
    (hlow : ∃ q ∈ ps.head?, isLow q = true) : ¬isHigh p = true := by
  obtain ⟨q, hq, hlow⟩ := hlow
  cases ps with
  | nil => cases hq
  | cons q' rest =>
      cases hq
      exact fun hhigh => h.2.1 ⟨hhigh, hlow⟩

theorem not_isLow_toNat (c : Char) : ¬isLow c.toNat = true := by
  have hhalf := Text.isHalf_toNat c
  simp only [isHalf, isLow, Bool.and_eq_false_iff, Bool.and_eq_true, decide_eq_true_eq,
    decide_eq_false_iff_not] at hhalf ⊢
  omega

theorem exists_cons_hold (p : Nat) : ∃ c cs, hold p = c :: cs := by
  unfold hold
  split
  · exact ⟨_, _, rfl⟩
  · split <;> exact ⟨_, _, rfl⟩

theorem hold_of_simpleEscape? {e ch : Char} (he : simpleEscape? e = some ch) :
    hold ch.toNat = [ch] := by
  refine Text.hold_toNat ?_
  unfold simpleEscape? at he
  split at he <;> cases he <;> decide

/-- Spelled code points are read as code units that join to them. The first unit is a low half only
if the first code point is one, so that nothing before them takes it for its partner. -/
theorem Spells.stringUnits {ps : List Nat} {cs : List Char} (h : Spells ps cs) (hps : Joined ps)
    (start rest : List Char) :
    ∃ units, stringUnits start (cs ++ '"' :: rest) = .ok (units, rest) ∧
      joinUnits units = ps.flatMap hold ∧
      ∀ u ∈ units.head?, isLow u = true → ∃ q ∈ ps.head?, isLow q = true := by
  induction h with
  | nil =>
      refine ⟨[], ?_, rfl, nofun⟩
      rw [List.nil_append, stringUnits.eq_def]
      rfl
  | @plain p ps cs hcontrol hquote hslash h ih =>
      obtain ⟨units, hread, hjoin, -⟩ := ih hps.tail
      have hordinary := ordinary_of_mem_hold hps.head_lt hcontrol hquote hslash
      refine ⟨(hold p).map Char.toNat ++ units, ?_, ?_, ?_⟩
      · rw [List.append_assoc]
        exact stringUnits_chars hordinary hread
      · rw [joinUnits_chars, hjoin, List.flatMap_cons]
      · obtain ⟨c, more, hc⟩ := exists_cons_hold p
        rw [hc]
        rintro u ⟨⟩ hlow
        exact absurd hlow (not_isLow_toNat c)
  | @letter e ch ps cs he h ih =>
      obtain ⟨units, hread, hjoin, -⟩ := ih hps.tail
      refine ⟨ch.toNat :: units, stringUnits_simple he hread, ?_, ?_⟩
      · have hchar := joinUnits_chars [ch] units
        rw [List.flatMap_cons, hold_of_simpleEscape? he, ← hjoin]
        exact hchar
      · rintro u ⟨⟩ hlow
        exact absurd hlow (not_isLow_toNat ch)
  | @unit a b c d p ps cs hp h ih =>
      obtain ⟨units, hread, hjoin, hhead⟩ := ih hps.tail
      obtain ⟨next, more, hmore⟩ := exists_cons_append_quote cs rest
      rw [hmore] at hread
      refine ⟨p :: units, ?_, ?_, ?_⟩
      · simp only [List.cons_append, hmore]
        exact stringUnits_digits hp hread
      · rw [List.flatMap_cons, ← hjoin]
        refine Text.joinUnits_single (codeUnit?_lt hp) units ?_
        rintro u hu ⟨hhigh, hlow⟩
        exact not_isHigh_of_joined hps (hhead u hu hlow) hhigh
      · rintro u ⟨⟩ hlow
        exact ⟨p, rfl, hlow⟩
  | @pair a b c d a' b' c' d' p ps cs hp hhigh hlow h ih =>
      obtain ⟨units, hread, hjoin, -⟩ := ih hps.tail
      obtain ⟨next, more, hmore⟩ := exists_cons_append_quote cs rest
      rw [hmore] at hread
      have hunits : unitsOf p =
          [0xd800 + (p - 0x10000) / 0x400, 0xdc00 + (p - 0x10000) % 0x400] := by
        rw [unitsOf, if_neg (by omega)]
      refine ⟨unitsOf p ++ units, ?_, ?_, ?_⟩
      · simp only [List.cons_append, hmore, hunits]
        exact stringUnits_digits hhigh (stringUnits_digits hlow hread)
      · rw [Text.joinUnits_pair hp hps.head_lt, hjoin, List.flatMap_cons]
      · have hlt := hps.head_lt
        rw [hunits]
        rintro u ⟨⟩ hlow
        simp only [isLow, Bool.and_eq_true, decide_eq_true_eq] at hlow
        omega

theorem readString_spells {s : String} (hs : Sound s) {body : List Char}
    (h : Spells (Text.points s) body) (rest : List Char) :
    readString (body ++ '"' :: rest) = .ok (s, rest) := by
  obtain ⟨hjoined, hpoints⟩ := hs.points
  obtain ⟨units, hread, hjoin, -⟩ := h.stringUnits hjoined ('"' :: (body ++ '"' :: rest)) rest
  simp only [readString, hread, bind, Except.bind, pure, Except.pure, hjoin]
  rw [← Text.ofPoints, ← hpoints]

/-! ## Values -/

variable {depth fuel : Nat} {rest : List Char}

theorem readValue_quotes {s : String} (hs : Sound s) {cs : List Char} (h : Quotes s cs)
    (rest : List Char) : readValue (fuel + 1) depth (cs ++ rest) = .ok (.str s, rest) := by
  obtain ⟨body, hbody, rfl⟩ := h
  rw [List.cons_append, List.append_assoc, List.singleton_append, readValue.eq_def]
  simp only [beq_self_eq_true, if_true, readString_spells hs hbody]
  rfl

theorem readItems_next {cs gap gap' more : List Char} {c : Char} {x : Json} {xs : List Json}
    (hx : readValue fuel depth cs = .ok (x, gap ++ ',' :: (gap' ++ c :: more)))
    (hgap : Blanks gap) (hgap' : Blanks gap') (hc : isBlank c = false)
    (hxs : readItems fuel depth (c :: more) = .ok (xs, rest)) :
    readItems (fuel + 1) depth cs = .ok (x :: xs, rest) := by
  rw [readItems.eq_def]
  simp only [hx, bind, Except.bind, skipBlanks_append (c := ',') hgap rfl,
    skipBlanks_append hgap' hc, hxs]
  rfl

theorem Quotes.exists_cons {s : String} {cs : List Char} (h : Quotes s cs) :
    ∃ more, cs = '"' :: more := by
  obtain ⟨body, -, rfl⟩ := h
  exact ⟨_, rfl⟩

theorem WritesItems.exists_cons {ss : List String} {cs : List Char} (h : WritesItems ss cs) :
    ∃ more, cs = '"' :: more := by
  cases h with
  | last hs hgap =>
      obtain ⟨more, rfl⟩ := hs.exists_cons
      exact ⟨_, rfl⟩
  | cons hs hgap hgap' h =>
      obtain ⟨more, rfl⟩ := hs.exists_cons
      exact ⟨_, rfl⟩

/-- Fuel as long as the text is enough for its items. -/
theorem readItems_writes {ss : List String} {cs : List Char} (h : WritesItems ss cs)
    (hss : ∀ s ∈ ss, Sound s) (hfuel : cs.length < fuel) :
    readItems fuel depth (cs ++ rest) = .ok (ss.map .str, rest) := by
  induction h generalizing fuel with
  | @last s cs gap hs hgap =>
      simp only [List.length_append, List.length_singleton] at hfuel
      obtain ⟨fuel, rfl⟩ : ∃ f, fuel = f + 1 + 1 := ⟨fuel - 2, by omega⟩
      rw [List.append_assoc, List.append_assoc, List.singleton_append]
      exact readItems_last (readValue_quotes (hss s (by simp)) hs _) hgap
  | @cons s ss cs gap gap' more hs hgap hgap' h ih =>
      simp only [List.length_append, List.length_cons] at hfuel
      obtain ⟨fuel, rfl⟩ : ∃ f, fuel = f + 1 + 1 := ⟨fuel - 2, by omega⟩
      have hmore : readItems (fuel + 1) depth (more ++ rest) = .ok (ss.map .str, rest) :=
        ih (fun t ht => hss t (List.mem_cons_of_mem s ht)) (by omega)
      have hvalue : readValue (fuel + 1) depth (cs ++ (gap ++ ',' :: (gap' ++ (more ++ rest)))) =
          .ok (.str s, _) := readValue_quotes (hss s (by simp)) hs _
      obtain ⟨tail, rfl⟩ := h.exists_cons
      simp only [List.cons_append, List.append_assoc] at hmore hvalue ⊢
      exact readItems_next hvalue hgap hgap' rfl hmore

/-- The texts of a value are sound. -/
def SoundTexts : Json → Prop
  | .str s => Sound s
  | .arr xs => ∀ s, .str s ∈ xs → Sound s
  | _ => True

theorem Writes.exists_cons {v : Json} {cs : List Char} (h : Writes v cs) :
    ∃ c more, cs = c :: more ∧ isBlank c = false := by
  cases h with
  | text hs =>
      obtain ⟨more, rfl⟩ := hs.exists_cons
      exact ⟨'"', more, rfl, rfl⟩
  | empty hgap => exact ⟨'[', _, rfl, rfl⟩
  | list hgap h => exact ⟨'[', _, rfl, rfl⟩

theorem readValue_writes {v : Json} {cs : List Char} (h : Writes v cs) (hv : SoundTexts v)
    (hfuel : cs.length < fuel) :
    readValue fuel (depth + 1) (cs ++ rest) = .ok (v, rest) := by
  cases h with
  | text hs =>
      obtain ⟨fuel, rfl⟩ : ∃ f, fuel = f + 1 := ⟨fuel - 1, by omega⟩
      exact readValue_quotes hv hs rest
  | @empty gap hgap =>
      obtain ⟨fuel, rfl⟩ : ∃ f, fuel = f + 1 := ⟨fuel - 1, by omega⟩
      rw [List.cons_append, List.append_assoc, List.singleton_append, readValue.eq_def]
      simp only [beq_iff_eq, Char.reduceEq, if_false, if_true,
        skipBlanks_append (c := ']') hgap rfl]
  | @list ss gap cs hgap h =>
      rw [List.length_cons, List.length_append] at hfuel
      obtain ⟨fuel, rfl⟩ : ∃ f, fuel = f + 1 := ⟨fuel - 1, by omega⟩
      have hsound : ∀ s ∈ ss, Sound s := fun s hs => hv s (List.mem_map_of_mem hs)
      have hitems : readItems fuel depth (cs ++ rest) = .ok (ss.map .str, rest) :=
        readItems_writes h hsound (by omega)
      obtain ⟨more, rfl⟩ := h.exists_cons
      rw [List.cons_append, List.append_assoc]
      exact readValue_items hgap rfl (by decide) hitems

/-! ## Fields -/

theorem WritesField.exists_cons {key : String} {v : Json} {cs : List Char}
    (h : WritesField key v cs) : ∃ more, cs = '"' :: more := by
  obtain ⟨name, gap, gap', value, hname, -, -, -, rfl⟩ := h
  obtain ⟨more, rfl⟩ := hname.exists_cons
  exact ⟨_, rfl⟩

theorem WritesFields.exists_cons {fs : List (String × Json)} {cs : List Char}
    (h : WritesFields fs cs) : ∃ more, cs = '"' :: more := by
  cases h with
  | last h hgap =>
      obtain ⟨more, rfl⟩ := h.exists_cons
      exact ⟨_, rfl⟩
  | cons h hgap hgap' hfs =>
      obtain ⟨more, rfl⟩ := h.exists_cons
      exact ⟨_, rfl⟩

/-- A field is read, and then the brace or the comma behind it decides. -/
theorem readFields_writesField {key : String} {v : Json} {cs gap more : List Char} {c : Char}
    {acc : List (String × Json)} (h : WritesField key v cs) (hkey : Sound key)
    (hv : SoundTexts v) (hfuel : cs.length < fuel) (hgap : Blanks gap) (hc : isBlank c = false) :
    readFields (fuel + 1) (depth + 1) acc (cs ++ (gap ++ c :: more)) =
      match c :: more with
      | '\x7d' :: rest => .ok (Fields.put acc key v, rest)
      | ',' :: rest => readFields fuel (depth + 1) (Fields.put acc key v) (skipBlanks rest)
      | rest => fail .comma rest := by
  obtain ⟨name, gap₁, gap₂, value, ⟨body, hbody, rfl⟩, hgap₁, hgap₂, hvalue, rfl⟩ := h
  simp only [List.length_append, List.length_cons] at hfuel
  have hread : readValue fuel (depth + 1) (value ++ (gap ++ c :: more)) = .ok (v, _) :=
    readValue_writes hvalue hv (by omega)
  obtain ⟨d, tail, rfl, hd⟩ := hvalue.exists_cons
  rw [readFields.eq_def]
  simp only [List.cons_append, List.append_assoc] at hread ⊢
  simp only [List.nil_append, readString_spells hkey hbody, bind, Except.bind,
    skipBlanks_append (c := ':') hgap₁ rfl, skipBlanks_append hgap₂ hd, hread,
    skipBlanks_append hgap hc]
  rfl

/-- The fields of an object are read, behind those that were read before. -/
theorem readFields_writes {fs acc : List (String × Json)} {cs : List Char} (h : WritesFields fs cs)
    (hfs : ∀ f ∈ fs, Sound f.1 ∧ SoundTexts f.2) (hnodup : ((acc ++ fs).map (·.1)).Nodup)
    (hfuel : cs.length < fuel) :
    readFields fuel (depth + 1) acc (cs ++ rest) = .ok (acc ++ fs, rest) := by
  induction h generalizing fuel acc with
  | @last key v cs gap h hgap =>
      simp only [List.length_append, List.length_singleton] at hfuel
      obtain ⟨fuel, rfl⟩ : ∃ f, fuel = f + 1 := ⟨fuel - 1, by omega⟩
      obtain ⟨hkey, hv⟩ := hfs (key, v) (by simp)
      rw [List.append_assoc, List.append_assoc, List.singleton_append,
        readFields_writesField h hkey hv (by omega) hgap rfl]
      change Except.ok (Fields.put acc key v, rest) = _
      rw [Fields.put_of_not_mem (not_mem_keys_of_nodup hnodup)]
  | @cons key v fs cs gap gap' more h hgap hgap' hmore ih =>
      simp only [List.length_append, List.length_cons] at hfuel
      obtain ⟨fuel, rfl⟩ : ∃ f, fuel = f + 1 := ⟨fuel - 1, by omega⟩
      obtain ⟨hkey, hv⟩ := hfs (key, v) (by simp)
      have hrest : readFields fuel (depth + 1) (acc ++ [(key, v)]) (more ++ rest) =
          .ok (acc ++ [(key, v)] ++ fs, rest) :=
        ih (fun f hf => hfs f (List.mem_cons_of_mem _ hf)) (by simpa using hnodup) (by omega)
      obtain ⟨tail, rfl⟩ := hmore.exists_cons
      simp only [List.append_assoc, List.cons_append]
      rw [readFields_writesField h hkey hv (by omega) hgap rfl]
      change readFields fuel (depth + 1) (Fields.put acc key v)
        (skipBlanks (gap' ++ '"' :: (tail ++ rest))) = _
      rw [skipBlanks_append hgap' rfl, Fields.put_of_not_mem (not_mem_keys_of_nodup hnodup)]
      simpa using hrest

theorem WritesFields.exists_append {fs : List (String × Json)} {cs : List Char}
    (h : WritesFields fs cs) : ∃ more, cs = more ++ ['\x7d'] := by
  induction h with
  | @last key v cs gap h hgap => exact ⟨cs ++ gap, (List.append_assoc ..).symm⟩
  | @cons key v fs cs gap gap' more h hgap hgap' hfs ih =>
      obtain ⟨more, rfl⟩ := ih
      exact ⟨cs ++ (gap ++ ',' :: (gap' ++ more)), by simp⟩

/-- An object is written between braces. -/
theorem WritesObject.exists_braces {fs : List (String × Json)} {cs : List Char}
    (h : WritesObject fs cs) : ∃ more, cs = '\x7b' :: (more ++ ['\x7d']) := by
  obtain ⟨gap, body, -, hbody, rfl⟩ := h
  obtain ⟨more, rfl⟩ := hbody.exists_append
  exact ⟨gap ++ more, by simp⟩

/-- However an object is written, it is read. -/
theorem readText_writes {fs : List (String × Json)} {cs : List Char} (h : WritesObject fs cs)
    (hfs : ∀ f ∈ fs, Sound f.1 ∧ SoundTexts f.2) (hnodup : (fs.map (·.1)).Nodup) :
    readText cs = .ok (.obj fs) := by
  obtain ⟨gap, body, hgap, hbody, rfl⟩ := h
  have hfields : readFields (2 * (gap ++ body).length + 3) 979 [] (body ++ []) = .ok (fs, []) :=
    readFields_writes hbody hfs hnodup (by simp only [List.length_append]; omega)
  obtain ⟨more, rfl⟩ := hbody.exists_cons
  rw [List.append_nil] at hfields
  have hvalue : readValue (2 * ('\x7b' :: (gap ++ '"' :: more)).length + 2) depthLimit
      ('\x7b' :: (gap ++ '"' :: more)) = .ok (.obj fs, []) := readValue_fields hgap hfields
  rw [readText, if_neg (by simp), readWhole, skipBlanks_cons rfl, hvalue]
  rfl

/-! ## The way of the writer -/

theorem Spells.unitEscape {n : Nat} (hn : n < 0x10000) {ps : List Nat} {cs : List Char}
    (h : Spells ps cs) : Spells (n :: ps) (unitEscape n ++ cs) := by
  rw [Json.unitEscape, hexDigits_four]
  exact .unit (codeUnit?_hexDigits hn) h

theorem Spells.letter_of_toNat {c e ch : Char} (he : simpleEscape? e = some ch)
    (hc : c.toNat = ch.toNat) {ps : List Nat} {cs : List Char} (h : Spells ps cs) :
    Spells (c.toNat :: ps) (['\\', e] ++ cs) := by
  rw [hc]
  exact .letter he h

theorem Spells.escapeChar (c : Char) {ps : List Nat} {cs : List Char} (h : Spells ps cs) :
    Spells (c.toNat :: ps) (escapeChar c ++ cs) := by
  have hlt := Text.toNat_lt c
  unfold Json.escapeChar
  -- the escapes of one letter
  split
  · next hc => exact .letter_of_toNat rfl (by rw [beq_iff_eq.mp hc]) h
  split
  · next hc => exact .letter_of_toNat rfl (by rw [beq_iff_eq.mp hc]) h
  split
  · next hc => exact .letter_of_toNat rfl (by rw [beq_iff_eq.mp hc]) h
  split
  · next hc => exact .letter_of_toNat rfl (by rw [beq_iff_eq.mp hc]) h
  split
  · next hc => exact .letter_of_toNat rfl (by rw [beq_iff_eq.mp hc]) h
  split
  · next hc => exact .letter_of_toNat rfl (beq_iff_eq.mp hc) h
  split
  · next hc => exact .letter_of_toNat rfl (beq_iff_eq.mp hc) h
  split
  -- printable characters
  · next hq hb _ _ _ _ _ hc =>
      simp only [Bool.and_eq_true, decide_eq_true_eq] at hc
      have hmark : c ≠ Text.mark := Text.ne_mark_of_toNat (by omega)
      have hhold := Text.hold_toNat hmark
      rw [← hhold]
      exact .plain hc.1 (fun h => hq (by simpa using Char.toNat_inj.mp h))
        (fun h => hb (by simpa using Char.toNat_inj.mp h)) h
  split
  -- one code unit, and two of them
  · next hc => exact .unitEscape hc h
  · next hc =>
      have hhigh : 0xd800 + (c.toNat - 0x10000) / 0x400 < 0x10000 := by omega
      have hlow : 0xdc00 + (c.toNat - 0x10000) % 0x400 < 0x10000 := by omega
      simp only [Json.unitEscape, hexDigits_four]
      exact .pair (by omega) (codeUnit?_hexDigits hhigh) (codeUnit?_hexDigits hlow) h

theorem spells_flatMap_escapePoint {ps : List Nat} (hps : ∀ p ∈ ps, p < 0x110000) :
    Spells ps (ps.flatMap escapePoint) := by
  induction ps with
  | nil => exact .nil
  | cons p ps ih =>
      have h := ih fun q hq => hps q (List.mem_cons_of_mem p hq)
      have hp := hps p (by simp)
      rw [List.flatMap_cons]
      unfold escapePoint
      split
      · next hhalf =>
          simp only [isHalf, Bool.and_eq_true, decide_eq_true_eq] at hhalf
          exact .unitEscape (by omega) h
      · next hhalf =>
          simp only [isHalf, Bool.and_eq_true, decide_eq_true_eq] at hhalf
          have hn : (Char.ofNat p).toNat = p := Text.toNat_ofNat (by unfold Nat.isValidChar; omega)
          have hchar := h.escapeChar (Char.ofNat p)
          rwa [hn] at hchar

theorem quotes_quoted {s : String} (hs : Sound s) : Quotes s (quoted s) :=
  ⟨_, spells_flatMap_escapePoint hs.points.1.lt, rfl⟩

theorem writesItems_itemChars (layout : Layout) (k : Nat) {s : String} {ss : List String}
    (hss : ∀ t ∈ s :: ss, Sound t) :
    WritesItems (s :: ss) (quoted s ++ itemChars layout k (ss.map .str)) := by
  induction ss generalizing s with
  | nil => exact .last (quotes_quoted (hss s (by simp))) isBlank_of_mem_newline
  | cons t ss ih =>
      obtain ⟨gap, hsep, hgap⟩ := separator_eq layout (k + 1)
      have hmore := ih fun u hu => hss u (List.mem_cons_of_mem s hu)
      have hcons : WritesItems (s :: t :: ss) (quoted s ++ ([] ++ ',' :: (gap ++
          (quoted t ++ itemChars layout k (ss.map .str))))) :=
        .cons (quotes_quoted (hss s (by simp))) (by simp [Blanks]) hgap hmore
      rw [List.map_cons, itemChars, hsep, chars]
      simpa using hcons

/-- A text or a list of texts. -/
def Textual (v : Json) : Prop := (∃ s, v = .str s) ∨ ∃ ss : List String, v = .arr (ss.map .str)

theorem writes_chars (layout : Layout) (k : Nat) {v : Json} (hv : Textual v) (hs : SoundTexts v) :
    Writes v (chars layout k v) := by
  rcases hv with ⟨s, rfl⟩ | ⟨ss, rfl⟩
  · rw [chars]
    exact .text (quotes_quoted hs)
  · cases ss with
    | nil =>
        have hempty : Writes (.arr []) ('[' :: ([] ++ [']'])) := .empty (by simp [Blanks])
        rw [List.map_nil, chars]
        exact hempty
    | cons s ss =>
        have hitems : WritesItems (s :: ss) (quoted s ++ itemChars layout k (ss.map .str)) :=
          writesItems_itemChars layout k fun t ht => hs t (List.mem_map_of_mem ht)
        have hlist : Writes (.arr ((s :: ss).map .str)) ('[' :: (layout.newline (k + 1) ++ _)) :=
          .list isBlank_of_mem_newline hitems
        rw [List.map_cons, chars, chars]
        simpa using hlist

theorem writesField_chars (layout : Layout) (k : Nat) {key : String} {v : Json} (hkey : Sound key)
    (hv : Textual v) (hs : SoundTexts v) :
    WritesField key v (quoted key ++ (": ".toList ++ chars layout k v)) :=
  ⟨_, [], [' '], _, quotes_quoted hkey, by simp [Blanks], by simp [Blanks, isBlank],
    writes_chars layout k hv hs, rfl⟩

theorem writesFields_fieldChars (layout : Layout) (k : Nat) {key : String} {v : Json}
    {fs : List (String × Json)}
    (hfs : ∀ f ∈ (key, v) :: fs, Sound f.1 ∧ Textual f.2 ∧ SoundTexts f.2) :
    WritesFields ((key, v) :: fs) (quoted key ++ (": ".toList ++ chars layout (k + 1) v) ++
      fieldChars layout k fs) := by
  obtain ⟨hkey, hv, hs⟩ := hfs (key, v) (by simp)
  induction fs generalizing key v with
  | nil => exact .last (writesField_chars layout (k + 1) hkey hv hs) isBlank_of_mem_newline
  | cons f fs ih =>
      obtain ⟨gap, hsep, hgap⟩ := separator_eq layout (k + 1)
      obtain ⟨key', v'⟩ := f
      obtain ⟨hkey', hv', hs'⟩ := hfs (key', v') (by simp)
      have hmore := ih (fun g hg => hfs g (List.mem_cons_of_mem _ hg)) hkey' hv' hs'
      have hcons : WritesFields ((key, v) :: (key', v') :: fs)
          (quoted key ++ (": ".toList ++ chars layout (k + 1) v) ++ ([] ++ ',' :: (gap ++ _))) :=
        .cons (writesField_chars layout (k + 1) hkey hv hs) (by simp [Blanks]) hgap hmore
      rw [fieldChars, hsep]
      simpa using hcons

/-- What is written of such an object is one of the ways to write it. -/
theorem writesObject_chars (layout : Layout) {f : String × Json} {fs : List (String × Json)}
    (hfs : ∀ g ∈ f :: fs, Sound g.1 ∧ Textual g.2 ∧ SoundTexts g.2) :
    WritesObject (f :: fs) (chars layout 0 (.obj (f :: fs))) := by
  refine ⟨layout.newline 1, _, isBlank_of_mem_newline, writesFields_fieldChars layout 0 hfs, ?_⟩
  rw [chars]
  simp

end Persona.Json
