import Persona.Proofs.Fields
import Persona.Proofs.Json.Numerals
import Persona.Proofs.Json.Quoting

/-!
# Written values are read back

A value without doubles, with sound texts and within the limits of the reader, is read back as it
was written, on one line or on indented lines. Objects keep the order of their fields, so reading
gives the same value and not only an equal one.

The section is layered like the writer: blanks and first characters, scalars, and then values,
items and fields together, each with enough fuel and with anything behind it that does not go on
with a number.

Main statements:

* `readText_chars`, `decode_encode`, `decode_encodeIndented`: what is written is read back;
* `allows_of_mem_chars`: what is written consists of printable characters and line ends.
-/

namespace Persona.Json

/-! ## Values that can be read back -/

mutual

/-- A value without doubles, all of whose texts are sound. -/
def Plain : Json → Prop
  | null => True
  | bool _ => True
  | int _ => True
  | float _ => False
  | str s => Text.Sound s
  | arr xs => PlainItems xs
  | obj fs => PlainFields fs

def PlainItems : List Json → Prop
  | [] => True
  | x :: xs => x.Plain ∧ PlainItems xs

def PlainFields : List (String × Json) → Prop
  | [] => True
  | (k, v) :: fs => Text.Sound k ∧ v.Plain ∧ PlainFields fs

end

mutual

/-- A value within the limits of the reader: at most so many levels deep, with whole numbers of not
too many digits and without two fields of the same name. -/
def Within : Nat → Json → Prop
  | _, int n => n.natAbs < Number.tenPow Text.digitLimit
  | depth + 1, arr xs => WithinItems depth xs
  | depth + 1, obj fs => (fs.map (·.1)).Nodup ∧ WithinFields depth fs
  | 0, arr _ => False
  | 0, obj _ => False
  | _, _ => True

def WithinItems : Nat → List Json → Prop
  | _, [] => True
  | depth, x :: xs => x.Within depth ∧ WithinItems depth xs

def WithinFields : Nat → List (String × Json) → Prop
  | _, [] => True
  | depth, (_, v) :: fs => v.Within depth ∧ WithinFields depth fs

end

theorem exists_depth_of_within_arr {depth : Nat} {xs : List Json} (h : (arr xs).Within depth) :
    ∃ d, depth = d + 1 := by
  cases depth with
  | zero => rw [Within] at h; exact h.elim
  | succ depth => exact ⟨depth, rfl⟩

theorem exists_depth_of_within_obj {depth : Nat} {fs : List (String × Json)}
    (h : (obj fs).Within depth) : ∃ d, depth = d + 1 := by
  cases depth with
  | zero => rw [Within] at h; exact h.elim
  | succ depth => exact ⟨depth, rfl⟩

/- A value that lies within a depth lies within every greater one. -/
mutual

theorem Within.mono : {v : Json} → {k l : Nat} → k ≤ l → v.Within k → v.Within l
  | null, _, l, _, _ => by cases l <;> trivial
  | bool _, _, l, _, _ => by cases l <;> trivial
  | float _, _, l, _, _ => by cases l <;> trivial
  | str _, _, l, _, _ => by cases l <;> trivial
  | int _, k, l, _, h => by cases k <;> cases l <;> exact h
  | arr xs, k, l, hle, h => by
      obtain ⟨k, rfl⟩ := exists_depth_of_within_arr h
      obtain ⟨l, rfl⟩ := Nat.exists_eq_add_of_le' (Nat.le_trans (Nat.le_add_left 1 k) hle)
      rw [Within] at h ⊢
      exact h.mono (Nat.le_of_succ_le_succ hle)
  | obj fs, k, l, hle, h => by
      obtain ⟨k, rfl⟩ := exists_depth_of_within_obj h
      obtain ⟨l, rfl⟩ := Nat.exists_eq_add_of_le' (Nat.le_trans (Nat.le_add_left 1 k) hle)
      rw [Within] at h ⊢
      exact ⟨h.1, h.2.mono (Nat.le_of_succ_le_succ hle)⟩

theorem WithinItems.mono : {xs : List Json} → {k l : Nat} → k ≤ l → WithinItems k xs →
    WithinItems l xs
  | [], _, _, _, _ => trivial
  | _ :: _, _, _, hle, h => ⟨Within.mono hle h.1, WithinItems.mono hle h.2⟩

theorem WithinFields.mono : {fs : List (String × Json)} → {k l : Nat} → k ≤ l →
    WithinFields k fs → WithinFields l fs
  | [], _, _, _, _ => trivial
  | (_, _) :: _, _, _, hle, h => ⟨Within.mono hle h.1, WithinFields.mono hle h.2⟩

end

/-! ## Blanks and first characters -/

theorem skipBlanks_cons {c : Char} (hc : isBlank c = false) (cs : List Char) :
    skipBlanks (c :: cs) = c :: cs :=
  List.dropWhile_cons_of_neg (by simp [hc])

/-- The blanks of a layout are skipped. -/
theorem skipBlanks_append {gap : List Char} (hgap : ∀ c ∈ gap, isBlank c = true) {c : Char}
    (hc : isBlank c = false) (cs : List Char) : skipBlanks (gap ++ c :: cs) = c :: cs := by
  rw [skipBlanks, List.dropWhile_append_of_pos hgap]
  exact skipBlanks_cons hc cs

theorem isBlank_of_mem_newline {layout : Layout} {depth : Nat} :
    ∀ c ∈ layout.newline depth, isBlank c = true := by
  intro c hc
  cases layout with
  | line => cases hc
  | indented =>
      rcases List.mem_cons.mp hc with rfl | hc
      · rfl
      · rw [List.eq_of_mem_replicate hc]
        rfl

/-- A separator is a comma and blanks. -/
theorem separator_eq (layout : Layout) (depth : Nat) :
    ∃ gap, layout.separator depth = ',' :: gap ∧ ∀ c ∈ gap, isBlank c = true := by
  cases layout with
  | line => exact ⟨[' '], rfl, by simp [isBlank]⟩
  | indented => exact ⟨_, rfl, isBlank_of_mem_newline⟩

theorem not_isBlank_of_isAsciiDigit {c : Char} (h : isAsciiDigit c = true) :
    isBlank c = false ∧ c ≠ ']' ∧ c ≠ '"' ∧ c ≠ '\x7b' ∧ c ≠ '[' ∧ c ≠ '-' := by
  refine ⟨?_, ?_, ?_, ?_, ?_, ?_⟩
  · simp only [isBlank, Bool.or_eq_false_iff, beq_eq_false_iff_ne]
    refine ⟨⟨⟨?_, ?_⟩, ?_⟩, ?_⟩ <;> (rintro rfl; cases h)
  all_goals (rintro rfl; cases h)

theorem isPrintable_of_isAsciiDigit {c : Char} (h : isAsciiDigit c = true) :
    isPrintable c = true := by
  simp only [isAsciiDigit, Bool.and_eq_true, decide_eq_true_eq, Char.le_def, UInt32.le_iff_toNat_le]
    at h
  simp only [isPrintable, Bool.and_eq_true, decide_eq_true_eq]
  have h1 : '0'.val.toNat = 48 := rfl
  have h2 : '9'.val.toNat = 57 := rfl
  have h3 : c.toNat = c.val.toNat := rfl
  omega

theorem intText_cases (n : Int) :
    ∃ c cs, isAsciiDigit c = true ∧
      ((Number.intText n).toList = c :: cs ∨ (Number.intText n).toList = '-' :: c :: cs) := by
  obtain ⟨c, cs, hcs, hc⟩ := exists_cons_natText n.natAbs
  refine ⟨c, cs, hc, ?_⟩
  unfold Number.intText
  split
  · right
    rw [String.toList_append, hcs]
    rfl
  · exact .inl hcs

/-- A value starts with a printable character that is neither a blank nor a closing bracket. -/
theorem exists_cons_chars (layout : Layout) (depth : Nat) {v : Json} (hv : v.Plain) :
    ∃ c cs, chars layout depth v = c :: cs ∧ isBlank c = false ∧ c ≠ ']' ∧
      isPrintable c = true := by
  cases v with
  | null => exact ⟨'n', _, by rw [chars]; rfl, rfl, by decide, rfl⟩
  | bool b =>
      cases b with
      | false => exact ⟨'f', _, by rw [chars]; rfl, rfl, by decide, rfl⟩
      | true => exact ⟨'t', _, by rw [chars]; rfl, rfl, by decide, rfl⟩
  | int n =>
      rw [chars]
      obtain ⟨c, cs, hc, hn | hn⟩ := intText_cases n
      · obtain ⟨hblank, hclose, -⟩ := not_isBlank_of_isAsciiDigit hc
        exact ⟨c, cs, hn, hblank, hclose, isPrintable_of_isAsciiDigit hc⟩
      · exact ⟨'-', c :: cs, hn, rfl, by decide, rfl⟩
  | float x => cases hv
  | str s => exact ⟨'"', _, by rw [chars, quoted]; rfl, rfl, by decide, rfl⟩
  | arr xs =>
      cases xs with
      | nil => exact ⟨'[', _, by rw [chars]; rfl, rfl, by decide, rfl⟩
      | cons x xs => exact ⟨'[', _, by rw [chars]; rfl, rfl, by decide, rfl⟩
  | obj fs =>
      cases fs with
      | nil => exact ⟨'\x7b', _, by rw [chars], rfl, by decide, rfl⟩
      | cons f fs => exact ⟨'\x7b', _, by rw [chars]; rfl, rfl, by decide, rfl⟩

/-! ## Scalars -/

theorem readWord?_null (rest : List Char) :
    readWord? ("null".toList ++ rest) = some (null, rest) := by
  simp only [readWord?, words, word?, List.findSome?_cons, String.reduceToList, List.cons_append,
    List.nil_append, List.isPrefixOf, beq_self_eq_true, Bool.and_self, if_true, Option.map_some]
  rfl

theorem readWord?_bool (b : Bool) (rest : List Char) :
    readWord? ((if b then "true" else "false").toList ++ rest) = some (bool b, rest) := by
  cases b with
  | false => rfl
  | true => rfl

/-- No word starts with a digit. -/
theorem readWord?_of_isAsciiDigit {c : Char} (hc : isAsciiDigit c = true) (cs : List Char) :
    readWord? (c :: cs) = none := by
  have hne : ∀ d ∈ ['n', 't', 'f', 'N', 'I', '-'], (d == c) = false := by
    intro d hd
    rw [beq_eq_false_iff_ne]
    rintro rfl
    simp only [List.mem_cons, List.not_mem_nil, or_false] at hd
    rcases hd with rfl | rfl | rfl | rfl | rfl | rfl <;> cases hc
  simp only [List.mem_cons, List.not_mem_nil, or_false, forall_eq_or_imp, forall_eq] at hne
  simp only [readWord?, words, word?, List.findSome?_cons, List.findSome?_nil, Option.map,
    List.isPrefixOf, String.reduceToList, hne]
  rfl

/-- No word goes on with a digit after a minus. -/
theorem readWord?_of_minus {c : Char} (hc : isAsciiDigit c = true) (cs : List Char) :
    readWord? ('-' :: c :: cs) = none := by
  have hI : ('I' == c) = false := by
    rw [beq_eq_false_iff_ne]
    rintro rfl
    cases hc
  simp only [readWord?, words, word?, List.findSome?_cons, List.findSome?_nil, Option.map,
    List.isPrefixOf, String.reduceToList, hI]
  rfl

theorem readValue_word {fuel depth : Nat} {c : Char} {cs rest : List Char} {v : Json}
    (hq : c ≠ '"') (ho : c ≠ '\x7b') (ha : c ≠ '[')
    (h : readWord? (c :: cs) = some (v, rest)) :
    readValue (fuel + 1) depth (c :: cs) = .ok (v, rest) := by
  rw [readValue.eq_def]
  simp only [beq_iff_eq, hq, ho, ha, if_false, h]

theorem readValue_number {fuel depth : Nat} {c : Char} {cs : List Char}
    (hq : c ≠ '"') (ho : c ≠ '\x7b') (ha : c ≠ '[') (h : readWord? (c :: cs) = none) :
    readValue (fuel + 1) depth (c :: cs) = readNumber (c :: cs) := by
  rw [readValue.eq_def]
  simp only [beq_iff_eq, hq, ho, ha, if_false, h]

theorem readValue_intText {fuel depth : Nat} {n : Int}
    (hn : n.natAbs < Number.tenPow Text.digitLimit) {rest : List Char} (hrest : EndsNumber rest) :
    readValue (fuel + 1) depth ((Number.intText n).toList ++ rest) = .ok (.int n, rest) := by
  rw [← readNumber_intText hn hrest]
  obtain ⟨c, cs, hc, hcs | hcs⟩ := intText_cases n
  · obtain ⟨-, -, hq, ho, ha, -⟩ := not_isBlank_of_isAsciiDigit hc
    rw [hcs, List.cons_append]
    exact readValue_number hq ho ha (readWord?_of_isAsciiDigit hc _)
  · rw [hcs, List.cons_append, List.cons_append]
    exact readValue_number (by decide) (by decide) (by decide) (readWord?_of_minus hc _)

theorem readValue_quoted {fuel depth : Nat} {s : String} (hs : Text.Sound s) (rest : List Char) :
    readValue (fuel + 1) depth (quoted s ++ rest) = .ok (.str s, rest) := by
  rw [quoted_append, readValue.eq_def]
  simp only [beq_self_eq_true, if_true, readString_quoted hs]
  rfl

/-! ## Containers -/

theorem readValue_items {fuel depth : Nat} {gap cs rest : List Char} {c : Char} {xs : List Json}
    (hgap : ∀ c ∈ gap, isBlank c = true) (hc : isBlank c = false) (hclose : c ≠ ']')
    (h : readItems fuel depth (c :: cs) = .ok (xs, rest)) :
    readValue (fuel + 1) (depth + 1) ('[' :: (gap ++ c :: cs)) = .ok (arr xs, rest) := by
  rw [readValue.eq_def]
  simp only [beq_iff_eq, Char.reduceEq, if_false, if_true, skipBlanks_append hgap hc]
  split
  · next hd => cases hd
  · next hcs _ =>
      injection hcs with hcs
      exact absurd hcs hclose
  · next hd _ =>
      rw [← Nat.succ.inj hd, h]
      rfl

theorem readValue_fields {fuel depth : Nat} {gap cs rest : List Char}
    {fs : List (String × Json)} (hgap : ∀ c ∈ gap, isBlank c = true)
    (h : readFields fuel depth [] ('"' :: cs) = .ok (fs, rest)) :
    readValue (fuel + 1) (depth + 1) ('\x7b' :: (gap ++ '"' :: cs)) = .ok (obj fs, rest) := by
  rw [readValue.eq_def]
  simp only [beq_iff_eq, Char.reduceEq, if_false, if_true, skipBlanks_append (c := '"') hgap rfl]
  split
  · next hd => cases hd
  · next hcs _ => cases hcs
  · next hd _ =>
      rw [← Nat.succ.inj hd, h]
      rfl

theorem readItems_last {fuel depth : Nat} {cs gap rest : List Char} {x : Json}
    (hx : readValue fuel depth cs = .ok (x, gap ++ ']' :: rest))
    (hgap : ∀ c ∈ gap, isBlank c = true) :
    readItems (fuel + 1) depth cs = .ok ([x], rest) := by
  rw [readItems.eq_def]
  simp only [hx, bind, Except.bind, skipBlanks_append (c := ']') hgap rfl]
  rfl

theorem readItems_cons {fuel depth : Nat} {cs gap more rest : List Char} {c : Char} {x : Json}
    {xs : List Json} (hx : readValue fuel depth cs = .ok (x, ',' :: (gap ++ c :: more)))
    (hgap : ∀ c ∈ gap, isBlank c = true) (hc : isBlank c = false)
    (hxs : readItems fuel depth (c :: more) = .ok (xs, rest)) :
    readItems (fuel + 1) depth cs = .ok (x :: xs, rest) := by
  rw [readItems.eq_def]
  simp only [hx, bind, Except.bind, skipBlanks_cons (c := ',') rfl, skipBlanks_append hgap hc, hxs]
  rfl

theorem readFields_last {fuel depth : Nat} {acc : List (String × Json)} {key : String} {v : Json}
    {cs gap rest : List Char} {c : Char} (hkey : Text.Sound key) (hc : isBlank c = false)
    (hv : readValue fuel depth (c :: cs) = .ok (v, gap ++ '\x7d' :: rest))
    (hgap : ∀ c ∈ gap, isBlank c = true) :
    readFields (fuel + 1) depth acc (quoted key ++ (": ".toList ++ c :: cs)) =
      .ok (Fields.put acc key v, rest) := by
  have hcolon : ∀ d ∈ [' '], isBlank d = true := by simp [isBlank]
  rw [readFields.eq_def, quoted_append]
  simp only [readString_quoted hkey, bind, Except.bind, String.reduceToList, List.cons_append,
    List.nil_append, skipBlanks_cons (c := ':') rfl]
  rw [← List.singleton_append, skipBlanks_append hcolon hc]
  simp only [hv, skipBlanks_append (c := '\x7d') hgap rfl]
  rfl

theorem readFields_cons {fuel depth : Nat} {acc fs : List (String × Json)} {key : String}
    {v : Json} {cs gap more rest : List Char} {c : Char} (hkey : Text.Sound key)
    (hc : isBlank c = false)
    (hv : readValue fuel depth (c :: cs) = .ok (v, ',' :: (gap ++ '"' :: more)))
    (hgap : ∀ c ∈ gap, isBlank c = true)
    (hfs : readFields fuel depth (Fields.put acc key v) ('"' :: more) = .ok (fs, rest)) :
    readFields (fuel + 1) depth acc (quoted key ++ (": ".toList ++ c :: cs)) = .ok (fs, rest) := by
  have hcolon : ∀ d ∈ [' '], isBlank d = true := by simp [isBlank]
  rw [readFields.eq_def, quoted_append]
  simp only [readString_quoted hkey, bind, Except.bind, String.reduceToList, List.cons_append,
    List.nil_append, skipBlanks_cons (c := ':') rfl]
  rw [← List.singleton_append, skipBlanks_append hcolon hc]
  simp only [hv, skipBlanks_cons (c := ',') rfl, skipBlanks_append (c := '"') hgap rfl, hfs]

theorem endsNumber_of_isBlank {gap : List Char} (hgap : ∀ c ∈ gap, isBlank c = true) {c : Char}
    (hd : isAsciiDigit c = false) (hp : c ≠ '.') (he : c ≠ 'e') (hE : c ≠ 'E') (rest : List Char) :
    EndsNumber (gap ++ c :: rest) := by
  cases gap with
  | nil => exact endsNumber_cons hd hp he hE rest
  | cons b gap =>
      have hb := hgap b (by simp)
      simp only [isBlank, Bool.or_eq_true, beq_iff_eq] at hb
      rcases hb with ((rfl | rfl) | rfl) | rfl
      all_goals exact endsNumber_cons rfl (by decide) (by decide) (by decide) _

theorem chars_arr_append (layout : Layout) (k : Nat) (x : Json) (xs : List Json)
    (rest : List Char) :
    chars layout k (arr (x :: xs)) ++ rest =
      '[' :: (layout.newline (k + 1) ++
        (chars layout (k + 1) x ++ (itemChars layout k xs ++ rest))) := by
  simp [chars]

theorem chars_obj_append (layout : Layout) (k : Nat) (key : String) (v : Json)
    (fs : List (String × Json)) (rest : List Char) :
    chars layout k (obj ((key, v) :: fs)) ++ rest =
      '\x7b' :: (layout.newline (k + 1) ++
        (quoted key ++ (": ".toList ++
          (chars layout (k + 1) v ++ (fieldChars layout k fs ++ rest))))) := by
  simp [chars]

/-- A text that is no longer than the fuel leaves some of it for the first character. -/
theorem exists_fuel (layout : Layout) {k fuel : Nat} {v : Json} (hv : v.Plain)
    (h : (chars layout k v).length ≤ fuel) : ∃ f, fuel = f + 1 := by
  obtain ⟨c, cs, hcs, -⟩ := exists_cons_chars layout k hv
  rw [hcs, List.length_cons] at h
  exact ⟨fuel - 1, by omega⟩

theorem not_mem_keys_of_nodup {acc fs : List (String × Json)} {key : String} {v : Json}
    (h : ((acc ++ (key, v) :: fs).map (·.1)).Nodup) : key ∉ acc.map (·.1) := by
  rw [List.map_append, List.map_cons, List.nodup_append] at h
  intro hkey
  exact h.2.2 key hkey key (by simp) rfl

/-! ## Values, items and fields -/

/- Fuel as long as the text is enough: every call of the reader is paid for by a character that it
has taken. The lists go by their first element and the rest, as the writer does. -/
mutual

/-- A value is read back. -/
theorem readValue_chars (layout : Layout) :
    (v : Json) → {k depth fuel : Nat} → {rest : List Char} → v.Plain → v.Within depth →
    (chars layout k v).length ≤ fuel → EndsNumber rest →
    readValue fuel depth (chars layout k v ++ rest) = .ok (v, rest)
  | null, k, depth, fuel, rest, hplain, _, hfuel, _ => by
      obtain ⟨fuel, rfl⟩ := exists_fuel layout hplain hfuel
      rw [chars]
      exact readValue_word (by decide) (by decide) (by decide) (readWord?_null rest)
  | bool b, k, depth, fuel, rest, hplain, _, hfuel, _ => by
      obtain ⟨fuel, rfl⟩ := exists_fuel layout hplain hfuel
      have hword := readWord?_bool b rest
      rw [chars]
      cases b with
      | false => exact readValue_word (by decide) (by decide) (by decide) hword
      | true => exact readValue_word (by decide) (by decide) (by decide) hword
  | int n, k, depth, fuel, rest, hplain, hwithin, hfuel, hrest => by
      obtain ⟨fuel, rfl⟩ := exists_fuel layout hplain hfuel
      rw [Within] at hwithin
      rw [chars]
      exact readValue_intText hwithin hrest
  | float _, _, _, _, _, hplain, _, _, _ => by cases hplain
  | str s, k, depth, fuel, rest, hplain, _, hfuel, _ => by
      obtain ⟨fuel, rfl⟩ := exists_fuel layout hplain hfuel
      rw [chars]
      exact readValue_quoted hplain rest
  | arr [], k, depth, fuel, rest, hplain, hwithin, hfuel, _ => by
      obtain ⟨fuel, rfl⟩ := exists_fuel layout hplain hfuel
      obtain ⟨depth, rfl⟩ := exists_depth_of_within_arr hwithin
      rw [chars, readValue.eq_def]
      rfl
  | arr (x :: xs), k, depth, fuel, rest, hplain, hwithin, hfuel, _ => by
      obtain ⟨fuel, rfl⟩ := exists_fuel layout hplain hfuel
      obtain ⟨depth, rfl⟩ := exists_depth_of_within_arr hwithin
      rw [Plain, PlainItems] at hplain
      rw [Within, WithinItems] at hwithin
      rw [chars_arr_append]
      have hlength : (chars layout (k + 1) x).length + (itemChars layout k xs).length ≤ fuel := by
        simp only [chars, List.cons_append, List.length_cons, List.length_append] at hfuel
        omega
      have hitems : readItems fuel depth (chars layout (k + 1) x ++
          (itemChars layout k xs ++ rest)) = .ok (x :: xs, rest) :=
        readItems_chars layout x xs hplain.1 hplain.2 hwithin.1 hwithin.2 hlength
      obtain ⟨c, cs, hcs, hc, hclose, -⟩ := exists_cons_chars layout (k + 1) hplain.1
      rw [hcs, List.cons_append] at hitems ⊢
      exact readValue_items isBlank_of_mem_newline hc hclose hitems
  | obj [], k, depth, fuel, rest, hplain, hwithin, hfuel, _ => by
      obtain ⟨fuel, rfl⟩ := exists_fuel layout hplain hfuel
      obtain ⟨depth, rfl⟩ := exists_depth_of_within_obj hwithin
      rw [chars, readValue.eq_def]
      rfl
  | obj ((key, v) :: fs), k, depth, fuel, rest, hplain, hwithin, hfuel, _ => by
      obtain ⟨fuel, rfl⟩ := exists_fuel layout hplain hfuel
      obtain ⟨depth, rfl⟩ := exists_depth_of_within_obj hwithin
      rw [Plain, PlainFields] at hplain
      rw [Within, WithinFields] at hwithin
      rw [chars_obj_append]
      have hlength : (quoted key).length + (chars layout (k + 1) v).length +
          (fieldChars layout k fs).length ≤ fuel := by
        simp only [chars, List.cons_append, List.length_cons, List.length_append] at hfuel
        omega
      have hfields : readFields fuel depth [] (quoted key ++ (": ".toList ++
          (chars layout (k + 1) v ++ (fieldChars layout k fs ++ rest)))) =
            .ok ([] ++ (key, v) :: fs, rest) :=
        readFields_chars layout key v fs hplain.1 hplain.2.1 hplain.2.2 hwithin.2.1 hwithin.2.2
          hwithin.1 hlength
      rw [quoted_append] at hfields ⊢
      exact readValue_fields isBlank_of_mem_newline hfields
termination_by v => sizeOf v

/-- The items of a list are read back. -/
theorem readItems_chars (layout : Layout) :
    (x : Json) → (xs : List Json) → {k depth fuel : Nat} → {rest : List Char} →
    x.Plain → PlainItems xs → x.Within depth → WithinItems depth xs →
    (chars layout (k + 1) x).length + (itemChars layout k xs).length ≤ fuel →
    readItems fuel depth (chars layout (k + 1) x ++ (itemChars layout k xs ++ rest)) =
      .ok (x :: xs, rest)
  | x, [], k, depth, fuel, rest, hx, _, hwx, _, hfuel => by
      rw [itemChars, List.length_append, List.length_singleton] at hfuel
      obtain ⟨fuel, rfl⟩ : ∃ f, fuel = f + 1 := ⟨fuel - 1, by omega⟩
      rw [itemChars, List.append_assoc, List.singleton_append]
      have hrest : EndsNumber (layout.newline k ++ ']' :: rest) :=
        endsNumber_of_isBlank isBlank_of_mem_newline rfl (by decide) (by decide) (by decide) rest
      exact readItems_last (readValue_chars layout x hx hwx (by omega) hrest)
        isBlank_of_mem_newline
  | x, y :: ys, k, depth, fuel, rest, hx, hxs, hwx, hwxs, hfuel => by
      obtain ⟨gap, hsep, hgap⟩ := separator_eq layout (k + 1)
      rw [PlainItems] at hxs
      rw [WithinItems] at hwxs
      rw [itemChars, hsep] at hfuel ⊢
      simp only [List.cons_append, List.length_cons, List.length_append] at hfuel
      obtain ⟨fuel, rfl⟩ : ∃ f, fuel = f + 1 := ⟨fuel - 1, by omega⟩
      have hys : readItems fuel depth (chars layout (k + 1) y ++
          (itemChars layout k ys ++ rest)) = .ok (y :: ys, rest) :=
        readItems_chars layout y ys hxs.1 hxs.2 hwxs.1 hwxs.2 (by omega)
      have hvalue : readValue fuel depth (chars layout (k + 1) x ++ ',' :: (gap ++
          (chars layout (k + 1) y ++ (itemChars layout k ys ++ rest)))) = .ok (x, _) :=
        readValue_chars layout x hx hwx (by omega)
          (endsNumber_cons rfl (by decide) (by decide) (by decide) _)
      obtain ⟨c, cs, hcs, hc, -⟩ := exists_cons_chars layout (k + 1) hxs.1
      simp only [List.cons_append, List.append_assoc]
      rw [hcs, List.cons_append] at hys hvalue ⊢
      exact readItems_cons hvalue hgap hc hys
termination_by x xs => sizeOf x + sizeOf xs

/-- The fields of an object are read back, behind those that were read before. -/
theorem readFields_chars (layout : Layout) :
    (key : String) → (v : Json) → (fs : List (String × Json)) → {k depth fuel : Nat} →
    {acc : List (String × Json)} → {rest : List Char} →
    Text.Sound key → v.Plain → PlainFields fs → v.Within depth → WithinFields depth fs →
    ((acc ++ (key, v) :: fs).map (·.1)).Nodup →
    (quoted key).length + (chars layout (k + 1) v).length + (fieldChars layout k fs).length ≤
      fuel →
    readFields fuel depth acc (quoted key ++ (": ".toList ++
      (chars layout (k + 1) v ++ (fieldChars layout k fs ++ rest)))) =
      .ok (acc ++ (key, v) :: fs, rest)
  | key, v, [], k, depth, fuel, acc, rest, hkey, hv, _, hwv, _, hnodup, hfuel => by
      rw [fieldChars, List.length_append, List.length_singleton] at hfuel
      obtain ⟨fuel, rfl⟩ : ∃ f, fuel = f + 1 := ⟨fuel - 1, by omega⟩
      rw [fieldChars, List.append_assoc, List.singleton_append]
      have hvalue : readValue fuel depth (chars layout (k + 1) v ++
          (layout.newline k ++ '\x7d' :: rest)) = .ok (v, _) :=
        readValue_chars layout v hv hwv (by omega)
          (endsNumber_of_isBlank isBlank_of_mem_newline rfl (by decide) (by decide) (by decide)
            rest)
      obtain ⟨c, cs, hcs, hc, -⟩ := exists_cons_chars layout (k + 1) hv
      rw [hcs, List.cons_append] at hvalue ⊢
      rw [readFields_last hkey hc hvalue isBlank_of_mem_newline,
        Fields.put_of_not_mem (not_mem_keys_of_nodup hnodup)]
  | key, v, (key', v') :: fs, k, depth, fuel, acc, rest, hkey, hv, hfs, hwv, hwfs, hnodup,
      hfuel => by
      obtain ⟨gap, hsep, hgap⟩ := separator_eq layout (k + 1)
      rw [PlainFields] at hfs
      rw [WithinFields] at hwfs
      rw [fieldChars, hsep] at hfuel ⊢
      simp only [List.cons_append, List.length_cons, List.length_append] at hfuel
      obtain ⟨fuel, rfl⟩ : ∃ f, fuel = f + 1 := ⟨fuel - 1, by omega⟩
      have hput : Fields.put acc key v = acc ++ [(key, v)] :=
        Fields.put_of_not_mem (not_mem_keys_of_nodup hnodup) v
      have hmore : readFields fuel depth (acc ++ [(key, v)]) (quoted key' ++ (": ".toList ++
          (chars layout (k + 1) v' ++ (fieldChars layout k fs ++ rest)))) =
            .ok (acc ++ [(key, v)] ++ (key', v') :: fs, rest) :=
        readFields_chars layout key' v' fs hfs.1 hfs.2.1 hfs.2.2 hwfs.1 hwfs.2
          (by simpa using hnodup) (by omega)
      have hvalue : readValue fuel depth (chars layout (k + 1) v ++ ',' :: (gap ++ (quoted key' ++
          (": ".toList ++ (chars layout (k + 1) v' ++ (fieldChars layout k fs ++ rest)))))) =
            .ok (v, _) :=
        readValue_chars layout v hv hwv (by omega)
          (endsNumber_cons rfl (by decide) (by decide) (by decide) _)
      obtain ⟨c, cs, hcs, hc, -⟩ := exists_cons_chars layout (k + 1) hv
      simp only [List.cons_append, List.append_assoc] at hmore ⊢
      rw [hcs, List.cons_append] at hvalue ⊢
      rw [quoted_append key'] at hmore hvalue ⊢
      exact readFields_cons hkey hc hvalue hgap (hput ▸ hmore)
termination_by _ v fs => sizeOf v + sizeOf fs

end

/-! ## Printable characters -/

theorem isPrintable_of_mem_intText (n : Int) :
    ∀ c ∈ (Number.intText n).toList, isPrintable c = true := by
  have hnat (m : Nat) : ∀ c ∈ (Number.natText m).toList, isPrintable c = true := fun c hc =>
    isPrintable_of_isAsciiDigit (isAsciiDigit_of_mem_natText m c hc)
  unfold Number.intText
  split
  · intro c hc
    rw [String.toList_append, List.mem_append] at hc
    rcases hc with hc | hc
    · simp only [String.reduceToList, List.mem_singleton] at hc
      subst hc
      rfl
    · exact hnat _ c hc
  · exact hnat _

/-- A character that a written value can hold: a printable one, or the line end of the layout. -/
def Layout.Allows (layout : Layout) (c : Char) : Prop :=
  isPrintable c = true ∨ c ∈ layout.newline 0

theorem allows_of_mem_newline {layout : Layout} {depth : Nat} :
    ∀ c ∈ layout.newline depth, layout.Allows c := by
  intro c hc
  cases layout with
  | line => cases hc
  | indented =>
      rcases List.mem_cons.mp hc with rfl | hc
      · exact .inr List.mem_cons_self
      · rw [List.eq_of_mem_replicate hc]
        exact .inl rfl

theorem allows_of_mem_separator {layout : Layout} {depth : Nat} :
    ∀ c ∈ layout.separator depth, layout.Allows c := by
  intro c hc
  cases layout with
  | line => exact .inl (List.all_eq_true.mp (by decide : [',', ' '].all isPrintable = true) c hc)
  | indented =>
      rcases List.mem_cons.mp hc with rfl | hc
      · exact .inl rfl
      · exact allows_of_mem_newline c hc

theorem isPrintable_of_mem_digits {ds : List Nat} (hds : ∀ d ∈ ds, d < 10) :
    ∀ c ∈ ds.map Number.digitChar, isPrintable c = true := fun c hc =>
  isPrintable_of_isAsciiDigit (isAsciiDigit_of_mem_map hds c hc)

theorem isPrintable_of_mem_replicate {n : Nat} :
    ∀ c ∈ List.replicate n '0', isPrintable c = true := by
  intro c hc
  rw [List.eq_of_mem_replicate hc]
  rfl

/-- A decimal in either notation. -/
theorem isPrintable_of_mem_decimal {d : Number.Decimal} (hd : ∀ n ∈ d.digits, n < 10) :
    ∀ c ∈ d.text.toList, isPrintable c = true := by
  have hdigits := isPrintable_of_mem_digits hd
  have hsize := isPrintable_of_mem_digits
    (Number.lt_ten_of_mem_digitsOf (n := (d.point - 1).natAbs))
  unfold Number.Decimal.text
  dsimp only
  generalize d.digits.map Number.digitChar = ds at hdigits
  split_ifs
  · exact List.all_eq_true.mp (by decide)
  · simp only [String.toList_ofList, List.forall_mem_append]
    exact ⟨⟨List.all_eq_true.mp (by decide), isPrintable_of_mem_replicate⟩, hdigits⟩
  · simp only [String.toList_ofList, List.forall_mem_append]
    exact ⟨⟨⟨fun c hc => hdigits c (List.mem_of_mem_take hc), isPrintable_of_mem_replicate⟩,
      List.all_eq_true.mp (by decide)⟩, List.all_eq_true.mp (by decide)⟩
  · simp only [String.toList_ofList, List.forall_mem_append]
    exact ⟨⟨⟨fun c hc => hdigits c (List.mem_of_mem_take hc), isPrintable_of_mem_replicate⟩,
      List.all_eq_true.mp (by decide)⟩, fun c hc => hdigits c (List.mem_of_mem_drop hc)⟩
  all_goals
    simp only [String.toList_ofList, List.forall_mem_append]
    refine ⟨⟨⟨?_, List.all_eq_true.mp (by decide)⟩, isPrintable_of_mem_replicate⟩, hsize⟩
    rcases ds with - | ⟨d, - | ⟨e, ds⟩⟩
    · exact fun c hc => by cases hc
    · exact hdigits
    · rw [List.forall_mem_cons] at hdigits ⊢
      exact ⟨hdigits.1, List.forall_mem_cons.mpr ⟨rfl, hdigits.2⟩⟩

theorem isPrintable_of_mem_floatChars (x : Float) :
    ∀ c ∈ floatChars x, isPrintable c = true := by
  unfold floatChars Number.floatText
  cases Number.parts x with
  | nan => exact List.all_eq_true.mp (by decide)
  | infinite negative => cases negative <;> exact List.all_eq_true.mp (by decide)
  | finite negative m e =>
      have hshortest : ∀ d ∈ (Number.shortest m e).digits, d < 10 := by
        unfold Number.shortest
        split
        · exact fun d hd => by cases hd
        · intro d hd
          rw [List.mem_reverse] at hd
          exact Number.lt_ten_of_mem_digitsOf d
            (List.mem_reverse.mp ((List.dropWhile_sublist _).mem hd))
      dsimp only
      rw [String.toList_append, List.forall_mem_append]
      refine ⟨?_, isPrintable_of_mem_decimal hshortest⟩
      cases negative <;> exact List.all_eq_true.mp (by decide)

/- A value consists of printable characters and line ends: these are what separates its parts, and
its texts are escaped. -/
mutual

theorem allows_of_mem_chars (layout : Layout) : (v : Json) → {k : Nat} →
    ∀ c ∈ chars layout k v, layout.Allows c
  | null, k => by
      rw [chars]
      exact fun c hc => .inl (List.all_eq_true.mp (by decide) c hc)
  | bool b, k => by
      rw [chars]
      cases b <;> exact fun c hc => .inl (List.all_eq_true.mp (by decide) c hc)
  | int n, k => by rw [chars]; exact fun c hc => .inl (isPrintable_of_mem_intText n c hc)
  | float x, k => by rw [chars]; exact fun c hc => .inl (isPrintable_of_mem_floatChars x c hc)
  | str s, k => by rw [chars]; exact fun c hc => .inl (isPrintable_of_mem_quoted s c hc)
  | arr [], k => by
      rw [chars]
      exact fun c hc => .inl (List.all_eq_true.mp (by decide) c hc)
  | arr (x :: xs), k => by
      have hx := allows_of_mem_chars layout x (k := k + 1)
      have hxs := allows_of_mem_itemChars layout xs (k := k)
      intro c hc
      rw [← List.append_nil (chars _ _ _), chars_arr_append] at hc
      simp only [List.append_nil, List.mem_cons, List.mem_append] at hc
      rcases hc with rfl | hc | hc | hc
      · exact .inl rfl
      · exact allows_of_mem_newline c hc
      · exact hx c hc
      · exact hxs c hc
  | obj [], k => by
      rw [chars]
      exact fun c hc => .inl (List.all_eq_true.mp (by decide) c hc)
  | obj ((key, v) :: fs), k => by
      have hv := allows_of_mem_chars layout v (k := k + 1)
      have hfs := allows_of_mem_fieldChars layout fs (k := k)
      intro c hc
      rw [← List.append_nil (chars _ _ _), chars_obj_append] at hc
      simp only [List.append_nil, List.mem_cons, List.mem_append, String.reduceToList,
        List.not_mem_nil, or_false] at hc
      rcases hc with rfl | hc | hc | (rfl | rfl) | hc | hc
      · exact .inl rfl
      · exact allows_of_mem_newline c hc
      · exact .inl (isPrintable_of_mem_quoted key c hc)
      · exact .inl rfl
      · exact .inl rfl
      · exact hv c hc
      · exact hfs c hc

theorem allows_of_mem_itemChars (layout : Layout) : (xs : List Json) → {k : Nat} →
    ∀ c ∈ itemChars layout k xs, layout.Allows c
  | [], k => by
      intro c hc
      rw [itemChars, List.mem_append, List.mem_singleton] at hc
      rcases hc with hc | rfl
      · exact allows_of_mem_newline c hc
      · exact .inl rfl
  | x :: xs, k => by
      have hx := allows_of_mem_chars layout x (k := k + 1)
      have hxs := allows_of_mem_itemChars layout xs (k := k)
      intro c hc
      simp only [itemChars, List.mem_append] at hc
      rcases hc with (hc | hc) | hc
      · exact allows_of_mem_separator c hc
      · exact hx c hc
      · exact hxs c hc

theorem allows_of_mem_fieldChars (layout : Layout) : (fs : List (String × Json)) → {k : Nat} →
    ∀ c ∈ fieldChars layout k fs, layout.Allows c
  | [], k => by
      intro c hc
      rw [fieldChars, List.mem_append, List.mem_singleton] at hc
      rcases hc with hc | rfl
      · exact allows_of_mem_newline c hc
      · exact .inl rfl
  | (key, v) :: fs, k => by
      have hv := allows_of_mem_chars layout v (k := k + 1)
      have hfs := allows_of_mem_fieldChars layout fs (k := k)
      intro c hc
      simp only [fieldChars, List.mem_append, List.mem_cons, String.reduceToList,
        List.not_mem_nil, or_false] at hc
      rcases hc with (((hc | hc) | (rfl | rfl)) | hc) | hc
      · exact allows_of_mem_separator c hc
      · exact .inl (isPrintable_of_mem_quoted key c hc)
      · exact .inl rfl
      · exact .inl rfl
      · exact hv c hc
      · exact hfs c hc

end

/-! ## Whole texts -/

/-- Written in either layout, a value is read back. -/
theorem readText_chars (layout : Layout) {v : Json} (hplain : v.Plain)
    (hwithin : v.Within depthLimit) : readText (chars layout 0 v) = .ok v := by
  obtain ⟨c, cs, hcs, hc, -, hprintable⟩ := exists_cons_chars layout 0 hplain
  have hmark : c ≠ Char.ofNat 0xfeff := by
    rintro rfl
    cases hprintable
  have hvalue : readValue (2 * (chars layout 0 v).length + 2) depthLimit (chars layout 0 v ++ []) =
      .ok (v, []) :=
    readValue_chars layout v hplain hwithin (by omega) endsNumber_nil
  rw [List.append_nil] at hvalue
  rw [readText, if_neg, readWhole]
  · rw [hcs] at hvalue ⊢
    rw [skipBlanks_cons hc, hvalue]
    rfl
  · rw [hcs]
    simpa using hmark

/-- What is written on one line is read back. -/
theorem decode_encode {v : Json} (hplain : v.Plain) (hwithin : v.Within depthLimit) :
    decode v.encode = .ok v := by
  rw [decode, encode, String.toList_ofList, readText_chars .line hplain hwithin]
  rfl

/-- What is written on one line consists of printable characters. -/
theorem isPrintable_of_mem_encode (v : Json) : ∀ c ∈ v.encode.toList, isPrintable c = true := by
  intro c hc
  rw [encode, String.toList_ofList] at hc
  exact (allows_of_mem_chars .line v c hc).resolve_right List.not_mem_nil

/-- What is written on indented lines is read back. -/
theorem decode_encodeIndented {v : Json} (hplain : v.Plain) (hwithin : v.Within depthLimit) :
    decode v.encodeIndented = .ok v := by
  rw [decode, encodeIndented, String.toList_ofList, readText_chars .indented hplain hwithin]
  rfl

/-- What is written on indented lines consists of printable characters and line feeds. -/
theorem isPrintable_or_of_mem_encodeIndented (v : Json) :
    ∀ c ∈ v.encodeIndented.toList, isPrintable c = true ∨ c = '\n' := by
  intro c hc
  rw [encodeIndented, String.toList_ofList] at hc
  exact (allows_of_mem_chars .indented v c hc).imp id List.mem_singleton.mp

end Persona.Json
