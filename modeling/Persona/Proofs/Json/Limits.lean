import Mathlib.Data.List.TakeWhile
import Persona.Json.Access
import Persona.Proofs.Json.Roundtrip
import Persona.Proofs.Outcome

/-!
# What the reader gives lies within its limits

Every value that is read from a text is at most so deep as the reader was told, its whole numbers
have not too many digits, and no object has two fields of the same name. A value that was read once
can therefore be written and read again (`decode_encode`), as far as it is plain.

Main statement: `within_of_decode`.
-/

namespace Persona.Json

open Text (digitsValue digitLimit)

/-! ## Numbers -/

theorem asciiDigit_lt_ten {c : Char} (h : isAsciiDigit c = true) : asciiDigit c < 10 := by
  simp only [isAsciiDigit, Bool.and_eq_true, decide_eq_true_eq, Char.le_def,
    UInt32.le_iff_toNat_le] at h
  have h9 : '9'.val.toNat = 57 := rfl
  have hc : c.toNat = c.val.toNat := rfl
  unfold asciiDigit
  omega

theorem isAsciiDigit_of_wholeDigits? {cs whole rest : List Char}
    (h : wholeDigits? cs = some (whole, rest)) : ∀ c ∈ whole, isAsciiDigit c = true := by
  unfold wholeDigits? at h
  split at h
  · cases h
    exact List.all_eq_true.mp (by decide)
  · next c tail _ =>
      split at h
      · next hc =>
          cases h
          intro d hd
          rcases List.mem_cons.mp hd with rfl | hd
          · exact hc
          · exact List.mem_takeWhile_imp hd
      · cases h
  · cases h

/-- Whole digits that are not too many stand for a number within the limits. -/
theorem within_int_of_wholeDigits? {cs whole rest : List Char} {depth : Nat} {n : Int}
    (h : wholeDigits? cs = some (whole, rest)) (hlength : whole.length ≤ digitLimit)
    (hn : n.natAbs = digitsValue (whole.map asciiDigit)) : (int n).Within depth := by
  have hdigits : ∀ d ∈ whole.map asciiDigit, d < 10 := by
    intro d hd
    obtain ⟨c, hc, rfl⟩ := List.mem_map.mp hd
    exact asciiDigit_lt_ten (isAsciiDigit_of_wholeDigits? h c hc)
  have hlt := Number.digitsValue_lt hdigits
  rw [List.length_map] at hlt
  rw [Within, hn]
  exact hlt.trans_le (Number.tenPow_le_tenPow hlength)

/-- A number that is read has not too many digits. -/
theorem within_of_readNumber {cs rest : List Char} {v : Json} {depth : Nat}
    (h : readNumber cs = .ok (v, rest)) : v.Within depth := by
  unfold readNumber at h
  split at h
  next negative body _ =>
    split at h
    · cases h
    · next whole tail hwhole =>
        split at h
        split at h
        split at h
        · split at h
          · cases h
          · next hlength =>
              cases h
              refine within_int_of_wholeDigits? hwhole (by omega) ?_
              split <;> omega
        · cases h
          trivial

/-! ## Words, values, items and fields -/

theorem within_of_readWord? {cs rest : List Char} {v : Json} {depth : Nat}
    (h : readWord? cs = some (v, rest)) : v.Within depth := by
  obtain ⟨⟨w, u⟩, hmem, hword⟩ := List.exists_of_findSome?_eq_some h
  obtain ⟨tail, -, heq⟩ := Option.map_eq_some_iff.mp hword
  cases heq
  simp only [words, List.mem_cons, List.not_mem_nil, or_false, Prod.mk.injEq] at hmem
  rcases hmem with ⟨-, rfl⟩ | ⟨-, rfl⟩ | ⟨-, rfl⟩ | ⟨-, rfl⟩ | ⟨-, rfl⟩ | ⟨-, rfl⟩ <;> trivial

theorem WithinFields.put {depth : Nat} {fs : List (String × Json)} (h : WithinFields depth fs)
    (key : String) {v : Json} (hv : v.Within depth) : WithinFields depth (Fields.put fs key v) := by
  induction fs with
  | nil => exact ⟨hv, trivial⟩
  | cons f fs ih =>
      obtain ⟨k, u⟩ := f
      rw [WithinFields] at h
      rw [Fields.put]
      split
      · exact ⟨hv, h.2⟩
      · exact ⟨h.1, ih h.2⟩

theorem WithinFields.of_get? {depth : Nat} {fs : List (String × Json)} (h : WithinFields depth fs)
    {key : String} {v : Json} (hget : Fields.get? fs key = some v) : v.Within depth := by
  induction fs with
  | nil => cases hget
  | cons f fs ih =>
      obtain ⟨k, u⟩ := f
      rw [Fields.get?_cons] at hget
      split at hget
      · exact Option.some.inj hget ▸ h.1
      · exact ih h.2 hget

/-- A whole number in a field has not too many digits. -/
theorem natAbs_lt_of_fieldOr {v : Json} {depth : Nat} (h : v.Within depth) {key : String}
    {fallback n : Int} (hfield : v.fieldOr key (.int fallback) = .ok (.int n))
    (hfallback : fallback.natAbs < Number.tenPow Text.digitLimit) :
    n.natAbs < Number.tenPow Text.digitLimit := by
  cases v with
  | null | bool b | int n | float x | str s | arr xs => cases hfield
  | obj fs =>
      obtain ⟨depth, rfl⟩ := exists_depth_of_within_obj h
      have hvalue : (Fields.get? fs key).getD (.int fallback) = .int n := Except.ok.inj hfield
      cases hget : Fields.get? fs key with
      | none =>
          rw [hget] at hvalue
          obtain rfl : fallback = n := Json.int.inj hvalue
          exact hfallback
      | some u =>
          rw [hget] at hvalue
          obtain rfl : u = .int n := hvalue
          have hwithin := h.2.of_get? hget
          cases depth <;> exact hwithin

/-- Values that are read with this much fuel lie within the limits. -/
def ValuesWithin (fuel : Nat) : Prop :=
  ∀ depth cs v rest, readValue fuel depth cs = .ok (v, rest) → v.Within depth

/-- Items that are read with this much fuel lie within the limits. -/
def ItemsWithin (fuel : Nat) : Prop :=
  ∀ depth cs xs rest, readItems fuel depth cs = .ok (xs, rest) → WithinItems depth xs

/-- Fields that are read with this much fuel, after others that lie within the limits, lie within
the limits too. -/
def FieldsWithin (fuel : Nat) : Prop :=
  ∀ depth acc cs fs rest, (acc.map (·.1)).Nodup → WithinFields depth acc →
    readFields fuel depth acc cs = .ok (fs, rest) → (fs.map (·.1)).Nodup ∧ WithinFields depth fs

theorem valuesWithin_succ {fuel : Nat} (hitems : ItemsWithin fuel) (hfields : FieldsWithin fuel) :
    ValuesWithin (fuel + 1) := by
  intro depth cs v rest h
  rw [readValue.eq_def] at h
  cases cs with
  | nil => cases h
  | cons c cs =>
      simp only at h
      -- a text
      split at h
      · obtain ⟨⟨s, tail⟩, -, h⟩ := Outcome.of_bind_eq_ok h
        cases h
        trivial
      -- an object
      split at h
      · split at h
        · cases h
        · next hdepth _ =>
            cases h
            obtain ⟨depth, rfl⟩ := Nat.exists_eq_succ_of_ne_zero hdepth
            exact ⟨List.nodup_nil, trivial⟩
        · obtain ⟨⟨fs, tail⟩, hfs, h⟩ := Outcome.of_bind_eq_ok h
          cases h
          exact hfields _ [] _ _ _ List.nodup_nil trivial hfs
      -- a list
      split at h
      · split at h
        · cases h
        · next hdepth _ =>
            cases h
            obtain ⟨depth, rfl⟩ := Nat.exists_eq_succ_of_ne_zero hdepth
            trivial
        · obtain ⟨⟨xs, tail⟩, hxs, h⟩ := Outcome.of_bind_eq_ok h
          cases h
          exact hitems _ _ _ _ hxs
      -- a word or a number
      split at h
      · next hword =>
          cases h
          exact within_of_readWord? hword
      · exact within_of_readNumber h

theorem itemsWithin_succ {fuel : Nat} (hvalues : ValuesWithin fuel) (hitems : ItemsWithin fuel) :
    ItemsWithin (fuel + 1) := by
  intro depth cs xs rest h
  rw [readItems.eq_def] at h
  obtain ⟨⟨x, tail⟩, hx, h⟩ := Outcome.of_bind_eq_ok h
  simp only at h
  split at h
  · cases h
    exact ⟨hvalues _ _ _ _ hx, trivial⟩
  · obtain ⟨⟨ys, tail'⟩, hys, h⟩ := Outcome.of_bind_eq_ok h
    cases h
    exact ⟨hvalues _ _ _ _ hx, hitems _ _ _ _ hys⟩
  · cases h

theorem fieldsWithin_succ {fuel : Nat} (hvalues : ValuesWithin fuel)
    (hfields : FieldsWithin fuel) : FieldsWithin (fuel + 1) := by
  intro depth acc cs fs rest hnodup hacc h
  rw [readFields.eq_def] at h
  simp only at h
  split at h
  · obtain ⟨⟨key, tail⟩, -, h⟩ := Outcome.of_bind_eq_ok h
    simp only at h
    split at h
    · obtain ⟨⟨v, tail'⟩, hv, h⟩ := Outcome.of_bind_eq_ok h
      have hput := Fields.nodup_keys_put hnodup key v
      have hwithin := hacc.put key (hvalues _ _ _ _ hv)
      simp only at h
      split at h
      · cases h
        exact ⟨hput, hwithin⟩
      · exact hfields _ _ _ _ _ hput hwithin h
      · cases h
    · cases h
  · cases h

/-- With any fuel, the reader keeps to its limits: the depth left goes down with every container,
and fields are put one by one, so that no name comes twice. -/
theorem readers_within (fuel : Nat) :
    ValuesWithin fuel ∧ ItemsWithin fuel ∧ FieldsWithin fuel := by
  induction fuel with
  | zero =>
      refine ⟨?_, ?_, ?_⟩
      · intro depth cs v rest h
        rw [readValue.eq_def] at h
        cases h
      · intro depth cs xs rest h
        rw [readItems.eq_def] at h
        cases h
      · intro depth acc cs fs rest _ _ h
        rw [readFields.eq_def] at h
        cases h
  | succ fuel ih =>
      obtain ⟨hvalues, hitems, hfields⟩ := ih
      exact ⟨valuesWithin_succ hitems hfields, itemsWithin_succ hvalues hitems,
        fieldsWithin_succ hvalues hfields⟩

/-! ## Whole texts -/

theorem within_of_readWhole {cs : List Char} {v : Json} (h : readWhole cs = .ok v) :
    v.Within depthLimit := by
  obtain ⟨⟨u, rest⟩, hu, h⟩ := Outcome.of_bind_eq_ok h
  simp only at h
  split at h
  · cases h
    exact (readers_within _).1 _ _ _ _ hu
  · cases h

/-- A value that is read from a text lies within the limits. -/
theorem within_of_decode {s : String} {v : Json} (h : decode s = .ok v) :
    v.Within depthLimit := by
  unfold decode readText at h
  split at h
  · cases h
  · cases hwhole : readWhole s.toList with
    | error stop => rw [hwhole] at h; cases h
    | ok u =>
        rw [hwhole] at h
        cases h
        exact within_of_readWhole hwhole

end Persona.Json
