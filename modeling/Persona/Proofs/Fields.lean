import Mathlib.Data.List.Nodup
import Persona.Fields

/-!
# Laws of ordered fields

Fields without a repeated key are given, up to their order, by what stands under each key.

Main statements:

* `nodup_keys_put`: putting a value repeats no key;
* `perm_of_get?_eq`: fields with the same values under all keys differ in their order only;
* `erase_put`: a key that was put can be taken out again.
-/

namespace Persona.Fields

variable {κ α : Type} [DecidableEq κ]

/-- A key that is not there yet goes to the end. -/
theorem put_of_not_mem {fields : List (κ × α)} {key : κ} (h : key ∉ fields.map (·.1)) (value : α) :
    put fields key value = fields ++ [(key, value)] := by
  induction fields with
  | nil => rfl
  | cons f rest ih =>
      obtain ⟨k, v⟩ := f
      simp only [List.map_cons, List.mem_cons, not_or] at h
      rw [put, if_neg (Ne.symm h.1), ih h.2, List.cons_append]

theorem nodup_keys_put {fields : List (κ × α)} (h : (fields.map (·.1)).Nodup) (key : κ)
    (value : α) : ((put fields key value).map (·.1)).Nodup := by
  rw [keys_put]
  split
  · exact h
  · next hkey =>
      rw [List.nodup_append]
      refine ⟨h, List.nodup_singleton key, ?_⟩
      rintro k hk k' hk' rfl
      rw [List.mem_singleton] at hk'
      exact hkey (hk' ▸ hk)

/-- A pair of fields with a repeated key is hidden by an earlier one; without repetition all pairs
are found. -/
theorem get?_eq_some_iff {fields : List (κ × α)} (h : (fields.map (·.1)).Nodup) (key : κ)
    (value : α) : get? fields key = some value ↔ (key, value) ∈ fields := by
  induction fields with
  | nil => simp
  | cons f rest ih =>
      obtain ⟨k, v⟩ := f
      rw [List.map_cons, List.nodup_cons] at h
      rw [get?_cons]
      split
      · next hk =>
          subst hk
          have hrest : (k, value) ∉ rest := fun hm => h.1 (List.mem_map_of_mem (f := (·.1)) hm)
          simp [hrest, eq_comm]
      · next hk =>
          have hne : (key, value) ≠ (k, v) := fun he => hk (congrArg Prod.fst he).symm
          rw [ih h.2, List.mem_cons, or_iff_right hne]

/-- A key has a value just when it is among the keys. -/
theorem get?_eq_none_iff {fields : List (κ × α)} {key : κ} :
    get? fields key = none ↔ key ∉ fields.map (·.1) := by
  induction fields with
  | nil => simp
  | cons f rest ih =>
      obtain ⟨k, v⟩ := f
      rw [get?_cons, List.map_cons, List.mem_cons]
      split
      · next hk => simp [hk]
      · next hk => rw [ih, not_or, and_iff_right (Ne.symm hk)]

/-- Fields with the same values under all keys differ in their order only. -/
theorem perm_of_get?_eq {fs gs : List (κ × α)} (hf : (fs.map (·.1)).Nodup)
    (hg : (gs.map (·.1)).Nodup) (h : ∀ key, get? fs key = get? gs key) : fs.Perm gs := by
  rw [List.perm_ext_iff_of_nodup hf.of_map hg.of_map]
  rintro ⟨k, v⟩
  rw [← get?_eq_some_iff hf, ← get?_eq_some_iff hg, h]

/-! ## Taking out a key -/

theorem erase_put (fields : List (κ × α)) (key : κ) (value : α) :
    erase (put fields key value) key = erase fields key := by
  induction fields with
  | nil => simp [put, erase]
  | cons f rest ih =>
      obtain ⟨k, v⟩ := f
      by_cases h : k = key
      · simp [put, erase, h]
      · simp [put, erase, h, ih]

theorem keys_erase (fields : List (κ × α)) (key : κ) :
    (erase fields key).map (·.1) = (fields.map (·.1)).filter (· ≠ key) := by
  induction fields with
  | nil => rfl
  | cons f rest ih =>
      obtain ⟨k, v⟩ := f
      by_cases h : k = key
      · simpa [erase, h] using ih
      · simpa [erase, h] using ih

theorem get?_erase (fields : List (κ × α)) (key other : κ) :
    get? (erase fields key) other = if key = other then none else get? fields other := by
  induction fields with
  | nil => simp [erase]
  | cons f rest ih =>
      obtain ⟨k, v⟩ := f
      rw [erase, get?_cons]
      by_cases hk : k = key
      · subst hk
        rw [if_pos rfl, ih]
        split <;> rfl
      · rw [if_neg hk, get?_cons, ih]
        by_cases hother : k = other
        · subst hother
          rw [if_pos rfl, if_neg (Ne.symm hk), if_pos rfl]
        · rw [if_neg hother, if_neg hother]

end Persona.Fields
