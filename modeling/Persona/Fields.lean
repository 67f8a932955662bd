/-!
# Ordered fields

Key and value pairs in the order in which the keys were first put. `put` keeps the place of a key
that is already there.
-/

namespace Persona.Fields

variable {κ α : Type} [DecidableEq κ]

/-- The value under a key. -/
def get? : List (κ × α) → κ → Option α
  | [], _ => none
  | (k, v) :: rest, key => if k = key then some v else get? rest key

/-- Put a value under a key: an existing key keeps its place, a new one goes to the end. -/
def put : List (κ × α) → κ → α → List (κ × α)
  | [], key, value => [(key, value)]
  | (k, v) :: rest, key, value =>
    if k = key then (k, value) :: rest else (k, v) :: put rest key value

/-- Take out a key. -/
def erase : List (κ × α) → κ → List (κ × α)
  | [], _ => []
  | (k, v) :: rest, key => if k = key then erase rest key else (k, v) :: erase rest key

@[simp] theorem get?_nil (key : κ) : get? ([] : List (κ × α)) key = none := rfl

theorem get?_cons (k : κ) (v : α) (rest : List (κ × α)) (key : κ) :
    get? ((k, v) :: rest) key = if k = key then some v else get? rest key := rfl

/-- A value reads back as it was put, and no other key changes. -/
theorem get?_put (fields : List (κ × α)) (key key' : κ) (value : α) :
    get? (put fields key value) key' = if key = key' then some value else get? fields key' := by
  induction fields with
  | nil => simp [put, get?_cons]
  | cons f rest ih =>
    obtain ⟨k, v⟩ := f
    by_cases h : k = key
    · subst h
      by_cases h' : k = key' <;> simp [put, get?_cons, h']
    · by_cases h' : k = key'
      · subst h'
        simp [put, get?_cons, h, Ne.symm h]
      · simp [put, get?_cons, h, h', ih]

/-- Putting a value adds its key at the end, if it is new. -/
theorem keys_put (fields : List (κ × α)) (key : κ) (value : α) :
    (put fields key value).map (·.1) =
      if key ∈ fields.map (·.1) then fields.map (·.1) else fields.map (·.1) ++ [key] := by
  induction fields with
  | nil => simp [put]
  | cons f rest ih =>
    obtain ⟨k, v⟩ := f
    by_cases h : k = key
    · simp [put, h]
    · have h' : ¬ key = k := fun e => h e.symm
      simp only [put, if_neg h, List.map_cons, ih, List.mem_cons, h', false_or, List.cons_append]
      split <;> rfl

end Persona.Fields
