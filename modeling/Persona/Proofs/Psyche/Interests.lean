import Persona.Proofs.Outcome
import Persona.Proofs.Psyche.Inward
import Persona.Proofs.World.Succession

/-!
# What a psyche explores

What is explored was noticed before, and what was noticed is never forgotten. So the workspace is
scanned only as long as nothing was explored, and once a scan has found a file there is no further
one: from then on the psyche turns to what it has noticed.

Where the workspace was scanned, and what a scan found, is told by notes that are taken on the way.

Main statement: `explores_what_was_noticed`.
-/

namespace Persona.Psyche

open ActOn (Ends Maintains Noted note silent)

/-! ## Interests -/

namespace Interests

variable {interests : Interests} {thing : Json} {amount : Quantity}

/-- The things that were noticed, in the order of noticing. -/
def keys (interests : Interests) : List Json := interests.map (·.1)

theorem keys_put (interests : Interests) (thing : Json) (amount : Quantity) :
    interests.keys <+: (interests.put thing amount).keys := by
  induction interests with
  | nil => exact List.nil_prefix
  | cons f rest ih =>
      obtain ⟨k, x⟩ := f
      unfold put
      split
      · exact List.prefix_rfl
      · exact (List.prefix_cons_inj k).mpr ih

theorem put_ne_nil : interests.put thing amount ≠ [] := by
  cases interests with
  | nil => exact List.cons_ne_nil _ _
  | cons f rest =>
      unfold put
      split
      · exact List.cons_ne_nil _ _
      · exact List.cons_ne_nil _ _

theorem amount_of_mem_put {k : Json} {x : Quantity} (h : (k, x) ∈ interests.put thing amount) :
    (k, x) ∈ interests ∨ x = amount := by
  induction interests with
  | nil =>
      rw [put, List.mem_singleton] at h
      exact .inr (congrArg Prod.snd h)
  | cons f rest ih =>
      obtain ⟨k', x'⟩ := f
      unfold put at h
      split at h
      · rcases List.mem_cons.mp h with h | h
        · exact .inr (congrArg Prod.snd h)
        · exact .inl (List.mem_cons_of_mem _ h)
      · rcases List.mem_cons.mp h with h | h
        · exact .inl (h ▸ List.mem_cons_self)
        · exact (ih h).imp_left (List.mem_cons_of_mem _)

theorem mem_of_get? {x : Quantity} (h : interests.get? thing = some x) :
    ∃ k, (k, x) ∈ interests := by
  induction interests with
  | nil => cases h
  | cons f rest ih =>
      obtain ⟨k, x'⟩ := f
      unfold get? at h
      split at h
      · cases h
        exact ⟨k, List.mem_cons_self⟩
      · obtain ⟨k', hk'⟩ := ih h
        exact ⟨k', List.mem_cons_of_mem _ hk'⟩

end Interests

namespace Curiosity

variable {c c' : Curiosity} {thing amount : Json}

/-! ## What one call does -/

theorem add_real {a sum : Quantity} {x : Float} (h : a.add (.real x) = .ok sum) :
    ∃ y, sum = .real y := by
  unfold Quantity.add at h
  split at h
  · next heq => cases heq
  · obtain ⟨y, -, h⟩ := Outcome.of_bind_eq_ok h
    obtain ⟨z, -, h⟩ := Outcome.of_bind_eq_ok h
    cases h
    exact ⟨_, rfl⟩

/-- A thing that is noticed keeps its place or gets the last one. A double makes a double of how
interesting it is. -/
theorem notice_cases (h : c.notice thing amount = .ok c') :
    ∃ key sum, c' = { c with interests := c.interests.put key sum } ∧
      ∀ x, amount = .float x → ∃ y, sum = .real y := by
  unfold notice at h
  obtain ⟨key, -, h⟩ := Outcome.of_bind_eq_ok h
  cases hamount : amount.quantity? with
  | none =>
      rw [hamount] at h
      cases h
  | some q =>
      rw [hamount] at h
      obtain ⟨sum, hsum, h⟩ := Outcome.of_bind_eq_ok h
      cases h
      refine ⟨key, sum, rfl, ?_⟩
      rintro x rfl
      cases hamount
      cases hadd : ((c.interests.get? key).getD (.whole 0)).add (.real x) with
      | error e =>
          rw [hadd] at hsum
          cases hsum
      | ok sum' =>
          rw [hadd] at hsum
          cases hsum
          exact add_real hadd

theorem mostInteresting_mem (h : c.interests ≠ []) : c.mostInteresting ∈ c.interests.keys := by
  have hfold (first : Json × Quantity) (rest : Interests) :
      rest.foldl (fun best x => if best.2.isBelow x.2 then x else best) first ∈ first :: rest := by
    induction rest generalizing first with
    | nil => exact List.mem_cons_self
    | cons x rest ih =>
        rw [List.foldl_cons]
        split
        · exact List.mem_cons_of_mem _ (ih x)
        · rcases List.mem_cons.mp (ih first) with hfirst | hrest
          · rw [hfirst]
            exact List.mem_cons_self
          · exact List.mem_cons_of_mem _ (List.mem_cons_of_mem _ hrest)
  unfold mostInteresting
  cases hinterests : c.interests with
  | nil => exact absurd hinterests h
  | cons first rest => exact List.mem_map_of_mem (hfold first rest)

/-- Something is interesting beyond all doubles. -/
def Oversized (c : Curiosity) : Prop :=
  ∃ k n, (k, .whole n) ∈ c.interests ∧ Number.isInfinite (Number.ofInt n) = true

/-- What a look for something to explore can come to, and what it leaves. -/
inductive Explored (c : Curiosity) : Except Fault Json → Curiosity → Prop
  /-- The workspace has nothing to offer. -/
  | nothing (h : c.interests = []) : Explored c (.ok .null) c
  /-- The workspace cannot be looked at. -/
  | barred (h : c.interests = []) (f : Fault) : Explored c (.error f) c
  | found {file : String} {c' : Curiosity} (h : c.interests = [])
    (hnotice : c.notice (.str file) (.float 0.7) = .ok c') : Explored c (.ok (.str file)) c'
  | turned {key : Json} (hkey : key ∈ c.interests.keys) : Explored c (.ok key) (c.turnTo key)
  | tired {key : Json} (hkey : key ∈ c.interests.keys) (x : Float) :
    Explored c (.ok key) { c.turnTo key with interests := c.interests.put key (.real x) }
  /-- The interest cannot be halved. -/
  | stuck {key : Json} (hkey : key ∈ c.interests.keys) (h : c.Oversized) :
    Explored c (.error (.calculation .integerTooLarge)) (c.turnTo key)

theorem scan_explored (h : c.interests = []) (w : World) :
    Ends scan c w (fun r c' _ => Explored c (.ok r) c') fun f c' _ => Explored c (.error f) c' := by
  rw [scan_eq]
  refine .step rfl (.step rfl ?_)
  match c.findings w.files with
  | .error cause => exact .barred h _
  | .ok [] => exact .nothing h
  | .ok (first :: rest) =>
      refine .bind (.lift (fun chosen w' => ?_) fun f _ => .barred h f)
      cases hnotice : c.notice (.str chosen) (.float 0.7) with
      | error f => exact (.barred h f : Explored c (.error f) c)
      | ok c' => exact (.found h hnotice : Explored c (.ok (.str chosen)) c')

theorem tireOf_cases (c : Curiosity) (key : Json) :
    c.tireOf key = .ok c ∨
      (∃ x, c.tireOf key = .ok { c with interests := c.interests.put key (.real x) }) ∨
      c.tireOf key = .error .integerTooLarge ∧ c.Oversized := by
  unfold tireOf
  cases hx : c.interests.get? key with
  | none => exact .inl rfl
  | some x =>
      obtain ⟨k, hk⟩ := Interests.mem_of_get? hx
      cases x with
      | real x => exact .inr (.inl ⟨_, rfl⟩)
      | whole n =>
          by_cases hlarge : Number.isInfinite (Number.ofInt n) = true
          · refine .inr (.inr ⟨?_, k, n, hk, hlarge⟩)
            simp only [Quantity.scale, Quantity.toReal, if_pos hlarge]
            rfl
          · refine .inr (.inl ⟨Number.ofInt n * 0.5, ?_⟩)
            simp only [Quantity.scale, Quantity.toReal, if_neg hlarge]
            rfl

theorem visit_explored {key : Json} (hkey : key ∈ c.interests.keys) (w : World) :
    Ends (visit key) c w (fun _ c' _ => Explored c (.ok key) c')
      fun f c' _ => Explored c (.error f) c' := by
  refine .step rfl (.step rfl ?_)
  rcases (c.turnTo key).tireOf_cases key with h | ⟨x, h⟩ | ⟨h, hlarge⟩
  · rw [h]
    exact (.turned hkey : Explored c (.ok key) _)
  · rw [h]
    exact (.tired hkey x : Explored c (.ok key) _)
  · rw [h]
    exact (.stuck hkey hlarge : Explored c (.error _) _)

theorem explore_ends (c : Curiosity) (w : World) :
    Ends explore c w (fun r c' _ => Explored c (.ok r) c')
      fun f c' _ => Explored c (.error f) c' := by
  unfold explore
  refine .step rfl ?_
  cases hinterests : c.interests with
  | nil => exact scan_explored hinterests w
  | cons first rest =>
      have hsome : c.interests ≠ [] := hinterests ▸ List.cons_ne_nil first rest
      refine .step rfl ?_
      split
      · exact .step rfl ((visit_explored (mostInteresting_mem hsome) _).andThen fun _ _ _ h => h)
      · refine .step rfl ((visit_explored ?_ _).andThen fun _ _ _ h => h)
        rw [hinterests]
        exact Chance.pick_mem first.1 (rest.map (·.1)) _

/-- Whatever comes of a look for something to explore, it is one of the cases. -/
theorem explore_explored (c : Curiosity) (w : World) :
    Explored c (explore c w).1.1 (explore c w).1.2 := by
  rcases (explore_ends c w).cases with ⟨r, c', w', hrun, h⟩ | ⟨f, c', w', hrun, h⟩
  · rw [hrun]
    exact h
  · rw [hrun]
    exact h

/-! ## Calls with notes -/

inductive Call where
  | notice (thing amount : Json)
  | explore

def Call.act : Call → ActOn Curiosity Json
  | notice thing amount => do
    let c : Curiosity ← get
    set (← (MonadExcept.ofExcept (c.notice thing amount) : Act Curiosity))
    return .null
  | explore => Curiosity.explore

/-- The curiosity after some calls, each in a world of its own. -/
def after (c : Curiosity) (run : List (Call × World)) : Curiosity := ActOn.after Call.act c run

inductive Note where
  /-- The workspace is scanned now. -/
  | scanned (c : Curiosity) (files : Files)
  /-- A scan has given a file. -/
  | found (file : String)

def Note.file? : Note → Option String
  | scanned _ _ => none
  | found file => some file

/-- The files that scans have given. -/
def found (notes : List Note) : List String := notes.filterMap Note.file?

def exploreNoting : ActOn (Curiosity × List Note) Json := do
  let c : Curiosity ← silent get
  match c.interests with
  | [] =>
    note fun c w => .scanned c w.files
    let result ← silent scan
    if let .str file := result then note fun _ _ => .found file
    return result
  | first :: rest => silent do
    let chance {α : Type} (c : Chance α) : ActOn Curiosity α := (Act.chance c : Act α)
    let target ← if ← chance (Chance.happens 0.7) then pure c.mostInteresting
      else chance (Chance.pick first.1 (rest.map (·.1)))
    visit target
    return target

def Call.noting : Call → ActOn (Curiosity × List Note) Json
  | explore => exploreNoting
  | call => silent call.act

/-- The notes of a look for something to explore. -/
def sightings (c : Curiosity) (files : Files) (r : Except Fault Json) : List Note :=
  match c.interests, r with
  | [], .ok (.str file) => [.scanned c files, .found file]
  | [], _ => [.scanned c files]
  | _ :: _, _ => []

theorem exploreNoting_apply (c : Curiosity) (notes : List Note) (w : World) :
    exploreNoting (c, notes) w =
      (((explore c w).1.1, ((explore c w).1.2, notes ++ sightings c w.files (explore c w).1.1)),
        (explore c w).2) := by
  have hget : (silent get : ActOn (Curiosity × List Note) Curiosity) (c, notes) w =
      ((.ok c, (c, notes)), w) := rfl
  rw [exploreNoting, ActOn.bind_of_ok hget]
  unfold explore sightings
  rw [ActOn.bind_of_ok (ActOn.get_apply c w)]
  cases hinterests : c.interests with
  | nil =>
      dsimp only
      rw [ActOn.bind_of_ok (ActOn.note_apply _ c notes w)]
      rcases hscan : scan c w with ⟨⟨r, c'⟩, w'⟩
      have hsilent : (silent scan : ActOn (Curiosity × List Note) Json)
          (c, notes ++ [.scanned c w.files]) w =
            ((r, (c', notes ++ [.scanned c w.files])), w') := by
        rw [ActOn.silent_apply, hscan]
      cases r with
      | error f => rw [ActOn.bind_of_error hsilent]
      | ok thing =>
          rw [ActOn.bind_of_ok hsilent]
          cases thing with
          | str file =>
              dsimp only
              rw [ActOn.bind_of_ok (ActOn.note_apply _ c' _ w'), List.append_assoc]
              rfl
          | _ => rfl
  | cons first rest =>
      dsimp only
      rw [ActOn.silent_apply, List.append_nil]

theorem Call.noted (call : Call) : Noted call.noting call.act := by
  cases call with
  | notice thing amount => exact .silent _
  | explore => exact fun c notes w => ⟨_, exploreNoting_apply c notes w⟩

/-! ## What calls keep -/

/-- A curiosity that goes with some notes and has known some things. -/
structure Curious (known : List Json) (c : Curiosity) (notes : List Note) : Prop where
  explored : ∀ thing ∈ c.explored, thing ∈ c.interests.keys
  fascination : c.fascination = c.explored.getLastD .null
  known : known <+: c.interests.keys
  scanned : ∀ c' files, .scanned c' files ∈ notes → c'.explored = []
  found : found notes = [] ∨ (found notes).length = 1 ∧ c.interests ≠ []

namespace Curious

variable {known : List Json} {notes : List Note} {key : Json}

theorem new (workspace : Path) : Curious [] { workspace } [] :=
  ⟨nofun, rfl, List.nil_prefix, nofun, .inl rfl⟩

/-- How interesting things are may change, and new ones may come. -/
theorem put (h : Curious known c notes) (key : Json) (amount : Quantity) :
    Curious known { c with interests := c.interests.put key amount } notes where
  explored thing hthing := (c.interests.keys_put key amount).subset (h.explored thing hthing)
  fascination := h.fascination
  known := h.known.trans (c.interests.keys_put key amount)
  scanned := h.scanned
  found := h.found.imp_right fun hfound => ⟨hfound.1, Interests.put_ne_nil⟩

/-- What one turns to was noticed. -/
theorem turnTo (h : Curious known c notes) (hkey : key ∈ c.interests.keys) :
    Curious known (c.turnTo key) notes where
  explored thing hthing := by
    rcases List.mem_append.mp hthing with hthing | hthing
    · exact h.explored thing hthing
    · exact List.mem_singleton.mp hthing ▸ hkey
  fascination := List.getLastD_concat.symm
  known := h.known
  scanned := h.scanned
  found := h.found

/-- Without an interest, nothing was explored. -/
theorem scan (h : Curious known c notes) (hnil : c.interests = []) (files : Files) :
    Curious known c (notes ++ [.scanned c files]) where
  explored := h.explored
  fascination := h.fascination
  known := h.known
  scanned c' files' hmem := by
    rcases List.mem_append.mp hmem with hmem | hmem
    · exact h.scanned c' files' hmem
    · cases List.mem_singleton.mp hmem
      refine List.eq_nil_iff_forall_not_mem.mpr fun thing hthing => ?_
      have hkey := h.explored thing hthing
      rw [hnil] at hkey
      exact List.not_mem_nil hkey
  found := by
    have hsame : Curiosity.found (notes ++ [.scanned c files]) = Curiosity.found notes := by
      rw [Curiosity.found, List.filterMap_append]
      exact List.append_nil _
    rw [hsame]
    exact h.found

/-- A scan that gives a file is the first one: without an interest, none was found before. -/
theorem find (h : Curious known c notes) (hnil : c.interests = []) (key : Json) (amount : Quantity)
    (file : String) :
    Curious known { c with interests := c.interests.put key amount } (notes ++ [.found file]) where
  explored := (h.put key amount).explored
  fascination := h.fascination
  known := (h.put key amount).known
  scanned c' files hmem := by
    rcases List.mem_append.mp hmem with hmem | hmem
    · exact h.scanned c' files hmem
    · cases List.mem_singleton.mp hmem
  found := by
    have hnone : Curiosity.found notes = [] := h.found.resolve_right fun hfound => hfound.2 hnil
    have hadded : Curiosity.found (notes ++ [.found file]) = Curiosity.found notes ++ [file] :=
      List.filterMap_append
    rw [hadded, hnone]
    exact .inr ⟨rfl, Interests.put_ne_nil⟩

/-- What was noticed up to now is known from now on. -/
theorem now (h : Curious known c notes) : Curious c.interests.keys c notes :=
  { h with known := List.prefix_rfl }

end Curious

theorem sightings_of_mem {key : Json} (hkey : key ∈ c.interests.keys) (files : Files)
    (r : Except Fault Json) : c.sightings files r = [] := by
  cases hinterests : c.interests with
  | nil =>
      rw [hinterests] at hkey
      exact absurd hkey List.not_mem_nil
  | cons f rest => simp only [sightings, hinterests]

/-- One look for something to explore. -/
theorem Explored.curious {r : Except Fault Json} (hexplored : Explored c r c') {known : List Json}
    {notes : List Note} (h : Curious known c notes) (files : Files) :
    Curious known c' (notes ++ c.sightings files r) := by
  cases hexplored with
  | nothing hnil => simpa only [sightings, hnil] using h.scan hnil files
  | barred hnil f => simpa only [sightings, hnil] using h.scan hnil files
  | found hnil hnotice =>
      obtain ⟨key, sum, rfl, -⟩ := notice_cases hnotice
      have hfound := (h.scan hnil files).find hnil key sum
      simpa only [sightings, hnil, List.append_assoc, List.singleton_append] using hfound _
  | turned hkey =>
      rw [sightings_of_mem hkey, List.append_nil]
      exact h.turnTo hkey
  | tired hkey x =>
      rw [sightings_of_mem hkey, List.append_nil]
      exact (h.turnTo hkey).put _ _
  | stuck hkey hlarge =>
      rw [sightings_of_mem hkey, List.append_nil]
      exact h.turnTo hkey

theorem Call.noting_curious (known : List Json) (call : Call) :
    Maintains (fun s => Curious known s.1 s.2) call.noting := by
  rintro ⟨c, notes⟩ w h
  cases call with
  | notice thing amount =>
      refine .silent (.step rfl ?_)
      cases hnotice : c.notice thing amount with
      | error f => exact h
      | ok c' =>
          obtain ⟨key, sum, rfl, -⟩ := notice_cases hnotice
          exact h.put key sum
  | explore =>
      rw [Ends.state_iff, noting, exploreNoting_apply]
      exact (explore_explored c w).curious h w.files

/-! ## Interests in doubles -/

/-- All interests are doubles. -/
def Measured (c : Curiosity) : Prop := ∀ k x, (k, x) ∈ c.interests → ∃ y, x = .real y

/-- What is noticed is told by a double. -/
def Call.Measured : Call → Prop
  | notice _ amount => ∃ x, amount = .float x
  | explore => True

theorem Measured.put (h : c.Measured) (key : Json) {amount : Quantity}
    (hamount : ∃ y, amount = .real y) :
    Measured { c with interests := c.interests.put key amount } := by
  intro k x hmem
  rcases Interests.amount_of_mem_put hmem with hmem | rfl
  · exact h k x hmem
  · exact hamount

theorem Measured.not_oversized (h : c.Measured) : ¬c.Oversized := by
  rintro ⟨k, n, hmem, -⟩
  obtain ⟨y, hy⟩ := h k (.whole n) hmem
  cases hy

theorem Explored.measured {r : Except Fault Json} (hexplored : Explored c r c')
    (h : c.Measured) : c'.Measured := by
  cases hexplored with
  | found hnil hnotice =>
      obtain ⟨key, sum, rfl, hsum⟩ := notice_cases hnotice
      exact h.put key (hsum _ rfl)
  | tired hkey x => exact Measured.put (c := c.turnTo _) h _ ⟨x, rfl⟩
  | _ => exact h

theorem Call.act_measured {call : Call} (hcall : call.Measured) :
    Maintains Curiosity.Measured call.act := by
  intro c w h
  cases call with
  | notice thing amount =>
      obtain ⟨x, rfl⟩ := hcall
      refine .step rfl ?_
      cases hnotice : c.notice thing (.float x) with
      | error f => exact h
      | ok c' =>
          obtain ⟨key, sum, rfl, hsum⟩ := notice_cases hnotice
          exact h.put key (hsum x rfl)
  | explore => exact Ends.state_iff.mpr ((explore_explored c w).measured h)

/-! ## Runs -/

/-- With an interest, a look for something to explore gives one that was noticed, unless it is
too large to be halved. -/
theorem Explored.of_interests {r : Except Fault Json} (hexplored : Explored c r c')
    (hsome : c.interests ≠ []) :
    ∃ key ∈ c.interests.keys,
      r = .ok key ∨ r = .error (.calculation .integerTooLarge) ∧ c.Oversized := by
  cases hexplored with
  | nothing hnil => exact absurd hnil hsome
  | barred hnil f => exact absurd hnil hsome
  | found hnil hnotice => exact absurd hnil hsome
  | turned hkey => exact ⟨_, hkey, .inl rfl⟩
  | tired hkey x => exact ⟨_, hkey, .inl rfl⟩
  | stuck hkey hlarge => exact ⟨_, hkey, .inr ⟨rfl, hlarge⟩⟩

theorem Curious.after {known : List Json} {notes : List Note} (h : Curious known c notes)
    (run : List (Call × World)) :
    Curious known (c.after run) (ActOn.after Call.noting (c, notes) run).2 := by
  have hrun : Curious known (ActOn.after Call.noting (c, notes) run).1 _ :=
    Maintains.after (I := fun s : Curiosity × List Note => Curious known s.1 s.2)
      (fun step _ => Call.noting_curious known step.1) h
  rwa [Noted.after Call.noted] at hrun

/-- A filter for what was not explored keeps everything while nothing was. -/
theorem filter_unexplored (h : c.explored = []) (paths : List String) :
    paths.filter (fun path => !c.hasExplored (.str path)) = paths := by
  simp [hasExplored, h]

end Curiosity

/-- A new psyche that notices things and explores, in any worlds: what it explored it has noticed,
what it noticed keeps its place, and it is fascinated by what it explored last. A scan of the
workspace happens only before anything is explored, so its filter keeps every file and one scan at
most gives a file. With an interest, a look for something to explore gives one of those; only a
whole number beyond the doubles prevents that. The notes are those of the calls themselves. -/
theorem explores_what_was_noticed (workspace : String) (w : World) :
    ∃ s w', settleIn (.str workspace) w = (.ok s, w') ∧
      ∀ run : List (Curiosity.Call × World), ∃ notes,
        ActOn.after Curiosity.Call.noting (s.curiosity, []) run = (s.curiosity.after run, notes) ∧
        let c := s.curiosity.after run
        (∀ thing ∈ c.explored, thing ∈ c.interests.keys) ∧
        (∀ more, c.interests.keys <+: (s.curiosity.after (run ++ more)).interests.keys) ∧
        c.fascination = c.explored.getLastD .null ∧
        (∀ c' files, .scanned c' files ∈ notes → c'.explored = [] ∧
          ∀ ending, (files.endingWith c'.workspace ending).filter
            (fun path => !c'.hasExplored (.str path)) = files.endingWith c'.workspace ending) ∧
        (Curiosity.found notes).length ≤ 1 ∧
        (Curiosity.found notes ≠ [] → c.interests ≠ []) ∧
        (c.interests ≠ [] → ∀ now : World, ∃ key ∈ c.interests.keys,
          (Curiosity.explore c now).1.1 = .ok key ∨
            (Curiosity.explore c now).1.1 = .error (.calculation .integerTooLarge) ∧ c.Oversized) ∧
        ((∀ step ∈ run, step.1.Measured) → ¬c.Oversized) := by
  obtain ⟨s, w', hs, -, hcuriosity⟩ := exists_settleIn workspace w
  refine ⟨s, w', hs, fun run => ⟨_, Prod.ext (Noted.after Curiosity.Call.noted _ _ run) rfl, ?_⟩⟩
  have hstart : Curiosity.Curious [] s.curiosity [] := by
    rw [hcuriosity]
    exact .new _
  have hmeasured : s.curiosity.Measured := by
    rw [hcuriosity]
    exact nofun
  have hrun := hstart.after run
  refine ⟨hrun.explored, fun more => ?_, hrun.fascination, fun c' files hscanned => ?_, ?_, ?_,
    fun hsome now => (Curiosity.explore_explored _ now).of_interests hsome, fun hcalls => ?_⟩
  · change _ <+: (ActOn.after Curiosity.Call.act s.curiosity (run ++ more)).interests.keys
    rw [ActOn.after_append]
    exact (hrun.now.after more).known
  · have hnone := hrun.scanned c' files hscanned
    exact ⟨hnone, fun ending => Curiosity.filter_unexplored hnone _⟩
  · rcases hrun.found with hnone | ⟨hone, -⟩
    · rw [hnone]
      exact Nat.zero_le 1
    · exact Nat.le_of_eq hone
  · intro hfound
    exact (hrun.found.resolve_left hfound).2
  · exact Curiosity.Measured.not_oversized
      (Maintains.after (fun step hstep => Curiosity.Call.act_measured (hcalls step hstep)) hmeasured)

end Persona.Psyche
