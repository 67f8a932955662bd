import Mathlib.Data.List.Forall2
import Persona.Proofs.Mention.SharedCursors

/-!
# Delivery of mentions

What a platform has to do so that each mention is given exactly once, and the proof that it then is.

Items appear at a service, each with a greater number than those before. An inbox is checked now and
then, in any world whose cursor file is the one that was left; requests may fail, and the inbox may
be thrown away and built again from the file. The log of such a run tells which items appeared,
which checks succeeded and what they gave. Whether a check succeeds is a matter of the world it runs
in: of what it needs to ask at all, and of the answers to come.

The invariant: the cursor in the inbox is the one on file, and the mentions above it are those that
appeared since the last success and lie above the cursor of the start.

Main statements: `due_of_run`, `mem_due_iff`, `exactlyOnce_of_run`.
-/

namespace Persona.Mention

/-! ## Numbers of items -/

/-- A value stands for a place among numbers: null for the place before all of them. -/
def Stands (v : Json) : Option Int → Prop
  | none => v = .null
  | some n => 0 < n ∧ Cursor.Storable v ∧ Twitter.number v = .ok n

/-- The number that the id of an item stands for. -/
def numberOf (item : Json) : Int :=
  match item.field "id" with
  | .ok id => match Twitter.number id with
    | .ok n => n
    | .error _ => 0
  | .error _ => 0

/-- An item with an id that stands for its number. -/
def Identified (item : Json) : Prop :=
  ∃ id, item.field "id" = .ok id ∧ Stands id (some (numberOf item))

/-- An item lies above a cursor; every item lies above no cursor. -/
def isAbove (c : Option Int) (item : Json) : Bool :=
  match c with
  | none => true
  | some n => n < numberOf item

/-- The items above a cursor, the newest first. -/
def newestFirst (items : List Json) (c : Option Int) : List Json :=
  (items.filter (isAbove c)).reverse

/-- The mentions above a cursor, the newest first. -/
def fresh (isMention : Json → Bool) (items : List Json) (c : Option Int) : List Json :=
  (newestFirst items c).filter isMention

/-- The cursor after mentions were given, the newest first. -/
def advance (c : Option Int) : List Json → Option Int
  | [] => c
  | newest :: _ => some (numberOf newest)

/-- A value that stands for a number counts as true, and null does not. -/
theorem Stands.truthy_eq {v : Json} {c : Option Int} (h : Stands v c) : v.truthy = c.isSome := by
  cases c with
  | none => cases h; rfl
  | some n =>
      obtain ⟨hpos, hstorable, hnumber⟩ := h
      cases v with
      | null => cases hnumber
      | int m =>
          cases hnumber
          simp only [Json.truthy, Option.isSome_some, bne_iff_ne]
          omega
      | str s =>
          by_cases hs : s = ""
          · subst hs
            cases hnumber
          · simp only [Json.truthy, Option.isSome_some, Bool.not_eq_true']
            exact String.isEmpty_eq_false_iff.mpr hs
      | bool b | float x | arr xs | obj fs => exact hstorable.elim

theorem Stands.storable {v : Json} {c : Option Int} (h : Stands v c) : Cursor.Storable v := by
  cases c with
  | none => cases h; trivial
  | some n => exact h.2.1

section Fresh

variable (isMention : Json → Bool) {items : List Json} {c : Option Int}

theorem fresh_concat (items : List Json) (item : Json) (c : Option Int) :
    fresh isMention (items ++ [item]) c =
      (if isMention item && isAbove c item then [item] else []) ++ fresh isMention items c := by
  unfold fresh newestFirst
  rw [List.filter_append, List.reverse_append, List.filter_append]
  cases habove : isAbove c item with
  | false => simp [habove]
  | true =>
      cases hmention : isMention item with
      | false => simp [habove, hmention]
      | true => simp [habove, hmention]

theorem mem_fresh_iff {x : Json} :
    x ∈ fresh isMention items c ↔ x ∈ items ∧ isAbove c x = true ∧ isMention x = true := by
  rw [fresh, newestFirst, List.mem_filter, List.mem_reverse, List.mem_filter, and_assoc]

/-- Where numbers grow, they go down from the newest. -/
theorem fresh_decreasing (h : items.Pairwise fun a b => numberOf a < numberOf b) :
    (fresh isMention items c).Pairwise fun a b => numberOf b < numberOf a :=
  (List.pairwise_reverse.mpr (h.filter _)).filter _

/-- No mention lies above the newest one. -/
theorem fresh_advance (h : items.Pairwise fun a b => numberOf a < numberOf b) :
    fresh isMention items (advance c (fresh isMention items c)) = [] := by
  cases hfresh : fresh isMention items c with
  | nil => exact hfresh
  | cons newest rest =>
      have hdecreasing := fresh_decreasing isMention (c := c) h
      rw [hfresh, List.pairwise_cons] at hdecreasing
      have hnewest : newest ∈ fresh isMention items c := by rw [hfresh]; exact List.mem_cons_self
      rw [List.eq_nil_iff_forall_not_mem]
      intro x hx
      obtain ⟨hmem, habove, hmention⟩ := (mem_fresh_iff isMention).mp hx
      simp only [advance, isAbove, decide_eq_true_eq] at habove
      -- such a mention lies above the old cursor too, so it is among those that were given
      have hold : isAbove c x = true := by
        have hc := ((mem_fresh_iff isMention).mp hnewest).2.1
        cases c with
        | none => rfl
        | some n =>
            simp only [isAbove, decide_eq_true_eq] at hc ⊢
            omega
      have hgiven : x ∈ newest :: rest := by
        rw [← hfresh]
        exact (mem_fresh_iff isMention).mpr ⟨hmem, hold, hmention⟩
      rcases List.mem_cons.mp hgiven with rfl | hrest
      · omega
      · have hless := hdecreasing.1 x hrest
        omega

end Fresh

/-! ## Platforms -/

/-- An inbox of a platform with the service behind it, as far as delivery goes. -/
structure Platform where
  {Inbox Request Answer : Type}
  /-- The key of the cursor in the file. -/
  key : String
  lastSeen : Inbox → Json
  /-- Build an inbox from the file. -/
  build : Act Inbox
  check : ActOn Inbox (List Json)
  /-- The requests made so far. -/
  requests : World → List Request
  /-- What the service is going to answer. -/
  answers : World → List Answer
  isMention : Json → Bool
  WellFormed : Json → Prop
  /-- A value that a check gives is made of this item. -/
  Gives : Json → Json → Prop
  /-- How the service answers a request when these items have appeared. It may fail; if it does not,
  it answers with what was asked for. -/
  Serves : List Json → Request → Answer → Prop
  /-- A request of an inbox asks for the items above a place. -/
  Asks : Inbox → Option Int → Request → Prop
  /-- A world has all that a check needs: the means to ask, and answers that are no failures. -/
  reaches : World → Bool

namespace Platform

variable (P : Platform)

/-- The requests made from one world to another were served. -/
def Attended (items : List Json) (w w' : World) : Prop :=
  ∃ sent answers rest, P.requests w' = P.requests w ++ sent ∧ P.answers w = answers ++ rest ∧
    List.Forall₂ (P.Serves items) sent answers

/-- What the steps of a platform have to do: build an inbox from any file that can be kept, ask for
what lies above the cursor wherever a check can succeed, and give the fresh mentions there and
nothing elsewhere. The cursor is saved where it is moved. -/
structure Lawful : Prop where
  build_ok : ∀ {w : World} {old}, Cursor.Holds w.files old →
    ∃ s, P.build w = (.ok s, w) ∧ P.lastSeen s = Inbox.stored old P.key
  check_asks : ∀ {s : P.Inbox} {w : World} {c}, Stands (P.lastSeen s) c → P.reaches w = true →
    ∃ sent, P.requests (P.check s w).2 = P.requests w ++ sent ∧ ∃ r ∈ sent, P.Asks s c r
  check_ok : ∀ {s : P.Inbox} {w : World} {old items c}, Cursor.Holds w.files old →
    Inbox.stored old P.key = P.lastSeen s → Stands (P.lastSeen s) c →
    (∀ x ∈ items, P.WellFormed x ∧ Identified x) → P.Attended items w (P.check s w).2 →
    ∃ rs s' w' new, P.check s w = ((.ok rs, s'), w') ∧ Cursor.Holds w'.files new ∧
      Inbox.stored new P.key = P.lastSeen s' ∧
      List.Forall₂ P.Gives (if P.reaches w then fresh P.isMention items c else []) rs ∧
      Stands (P.lastSeen s') (if P.reaches w then advance c (fresh P.isMention items c) else c)

end Platform

/-! ## Runs -/

/-- What happens in a run. -/
inductive Entry where
  | appeared (item : Json)
  | rebuilt
  /-- A check, whether it was to succeed, and what it ended with. -/
  | checked (ok : Bool) (result : Except Fault (List Json))

/-- The items that have appeared, the inbox, and the files as it left them. -/
structure Scene (P : Platform) where
  items : List Json
  inbox : P.Inbox
  files : Files

/-- Files among which the cursor file is the same. -/
def SameCursorFile (t t' : Files) : Prop :=
  t'.isFolder Cursor.place = t.isFolder Cursor.place ∧ t'.text? Cursor.place = t.text? Cursor.place

/-- The runs that start with the cursor file of `t₀`, and their logs. -/
inductive Run (P : Platform) (t₀ : Files) : Scene P → List Entry → Prop where
  | start {w w' : World} {s : P.Inbox} :
      SameCursorFile t₀ w.files → P.build w = (.ok s, w') → Run P t₀ ⟨[], s, w'.files⟩ []
  | appear {scene : Scene P} {log : List Entry} {item : Json} :
      Run P t₀ scene log → P.WellFormed item → Identified item →
      (∀ x ∈ scene.items, numberOf x < numberOf item) →
      Run P t₀ { scene with items := scene.items ++ [item] } (log ++ [.appeared item])
  | rebuild {scene : Scene P} {log : List Entry} {w w' : World} {s : P.Inbox} :
      Run P t₀ scene log → SameCursorFile scene.files w.files → P.build w = (.ok s, w') →
      Run P t₀ { scene with inbox := s, files := w'.files } (log ++ [.rebuilt])
  | check {scene : Scene P} {log : List Entry} {w w' : World} {s : P.Inbox}
      {r : Except Fault (List Json)} :
      Run P t₀ scene log → SameCursorFile scene.files w.files →
      P.check scene.inbox w = ((r, s), w') → P.Attended scene.items w w' →
      Run P t₀ { scene with inbox := s, files := w'.files } (log ++ [.checked (P.reaches w) r])

theorem SameCursorFile.holds {t t' : Files} (h : SameCursorFile t t')
    {old : Option (List (String × Json))} (hold : Cursor.Holds t old) : Cursor.Holds t' old := by
  obtain ⟨hfolder, htext⟩ := h
  cases old with
  | none =>
      rw [Cursor.Holds, Files.holds] at hold ⊢
      rw [hfolder, htext]
      exact hold
  | some fs =>
      rw [Cursor.Holds] at hold ⊢
      rw [hfolder, htext]
      exact hold

/-! ## Mentions that are due -/

namespace Entry

/-- A check that was to succeed. -/
def isSuccess : Entry → Bool
  | checked ok _ => ok
  | _ => false

def item? : Entry → Option Json
  | appeared item => some item
  | _ => none

theorem isSuccess_iff {e : Entry} : e.isSuccess = true ↔ ∃ r, e = .checked true r := by
  cases e <;> simp [isSuccess]

theorem mem_item?_iff {e : Entry} {x : Json} : x ∈ e.item?.toList ↔ e = .appeared x := by
  cases e <;> simp [item?, eq_comm]

end Entry

/-- The items that appeared since the last success, the newest first. -/
def sinceSuccess (log : List Entry) : List Json :=
  (log.reverse.takeWhile (!·.isSuccess)).filterMap Entry.item?

/-- The mentions that appeared since the last success and lie above the cursor of the start. -/
def due (isMention : Json → Bool) (c₀ : Option Int) (log : List Entry) : List Json :=
  (sinceSuccess log).filter fun x => isMention x && isAbove c₀ x

theorem sinceSuccess_concat (log : List Entry) (e : Entry) :
    sinceSuccess (log ++ [e]) =
      if e.isSuccess then [] else e.item?.toList ++ sinceSuccess log := by
  unfold sinceSuccess
  rw [List.reverse_append, List.reverse_singleton, List.singleton_append, List.takeWhile_cons]
  cases e with
  | appeared item => rfl
  | rebuilt => rfl
  | checked ok r => cases ok <;> rfl

theorem due_concat (isMention : Json → Bool) (c₀ : Option Int) (log : List Entry) (e : Entry) :
    due isMention c₀ (log ++ [e]) =
      if e.isSuccess then []
      else e.item?.toList.filter (fun x => isMention x && isAbove c₀ x) ++
        due isMention c₀ log := by
  rw [due, sinceSuccess_concat]
  split
  · rfl
  · rw [List.filter_append, due]

/-- An item appeared at one place of a log, and the first success after it is at another. -/
def FirstSuccess (log : List Entry) (i j : Nat) : Prop :=
  i < j ∧ (∃ r, log[j]? = some (.checked true r)) ∧
    ∀ k, i < k → k < j → ∀ r, log[k]? ≠ some (.checked true r)

theorem FirstSuccess.unique {log : List Entry} {i j j' : Nat} (h : FirstSuccess log i j)
    (h' : FirstSuccess log i j') : j = j' := by
  obtain ⟨hij, ⟨r, hj⟩, hno⟩ := h
  obtain ⟨hij', ⟨r', hj'⟩, hno'⟩ := h'
  rcases Nat.lt_trichotomy j j' with hlt | heq | hgt
  · exact absurd hj (hno' j hij hlt r)
  · exact heq
  · exact absurd hj' (hno j' hij' hgt r')

/-- If a check succeeds after a place of a log, one is the first to do so. -/
theorem exists_firstSuccess {log : List Entry} {i k : Nat} {r : Except Fault (List Json)}
    (hik : i < k) (hk : log[k]? = some (.checked true r)) : ∃ j, FirstSuccess log i j := by
  induction k using Nat.strongRecOn generalizing r with
  | ind k ih =>
      by_cases hearlier : ∃ k', i < k' ∧ k' < k ∧ ∃ r', log[k']? = some (.checked true r')
      · obtain ⟨k', hik', hlt, r', hk'⟩ := hearlier
        exact ih k' hlt hik' hk'
      · exact ⟨k, hik, ⟨r, hk⟩, fun k' hik' hlt r' hk' => hearlier ⟨k', hik', hlt, r', hk'⟩⟩

theorem getElem?_concat_cases {α : Type} {log : List α} {e e' : α} {i : Nat}
    (h : (log ++ [e])[i]? = some e') :
    (i < log.length ∧ log[i]? = some e') ∨ (i = log.length ∧ e = e') := by
  rcases Nat.lt_trichotomy i log.length with hlt | rfl | hgt
  · rw [List.getElem?_append_left hlt] at h
    exact .inl ⟨hlt, h⟩
  · rw [List.getElem?_concat_length, Option.some.injEq] at h
    exact .inr ⟨rfl, h⟩
  · rw [List.getElem?_eq_none (by rw [List.length_append, List.length_singleton]; omega)] at h
    cases h

/-- The items since the last success are those after whose appearance no check succeeded. -/
theorem mem_sinceSuccess_iff {log : List Entry} {x : Json} :
    x ∈ sinceSuccess log ↔ ∃ i : Nat, log[i]? = some (.appeared x) ∧
      ∀ k, i < k → ∀ r, log[k]? ≠ some (.checked true r) := by
  induction log using List.reverseRecOn with
  | nil => simp [sinceSuccess]
  | append_singleton log e ih =>
      rw [sinceSuccess_concat]
      constructor
      · intro hx
        split at hx
        · cases hx
        · next hsuccess =>
            rcases List.mem_append.mp hx with hitem | hold
            · -- the item is the last entry, which nothing follows
              have he := Entry.mem_item?_iff.mp hitem
              refine ⟨log.length, by rw [List.getElem?_concat_length, he], fun k hk r hk' => ?_⟩
              rcases getElem?_concat_cases hk' with ⟨hlt, -⟩ | ⟨rfl, -⟩ <;> omega
            · obtain ⟨i, hi, hno⟩ := ih.mp hold
              have hlt := (List.getElem?_eq_some_iff.mp hi).1
              refine ⟨i, by rw [List.getElem?_append_left hlt, hi], fun k hk r hk' => ?_⟩
              rcases getElem?_concat_cases hk' with ⟨-, hold'⟩ | ⟨-, he⟩
              · exact hno k hk r hold'
              · exact hsuccess (Entry.isSuccess_iff.mpr ⟨r, he⟩)
      · rintro ⟨i, hi, hno⟩
        have hsuccess : ¬e.isSuccess = true := by
          intro hs
          obtain ⟨r, rfl⟩ := Entry.isSuccess_iff.mp hs
          rcases getElem?_concat_cases hi with ⟨hlt, -⟩ | ⟨-, he⟩
          · exact absurd List.getElem?_concat_length (hno log.length hlt r)
          · cases he
        rw [if_neg hsuccess, List.mem_append]
        rcases getElem?_concat_cases hi with ⟨hlt, hold⟩ | ⟨-, he⟩
        · refine .inr (ih.mpr ⟨i, hold, fun k hk r hk' => hno k hk r ?_⟩)
          rw [List.getElem?_append_left (List.getElem?_eq_some_iff.mp hk').1, hk']
        · exact .inl (Entry.mem_item?_iff.mpr he)

/-- At a success, a mention is due if the success is the first one after it appeared. -/
theorem mem_due_iff {isMention : Json → Bool} {c₀ : Option Int} {log : List Entry} {j : Nat}
    {r : Except Fault (List Json)} (hj : log[j]? = some (.checked true r)) {x : Json} :
    x ∈ due isMention c₀ (log.take j) ↔ isMention x = true ∧ isAbove c₀ x = true ∧
      ∃ i : Nat, log[i]? = some (.appeared x) ∧ FirstSuccess log i j := by
  rw [due, List.mem_filter, mem_sinceSuccess_iff, Bool.and_eq_true]
  constructor
  · rintro ⟨⟨i, hi, hno⟩, hmention, habove⟩
    rw [List.getElem?_take] at hi
    split at hi
    · next hlt =>
        refine ⟨hmention, habove, i, hi, hlt, ⟨r, hj⟩, fun k hik hkj r' hk => hno k hik r' ?_⟩
        rw [List.getElem?_take, if_pos hkj, hk]
    · cases hi
  · rintro ⟨hmention, habove, i, hi, hlt, -, hno⟩
    refine ⟨⟨i, ?_, fun k hik r' hk => ?_⟩, hmention, habove⟩
    · rw [List.getElem?_take, if_pos hlt, hi]
    · rw [List.getElem?_take] at hk
      split at hk
      · next hkj => exact hno k hik hkj r' hk
      · cases hk

/-! ## The invariant -/

section Invariant

variable {P : Platform} {t₀ : Files} {c₀ : Option Int}

/-- The cursor of the inbox is the one on file and stands for a place at or above that of the
start. Above it lie the mentions that are due. -/
structure Settled (P : Platform) (c₀ : Option Int) (scene : Scene P) (log : List Entry)
    (old : Option (List (String × Json))) (c : Option Int) : Prop where
  holds : Cursor.Holds scene.files old
  stored : Inbox.stored old P.key = P.lastSeen scene.inbox
  stands : Stands (P.lastSeen scene.inbox) c
  reached : c = c₀ ∨ ∃ x ∈ scene.items, isAbove c₀ x = true ∧ c = some (numberOf x)
  wellFormed : ∀ x ∈ scene.items, P.WellFormed x ∧ Identified x
  increasing : scene.items.Pairwise fun a b => numberOf a < numberOf b
  fresh_eq : fresh P.isMention scene.items c = due P.isMention c₀ log

/-- An item that is newer than all others lies above the cursor if it lies above that of the
start. -/
theorem Settled.isAbove_eq {scene : Scene P} {log : List Entry}
    {old : Option (List (String × Json))} {c : Option Int} (h : Settled P c₀ scene log old c)
    {item : Json} (hitem : ∀ x ∈ scene.items, numberOf x < numberOf item) :
    isAbove c item = isAbove c₀ item := by
  rcases h.reached with rfl | ⟨x, hx, habove, rfl⟩
  · rfl
  · have hless := hitem x hx
    have hc₀ : isAbove c₀ item = true := by
      cases c₀ with
      | none => rfl
      | some n =>
          simp only [isAbove, decide_eq_true_eq] at habove ⊢
          omega
    rw [hc₀, isAbove, decide_eq_true_eq]
    exact hless

theorem Settled.appear {scene : Scene P} {log : List Entry}
    {old : Option (List (String × Json))} {c : Option Int} (h : Settled P c₀ scene log old c)
    {item : Json} (hwellFormed : P.WellFormed item) (hidentified : Identified item)
    (hitem : ∀ x ∈ scene.items, numberOf x < numberOf item) :
    Settled P c₀ { scene with items := scene.items ++ [item] } (log ++ [.appeared item]) old c where
  holds := h.holds
  stored := h.stored
  stands := h.stands
  reached := by
    rcases h.reached with hc | ⟨x, hx, hrest⟩
    · exact .inl hc
    · exact .inr ⟨x, List.mem_append_left _ hx, hrest⟩
  wellFormed x hx := by
    rcases List.mem_append.mp hx with hold | hnew
    · exact h.wellFormed x hold
    · rw [List.mem_singleton] at hnew
      subst hnew
      exact ⟨hwellFormed, hidentified⟩
  increasing := by
    rw [List.pairwise_append]
    refine ⟨h.increasing, List.pairwise_singleton _ _, fun x hx y hy => ?_⟩
    rw [List.mem_singleton] at hy
    subst hy
    exact hitem x hx
  fresh_eq := by
    rw [fresh_concat, due_concat, h.isAbove_eq hitem, h.fresh_eq]
    cases hdue : P.isMention item && isAbove c₀ item <;> simp [Entry.isSuccess, Entry.item?, hdue]

theorem Settled.rebuild {scene : Scene P} {log : List Entry}
    {old : Option (List (String × Json))} {c : Option Int} (h : Settled P c₀ scene log old c)
    {w : World} (hw : SameCursorFile scene.files w.files) {s : P.Inbox}
    (hs : P.lastSeen s = Inbox.stored old P.key) :
    Settled P c₀ { scene with inbox := s, files := w.files } (log ++ [.rebuilt]) old c where
  holds := hw.holds h.holds
  stored := hs.symm
  stands := by
    rw [hs, h.stored]
    exact h.stands
  reached := h.reached
  wellFormed := h.wellFormed
  increasing := h.increasing
  fresh_eq := by
    rw [due_concat]
    exact h.fresh_eq

/-- A check that succeeds gives what is due and leaves nothing due; one that does not gives nothing
and changes nothing. -/
theorem Settled.check (hP : P.Lawful) {scene : Scene P} {log : List Entry}
    {old : Option (List (String × Json))} {c : Option Int} (h : Settled P c₀ scene log old c)
    {w w' : World} {s : P.Inbox} {r : Except Fault (List Json)}
    (hw : SameCursorFile scene.files w.files) (hcheck : P.check scene.inbox w = ((r, s), w'))
    (hattended : P.Attended scene.items w w') :
    ∃ rs new c', r = .ok rs ∧
      List.Forall₂ P.Gives (if P.reaches w then due P.isMention c₀ log else []) rs ∧
      Settled P c₀ { scene with inbox := s, files := w'.files }
        (log ++ [.checked (P.reaches w) r]) new c' := by
  have hw' : (P.check scene.inbox w).2 = w' := by rw [hcheck]
  rw [← hw'] at hattended
  obtain ⟨rs, s', w'', new, hcheck', hnew, hstored, hgives, hstands⟩ :=
    hP.check_ok (hw.holds h.holds) h.stored h.stands h.wellFormed hattended
  rw [hcheck] at hcheck'
  cases hcheck'
  generalize P.reaches w = ok at hgives hstands ⊢
  rw [← h.fresh_eq]
  refine ⟨rs, new, _, rfl, hgives, hnew, hstored, hstands, ?_, h.wellFormed, h.increasing, ?_⟩
  · -- the cursor has gone to a fresh mention, which lies above the old cursor
    cases ok with
    | false => exact h.reached
    | true =>
        cases hfresh : fresh P.isMention scene.items c with
        | nil => exact h.reached
        | cons newest rest =>
            have hmem : newest ∈ fresh P.isMention scene.items c := by
              rw [hfresh]
              exact List.mem_cons_self
            rw [h.fresh_eq] at hmem
            have habove := (List.mem_filter.mp hmem).2
            rw [Bool.and_eq_true] at habove
            rw [← h.fresh_eq] at hmem
            exact .inr ⟨newest, ((mem_fresh_iff _).mp hmem).1, habove.2, rfl⟩
  · rw [due_concat]
    cases ok with
    | false => exact h.fresh_eq
    | true => exact fresh_advance P.isMention h.increasing

/-! ## Whole runs -/

/-- Along a run the invariant holds, and each check gave what was due if it succeeded, the newest
first, and nothing if it did not. -/
theorem due_of_run (hP : P.Lawful) {old₀ : Option (List (String × Json))}
    (hold : Cursor.Holds t₀ old₀) (hcursor : Stands (Inbox.stored old₀ P.key) c₀)
    {scene : Scene P} {log : List Entry} (hrun : Run P t₀ scene log) :
    (∃ old c, Settled P c₀ scene log old c) ∧
      ∀ (j : Nat) ok r, log[j]? = some (.checked ok r) → ∃ rs, r = .ok rs ∧
        List.Forall₂ P.Gives (if ok then due P.isMention c₀ (log.take j) else []) rs ∧
        (due P.isMention c₀ (log.take j)).Pairwise fun a b => numberOf b < numberOf a := by
  induction hrun with
  | @start w w' s hw hbuild =>
      have hfile := hw.holds hold
      obtain ⟨s', hbuild', hs⟩ := hP.build_ok hfile
      rw [hbuild] at hbuild'
      cases hbuild'
      refine ⟨⟨old₀, c₀, hfile, hs.symm, ?_, .inl rfl, ?_, List.Pairwise.nil, rfl⟩, ?_⟩
      · rw [hs]
        exact hcursor
      · exact fun x hx => absurd hx List.not_mem_nil
      · intro j ok r hj
        cases hj
  | appear _ hwellFormed hidentified hitem ih =>
      obtain ⟨⟨old, c, hsettled⟩, hgiven⟩ := ih
      refine ⟨⟨old, c, hsettled.appear hwellFormed hidentified hitem⟩, fun j ok r hj => ?_⟩
      rcases getElem?_concat_cases hj with ⟨hlt, hj'⟩ | ⟨-, he⟩
      · rw [List.take_append_of_le_length (Nat.le_of_lt hlt)]
        exact hgiven j ok r hj'
      · cases he
  | @rebuild scene log w w' s _ hw hbuild ih =>
      obtain ⟨⟨old, c, hsettled⟩, hgiven⟩ := ih
      obtain ⟨s', hbuild', hs⟩ := hP.build_ok (hw.holds hsettled.holds)
      rw [hbuild] at hbuild'
      cases hbuild'
      refine ⟨⟨old, c, hsettled.rebuild hw hs⟩, fun j ok r hj => ?_⟩
      rcases getElem?_concat_cases hj with ⟨hlt, hj'⟩ | ⟨-, he⟩
      · rw [List.take_append_of_le_length (Nat.le_of_lt hlt)]
        exact hgiven j ok r hj'
      · cases he
  | @check scene log w w' s r _ hw hcheck hattended ih =>
      obtain ⟨⟨old, c, hsettled⟩, hgiven⟩ := ih
      obtain ⟨rs, new, c', hr, hgives, hnew⟩ := hsettled.check hP hw hcheck hattended
      refine ⟨⟨new, c', hnew⟩, fun j ok' r' hj => ?_⟩
      rcases getElem?_concat_cases hj with ⟨hlt, hj'⟩ | ⟨rfl, he⟩
      · rw [List.take_append_of_le_length (Nat.le_of_lt hlt)]
        exact hgiven j ok' r' hj'
      · cases he
        rw [List.take_left]
        refine ⟨rs, hr, hgives, ?_⟩
        rw [← hsettled.fresh_eq]
        exact fresh_decreasing _ hsettled.increasing

theorem items_of_run {scene : Scene P} {log : List Entry} (hrun : Run P t₀ scene log) :
    scene.items = log.filterMap Entry.item? := by
  induction hrun with
  | start => rfl
  | appear _ _ _ _ ih =>
      rw [List.filterMap_append, ← ih]
      rfl
  | rebuild _ _ _ ih =>
      rw [List.filterMap_append, ← ih]
      exact (List.append_nil _).symm
  | check _ _ _ _ ih =>
      rw [List.filterMap_append, ← ih]
      exact (List.append_nil _).symm

/-- Where numbers grow, an item appears once. -/
theorem appeared_unique {log : List Entry}
    (h : (log.filterMap Entry.item?).Pairwise fun a b => numberOf a < numberOf b) {i i' : Nat}
    {x : Json} (hi : log[i]? = some (.appeared x)) (hi' : log[i']? = some (.appeared x)) :
    i = i' := by
  rw [List.pairwise_filterMap, List.pairwise_iff_getElem] at h
  have hnot : ∀ k k' : Nat, log[k]? = some (.appeared x) → log[k']? = some (.appeared x) →
      ¬k < k' := by
    intro k k' hk hk' hless
    obtain ⟨hlt, hx⟩ := List.getElem?_eq_some_iff.mp hk
    obtain ⟨hlt', hx'⟩ := List.getElem?_eq_some_iff.mp hk'
    exact Int.lt_irrefl _ (h k k' hlt hlt' hless x (by rw [hx]; rfl) x (by rw [hx']; rfl))
  have hle := hnot i i' hi hi'
  have hge := hnot i' i hi' hi
  omega

/-- The mentions that the checks of a log give, each exactly once: `batch j` are those of the check
at the place `j`. -/
structure ExactlyOnce (P : Platform) (c₀ : Option Int) (log : List Entry)
    (batch : Nat → List Json) : Prop where
  /-- Every check ends well, and its result is made of the mentions it gives. -/
  given : ∀ (j : Nat) ok r, log[j]? = some (.checked ok r) →
    ∃ rs, r = .ok rs ∧ List.Forall₂ P.Gives (batch j) rs
  /-- Within one check no mention is given twice. -/
  decreasing : ∀ j, (batch j).Pairwise fun a b => numberOf b < numberOf a
  /-- Nothing else is given. -/
  appeared : ∀ j, ∀ x ∈ batch j, P.isMention x = true ∧ isAbove c₀ x = true ∧
    ∃ i : Nat, log[i]? = some (.appeared x)
  /-- A mention is given by the first check that succeeds after it appeared, and by no other. -/
  first : ∀ (i : Nat) x, log[i]? = some (.appeared x) → P.isMention x = true →
    isAbove c₀ x = true → ∀ j, x ∈ batch j ↔ FirstSuccess log i j
  once : ∀ (i : Nat) x, log[i]? = some (.appeared x) → P.isMention x = true →
    isAbove c₀ x = true → (∃ k, i < k ∧ ∃ r, log[k]? = some (.checked true r)) → ∃! j, x ∈ batch j

/-- The mentions that are due at a place of a log, if a check succeeds there. -/
def dueAt (isMention : Json → Bool) (c₀ : Option Int) (log : List Entry) (j : Nat) : List Json :=
  match log[j]? with
  | some (.checked true _) => due isMention c₀ (log.take j)
  | _ => []

theorem dueAt_of_checked {isMention : Json → Bool} {log : List Entry} {j : Nat} {ok : Bool}
    {r : Except Fault (List Json)} (h : log[j]? = some (.checked ok r)) :
    dueAt isMention c₀ log j = if ok then due isMention c₀ (log.take j) else [] := by
  rw [dueAt, h]
  cases ok <;> rfl

/-- Something is due only where a check succeeds. -/
theorem success_of_mem_dueAt {isMention : Json → Bool} {log : List Entry} {j : Nat} {x : Json}
    (h : x ∈ dueAt isMention c₀ log j) : ∃ r, log[j]? = some (.checked true r) := by
  unfold dueAt at h
  split at h
  · next r hj => exact ⟨r, hj⟩
  · cases h

theorem mem_dueAt_iff {isMention : Json → Bool} {log : List Entry} {j : Nat} {x : Json} :
    x ∈ dueAt isMention c₀ log j ↔ isMention x = true ∧ isAbove c₀ x = true ∧
      ∃ i : Nat, log[i]? = some (.appeared x) ∧ FirstSuccess log i j := by
  constructor
  · intro hx
    obtain ⟨r, hj⟩ := success_of_mem_dueAt hx
    rw [dueAt_of_checked hj] at hx
    exact (mem_due_iff hj).mp hx
  · rintro ⟨hmention, habove, i, hi, hfirst⟩
    obtain ⟨r, hj⟩ := hfirst.2.1
    rw [dueAt_of_checked hj]
    exact (mem_due_iff hj).mpr ⟨hmention, habove, i, hi, hfirst⟩

/-- A lawful platform gives each mention exactly once. -/
theorem exactlyOnce_of_run (hP : P.Lawful) {old₀ : Option (List (String × Json))}
    (hold : Cursor.Holds t₀ old₀) (hcursor : Stands (Inbox.stored old₀ P.key) c₀)
    {scene : Scene P} {log : List Entry} (hrun : Run P t₀ scene log) :
    ExactlyOnce P c₀ log (dueAt P.isMention c₀ log) := by
  obtain ⟨⟨old, c, hsettled⟩, hgiven⟩ := due_of_run hP hold hcursor hrun
  have hincreasing := hsettled.increasing
  rw [items_of_run hrun] at hincreasing
  have hfirst : ∀ (i : Nat) x, log[i]? = some (.appeared x) → P.isMention x = true →
      isAbove c₀ x = true → ∀ j, x ∈ dueAt P.isMention c₀ log j ↔ FirstSuccess log i j := by
    intro i x hi hmention habove j
    rw [mem_dueAt_iff]
    constructor
    · rintro ⟨-, -, i', hi', hj⟩
      rw [appeared_unique hincreasing hi hi']
      exact hj
    · exact fun hj => ⟨hmention, habove, i, hi, hj⟩
  refine ⟨?_, ?_, ?_, hfirst, ?_⟩
  · intro j ok r hj
    obtain ⟨rs, hr, hgives, -⟩ := hgiven j ok r hj
    rw [dueAt_of_checked hj]
    exact ⟨rs, hr, hgives⟩
  · intro j
    cases hdue : dueAt P.isMention c₀ log j with
    | nil => exact List.Pairwise.nil
    | cons x xs =>
        have hx : x ∈ dueAt P.isMention c₀ log j := by
          rw [hdue]
          exact List.mem_cons_self
        obtain ⟨r, hj⟩ := success_of_mem_dueAt hx
        obtain ⟨rs, -, -, hdecreasing⟩ := hgiven j true r hj
        rw [dueAt_of_checked hj, if_pos rfl] at hdue
        rw [← hdue]
        exact hdecreasing
  · intro j x hx
    obtain ⟨hmention, habove, i, hi, -⟩ := mem_dueAt_iff.mp hx
    exact ⟨hmention, habove, i, hi⟩
  · rintro i x hi hmention habove ⟨k, hik, r, hk⟩
    obtain ⟨j, hj⟩ := exists_firstSuccess hik hk
    refine ⟨j, (hfirst i x hi hmention habove j).mpr hj, fun j' hj' => ?_⟩
    exact ((hfirst i x hi hmention habove j').mp hj').unique hj

end Invariant

end Persona.Mention
