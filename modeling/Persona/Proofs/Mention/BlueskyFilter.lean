import Persona.Proofs.Mention.Checks

/-!
# What a Bluesky check gives

A check is to give the mentions that are later than the cursor was when it began. But the cursor
moves to the newest mention before the mentions are compared with it, and none of them is later than
the newest one. So a check gives nothing, and this is right just when there was nothing new.

A single mention whose time is empty is the exception: an empty cursor counts as none.

Main statements: `check_of_listing`, `givesLater_iff`, and `new_mention_not_given` for a mention
that is lost.
-/

namespace Persona

/-! ## The order of texts -/

namespace Text

theorem comparePoints_self (ps : List Nat) : comparePoints ps ps = .eq := by
  induction ps with
  | nil => rfl
  | cons p ps ih => rw [comparePoints, if_neg (Nat.lt_irrefl p), if_neg (Nat.lt_irrefl p), ih]

theorem comparePoints_swap (ps qs : List Nat) :
    (comparePoints ps qs).swap = comparePoints qs ps := by
  induction ps generalizing qs with
  | nil => cases qs <;> rfl
  | cons p ps ih =>
      cases qs with
      | nil => rfl
      | cons q qs =>
          rw [comparePoints, comparePoints]
          rcases Nat.lt_trichotomy p q with hlt | rfl | hgt
          · rw [if_pos hlt, if_neg (Nat.lt_asymm hlt), if_pos hlt]
            rfl
          · simp only [Nat.lt_irrefl, if_false, ih]
          · rw [if_neg (Nat.lt_asymm hgt), if_pos hgt, if_pos hgt]
            rfl

/-- A text is not greater than one that is greater than it, or than itself. -/
theorem order_ne_gt {s t : String} (h : s = t ∨ order t s = .gt) : order s t ≠ .gt := by
  rcases h with rfl | h
  · rw [order, comparePoints_self]
    decide
  · rw [order, ← comparePoints_swap]
    rw [order] at h
    rw [h]
    decide

/-- No text is less than the empty one. -/
theorem order_empty_ne_gt (t : String) : order "" t ≠ .gt := by
  change comparePoints [] (points t) ≠ .gt
  cases points t with
  | nil => decide
  | cons p ps => exact Ordering.noConfusion

end Text

namespace Mention.BlueskyInbox

/-! ## Listings -/

/-- The time at which a notification was indexed. -/
def timeOf (n : Json) : String :=
  match n.field "indexedAt" with
  | .ok (.str t) => t
  | _ => ""

/-- A time later than a cursor; every time is later than no cursor. -/
def isLater (cursor : Option String) (t : String) : Bool :=
  match cursor with
  | none => true
  | some c => Text.order t c == .gt

/-- The mentions that are later than a cursor. -/
def later (cursor : Option String) (ms : List Json) : List Json :=
  ms.filter fun n => isLater cursor (timeOf n)

/-- The inbox has a session, and the next answer is a success that lists notifications. Those of
them that are mentions have times that decrease strictly. -/
structure Listing (s : BlueskyInbox) (w : World) (ms : List Json) : Prop where
  session : s.session.truthy = true
  token : ∃ token, s.session.field "accessJwt" = .ok token
  answered : ∃ reply rest body ns, w.http = .gives reply :: rest ∧ reply.ok = true ∧
    reply.json = some body ∧ body.fieldOr "notifications" (.arr []) = .ok (.arr ns) ∧
    (∀ n ∈ ns, ∃ fs, n = .obj fs) ∧ ms = ns.filter (hasText · "reason" "mention")
  times : ∀ n ∈ ms, n.field "indexedAt" = .ok (.str (timeOf n))
  decreasing : ms.Pairwise fun a b => Text.order (timeOf a) (timeOf b) = .gt

variable {s : BlueskyInbox} {w : World} {ms : List Json}

/-- A field that is there is found whether or not there is a fallback. -/
theorem fieldOr_of_field {v x : Json} {key : String} (h : v.field key = .ok x) (fallback : Json) :
    v.fieldOr key fallback = .ok x := by
  cases v with
  | obj fs =>
      rw [Json.field] at h
      rw [Json.fieldOr]
      cases hget : Fields.get? fs key with
      | none => rw [hget] at h; cases h
      | some y => rw [hget] at h; cases h; rfl
  | null | bool b | int n | float x | str s | arr xs => cases h

/-- The first part of a fetch reads the newest mention's time, without a look at the cursor. -/
theorem ask_of_listing (h : Listing s w ms) :
    ∃ w₁ : World, w₁.files = w.files ∧
      ask s w = (.ok (ms.head?.map fun n =>
        ⟨.str (timeOf n), newer (.str (timeOf n)) ms⟩), w₁) := by
  obtain ⟨token, htoken⟩ := h.token
  obtain ⟨reply, rest, body, ns, hhttp, hok, hbody, hns, hobjects, rfl⟩ := h.answered
  have hheaders : Bluesky.authorization s.session w =
      (.ok [("Authorization", "Bearer " ++ token.text)], w) := by
    rw [Bluesky.authorization, htoken]
    rfl
  have hmentions : mentionsOf body = .ok (ns.filter (hasText · "reason" "mention")) := by
    rw [mentionsOf, hns]
    exact filterM_hasText hobjects "reason" "mention"
  have hrequest := Act.http_apply (request [("Authorization", "Bearer " ++ token.text)]) w
  rw [hhttp] at hrequest
  refine ⟨{ w.record (.http (request [("Authorization", "Bearer " ++ token.text)])) with
    http := rest }, rfl, ?_⟩
  rw [ask, Act.bind_of_ok hheaders, Act.bind_of_ok hrequest, hok, if_neg (by decide),
    Act.bind_of_ok (Act.body_of_some hbody _), hmentions, Act.bind_of_ok (Act.look_ok _ _)]
  cases hms : ns.filter (hasText · "reason" "mention") with
  | nil => rfl
  | cons n rest' =>
      have htime : n.fieldOrNull "indexedAt" = .ok (.str (timeOf n)) :=
        fieldOr_of_field (h.times n (by rw [hms]; exact List.mem_cons_self)) .null
      simp only
      rw [htime, Act.bind_of_ok (Act.look_ok _ _)]
      rfl

/-! ## The filter after the move -/

/-- Compared with the newest time, no mention is newer. -/
theorem newer_newest {t : String} (ht : t ≠ "")
    (hms : ∀ n ∈ ms, n.field "indexedAt" = .ok (.str (timeOf n)) ∧ Text.order (timeOf n) t ≠ .gt) :
    newer (.str t) ms = .ok [] := by
  have htruthy : (Json.str t).truthy = true := by
    simp only [Json.truthy, Bool.not_eq_true']
    exact String.isEmpty_eq_false_iff.mpr ht
  induction ms with
  | nil => rfl
  | cons n ms ih =>
      obtain ⟨htime, hle⟩ := hms n List.mem_cons_self
      have hnot : (Text.order (timeOf n) t == .gt) = false := by simpa using hle
      rw [newer, htruthy, if_pos rfl, fieldOr_of_field htime]
      change (if (Text.order (timeOf n) t == .gt) = true then _ else newer (.str t) ms) = _
      rw [hnot, if_neg Bool.false_ne_true]
      exact ih fun m hm => hms m (List.mem_cons_of_mem n hm)

/-- Compared with an empty time, which counts as none, every mention is newer. -/
theorem newer_empty (ms : List Json) : newer (.str "") ms = ms.mapM mention := by
  induction ms with
  | nil => rfl
  | cons n ms ih =>
      rw [newer, List.mapM_cons, ← ih]
      rfl

/-- A single mention whose time is empty, that can be taken apart and whose time can be saved. -/
def Blank (w : World) (ms : List Json) : Prop :=
  ∃ n m, ms = [n] ∧ timeOf n = "" ∧ mention n = .ok m ∧ (Cursor.save key (.str "") w).1 = .ok ()

/-- The place to which the cursor goes. -/
def newest (s : BlueskyInbox) (ms : List Json) : Json :=
  (ms.head?.map fun n => .str (timeOf n)).getD s.lastSeen

/-- Times that decrease from an empty one are no more than that one. -/
theorem eq_nil_of_decreasing {n : Json} (hn : timeOf n = "")
    (h : (n :: ms).Pairwise fun a b => Text.order (timeOf a) (timeOf b) = .gt) : ms = [] := by
  cases ms with
  | nil => rfl
  | cons m ms =>
      have hgt := (List.pairwise_cons.mp h).1 m List.mem_cons_self
      rw [hn] at hgt
      exact absurd hgt (Text.order_empty_ne_gt (timeOf m))

/-- Of mentions with decreasing times none is newer than the first; where that one has no time, it
stands alone and counts as newer. -/
theorem newer_of_decreasing {n : Json}
    (htimes : ∀ m ∈ n :: ms, m.field "indexedAt" = .ok (.str (timeOf m)))
    (h : (n :: ms).Pairwise fun a b => Text.order (timeOf a) (timeOf b) = .gt) :
    newer (.str (timeOf n)) (n :: ms) = if timeOf n = "" then [n].mapM mention else .ok [] := by
  split
  · next htime => rw [htime, newer_empty, eq_nil_of_decreasing htime h]
  · next htime =>
      refine newer_newest htime fun m hm => ⟨htimes m hm, Text.order_ne_gt ?_⟩
      rcases List.mem_cons.mp hm with rfl | hrest
      · exact .inl rfl
      · exact .inr ((List.pairwise_cons.mp h).1 m hrest)

theorem blank_cons {n : Json} (h : Blank w (n :: ms)) : timeOf n = "" ∧ ms = [] ∧
    (∃ m, mention n = .ok m) ∧ (Cursor.save key (.str (timeOf n)) w).1 = .ok () := by
  obtain ⟨n', m, hn, htime, hm, hsaved⟩ := h
  cases hn
  rw [htime]
  exact ⟨rfl, rfl, ⟨m, hm⟩, hsaved⟩

/-- A check moves the cursor to the newest mention. It gives nothing, but for a blank mention, which
it gives whatever the cursor was. -/
theorem check_of_listing (h : Listing s w ms) :
    ∃ rs w', check s w = ((.ok rs, { s with lastSeen := newest s ms }), w') ∧
      (Blank w ms → ms.mapM mention = .ok rs) ∧ (¬Blank w ms → rs = []) := by
  obtain ⟨w₁, hfiles, hask⟩ := ask_of_listing h
  have hsession : ensureSession s w = ((.ok true, s), w) := by
    rw [ensureSession, ActOn.bind_of_ok (ActOn.get_apply s w), h.session]
    exact congrArg (fun b => ((Except.ok b, s), w)) h.session
  have hcheck := check_of_session hsession
  rw [fetch_eq, hask] at hcheck
  cases ms with
  | nil =>
      refine ⟨[], w₁, hcheck, fun hblank => ?_, fun _ => rfl⟩
      obtain ⟨n, m, hnil, -⟩ := hblank
      cases hnil
  | cons n rest =>
      have hframe := (Cursor.filing_save key (.str (timeOf n))).frame w w₁ hfiles
      rcases hsave : Cursor.save key (.str (timeOf n)) w with ⟨r, w₂⟩
      rw [hsave] at hframe
      rw [List.head?_cons, Option.map_some, newer_of_decreasing h.times h.decreasing, conclude,
        hframe] at hcheck
      cases r with
      | error f =>
          refine ⟨[], _, hcheck, fun hblank => ?_, fun _ => rfl⟩
          have hsaved := (blank_cons hblank).2.2.2
          rw [hsave] at hsaved
          cases hsaved
      | ok a =>
          by_cases htime : timeOf n = ""
          · have hnil := eq_nil_of_decreasing htime h.decreasing
            subst hnil
            simp only [if_pos htime, List.mapM_cons, List.mapM_nil] at hcheck ⊢
            cases hm : mention n with
            | error e =>
                rw [hm] at hcheck
                refine ⟨[], _, hcheck, fun hblank => ?_, fun _ => rfl⟩
                obtain ⟨-, -, ⟨m, hm'⟩, -⟩ := blank_cons hblank
                rw [hm] at hm'
                cases hm'
            | ok m =>
                rw [hm] at hcheck
                have hblank : Blank w [n] := ⟨n, m, rfl, htime, hm, by rw [← htime, hsave]⟩
                exact ⟨[m], _, hcheck, fun _ => rfl, fun hnot => absurd hblank hnot⟩
          · simp only [if_neg htime] at hcheck
            exact ⟨[], _, hcheck, fun hblank => absurd (blank_cons hblank).1 htime, fun _ => rfl⟩

/-! ## When a check gives what it should -/

/-- The time at which an inbox stands; none when it has seen nothing yet. -/
def cursor (s : BlueskyInbox) : Option String :=
  match s.lastSeen with
  | .str t => some t
  | _ => none

/-- A check gives the mentions that are later than the cursor was, in their order, and moves the
cursor to the newest one. -/
def GivesLater (s : BlueskyInbox) (w : World) (ms : List Json) : Prop :=
  ∃ rs s' w', check s w = ((.ok rs, s'), w') ∧ (later s.cursor ms).mapM mention = .ok rs ∧
    s'.lastSeen = newest s ms

theorem mapM_eq_nil_iff (ns : List Json) : ns.mapM mention = .ok [] ↔ ns = [] := by
  constructor
  · intro h
    cases ns with
    | nil => rfl
    | cons n ns =>
        rw [List.mapM_cons] at h
        obtain ⟨m, -, h⟩ := Outcome.of_bind_eq_ok h
        obtain ⟨ms, -, h⟩ := Outcome.of_bind_eq_ok h
        cases h
  · rintro rfl
    rfl

/-- Later than a cursor is no mention with an empty time, and later than none is every mention. -/
theorem later_blank {n : Json} (htime : timeOf n = "") (cursor : Option String) :
    later cursor [n] = if cursor = none then [n] else [] := by
  cases cursor with
  | none => rfl
  | some c =>
      have hnot : isLater (some c) (timeOf n) = false := by
        rw [htime, isLater]
        simpa using Text.order_empty_ne_gt c
      rw [later, List.filter_cons, hnot]
      rfl

/-- Whatever the cursor was, a check gives the mentions that are later just when there are none to
give, or, for a blank mention, when there was no cursor. -/
theorem givesLater_iff (s : BlueskyInbox) (w : World) (ms : List Json) (h : Listing s w ms) :
    GivesLater s w ms ↔
      (¬Blank w ms ∧ later s.cursor ms = []) ∨ (Blank w ms ∧ s.cursor = none) := by
  obtain ⟨rs, w', hcheck, hblank, hnothing⟩ := check_of_listing h
  have hgives : GivesLater s w ms ↔ (later s.cursor ms).mapM mention = .ok rs := by
    constructor
    · rintro ⟨rs', s', w'', hcheck', hlater, -⟩
      rw [hcheck] at hcheck'
      cases hcheck'
      exact hlater
    · exact fun hlater => ⟨rs, _, w', hcheck, hlater, rfl⟩
  rw [hgives]
  by_cases hb : Blank w ms
  · have hall := hblank hb
    obtain ⟨n, m, rfl, htime, -⟩ := id hb
    rw [later_blank htime]
    by_cases hc : s.cursor = none
    · simp [hb, hc, hall]
    · have hrs : rs ≠ [] := by
        rintro rfl
        exact absurd ((mapM_eq_nil_iff [n]).mp hall) (List.cons_ne_nil n [])
      rw [if_neg hc]
      simp only [hb, hc, not_true_eq_false, false_and, and_false, or_false, iff_false]
      intro hnil
      cases hnil
      exact hrs rfl
  · rw [hnothing hb, mapM_eq_nil_iff]
    simp [hb]

/-! ## A mention that is lost -/

def listedMention : Json :=
  .obj [("reason", .str "mention"), ("indexedAt", .str "2026-01-01T09:30:00Z"),
    ("uri", .str "at://post/1"), ("author", .obj [("handle", .str "reader")])]

/-- A world whose next answer lists one mention. -/
def listingWorld : World where
  clock := ⟨0⟩
  draws := ⟨[], 0⟩
  http := [.gives { json := some (.obj [("notifications", .arr [listedMention])]) }]

/-- An inbox with a session and a cursor. -/
def listingInbox (lastSeen : Json) : BlueskyInbox where
  lastSeen := lastSeen
  session := .obj [("accessJwt", .str "token")]

theorem listing_listedMention (v : Json) :
    Listing (listingInbox v) listingWorld [listedMention] where
  session := rfl
  token := ⟨.str "token", rfl⟩
  answered := by
    refine ⟨_, _, _, [listedMention], rfl, rfl, rfl, rfl, fun n hn => ?_, rfl⟩
    rw [List.mem_singleton] at hn
    exact ⟨_, hn⟩
  times n hn := by
    rw [List.mem_singleton] at hn
    subst hn
    rfl
  decreasing := List.pairwise_singleton _ _

/-- With the cursor at its time, the mention is rightly not given again. -/
theorem givesLater_listedMention :
    Listing (listingInbox (.str "2026-01-01T09:30:00Z")) listingWorld [listedMention] ∧
      GivesLater (listingInbox (.str "2026-01-01T09:30:00Z")) listingWorld [listedMention] := by
  have hblank : ¬Blank listingWorld [listedMention] := by
    rintro ⟨n, m, hn, htime, -⟩
    cases hn
    revert htime
    decide
  exact ⟨listing_listedMention _,
    (givesLater_iff _ _ _ (listing_listedMention _)).mpr (.inl ⟨hblank, rfl⟩)⟩

/-- With no cursor yet, the mention is later than it, but the check gives nothing and moves the
cursor past it. -/
theorem new_mention_not_given :
    (listingInbox .null).cursor = none ∧
      Listing (listingInbox .null) listingWorld [listedMention] ∧
      later (listingInbox .null).cursor [listedMention] = [listedMention] ∧
      (∃ w', check (listingInbox .null) listingWorld =
        ((.ok [], listingInbox (.str "2026-01-01T09:30:00Z")), w')) ∧
      ¬GivesLater (listingInbox .null) listingWorld [listedMention] := by
  refine ⟨rfl, listing_listedMention _, rfl, ⟨_, rfl⟩, ?_⟩
  rintro ⟨rs, s', w', hcheck, hlater, -⟩
  have hnothing : (check (listingInbox .null) listingWorld).1.1 = .ok [] := rfl
  rw [hcheck] at hnothing
  cases hnothing
  cases hlater

end Mention.BlueskyInbox

end Persona
