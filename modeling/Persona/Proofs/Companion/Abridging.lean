import Persona.Proofs.Companion.Responding
import Persona.Proofs.Json.Comparing
import Persona.Proofs.Text.Sizes

/-!
# Lengths of responses

A reply of the model that is longer than a response may be is cut three characters earlier, to make
room for three dots. With a limit below three there is no such room: the place of the cut then
counts from the end of the reply, and what should be short becomes longer than the reply.

Main statements: `limit_abridges_iff`, `response_abridged_iff`.
-/

namespace Persona.Companion

variable {reply : String} {length : Nat}

/-! ## Cut replies -/

/-- What stands for the words that are left out: three dots, or the one character for them. -/
def ellipses : List String := ["...", "…"]

/-- A text stands for a reply within a limit: it has no more characters than that, it is the reply
if that fits, and else a part of the reply from its start with an ellipsis. -/
structure Abridges (length : Nat) (text reply : String) : Prop where
  size_le : Text.size text ≤ length
  eq_reply : Text.size reply ≤ length → text = reply
  cut : length < Text.size reply →
    ∃ n < Text.size reply, ∃ dots ∈ ellipses, text = Text.take n reply ++ dots

theorem abridges_self (h : Text.size reply ≤ length) : Abridges length reply reply where
  size_le := h
  eq_reply _ := rfl
  cut hlt := absurd h (by omega)

/-- Where there is room for the dots, the reply is cut to make it. -/
theorem abridges_take (hroom : 3 ≤ length) (h : length < Text.size reply) :
    Abridges length (Text.take (length - 3) reply ++ "...") reply where
  size_le := by
    have hdots : Text.size "..." = 3 := rfl
    rw [Text.size_take_append, hdots]
    omega
  eq_reply hle := absurd h (by omega)
  cut _ := ⟨length - 3, by omega, "...", by simp [ellipses], rfl⟩

/-- Without that room the text grows by as much as the limit says. -/
theorem size_upTo_append (hpos : 0 < length) (hroom : length < 3) (h : length < Text.size reply) :
    Text.size (Text.upTo (length - 3) reply ++ "...") = Text.size reply + length := by
  have hdots : Text.size "..." = 3 := rfl
  rw [Text.upTo, if_neg (by omega), Text.size_take_append, hdots]
  omega

/-! ## The limit of a response -/

theorem compares_size (length : Nat) (reply : String) :
    Json.compares .greater (.int (Text.size reply)) (.int length) =
      .ok (decide (length < Text.size reply)) := by
  rw [Json.compares_int, Json.Sign.holds]
  congr 1
  rw [Bool.eq_iff_iff, beq_iff_eq, Int.compare_eq_gt, decide_eq_true_iff]
  omega

theorem limit_str (hpos : 0 < length) (reply : String) :
    limit (.int length) (.str reply) =
      .ok (.str (if length < Text.size reply then Text.upTo (length - 3) reply ++ "..."
        else reply)) := by
  have htruthy : (!(Json.int length).truthy) = false := by simp [Json.truthy, hpos.ne']
  have hcompare := compares_size length reply
  have hsize : (Json.str reply).size = .ok (Text.size reply) := rfl
  simp only [limit, htruthy, hsize, Bool.false_eq_true, if_false]
  change (Json.compares .greater (.int (Text.size reply)) (.int length) >>= fun longer => _) = _
  rw [hcompare]
  by_cases h : length < Text.size reply
  · rw [decide_eq_true h, if_pos h]
    rfl
  · rw [decide_eq_false h, if_neg h]
    rfl

/-- A limit is always applied; it is kept just if the reply fits or there is room for the dots. -/
theorem limit_abridges_iff (length : Nat) (reply : String) :
    ∃ text, limit (.int length) (.str reply) = .ok (.str text) ∧
      (Abridges length text reply ↔ Text.size reply ≤ length ∨ 3 ≤ length) := by
  rcases Nat.eq_zero_or_pos length with rfl | hpos
  · -- A limit of zero counts as none.
    refine ⟨reply, rfl, fun h => .inl h.size_le, fun h => ?_⟩
    exact abridges_self (h.resolve_right (by omega))
  · refine ⟨_, limit_str hpos reply, ?_⟩
    by_cases h : length < Text.size reply
    · rw [if_pos h]
      by_cases hroom : 3 ≤ length
      · have hcut : Text.upTo (length - 3) reply = Text.take (length - 3) reply := by
          rw [Text.upTo, if_pos (by omega)]
          congr 1
          omega
        rw [hcut]
        exact iff_of_true (abridges_take hroom h) (.inr hroom)
      · have hsize := size_upTo_append hpos (by omega) h
        refine iff_of_false (fun habridges => ?_) (by omega)
        have hle := habridges.size_le
        omega
    · rw [if_neg h]
      exact iff_of_true (abridges_self (by omega)) (.inl (by omega))

/-! ## Responses -/

variable {message : String} {w : World} {rest : List (Scripted (Option Json))}

theorem respond_of_limit {limited : String}
    (hlegible : ∀ spec ∈ specsFor (topicOf message), Legible spec w)
    (hreply : w.model = .gives (some (.str reply)) :: rest)
    (hlimit : limit (.int length) (.str reply) = .ok (.str limited)) (platform : String) :
    ∃ w', respond (.str message) (.str platform) (.int length) w = (.ok (.str limited), w') := by
  obtain ⟨context, hrespond⟩ := respond_of_legible hlegible platform (.int length)
  have hask := Act.ask_apply (promptFor message platform context) w
  rw [hreply] at hask
  rw [Act.bind_of_ok hask, hlimit] at hrespond
  exact ⟨_, hrespond⟩

/-- The model's reply becomes a response that keeps a limit just if the specifications for the
message can be read, and the reply fits or the limit leaves room for three dots. -/
theorem response_abridged_iff (message platform reply : String) (length : Nat) (w : World)
    (rest : List (Scripted (Option Json)))
    (hreply : w.model = .gives (some (.str reply)) :: rest) :
    (∃ text w', respond (.str message) (.str platform) (.int length) w = (.ok (.str text), w') ∧
      Abridges length text reply) ↔
        (∀ spec ∈ specsFor (topicOf message), Legible spec w) ∧
          (Text.size reply ≤ length ∨ 3 ≤ length) := by
  obtain ⟨limited, hlimit, hiff⟩ := limit_abridges_iff length reply
  rw [← hiff]
  by_cases hlegible : ∀ spec ∈ specsFor (topicOf message), Legible spec w
  · obtain ⟨w₁, hrespond⟩ := respond_of_limit hlegible hreply hlimit platform
    constructor
    · rintro ⟨text, w', htext, habridges⟩
      obtain ⟨hresult, -⟩ := Prod.mk.inj (hrespond.symm.trans htext)
      obtain rfl : limited = text := Json.str.inj (Except.ok.inj hresult)
      exact ⟨hlegible, habridges⟩
    · exact fun h => ⟨limited, w₁, hrespond, h.2⟩
  · obtain ⟨f, hrespond⟩ := respond_of_not_legible hlegible platform (.int length)
    constructor
    · rintro ⟨text, w', htext, -⟩
      cases (Prod.mk.inj (hrespond.symm.trans htext)).1
    · exact fun h => absurd h.1 hlegible

/-- A world in which the model says a few letters. -/
def terseWorld : World where
  clock := ⟨0⟩
  draws := ⟨[], 0⟩
  model := [.gives (some (.str "abcdef"))]

theorem legible_terseWorld : ∀ spec ∈ specsFor (topicOf "hello"), Legible spec terseWorld :=
  legible_of_no_files rfl (by decide +kernel)

/-- Five characters are enough for two letters and the dots. -/
theorem response_abridged_five :
    terseWorld.model = [.gives (some (.str "abcdef"))] ∧
      ∃ text w', respond (.str "hello") (.str "general") (.int (5 : Nat)) terseWorld =
        (.ok (.str text), w') ∧ Abridges 5 text "abcdef" :=
  ⟨rfl, (response_abridged_iff "hello" "general" "abcdef" 5 terseWorld [] rfl).mpr
    ⟨legible_terseWorld, .inr (by decide)⟩⟩

/-- A reply that should be cut to one character comes out longer than it was. -/
theorem response_outgrows_limit :
    (∃ w', respond (.str "hello") (.str "general") (.int (1 : Nat)) terseWorld =
      (.ok (.str "abcd..."), w')) ∧ ¬Abridges 1 "abcd..." "abcdef" := by
  have hcut : Text.upTo ((1 : Nat) - 3) "abcdef" ++ "..." = "abcd..." := by decide +kernel
  have hlimit := limit_str Nat.one_pos "abcdef"
  rw [if_pos (by decide), hcut] at hlimit
  refine ⟨respond_of_limit legible_terseWorld rfl hlimit "general", fun h => ?_⟩
  exact absurd h.size_le (by decide)

end Persona.Companion
