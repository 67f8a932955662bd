import Persona.Mention.Responder
import Persona.Proofs.Lineage.Rests
import Persona.Proofs.Psyche.Drifting
import Persona.Proofs.Text.Searching

/-!
# How an answer is composed

The topics of a text are those with a keyword in its lower case, in the order of the table. The
answer is a template of the first of them. The mood drifts, then the topic works on it, and what
comes of that may show in a phrase before the template; at night a note follows.

Main statement: `topics_and_answer`.
-/

namespace Persona

open ActOn (Ends)

/-! ## Topics -/

namespace Mention.Topic

/-- One of the topic's keywords is in the lower case of the text. -/
def Concerns (text : String) (t : Topic) : Prop :=
  ∃ keyword ∈ t.keywords, keyword.toList <:+: (Text.lower text).toList

theorem occursIn_iff {text : String} {t : Topic} :
    t.occursIn (Text.lower text) = true ↔ Concerns text t := by
  simp only [occursIn, List.any_eq_true, Text.contains_iff, Concerns]

theorem mem_filter_iff {text : String} {t : Topic} :
    t ∈ all.filter (·.occursIn (Text.lower text)) ↔ t ∈ all ∧ Concerns text t := by
  rw [List.mem_filter, occursIn_iff]

theorem detect_of_concerns {text : String} (h : ∃ t ∈ all, Concerns text t) :
    detect text = all.filter (·.occursIn (Text.lower text)) := by
  obtain ⟨t, ht⟩ := h
  have hfound := List.ne_nil_of_mem (mem_filter_iff.2 ht)
  unfold detect
  dsimp only
  split
  · contradiction
  · rfl

theorem detect_of_none {text : String} (h : ¬ ∃ t ∈ all, Concerns text t) :
    detect text = [general] := by
  have hnone : all.filter (·.occursIn (Text.lower text)) = [] :=
    List.eq_nil_iff_forall_not_mem.2 fun t ht => h ⟨t, mem_filter_iff.1 ht⟩
  unfold detect
  dsimp only
  rw [hnone]

theorem sublist_all_or_eq (text : String) :
    ((∃ t ∈ all, Concerns text t) ∧ (detect text).Sublist all) ∨
      (¬ ∃ t ∈ all, Concerns text t) ∧ detect text = [general] := by
  by_cases h : ∃ t ∈ all, Concerns text t
  · refine .inl ⟨h, ?_⟩
    rw [detect_of_concerns h]
    exact List.filter_sublist
  · exact .inr ⟨h, detect_of_none h⟩

theorem mem_detect_iff {text : String} {t : Topic} (ht : t ∈ all) :
    t ∈ detect text ↔ Concerns text t := by
  by_cases h : ∃ t ∈ all, Concerns text t
  · rw [detect_of_concerns h, mem_filter_iff]
    exact and_iff_right ht
  · have hgeneral : general ∉ all := by decide
    rw [detect_of_none h, List.mem_singleton]
    refine iff_of_false (fun heq => hgeneral (heq ▸ ht)) fun hconcerns => h ⟨t, ht, hconcerns⟩

theorem nodup_names_detect (text : String) : ((detect text).map name).Nodup := by
  have hall : (all.map name).Nodup := by decide
  rcases sublist_all_or_eq text with ⟨-, hsublist⟩ | ⟨-, heq⟩
  · exact hall.sublist (hsublist.map name)
  · rw [heq]
    exact List.nodup_singleton _

theorem head?_detect (text : String) : (detect text).head? = some (primary text) := by
  unfold primary
  cases hdetect : detect text with
  | nil =>
      by_cases h : ∃ t ∈ all, Concerns text t
      · obtain ⟨t, ht, hconcerns⟩ := h
        have hmem := (mem_detect_iff ht).2 hconcerns
        rw [hdetect] at hmem
        cases hmem
      · cases hdetect.symm.trans (detect_of_none h)
  | cons t rest => rfl

end Mention.Topic

/-! ## Answers -/

namespace Mention.Responder

open Psyche (Mood)
open Psyche.Mood (Drifted Workable)

/-- What shows of a mood before an answer: three times in ten one of its phrases and a space. -/
def Opens (m : Mood) (draws : Draws) (opening : String) : Prop :=
  if (Chance.happens 0.3 draws).1 then
    ∃ first rest, m.phrases = .ok (first, rest) ∧
      ∃ phrase ∈ first :: rest, opening = phrase ++ " "
  else opening = ""

theorem workable_moved {m : Mood} (h : m.Workable) (topic : Topic) (now : Moment) :
    (moved m topic now).Workable := by
  unfold moved
  split
  · exact .feel _ _ _ _
  · exact h

theorem opens_nothing {m : Mood} {draws : Draws} (h : (Chance.happens 0.3 draws).1 = false) :
    Opens m draws "" := by
  rw [Opens, h]
  rfl

theorem opens_phrase {m : Mood} {draws : Draws} {first phrase : String} {rest : List String}
    (h : (Chance.happens 0.3 draws).1 = true) (hphrases : m.phrases = .ok (first, rest))
    (hphrase : phrase ∈ first :: rest) : Opens m draws (phrase ++ " ") := by
  rw [Opens, if_pos h]
  exact ⟨first, rest, hphrases, phrase, hphrase, rfl⟩

theorem colour_opens (topic : Topic) (template : String) (m : Mood) (w : World) :
    Ends (colour topic template) m w
      (fun coloured m' w' => (∃ draws, w' = { w with draws }) ∧
        ∃ d drifted opening, Mood.drift m w = ((.ok (), d), drifted) ∧ Drifted m w.clock d ∧
          m' = moved d topic w.clock ∧ Opens m' drifted.draws opening ∧
          coloured = opening ++ template)
      fun _ _ _ => ¬ m.Workable := by
  refine .step rfl ?_
  rcases (Mood.drift_drifts m w).cases with
    ⟨_, d, _, hdrift, hd, draws, rfl⟩ | ⟨f, d, w₁, hdrift, hill⟩
  · have hchance : (liftM (Act.chance (Chance.happens 0.3)) : ActOn Mood Bool)
        (moved d topic w.clock) { w with draws } =
          ((.ok (Chance.happens 0.3 draws).1, moved d topic w.clock),
            { w with draws := (Chance.happens 0.3 draws).2 }) := rfl
    refine .step hdrift (.step rfl (.step hchance ?_))
    cases hshown : (Chance.happens 0.3 draws).1 with
    | false =>
        exact .of_ok rfl ⟨⟨_, rfl⟩, d, _, "", hdrift, hd, rfl, opens_nothing hshown,
          String.empty_append.symm⟩
    | true =>
        refine .step rfl ?_
        unfold Mood.color
        rw [ActOn.lift_bind, bind_assoc]
        cases hphrases : (moved d topic w.clock).phrases with
        | error e =>
            refine .bind (.of_error rfl fun h => ?_)
            obtain ⟨choice, hok⟩ := (workable_moved (h.drifted hd) topic w.clock).exists_phrases
            cases hphrases.symm.trans hok
        | ok choice =>
            obtain ⟨first, rest⟩ := choice
            refine .step rfl (.step rfl (.of_ok rfl ⟨⟨_, rfl⟩, d, _, _, hdrift, hd, rfl, ?_, rfl⟩))
            exact opens_phrase hshown hphrases (Chance.pick_mem ..)
  · exact .bind (.of_error hdrift hill)

/-- What an answer on a topic consists of, with the mood before and after it. Without a mood it is
one of the templates. With one it is an opening, a template and, at night, a note; the opening shows
the mood that the drift and then the topic have made. -/
def Answers (topic : Topic) (w : World) (answer : String) : Option Mood → Option Mood → Prop
  | none, after => after = none ∧ answer ∈ topic.answers.1 :: topic.answers.2
  | some m, after => ∃ template ∈ topic.answers.1 :: topic.answers.2, ∃ d drifted opening,
      Mood.drift m { w with draws := (Chance.pick topic.answers.1 topic.answers.2 w.draws).2 } =
        ((.ok (), d), drifted) ∧
      Drifted m w.clock d ∧ after = some (moved d topic w.clock) ∧
      Opens (moved d topic w.clock) drifted.draws opening ∧
      answer = opening ++ template ++
        if 23 ≤ w.clock.hour ∨ w.clock.hour < 5 then nightNote else ""

/-- A responder without a mood, or with a workable one. -/
def Workable (r : Responder) : Prop := ∀ m, r.mood = some m → m.Workable

theorem workable_new (hasMood : Bool) (now : Moment) : (new hasMood now).Workable := by
  intro m hm
  cases hasMood with
  | false => cases hm
  | true =>
      cases hm
      exact .new now

theorem compose_answers (text : String) (r : Responder) (w : World) :
    Ends (compose text) r w
      (fun answer r' w' => (∃ draws, w' = { w with draws }) ∧ r'.answered = r.answered ∧
        Answers (Topic.primary text) w answer r.mood r'.mood)
      fun _ _ _ => ¬ r.Workable := by
  let topic := Topic.primary text
  let pick := Chance.pick topic.answers.1 topic.answers.2 w.draws
  have hpick : (liftM (Act.chance (Chance.pick topic.answers.1 topic.answers.2)) :
      ActOn Responder String) r w = ((.ok pick.1, r), { w with draws := pick.2 }) := rfl
  have hmem : pick.1 ∈ topic.answers.1 :: topic.answers.2 := Chance.pick_mem ..
  refine .step hpick (.step rfl ?_)
  cases hmood : r.mood with
  | none => exact .of_ok rfl ⟨⟨_, rfl⟩, rfl, hmood, hmem⟩
  | some m =>
      refine .bind (.within ((colour_opens topic pick.1 m _).mono ?_ ?_))
      · rintro coloured m' w' ⟨⟨draws, rfl⟩, d, drifted, opening, hdrift, hd, rfl, hopens, rfl⟩
        have hnight : (Psyche.Phase.ofMoment w.clock).isRestful = true ↔
            23 ≤ w.clock.hour ∨ w.clock.hour < 5 :=
          (Lineage.Member.isRestful_iff_atNight w.clock).trans or_comm
        refine .step rfl (.of_ok rfl ⟨⟨draws, rfl⟩, rfl, pick.1, hmem, d, drifted, opening, hdrift,
          hd, rfl, hopens, ?_⟩)
        exact congrArg (opening ++ pick.1 ++ ·) (if_congr hnight rfl rfl)
      · exact fun _ _ _ hill h => hill (h m hmood)

theorem Answers.workable {topic : Topic} {w : World} {answer : String} {before after : Option Mood}
    (h : Answers topic w answer before after) (hbefore : ∀ m, before = some m → m.Workable) :
    ∀ m, after = some m → m.Workable := by
  intro m' hm'
  cases before with
  | none =>
      obtain ⟨rfl, -⟩ := h
      cases hm'
  | some m =>
      obtain ⟨_, -, d, _, _, -, hd, rfl, -⟩ := h
      cases hm'
      exact workable_moved ((hbefore m rfl).drifted hd) topic w.clock

/-- The topics of a text have different names and stand in the order of the table: they are those
with a keyword in the lower case of the text, and a text without any is general. Whatever the
responder and the world, an answer consists of its parts, on the first of the topics, and changes
nothing but the mood and the draws. Only a mood that is not workable can stand in its way; a
responder starts without one and does not come to one. -/
theorem topics_and_answer (text : String) :
    (((Topic.detect text).map Topic.name).Nodup ∧
      (∀ t ∈ Topic.all, t ∈ Topic.detect text ↔ Topic.Concerns text t) ∧
      ((∃ t ∈ Topic.all, Topic.Concerns text t) ∧ (Topic.detect text).Sublist Topic.all ∨
        (¬ ∃ t ∈ Topic.all, Topic.Concerns text t) ∧ Topic.detect text = [.general]) ∧
      (Topic.detect text).head? = some (Topic.primary text)) ∧
    (∀ (r : Responder) (w : World),
      (∃ answer r' draws, compose text r w = ((.ok answer, r'), { w with draws }) ∧
        r'.answered = r.answered ∧ Answers (Topic.primary text) w answer r.mood r'.mood ∧
        (r.Workable → r'.Workable)) ∨
      ∃ f r' w', compose text r w = ((.error f, r'), w') ∧ ¬ r.Workable) ∧
    ∀ hasMood now, (new hasMood now).Workable := by
  refine ⟨⟨Topic.nodup_names_detect text, fun t => Topic.mem_detect_iff,
    Topic.sublist_all_or_eq text, Topic.head?_detect text⟩, fun r w => ?_, workable_new⟩
  rcases (compose_answers text r w).cases with
    ⟨answer, r', _, hrun, ⟨draws, rfl⟩, hanswered, hanswers⟩ | ⟨f, r', w', hrun, hill⟩
  · exact .inl ⟨answer, r', draws, hrun, hanswered, hanswers, hanswers.workable⟩
  · exact .inr ⟨f, r', w', hrun, hill⟩

example :
    (compose "AMAZING" (new true ⟨0⟩) { clock := ⟨0⟩, draws := ⟨[0.0], 0⟩ }).1.1.toOption =
      some ("Did it! " ++ Topic.praise.answers.1 ++ nightNote) := by
  decide +kernel

end Mention.Responder

end Persona
