import Persona.Companion.Basic
import Persona.Proofs.World.Recording

/-!
# Responses of the companion

Before it asks the model, the companion reads the specifications that belong to the topic. A file
that is not there is passed over, but one that is there and cannot be read ends the response. Else
the model is asked once, with the message as it is.

Main statements: `respond_of_legible`, `respond_of_not_legible`, `respond_prompts`.
-/

namespace Persona

/-- The question to the model that an event is. -/
def Event.prompt? : Event → Option Prompt
  | prompt question => some question
  | _ => none

/-- The questions to the model so far. -/
def World.prompts (w : World) : List Prompt := w.picked Event.prompt?

namespace Companion

/-! ## Specifications that are shown -/

/-- The file of a specification, if there is one, can be read. -/
def Legible (spec : String) (w : World) : Prop :=
  ∃ found, w.files.exists? (specFolder.join spec) = .ok found ∧
    (found = true → ∃ text, w.files.read (specFolder.join spec) = .ok text)

/-- Showing a specification changes nothing, and needs it to be legible. -/
theorem showSpec_cases (spec : String) (w : World) :
    (Legible spec w ∧ ∃ text, showSpec spec w = (.ok text, w)) ∨
      ¬Legible spec w ∧ ∃ f, showSpec spec w = (.error f, w) := by
  unfold Legible showSpec
  cases hfound : w.files.exists? (specFolder.join spec) with
  | error c =>
      refine .inr ⟨fun ⟨found, hok, _⟩ => ?_, _, Act.bind_of_error (Act.fileExists_of_error hfound)⟩
      cases hok
  | ok found =>
      rw [Act.bind_of_ok (Act.fileExists_of_ok hfound)]
      cases found with
      | false => exact .inl ⟨⟨false, rfl, fun h => absurd h Bool.false_ne_true⟩, "", rfl⟩
      | true =>
          cases htext : w.files.read (specFolder.join spec) with
          | error c =>
              refine .inr ⟨fun ⟨found, hok, hlegible⟩ => ?_, _,
                Act.bind_of_error (Act.readFile_of_error htext)⟩
              cases hok
              obtain ⟨text, htext'⟩ := hlegible rfl
              cases htext'
          | ok text =>
              exact .inl ⟨⟨true, rfl, fun _ => ⟨text, rfl⟩⟩, _,
                Act.bind_of_ok (Act.readFile_of_ok htext)⟩

theorem mapM_showSpec_cases (specs : List String) (w : World) :
    ((∀ spec ∈ specs, Legible spec w) ∧ ∃ texts, specs.mapM showSpec w = (.ok texts, w)) ∨
      (¬∀ spec ∈ specs, Legible spec w) ∧ ∃ f, specs.mapM showSpec w = (.error f, w) := by
  induction specs with
  | nil => exact .inl ⟨fun _ h => absurd h List.not_mem_nil, [], rfl⟩
  | cons spec specs ih =>
      rw [List.mapM_cons, List.forall_mem_cons]
      rcases showSpec_cases spec w with ⟨hspec, text, hshow⟩ | ⟨hspec, f, hshow⟩
      · rw [Act.bind_of_ok hshow]
        rcases ih with ⟨hspecs, texts, hrest⟩ | ⟨hspecs, f, hrest⟩
        · exact .inl ⟨⟨hspec, hspecs⟩, _, Act.bind_of_ok hrest⟩
        · exact .inr ⟨fun h => hspecs h.2, f, Act.bind_of_error hrest⟩
      · exact .inr ⟨fun h => hspec h.1, f, Act.bind_of_error hshow⟩

theorem specsFor_none : specsFor none = [coreSpec] := by
  have honce : [coreSpec].eraseDups = [coreSpec] := rfl
  simp only [specsFor, List.nil_append, honce, List.mergeSort_singleton]

/-- Without files and a topic there is nothing that could not be read. -/
theorem legible_of_no_files {w : World} {text : String} (hfiles : w.files = {})
    (htopic : topicOf text = none) : ∀ spec ∈ specsFor (topicOf text), Legible spec w := by
  have hnone : (({} : Files).exists? (specFolder.join coreSpec)).toOption = some false := by
    decide +kernel
  intro spec hspec
  rw [htopic, specsFor_none] at hspec
  rw [List.mem_singleton.mp hspec]
  rw [← hfiles] at hnone
  cases hfound : w.files.exists? (specFolder.join coreSpec) with
  | error c =>
      rw [hfound] at hnone
      cases hnone
  | ok found =>
      rw [hfound] at hnone
      obtain rfl := Option.some.inj hnone
      exact ⟨false, hfound, fun h => absurd h Bool.false_ne_true⟩

/-- A topic has a name. -/
theorem truthy_of_topicOf {text topic : String} (h : topicOf text = some topic) :
    (Json.str topic).truthy = true := by
  obtain ⟨entry, hentry, rfl⟩ := Option.map_eq_some_iff.mp h
  exact List.all_eq_true.mp (by decide : topics.all fun t => (Json.str t.1).truthy) entry
    (List.mem_of_find?_eq_some hentry)

theorem context_topicOf (text : String) :
    context (Json.ofOption (topicOf text)) =
      (do return String.join (← (specsFor (topicOf text)).mapM showSpec)) := by
  rw [context]
  cases htopic : topicOf text with
  | none => rfl
  | some topic =>
      rw [Json.ofOption, truthy_of_topicOf htopic]
      rfl

/-! ## Responses -/

variable {text : String} {w : World}

/-- The question to the model that a message becomes. -/
def promptFor (text platform context : String) : Prompt where
  model := "claude-sonnet-4-20250514"
  maxTokens := 1024
  system := system (.str platform) ((Fields.get? platformNotes platform).getD "") context
  message := .str text

theorem respond_of_legible (h : ∀ spec ∈ specsFor (topicOf text), Legible spec w)
    (platform : String) (length : Json) :
    ∃ context, respond (.str text) (.str platform) length w =
      (Act.ask (promptFor text platform context) >>= fun answer =>
        Act.look (limit length answer)) w := by
  rcases mapM_showSpec_cases (specsFor (topicOf text)) w with ⟨-, texts, hshow⟩ | ⟨hnot, -⟩
  · refine ⟨String.join texts, ?_⟩
    have htext : Act.look ((Json.str text).asText "lower") w = (.ok text, w) := rfl
    have hcontext : context (Json.ofOption (topicOf text)) w = (.ok (String.join texts), w) := by
      rw [context_topicOf]
      exact Act.bind_of_ok hshow
    have hnote : Act.look (noteFor (.str platform)) w =
        (.ok ((Fields.get? platformNotes platform).getD ""), w) := rfl
    rw [respond, Act.bind_of_ok htext, Act.bind_of_ok hcontext, Act.bind_of_ok hnote]
    rfl
  · exact absurd h hnot

theorem respond_of_not_legible (h : ¬∀ spec ∈ specsFor (topicOf text), Legible spec w)
    (platform : String) (length : Json) :
    ∃ f, respond (.str text) (.str platform) length w = (.error f, w) := by
  rcases mapM_showSpec_cases (specsFor (topicOf text)) w with ⟨hall, -⟩ | ⟨-, f, hshow⟩
  · exact absurd hall h
  · have htext : Act.look ((Json.str text).asText "lower") w = (.ok text, w) := rfl
    have hcontext : context (Json.ofOption (topicOf text)) w = (.error f, w) := by
      rw [context_topicOf]
      exact Act.bind_of_error hshow
    exact ⟨f, (Act.bind_of_ok htext).trans (Act.bind_of_error hcontext)⟩

theorem respond_prompts_of_legible (h : ∀ spec ∈ specsFor (topicOf text), Legible spec w)
    (platform : String) (length : Json) :
    ∃ context, (respond (.str text) (.str platform) length w).2.prompts =
      w.prompts ++ [promptFor text platform context] := by
  obtain ⟨context, hrespond⟩ := respond_of_legible h platform length
  refine ⟨context, ?_⟩
  have hrecord : (w.record (.prompt (promptFor text platform context))).prompts =
      w.prompts ++ [promptFor text platform context] :=
    World.picked_record (fun _ => rfl) w _
  have hask : (Act.ask (promptFor text platform context) w).2.prompts =
      w.prompts ++ [promptFor text platform context] := by
    rw [Act.ask_apply]
    split <;> exact hrecord
  rw [hrespond]
  exact Eq.trans (Act.Leads.bind_from (R := World.Same World.prompts) (fun _ => .look _) w) hask

/-- The model is asked once at most, and about the message. -/
theorem respond_prompts (text platform : String) (length : Json) (w : World) :
    ∃ asked, (respond (.str text) (.str platform) length w).2.prompts = w.prompts ++ asked ∧
      asked.length ≤ 1 ∧ ∀ p ∈ asked, p.message = .str text := by
  by_cases h : ∀ spec ∈ specsFor (topicOf text), Legible spec w
  · obtain ⟨context, hprompts⟩ := respond_prompts_of_legible h platform length
    refine ⟨_, hprompts, Nat.le_refl 1, fun p hp => ?_⟩
    rw [List.mem_singleton.mp hp]
    rfl
  · obtain ⟨f, hrespond⟩ := respond_of_not_legible h platform length
    rw [hrespond]
    exact ⟨[], (List.append_nil _).symm, Nat.zero_le 1, fun _ h => absurd h List.not_mem_nil⟩

end Companion

end Persona
