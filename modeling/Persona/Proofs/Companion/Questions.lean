import Mathlib.Data.Bool.AllAny
import Persona.Companion.Chat
import Persona.Proofs.Companion.Responding
import Persona.Proofs.Text.Searching

/-!
# Questions in the chat

A message of the chat comes with marks of mention, and often with the companion's name in front.
What the model is asked is meant to be the rest. The name is taken off letter by letter, though: of
the words behind it, those letters go as well that occur in the name.

Main statements: `length_dropName_lt`, `conveys_question_iff`, `question_conveyed_iff`.
-/

namespace Persona

namespace Companion

/-! ## Addresses -/

/-- A way to begin a message, and the characters that are taken off behind it. -/
structure Address where
  word : String
  taken : String

/-- A message begins with one of the companion's names, or with none. -/
def addresses : List Address := [⟨"", "@phi,"⟩, ⟨"@phi", "@phi,"⟩, ⟨"phi,", "phi,"⟩]

/-- A text without the leading characters of the two names. -/
def dropName (cs : List Char) : List Char :=
  (cs.dropWhile fun c => "@phi".toList.contains c).dropWhile fun c => "phi,".toList.contains c

theorem dropName_of_head {rest : List Char} (h : ∀ c ∈ rest.head?, c ∉ "@phi,".toList) :
    dropName rest = rest := by
  cases rest with
  | nil => rfl
  | cons c rest =>
      have hc := h c rfl
      simp only [String.reduceToList, List.mem_cons, not_or] at hc
      rw [dropName, List.dropWhile_cons_of_neg (by simp [hc]),
        List.dropWhile_cons_of_neg (by simp [hc])]

theorem length_dropWhile_cons_lt {p : Char → Bool} {c : Char} (hc : p c = true)
    (rest : List Char) : ((c :: rest).dropWhile p).length < (c :: rest).length := by
  rw [List.dropWhile_cons_of_pos hc]
  exact Nat.lt_succ_of_le (List.dropWhile_suffix p).length_le

theorem length_dropName_lt {c : Char} (hc : c ∈ "@phi,".toList) (rest : List Char) :
    (dropName (c :: rest)).length < (c :: rest).length := by
  by_cases hname : "@phi".toList.contains c = true
  · exact Nat.lt_of_le_of_lt (List.dropWhile_suffix _).length_le
      (length_dropWhile_cons_lt hname rest)
  · -- The comma is the one character of the two names that the first does not have.
    have hcomma : "phi,".toList.contains c = true := by
      simp only [String.reduceToList, List.mem_cons, List.contains_eq_mem, decide_eq_true_eq,
        List.not_mem_nil, or_false] at hc hname ⊢
      grind
    rw [dropName, List.dropWhile_cons_of_neg hname]
    exact length_dropWhile_cons_lt hcomma rest

/-- Behind an address, nothing is taken off a text that does not start with a letter to be taken. -/
theorem dropName_address_of_head {a : Address} (ha : a ∈ addresses) {rest : List Char}
    (h : ∀ c ∈ rest.head?, c ∉ a.taken.toList) : dropName (a.word.toList ++ rest) = rest := by
  simp only [addresses, List.mem_cons, List.not_mem_nil, or_false] at ha
  rcases ha with rfl | rfl | rfl
  · exact dropName_of_head h
  · exact dropName_of_head h
  · cases rest with
    | nil => rfl
    | cons c rest =>
        have hc : ¬"phi,".toList.contains c = true := by simpa using h c rfl
        exact List.dropWhile_cons_of_neg hc

theorem length_dropName_address_lt {a : Address} (ha : a ∈ addresses) {c : Char}
    (hc : c ∈ a.taken.toList) (rest : List Char) :
    (dropName (a.word.toList ++ c :: rest)).length < (c :: rest).length := by
  simp only [addresses, List.mem_cons, List.not_mem_nil, or_false] at ha
  rcases ha with rfl | rfl | rfl
  · exact length_dropName_lt hc rest
  · exact length_dropName_lt hc rest
  · exact length_dropWhile_cons_lt (by simpa using hc) rest

/-- The letters to be taken are no blanks, and the invitation starts with none of them. -/
theorem not_isBlank_of_taken {a : Address} (ha : a ∈ addresses) {c : Char}
    (hc : c ∈ a.taken.toList) : Text.isBlank c = false ∧ c ≠ 'T' := by
  have hall : ∀ c ∈ "@phi,".toList, Text.isBlank c = false ∧ c ≠ 'T' :=
    List.all_iff_forall_prop.mp (by decide)
  simp only [addresses, List.mem_cons, List.not_mem_nil, or_false] at ha
  rcases ha with rfl | rfl | rfl
  · exact hall c hc
  · exact hall c hc
  · exact hall c (List.mem_cons_of_mem '@' hc)

/-! ## Questions -/

/-- A message without the marks that mention an account, and without blanks around it. -/
def bare (id : Nat) (content : String) : String :=
  Text.trim (Text.replace content (mentionOf id) "")

/-- Where there is no question, the companion tells about itself. -/
def orInvitation (text : String) : String :=
  if text.isEmpty then "Tell me about yourself" else text

/-- A text is what a message to an account asks, with at most one address taken off. -/
def Conveys (id : Nat) (content text : String) : Prop :=
  ∃ a ∈ addresses, ∃ rest, bare id content = a.word ++ rest ∧ text = orInvitation (Text.trim rest)

/-- Behind the address of a message stands none of the letters to be taken. -/
def KeepsWords (id : Nat) (content : String) : Prop :=
  ∃ a ∈ addresses, ∃ rest, bare id content = a.word ++ rest ∧
    ∀ c ∈ rest.toList.head?, c ∉ a.taken.toList

theorem orInvitation_of_cons {text : String} {c : Char} {cs : List Char}
    (h : text.toList = c :: cs) : orInvitation text = text := by
  refine if_neg fun hempty => ?_
  rw [String.isEmpty_iff.mp hempty] at h
  cases h

theorem question_eq (id : Nat) (content : String) :
    question id content =
      orInvitation (Text.trim (String.ofList (dropName (bare id content).toList))) := by
  simp only [question, dropLeading, Text.trimStartWhere, String.toList_ofList]
  rfl

theorem getLast?_bare {id : Nat} {content : String} {c : Char}
    (h : (bare id content).toList.getLast? = some c) : Text.isBlank c = false := by
  rw [bare, Text.trim, Text.trimWhere, String.toList_ofList] at h
  exact Text.getLast?_trimChars h

/-- What stands behind an address and starts with no blank is trimmed already. -/
theorem trim_rest {id : Nat} {content rest : String} {a : Address} {c : Char} {cs : List Char}
    (hbare : bare id content = a.word ++ rest) (hrest : rest.toList = c :: cs)
    (hc : Text.isBlank c = false) : Text.trim rest = rest := by
  have htrim : Text.trimChars Text.isBlank rest.toList = rest.toList := by
    refine Text.trimChars_of_ends (fun d hd => ?_) fun d hd => @getLast?_bare id content d ?_
    · rw [hrest] at hd
      obtain rfl := Option.some.inj hd
      exact hc
    · rw [hbare, String.toList_append, List.getLast?_append, hd]
      rfl
  rw [Text.trim, Text.trimWhere, htrim, String.ofList_toList]

/-- A question that lost a letter is not what the message asks. -/
theorem not_conveys_of_taken {id : Nat} {content rest : String} {a : Address} (ha : a ∈ addresses)
    (hbare : bare id content = a.word ++ rest) {c : Char} {cs : List Char}
    (hrest : rest.toList = c :: cs) (hc : c ∈ a.taken.toList) :
    question id content ≠ orInvitation (Text.trim rest) := by
  intro hquestion
  obtain ⟨hblank, hT⟩ := not_isBlank_of_taken ha hc
  have hlonger : (Text.trim (String.ofList (dropName (bare id content).toList))).toList.length <
      rest.toList.length := by
    rw [Text.trim, Text.trimWhere, String.toList_ofList, String.toList_ofList, hbare,
      String.toList_append, hrest]
    exact Nat.lt_of_le_of_lt (Text.length_trimChars_le _ _) (length_dropName_address_lt ha hc cs)
  rw [question_eq, trim_rest hbare hrest hblank, orInvitation_of_cons hrest, orInvitation]
    at hquestion
  -- Either all was taken, and the invitation would start with a letter that is taken, or a
  -- shorter text would be the same as a longer one.
  split at hquestion
  · rw [← hquestion] at hrest
    exact hT (List.cons.inj hrest).1.symm
  · rw [hquestion] at hlonger
    exact absurd hlonger (Nat.lt_irrefl _)

theorem conveys_question_iff (id : Nat) (content : String) :
    Conveys id content (question id content) ↔ KeepsWords id content := by
  constructor
  · rintro ⟨a, ha, rest, hbare, hquestion⟩
    refine ⟨a, ha, rest, hbare, fun c hc htaken => ?_⟩
    obtain ⟨cs, hrest⟩ := List.head?_eq_some_iff.mp hc
    exact not_conveys_of_taken ha hbare hrest htaken hquestion
  · rintro ⟨a, ha, rest, hbare, hhead⟩
    refine ⟨a, ha, rest, hbare, ?_⟩
    rw [question_eq, hbare, String.toList_append, dropName_address_of_head ha hhead,
      String.ofList_toList]

/-! ## Messages -/

theorem receive_of_isAddressed {m : ChatMessage} {content : String} (hown : m.own = false)
    (haddressed : isAddressed m = .ok true) (hcontent : m.content = .str content) (w : World) :
    receive m w = (respondOnDiscord (.str (question w.account.id content)) >>= fun reply =>
      Act.record (.reply reply)) (w.record .typing) := by
  have htyping : Act.record .typing w = (.ok (), w.record .typing) := rfl
  have hlook : Act.look (isAddressed m) w = (.ok true, w) := by
    rw [haddressed]
    rfl
  have htext : Act.look ((Json.str content).asText "replace") (w.record .typing) =
      (.ok content, w.record .typing) := rfl
  rw [receive, hown, hcontent, if_neg Bool.false_ne_true, Act.bind_of_ok hlook, if_pos rfl,
    Act.bind_of_ok htyping, Act.bind_of_ok htext, Act.bind_of_ok (Act.get_apply _)]
  rfl

/-- Of a message, the model is asked what the response asks. -/
theorem receive_prompts_eq {m : ChatMessage} {content : String} (hown : m.own = false)
    (haddressed : isAddressed m = .ok true) (hcontent : m.content = .str content) (w : World) :
    (receive m w).2.prompts =
      (respondOnDiscord (.str (question w.account.id content)) (w.record .typing)).2.prompts := by
  rw [receive_of_isAddressed hown haddressed hcontent]
  exact Act.Leads.bind_from (R := World.Same World.prompts)
    (fun reply => Act.record_picked (fun _ => rfl) (rfl : Event.prompt? (.reply reply) = none)) _

theorem prompts_typing (w : World) : (w.record .typing).prompts = w.prompts :=
  Act.record_picked (fun _ => rfl) (rfl : Event.prompt? .typing = none) w

theorem receive_prompts {m : ChatMessage} {content : String} (hown : m.own = false)
    (haddressed : isAddressed m = .ok true) (hcontent : m.content = .str content) (w : World) :
    ∃ asked, (receive m w).2.prompts = w.prompts ++ asked ∧ asked.length ≤ 1 ∧
      ∀ p ∈ asked, p.message = .str (question w.account.id content) := by
  rw [receive_prompts_eq hown haddressed hcontent, ← prompts_typing w]
  exact respond_prompts (question w.account.id content) "discord" (.int 2000) (w.record .typing)

/-- A message that is addressed to the companion is answered by a response to its question, and the
model is asked nothing else. The question is what the message asks exactly if no letter of a name
stands behind the address. This is so whatever the id of the companion's account. -/
theorem question_conveyed_iff {m : ChatMessage} {content : String} (hown : m.own = false)
    (haddressed : isAddressed m = .ok true) (hcontent : m.content = .str content) (w : World) :
    receive m w = (respondOnDiscord (.str (question w.account.id content)) >>= fun reply =>
        Act.record (.reply reply)) (w.record .typing) ∧
      (∃ asked, (receive m w).2.prompts = w.prompts ++ asked ∧ asked.length ≤ 1 ∧
        ∀ p ∈ asked, p.message = .str (question w.account.id content)) ∧
      (Conveys w.account.id content (question w.account.id content) ↔
        KeepsWords w.account.id content) :=
  ⟨receive_of_isAddressed hown haddressed hcontent w, receive_prompts hown haddressed hcontent w,
    conveys_question_iff w.account.id content⟩

/-- A world in which the model has one answer to give. -/
def hearingWorld : World where
  clock := ⟨0⟩
  draws := ⟨[], 0⟩
  model := [.gives (some (.str "A monoid of endofunctors."))]

/-- A message that is addressed by the companion's name alone. -/
def namedMessage : ChatMessage where
  content := .str "phi, what is <@77> a monad?"

theorem isAddressed_named : isAddressed namedMessage = .ok true := by
  have hstarts : Text.startsWith (Text.lower "phi, what is <@77> a monad?") "phi," = true := by
    decide +kernel
  have htext : isAddressed namedMessage =
      .ok (Text.startsWith (Text.lower "phi, what is <@77> a monad?") "@phi" ||
        Text.startsWith (Text.lower "phi, what is <@77> a monad?") "phi,") := rfl
  rw [htext, hstarts, Bool.or_true]

theorem question_conveyed_named :
    isAddressed namedMessage = .ok true ∧
      question hearingWorld.account.id "phi, what is <@77> a monad?" = "what is  a monad?" ∧
      (∃ asked, (receive namedMessage hearingWorld).2.prompts = hearingWorld.prompts ++ asked ∧
        asked.length ≤ 1 ∧
        ∀ p ∈ asked,
          p.message = .str (question hearingWorld.account.id "phi, what is <@77> a monad?")) :=
  ⟨isAddressed_named, by decide +kernel,
    (question_conveyed_iff rfl isAddressed_named rfl hearingWorld).2.1⟩

/-- A message to the companion alone, with no address. -/
def directMessage : ChatMessage where
  content := .str "hi there"
  direct := true

theorem not_keepsWords_direct : ¬KeepsWords 77 "hi there" := by
  rintro ⟨a, ha, rest, hbare, hhead⟩
  have hdirect : bare 77 "hi there" = "hi there" := by decide +kernel
  have hchars := congrArg String.toList (hdirect.symm.trans hbare)
  rw [String.toList_append] at hchars
  simp only [addresses, List.mem_cons, List.not_mem_nil, or_false] at ha
  rcases ha with rfl | rfl | rfl
  · refine hhead 'h' ?_ (by decide)
    rw [← show "hi there".toList = rest.toList from hchars]
    rfl
  · cases hchars
  · cases hchars

/-- Of a greeting the model is asked "there". -/
theorem direct_greeting_lost :
    (receive directMessage hearingWorld).2.prompts.map Prompt.message = [.str "there"] ∧
      ¬Conveys hearingWorld.account.id "hi there" "there" := by
  have hquestion : question hearingWorld.account.id "hi there" = "there" := by decide +kernel
  constructor
  · have htopic : topicOf "there" = none := by decide +kernel
    obtain ⟨context, hprompts⟩ := @respond_prompts_of_legible "there" (hearingWorld.record .typing)
      (legible_of_no_files rfl htopic) "discord" (.int 2000)
    rw [receive_prompts_eq rfl rfl rfl, hquestion, respondOnDiscord, hprompts, prompts_typing]
    rfl
  · rw [← hquestion, conveys_question_iff]
    exact not_keepsWords_direct

end Companion

end Persona
