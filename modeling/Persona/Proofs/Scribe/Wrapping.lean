import Persona.Proofs.Json.Grammar
import Persona.Proofs.Scribe.Fences

/-!
# Replies in a block of code

The model may wrap its JSON text in a block of code and add words before and after the block. The
text that is cut out of such a reply is the text itself, perhaps with a line feed before it, which
is trimmed. So the reply comes to the same as the bare text.

The mark that closes the block is the first one behind the text: the text holds none and does not
end in a part of one. The longer mark that may open a block does not come again behind it.

Main statement: `wrapped_reply_understood`.
-/

namespace Persona

/-! ## Splitting -/

namespace Text

/-- What stands before the first occurrence of a pattern: all, if there is none. -/
def front (pattern cs : List Char) : List Char := (cut? pattern cs).elim cs Prod.fst

theorem exists_piecesFrom {pattern : List Char} (hpattern : pattern ≠ []) {fuel : Nat}
    {cs : List Char} (hfuel : cs.length ≤ fuel) :
    ∃ others, piecesFrom pattern fuel cs = front pattern cs :: others := by
  cases fuel with
  | zero =>
      obtain rfl := List.length_eq_zero_iff.mp (Nat.le_zero.mp hfuel)
      have hcut : cut? pattern [] = none := by simpa [cut?] using hpattern
      exact ⟨[], by rw [piecesFrom, front, hcut]; rfl⟩
  | succ fuel =>
      rw [piecesFrom, front]
      cases cut? pattern cs with
      | none => exact ⟨[], rfl⟩
      | some ab => exact ⟨_, rfl⟩

theorem headD_split (s : String) {pattern : String} (hpattern : pattern.toList ≠ []) :
    (split s pattern).headD "" = String.ofList (front pattern.toList s.toList) := by
  obtain ⟨others, hpieces⟩ := exists_piecesFrom hpattern (Nat.le_refl s.toList.length)
  rw [split, hpieces, List.map_cons, List.headD_cons]

theorem getD_one_split {s pattern : String} (hpattern : pattern.toList ≠ []) {a b : List Char}
    (hcut : cut? pattern.toList s.toList = some (a, b)) :
    (split s pattern).getD 1 "" = String.ofList (front pattern.toList b) := by
  have hlength : s.toList.length = a.length + pattern.toList.length + b.length := by
    rw [eq_append_of_cut? hcut, List.length_append, List.length_append]
  have hpositive := List.length_pos_iff.mpr hpattern
  obtain ⟨fuel, hfuel⟩ : ∃ fuel, s.toList.length = fuel + 1 := ⟨s.toList.length - 1, by omega⟩
  obtain ⟨others, hpieces⟩ := exists_piecesFrom hpattern (show b.length ≤ fuel by omega)
  rw [split, hfuel, piecesFrom, hcut]
  simp only [hpieces, List.map_cons, List.getD_cons_succ, List.getD_cons_zero]

end Text

namespace Scribe

open Text (cut? front)

/-! ## Marks of a block -/

/-- A text that can stand in a block: the mark is not in it, and no part of one at its end. -/
structure Enclosed (cs : List Char) : Prop where
  noMark : ¬"```".toList <:+: cs
  ending : cs.getLast? ≠ some '`'

/-- Behind an enclosed text there is one mark only, if it is followed by none of its characters. -/
theorem Enclosed.mark_unique {cs after a b : List Char} (h : Enclosed cs) (hafter : '`' ∉ after)
    (heq : a ++ ("```".toList ++ b) = cs ++ ("```".toList ++ after)) : a = cs ∧ b = after := by
  rcases List.append_eq_append_iff.mp heq with ⟨m, rfl, hm⟩ | ⟨m, rfl, hm⟩
  · -- the mark starts inside of the text: wherever that text ends, it ends wrong
    match m, hm with
    | [], hm => exact ⟨(List.append_nil a).symm, List.append_cancel_left hm⟩
    | [c], hm =>
        obtain rfl : '`' = c := (List.cons.inj hm).1
        exact absurd (by simp) h.ending
    | [c, d], hm =>
        obtain rfl : '`' = d := (List.cons.inj (List.cons.inj hm).2).1
        exact absurd (by simp) h.ending
    | c :: d :: e :: m, hm =>
        obtain rfl : '`' = c := (List.cons.inj hm).1
        obtain rfl : '`' = d := (List.cons.inj (List.cons.inj hm).2).1
        obtain rfl : '`' = e := (List.cons.inj (List.cons.inj (List.cons.inj hm).2).2).1
        exact absurd ⟨a, m, by simp⟩ h.noMark
  · -- the mark starts behind the text: there is one for it there
    match m, hm with
    | [], hm => exact ⟨List.append_nil cs, (List.append_cancel_left hm).symm⟩
    | c :: m, hm =>
        have hcount := congrArg (List.count '`') hm
        obtain rfl : '`' = c := (List.cons.inj hm).1
        rw [List.count_append, List.count_append, List.count_append, List.count_cons_self,
          List.count_eq_zero_of_not_mem hafter] at hcount
        omega

/-- The text ends at the first mark behind it. -/
theorem Enclosed.front_mark {cs after : List Char} (h : Enclosed cs) (hafter : '`' ∉ after) :
    front "```".toList (cs ++ ("```".toList ++ after)) = cs := by
  obtain ⟨⟨a, b⟩, hcut⟩ :=
    Option.isSome_iff_exists.mp (Text.cut?_isSome_of_append "```".toList cs after)
  have heq := Text.eq_append_of_cut? hcut
  rw [List.append_assoc] at heq
  rw [front, hcut]
  exact (h.mark_unique hafter heq.symm).1

theorem Enclosed.front_self {cs : List Char} (h : Enclosed cs) : front "```".toList cs = cs := by
  rw [front, Text.cut?_eq_none_iff.mpr h.noMark]
  rfl

/-- The end of a block, with what follows it on a line of its own. -/
structure Trailer (after : List Char) : Prop where
  noMark : '`' ∉ after
  newLine : after = [] ∨ after.head? = some '\n'

/-- Behind an enclosed text no further block is opened with a word. -/
theorem Enclosed.cut?_json {cs after : List Char} (h : Enclosed cs) (hafter : Trailer after) :
    cut? "```json".toList (cs ++ ("```".toList ++ after)) = none := by
  refine Text.cut?_eq_none_iff.mpr ?_
  rintro ⟨a, b, heq⟩
  rw [List.append_assoc] at heq
  have hjson : "```json".toList ++ b = "```".toList ++ ("json".toList ++ b) := rfl
  rw [hjson] at heq
  obtain ⟨-, rfl⟩ := h.mark_unique hafter.noMark heq
  rcases hafter.newLine with hnil | hhead
  · cases hnil
  · cases hhead

theorem Enclosed.cons {cs : List Char} (h : Enclosed cs) : Enclosed ('\n' :: cs) where
  noMark hinfix := by
    rcases List.infix_cons_iff.mp hinfix with hstart | hinfix
    · obtain ⟨b, hb⟩ := hstart
      cases (List.cons.inj hb).1
    · exact h.noMark hinfix
  ending := by
    rw [List.getLast?_cons]
    cases hlast : cs.getLast? with
    | none => decide
    | some c => exact fun hc => h.ending (hlast.trans hc)

/-! ## Blocks -/

theorem block_of_cut? {text mark : String} (hmark : mark.toList ≠ []) {a b : List Char}
    (hcut : cut? mark.toList text.toList = some (a, b)) :
    block text mark = String.ofList (front "```".toList (front mark.toList b)) := by
  rw [block, Text.getD_one_split hmark hcut, Text.headD_split _ (by decide),
    String.toList_ofList (l := front mark.toList b)]

section

variable {text before after : String}

/-- What is cut out of a block that is opened with a word is the text in it. -/
theorem jsonText_json (htext : Enclosed text.toList) (hbefore : '`' ∉ before.toList)
    (hafter : Trailer after.toList) :
    jsonText (.str (before ++ "```json" ++ text ++ "```" ++ after)) = .ok text := by
  have hchars : (before ++ "```json" ++ text ++ "```" ++ after).toList =
      before.toList ++ ("```json".toList ++ (text.toList ++ ("```".toList ++ after.toList))) := by
    simp only [String.toList_append, List.append_assoc]
  have hcut : cut? "```json".toList (before ++ "```json" ++ text ++ "```" ++ after).toList =
      some (before.toList, text.toList ++ ("```".toList ++ after.toList)) := by
    have hmark := Text.cut?_append '`' "``json".toList
      (text.toList ++ ("```".toList ++ after.toList))
    rw [hchars]
    refine (Text.cut?_append_of_not_mem hbefore _ _).trans ?_
    refine (congrArg (Option.map _) hmark).trans ?_
    simp
  have hcontains :
      Text.contains (before ++ "```json" ++ text ++ "```" ++ after) "```json" = true := by
    rw [Text.contains, hcut]
    rfl
  have hblock : block (before ++ "```json" ++ text ++ "```" ++ after) "```json" = text := by
    have hfront : front "```json".toList (text.toList ++ ("```".toList ++ after.toList)) =
        text.toList ++ ("```".toList ++ after.toList) := by
      rw [front, htext.cut?_json hafter]
      rfl
    rw [block_of_cut? (by decide) hcut, hfront, htext.front_mark hafter.noMark,
      String.ofList_toList]
  simp [jsonText, Json.holds, hcontains, hblock, Json.asText, bind, Except.bind, pure, Except.pure]

/-- What is cut out of a block that is opened without a word is the text with the line feed before
it. -/
theorem jsonText_plain (htext : Enclosed text.toList) (hbefore : '`' ∉ before.toList)
    (hafter : Trailer after.toList) :
    jsonText (.str (before ++ "```\n" ++ text ++ "```" ++ after)) =
      .ok (String.ofList ('\n' :: text.toList)) := by
  have hchars : (before ++ "```\n" ++ text ++ "```" ++ after).toList =
      before.toList ++
        ("```".toList ++ ('\n' :: text.toList ++ ("```".toList ++ after.toList))) := by
    simp
  have hjson : Text.contains (before ++ "```\n" ++ text ++ "```" ++ after) "```json" = false := by
    -- a line feed follows the mark, so no word opens the block
    have hopen (cs : List Char) : cut? "```json".toList ("```\n".toList ++ cs) =
        (cut? "```json".toList cs).map fun p => ("```\n".toList ++ p.1, p.2) := by
      simp [cut?, Text.dropPattern?, Function.comp_def]
    rw [Text.contains, hchars]
    refine (congrArg Option.isSome ((Text.cut?_append_of_not_mem hbefore _ _).trans
      (congrArg (Option.map _) (hopen (text.toList ++ ("```".toList ++ after.toList)))))).trans ?_
    rw [htext.cut?_json hafter]
    rfl
  have hcut : cut? "```".toList (before ++ "```\n" ++ text ++ "```" ++ after).toList =
      some (before.toList, '\n' :: text.toList ++ ("```".toList ++ after.toList)) := by
    rw [hchars]
    refine (Text.cut?_append_of_not_mem hbefore _ _).trans ?_
    refine (congrArg (Option.map _) (Text.cut?_append '`' "``".toList
      ('\n' :: text.toList ++ ("```".toList ++ after.toList)))).trans ?_
    simp
  have hmark : Text.contains (before ++ "```\n" ++ text ++ "```" ++ after) "```" = true := by
    rw [Text.contains, hcut]
    rfl
  have hblock : block (before ++ "```\n" ++ text ++ "```" ++ after) "```" =
      String.ofList ('\n' :: text.toList) := by
    rw [block_of_cut? (by decide) hcut, htext.cons.front_mark hafter.noMark, htext.cons.front_self]
  simp [jsonText, Json.holds, hjson, hmark, hblock, Json.asText, bind, Except.bind, pure,
    Except.pure]

theorem jsonText_bare (htext : Enclosed text.toList) : jsonText (.str text) = .ok text := by
  have hmark : Text.contains text "```" = false := by
    rw [Text.contains, Text.cut?_eq_none_iff.mpr htext.noMark]
    rfl
  exact jsonText_of_not_contains hmark

end

/-! ## Wrapped replies -/

/-- The replies that hold a text: the text itself, or a block of code with it and with other words
around the block. -/
inductive Wraps (text : String) : String → Prop
  | bare : Wraps text text
  | json {before after : String} (hbefore : '`' ∉ before.toList) (hafter : Trailer after.toList) :
      Wraps text (before ++ "```json" ++ text ++ "```" ++ after)
  | plain {before after : String} (hbefore : '`' ∉ before.toList) (hafter : Trailer after.toList) :
      Wraps text (before ++ "```\n" ++ text ++ "```" ++ after)

/-- The specification in a text of JSON. -/
def Spec.ofText (text : String) : Except Fault Spec := do
  let v ← (Json.decode (Text.trim text)).mapError .decoding
  (ofJson v).mapError .mismatch

theorem Spec.ofReply_of_jsonText {reply : Json} {text : String} (h : jsonText reply = .ok text) :
    Spec.ofReply reply = Spec.ofText text := by
  have hread : (jsonText reply).mapError Fault.mismatch = .ok text := by rw [h]; rfl
  exact Outcome.bind_of_ok hread _

theorem Wraps.ofReply {text reply : String} (htext : Enclosed text.toList) (h : Wraps text reply) :
    Spec.ofReply (.str reply) = Spec.ofText text := by
  cases h with
  | bare => exact Spec.ofReply_of_jsonText (jsonText_bare htext)
  | json hbefore hafter => exact Spec.ofReply_of_jsonText (jsonText_json htext hbefore hafter)
  | plain hbefore hafter =>
      rw [Spec.ofReply_of_jsonText (jsonText_plain htext hbefore hafter), Spec.ofText,
        Text.trim_cons_of_isBlank rfl, String.ofList_toList, Spec.ofText]

theorem enclosed_of_isText {text : String} (htext : Json.IsText text)
    (hmark : Text.contains text "```" = false) : Enclosed text.toList where
  noMark := by
    have hcut : cut? "```".toList text.toList = none := by
      simpa [Text.contains] using hmark
    exact Text.cut?_eq_none_iff.mp hcut
  ending := htext.getLast?_ne

/-- A block of code changes nothing: whichever way the model wraps a text of JSON without marks of a
block, the specification is the one that the text holds, or none if it holds none. -/
theorem wrapped_reply_understood (s : Scribe) {text reply : String} (htext : Json.IsText text)
    (hmark : Text.contains text "```" = false) (hreply : Wraps text reply) (question : Json)
    {w : World} {rest : List (Scripted (Option Json))}
    (hw : w.model = .gives (some (.str reply)) :: rest) :
    ∃ w', s.writeSpec question w =
      (.ok (if s.hasModel then (Spec.ofText text).toOption else none), w') := by
  obtain ⟨w', hrun, -⟩ := s.writeSpec_written question w
  have hwritten : s.written w =
      if s.hasModel then (Spec.ofText text).toOption else none := by
    rw [written, hw]
    cases s.hasModel with
    | false => rfl
    | true =>
        have hspec := hreply.ofReply (enclosed_of_isText htext hmark)
        simp only [hspec, if_true]
  rw [hwritten] at hrun
  exact ⟨w', hrun⟩

/-- The model answers with these words. -/
def repliedWorld (reply : String) : World where
  clock := ⟨0⟩
  draws := ⟨[], 0⟩
  model := [.gives (some (.str reply))]

/-- A specification in a block of code between a greeting and a farewell. -/
theorem wrapped_reply_understood_identity :
    Json.IsText identityValue.encode ∧ Text.contains identityValue.encode "```" = false ∧
    ∃ w', (⟨true, false, none, none⟩ : Scribe).writeSpec (.str "What is the identity?")
      (repliedWorld ("Here it is:\n" ++ "```json" ++ identityValue.encode ++ "```" ++ "\nEnjoy!")) =
        (.ok (some identity), w') := by
  have htext : Json.IsText identityValue.encode := Json.isText_of_decode decode_identityValue
  have hmark : Text.contains identityValue.encode "```" = false := by decide +kernel
  have hspec : Spec.ofText identityValue.encode = .ok identity := by
    rw [← Spec.ofReply_of_jsonText (jsonText_of_not_contains hmark), ofReply_identityValue]
  have hwraps : Wraps identityValue.encode
      ("Here it is:\n" ++ "```json" ++ identityValue.encode ++ "```" ++ "\nEnjoy!") :=
    .json (by decide) ⟨by decide, by decide⟩
  obtain ⟨w', hrun⟩ := wrapped_reply_understood ⟨true, false, none, none⟩ htext hmark hwraps
    (.str "What is the identity?") (w := repliedWorld _) rfl
  rw [hspec] at hrun
  exact ⟨htext, hmark, w', hrun⟩

end Scribe

end Persona
