import Persona.Proofs.Json.Flow
import Persona.Proofs.Scribe.Publishing
import Persona.Proofs.Text.Searching

/-!
# Replies with the mark of a block of code

A reply is searched for a block of code before it is read. A bare object may hold the mark of a
block inside of its texts; what stands behind the mark is then taken for the block. It starts in
the midst of a text, so its quotes are taken the wrong way round, and no specification is found in
it. A bare object without the mark is always understood.

Main statement: `bare_reply_understood_iff`.
-/

namespace Persona

/-! ## Pieces of a text -/

namespace Text

/-- A text holds what a pattern that it holds holds at its start. -/
theorem contains_of_append {s pattern start more : String} (h : contains s pattern = true)
    (hpattern : pattern.toList = start.toList ++ more.toList) : contains s start = true := by
  obtain ⟨⟨a, b⟩, hcut⟩ := Option.isSome_iff_exists.mp h
  unfold contains
  rw [eq_append_of_cut? hcut, hpattern, List.append_assoc, List.append_assoc]
  exact cut?_isSome_of_append start.toList a (more.toList ++ b)

/-- The first piece of a text is where it starts. -/
theorem exists_cons_piecesFrom (pattern : List Char) (fuel : Nat) (cs : List Char) :
    ∃ first others tail, piecesFrom pattern fuel cs = first :: others ∧ cs = first ++ tail := by
  cases fuel with
  | zero => exact ⟨cs, [], [], rfl, (List.append_nil cs).symm⟩
  | succ fuel =>
      rw [piecesFrom]
      cases hcut : cut? pattern cs with
      | none => exact ⟨cs, [], [], rfl, (List.append_nil cs).symm⟩
      | some ab =>
          refine ⟨ab.1, _, pattern ++ ab.2, rfl, ?_⟩
          rw [← List.append_assoc]
          exact eq_append_of_cut? hcut

theorem exists_append_first_split (s pattern : String) :
    ∃ tail, s.toList = ((split s pattern).headD "").toList ++ tail := by
  obtain ⟨first, others, tail, hpieces, hs⟩ :=
    exists_cons_piecesFrom pattern.toList s.toList.length s.toList
  refine ⟨tail, ?_⟩
  rw [split, hpieces, List.map_cons, List.headD_cons, String.toList_ofList]
  exact hs

/-- The second piece is where the text behind the pattern starts. -/
theorem exists_append_second_split {s pattern : String} {a b : List Char}
    (hcut : cut? pattern.toList s.toList = some (a, b)) (hpattern : pattern.toList ≠ []) :
    ∃ tail, b = ((split s pattern).getD 1 "").toList ++ tail := by
  obtain ⟨n, hn⟩ : ∃ n, s.toList.length = n + 1 := by
    have hlength := List.length_pos_iff.mpr hpattern
    refine ⟨s.toList.length - 1, ?_⟩
    rw [eq_append_of_cut? hcut, List.length_append, List.length_append]
    omega
  obtain ⟨first, others, tail, hpieces, hb⟩ := exists_cons_piecesFrom pattern.toList n b
  refine ⟨tail, ?_⟩
  have hsecond : (split s pattern).getD 1 "" = String.ofList first := by
    rw [split, hn, piecesFrom, hcut]
    simp only [hpieces]
    rfl
  rw [hsecond, String.toList_ofList]
  exact hb

end Text

namespace Scribe

open Json (Blanks HollowNames Mode SoundTexts WritesObject)

/-- The blanks of a written value are blanks of a text. -/
theorem isBlank_of_blanks {gap : List Char} (h : Blanks gap) :
    ∀ c ∈ gap, Text.isBlank c = true := by
  intro c hc
  have hc := h c hc
  simp only [Json.isBlank, Bool.or_eq_true, beq_iff_eq] at hc
  rcases hc with ((rfl | rfl) | rfl) | rfl <;> rfl

/-! ## Blocks -/

/-- A block is part of what follows its mark. -/
theorem exists_append_block {text mark : String} {a b : List Char}
    (hcut : Text.cut? mark.toList text.toList = some (a, b)) (hmark : mark.toList ≠ []) :
    ∃ tail, b = (block text mark).toList ++ tail := by
  obtain ⟨tail, hb⟩ := Text.exists_append_second_split hcut hmark
  obtain ⟨tail', hpiece⟩ := Text.exists_append_first_split ((Text.split text mark).getD 1 "") "```"
  refine ⟨tail' ++ tail, ?_⟩
  rw [hb, hpiece, List.append_assoc]
  rfl

/-- A mark of no blanks, brackets or quotes stands inside of quotes, and so does its block. -/
theorem fits_block {text mark : String} (htext : Mode.outside.Fits text.toList)
    (hcontains : Text.contains text mark = true) (hmark : mark.toList ≠ [])
    (hplain : mark.toList.all (fun c => !Json.isStructural c && c != '"' && c != '\\') = true) :
    Mode.inside.Fits (block text mark).toList := by
  obtain ⟨⟨a, b⟩, hcut⟩ := Option.isSome_iff_exists.mp hcontains
  obtain ⟨tail, hb⟩ := exists_append_block hcut hmark
  rw [Text.eq_append_of_cut? hcut, List.append_assoc] at htext
  have hchars (c : Char) (hc : c ∈ mark.toList) :
      Json.isStructural c = false ∧ c ≠ '"' ∧ c ≠ '\\' := by
    simpa [and_assoc] using List.all_eq_true.mp hplain c hc
  cases hms : mark.toList with
  | nil => exact absurd hms hmark
  | cons c ms =>
      rw [hms] at htext hchars
      rw [hb] at htext
      exact (htext.inside_of_append (hchars c (by simp)).1 fun d hd => (hchars d hd).2).of_append

/-- A text without the mark of a block is taken whole. -/
theorem jsonText_of_not_contains {text : String} (hmark : Text.contains text "```" = false) :
    jsonText (.str text) = .ok text := by
  have hjson : Text.contains text "```json" = false := by
    refine Bool.eq_false_iff.mpr fun hjson => ?_
    have hstart : "```json".toList = "```".toList ++ "json".toList := by decide
    rw [Text.contains_of_append hjson hstart] at hmark
    cases hmark
  simp [jsonText, Json.holds, hjson, hmark, Json.asText, bind, Except.bind]

theorem ofJson_of_hollowNames {v : Json} (h : HollowNames v) : ∃ e, Spec.ofJson v = .error e := by
  have hfield : ∃ e, v.field "name" = .error e := by
    cases v with
    | obj fs =>
        have hname : Fields.get? fs "name" = none := by
          refine Fields.get?_eq_none_iff.mpr fun hmem => ?_
          have hhollow := h fs rfl "name" hmem 'n' (by decide)
          cases hhollow
        exact ⟨.noField "name", by rw [Json.field, hname]⟩
    | null | bool b | int n | float x | str s | arr xs => exact ⟨_, rfl⟩
  obtain ⟨e, he⟩ := hfield
  exact ⟨e, by rw [Spec.ofJson, he]; rfl⟩

theorem fits_trim {text : String} (h : Mode.inside.Fits text.toList) :
    Mode.inside.Fits (Text.trim text).toList := by
  obtain ⟨before, after, htext, hbefore⟩ := Text.exists_append_trimChars Text.isBlank text.toList
  rw [htext] at h
  rw [Text.trim, Text.trimWhere, String.toList_ofList]
  refine (h.drop fun c hc => ?_).of_append
  have hc := hbefore c hc
  refine ⟨?_, ?_⟩
  · rintro rfl
    revert hc
    decide
  · rintro rfl
    revert hc
    decide

/-- What starts in the midst of a text is no specification. -/
theorem ofReply_of_fits {reply : Json} {text : String} (hreply : jsonText reply = .ok text)
    (htext : Mode.inside.Fits text.toList) : ∃ f, Spec.ofReply reply = .error f := by
  cases hvalue : Json.decode (Text.trim text) with
  | ok v =>
      have hread : Json.readText (Text.trim text).toList = .ok v := by
        unfold Json.decode at hvalue
        cases hread : Json.readText (Text.trim text).toList with
        | ok u =>
            rw [hread] at hvalue
            exact congrArg Except.ok (Except.ok.inj hvalue)
        | error stop =>
            rw [hread] at hvalue
            cases hvalue
      obtain ⟨e, he⟩ := ofJson_of_hollowNames (Json.hollowNames_of_readText (fits_trim htext) hread)
      exact ⟨.mismatch e, by rw [Spec.ofReply_of_decode hreply hvalue, he]; rfl⟩
  | error e =>
      have hmap : (jsonText reply).mapError Fault.mismatch = .ok text := by rw [hreply]; rfl
      refine ⟨.decoding e, (Outcome.bind_of_ok hmap _).trans ?_⟩
      rw [hvalue]
      rfl

/-! ## Bare replies -/

/-- The parts of a specification, all of them texts. -/
structure Draft where
  name : String
  title : String
  content : String
  summary : String
  highlights : List String
  category : String

namespace Draft

def fields (d : Draft) : List (String × Json) :=
  [("name", .str d.name), ("title", .str d.title), ("content", .str d.content),
    ("summary", .str d.summary), ("highlights", .arr (d.highlights.map .str)),
    ("category", .str d.category)]

/-- The specification that has these parts and nothing else. -/
def spec (d : Draft) : Spec where
  name := .str d.name
  title := .str d.title
  content := .str d.content
  summary := .str d.summary
  highlights := .arr (d.highlights.map .str)
  category := .str d.category

/-- All texts of the draft are sound. -/
def Sound (d : Draft) : Prop :=
  ∀ s ∈ d.name :: d.title :: d.content :: d.summary :: d.category :: d.highlights, Text.Sound s

/-- The text writes the parts as an object and nothing else, in any order and in any way. -/
def Encoding (d : Draft) (text : String) : Prop :=
  ∃ fs before object after, fs.Perm d.fields ∧ WritesObject fs object ∧ Blanks before ∧
    Blanks after ∧ text.toList = before ++ (object ++ after)

variable {d : Draft} {text : String}

theorem Sound.fields (h : d.Sound) : ∀ f ∈ d.fields, Text.Sound f.1 ∧ SoundTexts f.2 := by
  have hkey (key : String) (hmark : Text.mark ∉ key.toList) : Text.Sound key :=
    Text.sound_of_not_mem_mark hmark
  have hlist : SoundTexts (.arr (d.highlights.map .str)) := by
    intro s hs
    obtain ⟨t, ht, heq⟩ := List.mem_map.mp hs
    cases heq
    exact h s (by simp [ht])
  intro f hf
  simp only [Draft.fields, List.mem_cons, List.not_mem_nil, or_false] at hf
  rcases hf with rfl | rfl | rfl | rfl | rfl | rfl
  · exact ⟨hkey "name" (by decide), h d.name (by simp)⟩
  · exact ⟨hkey "title" (by decide), h d.title (by simp)⟩
  · exact ⟨hkey "content" (by decide), h d.content (by simp)⟩
  · exact ⟨hkey "summary" (by decide), h d.summary (by simp)⟩
  · exact ⟨hkey "highlights" (by decide), hlist⟩
  · exact ⟨hkey "category" (by decide), h d.category (by simp)⟩

theorem nodup_keys_fields (d : Draft) : (d.fields.map (·.1)).Nodup := by
  change ["name", "title", "content", "summary", "highlights", "category"].Nodup
  decide

theorem ofJson_of_perm {fs : List (String × Json)} (h : fs.Perm d.fields) :
    Spec.ofJson (.obj fs) = .ok d.spec := by
  have hnodup : (fs.map (·.1)).Nodup := (h.map _).nodup_iff.mpr d.nodup_keys_fields
  have hget {key : String} {v : Json} (hmem : (key, v) ∈ d.fields) : Fields.get? fs key = some v :=
    (Fields.get?_eq_some_iff hnodup key v).mpr (h.mem_iff.mpr hmem)
  have hfield {key : String} {v : Json} (hmem : (key, v) ∈ d.fields) :
      Json.field (.obj fs) key = .ok v := by rw [Json.field, hget hmem]
  have hcategory : Json.fieldOr (.obj fs) "category" (.str "examples") = .ok (.str d.category) := by
    rw [Json.fieldOr, hget (v := .str d.category) (by simp [fields])]
    rfl
  rw [Spec.ofJson, hfield (v := .str d.name) (by simp [fields]),
    hfield (v := .str d.title) (by simp [fields]), hfield (v := .str d.content) (by simp [fields]),
    hfield (v := .str d.summary) (by simp [fields]),
    hfield (v := .arr (d.highlights.map .str)) (by simp [fields]), hcategory]
  rfl

/-- What is written of the parts on one line is one of their encodings. -/
theorem encoding_encode (hd : d.Sound) : d.Encoding (Json.obj d.fields).encode := by
  have htextual : ∀ f ∈ d.fields, Json.Textual f.2 := by
    intro f hf
    simp only [Draft.fields, List.mem_cons, List.not_mem_nil, or_false] at hf
    rcases hf with rfl | rfl | rfl | rfl | rfl | rfl
    · exact .inl ⟨_, rfl⟩
    · exact .inl ⟨_, rfl⟩
    · exact .inl ⟨_, rfl⟩
    · exact .inl ⟨_, rfl⟩
    · exact .inr ⟨_, rfl⟩
    · exact .inl ⟨_, rfl⟩
  refine ⟨d.fields, [], (Json.obj d.fields).chars .line 0, [], .refl _,
    Json.writesObject_chars .line fun f hf => ?_, by simp [Blanks], by simp [Blanks], ?_⟩
  · obtain ⟨hkey, hv⟩ := hd.fields f hf
    exact ⟨hkey, htextual f hf, hv⟩
  · rw [Json.encode, String.toList_ofList, List.append_nil, List.nil_append]

theorem Encoding.fits (hd : d.Sound) (h : d.Encoding text) : Mode.outside.Fits text.toList := by
  obtain ⟨fs, before, object, after, hperm, hobject, hbefore, hafter, htext⟩ := h
  have hfs := fun f hf => hd.fields f (hperm.mem_iff.mp hf)
  unfold Mode.Fits
  rw [htext, Json.after_append_of_outside hbefore.after,
    Json.after_append_of_outside (hobject.after hfs), hafter.after]
  rfl

/-- The object of a reply is read, without the blanks around it. -/
theorem Encoding.decode_trim (hd : d.Sound) (h : d.Encoding text) :
    ∃ fs, fs.Perm d.fields ∧ Json.decode (Text.trim text) = .ok (.obj fs) := by
  obtain ⟨fs, before, object, after, hperm, hobject, hbefore, hafter, htext⟩ := h
  have hfs := fun f hf => hd.fields f (hperm.mem_iff.mp hf)
  have hread := Json.readText_writes hobject hfs ((hperm.map _).nodup_iff.mpr d.nodup_keys_fields)
  have htrim : Text.trim text = String.ofList object := by
    obtain ⟨more, rfl⟩ := hobject.exists_braces
    rw [Text.trim, Text.trimWhere, htext]
    exact congrArg String.ofList (Text.trimChars_append (isBlank_of_blanks hbefore)
      (isBlank_of_blanks hafter) rfl rfl)
  refine ⟨fs, hperm, ?_⟩
  rw [Json.decode, htrim, String.toList_ofList, hread]
  rfl

/-- A bare reply without the mark of a block is understood. -/
theorem ofReply_of_not_contains (hd : d.Sound) (h : d.Encoding text)
    (hmark : Text.contains text "```" = false) : Spec.ofReply (.str text) = .ok d.spec := by
  obtain ⟨fs, hperm, hdecode⟩ := h.decode_trim hd
  rw [Spec.ofReply_of_decode (jsonText_of_not_contains hmark) hdecode, ofJson_of_perm hperm]
  rfl

/-- With the mark of a block it is not. -/
theorem ofReply_of_contains (hd : d.Sound) (h : d.Encoding text)
    (hmark : Text.contains text "```" = true) : ∃ f, Spec.ofReply (.str text) = .error f := by
  have hfits := h.fits hd
  cases hjson : Text.contains text "```json" with
  | true =>
      have htext : jsonText (.str text) = .ok (block text "```json") := by
        simp [jsonText, Json.holds, hjson, Json.asText, bind, Except.bind, pure, Except.pure]
      exact ofReply_of_fits htext (fits_block hfits hjson (by decide) (by decide))
  | false =>
      have htext : jsonText (.str text) = .ok (block text "```") := by
        simp [jsonText, Json.holds, hjson, hmark, Json.asText, bind, Except.bind, pure, Except.pure]
      exact ofReply_of_fits htext (fits_block hfits hmark (by decide) (by decide))

end Draft

/-- A bare reply that writes the six parts of a specification is understood just when the mark of a
block of code does not stand in it. -/
theorem bare_reply_understood_iff {s : Scribe} (hs : s.hasModel = true) {d : Draft}
    (hd : d.Sound) {text : String} (htext : d.Encoding text) (question : Json) {w : World}
    {rest : List (Scripted (Option Json))} (hw : w.model = .gives (some (.str text)) :: rest) :
    ∃ w', s.writeSpec question w =
      (.ok (if Text.contains text "```" then none else some d.spec), w') := by
  obtain ⟨w', hrun, -⟩ := s.writeSpec_written question w
  refine ⟨w', ?_⟩
  rw [hrun, written, hs, hw]
  dsimp only
  cases hmark : Text.contains text "```" with
  | true =>
      obtain ⟨f, hf⟩ := Draft.ofReply_of_contains hd htext hmark
      rw [hf]
      rfl
  | false =>
      rw [Draft.ofReply_of_not_contains hd htext hmark]
      rfl

/-- The identity function, with this content. -/
def identityDraft (content : String) : Draft where
  name := "id"
  title := "Identity"
  content := content
  summary := "Itself."
  highlights := ["total"]
  category := "meta"

theorem sound_identityDraft {content : String} (h : Text.mark ∉ content.toList) :
    (identityDraft content).Sound := by
  intro s hs
  simp only [identityDraft, List.mem_cons, List.not_mem_nil, or_false] at hs
  rcases hs with rfl | rfl | rfl | rfl | rfl | rfl
  · exact Text.sound_of_not_mem_mark (by decide)
  · exact Text.sound_of_not_mem_mark (by decide)
  · exact Text.sound_of_not_mem_mark h
  · exact Text.sound_of_not_mem_mark (by decide)
  · exact Text.sound_of_not_mem_mark (by decide)
  · exact Text.sound_of_not_mem_mark (by decide)

/-- The model answers with the parts of a draft on one line. -/
def draftWorld (d : Draft) : World where
  clock := ⟨0⟩
  draws := ⟨[], 0⟩
  model := [.gives (some (.str (Json.obj d.fields).encode))]

/-- A definition without marks of a block is understood. -/
theorem bare_reply_understood_iff_identity :
    (identityDraft "id x = x").Encoding (Json.obj (identityDraft "id x = x").fields).encode ∧
    ∃ w', (⟨true, false, none, none⟩ : Scribe).writeSpec (.str "What is the identity?")
      (draftWorld (identityDraft "id x = x")) =
        (.ok (some (identityDraft "id x = x").spec), w') := by
  have hsound : (identityDraft "id x = x").Sound := sound_identityDraft (by decide)
  have hencoding := Draft.encoding_encode hsound
  have hmark : Text.contains (Json.obj (identityDraft "id x = x").fields).encode "```" = false := by
    decide +kernel
  obtain ⟨w', hrun⟩ := bare_reply_understood_iff (s := ⟨true, false, none, none⟩) rfl hsound
    hencoding (.str "What is the identity?") (w := draftWorld (identityDraft "id x = x")) rfl
  rw [hmark] at hrun
  exact ⟨hencoding, w', hrun⟩

/-- A definition in a block of code is not. -/
theorem bare_reply_not_understood :
    (identityDraft "```phi```").Encoding (Json.obj (identityDraft "```phi```").fields).encode ∧
    ∃ w', (⟨true, false, none, none⟩ : Scribe).writeSpec (.str "What is the identity?")
      (draftWorld (identityDraft "```phi```")) = (.ok none, w') := by
  have hsound : (identityDraft "```phi```").Sound := sound_identityDraft (by decide)
  have hencoding := Draft.encoding_encode hsound
  have hmark : Text.contains (Json.obj (identityDraft "```phi```").fields).encode "```" = true := by
    decide +kernel
  obtain ⟨f, hf⟩ := Draft.ofReply_of_contains hsound hencoding hmark
  obtain ⟨w', hrun, -⟩ := (⟨true, false, none, none⟩ : Scribe).writeSpec_written
    (.str "What is the identity?") (draftWorld (identityDraft "```phi```"))
  refine ⟨hencoding, w', ?_⟩
  rw [hrun, written]
  change (Except.ok (Spec.ofReply _).toOption, w') = _
  rw [hf]
  rfl

end Scribe

end Persona
