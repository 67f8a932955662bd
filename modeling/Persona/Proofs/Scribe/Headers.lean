import Persona.Proofs.Scribe.Shelving

/-!
# The header of a file

The file of a specification starts with a header: the title, the date, the summary and the
highlights, each behind the mark of a comment. The texts are put there as they are, so only their
first lines stand behind a mark. A text of several lines adds its further lines to the
specification, unless these are comments themselves or empty.

What ends a line is left open: a line feed does, and none but the breaks of lines that there are.

Main statements: `commented_captions_iff`, `header_commented_iff`.
-/

namespace Persona

/-! ## Lines -/

namespace Text

/-- A way to tell the ends of lines. -/
structure EndsLines (isBreak : Char → Bool) : Prop where
  lineFeed : isBreak '\n' = true
  breaks : ∀ c, isBreak c = true → isLineBreak c = true

theorem not_isLineBreak_of_isPrintable {c : Char} (h : Json.isPrintable c = true) :
    isLineBreak c = false := by
  simp only [Json.isPrintable, Bool.and_eq_true, decide_eq_true_eq] at h
  refine Bool.eq_false_iff.mpr fun hbreak => ?_
  obtain ⟨range, hrange, hlow, hhigh⟩ := inRanges_iff.mp hbreak
  simp only [lineBreakRanges, List.mem_cons, List.not_mem_nil, or_false] at hrange
  obtain rfl | rfl | rfl | rfl := hrange
  all_goals
    simp only at hlow hhigh
    omega

theorem EndsLines.eq_false {isBreak : Char → Bool} (h : EndsLines isBreak) {c : Char}
    (hc : isLineBreak c = false) : isBreak c = false := by
  by_contra hbreak
  have hline := h.breaks c (by simpa using hbreak)
  rw [hc] at hline
  cases hline

theorem EndsLines.forall_eq_false {isBreak : Char → Bool} (h : EndsLines isBreak) {cs : List Char}
    (hcs : cs.all (fun c => !isLineBreak c) = true) : ∀ c ∈ cs, isBreak c = false := by
  intro c hc
  exact h.eq_false (by simpa using List.all_eq_true.mp hcs c hc)

theorem splitOnP_append_of_forall {isBreak : Char → Bool} {mark : List Char}
    (h : ∀ c ∈ mark, isBreak c = false) (cs : List Char) :
    (mark ++ cs).splitOnP isBreak = (cs.splitOnP isBreak).modifyHead (mark ++ ·) := by
  induction mark with
  | nil =>
      rw [List.nil_append]
      cases cs.splitOnP isBreak <;> rfl
  | cons c mark ih =>
      have hc : isBreak c = false := h c (by simp)
      have hmark := ih fun d hd => h d (List.mem_cons_of_mem c hd)
      simp only [List.cons_append, List.splitOnP_cons_eq_if_modifyHead, hc, hmark,
        List.modifyHead_modifyHead, Bool.false_eq_true, if_false]
      rfl

end Text

theorem Date.isPrintable_plainText (d : Date) :
    ∀ c ∈ d.plainText.toList, Json.isPrintable c = true := by
  have hpadded (width n : Nat) : ∀ c ∈ (padded width n).toList, Json.isPrintable c = true := by
    intro c hc
    simp only [padded, String.toList_append, String.toList_ofList, List.mem_append,
      List.mem_replicate] at hc
    cases hc with
    | inl hzero =>
        rw [hzero.2]
        decide
    | inr hdigit =>
        exact Json.isPrintable_of_isAsciiDigit (Json.isAsciiDigit_of_mem_natText n c hdigit)
  have hdash : ∀ c ∈ "-".toList, Json.isPrintable c = true := List.all_eq_true.mp (by decide)
  intro c hc
  simp only [plainText, String.toList_append, List.mem_append] at hc
  obtain (((hc | hc) | hc) | hc) | hc := hc
  · exact Json.isPrintable_of_mem_intText d.year c hc
  · exact hdash c hc
  · exact hpadded 2 d.month c hc
  · exact hdash c hc
  · exact hpadded 2 d.day c hc

namespace Scribe

/-! ## Comments -/

/-- A line that says nothing to a reader of the specification: an empty one or a comment. -/
def Idle (line : List Char) : Prop := line = [] ∨ "--".toList <+: line

instance (line : List Char) : Decidable (Idle line) := inferInstanceAs (Decidable (_ ∨ _))

/-- All lines are idle. -/
def Commented (isBreak : Char → Bool) (cs : List Char) : Prop :=
  ∀ line ∈ cs.splitOnP isBreak, Idle line

/-- All lines but the first are idle. -/
def Continues (isBreak : Char → Bool) (cs : List Char) : Prop :=
  ∀ line ∈ (cs.splitOnP isBreak).tail, Idle line

instance (isBreak : Char → Bool) (cs : List Char) : Decidable (Commented isBreak cs) :=
  inferInstanceAs (Decidable (∀ line ∈ _, Idle line))

instance (isBreak : Char → Bool) (cs : List Char) : Decidable (Continues isBreak cs) :=
  inferInstanceAs (Decidable (∀ line ∈ _, Idle line))

variable {isBreak : Char → Bool}

theorem commented_append_cons {c : Char} (hc : isBreak c = true) (cs ds : List Char) :
    Commented isBreak (cs ++ c :: ds) ↔ Commented isBreak cs ∧ Commented isBreak ds := by
  simp only [Commented, List.splitOnP_append_cons cs ds hc, List.forall_mem_append]

/-- Behind the mark of a comment, the first line of a text may be anything. -/
theorem commented_mark_append {mark : List Char} (hmark : "--".toList <+: mark)
    (hbreak : ∀ c ∈ mark, isBreak c = false) (cs : List Char) :
    Commented isBreak (mark ++ cs) ↔ Continues isBreak cs := by
  simp only [Commented, Continues, Text.splitOnP_append_of_forall hbreak]
  cases hlines : cs.splitOnP isBreak with
  | nil => exact absurd hlines (List.splitOnP_ne_nil isBreak cs)
  | cons first others =>
      have hfirst : Idle (mark ++ first) := .inr (hmark.trans (List.prefix_append mark first))
      simp only [List.modifyHead_cons, List.forall_mem_cons, List.tail_cons, hfirst, true_and]

theorem commented_mark {mark : List Char} (hmark : "--".toList <+: mark)
    (hbreak : ∀ c ∈ mark, isBreak c = false) : Commented isBreak mark := by
  have h := (commented_mark_append hmark hbreak []).mpr (by simp [Continues])
  rwa [List.append_nil] at h

/-! ## The header -/

/-- The lines of the highlights. -/
def bulletChars (highlights : List Json) : List Char :=
  highlights.flatMap fun h => "--   • ".toList ++ h.text.toList ++ ['\n']

/-- What stands above the content, up to the empty line. -/
def Spec.captions (spec : Spec) (date : Date) (highlights : List Json) : List Char :=
  "-- ".toList ++ spec.title.text.toList ++ '\n' ::
    ("-- Generated by Phi Oracle on ".toList ++ date.plainText.toList ++ '\n' ::
      ("-- ".toList ++ '\n' :: ("-- ".toList ++ spec.summary.text.toList ++ '\n' ::
        ("--".toList ++ '\n' :: ("-- Highlights:".toList ++ '\n' ::
          (bulletChars highlights ++ ("--".toList ++ ['\n'])))))))

theorem fileText_eq_ok {spec : Spec} {date : Date} {text : String}
    (h : spec.fileText date = .ok text) :
    ∃ highlights content, spec.highlights.items = .ok highlights ∧ spec.content = .str content ∧
      text = String.ofList (spec.captions date highlights) ++ "\n" ++ content := by
  obtain ⟨header, hheader, h⟩ := Outcome.of_bind_eq_ok h
  obtain ⟨highlights, hitems, hheader⟩ := Outcome.of_bind_eq_ok hheader
  cases hcontent : spec.content with
  | str content =>
      simp only [hcontent] at h
      have htext : header ++ content = text := Except.ok.inj h
      rw [← htext, ← Except.ok.inj hheader]
      refine ⟨highlights, content, hitems, rfl, ?_⟩
      apply String.toList_injective
      simp [Text.ofLines, Spec.captions, bulletChars, String.toList_join, List.flatMap_map]
  | null | bool b | int n | float x | arr xs | obj fs =>
      simp only [hcontent] at h
      cases h

/-- The further lines of the texts in the header are idle. -/
structure Spec.Captioned (spec : Spec) (isBreak : Char → Bool) (highlights : List Json) : Prop where
  title : Continues isBreak spec.title.text.toList
  summary : Continues isBreak spec.summary.text.toList
  highlights : ∀ h ∈ highlights, Continues isBreak h.text.toList

section

variable (hbreak : Text.EndsLines isBreak)
include hbreak

theorem commented_bulletChars_iff (highlights : List Json) (cs : List Char) :
    Commented isBreak (bulletChars highlights ++ cs) ↔
      (∀ h ∈ highlights, Continues isBreak h.text.toList) ∧ Commented isBreak cs := by
  have hmark : ∀ c ∈ "--   • ".toList, isBreak c = false := hbreak.forall_eq_false (by decide)
  induction highlights with
  | nil => simp [bulletChars]
  | cons h highlights ih =>
      have hchars : bulletChars (h :: highlights) ++ cs =
          "--   • ".toList ++ h.text.toList ++ '\n' :: (bulletChars highlights ++ cs) := by
        simp [bulletChars]
      simp only [hchars, commented_append_cons hbreak.lineFeed,
        commented_mark_append (by decide) hmark, ih, List.forall_mem_cons, and_assoc]

/-- The header is all comments just when the further lines of its texts are idle. -/
theorem commented_captions_iff (spec : Spec) (date : Date) (highlights : List Json) :
    Commented isBreak (spec.captions date highlights) ↔ spec.Captioned isBreak highlights := by
  have hempty : Commented isBreak [] := by simp [Commented, Idle]
  have hmark : ∀ c ∈ "-- ".toList, isBreak c = false := hbreak.forall_eq_false (by decide)
  have hbare : Commented isBreak "--".toList :=
    commented_mark (by decide) (hbreak.forall_eq_false (by decide))
  have hdate : Commented isBreak
      ("-- Generated by Phi Oracle on ".toList ++ date.plainText.toList) := by
    have hmark : "--".toList <+: "-- Generated by Phi Oracle on ".toList := by decide
    refine commented_mark (hmark.trans (List.prefix_append _ _)) fun c hc => ?_
    cases List.mem_append.mp hc with
    | inl hc => exact hbreak.forall_eq_false (by decide) c hc
    | inr hc =>
        exact hbreak.eq_false
          (Text.not_isLineBreak_of_isPrintable (date.isPrintable_plainText c hc))
  have hnothing : Commented isBreak "-- ".toList := commented_mark (by decide) hmark
  have hlist : Commented isBreak "-- Highlights:".toList :=
    commented_mark (by decide) (hbreak.forall_eq_false (by decide))
  simp only [Spec.captions, commented_append_cons hbreak.lineFeed,
    commented_mark_append (by decide) hmark, commented_bulletChars_iff hbreak, hdate, hnothing,
    hbare, hlist, hempty, true_and, and_true]
  constructor
  · intro h
    exact ⟨h.1, h.2.1, h.2.2⟩
  · intro h
    exact ⟨h.title, h.summary, h.highlights⟩

end

/-- The file has the header, an empty line and the content as it is. All lines of the header are
empty or comments just when the further lines of the title, the summary and the highlights are. -/
theorem header_commented_iff {spec : Spec} {w : World} {folder text : String} {tree : Files}
    (h : spec.Placed w folder text tree) (hbreak : Text.EndsLines isBreak) :
    ∃ highlights caption content,
      spec.highlights.items = .ok highlights ∧ spec.content = .str content ∧
      text = caption ++ "\n" ++ content ∧
      (keep spec w).2.files.text? (spec.fileIn w folder).place = some (leftOf text) ∧
      (Commented isBreak caption.toList ↔ spec.Captioned isBreak highlights) := by
  obtain ⟨highlights, content, hitems, hcontent, htext⟩ := fileText_eq_ok h.composed
  refine ⟨highlights, String.ofList (spec.captions w.clock.date highlights), content, hitems,
    hcontent, htext, text?_keep_of_placed h, ?_⟩
  rw [String.toList_ofList]
  exact commented_captions_iff hbreak spec w.clock.date highlights

/-- A title may go on in a comment. -/
theorem header_commented_further_comment :
    ∃ caption, (keep (titledIdentity "Identity\n-- of any type") (identityWorld [])).2.files.text?
        ["IdeaProjects", "phi", "specs", "phi-core", "examples", "meta", "id.phi"] =
      some (leftOf (caption ++ "\n" ++ "id x = x")) ∧ Commented (· == '\n') caption.toList := by
  obtain ⟨folder, text, tree, hplaced⟩ := placed_titledIdentity "Identity\n-- of any type" []
  have hbreak : Text.EndsLines (· == '\n') := by
    refine ⟨rfl, fun c hc => ?_⟩
    rw [beq_iff_eq.mp hc]
    decide
  obtain ⟨highlights, caption, content, hitems, hcontent, htext, hfile, hiff⟩ :=
    header_commented_iff hplaced hbreak
  rw [htext] at hfile
  cases hitems
  cases hcontent
  cases hplaced.sorted
  refine ⟨caption, hfile, hiff.mpr ⟨?_, ?_, ?_⟩⟩
  · decide
  · decide
  · decide

/-- A title of two lines adds a line to the specification. -/
theorem title_line_uncommented :
    ∃ caption, (keep (titledIdentity "Identity\nid = 0") (identityWorld [])).2.files.text?
        ["IdeaProjects", "phi", "specs", "phi-core", "examples", "meta", "id.phi"] =
      some (caption ++ "\n" ++ "id x = x") ∧
      "id = 0".toList ∈ caption.toList.splitOnP (· == '\n') ∧ ¬Idle "id = 0".toList := by
  refine ⟨"-- Identity\nid = 0\n-- Generated by Phi Oracle on 1970-01-01\n-- \n-- Itself.\n--\n" ++
    "-- Highlights:\n--   • total\n--\n", ?_, ?_, ?_⟩
  · decide +kernel
  · decide +kernel
  · decide

end Scribe

end Persona
