import Persona.Proofs.Json.Limits
import Persona.Proofs.Json.Spelling

/-!
# Inside and outside of quotes

Between its texts a written object holds nothing but brackets, braces, commas, colons and blanks.
A reader that starts in the midst of one of its texts takes the quotes the wrong way round: what it
finds between two of them stood outside of quotes. So if it takes what it reads for an object, the
names of the fields are made of those few characters.

Main statements:

* `WritesObject.after`: a written object starts and ends outside of quotes;
* `hollowNames_of_readText`: the names that are read from the midst of a text are hollow.
-/

namespace Persona.Json

open Text (Joined Sound hold joinUnits)

/-! ## Where a character stands -/

/-- Outside of quotes, between them, or behind a backslash. -/
inductive Mode where
  | outside
  | inside
  | escaped

/-- A character that may stand outside of quotes where there are only texts. -/
def isStructural (c : Char) : Bool := isBlank c || [',', ':', '[', ']', '\x7b', '\x7d'].contains c

namespace Mode

def step : Mode → Char → Option Mode
  | outside, c => if c = '"' then some inside else if isStructural c then some outside else none
  | inside, c => if c = '"' then some outside else if c = '\\' then some escaped else some inside
  | escaped, _ => some inside

/-- Where the next character stands after these. -/
def after (m : Mode) (cs : List Char) : Option Mode := cs.foldlM step m

theorem after_cons (m : Mode) (c : Char) (cs : List Char) :
    m.after (c :: cs) = (m.step c).bind (·.after cs) := List.foldlM_cons

theorem after_append (m : Mode) (cs ds : List Char) :
    m.after (cs ++ ds) = (m.after cs).bind (·.after ds) := List.foldlM_append

/-- Characters after which nothing has changed. -/
theorem after_of_forall {m : Mode} {cs : List Char} (h : ∀ c ∈ cs, m.step c = some m) :
    m.after cs = some m := by
  induction cs with
  | nil => rfl
  | cons c cs ih =>
      rw [after_cons, h c (by simp), Option.bind_some]
      exact ih fun d hd => h d (List.mem_cons_of_mem c hd)

end Mode

/-! ## Written objects -/

open Mode

theorem step_outside {c : Char} (h : isStructural c = true) : outside.step c = some outside := by
  have hquote : c ≠ '"' := by
    rintro rfl
    cases h
  rw [step, if_neg hquote, if_pos h]

theorem step_inside {c : Char} (hquote : c ≠ '"') (hslash : c ≠ '\\') :
    inside.step c = some inside := by
  rw [step, if_neg hquote, if_neg hslash]

theorem Blanks.after {gap : List Char} (h : Blanks gap) : outside.after gap = some outside :=
  after_of_forall fun c hc => step_outside (by rw [isStructural, h c hc, Bool.true_or])

theorem step_of_hexValue? {c : Char} {n : Nat} (h : Text.hexValue? c = some n) :
    inside.step c = some inside := by
  refine step_inside ?_ ?_
  · rintro rfl
    cases h
  · rintro rfl
    cases h

theorem after_digits {a b c d : Char} {n : Nat} (h : codeUnit? a b c d = some n)
    (cs : List Char) :
    inside.after ('\\' :: 'u' :: a :: b :: c :: d :: cs) = inside.after cs := by
  simp only [codeUnit?, bind, Option.bind_eq_some_iff] at h
  obtain ⟨_, ha, _, hb, _, hc, _, hd, -⟩ := h
  change inside.after (a :: b :: c :: d :: cs) = _
  simp only [after_cons, step_of_hexValue? ha, step_of_hexValue? hb, step_of_hexValue? hc,
    step_of_hexValue? hd, Option.bind_some]

theorem Spells.after {ps : List Nat} {cs : List Char} (h : Spells ps cs)
    (hps : ∀ p ∈ ps, p < 0x110000) : inside.after cs = some inside := by
  induction h with
  | nil => rfl
  | @plain p ps cs hcontrol hquote hslash h ih =>
      have hhold : inside.after (hold p) = some inside := by
        refine after_of_forall fun c hc => ?_
        obtain ⟨hquote, hslash, -⟩ :=
          ordinary_of_mem_hold (hps p (by simp)) hcontrol hquote hslash c hc
        exact step_inside hquote hslash
      rw [after_append, hhold, Option.bind_some]
      exact ih fun q hq => hps q (List.mem_cons_of_mem p hq)
  | letter he h ih => exact ih fun q hq => hps q (List.mem_cons_of_mem _ hq)
  | unit hp h ih =>
      rw [after_digits hp]
      exact ih fun q hq => hps q (List.mem_cons_of_mem _ hq)
  | pair hp hhigh hlow h ih =>
      rw [after_digits hhigh, after_digits hlow]
      exact ih fun q hq => hps q (List.mem_cons_of_mem _ hq)

theorem Quotes.after {s : String} (hs : Sound s) {cs : List Char} (h : Quotes s cs) :
    outside.after cs = some outside := by
  obtain ⟨body, hbody, rfl⟩ := h
  change inside.after (body ++ ['"']) = _
  rw [after_append, hbody.after hs.points.1.lt]
  rfl

/-- What comes to its end outside of quotes can be left away there. -/
theorem after_append_of_outside {cs : List Char} (h : outside.after cs = some outside)
    (ds : List Char) : outside.after (cs ++ ds) = outside.after ds := by
  rw [after_append, h, Option.bind_some]

theorem Blanks.after_append_cons {gap : List Char} (h : Blanks gap) {c : Char}
    (hc : isStructural c = true) (cs : List Char) :
    outside.after (gap ++ c :: cs) = outside.after cs := by
  rw [after_append_of_outside h.after, after_cons, step_outside hc, Option.bind_some]

theorem WritesItems.after {ss : List String} {cs : List Char} (h : WritesItems ss cs)
    (hss : ∀ s ∈ ss, Sound s) : outside.after cs = some outside := by
  induction h with
  | last hs hgap =>
      rw [after_append_of_outside (hs.after (hss _ (by simp))), hgap.after_append_cons rfl]
      rfl
  | cons hs hgap hgap' h ih =>
      rw [after_append_of_outside (hs.after (hss _ (by simp))), hgap.after_append_cons rfl,
        after_append_of_outside hgap'.after]
      exact ih fun t ht => hss t (List.mem_cons_of_mem _ ht)

theorem Writes.after {v : Json} {cs : List Char} (h : Writes v cs) (hv : SoundTexts v) :
    outside.after cs = some outside := by
  cases h with
  | text hs => exact hs.after hv
  | @empty gap hgap =>
      change outside.after (gap ++ [']']) = _
      rw [hgap.after_append_cons rfl]
      rfl
  | @list ss gap cs hgap h =>
      change outside.after (gap ++ cs) = _
      rw [after_append_of_outside hgap.after]
      exact h.after fun s hs => hv s (List.mem_map_of_mem hs)

theorem WritesField.after {key : String} {v : Json} {cs : List Char} (h : WritesField key v cs)
    (hkey : Sound key) (hv : SoundTexts v) : outside.after cs = some outside := by
  obtain ⟨name, gap, gap', value, hname, hgap, hgap', hvalue, rfl⟩ := h
  rw [after_append_of_outside (hname.after hkey), hgap.after_append_cons rfl,
    after_append_of_outside hgap'.after]
  exact hvalue.after hv

theorem WritesFields.after {fs : List (String × Json)} {cs : List Char} (h : WritesFields fs cs)
    (hfs : ∀ f ∈ fs, Sound f.1 ∧ SoundTexts f.2) : outside.after cs = some outside := by
  induction h with
  | @last key v cs gap h hgap =>
      obtain ⟨hkey, hv⟩ := hfs (key, v) (by simp)
      rw [after_append_of_outside (h.after hkey hv), hgap.after_append_cons rfl]
      rfl
  | @cons key v fs cs gap gap' more h hgap hgap' hmore ih =>
      obtain ⟨hkey, hv⟩ := hfs (key, v) (by simp)
      rw [after_append_of_outside (h.after hkey hv), hgap.after_append_cons rfl,
        after_append_of_outside hgap'.after]
      exact ih fun f hf => hfs f (List.mem_cons_of_mem _ hf)

/-- A written object starts and ends outside of quotes. -/
theorem WritesObject.after {fs : List (String × Json)} {cs : List Char} (h : WritesObject fs cs)
    (hfs : ∀ f ∈ fs, Sound f.1 ∧ SoundTexts f.2) : outside.after cs = some outside := by
  obtain ⟨gap, body, hgap, hbody, rfl⟩ := h
  change outside.after (gap ++ body) = _
  rw [after_append_of_outside hgap.after]
  exact hbody.after hfs

/-! ## Reading from the midst of a text -/

/-- These characters can stand there. -/
def Mode.Fits (m : Mode) (cs : List Char) : Prop := (m.after cs).isSome = true

namespace Mode.Fits

variable {m : Mode} {cs ds : List Char}

theorem of_append (h : m.Fits (cs ++ ds)) : m.Fits cs := by
  unfold Fits at h ⊢
  rw [after_append] at h
  cases hcs : m.after cs with
  | none =>
      rw [hcs] at h
      cases h
  | some m' => rfl

/-- Inside of quotes, characters that neither close them nor escape can be left away. -/
theorem drop (hcs : ∀ c ∈ cs, c ≠ '"' ∧ c ≠ '\\') (h : inside.Fits (cs ++ ds)) :
    inside.Fits ds := by
  have hstay : inside.after cs = some inside :=
    after_of_forall fun c hc => step_inside (hcs c hc).1 (hcs c hc).2
  unfold Fits at h ⊢
  rwa [after_append, hstay, Option.bind_some] at h

theorem tail {c : Char} (hquote : c ≠ '"') (hslash : c ≠ '\\') (h : inside.Fits (c :: cs)) :
    inside.Fits cs := by
  have hsplit : inside.Fits ([c] ++ cs) := h
  refine hsplit.drop fun d hd => ?_
  rw [List.mem_singleton.mp hd]
  exact ⟨hquote, hslash⟩

theorem dropWhile {p : Char → Bool} (hp : ∀ c, p c = true → c ≠ '"' ∧ c ≠ '\\')
    (h : inside.Fits cs) : inside.Fits (cs.dropWhile p) := by
  rw [← List.takeWhile_append_dropWhile (p := p) (l := cs)] at h
  exact drop (fun c hc => hp c (List.mem_takeWhile_imp hc)) h

theorem skipBlanks (h : inside.Fits cs) : inside.Fits (skipBlanks cs) := by
  refine h.dropWhile fun c hc => ⟨?_, ?_⟩ <;> (rintro rfl; cases hc)

/-- Characters that may not stand outside of quotes stand inside, and what follows them does. -/
theorem inside_of_append {c : Char} (hc : isStructural c = false)
    (hcs : ∀ d ∈ c :: cs, d ≠ '"' ∧ d ≠ '\\') {before : List Char}
    (h : m.Fits (before ++ (c :: cs ++ ds))) : inside.Fits ds := by
  obtain ⟨hquote, hslash⟩ := hcs c (by simp)
  have hfirst (m' : Mode) (hm' : m'.Fits (c :: cs ++ ds)) : inside.Fits (cs ++ ds) := by
    unfold Fits at hm' ⊢
    rw [List.cons_append, after_cons] at hm'
    cases m' with
    | outside =>
        rw [step, if_neg hquote, hc] at hm'
        cases hm'
    | inside => rwa [step_inside hquote hslash] at hm'
    | escaped => exact hm'
  refine drop (fun d hd => hcs d (List.mem_cons_of_mem c hd)) ?_
  unfold Fits at h
  rw [after_append] at h
  cases hbefore : m.after before with
  | none =>
      rw [hbefore] at h
      cases h
  | some m' =>
      rw [hbefore] at h
      exact hfirst m' h

end Mode.Fits

/-- A text of characters that stood outside of quotes. -/
def Hollow (s : String) : Prop := ∀ c ∈ s.toList, isStructural c = true

/-- What lies between quotes that are taken the wrong way round stood outside of quotes. -/
theorem structural_of_stringUnits {start cs rest : List Char} {units : List Nat}
    (hcs : outside.Fits cs) (h : stringUnits start cs = .ok (units, rest)) :
    ∃ ds : List Char, units = ds.map Char.toNat ∧ (∀ c ∈ ds, isStructural c = true) ∧
      inside.Fits rest := by
  induction cs generalizing units with
  | nil => cases h
  | cons c cs ih =>
      by_cases hquote : c = '"'
      · subst hquote
        rw [stringUnits.eq_def] at h
        cases h
        exact ⟨[], rfl, by simp, hcs⟩
      · cases hc : isStructural c with
        | false =>
            unfold Mode.Fits at hcs
            rw [after_cons, step, if_neg hquote, hc] at hcs
            cases hcs
        | true =>
            have hslash : c ≠ '\\' := by
              rintro rfl
              cases hc
            rw [stringUnits.eq_def] at h
            simp only [beq_iff_eq, hquote, hslash, if_false] at h
            split at h
            · cases h
            · obtain ⟨⟨units', rest'⟩, hread, h⟩ := Outcome.of_bind_eq_ok h
              cases h
              have hcs' : outside.Fits cs := by
                unfold Mode.Fits at hcs ⊢
                rwa [after_cons, step_outside hc, Option.bind_some] at hcs
              obtain ⟨ds, rfl, hds, hrest⟩ := ih hcs' hread
              refine ⟨c :: ds, rfl, ?_, hrest⟩
              intro d hd
              rcases List.mem_cons.mp hd with rfl | hd
              · exact hc
              · exact hds d hd

theorem hollow_of_readString {cs rest : List Char} {s : String} (hcs : outside.Fits cs)
    (h : readString cs = .ok (s, rest)) : Hollow s ∧ inside.Fits rest := by
  obtain ⟨⟨units, rest'⟩, hread, h⟩ := Outcome.of_bind_eq_ok h
  cases h
  obtain ⟨ds, rfl, hds, hrest⟩ := structural_of_stringUnits hcs hread
  refine ⟨?_, hrest⟩
  have hjoin := joinUnits_chars ds []
  rw [List.append_nil, joinUnits, List.append_nil] at hjoin
  unfold Hollow
  rw [hjoin, String.toList_ofList]
  exact hds

/-! ### Words and numbers -/

theorem ne_of_isAsciiDigit (c : Char) (h : isAsciiDigit c = true) : c ≠ '"' ∧ c ≠ '\\' := by
  refine ⟨?_, ?_⟩ <;> (rintro rfl; cases h)

theorem fits_of_readWord? {cs rest : List Char} {v : Json} (hcs : inside.Fits cs)
    (h : readWord? cs = some (v, rest)) : (∀ fs, v ≠ .obj fs) ∧ inside.Fits rest := by
  obtain ⟨⟨w, u⟩, hmem, hword⟩ := List.exists_of_findSome?_eq_some h
  obtain ⟨tail, htail, heq⟩ := Option.map_eq_some_iff.mp hword
  cases heq
  have hother : ∀ fs, v ≠ obj fs := by
    simp only [words, List.mem_cons, List.not_mem_nil, or_false, Prod.mk.injEq] at hmem
    rcases hmem with ⟨-, rfl⟩ | ⟨-, rfl⟩ | ⟨-, rfl⟩ | ⟨-, rfl⟩ | ⟨-, rfl⟩ | ⟨-, rfl⟩
    all_goals
      intro fs hfs
      cases hfs
  have hplain : ∀ c ∈ w.toList, c ≠ '"' ∧ c ≠ '\\' := by
    have hall : words.all (fun p => p.1.toList.all fun c => c != '"' && c != '\\') = true := by
      decide
    intro c hc
    simpa using List.all_eq_true.mp (List.all_eq_true.mp hall _ hmem) c hc
  refine ⟨hother, ?_⟩
  unfold word? at htail
  split at htail
  · next hstart =>
      obtain ⟨more, rfl⟩ := List.isPrefixOf_iff_prefix.mp hstart
      cases htail
      rw [← String.length_toList, List.drop_left]
      exact hcs.drop hplain
  · cases htail

theorem fits_of_wholeDigits? {cs whole rest : List Char} (hcs : inside.Fits cs)
    (h : wholeDigits? cs = some (whole, rest)) : inside.Fits rest := by
  unfold wholeDigits? at h
  split at h
  · cases h
    exact hcs.tail (by decide) (by decide)
  · split at h
    · next hc =>
        cases h
        obtain ⟨hquote, hslash⟩ := ne_of_isAsciiDigit _ hc
        exact (hcs.tail hquote hslash).dropWhile ne_of_isAsciiDigit
    · cases h
  · cases h

theorem fits_fractionDigits {cs : List Char} (hcs : inside.Fits cs) :
    inside.Fits (fractionDigits cs).2 := by
  unfold fractionDigits
  split
  · split
    · next hc =>
        obtain ⟨hquote, hslash⟩ := ne_of_isAsciiDigit _ hc
        exact ((hcs.tail (by decide) (by decide)).tail hquote hslash).dropWhile ne_of_isAsciiDigit
    · exact hcs
  · exact hcs

theorem fits_exponentPart {cs : List Char} (hcs : inside.Fits cs) :
    inside.Fits (exponentPart cs).2 := by
  unfold exponentPart
  split
  · next c rest =>
      split
      · next hc =>
          have hrest : inside.Fits rest := by
            simp only [Bool.or_eq_true, beq_iff_eq] at hc
            rcases hc with rfl | rfl <;> exact hcs.tail (by decide) (by decide)
          split
          next negative body hsign =>
            have hbody : inside.Fits body := by
              split at hsign <;> cases hsign
              · exact hrest.tail (by decide) (by decide)
              · exact hrest.tail (by decide) (by decide)
              · exact hrest
            dsimp only
            split
            · exact hcs
            · exact hbody.dropWhile ne_of_isAsciiDigit
      · exact hcs
  · exact hcs

/-- A number is read without a quote. -/
theorem fits_of_readNumber {cs rest : List Char} {v : Json} (hcs : inside.Fits cs)
    (h : readNumber cs = .ok (v, rest)) : (∀ fs, v ≠ .obj fs) ∧ inside.Fits rest := by
  unfold readNumber at h
  split at h
  next negative body hsign =>
    have hbody : inside.Fits body := by
      split at hsign <;> cases hsign
      · exact hcs.tail (by decide) (by decide)
      · exact hcs
    split at h
    · cases h
    · next whole tail hwhole =>
        have hrest := fits_exponentPart (fits_fractionDigits (fits_of_wholeDigits? hbody hwhole))
        split at h
        next fraction tail' hfraction =>
          split at h
          next exponent tail'' hexponent =>
            rw [hfraction, hexponent] at hrest
            split at h
            · split at h
              · cases h
              · cases h
                exact ⟨nofun, hrest⟩
            · cases h
              exact ⟨nofun, hrest⟩

/-! ### Values, items and fields -/

/-- The names of the fields of an object are hollow. -/
def HollowNames (v : Json) : Prop := ∀ fs, v = .obj fs → ∀ key ∈ fs.map (·.1), Hollow key

/-- Values that are read with this much fuel from the midst of a text have hollow names. -/
def ValuesHollow (fuel : Nat) : Prop :=
  ∀ depth cs v rest, inside.Fits cs → readValue fuel depth cs = .ok (v, rest) →
    HollowNames v ∧ inside.Fits rest

/-- Items that are read with this much fuel from the midst of a text end in the midst of one. -/
def ItemsHollow (fuel : Nat) : Prop :=
  ∀ depth cs xs rest, inside.Fits cs → readItems fuel depth cs = .ok (xs, rest) → inside.Fits rest

/-- Fields that are read with this much fuel from the midst of a text, after others with hollow
names, have hollow names too. -/
def FieldsHollow (fuel : Nat) : Prop :=
  ∀ depth acc cs fs rest, inside.Fits cs → (∀ key ∈ acc.map (·.1), Hollow key) →
    readFields fuel depth acc cs = .ok (fs, rest) →
    (∀ key ∈ fs.map (·.1), Hollow key) ∧ inside.Fits rest

theorem hollowNames_of_ne {v : Json} (h : ∀ fs, v ≠ .obj fs) : HollowNames v :=
  fun fs hv => absurd hv (h fs)

theorem valuesHollow_succ {fuel : Nat} (hitems : ItemsHollow fuel) (hfields : FieldsHollow fuel) :
    ValuesHollow (fuel + 1) := by
  intro depth cs v rest hcs h
  rw [readValue.eq_def] at h
  cases cs with
  | nil => cases h
  | cons c cs =>
      simp only at h
      -- a text
      split at h
      · next hc =>
          obtain ⟨⟨s, tail⟩, hread, h⟩ := Outcome.of_bind_eq_ok h
          cases h
          rw [beq_iff_eq.mp hc] at hcs
          exact ⟨hollowNames_of_ne (fun _ hfs => by cases hfs), (hollow_of_readString hcs hread).2⟩
      -- an object
      split at h
      · next hc =>
          rw [beq_iff_eq.mp hc] at hcs
          have hcs := (hcs.tail (by decide) (by decide)).skipBlanks
          split at h
          · cases h
          · next hclose =>
              rw [hclose] at hcs
              cases h
              refine ⟨fun fs hfs => ?_, hcs.tail (by decide) (by decide)⟩
              cases hfs
              simp
          · obtain ⟨⟨fs, tail⟩, hread, h⟩ := Outcome.of_bind_eq_ok h
            cases h
            obtain ⟨hnames, hrest⟩ := hfields _ [] _ _ _ hcs (by simp) hread
            refine ⟨fun fs' hfs => ?_, hrest⟩
            cases hfs
            exact hnames
      -- a list
      split at h
      · next hc =>
          rw [beq_iff_eq.mp hc] at hcs
          have hcs := (hcs.tail (by decide) (by decide)).skipBlanks
          split at h
          · cases h
          · next hclose =>
              rw [hclose] at hcs
              cases h
              exact ⟨hollowNames_of_ne (fun _ hfs => by cases hfs), hcs.tail (by decide) (by decide)⟩
          · obtain ⟨⟨xs, tail⟩, hread, h⟩ := Outcome.of_bind_eq_ok h
            cases h
            exact ⟨hollowNames_of_ne (fun _ hfs => by cases hfs), hitems _ _ _ _ hcs hread⟩
      -- a word or a number
      split at h
      · next hword =>
          cases h
          obtain ⟨hother, hrest⟩ := fits_of_readWord? hcs hword
          exact ⟨hollowNames_of_ne hother, hrest⟩
      · obtain ⟨hother, hrest⟩ := fits_of_readNumber hcs h
        exact ⟨hollowNames_of_ne hother, hrest⟩

theorem itemsHollow_succ {fuel : Nat} (hvalues : ValuesHollow fuel) (hitems : ItemsHollow fuel) :
    ItemsHollow (fuel + 1) := by
  intro depth cs xs rest hcs h
  rw [readItems.eq_def] at h
  obtain ⟨⟨x, tail⟩, hx, h⟩ := Outcome.of_bind_eq_ok h
  have htail := (hvalues _ _ _ _ hcs hx).2.skipBlanks
  simp only at h
  split at h
  · next hclose =>
      rw [hclose] at htail
      cases h
      exact htail.tail (by decide) (by decide)
  · next hcomma =>
      rw [hcomma] at htail
      obtain ⟨⟨ys, tail'⟩, hys, h⟩ := Outcome.of_bind_eq_ok h
      cases h
      exact hitems _ _ _ _ (htail.tail (by decide) (by decide)).skipBlanks hys
  · cases h

theorem hollow_of_mem_keys_put {fs : List (String × Json)}
    (hfs : ∀ key ∈ fs.map (·.1), Hollow key) {key : String} (hkey : Hollow key) (v : Json) :
    ∀ k ∈ (Fields.put fs key v).map (·.1), Hollow k := by
  intro k hk
  rw [Fields.keys_put] at hk
  split at hk
  · exact hfs k hk
  · rcases List.mem_append.mp hk with hk | hk
    · exact hfs k hk
    · rw [List.mem_singleton.mp hk]
      exact hkey

theorem fieldsHollow_succ {fuel : Nat} (hvalues : ValuesHollow fuel)
    (hfields : FieldsHollow fuel) : FieldsHollow (fuel + 1) := by
  intro depth acc cs fs rest hcs hacc h
  rw [readFields.eq_def] at h
  simp only at h
  split at h
  · obtain ⟨⟨key, tail⟩, hkey, h⟩ := Outcome.of_bind_eq_ok h
    obtain ⟨hhollow, htail⟩ := hollow_of_readString hcs hkey
    have htail := htail.skipBlanks
    simp only at h
    split at h
    · next hcolon =>
        rw [hcolon] at htail
        obtain ⟨⟨v, tail'⟩, hv, h⟩ := Outcome.of_bind_eq_ok h
        have htail' :=
          (hvalues _ _ _ _ (htail.tail (by decide) (by decide)).skipBlanks hv).2.skipBlanks
        have hput := hollow_of_mem_keys_put hacc hhollow v
        simp only at h
        split at h
        · next hclose =>
            rw [hclose] at htail'
            cases h
            exact ⟨hput, htail'.tail (by decide) (by decide)⟩
        · next hcomma =>
            rw [hcomma] at htail'
            exact hfields _ _ _ _ _ (htail'.tail (by decide) (by decide)).skipBlanks hput h
        · cases h
    · cases h
  · cases h

/-- Whatever its fuel, a reader in the midst of a text stays there between its own texts. -/
theorem readers_hollow (fuel : Nat) : ValuesHollow fuel ∧ ItemsHollow fuel ∧ FieldsHollow fuel := by
  induction fuel with
  | zero =>
      refine ⟨?_, ?_, ?_⟩
      · intro depth cs v rest _ h
        rw [readValue.eq_def] at h
        cases h
      · intro depth cs xs rest _ h
        rw [readItems.eq_def] at h
        cases h
      · intro depth acc cs fs rest _ _ h
        rw [readFields.eq_def] at h
        cases h
  | succ fuel ih =>
      obtain ⟨hvalues, hitems, hfields⟩ := ih
      exact ⟨valuesHollow_succ hitems hfields, itemsHollow_succ hvalues hitems,
        fieldsHollow_succ hvalues hfields⟩

/-- An object that is read from the midst of a text has hollow names. -/
theorem hollowNames_of_readText {cs : List Char} {v : Json} (hcs : inside.Fits cs)
    (h : readText cs = .ok v) : HollowNames v := by
  unfold readText at h
  split at h
  · cases h
  · obtain ⟨⟨u, rest⟩, hread, h⟩ := Outcome.of_bind_eq_ok h
    simp only at h
    split at h
    · cases h
      exact ((readers_hollow _).1 _ _ _ _ hcs.skipBlanks hread).1
    · cases h

end Persona.Json
