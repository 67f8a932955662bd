import Persona.Proofs.Json.Flow

/-!
# The texts of JSON

Which texts are JSON is said here by the grammar of the standard, without the reader: a value with
blanks around it, however deep it is and however many digits its numbers have. The three words that
the reader takes for numbers beyond the standard are let in.

The reader accepts no other texts. Every text of the grammar ends in a bracket, a brace, a quote, a
digit, a letter or a blank, so a mark that is put behind it stands apart from it.

Main statements:

* `isText_of_decode`: a text that is read is one of the grammar;
* `IsText.getLast?_ne`: no text of the grammar ends in a backtick.
-/

namespace Persona.Json

/-! ## The grammar -/

/-- What may stand between the quotes of a text. -/
inductive Quotable : List Char → Prop
  | nil : Quotable []
  | plain {c cs} (hc : Ordinary c) (h : Quotable cs) : Quotable (c :: cs)
  | letter {e ch cs} (he : simpleEscape? e = some ch) (h : Quotable cs) :
      Quotable ('\\' :: e :: cs)
  | unit {a b c d n cs} (hn : codeUnit? a b c d = some n) (h : Quotable cs) :
      Quotable ('\\' :: 'u' :: a :: b :: c :: d :: cs)

/-- At least one digit. -/
def Digits (cs : List Char) : Prop := cs ≠ [] ∧ ∀ c ∈ cs, isAsciiDigit c = true

/-- The whole part of a number: a zero, or digits that start with another one. -/
def IsWhole (cs : List Char) : Prop := cs = ['0'] ∨ Digits cs ∧ cs.head? ≠ some '0'

/-- The part of a number behind its point, if it has one. -/
def IsFraction (cs : List Char) : Prop := cs = [] ∨ ∃ digits, Digits digits ∧ cs = '.' :: digits

/-- The exponent of a number, if it has one. -/
def IsExponent (cs : List Char) : Prop :=
  cs = [] ∨ ∃ e sign digits, (e = 'e' ∨ e = 'E') ∧ (sign = [] ∨ sign = ['+'] ∨ sign = ['-']) ∧
    Digits digits ∧ cs = e :: (sign ++ digits)

inductive IsNumeral : List Char → Prop
  | mk {sign whole fraction exponent} (hsign : sign = [] ∨ sign = ['-']) (hwhole : IsWhole whole)
      (hfraction : IsFraction fraction) (hexponent : IsExponent exponent) :
      IsNumeral (sign ++ (whole ++ (fraction ++ exponent)))

/-- Things with commas between them, up to the closing bracket or brace. -/
inductive Listed (P : List Char → Prop) (close : Char) : List Char → Prop
  | last {cs gap} (h : P cs) (hgap : Blanks gap) : Listed P close (cs ++ (gap ++ [close]))
  | cons {cs gap gap' more} (h : P cs) (hgap : Blanks gap) (hgap' : Blanks gap')
      (hmore : Listed P close more) : Listed P close (cs ++ (gap ++ ',' :: (gap' ++ more)))

/-- A thing with a name before it. -/
inductive Named (P : List Char → Prop) : List Char → Prop
  | mk {key gap gap' value} (hkey : Quotable key) (hgap : Blanks gap) (hgap' : Blanks gap')
      (h : P value) : Named P ('"' :: (key ++ '"' :: (gap ++ ':' :: (gap' ++ value))))

inductive IsValue : List Char → Prop
  | word {w : String} (hw : w ∈ words.map (·.1)) : IsValue w.toList
  | number {cs} (h : IsNumeral cs) : IsValue cs
  | text {body} (h : Quotable body) : IsValue ('"' :: (body ++ ['"']))
  | emptyList {gap} (hgap : Blanks gap) : IsValue ('[' :: (gap ++ [']']))
  | list {gap items} (hgap : Blanks gap) (h : Listed IsValue ']' items) :
      IsValue ('[' :: (gap ++ items))
  | emptyObject {gap} (hgap : Blanks gap) : IsValue ('\x7b' :: (gap ++ ['\x7d']))
  | object {gap fields} (hgap : Blanks gap) (h : Listed (Named IsValue) '\x7d' fields) :
      IsValue ('\x7b' :: (gap ++ fields))

/-- A text of JSON: one value with nothing but blanks around it. -/
def IsText (text : String) : Prop :=
  ∃ before value after, Blanks before ∧ IsValue value ∧ Blanks after ∧
    text.toList = before ++ (value ++ after)

/-! ## How a text ends -/

theorem Listed.exists_append {P : List Char → Prop} {close : Char} {cs : List Char}
    (h : Listed P close cs) : ∃ init, cs = init ++ [close] := by
  induction h with
  | @last cs gap h hgap => exact ⟨cs ++ gap, (List.append_assoc _ _ _).symm⟩
  | @cons cs gap gap' more h hgap hgap' hmore ih =>
      obtain ⟨init, rfl⟩ := ih
      exact ⟨cs ++ (gap ++ ',' :: (gap' ++ init)), by simp⟩

theorem Digits.not_mem {cs : List Char} (h : Digits cs) : '`' ∉ cs := fun hmem => by
  cases h.2 _ hmem

theorem IsNumeral.not_mem {cs : List Char} (h : IsNumeral cs) : '`' ∉ cs := by
  obtain ⟨hsign, hwhole, hfraction, hexponent⟩ := h
  rw [List.mem_append, List.mem_append, List.mem_append]
  rintro (hmem | hmem | hmem | hmem)
  · rcases hsign with rfl | rfl <;> revert hmem <;> decide
  · rcases hwhole with rfl | ⟨hdigits, -⟩
    · revert hmem
      decide
    · exact hdigits.not_mem hmem
  · rcases hfraction with rfl | ⟨digits, hdigits, rfl⟩
    · cases hmem
    · exact hdigits.not_mem (List.mem_of_ne_of_mem (by decide) hmem)
  · rcases hexponent with rfl | ⟨e, sign, digits, he, hsign, hdigits, rfl⟩
    · cases hmem
    · have he : '`' ≠ e := by rcases he with rfl | rfl <;> decide
      rcases List.mem_append.mp (List.mem_of_ne_of_mem he hmem) with hmem | hmem
      · rcases hsign with rfl | rfl | rfl <;> revert hmem <;> decide
      · exact hdigits.not_mem hmem

theorem IsValue.getLast?_ne {cs : List Char} (h : IsValue cs) : cs.getLast? ≠ some '`' := by
  have hlast {c d : Char} {init : List Char} (hd : d ≠ '`') :
      (c :: (init ++ [d])).getLast? ≠ some '`' := by
    rw [← List.cons_append, List.getLast?_append]
    simpa using hd
  cases h with
  | @word w hw =>
      have hwords : (words.map (·.1)).all (·.toList.getLast? != some '`') = true := by decide
      simpa using List.all_eq_true.mp hwords w hw
  | number h => exact fun hlast => h.not_mem (List.mem_of_getLast? hlast)
  | text h => exact hlast (by decide)
  | emptyList hgap => exact hlast (by decide)
  | @list gap items hgap h =>
      obtain ⟨init, rfl⟩ := h.exists_append
      rw [← List.append_assoc]
      exact hlast (by decide)
  | emptyObject hgap => exact hlast (by decide)
  | @object gap fields hgap h =>
      obtain ⟨init, rfl⟩ := h.exists_append
      rw [← List.append_assoc]
      exact hlast (by decide)

/-- A text of JSON does not end in a backtick. -/
theorem IsText.getLast?_ne {text : String} (h : IsText text) :
    text.toList.getLast? ≠ some '`' := by
  obtain ⟨before, value, after, hbefore, hvalue, hafter, htext⟩ := h
  have hblank {gap : List Char} (hgap : Blanks gap) : '`' ∉ gap := fun hmem => by
    cases hgap _ hmem
  intro hlast
  rw [htext, List.getLast?_append, List.getLast?_append, Option.or_eq_some_iff,
    Option.or_eq_some_iff] at hlast
  rcases hlast with (hlast | ⟨-, hlast⟩) | ⟨-, hlast⟩
  · exact hblank hafter (List.mem_of_getLast? hlast)
  · exact hvalue.getLast?_ne hlast
  · exact hblank hbefore (List.mem_of_getLast? hlast)

/-! ## What the reader accepts -/

theorem exists_blanks (cs : List Char) : ∃ gap, Blanks gap ∧ cs = gap ++ skipBlanks cs :=
  ⟨cs.takeWhile isBlank, fun _ hc => List.mem_takeWhile_imp hc,
    List.takeWhile_append_dropWhile.symm⟩

theorem quotable_of_stringUnits {start cs rest : List Char} {units : List Nat}
    (h : stringUnits start cs = .ok (units, rest)) :
    ∃ body, Quotable body ∧ cs = body ++ '"' :: rest := by
  fun_induction stringUnits start cs generalizing units with
  | case1 | case3 | case4 | case6 | case7 | case9 => cases h
  | case2 c cs hquote =>
      cases h
      rw [beq_iff_eq.mp hquote]
      exact ⟨[], .nil, rfl⟩
  | case5 x _ hslash a b c d next cs n hn ih =>
      obtain ⟨⟨units', tail⟩, hread, h⟩ := Outcome.of_bind_eq_ok h
      cases h
      obtain ⟨body, hbody, hcs⟩ := ih hread
      rw [beq_iff_eq.mp hslash, hcs]
      exact ⟨_, .unit hn hbody, rfl⟩
  | case8 c _ hslash e cs _ _ ch he ih =>
      obtain ⟨⟨units', tail⟩, hread, h⟩ := Outcome.of_bind_eq_ok h
      cases h
      obtain ⟨body, hbody, rfl⟩ := ih hread
      rw [beq_iff_eq.mp hslash]
      exact ⟨_, .letter he hbody, rfl⟩
  | case10 c cs hquote hslash hcontrol ih =>
      obtain ⟨⟨units', tail⟩, hread, h⟩ := Outcome.of_bind_eq_ok h
      cases h
      obtain ⟨body, hbody, rfl⟩ := ih hread
      rw [beq_iff_eq] at hquote hslash
      exact ⟨_, .plain ⟨hquote, hslash, by omega⟩ hbody, rfl⟩

theorem quotable_of_readString {cs rest : List Char} {s : String}
    (h : readString cs = .ok (s, rest)) : ∃ body, Quotable body ∧ cs = body ++ '"' :: rest := by
  obtain ⟨⟨units, tail⟩, hread, h⟩ := Outcome.of_bind_eq_ok h
  cases h
  exact quotable_of_stringUnits hread

/-! ### Words and numbers -/

theorem isValue_of_readWord? {cs rest : List Char} {v : Json}
    (h : readWord? cs = some (v, rest)) : ∃ value, IsValue value ∧ cs = value ++ rest := by
  obtain ⟨⟨w, u⟩, hmem, hword⟩ := List.exists_of_findSome?_eq_some h
  obtain ⟨tail, htail, heq⟩ := Option.map_eq_some_iff.mp hword
  cases heq
  unfold word? at htail
  split at htail
  · next hstart =>
      obtain ⟨more, rfl⟩ := List.isPrefixOf_iff_prefix.mp hstart
      cases htail
      refine ⟨w.toList, .word (List.mem_map_of_mem hmem), ?_⟩
      rw [← String.length_toList, List.drop_left]
  · cases htail

/-- A digit and those that follow it. -/
theorem digits_takeWhile {c : Char} (hc : isAsciiDigit c = true) (cs : List Char) :
    Digits (c :: cs.takeWhile isAsciiDigit) := by
  refine ⟨List.cons_ne_nil _ _, fun d hd => ?_⟩
  rcases List.mem_cons.mp hd with rfl | hd
  · exact hc
  · exact List.mem_takeWhile_imp hd

theorem isWhole_of_wholeDigits? {cs whole rest : List Char}
    (h : wholeDigits? cs = some (whole, rest)) : IsWhole whole ∧ cs = whole ++ rest := by
  unfold wholeDigits? at h
  split at h
  · cases h
    exact ⟨.inl rfl, rfl⟩
  · next c tail hzero =>
      split at h
      · next hc =>
          cases h
          refine ⟨.inr ⟨digits_takeWhile hc tail, fun hhead => ?_⟩, ?_⟩
          · cases hhead
            exact hzero rfl
          · rw [List.cons_append, List.takeWhile_append_dropWhile]
      · cases h
  · cases h

theorem isFraction_fractionDigits (cs : List Char) :
    ∃ fraction, IsFraction fraction ∧ cs = fraction ++ (fractionDigits cs).2 := by
  unfold fractionDigits
  split
  · next c tail =>
      split
      · next hc =>
          refine ⟨_, .inr ⟨_, digits_takeWhile hc tail, rfl⟩, ?_⟩
          rw [List.cons_append, List.cons_append, List.takeWhile_append_dropWhile]
      · exact ⟨[], .inl rfl, rfl⟩
  · exact ⟨[], .inl rfl, rfl⟩

theorem isExponent_exponentPart (cs : List Char) :
    ∃ exponent, IsExponent exponent ∧ cs = exponent ++ (exponentPart cs).2 := by
  unfold exponentPart
  split
  · next e tail =>
      split
      · next he =>
          split
          next negative body hsign =>
            have hbody : ∃ sign, (sign = [] ∨ sign = ['+'] ∨ sign = ['-']) ∧
                tail = sign ++ body := by
              split at hsign <;> cases hsign
              · exact ⟨['-'], .inr (.inr rfl), rfl⟩
              · exact ⟨['+'], .inr (.inl rfl), rfl⟩
              · exact ⟨[], .inl rfl, rfl⟩
            obtain ⟨sign, hsign, htail⟩ := hbody
            dsimp only
            split
            · exact ⟨[], .inl rfl, rfl⟩
            · next hdigits =>
                rw [List.isEmpty_iff] at hdigits
                rw [Bool.or_eq_true, beq_iff_eq, beq_iff_eq] at he
                refine ⟨_, .inr ⟨e, sign, body.takeWhile isAsciiDigit, he, hsign,
                  ⟨hdigits, fun c hc => List.mem_takeWhile_imp hc⟩, rfl⟩, ?_⟩
                rw [List.cons_append, List.append_assoc, List.takeWhile_append_dropWhile, htail]
      · exact ⟨[], .inl rfl, rfl⟩
  · exact ⟨[], .inl rfl, rfl⟩

theorem isNumeral_of_readNumber {cs rest : List Char} {v : Json}
    (h : readNumber cs = .ok (v, rest)) : ∃ value, IsNumeral value ∧ cs = value ++ rest := by
  unfold readNumber at h
  split at h
  next negative body hsign =>
    have hbody : ∃ sign, (sign = [] ∨ sign = ['-']) ∧ cs = sign ++ body := by
      split at hsign <;> cases hsign
      · exact ⟨['-'], .inr rfl, rfl⟩
      · exact ⟨[], .inl rfl, rfl⟩
    obtain ⟨sign, hsign, hcs⟩ := hbody
    split at h
    · cases h
    · next whole tail hwhole =>
        obtain ⟨hwhole, hbody⟩ := isWhole_of_wholeDigits? hwhole
        obtain ⟨fraction, hfraction, htail⟩ := isFraction_fractionDigits tail
        obtain ⟨exponent, hexponent, htail'⟩ := isExponent_exponentPart (fractionDigits tail).2
        have hnumeral : ∃ value, IsNumeral value ∧
            cs = value ++ (exponentPart (fractionDigits tail).2).2 := by
          refine ⟨_, .mk hsign hwhole hfraction hexponent, ?_⟩
          rw [hcs, hbody, List.append_assoc, List.append_assoc, List.append_assoc, ← htail',
            ← htail]
        split at h
        next _ tail' htail =>
          split at h
          next _ tail'' htail' =>
            rw [htail, htail'] at hnumeral
            split at h
            · split at h
              · cases h
              · cases h
                exact hnumeral
            · cases h
              exact hnumeral

/-! ### Values, items and fields -/

/-- Values that are read with this much fuel are values of the grammar. -/
def ValuesWritten (fuel : Nat) : Prop :=
  ∀ depth cs v rest, readValue fuel depth cs = .ok (v, rest) →
    ∃ value, IsValue value ∧ cs = value ++ rest

def ItemsWritten (fuel : Nat) : Prop :=
  ∀ depth cs xs rest, readItems fuel depth cs = .ok (xs, rest) →
    ∃ items, Listed IsValue ']' items ∧ cs = items ++ rest

def FieldsWritten (fuel : Nat) : Prop :=
  ∀ depth acc cs fs rest, readFields fuel depth acc cs = .ok (fs, rest) →
    ∃ fields, Listed (Named IsValue) '\x7d' fields ∧ cs = fields ++ rest

theorem valuesWritten_succ {fuel : Nat} (hitems : ItemsWritten fuel)
    (hfields : FieldsWritten fuel) : ValuesWritten (fuel + 1) := by
  intro depth cs v rest h
  rw [readValue.eq_def] at h
  cases cs with
  | nil => cases h
  | cons c cs =>
      simp only at h
      obtain ⟨gap, hgap, hcs⟩ := exists_blanks cs
      -- a text
      split at h
      · next hc =>
          obtain ⟨⟨s, tail⟩, hread, h⟩ := Outcome.of_bind_eq_ok h
          cases h
          obtain ⟨body, hbody, rfl⟩ := quotable_of_readString hread
          rw [beq_iff_eq.mp hc]
          exact ⟨_, .text hbody, by simp⟩
      -- an object
      split at h
      · next hc =>
          rw [beq_iff_eq.mp hc]
          split at h
          · cases h
          · next hclose =>
              cases h
              rw [hclose] at hcs
              exact ⟨_, .emptyObject hgap, by simp [hcs]⟩
          · obtain ⟨⟨fs, tail⟩, hread, h⟩ := Outcome.of_bind_eq_ok h
            cases h
            obtain ⟨fields, hlisted, hskip⟩ := hfields _ _ _ _ _ hread
            rw [hskip] at hcs
            exact ⟨_, .object hgap hlisted, by simp [hcs]⟩
      -- a list
      split at h
      · next hc =>
          rw [beq_iff_eq.mp hc]
          split at h
          · cases h
          · next hclose =>
              cases h
              rw [hclose] at hcs
              exact ⟨_, .emptyList hgap, by simp [hcs]⟩
          · obtain ⟨⟨xs, tail⟩, hread, h⟩ := Outcome.of_bind_eq_ok h
            cases h
            obtain ⟨items, hlisted, hskip⟩ := hitems _ _ _ _ hread
            rw [hskip] at hcs
            exact ⟨_, .list hgap hlisted, by simp [hcs]⟩
      -- a word or a number
      split at h
      · next hword =>
          cases h
          exact isValue_of_readWord? hword
      · obtain ⟨value, hvalue, hcs⟩ := isNumeral_of_readNumber h
        exact ⟨value, .number hvalue, hcs⟩

theorem itemsWritten_succ {fuel : Nat} (hvalues : ValuesWritten fuel)
    (hitems : ItemsWritten fuel) : ItemsWritten (fuel + 1) := by
  intro depth cs xs rest h
  rw [readItems.eq_def] at h
  obtain ⟨⟨x, tail⟩, hx, h⟩ := Outcome.of_bind_eq_ok h
  obtain ⟨value, hvalue, hcs⟩ := hvalues _ _ _ _ hx
  obtain ⟨gap, hgap, htail⟩ := exists_blanks tail
  simp only at h
  split at h
  · next hclose =>
      cases h
      rw [hclose] at htail
      exact ⟨_, .last hvalue hgap, by simp [hcs, htail]⟩
  · next more hcomma =>
      obtain ⟨⟨ys, tail'⟩, hys, h⟩ := Outcome.of_bind_eq_ok h
      cases h
      obtain ⟨items, hlisted, hskip⟩ := hitems _ _ _ _ hys
      obtain ⟨gap', hgap', hmore⟩ := exists_blanks more
      rw [hcomma, hmore, hskip] at htail
      exact ⟨_, .cons hvalue hgap hgap' hlisted, by simp [hcs, htail]⟩
  · cases h

theorem fieldsWritten_succ {fuel : Nat} (hvalues : ValuesWritten fuel)
    (hfields : FieldsWritten fuel) : FieldsWritten (fuel + 1) := by
  intro depth acc cs fs rest h
  rw [readFields.eq_def] at h
  simp only at h
  split at h
  · obtain ⟨⟨key, tail⟩, hkey, h⟩ := Outcome.of_bind_eq_ok h
    obtain ⟨body, hbody, hcs⟩ := quotable_of_readString hkey
    obtain ⟨gap, hgap, htail⟩ := exists_blanks tail
    simp only at h
    split at h
    · next more hcolon =>
        obtain ⟨⟨v, tail'⟩, hv, h⟩ := Outcome.of_bind_eq_ok h
        obtain ⟨value, hvalue, hskip⟩ := hvalues _ _ _ _ hv
        obtain ⟨gap', hgap', hmore⟩ := exists_blanks more
        obtain ⟨gap'', hgap'', htail'⟩ := exists_blanks tail'
        have hnamed := Named.mk hbody hgap hgap' hvalue
        simp only at h
        split at h
        · next hclose =>
            cases h
            rw [hcolon, hmore, hskip, htail', hclose] at htail
            exact ⟨_, .last hnamed hgap'', by simp [hcs, htail]⟩
        · next more' hcomma =>
            obtain ⟨fields, hlisted, hskip'⟩ := hfields _ _ _ _ _ h
            obtain ⟨gap₃, hgap₃, hmore'⟩ := exists_blanks more'
            rw [hcolon, hmore, hskip, htail', hcomma, hmore', hskip'] at htail
            exact ⟨_, .cons hnamed hgap'' hgap₃ hlisted, by simp [hcs, htail]⟩
        · cases h
    · cases h
  · cases h

theorem readers_written (fuel : Nat) :
    ValuesWritten fuel ∧ ItemsWritten fuel ∧ FieldsWritten fuel := by
  induction fuel with
  | zero =>
      refine ⟨?_, ?_, ?_⟩
      · intro depth cs v rest h
        rw [readValue.eq_def] at h
        cases h
      · intro depth cs xs rest h
        rw [readItems.eq_def] at h
        cases h
      · intro depth acc cs fs rest h
        rw [readFields.eq_def] at h
        cases h
  | succ fuel ih =>
      obtain ⟨hvalues, hitems, hfields⟩ := ih
      exact ⟨valuesWritten_succ hitems hfields, itemsWritten_succ hvalues hitems,
        fieldsWritten_succ hvalues hfields⟩

/-- A text that is read is a text of the grammar. -/
theorem isText_of_decode {text : String} {v : Json} (h : decode text = .ok v) : IsText text := by
  unfold decode readText at h
  split at h
  · cases h
  · cases hwhole : readWhole text.toList with
    | error stop =>
        rw [hwhole] at h
        cases h
    | ok u =>
        obtain ⟨⟨u', rest⟩, hread, hend⟩ := Outcome.of_bind_eq_ok hwhole
        obtain ⟨before, hbefore, htext⟩ := exists_blanks text.toList
        obtain ⟨value, hvalue, hskip⟩ := (readers_written _).1 _ _ _ _ hread
        obtain ⟨after, hafter, hrest⟩ := exists_blanks rest
        simp only at hend
        split at hend
        · next hnil =>
            rw [hnil, List.append_nil] at hrest
            rw [hskip, hrest] at htext
            exact ⟨before, value, after, hbefore, hvalue, hafter, htext⟩
        · cases hend

end Persona.Json
