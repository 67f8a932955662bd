import Mathlib.Data.Bool.AllAny
import Mathlib.Data.List.Forall2
import Persona.Proofs.Text.Searching
import Persona.Text.Lowercase

/-!
# Words in any letter case

A text in small letters holds the name with the at sign exactly if the text itself holds it in some
letter case. Of all letters, only a small letter and its capital become that small letter; the i has
a second capital, with a dot, that leaves the dot behind it.

Main statement: `contains_lower_iff`.
-/

namespace Persona.Text

/-! ## Small letters -/

/-- Only the plain capitals have plain small letters, apart from the sign for kelvin. -/
theorem caseRuns_cases : ∀ r ∈ caseRuns,
    r.first = 0x41 ∧ r.last = 0x5a ∧ r.shift = 32 ∨
      r.first = 0x212a ∧ r.last = 0x212a ∧ r.shift = -8383 ∨
      128 ≤ r.first + r.shift ∧
        (r.last + r.shift < 0xd800 ∨ 0xdfff < r.first + r.shift ∧ r.last + r.shift < 0x110000) := by
  decide +kernel

theorem smallLetter_cases (c : Char) :
    smallLetter c = c ∨ 65 ≤ c.toNat ∧ c.toNat ≤ 90 ∧ (smallLetter c).toNat = c.toNat + 32 ∨
      smallLetter c = 'k' ∨ 128 ≤ (smallLetter c).toNat := by
  rw [smallLetter]
  split
  next r hfind =>
      have hin := List.find?_some hfind
      simp only [Bool.and_eq_true, decide_eq_true_eq] at hin
      obtain ⟨⟨hfirst, hlast⟩, -⟩ := hin
      -- The small letter lies as far behind the capital as the run says.
      rcases caseRuns_cases r (List.mem_of_find?_eq_some hfind) with
        ⟨hf, hl, hs⟩ | ⟨hf, hl, hs⟩ | ⟨hlow, hvalid⟩
      · have hn : ((c.toNat : Int) + r.shift).toNat = c.toNat + 32 := by omega
        refine .inr (.inl ⟨by omega, by omega, ?_⟩)
        rw [hn, toNat_ofNat (by unfold Nat.isValidChar; omega)]
      · have hn : ((c.toNat : Int) + r.shift).toNat = 107 := by omega
        rw [hn]
        exact .inr (.inr (.inl rfl))
      · refine .inr (.inr (.inr ?_))
        rw [toNat_ofNat (by unfold Nat.isValidChar; omega)]
        omega
  · exact .inl rfl

/-- The ways to write a small letter. -/
def variants (d : Char) : List Char :=
  if d = 'i' then ['i', 'I', Char.ofNat 0x130] else [d, d.toUpper]

theorem smallLetter_eq_iff {c d : Char} (hd : d ∈ "@phi".toList) :
    smallLetter c = d ↔ c = d ∨ c = d.toUpper := by
  have hsmall : ∀ d ∈ "@phi".toList, smallLetter d = d ∧ smallLetter d.toUpper = d :=
    List.all_iff_forall_prop.mp (by decide +kernel)
  have hupper : ∀ d ∈ "@phi".toList, d.toNat < 128 ∧ d ≠ 'k' ∧
      (97 ≤ d.toNat → d.toUpper.toNat + 32 = d.toNat) ∧ (d.toNat < 97 → d.toNat < 65) :=
    List.all_iff_forall_prop.mp (by decide)
  constructor
  · rintro rfl
    obtain ⟨hplain, hk, hcapital, hother⟩ := hupper _ hd
    rcases smallLetter_cases c with h | ⟨hlow, hhigh, h⟩ | h | h
    · exact .inl h.symm
    · refine .inr (Char.toNat_inj.mp ?_)
      omega
    · exact absurd h hk
    · omega
  · rintro (rfl | rfl)
    · exact (hsmall _ hd).1
    · exact (hsmall _ hd).2

/-! ## Small forms -/

/-- The small form of a character between others. -/
def smallForm (before : List Char) (c : Char) (rest : List Char) : List Char :=
  if c.toNat == 0x3a3 then
    [if meetsCased before && !meetsCased rest then Char.ofNat 0x3c2 else Char.ofNat 0x3c3]
  else if c.toNat == 0x130 then ['i', Char.ofNat 0x307]
  else [smallLetter c]

theorem lowerFrom_cons (before : List Char) (c : Char) (rest : List Char) :
    lowerFrom before (c :: rest) = smallForm before c rest ++ lowerFrom (c :: before) rest := rfl

theorem mem_variants_of_ne {c d : Char} (hc : c ≠ Char.ofNat 0x130) :
    c ∈ variants d ↔ c = d ∨ c = d.toUpper := by
  unfold variants
  split
  next hd =>
      have hupper : 'i'.toUpper = 'I' := rfl
      rw [hd, hupper]
      simp [hc]
  · simp

/-- A character has one small form, which is a letter of the name exactly if the character is a
variant of it, but for the capital i with a dot. -/
theorem smallForm_cases (before : List Char) (c : Char) (rest : List Char) :
    (c = Char.ofNat 0x130 ∧ smallForm before c rest = ['i', Char.ofNat 0x307]) ∨
      ∃ small, smallForm before c rest = [small] ∧
        ∀ d ∈ "@phi".toList, d = small ↔ c ∈ variants d := by
  rw [smallForm]
  split
  next hsigma =>
      obtain rfl : c = Char.ofNat 0x3a3 := Char.toNat_inj.mp (beq_iff_eq.mp hsigma)
      refine .inr ⟨_, rfl, fun d hd => ?_⟩
      have hnone : ∀ d ∈ "@phi".toList,
          d ≠ Char.ofNat 0x3c2 ∧ d ≠ Char.ofNat 0x3c3 ∧ Char.ofNat 0x3a3 ∉ variants d :=
        List.all_iff_forall_prop.mp (by decide)
      obtain ⟨hfinal, hinner, hvariants⟩ := hnone d hd
      refine iff_of_false ?_ hvariants
      split
      · exact hfinal
      · exact hinner
  · split
    next hdotted =>
        exact .inl ⟨Char.toNat_inj.mp (beq_iff_eq.mp hdotted), rfl⟩
    next hdotted =>
        refine .inr ⟨_, rfl, fun d hd => ?_⟩
        have hc : c ≠ Char.ofNat 0x130 := by
          rintro rfl
          exact hdotted rfl
        rw [mem_variants_of_ne hc, ← smallLetter_eq_iff hd, eq_comm]

/-! ## The name in a text -/

/-- A word is another one in some letter case. -/
def InAnyCase (word written : List Char) : Prop :=
  List.Forall₂ (fun d c => c ∈ variants d) word written

/-- A text holds the name with the at sign, in some letter case. -/
def Mentions (text : String) : Prop :=
  ∃ written, InAnyCase "@phi".toList written ∧ written <:+: text.toList

/-- The i may leave a dot behind it, so it has to be the last letter. -/
theorem cons_prefix_lowerFrom {d : Char} (hd : d ∈ "@phi".toList) {ds : List Char}
    (hds : d = 'i' → ds = []) {before cs : List Char} :
    d :: ds <+: lowerFrom before cs ↔
      ∃ c rest, cs = c :: rest ∧ c ∈ variants d ∧ ds <+: lowerFrom (c :: before) rest := by
  cases cs with
  | nil => simp [lowerFrom]
  | cons c rest =>
      have hcons : (∃ c' rest', c :: rest = c' :: rest' ∧ c' ∈ variants d ∧
          ds <+: lowerFrom (c' :: before) rest') ↔
            c ∈ variants d ∧ ds <+: lowerFrom (c :: before) rest := by
        constructor
        · rintro ⟨c', rest', heq, h⟩
          obtain ⟨rfl, rfl⟩ := List.cons.inj heq
          exact h
        · exact fun h => ⟨c, rest, rfl, h⟩
      rw [hcons, lowerFrom_cons]
      rcases smallForm_cases before c rest with ⟨rfl, hsmall⟩ | ⟨small, hsmall, hvariants⟩
      · have hdotted : ∀ d ∈ "@phi".toList, d = 'i' ↔ Char.ofNat 0x130 ∈ variants d :=
          List.all_iff_forall_prop.mp (by decide)
        rw [hsmall, List.cons_append, List.cons_prefix_cons, ← hdotted d hd]
        refine and_congr_right fun hi => ?_
        rw [hds hi]
        exact iff_of_true List.nil_prefix List.nil_prefix
      · rw [hsmall, List.singleton_append, List.cons_prefix_cons, hvariants d hd]

theorem prefix_lowerFrom_iff {word : List Char} (hword : ∀ d ∈ word, d ∈ "@phi".toList)
    (hi : 'i' ∉ word.dropLast) {before cs : List Char} :
    word <+: lowerFrom before cs ↔ ∃ written, InAnyCase word written ∧ written <+: cs := by
  induction word generalizing before cs with
  | nil => exact iff_of_true List.nil_prefix ⟨[], .nil, List.nil_prefix⟩
  | cons d ds ih =>
      rw [List.forall_mem_cons] at hword
      have hlast : d = 'i' → ds = [] := by
        rintro rfl
        by_contra hne
        rw [List.dropLast_cons_of_ne_nil hne] at hi
        exact hi List.mem_cons_self
      have hrest : 'i' ∉ ds.dropLast := fun h => hi (by
        rw [List.dropLast_cons_of_ne_nil (fun hnil => by simp [hnil] at h)]
        exact List.mem_cons_of_mem d h)
      rw [cons_prefix_lowerFrom hword.1 hlast]
      constructor
      · rintro ⟨c, rest, rfl, hc, hds⟩
        obtain ⟨written, hcase, hwritten⟩ := (ih hword.2 hrest).mp hds
        exact ⟨c :: written, .cons hc hcase, List.cons_prefix_cons.mpr ⟨rfl, hwritten⟩⟩
      · rintro ⟨_, hcase, more, rfl⟩
        cases hcase with
        | cons hc hcase =>
            exact ⟨_, _, rfl, hc, (ih hword.2 hrest).mpr ⟨_, hcase, List.prefix_append _ _⟩⟩

/-- No occurrence of the name starts inside of the small form of a character. -/
theorem infix_lowerFrom_cons {before rest : List Char} {c : Char} :
    "@phi".toList <:+: lowerFrom before (c :: rest) ↔
      "@phi".toList <+: lowerFrom before (c :: rest) ∨
        "@phi".toList <:+: lowerFrom (c :: before) rest := by
  rw [lowerFrom_cons]
  rcases smallForm_cases before c rest with ⟨-, hsmall⟩ | ⟨small, hsmall, -⟩
  · have hdot (cs : List Char) : ¬"@phi".toList <+: Char.ofNat 0x307 :: cs := by
      intro h
      cases (List.cons_prefix_cons.mp h).1
    rw [hsmall, List.cons_append, List.singleton_append, List.infix_cons_iff, List.infix_cons_iff,
      or_iff_right (hdot _)]
  · rw [hsmall, List.singleton_append, List.infix_cons_iff]

theorem infix_lowerFrom_iff {before cs : List Char} :
    "@phi".toList <:+: lowerFrom before cs ↔
      ∃ written, InAnyCase "@phi".toList written ∧ written <:+: cs := by
  -- What stands before a character decides on a sigma only, so the hypothesis is for any of it.
  induction cs generalizing before with
  | nil =>
      refine iff_of_false (fun h => ?_) fun ⟨written, hcase, h⟩ => ?_
      · cases List.infix_nil.mp h
      · obtain rfl := List.infix_nil.mp h
        cases hcase
  | cons c rest ih =>
      rw [infix_lowerFrom_cons, ih, prefix_lowerFrom_iff (fun _ h => h) (by decide), ← exists_or]
      exact exists_congr fun written => by rw [← and_or_left, List.infix_cons_iff]

theorem contains_lower_iff (text : String) :
    contains (lower text) "@phi" = true ↔ Mentions text := by
  have hlower : (lower text).toList = lowerFrom [] text.toList := String.toList_ofList
  rw [contains_iff, hlower, infix_lowerFrom_iff, Mentions]

end Persona.Text
