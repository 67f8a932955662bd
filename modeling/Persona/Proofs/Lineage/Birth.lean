import Persona.Lineage.Member
import Persona.Proofs.Json.Roundtrip
import Persona.Proofs.Text.Ascii
import Persona.Proofs.World.Running

/-!
# Birth

A member is born with the settings that it loads, whatever they are. Its id is a digest of a text
about its birth, which is ASCII. So a birth can only fail if the number of the generation has too
many digits to be shown, or if the user interrupts at one of the few lines that are logged.

Main statements: `settings_of_birth`, `exists_birth`, `birth_of_too_many_digits`.
-/

namespace Persona

/-! ## Lines that are logged -/

namespace World

/-- So many more lines are logged without an interruption. -/
def Undisturbed (w : World) (lines : Nat) : Prop :=
  w.limits.logs ≤ w.logged ∨ w.logged + lines < w.limits.logs

instance (w : World) (lines : Nat) : Decidable (w.Undisturbed lines) :=
  inferInstanceAs (Decidable (_ ∨ _))

theorem Undisturbed.logging {w : World} {lines : Nat} (h : w.Undisturbed (lines + 1))
    (severity : Severity) (message : String) : (w.logging severity message).Undisturbed lines := by
  have hlogged : (w.logging severity message).logged = w.logged + 1 := rfl
  have hlimits : (w.logging severity message).limits = w.limits := rfl
  unfold Undisturbed at h ⊢
  rw [hlogged, hlimits]
  omega

theorem Undisturbed.of_le {w : World} {lines fewer : Nat} (h : w.Undisturbed lines)
    (hle : fewer ≤ lines) : w.Undisturbed fewer := by
  unfold Undisturbed at h ⊢
  omega

/-- Nobody interrupts at a log line any more. -/
def Unattended (w : World) : Prop := w.limits.logs ≤ w.logged

theorem unattended_iff {w : World} : w.Unattended ↔ ∀ lines, w.Undisturbed lines := by
  refine ⟨fun h _ => .inl h, fun h => ?_⟩
  -- As many lines as are left before the interruption cannot all be logged.
  have hleft := h (w.limits.logs - w.logged).toNat
  unfold Undisturbed at hleft
  unfold Unattended
  omega

end World

theorem Act.log_of_undisturbed {w : World} {lines : Nat} (h : w.Undisturbed (lines + 1))
    (severity : Severity) (message : String) :
    log severity message w = (.ok (), w.logging severity message) := by
  have hlimit : ¬ w.logged + 1 = w.limits.logs := by
    unfold World.Undisturbed at h
    omega
  rw [log_apply, if_neg (mt beq_iff_eq.mp hlimit)]

/-! ## Moments in ASCII -/

namespace Text

/-- All characters of a text are ASCII. -/
def AllAscii (s : String) : Prop := ∀ c ∈ s.toList, c.toNat < 128

theorem allAscii_of_all {s : String} (h : s.toList.all (·.toNat < 128) = true) : AllAscii s :=
  fun c hc => of_decide_eq_true (List.all_eq_true.mp h c hc)

theorem AllAscii.append {s t : String} (hs : AllAscii s) (ht : AllAscii t) : AllAscii (s ++ t) := by
  intro c hc
  rw [String.toList_append, List.mem_append] at hc
  exact hc.elim (hs c) (ht c)

theorem allAscii_intText (n : Int) : AllAscii (Number.intText n) := fun c hc =>
  Json.toNat_lt_of_isPrintable (Json.isPrintable_of_mem_intText n c hc)

theorem allAscii_natText (n : Nat) : AllAscii (Number.natText n) := fun c hc =>
  Json.toNat_lt_of_isPrintable
    (Json.isPrintable_of_isAsciiDigit (Json.isAsciiDigit_of_mem_natText n c hc))

theorem allAscii_padded (width n : Nat) : AllAscii (padded width n) := by
  refine .append (fun c hc => ?_) (allAscii_natText n)
  rw [String.toList_ofList] at hc
  rw [List.eq_of_mem_replicate hc]
  decide

theorem allAscii_isoText (m : Moment) : AllAscii m.isoText := by
  have hdate : AllAscii m.date.text :=
    .append (.append (.append (.append (allAscii_padded _ _) (allAscii_of_all rfl))
      (allAscii_padded _ _)) (allAscii_of_all rfl)) (allAscii_padded _ _)
  have hmicros : AllAscii (if m.microsecond == 0 then "" else "." ++ padded 6 m.microsecond) := by
    split
    · exact allAscii_of_all rfl
    · exact .append (allAscii_of_all rfl) (allAscii_padded _ _)
  have hclock : AllAscii (Moment.clockText 2 m.secondOfDay m.microsecond) :=
    .append (.append (.append (.append (.append (allAscii_padded _ _) (allAscii_of_all rfl))
      (allAscii_padded _ _)) (allAscii_of_all rfl)) (allAscii_padded _ _)) hmicros
  exact .append (.append hdate (allAscii_of_all rfl)) hclock

end Text

/-! ## Birth -/

namespace Lineage

/-- A member of a numbered generation has an id. -/
theorem exists_makeId (born : Moment) (g : Int) (processId : Nat) (w : World) :
    ∃ id, makeId born (Json.int g).text processId w = (.ok id, w) := by
  have hascii : Text.AllAscii
      (born.isoText ++ "_" ++ (Json.int g).text ++ "_" ++ Number.natText processId) :=
    .append (.append (.append (.append (Text.allAscii_isoText born) (Text.allAscii_of_all rfl))
      (Text.allAscii_intText g)) (Text.allAscii_of_all rfl)) (Text.allAscii_natText processId)
  have hhalves : Text.halves? _ = none := Text.firstHalves?_of_ascii _ hascii
  unfold makeId Act.encode Text.bytes?
  rw [hhalves]
  exact ⟨_, rfl⟩

/-- A psyche awakens with a greeting. -/
theorem exists_awaken (now : Moment) {w : World} {lines : Nat} (h : w.Undisturbed (lines + 2)) :
    ∃ psyche w', awaken now w = (.ok psyche, w') ∧ w'.Undisturbed lines := by
  have hspeak (psyche : Psyche) {v : World} (hv : v.Undisturbed (lines + 1)) : ∃ greeting v',
      (Psyche.speak .greeting).runFrom psyche v = (.ok (greeting, psyche), v') ∧
        v'.Undisturbed (lines + 1) :=
    ⟨_, _, rfl, hv⟩
  obtain ⟨psyche, w₁, hcreate, hw₁⟩ : ∃ psyche w₁,
      Act.chance (Psyche.create Path.home now) w = (.ok psyche, w₁) ∧ w₁.Undisturbed (lines + 2) :=
    ⟨_, _, rfl, h⟩
  obtain ⟨greeting, w₂, hgreet, hw₂⟩ := hspeak psyche
    (hw₁.logging .info ("Soul awakened: " ++ psyche.name))
  rw [awaken, Act.bind_of_ok hcreate, Act.bind_of_ok (Act.log_of_undisturbed hw₁ .info _),
    Act.bind_of_ok hgreet]
  exact ⟨psyche, _, Act.bind_of_ok (Act.log_of_undisturbed hw₂ .info greeting),
    hw₂.logging .info greeting⟩

/-- A member that is born has the settings it loaded. -/
theorem settings_of_birth {hasPsyche : Bool} {path generation settings : Json} {v v₁ v' : World}
    {child : Member} (hload : loadSettings path v = (.ok settings, v₁))
    (hbirth : birth hasPsyche path generation v = (.ok child, v')) : child.settings = settings := by
  rw [birth, Act.bind_of_ok hload] at hbirth
  obtain ⟨born, v₂, -, hbirth⟩ := Act.of_bind_eq_ok hbirth
  obtain ⟨shown, v₃, -, hbirth⟩ := Act.of_bind_eq_ok hbirth
  obtain ⟨w, v₄, -, hbirth⟩ := Act.of_bind_eq_ok hbirth
  obtain ⟨id, v₅, -, hbirth⟩ := Act.of_bind_eq_ok hbirth
  dsimp only at hbirth
  split at hbirth
  all_goals
    obtain ⟨psyche, v₆, -, hbirth⟩ := Act.of_bind_eq_ok hbirth
    obtain ⟨-, v₇, -, hbirth⟩ := Act.of_bind_eq_ok hbirth
    obtain rfl := Except.ok.inj (Prod.mk.inj hbirth).1
    rfl

section

variable {path settings : Json} {g : Int} {w w₁ : World}

/-- A member of a generation whose number can be shown is born with the settings that were
loaded. -/
theorem exists_birth (hasPsyche : Bool) (hload : loadSettings path w = (.ok settings, w₁))
    (hg : (Json.int g).isShowable = true) {lines : Nat} (h : w₁.Undisturbed (lines + 3)) :
    ∃ m w', birth hasPsyche path (.int g) w = (.ok m, w') ∧ m.settings = settings ∧
      m.generation = .int g ∧ w'.Undisturbed lines := by
  have hnow : Act.now w₁ = (.ok w₁.clock, w₁) := rfl
  have hshown : Act.shown (.int g) w₁ = (.ok (Json.int g).text, w₁) := by
    rw [Act.shown_apply, hg]
    rfl
  obtain ⟨id, hid⟩ := exists_makeId w₁.clock g w₁.processId w₁
  rw [birth, Act.bind_of_ok hload, Act.bind_of_ok hnow, Act.bind_of_ok hshown,
    Act.bind_of_ok (Act.get_apply w₁), Act.bind_of_ok hid]
  cases hasPsyche with
  | false =>
      have hline : w₁.Undisturbed (lines + 1) := h.of_le (by omega)
      exact ⟨_, _, Act.bind_of_ok (Act.log_of_undisturbed hline .info _), rfl, rfl,
        hline.logging .info _⟩
  | true =>
      obtain ⟨psyche, w₂, hawaken, hw₂⟩ := exists_awaken w₁.clock h
      have hsome : (some <$> awaken w₁.clock : Act (Option Psyche)) w₁ = (.ok (some psyche), w₂) :=
        Act.bind_of_ok hawaken
      exact ⟨_, _, (Act.bind_of_ok hsome).trans
        (Act.bind_of_ok (Act.log_of_undisturbed hw₂ .info _)), rfl, rfl, hw₂.logging .info _⟩

/-- A number with too many digits ends a birth. -/
theorem birth_of_too_many_digits (hasPsyche : Bool)
    (hload : loadSettings path w = (.ok settings, w₁)) (hg : (Json.int g).isShowable = false) :
    birth hasPsyche path (.int g) w = (.error .tooManyDigits, w₁) := by
  have hnow : Act.now w₁ = (.ok w₁.clock, w₁) := rfl
  have hshown : Act.shown (.int g) w₁ = (.error .tooManyDigits, w₁) := by
    rw [Act.shown_apply, hg]
    rfl
  rw [birth, Act.bind_of_ok hload, Act.bind_of_ok hnow]
  exact Act.bind_of_error hshown

end

end Lineage

end Persona
