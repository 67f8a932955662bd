import Persona.Proofs.World.Inward

/-!
# Once the kill switch is down

Two kinds of programs look at the kill switch. A posting loop looks at the start of each round, and
then the round is the last one. A life looks before each command, and then no command is started any
more. In both, the worlds to compare with the last one are noted on the way.

Main statements: `Act.Marked.haltsOnceSwitched`, `ActOn.Recalls.bind`, `World.Halting.sleepFor`.
-/

namespace Persona

variable {σ τ α β : Type}

/-! ## Marked rounds -/

namespace ActOn

/-- Take a note of the world. -/
def mark : ActOn (List World) Unit := fun moments w => ((.ok (), moments ++ [w]), w)

/-- A round with a note of the world at its start. -/
def marked (round : τ → Act (Option τ)) (t : τ) : ActOn (List World) (Option τ) := do
  mark
  (round t : Act (Option τ))

theorem noted_marked (round : τ → Act (Option τ)) (t : τ) :
    Act.Noted (marked round t) (round t) :=
  fun _ w => ⟨[w], rfl⟩

end ActOn

namespace Act

/-- With the kill switch down, a round prints a line and is the last one. -/
def HaltsAtSwitch (round : τ → Act (Option τ)) : Prop :=
  ∀ t w, w.Halted → ∃ line, round t w = (.ok none, w.record (.out line))

end Act

namespace ActOn

/-- With the kill switch down at one of the moments noted, a line is printed from there on, and the
activity returns. -/
def Halts (x : ActOn (List World) Unit) (moments : List World) (w : World) : Prop :=
  Ends x moments w
    (fun _ moments' w' =>
      ∀ moment ∈ moments', moment.Halted → ∃ line, w' = moment.record (.out line))
    fun _ moments' _ => ∀ moment ∈ moments', ¬ moment.Halted

namespace Halts

theorem run {x : ActOn (List World) Unit} {w : World} (h : Halts x [] w) :
    ∀ moment ∈ x.notes w, moment.Halted →
      ∃ line, x.forget w = (.ok (), moment.record (.out line)) := by
  intro moment hmoment hhalted
  rw [Halts, Ends] at h
  rcases hx : x [] w with ⟨⟨r, moments⟩, w'⟩
  rw [hx] at h
  have hmem : moment ∈ moments := by simpa only [notes, hx] using hmoment
  cases r with
  | error f => exact absurd hhalted (h moment hmem)
  | ok _ =>
      obtain ⟨line, rfl⟩ := h moment hmem hhalted
      exact ⟨line, by simp only [forget, hx]⟩

/-- A round that goes on was not started with the kill switch down. -/
theorem rounds {round : τ → Act (Option τ)} (h : Act.HaltsAtSwitch round) (n : Nat) (t : τ)
    (w : World) : Halts (ActOn.rounds (marked round) n t) [] w := by
  refine Ends.rounds (I := fun _ moments _ => ∀ moment ∈ moments, ¬ moment.Halted) ?_
    (fun _ _ _ _ hgone => hgone) n nofun
  intro t moments w hgone
  refine .step rfl ?_
  by_cases hw : w.Halted
  · obtain ⟨line, hround⟩ := h t w hw
    refine .of_ok (lift_of_eq hround) ?_
    intro moment hmoment hhalted
    rcases List.mem_append.mp hmoment with hold | hnew
    · exact absurd hhalted (hgone moment hold)
    · cases List.mem_singleton.mp hnew
      exact ⟨line, rfl⟩
  · have hgone' : ∀ moment ∈ moments ++ [w], ¬ moment.Halted := by
      intro moment hmoment
      rcases List.mem_append.mp hmoment with hold | hnew
      · exact hgone moment hold
      · exact List.mem_singleton.mp hnew ▸ hw
    refine .lift (fun next w' => ?_) fun _ _ => hgone'
    cases next with
    | some t => exact hgone'
    | none => exact fun moment hmoment hhalted => absurd hhalted (hgone' moment hmoment)

end Halts

end ActOn

/-- An activity in rounds that halt at the kill switch, beside the same with a note of the world at
the start of each round. -/
inductive Act.Marked : ActOn (List World) Unit → Act Unit → Prop
  | lift (x : Act Unit) : Marked (liftM x) x
  | bind {α : Type} (x : Act α) {f : α → ActOn (List World) Unit} {g : α → Act Unit}
    (h : ∀ a, Marked (f a) (g a)) : Marked (liftM x >>= f) (x >>= g)
  | rounds {τ : Type} {round : τ → Act (Option τ)} (h : HaltsAtSwitch round) (n : Nat) (t : τ) :
    Marked (ActOn.rounds (ActOn.marked round) n t) (Act.rounds round n t)

/-- With the kill switch down at one of the moments that are noted, a line is printed from there on,
and the program returns. -/
def Act.HaltsOnceSwitched (program : Act Unit) (marking : ActOn (List World) Unit) : Prop :=
  marking.forget = program ∧ ∀ w, ∀ moment ∈ marking.notes w, moment.Halted →
    ∃ line, program w = (.ok (), moment.record (.out line))

namespace Act.Marked

variable {marking : ActOn (List World) Unit} {program : Act Unit}

theorem noted (h : Marked marking program) : Noted marking program := by
  induction h with
  | lift x => exact .lift x
  | bind x _ ih => exact .bind (.lift x) ih
  | rounds h n t => exact .rounds (ActOn.noted_marked _) n t

theorem halts (h : Marked marking program) (w : World) : ActOn.Halts marking [] w := by
  induction h generalizing w with
  | lift x => exact .lift (fun _ _ => nofun) fun _ _ => nofun
  | bind x _ ih => exact .bind (.lift (fun a w' => ih a w') fun _ _ => nofun)
  | rounds h n t => exact .rounds h n t w

theorem haltsOnceSwitched (h : Marked marking program) : program.HaltsOnceSwitched marking := by
  refine ⟨h.noted.forget_eq, fun w => ?_⟩
  rw [← h.noted.forget_eq]
  exact (h.halts w).run

end Act.Marked

namespace ActOn

/-! ## Moments of a life -/

variable {R : World → World → Prop}

/-- An activity that leads from every moment noted to the world at its end. -/
def Recalls (R : World → World → Prop) (x : ActOn (σ × List World) α) : Prop :=
  ∀ s w, (∀ moment ∈ s.2, R moment w) → ∀ moment ∈ (x s w).1.2.2, R moment (x s w).2

namespace Recalls

theorem bind {x : ActOn (σ × List World) α} {f : α → ActOn (σ × List World) β} (hx : Recalls R x)
    (hf : ∀ a, Recalls R (f a)) : Recalls R (x >>= f) := by
  intro s w hs
  have hfirst := hx s w hs
  rcases hrun : x s w with ⟨⟨r, s'⟩, w'⟩
  rw [hrun] at hfirst
  cases r with
  | error e => rwa [bind_of_error hrun]
  | ok a =>
      rw [bind_of_ok hrun]
      exact hf a s' w' hfirst

theorem tryCatch {x : ActOn (σ × List World) α} {handler : Fault → ActOn (σ × List World) α}
    (hx : Recalls R x) (hhandler : ∀ f, Recalls R (handler f)) :
    Recalls R (tryCatch x handler) := by
  intro s w hs
  have hfirst := hx s w hs
  rcases hrun : x s w with ⟨⟨r, s'⟩, w'⟩
  rw [hrun] at hfirst
  cases r with
  | ok a => rwa [tryCatch_of_ok hrun]
  | error f =>
      rw [tryCatch_of_error hrun]
      exact hhandler f s' w' hfirst

variable [IsPreorder World R]

theorem silent {x : ActOn σ α} (hx : x.Leads R) : Recalls R (ActOn.silent x) :=
  fun s w hs moment hmoment => IsTrans.trans _ _ _ (hs moment hmoment) (hx s.1 w)

theorem lift {x : Act α} (hx : x.Leads R) : Recalls R (liftM x : ActOn (σ × List World) α) :=
  fun _ w hs moment hmoment => IsTrans.trans _ _ _ (hs moment hmoment) (hx w)

theorem throw (f : Fault) : Recalls R (MonadExcept.throw f : ActOn (σ × List World) α) :=
  .lift (.throw f)

theorem pure (a : α) : Recalls R (Pure.pure a : ActOn (σ × List World) α) := .lift (.pure a)

theorem note : Recalls R (ActOn.note (fun _ w => w) : ActOn (σ × List World) Unit) := by
  intro s w hs moment hmoment
  rcases List.mem_append.mp hmoment with hold | hnew
  · exact hs moment hold
  · exact List.mem_singleton.mp hnew ▸ refl w

theorem forever {x : ActOn (σ × List World) Unit} (hx : Recalls R x) (rounds : Nat) :
    Recalls R (x.forever rounds) := by
  induction rounds with
  | zero => exact .throw _
  | succ rounds ih => exact .bind hx fun _ => ih

end Recalls

end ActOn

/-! ## No more commands -/

namespace World

/-- Once the kill switch is down it stays down, and no command is started. -/
def Halting (w w' : World) : Prop := w.Halted → w'.Halted ∧ w'.started = w.started

namespace Halting

instance : IsPreorder World Halting where
  refl _ h := ⟨h, rfl⟩
  trans _ _ _ hfirst hsecond h :=
    ⟨(hsecond (hfirst h).1).1, (hsecond (hfirst h).1).2.trans (hfirst h).2⟩

theorem of_wakeful {w w' : World} (h : Wakeful w w') : Halting w w' :=
  fun hhalted => ⟨h.files _ hhalted, h.started⟩

theorem sleepFor (seconds : Json) : (Act.sleepFor seconds).Leads Halting := by
  intro w hhalted
  have hstarted : (w.record (.sleep seconds)).started = w.started := by
    rw [started_record]
    exact List.append_nil _
  rw [Act.sleepFor_apply]
  cases Act.wakingTime w.system w.clock seconds with
  | error f => exact ⟨hhalted, hstarted⟩
  | ok clock =>
      refine ⟨?_, hstarted⟩
      change Files.holds (if _ then w.files.put ["kill.switch"] "" else w.files) _ = true
      split
      · exact Files.holds_put hhalted _ _
      · exact hhalted

end Halting

end World

end Persona
