import Persona.World.Act

/-!
# Running activities

How an activity runs in a world: one equation for each way to put activities together and for each
way to touch the world. Proofs about larger activities use these and open nothing else.

An activity with a state of its own runs in a state and a world; one without is lifted and leaves
the state alone.
-/

namespace Persona

variable {α β σ τ : Type}

/-! ## Activities -/

/-- A value has a text: a whole number must not have too many digits. -/
def Json.isShowable : Json → Bool
  | int n => n.natAbs < Number.tenPow Text.digitLimit
  | _ => true

theorem Json.isShowable_int_iff {n : Int} :
    (int n).isShowable = true ↔ n.natAbs < Number.tenPow Text.digitLimit := by
  rw [isShowable, decide_eq_true_iff]

namespace Act

variable {w w' : World}

theorem bind_of_ok {x : Act α} {f : α → Act β} {a : α} (h : x w = (.ok a, w')) :
    (x >>= f) w = f a w' := by
  simp only [bind, ExceptT.bind, ExceptT.mk, StateT.bind, h]
  rfl

theorem bind_of_error {x : Act α} {f : α → Act β} {e : Fault} (h : x w = (.error e, w')) :
    (x >>= f) w = (.error e, w') := by
  simp only [bind, ExceptT.bind, ExceptT.mk, StateT.bind, h]
  rfl

/-- An activity with a result had one at each step. -/
theorem of_bind_eq_ok {x : Act α} {f : α → Act β} {b : β} {w'' : World}
    (h : (x >>= f) w = (.ok b, w'')) : ∃ a w', x w = (.ok a, w') ∧ f a w' = (.ok b, w'') := by
  rcases hrun : x w with ⟨r, w'⟩
  cases r with
  | error e =>
      rw [bind_of_error hrun] at h
      cases h
  | ok a =>
      rw [bind_of_ok hrun] at h
      exact ⟨a, w', rfl, h⟩

theorem of_look_eq_ok {r : Except Mismatch α} {a : α} (h : look r w = (.ok a, w')) :
    r = .ok a ∧ w' = w := by
  cases r with
  | error e => cases h
  | ok a' =>
      cases h
      exact ⟨rfl, rfl⟩

theorem get_apply (w : World) : (get : Act World) w = (.ok w, w) := rfl

theorem tryCatch_of_ok {x : Act α} {handler : Fault → Act α} {a : α} (h : x w = (.ok a, w')) :
    tryCatch x handler w = (.ok a, w') := by
  simp only [tryCatch, tryCatchThe, MonadExceptOf.tryCatch, ExceptT.tryCatch, ExceptT.mk, bind,
    StateT.bind, h]
  rfl

theorem tryCatch_of_error {x : Act α} {handler : Fault → Act α} {e : Fault}
    (h : x w = (.error e, w')) : tryCatch x handler w = handler e w' := by
  simp only [tryCatch, tryCatchThe, MonadExceptOf.tryCatch, ExceptT.tryCatch, ExceptT.mk, bind,
    StateT.bind, h]

theorem recover_of_ok {x : Act α} {handler : Fault → Act α} {a : α} (h : x w = (.ok a, w')) :
    recover x handler w = (.ok a, w') :=
  tryCatch_of_ok h

/-- After a failure the handler goes on from the world that the failure left. -/
theorem recover_of_failure {x : Act α} {handler : Fault → Act α} {e : Fault}
    (h : x w = (.error e, w')) (he : e.isFailure = true) :
    recover x handler w = handler e w' := by
  rw [recover, tryCatch_of_error h, if_pos he]

/-- What is no failure passes. -/
theorem recover_of_other {x : Act α} {handler : Fault → Act α} {e : Fault}
    (h : x w = (.error e, w')) (he : e.isFailure = false) :
    recover x handler w = (.error e, w') := by
  rw [recover, tryCatch_of_error h, he]
  rfl

theorem look_ok (a : α) (w : World) : look (.ok a) w = (.ok a, w) := rfl

theorem shown_apply (v : Json) (w : World) :
    shown v w = (if v.isShowable then .ok v.text else .error .tooManyDigits, w) := by
  cases v with
  | int n =>
      by_cases h : Number.tenPow Text.digitLimit ≤ n.natAbs
      · rw [shown, if_pos h, Json.isShowable, decide_eq_false (Nat.not_lt.mpr h)]
        rfl
      · rw [shown, if_neg h, Json.isShowable, decide_eq_true (Nat.lt_of_not_le h)]
        rfl
  | _ => rfl

theorem ofExcept_ok (a : α) (w : World) :
    (MonadExcept.ofExcept (.ok a : Except Fault α) : Act α) w = (.ok a, w) := rfl

theorem body_of_some {r : Http.Reply} {v : Json} (h : r.json = some v) (w : World) :
    body r w = (.ok v, w) := by
  rw [body, h]
  rfl

theorem body_of_none {r : Http.Reply} (h : r.json = none) (w : World) :
    body r w = (.error .noBody, w) := by
  rw [body, h]
  rfl

theorem requireOk_of_ok {r : Http.Reply} (h : r.ok = true) (w : World) :
    requireOk r w = (.ok (), w) := by
  rw [requireOk, if_pos h]
  rfl

theorem requireOk_of_not_ok {r : Http.Reply} (h : r.ok = false) (w : World) :
    requireOk r w = (.error (.service ("HTTP " ++ r.status.text)), w) := by
  rw [requireOk, if_neg (Bool.eq_false_iff.mp h)]
  rfl

end Act

/-! ## Activities with a state -/

namespace ActOn

variable {s s' : σ} {w w' : World}

theorem bind_of_ok {x : ActOn σ α} {f : α → ActOn σ β} {a : α} (h : x s w = ((.ok a, s'), w')) :
    (x >>= f) s w = f a s' w' := by
  simp only [bind, ExceptT.bind, ExceptT.mk, StateT.bind, h]
  rfl

theorem bind_of_error {x : ActOn σ α} {f : α → ActOn σ β} {e : Fault}
    (h : x s w = ((.error e, s'), w')) : (x >>= f) s w = ((.error e, s'), w') := by
  simp only [bind, ExceptT.bind, ExceptT.mk, StateT.bind, h]
  rfl

/-- A lifted activity leaves the state alone. -/
theorem lift_of_eq {x : Act α} {r : Except Fault α} (h : x w = (r, w')) :
    (liftM x : ActOn σ α) s w = ((r, s), w') := by
  change (((x w).1, s), (x w).2) = _
  rw [h]

theorem bind_lift_of_ok {x : Act α} {f : α → ActOn σ β} {a : α} (h : x w = (.ok a, w')) :
    ((liftM x : ActOn σ α) >>= f) s w = f a s w' :=
  bind_of_ok (lift_of_eq h)

theorem bind_lift_of_error {x : Act α} {f : α → ActOn σ β} {e : Fault}
    (h : x w = (.error e, w')) :
    ((liftM x : ActOn σ α) >>= f) s w = ((.error e, s), w') :=
  bind_of_error (lift_of_eq h)

theorem lift_bind (x : Act α) (f : α → Act β) :
    (liftM (x >>= f) : ActOn σ β) = liftM x >>= fun a => liftM (f a) := by
  funext s w
  rcases hx : x w with ⟨r, w'⟩
  cases r with
  | error e => rw [bind_lift_of_error hx, lift_of_eq (Act.bind_of_error hx)]
  | ok a =>
      rcases hf : f a w' with ⟨r', w''⟩
      rw [bind_lift_of_ok hx, lift_of_eq hf, lift_of_eq ((Act.bind_of_ok hx).trans hf)]

theorem lift_discard (x : Act α) :
    (liftM (discard x) : ActOn σ PUnit) = discard (liftM x : ActOn σ α) :=
  lift_bind x fun _ => pure PUnit.unit

theorem within_of_eq {part : σ → τ} {put : τ → σ → σ} {x : ActOn τ α} {r : Except Fault α} {t : τ}
    (h : x (part s) w = ((r, t), w')) : x.within part put s w = ((r, put t s), w') := by
  simp only [ActOn.within, h]

theorem get_apply (s : σ) (w : World) : (get : ActOn σ σ) s w = ((.ok s, s), w) := rfl

theorem modify_apply (f : σ → σ) (s : σ) (w : World) :
    (modify f : ActOn σ PUnit) s w = ((.ok ⟨⟩, f s), w) := rfl

theorem tryCatch_of_ok {x : ActOn σ α} {handler : Fault → ActOn σ α} {a : α}
    (h : x s w = ((.ok a, s'), w')) : tryCatch x handler s w = ((.ok a, s'), w') := by
  simp only [tryCatch, tryCatchThe, MonadExceptOf.tryCatch, ExceptT.tryCatch, ExceptT.mk, bind,
    StateT.bind, h]
  rfl

theorem tryCatch_of_error {x : ActOn σ α} {handler : Fault → ActOn σ α} {e : Fault}
    (h : x s w = ((.error e, s'), w')) : tryCatch x handler s w = handler e s' w' := by
  simp only [tryCatch, tryCatchThe, MonadExceptOf.tryCatch, ExceptT.tryCatch, ExceptT.mk, bind,
    StateT.bind, h]

theorem recover_of_ok {x : ActOn σ α} {handler : Fault → ActOn σ α} {a : α}
    (h : x s w = ((.ok a, s'), w')) : recover x handler s w = ((.ok a, s'), w') :=
  tryCatch_of_ok h

theorem recover_of_failure {x : ActOn σ α} {handler : Fault → ActOn σ α} {e : Fault}
    (h : x s w = ((.error e, s'), w')) (he : e.isFailure = true) :
    recover x handler s w = handler e s' w' := by
  rw [recover, tryCatch_of_error h, if_pos he]

/-- What is no failure passes. -/
theorem recover_of_other {x : ActOn σ α} {handler : Fault → ActOn σ α} {e : Fault}
    (h : x s w = ((.error e, s'), w')) (he : e.isFailure = false) :
    recover x handler s w = ((.error e, s'), w') := by
  rw [recover, tryCatch_of_error h, he]
  rfl

theorem runFrom_of_ok {x : ActOn σ α} {a : α} (h : x s w = ((.ok a, s'), w')) :
    x.runFrom s w = (.ok (a, s'), w') := by
  simp only [runFrom, h]
  rfl

/-- The result of an activity, without the state after it. -/
theorem runFrom_fst {x : ActOn σ α} {r : Except Fault α} (h : x s w = ((r, s'), w')) :
    (do return (← x.runFrom s).1 : Act α) w = (r, w') := by
  have hrun : x.runFrom s w = (r.map (·, s'), w') := by
    simp only [runFrom, h]
  cases r with
  | ok a => exact Act.bind_of_ok hrun
  | error e => exact Act.bind_of_error hrun

/-- An activity that leaves the state alone, however it ends. -/
def Steady (x : ActOn σ α) : Prop := ∀ s w, (x s w).1.2 = s

theorem bind_state {x : ActOn σ α} {f : α → ActOn σ β} (hf : ∀ a, Steady (f a)) (s : σ)
    (w : World) : ((x >>= f) s w).1.2 = (x s w).1.2 := by
  rcases hx : x s w with ⟨⟨r, s'⟩, w'⟩
  cases r with
  | error e => rw [bind_of_error hx]
  | ok a => rw [bind_of_ok hx, hf]

namespace Steady

theorem get : Steady (MonadState.get : ActOn σ σ) := fun _ _ => rfl

theorem pure (a : α) : Steady (Pure.pure a : ActOn σ α) := fun _ _ => rfl

theorem lift (x : Act α) : Steady (liftM x : ActOn σ α) := fun _ _ => rfl

theorem bind {x : ActOn σ α} {f : α → ActOn σ β} (hx : Steady x) (hf : ∀ a, Steady (f a)) :
    Steady (x >>= f) := fun s w => (bind_state hf s w).trans (hx s w)

theorem ite {c : Prop} [Decidable c] {x y : ActOn σ α} (hx : Steady x) (hy : Steady y) :
    Steady (if c then x else y) := by
  split
  · exact hx
  · exact hy

end Steady

theorem recover_state {x : ActOn σ α} {handler : Fault → ActOn σ α}
    (hhandler : ∀ f, Steady (handler f)) (s : σ) (w : World) :
    (recover x handler s w).1.2 = (x s w).1.2 := by
  rcases hx : x s w with ⟨⟨r, s'⟩, w'⟩
  cases r with
  | ok a => rw [recover_of_ok hx]
  | error f =>
      cases hf : f.isFailure with
      | false => rw [recover_of_other hx hf]
      | true => rw [recover_of_failure hx hf, hhandler]

/-- What a round keeps, any number of rounds keeps. -/
theorem forever_induction {I : σ → World → Prop} {x : ActOn σ Unit}
    (h : ∀ s w, I s w → I (x s w).1.2 (x s w).2) (rounds : Nat) {s : σ} {w : World} (hs : I s w) :
    I (x.forever rounds s w).1.2 (x.forever rounds s w).2 := by
  induction rounds generalizing s w with
  | zero => exact hs
  | succ rounds ih =>
      have hround := h s w hs
      rcases hx : x s w with ⟨⟨r, s'⟩, w'⟩
      rw [hx] at hround
      unfold ActOn.forever
      cases r with
      | error e =>
          rw [bind_of_error hx]
          exact hround
      | ok _ =>
          rw [bind_of_ok hx]
          exact ih hround

end ActOn

/-! ## Logging and sleeping -/

namespace World

/-- The world after a line was logged. -/
def logging (w : World) (severity : Severity) (message : String) : World :=
  { w.record (.log severity message) with logged := w.logged + 1 }

/-- The world after a sleep to a moment. After a given sleep the kill switch is put down. -/
def sleeping (w : World) (seconds : Json) (clock : Moment) : World :=
  { w.record (.sleep seconds) with
    clock
    slept := w.slept + 1
    files := if w.limits.kill == some (w.slept + 1) then w.files.put ["kill.switch"] ""
      else w.files }

end World

namespace Act

theorem log_apply (severity : Severity) (message : String) (w : World) :
    log severity message w =
      (if w.logged + 1 == w.limits.logs then .error .interrupted else .ok (),
        w.logging severity message) := by
  have hrecord : (record (.log severity message) : Act Unit) w =
      (.ok (), w.record (.log severity message)) := rfl
  have hcount (w : World) :
      (modify fun w : World => { w with logged := w.logged + 1 } : Act PUnit) w =
        (.ok (), { w with logged := w.logged + 1 }) := rfl
  rw [log, bind_of_ok hrecord, bind_of_ok (hcount _), bind_of_ok (get_apply _)]
  change (if w.logged + 1 == w.limits.logs then _ else _ : Act Unit) _ = _
  split <;> rfl

/-- The moment at which a sleep ends, if it is one that can be slept. -/
def wakingTime (system : System) (clock : Moment) (seconds : Json) : Except Fault Moment :=
  match seconds.quantity? with
  | none => .error (.mismatch (.notOrdered "<" seconds.kindName "int"))
  | some q =>
    if system.isTooLong q then .error .sleepTooLong
    else if q.isNegative then .error .negativeSleep
    else match q.microseconds with
      | .error e => .error (.cut e)
      | .ok micros => (clock.add? micros).mapError .clockRange

theorem passTime_apply (micros : Int) (w : World) :
    passTime micros w = match w.clock.add? micros with
      | .ok clock => (.ok (), { w with clock })
      | .error e => (.error (.clockRange e), w) := by
  rw [passTime, bind_of_ok (get_apply w)]
  cases w.clock.add? micros <;> rfl

/-- What a sleep does after its time has passed. -/
theorem countSleep_apply (w : World) :
    (do
      modify fun w => { w with slept := w.slept + 1 }
      let w ← get
      if w.limits.kill == some w.slept then
        set { w with files := w.files.put ["kill.switch"] "" }
      if w.limits.sleeps ≤ w.slept then throw .interrupted : Act Unit) w =
      (if w.limits.sleeps ≤ w.slept + 1 then .error .interrupted else .ok (),
        { w with
          slept := w.slept + 1
          files := if w.limits.kill == some (w.slept + 1) then w.files.put ["kill.switch"] ""
            else w.files }) := by
  have hcount : (modify fun w : World => { w with slept := w.slept + 1 } : Act PUnit) w
      = (.ok (), { w with slept := w.slept + 1 }) := rfl
  rw [bind_of_ok hcount, bind_of_ok (get_apply _)]
  dsimp only
  by_cases hlast : w.limits.sleeps ≤ w.slept + 1
  · simp only [hlast, if_true]
    split <;> rfl
  · simp only [hlast, if_false]
    split <;> rfl

/-- A sleep is recorded. One that can be slept counts, and the user interrupts the last one. -/
theorem sleepFor_apply (seconds : Json) (w : World) :
    sleepFor seconds w = match wakingTime w.system w.clock seconds with
      | .error f => (.error f, w.record (.sleep seconds))
      | .ok clock =>
        (if w.limits.sleeps ≤ w.slept + 1 then .error .interrupted else .ok (),
          w.sleeping seconds clock) := by
  have hrecord : (record (.sleep seconds) : Act Unit) w = (.ok (), w.record (.sleep seconds)) := rfl
  rw [sleepFor, bind_of_ok hrecord]
  unfold wakingTime
  cases seconds.quantity? with
  | none => rfl
  | some q =>
      have hsystem : (w.record (.sleep seconds)).system = w.system := rfl
      dsimp only
      rw [bind_of_ok (get_apply _), hsystem]
      cases w.system.isTooLong q with
      | true => rfl
      | false =>
          simp only [Bool.false_eq_true, if_false]
          cases q.isNegative with
          | true => rfl
          | false =>
              simp only [Bool.false_eq_true, if_false]
              cases q.microseconds with
              | error e => rfl
              | ok micros =>
                  have hpass := passTime_apply micros (w.record (.sleep seconds))
                  change passTime micros _ =
                    match w.clock.add? micros with | .ok _ => _ | .error _ => _ at hpass
                  dsimp only
                  cases hclock : w.clock.add? micros with
                  | error e =>
                      rw [hclock] at hpass
                      exact bind_of_error hpass
                  | ok clock =>
                      rw [hclock] at hpass
                      rw [bind_of_ok hpass]
                      exact countSleep_apply _

end Act

/-! ## Files -/

namespace Act

section

variable {p : Path} {w : World}

theorem fileExists_of_ok {found : Bool} (h : w.files.exists? p = .ok found) :
    fileExists p w = (.ok found, w) := by
  rw [fileExists, bind_of_ok (get_apply w), h]
  rfl

theorem fileExists_of_error {c : Files.Cause} (h : w.files.exists? p = .error c) :
    fileExists p w = (.error (fileFault c p), w) := by
  rw [fileExists, bind_of_ok (get_apply w), h]
  rfl

theorem readFile_of_ok {text : String} (h : w.files.read p = .ok text) :
    readFile p w = (.ok (String.ofList (Text.unifyLineEnds text.toList)), w) := by
  rw [readFile, bind_of_ok (get_apply w), h]
  rfl

theorem readFile_of_error {c : Files.Cause} (h : w.files.read p = .error c) :
    readFile p w = (.error (fileFault c p), w) := by
  rw [readFile, bind_of_ok (get_apply w), h]
  rfl

end

theorem makeFolders_apply (p : Path) (w : World) :
    makeFolders p w = match w.files.makeFolders p with
      | .ok files => (.ok (), { w with files })
      | .error (cause, here) => (.error (fileFault cause here), w) := by
  rw [makeFolders, bind_of_ok (get_apply w)]
  cases w.files.makeFolders p <;> rfl

theorem of_makeFolders_eq_ok {p : Path} {w w' : World} (h : makeFolders p w = (.ok (), w')) :
    ∃ files, w.files.makeFolders p = .ok files ∧ w' = { w with files } := by
  rw [makeFolders_apply] at h
  cases hmake : w.files.makeFolders p with
  | error e =>
      rw [hmake] at h
      cases h
  | ok files =>
      rw [hmake] at h
      cases h
      exact ⟨files, rfl, rfl⟩

/-- A text without bytes leaves an empty file. -/
theorem writeFile_apply (p : Path) (text : String) (w : World) :
    writeFile p text w =
      match w.files.write p (if (Text.halves? text).isSome then "" else text) with
      | .error cause => (.error (fileFault cause p), w)
      | .ok files =>
        (if (Text.halves? text).isSome then .error (.unencodable text) else .ok (),
          { w with files }) := by
  rw [writeFile, bind_of_ok (get_apply w)]
  cases w.files.write p (if (Text.halves? text).isSome then "" else text) with
  | error cause => rfl
  | ok files => cases (Text.halves? text).isSome <;> rfl

theorem of_writeFile_eq_ok {p : Path} {text : String} {w w' : World}
    (h : writeFile p text w = (.ok (), w')) :
    Text.halves? text = none ∧
      ∃ files, w.files.write p text = .ok files ∧ w' = { w with files } := by
  rw [writeFile_apply] at h
  cases hhalves : Text.halves? text with
  | some halves =>
      rw [hhalves] at h
      split at h <;> cases h
  | none =>
      rw [hhalves] at h
      refine ⟨rfl, ?_⟩
      simp only [Option.isSome_none, Bool.false_eq_true, if_false] at h
      cases hwrite : w.files.write p text with
      | error cause =>
          rw [hwrite] at h
          cases h
      | ok files =>
          rw [hwrite] at h
          cases h
          exact ⟨files, rfl, rfl⟩

end Act

/-! ## Services -/

namespace Act

/-- A request is recorded and takes the next answer, if there is one. -/
theorem http_apply (request : Http.Request) (w : World) :
    http request w = match w.http with
      | [] => (.error (.service "no scripted response"), w.record (.http request))
      | .fails text :: rest =>
        (.error (.service text), { w.record (.http request) with http := rest })
      | .gives reply :: rest => (.ok reply, { w.record (.http request) with http := rest }) := by
  unfold http
  have hrecord : (record (.http request) : Act Unit) w = (.ok (), w.record (.http request)) := rfl
  rw [bind_of_ok hrecord, bind_of_ok (get_apply _)]
  have hqueue : (w.record (.http request)).http = w.http := rfl
  rw [hqueue]
  cases w.http with
  | nil => rfl
  | cons next rest => cases next <;> rfl

theorem need_apply (library : String) (w : World) :
    need library w =
      (if w.notInstalled.contains library then .error (.notInstalled library) else .ok (), w) := by
  rw [need, bind_of_ok (get_apply w)]
  cases w.notInstalled.contains library <;> rfl

/-- A call is recorded and takes the next answer, if there is one. -/
theorem twitter_apply (call : Twitter.Call) (w : World) :
    twitter call w = match w.twitter with
      | [] => (.error (.service "no scripted response"), w.record (.twitter call))
      | .fails text :: rest =>
        (.error (.service text), { w.record (.twitter call) with twitter := rest })
      | .gives (.rateLimit text) :: rest =>
        (.error (.rateLimited text), { w.record (.twitter call) with twitter := rest })
      | .gives (.result data includes) :: rest =>
        (.ok (data, includes), { w.record (.twitter call) with twitter := rest }) := by
  unfold twitter
  have hrecord : (record (.twitter call) : Act Unit) w = (.ok (), w.record (.twitter call)) := rfl
  rw [bind_of_ok hrecord, bind_of_ok (get_apply _)]
  have hqueue : (w.record (.twitter call)).twitter = w.twitter := rfl
  rw [hqueue]
  cases w.twitter with
  | nil => rfl
  | cons next rest =>
      cases next with
      | fails text => rfl
      | gives answer => cases answer <;> rfl

/-- A question is recorded and takes the next answer, if there is one. -/
theorem ask_apply (question : Prompt) (w : World) :
    ask question w = match w.model with
      | [] => (.error (.service "no scripted response"), w.record (.prompt question))
      | .fails text :: rest =>
        (.error (.service text), { w.record (.prompt question) with model := rest })
      | .gives none :: rest =>
        (.error (.mismatch .outOfRange), { w.record (.prompt question) with model := rest })
      | .gives (some content) :: rest =>
        (.ok content, { w.record (.prompt question) with model := rest }) := by
  unfold ask
  have hrecord : (record (.prompt question) : Act Unit) w =
      (.ok (), w.record (.prompt question)) := rfl
  rw [bind_of_ok hrecord, bind_of_ok (get_apply _)]
  have hqueue : (w.record (.prompt question)).model = w.model := rfl
  rw [hqueue]
  cases w.model with
  | nil => rfl
  | cons next rest =>
      cases next with
      | fails text => rfl
      | gives content => cases content <;> rfl

/-- A command that the system does not start leaves no trace. -/
theorem execute_of_refused {command : Command} {e : StartError} {w : World}
    (h : w.system.startError? command = some e) :
    execute command w = (.error (startFault command e), w) := by
  rw [execute, bind_of_ok (get_apply w), h]
  rfl

/-- A command that is started is recorded and ends as the next answer says, if there is one. -/
theorem execute_of_started {command : Command} {w : World}
    (h : w.system.startError? command = none) :
    execute command w = match w.commands with
      | [] => (.error (.service "no scripted response"), w.record (.run command))
      | .fails text :: rest =>
        (.error (.service text), { w.record (.run command) with commands := rest })
      | .gives .notInstalled :: rest =>
        (.error (.file .missing (command.arguments.headD "")),
          { w.record (.run command) with commands := rest })
      | .gives (.exited code stdout stderr) :: rest =>
        (if code = 0 then .ok stdout else .error (.command command.arguments code stderr),
          { w.record (.run command) with commands := rest }) := by
  have hrecord : (record (.run command) : Act Unit) w = (.ok (), w.record (.run command)) := rfl
  rw [execute, bind_of_ok (get_apply w), h]
  dsimp only
  rw [bind_of_ok hrecord, bind_of_ok (get_apply _)]
  have hqueue : (w.record (.run command)).commands = w.commands := rfl
  rw [hqueue]
  cases w.commands with
  | nil => rfl
  | cons next rest =>
      match next with
      | .fails text => rfl
      | .gives .notInstalled => rfl
      | .gives (.exited code stdout stderr) =>
          by_cases hcode : code = 0
          · subst hcode
            rfl
          · simp only [if_neg hcode]
            change (if code == 0 then pure stdout else _ : Act Json) _ = _
            rw [if_neg (mt beq_iff_eq.mp hcode)]
            rfl

/-- A command leaves the world as it is, or it is recorded and some answers are left. -/
theorem execute_leaves {P : World → Prop} {command : Command} {w : World} (hstay : P w)
    (hrun : ∀ commands, P { w.record (.run command) with commands }) :
    P (execute command w).2 := by
  cases hstart : w.system.startError? command with
  | some e =>
      rw [execute_of_refused hstart]
      exact hstay
  | none =>
      rw [execute_of_started hstart]
      split
      · exact hrun w.commands
      · exact hrun _
      · exact hrun _
      · exact hrun _

end Act

/-! ## The record of requests -/

namespace Event

/-- The Twitter call that an event is. -/
def call? : Event → Option Twitter.Call
  | twitter call => some call
  | _ => none

/-- The HTTP request that an event is. -/
def request? : Event → Option Http.Request
  | http request => some request
  | _ => none

/-- What is picked out of a trace grows by what is picked of the event, although printed text may
join the text before it. -/
theorem filterMap_append {f : Event → Option α} (hf : ∀ text, f (out text) = none)
    (trace : List Event) (e : Event) :
    (append trace e).filterMap f = trace.filterMap f ++ (f e).toList := by
  have hone : [e].filterMap f = (f e).toList := by cases h : f e <;> simp [h]
  unfold append
  split
  · next new old hlast =>
      obtain ⟨init, rfl⟩ := List.getLast?_eq_some_iff.mp hlast
      simp [hf]
  · rw [List.filterMap_append, hone]

end Event

namespace World

/-- The Twitter calls made so far. -/
def calls (w : World) : List Twitter.Call := w.trace.filterMap Event.call?

/-- The HTTP requests made so far. -/
def requests (w : World) : List Http.Request := w.trace.filterMap Event.request?

theorem calls_record (w : World) (e : Event) : (w.record e).calls = w.calls ++ e.call?.toList :=
  Event.filterMap_append (fun _ => rfl) w.trace e

theorem requests_record (w : World) (e : Event) :
    (w.record e).requests = w.requests ++ e.request?.toList :=
  Event.filterMap_append (fun _ => rfl) w.trace e

end World

namespace Act

/-- A call is made once, and has a result just when the next answer is one. -/
theorem twitter_cases (call : Twitter.Call) (w : World) :
    ∃ w₁ : World, w₁.calls = w.calls ++ [call] ∧
      ((∃ e, twitter call w = (.error e, w₁) ∧
        ∀ data includes rest, w.twitter ≠ .gives (.result data includes) :: rest) ∨
      (∃ data includes, twitter call w = (.ok (data, includes), w₁) ∧
        w.twitter = .gives (.result data includes) :: w₁.twitter)) := by
  have hcalls := World.calls_record w (.twitter call)
  rw [twitter_apply]
  cases w.twitter with
  | nil => exact ⟨_, hcalls, .inl ⟨_, rfl, by simp⟩⟩
  | cons next rest =>
      refine ⟨{ w.record (.twitter call) with twitter := rest }, hcalls, ?_⟩
      match next with
      | .fails text => exact .inl ⟨_, rfl, by simp⟩
      | .gives (.rateLimit text) => exact .inl ⟨_, rfl, by simp⟩
      | .gives (.result data includes) => exact .inr ⟨data, includes, rfl, rfl⟩

/-- A request is made once, and has a reply just when the next answer is one. -/
theorem http_cases (request : Http.Request) (w : World) :
    ∃ w₁ : World, w₁.requests = w.requests ++ [request] ∧
      ((∃ e, http request w = (.error e, w₁) ∧ ∀ reply rest, w.http ≠ .gives reply :: rest) ∨
      (∃ reply, http request w = (.ok reply, w₁) ∧ w.http = .gives reply :: w₁.http)) := by
  have hrequests := World.requests_record w (.http request)
  rw [http_apply]
  cases w.http with
  | nil => exact ⟨_, hrequests, .inl ⟨_, rfl, by simp⟩⟩
  | cons next rest =>
      refine ⟨{ w.record (.http request) with http := rest }, hrequests, ?_⟩
      cases next with
      | fails text => exact .inl ⟨_, rfl, by simp⟩
      | gives reply => exact .inr ⟨reply, rfl, rfl⟩

end Act

end Persona
