import Persona.Proofs.World.Running

/-!
# What activities touch

An activity that touches nothing but the files does the same in every world with the same files,
and leaves all else as it is. One that asks a service leaves the files alone. One that makes no
request is seen in the record only. All of them end early with failures only. Activities of a kind
can be put together, so a larger one needs no look at the world.

Main statements: `Filing.bind`, `Asking.bind`, `Quiet.bind`.
-/

namespace Persona.Act

variable {α β : Type}

/-- An activity that ends early with failures only, never with an interruption or an exit. -/
def Recoverable (x : Act α) : Prop := ∀ w w' e, x w = (.error e, w') → e.isFailure = true

namespace Recoverable

theorem pure (a : α) : Recoverable (Pure.pure a : Act α) := by
  intro w w' e h
  cases h

theorem throw {e : Fault} (he : e.isFailure = true) :
    Recoverable (MonadExcept.throw e : Act α) := by
  intro w w' e' h
  cases h
  exact he

theorem bind {x : Act α} {f : α → Act β} (hx : Recoverable x) (hf : ∀ a, Recoverable (f a)) :
    Recoverable (x >>= f) := by
  intro w w' e h
  rcases hrun : x w with ⟨r, w₁⟩
  cases r with
  | error e' =>
      rw [bind_of_error hrun] at h
      cases h
      exact hx w _ _ hrun
  | ok a =>
      rw [bind_of_ok hrun] at h
      exact hf a w₁ w' e h

/-- Where failures are answered with a value, there is always a value. -/
theorem exists_ok_of_recover {x : Act α} {handler : Fault → Act α} (hx : Recoverable x)
    (hhandler : ∀ f w, ∃ a w', handler f w = (.ok a, w')) (w : World) :
    ∃ a w', recover x handler w = (.ok a, w') := by
  rcases hrun : x w with ⟨r, w₁⟩
  cases r with
  | ok a => exact ⟨a, w₁, recover_of_ok hrun⟩
  | error f =>
      rw [recover_of_failure hrun (hx w w₁ f hrun)]
      exact hhandler f w₁

end Recoverable

/-! ## Activities on files -/

/-- An activity that sees and changes nothing but the files. -/
structure Filing (x : Act α) : Prop where
  frame : ∀ w w', w'.files = w.files → x w' = ((x w).1, { w' with files := (x w).2.files })
  recoverable : Recoverable x

namespace Filing

theorem pure (a : α) : Filing (Pure.pure a : Act α) where
  frame w w' h := by
    have hw' : { w' with files := w.files } = w' := by rw [← h]
    exact congrArg (Prod.mk _) hw'.symm
  recoverable := .pure a

theorem throw {e : Fault} (he : e.isFailure = true) : Filing (MonadExcept.throw e : Act α) where
  frame w w' h := by
    have hw' : { w' with files := w.files } = w' := by rw [← h]
    exact congrArg (Prod.mk _) hw'.symm
  recoverable := .throw he

theorem look (r : Except Mismatch α) : Filing (Act.look r) := by
  cases r with
  | ok a => exact .pure a
  | error e => exact .throw rfl

/-- The second activity starts from the files that the first one left, in whatever world. -/
theorem bind {x : Act α} {f : α → Act β} (hx : Filing x) (hf : ∀ a, Filing (f a)) :
    Filing (x >>= f) where
  frame w w' h := by
    have hframe := hx.frame w w' h
    rcases hrun : x w with ⟨r, w₁⟩
    rw [hrun] at hframe
    cases r with
    | error e => rw [bind_of_error hrun, bind_of_error hframe]
    | ok a =>
        rw [bind_of_ok hrun, bind_of_ok hframe]
        exact (hf a).frame w₁ { w' with files := w₁.files } rfl
  recoverable := .bind hx.recoverable fun a => (hf a).recoverable

/-- An activity chosen by a look at the files. -/
theorem bind_get {f : World → Act α} (hf : ∀ w, Filing (f w))
    (hfiles : ∀ w w', w'.files = w.files → f w' = f w) : Filing (get >>= f) where
  frame w w' h := by
    rw [bind_of_ok (get_apply w'), bind_of_ok (get_apply w), hfiles w w' h]
    exact (hf w).frame w w' h
  recoverable := fun w w' e h => (hf w).recoverable w w' e h

/-- Files that are put in the place of those there are. -/
theorem setFiles (t : Files) :
    Filing (modify (fun w : World => { w with files := t }) : Act PUnit) where
  frame _ _ _ := rfl
  recoverable w w' e h := by cases h

theorem isFailure_fileFault (c : Files.Cause) (p : Path) : (fileFault c p).isFailure = true := by
  cases c <;> rfl

theorem fileExists (p : Path) : Filing (Act.fileExists p) := by
  unfold Act.fileExists
  refine bind_get (fun w => ?_) fun w w' h => by rw [h]
  cases w.files.exists? p with
  | ok b => exact .pure b
  | error c => exact .throw (isFailure_fileFault c p)

theorem readFile (p : Path) : Filing (Act.readFile p) := by
  unfold Act.readFile
  refine bind_get (fun w => ?_) fun w w' h => by rw [h]
  cases w.files.read p with
  | ok s => exact .pure _
  | error c => exact .throw (isFailure_fileFault c p)

theorem writeFile (p : Path) (text : String) : Filing (Act.writeFile p text) := by
  unfold Act.writeFile
  refine bind_get (fun w => ?_) fun w w' h => by rw [h]
  cases w.files.write p (if (Text.halves? text).isSome then "" else text) with
  | error c => exact .throw (isFailure_fileFault c p)
  | ok t =>
      refine .bind (setFiles t) fun _ => ?_
      split
      · exact .throw rfl
      · exact .pure _

end Filing

/-! ## Activities beside the files -/

/-- An activity that leaves the files alone. -/
structure Asking (x : Act α) : Prop where
  files_eq : ∀ w, (x w).2.files = w.files
  recoverable : Recoverable x

namespace Asking

theorem pure (a : α) : Asking (Pure.pure a : Act α) := ⟨fun _ => rfl, .pure a⟩

theorem throw {e : Fault} (he : e.isFailure = true) : Asking (MonadExcept.throw e : Act α) :=
  ⟨fun _ => rfl, .throw he⟩

theorem bind {x : Act α} {f : α → Act β} (hx : Asking x) (hf : ∀ a, Asking (f a)) :
    Asking (x >>= f) where
  files_eq w := by
    have hfiles := hx.files_eq w
    rcases hrun : x w with ⟨r, w₁⟩
    rw [hrun] at hfiles
    cases r with
    | error e =>
        rw [bind_of_error hrun]
        exact hfiles
    | ok a =>
        rw [bind_of_ok hrun, (hf a).files_eq]
        exact hfiles
  recoverable := .bind hx.recoverable fun a => (hf a).recoverable

theorem ite {c : Prop} [Decidable c] {x y : Act α} (hx : Asking x) (hy : Asking y) :
    Asking (if c then x else y) := by
  split
  · exact hx
  · exact hy

theorem look (r : Except Mismatch α) : Asking (Act.look r) := by
  cases r with
  | ok a => exact .pure a
  | error e => exact .throw rfl

theorem body (r : Http.Reply) : Asking (Act.body r) := by
  unfold Act.body
  cases r.json with
  | some v => exact .pure v
  | none => exact .throw rfl

theorem http (request : Http.Request) : Asking (Act.http request) where
  files_eq w := by
    rw [http_apply]
    split <;> rfl
  recoverable w w' e h := by
    rw [http_apply] at h
    split at h <;> cases h <;> rfl

theorem twitter (call : Twitter.Call) : Asking (Act.twitter call) where
  files_eq w := by
    rw [twitter_apply]
    split <;> rfl
  recoverable w w' e h := by
    rw [twitter_apply] at h
    split at h <;> cases h <;> rfl

theorem ask (question : Prompt) : Asking (Act.ask question) where
  files_eq w := by
    rw [ask_apply]
    split <;> rfl
  recoverable w w' e h := by
    rw [ask_apply] at h
    split at h <;> cases h <;> rfl

end Asking

/-! ## Activities that are seen in the record only -/

/-- An activity that adds to the record, but no request, and changes nothing else. -/
structure Quiet (x : Act α) : Prop where
  exists_trace : ∀ w, ∃ trace, (x w).2 = { w with trace } ∧
    trace.filterMap Event.call? = w.calls ∧ trace.filterMap Event.request? = w.requests
  recoverable : Recoverable x

namespace Quiet

theorem pure (a : α) : Quiet (Pure.pure a : Act α) :=
  ⟨fun w => ⟨w.trace, rfl, rfl, rfl⟩, .pure a⟩

theorem throw {e : Fault} (he : e.isFailure = true) : Quiet (MonadExcept.throw e : Act α) :=
  ⟨fun w => ⟨w.trace, rfl, rfl, rfl⟩, .throw he⟩

theorem get : Quiet (MonadState.get : Act World) :=
  ⟨fun w => ⟨w.trace, rfl, rfl, rfl⟩, fun w w' e h => by cases h⟩

theorem record {e : Event} (hcall : e.call? = none) (hrequest : e.request? = none) :
    Quiet (Act.record e) where
  exists_trace w := by
    refine ⟨(w.record e).trace, rfl, ?_, ?_⟩
    · refine (World.calls_record w e).trans ?_
      rw [hcall, Option.toList_none, List.append_nil]
    · refine (World.requests_record w e).trans ?_
      rw [hrequest, Option.toList_none, List.append_nil]
  recoverable w w' e h := by cases h

theorem bind {x : Act α} {f : α → Act β} (hx : Quiet x) (hf : ∀ a, Quiet (f a)) :
    Quiet (x >>= f) where
  exists_trace w := by
    obtain ⟨trace, hw₁, hcalls, hrequests⟩ := hx.exists_trace w
    rcases hrun : x w with ⟨r, w₁⟩
    rw [hrun] at hw₁
    subst hw₁
    cases r with
    | error e =>
        rw [bind_of_error hrun]
        exact ⟨trace, rfl, hcalls, hrequests⟩
    | ok a =>
        rw [bind_of_ok hrun]
        obtain ⟨trace', hw₂, hcalls', hrequests'⟩ := (hf a).exists_trace { w with trace }
        exact ⟨trace', hw₂, hcalls'.trans hcalls, hrequests'.trans hrequests⟩
  recoverable := .bind hx.recoverable fun a => (hf a).recoverable

/-- Where failures are answered with a value, there is always a value. -/
theorem exists_ok_of_recover {x : Act α} {handler : Fault → Act α} (hx : Quiet x)
    (hhandler : ∀ f, Quiet (handler f)) (hok : ∀ f w, ∃ a, (handler f w).1 = .ok a) (w : World) :
    ∃ a trace, recover x handler w = (.ok a, { w with trace }) ∧
      trace.filterMap Event.call? = w.calls ∧ trace.filterMap Event.request? = w.requests := by
  obtain ⟨trace, hw₁, hcalls, hrequests⟩ := hx.exists_trace w
  rcases hrun : x w with ⟨r, w₁⟩
  rw [hrun] at hw₁
  subst hw₁
  cases r with
  | ok a => exact ⟨a, trace, recover_of_ok hrun, hcalls, hrequests⟩
  | error f =>
      rw [recover_of_failure hrun (hx.recoverable _ _ _ hrun)]
      obtain ⟨trace', hw₂, hcalls', hrequests'⟩ := (hhandler f).exists_trace { w with trace }
      obtain ⟨a, ha⟩ := hok f { w with trace }
      exact ⟨a, trace', Prod.ext ha hw₂, hcalls'.trans hcalls, hrequests'.trans hrequests⟩

end Quiet

end Persona.Act
