import Persona.Companion.Issues
import Persona.Delivery.Push
import Persona.Gateway.Request
import Persona.Proofs.World.Running

/-!
# Requests without a signature

A request is signed if its header is exactly the signature of the bytes that the server hands over.
One that is not signed is refused before anything else of it is looked at, and the world stays as it
is. Nothing is assumed of the server but that it hands over bytes, whatever they are, and does not
itself answer that a signature is wrong.

The bytes need not be those of the body: a form is taken apart on its way and leaves none.

Main statement: `unsigned_refused_without_effect`.
-/

namespace Persona

namespace Act

variable {α β : Type} {P : α → Prop}

/-- An activity whose value, if it comes to one, has a property. -/
def Gives (P : α → Prop) (x : Act α) : Prop := ∀ w a w', x w = (.ok a, w') → P a

namespace Gives

theorem pure {a : α} (h : P a) : Gives P (Pure.pure a : Act α) := by
  intro w a' w' hrun
  cases hrun
  exact h

theorem bind {x : Act β} {f : β → Act α} (hf : ∀ b, Gives P (f b)) : Gives P (x >>= f) := by
  intro w a w' hrun
  rcases hx : x w with ⟨r, w₁⟩
  cases r with
  | error e =>
      rw [bind_of_error hx] at hrun
      cases hrun
  | ok b =>
      rw [bind_of_ok hx] at hrun
      exact hf b w₁ a w' hrun

theorem recover {x : Act α} {handler : Fault → Act α} (hx : Gives P x)
    (hhandler : ∀ f, Gives P (handler f)) : Gives P (Persona.recover x handler) := by
  intro w a w' hrun
  rcases hx' : x w with ⟨r, w₁⟩
  cases r with
  | ok b =>
      rw [recover_of_ok hx'] at hrun
      cases hrun
      exact hx w a w' hx'
  | error f =>
      cases hf : f.isFailure with
      | true =>
          rw [recover_of_failure hx' hf] at hrun
          exact hhandler f w₁ a w' hrun
      | false =>
          rw [recover_of_other hx' hf] at hrun
          cases hrun

end Gives

end Act

/-! ## Signed requests -/

namespace Text

theorem lt_of_mem_hexDigits {width n : Nat} {c : Char} (h : c ∈ hexDigits width n) :
    c.toNat < 128 := by
  have hdigit : ∀ n, n < 16 → (hexDigit n).toNat < 128 := by decide
  induction width generalizing n with
  | zero => exact absurd h List.not_mem_nil
  | succ width ih =>
      rw [hexDigits, List.mem_append, List.mem_singleton] at h
      rcases h with h | rfl
      · exact ih h
      · exact hdigit _ (Nat.mod_lt n (by decide))

end Text

namespace Delivery

/-- The response to a request that is not signed. -/
def refusal : Response :=
  { status := 401, json := some (.obj [("error", .str "Invalid signature")]) }

namespace Arrival

/-- The header that holds the signature of a request. -/
def signature? (a : Arrival) : Option String := a.header? "X-Hub-Signature-256"

/-- The header is the signature of the bytes under the key. -/
def IsSigned (a : Arrival) (key data : List UInt8) : Prop :=
  a.signature? = some (signature key data)

instance (a : Arrival) (key data : List UInt8) : Decidable (a.IsSigned key data) :=
  inferInstanceAs (Decidable (_ = _))

/-- The header, if there is one, has plain letters only. -/
def HasPlainSignature (a : Arrival) : Prop :=
  ∀ given, a.signature? = some given → (given.toList.all fun c => c.toNat < 128) = true

/-- What is taken for granted of the server: it hands over these bytes, and where the body is no
value, it does not answer as if the signature were wrong. -/
structure Brings (a : Arrival) (data : List UInt8) : Prop where
  data_eq : a.data = .ok data
  json_ne : ∀ response, a.json = .error (.answered response) → response.status ≠ 401

end Arrival

variable {secret : String} {key data : List UInt8} {a : Arrival}

theorem signature_plain (key message : List UInt8) :
    ((signature key message).toList.all fun c => c.toNat < 128) = true := by
  rw [signature, String.toList_append, List.all_append, Bool.and_eq_true]
  refine ⟨by decide, List.all_eq_true.mpr fun c hc => decide_eq_true ?_⟩
  rw [Text.hexOfBytes, String.toList_ofList] at hc
  obtain ⟨byte, -, hc⟩ := List.mem_flatMap.mp hc
  exact Text.lt_of_mem_hexDigits hc

theorem signature_ne_empty (key message : List UInt8) : signature key message ≠ "" := by
  intro h
  have hchars := congrArg String.toList h
  simp [signature] at hchars

/-- A header that is missing counts as an empty one, which is no signature. -/
theorem isSigned_iff (a : Arrival) (key data : List UInt8) :
    a.IsSigned key data ↔ signature key data = a.signature?.getD "" := by
  unfold Arrival.IsSigned
  cases a.signature? with
  | none => simpa using signature_ne_empty key data
  | some given => simpa using eq_comm

section

variable (hsecret : secret ≠ "")
include hsecret

theorem accepts_of_plain (hkey : Text.bytes? secret = some key) (hplain : a.HasPlainSignature)
    (data : List UInt8) :
    accepts secret data (.str (a.signature?.getD "")) =
      .ok (signature key data == a.signature?.getD "") := by
  have hletters : ((a.signature?.getD "").toList.all fun c => c.toNat < 128) = true := by
    cases hgiven : a.signature? with
    | none => rfl
    | some given => exact hplain given hgiven
  have hset : secret.isEmpty = false := by simpa using hsecret
  simp [accepts, hset, hkey, hletters]

theorem accepts_of_unencodable (hkey : Text.bytes? secret = none) (data : List UInt8)
    (given : Json) : accepts secret data given = .error (.unencodable secret) := by
  have hset : secret.isEmpty = false := by simpa using hsecret
  simp [accepts, hset, hkey]

end

theorem accepts_of_isSigned (hkey : Text.bytes? secret = some key) (h : a.IsSigned key data) :
    accepts secret data (.str (a.signature?.getD "")) = .ok true := by
  by_cases hsecret : secret = ""
  · rw [hsecret]
    rfl
  · have hplain : a.HasPlainSignature := by
      intro given hgiven
      rw [Arrival.IsSigned, hgiven] at h
      rw [Option.some.inj h]
      exact signature_plain key data
    rw [accepts_of_plain hsecret hkey hplain, beq_iff_eq.mpr ((isSigned_iff a key data).mp h)]

/-! ## Refusing -/

/-- What is accepted is read. -/
theorem whenSigned_of_accepts (hdata : a.data = .ok data)
    (haccepts : accepts secret data (.str (a.signature?.getD "")) = .ok true)
    (handle : Json → Act Response) (w : World) :
    (∀ payload, a.json = .ok payload → whenSigned secret a handle w = handle payload w) ∧
      ∀ ending, a.json = .error ending → whenSigned secret a handle w = ending.act w := by
  have hcheck : (MonadExcept.ofExcept (accepts secret data
      (.str ((a.header? "X-Hub-Signature-256").getD ""))) : Act Bool) w = (.ok true, w) :=
    congrArg (fun e => (MonadExcept.ofExcept e : Act Bool) w) haccepts
  unfold whenSigned
  rw [hdata]
  dsimp only
  rw [Act.bind_of_ok hcheck, if_pos rfl]
  constructor
  · intro payload hjson
    rw [hjson]
  · intro ending hjson
    rw [hjson]

section

variable (hsecret : secret ≠ "")
include hsecret

/-- Nothing but the header and the bytes decides on a refusal, and nothing happens. -/
theorem whenSigned_of_not_isSigned (hkey : Text.bytes? secret = some key)
    (hdata : a.data = .ok data) (hplain : a.HasPlainSignature) (h : ¬a.IsSigned key data)
    (handle : Json → Act Response) (w : World) :
    whenSigned secret a handle w = (.ok refusal, w) := by
  have haccepts := accepts_of_plain hsecret hkey hplain data
  rw [isSigned_iff] at h
  unfold whenSigned
  rw [hdata]
  change ((MonadExcept.ofExcept (accepts secret data (.str (a.signature?.getD ""))) : Act Bool) >>=
    _) w = _
  rw [haccepts, beq_eq_false_iff_ne.mpr h, Act.bind_of_ok (Act.ofExcept_ok false w)]
  rfl

/-- A secret without bytes makes no signature. -/
theorem whenSigned_of_unencodable (hkey : Text.bytes? secret = none) (hdata : a.data = .ok data)
    (handle : Json → Act Response) (w : World) :
    whenSigned secret a handle w = (.error (.unencodable secret), w) := by
  unfold whenSigned
  rw [hdata]
  dsimp only
  rw [accepts_of_unencodable hsecret hkey]
  rfl

end

/-- A handler answers that the signature is wrong. -/
def Refuses (x : Act Response) (w : World) : Prop :=
  ∃ response w', x w = (.ok response, w') ∧ response.status = 401

/-- A response that does not say that the signature is wrong. -/
def Response.Accepting (response : Response) : Prop := response.status ≠ 401

/-- A signed request is not refused, unless by the handler of its payload. -/
theorem not_refuses_of_isSigned (hkey : Text.bytes? secret = some key) (hbrings : a.Brings data)
    (h : a.IsSigned key data) {handle : Json → Act Response}
    (hhandle : ∀ payload, Act.Gives Response.Accepting (handle payload)) (w : World) :
    ¬Refuses (whenSigned secret a handle) w := by
  obtain ⟨hread, hended⟩ :=
    whenSigned_of_accepts hbrings.data_eq (accepts_of_isSigned hkey h) handle w
  rintro ⟨response, w', hrun, hstatus⟩
  cases hjson : a.json with
  | ok payload =>
      rw [hread payload hjson] at hrun
      exact hhandle payload w response w' hrun hstatus
  | error ending =>
      rw [hended ending hjson] at hrun
      cases ending with
      | answered other =>
          cases hrun
          exact hbrings.json_ne response hjson hstatus
      | failed f => cases hrun

theorem accepting_ignored (event : Option String) : (ignored event).Accepting := by
  simp [Response.Accepting, ignored]

theorem gives_handlePush (a : Arrival) (payload : Json) :
    Act.Gives Response.Accepting (do
      if a.event? == some "push" then
        match ← Act.look (pushTweet payload) with
        | some tweet => announce tweet
        | none => return ignored a.event?
      else return ignored a.event?) := by
  split
  · refine .bind fun tweet => ?_
    cases tweet with
    | none => exact .pure (accepting_ignored _)
    | some tweet =>
        refine .recover ?_ fun f => .bind fun _ => .pure (by simp [Response.Accepting])
        exact .bind fun _ => .bind fun _ => .bind fun _ => .bind fun _ =>
          .pure (by simp [Response.Accepting])
  · exact .pure (accepting_ignored _)

/-- A request that is not signed is refused by both handlers, which leave the world as it is. One
that is signed is refused by none, so both accept the same bytes with the same signatures. A secret
that has no bytes comes to the same fault in both, and to nothing else. -/
theorem unsigned_refused_without_effect (hsecret : secret ≠ "") {w : World}
    (hw : Fields.get? w.environment "GITHUB_WEBHOOK_SECRET" = some secret)
    {l : Companion.Listener} (hl : l.secret = secret) (w' : World) {a : Arrival} {data : List UInt8}
    (hbrings : a.Brings data) (hplain : a.HasPlainSignature) :
    (∀ key, Text.bytes? secret = some key →
      (¬a.IsSigned key data →
        handlePush a w = (.ok refusal, w) ∧ l.receive a w' = (.ok refusal, w')) ∧
      (a.IsSigned key data → ¬Refuses (handlePush a) w ∧ ¬Refuses (l.receive a) w')) ∧
    (Text.bytes? secret = none →
      handlePush a w = (.error (.unencodable secret), w) ∧
        l.receive a w' = (.error (.unencodable secret), w')) := by
  have hread : Delivery.secret w = (.ok secret, w) := by
    have hset : Act.getEnv "GITHUB_WEBHOOK_SECRET" w = (.ok (some secret), w) := by rw [← hw]; rfl
    exact Act.bind_of_ok hset
  have hpush : handlePush a w = whenSigned secret a _ w := Act.bind_of_ok hread
  subst hl
  refine ⟨fun key hkey => ⟨fun hunsigned => ?_, fun hsigned => ?_⟩, fun hkey => ?_⟩
  · rw [hpush]
    exact ⟨whenSigned_of_not_isSigned hsecret hkey hbrings.data_eq hplain hunsigned _ w,
      whenSigned_of_not_isSigned hsecret hkey hbrings.data_eq hplain hunsigned _ w'⟩
  · have hgives : ∀ payload, Act.Gives Response.Accepting (do
        l.handle a.event? payload
        return { status := 200, json := some (.obj [("status", .str "ok")]) }) :=
      fun payload => .bind fun _ => .pure (by simp [Response.Accepting])
    refine ⟨?_, not_refuses_of_isSigned hkey hbrings hsigned hgives w'⟩
    unfold Refuses
    rw [hpush]
    exact not_refuses_of_isSigned hkey hbrings hsigned (gives_handlePush a) w
  · rw [hpush]
    exact ⟨whenSigned_of_unencodable hsecret hkey hbrings.data_eq _ w,
      whenSigned_of_unencodable hsecret hkey hbrings.data_eq _ w'⟩

/-- A world with a secret. -/
def guardedWorld : World :=
  { clock := ⟨0⟩, draws := { numbers := [0.5] }
    environment := [("GITHUB_WEBHOOK_SECRET", "sek")] }

/-- News of a push, with a signature of another kind, in bytes that are no UTF-8. -/
def forgedPush : Arrival where
  header? name :=
    if name == "X-GitHub-Event" then some "push"
    else if name == "X-Hub-Signature-256" then some "sha1=0000"
    else none
  data := .ok [0xff, 0xfe]
  json := .ok (.obj [("commits", .arr [.obj [("message", .str "news")]])])

theorem unsigned_refused_without_effect_forgedPush :
    forgedPush.Brings [0xff, 0xfe] ∧ Text.bytes? "sek" = some [115, 101, 107] ∧
      ¬forgedPush.IsSigned [115, 101, 107] [0xff, 0xfe] ∧
      handlePush forgedPush guardedWorld = (.ok refusal, guardedWorld) ∧
      Companion.Listener.receive ⟨none, "sek"⟩ forgedPush guardedWorld =
        (.ok refusal, guardedWorld) := by
  have hbrings : forgedPush.Brings [0xff, 0xfe] := ⟨rfl, fun _ h => by cases h⟩
  have hplain : forgedPush.HasPlainSignature := by
    intro given hgiven
    obtain rfl : "sha1=0000" = given := Option.some.inj hgiven
    decide
  have hkey : Text.bytes? "sek" = some [115, 101, 107] := rfl
  have hunsigned : ¬forgedPush.IsSigned [115, 101, 107] [0xff, 0xfe] := by
    intro hsigned
    have hheader : "sha1=0000" = signature [115, 101, 107] [0xff, 0xfe] := Option.some.inj hsigned
    have hchars := congrArg String.toList hheader
    simp [signature] at hchars
  obtain ⟨hrefused, -⟩ := (unsigned_refused_without_effect (by decide : "sek" ≠ "")
    (w := guardedWorld) rfl (l := ⟨none, "sek"⟩) rfl guardedWorld hbrings hplain).1 _ hkey
  exact ⟨hbrings, hkey, hunsigned, hrefused hunsigned⟩

/-- A form, with the signature of nothing. -/
def signedForm : Gateway.Request where
  method := "POST"
  address := "/webhook/github"
  headers := [("X-Hub-Signature-256",
    "sha256=de4f57014d9344962391aa87c54149023018c4c5ec09ffe57b93dda0af2bc606")]
  kind := some "application/x-www-form-urlencoded"
  body := [0x7b, 0x7d]

/-- The header of the form is not the signature of its body, and yet it is not found wrong: that the
body is no JSON is the reason why there is no effect. -/
theorem form_passes_with_signature_of_nothing :
    ¬signedForm.arrival.IsSigned [115, 101, 107] signedForm.body ∧
      (handlePush signedForm.arrival guardedWorld).1.toOption.map (·.status) = some 415 ∧
      (Companion.Listener.receive ⟨none, "sek"⟩ signedForm.arrival guardedWorld).1.toOption.map
        (·.status) = some 415 := by
  decide +kernel

end Delivery

end Persona
