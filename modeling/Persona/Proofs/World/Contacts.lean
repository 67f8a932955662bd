import Persona.Proofs.World.Leading

/-!
# Contacts with services

The calls and requests of a run in one list, in the order in which they were made. A request takes
one answer off the script, whatever it is, so what a conversation goes on from is the clock, the
answers that are left and the contacts made so far.

Main statements: `Act.http_asked`, `World.Asked.trans`.
-/

namespace Persona

/-- What is asked of a service. -/
inductive Contact where
  | call (call : Twitter.Call)
  | request (request : Http.Request)

namespace Contact

/-- The HTTP request that a contact is. -/
def request? : Contact → Option Http.Request
  | request r => some r
  | call _ => none

theorem filterMap_request? (requests : List Http.Request) :
    (requests.map request).filterMap request? = requests := by
  rw [List.filterMap_map]
  exact List.filterMap_some

end Contact

/-- The contact that an event is. -/
def Event.contact? : Event → Option Contact
  | twitter call => some (.call call)
  | http request => some (.request request)
  | _ => none

/-- What a conversation with services goes on from. -/
structure Standing where
  clock : Moment
  http : List (Scripted Http.Reply)
  contacts : List Contact

namespace World

/-- The contacts made so far. -/
def contacts (w : World) : List Contact := w.trace.filterMap Event.contact?

def standing (w : World) : Standing := ⟨w.clock, w.http, w.contacts⟩

theorem contacts_record (w : World) (e : Event) :
    (w.record e).contacts = w.contacts ++ e.contact?.toList :=
  Event.filterMap_append (fun _ => rfl) w.trace e

theorem standing_record {e : Event} (he : e.contact? = none) (w : World) :
    (w.record e).standing = w.standing := by
  unfold standing
  rw [contacts_record, he, Option.toList_none, List.append_nil]
  rfl

theorem requests_eq_contacts (w : World) :
    w.requests = w.contacts.filterMap Contact.request? := by
  unfold requests contacts
  rw [List.filterMap_filterMap]
  congr 1
  funext e
  cases e <;> rfl

/-- What requests lead to: each is a contact and uses up an answer, if there is one. -/
def Asked (requests : List Http.Request) (w w' : World) : Prop :=
  w'.standing =
    ⟨w.clock, w.http.drop requests.length, w.contacts ++ requests.map Contact.request⟩

namespace Asked

variable {w w₁ w₂ : World} {made later : List Http.Request}

theorem clock (h : Asked made w w₁) : w₁.clock = w.clock := congrArg Standing.clock h

theorem http (h : Asked made w w₁) : w₁.http = w.http.drop made.length :=
  congrArg Standing.http h

theorem contacts (h : Asked made w w₁) :
    w₁.contacts = w.contacts ++ made.map Contact.request := congrArg Standing.contacts h

theorem requests (h : Asked made w w₁) : w₁.requests = w.requests ++ made := by
  rw [requests_eq_contacts, requests_eq_contacts, h.contacts, List.filterMap_append,
    Contact.filterMap_request?]

theorem ofSame (h : Same standing w w₁) : Asked [] w w₁ := by
  unfold Asked
  rw [List.map_nil, List.append_nil]
  exact h

theorem trans_same (h : Asked made w w₁) (hsame : Same standing w₁ w₂) :
    Asked made w w₂ := Eq.trans hsame h

theorem trans (h : Asked made w w₁) (hlater : Asked later w₁ w₂) :
    Asked (made ++ later) w w₂ := by
  unfold Asked at hlater ⊢
  rw [hlater, h.clock, h.http, h.contacts, List.drop_drop, List.length_append, List.map_append,
    List.append_assoc]

end Asked

end World

open World (Same)

namespace Act

/-- Printing is no contact. -/
theorem print_standing (text : String) : (print text).Leads (Same World.standing) :=
  fun w => World.standing_record rfl w

/-- The result of asking a service that answers from a script. -/
def answered {α : Type} : List (Scripted α) → Except Fault α
  | [] => .error (.service "no scripted response")
  | .fails text :: _ => .error (.service text)
  | .gives a :: _ => .ok a

theorem isFailure_of_answered {α : Type} {answers : List (Scripted α)} {f : Fault}
    (h : answered answers = .error f) : f.isFailure = true := by
  match answers with
  | [] | .fails text :: _ =>
      cases h
      rfl

/-- An answer is taken off the script. -/
theorem length_tail_lt_of_answered {α : Type} {answers : List (Scripted α)} {a : α}
    (h : answered answers = .ok a) : answers.tail.length < answers.length := by
  match answers with
  | .gives b :: rest => exact Nat.lt_succ_self _

theorem http_result (request : Http.Request) (w : World) :
    (http request w).1 = answered w.http := by
  rw [http_apply]
  match w.http with
  | [] | .fails text :: rest | .gives reply :: rest => rfl

theorem http_failure {request : Http.Request} {w w' : World} {f : Fault}
    (h : http request w = (.error f, w')) : f.isFailure = true := by
  have hresult := http_result request w
  rw [h] at hresult
  exact isFailure_of_answered hresult.symm

theorem http_asked (request : Http.Request) (w : World) :
    World.Asked [request] w (http request w).2 := by
  have hcontacts : (w.record (.http request)).contacts = w.contacts ++ [.request request] :=
    World.contacts_record w _
  rw [World.Asked, List.map_singleton, ← hcontacts, http_apply]
  match hhttp : w.http with
  | [] =>
      change (⟨w.clock, w.http, _⟩ : Standing) = _
      rw [hhttp]
      rfl
  | .fails text :: rest | .gives reply :: rest => rfl

/-- A call is a contact and leaves the answers to requests alone. -/
theorem twitter_standing (call : Twitter.Call) (w : World) :
    (twitter call w).2.standing = ⟨w.clock, w.http, w.contacts ++ [.call call]⟩ := by
  have hcontacts : (w.record (.twitter call)).contacts = w.contacts ++ [.call call] :=
    World.contacts_record w _
  rw [twitter_apply, ← hcontacts]
  split <;> rfl

end Act

end Persona
