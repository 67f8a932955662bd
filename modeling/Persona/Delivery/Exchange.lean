import Persona.Signature.Hmac
import Persona.World.Act

/-!
# Requests and responses

What the agent is handed of a request, what of it is signed, and what it responds. How a request
comes to be handed over is up to the server in front of the agent.
-/

namespace Persona.Delivery

structure Response where
  status : Nat
  json : Option Json := none

/-- How the server ends a request of which it cannot hand over what is asked for. -/
inductive Ending where
  | answered (response : Response)
  | failed (fault : Fault)

def Ending.act : Ending → Act Response
  | answered response => return response
  | failed f => throw f

/-- A request as the server hands it over. -/
structure Arrival where
  /-- The value of a header, by its name. -/
  header? : String → Option String
  /-- The bytes of the body, as far as the server has not used them up. -/
  data : Except Ending (List UInt8)
  /-- The body as a value. -/
  json : Except Ending Json

/-- The kind of event that a request tells of. -/
def Arrival.event? (a : Arrival) : Option String := a.header? "X-GitHub-Event"

/-! ## Signatures -/

/-- The signature of a message under a key, as it stands in a header. -/
def signature (key message : List UInt8) : String :=
  "sha256=" ++ Text.hexOfBytes (Hmac.sign key message)

/-- Whether a message comes from who knows the secret; without a secret every message does. Only
signatures in plain letters can be compared. -/
def accepts (secret : String) (message : List UInt8) (given : Json) : Except Fault Bool :=
  if secret.isEmpty then .ok true
  else match Text.bytes? secret with
    | none => .error (.unencodable secret)
    | some key => match given with
      | .str s =>
        if s.toList.all fun c => c.toNat < 128 then .ok (signature key message == s)
        else .error (.mismatch .notComparable)
      | v => .error (.mismatch (.notComparedWith v.kindName))

/-- A handler for signed requests with a JSON body. -/
def whenSigned (secret : String) (a : Arrival) (handle : Json → Act Response) : Act Response :=
  match a.data with
  | .error ending => ending.act
  | .ok data => do
    let given := (a.header? "X-Hub-Signature-256").getD ""
    if ← MonadExcept.ofExcept (accepts secret data (.str given)) then
      match a.json with
      | .error ending => ending.act
      | .ok payload => handle payload
    else return { status := 401, json := some (.obj [("error", .str "Invalid signature")]) }

/-! ## Sites -/

/-- A handler with the method and the place that it is for. -/
structure Endpoint where
  method : String
  place : String
  handle : Arrival → Act Response

/-- What the agent offers to a server. -/
structure Site where
  endpoints : List Endpoint
  /-- A folder whose files are served along. -/
  folder : Option String

end Persona.Delivery
