import Persona.Delivery.Exchange
import Persona.Gateway.Address
import Persona.Gateway.FormParts
import Persona.Gateway.MediaType
import Persona.Json.Bytes
import Persona.Text.Capital

/-!
# Requests on their way

A request as it is sent to the server in front of the agent, and what the server hands over of it.
-/

namespace Persona.Gateway

structure Request where
  method : String
  /-- The address, as it was given. -/
  address : String
  headers : List (String × String)
  /-- The kind of the body, if it was given apart from the headers. -/
  kind : Option String
  body : List UInt8

namespace Request

/-! ## Headers -/

/-- A name as names of headers are compared: in capitals, and with dashes and underscores alike. -/
def headerName (name : String) : String :=
  String.ofList ((Text.upper name).toList.map fun c => if c == '-' then '_' else c)

/-- The value of a header. The values of a header that is there more than once are listed. -/
def header? (r : Request) (name : String) : Option String :=
  match r.headers.filter fun h => headerName h.1 == headerName name with
  | [] => none
  | found => some (", ".intercalate (found.map (·.2)))

/-- No header may have a line break in it. -/
def checkHeaders (r : Request) : Except AddressError Unit :=
  if (r.headers.map (·.2) ++ r.kind.toList).any fun v =>
    v.toList.any fun c => c == '\r' || c == '\n' then .error .lineBreak
  else .ok ()

/-! ## Bodies -/

/-- The kind of the body with its parameters. -/
def contentType (r : Request) : String :=
  match r.kind with
  | some kind => kind
  | none =>
    ((r.headers.find? fun h => Text.lower h.1 == "content-type").map (·.2)).getD ""

def mediaType (r : Request) : MediaType := .read r.contentType

/-- The body is sent in chunks. -/
def isChunked (r : Request) : Bool := r.header? "Transfer-Encoding" == some "chunked"

/-- The bytes that arrive: those of a body that is sent in chunks do not. -/
def arrived (r : Request) : List UInt8 := if r.isChunked then [] else r.body

/-- The body is a form that has too many parts. -/
def hasTooManyParts (r : Request) : Bool :=
  !r.isChunked && r.mediaType.partMark?.any fun mark =>
    FormParts.exceeds mark (Text.ofBytes r.body)

/-- The bytes of the body. A form is taken apart on arrival and leaves none. -/
def data (r : Request) : Except Delivery.Ending (List UInt8) :=
  if r.hasTooManyParts then .error (.answered { status := 413 })
  else .ok (if r.mediaType.isForm then [] else r.arrived)

/-- The value of a body that says it is JSON. Nesting that is too deep is a fault. -/
def json (r : Request) : Except Delivery.Ending Json :=
  if r.mediaType.isJson then
    match Json.decodeBytes r.arrived with
    | .ok v => .ok v
    | .error (.noJson (.tooDeep container)) => .error (.failed (.decoding (.tooDeep container)))
    | .error _ => .error (.answered { status := 400 })
  else .error (.answered { status := 415 })

/-- What is handed over. -/
def arrival (r : Request) : Delivery.Arrival := ⟨r.header?, r.data, r.json⟩

end Request

end Persona.Gateway
