import Persona.Gateway.ByteRange
import Persona.Gateway.Destination
import Persona.Gateway.Freshness

/-!
# Routes

The server in front of the agent finds the route of a request: one method at one place, or at all
places below a folder. A fault in a handler becomes a response of its own, so that every request
that reaches the agent gets one. Nothing that the handlers do rests on how they are reached.
-/

namespace Persona.Gateway

open Delivery (Response Endpoint Site)

/-- The places that a route is for. -/
inductive Pattern where
  | single (place : String)
  | below (folder : String)
  deriving DecidableEq, Repr

/-- What is asked for below the folder of a pattern that a place fits; nothing for a single
place. -/
def Pattern.fit? (p : Pattern) (place : String) : Option String :=
  match p with
  | .single here => if place == here then some "" else none
  | .below folder =>
    match Text.dropPattern? (folder ++ "/").toList place.toList with
    | some (c :: rest) =>
      if c == '/' || rest.contains '\n' then none else some (String.ofList (c :: rest))
    | _ => none

structure Route where
  method : String
  pattern : Pattern
  handle : Request → String → Act Response

namespace Route

/-- The route to a handler, whose faults become responses. -/
def ofEndpoint (e : Endpoint) : Route :=
  ⟨e.method, .single e.place, fun r _ =>
    recover (e.handle r.arrival) fun _ => return { status := 500 }⟩

/-- A route takes its own method and the question what is possible; where something can be got,
also its head. -/
def takes (route : Route) (method : String) : Bool :=
  method == route.method || method == "OPTIONS" || (route.method == "GET" && method == "HEAD")

end Route

/-! ## Files -/

/-- The parts of a path with two dots taken back; none if they lead out of the folder. -/
def inside? (parts : List String) : Option (List String) :=
  (parts.filter fun p => p != "" && p != ".").foldl (fun acc p =>
    acc.bind fun done =>
      if p == ".." then (if done.isEmpty then none else some done.dropLast) else some (done ++ [p]))
    (some [])

/-- The ending of a name, from its last dot on; a name has to stand before it. -/
def ending (name : String) : String :=
  let tail := name.toList.reverse.takeWhile (· != '.')
  let before := (name.toList.take (name.length - tail.length)).dropLast
  if before.any (· != '.') then String.ofList ('.' :: tail.reverse) else ""

/-- Endings of compressed files. -/
def compressed : List String := [".gz", ".Z", ".bz2", ".xz", ".br"]

/-- A name without a scheme at its start; none if the name is itself the content. -/
def withoutScheme? (name : String) : Option String :=
  match Text.splitOnce name ":" with
  | some (scheme, rest) =>
    if scheme.isEmpty then some name
    else if Text.lower scheme == "data" then none
    else some rest
  | none => some name

/-- A file of that name holds JSON. -/
def namesJson (name : String) : Bool :=
  let name := (withoutScheme? name).getD ""
  let last := ending name
  let last := if compressed.contains last then
      ending (String.ofList (name.toList.take (name.length - last.length)))
    else last
  [".json", ".webmanifest"].contains (Text.lower last)

/-- The status under which a file is sent, and what of it is sent; there is nothing of a part that
the file does not have. -/
def select (r : Request) (lastChange : Moment) (bytes : List UInt8) :
    Except Moment.RangeError (Nat × List UInt8) := do
  if r.method != "GET" && r.method != "HEAD" then return (200, bytes)
  match (r.header? "Range").filter fun _ => !bytes.isEmpty with
  | some range =>
    if ← r.hasOtherPart lastChange then
      return match ByteRange.part? range bytes with
        | some part => (206, part)
        | none => (416, [])
  | none => pure ()
  if ← r.hasCopy lastChange then
    return if (r.filled? "If-Match").isSome then (412, bytes) else (304, [])
  else return (200, bytes)

/-- The file that is asked for below a folder. What is JSON goes along as a value, but not with the
head alone. A name that breaks the line of a header cannot be sent. -/
def serveFile (folder : String) (r : Request) (asked : String) : Act Response := do
  let tree := (← get).files
  match (inside? (Text.split asked "/")).bind fun parts =>
    (tree.text? (folder :: parts)).map fun text => (parts.getLastD "", text) with
  | none => return { status := 404 }
  | some (name, text) =>
    if name.toList.any fun c => c == '\r' || c == '\n' then return { status := 500 }
    match select r (← get).system.lastChange ((Text.bytes? text).getD []) with
    | .error _ => return { status := 500 }
    | .ok (status, bytes) =>
      if namesJson name && !bytes.isEmpty && r.method != "HEAD" then
        let v ← MonadExcept.ofExcept ((Json.decodeBytes bytes).mapError Fault.ofBytesError)
        return { status, json := some v }
      else return { status }

/-- The route to the files of a folder, if there is one. -/
def files (folder : Option String) : Route :=
  ⟨"GET", .below "/static", fun r asked =>
    match folder with
    | some folder => serveFile folder r asked
    | none => return { status := 404 }⟩

/-! ## Responding -/

/-- A place with every two slashes in a row made one. -/
def mergeSlashes : List Char → List Char
  | '/' :: '/' :: rest => '/' :: mergeSlashes rest
  | c :: rest => c :: mergeSlashes rest
  | [] => []

/-- The request asks to go on with a socket, by its scheme or by its headers. -/
def Request.wantsSocket (r : Request) (d : Destination) : Bool :=
  d.scheme == "ws" || d.scheme == "wss" ||
  let connection := Text.lower ((r.header? "Connection").getD "")
  (Text.split connection ",").any (fun part => Text.trim part == "upgrade") &&
    Text.lower ((r.header? "Upgrade").getD "") == "websocket"

/-- The response of a route: for the question what is possible an empty one, and for the head of
what can be got one without a body. -/
def Route.respond (route : Route) (r : Request) (asked : String) : Act Response := do
  if Text.upper r.method == "OPTIONS" && route.method != "OPTIONS" then return { status := 200 }
  let response ← route.handle r asked
  return if r.method == "HEAD" then { response with json := none } else response

/-- The response at a destination on a server: of the first route that fits the place and takes the
method. If only the place without doubled slashes has one, the request is sent there. -/
def respondAt (routes : List Route) (r : Request) (d : Destination) (server : String) :
    Act Response := do
  let place := d.sought
  let fitting := fun (place : String) =>
    routes.filterMap fun route => (route.pattern.fit? place).map fun asked => (route, asked)
  let method := Text.upper r.method
  let merged := String.ofList (mergeSlashes place.toList)
  match (fitting place).find? (·.1.takes method) with
  | some (route, asked) =>
    if r.wantsSocket d then return { status := 400 } else route.respond r asked
  | none =>
    if (fitting merged).any (·.1.takes method) then
      return { status := if r.wantsSocket d then 400
        else if Destination.isSendable (d.elsewhere server merged) then 308
        else 500 }
    else if (fitting place ++ fitting merged).isEmpty then return { status := 404 }
    else return { status := 405 }

def routesTo (site : Site) : List Route :=
  site.endpoints.map .ofEndpoint ++ [files site.folder]

/-- The response of a site to a request. One whose address or headers are malformed is not sent at
all. -/
def respond (site : Site) (r : Request) : Except AddressError (Act Response) := do
  let d ← r.destination
  return match d.server? with
    | some server => respondAt (routesTo site) r d server
    | none => return { status := 400 }

end Persona.Gateway
