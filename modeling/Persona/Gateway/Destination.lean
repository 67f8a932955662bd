import Persona.Gateway.Request

/-!
# Destinations

Where a request goes: the host, which a header may name in place of the address, and the place there.
-/

namespace Persona.Gateway

structure Destination where
  /-- The scheme, if it is one by all rules. -/
  scheme : String
  /-- The host, with the port if it is not the usual one. -/
  host : String
  /-- What stands in front of the place: an address without a scheme is no more than that. -/
  root : String
  place : String
  query : String
  deriving DecidableEq, Repr

namespace Destination

/-- An address written in plain characters. -/
def plainText (s : String) : Except AddressError String := do
  return (← (← Address.read s).plain).text

/-- The port that a scheme uses if none is named, as it stands behind a host. -/
def usualPort (scheme : String) : String :=
  if ["http", "ws"].contains scheme then ":80"
  else if ["https", "wss"].contains scheme then ":443"
  else ""

/-- A host without the usual port of a scheme. -/
def withoutUsualPort (scheme host : String) : String :=
  let port := usualPort scheme
  if Text.endsWith host port then
    String.ofList (host.toList.take (host.length - port.length))
  else host

/-- The characters that a place may have besides the unreserved ones. -/
def placeChars : String := "!$&'()*+,/:;=@"

def isSlash (c : Char) : Bool := c == '/'

/-- A place with exactly one slash in front. -/
def singleSlash (place : String) : String := "/" ++ Text.trimStartWhere isSlash place

/-- A text with each of its bytes as a character of its own. -/
def bytewise (s : String) : String :=
  String.ofList (((Text.bytes? s).getD []).map fun b => Char.ofNat b.toNat)

/-- The address of the request under way. -/
def current (d : Destination) : String :=
  d.scheme ++ "://" ++ d.host ++
    Text.escape (placeChars ++ "%") (bytewise (Text.trimEndWhere isSlash d.root)) ++
    Text.escape (placeChars ++ "%") (singleSlash (bytewise d.place))

/-- The place to look for. -/
def sought (d : Destination) : String := if d.place.isEmpty then "" else singleSlash d.place

/-- The host as it is sent, with what stands behind the first colon as it is. -/
def server? (d : Destination) : Option String :=
  let host := (Text.lower d.host).toList
  let name := host.takeWhile (· != ':')
  (HostName.plain (String.ofList name)).toOption.map (· ++ String.ofList (host.drop name.length))

/-- The address of another place on the same host. -/
def elsewhere (d : Destination) (server place : String) : String :=
  ({ scheme := if d.scheme.isEmpty then "http" else d.scheme
     authority := server
     place := Text.trimWhere isSlash d.root ++ singleSlash (Text.escape placeChars place)
     query := d.query } : Address).text

/-- An address can be sent back: it has no line break, and either it is one plain word or it can be
written in plain characters. -/
def isSendable (address : String) : Bool :=
  !(address.toList.any fun c => c == '\r' || c == '\n') &&
    ((address.toList.all fun c => c.toNat < 128) && (Text.words address).length == 1 ||
      (plainText address).isOk)

end Destination

open Destination in
/-- The destination of a request. The place is part of the address and an address of its own, and
the address with the host of the header has to be one too. -/
def Request.destination (r : Request) : Except AddressError Destination := do
  let outer ← Address.readWritten r.address
  let inner ← Address.read
    (outer.place ++ (if outer.query.isEmpty then "" else "?" ++ outer.query))
  let place := Text.unescape (← plainText inner.place)
  let scheme := if outer.scheme.isEmpty then "http" else outer.scheme
  let authority := if outer.authority.isEmpty then "localhost" else outer.authority
  let base ← Address.read (← plainText (scheme ++ "://" ++ authority ++ "/"))
  r.checkHeaders
  let host := withoutUsualPort base.scheme ((r.header? "Host").getD base.authority)
  let root := Text.unescape (Text.trimEndWhere isSlash base.place)
  let d := { scheme := base.scheme, host, root, place, query := inner.query : Destination }
  discard (Address.read (← (← Address.read d.current).readable).text)
  return d

end Persona.Gateway
