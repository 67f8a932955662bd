import Persona.Gateway.HostName
import Persona.Gateway.NumericHost
import Persona.Text.Digit
import Persona.Text.Lowercase
import Persona.Text.Percent

/-!
# Addresses

An address has perhaps a scheme and an authority, then a place and a query; a fragment does not
count. The authority names a host, perhaps with a port behind it and a user with a password before
it. An address is sent in plain characters only and can be made readable again.
-/

namespace Persona.Gateway

/-- What is wrong with an address, or with the headers of a request. -/
inductive AddressError where
  /-- A bracket around the host is open. -/
  | bracket
  /-- The host in brackets is not given by numbers. -/
  | notNumeric (host : String)
  /-- The host in brackets is given by four numbers. -/
  | fourNumbers
  | futureHost
  /-- A character of the authority looks like one that ends it. -/
  | lookalike (authority : String)
  | port (text : String)
  | portRange
  | portDigits (count : Nat)
  /-- The host cannot be sent. -/
  | unwritable (error : HostError)
  /-- The host cannot be read. -/
  | unreadable (error : HostError)
  /-- A header has a line break. -/
  | lineBreak
  deriving DecidableEq, Repr

namespace AddressError

def message : AddressError → String
  | bracket => "Invalid IPv6 URL"
  | notNumeric host => Text.quote host ++ " does not appear to be an IPv4 or IPv6 address"
  | fourNumbers => "An IPv4 address cannot be in brackets"
  | futureHost => "IPvFuture address is invalid"
  | lookalike authority =>
    "netloc '" ++ authority ++ "' contains invalid characters under NFKC normalization"
  | port text => "Port could not be cast to integer value as " ++ Text.quote text
  | portRange => "Port out of range 0-65535"
  | portDigits count =>
    "Exceeds the limit (" ++ Number.natText Text.digitLimit ++
      " digits) for integer string conversion: value has " ++ Number.natText count ++
      " digits; use sys.set_int_max_str_digits() to increase the limit"
  | unwritable e => "encoding with 'idna' codec failed (UnicodeError: " ++ e.message ++ ")"
  | unreadable (.roundTrip label back) => (HostError.roundTrip label back).message
  | unreadable e => "decoding with 'idna' codec failed (UnicodeError: " ++ e.message ++ ")"
  | lineBreak => "Header values must not contain newline characters."

end AddressError

structure Address where
  scheme : String := ""
  authority : String := ""
  place : String
  query : String := ""
  deriving DecidableEq, Repr

namespace Address

/-! ## Reading -/

def isSchemeChar (c : Char) : Bool := c.isAlphanum || c == '+' || c == '-' || c == '.'

/-- The scheme in front of a colon, with the rest. It starts with a letter. -/
def splitScheme (cs : List Char) : List Char × List Char :=
  let scheme := cs.takeWhile isSchemeChar
  match scheme, cs.drop scheme.length with
  | c :: _, ':' :: rest => if c.isAlpha then (scheme.map Char.toLower, rest) else ([], cs)
  | _, _ => ([], cs)

/-- The authority behind two slashes, with the rest. -/
def splitAuthority (cs : List Char) : List Char × List Char :=
  match cs with
  | '/' :: '/' :: rest =>
    let authority := rest.takeWhile fun c => !(c == '/' || c == '?' || c == '#')
    (authority, rest.drop authority.length)
  | cs => ([], cs)

/-- The characters before and after the first mark, if there is one. -/
def cut (mark : Char) (cs : List Char) : List Char × List Char :=
  (cs.takeWhile (· != mark), (cs.dropWhile (· != mark)).drop 1)

/-- An authority with one bracket has the other one too. -/
def checkPaired (authority : List Char) : Except AddressError Unit :=
  if authority.contains '[' != authority.contains ']' then .error .bracket else .ok ()

/-- Brackets come in pairs, with a host given by numbers between the first ones. -/
def checkBrackets (authority : List Char) : Except AddressError Unit := do
  checkPaired authority
  if authority.contains '[' then
    let host := String.ofList (cut ']' (cut '[' authority).2).1
    if host.toList.head? == some 'v' then
      if isFutureHost host then .ok () else .error .futureHost
    else if isFourNumbers host then .error .fourNumbers
    else if isEightNumbers host then .ok ()
    else .error (.notNumeric host)
  else .ok ()

/-- Characters that in normal form hold one that ends an authority or a part of it. -/
def lookalikes : List Nat :=
  [0x2047, 0x2048, 0x2049, 0x2100, 0x2101, 0x2105, 0x2106, 0x2a74, 0xfe13, 0xfe16, 0xfe55, 0xfe56,
   0xfe5f, 0xfe6b, 0xff03, 0xff0f, 0xff1a, 0xff1f, 0xff20]

def checkLookalikes (authority : List Char) : Except AddressError Unit :=
  if authority.any fun c => lookalikes.contains c.toNat then
    .error (.lookalike (String.ofList authority))
  else .ok ()

/-- The parts of what is left of an address behind its authority. -/
def ofParts (scheme authority rest : List Char) : Address :=
  let (place, query) := cut '?' (cut '#' rest).1
  { scheme := String.ofList scheme
    authority := String.ofList authority
    place := String.ofList place
    query := String.ofList query }

/-- The parts of an address. Blanks and controls in front of it do not count, and line ends and
tabs nowhere. -/
def read (s : String) : Except AddressError Address := do
  let cs := (s.toList.dropWhile fun c => c.toNat ≤ 32).filter fun c =>
    !(c == '\t' || c == '\r' || c == '\n')
  let (scheme, rest) := splitScheme cs
  let (authority, rest) := splitAuthority rest
  checkBrackets authority
  checkLookalikes authority
  return ofParts scheme authority rest

/-- The scheme of an address as it is written, with the rest: any characters of schemes, commas
among them, and perhaps a line end. Digits alone behind the colon are a port and not an address. -/
def splitWrittenScheme (cs : List Char) : List Char × List Char :=
  let (scheme, rest) := cut ':' cs
  let body := if scheme.getLast? == some '\n' then scheme.dropLast else scheme
  let isScheme := cs.contains ':' && !body.isEmpty && body.all fun c => isSchemeChar c || c == ','
  if isScheme && (rest.isEmpty || rest.any fun c => !c.isDigit) then
    (scheme.map Char.toLower, rest)
  else ([], cs)

/-- The parts of an address just as it is written, for which brackets in pairs are enough. -/
def readWritten (s : String) : Except AddressError Address := do
  let (scheme, rest) := splitWrittenScheme s.toList
  let (authority, rest) := splitAuthority rest
  checkPaired authority
  return ofParts scheme authority rest

/-! ## Writing -/

/-- The schemes whose addresses have an authority, be it empty. -/
def hostSchemes : List String :=
  ["ftp", "http", "gopher", "nntp", "telnet", "imap", "wais", "file", "mms", "https", "shttp",
   "snews", "prospero", "rtsp", "rtspu", "rsync", "svn", "svn+ssh", "sftp", "nfs", "git", "git+ssh",
   "ws", "wss"]

def text (a : Address) : String :=
  let hasHost := a.authority != "" ||
    (hostSchemes.contains a.scheme && !Text.startsWith a.place "//")
  let slash := if a.place != "" && !Text.startsWith a.place "/" then "/" else ""
  (if a.scheme.isEmpty then "" else a.scheme ++ ":") ++
    (if hasHost then "//" ++ a.authority ++ slash else "") ++ a.place ++
    (if a.query.isEmpty then "" else "?" ++ a.query)

/-! ## The authority -/

/-- What stands before the last at sign, if there is one, and what stands after it. -/
def splitUser (a : Address) : Option (List Char) × List Char :=
  let cs := a.authority.toList
  if cs.contains '@' then
    let host := (cs.reverse.takeWhile (· != '@')).reverse
    (some (cs.take (cs.length - host.length)).dropLast, host)
  else (none, cs)

/-- The host and what is written for its port. -/
def splitPort (a : Address) : String × String :=
  let cs := a.splitUser.2
  let (name, port) := if cs.contains '[' then
      let (name, rest) := cut ']' (cut '[' cs).2
      (name, (cut ':' rest).2)
    else cut ':' cs
  (String.ofList name, String.ofList port)

/-- The host in small letters; a zone behind a percent sign stays as it is. -/
def host (a : Address) : String :=
  let name := a.splitPort.1.toList
  let main := name.takeWhile (· != '%')
  Text.lower (String.ofList main) ++ String.ofList (name.drop main.length)

/-- The port, if there is one. -/
def port (a : Address) : Except AddressError (Option Nat) :=
  let text := a.splitPort.2
  if text.isEmpty then .ok none
  else if text.toList.all Char.isDigit then
    let n := Text.digitsValue (text.toList.map fun c => c.toNat - 48)
    if Text.digitLimit < text.length then .error (.portDigits text.length)
    else if n ≤ 65535 then .ok (some n)
    else .error .portRange
  else .error (.port text)

/-- The authority with host and user written in a given way. -/
def authorityWith (a : Address) (writeHost : String → Except AddressError String)
    (writeUser : String → String) : Except AddressError String := do
  let host ← writeHost a.host
  let host := if host.toList.contains ':' then "[" ++ host ++ "]" else host
  let host := match ← a.port with
    | some n => if n == 0 then host else host ++ ":" ++ Number.natText n
    | none => host
  match a.splitUser.1 with
  | none => return host
  | some user =>
    let (name, password) := cut ':' user
    if name.isEmpty then return host
    let name := writeUser (String.ofList name)
    let password := if password.isEmpty then "" else ":" ++ writeUser (String.ofList password)
    return name ++ password ++ "@" ++ host

/-- The address in plain characters, as it is sent. -/
def plain (a : Address) : Except AddressError Address := do
  let authority ← a.authorityWith (fun host => (HostName.plain host).mapError .unwritable)
    (Text.escape "%!$&'()*+,;=")
  return { a with
    authority
    place := Text.escape "%!$&'()*+,/:;=@" a.place
    query := Text.escape "%!$&'()*+,/:;=?@" a.query }

/-- The address as it is read, with escapes taken back that do not matter. -/
def readable (a : Address) : Except AddressError Address := do
  let authority ← a.authorityWith (fun host => (HostName.readable host).mapError .unreadable)
    (Text.unescapeSafely ":@/?#")
  return { a with
    authority
    place := Text.unescapeSafely "/?#" a.place
    query := Text.unescapeSafely "&=+#" a.query }

end Address

end Persona.Gateway
