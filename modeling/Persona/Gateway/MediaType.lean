import Persona.Fields
import Persona.Text.Blank
import Persona.Text.Lowercase
import Persona.Text.Percent
import Persona.Text.Search

/-!
# Kinds of content

A header names the kind of a body, and behind semicolons its parameters. The value of a parameter
is a word or stands in quotes. A value may be escaped, with the name of its encoding before it, and
it may come in several pieces, each under the same key with a number.
-/

namespace Persona.Gateway

structure MediaType where
  name : String
  parameters : List (String × String)
  deriving DecidableEq, Repr

namespace MediaType

/-! ## Parameters as they are written -/

/-- A character of a word. -/
def isWordChar (c : Char) : Bool :=
  c.isAlphanum || "_!#$%&'*+-.^\x60|~".toList.contains c

/-- A blank between parameters. -/
def isGap (c : Char) : Bool := c == ' ' || (9 ≤ c.toNat && c.toNat ≤ 13)

/-- How many characters stand before the quote that closes a text, counted from here and from the
next character. A backslash keeps a quote or a backslash behind it from counting, unless the text
would then not be closed at all. -/
def closings : List Char → Option Nat × Option Nat
  | [] => (none, none)
  | c :: rest =>
    let (next, second) := closings rest
    let escapes := c == '\\' && (rest.head? == some '\\' || rest.head? == some '"')
    let here := if c == '"' then some 0
      else (if escapes then second.map (· + 2) else none) <|> next.map (· + 1)
    (here, next)

/-- The value at the start of a text, with what follows it. -/
def takeValue? (cs : List Char) : Option (List Char × List Char) :=
  match cs.takeWhile isWordChar, cs with
  | c :: word, cs => some (c :: word, cs.drop (word.length + 1))
  | [], '"' :: rest => (closings rest).1.map fun n => ('"' :: rest.take (n + 1), rest.drop (n + 1))
  | [], _ => none

/-- The parameter at the start of a text, with what follows it. -/
def takeParameter? (cs : List Char) : Option ((List Char × List Char) × List Char) :=
  match cs.takeWhile isWordChar, cs.dropWhile isWordChar with
  | c :: key, '=' :: rest => (takeValue? rest).map fun (value, rest) => ((c :: key, value), rest)
  | _, _ => none

/-- The parameters behind the semicolons of a text. What is not a parameter is passed over. -/
def writtenFrom : Nat → List Char → List (List Char × List Char)
  | 0, _ => []
  | fuel + 1, cs =>
    match cs.dropWhile (· != ';') with
    | [] => []
    | _ :: rest =>
      let rest := rest.dropWhile isGap
      match takeParameter? rest with
      | some (parameter, rest) => parameter :: writtenFrom fuel rest
      | none => writtenFrom fuel rest

/-! ## Values -/

/-- The encodings in which escaped values are read. -/
inductive Charset where
  | ascii
  | latin
  | utf8
  deriving DecidableEq, Repr

def charset? : String → Option Charset
  | "ascii" => some .ascii
  | "us-ascii" => some .ascii
  | "iso-8859-1" => some .latin
  | "utf-8" => some .utf8
  | _ => none

/-- A value with its escapes taken back. -/
def Charset.unescape : Charset → String → String
  | ascii => Text.unescapeWith fun bytes => String.ofList (bytes.map fun b =>
      if b < 0x80 then Char.ofNat b.toNat else Char.ofNat 0xfffd)
  | latin => Text.unescapeWith fun bytes => String.ofList (bytes.map fun b => Char.ofNat b.toNat)
  | utf8 => Text.unescape

/-- The name of an encoding in front of a value, and the value behind the language. -/
def splitCharset? (value : List Char) : Option (String × List Char) :=
  if value.all isWordChar then
    match value.dropWhile (· != '\'') with
    | _ :: rest => match rest.dropWhile (· != '\'') with
      | _ :: c :: rest => some (Text.lower (String.ofList (value.takeWhile (· != '\''))), c :: rest)
      | _ => none
    | [] => none
  else none

/-- A value without the quotes around it. -/
def unquote (value : String) : String :=
  if Text.startsWith value "\"" && Text.endsWith value "\"" then
    let inner := String.ofList (value.toList.drop 1).dropLast
    Text.replace (Text.replace (Text.replace inner "\\\\" "\\") "\\\"" "\"") "%22" "\""
  else value

/-- The key of a piece of a value: what stands before an asterisk and a number. -/
def pieceOf? (key : List Char) : Option (List Char) :=
  let digits := key.reverse.takeWhile Char.isDigit
  match digits, key.reverse.drop digits.length with
  | _ :: _, '*' :: before => some before.reverse
  | _, _ => none

/-! ## Reading -/

/-- The parameters so far, with the encoding that was named last and the one that was used last. -/
structure Progress where
  parameters : List (String × String) := []
  named : String := ""
  used : String := ""

/-- Add a parameter. An asterisk at the end of its key says that its value is escaped. -/
def Progress.add (p : Progress) (key value : List Char) : Progress :=
  let key := key.map Char.toLower
  let (p, key, value) := if key.getLast? == some '*' then
      let (named, value) := (splitCharset? value).getD (p.named, value)
      let named := if named.isEmpty then p.used else named
      let value := String.ofList value
      match charset? named with
      | some charset => ({ p with named, used := named }, key.dropLast, charset.unescape value)
      | none => ({ p with named }, key.dropLast, value)
    else (p, key, String.ofList value)
  let value := unquote value
  let (key, value) := match pieceOf? key with
    | some key =>
      let key := String.ofList key
      (key, (Fields.get? p.parameters key).getD "" ++ value)
    | none => (String.ofList key, value)
  { p with parameters := Fields.put p.parameters key value }

/-- The kind of content that a header names. Without a name there are no parameters. -/
def read (header : String) : MediaType :=
  match Text.splitOnce header ";" with
  | none => ⟨Text.lower (Text.trim header), []⟩
  | some (name, rest) =>
    let name := Text.lower (Text.trim name)
    if name.isEmpty then ⟨name, []⟩
    else
      let cs := ';' :: (Text.trim rest).toList
      let final : Progress := (writtenFrom cs.length cs).foldl (fun p (key, value) => Progress.add p key value) {}
      ⟨name, final.parameters⟩

/-- The kind is JSON, or one that is written in JSON. -/
def isJson (m : MediaType) : Bool :=
  m.name == "application/json" ||
    (Text.startsWith m.name "application/" && Text.endsWith m.name "+json")

/-- What stands between the parts of a form of several parts: a word in plain letters. -/
def partMark? (m : MediaType) : Option String :=
  if m.name == "multipart/form-data" then
    (Fields.get? m.parameters "boundary").filter fun mark =>
      !mark.isEmpty && mark.toList.all fun c => c.toNat < 128
  else none

/-- The kind is that of a form. One of several parts must name what stands between them. -/
def isForm (m : MediaType) : Bool :=
  m.name == "application/x-www-form-urlencoded" || m.name == "application/x-url-encoded" ||
    m.partMark?.isSome

end MediaType

end Persona.Gateway
