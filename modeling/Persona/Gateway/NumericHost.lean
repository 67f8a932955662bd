import Persona.Text.Digit
import Persona.Text.Hexadecimal
import Persona.Text.Search

/-!
# Hosts given by numbers

A host can be given by four numbers with dots between them, or by eight with colons, of which one
stretch of zeros can be left out. The last two of the eight may be written as four.
-/

namespace Persona.Gateway

/-- One of four numbers: up to 255, without zeros in front. -/
def isOctet (s : String) : Bool :=
  match s.toList with
  | [] => false
  | c :: rest =>
    let cs := c :: rest
    cs.all Char.isDigit && cs.length ≤ 3 && (s == "0" || c != '0') &&
      Text.digitsValue (cs.map fun c => c.toNat - 48) ≤ 255

/-- Four numbers with dots between them. -/
def isFourNumbers (s : String) : Bool :=
  let octets := Text.split s "."
  octets.length == 4 && octets.all isOctet

/-- One of eight numbers: up to four hexadecimal digits. -/
def isHextet (s : String) : Bool :=
  !s.isEmpty && s.length ≤ 4 && s.toList.all fun c => (Text.hexValue? c).isSome

/-- The empty parts between the first and the last, by their places. -/
def gaps (parts : List String) : List Nat :=
  (List.range (parts.length - 1)).filter fun i => i != 0 && parts.getD i "" == ""

/-- Parts that make eight numbers, with a gap or without. An empty part at either end must belong to
the gap. -/
def areEightNumbers (parts : List String) : Bool :=
  let first := parts.headD ""
  let last := parts.getLastD ""
  match gaps parts with
  | [] => parts.length == 8 && parts.all isHextet
  | [gap] =>
    let before := if first == "" then gap - 1 else gap
    let after := parts.length - gap - 1
    let after := if last == "" then after - 1 else after
    (first != "" || before == 0) && (last != "" || after == 0) && before + after ≤ 7 &&
      (parts.take before).all isHextet && (parts.drop (parts.length - after)).all isHextet
  | _ => false

/-- Eight numbers with colons between them, perhaps with a zone behind a percent sign. -/
def isEightNumbers (s : String) : Bool :=
  let (address, zoned) := match Text.splitOnce s "%" with
    | some (address, zone) => (address, !zone.isEmpty && !zone.toList.contains '%')
    | none => (s, true)
  let parts := Text.split address ":"
  let last := parts.getLastD ""
  let mixed := last.toList.contains '.'
  let parts := if mixed then parts.dropLast ++ ["0", "0"] else parts
  zoned && 3 ≤ (Text.split address ":").length && (!mixed || isFourNumbers last) &&
    parts.length ≤ 9 && areEightNumbers parts

/-- A host of a form that is yet to come: a version and something after a dot. -/
def isFutureHost (s : String) : Bool :=
  match s.toList with
  | 'v' :: rest =>
    let version := rest.takeWhile fun c => (Text.hexValue? c).isSome
    match rest.drop version.length with
    | '.' :: _ :: _ => !version.isEmpty
    | _ => false
  | _ => false

end Persona.Gateway
