import Persona.Text.Ranges

/-!
# Blanks and lines

White space of every script, trimming, and the split of a text into lines. A line ends at a line
feed, a carriage return (or the two together), a vertical tab, a form feed, one of the three
information separators, the next-line control, or the line and paragraph separators.
-/

namespace Persona.Text

/-- The code points of white space, ascending. -/
def blankRanges : List (Nat × Nat) :=
  [(0x9, 0xd), (0x1c, 0x20), (0x85, 0x85), (0xa0, 0xa0), (0x1680, 0x1680), (0x2000, 0x200a),
   (0x2028, 0x2029), (0x202f, 0x202f), (0x205f, 0x205f), (0x3000, 0x3000)]

def isBlank (c : Char) : Bool := inRanges blankRanges c

/-- Drop the characters satisfying `p` at both ends. -/
def trimChars (p : Char → Bool) (cs : List Char) : List Char :=
  ((cs.dropWhile p).reverse.dropWhile p).reverse

/-- The text without the characters satisfying `p` at its start. -/
def trimStartWhere (p : Char → Bool) (s : String) : String :=
  String.ofList (s.toList.dropWhile p)

/-- The text without the characters satisfying `p` at its end. -/
def trimEndWhere (p : Char → Bool) (s : String) : String :=
  String.ofList (s.toList.reverse.dropWhile p).reverse

/-- The text without the characters satisfying `p` at either end. -/
def trimWhere (p : Char → Bool) (s : String) : String :=
  String.ofList (trimChars p s.toList)

/-- The text without blanks at either end. -/
def trim (s : String) : String := trimWhere isBlank s

/-- Split at blanks; `acc` is the current word, reversed. -/
def wordsFrom (acc : List Char) : List Char → List (List Char)
  | [] => if acc.isEmpty then [] else [acc.reverse]
  | c :: rest =>
    if isBlank c then (if acc.isEmpty then [] else [acc.reverse]) ++ wordsFrom [] rest
    else wordsFrom (c :: acc) rest

/-- The words of a text, between blanks. -/
def words (s : String) : List String := (wordsFrom [] s.toList).map String.ofList

/-- The code points that end a line. -/
def lineBreakRanges : List (Nat × Nat) :=
  [(0xa, 0xd), (0x1c, 0x1e), (0x85, 0x85), (0x2028, 0x2029)]

def isLineBreak (c : Char) : Bool := inRanges lineBreakRanges c

/-- Split into lines; `acc` is the current line, reversed. A break at the very end opens no
further line. -/
def linesFrom (acc : List Char) : List Char → List (List Char)
  | [] => if acc.isEmpty then [] else [acc.reverse]
  | '\r' :: '\n' :: rest => acc.reverse :: linesFrom [] rest
  | c :: rest =>
    if isLineBreak c then acc.reverse :: linesFrom [] rest
    else linesFrom (c :: acc) rest

/-- The lines of a text, without their line ends. -/
def lines (s : String) : List String :=
  (linesFrom [] s.toList).map String.ofList

/-- Lines put together, with a line feed between them. -/
def ofLines (ls : List String) : String := "\n".intercalate ls

/-- Every line end `\r\n` or `\r` becomes a plain line feed. -/
def unifyLineEnds : List Char → List Char
  | [] => []
  | '\r' :: '\n' :: rest => '\n' :: unifyLineEnds rest
  | c :: rest => (if c == '\r' then '\n' else c) :: unifyLineEnds rest

end Persona.Text
