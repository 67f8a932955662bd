import Persona.Json.Basic
import Persona.Text.Search

/-!
# Looking into values

A service may answer with a value of any shape. Each way to look into a value fails in a way of
its own when the value does not have the shape expected.
-/

namespace Persona

/-- How a value fails to be what is asked of it. Kinds are named as messages show them. -/
inductive Mismatch where
  | noField (key : String)
  | noAttribute (kind name : String)
  | noPart (program name : String)
  | notIndexable (kind : String)
  | listIndex (kind : String)
  | textIndex (kind : String)
  | outOfRange
  | notIterable (kind : String)
  | notOrdered (sign left right : String)
  | noOperation (sign left right : String)
  | repeatedByReal
  | noFormatCode (code kind : String)
  | noFormat (kind : String)
  | notText (position : Nat) (kind : String)
  | notJoinable
  | notAppendable (kind : String)
  | notExtendable (kind : String)
  | notSearchable (kind : String)
  | notReversible (kind : String)
  | notWhole (kind : String)
  | notSized (kind : String)
  | noItem (position : Int)
  | noAssignment (kind : String)
  | notHashable (kind : String)
  | notAPair (position length : Nat)
  | notASequence (position : Nat)
  | notComparable
  | notComparedWith (kind : String)
  | notASearchPlace (kind : String)
  | notASliceEnd
  | notACount (kind : String)
  | notAPath (kind : String)
  | notAFolder (kind : String)
  | repeatedArgument (function name : String)
  | notArguments (function kind : String)
  deriving DecidableEq, Repr

namespace Mismatch

def message : Mismatch → String
  | noField key => Text.quote key
  | noAttribute kind name => "'" ++ kind ++ "' object has no attribute '" ++ name ++ "'"
  | noPart program name => "module '" ++ program ++ "' has no attribute '" ++ name ++ "'"
  | notIndexable kind => "'" ++ kind ++ "' object is not subscriptable"
  | listIndex kind => "list indices must be integers or slices, not " ++ kind
  | textIndex kind => "string indices must be integers, not '" ++ kind ++ "'"
  | outOfRange => "list index out of range"
  | notIterable kind => "'" ++ kind ++ "' object is not iterable"
  | notOrdered sign left right =>
    "'" ++ sign ++ "' not supported between instances of '" ++ left ++ "' and '" ++ right ++ "'"
  | noOperation sign left right =>
    "unsupported operand type(s) for " ++ sign ++ ": '" ++ left ++ "' and '" ++ right ++ "'"
  | repeatedByReal => "can't multiply sequence by non-int of type 'float'"
  | noFormatCode code kind =>
    "Unknown format code '" ++ code ++ "' for object of type '" ++ kind ++ "'"
  | noFormat kind => "unsupported format string passed to " ++ kind ++ ".__format__"
  | notText position kind =>
    "sequence item " ++ Number.natText position ++ ": expected str instance, " ++ kind ++ " found"
  | notJoinable => "can only join an iterable"
  | notAppendable kind => "can only concatenate str (not \"" ++ kind ++ "\") to str"
  | notExtendable kind => "can only concatenate list (not \"" ++ kind ++ "\") to list"
  | notSearchable kind => "expected string or bytes-like object, got '" ++ kind ++ "'"
  | notReversible kind => "'" ++ kind ++ "' object is not reversible"
  | notWhole kind =>
    "int() argument must be a string, a bytes-like object or a real number, not '" ++ kind ++ "'"
  | notSized kind => "object of type '" ++ kind ++ "' has no len()"
  | noItem position => Number.intText position
  | noAssignment kind => "'" ++ kind ++ "' object does not support item assignment"
  | notHashable kind => "unhashable type: '" ++ kind ++ "'"
  | notAPair position length =>
    "dictionary update sequence element #" ++ Number.natText position ++ " has length " ++
      Number.natText length ++ "; 2 is required"
  | notASequence position =>
    "cannot convert dictionary update sequence element #" ++ Number.natText position ++
      " to a sequence"
  | notComparable => "comparing strings with non-ASCII characters is not supported"
  | notComparedWith kind =>
    "unsupported operand types(s) or combination of types: 'str' and '" ++ kind ++ "'"
  | notASearchPlace kind => "argument of type '" ++ kind ++ "' is not iterable"
  | notASliceEnd => "slice indices must be integers or None or have an __index__ method"
  | notACount kind => "'" ++ kind ++ "' object cannot be interpreted as an integer"
  | notAPath kind =>
    "stat: path should be string, bytes, os.PathLike or integer, not " ++ kind
  | notAFolder kind => "expected str, bytes or os.PathLike object, not " ++ kind
  | repeatedArgument function name =>
    function ++ "() got multiple values for argument '" ++ name ++ "'"
  | notArguments function kind =>
    function ++ "() argument after ** must be a mapping, not " ++ kind

end Mismatch

namespace Json

/-- The value of a field that must be there. -/
def field (v : Json) (key : String) : Except Mismatch Json :=
  match v with
  | obj fs => match Fields.get? fs key with
    | some x => .ok x
    | none => .error (.noField key)
  | arr _ => .error (.listIndex "str")
  | str _ => .error (.textIndex "str")
  | v => .error (.notIndexable v.kindName)

/-- The value of a field, `fallback` when the object has none. -/
def fieldOr (v : Json) (key : String) (fallback : Json) : Except Mismatch Json :=
  match v with
  | obj fs => .ok ((Fields.get? fs key).getD fallback)
  | v => .error (.noAttribute v.kindName "get")

/-- The value of a field, null when the object has none. -/
def fieldOrNull (v : Json) (key : String) : Except Mismatch Json := v.fieldOr key null

/-- The items of a list, the keys of an object, or the characters of a text. -/
def items (v : Json) : Except Mismatch (List Json) :=
  match v with
  | arr xs => .ok xs
  | obj fs => .ok (fs.map fun f => str f.1)
  | str s => .ok ((Text.singles s).map str)
  | v => .error (.notIterable v.kindName)

/-- The texts of a list from a position on; every item must be one. -/
def textsFrom (position : Nat) : List Json → Except Mismatch (List String)
  | [] => .ok []
  | str s :: rest => do return s :: (← textsFrom (position + 1) rest)
  | v :: _ => .error (.notText position v.kindName)

/-- The items, all of them texts, with `separator` between them. -/
def joined (separator : String) (v : Json) : Except Mismatch String :=
  match v.items with
  | .ok xs => do return separator.intercalate (← textsFrom 0 xs)
  | .error _ => .error .notJoinable

theorem textsFrom_eq_ok_iff (position : Nat) (xs : List Json) (texts : List String) :
    textsFrom position xs = .ok texts ↔ xs = texts.map .str := by
  induction xs generalizing position texts with
  | nil => cases texts <;> simp [textsFrom]
  | cons x xs ih =>
      cases x with
      | str t =>
          have hrest : textsFrom position (.str t :: xs) =
              (textsFrom (position + 1) xs).map (t :: ·) := by
            rw [textsFrom]
            cases textsFrom (position + 1) xs <;> rfl
          rw [hrest]
          cases texts with
          | nil => cases textsFrom (position + 1) xs <;> simp [Except.map]
          | cons t' texts =>
              have hih := ih (position + 1) texts
              cases hfrom : textsFrom (position + 1) xs with
              | error e =>
                  rw [hfrom] at hih
                  simp [Except.map, ← hih]
              | ok rest =>
                  rw [hfrom] at hih
                  simp [Except.map, ← hih]
      | _ => cases texts <;> simp [textsFrom]

/-- Texts can be joined, and nothing else. -/
theorem joined_ok_iff {v : Json} (separator : String) :
    (∃ text, v.joined separator = .ok text) ↔
      ∃ texts : List String, v.items = .ok (texts.map .str) := by
  unfold joined
  cases v.items with
  | error e => simp
  | ok xs =>
      dsimp only
      cases hfrom : textsFrom 0 xs with
      | ok texts =>
          have hxs := (textsFrom_eq_ok_iff 0 xs texts).mp hfrom
          exact ⟨fun _ => ⟨texts, congrArg _ hxs⟩, fun _ => ⟨_, rfl⟩⟩
      | error e =>
          have hnone (texts : List String) : xs ≠ texts.map .str := by
            intro hxs
            rw [(textsFrom_eq_ok_iff 0 xs texts).mpr hxs] at hfrom
            cases hfrom
          exact ⟨nofun, fun ⟨texts, hxs⟩ => absurd (Except.ok.inj hxs) (hnone texts)⟩

/-- The first item. -/
def first (v : Json) : Except Mismatch Json :=
  match v with
  | arr (x :: _) => .ok x
  | arr [] => .error .outOfRange
  | str s => match Text.singles s with
    | c :: _ => .ok (str c)
    | [] => .error .outOfRange
  | obj _ => .error (.noItem 0)
  | v => .error (.notIndexable v.kindName)

/-- The last item. -/
def last (v : Json) : Except Mismatch Json :=
  match v with
  | arr xs => match xs.getLast? with
    | some x => .ok x
    | none => .error .outOfRange
  | str s => match (Text.singles s).getLast? with
    | some c => .ok (str c)
    | none => .error .outOfRange
  | obj _ => .error (.noItem (-1))
  | v => .error (.notIndexable v.kindName)

/-- At most `n` characters of a text, or items of a list, from the start. -/
def clip (n : Nat) (v : Json) : Except Mismatch Json :=
  match v with
  | str s => .ok (str (Text.take n s))
  | arr xs => .ok (arr (xs.take n))
  | obj _ => .error (.notHashable "slice")
  | v => .error (.notIndexable v.kindName)

/-- The number of characters of a text, of items of a list or of fields of an object. -/
def size (v : Json) : Except Mismatch Nat :=
  match v with
  | str s => .ok (Text.size s)
  | arr xs => .ok xs.length
  | obj fs => .ok fs.length
  | v => .error (.notSized v.kindName)

/-- The characters of a text up to a place, with a text after them. -/
def cutAndMark (place : Int) (mark : String) (v : Json) : Except Mismatch String :=
  match v with
  | str s => .ok (Text.upTo place s ++ mark)
  | arr _ => .error (.notExtendable "str")
  | obj _ => .error (.notHashable "slice")
  | v => .error (.notIndexable v.kindName)

/-- A text lies in another one, is an item of a list or a key of an object. -/
def holds (v : Json) (text : String) : Except Mismatch Bool :=
  match v with
  | str s => .ok (Text.contains s text)
  | arr xs => .ok (xs.any fun x => match x with
    | str s => s == text
    | _ => false)
  | obj fs => .ok (fs.any fun f => f.1 == text)
  | v => .error (.notASearchPlace v.kindName)

/-- A value that must be a text, as the owner of the operation `name`. -/
def asText (v : Json) (name : String) : Except Mismatch String :=
  match v with
  | str s => .ok s
  | v => .error (.noAttribute v.kindName name)

/-- A value that can be looked up among others: no list and no object. -/
def lookable (v : Json) : Except Mismatch Json :=
  match v with
  | arr _ => .error (.notHashable v.kindName)
  | obj _ => .error (.notHashable v.kindName)
  | v => .ok v

/-- The value with a field set. -/
def setField (v : Json) (key : String) (x : Json) : Except Mismatch Json :=
  match v with
  | obj fs => .ok (obj (Fields.put fs key x))
  | arr _ => .error (.listIndex "str")
  | v => .error (.noAssignment v.kindName)

end Json

end Persona
