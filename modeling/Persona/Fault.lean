import Persona.Files.Tree
import Persona.Json.Bytes
import Persona.Json.Order
import Persona.Time.Moment

/-!
# Faults

Everything that can end an activity early, by its cause. `Fault.message` holds the wording.
-/

namespace Persona

inductive Fault where
  /-- The user asked to stop. -/
  | interrupted
  /-- The program ends with an exit code. -/
  | exit (code : Int)
  /-- There is no further line of input. -/
  | endOfInput
  /-- A service failed, in its own words. -/
  | service (text : String)
  /-- A service refuses further requests for now. -/
  | rateLimited (text : String)
  /-- A library that is needed is not installed. -/
  | notInstalled (library : String)
  | decoding (error : Json.DecodeError)
  /-- Bytes do not hold the text of a JSON value. -/
  | undecodable (error : Text.DecodeError)
  /-- A reply has no JSON body. -/
  | noBody
  | integer (error : Text.IntegerError)
  /-- A double that is not a number, or is infinite, has no whole part. -/
  | cut (error : Number.CutError)
  | negativeSleep
  | sleepTooLong
  | nulByte
  | invalidArgument
  | file (cause : Files.Cause) (path : String)
  /-- A number is to stand for an open file. -/
  | fileNumber (error : Files.NumberError)
  /-- The arguments of a program take up too much room. -/
  | argumentsTooLong (program : String)
  /-- A command ended with a code other than zero, and with this error output. -/
  | command (arguments : List String) (code : Int) (stderr : Json)
  | mismatch (error : Mismatch)
  | calculation (error : CalculationError)
  /-- A number with too many digits is to be written. -/
  | tooManyDigits
  /-- A text with half of a surrogate pair is to be turned into bytes. -/
  | unencodable (text : String)
  /-- The clock would leave the calendar. -/
  | clockRange (error : Moment.RangeError)

namespace Fault

/-- The signals with a name. -/
def signals : List (Nat × String) :=
  [(1, "HUP"), (2, "INT"), (3, "QUIT"), (4, "ILL"), (5, "TRAP"), (6, "ABRT"), (7, "BUS"),
   (8, "FPE"), (9, "KILL"), (10, "USR1"), (11, "SEGV"), (12, "USR2"), (13, "PIPE"), (14, "ALRM"),
   (15, "TERM"), (16, "STKFLT"), (17, "CHLD"), (18, "CONT"), (19, "STOP"), (20, "TSTP"),
   (21, "TTIN"), (22, "TTOU"), (23, "URG"), (24, "XCPU"), (25, "XFSZ"), (26, "VTALRM"),
   (27, "PROF"), (28, "WINCH"), (29, "IO"), (30, "PWR"), (31, "SYS"), (34, "RTMIN"),
   (64, "RTMAX")]

/-- How a command ended: a negative code is the signal that killed it. -/
def commandEnd (code : Int) : String :=
  if code < 0 then
    let n := code.natAbs
    match Fields.get? signals n with
    | some name => "died with <Signals.SIG" ++ name ++ ": " ++ Number.natText n ++ ">."
    | none => "died with unknown signal " ++ Number.natText n ++ "."
  else "returned non-zero exit status " ++ Number.intText code ++ "."

def digitsMessage (count : Nat) : String :=
  "Exceeds the limit (" ++ Number.natText Text.digitLimit ++
    " digits) for integer string conversion: value has " ++ Number.natText count ++
    " digits; use sys.set_int_max_str_digits() to increase the limit"

def depthMessage (container : Json.Container) : String :=
  "maximum recursion depth exceeded while decoding a JSON " ++
    (match container with
     | .array => "array"
     | .object => "object") ++ " from a unicode string"

/-- Why a text has no bytes: where the halves of surrogate pairs stand. -/
def unencodableMessage (halves : Option (Nat × List Nat)) : String :=
  "'utf-8' codec can't encode " ++
    (match halves with
     | some (position, [unit]) =>
       "character '\\u" ++ String.ofList (Text.hexDigits 4 unit) ++ "' in position " ++
         Number.natText position
     | some (position, units) =>
       "characters in position " ++ Number.natText position ++ "-" ++
         Number.natText (position + units.length - 1)
     | none => "characters") ++ ": surrogates not allowed"

def fileMessage (cause : Files.Cause) (path : String) : String :=
  match cause with
  | .missing => "[Errno 2] No such file or directory: " ++ Text.quote path
  | .exists => "[Errno 17] File exists: " ++ Text.quote path
  | .notFolder => "[Errno 20] Not a directory: " ++ Text.quote path
  | .isFolder => "[Errno 21] Is a directory: " ++ Text.quote path
  | .nameTooLong => "[Errno 36] File name too long: " ++ Text.quote path
  | .nulByte => "embedded null byte"
  | .unencodable => unencodableMessage (Files.unnamable? path)

def message : Fault → String
  | interrupted => ""
  | exit code => Number.intText code
  | endOfInput => "EOF when reading a line"
  | service text => text
  | rateLimited text => text
  | notInstalled library => "No module named '" ++ library ++ "'"
  | decoding (.malformed e) => e.message
  | decoding (.tooManyDigits n) => digitsMessage n
  | decoding (.tooDeep container) => depthMessage container
  | undecodable e => e.message
  | noBody => "Expecting value: line 1 column 1 (char 0)"
  | integer (.malformed s) =>
    "invalid literal for int() with base 10: " ++ Text.take 200 (Text.quote s)
  | integer (.tooLong n) => digitsMessage n
  | cut .notANumber => "cannot convert float NaN to integer"
  | cut .infinite => "cannot convert float infinity to integer"
  | negativeSleep => "sleep length must be non-negative"
  | sleepTooLong => "timestamp too large to convert to C PyTime_t"
  | nulByte => "embedded null byte"
  | invalidArgument => "[Errno 22] Invalid argument"
  | file cause path => fileMessage cause path
  | fileNumber .tooLarge => "fd is greater than maximum"
  | fileNumber .tooSmall => "fd is less than minimum"
  | argumentsTooLong program => "[Errno 7] Argument list too long: " ++ Text.quote program
  | command arguments code _ => "Command '" ++ Text.quoteList arguments ++ "' " ++ commandEnd code
  | mismatch e => e.message
  | calculation e => e.message
  | tooManyDigits =>
    "Exceeds the limit (" ++ Number.natText Text.digitLimit ++
      " digits) for integer string conversion; use sys.set_int_max_str_digits() to increase the limit"
  | unencodable text => unencodableMessage (Text.halves? text)
  | clockRange e => e.message

/-- Bytes that hold no JSON value. -/
def ofBytesError : Json.BytesError → Fault
  | .noText e => undecodable e
  | .noJson e => decoding e

/-- The whole part of a double. -/
def wholePart (x : Float) : Except Fault Int := (Number.cut x).mapError .cut

/-- An interruption or an exit passes through every attempt to carry on after a failure. -/
def isFailure : Fault → Bool
  | interrupted => false
  | exit _ => false
  | _ => true

end Fault

end Persona
