import Persona.Json.Reader
import Persona.Text.Encoding

/-!
# JSON in bytes

A JSON text that comes in bytes is in the encoding that its first bytes show.
-/

namespace Persona.Json

inductive BytesError where
  /-- The bytes do not hold a text. -/
  | noText (error : Text.DecodeError)
  /-- The text is not JSON. -/
  | noJson (error : DecodeError)
  deriving DecidableEq, Repr

/-- The value of a text that is given in bytes. -/
def decodeBytes (bytes : List UInt8) : Except BytesError Json := do
  let text ← (Text.ofJsonBytes bytes).mapError .noText
  (readWhole text.toList).mapError fun stop => .noJson (.ofStop text stop)

end Persona.Json
