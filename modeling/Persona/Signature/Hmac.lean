import Persona.Signature.Sha256
import Persona.Text.Encoding
import Persona.Text.Quoted

/-!
# Signed messages

The code that shows that a message comes from someone who knows a secret: two digests, each with
the key mixed in.
-/

namespace Persona

/-- Bytes as hexadecimal digits, two for each. -/
def Text.hexOfBytes (bytes : List UInt8) : String :=
  String.ofList (bytes.flatMap fun b => Text.hexDigits 2 b.toNat)

namespace Hmac

/-- The key as one block: a long one is replaced by its digest, a short one filled with zeros. -/
def blockKey (key : List UInt8) : List UInt8 :=
  let key := if Sha256.blockSize < key.length then Sha256.digest key else key
  key ++ List.replicate (Sha256.blockSize - key.length) 0

/-- The code of a message under a key. -/
def sign (key message : List UInt8) : List UInt8 :=
  let block := blockKey key
  let inner := Sha256.digest (block.map (· ^^^ 0x36) ++ message)
  Sha256.digest (block.map (· ^^^ 0x5c) ++ inner)

end Hmac

end Persona
