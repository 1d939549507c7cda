/-
# Keyed hashes

HMAC over SHA-256: the key, brought to one block of 64 bytes, goes in front of the message and
of the inner hash, masked differently each time.
-/
import QueueClient.Digest.Sha256

namespace QueueClient.Hmac

/-- The key as one block: hashed first if it is longer, filled up with zeros. -/
def keyBlock (key : List UInt8) : List UInt8 :=
  let k := if key.length > 64 then Sha256.hash key else key
  k ++ List.replicate (64 - k.length) 0

/-- The authentication code of a message under a key. -/
def code (key message : List UInt8) : List UInt8 :=
  let k := keyBlock key
  Sha256.hash (k.map (· ^^^ 0x5c) ++ Sha256.hash (k.map (· ^^^ 0x36) ++ message))

end QueueClient.Hmac
