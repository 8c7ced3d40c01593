import Gatehouse.Digest.Sha1
import Gatehouse.Digest.Sha2

/-!
# Keyed hashes

`mac` turns a hash into a keyed hash: the key, brought to the size of a block, is mixed into the
front of the message twice, once inside and once outside.
-/

namespace Gatehouse.Hmac

/-- A hash with the size of the blocks that it reads. -/
structure Hash where
  blockSize : Nat
  digest : Bytes → Bytes

/-- SHA-1 and its blocks. -/
def sha1 : Hash := ⟨64, Sha1.sha1⟩

/-- SHA-256 and its blocks. -/
def sha256 : Hash := ⟨64, Sha2.sha256⟩

/-- SHA-384 and its blocks. -/
def sha384 : Hash := ⟨128, Sha2.sha384⟩

/-- SHA-512 and its blocks. -/
def sha512 : Hash := ⟨128, Sha2.sha512⟩

/-- A key of exactly one block: a longer one is hashed, a shorter one filled with zeros. -/
def blockKey (hash : Hash) (key : Bytes) : Bytes :=
  let key := if key.length > hash.blockSize then hash.digest key else key
  key ++ List.replicate (hash.blockSize - key.length) 0

/-- The keyed hash of a message. -/
def mac (hash : Hash) (key message : Bytes) : Bytes :=
  let key := blockKey hash key
  let inner := hash.digest (key.map (· ^^^ 0x36) ++ message)
  hash.digest (key.map (· ^^^ 0x5C) ++ inner)

end Gatehouse.Hmac
