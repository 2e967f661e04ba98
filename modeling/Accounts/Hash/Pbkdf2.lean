import Accounts.Hash.Hmac

/-!
Password-based key derivation with HMAC-SHA-256. The key is made of 32-byte
blocks; each is the sum, bit by bit, of as many chained tags as there are
iterations, and the last block is cut to the length asked for.
-/

namespace Accounts.Pbkdf2

def add (left right : Digest) : Digest := Vector.zipWith (· ^^^ ·) left right

/-- Adds `count` further links of the chain after `link` to `total`. -/
def addLinks (mac : Hmac) : (count : Nat) → (link total : Digest) → Digest
  | 0, _, total => total
  | count + 1, link, total =>
      let next := (mac.update link.toList).tag
      addLinks mac count next (add total next)

/-- The block of a given number. No iterations count as one. -/
def block (mac : Hmac) (salt : Bytes) (iterations number : UInt32) : Digest :=
  let first := ((mac.update salt).update (bigEndian32 number)).tag
  addLinks mac (iterations.toNat - 1) first first

/-- Writes over a buffer, every 32 bytes of it with the next block and the end with a part of one.
Block numbers start at one and are counted modulo 2^32. -/
def fillFrom (mac : Hmac) (salt : Bytes) (iterations : UInt32) (index : Nat) : Bytes → Bytes
  | [] => []
  | byte :: later =>
      let chunk := (byte :: later).take 32
      (block mac salt iterations (UInt32.ofNat index + 1)).toList.take chunk.length ++
        fillFrom mac salt iterations (index + 1) ((byte :: later).drop 32)
termination_by buffer => buffer.length

def fill (password salt : Bytes) (iterations : UInt32) (buffer : Bytes) : Bytes :=
  fillFrom (Hmac.start password) salt iterations 0 buffer

def derive (password salt : Bytes) (iterations : UInt32) (length : Nat) : Bytes :=
  fill password salt iterations (List.replicate length 0)

/-- The 32 bytes kept for a password: the first block alone. -/
def passwordHash (password salt : Bytes) (iterations : UInt32) : Digest :=
  block (Hmac.start password) salt iterations 1

end Accounts.Pbkdf2
