import Accounts.Hash.Sha256

/-!
HMAC with SHA-256. Both keyed hashes are started once, so a keyed state can be
used for many messages.
-/

namespace Accounts

structure Hmac where
  inner : Sha256
  outer : Sha256
  deriving DecidableEq, Repr

namespace Hmac

/-- A key longer than a block is replaced by its digest; every key is then filled up with zeros. -/
def blockKey (key : Bytes) : Bytes :=
  let short := if key.length > 64 then (sha256 key).toList else key
  short ++ List.replicate (64 - short.length) 0

def start (key : Bytes) : Hmac where
  inner := Sha256.empty.update ((blockKey key).map (· ^^^ 0x36))
  outer := Sha256.empty.update ((blockKey key).map (· ^^^ 0x5c))

def update (mac : Hmac) (message : Bytes) : Hmac := { mac with inner := mac.inner.update message }

def tag (mac : Hmac) : Digest := (mac.outer.update mac.inner.digest.toList).digest

end Hmac

def hmacSha256 (key message : Bytes) : Digest := ((Hmac.start key).update message).tag

end Accounts
