import Accounts.Failure
import Accounts.Bytes

/-!
Sources of random bytes. What a source gives may depend on the sizes asked for
before, which it remembers; a request can fail, and a source can give any failure
as the reason.
-/

namespace Accounts

structure Entropy where
  /-- The answer to a request, given the earlier requests and its size. -/
  answer : List Nat → (size : Nat) → Except Failure (Vector Byte size)
  /-- The sizes asked for so far, failed requests included, the first one first. -/
  asked : List Nat

namespace Entropy

def draw (source : Entropy) (size : Nat) : Except Failure (Vector Byte size) × Entropy :=
  (source.answer source.asked size, { source with asked := source.asked ++ [size] })

/-- A source that hands out an endless sequence of bytes, piece by piece. -/
def ofSequence (byteAt : Nat → Byte) : Entropy where
  answer asked _ :=
    let start := asked.foldl (· + ·) 0
    .ok (Vector.ofFn fun index => byteAt (start + index.val))
  asked := []

/-- A source with one answer for every request: bytes that are repeated as often as needed, or the
reason for a failure. Behind the last answer every request fails. -/
def ofScript (answers : List (Except String Bytes)) : Entropy where
  answer asked _ :=
    match answers[asked.length]? with
    | none => .error (.entropy "script ended")
    | some (.error reason) => .error (.entropy reason)
    | some (.ok bytes) => .ok (Vector.ofFn fun index => bytes.getD (index.val % bytes.length) 0)
  asked := []

end Entropy

end Accounts
