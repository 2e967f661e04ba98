import Accounts.Bytes

/-!
SHA-256. A running hash keeps the chaining words, a buffer for the bytes after the
last whole block and the number of bytes absorbed; `update` compresses every block
that becomes whole, and `digest` pads what is left with a marker byte, zeros and
the 64-bit length in bits.
-/

namespace Accounts

abbrev Digest := Vector Byte 32

namespace Digest

def hex (digest : Digest) : String := hexText digest.toList

def paddedNumeral (byte : Byte) : List Char :=
  let digits := Nat.toDigits 16 byte.toNat
  List.replicate (2 - digits.length) '0' ++ digits

def text (digest : Digest) : String := String.ofList (digest.toList.flatMap paddedNumeral)

def diagnostic (digest : Digest) : String := "Digest(" ++ digest.text ++ ")"

end Digest

namespace Sha256

structure Chain where
  a : UInt32
  b : UInt32
  c : UInt32
  d : UInt32
  e : UInt32
  f : UInt32
  g : UInt32
  h : UInt32
  deriving DecidableEq, Repr

/-- Fractional parts of the square roots of the first eight primes. -/
def initialChain : Chain :=
  ⟨0x6a09e667, 0xbb67ae85, 0x3c6ef372, 0xa54ff53a, 0x510e527f, 0x9b05688c, 0x1f83d9ab, 0x5be0cd19⟩

/-- Fractional parts of the cube roots of the first sixty-four primes, one for each round. -/
def roundConstants : List UInt32 :=
  [0x428a2f98, 0x71374491, 0xb5c0fbcf, 0xe9b5dba5, 0x3956c25b, 0x59f111f1, 0x923f82a4, 0xab1c5ed5,
    0xd807aa98, 0x12835b01, 0x243185be, 0x550c7dc3, 0x72be5d74, 0x80deb1fe, 0x9bdc06a7, 0xc19bf174,
    0xe49b69c1, 0xefbe4786, 0x0fc19dc6, 0x240ca1cc, 0x2de92c6f, 0x4a7484aa, 0x5cb0a9dc, 0x76f988da,
    0x983e5152, 0xa831c66d, 0xb00327c8, 0xbf597fc7, 0xc6e00bf3, 0xd5a79147, 0x06ca6351, 0x14292967,
    0x27b70a85, 0x2e1b2138, 0x4d2c6dfc, 0x53380d13, 0x650a7354, 0x766a0abb, 0x81c2c92e, 0x92722c85,
    0xa2bfe8a1, 0xa81a664b, 0xc24b8b70, 0xc76c51a3, 0xd192e819, 0xd6990624, 0xf40e3585, 0x106aa070,
    0x19a4c116, 0x1e376c08, 0x2748774c, 0x34b0bcb5, 0x391c0cb3, 0x4ed8aa4a, 0x5b9cca4f, 0x682e6ff3,
    0x748f82ee, 0x78a5636f, 0x84c87814, 0x8cc70208, 0x90befffa, 0xa4506ceb, 0xbef9a3f7, 0xc67178f2]

def rotateRight (word : UInt32) (count : UInt32) : UInt32 :=
  word >>> count ||| word <<< (32 - count)

def smallSigma0 (word : UInt32) : UInt32 :=
  rotateRight word 7 ^^^ rotateRight word 18 ^^^ word >>> 3

def smallSigma1 (word : UInt32) : UInt32 :=
  rotateRight word 17 ^^^ rotateRight word 19 ^^^ word >>> 10

def bigSigma0 (word : UInt32) : UInt32 :=
  rotateRight word 2 ^^^ rotateRight word 13 ^^^ rotateRight word 22

def bigSigma1 (word : UInt32) : UInt32 :=
  rotateRight word 6 ^^^ rotateRight word 11 ^^^ rotateRight word 25

def choose (selector left right : UInt32) : UInt32 := selector &&& left ^^^ ~~~selector &&& right

def majority (x y z : UInt32) : UInt32 := x &&& y ^^^ x &&& z ^^^ y &&& z

abbrev Block := Vector Byte 64

def Block.word (block : Block) (index : Fin 16) : UInt32 :=
  word32 block[4 * index.val] block[4 * index.val + 1] block[4 * index.val + 2]
    block[4 * index.val + 3]

/-- Sixteen neighbouring words of the message schedule. The first is the word of
the current round; the whole schedule is never stored. -/
structure Window where
  w0 : UInt32
  w1 : UInt32
  w2 : UInt32
  w3 : UInt32
  w4 : UInt32
  w5 : UInt32
  w6 : UInt32
  w7 : UInt32
  w8 : UInt32
  w9 : UInt32
  w10 : UInt32
  w11 : UInt32
  w12 : UInt32
  w13 : UInt32
  w14 : UInt32
  w15 : UInt32

namespace Window

def ofBlock (block : Block) : Window :=
  ⟨block.word 0, block.word 1, block.word 2, block.word 3, block.word 4, block.word 5,
    block.word 6, block.word 7, block.word 8, block.word 9, block.word 10, block.word 11,
    block.word 12, block.word 13, block.word 14, block.word 15⟩

/-- The next schedule word comes from those 16, 15, 7 and 2 places before it. -/
def slide (w : Window) : Window :=
  ⟨w.w1, w.w2, w.w3, w.w4, w.w5, w.w6, w.w7, w.w8, w.w9, w.w10, w.w11, w.w12, w.w13, w.w14, w.w15,
    w.w0 + smallSigma0 w.w1 + w.w9 + smallSigma1 w.w14⟩

end Window

namespace Chain

def round (v : Chain) (constant word : UInt32) : Chain :=
  let first := v.h + bigSigma1 v.e + choose v.e v.f v.g + constant + word
  let second := bigSigma0 v.a + majority v.a v.b v.c
  ⟨first + second, v.a, v.b, v.c, v.d + first, v.e, v.f, v.g⟩

def rounds : List UInt32 → Window → Chain → Chain
  | [], _, v => v
  | constant :: constants, window, v => rounds constants window.slide (v.round constant window.w0)

def add (v w : Chain) : Chain :=
  ⟨v.a + w.a, v.b + w.b, v.c + w.c, v.d + w.d, v.e + w.e, v.f + w.f, v.g + w.g, v.h + w.h⟩

def compress (v : Chain) (block : Block) : Chain :=
  v.add (rounds roundConstants (Window.ofBlock block) v)

def words (v : Chain) : List UInt32 := [v.a, v.b, v.c, v.d, v.e, v.f, v.g, v.h]

def digest (v : Chain) : Digest := ⟨(v.words.flatMap bigEndian32).toArray, rfl⟩

end Chain

/-- The whole blocks at the front of a byte string, and the fewer than 64 bytes behind them. -/
def splitBlocks (bytes : Bytes) : List Block × Bytes :=
  if full : (bytes.take 64).length = 64 then
    let (later, tail) := splitBlocks (bytes.drop 64)
    (⟨(bytes.take 64).toArray, full⟩ :: later, tail)
  else ([], bytes)
termination_by bytes.length
decreasing_by
  simp only [List.length_take, List.length_drop] at full ⊢
  omega

theorem split_blocks_rest_lt (bytes : Bytes) : (splitBlocks bytes).2.length < 64 := by
  fun_induction splitBlocks bytes with
  | case1 bytes full later tail split ih => simpa only [split] using ih
  | case2 bytes short =>
      change bytes.length < 64
      rw [List.length_take] at short
      omega

end Sha256

structure Sha256 where
  chain : Sha256.Chain
  /-- The bytes after the last whole block, and behind them what was written here before. -/
  buffer : Sha256.Block
  held : Nat
  /-- The number of bytes absorbed, modulo 2^64. -/
  absorbed : UInt64
  held_lt : held < 64
  deriving DecidableEq, Repr

namespace Sha256

def zeroBlock : Block := Vector.replicate 64 0

def empty : Sha256 := ⟨initialChain, zeroBlock, 0, 0, by decide⟩

/-- Compresses the whole blocks of the bytes and puts the others at the front of the buffer. -/
def feed (chain : Chain) (buffer : Block) (absorbed : UInt64) (bytes : Bytes) : Sha256 :=
  let rest := (splitBlocks bytes).2
  have short : rest.length < 64 := split_blocks_rest_lt bytes
  ⟨(splitBlocks bytes).1.foldl Chain.compress chain, overwrite buffer 0 rest (by omega),
    rest.length, absorbed, short⟩

/-- How many of the bytes go behind those that the buffer holds. -/
def room (state : Sha256) (bytes : Bytes) : Nat := min (64 - state.held) bytes.length

/-- The buffer when as many of the bytes as it has room for stand behind those that it holds. -/
def topUp (state : Sha256) (bytes : Bytes) : Block :=
  overwrite state.buffer state.held (bytes.take (state.room bytes)) (by
    have held := state.held_lt
    simp only [room, List.length_take]
    omega)

/-- A buffer that holds bytes is filled up first, and compressed once it is full. -/
def update (state : Sha256) (bytes : Bytes) : Sha256 :=
  let absorbed := state.absorbed + UInt64.ofNat bytes.length
  if state.held = 0 then feed state.chain state.buffer absorbed bytes
  else
    let buffer := state.topUp bytes
    let taken := state.room bytes
    if short : state.held + taken < 64 then
      ⟨state.chain, buffer, state.held + taken, absorbed, short⟩
    else feed (state.chain.compress buffer) buffer absorbed (bytes.drop taken)

/-- The bytes that the buffer holds, a marker bit behind them, and zeros. -/
def marked (state : Sha256) : Block :=
  let held := state.buffer.toList.take state.held
  (overwrite zeroBlock 0 held (by
    have bound := state.held_lt
    simp only [held, List.length_take]
    omega)).set state.held 0x80 state.held_lt

/-- A block that ends with the number of bits absorbed. -/
def withLength (state : Sha256) (block : Block) : Block :=
  overwrite block 56 (bigEndian64 (state.absorbed * 8)) (Nat.le_refl 64)

/-- The length gets a block of its own if the marker leaves no eight bytes for it. -/
def lastBlocks (state : Sha256) : List Block :=
  if 56 ≤ state.held then [state.marked, state.withLength zeroBlock]
  else [state.withLength state.marked]

def digest (state : Sha256) : Digest := (state.lastBlocks.foldl Chain.compress state.chain).digest

end Sha256

def sha256 (message : Bytes) : Digest := (Sha256.empty.update message).digest

end Accounts
