import Mathlib.Data.Nat.Find
import Mathlib.Data.Nat.NthRoot.Defs
import Mathlib.Data.Nat.Prime.Basic
import Accounts.Proofs.Hash.Streaming
import Accounts.Proofs.Record

/-!
# The standard hash

SHA-256 as FIPS 180-4 states it: the message is padded as a whole, every block gets a
schedule of 64 words, and eight working variables go through 64 rounds. The running hash
never builds the padded message and keeps sixteen neighbouring words of the schedule at a
time. The constants of the standard are roots of primes, so they are computed here and
not written down a second time.
-/

namespace Accounts.Sha256

namespace Standard

abbrev Word := BitVec 32

def ch (x y z : Word) : Word := (x &&& y) ^^^ (~~~x &&& z)

def maj (x y z : Word) : Word := (x &&& y) ^^^ (x &&& z) ^^^ (y &&& z)

def upper0 (x : Word) : Word := x.rotateRight 2 ^^^ x.rotateRight 13 ^^^ x.rotateRight 22

def upper1 (x : Word) : Word := x.rotateRight 6 ^^^ x.rotateRight 11 ^^^ x.rotateRight 25

def lower0 (x : Word) : Word := x.rotateRight 7 ^^^ x.rotateRight 18 ^^^ x >>> 3

def lower1 (x : Word) : Word := x.rotateRight 17 ^^^ x.rotateRight 19 ^^^ x >>> 10

def primes : List Nat := (List.range 312).filter Nat.Prime

/-- The first 32 bits behind the point of a cube root. -/
def constant (t : Nat) : Word := BitVec.ofNat 32 (Nat.nthRoot 3 (primes.getD t 0 * 2 ^ 96))

/-- The first 32 bits behind the point of a square root. -/
def initialWord (index : Nat) : Word :=
  BitVec.ofNat 32 (Nat.nthRoot 2 (primes.getD index 0 * 2 ^ 64))

/-- A number in so many bytes, the most significant one first. -/
def bytesOf (width number : Nat) : Bytes :=
  (List.range width).map fun place => UInt8.ofNat (number / 256 ^ (width - 1 - place))

def schedule (block : Block) (t : Nat) : Word :=
  if early : t < 16 then
    block[4 * t].toBitVec ++ block[4 * t + 1].toBitVec ++ block[4 * t + 2].toBitVec ++
      block[4 * t + 3].toBitVec
  else
    lower1 (schedule block (t - 2)) + schedule block (t - 7) + lower0 (schedule block (t - 15)) +
      schedule block (t - 16)
termination_by t

structure Variables where
  a : Word
  b : Word
  c : Word
  d : Word
  e : Word
  f : Word
  g : Word
  h : Word
  deriving DecidableEq

def initial : Variables :=
  ⟨initialWord 0, initialWord 1, initialWord 2, initialWord 3, initialWord 4, initialWord 5,
    initialWord 6, initialWord 7⟩

def nextVariables (block : Block) (v : Variables) (t : Nat) : Variables :=
  let first := v.h + upper1 v.e + ch v.e v.f v.g + constant t + schedule block t
  let second := upper0 v.a + maj v.a v.b v.c
  ⟨first + second, v.a, v.b, v.c, v.d + first, v.e, v.f, v.g⟩

def compress (v : Variables) (block : Block) : Variables :=
  let w := (List.range 64).foldl (nextVariables block) v
  ⟨v.a + w.a, v.b + w.b, v.c + w.c, v.d + w.d, v.e + w.e, v.f + w.f, v.g + w.g, v.h + w.h⟩

theorem exists_zero_count (length : Nat) : ∃ count, (length + 1 + count + 8) % 64 = 0 :=
  ⟨(119 - length % 64) % 64, by omega⟩

/-- The least number of zeros that makes the padded message whole blocks. -/
def zeroCount (length : Nat) : Nat := Nat.find (exists_zero_count length)

def padded (message : Bytes) : Bytes :=
  message ++ [0x80] ++ List.replicate (zeroCount message.length) 0 ++ bytesOf 8 (8 * message.length)

def digest (message : Bytes) : Bytes :=
  let v := (fullBlocks (padded message)).foldl compress initial
  [v.a, v.b, v.c, v.d, v.e, v.f, v.g, v.h].flatMap fun word => bytesOf 4 word.toNat

end Standard

open Standard

theorem small_sigma0_bits (word : UInt32) : (smallSigma0 word).toBitVec = lower0 word.toBitVec := by
  simp [smallSigma0, lower0, rotateRight, BitVec.rotateRight_def]

theorem small_sigma1_bits (word : UInt32) : (smallSigma1 word).toBitVec = lower1 word.toBitVec := by
  simp [smallSigma1, lower1, rotateRight, BitVec.rotateRight_def]

theorem big_sigma0_bits (word : UInt32) : (bigSigma0 word).toBitVec = upper0 word.toBitVec := by
  simp [bigSigma0, upper0, rotateRight, BitVec.rotateRight_def]

theorem big_sigma1_bits (word : UInt32) : (bigSigma1 word).toBitVec = upper1 word.toBitVec := by
  simp [bigSigma1, upper1, rotateRight, BitVec.rotateRight_def]

theorem choose_bits (x y z : UInt32) :
    (choose x y z).toBitVec = ch x.toBitVec y.toBitVec z.toBitVec := by
  simp [choose, ch]

theorem majority_bits (x y z : UInt32) :
    (majority x y z).toBitVec = maj x.toBitVec y.toBitVec z.toBitVec := by
  simp [majority, maj]

def Chain.bits (v : Chain) : Variables :=
  ⟨v.a.toBitVec, v.b.toBitVec, v.c.toBitVec, v.d.toBitVec, v.e.toBitVec, v.f.toBitVec,
    v.g.toBitVec, v.h.toBitVec⟩

theorem primes_eq : primes =
    [2, 3, 5, 7, 11, 13, 17, 19, 23, 29, 31, 37, 41, 43, 47, 53, 59, 61, 67, 71, 73, 79, 83, 89, 97,
      101, 103, 107, 109, 113, 127, 131, 137, 139, 149, 151, 157, 163, 167, 173, 179, 181, 191, 193,
      197, 199, 211, 223, 227, 229, 233, 239, 241, 251, 257, 263, 269, 271, 277, 281, 283, 293, 307,
      311] := by
  decide +kernel

theorem initial_chain_bits : initialChain.bits = initial := by
  simp only [initial, initialWord, primes_eq]
  decide +kernel

def roundConstant (t : Nat) : UInt32 := UInt32.ofBitVec (constant t)

theorem round_constants_eq : roundConstants = (List.range 64).map roundConstant := by
  unfold roundConstant
  simp only [constant, primes_eq]
  decide +kernel

theorem word32_bits (first second third fourth : Byte) :
    (word32 first second third fourth).toBitVec =
      first.toBitVec ++ second.toBitVec ++ third.toBitVec ++ fourth.toBitVec := by
  apply BitVec.eq_of_toNat_eq
  rw [UInt32.toNat_toBitVec, word32_to_nat]
  simp only [BitVec.toNat_append, UInt8.toNat_toBitVec]
  rw [← Nat.shiftLeft_add_eq_or_of_lt second.toNat_lt,
    ← Nat.shiftLeft_add_eq_or_of_lt third.toNat_lt, ← Nat.shiftLeft_add_eq_or_of_lt fourth.toNat_lt]
  simp only [Nat.shiftLeft_eq]
  omega

section

variable (block : Block)

def scheduleWord (t : Nat) : UInt32 := UInt32.ofBitVec (schedule block t)

theorem block_word_eq (index : Fin 16) : block.word index = scheduleWord block index.val := by
  apply UInt32.toBitVec_inj.mp
  rw [Block.word, word32_bits, scheduleWord, schedule, dif_pos index.isLt]

theorem schedule_word_later (t : Nat) :
    scheduleWord block (t + 16) =
      scheduleWord block t + smallSigma0 (scheduleWord block (t + 1)) + scheduleWord block (t + 9) +
        smallSigma1 (scheduleWord block (t + 14)) := by
  apply UInt32.toBitVec_inj.mp
  simp only [UInt32.toBitVec_add, small_sigma0_bits, small_sigma1_bits, scheduleWord]
  rw [schedule, dif_neg (by omega)]
  change lower1 (schedule block (t + 14)) + schedule block (t + 9) +
    lower0 (schedule block (t + 1)) + schedule block t = _
  ac_rfl

def windowAt (t : Nat) : Window :=
  let w := scheduleWord block
  ⟨w t, w (t + 1), w (t + 2), w (t + 3), w (t + 4), w (t + 5), w (t + 6), w (t + 7), w (t + 8),
    w (t + 9), w (t + 10), w (t + 11), w (t + 12), w (t + 13), w (t + 14), w (t + 15)⟩

theorem window_of_block : Window.ofBlock block = windowAt block 0 := by
  simp only [Window.ofBlock, block_word_eq, windowAt]
  rfl

theorem window_slide (t : Nat) : (windowAt block t).slide = windowAt block (t + 1) := by
  simp only [Window.slide, windowAt, Nat.add_assoc, Nat.reduceAdd, schedule_word_later]

theorem round_bits (v : Chain) (t : Nat) :
    (v.round (roundConstant t) (scheduleWord block t)).bits = nextVariables block v.bits t := by
  simp only [Chain.round, Chain.bits, nextVariables, UInt32.toBitVec_add, big_sigma0_bits,
    big_sigma1_bits, choose_bits, majority_bits]
  rfl

theorem rounds_bits (v : Chain) (count t : Nat) :
    (Chain.rounds ((List.range' t count).map roundConstant) (windowAt block t) v).bits =
      (List.range' t count).foldl (nextVariables block) v.bits := by
  -- The window has slid as often as rounds were made, so its first word is that of the round.
  induction count generalizing t v with
  | zero => rfl
  | succ count ih =>
      rw [List.range'_succ, List.map_cons, Chain.rounds, window_slide, ih, List.foldl_cons,
        ← round_bits]
      rfl

theorem compress_bits (v : Chain) : (v.compress block).bits = compress v.bits block := by
  have rounds := rounds_bits block v 64 0
  rw [← List.range_eq_range', ← round_constants_eq, ← window_of_block] at rounds
  rw [Chain.compress, compress, ← rounds]
  rfl

end

theorem compress_all_bits (v : Chain) (blocks : List Block) :
    (blocks.foldl Chain.compress v).bits = blocks.foldl compress v.bits := by
  induction blocks generalizing v with
  | nil => rfl
  | cons block blocks ih => rw [List.foldl_cons, List.foldl_cons, ih, compress_bits]

theorem zero_count_eq (length : Nat) : zeroCount length = (119 - length % 64) % 64 := by
  rw [zeroCount, Nat.find_eq_iff]
  refine ⟨by omega, ?_⟩
  intro fewer less
  omega

theorem big_endian32_eq (word : UInt32) : bigEndian32 word = bytesOf 4 word.toNat := by
  have bound := word.toNat_lt
  have places : List.range 4 = [0, 1, 2, 3] := rfl
  simp only [bigEndian32, bytesOf, places, List.map_cons, List.map_nil, List.cons.injEq, and_true,
    ← UInt8.toNat_inj, UInt32.toNat_toUInt8, UInt32.toNat_shiftRight, UInt8.toNat_ofNat',
    UInt32.reduceToNat, Nat.reduceMod, Nat.shiftRight_eq_div_pow]
  omega

theorem big_endian64_eq (word : UInt64) : bigEndian64 word = bytesOf 8 word.toNat := by
  have bound := word.toNat_lt
  have places : List.range 8 = [0, 1, 2, 3, 4, 5, 6, 7] := rfl
  have four : List.range 4 = [0, 1, 2, 3] := rfl
  simp only [bigEndian64, big_endian32_eq, bytesOf, places, four, List.map_cons, List.map_nil,
    List.cons_append, List.nil_append, List.cons.injEq, and_true, ← UInt8.toNat_inj,
    UInt64.toNat_toUInt32, UInt64.toNat_shiftRight, UInt8.toNat_ofNat',
    UInt64.reduceToNat, Nat.reduceMod, Nat.shiftRight_eq_div_pow]
  omega

theorem overwrite_list {width start : Nat} (buffer : Vector Byte width) {piece : Bytes}
    (fits : start + piece.length ≤ width) :
    (overwrite buffer start piece fits).toList =
      buffer.toList.take start ++ piece ++ buffer.toList.drop (start + piece.length) := rfl

theorem zero_block_list : zeroBlock.toList = List.replicate 64 0 := rfl

theorem marked_list (state : Sha256) :
    state.marked.toList = state.waiting ++ 0x80 :: List.replicate (63 - state.held) 0 := by
  have size := state.waiting_length
  have bound := state.held_lt
  have free : 64 - state.held = (63 - state.held) + 1 := by omega
  rw [marked, Vector.toList_set, overwrite_list, zero_block_list, List.take_zero, List.nil_append,
    Nat.zero_add, List.drop_replicate]
  change (state.waiting ++ List.replicate (64 - state.waiting.length) 0).set _ _ = _
  rw [size, List.set_append_right _ _ (Nat.le_of_eq size), size, Nat.sub_self, free,
    List.replicate_succ, List.set_cons_zero]

theorem with_length_list (state : Sha256) (block : Block) :
    (state.withLength block).toList =
      block.toList.take 56 ++ bytesOf 8 (state.absorbed * 8).toNat := by
  have list : (state.withLength block).toList = block.toList.take 56 ++
      bigEndian64 (state.absorbed * 8) ++ block.toList.drop 64 := rfl
  have nothing : block.toList.drop 64 = [] := List.drop_of_length_le (by simp)
  rw [list, nothing, List.append_nil, big_endian64_eq]

theorem split_blocks_block (block : Block) (later : Bytes) :
    splitBlocks (block.toList ++ later) =
      (block :: (splitBlocks later).1, (splitBlocks later).2) := by
  have size : block.toList.length = 64 := Vector.length_toList
  have first : (block.toList ++ later).take 64 = block.toList := List.take_left' size
  have full : ((block.toList ++ later).take 64).length = 64 := by rw [first, size]
  have same : (⟨((block.toList ++ later).take 64).toArray, full⟩ : Block) = block := by
    apply Vector.toList_inj.mp
    exact first
  rw [split_blocks_of_le full, same, List.drop_left' size]

/-- The bytes that wait make the last blocks with the padding behind them. -/
theorem split_padding (state : Sha256) :
    splitBlocks (state.waiting ++ 0x80 :: List.replicate ((119 - state.held) % 64) 0 ++
      bytesOf 8 (state.absorbed * 8).toNat) = (state.lastBlocks, []) := by
  have size := state.waiting_length
  have bound := state.held_lt
  have nothing : splitBlocks [] = ([], []) := split_blocks_of_lt (by decide)
  rw [lastBlocks]
  -- A marker too late for the length behind it costs a block of its own.
  split
  · rename_i late
    have zeros : (119 - state.held) % 64 = (63 - state.held) + 56 := by omega
    have pieces : state.waiting ++ 0x80 :: List.replicate ((119 - state.held) % 64) 0 ++
        bytesOf 8 (state.absorbed * 8).toNat =
        state.marked.toList ++ ((state.withLength zeroBlock).toList ++ []) := by
      rw [marked_list, with_length_list, zero_block_list, List.take_replicate, zeros,
        ← List.replicate_append_replicate]
      simp
    rw [pieces, split_blocks_block, split_blocks_block, nothing]
  · rename_i early
    have zeros : (119 - state.held) % 64 = 55 - state.held := by omega
    have front : (state.waiting ++ 0x80 :: List.replicate (63 - state.held) 0).take 56 =
        state.waiting ++ 0x80 :: List.replicate (55 - state.held) (0 : Byte) := by
      have cut : 56 - state.held = (55 - state.held) + 1 := by omega
      rw [List.take_append, size, List.take_of_length_le (by omega), cut, List.take_succ_cons,
        List.take_replicate, Nat.min_eq_left (by omega)]
    have pieces : state.waiting ++ 0x80 :: List.replicate ((119 - state.held) % 64) 0 ++
        bytesOf 8 (state.absorbed * 8).toNat =
        (state.withLength state.marked).toList ++ [] := by
      rw [with_length_list, marked_list, front, zeros, List.append_nil]
    rw [pieces, split_blocks_block, nothing]

/-- The blocks that a running hash compresses in the end are those of the padded message. -/
theorem Absorbs.full_blocks_padded {state : Sha256} {message : Bytes}
    (absorbs : state.Absorbs message) (bound : message.length < 2 ^ 61) :
    fullBlocks (padded message) = (splitBlocks message).1 ++ state.lastBlocks := by
  have zeros : zeroCount message.length = (119 - state.held) % 64 := by
    rw [zero_count_eq, absorbs.held_eq]
  have bits : 8 * message.length = (state.absorbed * 8).toNat := by
    simp only [absorbs.absorbed_eq, UInt64.toNat_mul, UInt64.toNat_ofNat', UInt64.reduceToNat]
    omega
  have pieces : padded message = message ++ (0x80 :: List.replicate ((119 - state.held) % 64) 0 ++
      bytesOf 8 (state.absorbed * 8).toNat) := by
    rw [padded, zeros, bits]
    simp
  have split : fullBlocks (padded message) = (splitBlocks (padded message)).1 := by
    rw [split_blocks_eq]
  rw [split, pieces, split_blocks_append, ← absorbs.waiting_eq, ← List.append_assoc,
    split_padding]

theorem digest_bits (v : Chain) :
    v.digest.toList = [v.bits.a, v.bits.b, v.bits.c, v.bits.d, v.bits.e, v.bits.f, v.bits.g,
      v.bits.h].flatMap fun word => bytesOf 4 word.toNat := by
  change v.words.flatMap bigEndian32 = _
  simp only [Chain.words, List.flatMap_cons, List.flatMap_nil, big_endian32_eq, Chain.bits,
    UInt32.toNat_toBitVec]

/-- A digest is the one of the standard, for every message that the standard has one for. -/
theorem digests_are_standard {message : Bytes} (bound : message.length < 2 ^ 61) :
    (sha256 message).toList = Standard.digest message := by
  have absorbs : (empty.update message).Absorbs message := empty_absorbs.update message
  rw [sha256, digest, digest_bits, compress_all_bits, absorbs.chain_eq, compress_all_bits,
    initial_chain_bits, ← List.foldl_append, ← absorbs.full_blocks_padded bound]
  rfl

/-- A message of 56 bytes, whose length does not fit behind it in its block. -/
theorem spilled_digest_is_standard :
    let message := utf8 "abcdbcdecdefdefgefghfghighijhijkijkljklmklmnlmnomnopnopq"
    (message.length = 56 ∧ message.length < 2 ^ 61) ∧
      hexText (Standard.digest message) =
        "248d6a61d20638b8e5c026930c3e6039a33ce45964ff2167f6ecedd419db06c1" := by
  intro message
  have bound : message.length < 2 ^ 61 := by decide +kernel
  refine ⟨⟨by decide +kernel, bound⟩, ?_⟩
  rw [← digests_are_standard bound]
  decide +kernel

end Accounts.Sha256
