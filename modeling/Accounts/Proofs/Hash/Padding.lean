import Accounts.Proofs.Hash.Standard

/-!
# Padding tells messages apart

The blocks that a running hash compresses, from the first piece of a message to its
digest, are those of the padded message. They end with the length, so the blocks of a
message are never the last ones of another message. They can well be its first ones:
a message may begin with the padded form of a shorter one.
-/

namespace Accounts.Sha256

open Standard

/-- All that is compressed while pieces are absorbed and the digest is made. -/
def compressedBlocks (state : Sha256) : List Bytes → List Block
  | [] => state.lastBlocks
  | piece :: pieces => state.pieceBlocks piece ++ (state.update piece).compressedBlocks pieces

theorem digest_of_compressed_blocks (state : Sha256) (pieces : List Bytes) :
    (pieces.foldl update state).digest =
      ((state.compressedBlocks pieces).foldl Chain.compress state.chain).digest := by
  induction pieces generalizing state with
  | nil => rfl
  | cons piece pieces ih =>
      rw [List.foldl_cons, ih, update_chain, ← List.foldl_append]
      rfl

/-- The blocks of what was absorbed before and those compressed from now on are the blocks of the
padded message. -/
theorem Absorbs.compressed_blocks {state : Sha256} {message : Bytes}
    (absorbs : state.Absorbs message) (pieces : List Bytes)
    (bound : (message ++ pieces.flatten).length < 2 ^ 61) :
    (splitBlocks message).1 ++ state.compressedBlocks pieces =
      fullBlocks (padded (message ++ pieces.flatten)) := by
  induction pieces generalizing state message with
  | nil =>
      rw [List.flatten_nil, List.append_nil] at bound ⊢
      exact (absorbs.full_blocks_padded bound).symm
  | cons piece pieces ih =>
      rw [List.flatten_cons, ← List.append_assoc] at bound ⊢
      rw [← ih (absorbs.update piece) bound, absorbs.split_append, List.append_assoc]
      rfl

theorem compressed_blocks_eq {pieces : List Bytes} (bound : pieces.flatten.length < 2 ^ 61) :
    empty.compressedBlocks pieces = fullBlocks (padded pieces.flatten) := by
  have nothing : splitBlocks [] = ([], []) := split_blocks_of_lt (by decide)
  have blocks := empty_absorbs.compressed_blocks pieces bound
  rwa [nothing] at blocks

/-- The bytes of blocks, one block behind the other. -/
def blockBytes (blocks : List Block) : Bytes := blocks.flatMap Vector.toList

theorem block_bytes_split (bytes : Bytes) :
    blockBytes (splitBlocks bytes).1 ++ (splitBlocks bytes).2 = bytes := by
  fun_induction splitBlocks bytes with
  | case1 bytes full later tail split ih =>
      rw [split] at ih
      change bytes.take 64 ++ blockBytes later ++ tail = bytes
      rw [List.append_assoc, ih, List.take_append_drop]
  | case2 bytes short => rfl

theorem bytes_of_length (width number : Nat) : (bytesOf width number).length = width := by
  rw [bytesOf, List.length_map, List.length_range]

theorem bytes_of_succ (width number : Nat) :
    bytesOf (width + 1) number = bytesOf width (number / 256) ++ [UInt8.ofNat number] := by
  have last : width + 1 - 1 - width = 0 := by omega
  rw [bytesOf, List.range_succ, List.map_append, List.map_singleton, last, Nat.pow_zero,
    Nat.div_one]
  congr 1
  apply List.map_congr_left
  intro place early
  have before : width + 1 - 1 - place = (width - 1 - place) + 1 := by
    have bound := List.mem_range.mp early
    omega
  rw [before, Nat.pow_succ', Nat.div_div_eq_div_mul]

theorem bytes_of_injective {width left right : Nat} (leftBound : left < 256 ^ width)
    (rightBound : right < 256 ^ width) (same : bytesOf width left = bytesOf width right) :
    left = right := by
  induction width generalizing left right with
  | zero => omega
  | succ width ih =>
      rw [Nat.pow_succ] at leftBound rightBound
      rw [bytes_of_succ, bytes_of_succ] at same
      have front := List.append_inj_left' same rfl
      have last := List.append_inj_right' same rfl
      have quotient : left / 256 = right / 256 := by
        apply ih _ _ front
        · omega
        · omega
      have remainder : left % 256 = right % 256 := by
        have bytes := congrArg UInt8.toNat (List.head_eq_of_cons_eq last)
        rwa [UInt8.toNat_ofNat', UInt8.toNat_ofNat'] at bytes
      omega

theorem padded_length (message : Bytes) :
    (padded message).length = 64 * ((message.length + 8) / 64 + 1) := by
  simp only [padded, List.length_append, List.length_replicate, List.length_singleton,
    bytes_of_length, zero_count_eq]
  omega

theorem block_bytes_padded (message : Bytes) :
    blockBytes (fullBlocks (padded message)) = padded message := by
  have whole : (padded message).length % 64 = 0 := by
    rw [padded_length, Nat.mul_mod_right]
  have pieces := block_bytes_split (padded message)
  rwa [split_blocks_eq, whole, Nat.sub_zero, List.drop_length, List.append_nil] at pieces

/-- The padded form of a message is never the end of that of another one: the last eight bytes tell
how long the message is, and so where it begins. -/
theorem eq_of_padded_suffix {left right : Bytes} (leftBound : left.length < 2 ^ 61)
    (rightBound : right.length < 2 ^ 61) (suffix : padded left <:+ padded right) :
    left = right := by
  obtain ⟨front, joined⟩ := suffix
  have ends : front ++ (left ++ [0x80] ++ List.replicate (zeroCount left.length) 0) ++
      bytesOf 8 (8 * left.length) =
      right ++ [0x80] ++ List.replicate (zeroCount right.length) 0 ++
        bytesOf 8 (8 * right.length) := by
    rw [List.append_assoc]
    exact joined
  have widths : (bytesOf 8 (8 * left.length)).length = (bytesOf 8 (8 * right.length)).length := by
    rw [bytes_of_length, bytes_of_length]
  have lengths : left.length = right.length := by
    have bits := bytes_of_injective (by omega) (by omega) (List.append_inj_right' ends widths)
    omega
  have nothing : front = [] := by
    have sizes := congrArg List.length joined
    rw [List.length_append, padded_length, padded_length, lengths] at sizes
    apply List.eq_nil_of_length_eq_zero
    omega
  rw [nothing, List.nil_append] at joined
  simp only [padded, List.append_assoc] at joined
  exact List.append_inj_left joined lengths

theorem eq_of_compressed_suffix {left right : List Bytes}
    (leftBound : left.flatten.length < 2 ^ 61) (rightBound : right.flatten.length < 2 ^ 61)
    (suffix : empty.compressedBlocks left <:+ empty.compressedBlocks right) :
    left.flatten = right.flatten := by
  rw [compressed_blocks_eq leftBound, compressed_blocks_eq rightBound] at suffix
  obtain ⟨front, joined⟩ := suffix
  apply eq_of_padded_suffix leftBound rightBound
  refine ⟨blockBytes front, ?_⟩
  calc
    blockBytes front ++ padded left.flatten =
        blockBytes front ++ blockBytes (fullBlocks (padded left.flatten)) := by
      rw [block_bytes_padded]
    _ = blockBytes (front ++ fullBlocks (padded left.flatten)) := List.flatMap_append.symm
    _ = padded right.flatten := by rw [joined, block_bytes_padded]

/-- A message that begins with the padded form of another one begins with its blocks. -/
theorem compressed_blocks_of_padded {message : Bytes} (bound : message.length < 2 ^ 61) :
    empty.compressedBlocks [message] <+: empty.compressedBlocks [padded message] := by
  have alone : [message].flatten.length < 2 ^ 61 := by rwa [List.flatten_singleton]
  have nothing : empty.held = 0 := rfl
  have first : empty.pieceBlocks (padded message) = fullBlocks (padded message) := by
    rw [pieceBlocks, if_pos nothing, split_blocks_eq]
  rw [compressed_blocks_eq alone, List.flatten_singleton, ← first]
  exact List.prefix_append _ _

/-- The blocks that are compressed make the digest, their number depends on the length alone, and
they are those of no other message, not even the last ones of its blocks. -/
theorem compressed_blocks_tell_messages_apart {pieces : List Bytes}
    (bound : pieces.flatten.length < 2 ^ 61) :
    let blocks := empty.compressedBlocks pieces
    (pieces.foldl update empty).digest = (blocks.foldl Chain.compress initialChain).digest ∧
      blocks.length = (pieces.flatten.length + 8) / 64 + 1 ∧
      ∀ others : List Bytes, others.flatten.length < 2 ^ 61 →
        (others.flatten = pieces.flatten → empty.compressedBlocks others = blocks) ∧
        (others.flatten ≠ pieces.flatten →
          empty.compressedBlocks others ≠ blocks ∧
            ¬ empty.compressedBlocks others <:+ blocks ∧
            ¬ blocks <:+ empty.compressedBlocks others) := by
  intro blocks
  have whole : blocks = fullBlocks (padded pieces.flatten) := compressed_blocks_eq bound
  refine ⟨digest_of_compressed_blocks empty pieces, ?_, ?_⟩
  · rw [whole, fullBlocks, List.length_map, List.length_range, padded_length]
    exact Nat.mul_div_cancel_left _ (by decide)
  · intro others otherBound
    constructor
    · intro same
      rw [whole, compressed_blocks_eq otherBound, same]
    · intro different
      have neitherEnds : ¬ empty.compressedBlocks others <:+ blocks := by
        intro suffix
        exact different (eq_of_compressed_suffix otherBound bound suffix)
      refine ⟨?_, neitherEnds, ?_⟩
      · intro same
        exact neitherEnds (same ▸ List.suffix_refl _)
      · intro suffix
        exact different (eq_of_compressed_suffix bound otherBound suffix).symm

/-- The one block of three letters is the first of the two blocks of another message. -/
theorem three_letters_are_told_apart :
    let letters := utf8 "abc"
    (letters.length < 2 ^ 61 ∧ (padded letters).length < 2 ^ 61 ∧ padded letters ≠ letters) ∧
      empty.compressedBlocks [letters] <+: empty.compressedBlocks [padded letters] ∧
      (empty.compressedBlocks [letters]).length = 1 ∧
      (empty.compressedBlocks [padded letters]).length = 2 ∧
      ¬ empty.compressedBlocks [letters] <:+ empty.compressedBlocks [padded letters] := by
  intro letters
  have size : letters.length = 3 := by decide +kernel
  have paddedSize : (padded letters).length = 64 := by rw [padded_length, size]
  have short : [letters].flatten.length < 2 ^ 61 := by
    rw [List.flatten_singleton]
    omega
  have long : [padded letters].flatten.length < 2 ^ 61 := by
    rw [List.flatten_singleton]
    omega
  have different : [padded letters].flatten ≠ [letters].flatten := by
    intro same
    rw [List.flatten_singleton, List.flatten_singleton] at same
    rw [same] at paddedSize
    omega
  obtain ⟨_, one, apart⟩ := compressed_blocks_tell_messages_apart short
  obtain ⟨_, two, _⟩ := compressed_blocks_tell_messages_apart long
  have neitherEnds := (apart [padded letters] long).2 different
  simp only [List.flatten_singleton] at short long different one two
  rw [size] at one
  rw [paddedSize] at two
  exact ⟨⟨short, long, different⟩, compressed_blocks_of_padded short, one, two, neitherEnds.2.2⟩

end Accounts.Sha256
