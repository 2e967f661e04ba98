import Mathlib.Algebra.Group.Nat.Defs
import Accounts.Hash.Sha256

/-!
# Hashing a message in pieces

A running hash stands for the message that it has absorbed: its chain is that of
the whole blocks, and the bytes behind the last of them wait at the front of the
buffer. Whatever else is in the buffer was left there by earlier pieces and is
never read. So a digest depends on the message alone, however it was cut.
-/

namespace Accounts

theorem overwrite_take {width start : Nat} (buffer : Vector Byte width) {piece : Bytes}
    (fits : start + piece.length ≤ width) :
    (overwrite buffer start piece fits).toList.take (start + piece.length) =
      buffer.toList.take start ++ piece := by
  have front : (buffer.toList.take start ++ piece).length = start + piece.length := by
    simp only [List.length_append, List.length_take, Vector.length_toList]
    omega
  change (buffer.toList.take start ++ piece ++ _).take (start + piece.length) = _
  exact List.take_left' front

namespace Sha256

theorem split_blocks_of_lt {bytes : Bytes} (short : bytes.length < 64) :
    splitBlocks bytes = ([], bytes) := by
  rw [splitBlocks, dif_neg]
  rw [List.length_take]
  omega

theorem split_blocks_of_le {bytes : Bytes} (full : (bytes.take 64).length = 64) :
    splitBlocks bytes =
      (⟨(bytes.take 64).toArray, full⟩ :: (splitBlocks (bytes.drop 64)).1,
        (splitBlocks (bytes.drop 64)).2) := by
  rw [splitBlocks, dif_pos full]

theorem split_blocks_append (bytes later : Bytes) :
    splitBlocks (bytes ++ later) =
      ((splitBlocks bytes).1 ++ (splitBlocks ((splitBlocks bytes).2 ++ later)).1,
        (splitBlocks ((splitBlocks bytes).2 ++ later)).2) := by
  -- both sides lose the same first block until fewer than 64 of the earlier bytes are left
  induction size : bytes.length using Nat.strongRecOn generalizing bytes with
  | ind count ih =>
      by_cases short : bytes.length < 64
      · rw [split_blocks_of_lt short]
        rfl
      · have whole : 64 ≤ bytes.length := Nat.le_of_not_lt short
        have first : (bytes ++ later).take 64 = bytes.take 64 :=
          List.take_append_of_le_length whole
        have full : (bytes.take 64).length = 64 := List.length_take_of_le whole
        have smaller : (bytes.drop 64).length < count := by
          rw [List.length_drop]
          omega
        rw [split_blocks_of_le full, split_blocks_of_le (first ▸ full),
          List.drop_append_of_le_length whole, ih _ smaller (bytes.drop 64) rfl]
        simp only [first, List.cons_append]

/-- The block of a given number; the first has the number zero. -/
def blockAt (message : Bytes) (index : Nat) : Block :=
  Vector.ofFn fun place => message.getD (64 * index + place.val) 0

def fullBlocks (message : Bytes) : List Block :=
  (List.range (message.length / 64)).map (blockAt message)

theorem block_at_zero {bytes : Bytes} (full : (bytes.take 64).length = 64) :
    blockAt bytes 0 = ⟨(bytes.take 64).toArray, full⟩ := by
  have whole : 64 ≤ bytes.length := by
    rw [List.length_take] at full
    omega
  apply Vector.ext
  intro place bound
  simp [blockAt, List.getElem?_eq_getElem (Nat.lt_of_lt_of_le bound whole)]

theorem block_at_drop (bytes : Bytes) (index : Nat) :
    blockAt (bytes.drop 64) index = blockAt bytes (index + 1) := by
  apply Vector.ext
  intro place bound
  simp only [blockAt, Vector.getElem_ofFn, List.getD_eq_getElem?_getD, List.getElem?_drop]
  congr 2
  omega

theorem split_blocks_eq (bytes : Bytes) :
    splitBlocks bytes = (fullBlocks bytes, bytes.drop (bytes.length - bytes.length % 64)) := by
  induction size : bytes.length using Nat.strongRecOn generalizing bytes with
  | ind count ih =>
      subst size
      by_cases short : bytes.length < 64
      · rw [split_blocks_of_lt short, fullBlocks, Nat.div_eq_of_lt short, Nat.mod_eq_of_lt short,
          Nat.sub_self]
        rfl
      · have whole : 64 ≤ bytes.length := Nat.le_of_not_lt short
        have full : (bytes.take 64).length = 64 := List.length_take_of_le whole
        have remaining : (bytes.drop 64).length = bytes.length - 64 := List.length_drop
        have count : bytes.length / 64 = (bytes.drop 64).length / 64 + 1 := by omega
        have tail : (bytes.drop 64).drop
            ((bytes.drop 64).length - (bytes.drop 64).length % 64) =
            bytes.drop (bytes.length - bytes.length % 64) := by
          rw [List.drop_drop]
          congr 1
          omega
        have later : blockAt (bytes.drop 64) = blockAt bytes ∘ Nat.succ :=
          funext (block_at_drop bytes)
        rw [split_blocks_of_le full, ih _ (by omega) (bytes.drop 64) rfl, tail, fullBlocks,
          fullBlocks, count, List.range_succ_eq_map, List.map_cons, List.map_map,
          block_at_zero full, later]

/-- The bytes that wait for the rest of their block. -/
def waiting (state : Sha256) : Bytes := state.buffer.toList.take state.held

theorem waiting_length (state : Sha256) : state.waiting.length = state.held := by
  have held := state.held_lt
  simp only [waiting, List.length_take, Vector.length_toList]
  omega

theorem feed_waiting (chain : Chain) (buffer : Block) (absorbed : UInt64) (bytes : Bytes) :
    (feed chain buffer absorbed bytes).waiting = (splitBlocks bytes).2 := by
  have fits : 0 + (splitBlocks bytes).2.length ≤ 64 := by
    have short := split_blocks_rest_lt bytes
    omega
  have front := overwrite_take buffer fits
  rwa [Nat.zero_add] at front

theorem room_add_held_le (state : Sha256) (bytes : Bytes) :
    state.held + state.room bytes ≤ 64 := by
  have held := state.held_lt
  rw [room]
  omega

theorem top_up_take (state : Sha256) (bytes : Bytes) :
    (state.topUp bytes).toList.take (state.held + state.room bytes) =
      state.waiting ++ bytes.take (state.room bytes) := by
  have taken : (bytes.take (state.room bytes)).length = state.room bytes :=
    List.length_take_of_le (Nat.min_le_right _ _)
  have fits : state.held + (bytes.take (state.room bytes)).length ≤ 64 := by
    rw [taken]
    exact state.room_add_held_le bytes
  have front := overwrite_take state.buffer fits
  simp only [taken] at front
  exact front

/-- The blocks that an update compresses, in their order. -/
def pieceBlocks (state : Sha256) (bytes : Bytes) : List Block :=
  if state.held = 0 then (splitBlocks bytes).1
  else if state.held + state.room bytes < 64 then []
  else state.topUp bytes :: (splitBlocks (bytes.drop (state.room bytes))).1

theorem update_chain (state : Sha256) (bytes : Bytes) :
    (state.update bytes).chain = (state.pieceBlocks bytes).foldl Chain.compress state.chain := by
  unfold update pieceBlocks
  by_cases empty : state.held = 0
  · rw [if_pos empty, if_pos empty]
    rfl
  · rw [if_neg empty, if_neg empty]
    by_cases short : state.held + state.room bytes < 64
    · rw [dif_pos short, if_pos short]
      rfl
    · rw [dif_neg short, if_neg short]
      rfl

/-- Topping up the buffer first and cutting blocks from the rest comes to the same as cutting the
held bytes and the new ones as one string. -/
theorem split_waiting_append (state : Sha256) (bytes : Bytes) :
    splitBlocks (state.waiting ++ bytes) =
      (state.pieceBlocks bytes, (state.update bytes).waiting) := by
  have size := state.waiting_length
  unfold update pieceBlocks
  by_cases empty : state.held = 0
  · have nothing : state.waiting = [] := List.eq_nil_of_length_eq_zero (size.trans empty)
    rw [if_pos empty, if_pos empty, nothing, List.nil_append, feed_waiting]
  · rw [if_neg empty, if_neg empty]
    by_cases short : state.held + state.room bytes < 64
    · have all : bytes.take (state.room bytes) = bytes := by
        apply List.take_of_length_le
        rw [room] at short ⊢
        omega
      have few : (state.waiting ++ bytes).length < 64 := by
        rw [List.length_append, size]
        rw [room] at short
        omega
      have front := state.top_up_take bytes
      rw [all] at front
      rw [split_blocks_of_lt few, dif_pos short, if_pos short]
      exact congrArg (Prod.mk []) front.symm
    · -- the topped up buffer is the first block of the held bytes and the new ones
      have full : state.held + state.room bytes = 64 := by
        have bound := state.room_add_held_le bytes
        omega
      have first : (state.waiting ++ bytes).take 64 = (state.topUp bytes).toList := by
        have front := state.top_up_take bytes
        rw [full, List.take_of_length_le (by simp)] at front
        rw [front, ← full, ← size, List.take_length_add_append]
      have rest : (state.waiting ++ bytes).drop 64 = bytes.drop (state.room bytes) := by
        rw [← full, ← size, List.drop_length_add_append]
      have firstFull : ((state.waiting ++ bytes).take 64).length = 64 := by simp [first]
      have block : (⟨((state.waiting ++ bytes).take 64).toArray, firstFull⟩ : Block) =
          state.topUp bytes := by
        apply Vector.toList_inj.mp
        exact first
      rw [split_blocks_of_le firstFull, rest, block, dif_neg short, if_neg short, feed_waiting]

theorem update_absorbed (state : Sha256) (bytes : Bytes) :
    (state.update bytes).absorbed = state.absorbed + UInt64.ofNat bytes.length := by
  unfold update feed
  split
  · rfl
  · simp only
    split <;> rfl

/-- The state of a running hash that has absorbed this message, in whatever pieces. -/
structure Absorbs (state : Sha256) (message : Bytes) : Prop where
  chain_eq : state.chain = (splitBlocks message).1.foldl Chain.compress initialChain
  waiting_eq : state.waiting = (splitBlocks message).2
  absorbed_eq : state.absorbed = UInt64.ofNat message.length

theorem empty_absorbs : empty.Absorbs [] := by
  have nothing : splitBlocks [] = ([], []) := split_blocks_of_lt (by decide)
  constructor
  · rw [nothing]
    rfl
  · rw [nothing]
    rfl
  · rfl

/-- Cutting blocks from a longer message goes on where the shorter one stopped. -/
theorem Absorbs.split_append {state : Sha256} {message : Bytes} (absorbs : state.Absorbs message)
    (bytes : Bytes) :
    splitBlocks (message ++ bytes) =
      ((splitBlocks message).1 ++ state.pieceBlocks bytes, (state.update bytes).waiting) := by
  rw [split_blocks_append, ← absorbs.waiting_eq, split_waiting_append]

theorem Absorbs.update {state : Sha256} {message : Bytes} (absorbs : state.Absorbs message)
    (bytes : Bytes) : (state.update bytes).Absorbs (message ++ bytes) := by
  constructor
  · rw [update_chain, absorbs.chain_eq, absorbs.split_append, List.foldl_append]
  · rw [absorbs.split_append]
  · rw [update_absorbed, absorbs.absorbed_eq, List.length_append, UInt64.ofNat_add]

theorem Absorbs.foldl_update {state : Sha256} {message : Bytes} (absorbs : state.Absorbs message)
    (pieces : List Bytes) :
    (pieces.foldl Sha256.update state).Absorbs (message ++ pieces.flatten) := by
  induction pieces generalizing state message with
  | nil => simpa using absorbs
  | cons piece pieces ih =>
      have later := ih (absorbs.update piece)
      rwa [List.append_assoc] at later

theorem Absorbs.held_eq {state : Sha256} {message : Bytes} (absorbs : state.Absorbs message) :
    state.held = message.length % 64 := by
  rw [← state.waiting_length, absorbs.waiting_eq, split_blocks_eq, List.length_drop]
  exact Nat.sub_sub_self (Nat.mod_le _ _)

theorem digest_congr {left right : Sha256} (chain : left.chain = right.chain)
    (waiting : left.waiting = right.waiting) (absorbed : left.absorbed = right.absorbed) :
    left.digest = right.digest := by
  -- the buffers may differ behind the held bytes, so only their padded forms are compared
  have held : left.held = right.held := by
    rw [← left.waiting_length, waiting, right.waiting_length]
  have marked : left.marked = right.marked := by
    rw [Sha256.waiting, Sha256.waiting, ← held] at waiting
    simp only [Sha256.marked, ← held, waiting]
  have lengths : left.withLength = right.withLength := by
    funext block
    simp only [withLength, absorbed]
  simp only [digest, lastBlocks, chain, held, marked, lengths]

theorem Absorbs.digest_eq {state : Sha256} {message : Bytes} (absorbs : state.Absorbs message) :
    state.digest = sha256 message := by
  have once : (empty.update message).Absorbs message := empty_absorbs.update message
  exact digest_congr (absorbs.chain_eq.trans once.chain_eq.symm)
    (absorbs.waiting_eq.trans once.waiting_eq.symm)
    (absorbs.absorbed_eq.trans once.absorbed_eq.symm)

theorem foldl_update_absorbs (pieces : List Bytes) :
    (pieces.foldl update empty).Absorbs pieces.flatten := by
  have absorbs := empty_absorbs.foldl_update pieces
  rwa [List.nil_append] at absorbs

/-- After any pieces the hash has compressed the whole blocks of the message and holds the bytes
behind them. All that `update` and `digest` read or write next lies inside the buffer and inside
the piece, and the digest is that of the message in one piece. -/
theorem pieces_absorbed_as_one_message (pieces : List Bytes) :
    let message := pieces.flatten
    let state := pieces.foldl update empty
    state.chain = (fullBlocks message).foldl Chain.compress initialChain ∧
      state.held = message.length % 64 ∧ state.held < 64 ∧
      state.buffer.toList.take state.held =
        message.drop (message.length - message.length % 64) ∧
      state.absorbed.toNat = message.length % 2 ^ 64 ∧
      state.digest = sha256 message ∧
      (∀ others : List Bytes, others.flatten = message →
        (others.foldl update empty).digest = state.digest) ∧
      ∀ piece : Bytes, state.held + state.room piece ≤ 64 ∧
        state.room piece ≤ piece.length ∧ (state.update piece).held < 64 := by
  intro message state
  have absorbs : state.Absorbs message := foldl_update_absorbs pieces
  have tail : state.waiting = message.drop (message.length - message.length % 64) := by
    rw [absorbs.waiting_eq, split_blocks_eq]
  refine ⟨?_, absorbs.held_eq, state.held_lt, tail, ?_, absorbs.digest_eq, ?_, ?_⟩
  · rw [absorbs.chain_eq, split_blocks_eq]
  · rw [absorbs.absorbed_eq, UInt64.toNat_ofNat']
  · intro others same
    have other := (foldl_update_absorbs others).digest_eq
    rw [other, same, absorbs.digest_eq]
  · intro piece
    exact ⟨state.room_add_held_le piece, Nat.min_le_right _ _, (state.update piece).held_lt⟩

theorem pieces_around_a_block :
    let pieces : List Bytes := [List.replicate 63 1, [], [1, 1], [2]]
    let others : List Bytes := [List.replicate 65 1, [2]]
    pieces.flatten = others.flatten ∧
      (pieces.foldl update empty).digest = (others.foldl update empty).digest := by
  intro pieces others
  have same : pieces.flatten = others.flatten := by decide
  obtain ⟨_, _, _, _, _, _, digests, _⟩ := pieces_absorbed_as_one_message others
  exact ⟨same, digests pieces same⟩

end Sha256

end Accounts
