import Mathlib.Algebra.Group.Nat.Defs
import Accounts.Hash.Pbkdf2
import Accounts.Proofs.Hash.Keyed
import Accounts.Text.Utf8

/-!
# Stretched passwords

A derived key is the front of a row of blocks, and a block is the bit-wise sum of
a chain of tags under the password (RFC 2898). The chain is run with a keyed state
that is started once, its links are added up as they come, and the blocks are
written over a buffer until it ends; none of this shows in the bytes.
-/

namespace Accounts.Pbkdf2

/-- A number in four bytes, the most significant first. -/
def fourBytes (number : Nat) : Bytes :=
  [UInt8.ofNat (number / 0x1000000), UInt8.ofNat (number / 0x10000), UInt8.ofNat (number / 0x100),
    UInt8.ofNat number]

/-- The number that bytes stand for, the most significant first. -/
def bigEndianValue (bytes : Bytes) : Nat :=
  bytes.foldl (fun value byte => 256 * value + byte.toNat) 0

/-- The chain behind a block. Its first link is the tag of the salt and the number of the block,
and each other one is the tag of the link before. -/
def link (password salt : Bytes) (number : Nat) : Nat → Digest
  | 0 => Hmac.nestedTag password (salt ++ fourBytes number)
  | place + 1 => Hmac.nestedTag password (link password salt number place).toList

/-- The bit-wise sum of the first links of a chain. -/
def linkSum (password salt : Bytes) (number count : Nat) : Digest :=
  Vector.ofFn fun index =>
    (List.range count).foldl
      (fun total place => total ^^^ (link password salt number place)[index]) 0

/-- The first bytes of the blocks with the numbers one, two, and so on. -/
def standardKey (password salt : Bytes) (count length : Nat) : Bytes :=
  ((List.range ((length + 31) / 32)).flatMap fun index =>
    (linkSum password salt (index + 1) count).toList).take length

theorem big_endian_value_four_bytes {number : Nat} (bound : number < 2 ^ 32) :
    bigEndianValue (fourBytes number) = number := by
  simp only [bigEndianValue, fourBytes, List.foldl_cons, List.foldl_nil, UInt8.toNat_ofNat']
  omega

theorem big_endian_of_nat (index : Nat) :
    bigEndian32 (UInt32.ofNat index + 1) = fourBytes (index + 1) := by
  have word : (UInt32.ofNat index + 1).toNat = (index + 1) % 2 ^ 32 := by
    rw [UInt32.toNat_add, UInt32.toNat_ofNat']
    simp
  simp only [bigEndian32, fourBytes, List.cons.injEq, and_true, ← UInt8.toNat_inj,
    UInt32.toNat_toUInt8, UInt32.toNat_shiftRight, word, UInt8.toNat_ofNat', UInt32.reduceToNat,
    Nat.reduceMod, Nat.shiftRight_eq_div_pow]
  omega

section

variable (password salt : Bytes) (number : Nat)

theorem link_sum_one : linkSum password salt number 1 = link password salt number 0 := by
  apply Vector.ext
  intro index bound
  simp [linkSum]

theorem link_sum_succ (count : Nat) :
    linkSum password salt number (count + 1) =
      add (linkSum password salt number count) (link password salt number count) := by
  apply Vector.ext
  intro index bound
  simp [linkSum, add, List.range_succ]

theorem add_links_eq (count place : Nat) :
    addLinks (Hmac.start password) count (link password salt number place)
        (linkSum password salt number (place + 1)) =
      linkSum password salt number (place + 1 + count) := by
  -- the last link and the sum move on together, so the place is general
  induction count generalizing place with
  | zero => rfl
  | succ count ih =>
      have next : ((Hmac.start password).update (link password salt number place).toList).tag =
          link password salt number (place + 1) := Hmac.tag_update password _
      rw [addLinks, next, ← link_sum_succ, ih (place + 1)]
      congr 1
      omega

end

theorem block_eq (password salt : Bytes) (iterations : UInt32) (index : Nat) :
    block (Hmac.start password) salt iterations (UInt32.ofNat index + 1) =
      linkSum password salt (index + 1) (max iterations.toNat 1) := by
  have first : (((Hmac.start password).update salt).update
      (bigEndian32 (UInt32.ofNat index + 1))).tag = link password salt (index + 1) 0 := by
    have tag := Hmac.tag_foldl_update password [salt, fourBytes (index + 1)]
    rw [List.flatten_cons, List.flatten_singleton] at tag
    rw [big_endian_of_nat]
    exact tag
  have count : 0 + 1 + (iterations.toNat - 1) = max iterations.toNat 1 := by omega
  have sum := add_links_eq password salt (index + 1) (iterations.toNat - 1) 0
  rw [link_sum_one, count] at sum
  rw [block, first]
  exact sum

theorem fill_from_eq (password salt : Bytes) (iterations : UInt32) (index : Nat) (buffer : Bytes) :
    fillFrom (Hmac.start password) salt iterations index buffer =
      ((List.range ((buffer.length + 31) / 32)).flatMap fun later =>
        (linkSum password salt (index + later + 1) (max iterations.toNat 1)).toList).take
          buffer.length := by
  fun_induction fillFrom (Hmac.start password) salt iterations index buffer with
  | case1 index => simp
  | case2 index byte later chunk ih =>
      have size : chunk.length = min 32 (byte :: later).length := List.length_take
      have nonempty : 0 < (byte :: later).length := Nat.succ_pos _
      clear_value chunk
      generalize byte :: later = buffer at ih size nonempty ⊢
      have remaining : (buffer.drop 32).length = buffer.length - 32 := List.length_drop
      have count : (buffer.length + 31) / 32 = ((buffer.drop 32).length + 31) / 32 + 1 := by
        omega
      have width : ∀ number count, (linkSum password salt number count).toList.length = 32 := by
        intro number count
        exact Vector.length_toList
      -- the chunk cuts a block where the buffer ends, which no block but the last one sees
      have cut : ∀ number count,
          (linkSum password salt number count).toList.take chunk.length =
            (linkSum password salt number count).toList.take buffer.length := by
        intro number count
        rw [List.take_eq_take_iff, width, size]
        omega
      rw [block_eq, ih, cut, count, List.range_succ_eq_map, List.flatMap_cons, List.flatMap_map,
        List.take_append, width, ← remaining]
      simp only [Nat.succ_eq_add_one, Nat.add_assoc, Nat.add_comm 1, Nat.add_zero]

theorem fill_eq (password salt : Bytes) (iterations : UInt32) (buffer : Bytes) :
    fill password salt iterations buffer =
      standardKey password salt (max iterations.toNat 1) buffer.length := by
  rw [fill, fill_from_eq, standardKey]
  simp only [Nat.zero_add]

theorem derive_eq (password salt : Bytes) (iterations : UInt32) (length : Nat) :
    derive password salt iterations length =
      standardKey password salt (max iterations.toNat 1) length := by
  rw [derive, fill_eq, List.length_replicate]

theorem password_hash_eq (password salt : Bytes) (iterations : UInt32) :
    (passwordHash password salt iterations).toList =
      standardKey password salt (max iterations.toNat 1) 32 := by
  have first : passwordHash password salt iterations =
      linkSum password salt 1 (max iterations.toNat 1) := block_eq password salt iterations 0
  have one : List.range ((32 + 31) / 32) = [0] := rfl
  rw [first, standardKey, one, List.flatMap_singleton, List.take_of_length_le]
  exact Nat.le_of_eq Vector.length_toList

/-- Derived keys are the standard ones, with no iterations counting as one and whatever a filled
buffer held before. Within the lengths that the standard allows, every block number is written out
in its four bytes. -/
theorem derived_keys_are_standard (password salt : Bytes) (iterations : UInt32) (length : Nat) :
    let count := max iterations.toNat 1
    derive password salt iterations length = standardKey password salt count length ∧
      (passwordHash password salt iterations).toList = derive password salt iterations 32 ∧
      (∀ buffer : Bytes, fill password salt iterations buffer =
        standardKey password salt count buffer.length) ∧
      (length ≤ 32 * (2 ^ 32 - 1) → ∀ number ≤ (length + 31) / 32,
        bigEndianValue (fourBytes number) = number) := by
  intro count
  refine ⟨derive_eq password salt iterations length, ?_, fill_eq password salt iterations, ?_⟩
  · rw [derive_eq, password_hash_eq]
  · intro allowed number among
    apply big_endian_value_four_bytes
    omega

theorem forty_bytes_are_standard :
    40 ≤ 32 * (2 ^ 32 - 1) ∧
      derive (utf8 "password") (utf8 "salt") 0 40 =
        standardKey (utf8 "password") (utf8 "salt") 1 40 ∧
      bigEndianValue (fourBytes 2) = 2 := by
  have allowed : 40 ≤ 32 * (2 ^ 32 - 1) := by decide
  obtain ⟨derived, _, _, numbers⟩ :=
    derived_keys_are_standard (utf8 "password") (utf8 "salt") 0 40
  exact ⟨allowed, derived, numbers allowed 2 (by decide)⟩

end Accounts.Pbkdf2
