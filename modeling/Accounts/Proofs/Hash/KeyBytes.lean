import Accounts.Proofs.Hash.Stretching

/-!
# The bytes of a derived key

Derived keys of all lengths are fronts of one endless row of bytes. The byte at a place
is the one at its place within its block, and a block is known by its number modulo
2^32, so the row repeats itself after 2^32 blocks. What a filled buffer held before, and
how much of the last block finds room in it, is not seen in any byte.
-/

namespace Accounts.Pbkdf2

/-- Blocks in a row, byte by byte. -/
theorem blocks_eq_map (block : Nat → Digest) (count : Nat) :
    ((List.range count).flatMap fun index => (block index).toList) =
      (List.range (32 * count)).map fun place => (block (place / 32))[place % 32] := by
  induction count with
  | zero => rfl
  | succ count ih =>
      have last : (block count).toList = (List.range 32).map
          ((fun place => (block (place / 32))[place % 32]) ∘ (32 * count + ·)) := by
        apply List.ext_getElem
        · rw [Vector.length_toList, List.length_map, List.length_range]
        · intro place leftBound rightBound
          have early : place < 32 := by rwa [Vector.length_toList] at leftBound
          have number : (32 * count + place) / 32 = count := by omega
          have within : (32 * count + place) % 32 = place := by omega
          rw [Vector.getElem_toList, List.getElem_map, List.getElem_range, Function.comp_apply]
          simp only [number, within]
      rw [List.range_succ, List.flatMap_append, List.flatMap_singleton, ih, last, Nat.mul_succ,
        List.range_add, List.map_append, List.map_map]

theorem four_bytes_mod (number : Nat) : fourBytes (number % 2 ^ 32) = fourBytes number := by
  simp only [fourBytes, List.cons.injEq, and_true, ← UInt8.toNat_inj, UInt8.toNat_ofNat']
  omega

section

variable (password salt : Bytes) (number : Nat)

theorem link_mod (place : Nat) :
    link password salt (number % 2 ^ 32) place = link password salt number place := by
  induction place with
  | zero => rw [link, link, four_bytes_mod]
  | succ place ih => rw [link, link, ih]

theorem link_sum_mod (count : Nat) :
    linkSum password salt (number % 2 ^ 32) count = linkSum password salt number count := by
  apply Vector.ext
  intro index bound
  simp only [linkSum, link_mod]

end

section

variable (password salt : Bytes) (iterations : UInt32)

/-- The row that the keys of a password are fronts of. -/
def rowByte (place : Nat) : Byte :=
  (linkSum password salt ((place / 32 + 1) % 2 ^ 32) (max iterations.toNat 1))[place % 32]

theorem standard_key_eq_map (length : Nat) :
    standardKey password salt (max iterations.toNat 1) length =
      (List.range length).map (rowByte password salt iterations) := by
  have enough : length ≤ 32 * ((length + 31) / 32) := by omega
  have numbers : rowByte password salt iterations = fun place =>
      (linkSum password salt (place / 32 + 1) (max iterations.toNat 1))[place % 32] := by
    funext place
    simp only [rowByte, link_sum_mod]
  rw [standardKey, blocks_eq_map fun index =>
      linkSum password salt (index + 1) (max iterations.toNat 1),
    ← List.map_take, List.take_range, Nat.min_eq_left enough, numbers]

theorem fill_eq_map (buffer : Bytes) :
    fill password salt iterations buffer =
      (List.range buffer.length).map (rowByte password salt iterations) := by
  rw [fill_eq, standard_key_eq_map]

theorem derive_eq_map (length : Nat) :
    derive password salt iterations length =
      (List.range length).map (rowByte password salt iterations) := by
  rw [derive_eq, standard_key_eq_map]

theorem row_byte_periodic (place rounds : Nat) :
    rowByte password salt iterations (place + rounds * (32 * 2 ^ 32)) =
      rowByte password salt iterations place := by
  have within : (place + rounds * (32 * 2 ^ 32)) % 32 = place % 32 := by omega
  have number : ((place + rounds * (32 * 2 ^ 32)) / 32 + 1) % 2 ^ 32 =
      (place / 32 + 1) % 2 ^ 32 := by omega
  simp only [rowByte, within, number]

/-- A shorter key is the front of a longer one. A byte of a key is a matter of its place alone, and
that counts by the number of its block modulo 2^32 and by the place within the block. -/
theorem key_bytes_depend_on_place {shorter longer : Nat} (order : shorter ≤ longer) :
    (derive password salt iterations shorter).length = shorter ∧
      (derive password salt iterations longer).length = longer ∧
      derive password salt iterations shorter =
        (derive password salt iterations longer).take shorter ∧
      (∀ place, place < longer →
        (derive password salt iterations longer)[place]? =
          some (linkSum password salt ((place / 32 + 1) % 2 ^ 32)
            (max iterations.toNat 1))[place % 32]) ∧
      (∀ place rounds, place + rounds * (32 * 2 ^ 32) < longer →
        (derive password salt iterations longer)[place + rounds * (32 * 2 ^ 32)]? =
          (derive password salt iterations longer)[place]?) ∧
      ∀ left right : Bytes, left.length = right.length →
        fill password salt iterations left = fill password salt iterations right := by
  have byte : ∀ place, place < longer → (derive password salt iterations longer)[place]? =
      some (rowByte password salt iterations place) := by
    intro place early
    rw [derive_eq_map, List.getElem?_map, List.getElem?_range early]
    rfl
  refine ⟨?_, ?_, ?_, byte, ?_, ?_⟩
  · rw [derive_eq_map, List.length_map, List.length_range]
  · rw [derive_eq_map, List.length_map, List.length_range]
  · rw [derive_eq_map, derive_eq_map, ← List.map_take, List.take_range, Nat.min_eq_left order]
  · intro place rounds early
    rw [byte _ early, byte place (by omega), row_byte_periodic]
  · intro left right same
    rw [fill_eq_map, fill_eq_map, same]

/-- A key that is long enough to see its first block again. -/
theorem first_block_comes_again :
    let password := utf8 "password"
    let salt := utf8 "salt"
    let long := derive password salt 1 (32 * 2 ^ 32 + 64)
    (20 ≤ 32 * 2 ^ 32 + 64 ∧ 5 + 1 * (32 * 2 ^ 32) < 32 * 2 ^ 32 + 64) ∧
      derive password salt 1 20 = long.take 20 ∧
      long[5 + 1 * (32 * 2 ^ 32)]? = long[5]? ∧
      fill password salt 1 (utf8 "left") = fill password salt 1 (utf8 "over") := by
  intro password salt long
  have order : 20 ≤ 32 * 2 ^ 32 + 64 := by decide
  have within : 5 + 1 * (32 * 2 ^ 32) < 32 * 2 ^ 32 + 64 := by decide
  obtain ⟨_, _, front, _, again, alike⟩ := key_bytes_depend_on_place password salt 1 order
  exact ⟨⟨order, within⟩, front, again 5 1 within, alike _ _ (by decide +kernel)⟩

end

end Accounts.Pbkdf2
