import Accounts.Hash.Hmac
import Accounts.Proofs.Hash.Streaming

/-!
# Tags as nested hashes

A keyed hash starts with a block made of the key, so the hash inside a tag is that
of the inner key block and the message behind it, and the tag is the hash of the
outer key block and that digest (RFC 2104). Nothing depends on the pieces in which
the message came.
-/

namespace Accounts.Hmac

/-- A byte of the first block: a key longer than a block counts by its digest, and zeros follow
the key. -/
def keyByte (key : Bytes) (place : Nat) : Byte :=
  (if 64 < key.length then (sha256 key).toList else key).getD place 0

/-- The key in the length of a block. -/
def fullKey (key : Bytes) : Bytes := (List.range 64).map (keyByte key)

def maskedKey (key : Bytes) (mask : Byte) : Bytes :=
  (List.range 64).map fun place => keyByte key place ^^^ mask

def nestedTag (key message : Bytes) : Digest :=
  sha256 (maskedKey key 0x5c ++ (sha256 (maskedKey key 0x36 ++ message)).toList)

theorem block_key_eq (key : Bytes) : blockKey key = fullKey key := by
  unfold blockKey fullKey keyByte
  generalize inside : (if 64 < key.length then (sha256 key).toList else key) = short
  have fits : short.length ≤ 64 := by
    rw [← inside]
    split
    · simp
    · omega
  apply List.ext_getElem
  · simp only [List.length_append, List.length_replicate, List.length_map, List.length_range]
    omega
  · intro place leftBound rightBound
    rw [List.getElem_map, List.getElem_range, List.getD_eq_getElem?_getD, List.getElem_append]
    split
    · rename_i early
      rw [List.getElem?_eq_getElem early, Option.getD_some]
    · rename_i late
      rw [List.getElem?_eq_none (Nat.le_of_not_lt late), Option.getD_none, List.getElem_replicate]

/-- The boundary is at 64 bytes: a key of that length is a block already, and one byte more makes
it count by its digest. -/
theorem full_key_eq (key : Bytes) :
    fullKey key = if 64 < key.length then (sha256 key).toList ++ List.replicate 32 0
      else key ++ List.replicate (64 - key.length) 0 := by
  rw [← block_key_eq, blockKey]
  by_cases long : 64 < key.length
  · have size : (sha256 key).toList.length = 32 := Vector.length_toList
    rw [if_pos long, if_pos long, size]
  · rw [if_neg long, if_neg long]

theorem masked_full_key (key : Bytes) (mask : Byte) :
    (fullKey key).map (· ^^^ mask) = maskedKey key mask := by
  rw [fullKey, List.map_map]
  rfl

theorem masked_block_key (key : Bytes) (mask : Byte) :
    (blockKey key).map (· ^^^ mask) = maskedKey key mask := by
  rw [block_key_eq, masked_full_key]

theorem foldl_update (mac : Hmac) (pieces : List Bytes) :
    pieces.foldl Hmac.update mac = { mac with inner := pieces.foldl Sha256.update mac.inner } := by
  induction pieces generalizing mac with
  | nil => rfl
  | cons piece pieces ih => exact ih (mac.update piece)

/-- The tag of a message in pieces is the nested hash of the whole message. -/
theorem tag_foldl_update (key : Bytes) (pieces : List Bytes) :
    (pieces.foldl Hmac.update (start key)).tag = nestedTag key pieces.flatten := by
  have keyed : ∀ mask, (Sha256.empty.update ((blockKey key).map (· ^^^ mask))).Absorbs
      (maskedKey key mask) := by
    intro mask
    rw [masked_block_key]
    exact Sha256.empty_absorbs.update (maskedKey key mask)
  have inner := ((keyed 0x36).foldl_update pieces).digest_eq
  have outer := ((keyed 0x5c).update
    (sha256 (maskedKey key 0x36 ++ pieces.flatten)).toList).digest_eq
  rw [foldl_update, tag]
  simp only [start]
  rw [inner, outer]
  rfl

theorem tag_update (key message : Bytes) :
    ((start key).update message).tag = nestedTag key message := by
  have tag := tag_foldl_update key [message]
  rwa [List.flatten_singleton] at tag

/-- A tag is made of two hashes, each with a block of the key in front, however the message was cut
into pieces. -/
theorem tags_are_nested_hashes (key : Bytes) (pieces : List Bytes) :
    let full := fullKey key
    let message := pieces.flatten
    let inner := sha256 (full.map (· ^^^ 0x36) ++ message)
    let outer := sha256 (full.map (· ^^^ 0x5c) ++ inner.toList)
    (pieces.foldl update (start key)).tag = outer ∧
      hmacSha256 key message = outer ∧
      full = if 64 < key.length then (sha256 key).toList ++ List.replicate 32 0
        else key ++ List.replicate (64 - key.length) 0 := by
  intro full message inner outer
  have nested : nestedTag key message = outer := by
    rw [nestedTag, ← masked_full_key, ← masked_full_key]
  have whole : hmacSha256 key message = nestedTag key message := tag_update key message
  exact ⟨(tag_foldl_update key pieces).trans nested, whole.trans nested, full_key_eq key⟩

end Accounts.Hmac
