import Accounts.Proofs.Hash.Keyed
import Accounts.Proofs.Record
import Accounts.Service

/-!
# Passwords that open the same account

A password acts as a key, and a key acts as the block that it fills. So texts that fill
the same block cannot be told apart by a tag, a derived key or a login. Up to the length
of a block these are the texts that differ in zeros at their end, and beyond it there is
the text of the digest, where the digest is text at all.
-/

namespace Accounts

namespace Hmac

variable {left right : Bytes}

theorem start_congr (same : fullKey left = fullKey right) : start left = start right := by
  rw [start, start, block_key_eq, block_key_eq, same]

theorem hmac_congr (same : fullKey left = fullKey right) (message : Bytes) :
    hmacSha256 left message = hmacSha256 right message := by
  rw [hmacSha256, hmacSha256, start_congr same]

/-- Two keys that are no longer than a block fill the same one just if the longer key is the shorter
one and zeros. -/
theorem full_key_eq_iff_zeros (order : left.length ≤ right.length) (short : right.length ≤ 64) :
    fullKey left = fullKey right ↔
      right = left ++ List.replicate (right.length - left.length) 0 := by
  have shorter : left.length ≤ 64 := order.trans short
  rw [full_key_eq, full_key_eq, if_neg (Nat.not_lt.mpr shorter), if_neg (Nat.not_lt.mpr short)]
  constructor
  · intro same
    have zeros : min (right.length - left.length) (64 - left.length) =
        right.length - left.length := by omega
    have front := congrArg (List.take right.length) same
    rw [List.take_left, List.take_append, List.take_of_length_le order, List.take_replicate,
      zeros] at front
    exact front.symm
  · intro longer
    have zeros : right.length - left.length + (64 - right.length) = 64 - left.length := by omega
    generalize right.length = size at longer zeros ⊢
    rw [longer, List.append_assoc, List.replicate_append_replicate, zeros]

/-- The digest of a long key stands for the key itself. -/
theorem full_key_digest {key : Bytes} (long : 64 < key.length) :
    fullKey (sha256 key).toList = fullKey key := by
  have size : (sha256 key).toList.length = 32 := Vector.length_toList
  have short : ¬ 64 < (sha256 key).toList.length := by omega
  rw [full_key_eq, full_key_eq, if_neg short, if_pos long, size]

end Hmac

namespace Pbkdf2

variable {left right : Bytes}

theorem derive_congr (same : Hmac.fullKey left = Hmac.fullKey right) (salt : Bytes)
    (iterations : UInt32) (length : Nat) :
    derive left salt iterations length = derive right salt iterations length := by
  rw [derive, derive, fill, fill, Hmac.start_congr same]

theorem password_hash_congr (same : Hmac.fullKey left = Hmac.fullKey right) (salt : Bytes)
    (iterations : UInt32) :
    passwordHash left salt iterations = passwordHash right salt iterations := by
  rw [passwordHash, passwordHash, Hmac.start_congr same]

end Pbkdf2

/-- A text with so many zero characters behind it. -/
def withZeros (text : String) (count : Nat) : String :=
  text ++ String.ofList (List.replicate count '\x00')

theorem utf8_with_zeros (text : String) (count : Nat) :
    utf8 (withZeros text count) = utf8 text ++ List.replicate count 0 := by
  have zero : String.utf8EncodeChar '\x00' = [0] := by decide
  rw [utf8_eq_encoded_chars, utf8_eq_encoded_chars, withZeros, String.toList_append,
    String.toList_ofList, List.flatMap_append]
  apply congrArg (text.toList.flatMap String.utf8EncodeChar ++ ·)
  induction count with
  | zero => rfl
  | succ count ih =>
      rw [List.replicate_succ, List.flatMap_cons, ih, zero]
      rfl

theorem full_key_with_zeros {password : String} {count : Nat}
    (fits : (utf8 password).length + count ≤ 64) :
    Hmac.fullKey (utf8 (withZeros password count)) = Hmac.fullKey (utf8 password) := by
  have extended := utf8_with_zeros password count
  have size : (utf8 (withZeros password count)).length = (utf8 password).length + count := by
    rw [extended, List.length_append, List.length_replicate]
  symm
  rw [Hmac.full_key_eq_iff_zeros (by omega) (by omega), size, Nat.add_sub_cancel_left, extended]

theorem ne_empty_of_utf8 {text : String} (positive : 0 < (utf8 text).length) : text ≠ "" := by
  rintro rfl
  exact absurd positive (by decide)

namespace Service

/-- A login sees of its password whether there is one and what keys it gives. -/
theorem login_congr (service : Service) (username : String) {left right : String}
    (leftGiven : left ≠ "") (rightGiven : right ≠ "")
    (same : Hmac.fullKey (utf8 left) = Hmac.fullKey (utf8 right)) :
    service.login username left = service.login username right := by
  have leftFilled : left.isEmpty = false := by simpa using leftGiven
  have rightFilled : right.isEmpty = false := by simpa using rightGiven
  have derived : service.derive left = service.derive right := by
    funext salt iterations
    rw [derive, derive, Pbkdf2.password_hash_congr same]
  rw [login, login, leftFilled, rightFilled, derived]

/-- Keys that fill the same block cannot be told apart, and neither can passwords by a login. -/
theorem passwords_of_one_block_are_interchangeable :
    (∀ left right : Bytes, Hmac.fullKey left = Hmac.fullKey right →
      (∀ message, hmacSha256 left message = hmacSha256 right message) ∧
        ∀ salt iterations length, Pbkdf2.derive left salt iterations length =
          Pbkdf2.derive right salt iterations length) ∧
      (∀ (service : Service) (username left right : String), left ≠ "" → right ≠ "" →
        Hmac.fullKey (utf8 left) = Hmac.fullKey (utf8 right) →
          service.login username left = service.login username right) ∧
      (∀ left right : Bytes, left.length ≤ right.length → right.length ≤ 64 →
        (Hmac.fullKey left = Hmac.fullKey right ↔
          right = left ++ List.replicate (right.length - left.length) 0)) ∧
      (∀ (service : Service) (username password : String) (count : Nat), password ≠ "" →
        (utf8 password).length + count ≤ 64 →
          service.login username (withZeros password count) = service.login username password) ∧
      ∀ (service : Service) (username password text : String), 64 < (utf8 password).length →
        utf8 text = (sha256 (utf8 password)).toList →
          service.login username text = service.login username password := by
  refine ⟨?_, ?_, ?_, ?_, ?_⟩
  · intro left right same
    exact ⟨Hmac.hmac_congr same, Pbkdf2.derive_congr same⟩
  · intro service username left right leftGiven rightGiven same
    exact service.login_congr username leftGiven rightGiven same
  · intro left right order short
    exact Hmac.full_key_eq_iff_zeros order short
  · intro service username password count given fits
    have filled : withZeros password count ≠ "" := by
      intro empty
      exact given (String.append_eq_empty_iff.mp empty).1
    exact service.login_congr username filled given (full_key_with_zeros fits)
  · intro service username password text long digested
    have size : (utf8 text).length = 32 := by rw [digested, Vector.length_toList]
    have same : Hmac.fullKey (utf8 text) = Hmac.fullKey (utf8 password) := by
      rw [digested, Hmac.full_key_digest long]
    exact service.login_congr username (ne_empty_of_utf8 (by omega)) (ne_empty_of_utf8 (by omega))
      same

/-- A short password with zeros behind it, and the digest of a long one that happens to be text. -/
theorem zeros_and_digest_sign_in :
    let sentence :=
      "a long sentence that nobody would ever guess, with a number behind: 0331598118"
    let digested := "<98~\uec0d0\x13\ud0c7M\u059a1XpH097\x7b\u8e036M\u016e1a"
    let salt : Salt := Vector.replicate 16 7
    let account := fun username password : String =>
      Account.new username salt (Pbkdf2.passwordHash (utf8 password) salt.toList 1) 1
    let source : Entropy := .ofSequence fun index => UInt8.ofNat index
    let service : Service := ⟨⟨1000, 1, "session"⟩,
      ⟨.sound "users" none, 2, [account "alice" "secret", account "bob" sentence], .fresh, []⟩,
      source⟩
    ((utf8 "secret").length + 3 ≤ 64 ∧ 64 < (utf8 sentence).length ∧
        utf8 digested = (sha256 (utf8 sentence)).toList) ∧
      (service.login "alice" (withZeros "secret" 3)).1.isOk = true ∧
      (service.login "bob" digested).1.isOk = true := by
  intro sentence digested salt account source service
  have fits : (utf8 "secret").length + 3 ≤ 64 := by decide +kernel
  have long : 64 < (utf8 sentence).length := by decide +kernel
  have same : utf8 digested = (sha256 (utf8 sentence)).toList := by decide +kernel
  obtain ⟨_, _, _, zeros, digests⟩ := passwords_of_one_block_are_interchangeable
  have alice := zeros service "alice" "secret" 3 (by decide) fits
  have bob := digests service "bob" sentence digested long same
  refine ⟨⟨fits, long, same⟩, ?_, ?_⟩
  · rw [alice]
    decide +kernel
  · rw [bob]
    decide +kernel

end Service

end Accounts
