import Accounts.Proofs.Record
import Accounts.Session

/-!
# Session ids

An issued id is 64 ASCII characters, so it is never empty and always fits the
field of a record.
-/

namespace Accounts

theorem hex_digit_size {value : Nat} (bound : value < 16) : (hexDigit value).utf8Size = 1 := by
  have all : ∀ value : Fin 16, (hexDigit value.val).utf8Size = 1 := by decide
  exact all ⟨value, bound⟩

theorem hex_chars_length (bytes : Bytes) : (hexChars bytes).length = 2 * bytes.length := by
  induction bytes with
  | nil => rfl
  | cons byte bytes ih =>
      rw [hexChars, List.flatMap_cons, List.length_append, List.length_cons]
      change 2 + (hexChars bytes).length = _
      omega

theorem mem_hex_chars {bytes : Bytes} {char : Char} (member : char ∈ hexChars bytes) :
    ∃ value < 16, hexDigit value = char := by
  obtain ⟨byte, _, digit⟩ := List.mem_flatMap.mp member
  have bound := byte.toNat_lt
  simp only [hexByte, List.mem_cons, List.not_mem_nil, or_false] at digit
  rcases digit with rfl | rfl
  · exact ⟨byte.toNat / 16, by omega, rfl⟩
  · exact ⟨byte.toNat % 16, by omega, rfl⟩

theorem hex_chars_size {bytes : Bytes} {char : Char} (member : char ∈ hexChars bytes) :
    char.utf8Size = 1 := by
  obtain ⟨value, bound, rfl⟩ := mem_hex_chars member
  exact hex_digit_size bound

theorem of_list_byte_size (chars : List Char) (narrow : ∀ char ∈ chars, char.utf8Size = 1) :
    (String.ofList chars).utf8ByteSize = chars.length := by
  rw [← utf8_length, utf8_eq_encoded_chars, String.toList_ofList]
  induction chars with
  | nil => rfl
  | cons char chars ih =>
      rw [List.flatMap_cons, List.length_append, String.length_utf8EncodeChar,
        narrow char List.mem_cons_self, List.length_cons,
        ih (fun other member => narrow other (List.mem_cons_of_mem _ member)), Nat.add_comm]

def sessionOf (bytes : Bytes) : String :=
  String.ofList ((hexChars (sha256 bytes).toList).take maxSessionBytes)

theorem session_of_size (bytes : Bytes) : (sessionOf bytes).utf8ByteSize = maxSessionBytes := by
  have narrow : ∀ char ∈ (hexChars (sha256 bytes).toList).take maxSessionBytes,
      char.utf8Size = 1 := by
    intro char member
    exact hex_chars_size (List.mem_of_mem_take member)
  rw [sessionOf, of_list_byte_size _ narrow]
  simp [hex_chars_length, maxSessionBytes]

theorem session_of_length (bytes : Bytes) : (sessionOf bytes).length = maxSessionBytes := by
  rw [sessionOf, String.length_ofList]
  simp [hex_chars_length, maxSessionBytes]

theorem session_of_ne_empty (bytes : Bytes) : sessionOf bytes ≠ "" := by
  intro empty
  have size := session_of_size bytes
  rw [empty] at size
  exact absurd size (by decide)

inductive Issuing (source : Entropy) (size : Nat) : Except Failure String × Entropy → Prop where
  | dry (failure : Failure) (failed : (source.draw size).1 = .error failure) :
      Issuing source size (.error failure, (source.draw size).2)
  | issued (bytes : Vector Byte size) (drawn : (source.draw size).1 = .ok bytes) :
      Issuing source size (.ok (sessionOf bytes.toList), (source.draw size).2)

theorem issuing (source : Entropy) (size : Nat) :
    Issuing source size (issueSession source size) := by
  unfold issueSession
  have drawn : source.draw size = ((source.draw size).1, (source.draw size).2) := rfl
  cases answer : (source.draw size).1 with
  | error failure =>
      rw [drawn, answer]
      exact .dry failure answer
  | ok bytes =>
      rw [drawn, answer]
      exact .issued bytes answer

namespace Entropy

/-- The source has no reason to fail but want of random bytes, as that of the system. Any other
failure that a source gives is passed on like one of its own by what asked for the bytes. -/
def FailsAsEntropy (source : Entropy) : Prop :=
  ∀ asked size failure, source.answer asked size = .error failure →
    ∃ reason, failure = .entropy reason

variable {source : Entropy} {size : Nat}

theorem FailsAsEntropy.draw (honest : source.FailsAsEntropy) :
    (source.draw size).2.FailsAsEntropy := honest

theorem FailsAsEntropy.draw_error (honest : source.FailsAsEntropy) {failure : Failure}
    (failed : (source.draw size).1 = .error failure) : ∃ reason, failure = .entropy reason :=
  honest source.asked size failure failed

theorem of_script_fails_as_entropy (answers : List (Except String Bytes)) :
    (ofScript answers).FailsAsEntropy := by
  intro asked size failure failed
  simp only [ofScript] at failed
  split at failed
  · exact ⟨_, (Except.error.inj failed).symm⟩
  · exact ⟨_, (Except.error.inj failed).symm⟩
  · simp at failed

end Entropy

end Accounts
