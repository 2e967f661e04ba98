import Accounts.Proofs.SessionId
import Accounts.Proofs.Table

/-!
# What an issued id is

A digest has one hexadecimal text, whether its bytes are written digit by digit or as
numerals with a zero in front, and the text can be read back. An issued id is that text
of the digest of the bytes that were drawn: it has as many characters as the field of a
record has room for, so it is never cut, neither when it is issued nor in a record.
-/

namespace Accounts

def smallHexDigits : List Char := "0123456789abcdef".toList

theorem hex_digit_small {value : Nat} (bound : value < 16) : hexDigit value ∈ smallHexDigits := by
  have all : ∀ value : Fin 16, hexDigit value.val ∈ smallHexDigits := by decide
  exact all ⟨value, bound⟩

theorem hex_digit_value {value : Nat} (bound : value < 16) :
    hexDigitValue? (hexDigit value) = some value := by
  have all : ∀ value : Fin 16, hexDigitValue? (hexDigit value.val) = some value.val := by decide
  exact all ⟨value, bound⟩

theorem digit_char_eq_hex_digit {value : Nat} (bound : value < 16) :
    Nat.digitChar value = hexDigit value := by
  have all : ∀ value : Fin 16, Nat.digitChar value.val = hexDigit value.val := by decide
  exact all ⟨value, bound⟩

theorem hex_chars_small {bytes : Bytes} {char : Char} (member : char ∈ hexChars bytes) :
    char ∈ smallHexDigits := by
  obtain ⟨value, bound, rfl⟩ := mem_hex_chars member
  exact hex_digit_small bound

theorem of_hex_chars_hex_chars (bytes : Bytes) : ofHexChars? (hexChars bytes) = some bytes := by
  induction bytes with
  | nil => rfl
  | cons byte bytes ih =>
      have bound := byte.toNat_lt
      have high : hexDigitValue? (hexDigit (byte.toNat / 16)) = some (byte.toNat / 16) :=
        hex_digit_value (by omega)
      have low : hexDigitValue? (hexDigit (byte.toNat % 16)) = some (byte.toNat % 16) :=
        hex_digit_value (by omega)
      have joined : 16 * (byte.toNat / 16) + byte.toNat % 16 = byte.toNat :=
        Nat.div_add_mod byte.toNat 16
      change ofHexChars? (hexDigit (byte.toNat / 16) :: hexDigit (byte.toNat % 16) ::
        hexChars bytes) = some (byte :: bytes)
      simp only [ofHexChars?, high, low, ih, Option.bind_eq_bind, Option.bind_some, joined,
        UInt8.ofNat_toNat]

theorem of_hex_text_hex_text (bytes : Bytes) : ofHexText? (hexText bytes) = some bytes := by
  rw [ofHexText?, hexText, String.toList_ofList, of_hex_chars_hex_chars]

/-- A numeral of one digit gets a zero in front, and no byte needs more than two. -/
theorem padded_numeral_eq_hex_byte (byte : Byte) : Digest.paddedNumeral byte = hexByte byte := by
  have bound := byte.toNat_lt
  unfold Digest.paddedNumeral hexByte
  by_cases single : byte.toNat < 16
  · have front : byte.toNat / 16 = 0 := Nat.div_eq_of_lt single
    have last : byte.toNat % 16 = byte.toNat := Nat.mod_eq_of_lt single
    rw [Nat.toDigits_of_lt_base single, digit_char_eq_hex_digit single, front, last]
    rfl
  · have front : byte.toNat / 16 < 16 := by omega
    have last : byte.toNat % 16 < 16 := Nat.mod_lt _ (by decide)
    rw [Nat.toDigits_of_base_le (by decide) (Nat.le_of_not_lt single),
      Nat.toDigits_of_lt_base front, digit_char_eq_hex_digit front, digit_char_eq_hex_digit last]
    rfl

namespace Digest

theorem text_eq_hex (digest : Digest) : digest.text = digest.hex := by
  have same : paddedNumeral = hexByte := funext padded_numeral_eq_hex_byte
  rw [text, hex, hexText, hexChars, same]

theorem of_hex (digest : Digest) : ofHexText? digest.hex = some digest.toList :=
  of_hex_text_hex_text digest.toList

theorem hex_inj {left right : Digest} : left.hex = right.hex ↔ left = right := by
  constructor
  · intro same
    have read := congrArg ofHexText? same
    rw [of_hex, of_hex, Option.some_inj] at read
    exact Vector.toList_inj.mp read
  · rintro rfl
    rfl

end Digest

/-- Sixty-four characters are all that the text of a digest has. -/
theorem session_of_eq_hex (bytes : Bytes) : sessionOf bytes = (sha256 bytes).hex := by
  have whole : (hexChars (sha256 bytes).toList).length ≤ maxSessionBytes := by
    simp [hex_chars_length, maxSessionBytes]
  rw [sessionOf, List.take_of_length_le whole]
  rfl

theorem session_of_small {bytes : Bytes} {char : Char}
    (member : char ∈ (sessionOf bytes).toList) : char ∈ smallHexDigits := by
  rw [sessionOf, String.toList_ofList] at member
  exact hex_chars_small (List.mem_of_mem_take member)

theorem session_of_fitting (bytes : Bytes) : Fitting maxSessionBytes (sessionOf bytes) where
  fits := (session_of_size bytes).le
  unbroken := by
    apply zero_not_mem_utf8
    rw [List.any_eq_false]
    intro char member
    have all : smallHexDigits.all (fun digit => !isControl digit) = true := by decide
    have shown := List.all_eq_true.mp all char (session_of_small member)
    simpa using shown

/-- A session that fits its field comes back wherever the record can be read. -/
theorem Account.decode_encode_session (account : Account) {session : String}
    (fitting : Fitting maxSessionBytes session) :
    decode? { account with session }.encode =
      (decode? account.encode).map fun read => { read with session } := by
  have kept : ({ account with session } : Account).keptSession = utf8 session := fitting.kept
  rw [decode_encode_eq, decode_encode_eq, kept, of_utf8_utf8, Option.map_map]
  rfl

theorem Store.set_session_of_fits (store : Store) {username session : String}
    (fits : session.utf8ByteSize ≤ maxSessionBytes) (known : username ∈ store.usernames) :
    store.setSession username session =
      (true, { store with rows := replaceSession username session store.rows }) := by
  have change := store.session_change username session
  generalize store.setSession username session = result at change ⊢
  cases change with
  | refused journal reason =>
      rcases reason with long | absent
      · exact absurd fits (Nat.not_le.mpr long)
      · exact absurd known absent
  | taken => rfl

theorem issue_session_eq (source : Entropy) (size : Nat) :
    (issueSession source size).1 =
      (source.draw size).1.map fun bytes => sessionOf bytes.toList := by
  unfold issueSession
  rcases source.draw size with ⟨failure | bytes, rest⟩
  · rfl
  · rfl

theorem issue_session_of_drawn {source : Entropy} {size : Nat} {bytes : Vector Byte size}
    (drawn : (source.draw size).1 = .ok bytes) :
    (issueSession source size).1 = .ok (sessionOf bytes.toList) := by
  rw [issue_session_eq, drawn]
  rfl

/-- A request for an id fails as the source does, and else gives the whole hexadecimal text of the
digest of the bytes that were drawn. -/
theorem issued_ids_are_hex_digests (source : Entropy) (size : Nat) :
    (∀ digest : Digest, digest.text = digest.hex) ∧
      (∀ failure, (source.draw size).1 = .error failure →
        (issueSession source size).1 = .error failure) ∧
      ∀ bytes, (source.draw size).1 = .ok bytes →
        ∃ id, (issueSession source size).1 = .ok id ∧
          id.length = 64 ∧ (∀ char ∈ id.toList, char ∈ smallHexDigits) ∧
          id = (sha256 bytes.toList).hex ∧
          ofHexText? id = some (sha256 bytes.toList).toList ∧
          (∀ (otherSource : Entropy) (otherSize : Nat) (other : Vector Byte otherSize),
            (otherSource.draw otherSize).1 = .ok other →
            ((issueSession otherSource otherSize).1 = .ok id ↔
              sha256 other.toList = sha256 bytes.toList)) ∧
          (∀ (store : Store) (username : String), username ∈ store.usernames →
            store.setSession username id =
              (true, { store with rows := Store.replaceSession username id store.rows })) ∧
          ∀ account : Account, Account.decode? { account with session := id }.encode =
            (Account.decode? account.encode).map fun read => { read with session := id } := by
  refine ⟨Digest.text_eq_hex, ?_, ?_⟩
  · intro failure failed
    rw [issue_session_eq, failed]
    rfl
  · intro bytes drawn
    refine ⟨sessionOf bytes.toList, issue_session_of_drawn drawn, session_of_length _,
      fun _ => session_of_small, session_of_eq_hex _, ?_, ?_, ?_, ?_⟩
    · rw [session_of_eq_hex]
      exact Digest.of_hex _
    · intro otherSource otherSize other otherDrawn
      rw [issue_session_of_drawn otherDrawn, Except.ok.injEq, session_of_eq_hex,
        session_of_eq_hex, Digest.hex_inj]
    · intro store username known
      exact store.set_session_of_fits (session_of_fitting _).fits known
    · intro account
      exact account.decode_encode_session (session_of_fitting _)

theorem digest_of_nothing_is_issued :
    let source : Entropy := .ofScript [.ok []]
    let id := "e3b0c44298fc1c149afbf4c8996fb92427ae41e4649b934ca495991b7852b855"
    let alice := Account.new "alice" (Vector.replicate 16 1) (Vector.replicate 32 2) 1000
    let store : Store := ⟨.sound "users" none, 1, [alice], .fresh, []⟩
    (source.draw 0).1 = .ok #v[] ∧ (issueSession source 0).1 = .ok id ∧
      (store.setSession "alice" id).1 = true ∧
      Account.decode? { alice with session := id }.encode = some { alice with session := id } ∧
      ((source.draw 0).2.draw 4).1 = .error (.entropy "script ended") ∧
      (issueSession (source.draw 0).2 4).1 = .error (.entropy "script ended") := by
  intro source id alice store
  have drawn : (source.draw 0).1 = .ok #v[] := by decide +kernel
  have dry : ((source.draw 0).2.draw 4).1 = .error (.entropy "script ended") := by decide +kernel
  have hex : (sha256 []).hex = id := by decide +kernel
  have known : "alice" ∈ store.usernames := by decide
  have decoded : Account.decode? alice.encode = some alice := by decide +kernel
  obtain ⟨_, _, wet⟩ := issued_ids_are_hex_digests source 0
  obtain ⟨_, issued, _, _, rfl, _, _, taken, survives⟩ := wet #v[] drawn
  obtain ⟨_, failed, _⟩ := issued_ids_are_hex_digests (source.draw 0).2 4
  have same : (sha256 (#v[] : Vector Byte 0).toList).hex = id := hex
  rw [same] at issued taken survives
  refine ⟨drawn, issued, ?_, ?_, dry, failed _ dry⟩
  · rw [taken store "alice" known]
  · rw [survives alice, decoded]
    rfl

end Accounts
