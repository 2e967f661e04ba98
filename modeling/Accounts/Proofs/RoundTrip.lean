import Accounts.Proofs.Record

/-!
# What a record keeps

A field gives back the text in front of its first zero byte, and never more than
its width but one. So an account that was written and read again has its texts cut
there, and is the same account exactly when there was nothing to cut. In the other
direction a record that was read and written again keeps its salt, hash and
iterations, and is the same record exactly when its texts are readable and nothing
but zeros stands behind them.
-/

namespace Accounts

/-- The bytes are the UTF-8 of a text. -/
def IsUtf8 (bytes : Bytes) : Prop := ∃ text, utf8 text = bytes

theorem of_utf8_eq_some {bytes : Bytes} {text : String} :
    ofUtf8? bytes = some text ↔ utf8 text = bytes := by
  constructor
  · exact utf8_of_of_utf8
  · rintro rfl
    exact of_utf8_utf8 text

theorem of_utf8_eq_none {bytes : Bytes} : ofUtf8? bytes = none ↔ ¬ IsUtf8 bytes := by
  simp only [Option.eq_none_iff_forall_ne_some, ne_eq, of_utf8_eq_some, IsUtf8, not_exists]

theorem zero_not_mem_field_text (field : Bytes) : (0 : Byte) ∉ fieldText field := by
  intro member
  simpa using List.mem_takeWhile_imp member

theorem fitting_of_utf8_eq {limit : Nat} {text : String} {bytes : Bytes}
    (read : utf8 text = fieldText (bytes.take limit)) : Fitting limit text where
  fits := by
    have shorter := (List.takeWhile_sublist (l := bytes.take limit) (· != 0)).length_le
    have cut := List.length_take_le limit bytes
    rw [← utf8_length, read, fieldText]
    exact shorter.trans cut
  unbroken := by
    rw [read]
    exact zero_not_mem_field_text _

theorem fitting_empty (limit : Nat) : Fitting limit "" where
  fits := Nat.zero_le limit
  unbroken := List.not_mem_nil

namespace Account

/-- Whatever was written, what is read of it can be written without a loss. -/
theorem storable_of_decode_encode {account again : Account}
    (read : decode? account.encode = some again) : again.Storable := by
  rw [decode_encode_eq, Option.map_eq_some_iff] at read
  obtain ⟨username, named, rfl⟩ := read
  refine storable_iff.mpr ⟨fitting_of_utf8_eq (of_utf8_eq_some.mp named), ?_⟩
  cases session : ofUtf8? account.keptSession with
  | none => exact fitting_empty maxSessionBytes
  | some text => exact fitting_of_utf8_eq (of_utf8_eq_some.mp session)

theorem decode_encode_eq_self_iff {account : Account} :
    decode? account.encode = some account ↔ account.Storable :=
  ⟨storable_of_decode_encode, decode_encode⟩

/-- An account that is written and read again has its texts cut at their fields. It comes back as
it was just if there was nothing to cut, as for every accepted username; so no two such accounts
have one record. -/
theorem written_texts_are_cut (account : Account) :
    (decode? account.encode = none ↔ ¬ IsUtf8 account.keptUsername) ∧
      (∀ username, utf8 username = account.keptUsername →
        (∀ session, utf8 session = account.keptSession →
          decode? account.encode = some { account with username, session }) ∧
        (¬ IsUtf8 account.keptSession →
          decode? account.encode = some { account with username, session := "" })) ∧
      (decode? account.encode = some account ↔ account.Storable) ∧
      (checkUsername account.username = .ok () → Fitting maxSessionBytes account.session →
        decode? account.encode = some account) ∧
      ∀ other : Account, account.Storable → other.Storable → account.encode = other.encode →
        account = other := by
  refine ⟨?_, ?_, decode_encode_eq_self_iff, ?_, ?_⟩
  · rw [decode_encode_eq, Option.map_eq_none_iff, of_utf8_eq_none]
  · intro username named
    have read := of_utf8_eq_some.mpr named
    constructor
    · intro session given
      rw [decode_encode_eq, read, of_utf8_eq_some.mpr given]
      rfl
    · intro garbled
      rw [decode_encode_eq, read, of_utf8_eq_none.mpr garbled]
      rfl
  · intro checked fitting
    obtain ⟨_, fits, visible⟩ := check_username_ok.mp checked
    exact decode_encode (storable_iff.mpr ⟨⟨fits, zero_not_mem_utf8 visible⟩, fitting⟩)
  · intro other storable otherStorable same
    have read := decode_encode storable
    rw [same, decode_encode otherStorable] at read
    exact (Option.some_inj.mp read).symm

/-- Cut to 31 bytes, this name ends within its last character. -/
def splitName : String := String.ofList (List.replicate 30 'a' ++ ['é'])

def bobSignedIn : Account := ⟨"bob", Vector.replicate 16 3, Vector.replicate 32 4, 2000, "token"⟩

theorem split_texts_are_lost :
    let nameless := { bobSignedIn with username := splitName }
    let signedOut := { bobSignedIn with
      username := "bob\x00by", session := String.ofList (List.replicate 63 'f' ++ ['é']) }
    decode? nameless.encode = none ∧
      decode? signedOut.encode = some { signedOut with username := "bob", session := "" } ∧
      decode? bobSignedIn.encode = some bobSignedIn ∧
      bobSignedIn.encode ≠ { bobSignedIn with iterations := 2001 }.encode := by
  intro nameless signedOut
  have split : ¬ IsUtf8 nameless.keptUsername := of_utf8_eq_none.mp (by decide +kernel)
  have named : utf8 "bob" = signedOut.keptUsername := by decide +kernel
  have garbled : ¬ IsUtf8 signedOut.keptSession := of_utf8_eq_none.mp (by decide +kernel)
  have checked : checkUsername bobSignedIn.username = .ok () := by decide
  have fitting : Fitting maxSessionBytes bobSignedIn.session := ⟨by decide, by decide⟩
  have storable : bobSignedIn.Storable := ⟨by decide, by decide, by decide, by decide⟩
  have otherStorable : { bobSignedIn with iterations := 2001 }.Storable :=
    ⟨by decide, by decide, by decide, by decide⟩
  obtain ⟨_, _, _, kept, injective⟩ := written_texts_are_cut bobSignedIn
  refine ⟨(written_texts_are_cut nameless).1.mpr split,
    ((written_texts_are_cut signedOut).2.1 "bob" named).2 garbled, kept checked fitting, ?_⟩
  intro same
  have iterations := congrArg iterations (injective _ storable otherStorable same)
  exact absurd iterations (by decide)

end Account

theorem big_endian_word32 (first second third fourth : Byte) :
    bigEndian32 (word32 first second third fourth) = [first, second, third, fourth] := by
  have firstBound := first.toNat_lt
  have secondBound := second.toNat_lt
  have thirdBound := third.toNat_lt
  have fourthBound := fourth.toNat_lt
  simp only [bigEndian32, List.cons.injEq, and_true, ← UInt8.toNat_inj, UInt32.toNat_toUInt8,
    UInt32.toNat_shiftRight, UInt32.reduceToNat, Nat.reduceMod, Nat.shiftRight_eq_div_pow,
    word32_to_nat]
  omega

theorem little_endian_of_little_endian (word : Vector Byte 4) :
    littleEndian32 (ofLittleEndian32 word) = word.toList := by
  obtain ⟨⟨bytes⟩, sized⟩ := word
  match bytes, sized with
  | [first, second, third, fourth], _ => simp [littleEndian32, ofLittleEndian32, big_endian_word32]

theorem slice_bytes_list {width : Nat} (bytes : Bytes) (start : Nat)
    (fits : start + width ≤ bytes.length) :
    (sliceBytes bytes start width fits).toList = (bytes.drop start).take width := by
  simp [sliceBytes]

def usernameField (record : Bytes) : Bytes := record.take usernameWidth

/-- Salt, hash and iterations, which stand between the two texts. -/
def keyFields (record : Bytes) : Bytes :=
  (record.drop usernameWidth).take (saltWidth + hashWidth + 4)

def sessionField (record : Bytes) : Bytes := record.drop (recordWidth - sessionWidth)

/-- A zero ends the text of a field, and only zeros follow. -/
structure Terminated (field : Bytes) : Prop where
  ends : (0 : Byte) ∈ field
  blank : ∀ byte ∈ field.dropWhile (· != 0), byte = 0

/-- The fields of texts are as they are written. -/
structure Canonical (record : Bytes) : Prop where
  username : Terminated (usernameField record)
  session : Terminated (sessionField record)
  readable : IsUtf8 (fieldText (sessionField record))

theorem zero_mem_pad_field {width : Nat} (room : 0 < width) (text : Bytes) :
    (0 : Byte) ∈ padField width text := by
  have short := List.length_take_le (width - 1) text
  rw [padField, List.mem_append]
  right
  rw [List.mem_replicate]
  exact ⟨by omega, rfl⟩

/-- Writing the text of a field gives the field again, if it was written so. -/
theorem pad_field_text_iff {width : Nat} {field : Bytes} (room : 0 < width)
    (sized : field.length = width) :
    padField width (fieldText field) = field ↔ Terminated field := by
  have parts : fieldText field ++ field.dropWhile (· != 0) = field :=
    List.takeWhile_append_dropWhile
  have lengths := congrArg List.length parts
  rw [List.length_append] at lengths
  -- Either side of the equivalence has a zero in the field, so the text is not cut.
  have padded (ends : (0 : Byte) ∈ field) : padField width (fieldText field) =
      fieldText field ++ List.replicate (width - (fieldText field).length) 0 := by
    have rest : field.dropWhile (· != 0) ≠ [] := by
      intro empty
      simpa using List.dropWhile_eq_nil_iff.mp empty 0 ends
    have positive := List.length_pos_iff.mpr rest
    rw [padField, List.take_of_length_le (by omega)]
  constructor
  · intro same
    have ends : (0 : Byte) ∈ field := by
      rw [← same]
      exact zero_mem_pad_field room _
    rw [padded ends] at same
    have blank := List.append_cancel_left (same.trans parts.symm)
    exact ⟨ends, (List.eq_replicate_iff.mp blank.symm).2⟩
  · intro terminated
    have blank : field.dropWhile (· != 0) =
        List.replicate (width - (fieldText field).length) 0 :=
      List.eq_replicate_iff.mpr ⟨by omega, terminated.blank⟩
    rw [padded terminated.ends, ← blank]
    exact parts

theorem record_parts (record : Bytes) :
    usernameField record ++ (keyFields record ++ sessionField record) = record := by
  have rest : sessionField record =
      (record.drop usernameWidth).drop (saltWidth + hashWidth + 4) := by
    rw [List.drop_drop]
    rfl
  rw [rest, keyFields, List.take_append_drop, usernameField, List.take_append_drop]

theorem username_field_length {record : Bytes} (sized : record.length = recordWidth) :
    (usernameField record).length = usernameWidth :=
  List.length_take_of_le (by rw [sized]; decide)

theorem session_field_length {record : Bytes} (sized : record.length = recordWidth) :
    (sessionField record).length = sessionWidth := by
  rw [sessionField, List.length_drop, sized]
  rfl

namespace Account

/-- The bytes of a record that do not come from texts. -/
def keyBytes (account : Account) : Bytes :=
  account.salt.toList ++ account.passwordHash.toList ++ littleEndian32 account.iterations

theorem encode_parts (account : Account) :
    account.encode = padField usernameWidth (utf8 account.username) ++
      (account.keyBytes ++ padField sessionWidth (utf8 account.session)) := by
  simp only [encode, keyBytes, List.append_assoc]

theorem key_bytes_length (account : Account) :
    account.keyBytes.length = saltWidth + hashWidth + 4 := by
  simp [keyBytes, saltWidth, hashWidth, littleEndian32, bigEndian32]

theorem key_fields_encode (account : Account) : keyFields account.encode = account.keyBytes := by
  rw [keyFields, encode_parts, List.drop_left' (pad_field_length _ _ (by decide)),
    List.take_left' account.key_bytes_length]

/-- What a record is read as, field by field. -/
structure ReadFrom (record : Bytes) (account : Account) : Prop where
  sized : record.length = recordWidth
  username : utf8 account.username = fieldText (usernameField record)
  keys : account.keyBytes = keyFields record
  session : account.session = (ofUtf8? (fieldText (sessionField record))).getD ""

theorem read_from_of_decode {record : Bytes} {account : Account}
    (read : decode? record = some account) : ReadFrom record account := by
  unfold decode? at read
  split at read
  · rename_i sized
    obtain ⟨username, named, rfl⟩ := Option.map_eq_some_iff.mp read
    refine ⟨sized, of_utf8_eq_some.mp named, ?_, rfl⟩
    have keys : keyFields record =
        (record.drop 32).take 16 ++ (record.drop 48).take 32 ++ (record.drop 80).take 4 := by
      change (record.drop 32).take (16 + 32 + 4) = _
      rw [List.take_add, List.take_add, List.drop_drop, List.drop_drop]
    rw [keys, keyBytes, little_endian_of_little_endian, slice_bytes_list, slice_bytes_list,
      slice_bytes_list]
  · simp at read

theorem decode_is_some_iff {record : Bytes} :
    (decode? record).isSome = true ↔
      record.length = recordWidth ∧ IsUtf8 (fieldText (usernameField record)) := by
  unfold decode?
  split
  · rename_i sized
    have readable : (unpadField (record.take usernameWidth)).isSome = true ↔
        IsUtf8 (fieldText (usernameField record)) := by
      rw [← not_iff_not, Bool.not_eq_true, Option.isSome_eq_false_iff, Option.isNone_iff_eq_none]
      exact of_utf8_eq_none
    rw [Option.isSome_map, readable]
    exact ⟨fun read => ⟨sized, read⟩, fun both => both.2⟩
  · rename_i other
    exact ⟨fun read => absurd read Bool.false_ne_true, fun both => absurd both.1 other⟩

theorem encode_eq_iff {record : Bytes} {account : Account}
    (sized : record.length = recordWidth) :
    account.encode = record ↔
      padField usernameWidth (utf8 account.username) = usernameField record ∧
        account.keyBytes = keyFields record ∧
        padField sessionWidth (utf8 account.session) = sessionField record := by
  have usernameSize : (padField usernameWidth (utf8 account.username)).length =
      (usernameField record).length := by
    rw [pad_field_length _ _ (by decide), username_field_length sized]
  have keySize : account.keyBytes.length = (keyFields record).length := by
    rw [key_bytes_length, keyFields, List.length_take, List.length_drop, sized]
    rfl
  constructor
  · intro same
    have parts := same.trans (record_parts record).symm
    rw [encode_parts] at parts
    obtain ⟨username, rest⟩ := List.append_inj parts usernameSize
    obtain ⟨keys, session⟩ := List.append_inj rest keySize
    exact ⟨username, keys, session⟩
  · rintro ⟨username, keys, session⟩
    rw [encode_parts, username, keys, session, record_parts]

/-- A session that cannot be read is written as none, which is not what stood there. -/
theorem ReadFrom.session_written_iff {record : Bytes} {account : Account}
    (read : ReadFrom record account) :
    padField sessionWidth (utf8 account.session) = sessionField record ↔
      Terminated (sessionField record) ∧ IsUtf8 (fieldText (sessionField record)) := by
  by_cases readable : IsUtf8 (fieldText (sessionField record))
  · obtain ⟨text, same⟩ := readable
    have session : utf8 account.session = fieldText (sessionField record) := by
      rw [read.session, of_utf8_eq_some.mpr same, Option.getD_some, same]
    rw [session, pad_field_text_iff (by decide) (session_field_length read.sized)]
    exact ⟨fun terminated => ⟨terminated, text, same⟩, And.left⟩
  · have session : account.session = "" := by
      rw [read.session, of_utf8_eq_none.mpr readable, Option.getD_none]
    refine iff_of_false ?_ (fun both => readable both.2)
    intro same
    have empty : fieldText (sessionField record) = utf8 "" := by
      rw [← same, session]
      exact field_text_padded [] _
    exact readable ⟨"", empty.symm⟩

theorem ReadFrom.encode_eq_self_iff {record : Bytes} {account : Account}
    (read : ReadFrom record account) : account.encode = record ↔ Canonical record := by
  rw [encode_eq_iff read.sized, read.session_written_iff, read.username,
    pad_field_text_iff (by decide) (username_field_length read.sized)]
  constructor
  · rintro ⟨username, _, session, readable⟩
    exact ⟨username, session, readable⟩
  · intro canonical
    exact ⟨canonical.username, read.keys, canonical.session, canonical.readable⟩

/-- A record is read if it has its width and a readable name. Written again, it keeps its salt, hash
and iterations, and it is the same record just if its texts were as they are written. What is read
of a record that was written once more is read again of its own record. -/
theorem read_records_are_restored (record : Bytes) :
    ((decode? record).isSome = true ↔
        record.length = recordWidth ∧ IsUtf8 (fieldText (usernameField record))) ∧
      (∀ account, decode? record = some account →
        keyFields account.encode = keyFields record ∧
          (account.encode = record ↔ Canonical record)) ∧
      ∀ account again : Account, decode? account.encode = some again →
        decode? again.encode = some again := by
  refine ⟨decode_is_some_iff, ?_, ?_⟩
  · intro account decoded
    have read := read_from_of_decode decoded
    exact ⟨(key_fields_encode account).trans read.keys, read.encode_eq_self_iff⟩
  · intro account again decoded
    exact decode_encode (storable_of_decode_encode decoded)

/-- A name that fills its field to the last byte. It is read whole, but not written so. -/
def fullRecord : Bytes := utf8 splitName ++ List.replicate 117 0

theorem full_name_is_not_restored :
    let account : Account := ⟨splitName, Vector.replicate 16 0, Vector.replicate 32 0, 0, ""⟩
    decode? fullRecord = some account ∧ keyFields account.encode = keyFields fullRecord ∧
      account.encode ≠ fullRecord ∧ decode? account.encode = none ∧
      Canonical bobSignedIn.encode ∧ decode? bobSignedIn.encode = some bobSignedIn := by
  intro account
  have read : decode? fullRecord = some account := by decide +kernel
  have unended : ¬ Canonical fullRecord := by
    intro canonical
    exact absurd canonical.username.ends (by decide +kernel)
  have decoded : decode? bobSignedIn.encode = some bobSignedIn := by decide +kernel
  obtain ⟨_, kept, _⟩ := read_records_are_restored fullRecord
  obtain ⟨keys, restored⟩ := kept account read
  obtain ⟨_, bobKept, again⟩ := read_records_are_restored bobSignedIn.encode
  exact ⟨read, keys, mt restored.mp unended, by decide +kernel, (bobKept _ decoded).2.mp rfl,
    again _ _ decoded⟩

end Account

end Accounts
