/-!
Byte strings, their lowercase hexadecimal text, and machine words laid out as bytes.
-/

namespace Accounts

abbrev Byte := UInt8

abbrev Bytes := List Byte

/-- The character of one hexadecimal digit; letters are small. -/
def hexDigit (value : Nat) : Char :=
  if value < 10 then Char.ofNat (48 + value) else Char.ofNat (87 + value)

def hexDigitValue? (char : Char) : Option Nat :=
  if '0' ≤ char ∧ char ≤ '9' then some (char.toNat - 48)
  else if 'a' ≤ char ∧ char ≤ 'f' then some (char.toNat - 87)
  else if 'A' ≤ char ∧ char ≤ 'F' then some (char.toNat - 55)
  else none

def hexByte (byte : Byte) : List Char :=
  [hexDigit (byte.toNat / 16), hexDigit (byte.toNat % 16)]

def hexChars (bytes : Bytes) : List Char := bytes.flatMap hexByte

def hexText (bytes : Bytes) : String := String.ofList (hexChars bytes)

def ofHexChars? : List Char → Option Bytes
  | [] => some []
  | [_] => none
  | high :: low :: rest => do
      let highValue ← hexDigitValue? high
      let lowValue ← hexDigitValue? low
      let bytes ← ofHexChars? rest
      some (UInt8.ofNat (16 * highValue + lowValue) :: bytes)

def ofHexText? (text : String) : Option Bytes := ofHexChars? text.toList

def bigEndian32 (word : UInt32) : Bytes :=
  [(word >>> 24).toUInt8, (word >>> 16).toUInt8, (word >>> 8).toUInt8, word.toUInt8]

def bigEndian64 (word : UInt64) : Bytes :=
  bigEndian32 (word >>> 32).toUInt32 ++ bigEndian32 word.toUInt32

def littleEndian32 (word : UInt32) : Bytes := (bigEndian32 word).reverse

/-- The word whose bytes are given, the most significant first. -/
def word32 (first second third fourth : Byte) : UInt32 :=
  first.toUInt32 <<< 24 ||| second.toUInt32 <<< 16 ||| third.toUInt32 <<< 8 ||| fourth.toUInt32

def ofLittleEndian32 (bytes : Vector Byte 4) : UInt32 :=
  word32 bytes[3] bytes[2] bytes[1] bytes[0]

def sliceBytes (bytes : Bytes) (start width : Nat) (fits : start + width ≤ bytes.length) :
    Vector Byte width :=
  ⟨((bytes.drop start).take width).toArray, by
    simp only [List.size_toArray, List.length_take, List.length_drop]
    omega⟩

/-- The bytes of a buffer after a piece was written over them from `start` on. -/
def overwrite {width : Nat} (buffer : Vector Byte width) (start : Nat) (piece : Bytes)
    (fits : start + piece.length ≤ width) : Vector Byte width :=
  ⟨(buffer.toList.take start ++ piece ++ buffer.toList.drop (start + piece.length)).toArray, by
    simp only [List.size_toArray, List.length_append, List.length_take, List.length_drop,
      Vector.length_toList]
    omega⟩

/-- The differences of all byte pairs are gathered before the answer is given,
so the work done depends on the lengths alone. -/
def sameBytes (left right : Bytes) : Bool :=
  left.length == right.length &&
    (List.zipWith (· ^^^ ·) left right).foldl (· ||| ·) 0 == 0

end Accounts
