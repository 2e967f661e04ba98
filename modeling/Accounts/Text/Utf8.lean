import Accounts.Bytes

/-!
Text as UTF-8 bytes. `ofUtf8?` refuses bytes that are not UTF-8; `lossyUtf8`
shows them, with U+FFFD for every damaged piece.
-/

namespace Accounts

def utf8 (text : String) : Bytes := text.toByteArray.data.toList

def ofUtf8? (bytes : Bytes) : Option String := String.fromUTF8? ⟨bytes.toArray⟩

/-- The bytes that must follow a lead byte: their number, and the bounds of the first of them.
A byte that starts no character has none. -/
def continuation (lead : Byte) : Option (Nat × Byte × Byte) :=
  if lead < 0x80 then some (0, 0x80, 0xbf)
  else if lead < 0xc2 then none
  else if lead < 0xe0 then some (1, 0x80, 0xbf)
  else if lead = 0xe0 then some (2, 0xa0, 0xbf)
  else if lead = 0xed then some (2, 0x80, 0x9f)
  else if lead < 0xf0 then some (2, 0x80, 0xbf)
  else if lead = 0xf0 then some (3, 0x90, 0xbf)
  else if lead < 0xf4 then some (3, 0x80, 0xbf)
  else if lead = 0xf4 then some (3, 0x80, 0x8f)
  else none

/-- How many of the next bytes continue a character, of at most `count`. -/
def continued : (count : Nat) → (low high : Byte) → Bytes → Nat
  | 0, _, _, _ => 0
  | _ + 1, _, _, [] => 0
  | count + 1, low, high, byte :: rest =>
      if low ≤ byte ∧ byte ≤ high then continued count 0x80 0xbf rest + 1 else 0

/-- A damaged piece is the longest start of a character, or else one byte. -/
def lossyChars : Bytes → List Char
  | [] => []
  | lead :: rest =>
      let taken := match continuation lead with
        | some (count, low, high) => continued count low high rest
        | none => 0
      let shown := match ofUtf8? (lead :: rest.take taken) with
        | some text => text.toList
        | none => ['\uFFFD']
      shown ++ lossyChars (rest.drop taken)
termination_by bytes => bytes.length
decreasing_by
  simp only [List.length_drop, List.length_cons]
  omega

def lossyUtf8 (bytes : Bytes) : String := String.ofList (lossyChars bytes)

end Accounts
