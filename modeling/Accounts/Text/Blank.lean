/-!
White space in the sense of the Unicode property of that name, and texts
without it at either end.
-/

namespace Accounts

/-- Closed ranges of code points, ascending: 25 characters in all. -/
def blankRanges : List (Nat × Nat) :=
  [(0x09, 0x0d), (0x20, 0x20), (0x85, 0x85), (0xa0, 0xa0), (0x1680, 0x1680), (0x2000, 0x200a),
    (0x2028, 0x2029), (0x202f, 0x202f), (0x205f, 0x205f), (0x3000, 0x3000)]

def inRanges (ranges : List (Nat × Nat)) (code : Nat) : Bool :=
  ranges.any fun range => range.1 ≤ code && code ≤ range.2

def isBlank (char : Char) : Bool := inRanges blankRanges char.toNat

def trimBlankChars (chars : List Char) : List Char :=
  ((chars.dropWhile isBlank).reverse.dropWhile isBlank).reverse

def trimBlank (text : String) : String := String.ofList (trimBlankChars text.toList)

end Accounts
