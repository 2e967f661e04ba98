import Accounts.Toml.Document

/-!
# Written numbers

The decimal digits of a number have no sign and no prefix, none of them stands apart from
the others, and only zero itself starts with a zero. So they are read as the integer that
they were written for.
-/

namespace Accounts.Toml

theorem hex_digit_value_of_digit {digit : Char} (decimal : digit.isDigit = true) :
    hexDigitValue? digit = some (digit.toNat - '0'.toNat) := by
  simp only [Char.isDigit, Bool.and_eq_true, decide_eq_true_eq] at decimal
  exact if_pos decimal

theorem is_digit_in_of_digit {digit : Char} (decimal : digit.isDigit = true) :
    isDigitIn 10 digit = true := by
  have bounds := decimal
  simp only [Char.isDigit, Bool.and_eq_true, decide_eq_true_eq, ge_iff_le,
    UInt32.le_iff_toNat_le] at bounds
  have high : digit.toNat ≤ '9'.toNat := bounds.2
  have top : '9'.toNat = '0'.toNat + 9 := rfl
  simp only [isDigitIn, hex_digit_value_of_digit decimal, decide_eq_true_eq]
  omega

theorem beq_false_of_test {test : Char → Bool} {char other : Char} (holds : test char = true)
    (fails : test other = false) : (char == other) = false := by
  apply beq_false_of_ne
  rintro rfl
  rw [holds] at fails
  cases fails

theorem gap_of_digit {digit : Char} (decimal : digit.isDigit = true) : isGap digit = false := by
  have unlike (gap : Char) (other : gap.isDigit = false) : (digit == gap) = false :=
    beq_false_of_test decimal other
  rw [isGap, unlike ' ' (by decide), unlike '\t' (by decide), Bool.or_self]

section

variable {digits : List Char} (decimal : ∀ digit ∈ digits, digit.isDigit = true)

include decimal

theorem not_mem_digits {char : Char} (other : char.isDigit = false) : char ∉ digits := by
  intro member
  have digit := decimal char member
  rw [other] at digit
  cases digit

theorem digits_value_eq (start : Nat) :
    digits.foldl (fun value digit => 10 * value + (hexDigitValue? digit).getD 0) start =
      Nat.ofDigitChars 10 digits start := by
  induction digits generalizing start with
  | nil => rfl
  | cons digit digits ih =>
      obtain ⟨first, later⟩ := List.forall_mem_cons.mp decimal
      rw [List.foldl_cons, Nat.ofDigitChars_cons, hex_digit_value_of_digit first, Option.getD_some,
        ih later]

theorem numeral_of_digits (given : digits ≠ []) :
    numeral? 10 digits = some (Nat.ofDigitChars 10 digits 0) := by
  have single : digits.splitOn '_' = [digits] := by
    apply List.splitOnP_eq_singleton
    intro digit member
    exact beq_false_of_test (decimal digit member) (by decide)
  have proper : (digits.splitOn '_').all
      (fun group => !group.isEmpty && group.all (isDigitIn 10)) = true := by
    have all : digits.all (isDigitIn 10) = true :=
      List.all_eq_true.mpr fun digit member => is_digit_in_of_digit (decimal digit member)
    simp [single, given, all]
  rw [numeral?, ungrouped?, if_pos proper, single, List.flatten_singleton, Option.map_some,
    digitsValue, digits_value_eq decimal]

theorem trim_gap_digits : trimGap digits = digits := by
  have solid : digits.reverse.dropWhile isGap = digits.reverse := by
    cases reversed : digits.reverse with
    | nil => rfl
    | cons last front =>
        have member : last ∈ digits := by
          rw [← List.mem_reverse, reversed]
          exact List.mem_cons_self
        exact List.dropWhile_cons_of_neg (by simp [gap_of_digit (decimal last member)])
  rw [trimGap, solid, List.reverse_reverse]

theorem keyword_of_digits : keyword? digits = none := by
  have unlike : ∀ word ∈ ["true", "false", "inf", "+inf", "-inf", "nan", "+nan", "-nan"],
      String.ofList digits ≠ word := by
    rintro word listed rfl
    have spelled : ∀ word ∈ ["true", "false", "inf", "+inf", "-inf", "nan", "+nan", "-nan"],
        word.toList.any (fun char => !char.isDigit) = true := by decide
    obtain ⟨char, member, other⟩ := List.any_eq_true.mp (spelled _ listed)
    rw [String.toList_ofList] at member
    exact not_mem_digits decimal (by simpa using other) member
  unfold keyword?
  split
  all_goals first
    | rfl
    | exact absurd ‹_› (unlike _ (by decide))

theorem without_sign_digits : withoutSign digits = digits := by
  unfold withoutSign
  split
  · exact absurd List.mem_cons_self (not_mem_digits decimal (by decide))
  · exact absurd List.mem_cons_self (not_mem_digits decimal (by decide))
  · rfl

theorem is_minus_digits : isMinus digits = false := by
  unfold isMinus
  split
  · exact absurd List.mem_cons_self (not_mem_digits decimal (by decide))
  · rfl

theorem integer_of_digits :
    integer? digits = ((wholeNumeral? digits).map Int.ofNat).filter fitsInteger := by
  have unlike {char : Char} (other : char.isDigit = false) (chars : List Char) :
      digits ≠ '0' :: char :: chars := by
    rintro rfl
    exact not_mem_digits decimal other (List.mem_cons_of_mem _ List.mem_cons_self)
  unfold integer?
  split
  · exact absurd rfl (unlike (by decide) _)
  · exact absurd rfl (unlike (by decide) _)
  · exact absurd rfl (unlike (by decide) _)
  · rw [without_sign_digits decimal, is_minus_digits decimal]
    rfl

end

theorem to_digits_decimal (value : Nat) :
    ∀ digit ∈ Nat.toDigits 10 value, digit.isDigit = true :=
  fun _ member => Nat.isDigit_of_mem_toDigits (by decide) (by decide) member

/-- Only zero has a zero in front. -/
theorem head_to_digits {value : Nat} (positive : 0 < value) :
    (Nat.toDigits 10 value).head? ≠ some '0' := by
  induction value using Nat.strongRecOn with
  | ind value ih =>
      by_cases small : value < 10
      · have digits : ∀ value : Fin 10, 0 < value.val → Nat.digitChar value.val ≠ '0' := by decide
        rw [Nat.toDigits_of_lt_base small]
        simpa using digits ⟨value, small⟩ positive
      · -- The first digit is that of the number without its last digit.
        have front := ih (value / 10) (by omega) (by omega)
        obtain ⟨first, rest, digits⟩ :=
          List.exists_cons_of_ne_nil (l := Nat.toDigits 10 (value / 10)) Nat.toDigits_ne_nil
        rw [digits] at front
        rwa [Nat.toDigits_of_base_le (by decide) (by omega), digits]

theorem whole_numeral_to_digits (value : Nat) :
    wholeNumeral? (Nat.toDigits 10 value) = some value := by
  have decimal := to_digits_decimal value
  have proper : ¬ ((Nat.toDigits 10 value).head? = some '0' ∧
      (Nat.toDigits 10 value).length ≠ 1) := by
    rintro ⟨zero, long⟩
    by_cases positive : 0 < value
    · exact head_to_digits positive zero
    · obtain rfl : value = 0 := by omega
      exact long rfl
  rw [wholeNumeral?, if_neg proper, numeral_of_digits decimal Nat.toDigits_ne_nil,
    Nat.ofDigitChars_ten_toDigits]

theorem plain_scalar_to_digits {value : Nat} (fits : value < Nat.pow 2 128) :
    plainScalar? (trimGap (Nat.toDigits 10 value)) = some (.integer value) := by
  have decimal := to_digits_decimal value
  have whole : integer? (Nat.toDigits 10 value) = some (value : Int) := by
    rw [integer_of_digits decimal, whole_numeral_to_digits, Option.map_some]
    exact Option.filter_some_pos (decide_eq_true fits)
  rw [trim_gap_digits decimal, plainScalar?]
  simp only [keyword_of_digits decimal, whole]

end Accounts.Toml
