import Accounts.Proofs.Toml.Quoting

/-!
# The spelling of a written text

The form without escapes is chosen only where every character can stand for itself and the
marks of the text come in runs that are too short to close it. Otherwise each character is
written so that it reads back alone, and a third mark in a row is escaped. So every text
reads back from the form that is chosen for it.
-/

namespace Accounts.Toml

section

variable (wanted : Char)

/-- Counts on with the run at hand and the longest one so far. -/
def countRun (counts : Nat × Nat) (char : Char) : Nat × Nat :=
  let current := if char = wanted then counts.1 + 1 else 0
  (current, max counts.2 current)

theorem longest_run_eq (chars : List Char) :
    longestRun wanted chars = (chars.foldl (countRun wanted) (0, 0)).2 := rfl

theorem count_run_mono {counts greater : Nat × Nat} (current : counts.1 ≤ greater.1)
    (longest : counts.2 ≤ greater.2) (chars : List Char) :
    (chars.foldl (countRun wanted) counts).2 ≤ (chars.foldl (countRun wanted) greater).2 := by
  induction chars generalizing counts greater with
  | nil => exact longest
  | cons char chars ih =>
      apply ih
      · simp only [countRun]
        split <;> omega
      · simp only [countRun]
        split <;> omega

theorem le_count_run (counts : Nat × Nat) (chars : List Char) :
    counts.2 ≤ (chars.foldl (countRun wanted) counts).2 := by
  induction chars generalizing counts with
  | nil => exact Nat.le_refl _
  | cons char chars ih =>
      exact Nat.le_trans (Nat.le_max_left _ _) (ih (countRun wanted counts char))

theorem longest_run_tail (char : Char) (chars : List Char) :
    longestRun wanted chars ≤ longestRun wanted (char :: chars) := by
  rw [longest_run_eq, longest_run_eq]
  exact count_run_mono wanted (Nat.zero_le _) (Nat.zero_le _) chars

theorem count_run_replicate (counts : Nat × Nat) (ordered : counts.1 ≤ counts.2) (count : Nat)
    (chars : List Char) :
    counts.1 + count ≤
      ((List.replicate count wanted ++ chars).foldl (countRun wanted) counts).2 := by
  induction count generalizing counts with
  | zero => exact Nat.le_trans ordered (le_count_run wanted counts chars)
  | succ count ih =>
      have step : countRun wanted counts wanted = (counts.1 + 1, max counts.2 (counts.1 + 1)) := by
        simp only [countRun, if_true]
      have later := ih (countRun wanted counts wanted) (by rw [step]; omega)
      rw [step] at later
      rw [List.replicate_succ, List.cons_append, List.foldl_cons, step]
      omega

theorem le_longest_run (count : Nat) (chars : List Char) :
    count ≤ longestRun wanted (List.replicate count wanted ++ chars) := by
  have counted := count_run_replicate wanted (0, 0) (Nat.le_refl 0) count chars
  rwa [Nat.zero_add, ← longest_run_eq] at counted

end

/-- How many marks in a row can stand for themselves. -/
def Quote.maxMarks (quote : Quote) : Nat := if quote.isBlock then 2 else 0

/-- Characters that can stand for themselves in a quote. -/
def Quote.Shows (quote : Quote) (chars : List Char) : Prop :=
  ∀ char ∈ chars, isPlain char = true ∨ quote.isBlock = true ∧ char = '\n'

theorem literal_spells {quote : Quote} (literal : quote.hasEscapes = false) {chars : List Char}
    (shown : quote.Shows chars) (few : longestRun quote.mark chars ≤ quote.maxMarks) :
    Spells quote chars chars := by
  induction chars with
  | nil => exact .done
  | cons char chars ih =>
      have later := ih (fun other member => shown other (List.mem_cons_of_mem _ member))
        (Nat.le_trans (longest_run_tail quote.mark char chars) few)
      by_cases marked : char = quote.mark
      · subst marked
        have one := le_longest_run quote.mark 1 chars
        have block : quote.isBlock = true := by
          by_contra line
          have none : quote.maxMarks = 0 := if_neg line
          have least := Nat.le_trans one few
          omega
        refine .mark block ?_ later
        intro two
        have marks : chars = List.replicate 2 quote.mark ++ chars.drop 2 := by
          rw [← List.take_append_drop 2 chars, two]
          rfl
        have three := le_longest_run quote.mark 3 (chars.drop 2)
        have most : quote.maxMarks = 2 := if_pos block
        rw [marks] at few
        have least := Nat.le_trans three few
        omega
      · have reads : ∀ rest, piece? quote char ([] ++ rest) = some (.inside [char] 0) := by
          intro rest
          rw [piece?, if_neg marked, if_neg (by simp [literal]),
            if_pos (shown char List.mem_cons_self)]
        exact .piece reads later

theorem upper_hex_digit_value {value : Nat} (bound : value < 16) :
    hexDigitValue? (upperHexDigit value) = some value := by
  have all : ∀ value : Fin 16, hexDigitValue? (upperHexDigit value.val) = some value.val := by
    decide
  exact all ⟨value, bound⟩

theorem hex_code_value {code : Nat} (bound : code < 65536) :
    hexValue? (hexCode code) = some code := by
  have digit (place : Nat) :
      hexDigitValue? (upperHexDigit (code / place % 16)) = some (code / place % 16) :=
    upper_hex_digit_value (Nat.mod_lt _ (by decide))
  have last : hexDigitValue? (upperHexDigit (code % 16)) = some (code % 16) :=
    upper_hex_digit_value (Nat.mod_lt _ (by decide))
  simp only [hexValue?, hexCode, List.map_cons, List.map_nil, List.foldlM_cons, List.foldlM_nil,
    digit, last, Option.map_some, Option.bind_eq_bind, Option.bind_some, Option.pure_def,
    Option.some.injEq]
  omega

theorem code_char_of_hex_code {char : Char} (narrow : char.toNat < 65536) :
    codeChar? 4 (hexCode char.toNat) = some char := by
  have valid : char.toNat.isValidChar := char.valid
  have four : (hexCode char.toNat).length = 4 := rfl
  rw [codeChar?, if_pos four, hex_code_value narrow, Option.bind_some, if_pos valid,
    Char.ofNat_toNat]

/-- What is written for a character: a mark that stands for itself, or a piece of its own. -/
inductive WrittenChar (quote : Quote) (marks : Nat) (char : Char) : List Char → Prop where
  | mark (block : quote.isBlock = true) (few : marks < 2) (same : char = quote.mark) :
      WrittenChar quote marks char [quote.mark]
  | piece {head : Char} {tail : List Char} (other : head ≠ quote.mark)
      (reads : ∀ rest, piece? quote head (tail ++ rest) = some (.inside [char] tail.length)) :
      WrittenChar quote marks char (head :: tail)

theorem mark_of_escapes {quote : Quote} (escapes : quote.hasEscapes = true) :
    quote.mark = '"' := by
  cases quote with
  | basic => rfl
  | basicBlock => rfl
  | literal => cases escapes
  | literalBlock => cases escapes

section

variable {quote : Quote} {marks : Nat} {char : Char}

theorem written_escape {tail : List Char} (escapes : quote.hasEscapes = true)
    (reads : ∀ rest, escape? (tail ++ rest) = some (char, tail.length)) :
    WrittenChar quote marks char ('\\' :: tail) := by
  have other : '\\' ≠ quote.mark := by cases quote <;> decide
  refine .piece other ?_
  intro rest
  rw [piece?, if_neg other, if_pos ⟨rfl, escapes⟩, escapePiece?, reads rest]

theorem written_letter {letter : Char} (escapes : quote.hasEscapes = true)
    (means : letterEscape? letter = some char) : WrittenChar quote marks char ['\\', letter] :=
  written_escape escapes fun rest => by simp [escape?, means]

theorem written_code (escapes : quote.hasEscapes = true) (narrow : char.toNat < 65536) :
    WrittenChar quote marks char ('\\' :: 'u' :: hexCode char.toNat) := by
  apply written_escape escapes
  intro rest
  have four : (hexCode char.toNat ++ rest).take 4 = hexCode char.toNat := List.take_left' rfl
  have code := code_char_of_hex_code narrow
  rw [← four] at code
  have letter : letterEscape? 'u' = none := rfl
  have width : codeWidth? 'u' = some 4 := rfl
  simp only [List.cons_append, escape?, letter, width, code, Option.bind_eq_bind, Option.bind_some]
  rfl

theorem written_self (escapes : quote.hasEscapes = true) (plain : isPlain char = true)
    (unmarked : char ≠ '"') (unescaped : char ≠ '\\') :
    WrittenChar quote marks char [char] := by
  have other : char ≠ quote.mark := mark_of_escapes escapes ▸ unmarked
  refine .piece other ?_
  intro rest
  rw [piece?, if_neg other, if_neg fun both => unescaped both.1, if_pos (.inl plain)]
  rfl

theorem narrow_of_not_plain (hidden : ¬ isPlain char = true) : char.toNat < 65536 := by
  simp only [isPlain, Bool.or_eq_true, Bool.and_eq_true, decide_eq_true_eq, bne_iff_ne,
    not_or, not_and, not_not] at hidden
  by_cases low : 32 ≤ char.toNat
  · rw [hidden.2 low]
    decide
  · omega

theorem written_char (escapes : quote.hasEscapes = true) (marks : Nat) (char : Char) :
    WrittenChar quote marks char (writtenChar quote marks char) := by
  have marked := mark_of_escapes escapes
  unfold writtenChar
  split
  · exact written_letter escapes rfl
  · exact written_letter escapes rfl
  · split
    · rename_i block
      refine .piece (by rw [marked]; decide) fun rest => ?_
      exact (piece_of_line_feed quote rest).trans (if_pos block)
    · exact written_letter escapes rfl
  · exact written_letter escapes rfl
  · exact written_letter escapes rfl
  · exact written_letter escapes rfl
  · split
    · rename_i alone
      have itself : WrittenChar quote marks '"' [quote.mark] :=
        .mark alone.1 alone.2 marked.symm
      rwa [marked] at itself
    · exact written_letter escapes rfl
  · rename_i unescaped unmarked
    split
    · rename_i plain
      exact written_self escapes plain unmarked unescaped
    · rename_i hidden
      exact written_code escapes (narrow_of_not_plain hidden)

end

theorem escaped_head {quote : Quote} (escapes : quote.hasEscapes = true) {marks : Nat}
    {chars : List Char} (marked : (escaped quote marks chars).head? = some quote.mark) :
    marks < 2 := by
  cases chars with
  | nil => cases marked
  | cons char chars =>
      have written := written_char escapes marks char
      simp only [escaped] at marked
      generalize writtenChar quote marks char = first at written marked
      cases written with
      | mark block few same => exact few
      | piece other reads => exact absurd (Option.some.inj marked) other

/-- A mark that stands for itself is followed by at most one more. -/
theorem escaped_apart {quote : Quote} (escapes : quote.hasEscapes = true) (marks : Nat)
    (chars : List Char) :
    (escaped quote (marks + 1) chars).take 2 ≠ [quote.mark, quote.mark] := by
  intro two
  cases chars with
  | nil => cases two
  | cons char chars =>
      have written := written_char escapes (marks + 1) char
      simp only [escaped] at two
      generalize writtenChar quote (marks + 1) char = first at written two
      cases written with
      | mark block few same =>
          rw [if_pos (by rw [mark_of_escapes escapes])] at two
          have second : (escaped quote (marks + 1 + 1) chars).head? = some quote.mark := by
            have behind : (escaped quote (marks + 1 + 1) chars).take 1 = [quote.mark] :=
              (List.cons.inj two).2
            have head := congrArg List.head? behind
            rwa [List.head?_take, if_neg (by decide)] at head
          have bound := escaped_head escapes second
          omega
      | piece other reads => exact absurd (List.cons.inj two).1 other

theorem escaped_spells {quote : Quote} (escapes : quote.hasEscapes = true) (marks : Nat)
    (chars : List Char) : Spells quote (escaped quote marks chars) chars := by
  induction chars generalizing marks with
  | nil => exact .done
  | cons char chars ih =>
      have written := written_char escapes marks char
      simp only [escaped]
      generalize writtenChar quote marks char = first at written ⊢
      cases written with
      | mark block few same =>
          rw [if_pos (by rw [mark_of_escapes escapes]), same]
          exact .mark block (escaped_apart escapes marks chars) (ih (marks + 1))
      | piece other reads => exact .piece reads (ih _)

def Quote.spelling (quote : Quote) (chars : List Char) : List Char :=
  if quote.hasEscapes then escaped quote 0 chars else chars

theorem plain_or_break {chars : List Char} (shown : chars.any isHidden = false) {char : Char}
    (member : char ∈ chars) : isPlain char = true ∨ char = '\n' := by
  have visible := List.any_eq_false.mp shown char member
  by_cases breaks : char = '\n'
  · exact .inr breaks
  · left
    simpa [isHidden, breaks] using visible

/-- The forms without escapes are chosen for texts that need none. -/
theorem chosen_literal {chars : List Char} (literal : (chooseQuote chars).hasEscapes = false) :
    (chooseQuote chars).Shows chars ∧
      longestRun (chooseQuote chars).mark chars ≤ (chooseQuote chars).maxMarks := by
  revert literal
  simp only [chooseQuote]
  split
  · intro literal
    cases literal
  · split
    · rename_i chosen
      simp only [Bool.and_eq_true, Bool.not_eq_true', beq_iff_eq] at chosen
      obtain ⟨⟨shown, unmarked⟩, unbroken⟩ := chosen
      intro _
      refine ⟨?_, Nat.le_of_eq unmarked⟩
      intro char member
      rcases plain_or_break shown member with plain | rfl
      · exact .inl plain
      · have broken : hasBreak chars = true := List.contains_iff_mem.mpr member
        rw [unbroken] at broken
        cases broken
    · split
      · intro literal
        cases literal
      · split
        · rename_i chosen
          simp only [Bool.and_eq_true, Bool.not_eq_true', decide_eq_true_eq] at chosen
          intro _
          refine ⟨?_, chosen.2⟩
          intro char member
          exact (plain_or_break chosen.1 member).imp_right fun breaks => ⟨rfl, breaks⟩
        · intro literal
          split at literal <;> cases literal

theorem chosen_spells (chars : List Char) :
    Spells (chooseQuote chars) ((chooseQuote chars).spelling chars) chars := by
  cases kind : (chooseQuote chars).hasEscapes with
  | true =>
      rw [Quote.spelling, if_pos kind]
      exact escaped_spells kind 0 chars
  | false =>
      obtain ⟨shown, few⟩ := chosen_literal kind
      rw [Quote.spelling, if_neg (by rw [kind]; decide)]
      exact literal_spells kind shown few

theorem delimiter_eq_cons (quote : Quote) :
    quote.delimiter = quote.mark :: quote.delimiter.tail := by
  cases quote <;> rfl

/-- A written text is read back with the quote that was chosen for it. -/
theorem read_quoted_written (chars : List Char) {rest : List Char}
    (apart : rest.head? ≠ some (chooseQuote chars).mark) :
    ∃ behind, writtenText chars = (chooseQuote chars).mark :: behind ∧
      readQuoted (chooseQuote chars).mark (behind ++ rest) =
        some (chooseQuote chars, chars, behind.length) := by
  refine ⟨_, ?_, read_quoted_spelled (chosen_spells chars) apart⟩
  rw [← List.cons_append, ← List.cons_append, ← List.cons_append, ← delimiter_eq_cons]
  rfl

end Accounts.Toml
