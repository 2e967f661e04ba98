import Mathlib.Data.List.Basic
import Accounts.Toml.Written

/-!
# Quoted text that is read back

A text is written between marks as a row of pieces. Most of them are read the same
whatever follows; a mark that stands for itself in a block is the exception, as it must
not look like the closing marks. So it is told what follows it, and the reader finds the
end of every text where the writer put it.
-/

namespace Accounts.Toml

/-- `body` is one of the ways to write `text` behind the opening marks. -/
inductive Spells (quote : Quote) : (body text : List Char) → Prop where
  | done : Spells quote [] []
  | piece {head : Char} {tail content body text : List Char}
      (reads : ∀ rest, piece? quote head (tail ++ rest) = some (.inside content tail.length))
      (later : Spells quote body text) :
      Spells quote (head :: (tail ++ body)) (content ++ text)
  | mark {body text : List Char} (block : quote.isBlock = true)
      (apart : body.take 2 ≠ [quote.mark, quote.mark]) (later : Spells quote body text) :
      Spells quote (quote.mark :: body) (quote.mark :: text)

theorem read_pieces_inside {quote : Quote} {head : Char} {chars content : List Char} {width : Nat}
    (inside : piece? quote head chars = some (.inside content width)) :
    readPieces quote (head :: chars) =
      (readPieces quote (chars.drop width)).map fun result =>
        (content ++ result.1, result.2 + width + 1) := by
  rw [readPieces, inside]

theorem read_pieces_close {quote : Quote} {head : Char} {chars content : List Char} {width : Nat}
    (closes : piece? quote head chars = some (.close content width)) :
    readPieces quote (head :: chars) = some (content, width + 1) := by
  rw [readPieces, closes]

theorem piece_of_mark (quote : Quote) (chars : List Char) :
    piece? quote quote.mark chars = some (markPiece quote chars) := if_pos rfl

theorem mark_piece_of_line {quote : Quote} (line : quote.isBlock = false) (chars : List Char) :
    markPiece quote chars = .close [] 0 := by
  simp [markPiece, line]

theorem mark_piece_of_apart {quote : Quote} {chars : List Char} (block : quote.isBlock = true)
    (apart : chars.take 2 ≠ [quote.mark, quote.mark]) :
    markPiece quote chars = .inside [quote.mark] 0 := by
  simp [markPiece, block, apart]

theorem leading_marks {mark : Char} {count : Nat} {rest : List Char} (few : count ≤ 2)
    (apart : rest.head? ≠ some mark) :
    ((List.replicate count mark ++ rest).take 2).takeWhile (· == mark) =
      List.replicate count mark := by
  have nothing : rest.takeWhile (· == mark) = [] := by
    cases rest with
    | nil => rfl
    | cons char rest => exact List.takeWhile_cons_of_neg (by simpa using apart)
  have all : ∀ char ∈ List.replicate count mark, (char == mark) = true := by
    intro char member
    rw [List.eq_of_mem_replicate member, beq_self_eq_true]
  rw [List.take_append, List.take_of_length_le (by rwa [List.length_replicate]),
    List.takeWhile_append_of_pos all, ← List.take_takeWhile, nothing, List.take_nil,
    List.append_nil]

/-- The marks right before the closing ones belong to the text. -/
theorem read_pieces_last_marks {quote : Quote} (count : Nat) {rest : List Char}
    (block : quote.isBlock = true) (few : count ≤ 2) (apart : rest.head? ≠ some quote.mark) :
    readPieces quote (List.replicate count quote.mark ++ (quote.delimiter ++ rest)) =
      some (List.replicate count quote.mark, count + quote.delimiter.length) := by
  have delimiter : quote.delimiter = List.replicate 3 quote.mark := by
    simp only [Quote.delimiter, block, if_true]
    rfl
  have marks : List.replicate count quote.mark ++ (quote.delimiter ++ rest) =
      quote.mark :: quote.mark :: quote.mark :: (List.replicate count quote.mark ++ rest) := by
    calc
      _ = List.replicate (count + 3) quote.mark ++ rest := by
        rw [delimiter, ← List.append_assoc, List.replicate_append_replicate]
      _ = List.replicate 3 quote.mark ++ List.replicate count quote.mark ++ rest := by
        rw [List.replicate_append_replicate, Nat.add_comm]
      _ = _ := rfl
  have closes : markPiece quote
      (quote.mark :: quote.mark :: (List.replicate count quote.mark ++ rest)) =
      .close (List.replicate count quote.mark) (2 + count) := by
    simp [markPiece, block, leading_marks few apart]
  rw [marks, read_pieces_close ((piece_of_mark _ _).trans (congrArg some closes)), delimiter,
    List.length_replicate, Nat.add_comm 2 count]

theorem delimiter_of_line {quote : Quote} (line : quote.isBlock = false) :
    quote.delimiter = [quote.mark] := by
  simp [Quote.delimiter, line]

/-- A mark that stands for itself is followed by two marks only if it is one of the last two
characters of the text; then it is read together with the closing marks. -/
theorem take_two_of_apart {mark : Char} {body : List Char} (rest : List Char)
    (apart : body.take 2 ≠ [mark, mark]) (nonempty : body ≠ []) (other : body ≠ [mark]) :
    (body ++ rest).take 2 ≠ [mark, mark] := by
  match body with
  | [] => exact absurd rfl nonempty
  | [char] =>
      have unlike : char ≠ mark := fun same => other (same ▸ rfl)
      simp [unlike]
  | first :: second :: body => exact apart

theorem Spells.read_pieces {quote : Quote} {body text rest : List Char}
    (spells : Spells quote body text) (apart : rest.head? ≠ some quote.mark) :
    readPieces quote (body ++ (quote.delimiter ++ rest)) =
      some (text, body.length + quote.delimiter.length) := by
  induction spells with
  | done =>
      cases block : quote.isBlock with
      | true => exact read_pieces_last_marks 0 block (by decide) apart
      | false =>
          rw [delimiter_of_line block]
          exact read_pieces_close
            ((piece_of_mark quote rest).trans (congrArg some (mark_piece_of_line block rest)))
  | @piece head tail content body text reads later ih =>
      have first := reads (body ++ (quote.delimiter ++ rest))
      rw [List.cons_append, List.append_assoc, read_pieces_inside first, List.drop_left, ih]
      simp only [Option.map_some, List.length_cons, List.length_append]
      congr 2
      omega
  | @mark body text block single later ih =>
      -- At the end of the text, this mark and one more are read together with the closing marks.
      by_cases marks : ∃ count ≤ 1, body = List.replicate count quote.mark
      · obtain ⟨count, few, rfl⟩ := marks
        rw [read_pieces_last_marks count block (by omega) apart] at ih
        obtain rfl := (Prod.mk.inj (Option.some.inj ih)).1
        have longer := read_pieces_last_marks (count + 1) block (by omega) apart
        simpa [List.replicate_succ] using longer
      · have nonempty : body ≠ [] := fun same => marks ⟨0, by decide, same⟩
        have other : body ≠ [quote.mark] := fun same => marks ⟨1, by decide, same⟩
        have inside := mark_piece_of_apart block
          (take_two_of_apart (quote.delimiter ++ rest) single nonempty other)
        rw [List.cons_append,
          read_pieces_inside ((piece_of_mark _ _).trans (congrArg some inside)), List.drop_zero, ih]
        simp only [Option.map_some, List.length_cons, List.singleton_append]
        congr 2
        omega

theorem piece_of_line_feed (quote : Quote) (chars : List Char) :
    piece? quote '\n' chars = if quote.isBlock then some (.inside ['\n'] 0) else none := by
  cases quote <;> rfl

theorem piece_of_return (quote : Quote) (chars : List Char) :
    piece? quote '\r' chars =
      if quote.isBlock ∧ chars.head? = some '\n' then some (.inside ['\r', '\n'] 1) else none := by
  have unlike : '\r' ≠ quote.mark := by cases quote <;> decide
  have plain : ¬ (isPlain '\r' = true ∨ quote.isBlock = true ∧ '\r' = '\n') := by
    rintro (plain | ⟨_, same⟩)
    · exact absurd plain (by decide)
    · exact absurd same (by decide)
  rw [piece?, if_neg unlike, if_neg (by simp), if_neg plain]
  simp only [true_and]

theorem break_width_of_head {head : Char} {chars : List Char} (feed : head ≠ '\n')
    (back : head ≠ '\r') : breakWidth (head :: chars) = 0 := by
  unfold breakWidth
  split
  · rename_i same
    exact absurd (List.cons.inj same).1 feed
  · rename_i same
    exact absurd (List.cons.inj same).1 back
  · rfl

theorem break_width_of_mark (quote : Quote) (chars : List Char) :
    breakWidth (quote.mark :: chars) = 0 := by
  cases quote <;> rfl

/-- A piece that starts with a line break stands for one. -/
theorem break_of_piece {quote : Quote} {head : Char} {tail content chars : List Char}
    (reads : ∀ rest, piece? quote head (tail ++ rest) = some (.inside content tail.length))
    (breaks : breakWidth (head :: (tail ++ chars)) ≠ 0) : '\n' ∈ content := by
  by_cases feed : head = '\n'
  · have first := reads []
    rw [feed, piece_of_line_feed] at first
    split at first
    · obtain ⟨rfl, _⟩ := Piece.inside.inj (Option.some.inj first)
      exact List.mem_singleton_self _
    · cases first
  · by_cases back : head = '\r'
    · -- What follows the piece does not count, so the line feed is a part of it.
      have first := reads []
      rw [back, piece_of_return] at first
      split at first
      · obtain ⟨rfl, _⟩ := Piece.inside.inj (Option.some.inj first)
        exact List.mem_cons_of_mem _ (List.mem_singleton_self _)
      · cases first
    · exact absurd (break_width_of_head feed back) breaks

/-- Behind the opening marks of a block, only a break of the text itself is a line break. -/
theorem Spells.no_break_first {quote : Quote} {body text rest : List Char}
    (spells : Spells quote body text) (unbroken : '\n' ∉ text) :
    breakWidth (body ++ quote.mark :: rest) = 0 := by
  cases spells with
  | done => exact break_width_of_mark quote rest
  | @piece head tail content body text reads later =>
      by_contra breaks
      rw [List.cons_append, List.append_assoc] at breaks
      exact unbroken (List.mem_append_left _ (break_of_piece reads breaks))
  | mark block apart later => exact break_width_of_mark quote _

/-- On a line, the mark behind the opening one is the closing one. -/
theorem Spells.head_ne_mark {quote : Quote} {body text : List Char}
    (spells : Spells quote body text) (line : quote.isBlock = false) :
    body.head? ≠ some quote.mark := by
  cases spells with
  | done => simp
  | @piece head tail content body text reads later =>
      rintro same
      obtain rfl : head = quote.mark := by simpa using same
      have closes := (piece_of_mark quote (tail ++ [])).symm.trans (reads [])
      rw [mark_piece_of_line line] at closes
      cases Option.some.inj closes
  | mark block apart later => simp [line] at block

theorem opened_block {quote : Quote} (block : quote.isBlock = true) (chars : List Char) :
    Quote.opened quote.mark (quote.mark :: quote.mark :: chars) = quote := by
  cases quote with
  | basic => cases block
  | literal => cases block
  | basicBlock => rfl
  | literalBlock => rfl

theorem opened_line {quote : Quote} {chars : List Char} (line : quote.isBlock = false)
    (single : chars.take 2 ≠ [quote.mark, quote.mark]) : Quote.opened quote.mark chars = quote := by
  rw [Quote.opened, if_neg single]
  cases quote with
  | basic => rfl
  | literal => rfl
  | basicBlock => cases line
  | literalBlock => cases line

theorem Spells.take_two_of_line {quote : Quote} {body text rest : List Char}
    (spells : Spells quote body text) (line : quote.isBlock = false)
    (apart : rest.head? ≠ some quote.mark) :
    (body ++ quote.mark :: rest).take 2 ≠ [quote.mark, quote.mark] := by
  have first := spells.head_ne_mark line
  cases body with
  | nil =>
      cases rest with
      | nil => simp
      | cons char rest => simpa using apart
  | cons char body =>
      intro same
      have front := congrArg List.head? same
      exact first (by simpa using front)

theorem read_quoted_of_pieces {quote : Quote} {mark : Char} {chars text : List Char}
    (start : Nat) {used : Nat} (opened : Quote.opened mark chars = quote)
    (starts : (if quote.isBlock then 2 + breakWidth (chars.drop 2) else 0) = start)
    (pieces : readPieces quote (chars.drop start) = some (text, used)) :
    readQuoted mark chars = some (quote, text, start + used) := by
  unfold readQuoted
  simp only [opened, starts, pieces, Option.map_some]

theorem delimiter_of_block {quote : Quote} (block : quote.isBlock = true) :
    quote.delimiter = [quote.mark, quote.mark, quote.mark] := by
  simp [Quote.delimiter, block]

/-- The line break that is put in front of a text with line breaks is taken away again. -/
theorem read_quoted_spelled {quote : Quote} {body text rest : List Char}
    (spells : Spells quote body text) (apart : rest.head? ≠ some quote.mark) :
    let start := if quote.isBlock && hasBreak text then ['\n'] else []
    let behind := quote.delimiter.tail ++ start ++ body ++ quote.delimiter
    readQuoted quote.mark (behind ++ rest) = some (quote, text, behind.length) := by
  intro start behind
  have pieces := spells.read_pieces apart
  cases block : quote.isBlock with
  | false =>
      have delimiter := delimiter_of_line block
      have whole : behind ++ rest = body ++ quote.mark :: rest := by
        simp [behind, start, block, delimiter]
      rw [delimiter] at pieces
      have read := read_quoted_of_pieces 0
        (opened_line block (spells.take_two_of_line block apart)) (by rw [block]; rfl) pieces
      rw [whole, read]
      simp [behind, start, block, delimiter]
  | true =>
      have delimiter := delimiter_of_block block
      have whole : behind ++ rest =
          quote.mark :: quote.mark :: (start ++ (body ++ (quote.delimiter ++ rest))) := by
        simp [behind, delimiter]
      have width : breakWidth (start ++ (body ++ (quote.delimiter ++ rest))) = start.length := by
        cases broken : hasBreak text with
        | true => simp [start, block, broken, breakWidth]
        | false =>
            have unbroken : '\n' ∉ text := by simpa [hasBreak] using broken
            rw [delimiter]
            simpa [start, block, broken] using spells.no_break_first unbroken
      have onward : (quote.mark :: quote.mark ::
          (start ++ (body ++ (quote.delimiter ++ rest)))).drop (2 + start.length) =
          body ++ (quote.delimiter ++ rest) := by
        rw [Nat.add_comm]
        exact List.drop_left
      rw [← onward] at pieces
      have read := read_quoted_of_pieces (2 + start.length) (opened_block block _)
        (by rw [block]; exact congrArg (2 + ·) width) pieces
      rw [whole, read]
      simp [behind, delimiter]
      omega

end Accounts.Toml
