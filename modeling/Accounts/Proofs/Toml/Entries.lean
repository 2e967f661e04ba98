import Accounts.Proofs.Toml.Numerals
import Accounts.Proofs.Toml.Spelling

/-!
# Written entries

Each part of a written line is one token, whatever the lines behind it. The tokens of a
whole line take the reading from one line start to the next and add the entry to the table,
so a document of such lines is read as the table of its entries, in any order, as long as
no name comes twice.
-/

namespace Accounts.Toml

/-- Read in front of `rest`, `chars` are these tokens. -/
def Lexes (chars : List Char) (tokens : List Token) (rest : List Char) : Prop :=
  tokens? (chars ++ rest) = (tokens? rest).map (tokens ++ ·)

theorem Lexes.append {chars more rest : List Char} {tokens others : List Token}
    (first : Lexes chars tokens (more ++ rest)) (second : Lexes more others rest) :
    Lexes (chars ++ more) (tokens ++ others) rest := by
  unfold Lexes at *
  rw [List.append_assoc, first, second, Option.map_map]
  congr 1
  funext later
  exact (List.append_assoc tokens others later).symm

theorem lexes_of_token {char : Char} {chars rest : List Char} {token : Token}
    (starts : token? char (chars ++ rest) = some (token, chars.length)) :
    Lexes (char :: chars) [token] rest := by
  rw [Lexes, List.cons_append, tokens?]
  simp only [starts, List.drop_left]
  rfl

theorem token_of_space (chars : List Char) :
    token? ' ' chars =
      some (.blank (' ' :: chars.takeWhile isGap), (chars.takeWhile isGap).length) := rfl

theorem token_of_mark (quote : Quote) (chars : List Char) :
    token? quote.mark chars = (readQuoted quote.mark chars).map fun (quote, text, width) =>
      (.quoted quote text, width) := by
  cases quote <;> rfl

theorem token_of_word_char {char : Char} (word : isWordChar char = true) (chars : List Char) :
    token? char chars =
      some (.word (char :: chars.takeWhile isWordChar), (chars.takeWhile isWordChar).length) := by
  simp only [isWordChar, Bool.not_eq_true', Bool.or_eq_false_iff, beq_eq_false_iff_ne,
    Option.isSome_eq_false_iff, Option.isNone_iff_eq_none] at word
  obtain ⟨⟨⟨⟨⟨⟨gap, feed⟩, back⟩, hash⟩, double⟩, single⟩, mark⟩ := word
  rw [token?, if_neg (by rw [gap]; decide), if_neg feed, if_neg back, if_neg hash,
    if_neg (not_or.mpr ⟨double, single⟩), mark]

theorem lexes_blank {first : Char} (solid : isGap first = false) (rest : List Char) :
    Lexes [' '] [.blank [' ']] (first :: rest) := by
  have nothing : (first :: rest).takeWhile isGap = [] :=
    List.takeWhile_cons_of_neg (by simp [solid])
  apply lexes_of_token
  rw [token_of_space, List.nil_append, nothing]

theorem lexes_newline (rest : List Char) : Lexes ['\n'] [.newline] rest := lexes_of_token rfl

theorem lexes_equals (rest : List Char) : Lexes ['='] [.equals] rest := lexes_of_token rfl

theorem lexes_word {chars : List Char} (given : chars ≠ [])
    (all : ∀ char ∈ chars, isWordChar char = true) {first : Char}
    (other : isWordChar first = false) (rest : List Char) :
    Lexes chars [.word chars] (first :: rest) := by
  obtain ⟨head, tail, rfl⟩ := List.exists_cons_of_ne_nil given
  obtain ⟨word, words⟩ := List.forall_mem_cons.mp all
  have taken : (tail ++ first :: rest).takeWhile isWordChar = tail := by
    rw [List.takeWhile_append_of_pos words, List.takeWhile_cons_of_neg (by simp [other]),
      List.append_nil]
  apply lexes_of_token
  rw [token_of_word_char word, taken]

theorem lexes_written (chars : List Char) {rest : List Char}
    (apart : rest.head? ≠ some (chooseQuote chars).mark) :
    Lexes (writtenText chars) [.quoted (chooseQuote chars) chars] rest := by
  obtain ⟨behind, written, read⟩ := read_quoted_written chars apart
  rw [written]
  apply lexes_of_token
  rw [token_of_mark, read]
  rfl

/-- Characters with a meaning of their own do not stand in names. -/
theorem word_char_of_key_char {char : Char} (key : isKeyChar char = true) :
    isWordChar char = true := by
  have unlike (other : Char) (special : isKeyChar other = false) : (char == other) = false :=
    beq_false_of_test key special
  have unmarked : markToken? char = none := by
    unfold markToken?
    split
    all_goals first
      | rfl
      | exact absurd key (by decide)
  simp only [isWordChar, isGap, unmarked, unlike ' ' (by decide), unlike '\t' (by decide),
    unlike '\n' (by decide), unlike '\r' (by decide), unlike '#' (by decide),
    unlike '"' (by decide), unlike '\x27' (by decide)]
  rfl

theorem key_char_of_digit {digit : Char} (decimal : digit.isDigit = true) :
    isKeyChar digit = true := by
  simp [isKeyChar, Char.isAlphanum, decimal]

/-- A name that needs no quotes. -/
structure IsBare (name : String) : Prop where
  given : name.toList ≠ []
  all : name.toList.all isKeyChar = true

/-- What is written behind the equals sign of an entry. -/
inductive Content where
  | text (content : String)
  | number (value : Nat) (fits : value < Nat.pow 2 128)

namespace Content

def written : Content → List Char
  | .text content => writtenText content.toList
  | .number value _ => Nat.toDigits 10 value

def scalar : Content → Scalar
  | .text content => .text content
  | .number value _ => .integer value

end Content

structure Entry where
  name : String
  content : Content
  bare : IsBare name

namespace Entry

def line (entry : Entry) : List Char :=
  entry.name.toList ++ [' ', '=', ' '] ++ entry.content.written ++ ['\n']

def binding (entry : Entry) : String × Value := (entry.name, .scalar entry.content.scalar)

end Entry

section

variable {root : Table} {key : String} (absent : root.get? key = none)

include absent

theorem complete_statement (phase : Phase) (value : Value) :
    Reading.complete ⟨root, [], phase⟩ value (.statement [] key) =
      some ⟨root ++ [(key, value)], [], .lineEnd⟩ := by
  have placed : Table.atHeader (Table.defineAt [] key value) [] root =
      some (root ++ [(key, value)]) := by
    simp [Table.atHeader, Table.defineAt, Table.within, Table.define, absent]
  rw [Reading.complete, placed]
  rfl

/-- A value is one token, and at the end of its line it is complete. -/
theorem Content.read (content : Content) :
    ∃ token, (∀ rest, Lexes content.written [token] ('\n' :: rest)) ∧
      [token, .newline].foldlM Reading.step ⟨root, [], .value (.statement [] key)⟩ =
        some ⟨root ++ [(key, .scalar content.scalar)], [], .lineStart⟩ := by
  cases content with
  | text content =>
      refine ⟨.quoted (chooseQuote content.toList) content.toList, ?_, ?_⟩
      · intro rest
        apply lexes_written
        cases chooseQuote content.toList <;> simp [Quote.mark]
      · have completed := complete_statement absent (.value (.statement [] key))
          (.scalar (.text (String.ofList content.toList)))
        have first : Reading.step ⟨root, [], .value (.statement [] key)⟩
            (.quoted (chooseQuote content.toList) content.toList) =
            some ⟨root ++ [(key, .scalar (.text content))], [], .lineEnd⟩ :=
          completed.trans (by rw [String.ofList_toList])
        rw [List.foldlM_cons, first]
        rfl
  | number value fits =>
      refine ⟨.word (Nat.toDigits 10 value), ?_, ?_⟩
      · intro rest
        have words : ∀ digit ∈ Nat.toDigits 10 value, isWordChar digit = true :=
          fun digit member =>
            word_char_of_key_char (key_char_of_digit (to_digits_decimal value digit member))
        exact lexes_word Nat.toDigits_ne_nil words (by decide) rest
      · have completed := complete_statement absent
          (.plain (Nat.toDigits 10 value) (.statement [] key)) (.scalar (.integer value))
        have last : Reading.step
            ⟨root, [], .plain (Nat.toDigits 10 value) (.statement [] key)⟩ .newline =
            some ⟨root ++ [(key, .scalar (.integer value))], [], .lineStart⟩ := by
          simp only [Reading.step, Reading.stepPlain, Token.plain?, plain_scalar_to_digits fits,
            Option.bind_eq_bind, Option.bind_some, completed]
          rfl
        exact congrArg (· >>= pure) last

end

/-- Whole lines that take the reading from one place to the next, whatever follows them. -/
def Reads (lines : List Char) (before after : Reading) : Prop :=
  ∃ tokens, (∀ rest, Lexes lines tokens rest) ∧ tokens.foldlM Reading.step before = some after

theorem Reads.nil (reading : Reading) : Reads [] reading reading :=
  ⟨[], fun rest => by simp [Lexes], rfl⟩

theorem Reads.append {lines more : List Char} {before between after : Reading}
    (first : Reads lines before between) (second : Reads more between after) :
    Reads (lines ++ more) before after := by
  obtain ⟨tokens, lexed, read⟩ := first
  obtain ⟨others, lexedMore, readMore⟩ := second
  refine ⟨tokens ++ others, fun rest => (lexed (more ++ rest)).append (lexedMore rest), ?_⟩
  rw [List.foldlM_append, read]
  exact readMore

theorem Content.starts (content : Content) :
    ∃ first later, content.written = first :: later ∧ isGap first = false := by
  cases content with
  | text content =>
      have apart : [].head? ≠ some (chooseQuote content.toList).mark := by simp
      obtain ⟨behind, written, _⟩ := read_quoted_written content.toList apart
      refine ⟨_, behind, written, ?_⟩
      cases chooseQuote content.toList <;> rfl
  | number value fits =>
      obtain ⟨first, later, digits⟩ :=
        List.exists_cons_of_ne_nil (l := Nat.toDigits 10 value) Nat.toDigits_ne_nil
      have decimal := to_digits_decimal value first (digits ▸ List.mem_cons_self)
      exact ⟨first, later, digits, gap_of_digit decimal⟩

theorem Entry.reads (entry : Entry) {root : Table} (absent : root.get? entry.name = none) :
    Reads entry.line ⟨root, [], .lineStart⟩ ⟨root ++ [entry.binding], [], .lineStart⟩ := by
  obtain ⟨token, lexed, read⟩ := entry.content.read absent
  obtain ⟨start, later, written, solid⟩ := entry.content.starts
  refine ⟨[.word entry.name.toList, .blank [' '], .equals, .blank [' '], token, .newline], ?_, ?_⟩
  · intro rest
    have words : ∀ char ∈ entry.name.toList, isWordChar char = true :=
      fun char member => word_char_of_key_char (List.all_eq_true.mp entry.bare.all char member)
    -- From the end of the line to its start, as every token depends on what follows it.
    have value := (lexed rest).append (lexes_newline rest)
    rw [written] at value
    have behind := (lexes_blank solid _).append value
    have equals := (lexes_equals _).append behind
    have front := (lexes_blank (by decide) _).append equals
    have whole := (lexes_word entry.bare.given words (by decide) _).append front
    simpa [Entry.line, written] using whole
  · have named : (Token.word entry.name.toList).name? = some entry.name := by
      rw [Token.name?, if_pos entry.bare.all, String.ofList_toList]
    have first : Reading.step ⟨root, [], .lineStart⟩ (.word entry.name.toList) =
        some ⟨root, [], .named .statement [] entry.name⟩ := by
      change (Token.word entry.name.toList).name?.bind _ = _
      rw [named]
      rfl
    rw [List.foldlM_cons, first]
    exact read

theorem get_append_binding {root : Table} {name : String} (absent : root.get? name = none)
    {entry : Entry} (other : name ≠ entry.name) :
    Table.get? (root ++ [entry.binding]) name = none := by
  have unlike : (name == entry.name) = false := beq_false_of_ne other
  have missing : List.lookup name root = none := absent
  rw [Table.get?, List.lookup_append, missing, Option.none_or, Entry.binding, List.lookup_cons,
    unlike]
  rfl

theorem read_entries {entries : List Entry} (distinct : (entries.map Entry.name).Nodup)
    {root : Table} (absent : ∀ entry ∈ entries, root.get? entry.name = none) :
    Reads (entries.flatMap Entry.line) ⟨root, [], .lineStart⟩
      ⟨root ++ entries.map Entry.binding, [], .lineStart⟩ := by
  induction entries generalizing root with
  | nil =>
      rw [List.map_nil, List.append_nil]
      exact Reads.nil _
  | cons entry entries ih =>
      obtain ⟨apart, distinct⟩ := List.nodup_cons.mp distinct
      obtain ⟨absentFirst, absentLater⟩ := List.forall_mem_cons.mp absent
      -- The entry takes its own name only, so the later ones are still free behind its line.
      have fresh : ∀ other ∈ entries, Table.get? (root ++ [entry.binding]) other.name = none :=
        fun other member => get_append_binding (absentLater other member) fun same =>
          apart (same ▸ List.mem_map_of_mem member)
      have later := ih distinct fresh
      rw [List.append_assoc] at later
      exact (entry.reads absentFirst).append later

theorem without_order_mark_entries (entries : List Entry) :
    withoutOrderMark (entries.flatMap Entry.line) = entries.flatMap Entry.line := by
  cases entries with
  | nil => rfl
  | cons entry entries =>
      obtain ⟨first, later, name⟩ := List.exists_cons_of_ne_nil entry.bare.given
      have key : isKeyChar first = true :=
        List.all_eq_true.mp entry.bare.all first (name ▸ List.mem_cons_self)
      have unlike : first ≠ '\uFEFF' := by
        rintro rfl
        exact absurd key (by decide)
      rw [List.flatMap_cons, Entry.line, name]
      simp [withoutOrderMark, unlike]

/-- A document of entries with distinct names is read as their table. -/
theorem document_of_entries {entries : List Entry} (distinct : (entries.map Entry.name).Nodup) :
    document? (String.ofList (entries.flatMap Entry.line)) = some (entries.map Entry.binding) := by
  have nothing : ∀ entry ∈ entries, Table.get? [] entry.name = none := fun _ _ => rfl
  obtain ⟨tokens, lexed, read⟩ := read_entries distinct nothing
  have all : tokens? (entries.flatMap Entry.line) = some tokens := by
    simpa [Lexes, tokens?] using lexed []
  rw [document?, String.toList_ofList, without_order_mark_entries, all]
  simp only [Option.bind_eq_bind, Option.bind_some, List.foldlM_append]
  rw [show tokens.foldlM Reading.step Reading.start = _ from read]
  rfl

end Accounts.Toml
