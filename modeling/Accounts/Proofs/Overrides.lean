import Accounts.Proofs.AppendOnly

/-!
# What the environment overrides

The path is taken without the white space around it, unless nothing is left of it. The
iterations are a decimal numeral with at most one plus sign, which has to fit a word; the
path is taken even where they are refused. Nothing else of the settings changes, and no
command is run with zero iterations.
-/

namespace Accounts

/-- `core` is `text` without the white space in front of it and behind it. -/
structure Trimmed (text core : List Char) : Prop where
  around : ∃ before after, text = before ++ core ++ after ∧
    ∀ char ∈ before ++ after, isBlank char = true
  first : ∀ char ∈ core.head?, isBlank char = false
  last : ∀ char ∈ core.getLast?, isBlank char = false

theorem drop_blank_of_head {chars : List Char}
    (first : ∀ char ∈ chars.head?, isBlank char = false) : chars.dropWhile isBlank = chars := by
  cases chars with
  | nil => rfl
  | cons char chars => exact List.dropWhile_cons_of_neg (by simp [first char rfl])

theorem head_drop_blank (chars : List Char) :
    ∀ char ∈ (chars.dropWhile isBlank).head?, isBlank char = false := by
  intro char first
  have unlike := List.head?_dropWhile_not isBlank chars
  rwa [Option.mem_def.mp first] at unlike

theorem trim_blank_trimmed (text : List Char) : Trimmed text (trimBlankChars text) := by
  let front := text.dropWhile isBlank
  let after := (front.reverse.takeWhile isBlank).reverse
  have joined : trimBlankChars text ++ after = front := by
    change (front.reverse.dropWhile isBlank).reverse ++ after = front
    rw [← List.reverse_append, List.takeWhile_append_dropWhile, List.reverse_reverse]
  constructor
  · refine ⟨text.takeWhile isBlank, after, ?_, ?_⟩
    · rw [List.append_assoc, joined, List.takeWhile_append_dropWhile]
    · intro char member
      rcases List.mem_append.mp member with before | behind
      · exact List.mem_takeWhile_imp before
      · exact List.mem_takeWhile_imp (List.mem_reverse.mp behind)
  · intro char first
    apply head_drop_blank text
    rw [show text.dropWhile isBlank = front from rfl, ← joined, List.head?_append,
      Option.mem_def.mp first]
    rfl
  · intro char last
    apply head_drop_blank front.reverse
    rwa [← List.getLast?_reverse]

/-- A text can be trimmed in one way only. -/
theorem Trimmed.trim_blank_eq {text core : List Char} (trimmed : Trimmed text core) :
    trimBlankChars text = core := by
  obtain ⟨⟨before, after, rfl, blank⟩, first, last⟩ := trimmed
  rw [trimBlankChars, List.append_assoc, List.dropWhile_append_of_pos
    fun char member => blank char (List.mem_append_left _ member)]
  cases core with
  | nil =>
      have nothing : after.dropWhile isBlank = [] :=
        List.dropWhile_eq_nil_iff.mpr fun char member =>
          blank char (List.mem_append_right _ member)
      simp [nothing]
  | cons char core =>
      have front : (char :: core ++ after).dropWhile isBlank = char :: core ++ after :=
        drop_blank_of_head (by simpa using first)
      have back : (char :: core).reverse.dropWhile isBlank = (char :: core).reverse :=
        drop_blank_of_head (by rwa [List.head?_reverse])
      rw [front, List.reverse_append, List.dropWhile_append_of_pos fun other member =>
        blank other (List.mem_append_right _ (List.mem_reverse.mp member)), back,
        List.reverse_reverse]

theorem digit_iff {char : Char} : char.isDigit = true ↔ 48 ≤ char.toNat ∧ char.toNat ≤ 57 := by
  simp only [Char.isDigit, Bool.and_eq_true, decide_eq_true_eq, ge_iff_le,
    UInt32.le_iff_toNat_le]
  rfl

theorem decimal_digit_eq (char : Char) :
    decimalDigit? char = if char.isDigit then some (char.toNat - '0'.toNat) else none := by
  simp [decimalDigit?, Char.isDigit, Char.le_def]

/-- `text` is made of decimal digits, one at least, with at most one plus sign in front. -/
def IsNumeral (text : List Char) (value : Nat) : Prop :=
  ∃ digits : List Char, digits ≠ [] ∧ (∀ digit ∈ digits, digit.isDigit = true) ∧
    (text = digits ∨ text = '+' :: digits) ∧ Nat.ofDigitChars 10 digits 0 = value

theorem le_of_digit_chars (start : Nat) (digits : List Char) :
    start ≤ Nat.ofDigitChars 10 digits start := by
  induction digits generalizing start with
  | nil => exact Nat.le_refl start
  | cons digit digits ih =>
      have first := ih (10 * start + (digit.toNat - '0'.toNat))
      simp only [Nat.ofDigitChars, List.foldl_cons] at first ⊢
      omega

/-- A value only grows as digits are read on, so it passes the limit in the end if it ever does. -/
theorem read_digits_ok_iff {limit start value : Nat} {chars : List Char} (below : start < limit) :
    readDigits limit start chars = .ok value ↔
      (∀ char ∈ chars, char.isDigit = true) ∧ Nat.ofDigitChars 10 chars start = value ∧
        value < limit := by
  induction chars generalizing start with
  | nil =>
      simp only [readDigits, Except.ok.injEq, Nat.ofDigitChars_nil]
      constructor
      · rintro rfl
        exact ⟨by simp, rfl, below⟩
      · exact fun read => read.2.1
  | cons char chars ih =>
      simp only [readDigits, decimal_digit_eq, List.forall_mem_cons, Nat.ofDigitChars_cons]
      by_cases digit : char.isDigit = true
      · have grows := le_of_digit_chars (10 * start + (char.toNat - '0'.toNat)) chars
        simp only [digit, if_true, true_and]
        split
        · rename_i room
          exact ih room
        · rename_i large
          simp only [reduceCtorEq, false_iff]
          rintro ⟨_, rfl, fits⟩
          omega
      · simp [digit]

theorem is_numeral_signed {chars : List Char} {value : Nat} :
    IsNumeral ('+' :: chars) value ↔
      chars ≠ [] ∧ (∀ char ∈ chars, char.isDigit = true) ∧ Nat.ofDigitChars 10 chars 0 = value := by
  constructor
  · rintro ⟨digits, given, all, whole | signed, read⟩
    · have sign := all '+' (whole ▸ List.mem_cons_self)
      exact absurd sign (by decide)
    · obtain rfl := (List.cons.inj signed).2
      exact ⟨given, all, read⟩
  · rintro ⟨given, all, read⟩
    exact ⟨chars, given, all, .inr rfl, read⟩

theorem is_numeral_unsigned {text : List Char} {value : Nat}
    (unsigned : ∀ chars, text ≠ '+' :: chars) :
    IsNumeral text value ↔
      text ≠ [] ∧ (∀ char ∈ text, char.isDigit = true) ∧ Nat.ofDigitChars 10 text 0 = value := by
  constructor
  · rintro ⟨digits, given, all, rfl | signed, read⟩
    · exact ⟨given, all, read⟩
    · exact absurd signed (unsigned digits)
  · rintro ⟨given, all, read⟩
    exact ⟨text, given, all, .inl rfl, read⟩

theorem read_numeral_ok_iff {limit value : Nat} {text : List Char} (positive : 0 < limit) :
    readNumeral limit text = .ok value ↔ IsNumeral text value ∧ value < limit := by
  fun_cases readNumeral limit text with
  | case1 => simp [is_numeral_unsigned]
  | case2 => simp [is_numeral_signed]
  | case3 chars nonempty =>
      rw [read_digits_ok_iff positive, is_numeral_signed, and_assoc, and_assoc]
      exact (and_iff_right nonempty).symm
  | case4 text nonempty lone unsigned =>
      rw [read_digits_ok_iff positive, is_numeral_unsigned unsigned, and_assoc, and_assoc]
      exact (and_iff_right nonempty).symm

theorem read_word32_ok_iff {text : String} {word : UInt32} :
    readWord32 text = .ok word ↔ IsNumeral text.toList word.toNat := by
  have positive : 0 < UInt32.size := by decide
  have bound : word.toNat < UInt32.size := word.toNat_lt
  rw [← and_iff_left (a := IsNumeral text.toList word.toNat) bound,
    ← read_numeral_ok_iff positive, readWord32]
  cases read : readNumeral UInt32.size text.toList with
  | error fault => simp [Except.map]
  | ok value =>
      have fits := ((read_numeral_ok_iff positive).mp read).2
      simp only [Except.map, Except.ok.injEq]
      constructor
      · rintro rfl
        exact (UInt32.toNat_ofNat_of_lt' fits).symm
      · rintro rfl
        exact UInt32.ofNat_toNat

theorem is_numeral_decimal (value : Nat) : IsNumeral (toString value).toList value := by
  rw [Nat.toString_eq_ofList_toDigits, String.toList_ofList]
  exact ⟨Nat.toDigits 10 value, Nat.toDigits_ne_nil,
    fun _ member => Nat.isDigit_of_mem_toDigits (by decide) (by decide) member, .inl rfl,
    Nat.ofDigitChars_ten_toDigits⟩

theorem digit_not_blank {char : Char} (digit : char.isDigit = true) : isBlank char = false := by
  obtain ⟨low, high⟩ := digit_iff.mp digit
  simp only [isBlank, inRanges, blankRanges, List.any_cons, List.any_nil, Bool.or_false,
    Bool.or_eq_false_iff, Bool.and_eq_false_iff, decide_eq_false_iff_not]
  omega

/-- A decimal numeral has no white space that could be taken away. -/
theorem trimmed_decimal (value : Nat) {before after : String}
    (blank : ∀ char ∈ before.toList ++ after.toList, isBlank char = true) :
    Trimmed (before ++ toString value ++ after).toList (toString value).toList := by
  have solid : ∀ char ∈ (toString value).toList, isBlank char = false := by
    rw [Nat.toString_eq_ofList_toDigits, String.toList_ofList]
    intro char member
    exact digit_not_blank (Nat.isDigit_of_mem_toDigits (by decide) (by decide) member)
  constructor
  · exact ⟨before.toList, after.toList, by simp, blank⟩
  · exact fun char first => solid char (List.mem_of_mem_head? first)
  · exact fun char last => solid char (List.mem_of_mem_getLast? last)

theorem trim_blank_text (text : String) : Trimmed text.toList (trimBlank text).toList := by
  rw [trimBlank, String.toList_ofList]
  exact trim_blank_trimmed text.toList

namespace Config

section

variable (config : Config) (path : Option String)

theorem override_path_eq (text : String) :
    (config.overridePath (some text)).databasePath =
      if trimBlank text = "" then config.databasePath else trimBlank text := by
  simp only [overridePath, String.isEmpty_iff]
  split <;> rfl

theorem override_path_iterations : (config.overridePath path).iterations = config.iterations := by
  unfold overridePath
  split
  · rfl
  · split <;> rfl

theorem override_database_path (iterations : Option String) :
    (config.override path iterations).2.databasePath =
      (config.overridePath path).databasePath := by
  unfold override overrideIterations
  split
  · rfl
  · split <;> rfl

theorem override_path_frame :
    { config.overridePath path with databasePath := config.databasePath } = config := by
  unfold overridePath
  split
  · rfl
  · split <;> rfl

theorem override_iterations_frame (given : Option String) :
    { (config.overrideIterations given).2 with iterations := config.iterations } = config := by
  unfold overrideIterations
  split
  · rfl
  · split <;> rfl

/-- With its path and its iterations taken back, nothing has changed. -/
theorem override_frame (iterations : Option String) :
    { (config.override path iterations).2 with
      databasePath := config.databasePath, iterations := config.iterations } = config := by
  have last := (config.overridePath path).override_iterations_frame iterations
  rw [override_path_iterations] at last
  calc
    _ = { { (config.override path iterations).2 with iterations := config.iterations } with
        databasePath := config.databasePath } := rfl
    _ = { config.overridePath path with databasePath := config.databasePath } :=
      congrArg (fun kept : Config => { kept with databasePath := config.databasePath }) last
    _ = config := config.override_path_frame path

theorem override_of_numeral {text : String} {value : Nat} (fits : value < 2 ^ 32)
    (numeral : IsNumeral (trimBlank text).toList value) :
    (config.override path (some text)).1 = .ok () ∧
      (config.override path (some text)).2.iterations.toNat = value := by
  have same : (UInt32.ofNat value).toNat = value := UInt32.toNat_ofNat_of_lt' fits
  have read : readWord32 (trimBlank text) = .ok (UInt32.ofNat value) := by
    rw [read_word32_ok_iff, same]
    exact numeral
  simp only [override, overrideIterations, read, same, and_self]

theorem override_of_other {text : String}
    (other : ∀ value < 2 ^ 32, ¬ IsNumeral (trimBlank text).toList value) :
    (∃ fault, (config.override path (some text)).1 = .error (.badIterations text fault)) ∧
      (config.override path (some text)).2.iterations = config.iterations := by
  cases read : readWord32 (trimBlank text) with
  | error fault =>
      simp only [override, overrideIterations, read, override_path_iterations, and_true]
      exact ⟨fault, rfl⟩
  | ok number => exact absurd (read_word32_ok_iff.mp read) (other _ number.toNat_lt)

end

theorem prepare_of_usable {environment : Environment} {config : Config}
    (accepted :
      (config.override environment.databasePath environment.iterations).1 = .ok ())
    (checked :
      (config.override environment.databasePath environment.iterations).2.check = .ok ()) :
    prepare environment config =
      .ok (config.override environment.databasePath environment.iterations).2 := by
  unfold prepare
  simp only [accepted, checked]
  rfl

theorem prepare_of_unusable (environment : Environment) {config : Config}
    (unusable :
      ¬ ((config.override environment.databasePath environment.iterations).1 = .ok () ∧
        (config.override environment.databasePath environment.iterations).2.check = .ok ())) :
    ∃ fault, prepare environment config = .error fault := by
  unfold prepare
  rcases overridden : config.override environment.databasePath environment.iterations with
    ⟨fault | _, ready⟩
  · exact ⟨fault, rfl⟩
  · rw [overridden] at unusable
    cases checked : ready.check with
    | error fault => exact ⟨fault, by simp only [checked]; rfl⟩
    | ok => exact absurd ⟨rfl, checked⟩ unusable

theorem iterations_of_check {config : Config} (checked : config.check = .ok ()) :
    1 ≤ config.iterations.toNat := by
  by_contra none
  have zero : config.iterations = 0 := UInt32.toNat_inj.mp (by simpa using none)
  unfold check at checked
  rw [if_pos zero] at checked
  split at checked <;> cases checked

/-- What the two variables make of settings, and when a command is run with the result. -/
theorem environment_overrides_are_exact (config : Config) (path iterations : Option String) :
    let outcome := (config.override path iterations).1
    let overridden := (config.override path iterations).2
    { overridden with
      databasePath := config.databasePath, iterations := config.iterations } = config ∧
    (path = none → overridden.databasePath = config.databasePath) ∧
    (∀ text, path = some text → ∃ trimmed, Trimmed text.toList trimmed.toList ∧
      overridden.databasePath = if trimmed = "" then config.databasePath else trimmed) ∧
    (iterations = none → outcome = .ok () ∧ overridden.iterations = config.iterations) ∧
    (∀ text, iterations = some text → ∃ trimmed, Trimmed text.toList trimmed ∧
      (∀ value < 2 ^ 32, IsNumeral trimmed value →
        outcome = .ok () ∧ overridden.iterations.toNat = value) ∧
      ((∀ value < 2 ^ 32, ¬ IsNumeral trimmed value) →
        (∃ fault, outcome = .error (.badIterations text fault)) ∧
          overridden.iterations = config.iterations)) ∧
    (∀ value < 2 ^ 32, ∀ before after : String,
      (∀ char ∈ before.toList ++ after.toList, isBlank char = true) →
      iterations = some (before ++ toString value ++ after) →
        outcome = .ok () ∧ overridden.iterations.toNat = value) ∧
    ∀ (request : Request) (files : Files) (entropy : Entropy) (prompt : Prompt)
        (logFilter : Option String),
      Config.loadOrDefault files request.config = .ok config →
      let environment : Environment := ⟨path, iterations, logFilter⟩
      let backing := files.backing overridden.databasePath
      let result := request.command.run overridden backing entropy prompt
      (outcome = .ok () ∧ overridden.check = .ok () →
        1 ≤ overridden.iterations.toNat ∧
          request.run files environment entropy prompt =
            (.ofOutcome environment overridden result, files.save backing result.backing)) ∧
      (¬ (outcome = .ok () ∧ overridden.check = .ok ()) →
        ∃ fault, request.run files environment entropy prompt = (.ofFault fault, files)) := by
  intro outcome overridden
  refine ⟨config.override_frame path iterations, ?_, ?_, ?_, ?_, ?_, ?_⟩
  · rintro rfl
    exact config.override_database_path none iterations
  · rintro text rfl
    refine ⟨trimBlank text, trim_blank_text text, ?_⟩
    exact (config.override_database_path _ iterations).trans (config.override_path_eq text)
  · rintro rfl
    exact ⟨rfl, config.override_path_iterations path⟩
  · rintro text rfl
    exact ⟨(trimBlank text).toList, trim_blank_text text,
      fun value fits => config.override_of_numeral path fits, config.override_of_other path⟩
  · rintro value fits before after blank rfl
    apply config.override_of_numeral path fits
    rw [trimBlank, String.toList_ofList, (trimmed_decimal value blank).trim_blank_eq]
    exact is_numeral_decimal value
  · intro request files entropy prompt logFilter loaded environment backing result
    constructor
    · rintro ⟨accepted, checked⟩
      have configured : Config.loadOrDefault files request.config >>= prepare environment =
          .ok overridden := by
        rw [loaded]
        exact prepare_of_usable accepted checked
      exact ⟨iterations_of_check checked, Request.run_of_config configured⟩
    · intro unusable
      obtain ⟨fault, faulty⟩ := prepare_of_unusable environment unusable
      refine ⟨fault, Request.run_of_fault ?_⟩
      rw [loaded]
      exact faulty

/-- The path stands between an ideographic space and a line break, the numeral between a tab and a
line separator. -/
theorem padded_variables_are_taken :
    let path := "\u3000 other users\n"
    let files := Files.emptyAt (utf8 "home")
    let list : Request := ⟨none, .list⟩
    let taken := default.override (some path) (some "\t+0100\u2028")
    let refused := default.override (some path) (some "4294967296")
    (taken.1 = .ok () ∧ taken.2.databasePath = "other users" ∧ taken.2.iterations = 100) ∧
      ((∃ fault, refused.1 = .error (.badIterations "4294967296" fault)) ∧
        refused.2.databasePath = "other users") ∧
      (default.override none (some "\u00a04294967295 ")).2.iterations.toNat = 4294967295 ∧
      ∃ fault, list.run files ⟨none, some "0", none⟩ (.ofScript []) .unattended =
        (.ofFault fault, files) := by
  intro path files list taken refused
  have pathTaken : ∀ given, (default.override (some path) given).2.databasePath =
      "other users" := by
    intro given
    obtain ⟨_, _, paths, _⟩ := environment_overrides_are_exact default (some path) given
    obtain ⟨trimmed, shape, taking⟩ := paths path rfl
    have core : trimmed = "other users" := by
      apply String.toList_inj.mp
      rw [← shape.trim_blank_eq]
      decide
    rw [taking, core, if_neg (by decide)]
  have signed : IsNumeral "+0100".toList 100 :=
    ⟨"0100".toList, by decide, List.all_eq_true.mp (by decide), .inr rfl, by decide⟩
  have large : ∀ value < 2 ^ 32, ¬ IsNumeral "4294967296".toList value := by
    intro value fits numeral
    rw [is_numeral_unsigned (by simp)] at numeral
    have read : Nat.ofDigitChars 10 "4294967296".toList 0 = 4294967296 := by decide
    have same := numeral.2.2
    omega
  obtain ⟨_, _, _, _, numerals, _⟩ :=
    environment_overrides_are_exact default (some path) (some "\t+0100\u2028")
  obtain ⟨core, shape, reading, _⟩ := numerals _ rfl
  have same : core = "+0100".toList := by
    rw [← shape.trim_blank_eq]
    decide
  obtain ⟨accepted, read⟩ := reading 100 (by decide) (same ▸ signed)
  obtain ⟨_, _, _, _, others, _⟩ :=
    environment_overrides_are_exact default (some path) (some "4294967296")
  obtain ⟨other, otherShape, _, refusing⟩ := others _ rfl
  have otherSame : other = "4294967296".toList := by
    rw [← otherShape.trim_blank_eq]
    decide
  obtain ⟨_, _, _, _, _, decimals, _⟩ :=
    environment_overrides_are_exact default none (some "\u00a04294967295 ")
  obtain ⟨_, _, _, _, _, _, stops⟩ := environment_overrides_are_exact default none (some "0")
  exact ⟨⟨accepted, pathTaken _, UInt32.toNat_inj.mp read⟩,
    ⟨(refusing (otherSame ▸ large)).1, pathTaken _⟩,
    (decimals 4294967295 (by decide) "\u00a0" " " (List.all_eq_true.mp (by decide)) (by decide)).2,
    (stops list files (.ofScript []) .unattended none rfl).2 (by decide +kernel)⟩

end Config

end Accounts
