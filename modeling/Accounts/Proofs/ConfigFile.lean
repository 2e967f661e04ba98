import Mathlib.Data.List.Nodup
import Accounts.Config
import Accounts.Proofs.Record
import Accounts.Proofs.Toml.Entries

/-!
# Settings that are written and loaded

Settings are written as one entry a key, with texts as they are quoted and numbers in
decimal. The file of all entries is loaded as the settings that it was written for. Where
some entries are missing, the others are loaded the same and the defaults stand in for
those that are missing, whatever order the entries are in.
-/

namespace Accounts

namespace ConfigKey

theorem name_injective : Function.Injective name := by
  intro left right same
  cases left <;> cases right <;> first | rfl | exact absurd same (by decide)

theorem bare_name (key : ConfigKey) : Toml.IsBare key.name := by
  cases key <;> exact ⟨by decide, by decide⟩

end ConfigKey

namespace Config

/-- The settings whose other keys have their defaults. -/
def restrictedTo (config : Config) (keys : List ConfigKey) : Config where
  databasePath := if .databasePath ∈ keys then config.databasePath else default.databasePath
  capacity := if .capacity ∈ keys then config.capacity else default.capacity
  iterations := if .iterations ∈ keys then config.iterations else default.iterations
  sessionEntropy :=
    if .sessionEntropy ∈ keys then config.sessionEntropy else default.sessionEntropy
  cookieName := if .cookieName ∈ keys then config.cookieName else default.cookieName
  logLevel := if .logLevel ∈ keys then config.logLevel else default.logLevel

theorem restricted_to_all (config : Config) : config.restrictedTo ConfigKey.all = config := rfl

theorem word64_fits (word : UInt64) : word.toNat < Nat.pow 2 128 :=
  Nat.lt_trans word.toNat_lt (by decide)

theorem word32_fits (word : UInt32) : word.toNat < Nat.pow 2 128 :=
  Nat.lt_trans word.toNat_lt (by decide)

def content (config : Config) : ConfigKey → Toml.Content
  | .databasePath => .text config.databasePath
  | .capacity => .number config.capacity.toNat (word64_fits config.capacity)
  | .iterations => .number config.iterations.toNat (word32_fits config.iterations)
  | .sessionEntropy => .number config.sessionEntropy.toNat (word64_fits config.sessionEntropy)
  | .cookieName => .text config.cookieName
  | .logLevel => .text config.logLevel

def entry (config : Config) (key : ConfigKey) : Toml.Entry :=
  ⟨key.name, config.content key, key.bare_name⟩

def table (config : Config) (keys : List ConfigKey) : Toml.Table :=
  keys.map fun key => (config.entry key).binding

theorem line_eq (config : Config) (key : ConfigKey) :
    config.line key = (config.entry key).line := by
  cases key <;> rfl

theorem document_of_text (config : Config) {keys : List ConfigKey} (distinct : keys.Nodup) :
    Toml.document? (config.textWith keys) = some (config.table keys) := by
  have lines : keys.flatMap config.line = (keys.map config.entry).flatMap Toml.Entry.line := by
    rw [List.flatMap_map]
    exact congrArg keys.flatMap (funext config.line_eq)
  have names : ((keys.map config.entry).map Toml.Entry.name).Nodup := by
    rw [List.map_map]
    exact List.Nodup.map ConfigKey.name_injective distinct
  rw [textWith, lines, Toml.document_of_entries names, List.map_map]
  rfl

section

variable (config : Config) (keys : List ConfigKey) (key : ConfigKey)

theorem get_table :
    (config.table keys).get? key.name =
      if key ∈ keys then some (.scalar (config.content key).scalar) else none := by
  induction keys with
  | nil => rfl
  | cons first keys ih =>
      have front : (config.table (first :: keys)).get? key.name =
          match key.name == first.name with
          | true => some (.scalar (config.content first).scalar)
          | false => (config.table keys).get? key.name := rfl
      by_cases same : key = first
      · rw [front, same, beq_self_eq_true, if_pos List.mem_cons_self]
      · have unlike : (key.name == first.name) = false :=
          beq_false_of_ne fun names => same (ConfigKey.name_injective names)
        simp only [front, unlike, ih, List.mem_cons, same, false_or]

variable {keys}

theorem text_of_table {content : String} (kind : config.content key = .text content)
    (otherwise : String) :
    textOf? (config.table keys) key otherwise =
      some (if key ∈ keys then content else otherwise) := by
  by_cases present : key ∈ keys
  · simp only [textOf?, get_table, kind, if_pos present]
    rfl
  · simp only [textOf?, get_table, if_neg present]

theorem number_of_table {value limit : Nat} {fits : value < Nat.pow 2 128}
    (kind : config.content key = .number value fits) (small : value < limit) (otherwise : Nat) :
    numberOf? (config.table keys) key limit otherwise =
      some (if key ∈ keys then value else otherwise) := by
  by_cases present : key ∈ keys
  · simp only [numberOf?, get_table, kind, if_pos present]
    exact if_pos small
  · simp only [numberOf?, get_table, if_neg present]

theorem of_table (keys : List ConfigKey) :
    ofTable? (config.table keys) = some (config.restrictedTo keys) := by
  have word64 (present : Prop) [Decidable present] (word other : UInt64) :
      UInt64.ofNat (if present then word.toNat else other.toNat) =
        if present then word else other := by
    split <;> exact UInt64.ofNat_toNat
  have word32 (present : Prop) [Decidable present] (word other : UInt32) :
      UInt32.ofNat (if present then word.toNat else other.toNat) =
        if present then word else other := by
    split <;> exact UInt32.ofNat_toNat
  simp only [ofTable?, config.text_of_table .databasePath rfl,
    config.text_of_table .cookieName rfl, config.text_of_table .logLevel rfl,
    config.number_of_table .capacity rfl config.capacity.toNat_lt,
    config.number_of_table .iterations rfl config.iterations.toNat_lt,
    config.number_of_table .sessionEntropy rfl config.sessionEntropy.toNat_lt,
    Option.bind_eq_bind, Option.bind_some, word64, word32]
  rfl

end

/-- What is written with all keys or some of them, in any order, is loaded again. -/
theorem written_config_is_loaded (config : Config) (files : Files) (path : Bytes) :
    (files.read path = .ok (utf8 config.text) → load files path = .ok config) ∧
      ∀ keys : List ConfigKey, keys.Nodup →
        files.read path = .ok (utf8 (config.textWith keys)) →
        load files path = .ok (config.restrictedTo keys) := by
  have loaded (keys : List ConfigKey) (distinct : keys.Nodup)
      (held : files.read path = .ok (utf8 (config.textWith keys))) :
      load files path = .ok (config.restrictedTo keys) := by
    have text : ofText? (config.textWith keys) = some (config.restrictedTo keys) := by
      rw [ofText?, config.document_of_text distinct, Option.bind_some, config.of_table]
    simp only [load, ofContent, held, of_utf8_utf8, text]
  refine ⟨?_, loaded⟩
  intro held
  rw [loaded ConfigKey.all (by decide) held, restricted_to_all]

/-- The path needs escapes between line breaks, and the cookie name has a backslash and both
marks. -/
theorem quoted_marks_are_loaded :
    let config : Config := {
      databasePath := "\n\u0000\"\"\"\\\r\n"
      capacity := 18446744073709551615
      iterations := 4294967295
      sessionEntropy := 0
      cookieName := "it's \"\\\""
      logLevel := "\"\"é𝄞" }
    let keys : List ConfigKey := [.logLevel, .iterations, .databasePath]
    let path := utf8 "accounts.toml"
    let place := Files.emptyAt (utf8 "home")
    config.textWith [.cookieName] = "cookie_name = '''it's \"\\\"'''\n" ∧
      load (place.withFile path (utf8 config.text)) path = .ok config ∧
      load (place.withFile path (utf8 (config.textWith keys))) path =
        .ok ⟨config.databasePath, default.capacity, config.iterations, default.sessionEntropy,
          default.cookieName, config.logLevel⟩ := by
  intro config keys path place
  have held (text : String) : (place.withFile path (utf8 text)).read path = .ok (utf8 text) := rfl
  obtain ⟨whole, _⟩ := written_config_is_loaded config (place.withFile path (utf8 config.text)) path
  obtain ⟨_, part⟩ :=
    written_config_is_loaded config (place.withFile path (utf8 (config.textWith keys))) path
  exact ⟨by decide +kernel, whole (held config.text),
    part keys (by decide) (held (config.textWith keys))⟩

end Config

end Accounts
