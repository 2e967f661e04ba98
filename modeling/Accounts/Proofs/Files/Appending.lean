import Accounts.Proofs.Files.Places

/-!
# What an append does to the files

An append makes the directories that its path needs, and then changes one file at most: the
one that its path leads to afterwards. Whether it succeeds does not depend on the bytes;
a write that fails can leave a front part of them there. No directory is ever lost, so all
paths keep leading to what they led to before.
-/

namespace Accounts

namespace Files

open FileTree (Kind)

variable {files before after later : Files} {path : Bytes} {place : List Name} {spot : Spot}

/-- Nothing was lost: directories are where they were, and every file goes on as it began. -/
structure Extended (before after : Files) : Prop where
  working_eq : after.working = before.working
  directory : ∀ place, before.kindAt place = some .directory → after.kindAt place = some .directory
  content_at : ∀ place content, before.contentAt place = some content →
    ∃ more, after.contentAt place = some (content ++ more)

theorem Extended.refl (files : Files) : Extended files files where
  working_eq := rfl
  directory _ directory := directory
  content_at _ content held := ⟨[], by rw [held, List.append_nil]⟩

theorem Extended.trans (first : Extended before after) (second : Extended after later) :
    Extended before later where
  working_eq := second.working_eq.trans first.working_eq
  directory place directory := second.directory place (first.directory place directory)
  content_at place content held := by
    obtain ⟨more, grown⟩ := first.content_at place content held
    obtain ⟨rest, ended⟩ := second.content_at place (content ++ more) grown
    exact ⟨more ++ rest, by rw [ended, List.append_assoc]⟩

theorem Extended.locate (extended : Extended before after)
    (located : before.locate path = .ok spot) :
    after.locate path = .ok (after.spotAt spot.place) := by
  obtain ⟨sound, arrived⟩ := locate_eq_ok located
  have same : after.origin path = before.origin path := by
    rw [origin, origin, extended.working_eq]
  rw [Files.locate, sound]
  simp only
  rw [start_eq_spot_at, same]
  exact walk_of_more_directories extended.directory arrived

theorem Extended.read (extended : Extended before after) {content : Bytes}
    (held : before.read path = .ok content) :
    ∃ more, after.read path = .ok (content ++ more) := by
  obtain ⟨spot, located, before⟩ := read_eq_ok.mp held
  obtain ⟨more, grown⟩ := extended.content_at spot.reverse content before
  exact ⟨more, read_eq_ok.mpr ⟨spot, extended.locate located, grown⟩⟩

/-- Directories were made where nothing was, and nothing else happened. -/
structure Furnished (before after : Files) : Prop where
  working_eq : after.working = before.working
  writeFault_eq : after.writeFault = before.writeFault
  leftover_eq : after.leftover = before.leftover
  kind_at : ∀ place, after.kindAt place = before.kindAt place ∨
    before.kindAt place = none ∧ after.kindAt place = some .directory

theorem Furnished.refl (files : Files) : Furnished files files :=
  ⟨rfl, rfl, rfl, fun _ => .inl rfl⟩

theorem Furnished.trans (first : Furnished before after) (second : Furnished after later) :
    Furnished before later where
  working_eq := second.working_eq.trans first.working_eq
  writeFault_eq := second.writeFault_eq.trans first.writeFault_eq
  leftover_eq := second.leftover_eq.trans first.leftover_eq
  kind_at place := by
    rcases second.kind_at place with same | ⟨nothing, made⟩
    · rw [same]
      exact first.kind_at place
    · rcases first.kind_at place with same | ⟨earlier, made⟩
      · exact .inr ⟨same ▸ nothing, made⟩
      · simp [made] at nothing

theorem Furnished.content_at (furnished : Furnished before after) :
    after.contentAt = before.contentAt := by
  funext place
  rcases furnished.kind_at place with same | ⟨nothing, made⟩
  · exact content_at_congr same
  · apply Option.ext
    intro content
    simp [content_at_eq_some, nothing, made]

theorem Furnished.extended (furnished : Furnished before after) : Extended before after where
  working_eq := furnished.working_eq
  directory place directory := by
    rcases furnished.kind_at place with same | ⟨nothing, made⟩
    · rw [same, directory]
    · exact made
  content_at place content held := ⟨[], by rw [furnished.content_at, held, List.append_nil]⟩

theorem names_cons_slash (path : Bytes) : names (slash :: path) = names path := by
  simp [names, List.splitOn, List.splitOnP_cons_eq_if_modifyHead]

theorem names_cons_ne_nil {byte : Byte} (other : byte ≠ slash) (path : Bytes) :
    names (byte :: path) ≠ [] := by
  obtain ⟨piece, pieces, parts⟩ :=
    List.exists_cons_of_ne_nil (List.splitOnP_ne_nil (· == slash) path)
  simp [names, List.splitOn, List.splitOnP_cons_eq_if_modifyHead, other, parts]

theorem only_slashes_of_names (nameless : names path = []) : ∀ byte ∈ path, byte = slash := by
  induction path with
  | nil => simp
  | cons byte path ih =>
      by_cases same : byte = slash
      · rw [same, names_cons_slash] at nameless
        simpa [same] using ih nameless
      · exact absurd nameless (names_cons_ne_nil same path)

theorem path_ne_nil (sound : pathFault path = none) : path ≠ [] := by
  rintro rfl
  simp [pathFault] at sound

theorem kind_at_put_arrived {steps : List Name} {new : FileTree} (moved : steps ≠ [])
    (arrived : files.walk (files.spotAt place) steps = .ok spot)
    (free : files.kindAt spot.place.reverse ≠ some .directory) (leaf : new.entries = [])
    (other : List Name) :
    (files.put spot.place.reverse new).kindAt other =
      if other = spot.place.reverse then some new.kind else files.kindAt other := by
  have around := walk_arrives_in_directory moved arrived
  cases last : spot.place with
  | nil =>
      rw [last] at around free
      exact absurd around free
  | cons name outer =>
      rw [last, List.reverse_cons] at free
      rw [last, List.tail_cons] at around
      rw [List.reverse_cons]
      exact FileTree.kind_at_put around free leaf other

theorem make_directory_furnished (made : files.makeDirectory path = .ok after) :
    Furnished files after := by
  unfold makeDirectory at made
  cases sound : pathFault path with
  | some fault => simp [sound] at made
  | none =>
      cases arrived : files.walk (files.start path) (names path) with
      | error fault => simp [sound, arrived] at made
      | ok spot =>
          cases found : spot.found with
          | some tree => simp [sound, arrived, found] at made
          | none =>
              obtain rfl : files.put spot.place.reverse .empty = after := by
                simpa [sound, arrived, found] using made
              have nothing : files.kindAt spot.place.reverse = none := by
                have same := congrArg Spot.found (walk_arrives_at_spot arrived)
                rw [found] at same
                rw [kindAt, FileTree.kindAt, ← show _ = files.root.get? _ from same]
                rfl
              -- Without a name the path is the root, and something is there already.
              have moved : names path ≠ [] := by
                intro nameless
                obtain ⟨byte, rest, rfl⟩ := List.exists_cons_of_ne_nil (path_ne_nil sound)
                have first := only_slashes_of_names nameless byte List.mem_cons_self
                rw [nameless] at arrived
                obtain rfl := Except.ok.inj arrived
                simp [start, first, spotAt, FileTree.get?] at found
              refine ⟨rfl, rfl, rfl, ?_⟩
              intro place
              rw [kind_at_put_arrived moved arrived (by simp [nothing]) rfl]
              by_cases same : place = spot.place.reverse
              · exact .inr ⟨same ▸ nothing, if_pos same⟩
              · exact .inl (if_neg same)

theorem settle_furnished {made : Except Fault Files}
    (furnished : ∀ after, made = .ok after → Furnished files after) :
    Furnished files (ensureDirectories.settle files made path).2 := by
  unfold ensureDirectories.settle
  cases made with
  | ok after => exact furnished after rfl
  | error fault =>
      simp only
      split
      · exact .refl files
      · exact .refl files

theorem ensure_directories_furnished (files : Files) (paths : List Bytes) :
    Furnished files (files.ensureDirectories paths).2 := by
  induction paths with
  | nil => exact .refl files
  | cons path outer ih =>
      rw [ensureDirectories]
      cases made : files.makeDirectory path with
      | ok after => exact make_directory_furnished made
      | error fault =>
          have settled : Furnished files
              (ensureDirectories.settle files (.error fault) path).2 :=
            settle_furnished (by simp)
          -- Only a missing directory around this one is made first; then this one is tried again.
          by_cases missing : fault = .missing
          · subst missing
            simp only
            generalize files.ensureDirectories outer = result at ih ⊢
            obtain ⟨outcome, between⟩ := result
            cases outcome with
            | error fault => exact ih
            | ok =>
                exact ih.trans (settle_furnished fun after made => make_directory_furnished made)
          · simpa [missing] using settled

/-- Bytes were added at the end of the file at a place, which is where a path leads. -/
structure Appended (before after : Files) (path : Bytes) (place : List Name) (bytes : Bytes) :
    Prop where
  extended : Extended before after
  content_eq : after.contentAt =
    Function.update before.contentAt place (some ((before.contentAt place).getD [] ++ bytes))
  read_eq : after.read path = .ok ((before.contentAt place).getD [] ++ bytes)
  read_before : ∀ content, before.read path = .ok content → before.contentAt place = some content

theorem appended_of_kind_at (located : before.locate path = .ok (before.spotAt place.reverse))
    (working : after.working = before.working)
    (free : before.kindAt place ≠ some .directory) (bytes : Bytes)
    (kinds : ∀ other, after.kindAt other = if other = place then
      some (.file ((before.contentAt place).getD [] ++ bytes)) else before.kindAt other) :
    Appended before after path place bytes := by
  have held : after.contentAt place = some ((before.contentAt place).getD [] ++ bytes) :=
    content_at_eq_some.mpr ((kinds place).trans (if_pos rfl))
  have others : ∀ other, other ≠ place → after.contentAt other = before.contentAt other := by
    intro other different
    exact content_at_congr ((kinds other).trans (if_neg different))
  have extended : Extended before after := by
    refine ⟨working, ?_, ?_⟩
    · intro other directory
      have different : other ≠ place := by
        rintro rfl
        exact free directory
      rw [kinds, if_neg different, directory]
    · intro other content before
      by_cases same : other = place
      · subst same
        exact ⟨bytes, by rw [held, before, Option.getD_some]⟩
      · exact ⟨[], by rw [others other same, before, List.append_nil]⟩
  refine ⟨extended, ?_, ?_, ?_⟩
  · funext other
    by_cases same : other = place
    · rw [same, held, Function.update_self]
    · rw [others other same, Function.update_of_ne same]
  · have arrived := extended.locate located
    refine read_eq_ok.mpr ⟨place.reverse, arrived, ?_⟩
    rw [List.reverse_reverse, held]
  · intro content read
    obtain ⟨start, arrived, before⟩ := read_eq_ok.mp read
    rw [located] at arrived
    have same : place.reverse = start := congrArg Spot.place (Except.ok.inj arrived)
    rwa [← same, List.reverse_reverse] at before

/-- Furnishing directories first makes no difference. -/
theorem Appended.after_furnishing {bytes : Bytes} (furnished : Furnished before after)
    (appended : Appended after later path place bytes) :
    Appended before later path place bytes where
  extended := furnished.extended.trans appended.extended
  content_eq := by rw [appended.content_eq, furnished.content_at]
  read_eq := by rw [appended.read_eq, furnished.content_at]
  read_before content read := by
    obtain ⟨spot, arrived, held⟩ := read_eq_ok.mp read
    have found := furnished.extended.locate arrived
    rw [← furnished.content_at] at held ⊢
    exact appended.read_before content (read_eq_ok.mpr ⟨spot, found, held⟩)

section

variable (sound : pathFault path = none) (named : endsWithSlash path = false)
include sound named

theorem names_ne_nil : names path ≠ [] := by
  intro nameless
  have last := List.getLast_mem (path_ne_nil sound)
  have slash := only_slashes_of_names nameless _ last
  rw [endsWithSlash, List.getLast?_eq_some_getLast (path_ne_nil sound), slash] at named
  simp at named

theorem appended_put (arrived : files.walk (files.start path) (names path) = .ok spot)
    (free : files.kindAt spot.place.reverse ≠ some .directory) (mode : Nat) (bytes : Bytes) :
    Appended files (files.put spot.place.reverse
      (.file ((files.contentAt spot.place.reverse).getD [] ++ bytes) mode))
      path spot.place.reverse bytes := by
  have located : files.locate path = .ok (files.spotAt spot.place.reverse.reverse) := by
    rw [List.reverse_reverse, ← walk_arrives_at_spot arrived, locate, sound]
    simpa [named] using arrived
  apply appended_of_kind_at located
  · rfl
  · exact free
  · exact kind_at_put_arrived (names_ne_nil sound named) arrived free rfl

end

/-- A file that bytes can be added to is no directory, and its path leads to it. -/
theorem locate_file_eq_ok (located : files.locateFile path = .ok spot) :
    pathFault path = none ∧ endsWithSlash path = false ∧
      files.walk (files.start path) (names path) = .ok spot ∧
      files.kindAt spot.place.reverse ≠ some .directory := by
  unfold locateFile at located
  cases sound : pathFault path with
  | some fault => simp [sound] at located
  | none =>
      cases named : endsWithSlash path with
      | true =>
          simp only [sound, named, if_true] at located
          split at located <;> simp at located
      | false =>
          simp only [sound, named, Bool.false_eq_true, if_false] at located
          cases arrived : files.walk (files.start path) (names path) with
          | error fault => simp [arrived] at located
          | ok there =>
              have found : there.found = files.root.get? there.place.reverse :=
                congrArg Spot.found (walk_arrives_at_spot arrived)
              simp only [arrived] at located
              split at located
              · simp at located
              · rename_i other
                obtain rfl := Except.ok.inj located
                refine ⟨rfl, rfl, rfl, ?_⟩
                rw [kindAt, FileTree.kindAt, ← found]
                cases held : there.found with
                | none => simp
                | some tree =>
                    cases tree with
                    | file content mode => simp [FileTree.kind]
                    | directory entries => exact absurd held (other entries)

theorem appended_with_bytes (located : files.locateFile path = .ok spot) (bytes : Bytes) :
    Appended files (files.withBytes spot bytes) path spot.place.reverse bytes := by
  obtain ⟨sound, named, arrived, free⟩ := locate_file_eq_ok located
  have found : files.root.get? spot.place.reverse = spot.found :=
    (congrArg Spot.found (walk_arrives_at_spot arrived)).symm
  have put := appended_put sound named arrived free
  unfold withBytes
  cases held : spot.found with
  | none =>
      have empty : (files.contentAt spot.place.reverse).getD [] = [] := by
        simp [contentAt, found, held]
      rw [empty] at put
      exact put privateMode bytes
  | some tree =>
      cases tree with
      | directory entries =>
          simp [kindAt, FileTree.kindAt, found, held, FileTree.kind] at free
      | file content mode =>
          have kept : (files.contentAt spot.place.reverse).getD [] = content := by
            simp [contentAt, found, held]
          rw [kept] at put
          exact put mode bytes

theorem open_file_furnished (files : Files) (path : Bytes) :
    Furnished files (files.openFile path).2 := by
  have furnished := files.ensure_directories_furnished (around path)
  unfold openFile
  generalize files.ensureDirectories (around path) = result at furnished ⊢
  obtain ⟨outcome, made⟩ := result
  cases outcome with
  | error fault => exact furnished
  | ok => exact furnished

theorem open_file_appended (opened : (files.openFile path).1 = .ok spot) (bytes : Bytes) :
    Appended files ((files.openFile path).2.withBytes spot bytes) path spot.place.reverse
      bytes := by
  have furnished := files.ensure_directories_furnished (around path)
  unfold openFile at opened ⊢
  generalize files.ensureDirectories (around path) = result at furnished opened ⊢
  obtain ⟨outcome, made⟩ := result
  cases outcome with
  | error fault => simp at opened
  | ok => exact (appended_with_bytes opened bytes).after_furnishing furnished

theorem append_of_unopened {fault : Fault} (failed : (files.openFile path).1 = .error fault)
    (bytes : Bytes) : files.append path bytes = (.error fault, (files.openFile path).2) := by
  unfold append
  generalize files.openFile path = result at failed
  obtain ⟨outcome, made⟩ := result
  obtain rfl : outcome = .error fault := failed
  rfl

theorem append_of_opened (opened : (files.openFile path).1 = .ok spot) (bytes : Bytes) :
    files.append path bytes =
      match files.writeFault with
      | none => (.ok (), (files.openFile path).2.withBytes spot bytes)
      | some fault =>
          match files.leftover with
          | none => (.error fault, (files.openFile path).2)
          | some count =>
              (.error fault, (files.openFile path).2.withBytes spot (bytes.take count)) := by
  have furnished := files.open_file_furnished path
  unfold append
  generalize files.openFile path = result at opened furnished
  obtain ⟨outcome, made⟩ := result
  obtain rfl : outcome = .ok spot := opened
  have writes : made.writeFault = files.writeFault := furnished.writeFault_eq
  have leaves : made.leftover = files.leftover := furnished.leftover_eq
  exact writes ▸ leaves ▸ rfl

/-- Whatever an append comes to, it adds a front part of its bytes to one file at most. -/
theorem append_extended (files : Files) (path bytes : Bytes) :
    Extended files (files.append path bytes).2 := by
  have furnished := (files.open_file_furnished path).extended
  cases opened : (files.openFile path).1 with
  | error fault =>
      rw [append_of_unopened opened]
      exact furnished
  | ok spot =>
      rw [append_of_opened opened]
      split
      · exact (open_file_appended opened bytes).extended
      · split
        · exact furnished
        · exact (open_file_appended opened _).extended

theorem save_extended (files : Files) (before after : Backing) :
    Extended files (files.save before after) := by
  unfold save
  split
  · exact files.append_extended _ _
  · exact .refl files

/-- What is assumed of the files wherever a failing write must not change any of them. -/
def AllOrNone (files : Files) : Prop := files.leftover = none

section

variable {path : String}

theorem append_furnished (allOrNone : files.AllOrNone)
    (faulty : (files.backing path).appendFault ≠ none) (bytes : Bytes) :
    Furnished files (files.append (utf8 path) bytes).2 := by
  have furnished := files.open_file_furnished (utf8 path)
  cases opened : (files.openFile (utf8 path)).1 with
  | error fault =>
      rw [append_of_unopened opened]
      exact furnished
  | ok spot =>
      have full : files.writeFault ≠ none := by simpa [backing, opened] using faulty
      obtain ⟨fault, failing⟩ := Option.ne_none_iff_exists'.mp full
      rw [append_of_opened opened, failing, show files.leftover = none from allOrNone]
      exact furnished

theorem append_appended (working : (files.backing path).appendFault = none) (bytes : Bytes) :
    ∃ place, Appended files (files.append (utf8 path) bytes).2 (utf8 path) place bytes := by
  cases opened : (files.openFile (utf8 path)).1 with
  | error fault => simp [backing, opened] at working
  | ok spot =>
      have free : files.writeFault = none := by simpa [backing, opened] using working
      rw [append_of_opened opened, free]
      exact ⟨spot.place.reverse, open_file_appended opened bytes⟩

end

end Files

end Accounts
