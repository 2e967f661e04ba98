import Mathlib.Logic.Function.Basic
import Mathlib.Tactic.SplitIfs
import Accounts.Files

/-!
# What is where

A change of a tree is seen at single places: what holds a file, what is a directory, and
where there is nothing. A file that is put into a directory changes nothing anywhere else,
as long as no directory has to give way to it. Paths are followed by looking at
directories alone, so more directories never lead a path elsewhere.
-/

namespace Accounts

namespace FileTree

/-- What a tree is, whatever a directory holds. -/
inductive Kind where
  | file (content : Bytes)
  | directory
  deriving DecidableEq, Repr

def kind : FileTree → Kind
  | .file content _ => .file content
  | .directory _ => .directory

def kindAt (tree : FileTree) (place : List Name) : Option Kind := (tree.get? place).map kind

variable {tree new : FileTree} {outer : List Name} {name : Name}

theorem kind_at_nil : tree.kindAt [] = some tree.kind := rfl

theorem kind_at_cons (place : List Name) :
    tree.kindAt (name :: place) = (tree.entry? name).bind fun inner => inner.kindAt place := by
  rw [kindAt, get?, Option.map_bind]
  rfl

theorem get_append (outer place : List Name) :
    tree.get? (outer ++ place) = (tree.get? outer).bind fun inner => inner.get? place := by
  induction outer generalizing tree with
  | nil => rfl
  | cons name outer ih =>
      rw [List.cons_append, get?, get?, Option.bind_assoc]
      simp only [ih]

theorem entries_of_kind (leaf : tree.kind ≠ .directory) : tree.entries = [] := by
  cases tree with
  | file content mode => rfl
  | directory entries => exact absurd rfl leaf

theorem kind_at_of_entries (leaf : tree.entries = []) (place : List Name) :
    tree.kindAt (name :: place) = none := by
  rw [kind_at_cons, entry?, leaf]
  rfl

theorem directory_of_inside {inner : List Name} (inside : inner ≠ [])
    (found : tree.kindAt (outer ++ inner) ≠ none) : tree.kindAt outer = some .directory := by
  obtain ⟨name, rest, rfl⟩ := List.exists_cons_of_ne_nil inside
  rw [kindAt, get_append] at found
  cases around : tree.get? outer with
  | none => simp [around] at found
  | some holder =>
      by_contra other
      have leaf : holder.kind ≠ .directory := by
        simpa [kindAt, around] using other
      apply found
      rw [around, Option.bind_some]
      exact kind_at_of_entries (entries_of_kind leaf) rest

theorem directory_of_append {inner : List Name}
    (found : tree.kindAt (outer ++ inner) = some .directory) :
    tree.kindAt outer = some .directory := by
  by_cases inside : inner = []
  · rwa [inside, List.append_nil] at found
  · exact directory_of_inside inside (by simp [found])

theorem lookup_filter_ne {Value : Type} {name other : Name} (different : other ≠ name)
    (entries : List (Name × Value)) :
    (entries.filter fun entry => entry.1 ≠ name).lookup other = entries.lookup other := by
  induction entries with
  | nil => rfl
  | cons entry entries ih =>
      obtain ⟨key, value⟩ := entry
      by_cases replaced : key = name
      · have skipped : (other == key) = false := by simpa [replaced] using different
        rw [List.filter_cons_of_neg (by simpa using replaced), ih, List.lookup_cons, skipped]
      · rw [List.filter_cons_of_pos (by simpa using replaced), List.lookup_cons, List.lookup_cons,
          ih]

theorem entry_put (place : List Name) (other : Name) :
    entry? (put new (name :: place) tree) other =
      if other = name then some (put new place ((tree.entry? name).getD empty))
      else tree.entry? other := by
  rw [put, entry?, entries, List.lookup_cons]
  by_cases same : other = name
  · simp [same]
  · have skipped : (other == name) = false := by simpa using same
    rw [skipped, if_neg same]
    exact lookup_filter_ne same tree.entries

/-- What is put into a directory in the place of a file, or of nothing, is the only change. -/
theorem kind_at_put (around : tree.kindAt outer = some .directory)
    (free : tree.kindAt (outer ++ [name]) ≠ some .directory) (leaf : new.entries = [])
    (place : List Name) :
    (put new (outer ++ [name]) tree).kindAt place =
      if place = outer ++ [name] then some new.kind else tree.kindAt place := by
  -- Along the way to the new tree only the entry that is gone into differs.
  induction outer generalizing tree place with
  | nil =>
      cases place with
      | nil => exact around.symm
      | cons first rest =>
          rw [List.nil_append, kind_at_cons, kind_at_cons, entry_put]
          by_cases same : first = name
          · cases rest with
            | nil => simp [same, put, kind_at_nil]
            | cons second rest =>
                -- Nothing was inside what gives way, and nothing is inside what is new.
                have before : (tree.entry? name).bind
                    (fun inner => inner.kindAt (second :: rest)) = none := by
                  rw [List.nil_append, kind_at_cons] at free
                  cases held : tree.entry? name with
                  | none => rfl
                  | some inner =>
                      have other : inner.kind ≠ .directory := by
                        simpa [held, kind_at_nil] using free
                      exact kind_at_of_entries (entries_of_kind other) rest
                simp [same, put, before, kind_at_of_entries leaf]
          · simp [same]
  | cons step outer ih =>
      rw [kind_at_cons] at around
      obtain ⟨inner, held, around⟩ := Option.bind_eq_some_iff.mp around
      rw [List.cons_append, kind_at_cons, held, Option.bind_some] at free
      cases place with
      | nil =>
          have holder : tree.kindAt [] = some .directory := by
            apply directory_of_inside (List.cons_ne_nil step [])
            simp [kind_at_cons, held, kind_at_nil]
          exact holder.symm
      | cons first rest =>
          rw [List.cons_append, kind_at_cons, kind_at_cons, entry_put]
          by_cases same : first = step
          · simp [same, held, ih around free]
          · simp [same]

end FileTree

namespace Files

open FileTree (Kind)

def kindAt (files : Files) (place : List Name) : Option Kind := files.root.kindAt place

/-- The content of the file at a place, if a file is there. -/
def contentAt (files : Files) (place : List Name) : Option Bytes :=
  match files.root.get? place with
  | some (.file content _) => some content
  | _ => none

variable {files before after : Files} {place : List Name} {spot : Spot}

theorem content_at_eq_some {content : Bytes} :
    files.contentAt place = some content ↔ files.kindAt place = some (.file content) := by
  unfold contentAt kindAt FileTree.kindAt
  cases files.root.get? place with
  | none => simp
  | some tree => cases tree <;> simp [FileTree.kind]

theorem content_at_congr (same : after.kindAt place = before.kindAt place) :
    after.contentAt place = before.contentAt place := by
  apply Option.ext
  intro content
  rw [content_at_eq_some, content_at_eq_some, same]

/-- The place one name on. -/
def onward (place : List Name) (name : Name) : List Name :=
  if name = here then place else if name = above then place.tail else name :: place

theorem next_eq_spot_at {directory : FileTree} (name : Name)
    (found : files.root.get? place.reverse = some directory) :
    files.next place directory name = files.spotAt (onward place name) := by
  unfold next onward
  split_ifs
  · rw [spotAt, found]
  · rfl
  · rw [spotAt, List.reverse_cons, FileTree.get_append, found, Option.bind_some, FileTree.get?]
    cases directory.entry? name <;> rfl

theorem walk_cons_of_directory {name : Name} (rest : List Name)
    (directory : files.kindAt place.reverse = some .directory)
    (short : name.length ≤ maxNameBytes) :
    files.walk (files.spotAt place) (name :: rest) =
      files.walk (files.spotAt (onward place name)) rest := by
  obtain ⟨tree, found, kind⟩ := Option.map_eq_some_iff.mp directory
  cases tree with
  | file content mode => simp [FileTree.kind] at kind
  | directory entries =>
      rw [← next_eq_spot_at name found, spotAt, found, walk, if_neg (Nat.not_lt.mpr short)]

theorem walk_cons_eq_ok {name : Name} {rest : List Name}
    (arrived : files.walk (files.spotAt place) (name :: rest) = .ok spot) :
    files.kindAt place.reverse = some .directory ∧ name.length ≤ maxNameBytes ∧
      files.walk (files.spotAt (onward place name)) rest = .ok spot := by
  cases found : files.root.get? place.reverse with
  | none => simp [spotAt, found, walk] at arrived
  | some tree =>
      cases tree with
      | file content mode => simp [spotAt, found, walk] at arrived
      | directory entries =>
          have directory : files.kindAt place.reverse = some .directory := by
            rw [kindAt, FileTree.kindAt, found]
            rfl
          have short : name.length ≤ maxNameBytes := by
            by_contra long
            simp [spotAt, found, walk, Nat.not_le.mp long] at arrived
          rw [walk_cons_of_directory rest directory short] at arrived
          exact ⟨directory, short, arrived⟩

theorem walk_arrives_at_spot {names : List Name}
    (arrived : files.walk (files.spotAt place) names = .ok spot) :
    spot = files.spotAt spot.place := by
  induction names generalizing place with
  | nil =>
      obtain rfl := Except.ok.inj arrived
      rfl
  | cons name rest ih =>
      obtain ⟨_, _, later⟩ := walk_cons_eq_ok arrived
      exact ih later

theorem directory_around (directory : files.kindAt place.reverse = some .directory) :
    files.kindAt place.tail.reverse = some .directory := by
  cases place with
  | nil => exact directory
  | cons last place =>
      rw [List.reverse_cons] at directory
      exact FileTree.directory_of_append directory

theorem directory_around_onward (name : Name)
    (directory : files.kindAt place.reverse = some .directory) :
    files.kindAt (onward place name).tail.reverse = some .directory := by
  unfold onward
  split_ifs
  · exact directory_around directory
  · exact directory_around (directory_around directory)
  · exact directory

/-- Whatever a path with a name in it leads to lies in a directory. -/
theorem walk_arrives_in_directory {names : List Name} (moved : names ≠ [])
    (arrived : files.walk (files.spotAt place) names = .ok spot) :
    files.kindAt spot.place.tail.reverse = some .directory := by
  induction names generalizing place with
  | nil => exact absurd rfl moved
  | cons name rest ih =>
      obtain ⟨directory, _, later⟩ := walk_cons_eq_ok arrived
      by_cases last : rest = []
      · rw [last] at later
        obtain rfl := Except.ok.inj later
        exact directory_around_onward name directory
      · exact ih last later

/-- The same path leads to the same place where no directory is gone. -/
theorem walk_of_more_directories {names : List Name}
    (kept : ∀ place, before.kindAt place = some .directory → after.kindAt place = some .directory)
    (arrived : before.walk (before.spotAt place) names = .ok spot) :
    after.walk (after.spotAt place) names = .ok (after.spotAt spot.place) := by
  induction names generalizing place with
  | nil =>
      obtain rfl := Except.ok.inj arrived
      rfl
  | cons name rest ih =>
      obtain ⟨directory, short, later⟩ := walk_cons_eq_ok arrived
      rw [walk_cons_of_directory rest (kept _ directory) short]
      exact ih later

def origin (files : Files) (path : Bytes) : List Name :=
  if path.head? = some slash then [] else files.working.reverse

theorem start_eq_spot_at (path : Bytes) : files.start path = files.spotAt (files.origin path) := rfl

theorem locate_eq_ok {path : Bytes} (located : files.locate path = .ok spot) :
    pathFault path = none ∧ files.walk (files.spotAt (files.origin path))
      (names path ++ if endsWithSlash path then [here] else []) = .ok spot := by
  unfold locate at located
  cases faulty : pathFault path with
  | some fault => simp [faulty] at located
  | none =>
      rw [faulty] at located
      exact ⟨rfl, located⟩

theorem read_eq_ok {path content : Bytes} :
    files.read path = .ok content ↔ ∃ place, files.locate path = .ok (files.spotAt place) ∧
      files.contentAt place.reverse = some content := by
  have found : ∀ place, files.locate path = .ok (files.spotAt place) →
      (files.read path = .ok content ↔ files.contentAt place.reverse = some content) := by
    intro place located
    simp only [read, located, spotAt, contentAt]
    cases files.root.get? place.reverse with
    | none => simp
    | some tree => cases tree <;> simp
  constructor
  · intro held
    cases located : files.locate path with
    | error fault => simp [read, located] at held
    | ok spot =>
        have arrived := walk_arrives_at_spot (locate_eq_ok located).2
        rw [arrived] at located
        exact ⟨spot.place, congrArg Except.ok arrived, (found spot.place located).mp held⟩
  · rintro ⟨place, located, held⟩
    exact (found place located).mpr held

end Files

end Accounts
