import Accounts.Bytes

/-!
Files and directories as a tree. Places in it are the names on the way from the
root.
-/

namespace Accounts

abbrev Name := Bytes

inductive FileTree where
  | file (content : Bytes) (mode : Nat)
  | directory (entries : List (Name × FileTree))
  deriving Repr

namespace FileTree

def empty : FileTree := .directory []

def entries : FileTree → List (Name × FileTree)
  | .file .. => []
  | .directory entries => entries

def entry? (tree : FileTree) (name : Name) : Option FileTree := tree.entries.lookup name

def get? : FileTree → List Name → Option FileTree
  | tree, [] => some tree
  | tree, name :: place => (tree.entry? name).bind fun inner => inner.get? place

/-- Puts a tree at a place. Directories that are missing on the way are made. -/
def put (new : FileTree) : (place : List Name) → FileTree → FileTree
  | [], _ => new
  | name :: place, tree =>
      let inner := put new place ((tree.entry? name).getD empty)
      .directory ((name, inner) :: tree.entries.filter fun entry => entry.1 ≠ name)

end FileTree

end Accounts
