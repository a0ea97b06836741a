import OutlineLint.Path
import OutlineLint.Text.Utf8

/-! File trees, and where a path leads in one. A path that starts with a slash starts at the top,
    any other in the working directory; two dots go up, and stay where they are at the top. Every
    part of a path but the last must lead to a folder, and so must a part that is followed by a
    slash: a file has no entry, not even a single dot.

    A tree holds files and folders that can be read, and nothing else: there are no links in it, no
    devices, and nothing that the system refuses to open or to list. -/

namespace OutlineLint

/-- A file with its octets, or a folder with its entries. -/
inductive FileTree where
  | file (content : Octets)
  | folder (entries : List (Octets × FileTree))

/-- What is found where a folder is looked for. -/
inductive Listing where
  /-- The path leads nowhere. -/
  | missing
  /-- The path leads to a file. -/
  | file
  /-- The path leads to a folder with these entries. -/
  | folder (entries : List (Octets × FileTree))

namespace FileTree

/-- The entry with a name. -/
def entry? (name : Octets) (entries : List (Octets × FileTree)) : Option FileTree :=
  (entries.find? (·.1 = name)).map Prod.snd

/-- What a tree holds under a name. A file holds nothing. -/
def child? (name : Octets) : FileTree → Option FileTree
  | .file _ => none
  | .folder entries => entry? name entries

/-- A place in a tree, and the folders above it, the nearest first. -/
structure Position where
  here : FileTree
  above : List FileTree

namespace Position

/-- The top of a tree. -/
def top (t : FileTree) : Position := ⟨t, []⟩

/-- The folder above. Above the top there is none, so it stays. -/
def up (p : Position) : Position :=
  match p.above with
  | [] => p
  | parent :: above => ⟨parent, above⟩

/-- What is held under a name. -/
def enter? (p : Position) (name : Octets) : Option Position :=
  (p.here.child? name).map fun found => ⟨found, p.here :: p.above⟩

/-- Follows one piece of a path. -/
def step? (p : Position) (piece : Text) : Option Position :=
  match p.here with
  | .file _ => none
  | .folder _ =>
    if piece = [] ∨ piece = ['.'] then some p
    else if piece = ['.', '.'] then some p.up
    else p.enter? (Utf8.encode piece)

end Position

/-- Where a path leads. The working directory is given by the names from the top down to it. -/
def find? (top : FileTree) (path : Text) (workingDir : List Octets := []) : Option FileTree :=
  if path = [] then none
  else
    let start := if path.head? = some '/' then [] else workingDir
    (start.foldlM Position.enter? (.top top)).bind fun p =>
      ((Text.pieces '/' path).foldlM Position.step? p).map Position.here

/-- What is found at a path where a folder is looked for. -/
def list (top : FileTree) (path : Text) (workingDir : List Octets := []) : Listing :=
  match top.find? path workingDir with
  | none => .missing
  | some (.file _) => .file
  | some (.folder entries) => .folder entries

end FileTree

end OutlineLint
