import OutlineLint.Path

/-! File names. The last dot of a name separates stem and extension, unless it is the first
    character: a name such as `.md` is all stem. Names are lists over any alphabet, because a
    folder lists them as octets and a document shows them as text. -/

namespace OutlineLint.FileName

variable {α : Type} [DecidableEq α]

/-- What stands before and after the last dot. -/
def splitLast? (dot : α) (name : List α) : Option (List α × List α) :=
  match name.reverse.dropWhile (· ≠ dot) with
  | [] => none
  | _ :: before => some (before.reverse, (name.reverse.takeWhile (· ≠ dot)).reverse)

/-- The name up to the dot before its extension. -/
def stem (dot : α) (name : List α) : List α :=
  match splitLast? dot name with
  | some (before, _) => if before = [] then name else before
  | none => name

/-- The name after the dot before its extension. -/
def extension? (dot : α) (name : List α) : Option (List α) :=
  match splitLast? dot name with
  | some (before, after) => if before = [] then none else some after
  | none => none

/-- The name by which a document is known: the stem of the last part of its path. A path without a
    last part, or that ends by going up, is its own name. -/
def identity (path : Text) : Text :=
  match (Path.parts path).getLast? with
  | some part => if part = ['.', '.'] then path else stem '.' part
  | none => path

end OutlineLint.FileName
