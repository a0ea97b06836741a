import OutlineLint.Text.Basic

/-! Event names. A telemetry event is written after a backtick, as a common first segment, the name
    of the document that owns it, and what happened:

        backtick agent . owner . started

    An owner is a run of lower-case Latin letters and hyphens. The scan goes from left to right and
    continues after the dot that ends an owner. -/

namespace OutlineLint.Event

/-- The characters of an owner. -/
def isOwnerChar (c : Char) : Bool := ('a' ≤ c && c ≤ 'z') || c == '-'

/-- What stands before the owner: a backtick, the first segment, a dot. -/
def opening (family : Text) : Text := '\x60' :: family ++ ['.']

/-- The owner of the event whose name starts where the text starts. -/
def ownerAt? (family t : Text) : Option Text :=
  let first := opening family
  if first.isPrefixOf t then
    let rest := t.drop first.length
    let owner := rest.takeWhile isOwnerChar
    if owner ≠ [] ∧ (rest.dropWhile isOwnerChar).head? = some '.' then some owner else none
  else none

/-- The owners of the events in a text, repetitions included, after skipping some characters. -/
def ownersFrom (family : Text) : Nat → Text → List Text
  | _, [] => []
  | skip + 1, _ :: cs => ownersFrom family skip cs
  | 0, c :: cs =>
    match ownerAt? family (c :: cs) with
    | some owner => owner :: ownersFrom family ((opening family).length + owner.length) cs
    | none => ownersFrom family 0 cs

/-- The owners of the events in a text, in order, repetitions included. -/
def owners (family t : Text) : List Text := ownersFrom family 0 t

end OutlineLint.Event
