import OutlineLint.Text.Basic

/-! Paths, as texts with slashes. The spelling of a path is kept when it is shown; only its parts
    decide what it leads to. -/

namespace OutlineLint.Path

/-- The path of `rel`, seen from `base`. A path that starts at the root stays as it is. -/
def join (base rel : Text) : Text :=
  if rel.head? = some '/' then rel
  else if base = [] ∨ base.getLast? = some '/' then base ++ rel
  else base ++ '/' :: rel

/-- The parts between the slashes that name something: neither empty nor a single dot. -/
def parts (path : Text) : List Text :=
  (Text.pieces '/' path).filter fun p => decide (p ≠ [] ∧ p ≠ ['.'])

end OutlineLint.Path
