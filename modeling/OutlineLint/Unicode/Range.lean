import OutlineLint.Text.Number

/-! Ranges of code points, and the notation of the tables: hexadecimal, both ends included, one
    blank between ranges.

        41-5A 61-7A AA   ──▶   (0x41, 0x5A), (0x61, 0x7A), (0xAA, 0xAA) -/

namespace OutlineLint.Unicode

/-- What stands between the blanks in the lines of a table. -/
def words (ls : List String) : List Text := ls.flatMap fun l => Text.pieces ' ' l.toList

/-- Ranges of code points, both ends included. -/
abbrev Ranges := List (Nat × Nat)

namespace Ranges

/-- Whether a code point is in one of the ranges. -/
def has (rs : Ranges) (n : Nat) : Bool := rs.any fun (lo, hi) => lo ≤ n && n ≤ hi

/-- The range that a table writes so. -/
def range? (t : Text) : Option (Nat × Nat) :=
  match Text.pieces '-' t with
  | [lo] => (Text.ofHex? lo).map fun n => (n, n)
  | [lo, hi] => do return (← Text.ofHex? lo, ← Text.ofHex? hi)
  | _ => none

/-- The ranges that the lines of a table write so. -/
def ofLines (ls : List String) : Ranges := (words ls).filterMap range?

/-- One more range in front of others that start no earlier: ranges that touch become one. -/
def pushMerged (r : Nat × Nat) : Ranges → Ranges
  | [] => [r]
  | next :: rs => if next.1 ≤ r.2 + 1 then (r.1, max r.2 next.2) :: rs else r :: next :: rs

/-- The same code points in as few ranges as possible, in order. -/
def normal (rs : Ranges) : Ranges :=
  (rs.mergeSort fun a b => decide (a.1 ≤ b.1)).foldr pushMerged []

/-- What lies between ranges in order, from a code point on. -/
def gapsFrom (start : Nat) : Ranges → Ranges
  | [] => if start ≤ 0x10FFFF then [(start, 0x10FFFF)] else []
  | (lo, hi) :: rs =>
    let gap := if start < lo then [(start, lo - 1)] else []
    gap ++ gapsFrom (hi + 1) rs

/-- The other code points. -/
def complement (rs : Ranges) : Ranges := gapsFrom 0 rs.normal

end Ranges

end OutlineLint.Unicode
