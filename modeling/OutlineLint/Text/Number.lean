import OutlineLint.Text.Basic

/-! Numbers in decimal and in hexadecimal writing. A number has at least one digit, and may have
    leading zeros. -/

namespace OutlineLint.Text

/-- The value of a decimal digit. -/
def digit? (c : Char) : Option Nat :=
  if '0' ≤ c ∧ c ≤ '9' then some (c.toNat - '0'.toNat) else none

/-- The value of a hexadecimal digit, in either case. -/
def hexDigit? (c : Char) : Option Nat :=
  if 'a' ≤ c ∧ c ≤ 'f' then some (c.toNat - 'a'.toNat + 10)
  else if 'A' ≤ c ∧ c ≤ 'F' then some (c.toNat - 'A'.toNat + 10)
  else digit? c

/-- The value of digits to a base, the most significant first. -/
def value? (base : Nat) (digit? : Char → Option Nat) (t : Text) : Option Nat :=
  if t = [] then none else (t.mapM digit?).map fun ds => ds.foldl (base * · + ·) 0

/-- The number with these decimal digits. -/
def ofDecimal? (t : Text) : Option Nat := value? 10 digit? t

/-- The number with these hexadecimal digits. -/
def ofHex? (t : Text) : Option Nat := value? 16 hexDigit? t

end OutlineLint.Text
