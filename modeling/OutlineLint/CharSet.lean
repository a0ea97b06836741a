import OutlineLint.Unicode.Fold
import OutlineLint.Unicode.Property

/-! Sets of characters, built from ranges. The alphabet decides what counts as a letter, a digit, a
    blank or a counterpart in another case: all of Unicode, or ASCII alone.

        [a-f&&[^c]]   ──▶   inter (ranges a-f) (complement (ranges c)) -/

namespace OutlineLint

/-- The characters that have a case and a kind. -/
inductive Alphabet where
  | unicode
  | ascii
  deriving DecidableEq, Repr

/-- A set of characters, by the ranges and operations that make it. -/
inductive CharSet where
  | ranges (rs : Unicode.Ranges)
  | complement (s : CharSet)
  | union (s t : CharSet)
  | inter (s t : CharSet)
  /-- The members of a set and all their counterparts in another case. -/
  | anyCase (alphabet : Alphabet) (s : CharSet)
  deriving DecidableEq, Repr

/-- Every code point that differs from this one at most in case. -/
def Alphabet.counterparts : Alphabet → Nat → List Nat
  | unicode, n => Unicode.counterparts n
  | ascii, n =>
    if 0x41 ≤ n ∧ n ≤ 0x5A then [n, n + 0x20]
    else if 0x61 ≤ n ∧ n ≤ 0x7A then [n, n - 0x20]
    else [n]

namespace CharSet

/-- Whether a code point is in the set. -/
def has : CharSet → Nat → Bool
  | ranges rs, n => rs.has n
  | complement s, n => !s.has n
  | union s t, n => s.has n || t.has n
  | inter s t, n => s.has n && t.has n
  | anyCase alphabet s, n => (alphabet.counterparts n).any s.has

/-- The members of `s` that are not in `t`. -/
def diff (s t : CharSet) : CharSet := inter s (complement t)

/-- What is in exactly one of two sets. -/
def symmDiff (s t : CharSet) : CharSet := union (s.diff t) (t.diff s)

/-- The set without members. -/
def empty : CharSet := ranges []

/-- The set of every character. -/
def every : CharSet := complement empty

/-- The set with one member. -/
def single (c : Char) : CharSet := ranges [(c.toNat, c.toNat)]

/-- The set of some characters. -/
def ofString (s : String) : CharSet := ranges (s.toList.map fun c => (c.toNat, c.toNat))

/-- The characters between two, both included. -/
def between (lo hi : Char) : CharSet := ranges [(lo.toNat, hi.toNat)]

/-- How many ranges the set is made from. -/
def size : CharSet → Nat
  | ranges rs => rs.length
  | complement s => s.size
  | union s t => s.size + t.size
  | inter s t => s.size + t.size
  | anyCase _ s => 2 * s.size

/-! ### Kinds of characters -/

/-- The lower-case letters of ASCII. -/
def asciiLower : CharSet := between 'a' 'z'

/-- The upper-case letters of ASCII. -/
def asciiUpper : CharSet := between 'A' 'Z'

/-- The letters of ASCII. -/
def asciiAlpha : CharSet := union asciiUpper asciiLower

/-- The digits of ASCII. -/
def asciiDigit : CharSet := between '0' '9'

/-- The letters and digits of ASCII. -/
def asciiAlnum : CharSet := union asciiDigit asciiAlpha

/-- The characters of words in ASCII. -/
def asciiWord : CharSet := union asciiAlnum (single '_')

/-- The blanks of ASCII. -/
def asciiSpace : CharSet := ofString "\t\n\x0b\x0c\r "

/-- The punctuation of ASCII: what is visible and neither a letter nor a digit. -/
def asciiPunct : CharSet := diff (between '!' '~') asciiAlnum

/-- The kinds of ASCII characters that have a name. -/
def named : List (String × CharSet) :=
  [("alnum", asciiAlnum), ("alpha", asciiAlpha), ("ascii", between '\x00' '\x7f'),
   ("blank", ofString "\t "), ("cntrl", union (between '\x00' '\x1f') (single '\x7f')),
   ("digit", asciiDigit), ("graph", between '!' '~'), ("lower", asciiLower),
   ("print", between ' ' '~'), ("punct", asciiPunct), ("space", asciiSpace),
   ("upper", asciiUpper), ("word", asciiWord),
   ("xdigit", union asciiDigit (union (between 'A' 'F') (between 'a' 'f')))]

/-- The kind of ASCII characters with a name. -/
def ofName? (name : Text) : Option CharSet :=
  (named.find? fun row => row.1.toList = name).map Prod.snd

end CharSet

namespace Alphabet

/-- The decimal digits. -/
def digit : Alphabet → CharSet
  | unicode => .ranges (Unicode.Category.ofNames ["Nd"])
  | ascii => .asciiDigit

/-- The blanks. -/
def space : Alphabet → CharSet
  | unicode => .ranges blankRanges
  | ascii => .asciiSpace

/-- The characters of words. -/
def word : Alphabet → CharSet
  | unicode => .ranges Unicode.Property.word
  | ascii => .asciiWord

end Alphabet

end OutlineLint
