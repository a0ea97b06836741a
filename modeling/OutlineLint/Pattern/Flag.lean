import OutlineLint.CharSet

/-! Flags: how the text of a pattern is to be read. A setting such as `i` or `m-s` turns flags on,
    and off after a hyphen; it names each flag at most once. -/

namespace OutlineLint.Pattern

/-- What can be set for the text of a pattern. -/
inductive Flag where
  /-- Letters stand for their counterparts in another case too. -/
  | ignoreCase
  /-- The line anchors hold at every line. -/
  | multiLine
  /-- The dot stands for a newline too. -/
  | dotAll
  /-- Lazy and greedy repetitions change places, which does not change what is found. -/
  | swapGreed
  /-- Letters, digits and blanks are those of Unicode. -/
  | unicode
  /-- A carriage return may end a line as well. -/
  | crlf
  /-- Blanks, and comments from a number sign to the end of the line, mean nothing. -/
  | verbose
  deriving DecidableEq, Repr

/-- The letter of a flag. -/
def Flag.letter : Flag → Char
  | ignoreCase => 'i'
  | multiLine => 'm'
  | dotAll => 's'
  | swapGreed => 'U'
  | unicode => 'u'
  | crlf => 'R'
  | verbose => 'x'

/-- Every flag. -/
def Flag.all : List Flag :=
  [ignoreCase, multiLine, dotAll, swapGreed, unicode, crlf, verbose]

/-- The flag with a letter. -/
def Flag.ofLetter? (c : Char) : Option Flag := Flag.all.find? (·.letter = c)

/-- The flags that are on. -/
abbrev Flags := List Flag

namespace Flags

/-- The flags at the start of a pattern. -/
def standard : Flags := [.unicode]

/-- Turns flags on, or off after a hyphen. -/
def apply (on : Bool) : Flags → Text → Option Flags
  | fs, [] => some fs
  | fs, '-' :: rest => if on then apply false fs rest else none
  | fs, c :: rest =>
    (Flag.ofLetter? c).bind fun f => apply on (if on then f :: fs else fs.filter (· ≠ f)) rest

/-- The flags after a setting. -/
def set? (fs : Flags) (setting : Text) : Option Flags :=
  if setting.Nodup ∧ setting.getLast? ≠ some '-' then apply true fs setting else none

/-- Which characters have a case and a kind. -/
def alphabet (fs : Flags) : Alphabet := if .unicode ∈ fs then .unicode else .ascii

/-- The set with the counterparts of its members, if letters are to stand for them. -/
def fold (fs : Flags) (s : CharSet) : CharSet :=
  if .ignoreCase ∈ fs then .anyCase fs.alphabet s else s

/-- The complement of a set, if it is asked for. With ASCII alone there is none: the complement
    would have octets that are no characters. -/
def negate? (fs : Flags) (negated : Bool) (s : CharSet) : Option CharSet :=
  if negated then if fs.alphabet = .unicode then some (.complement s) else none else some s

/-! ### What is passed over -/

/-- Passes over blanks and comments; `comment` tells whether the text starts in a comment. -/
def passOver (comment : Bool) : Text → Text
  | [] => []
  | c :: cs =>
    if comment then passOver (c != '\n') cs
    else if isBlank c then passOver false cs
    else if c = '#' then passOver true cs
    else c :: cs

/-- The text from the next character on that means something. -/
def skip (fs : Flags) (t : Text) : Text := if .verbose ∈ fs then passOver false t else t

/-- What means something up to a closing brace, and what follows the brace. -/
def braced (verbose comment : Bool) : Text → Option (Text × Text)
  | [] => none
  | c :: cs =>
    if comment then braced verbose (c != '\n') cs
    else if c = '\x7d' then some ([], cs)
    else if verbose ∧ isBlank c then braced verbose false cs
    else if verbose ∧ c = '#' then braced verbose true cs
    else (braced verbose false cs).map fun (name, rest) => (c :: name, rest)

/-- The contents of braces, read after the opening brace, and what follows. -/
def contents? (fs : Flags) (t : Text) : Option (Text × Text) :=
  braced (decide (.verbose ∈ fs)) false t

end Flags

end OutlineLint.Pattern
