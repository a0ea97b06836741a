import OutlineLint.Pattern.Basic
import OutlineLint.Pattern.Flag

/-! Escapes: what a backslash and the characters after it stand for.

        \n \t \x41 \u00e9 \x7b1F600\x7d      one character
        \. \- \\                         the character itself, unless it is a letter, a digit or <>
        \d \s \w \pL \p\x7bGreek\x7d         a set; with an upper-case letter, the other characters
        \A \z \b \B \< \> \b\x7bstart\x7d     an assertion -/

namespace OutlineLint.Pattern

/-- What a pattern can be made of, apart from operators. -/
inductive Item where
  /-- One character; `octet` tells that two hexadecimal digits give it. -/
  | literal (c : Char) (octet : Bool)
  | set (s : CharSet)
  | assert (a : Assertion)
  deriving DecidableEq, Repr

namespace Item

/-- The character with a code point. -/
def ofCode? (n : Nat) : Option Char := if n.isValidChar then some (Char.ofNat n) else none

/-- Exactly `n` hexadecimal digits, and what follows. -/
def digits? (fs : Flags) : Nat → Text → Option (Text × Text)
  | 0, t => some ([], t)
  | n + 1, t =>
    match fs.skip t with
    | [] => none
    | c :: cs => (digits? fs n cs).map fun (ds, rest) => (c :: ds, rest)

/-- A character by its code point: in braces, or with `n` digits. -/
def code? (fs : Flags) (n : Nat) (t : Text) : Option (Item × Text) :=
  match fs.skip t with
  | '\x7b' :: cs => do
    let (ds, rest) ← fs.contents? cs
    return (.literal (← ofCode? (← Text.ofHex? ds)) false, rest)
  | t => do
    let (ds, rest) ← digits? fs n t
    return (.literal (← ofCode? (← Text.ofHex? ds)) (n == 2), rest)

/-- The set of a property: by its name, or by a name and a value. -/
def property? (negated : Bool) (name : Text) : Option (Bool × Unicode.Ranges) :=
  let pair (negated : Bool) := fun (name, value) =>
    (Unicode.Property.ofPair? name value).map fun rs => (negated, rs)
  match Text.cut? ['!', '='] name with
  | some p => pair (!negated) p
  | none =>
    match (Text.cut? [':'] name).or (Text.cut? ['='] name) with
    | some p => pair negated p
    | none => (Unicode.Property.ofName? name).map fun rs => (negated, rs)

/-- The characters with a property: in braces, or with a name of one letter. -/
def propertySet? (fs : Flags) (negated : Bool) (t : Text) : Option (Item × Text) :=
  if fs.alphabet = .ascii then none
  else do
    let (name, rest) ← match fs.skip t with
      | '\x7b' :: cs => fs.contents? cs
      | c :: cs => if c = '\\' then none else some ([c], cs)
      | [] => none
    let (negated, rs) ← property? negated name
    return (.set (← fs.negate? negated (fs.fold (.ranges rs))), rest)

/-- A kind of characters that has a letter of its own. -/
def kind? (fs : Flags) (negated : Bool) (s : Alphabet → CharSet) (t : Text) :
    Option (Item × Text) :=
  (fs.negate? negated (s fs.alphabet)).map fun s => (.set s, t)

/-- The places that have a name. -/
def wordPlaces : List (String × WordPlace) :=
  [("start", .start), ("end", .finish), ("start-half", .halfStart), ("end-half", .halfFinish)]

/-- An assertion about words; braces with a letter or a hyphen in front name the place. -/
def edge? (fs : Flags) (t : Text) : Option (Item × Text) :=
  let plain := some (assert (.word fs.alphabet .edge), t)
  match t with
  | '\x7b' :: cs =>
    match fs.skip cs with
    | [] => none
    | c :: _ =>
      if c.isAlpha || c = '-' then do
        let (name, rest) ← fs.contents? cs
        let (_, place) ← wordPlaces.find? (·.1.toList = name)
        return (assert (.word fs.alphabet place), rest)
      else plain
  | _ => plain

/-- Whether a backslash makes a character stand for itself. -/
def standsForItself (c : Char) : Bool :=
  decide (c.toNat < 0x80) && !c.isAlphanum && c != '<' && c != '>'

/-- The characters that have an escape of their own. -/
def controls : List (Char × Char) :=
  [('a', '\x07'), ('f', '\x0c'), ('t', '\t'), ('n', '\n'), ('r', '\r'), ('v', '\x0b')]

/-- What an escape stands for, read after the backslash, and what follows. -/
def ofEscape? (fs : Flags) : Text → Option (Item × Text)
  | [] => none
  | c :: t =>
    let place (p : WordPlace) : Option (Item × Text) := some (assert (.word fs.alphabet p), t)
    match c with
    | 'x' => code? fs 2 t
    | 'u' => code? fs 4 t
    | 'U' => code? fs 8 t
    | 'p' => propertySet? fs false t
    | 'P' => propertySet? fs true t
    | 'd' => kind? fs false Alphabet.digit t
    | 'D' => kind? fs true Alphabet.digit t
    | 's' => kind? fs false Alphabet.space t
    | 'S' => kind? fs true Alphabet.space t
    | 'w' => kind? fs false Alphabet.word t
    | 'W' => kind? fs true Alphabet.word t
    | 'A' => some (assert .textStart, t)
    | 'z' => some (assert .textEnd, t)
    | 'b' => edge? fs t
    | 'B' => place .noEdge
    | '<' => place .start
    | '>' => place .finish
    | c =>
      match controls.find? (·.1 = c) with
      | some (_, value) => some (literal value false, t)
      | none => if standsForItself c then some (literal c false, t) else none

end Item

end OutlineLint.Pattern
