import OutlineLint.Pattern.Bracket

/-! Patterns from their texts. Reading keeps the open groups as a stack, each with its finished
    alternatives and with the items of the alternative under way; a closing parenthesis makes an
    item of the innermost group, and at the end no group may be open but the whole pattern.

        a(b|c*)d     levels: whole pattern a · group b | c*      ──▶   a · (b | c*) · d

    Flags hold to the end of the group in which they are set. A text that is no pattern has none:
    there is no meaning for back references, for looking around, for a repetition of nothing, or for
    a pattern that takes more than its room.

    This is one dialect among others. Engines that read nearly the same patterns also know the
    properties Age, Script_Extensions, the identifier and the segmentation properties, bound how
    deep groups may nest, and measure the automaton that they build instead of estimating it. So
    a run takes its reader of patterns as an argument, and what is said of traces holds for each. -/

namespace OutlineLint.Pattern

/-- One pattern after the other. -/
def seqOf : List Pattern → Pattern
  | [] => empty
  | [p] => p
  | p :: ps => seq p (seqOf ps)

/-- One of several patterns. -/
def altOf : Pattern → List Pattern → Pattern
  | p, [] => p
  | p, q :: qs => alt p (altOf q qs)

/-- A group that is open: what is read of it. -/
structure Level where
  /-- The flags outside the group. -/
  outer : Flags
  /-- The finished alternatives, the latest first. -/
  alternatives : List Pattern
  /-- The items of the alternative under way, the latest first. A setting of flags is an item that
      matches nothing and cannot be repeated. -/
  items : List (Option Pattern)

namespace Level

/-- A group in which nothing is read yet. -/
def opened (outer : Flags) : Level := ⟨outer, [], []⟩

/-- The alternative under way. -/
def alternative (l : Level) : Pattern := seqOf (l.items.reverse.filterMap id)

/-- The pattern in the group. -/
def pattern (l : Level) : Pattern :=
  match (l.alternative :: l.alternatives).reverse with
  | [] => empty
  | p :: ps => altOf p ps

/-- Adds an item. -/
def push (l : Level) (p : Pattern) : Level := { l with items := some p :: l.items }

/-- Starts the next alternative. -/
def next (l : Level) : Level := ⟨l.outer, l.alternative :: l.alternatives, []⟩

/-- Repeats the last item. -/
def repeat? (l : Level) (least : Nat) (most : Option Nat) : Option Level :=
  match l.items with
  | some p :: items => some { l with items := some (.times p least most) :: items }
  | _ => none

end Level

/-- What is read of a pattern. -/
structure Reader where
  flags : Flags
  /-- The names of the groups. -/
  names : List Text
  level : Level
  /-- The groups around the innermost one, from the inside out. -/
  above : List Level

namespace Reader

/-- Nothing is read yet. -/
def start : Reader := ⟨.standard, [], .opened .standard, []⟩

/-- Adds an item to the innermost group. -/
def push (r : Reader) (p : Pattern) : Reader := { r with level := r.level.push p }

/-- Opens a group. -/
def openGroup (r : Reader) (inner : Flags) : Reader :=
  { r with flags := inner, level := .opened r.flags, above := r.level :: r.above }

/-- Closes the innermost group. -/
def closeGroup? (r : Reader) : Option Reader :=
  match r.above with
  | [] => none
  | outer :: above =>
    some { r with flags := r.level.outer, level := outer.push r.level.pattern, above }

/-- The whole pattern, when no group is open. -/
def finish? (r : Reader) : Option Pattern :=
  if r.above.isEmpty then some r.level.pattern else none

/-! ### Single items -/

/-- A character. -/
def literal? (fs : Flags) (c : Char) (octet : Bool) : Option Pattern :=
  if fs.alphabet = .ascii ∧ octet ∧ 0x80 ≤ c.toNat then none else some (.one (fs.fold (.single c)))

/-- The dot. -/
def dot? (fs : Flags) : Option Pattern :=
  if fs.alphabet = .ascii then none
  else if .dotAll ∈ fs then some (.one .every)
  else if .crlf ∈ fs then some (.one (.complement (.ofString "\r\n")))
  else some (.one (.complement (.single '\n')))

/-- The caret. -/
def caret (fs : Flags) : Assertion :=
  if .multiLine ∈ fs then .lineStart (decide (.crlf ∈ fs)) else .textStart

/-- The dollar sign. -/
def dollar (fs : Flags) : Assertion :=
  if .multiLine ∈ fs then .lineEnd (decide (.crlf ∈ fs)) else .textEnd

/-- The pattern of an item. -/
def item? (fs : Flags) : Item → Option Pattern
  | .literal c octet => literal? fs c octet
  | .set s => some (.one s)
  | .assert a => some (.assert a)

/-! ### Repetitions -/

/-- The text after a question mark in front, which makes a repetition lazy. -/
def afterLazy : Text → Text
  | '?' :: rest => rest
  | rest => rest

/-- A number of repetitions, with blanks around it; at most 2³² - 1. -/
def count? (t : Text) : Option Nat :=
  (Text.ofDecimal? (Text.trim t)).filter fun n => decide (n < UInt32.size)

/-- The bounds of a repetition: `n`, `n,` or `n,m`. -/
def bounds? (t : Text) : Option (Nat × Option Nat) :=
  match Text.cut? [','] t with
  | none => (count? t).map fun n => (n, some n)
  | some (least, []) => (count? least).map fun n => (n, none)
  | some (least, most) => do
    let n ← count? least
    let m ← count? most
    if n ≤ m then some (n, some m) else none

/-- Repeats the last item. -/
def repeat? (r : Reader) (least : Nat) (most : Option Nat) (rest : Text) :
    Option (Reader × Text) :=
  (r.level.repeat? least most).map fun level => ({ r with level }, rest)

/-! ### Groups -/

/-- Whether a character can be in the name of a group. -/
def isNameChar (c : Char) : Bool :=
  "_.[]".toList.contains c || Unicode.Property.alphabetic.has c.toNat
    || (Unicode.Category.ofNames ["Nd", "Nl", "No"]).has c.toNat

/-- Whether a text is the name of a group. -/
def isName : Text → Bool
  | [] => false
  | c :: cs => (c == '_' || Unicode.Property.alphabetic.has c.toNat) && cs.all isNameChar

/-- Opens a group with a name, read from the name on. -/
def named? (r : Reader) (t : Text) : Option (Reader × Text) := do
  let (name, rest) ← Text.cut? ['>'] t
  if isName name ∧ name ∉ r.names then
    some ({ r with names := name :: r.names }.openGroup r.flags, rest)
  else none

/-- Sets flags: up to the end of the innermost group, or for a group that a colon opens. -/
def set? (r : Reader) (t : Text) : Option (Reader × Text) := do
  let isSetting (c : Char) : Bool := c != ':' && c != ')'
  let setting := t.takeWhile isSetting
  let flags ← r.flags.set? setting
  match t.dropWhile isSetting with
  | ':' :: rest => some (r.openGroup flags, rest)
  | ')' :: rest =>
    if setting = [] then none
    else some ({ r with flags, level := { r.level with items := none :: r.level.items } }, rest)
  | _ => none

/-- What starts with a parenthesis, read after it. -/
def group? (r : Reader) (t : Text) : Option (Reader × Text) :=
  match r.flags.skip t with
  | '?' :: 'P' :: '<' :: rest => r.named? rest
  | '?' :: '<' :: rest => r.named? rest
  | '?' :: rest => r.set? rest
  | rest => some (r.openGroup r.flags, rest)

/-! ### The whole text -/

/-- Reads one item or operator. -/
def step? (r : Reader) (c : Char) (t : Text) : Option (Reader × Text) :=
  match c with
  | '(' => r.group? t
  | ')' => r.closeGroup?.map (·, t)
  | '|' => some ({ r with level := r.level.next }, t)
  | '[' => (Bracket.ofText? r.flags t).map fun (s, rest) => (r.push (.one s), rest)
  | '?' => r.repeat? 0 (some 1) (afterLazy t)
  | '*' => r.repeat? 0 none (afterLazy t)
  | '+' => r.repeat? 1 none (afterLazy t)
  | '\x7b' => do
    let (counts, rest) ← r.flags.contents? t
    let (least, most) ← bounds? counts
    r.repeat? least most (afterLazy (r.flags.skip rest))
  | '.' => (dot? r.flags).map fun p => (r.push p, t)
  | '^' => some (r.push (.assert (caret r.flags)), t)
  | '$' => some (r.push (.assert (dollar r.flags)), t)
  | '\\' => do
    let (i, rest) ← Item.ofEscape? r.flags t
    return (r.push (← item? r.flags i), rest)
  | c => (literal? r.flags c false).map fun p => (r.push p, t)

/-- Reads to the end of the text; `fuel` bounds the steps. -/
def readFrom : Nat → Reader → Text → Option Pattern
  | 0, _, _ => none
  | fuel + 1, r, t =>
    match r.flags.skip t with
    | [] => r.finish?
    | c :: t => (r.step? c t).bind fun (r, rest) => readFrom fuel r rest

end Reader

/-- The pattern with a text. Every step takes a character, so there are no more steps than
    characters, and one for the end. -/
def ofText? (t : Text) : Option Pattern :=
  (Reader.readFrom (t.length + 1) .start t).filter fun p => decide (p.room ≤ maxRoom)

end OutlineLint.Pattern
