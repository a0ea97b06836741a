import OutlineLint.Pattern.Escape

/-! Sets in brackets: characters, ranges, escapes, kinds by name and further sets in brackets, which
    are united; a caret in front takes the complement. Two ampersands, hyphens or tildes intersect,
    subtract and compare what stands before them with what follows.

        [^a-z_]   [[:alpha:]--[aeiou]]   [\w&&[^\d]]

    At the front hyphens, and a closing bracket as the very first character, stand for themselves.
    The sets that are open are kept as a stack; each is finished by its closing bracket. -/

namespace OutlineLint.Pattern

/-- An operation between two sets. -/
inductive SetOp where
  | inter
  | diff
  | symmDiff
  deriving DecidableEq, Repr

/-- Applies an operation. -/
def SetOp.apply : SetOp → CharSet → CharSet → CharSet
  | inter => .inter
  | diff => .diff
  | symmDiff => .symmDiff

/-- How much of a set in brackets is read. -/
inductive Progress where
  | nothing
  | hyphens
  | more
  deriving DecidableEq, Repr

/-- A set in brackets that is being read. -/
structure Bracket where
  negated : Bool
  /-- The operation that waits for its right side, and its left side. -/
  pending : Option (SetOp × CharSet)
  /-- The union of what is read since. -/
  members : CharSet
  progress : Progress

namespace Bracket

/-- Adds to the set. -/
def add (b : Bracket) (s : CharSet) : Bracket :=
  { b with members := .union b.members s, progress := .more }

/-- The set read so far, with the operation that waited. Both of its sides are folded. -/
def joined (fs : Flags) (b : Bracket) : CharSet :=
  match b.pending with
  | some (op, left) => op.apply (fs.fold left) (fs.fold b.members)
  | none => b.members

/-- Starts the right side of an operation. -/
def operate (fs : Flags) (b : Bracket) (op : SetOp) : Bracket :=
  { b with pending := some (op, b.joined fs), members := .empty, progress := .more }

/-- The finished set. Counterparts are added before the complement is taken. -/
def finish? (fs : Flags) (b : Bracket) : Option CharSet :=
  fs.negate? b.negated (fs.fold (b.joined fs))

/-- Opens a set, after its bracket. -/
def opened (fs : Flags) (t : Text) : Bracket × Text :=
  match fs.skip t with
  | '^' :: rest => (⟨true, none, .empty, .nothing⟩, rest)
  | rest => (⟨false, none, .empty, .nothing⟩, rest)

/-- A kind by name, read after its first bracket, and what follows. -/
def named? (fs : Flags) (t : Text) : Option (CharSet × Text) :=
  match t with
  | ':' :: t => do
    let (negated, t) := match t with
      | '^' :: rest => (true, rest)
      | rest => (false, rest)
    let (name, rest) ← Text.cut? [':'] t
    let s ← CharSet.ofName? name
    match rest with
    | ']' :: rest => some (← fs.negate? negated (fs.fold s), rest)
    | _ => none
  | _ => none

/-- Whether a kind by name starts here, after its first bracket. -/
def isNamed (t : Text) : Bool := (named? Flags.standard t).isSome

/-- One character or escape, and what follows. -/
def item? (fs : Flags) : Text → Option (Item × Text)
  | [] => none
  | '\\' :: rest => Item.ofEscape? fs rest
  | c :: rest => some (.literal c false, rest)

/-- The characters between two, if the alphabet has both. -/
def range? (fs : Flags) (lo hi : Char) : Option CharSet :=
  if lo ≤ hi ∧ (fs.alphabet = .unicode ∨ hi.toNat < 0x80) then some (.between lo hi) else none

/-- The set of an item. -/
def setOf? (fs : Flags) : Item → Option CharSet
  | .literal c _ => range? fs c c
  | .set s => some s
  | .assert _ => none

/-- A range, or a single item, and what follows. A hyphen before another one or before the closing
    bracket makes no range. -/
def member? (fs : Flags) (t : Text) : Option (CharSet × Text) := do
  let (lo, rest) ← item? fs t
  match fs.skip rest with
  | '-' :: after =>
    match fs.skip after with
    | '-' :: _ | ']' :: _ => return (← setOf? fs lo, '-' :: after)
    | after =>
      match lo, ← item? fs after with
      | .literal lo _, (.literal hi _, rest) => return (← range? fs lo hi, rest)
      | _, _ => none
  | rest => return (← setOf? fs lo, rest)

/-- Reads the innermost open set and those around it; `fuel` bounds the steps. -/
def readFrom (fs : Flags) : Nat → Bracket → List Bracket → Text → Option (CharSet × Text)
  | 0, _, _, _ => none
  | fuel + 1, b, above, t =>
    match fs.skip t with
    | '&' :: '&' :: rest => readFrom fs fuel (b.operate fs .inter) above rest
    | '~' :: '~' :: rest => readFrom fs fuel (b.operate fs .symmDiff) above rest
    | '-' :: rest =>
      if b.progress ≠ .more then
        readFrom fs fuel { b.add (.single '-') with progress := .hyphens } above rest
      else if rest.head? = some '-' then readFrom fs fuel (b.operate fs .diff) above rest.tail
      else member b fuel above ('-' :: rest)
    | ']' :: rest =>
      if b.progress = .nothing then readFrom fs fuel (b.add (.single ']')) above rest
      else
        match b.finish? fs, above with
        | none, _ => none
        | some s, [] => some (s, rest)
        | some s, outer :: above => readFrom fs fuel (outer.add s) above rest
    | '[' :: rest =>
      if isNamed rest then
        match named? fs rest with
        | some (s, rest) => readFrom fs fuel (b.add s) above rest
        | none => none
      else
        let (inner, rest) := opened fs rest
        readFrom fs fuel inner (b :: above) rest
    | rest => member b fuel above rest
where
  /-- Adds one member and goes on. -/
  member (b : Bracket) (fuel : Nat) (above : List Bracket) (t : Text) : Option (CharSet × Text) :=
    match member? fs t with
    | some (s, rest) => readFrom fs fuel (b.add s) above rest
    | none => none

/-- The set in brackets, read after its first bracket, and what follows. -/
def ofText? (fs : Flags) (t : Text) : Option (CharSet × Text) :=
  let (b, rest) := opened fs t
  readFrom fs (t.length + 1) b [] rest

end Bracket

end OutlineLint.Pattern
