import OutlineLint.CharSet

/-! Patterns: regular expressions with assertions about the characters next to a place. A place of a
    text is a gap between two characters or one of its ends, so a text of n characters has n + 1.

        text      f   r   o   n   t
        places  0   1   2   3   4   5

    Whether a pattern is found depends on the set of places that can be reached, never on which of
    several matches is preferred. A set of places is a row of truth values, one per place, and
    `reach` takes the places where a match may start to the places where it may end. -/

namespace OutlineLint

/-- How a place may lie to the words around it. -/
inductive WordPlace where
  /-- One side is in a word. -/
  | edge
  /-- Both sides are in a word, or none is. -/
  | noEdge
  /-- A word starts. -/
  | start
  /-- A word ends. -/
  | finish
  /-- No word reaches the place from before. -/
  | halfStart
  /-- No word goes on after the place. -/
  | halfFinish
  deriving DecidableEq, Repr

/-- What can be asked of a place. -/
inductive Assertion where
  | textStart
  | textEnd
  /-- A line starts; with `crlf`, a carriage return may end lines as well. -/
  | lineStart (crlf : Bool)
  /-- A line ends; with `crlf`, a carriage return may end lines as well. -/
  | lineEnd (crlf : Bool)
  | word (alphabet : Alphabet) (place : WordPlace)
  deriving DecidableEq, Repr

/-- A regular expression. -/
inductive Pattern where
  | empty
  | one (s : CharSet)
  | assert (a : Assertion)
  | seq (p q : Pattern)
  | alt (p q : Pattern)
  /-- `p` at least `least` times, and at most `most` times if there is a limit. -/
  | times (p : Pattern) (least : Nat) (most : Option Nat)
  deriving DecidableEq, Repr

/-- Whether the sides of a place lie to words as described. -/
def WordPlace.holds (before after : Bool) : WordPlace → Bool
  | edge => before != after
  | noEdge => before == after
  | start => !before && after
  | finish => before && !after
  | halfStart => !before
  | halfFinish => !after

/-- Whether an assertion holds between two characters, of which `none` stands for an end. -/
def Assertion.holds (before after : Option Char) : Assertion → Bool
  | textStart => before.isNone
  | textEnd => after.isNone
  | lineStart crlf =>
    before.isNone || before == some '\n' || (crlf && before == some '\r' && after != some '\n')
  | lineEnd crlf =>
    after.isNone || (crlf && after == some '\r')
      || (after == some '\n' && !(crlf && before == some '\r'))
  | word alphabet place =>
    let inWord (side : Option Char) := side.any fun c => alphabet.word.has c.toNat
    place.holds (inWord before) (inWord after)

/-- A set of places of a text, as one truth value per place. -/
abbrev Places := List Bool

namespace Places

/-- Every place of a text. -/
def all (t : Text) : Places := true :: t.map fun _ => true

/-- The places that are in both sets. -/
def inter (m k : Places) : Places := List.zipWith (· && ·) m k

/-- The places that are in one of the sets. -/
def union (m k : Places) : Places := List.zipWith (· || ·) m k

/-- The places that are reached over one character. -/
def across (s : CharSet) (t : Text) (m : Places) : Places :=
  false :: List.zipWith (fun here c => here && s.has c.toNat) m t

/-- The places where an assertion holds. -/
def holding (a : Assertion) (t : Text) : Places :=
  List.zipWith a.holds (none :: t.map some) (t.map some ++ [none])

/-- The places after exactly so many steps. -/
def after (step : Places → Places) : Nat → Places → Places
  | 0, m => m
  | n + 1, m => after step n (step m)

/-- The places after at most so many steps. -/
def within (step : Places → Places) : Nat → Places → Places
  | 0, m => m
  | n + 1, m =>
    let wider := m.union (step m)
    if wider = m then m else within step n wider

end Places

namespace Pattern

/-- The places where a match can end that starts in one of the places given. A text of n characters
    has n + 1 places, and more than n + 1 rounds of a repetition reach no further place. -/
def reach (t : Text) : Pattern → Places → Places
  | empty => id
  | one s => Places.across s t
  | assert a => Places.inter (Places.holding a t)
  | seq p q => fun m => reach t q (reach t p m)
  | alt p q => fun m => (reach t p m).union (reach t q m)
  | times p least most =>
    let rounds := t.length + 1
    let more := match most with
      | some n => min (n - least) rounds
      | none => rounds
    fun m => Places.within (reach t p) more (Places.after (reach t p) (min least rounds) m)

/-- Whether a text has a part that matches. -/
def foundIn (p : Pattern) (t : Text) : Bool := (p.reach t (Places.all t)).any id

/-! ### Size -/

/-- Whether only the empty text can match. -/
def takesNothing : Pattern → Bool
  | empty => true
  | one _ => false
  | assert _ => true
  | seq p q => p.takesNothing && q.takesNothing
  | alt p q => p.takesNothing && q.takesNothing
  | times p _ most => p.takesNothing || most == some 0

/-- The room that the pattern takes, in octets. This approximates the memory of an automaton for it,
    with repetitions written out: 32 octets for a state, 24 for each further range of a set, and a
    state and a half for a branch. A real automaton shares states and splits characters into octets,
    so its size may be on the other side of a limit. -/
def room : Pattern → Nat
  | empty => 32
  | one s => 32 + 24 * (s.size - 1)
  | assert _ => 32
  | seq p q => p.room + q.room
  | alt p q => p.room + q.room + 48
  | times p least most =>
    if p.takesNothing then p.room + 48
    else
      match most with
      | some n => least * p.room + (n - least) * (p.room + 48)
      | none => max 1 least * p.room + 48

/-- The greatest room that a pattern may take: ten mebibytes, a usual bound on automata. -/
def maxRoom : Nat := 10 * 1024 * 1024

end Pattern

end OutlineLint
