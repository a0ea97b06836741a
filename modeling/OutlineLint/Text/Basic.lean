/-!
Texts. A text is the list of its characters, so that a scan of it is a recursion on a list and a
statement about it speaks of `++`, of beginnings and of parts. Lengths and positions count
characters, never bytes.

    text      = u ++ needle ++ v      the needle occurs in it
    pieces    = what stands between the separators, one more than there are separators
-/

namespace OutlineLint

/-- A text, character by character. -/
abbrev Text := List Char

/-- Texts are equal when their characters are. -/
instance : LawfulBEq Text := inferInstance

namespace Text

/-- Decimal digits, without a sign or leading zeros. -/
def ofNat (n : Nat) : Text := Nat.toDigits 10 n

/-- Whether `needle` stands somewhere in the text. -/
def occursIn (needle : Text) : Text → Bool
  | [] => needle.isEmpty
  | c :: cs => needle.isPrefixOf (c :: cs) || occursIn needle cs

theorem occursIn_iff {needle : Text} : ∀ {t : Text}, occursIn needle t = true ↔ needle <:+: t
  | [] => by simp [occursIn]
  | c :: cs => by
    rw [occursIn, Bool.or_eq_true, List.isPrefixOf_iff_prefix, occursIn_iff, List.infix_cons_iff]

/-- Puts one more character in front of the first piece. -/
def pushFirst (c : Char) : List Text → List Text
  | [] => [[c]]
  | p :: ps => (c :: p) :: ps

/-- The pieces between the separators, the last one included. -/
def pieces (sep : Char) (t : Text) : List Text :=
  t.foldr (fun c ps => if c = sep then [] :: ps else pushFirst c ps) [[]]

@[simp] theorem pieces_nil (sep : Char) : pieces sep [] = [[]] := rfl

theorem pieces_cons (sep c : Char) (t : Text) :
    pieces sep (c :: t) = if c = sep then [] :: pieces sep t else pushFirst c (pieces sep t) := rfl

@[simp] theorem pushFirst_ne_nil (c : Char) (ps : List Text) : pushFirst c ps ≠ [] := by
  cases ps <;> simp [pushFirst]

theorem pieces_ne_nil (sep : Char) : ∀ t : Text, pieces sep t ≠ []
  | [] => by simp
  | c :: t => by rw [pieces_cons]; split <;> simp

/-- Puts the separator between the pieces. -/
def join (sep : Text) (ps : List Text) : Text := sep.intercalate ps

/-- What stands before and after the first occurrence of `sep`. -/
def cut? (sep : Text) : Text → Option (Text × Text)
  | [] => if sep = [] then some ([], []) else none
  | c :: cs =>
    if sep.isPrefixOf (c :: cs) then some ([], (c :: cs).drop sep.length)
    else (cut? sep cs).map fun (before, after) => (c :: before, after)

end Text

end OutlineLint
