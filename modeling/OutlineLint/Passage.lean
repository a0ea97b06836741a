import OutlineLint.Text.Blank

/-! Passages: parts of a raw text that are found by what opens and closes them, whatever line they
    stand on. At the first place where the opening is followed by a blank and by one more
    character, the blanks are skipped, and the body runs to the first closing mark or to the end:

        text = before ++ opening ++ blanks ++ body ++ (closing … or nothing)

    The body is never empty: its first character is taken whatever it is, and when only blanks
    follow the opening, the last of them is the body. -/

namespace OutlineLint.Passage

/-- The text up to the first place where `closes` holds. -/
def upTo (closes : Text → Bool) : Text → Text
  | [] => []
  | c :: cs => if closes (c :: cs) then [] else c :: upTo closes cs

/-- The body at the start of what follows an opening. -/
def bodyAfter? (closes : Text → Bool) (t : Text) : Option Text :=
  let blanks := t.takeWhile isBlank
  match t.dropWhile isBlank with
  | c :: cs => if blanks = [] then none else some (c :: upTo closes cs)
  | [] => if 2 ≤ blanks.length then blanks.getLast?.map ([·]) else none

/-- The body of a passage that starts where the text starts. -/
def bodyAt? (opening : Text) (closes : Text → Bool) (t : Text) : Option Text :=
  if opening.isPrefixOf t then bodyAfter? closes (t.drop opening.length) else none

/-- The body of the first passage with the opening. -/
def locate? (opening : Text) (closes : Text → Bool) : Text → Option Text
  | [] => none
  | c :: cs =>
    match bodyAt? opening closes (c :: cs) with
    | some body => some body
    | none => locate? opening closes cs

/-- A newline and a mark of exactly two signs: the text at the next section heading. -/
def atSection : Text → Bool
  | '\n' :: '#' :: '#' :: rest => rest.head? != some '#'
  | _ => false

/-- A newline and two signs: the text at the next heading below the first level. -/
def atHeading (t : Text) : Bool := ['\n', '#', '#'].isPrefixOf t

end OutlineLint.Passage
