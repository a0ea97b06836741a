import OutlineLint.Text.Basic

/-! Lines. A newline ends a line, and one carriage return before it belongs to the line break. What
    follows the last newline is a line of its own when it is not empty, and keeps its carriage
    return: only a newline makes one part of a break.

        a CR LF b LF LF c CR   ──▶   a | b | (empty) | c CR -/

namespace OutlineLint.Text

/-- The line without one carriage return at its end. -/
def dropReturn (l : Text) : Text := if l.getLast? = some '\r' then l.dropLast else l

/-- The lines of a text. -/
def lines (t : Text) : List Text :=
  let ps := pieces '\n' t
  let rest := ps.getLastD []
  ps.dropLast.map dropReturn ++ if rest = [] then [] else [rest]

/-- Lines as one text, with a newline between neighbours and none at the end. -/
def joinLines (ls : List Text) : Text := join ['\n'] ls

end OutlineLint.Text
