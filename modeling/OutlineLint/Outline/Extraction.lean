import OutlineLint.Heading
import OutlineLint.Outline.Basic
import OutlineLint.Text.Line

/-! The outline of a text. Its lines are cut in front of every section heading; what stands before
    the first heading belongs to no section, and deeper headings stay in the body. Later sections
    are inserted after earlier ones, so a repeated title resolves to its last body. -/

namespace OutlineLint.Outline

/-- The lines before the first heading, and the sections that follow. -/
structure Cut where
  preamble : List Text
  sections : List Section
  deriving DecidableEq, Repr

/-- One more line in front: a heading takes the lines gathered so far as its body. -/
def Cut.push (l : Text) (c : Cut) : Cut :=
  match Heading.title? l with
  | some title => ⟨[], ⟨title, Text.joinLines c.preamble⟩ :: c.sections⟩
  | none => ⟨l :: c.preamble, c.sections⟩

/-- Cuts lines at the section headings. -/
def cut (ls : List Text) : Cut := ls.foldr Cut.push ⟨[], []⟩

/-- The outline of a text. -/
def ofText (t : Text) : Outline := ofList (cut t.lines).sections

end OutlineLint.Outline
