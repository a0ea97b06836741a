import OutlineLint.Text.Blank

/-! Section headings: two marks, blanks, a title. Deeper headings are no section headings, since
    their third mark is no blank.

        line = "##" ++ blanks ++ title ++ blanks

    The first run of blanks is not empty and may hold newlines; from the title on there is none. -/

namespace OutlineLint.Heading

/-- The title of a section heading, or `none` for any other line. -/
def title? : Text → Option Text
  | '#' :: '#' :: rest =>
    let after := rest.dropWhile isBlank
    if rest.takeWhile isBlank = [] ∨ after = [] ∨ '\n' ∈ after then none
    else some (Text.trimEnd after)
  | _ => none

end OutlineLint.Heading
