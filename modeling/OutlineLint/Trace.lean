import OutlineLint.Outline.Basic
import OutlineLint.Pattern.Reading
import OutlineLint.Text.Line

/-! Traces: the outline of a document as it was found, for documents whose identity a filter picks.
    A filter is a pattern when its text is one, and a plain part to look for when it is not. Which
    texts are patterns, and what they match, is up to a reader of patterns. -/

namespace OutlineLint

/-- A reader of patterns. A text that is no pattern is refused; of a pattern it says in which texts
    a part matches. -/
abbrev PatternReader := Text → Option (Text → Bool)

/-- The dialect of this library. -/
def PatternReader.standard : PatternReader := fun t => (Pattern.ofText? t).map Pattern.foundIn

/-- What the identity of a document is compared with. -/
inductive TraceFilter where
  /-- A pattern, by the texts in which it is found. -/
  | pattern (found : Text → Bool)
  /-- The text has to be a part of the identity. -/
  | part (t : Text)

namespace TraceFilter

/-- The filter with a text. -/
def ofText (reader : PatternReader) (t : Text) : TraceFilter :=
  match reader t with
  | some found => pattern found
  | none => part t

/-- Whether the filter picks an identity. -/
def picks (id : Text) : TraceFilter → Bool
  | pattern found => found id
  | part t => t.occursIn id

end TraceFilter

/-- Which documents are traced. -/
structure Tracing where
  enabled : Bool
  filters : List TraceFilter

namespace Tracing

/-- No document is traced. -/
def off : Tracing := ⟨false, []⟩

/-- The documents that one of the filters picks are traced. -/
def ofTexts (ts : List Text) (reader : PatternReader := .standard) : Tracing :=
  ⟨true, ts.map (TraceFilter.ofText reader)⟩

/-- Whether a document is traced. -/
def picks (t : Tracing) (id : Text) : Bool := t.enabled && t.filters.any (·.picks id)

end Tracing

/-- One line of a trace: the place, the title and the number of lines of a section. -/
def Section.trace (i : Nat) (s : Section) : Text :=
  "  Section ".toList ++ Text.ofNat i ++ ": \"".toList ++ s.title ++ "\" (".toList
    ++ Text.ofNat s.body.lines.length ++ " body lines)\n".toList

/-- The outline of a document, line by line, with a blank line after it. -/
def Outline.trace (o : Outline) (id : Text) : Text :=
  "🔍 [".toList ++ id ++ "] ".toList ++ Text.ofNat o.size ++ " sections extracted:\n".toList
    ++ (o.sections.mapIdx Section.trace).flatten ++ ['\n']

/-- What is printed about the outline of a document. -/
def Tracing.trace (t : Tracing) (id : Text) (o : Outline) : Text :=
  if t.picks id then o.trace id else []

end OutlineLint
