import OutlineLint.Document
import OutlineLint.Report.Basic
import OutlineLint.Trace

/-! Checks of several documents. The documents come in order from a source; each is checked on its
    own, and the report holds the findings of one document after the other. What is printed on the
    way depends on the settings, the report does not.

        progress on     header · for each document: its progress line, its trace
        progress off    for each document: its trace
        no document     a warning, which is no progress when progress is off -/

namespace OutlineLint

/-- Documents to check, in order, and how to call where they are from. -/
structure Source where
  name : Text
  documents : List Document

/-- The source of documents that are in no folder. -/
def Source.memory (ds : List Document) : Source := ⟨"<memory>".toList, Document.sort ds⟩

/-- What a check says: its report, and what it prints. -/
structure Outcome where
  report : Report
  stdout : Text
  stderr : Text
  deriving DecidableEq, Repr

/-- A template, and what is printed during a check. -/
structure Checker where
  template : Template
  tracing : Tracing := .off
  progress : Bool := true

/-- The warning that there is no document. -/
def Source.warning (s : Source) : Text :=
  "⚠️  Warning: No agent specification files found in ".toList ++ s.name ++ ['\n']

/-- The line in front of the first document. -/
def Source.header (s : Source) : Text :=
  "🔍 Validating ".toList ++ Text.ofNat s.documents.length
    ++ " agent specification(s)...\n\n".toList

/-- The progress line of a document. -/
def Document.progressLine (d : Document) : Text :=
  "📄 Validating ".toList ++ d.fileName ++ "...\n".toList

/-- The trace of a document. One that cannot be read has none. -/
def Document.trace (t : Tracing) (d : Document) : Text :=
  match d.contents with
  | .readable text => t.trace d.id (.ofText text)
  | .unreadable _ => []

namespace Checker

/-- What is printed for one document. -/
def say (c : Checker) (d : Document) : Text :=
  (if c.progress then d.progressLine else []) ++ d.trace c.tracing

/-- Checks the documents of a source. -/
def run (c : Checker) (s : Source) : Outcome :=
  if s.documents = [] then
    if c.progress then ⟨.empty, s.warning, []⟩ else ⟨.empty, [], s.warning⟩
  else
    { report := ⟨s.documents.length, s.documents.flatMap (·.findings c.template)⟩
      stdout := (if c.progress then s.header else []) ++ s.documents.flatMap c.say
      stderr := [] }

end Checker

end OutlineLint
