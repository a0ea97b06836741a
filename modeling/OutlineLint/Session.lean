import OutlineLint.Checker

/-! Sessions: one checker and one shelf of documents, changed and used step by step. A new template
    comes with a new checker, so it ends progress and tracing settings; clearing the shelf ends the
    documents alone.

    Each step answers: a setting with nothing, a look at the shelf with the documents in order, a
    run with its outcome. -/

namespace OutlineLint

/-- A checker, and the documents to check in the order in which they were added. -/
structure Session where
  checker : Checker
  shelf : List Document

/-- What can be done in a session. -/
inductive SessionStep where
  /-- Takes a new checker for a template. -/
  | renew (t : Template)
  /-- Chooses the documents that are traced. -/
  | trace (t : Tracing)
  /-- Turns progress lines on or off. -/
  | progress (on : Bool)
  /-- Takes all documents away. -/
  | clear
  /-- Adds a document. -/
  | add (d : Document)
  /-- Looks at the documents. -/
  | load
  /-- Checks the documents. -/
  | run

/-- What a step answers. -/
inductive SessionAnswer where
  | done
  | documents (ds : List Document)
  | outcome (o : Outcome)

namespace Session

/-- A session at its start: the standard template and no document. -/
def start : Session := ⟨⟨.standard, .off, true⟩, []⟩

/-- The documents of the session as a source. -/
def source (s : Session) : Source := .memory s.shelf

/-- The session after a step. -/
def after (s : Session) : SessionStep → Session
  | .renew t => { s with checker := ⟨t, .off, true⟩ }
  | .trace t => { s with checker := { s.checker with tracing := t } }
  | .progress on => { s with checker := { s.checker with progress := on } }
  | .clear => { s with shelf := [] }
  | .add d => { s with shelf := s.shelf ++ [d] }
  | .load => s
  | .run => s

/-- The answer to a step. -/
def answer (s : Session) : SessionStep → SessionAnswer
  | .load => .documents s.source.documents
  | .run => .outcome (s.checker.run s.source)
  | _ => .done

/-- The answers to several steps. -/
def answers (s : Session) : List SessionStep → List SessionAnswer
  | [] => []
  | step :: steps => s.answer step :: (s.after step).answers steps

end Session

end OutlineLint
