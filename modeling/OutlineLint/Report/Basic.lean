import OutlineLint.Finding
import OutlineLint.Text.Line

/-! Reports: how many documents were checked and what was found. A report passes when nothing was
    found, and its text and its exit status say the same. -/

namespace OutlineLint

/-- The outcome of a check of several documents. -/
structure Report where
  checked : Nat
  findings : List Finding
  deriving DecidableEq, Repr

namespace Report

/-- The report on no document. -/
def empty : Report := ⟨0, []⟩

/-- Whether nothing was found. -/
def passed (r : Report) : Bool := r.findings.isEmpty

/-- The number of complaints. -/
def errorCount (r : Report) : Nat := r.findings.length

/-- Zero for a report that passes, one for any other. -/
def exitCode (r : Report) : UInt32 := if r.passed then 0 else 1

/-- A line across the page. -/
def ruler : Text := List.replicate 70 '='

/-- The report for people: every complaint and their number, or that there is none. -/
def text (r : Report) : Text :=
  if r.passed then
    Text.joinLines
      [ruler, "✅ All agent specifications passed validation!".toList, ruler, []]
  else
    Text.joinLines [ruler, "VALIDATION FAILURES".toList, ruler, []]
      ++ (r.findings.flatMap fun f => "❌ ".toList ++ f.render ++ ['\n'])
      ++ Text.joinLines
        [[], "❌ Validation failed with ".toList ++ Text.ofNat r.errorCount ++ " error(s)".toList,
          []]

/-- The report after a blank line, as it closes a run. -/
def summary (r : Report) : Text := '\n' :: r.text

end Report

end OutlineLint
