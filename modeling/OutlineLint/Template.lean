import OutlineLint.Text.Basic

/-! Templates: what every document of a collection must contain. A template lists required sections
    and subsections, bold labels that name the owner and the role, and how telemetry events are
    named. Nothing in it has a special meaning: every name is taken literally. -/

namespace OutlineLint

/-- Subsections that a section must have once it is there. -/
structure Requirement where
  title : Text
  subsections : List Text
  deriving DecidableEq, Repr

/-- Bold labels that the ownership section must have. -/
structure Ownership where
  title : Text
  fields : List Text
  deriving DecidableEq, Repr

/-- A bold label that must stand within the first `window` characters. -/
structure RoleLabel where
  field : Text
  window : Nat
  deriving DecidableEq, Repr

/-- The subsection that lists events, and the first segment of their names. -/
structure Telemetry where
  subsection : Text
  family : Text
  deriving DecidableEq, Repr

/-- What every document must contain. -/
structure Template where
  sections : List Text
  requirements : List Requirement
  ownership : Ownership
  role : RoleLabel
  telemetry : Telemetry
  deriving DecidableEq, Repr

namespace Template

/-- A requirement with its names as strings. -/
def requirement (title : String) (subsections : List String) : Requirement :=
  ⟨title.toList, subsections.map String.toList⟩

/-- The template for agent specifications. -/
def standard : Template where
  sections :=
    ["Agent Name", "Overview", "Responsibilities", "Capabilities", "Triggers & Activation",
     "Operational Guidelines", "Telemetry & Monitoring", "Safety & Security", "Integration Points",
     "Runbooks & Documentation", "Ownership & Maintenance", "Change Log"].map String.toList
  requirements :=
    [requirement "Responsibilities" ["Primary Responsibilities", "Secondary Responsibilities"],
     requirement "Capabilities" ["Core Capabilities", "Technical Skills"],
     requirement "Operational Guidelines"
       ["Decision Framework", "Quality Standards", "Constraints"],
     requirement "Telemetry & Monitoring"
       ["Events to Track", "Metrics to Monitor", "Monitoring Dashboard"],
     requirement "Safety & Security"
       ["Safety Considerations", "Security Requirements", "Failure Handling"],
     requirement "Integration Points" ["Dependencies", "Interactions with Other Agents"],
     requirement "Runbooks & Documentation" ["Runbook Links", "Related Documentation"],
     requirement "Ownership & Maintenance" []]
  ownership :=
    ⟨"Ownership & Maintenance".toList,
     ["Owner", "Backup Owner", "Last Updated", "Review Frequency"].map String.toList⟩
  role := ⟨"Role".toList, 500⟩
  telemetry := ⟨"Events to Track".toList, "agent".toList⟩

end Template

end OutlineLint
