import OutlineLint.Event
import OutlineLint.Finding
import OutlineLint.Outline.Extraction
import OutlineLint.Passage
import OutlineLint.Template

/-! The rules of a template. Each looks at one document on its own and lists its deviations in the
    order of the template. Sections and subsections are read off the outline; the ownership
    passage, the role label and the events are looked for in the raw text.

    A rule is silent where another one complains already: subsections of a missing section, labels
    of a missing ownership passage and events of a missing subsection are not asked for. -/

namespace OutlineLint

/-- A document as the rules see it. -/
structure Subject where
  id : Text
  text : Text
  outline : Outline

/-- The subject of a text, with the outline that the text has. -/
def Subject.ofText (id text : Text) : Subject := ⟨id, text, .ofText text⟩

/-- A bold label: the field between double asterisks, and a colon. -/
def boldLabel (field : Text) : Text := "**".toList ++ field ++ "**:".toList

/-- The heading of a section, as it is searched for in a raw text. -/
def sectionMark (title : Text) : Text := "## ".toList ++ title

/-- The heading of a subsection, as it is searched for in a text. -/
def subsectionMark (subsection : Text) : Text := "### ".toList ++ subsection

namespace Ownership

/-- The ownership passage: from its heading to the next section heading. -/
def passage? (o : Ownership) (text : Text) : Option Text :=
  Passage.locate? (sectionMark o.title) Passage.atSection text

/-- The labels that the ownership passage lacks. -/
def deviations (o : Ownership) (text : Text) : List Deviation :=
  match o.passage? text with
  | none => []
  | some body =>
    (o.fields.filter fun f => !(boldLabel f).occursIn body).map (.noOwnerLabel · o.title)

end Ownership

namespace RoleLabel

/-- The role label, unless it stands within the window. -/
def deviations (r : RoleLabel) (text : Text) : List Deviation :=
  if (boldLabel r.field).occursIn (text.take r.window) then [] else [.noRoleLabel r.field]

end RoleLabel

namespace Telemetry

/-- The events passage: from its heading to the next heading. -/
def passage? (m : Telemetry) (text : Text) : Option Text :=
  Passage.locate? (subsectionMark m.subsection) Passage.atHeading text

/-- The owners of the events in a text. -/
def owners (m : Telemetry) (body : Text) : List Text := Event.owners m.family body

/-- The events, if there are some and none belongs to the document. -/
def deviations (m : Telemetry) (id text : Text) : List Deviation :=
  match m.passage? text with
  | none => []
  | some body =>
    let owners := m.owners body
    if owners = [] ∨ id ∈ owners then [] else [.foreignEvents m.family id]

end Telemetry

/-- The subsections that a section of the outline lacks. -/
def Requirement.deviations (r : Requirement) (o : Outline) : List Deviation :=
  match o.body? r.title with
  | none => []
  | some body =>
    (r.subsections.filter fun s => !(subsectionMark s).occursIn body).map (.noSubsection r.title ·)

/-- What can be asked of a document. -/
inductive Rule where
  | sections
  | subsections
  | ownership
  | role
  | telemetry
  deriving DecidableEq, Repr

namespace Rule

/-- Every rule, in the order in which a document is checked. -/
def all : List Rule := [sections, subsections, ownership, role, telemetry]

/-- The name of a rule. -/
def name : Rule → String
  | sections => "RequiredSections"
  | subsections => "RequiredSubsections"
  | ownership => "OwnershipFields"
  | role => "RoleField"
  | telemetry => "TelemetryNaming"

/-- The rule with a name. -/
def ofName? (t : Text) : Option Rule := all.find? (·.name.toList = t)

/-- How a document deviates from one rule of a template. -/
def deviations (r : Rule) (t : Template) (s : Subject) : List Deviation :=
  match r with
  | sections => (t.sections.filter fun title => !s.outline.contains title).map .noSection
  | subsections => t.requirements.flatMap (·.deviations s.outline)
  | ownership => t.ownership.deviations s.text
  | role => t.role.deviations s.text
  | telemetry => t.telemetry.deviations s.id s.text

/-- The complaints of one rule. -/
def findings (r : Rule) (t : Template) (s : Subject) : List Finding :=
  (r.deviations t s).map (Deviation.finding s.id)

end Rule

/-- The complaints about a document: those of each rule, one rule after the other. -/
def Template.findings (t : Template) (id text : Text) : List Finding :=
  Rule.all.flatMap (·.findings t (.ofText id text))

end OutlineLint
