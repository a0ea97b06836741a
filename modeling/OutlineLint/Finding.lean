import OutlineLint.Text.Basic

/-! Findings. A deviation is the cause of a complaint about one document; a finding is the complaint
    itself, with the document's name, the kind of the cause and its wording. All wordings are in
    `Deviation.detail`. -/

namespace OutlineLint

/-- The kinds of complaint. -/
inductive FindingKind where
  | readError
  | missingSection
  | missingSubsection
  | missingField
  | telemetryNaming
  deriving DecidableEq, Repr

namespace FindingKind

/-- The name of a kind in reports. -/
def tag : FindingKind → String
  | readError => "READ_ERROR"
  | missingSection => "MISSING_SECTION"
  | missingSubsection => "MISSING_SUBSECTION"
  | missingField => "MISSING_FIELD"
  | telemetryNaming => "TELEMETRY_NAMING"

/-- Every kind. -/
def all : List FindingKind :=
  [readError, missingSection, missingSubsection, missingField, telemetryNaming]

/-- The kind with a name. -/
def ofTag? (t : Text) : Option FindingKind := all.find? (·.tag.toList = t)

end FindingKind

/-- One complaint about one document. -/
structure Finding where
  documentId : Text
  kind : FindingKind
  detail : Text
  deriving DecidableEq, Repr

/-- The complaint on one line: whose, which kind, what. -/
def Finding.render (f : Finding) : Text :=
  f.documentId ++ ": [".toList ++ f.kind.tag.toList ++ "] ".toList ++ f.detail

/-- Why a document does not follow its template. -/
inductive Deviation where
  /-- The document could not be read. -/
  | unreadable (reason : Text)
  /-- No section has the title. -/
  | noSection (title : Text)
  /-- The section is there, without the subsection. -/
  | noSubsection (title subsection : Text)
  /-- The ownership passage is there, without the label. -/
  | noOwnerLabel (field title : Text)
  /-- The label is not near the top. -/
  | noRoleLabel (field : Text)
  /-- There are events, and none belongs to the document. -/
  | foreignEvents (family documentId : Text)
  deriving DecidableEq, Repr

namespace Deviation

/-- The kind of complaint that a deviation makes. -/
def kind : Deviation → FindingKind
  | unreadable _ => .readError
  | noSection _ => .missingSection
  | noSubsection _ _ => .missingSubsection
  | noOwnerLabel _ _ => .missingField
  | noRoleLabel _ => .missingField
  | foreignEvents _ _ => .telemetryNaming

/-- The wording of a deviation. -/
def detail : Deviation → Text
  | unreadable reason => "Failed to read file: ".toList ++ reason
  | noSection title => "Required section '## ".toList ++ title ++ "' not found".toList
  | noSubsection title subsection =>
    "Required subsection '### ".toList ++ subsection ++ "' not found in '## ".toList ++ title
      ++ "'".toList
  | noOwnerLabel field title =>
    "Required field '**".toList ++ field ++ ":**' not found in ".toList ++ title
  | noRoleLabel field =>
    "Required field '**".toList ++ field ++ ":**' not found near the top of the file".toList
  | foreignEvents family documentId =>
    "Telemetry events should follow pattern `".toList ++ family ++ ".".toList ++ documentId
      ++ ".*`".toList

/-- The complaint about a document. -/
def finding (documentId : Text) (d : Deviation) : Finding := ⟨documentId, d.kind, d.detail⟩

end Deviation

end OutlineLint
