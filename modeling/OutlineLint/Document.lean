import OutlineLint.FileName
import OutlineLint.Rule

/-! Documents as they are handed to a check: a name, a path, and either a text or the reason why
    there is none. Documents are checked in the order of their identities, and of their file names
    where identities agree; texts are ordered by code points. -/

namespace OutlineLint

/-- What a document holds. -/
inductive Contents where
  | readable (text : Text)
  | unreadable (reason : Text)
  deriving DecidableEq, Repr

/-- A document to check. -/
structure Document where
  id : Text
  fileName : Text
  path : Text
  contents : Contents
  deriving DecidableEq, Repr

namespace Document

/-- The document in a file, known by the file's name. -/
def ofFile (fileName path : Text) (contents : Contents) : Document :=
  ⟨FileName.identity fileName, fileName, path, contents⟩

/-- A document that is in no folder: its path is its file name. -/
def inMemory (fileName : Text) (contents : Contents) : Document :=
  ofFile fileName fileName contents

/-- Whether `a` may stand before `b`. -/
def le (a b : Document) : Bool :=
  decide (a.id < b.id) || (decide (a.id = b.id) && !decide (b.fileName < a.fileName))

/-- Documents in the order in which they are checked; equals keep their order. -/
def sort (ds : List Document) : List Document := ds.mergeSort le

/-- The complaints about a document. One that cannot be read has no other. -/
def findings (t : Template) (d : Document) : List Finding :=
  match d.contents with
  | .readable text => t.findings d.id text
  | .unreadable reason => [(Deviation.unreadable reason).finding d.id]

end Document

end OutlineLint
