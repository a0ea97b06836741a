import OutlineLint.Document
import OutlineLint.FileTree

/-! Documents in a folder. The candidates are the files whose name has the wanted extension and is
    not excluded; subfolders are not entered. Names are judged as octets and shown as text, and a
    candidate that is no text becomes a document that could not be read.

    A listing fails only when its path leads nowhere or to a file, and reading a file does not fail:
    what else a system may answer, such as a lack of permission, is left out. -/

namespace OutlineLint

/-- Which files of a folder are documents. -/
structure Selection where
  extension : Text
  excluded : List Text
  deriving DecidableEq, Repr

namespace Selection

/-- Markdown files, without the template and the table of contents. -/
def standard : Selection := ⟨"md".toList, ["TEMPLATE.md", "README.md"].map String.toList⟩

/-- Whether a file with the name is a document. -/
def admits (s : Selection) (name : Octets) : Bool :=
  decide (FileName.extension? '.'.toUInt8 name = some (Utf8.encode s.extension)) &&
    !(s.excluded.any fun e => Utf8.encode e = name)

end Selection

/-- Why a folder has no documents. -/
inductive FolderError where
  | missing (dir : Text)
  | notFolder (dir : Text)
  deriving DecidableEq, Repr

/-- The wording of the error. -/
def FolderError.message : FolderError → Text
  | missing dir => "Directory ".toList ++ dir ++ " does not exist".toList
  | notFolder dir =>
    "Failed to list directory ".toList ++ dir ++ ": Not a directory (os error 20)".toList

namespace Folder

/-- What a file with these octets holds. -/
def contents (content : Octets) : Contents :=
  match Utf8.decode content with
  | .ok text => .readable text
  | .error fault => .unreadable fault.message

/-- The document of an entry, if the entry is a candidate. -/
def document? (s : Selection) (dir : Text) : Octets × FileTree → Option Document
  | (name, .file content) =>
    if s.admits name then
      let shown := Utf8.decodeLossy name
      some (.ofFile shown (Path.join dir shown) (contents content))
    else none
  | (_, .folder _) => none

/-- The documents of a listed folder, in order. -/
def load (s : Selection) (dir : Text) : Listing → Except FolderError (List Document)
  | .missing => .error (.missing dir)
  | .file => .error (.notFolder dir)
  | .folder entries => .ok (Document.sort (entries.filterMap (document? s dir)))

end Folder

end OutlineLint
