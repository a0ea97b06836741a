import OutlineLint.Report.Basic

/-! Reports as JSON. Objects and lists stand one item per line, two spaces deeper than what holds
    them; an empty list stays on its line. In a string the quotation mark and the backslash are
    escaped, and so is every character below U+0020; all others stand for themselves. -/

namespace OutlineLint.Json

/-- A character inside a string. -/
def escape (c : Char) : Text :=
  match c with
  | '"' => ['\\', '"']
  | '\\' => ['\\', '\\']
  | '\n' => ['\\', 'n']
  | '\r' => ['\\', 'r']
  | '\t' => ['\\', 't']
  | '\x08' => ['\\', 'b']
  | '\x0c' => ['\\', 'f']
  | c =>
    if c.toNat < 0x20 then
      "\\u00".toList ++ [Nat.digitChar (c.toNat / 16), Nat.digitChar (c.toNat % 16)]
    else [c]

/-- A string. -/
def quote (t : Text) : Text := '"' :: t.flatMap escape ++ ['"']

/-- A truth value. -/
def bool (b : Bool) : Text := if b then "true".toList else "false".toList

/-- A line break, and the blanks before an item at a depth. -/
def newLine (depth : Nat) : Text := '\n' :: List.replicate (2 * depth) ' '

/-- Items between brackets, one per line, at a depth. -/
def block (left right : Char) (depth : Nat) (items : List Text) : Text :=
  if items = [] then [left, right]
  else
    left :: Text.join [','] (items.map (newLine (depth + 1) ++ ·)) ++ newLine depth ++ [right]

/-- An object at a depth. -/
def object (depth : Nat) (members : List (String × Text)) : Text :=
  block '\x7b' '\x7d' depth
    (members.map fun (key, value) => quote key.toList ++ [':', ' '] ++ value)

/-- An object on one line. -/
def compactObject (members : List (String × Text)) : Text :=
  '\x7b' :: Text.join [','] (members.map fun (key, value) => quote key.toList ++ ':' :: value)
    ++ ['\x7d']

end OutlineLint.Json

namespace OutlineLint

/-- The members of a finding. -/
def Finding.members (f : Finding) : List (String × Text) :=
  [("document_id", Json.quote f.documentId), ("kind", Json.quote f.kind.tag.toList),
   ("detail", Json.quote f.detail)]

/-- A finding on one line. -/
def Finding.json (f : Finding) : Text := Json.compactObject f.members

/-- The report for programs. -/
def Report.json (r : Report) : Text :=
  Json.object 0
    [("documents_checked", Text.ofNat r.checked), ("passed", Json.bool r.passed),
     ("findings", Json.block '[' ']' 1 (r.findings.map fun f => Json.object 2 f.members))]

end OutlineLint
