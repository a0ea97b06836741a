import OutlineLint.Checker
import OutlineLint.Folder
import OutlineLint.Report.Json

/-! The command line. It names a folder and a format, asks for traces, or asks to show the template.

    - -a DIR, --agents-dir DIR: the folder of the documents, at most once
    - -f FORMAT, --format FORMAT: text or json, at most once
    - --debug PATTERN: traces the documents that the pattern picks, any number of times
    - --show-structure: shows the template and does nothing else

    A value follows its option, or stands in the same argument: after an equals sign, or right after
    the letter of a short option. In an argument of its own it starts with no hyphen, unless it is a
    single hyphen. Two hyphens end the options, and nothing may follow them. -/

namespace OutlineLint

/-- How a report is written. -/
inductive Format where
  | text
  | json
  deriving DecidableEq, Repr

/-- The format with a name. -/
def Format.ofName? (t : Text) : Option Format :=
  if t = "text".toList then some text else if t = "json".toList then some json else none

/-- What the arguments ask for. -/
structure Options where
  folder : Option Text := none
  format : Option Format := none
  debug : List Text := []
  showTemplate : Bool := false
  deriving DecidableEq, Repr

/-- The options that have a value. -/
inductive Setting where
  | folder
  | format
  | debug
  deriving DecidableEq, Repr

/-- What an argument is. -/
inductive Argument where
  /-- An option with a value, which may be in the same argument. -/
  | setting (s : Setting) (value : Option Text)
  | showTemplate
  | help
  | endOfOptions
  | unknown
  deriving DecidableEq, Repr

/-- What the arguments mean. -/
inductive Invocation where
  | check (o : Options)
  | help
  | refused
  deriving DecidableEq, Repr

/-! ### Arguments -/

namespace Argument

/-- The value behind the letter of a short option, without one equals sign. -/
def attached : Text → Option Text
  | [] => none
  | '=' :: value => some value
  | value => some value

/-- The options with a value, by their long names. -/
def longSettings : List (String × Setting) :=
  [("agents-dir", .folder), ("format", .format), ("debug", .debug)]

/-- A long option. -/
def ofLong (name : Text) (value : Option Text) : Argument :=
  match longSettings.find? (·.1.toList = name) with
  | some (_, s) => setting s value
  | none =>
    if value.isSome then unknown
    else if name = "show-structure".toList then showTemplate
    else if name = "help".toList then help
    else unknown

/-- Reads an argument. -/
def ofText : Text → Argument
  | ['-', '-'] => endOfOptions
  | '-' :: '-' :: rest =>
    match Text.cut? ['='] rest with
    | some (name, value) => ofLong name (some value)
    | none => ofLong rest none
  | '-' :: 'a' :: rest => setting .folder (attached rest)
  | '-' :: 'f' :: rest => setting .format (attached rest)
  | '-' :: 'h' :: _ => help
  | _ => unknown

/-- Whether an argument can be the value of the option before it. -/
def isValue (t : Text) : Bool := t.head? != some '-' || t == ['-']

end Argument

namespace Options

/-- Gives an option its value. -/
def set? (o : Options) : Setting → Text → Option Options
  | .folder, value => if o.folder.isNone then some { o with folder := some value } else none
  | .format, value =>
    if o.format.isNone then
      (Format.ofName? value).map fun f => { o with format := some f }
    else none
  | .debug, value => some { o with debug := o.debug ++ [value] }

/-- Asks to show the template. -/
def show? (o : Options) : Option Options :=
  if o.showTemplate then none else some { o with showTemplate := true }

/-- Reads the arguments after those that gave the options `o`. -/
def read (o : Options) : List Text → Invocation
  | [] => .check o
  | arg :: rest =>
    match Argument.ofText arg with
    | .setting s (some value) =>
      match o.set? s value with
      | some o => read o rest
      | none => .refused
    | .setting s none =>
      match rest with
      | [] => .refused
      | value :: rest =>
        match if Argument.isValue value then o.set? s value else none with
        | some o => read o rest
        | none => .refused
    | .showTemplate =>
      match o.show? with
      | some o => read o rest
      | none => .refused
    | .help => .help
    | .endOfOptions => if rest = [] then .check o else .refused
    | .unknown => .refused

/-- Where the documents are below the root. -/
def subpath : Text := "docs/agents".toList

/-- Where the documents are: below the root, unless a folder is given. -/
def folderBelow (o : Options) (root subpath : Text) : Text :=
  o.folder.getD (Path.join root subpath)

/-- The folder of the documents. -/
def target (o : Options) (root : Text) : Text := o.folderBelow root subpath

/-- The format of the report. -/
def style (o : Options) : Format := o.format.getD .text

end Options

/-- Reads the arguments of a command line. -/
def Invocation.ofArguments (args : List Text) : Invocation := Options.read {} args

/-! ### The template, for people -/

namespace Template

/-- A required section, with its first row of required subsections. -/
def showSection (t : Template) (title : Text) : Text :=
  let subsections := ((t.requirements.find? (·.title = title)).map Requirement.subsections).getD []
  "  ## ".toList ++ title ++ ['\n']
    ++ subsections.flatMap fun s => "      ### ".toList ++ s ++ ['\n']

/-- The template, part by part. -/
def render (t : Template) : Text :=
  "\n📋 Required Sections:\n".toList ++ t.sections.flatMap t.showSection
    ++ "\n📄 Required Fields:\n".toList
    ++ "  ".toList ++ boldLabel t.role.field ++ "  within the first ".toList
    ++ Text.ofNat t.role.window ++ " characters\n".toList
    ++ (t.ownership.fields.flatMap fun f =>
      "  ".toList ++ boldLabel f ++ "  in '## ".toList ++ t.ownership.title ++ "'\n".toList)
    ++ "\n📡 Telemetry:\n".toList
    ++ "  Events under '### ".toList ++ t.telemetry.subsection ++ "' must include `".toList
    ++ t.telemetry.family ++ ".<file name>.*`\n".toList

end Template

/-! ### Running -/

/-- What a program leaves behind. -/
structure Output where
  stdout : Text
  stderr : Text
  exitCode : UInt32
  deriving DecidableEq, Repr

/-- The message that ends a run whose folder cannot be listed. -/
def FolderError.complaint (e : FolderError) : Text :=
  match e with
  | missing _ => "❌ Error: ".toList ++ e.message ++ ['\n']
  | notFolder _ => "❌ Validation aborted: ".toList ++ e.message ++ ['\n']

namespace Options

/-- What stands in front of a report for people. -/
def banner (o : Options) (root : Text) : Text :=
  Text.joinLines
    ["Agent Specification Validator".toList, Report.ruler, "Repository root: ".toList ++ root,
     "Agents directory: ".toList ++ o.target root, [], []]

/-- The checker that the options ask for: progress is for people. -/
def checker (o : Options) (reader : PatternReader := .standard) : Checker where
  template := .standard
  tracing := if o.debug = [] then .off else .ofTexts o.debug reader
  progress := decide (o.style = .text)

/-- A report in the format of the options. -/
def write (o : Options) (r : Report) : Text :=
  match o.style with
  | .text => r.summary
  | .json => r.json ++ ['\n']

/-- Checks the documents of the folder, which is listed as given. -/
def check (o : Options) (root : Text) (listing : Listing) (reader : PatternReader := .standard) :
    Output :=
  let before := match o.style with
    | .text => o.banner root
    | .json => []
  match Folder.load .standard (o.target root) listing with
  | .ok documents =>
    let outcome := (o.checker reader).run ⟨o.target root, documents⟩
    ⟨before ++ outcome.stdout ++ o.write outcome.report, outcome.stderr, outcome.report.exitCode⟩
  | .error e => ⟨before, e.complaint, 1⟩

/-- Shows the template or checks the documents; `listing` is what is found at the target. -/
def run (o : Options) (root : Text) (listing : Listing) (reader : PatternReader := .standard) :
    Output :=
  if o.showTemplate then ⟨Template.standard.render, [], 0⟩ else o.check root listing reader

end Options

/-- What a program finds around it. -/
structure Host where
  /-- The path of the root below which the documents are by default. -/
  root : Text
  files : FileTree
  /-- The names of the folders from the top of the files down to the working directory. -/
  workingDir : List Octets
  reader : PatternReader

/-- What is found at a path where a folder is looked for. -/
def Host.list (h : Host) (path : Text) : Listing := h.files.list path h.workingDir

/-- What the program leaves behind when it is called with arguments. It does nothing of that kind
    when it refuses them, or is asked how it is called. -/
def Invocation.output? (h : Host) (args : List Text) : Option Output :=
  match ofArguments args with
  | .check o => some (o.run h.root (h.list (o.target h.root)) h.reader)
  | .help => none
  | .refused => none

end OutlineLint
