import OutlineLint.CommandLine
import OutlineLint.Proofs.Checker
import OutlineLint.Proofs.FileTree
import OutlineLint.Proofs.Folder

/-! What a run leaves behind. The exit status is decided by the folder and what it holds; format and
    traces decide what is printed on the way.

        text    banner · what the check prints · blank line · report       report for people
        json             traces                             · report       report for programs

    The traces stand on the standard output in either format. What is a pattern is up to the reader
    of patterns, and all of this holds for every reader. -/

namespace OutlineLint

/-! ### Checking what is listed -/

namespace Options
variable (o : Options) (root : Text) (reader : PatternReader)

/-- Documents are traced whose identity one of the patterns picks. -/
theorem picks_checker_iff {id : Text} : (o.checker reader).tracing.picks id = true ↔
    ∃ p ∈ o.debug, (TraceFilter.ofText reader p).picks id = true := by
  by_cases h : o.debug = []
  · rw [h]
    exact iff_of_false (by simp [checker, h, Tracing.off, Tracing.picks]) (by simp)
  · simp [checker, h, Tracing.ofTexts, Tracing.picks]

/-- The documents that a run checks, when the folder has these entries. -/
def documents (entries : List (Octets × FileTree)) : List Document :=
  Folder.documents .standard (o.target root) entries

theorem load_documents (entries : List (Octets × FileTree)) :
    Folder.load .standard (o.target root) (.folder entries) = .ok (o.documents root entries) :=
  Folder.load_folder ..

/-- The outcome of the check of a listed folder. -/
def outcome (entries : List (Octets × FileTree)) : Outcome :=
  (o.checker reader).run ⟨o.target root, o.documents root entries⟩

/-- A listed folder is checked: the report comes last, and decides the exit status. -/
theorem check_folder (entries : List (Octets × FileTree)) :
    o.check root (.folder entries) reader =
      ⟨(match o.style with
          | .text => o.banner root
          | .json => [])
        ++ (o.outcome root reader entries).stdout
        ++ o.write (Report.ofDocuments .standard (o.documents root entries)),
       (o.outcome root reader entries).stderr,
       (Report.ofDocuments .standard (o.documents root entries)).exitCode⟩ := by
  have hreport : (o.outcome root reader entries).report =
      Report.ofDocuments .standard (o.documents root entries) := Checker.report_run ..
  rw [← hreport, check, load_documents]
  rfl

/-- Without a folder the run fails, and prints nothing for a program. -/
theorem check_of_no_folder {listing : Listing} (h : ∀ entries, listing ≠ .folder entries) :
    (o.check root listing reader).exitCode = 1 ∧
      (o.style = .json → (o.check root listing reader).stdout = []) := by
  cases listing with
  | missing => exact ⟨rfl, fun hjson => by simp only [check, hjson, Folder.load]⟩
  | file => exact ⟨rfl, fun hjson => by simp only [check, hjson, Folder.load]⟩
  | folder entries => exact absurd rfl (h entries)

theorem exists_banner_eq : ∃ lines, o.banner root = lines ++ ['\n'] := by
  have h := Text.joinLines_append (b := [[]]) (List.cons_ne_nil [] [])
    (a := ["Agent Specification Validator".toList, Report.ruler,
      "Repository root: ".toList ++ root, "Agents directory: ".toList ++ o.target root, []])
    (List.cons_ne_nil _ _)
  exact ⟨_, h⟩

/-- A report for people comes after a blank line. -/
theorem exists_stdout_text {o : Options} (h : o.style = .text)
    (entries : List (Octets × FileTree)) :
    ∃ before, (o.check root (.folder entries) reader).stdout = before ++ '\n' :: '\n' ::
      (Report.ofDocuments .standard (o.documents root entries)).text := by
  obtain ⟨lines, hlines⟩ := o.exists_banner_eq root
  have hended := (Text.ended_concat lines).append
    ((o.checker reader).ended_stdout_run ⟨o.target root, o.documents root entries⟩)
  obtain ⟨before, hbefore⟩ := hended.exists_concat (by simp)
  refine ⟨before, ?_⟩
  simp only [check_folder, h, outcome, hlines, hbefore, write, Report.summary, List.append_assoc,
    List.singleton_append]

/-- A report for programs comes after the traces. -/
theorem stdout_json {o : Options} (h : o.style = .json) (entries : List (Octets × FileTree)) :
    (o.check root (.folder entries) reader).stdout =
      (o.documents root entries).flatMap (·.trace (o.checker reader).tracing) ++
        (Report.ofDocuments .standard (o.documents root entries)).json ++ ['\n'] := by
  have hquiet : (o.checker reader).progress = false := by simp [checker, h]
  simp only [check_folder, h, write, outcome, Checker.stdout_run_quiet hquiet, List.nil_append,
    List.append_assoc]

/-- A folder passes when every wanted file in it is a text that follows the template. -/
theorem exitCode_documents_eq_zero_iff (entries : List (Octets × FileTree)) :
    (Report.ofDocuments .standard (o.documents root entries)).exitCode = 0 ↔
      ∀ name content, (name, .file content) ∈ entries → Selection.standard.Wants name →
        ∃ text, content = Utf8.encode text ∧
          Template.standard.findings (FileName.identity (Utf8.decodeLossy name)) text = [] := by
  rw [Report.exitCode_ofDocuments_eq_zero_iff]
  simp only [documents, Folder.mem_documents_iff, ← Folder.contents_eq_readable_iff]
  constructor
  · exact fun h name content hmem hwants => h _ ⟨name, content, ⟨hmem, hwants⟩, rfl⟩
  · rintro h _ ⟨name, content, ⟨hmem, hwants⟩, rfl⟩
    exact h name content hmem hwants

section
variable (listing : Listing)

/-- The exit status says whether there is a folder that passes. -/
theorem exitCode_check_eq_zero_iff : (o.check root listing reader).exitCode = 0 ↔
    ∃ entries, listing = .folder entries ∧
      (Report.ofDocuments .standard (o.documents root entries)).exitCode = 0 := by
  by_cases h : ∃ entries, listing = .folder entries
  · obtain ⟨entries, rfl⟩ := h
    rw [check_folder]
    simp only [Listing.folder.injEq, exists_eq_left']
  · rw [(o.check_of_no_folder root reader (not_exists.1 h)).1]
    exact iff_of_false (by decide) fun ⟨entries, hentries, _⟩ => h ⟨entries, hentries⟩

theorem exitCode_check_eq : (o.check root listing reader).exitCode = 0 ∨
    (o.check root listing reader).exitCode = 1 := by
  by_cases h : ∃ entries, listing = .folder entries
  · obtain ⟨entries, rfl⟩ := h
    rw [check_folder]
    exact ite_eq_or_eq ..
  · exact Or.inr (o.check_of_no_folder root reader (not_exists.1 h)).1

/-- Nothing but the folder has a say in the exit status. -/
theorem exitCode_check_congr {o o' : Options} (h : o'.target root = o.target root)
    (reader' : PatternReader) :
    (o'.check root listing reader').exitCode = (o.check root listing reader).exitCode := by
  cases listing with
  | missing => rfl
  | file => rfl
  | folder entries => rw [check_folder, check_folder, documents, documents, h]

end

/-- Nothing is traced when no pattern picks a document that can be read. -/
theorem traces_eq_nil_iff {ds : List Document} :
    ds.flatMap (·.trace (o.checker reader).tracing) = [] ↔
      ∀ d ∈ ds, ∀ text, d.contents = .readable text →
        ∀ p ∈ o.debug, (TraceFilter.ofText reader p).picks d.id = false := by
  simp only [List.flatMap_eq_nil_iff, Document.trace_eq_nil_iff, ← Bool.not_eq_true,
    picks_checker_iff, not_exists, not_and]

end Options

/-! ### The whole program -/

/-- On a host a path leads to a tree. -/
def Host.Reaches (h : Host) (path : Text) (t : FileTree) : Prop :=
  h.files.Reaches h.workingDir path t

theorem Host.list_eq_folder_iff {h : Host} {path : Text} {entries : List (Octets × FileTree)} :
    h.list path = .folder entries ↔ h.Reaches path (.folder entries) :=
  FileTree.list_eq_folder_iff

namespace Invocation

variable {args : List Text} {o : Options}

theorem output?_of_check (h : Host) (hargs : ofArguments args = .check o)
    (hcheck : o.showTemplate = false) :
    output? h args = some (o.check h.root (h.list (o.target h.root)) h.reader) := by
  rw [output?, hargs]
  simp only [Options.run, hcheck, Bool.false_eq_true, if_false]

/-- The exit status is zero when the folder is there and every wanted file in it is a text that
    follows the template, and one otherwise; format, traces and reader of patterns have no say in
    it. The report comes last: for people after a blank line, for programs alone unless traces are
    asked for. Without a folder nothing is printed for a program. -/
theorem output_follows_folder (h : Host) (hargs : ofArguments args = .check o)
    (hcheck : o.showTemplate = false) :
    ∃ out, output? h args = some out ∧
      (out.exitCode = 0 ↔ ∃ entries, h.Reaches (o.target h.root) (.folder entries) ∧
        ∀ name content, (name, .file content) ∈ entries → Selection.standard.Wants name →
          ∃ text, content = Utf8.encode text ∧
            Template.standard.findings (FileName.identity (Utf8.decodeLossy name)) text = []) ∧
      (out.exitCode = 0 ∨ out.exitCode = 1) ∧
      (∀ args' o' reader out', ofArguments args' = .check o' → o'.showTemplate = false →
        o'.folder = o.folder → output? { h with reader } args' = some out' →
          out'.exitCode = out.exitCode) ∧
      (∀ entries, h.Reaches (o.target h.root) (.folder entries) →
        ∃ ds, Folder.load .standard (o.target h.root) (.folder entries) = .ok ds ∧
          out.exitCode = (Report.ofDocuments .standard ds).exitCode ∧
          (o.style = .text → ∃ before,
            out.stdout = before ++ '\n' :: '\n' :: (Report.ofDocuments .standard ds).text) ∧
          (o.style = .json → o.debug = [] →
            out.stdout = (Report.ofDocuments .standard ds).json ++ ['\n'])) ∧
      ((∀ entries, ¬ h.Reaches (o.target h.root) (.folder entries)) → o.style = .json →
        out.stdout = []) := by
  refine ⟨_, output?_of_check h hargs hcheck, ?_, o.exitCode_check_eq .., ?_, ?_, ?_⟩
  · rw [o.exitCode_check_eq_zero_iff]
    simp only [o.exitCode_documents_eq_zero_iff, Host.list_eq_folder_iff]
  · intro args' o' reader out' hargs' hcheck' hfolder hout'
    have htarget : o'.target h.root = o.target h.root := by
      rw [Options.target, Options.folderBelow, hfolder]
      rfl
    rw [output?_of_check _ hargs' hcheck', Option.some.injEq] at hout'
    rw [← hout', htarget]
    exact Options.exitCode_check_congr h.root h.reader _ htarget reader
  · intro entries hentries
    rw [Host.list_eq_folder_iff.2 hentries]
    refine ⟨_, o.load_documents h.root entries, ?_, fun htext => ?_, fun hjson hdebug => ?_⟩
    · rw [o.check_folder]
    · exact Options.exists_stdout_text h.root h.reader htext entries
    · have hquiet : (o.documents h.root entries).flatMap
          (·.trace (o.checker h.reader).tracing) = [] :=
        (o.traces_eq_nil_iff h.reader).2 (by simp [hdebug])
      rw [Options.stdout_json h.root h.reader hjson, hquiet, List.nil_append]
  · intro hnone
    refine (o.check_of_no_folder h.root h.reader fun entries hentries => ?_).2
    exact hnone entries (Host.list_eq_folder_iff.1 hentries)

/-- The entries of a folder with one file. -/
def lone (name : String) (content : Octets) : List (Octets × FileTree) :=
  [(Utf8.encode name.toList, .file content)]

/-- A host with two folders of one file each: a table of contents below the root, and a document
    below the working directory. -/
def sample (content : Octets) : Host where
  root := "/repo".toList
  files := .folder
    [(Utf8.encode "repo".toList, .folder
      [(Utf8.encode "docs".toList, .folder
        [(Utf8.encode "agents".toList, .folder (lone "README.md" content))])]),
     (Utf8.encode "work".toList, .folder
      [(Utf8.encode "agents".toList, .folder (lone "a.md" content))])]
  workingDir := [Utf8.encode "work".toList]
  reader := .standard

/-- Arguments that lead to the document of the sample over the folder above. -/
def asideArgs : List Text := ["-a", "../work/agents/"].map String.toList

/-- What they mean. -/
def aside : Options := { folder := some "../work/agents/".toList }

/-- Arguments that ask for a report for programs and for traces. -/
def tracedArgs : List Text := ["-a", "agents", "-f", "json", "--debug", "a"].map String.toList

/-- What they mean. -/
def traced : Options :=
  { folder := some "agents".toList, format := some .json, debug := ["a".toList] }

/-- No text has the octet 255. -/
theorem contents_ne_readable (text : Text) : Folder.contents [0xFF] ≠ .readable text := by
  intro h
  have hnone : (Utf8.decode [0xFF]).toOption = none := by decide +kernel
  rw [Utf8.decode_eq_ok_iff.2 (Folder.contents_eq_readable_iff.1 h)] at hnone
  cases hnone

/-- A document that is no text fails the run, a table of contents that is none does not. -/
theorem exitCode_of_no_text :
    ofArguments [] = .check {} ∧ ({} : Options).showTemplate = false ∧
      (∃ out, output? (sample [0xFF]) [] = some out ∧ out.exitCode = 0) ∧
    ofArguments asideArgs = .check aside ∧ aside.showTemplate = false ∧
      ∃ out, output? (sample [0xFF]) asideArgs = some out ∧ out.exitCode = 1 := by
  have hargs : ofArguments asideArgs = .check aside := by decide
  refine ⟨rfl, rfl, ?_, hargs, rfl, ?_⟩
  · obtain ⟨out, hout, hzero, -⟩ := @output_follows_folder [] {} (sample [0xFF]) rfl rfl
    refine ⟨out, hout, hzero.2 ⟨lone "README.md" [0xFF], FileTree.find?_eq_some_iff.1 rfl, ?_⟩⟩
    intro name content hmem hwants
    obtain ⟨rfl, -⟩ := Prod.mk.inj (List.mem_singleton.1 hmem)
    exact absurd (Selection.admits_iff.2 hwants) (by decide)
  · obtain ⟨out, hout, hzero, hexit, -⟩ := output_follows_folder (sample [0xFF]) hargs rfl
    refine ⟨out, hout, hexit.resolve_left fun h => ?_⟩
    obtain ⟨entries, hentries, hall⟩ := hzero.1 h
    have hlone : some (FileTree.folder (lone "a.md" [0xFF])) = some (.folder entries) :=
      FileTree.find?_eq_some_iff.2 hentries
    obtain rfl := FileTree.folder.inj (Option.some.inj hlone)
    have hwants : Selection.standard.Wants (Utf8.encode "a.md".toList) :=
      Selection.admits_iff.1 (by decide)
    obtain ⟨text, htext, -⟩ := hall _ _ (List.mem_singleton_self _) hwants
    exact contents_ne_readable text (Folder.contents_eq_readable_iff.2 htext)

/-- A report for programs comes after the traces, so it stands alone on the standard output exactly
    when no pattern picks a document that can be read. -/
theorem stdout_eq_json_iff {h : Host} {entries : List (Octets × FileTree)}
    (hargs : ofArguments args = .check o) (hcheck : o.showTemplate = false)
    (hjson : o.style = .json) (hlist : h.Reaches (o.target h.root) (.folder entries)) :
    ∃ out ds, output? h args = some out ∧
      Folder.load .standard (o.target h.root) (.folder entries) = .ok ds ∧
      out.stdout = ds.flatMap (·.trace (o.checker h.reader).tracing) ++
        (Report.ofDocuments .standard ds).json ++ ['\n'] ∧
      (out.stdout = (Report.ofDocuments .standard ds).json ++ ['\n'] ↔
        ∀ d ∈ ds, ∀ text, d.contents = .readable text →
          ∀ p ∈ o.debug, (TraceFilter.ofText h.reader p).picks d.id = false) := by
  refine ⟨_, _, output?_of_check h hargs hcheck, o.load_documents h.root entries, ?_⟩
  rw [Host.list_eq_folder_iff.2 hlist, Options.stdout_json h.root h.reader hjson,
    List.append_assoc, List.append_left_eq_self, o.traces_eq_nil_iff]
  exact ⟨rfl, Iff.rfl⟩

/-- What the folder of the traced arguments holds. -/
theorem reaches_lone (content : Octets) : (sample content).Reaches
    (traced.target (sample content).root) (.folder (lone "a.md" content)) :=
  FileTree.find?_eq_some_iff.1 rfl

/-- A document that is no text is not traced, though its identity is picked. -/
theorem stdout_of_no_text :
    ofArguments tracedArgs = .check traced ∧ traced.showTemplate = false ∧ traced.style = .json ∧
      (sample [0xFF]).Reaches (traced.target (sample [0xFF]).root) (.folder (lone "a.md" [0xFF])) ∧
      ∃ out ds, output? (sample [0xFF]) tracedArgs = some out ∧
        Folder.load .standard (traced.target (sample [0xFF]).root)
          (.folder (lone "a.md" [0xFF])) = .ok ds ∧
        out.stdout = (Report.ofDocuments .standard ds).json ++ ['\n'] := by
  have hargs : ofArguments tracedArgs = .check traced := by decide
  refine ⟨hargs, rfl, rfl, reaches_lone _, ?_⟩
  obtain ⟨out, ds, hout, hds, -, halone⟩ := stdout_eq_json_iff hargs rfl rfl (reaches_lone [0xFF])
  refine ⟨out, ds, hout, hds, halone.2 fun d hd text htext => ?_⟩
  obtain rfl := Except.ok.inj ((traced.load_documents _ _).symm.trans hds)
  obtain ⟨name, content, ⟨hmem, -⟩, rfl⟩ := Folder.mem_documents_iff.1 hd
  obtain ⟨rfl, hcontent⟩ := Prod.mk.inj (List.mem_singleton.1 hmem)
  obtain rfl := FileTree.file.inj hcontent
  exact absurd htext (contents_ne_readable text)

/-- A document that is picked and can be read puts its trace in front of the report. -/
theorem stdout_of_traced : ofArguments tracedArgs = .check traced ∧
    traced.showTemplate = false ∧ traced.style = .json ∧
    (sample []).Reaches (traced.target (sample []).root) (.folder (lone "a.md" [])) ∧
    (output? (sample []) tracedArgs).map Output.stdout ≠
      some ((Report.ofDocuments .standard
        (traced.documents (sample []).root (lone "a.md" []))).json ++ ['\n']) :=
  ⟨by decide, rfl, rfl, reaches_lone [], by decide +kernel⟩

end Invocation

end OutlineLint
