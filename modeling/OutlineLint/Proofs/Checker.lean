import OutlineLint.Checker
import OutlineLint.Proofs.Findings
import OutlineLint.Proofs.Order

/-! What is reported on several documents. A report is one block of findings per document, in the
    order of the documents; no document has a say in the block of another.

        a.md ── findings of a ──┐
        b.md ── (none) ─────────┼──▶  findings of a · unreadable c
        c.md ── unreadable c ───┘

    So a report depends on the files alone, and on the order in which they came only for files of
    one name; one more file puts one block in. -/

namespace OutlineLint

/-- Files that are in no folder, as documents. -/
def Document.ofFiles (files : List (Text × Contents)) : List Document :=
  files.map fun f => .inMemory f.1 f.2

/-- The source of files that are in no folder. -/
def Source.ofFiles (files : List (Text × Contents)) : Source := .memory (Document.ofFiles files)

/-- What is made of a text, or of the reason why there is none. -/
def Contents.elim {α : Type} (read refuse : Text → α) : Contents → α
  | .readable text => read text
  | .unreadable reason => refuse reason

/-! ### The block of a document -/

namespace Document

theorem findings_eq_elim (t : Template) (d : Document) : d.findings t =
    d.contents.elim (t.findings d.id)
      fun reason => [⟨d.id, .readError, "Failed to read file: ".toList ++ reason⟩] := by
  rw [findings]
  cases d.contents <;> rfl

/-- A finding is called after its document. -/
theorem documentId_of_mem_findings {t : Template} {d : Document} {x : Finding}
    (hx : x ∈ d.findings t) : x.documentId = d.id := by
  rw [findings] at hx
  split at hx
  · obtain ⟨r, v, -, rfl⟩ := Template.mem_findings_iff.1 hx
    rfl
  · rw [List.mem_singleton.1 hx]
    rfl

theorem findings_eq_nil_iff {t : Template} {d : Document} : d.findings t = [] ↔
    ∃ text, d.contents = .readable text ∧ t.findings d.id text = [] := by
  rw [findings]
  cases d.contents with
  | readable text =>
    refine ⟨fun h => ⟨text, rfl, h⟩, fun ⟨text', htext, h⟩ => ?_⟩
    rwa [Contents.readable.inj htext]
  | unreadable reason => exact ⟨nofun, fun ⟨_, htext, _⟩ => nomatch htext⟩

end Document

/-! ### The blocks of a report -/

namespace Report

/-- The report on documents in order. -/
def ofDocuments (t : Template) (ds : List Document) : Report :=
  ⟨ds.length, ds.flatMap (·.findings t)⟩

theorem exitCode_eq_zero_iff {r : Report} : r.exitCode = 0 ↔ r.findings = [] := by
  rw [Report.exitCode, Report.passed]
  cases r.findings with
  | nil => exact ⟨fun _ => rfl, fun _ => rfl⟩
  | cons x xs => exact ⟨nofun, nofun⟩

/-- A report passes when every document is read and follows the template. -/
theorem exitCode_ofDocuments_eq_zero_iff {t : Template} {ds : List Document} :
    (ofDocuments t ds).exitCode = 0 ↔
      ∀ d ∈ ds, ∃ text, d.contents = .readable text ∧ t.findings d.id text = [] := by
  rw [exitCode_eq_zero_iff, ofDocuments, List.flatMap_eq_nil_iff]
  simp only [Document.findings_eq_nil_iff]

end Report

namespace Checker
variable (c : Checker)

/-- The report of a source is that of its documents, also where there are none. -/
theorem report_run (s : Source) :
    (c.run s).report = .ofDocuments c.template s.documents := by
  rw [Checker.run]
  split
  · rename_i hnone
    rw [hnone]
    split <;> rfl
  · rfl

/-- Blocks of sorted documents are in the order of the documents' identities. -/
theorem pairwise_documentId_run {s : Source} (hs : s.documents.Pairwise Document.Before) :
    (c.run s).report.findings.Pairwise fun x y => x.documentId ≤ y.documentId := by
  rw [report_run, Report.ofDocuments, List.pairwise_flatMap]
  constructor
  · intro d _
    refine List.pairwise_of_forall_mem_list fun x hx y hy => ?_
    rw [Document.documentId_of_mem_findings hx, Document.documentId_of_mem_findings hy]
  · refine hs.imp fun {a b} hab x hx y hy => ?_
    rw [Document.documentId_of_mem_findings hx, Document.documentId_of_mem_findings hy]
    exact hab.elim le_of_lt fun hab => hab.1.le

end Checker

/-! ### What a check prints -/

namespace Document

theorem ended_trace (t : Tracing) (d : Document) : (d.trace t).Ended := by
  rw [Document.trace]
  split
  · rw [Tracing.trace]
    split
    · exact Text.ended_concat _
    · exact Text.ended_nil
  · exact Text.ended_nil

/-- A document is traced when it can be read and its identity is picked. -/
theorem trace_eq_nil_iff {t : Tracing} {d : Document} : d.trace t = [] ↔
    ∀ text, d.contents = .readable text → t.picks d.id = false := by
  rw [Document.trace]
  cases d.contents with
  | unreadable reason => exact iff_of_true rfl nofun
  | readable text =>
    simp only [Tracing.trace, Contents.readable.injEq, forall_eq']
    cases t.picks d.id with
    | false => exact iff_of_true rfl rfl
    | true => exact iff_of_false (List.concat_ne_nil _ _) nofun

theorem trace_ne_nil_iff {t : Tracing} {d : Document} : d.trace t ≠ [] ↔
    (∃ text, d.contents = .readable text) ∧ t.picks d.id = true := by
  rw [ne_eq, trace_eq_nil_iff]
  simp only [not_forall, Bool.not_eq_false, exists_prop, exists_and_right]

end Document

namespace Checker
variable (c : Checker)

/-- A check prints whole lines. -/
theorem ended_stdout_run (s : Source) : (c.run s).stdout.Ended := by
  have hsay : ∀ d ∈ s.documents, (c.say d).Ended := fun d _ => by
    have hline : d.progressLine.Ended := Text.Ended.append_left _ (by decide) (by decide)
    rw [say]
    split
    · exact hline.append (d.ended_trace c.tracing)
    · exact d.ended_trace c.tracing
  have hheader : s.header.Ended := Text.Ended.append_left _ (by decide) (by decide)
  rw [run]
  split
  · split
    · exact Text.ended_concat _
    · exact Text.ended_nil
  · simp only
    split
    · exact hheader.append (Text.ended_flatMap hsay)
    · exact Text.ended_flatMap hsay

/-- Without progress a check prints the traces alone. -/
theorem stdout_run_quiet {c : Checker} (h : c.progress = false) (s : Source) :
    (c.run s).stdout = s.documents.flatMap (·.trace c.tracing) := by
  have hsay : c.say = (·.trace c.tracing) := by
    funext d
    rw [say, h]
    rfl
  rw [run, h, hsay]
  split
  · rename_i hnone
    rw [hnone]
    rfl
  · rfl

/-- With progress a check prints a header, and a line in front of each trace. -/
theorem stdout_run_progress {c : Checker} (h : c.progress = true) {s : Source}
    (hs : s.documents ≠ []) : (c.run s).stdout =
      s.header ++ s.documents.flatMap fun d => d.progressLine ++ d.trace c.tracing := by
  have hsay : c.say = fun d => d.progressLine ++ d.trace c.tracing := by
    funext d
    rw [say, h]
    rfl
  rw [run, if_neg hs, h, hsay]
  rfl

/-- There is a warning beside the output when there is neither a document nor progress. -/
theorem stderr_run_ne_nil_iff {s : Source} :
    (c.run s).stderr ≠ [] ↔ s.documents = [] ∧ c.progress = false := by
  rw [run]
  split
  · rename_i hnone
    cases c.progress with
    | true => exact iff_of_false (fun h => h rfl) nofun
    | false => exact iff_of_true (List.concat_ne_nil _ _) ⟨hnone, rfl⟩
  · rename_i hsome
    exact iff_of_false (fun h => h rfl) fun h => hsome h.1

end Checker

/-! ### Files that are in no folder -/

namespace Document

theorem ofFiles_append (left right : List (Text × Contents)) :
    ofFiles (left ++ right) = ofFiles left ++ ofFiles right := List.map_append

theorem ofFiles_cons (name : Text) (contents : Contents) (files : List (Text × Contents)) :
    ofFiles ((name, contents) :: files) = .inMemory name contents :: ofFiles files := rfl

/-- The documents with a file name come from the files with that name. -/
theorem named_ofFiles (id fileName : Text) (files : List (Text × Contents)) :
    named id fileName (ofFiles files) =
      named id fileName (ofFiles (files.filter (·.1 = fileName))) := by
  rw [named, named, ofFiles, ofFiles, List.filter_map, List.filter_map, List.filter_filter]
  refine congrArg _ (List.filter_congr fun f _ => ?_)
  rw [Bool.eq_iff_iff, Bool.and_eq_true, Function.comp_apply, decide_eq_true_iff,
    decide_eq_true_iff]
  exact ⟨fun h => ⟨h, h.2⟩, fun h => h.1⟩

theorem sort_ofFiles_eq {files files' : List (Text × Contents)}
    (h : ∀ name, files'.filter (·.1 = name) = files.filter (·.1 = name)) :
    sort (ofFiles files') = sort (ofFiles files) :=
  sort_eq_of_named_eq fun id fileName => by rw [named_ofFiles, h, ← named_ofFiles]

end Document

namespace Source

theorem documents_ofFiles (files : List (Text × Contents)) :
    (ofFiles files).documents = Document.sort (Document.ofFiles files) := rfl

theorem ofFiles_eq {files files' : List (Text × Contents)}
    (h : ∀ name, files'.filter (·.1 = name) = files.filter (·.1 = name)) :
    ofFiles files' = ofFiles files :=
  congrArg (Source.mk _) (Document.sort_ofFiles_eq h)

end Source

namespace Checker
variable (c : Checker)

theorem report_run_ofFiles (files : List (Text × Contents)) : (c.run (.ofFiles files)).report =
    ⟨files.length, (Source.ofFiles files).documents.flatMap (·.findings c.template)⟩ := by
  have hlength : (Source.ofFiles files).documents.length = files.length :=
    (Document.perm_sort _).length_eq.trans (List.length_map _)
  rw [report_run, Report.ofDocuments, hlength]

/-- One more file puts in its block at one place. -/
theorem exists_report_insert (left right : List (Text × Contents)) (name : Text)
    (contents : Contents) :
    ∃ before after, (c.run (.ofFiles (left ++ right))).report.findings = before ++ after ∧
      (c.run (.ofFiles (left ++ (name, contents) :: right))).report =
        ⟨(left ++ right).length + 1,
          before ++ (Document.inMemory name contents).findings c.template ++ after⟩ := by
  obtain ⟨before, after, hwithout, hwith⟩ := Document.exists_sort_insert
    (.inMemory name contents) (Document.ofFiles right) (Document.ofFiles left)
  refine ⟨before.flatMap (·.findings c.template), after.flatMap (·.findings c.template), ?_, ?_⟩
  · rw [report_run_ofFiles, Source.documents_ofFiles, Document.ofFiles_append, hwithout,
      List.flatMap_append]
  · rw [report_run_ofFiles, Source.documents_ofFiles, Document.ofFiles_append,
      Document.ofFiles_cons, hwith, List.flatMap_append, List.flatMap_cons, List.append_assoc,
      List.length_append, List.length_append, List.length_cons, Nat.add_assoc]

/-- A report has the findings of each document in order. Files of different names may come in any
    order, one more file puts in its findings at one place, the findings are in the order of the
    documents' identities, and the exit status is zero when every file is read and follows the
    template. -/
theorem report_ofFiles (files : List (Text × Contents)) :
    Document.Ordered (Document.ofFiles files) (Source.ofFiles files).documents ∧
    (c.run (.ofFiles files)).report = ⟨files.length,
      (Source.ofFiles files).documents.flatMap fun d => d.contents.elim (c.template.findings d.id)
        fun reason => [⟨d.id, .readError, "Failed to read file: ".toList ++ reason⟩]⟩ ∧
    (∀ files', (∀ name, files'.filter (·.1 = name) = files.filter (·.1 = name)) →
      c.run (.ofFiles files') = c.run (.ofFiles files)) ∧
    (∀ left right name contents, left ++ right = files →
      ∃ before after, (c.run (.ofFiles files)).report.findings = before ++ after ∧
        (c.run (.ofFiles (left ++ (name, contents) :: right))).report = ⟨files.length + 1,
          before ++ (Document.inMemory name contents).findings c.template ++ after⟩) ∧
    ((c.run (.ofFiles files)).report.findings.Pairwise fun x y => x.documentId ≤ y.documentId) ∧
    ((c.run (.ofFiles files)).report.exitCode = 0 ↔ ∀ f ∈ files, ∃ text,
      f.2 = .readable text ∧ c.template.findings (FileName.identity f.1) text = []) := by
  have hordered := Document.ordered_sort (Document.ofFiles files)
  refine ⟨hordered, ?_, fun files' hfiles => by rw [Source.ofFiles_eq hfiles], ?_,
    c.pairwise_documentId_run hordered.sorted, ?_⟩
  · rw [report_run_ofFiles]
    simp only [Document.findings_eq_elim]
  · rintro left right name contents rfl
    exact c.exists_report_insert left right name contents
  · rw [report_run, Report.exitCode_ofDocuments_eq_zero_iff]
    simp only [Source.documents_ofFiles, hordered.perm.mem_iff]
    exact List.forall_mem_map

/-- A file may come between two files of another name, as well as in front of them. -/
theorem report_ofFiles_between :
    (Checker.mk .standard .off false).run
        (.ofFiles [(['a'], .unreadable ['1']), (['b'], .readable []), (['a'], .unreadable ['2'])]) =
      (Checker.mk .standard .off false).run
        (.ofFiles [(['b'], .readable []), (['a'], .unreadable ['1']), (['a'], .unreadable ['2'])]) ∧
    ((Checker.mk .standard .off false).run
      (.ofFiles [(['b'], .readable []), (['a'], .unreadable ['1']),
        (['a'], .unreadable ['2'])])).report.exitCode ≠ 0 := by
  have h := (Checker.mk .standard .off false).report_ofFiles
    [(['b'], .readable []), (['a'], .unreadable ['1']), (['a'], .unreadable ['2'])]
  obtain ⟨-, -, hcome, -, -, hexit⟩ := h
  refine ⟨hcome _ fun name => ?_, fun hzero => ?_⟩
  · by_cases ha : ['a'] = name
    · subst ha
      rfl
    · simp [List.filter_cons, ha]
  · obtain ⟨text, hread, -⟩ := hexit.1 hzero (['a'], .unreadable ['1']) (by simp)
    cases hread

end Checker

end OutlineLint
