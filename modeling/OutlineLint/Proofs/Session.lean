import Mathlib.Data.List.DropRight
import OutlineLint.Proofs.Checker
import OutlineLint.Session

/-! What a session remembers. Where some steps lead is told by the last of them that count: the
    template by the last new checker, the settings by the last ones since then, and the documents by
    all that were added since the shelf was cleared.

        add a   clear   new T   trace   add b   run   new U   add c   run
                └─ documents: b, c
                                                      └─ template U, settings as at the start

    A run is one look at what is told, and changes nothing; so its report is that of a new checker on
    the same documents, and no setting and no earlier run has a say in it. -/

namespace OutlineLint

namespace SessionStep

/-- The template of a new checker. -/
def template? : SessionStep → Option Template
  | renew t => some t
  | _ => none

/-- The choice of the documents that are traced. -/
def tracing? : SessionStep → Option Tracing
  | trace t => some t
  | _ => none

/-- The choice about progress lines. -/
def progress? : SessionStep → Option Bool
  | progress on => some on
  | _ => none

/-- The document that is added. -/
def document? : SessionStep → Option Document
  | add d => some d
  | _ => none

/-- Whether a step takes a new checker. -/
def renews : SessionStep → Bool
  | renew _ => true
  | _ => false

/-- Whether a step takes the documents away. -/
def clears : SessionStep → Bool
  | clear => true
  | _ => false

/-- Whether later reports may depend on a step: settings, looks and runs are left out. -/
def counts (step : SessionStep) : Bool :=
  step.renews || step.clears || step.document?.isSome

/-- What `f` finds in the last step in which it finds something, or what there was at first. -/
def latest {α : Type} (f : SessionStep → Option α) (first : α) (steps : List SessionStep) : α :=
  (steps.filterMap f).getLastD first

/-- The steps after the last one that `p` holds of. -/
def since (p : SessionStep → Bool) (steps : List SessionStep) : List SessionStep :=
  steps.rtakeWhile fun step => !p step

/-! ### One step more -/

variable {steps : List SessionStep}

theorem latest_concat {α : Type} (f : SessionStep → Option α) (first : α) (step : SessionStep) :
    latest f first (steps ++ [step]) = (f step).getD (latest f first steps) := by
  rw [latest, List.filterMap_append]
  cases hf : f step with
  | none => rw [List.filterMap_cons_none hf, List.filterMap_nil, List.append_nil]; rfl
  | some x => rw [List.filterMap_cons_some hf, List.filterMap_nil, List.getLastD_concat]; rfl

theorem since_concat (p : SessionStep → Bool) (step : SessionStep) :
    since p (steps ++ [step]) = if p step then [] else since p steps ++ [step] := by
  rw [since, List.rtakeWhile_concat]
  cases p step <;> rfl

/-- Steps that `p` does not hold of may be left out before or after the others are dropped. -/
theorem since_filter {p q : SessionStep → Bool} (h : ∀ step, p step = true → q step = true)
    (steps : List SessionStep) : since p (steps.filter q) = (since p steps).filter q := by
  -- the steps are taken from the end, since the last one with `p` decides
  induction steps using List.reverseRecOn with
  | nil => rfl
  | append_singleton steps step ih =>
    rw [List.filter_append, since_concat]
    cases hq : q step with
    | true =>
      rw [List.filter_cons_of_pos hq, List.filter_nil, since_concat, ih]
      split
      · rfl
      · rw [List.filter_append, List.filter_cons_of_pos hq, List.filter_nil]
    | false =>
      have hp : ¬ p step = true := fun hp => by rw [h step hp] at hq; cases hq
      rw [if_neg hp, List.filter_append, List.filter_cons_of_neg (by simpa using hq),
        List.filter_nil, List.append_nil, List.append_nil, ih]

/-- What is found in steps that count is found when the others are left out. -/
theorem filterMap_filter_counts {α : Type} {f : SessionStep → Option α}
    (h : ∀ step, counts step = false → f step = none) (steps : List SessionStep) :
    (steps.filter counts).filterMap f = steps.filterMap f := by
  rw [List.filterMap_filter]
  refine List.filterMap_congr fun step _ => ?_
  cases hc : counts step with
  | true => rfl
  | false => exact (h step hc).symm

end SessionStep

namespace Session
open SessionStep

/-- The session after several steps. -/
def afterAll (s : Session) (steps : List SessionStep) : Session := steps.foldl after s

/-! ### What steps tell -/

section Told
variable (steps : List SessionStep)

/-- The template of the last new checker. -/
def template : Template := latest template? .standard steps

/-- The last choice of traced documents since the last new checker. -/
def tracing : Tracing := latest tracing? .off (since renews steps)

/-- The last choice about progress lines since the last new checker. -/
def progress : Bool := latest progress? true (since renews steps)

/-- The documents that were added since the shelf was cleared. -/
def documents : List Document := (since clears steps).filterMap document?

/-- The session that steps tell. -/
def told : Session := ⟨⟨template steps, tracing steps, progress steps⟩, documents steps⟩

end Told

variable (steps : List SessionStep) (step : SessionStep)

theorem template_concat :
    template (steps ++ [step]) = step.template?.getD (template steps) :=
  latest_concat template? .standard step

theorem tracing_concat : tracing (steps ++ [step]) =
    if step.renews then .off else step.tracing?.getD (tracing steps) := by
  rw [tracing, since_concat]
  split
  · rfl
  · exact latest_concat tracing? .off step

theorem progress_concat : progress (steps ++ [step]) =
    if step.renews then true else step.progress?.getD (progress steps) := by
  rw [progress, since_concat]
  split
  · rfl
  · exact latest_concat progress? true step

theorem documents_concat : documents (steps ++ [step]) =
    if step.clears then [] else documents steps ++ step.document?.toList := by
  rw [documents, since_concat]
  split
  · rfl
  · rw [List.filterMap_append]
    cases step <;> rfl

/-- One step more changes what is told as it changes the session. -/
theorem told_concat : told (steps ++ [step]) = (told steps).after step := by
  rw [told, template_concat, tracing_concat, progress_concat, documents_concat]
  cases step with
  | add d => rfl
  | clear => rfl
  | _ => simp only [clears, document?, Option.toList_none, List.append_nil]; rfl

/-- Steps lead to what they tell. -/
theorem afterAll_eq_told : start.afterAll steps = told steps := by
  induction steps using List.reverseRecOn with
  | nil => rfl
  | append_singleton steps step ih =>
    rw [told_concat, ← ih, afterAll, List.foldl_append]
    rfl

/-! ### What a run depends on -/

theorem template_filter_counts : template (steps.filter counts) = template steps := by
  have hcounts : ∀ step, counts step = false → step.template? = none := fun step h => by
    cases step with
    | renew t => cases h
    | _ => rfl
  rw [template, latest, filterMap_filter_counts hcounts]
  rfl

theorem documents_filter_counts : documents (steps.filter counts) = documents steps := by
  have hclears : ∀ step, clears step = true → counts step = true := fun step h => by
    rw [counts, h, Bool.or_true, Bool.true_or]
  have hcounts : ∀ step, counts step = false → step.document? = none := fun step h => by
    simpa using (Bool.or_eq_false_iff.1 h).2
  rw [documents, since_filter hclears, filterMap_filter_counts hcounts]
  rfl

/-- A run reports what a new checker reports on the same documents. -/
theorem report_told : ((told steps).checker.run (told steps).source).report =
    ((Checker.mk (template steps) .off true).run (.memory (documents steps))).report := by
  rw [Checker.report_run, Checker.report_run]
  rfl

theorem report_told_congr {steps steps' : List SessionStep}
    (h : steps'.filter counts = steps.filter counts) :
    ((told steps').checker.run (told steps').source).report =
      ((told steps).checker.run (told steps).source).report := by
  rw [report_told, report_told, ← template_filter_counts steps', ← documents_filter_counts steps',
    h, template_filter_counts, documents_filter_counts]

/-! ### Answers -/

theorem answers_append (s : Session) (left right : List SessionStep) :
    s.answers (left ++ right) = s.answers left ++ (s.afterAll left).answers right := by
  induction left generalizing s with
  | nil => rfl
  | cons step left ih =>
    rw [List.cons_append, answers, answers, ih]
    rfl

theorem length_answers (s : Session) (steps : List SessionStep) :
    (s.answers steps).length = steps.length := by
  induction steps generalizing s with
  | nil => rfl
  | cons step steps ih => rw [answers, List.length_cons, List.length_cons, ih]

/-- A run answers with the outcome for what the steps before it tell. -/
theorem answers_run (before later : List SessionStep) :
    (start.answers (before ++ .run :: later))[before.length]? =
      some (.outcome ((told before).checker.run (told before).source)) := by
  have hle : (start.answers before).length ≤ before.length := (length_answers _ _).le
  rw [answers_append, afterAll_eq_told, List.getElem?_append_right hle, length_answers,
    Nat.sub_self]
  rfl

/-- A run reports what a new checker with the last template reports on the documents that were added
    since the shelf was cleared, so settings, looks and other runs change no report. It prints the
    traces of the documents in order, and with progress a header and a line in front of each; the
    documents that can be read and were picked since the last new checker have a trace. There is a
    warning beside the output when there is no document and no progress. -/
theorem answer_of_run (before later : List SessionStep) :
    ∃ o, (start.answers (before ++ .run :: later))[before.length]? = some (.outcome o) ∧
      o.report =
        ((Checker.mk (template before) .off true).run (.memory (documents before))).report ∧
      (∀ before' later', before'.filter counts = before.filter counts →
        ∃ o', (start.answers (before' ++ .run :: later'))[before'.length]? = some (.outcome o') ∧
          o'.report = o.report) ∧
      Document.Ordered (documents before) (Document.sort (documents before)) ∧
      (documents before ≠ [] → o.stdout =
        if progress before then
          (Source.memory (documents before)).header ++ (Document.sort (documents before)).flatMap
            fun d => d.progressLine ++ d.trace (tracing before)
        else (Document.sort (documents before)).flatMap (·.trace (tracing before))) ∧
      (∀ d : Document, d.trace (tracing before) ≠ [] ↔
        (∃ text, d.contents = .readable text) ∧ (tracing before).picks d.id = true) ∧
      (o.stderr ≠ [] ↔ documents before = [] ∧ progress before = false) := by
  refine ⟨_, answers_run before later, report_told before,
    fun before' later' h => ⟨_, answers_run before' later', report_told_congr h⟩,
    Document.ordered_sort _, fun hne => ?_, fun d => Document.trace_ne_nil_iff, ?_⟩
  · have hsort : (Source.memory (documents before)).documents ≠ [] :=
      mt Document.sort_eq_nil_iff.1 hne
    cases hon : progress before with
    | true => exact Checker.stdout_run_progress hon hsort
    | false => exact Checker.stdout_run_quiet hon _
  · rw [Checker.stderr_run_ne_nil_iff]
    exact and_congr_left' Document.sort_eq_nil_iff

/-- Two documents, without progress lines. -/
def quiet : List SessionStep :=
  [.progress false, .add (.inMemory ['b'] (.readable [])),
    .add (.inMemory ['a'] (.unreadable ['1']))]

/-- The same documents among runs, looks and settings. -/
def noisy : List SessionStep :=
  [.run, .add (.inMemory ['b'] (.readable [])), .trace ⟨true, [.part []]⟩, .load, .progress true,
    .run, .add (.inMemory ['a'] (.unreadable ['1'])), .progress false]

/-- What is reported is the same, and the traces are what tells the runs apart. -/
theorem answer_of_noisy_run :
    noisy.filter counts = quiet.filter counts ∧ documents noisy ≠ [] ∧
    ∃ o o', (start.answers (quiet ++ .run :: []))[quiet.length]? = some (.outcome o) ∧
      (start.answers (noisy ++ .run :: []))[noisy.length]? = some (.outcome o') ∧
      o'.report = o.report ∧
      o.stdout = (Document.sort (documents quiet)).flatMap (·.trace .off) ∧
      o'.stdout = (Document.sort (documents quiet)).flatMap (·.trace ⟨true, [.part []]⟩) := by
  have hfilter : noisy.filter counts = quiet.filter counts := rfl
  have hquiet : documents quiet ≠ [] := List.cons_ne_nil _ _
  have hnoisy : documents noisy ≠ [] := List.cons_ne_nil _ _
  obtain ⟨o, ho, -, hreport, -, hout, -⟩ := answer_of_run quiet []
  obtain ⟨o', ho', -, -, -, hout', -⟩ := answer_of_run noisy []
  obtain ⟨o'', ho'', hsame⟩ := hreport noisy [] hfilter
  have heq : o'' = o' := SessionAnswer.outcome.inj (Option.some.inj (ho''.symm.trans ho'))
  exact ⟨hfilter, hnoisy, o, o', ho, ho', heq ▸ hsame, hout hquiet, hout' hnoisy⟩

end Session

end OutlineLint
