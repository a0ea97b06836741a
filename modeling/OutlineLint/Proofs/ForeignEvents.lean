import OutlineLint.Proofs.SoleOpening

/-! Foreign events. The events of a document are foreign when there are some and none is its own.
    Where they are listed under one subsection heading, which stands nowhere else, the lines behind it
    decide:

        ### Events to Track               ### Events to Track

        - `agent.b.started`  counts       ### Metrics to Monitor    counts
        ### Metrics to Monitor            - `agent.b.started`       counts
        - `agent.a.started`               ## Change Log

    A line that is not blank in front of the next heading keeps the events in their subsection, and
    then no event behind the heading counts. When there is none the next heading and the lines under
    it are taken for events. -/

namespace OutlineLint

namespace Event

/-- Lines mention events, and none of the document. -/
structure Foreign (family id : Text) (ls : List Text) : Prop where
  mentioned : ∃ l ∈ ls, ∃ k o, Mention family l k o
  others : ∀ l ∈ ls, ∀ k, ¬ Mention family l k id

variable {family id : Text} {ls : List Text}

theorem foreign_iff_mentions : Foreign family id ls ↔
    (∃ l ∈ ls, mentions family l ≠ []) ∧ ∀ l ∈ ls, id ∉ (mentions family l).map Prod.snd := by
  have hmentioned : ∀ l, mentions family l ≠ [] ↔ ∃ k o, Mention family l k o := by
    intro l
    simp only [← mem_mentions_iff, ne_eq, List.eq_nil_iff_forall_not_mem, Prod.forall, not_forall,
      not_not]
  have hothers : ∀ l, id ∉ (mentions family l).map Prod.snd ↔ ∀ k, ¬ Mention family l k id := by
    intro l
    simp [← mem_mentions_iff]
  simp only [hmentioned, hothers]
  exact ⟨fun h => ⟨h.mentioned, h.others⟩, fun h => ⟨h.1, h.2⟩⟩

instance : Decidable (Foreign family id ls) := decidable_of_iff _ foreign_iff_mentions.symm

/-- The owners in all lines tell whether the events are foreign. -/
theorem foreign_iff (hf : '\x60' ∉ family) : Foreign family id ls ↔
    ls.flatMap (owners family) ≠ [] ∧ id ∉ ls.flatMap (owners family) := by
  simp only [foreign_iff_mentions, ne_eq, List.flatMap_eq_nil_iff, List.mem_flatMap, not_forall,
    not_exists, not_and, exists_prop, owners_eq_map_mentions hf, List.map_eq_nil_iff]

/-- No event begins in a blank line. -/
theorem not_mention_of_blank {l o : Text} {k : Nat} (h : ∀ c ∈ l, isBlank c = true) :
    ¬ Mention family l k o := by
  rintro ⟨⟨u, v, rfl, -⟩, -, -⟩
  exact absurd (h '\x60' (by simp)) (by decide)

theorem foreign_cons_blank {l : Text} (hl : ∀ c ∈ l, isBlank c = true) :
    Foreign family id (l :: ls) ↔ Foreign family id ls := by
  have hnone : ∀ k o, ¬ Mention family l k o := fun k o => not_mention_of_blank hl
  constructor
  · rintro ⟨hmentioned, hothers⟩
    refine ⟨((List.exists_mem_cons_iff ..).1 hmentioned).resolve_left ?_,
      (List.forall_mem_cons.1 hothers).2⟩
    rintro ⟨k, o, ho⟩
    exact hnone k o ho
  · rintro ⟨hmentioned, hothers⟩
    exact ⟨(List.exists_mem_cons_iff ..).2 (Or.inr hmentioned),
      List.forall_mem_cons.2 ⟨fun k => hnone k id, hothers⟩⟩

/-- Blank lines in front do not matter. -/
theorem foreign_dropWhile_blank :
    Foreign family id (ls.dropWhile fun l => l.all isBlank) ↔ Foreign family id ls := by
  induction ls with
  | nil => exact Iff.rfl
  | cons l ls ih =>
    by_cases hl : ∀ c ∈ l, isBlank c = true
    · rw [List.dropWhile_cons_of_pos (by simpa using hl), ih, foreign_cons_blank hl]
    · rw [List.dropWhile_cons_of_neg (by simpa using hl)]

end Event

open Passage Event

/-! ### The lines that count -/

section Telemetry
variable {m : Telemetry} {id text : Text}

/-- The rule complains when the events in the lines of the passage are foreign. -/
theorem Telemetry.deviations_eq_foreign (ho : LineOpening (subsectionMark m.subsection))
    (hline : '\n' ∉ m.family) (hquote : '\x60' ∉ m.family) : m.deviations id text =
      if Foreign m.family id (passageLines (subsectionMark m.subsection) atHeading text.lines) then
        [.foreignEvents m.family id] else [] := by
  rw [Telemetry.deviations_eq_lines ho hline hquote]
  simp only [foreign_iff hquote, ← not_or, ite_not]
  rfl

end Telemetry

section Lines
variable {between after : List Text}

/-- Lines that are not all blank, up to the first that begins with two marks. -/
theorem foreign_bodyLines_of_solid {family id : Text} (hinside : ∀ l ∈ between, ¬ "##".toList <+: l)
    (hstop : ∀ l ∈ after.head?, "##".toList <+: l)
    (hsolid : ∃ l ∈ between, ∃ c ∈ l, isBlank c = false) :
    Foreign family id (bodyLines atHeading (between ++ after)) ↔ Foreign family id between := by
  have hopen : ∀ l ∈ between, atHeading ('\n' :: l) = false := fun l hl =>
    Bool.eq_false_iff.2 (mt atHeading_line_iff.1 (hinside l hl))
  have hclose : ∀ l ∈ after.head?, atHeading ('\n' :: l) = true := fun l hl =>
    atHeading_line_iff.2 (hstop l hl)
  rw [bodyLines_append hclose hsolid, bodyLines_of_inside hopen, foreign_dropWhile_blank]

/-- Behind blank lines: a line that begins with two marks, and what follows up to the next one. -/
theorem bodyLines_of_heading (hstop : ∀ l ∈ after.head?, "##".toList <+: l)
    (hblank : ∀ l ∈ between, ∀ c ∈ l, isBlank c = true) : bodyLines atHeading (between ++ after) =
      after.take 1 ++ (after.drop 1).takeWhile fun l => ¬ "##".toList <+: l := by
  rw [bodyLines_of_blanks hblank]
  cases after with
  | nil => rfl
  | cons l after =>
    rw [bodyLines_solid (Heading.not_blank_of_mark (hstop l rfl))]
    simp only [Draft.atHeading_line, decide_not]
    rfl

end Lines

namespace Template

/-- Where the heading of the events is a line of its own and stands nowhere else, the lines behind
    it up to the next heading decide, whatever follows, if one of them is not blank. If all are, the
    next heading decides and the lines between it and the heading after it. -/
theorem foreignEvents_findings_eq {id text : Text} {before between after : List Text}
    (hlines : text.lines =
      before ++ subsectionMark standard.telemetry.subsection :: (between ++ after))
    (honce : Text.occurrences (subsectionMark standard.telemetry.subsection) text = 1)
    (hinside : ∀ l ∈ between, ¬ "##".toList <+: l)
    (hstop : ∀ l ∈ after.head?, "##".toList <+: l) :
    ((∃ l ∈ between, ∃ c ∈ l, isBlank c = false) →
      Rule.telemetry.findings standard (.ofText id text) =
        if Foreign standard.telemetry.family id between then
          [(Deviation.foreignEvents standard.telemetry.family id).finding id] else []) ∧
    ((∀ l ∈ between, ∀ c ∈ l, isBlank c = true) →
      Rule.telemetry.findings standard (.ofText id text) =
        if Foreign standard.telemetry.family id
            (after.take 1 ++ (after.drop 1).takeWhile fun l => ¬ "##".toList <+: l) then
          [(Deviation.foreignEvents standard.telemetry.family id).finding id] else []) := by
  have hfindings : Rule.telemetry.findings standard (.ofText id text) =
      if Foreign standard.telemetry.family id (bodyLines atHeading (between ++ after)) then
        [(Deviation.foreignEvents standard.telemetry.family id).finding id] else [] := by
    rw [Rule.findings, Rule.deviations, Subject.ofText,
      Telemetry.deviations_eq_foreign standard_telemetry_opening (by decide) (by decide),
      passageLines_of_once standard_telemetry_opening (by decide) hlines honce,
      apply_ite (List.map _)]
    rfl
  constructor
  · intro hsolid
    simp only [hfindings, foreign_bodyLines_of_solid hinside hstop hsolid]
  · intro hblank
    rw [hfindings, bodyLines_of_heading hstop hblank]

/-- The event of its document stands behind the next heading. -/
def strayed : Text :=
  "### Events to Track\n\n- `agent.b.started`\n### Metrics to Monitor\n- `agent.a.started`".toList

theorem findings_strayed :
    strayed.lines = [] ++ subsectionMark standard.telemetry.subsection ::
      (["", "- `agent.b.started`"].map String.toList ++
        ["### Metrics to Monitor", "- `agent.a.started`"].map String.toList) ∧
    Text.occurrences (subsectionMark standard.telemetry.subsection) strayed = 1 ∧
    (∀ l ∈ ["", "- `agent.b.started`"].map String.toList, ¬ "##".toList <+: l) ∧
    (∀ l ∈ (["### Metrics to Monitor", "- `agent.a.started`"].map String.toList).head?,
      "##".toList <+: l) ∧
    Rule.telemetry.findings standard (.ofText ['a'] strayed) =
      [(Deviation.foreignEvents standard.telemetry.family ['a']).finding ['a']] :=
  have hlines : strayed.lines = [] ++ subsectionMark standard.telemetry.subsection ::
      (["", "- `agent.b.started`"].map String.toList ++
        ["### Metrics to Monitor", "- `agent.a.started`"].map String.toList) := by decide +kernel
  have honce : Text.occurrences (subsectionMark standard.telemetry.subsection) strayed = 1 := by
    decide +kernel
  have hinside : ∀ l ∈ ["", "- `agent.b.started`"].map String.toList, ¬ "##".toList <+: l := by
    decide +kernel
  have hstop : ∀ l ∈ (["### Metrics to Monitor", "- `agent.a.started`"].map String.toList).head?,
      "##".toList <+: l := by decide +kernel
  have hforeign : Foreign standard.telemetry.family ['a']
      (["", "- `agent.b.started`"].map String.toList) := by decide +kernel
  have hfindings : Rule.telemetry.findings standard (.ofText ['a'] strayed) =
      if Foreign standard.telemetry.family ['a'] (["", "- `agent.b.started`"].map String.toList)
      then [(Deviation.foreignEvents standard.telemetry.family ['a']).finding ['a']] else [] :=
    (foreignEvents_findings_eq hlines honce hinside hstop).1
      ⟨"- `agent.b.started`".toList, by decide, '-', by decide, by decide⟩
  ⟨hlines, honce, hinside, hstop, hfindings.trans (if_pos hforeign)⟩

/-- It has no events under their heading, and somebody's event in the next section. -/
def adrift : Text := "### Events to Track\n\n## Change Log\n- `agent.b.started`".toList

/-- The events of the next section count where no line stands under the heading of the events. -/
theorem foreignEvents_of_next_section :
    adrift.lines = [] ++ subsectionMark standard.telemetry.subsection ::
      ([[]] ++ ["## Change Log", "- `agent.b.started`"].map String.toList) ∧
    Text.occurrences (subsectionMark standard.telemetry.subsection) adrift = 1 ∧
    (∀ l ∈ [[]], ¬ "##".toList <+: l) ∧ "##".toList <+: "## Change Log".toList ∧
    ¬ Foreign standard.telemetry.family ['a'] [[]] ∧
    Rule.telemetry.findings standard (.ofText ['a'] adrift) =
      [(Deviation.foreignEvents standard.telemetry.family ['a']).finding ['a']] := by
  decide +kernel

end Template

end OutlineLint
