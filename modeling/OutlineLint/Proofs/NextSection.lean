import OutlineLint.Proofs.SoleOpening

/-! The section behind the ownership section. Where the opening of a passage stands once, in a line
    of its own, the lines behind this one tell the body of the passage:

        ## Ownership & Maintenance        ## Ownership & Maintenance

        TBD                  body         ## Change Log        body
        ## Change Log                     - **Owner**: O       body
        - **Owner**: O                    ## Glossary

    A line that is not blank in front of the next heading keeps the body in its section, and then no
    label behind the heading counts. When there is none the body begins with the next heading, since
    a body is something, and the labels of the next section count as if they were its own. -/

namespace OutlineLint

open Passage

/-! ### The ownership section and the next heading -/

theorem Draft.plain_iff {l : Text} : Draft.Plain l ↔ atSection ('\n' :: l) = false := by
  refine ⟨Draft.not_atSection_plain, fun h => ?_⟩
  rintro ⟨v, rfl⟩
  cases v with
  | nil => cases h
  | cons c v =>
    have hc : c = '#' := by simpa [atSection] using h
    subst hc
    exact ⟨v, rfl⟩

/-- A label is complained about when a passage opens and no line of it has the label. -/
theorem noOwnerLabel_mem_iff_lines {t : Template} (ho : LineOpening (sectionMark t.ownership.title))
    (hfields : ∀ f ∈ t.ownership.fields, '\n' ∉ f) {id text f : Text} (hf : f ∈ t.ownership.fields) :
    (Deviation.noOwnerLabel f t.ownership.title).finding id
        ∈ Rule.ownership.findings t (.ofText id text) ↔
      Opens (sectionMark t.ownership.title) text ∧
        ¬ ∃ l ∈ passageLines (sectionMark t.ownership.title) atSection text.lines,
          boldLabel f <:+: l := by
  rw [Rule.findings, Rule.deviations, Subject.ofText, Ownership.deviations_eq_lines ho hfields]
  by_cases hopens : Opens (sectionMark t.ownership.title) text
  · rw [if_pos hopens, noOwnerLabel_mem_map_iff, and_iff_right hopens, and_iff_right hf,
      decide_eq_true_iff]
  · rw [if_neg hopens]
    exact iff_of_false List.not_mem_nil fun h => hopens h.1

namespace Template

/-- Where the ownership heading is written as the mark and stands once, and a heading follows it, a
    label that no line between the two has is complained about, whatever follows, if one of these
    lines is not blank. If all are, the label is complained about when the next section lacks it. -/
theorem noOwnerLabel_mem_iff_next {id text heading : Text} {before between after : List Text}
    (hlines : text.lines =
      before ++ sectionMark standard.ownership.title :: (between ++ heading :: after))
    (honce : Text.occurrences (sectionMark standard.ownership.title) text = 1)
    (hheading : Heading.title? heading ≠ none) :
    ∀ f ∈ standard.ownership.fields, (∀ l ∈ between, ¬ boldLabel f <:+: l) →
      ((Deviation.noOwnerLabel f standard.ownership.title).finding id
          ∈ Rule.ownership.findings standard (.ofText id text) ↔
        (∃ l ∈ between, ∃ c ∈ l, isBlank c = false) ∨
          ∀ l ∈ heading :: after.takeWhile fun k => Draft.Plain k, ¬ boldLabel f <:+: l) := by
  intro f hf hlabel
  obtain ⟨n, hn⟩ := Option.ne_none_iff_exists'.1 hheading
  have hclose := closing_atSection.heading heading n hn
  have htitle : Heading.title? (sectionMark standard.ownership.title) =
      some standard.ownership.title := by decide +kernel
  have hopens := opens_of_heading hlines htitle List.prefix_rfl (by simp)
  rw [noOwnerLabel_mem_iff_lines standard_ownership_opening standard_fields_newline hf,
    and_iff_right hopens, passageLines_of_once standard_ownership_opening (by decide) hlines honce]
  by_cases hsolid : ∃ l ∈ between, ∃ c ∈ l, isBlank c = false
  · refine iff_of_true ?_ (Or.inl hsolid)
    rintro ⟨l, hl, hfl⟩
    exact hlabel l (mem_of_mem_bodyLines hclose hsolid l hl) hfl
  · have hblank : ∀ l ∈ between, ∀ c ∈ l, isBlank c = true := by simpa using hsolid
    rw [or_iff_right hsolid, bodyLines_of_blanks hblank,
      bodyLines_solid (Heading.not_blank_of_title? hn)]
    simp only [Draft.plain_iff, not_exists, not_and, Bool.decide_eq_false]

/-- Its ownership section has no label, and the next section has one. -/
def pending : Text := "## Ownership & Maintenance\n\nTBD\n\n## Change Log\n- **Owner**: O".toList

theorem owner_of_pending :
    pending.lines = [] ++ sectionMark standard.ownership.title ::
      (["", "TBD", ""].map String.toList ++ "## Change Log".toList :: ["- **Owner**: O".toList]) ∧
    Text.occurrences (sectionMark standard.ownership.title) pending = 1 ∧
    Heading.title? "## Change Log".toList ≠ none ∧
    "Owner".toList ∈ standard.ownership.fields ∧
    (∀ l ∈ ["", "TBD", ""].map String.toList, ¬ boldLabel "Owner".toList <:+: l) ∧
    (Deviation.noOwnerLabel "Owner".toList standard.ownership.title).finding ['a']
      ∈ Rule.ownership.findings standard (.ofText ['a'] pending) :=
  have hlines : pending.lines = [] ++ sectionMark standard.ownership.title ::
      (["", "TBD", ""].map String.toList ++ "## Change Log".toList :: ["- **Owner**: O".toList]) :=
    by decide +kernel
  have honce : Text.occurrences (sectionMark standard.ownership.title) pending = 1 := by
    decide +kernel
  have hheading : Heading.title? "## Change Log".toList ≠ none := by decide +kernel
  have hf : "Owner".toList ∈ standard.ownership.fields := by decide +kernel
  have hlabel : ∀ l ∈ ["", "TBD", ""].map String.toList, ¬ boldLabel "Owner".toList <:+: l := by
    decide +kernel
  ⟨hlines, honce, hheading, hf, hlabel,
    (noOwnerLabel_mem_iff_next hlines honce hheading _ hf hlabel).2
      (Or.inl ⟨"TBD".toList, by decide, 'T', by decide, by decide⟩)⟩

/-- Its ownership section has only a blank line, and the next section has every label. -/
def adopted : Text := Text.joinLines (["## Ownership & Maintenance", "", "## Change Log",
  "- **Owner**: O", "- **Backup Owner**: B", "- **Last Updated**: D",
  "- **Review Frequency**: F"].map String.toList)

/-- The labels of the next section count for an ownership section that is blank. -/
theorem owner_of_next_section :
    adopted.lines = [] ++ sectionMark standard.ownership.title ::
      ([[]] ++ "## Change Log".toList :: ["- **Owner**: O", "- **Backup Owner**: B",
        "- **Last Updated**: D", "- **Review Frequency**: F"].map String.toList) ∧
    Text.occurrences (sectionMark standard.ownership.title) adopted = 1 ∧
    Heading.title? "## Change Log".toList ≠ none ∧
    ∀ f ∈ standard.ownership.fields, (∀ l ∈ [[]], ¬ boldLabel f <:+: l) ∧
      (Deviation.noOwnerLabel f standard.ownership.title).finding ['a']
        ∉ Rule.ownership.findings standard (.ofText ['a'] adopted) := by
  decide +kernel

end Template

end OutlineLint
