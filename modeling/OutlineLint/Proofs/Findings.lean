import OutlineLint.Rule
import OutlineLint.Proofs.Outline

/-! What a check reports, said without the outline. `Template.declared` reads the five blocks of
    findings off the lines of the text, its two passages and its first characters:

        sections that no heading names | subsections that stand nowhere under the last heading |
        labels that the ownership passage lacks | the role label | foreign events

    Each rule has one lemma that opens it, and `findings_eq_declared` puts them together. -/

namespace OutlineLint

/-- Some line is a heading with the title. -/
def Headed (text title : Text) : Prop := ∃ l ∈ text.lines, Heading.title? l = some title

instance (text title : Text) : Decidable (Headed text title) :=
  inferInstanceAs (Decidable (∃ l ∈ text.lines, Heading.title? l = some title))

/-- There is a heading with the title, and the lines under the last one lack the subsection. -/
def Lacks (text title subsection : Text) : Prop :=
  ∃ before body after, Under text.lines title before body after ∧
    ¬ subsectionMark subsection <:+: Text.joinLines body

theorem Under.headed {text title : Text} {before body after : List Text}
    (h : Under text.lines title before body after) : Headed text title := by
  obtain ⟨l, hl, hn⟩ := h.title
  exact ⟨l, List.mem_of_getElem? hl, hn⟩

theorem Lacks.headed {text title subsection : Text} (h : Lacks text title subsection) :
    Headed text title := by
  obtain ⟨before, body, after, hu, -⟩ := h
  exact hu.headed

theorem contains_ofText_iff {text title : Text} :
    (Outline.ofText text).contains title = true ↔ Headed text title := by
  rw [Outline.contains_iff, Outline.mem_titles_ofText, Headed]

theorem lacks_iff {text title subsection : Text} : Lacks text title subsection ↔
    ∃ b ∈ (Outline.ofText text).body? title, ¬ subsectionMark subsection <:+: b := by
  constructor
  · rintro ⟨before, body, after, hu, hn⟩
    exact ⟨_, Outline.body?_ofText hu, hn⟩
  · rintro ⟨b, hb, hn⟩
    obtain ⟨before, body, after, hu, rfl⟩ := Outline.body?_ofText_eq_some_iff.1 hb
    exact ⟨before, body, after, hu, hn⟩

instance (text title subsection : Text) : Decidable (Lacks text title subsection) :=
  decidable_of_iff _ lacks_iff.symm

/-- Where no two headings have one title, a subsection that stands under a heading is not lacked. -/
theorem not_lacks_of_lines {text h n s : Text} {a b c : List Text}
    (hd : (text.lines.filterMap Heading.title?).Nodup) (hn : '\n' ∉ subsectionMark s)
    (hlines : text.lines = a ++ h :: (b ++ subsectionMark s :: c))
    (hh : Heading.title? h = some n) (hb : ∀ l ∈ b, Heading.title? l = none)
    (hs : Heading.title? (subsectionMark s) = none) : ¬ Lacks text n s := by
  rintro ⟨before, body, after, hu, hlack⟩
  have hlast : ∀ l ∈ c, Heading.title? l ≠ some n := by
    intro l hl ht
    rw [hlines, List.filterMap_append, List.filterMap_cons_some hh, List.nodup_append] at hd
    refine (List.nodup_cons.1 hd.2.1).1 (List.mem_filterMap.2 ⟨l, ?_, ht⟩)
    exact List.mem_append_right b (List.mem_cons_of_mem _ hl)
  have hplain : ∀ l ∈ b ++ [subsectionMark s], Heading.title? l = none := by
    intro l hl
    rcases List.mem_append.1 hl with hl | hl
    · exact hb l hl
    · rwa [List.mem_singleton.1 hl]
  have hu' : Under (a ++ h :: ((b ++ [subsectionMark s]) ++ c)) n a _ _ :=
    Under.of_rest hh hplain hlast
  rw [List.append_assoc, List.singleton_append, ← hlines] at hu'
  have hbody := (Outline.body?_ofText hu).symm.trans (Outline.body?_ofText hu')
  rw [Option.some.inj hbody, Text.infix_joinLines_iff hn (by simp [subsectionMark])] at hlack
  exact hlack ⟨subsectionMark s, by simp, List.infix_rfl⟩

/-- What a template declares to be wrong with a text. -/
def Template.declared (t : Template) (id text : Text) : List Finding :=
  ((t.sections.filter fun n => ¬ Headed text n).map fun n =>
    ⟨id, .missingSection, (Deviation.noSection n).detail⟩) ++
  (t.requirements.flatMap fun r => (r.subsections.filter fun s => Lacks text r.title s).map fun s =>
    ⟨id, .missingSubsection, (Deviation.noSubsection r.title s).detail⟩) ++
  ((t.ownership.passage? text).elim [] fun body =>
    (t.ownership.fields.filter fun f => ¬ boldLabel f <:+: body).map fun f =>
      ⟨id, .missingField, (Deviation.noOwnerLabel f t.ownership.title).detail⟩) ++
  (if boldLabel t.role.field <:+: text.take t.role.window then []
    else [⟨id, .missingField, (Deviation.noRoleLabel t.role.field).detail⟩]) ++
  ((t.telemetry.passage? text).elim [] fun body =>
    if t.telemetry.owners body = [] ∨ id ∈ t.telemetry.owners body then []
    else [⟨id, .telemetryNaming, (Deviation.foreignEvents t.telemetry.family id).detail⟩])

/-- No label ends with a return. -/
theorem needle_boldLabel_return (f : Text) : (boldLabel f).getLast? ≠ some '\r' := by
  have h : boldLabel f = "**".toList ++ f ++ ['*', '*'] ++ [':'] := by simp [boldLabel]
  rw [h, List.getLast?_concat]
  decide

/-! ### Rule by rule -/

theorem not_occursIn_eq (m b : Text) : (!m.occursIn b) = decide (¬ m <:+: b) := by
  rw [Bool.eq_iff_iff, Bool.not_eq_true', decide_eq_true_iff, ← Text.occursIn_iff,
    Bool.not_eq_true]

section Rules
variable (t : Template) (id text : Text)

theorem deviations_sections : Rule.sections.deviations t (.ofText id text) =
    (t.sections.filter fun n => ¬ Headed text n).map .noSection := by
  rw [Rule.deviations]
  refine congrArg _ (List.filter_congr fun n _ => ?_)
  rw [Bool.eq_iff_iff, Bool.not_eq_true', decide_eq_true_iff, ← contains_ofText_iff,
    Bool.not_eq_true]
  rfl

theorem deviations_requirement (r : Requirement) : r.deviations (.ofText text) =
    (r.subsections.filter fun s => Lacks text r.title s).map (.noSubsection r.title ·) := by
  rw [Requirement.deviations]
  cases hb : (Outline.ofText text).body? r.title with
  | none =>
    have hlacks : ∀ s, ¬ Lacks text r.title s := fun s => by rw [lacks_iff, hb]; simp
    rw [List.filter_eq_nil_iff.2 fun s _ => by simpa using hlacks s, List.map_nil]
  | some b =>
    refine congrArg _ (List.filter_congr fun s _ => ?_)
    rw [not_occursIn_eq, decide_eq_decide, lacks_iff, hb]
    simp

theorem deviations_ownership (o : Ownership) : o.deviations text =
    (o.passage? text).elim [] fun body =>
      (o.fields.filter fun f => ¬ boldLabel f <:+: body).map (.noOwnerLabel · o.title) := by
  rw [Ownership.deviations]
  cases o.passage? text with
  | none => rfl
  | some body => exact congrArg _ (List.filter_congr fun f _ => not_occursIn_eq _ _)

theorem deviations_role (r : RoleLabel) : r.deviations text =
    if boldLabel r.field <:+: text.take r.window then [] else [.noRoleLabel r.field] := by
  rw [RoleLabel.deviations]
  simp only [Text.occursIn_iff]

theorem deviations_telemetry (m : Telemetry) : m.deviations id text =
    (m.passage? text).elim [] fun body =>
      if m.owners body = [] ∨ id ∈ m.owners body then [] else [.foreignEvents m.family id] := by
  rw [Telemetry.deviations]
  cases m.passage? text <;> rfl

/-- The findings are those of the five rules, one rule after the other. -/
theorem Template.findings_eq_append : t.findings id text =
    (Rule.sections.deviations t (.ofText id text) ++
      t.requirements.flatMap (·.deviations (.ofText text)) ++ t.ownership.deviations text ++
      t.role.deviations text ++ t.telemetry.deviations id text).map (Deviation.finding id) := by
  simp only [Template.findings, Rule.all, Rule.findings, List.flatMap_cons, List.flatMap_nil,
    List.map_append, List.append_assoc, List.append_nil]
  rfl

/-- A check reports what the template declares, each time about the document with the name. -/
theorem Template.findings_eq_declared : t.findings id text = t.declared id text ∧
    ∀ f ∈ t.findings id text, f.documentId = id := by
  constructor
  · have howner : (t.ownership.deviations text).map (Deviation.finding id) =
        (t.ownership.passage? text).elim [] fun body =>
          (t.ownership.fields.filter fun f => ¬ boldLabel f <:+: body).map fun f =>
            ⟨id, .missingField, (Deviation.noOwnerLabel f t.ownership.title).detail⟩ := by
      rw [deviations_ownership]
      cases t.ownership.passage? text with
      | none => rfl
      | some body => exact List.map_map
    have hrole : (t.role.deviations text).map (Deviation.finding id) =
        if boldLabel t.role.field <:+: text.take t.role.window then []
        else [⟨id, .missingField, (Deviation.noRoleLabel t.role.field).detail⟩] := by
      rw [deviations_role]
      split <;> rfl
    have hevents : (t.telemetry.deviations id text).map (Deviation.finding id) =
        (t.telemetry.passage? text).elim [] fun body =>
          if t.telemetry.owners body = [] ∨ id ∈ t.telemetry.owners body then []
          else [⟨id, .telemetryNaming,
            (Deviation.foreignEvents t.telemetry.family id).detail⟩] := by
      rw [deviations_telemetry]
      cases t.telemetry.passage? text with
      | none => rfl
      | some body => simp only [Option.elim]; split <;> rfl
    rw [findings_eq_append, List.map_append, List.map_append, List.map_append, List.map_append,
      howner, hrole, hevents, deviations_sections, List.map_map, List.map_flatMap]
    simp only [deviations_requirement, List.map_map]
    rfl
  · intro f hf
    rw [findings_eq_append, List.mem_map] at hf
    obtain ⟨d, -, rfl⟩ := hf
    rfl

end Rules

/-! ### Which rule finds what -/

/-- The rule that finds a deviation. -/
def Deviation.rule? : Deviation → Option Rule
  | .unreadable _ => none
  | .noSection _ => some .sections
  | .noSubsection _ _ => some .subsections
  | .noOwnerLabel _ _ => some .ownership
  | .noRoleLabel _ => some .role
  | .foreignEvents _ _ => some .telemetry

theorem Rule.rule?_of_mem {t : Template} {s : Subject} {d : Deviation} : ∀ {r : Rule},
    d ∈ r.deviations t s → d.rule? = some r
  | .sections, h => by
    obtain ⟨n, -, rfl⟩ := List.mem_map.1 h
    rfl
  | .subsections, h => by
    obtain ⟨r, -, hr⟩ := List.mem_flatMap.1 h
    rw [Requirement.deviations] at hr
    split at hr
    · cases hr
    · obtain ⟨n, -, rfl⟩ := List.mem_map.1 hr
      rfl
  | .ownership, h => by
    rw [Rule.deviations, Ownership.deviations] at h
    split at h
    · cases h
    · obtain ⟨n, -, rfl⟩ := List.mem_map.1 h
      rfl
  | .role, h => by
    rw [Rule.deviations, RoleLabel.deviations] at h
    split at h
    · cases h
    · rw [List.mem_singleton.1 h]
      rfl
  | .telemetry, h => by
    rw [Rule.deviations, Telemetry.deviations] at h
    split at h
    · cases h
    · dsimp only at h
      split at h
      · cases h
      · rw [List.mem_singleton.1 h]
        rfl

theorem Template.mem_findings_iff {t : Template} {id text : Text} {x : Finding} :
    x ∈ t.findings id text ↔ ∃ r : Rule, ∃ d ∈ r.deviations t (.ofText id text), d.finding id = x := by
  rw [Template.findings, List.mem_flatMap]
  constructor
  · rintro ⟨r, -, hx⟩
    exact ⟨r, List.mem_map.1 hx⟩
  · rintro ⟨r, hx⟩
    exact ⟨r, by cases r <;> decide, List.mem_map.2 hx⟩

/-- Different sections are missed in different words. -/
theorem Deviation.noSection_injective {id n k : Text}
    (h : (noSection n).finding id = (noSection k).finding id) : n = k := by
  have hdetail : (noSection n).detail = (noSection k).detail := congrArg Finding.detail h
  exact List.append_cancel_left (List.append_cancel_right hdetail)

/-- The section rule misses what is asked for and has no heading. -/
theorem noSection_mem_sections_iff {t : Template} {text n : Text} (id : Text) :
    (Deviation.noSection n).finding id ∈ Rule.sections.findings t (.ofText id text) ↔
      n ∈ t.sections ∧ ¬ Headed text n := by
  rw [Rule.findings, deviations_sections, List.map_map, List.mem_map]
  constructor
  · rintro ⟨k, hk, hkn⟩
    rw [← Deviation.noSection_injective hkn]
    simpa using List.mem_filter.1 hk
  · intro hn
    exact ⟨n, List.mem_filter.2 (by simpa using hn), rfl⟩

/-- A missing section is complained about exactly when it is asked for and no heading names it. -/
theorem Template.noSection_mem_findings_iff {t : Template} {id text n : Text} :
    (Deviation.noSection n).finding id ∈ t.findings id text ↔ n ∈ t.sections ∧ ¬ Headed text n := by
  rw [← noSection_mem_sections_iff id]
  constructor
  · intro h
    obtain ⟨r, d, hd, hx⟩ := mem_findings_iff.1 h
    have hkind : d.kind = .missingSection := congrArg Finding.kind hx
    cases d with
    | noSection k =>
      have hr : r = .sections := (Option.some.inj (Rule.rule?_of_mem hd)).symm
      rw [hr] at hd
      rw [← hx]
      exact List.mem_map_of_mem hd
    | _ => cases hkind
  · intro h
    exact List.mem_flatMap.2 ⟨.sections, by decide, h⟩

/-! ### The standard template -/

namespace Template

theorem standard_nodup : standard.sections.Nodup := by decide +kernel

theorem standard_fields_newline : ∀ f ∈ standard.ownership.fields, '\n' ∉ f := by decide +kernel

/-- Every required title makes a heading when it is written behind the marks. -/
def Headings (t : Template) : Prop := ∀ n ∈ t.sections, Heading.title? (sectionMark n) = some n

theorem standard_headings : standard.Headings := by
  rw [Headings]
  decide +kernel

theorem standard_subsections_return : ∀ r ∈ standard.requirements, ∀ s ∈ r.subsections,
    Text.dropReturn (subsectionMark s) = subsectionMark s := by decide +kernel

end Template

end OutlineLint
