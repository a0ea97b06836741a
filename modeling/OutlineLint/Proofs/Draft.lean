import OutlineLint.Proofs.Event
import OutlineLint.Proofs.Findings
import OutlineLint.Proofs.Passage

/-! Drafts: documents written down part by part, in any order of the parts.

        preamble lines
        ## title        ┐
        body lines      ┘ one part, and so on for the others

    `Draft.Follows` says when a draft has what a template asks for, in terms of its own lines. Such
    a draft is rendered to a text without findings: the lines of the text have the headings of the
    draft and no others, so bodies and subsections are where the draft has them, and the two
    passages open at the lines meant for them, since nothing before these holds an opening. -/

namespace OutlineLint

/-- One section of a draft. -/
structure Part where
  title : Text
  body : List Text
  deriving DecidableEq, Repr

/-- A document in parts. -/
structure Draft where
  preamble : List Text
  parts : List Part
  deriving DecidableEq, Repr

/-- A part with its lines as strings. -/
def Part.ofStrings (title : String) (body : List String) : Part :=
  ⟨title.toList, body.map String.toList⟩

/-- A heading and the body. -/
def Part.lines (p : Part) : List Text := sectionMark p.title :: p.body

namespace Draft

/-- The titles of the parts, in order. -/
def titles (d : Draft) : List Text := d.parts.map Part.title

/-- All lines, part after part. -/
def lines (d : Draft) : List Text := d.preamble ++ d.parts.flatMap Part.lines

/-- The document as one text. -/
def text (d : Draft) : Text := Text.joinLines d.lines

/-- A line that begins with two marks begins with three. -/
def Plain (l : Text) : Prop := "##".toList <+: l → "###".toList <+: l

instance (l : Text) : Decidable (Plain l) :=
  inferInstanceAs (Decidable ("##".toList <+: l → "###".toList <+: l))

/-- The lines behind the first line that is the mark, up to one that begins with two marks. -/
def linesUnder (mark : Text) (d : Draft) : List Text :=
  ((d.lines.dropWhile fun l => l ≠ mark).drop 1).takeWhile fun l => ¬ "##".toList <+: l

/-- The draft has the parts of the template, in some order, and in them what the template asks for;
    the openings of the two passages stand nowhere but in lines of their own. -/
structure Follows (t : Template) (id : Text) (d : Draft) : Prop where
  titles : d.titles.Perm t.sections
  newline : ∀ l ∈ d.lines, '\n' ∉ l
  preamble : ∀ l ∈ d.preamble, Plain l
  bodies : ∀ p ∈ d.parts, ∀ l ∈ p.body, Plain l
  role : boldLabel t.role.field <:+: d.text.take t.role.window
  subsections : ∀ r ∈ t.requirements, ∀ p ∈ d.parts, p.title = r.title →
    ∀ s ∈ r.subsections, subsectionMark s ∈ p.body
  ownership : ∀ l ∈ d.lines, sectionMark t.ownership.title <:+: l →
    l = sectionMark t.ownership.title
  labels : ∀ p ∈ d.parts, p.title = t.ownership.title →
    ∀ f ∈ t.ownership.fields, boldLabel f <:+: Text.joinLines p.body
  telemetry : ∀ l ∈ d.lines, subsectionMark t.telemetry.subsection <:+: l →
    l = subsectionMark t.telemetry.subsection
  events : ∃ l ∈ d.linesUnder (subsectionMark t.telemetry.subsection),
    Event.opening t.telemetry.family ++ (id ++ ['.']) <:+: l

/-! ### Plain lines -/

theorem title?_plain {l : Text} (h : Plain l) : Heading.title? l = none := by
  by_contra hn
  obtain ⟨n, hn⟩ := Option.ne_none_iff_exists'.1 hn
  obtain ⟨b, rest, rfl, hb⟩ := Heading.mark_of_title? hn
  obtain ⟨v, hv⟩ := h ⟨b :: rest, rfl⟩
  have hmark : b = '#' := (List.cons.inj (List.cons.inj (List.cons.inj hv).2).2).1.symm
  subst hmark
  exact absurd hb (by decide)

theorem not_atSection_plain {l : Text} (h : Plain l) : Passage.atSection ('\n' :: l) = false := by
  by_cases hm : ['#', '#'] <+: l
  · obtain ⟨v, rfl⟩ := h hm
    rfl
  · exact Passage.atSection_of_not_mark hm

theorem atHeading_line (l : Text) :
    Passage.atHeading ('\n' :: l) = decide ("##".toList <+: l) := by
  rw [Bool.eq_iff_iff, Passage.atHeading_line_iff, decide_eq_true_iff]

/-! ### Lines of a draft -/

variable {d : Draft} {t : Template} {id : Text}

/-- Where a part stands among the lines. -/
theorem exists_lines_eq {p : Part} (hp : p ∈ d.parts) :
    ∃ a c, d.lines = a ++ sectionMark p.title :: (p.body ++ c) := by
  obtain ⟨ps, qs, hparts⟩ := List.append_of_mem hp
  refine ⟨d.preamble ++ ps.flatMap Part.lines, qs.flatMap Part.lines, ?_⟩
  simp [lines, Part.lines, hparts]

/-- Where the lines under a mark stand. -/
theorem exists_lines_eq_of_mem_linesUnder {mark l : Text} (hl : l ∈ d.linesUnder mark) :
    ∃ a c, d.lines = a ++ mark :: c ∧ mark ∉ a ∧
      l ∈ c.takeWhile fun k => !Passage.atHeading ('\n' :: k) := by
  rw [linesUnder] at hl
  cases hdrop : d.lines.dropWhile fun k => k ≠ mark with
  | nil => rw [hdrop] at hl; cases hl
  | cons k c =>
    have hk : k = mark := by
      have hhead := List.head?_dropWhile_not (fun k => decide (k ≠ mark)) d.lines
      rw [hdrop] at hhead
      simpa using hhead
    have hlines := List.takeWhile_append_dropWhile (p := fun k => decide (k ≠ mark)) (l := d.lines)
    rw [hdrop, hk] at hlines
    rw [hdrop, List.drop_one, List.tail_cons] at hl
    refine ⟨d.lines.takeWhile fun k => k ≠ mark, c, hlines.symm, fun hmem => ?_, ?_⟩
    · simpa using List.mem_takeWhile_imp hmem
    · simpa only [atHeading_line, decide_not] using hl

theorem filterMap_title?_parts : ∀ {ps : List Part},
    (∀ p ∈ ps, Heading.title? (sectionMark p.title) = some p.title) →
    (∀ p ∈ ps, ∀ l ∈ p.body, Plain l) →
    (ps.flatMap Part.lines).filterMap Heading.title? = ps.map Part.title
  | [], _, _ => rfl
  | p :: ps, ht, hb => by
    have hbody : p.body.filterMap Heading.title? = [] :=
      List.filterMap_eq_nil_iff.2 fun l hl => title?_plain (hb p (by simp) l hl)
    rw [List.flatMap_cons, Part.lines, List.cons_append,
      List.filterMap_cons_some (ht p (by simp)), List.filterMap_append, hbody, List.nil_append,
      filterMap_title?_parts (fun q hq => ht q (List.mem_cons_of_mem p hq))
        fun q hq => hb q (List.mem_cons_of_mem p hq), List.map_cons]

namespace Follows

theorem title?_sectionMark (h : d.Follows t id) (ht : t.Headings) :
    ∀ p ∈ d.parts, Heading.title? (sectionMark p.title) = some p.title :=
  fun _ hp => ht _ (h.titles.subset (List.mem_map_of_mem hp))

/-- A draft has the headings of its parts and no others. -/
theorem filterMap_title? (h : d.Follows t id) (ht : t.Headings) :
    d.lines.filterMap Heading.title? = d.titles := by
  have hpre : d.preamble.filterMap Heading.title? = [] :=
    List.filterMap_eq_nil_iff.2 fun l hl => title?_plain (h.preamble l hl)
  rw [lines, List.filterMap_append, hpre, List.nil_append,
    filterMap_title?_parts (h.title?_sectionMark ht) h.bodies, Draft.titles]

theorem filterMap_title?_text (h : d.Follows t id) (ht : t.Headings) :
    d.text.lines.filterMap Heading.title? = d.titles := by
  rw [text, Heading.filterMap_title?_lines h.newline, h.filterMap_title? ht]

theorem headed_iff (h : d.Follows t id) (ht : t.Headings) {n : Text} :
    Headed d.text n ↔ n ∈ d.titles := by
  rw [Headed, ← List.mem_filterMap, h.filterMap_title?_text ht]

/-! ### Rule by rule -/

theorem sections_eq_nil (h : d.Follows t id) (ht : t.Headings) :
    Rule.sections.deviations t (.ofText id d.text) = [] := by
  rw [deviations_sections, List.map_eq_nil_iff, List.filter_eq_nil_iff]
  intro n hn
  simpa using (h.headed_iff ht).2 (h.titles.mem_iff.2 hn)

/-- A subsection in the body of a part is not lacked in the text. -/
theorem not_lacks (h : d.Follows t id) (ht : t.Headings) (hd : t.sections.Nodup) {p : Part}
    (hp : p ∈ d.parts) {s : Text} (hs : subsectionMark s ∈ p.body)
    (hr : Text.dropReturn (subsectionMark s) = subsectionMark s) : ¬ Lacks d.text p.title s := by
  obtain ⟨a, c, hpart⟩ := exists_lines_eq hp
  obtain ⟨b, b', hbody⟩ := List.append_of_mem hs
  have hlines : d.lines = (a ++ sectionMark p.title :: b) ++ subsectionMark s :: (b' ++ c) := by
    rw [hpart, hbody]
    simp only [List.append_assoc, List.cons_append]
  have hn : ∀ l ∈ a ++ sectionMark p.title :: b, '\n' ∉ l := fun l hl =>
    h.newline l (hlines ▸ List.mem_append_left _ hl)
  have hns : '\n' ∉ subsectionMark s := h.newline _ (hlines ▸ by simp)
  obtain ⟨rest, hrest⟩ :=
    Text.lines_joinLines_cons hns (by simp [subsectionMark]) hr (b' ++ c)
  have htext : d.text.lines = a.map Text.dropReturn ++ Text.dropReturn (sectionMark p.title) ::
      (b.map Text.dropReturn ++ subsectionMark s :: rest) := by
    rw [text, hlines, Text.lines_joinLines_append (by simp) hn, hrest, List.map_append,
      List.map_cons, List.append_assoc, List.cons_append]
  refine not_lacks_of_lines ?_ hns htext ?_ ?_ (title?_plain (h.bodies p hp _ hs))
  · rw [h.filterMap_title?_text ht]
    exact h.titles.nodup_iff.2 hd
  · rw [Heading.title?_dropReturn, h.title?_sectionMark ht p hp]
  · intro l hl
    obtain ⟨k, hk, rfl⟩ := List.mem_map.1 hl
    rw [Heading.title?_dropReturn]
    exact title?_plain (h.bodies p hp k (hbody ▸ List.mem_append_left _ hk))

theorem requirement_eq_nil (h : d.Follows t id) (ht : t.Headings) (hd : t.sections.Nodup)
    {r : Requirement} (hr : r ∈ t.requirements)
    (hs : ∀ s ∈ r.subsections, Text.dropReturn (subsectionMark s) = subsectionMark s) :
    r.deviations (.ofText d.text) = [] := by
  rw [deviations_requirement, List.map_eq_nil_iff, List.filter_eq_nil_iff]
  intro s hs'
  rw [decide_eq_true_iff]
  intro hlacks
  -- what is lacked is lacked under a heading, and this belongs to a part
  obtain ⟨p, hp, hpr⟩ := List.mem_map.1 ((h.headed_iff ht).1 hlacks.headed)
  rw [← hpr] at hlacks
  exact h.not_lacks ht hd hp (h.subsections r hr p hp hpr s hs') (hs s hs') hlacks

theorem role_eq_nil (h : d.Follows t id) : t.role.deviations d.text = [] := by
  rw [deviations_role, if_pos h.role]

/-- A passage whose opening is a line of the draft, and stands nowhere before it, has the needles of
    the lines up to a closing one. -/
theorem exists_passage (h : d.Follows t id) {closes : Text → Bool} (hc : Passage.Closing closes)
    {opening m : Text} {a c : List Text} (hlines : d.lines = a ++ opening :: c)
    (hne : opening ≠ []) (hm : Passage.Needle m) (ha : ∀ l ∈ a, ¬ opening <:+: l)
    (hmc : ∃ l ∈ c.takeWhile fun l => !closes ('\n' :: l), m <:+: l) :
    ∃ p, Passage.locate? opening closes d.text = some p ∧ m <:+: p := by
  rw [text, hlines]
  refine Passage.exists_locate?_joinLines hc ?_ hne hm ha (fun l hl => ?_) hmc
  · exact h.newline opening (hlines ▸ List.mem_append_right a (List.mem_cons_self ..))
  · exact h.newline l (hlines ▸ List.mem_append_right a (List.mem_cons_of_mem opening hl))

/-- The first line with the ownership heading is the heading itself. -/
theorem not_infix_before_ownership (h : d.Follows t id) (ht : t.Headings) (hd : t.sections.Nodup)
    (ho : t.ownership.title ∈ t.sections) {a c : List Text}
    (hlines : d.lines = a ++ sectionMark t.ownership.title :: c) :
    ∀ l ∈ a, ¬ sectionMark t.ownership.title <:+: l := by
  intro l hl hml
  rw [h.ownership l (hlines ▸ List.mem_append_left _ hl) hml] at hl
  -- two such lines would be two headings with one title
  have hnodup := h.titles.nodup_iff.2 hd
  rw [← h.filterMap_title? ht, hlines, List.filterMap_append,
    List.filterMap_cons_some (ht _ ho)] at hnodup
  exact (List.nodup_append.1 hnodup).2.2 _ (List.mem_filterMap.2 ⟨_, hl, ht _ ho⟩) _
    (List.mem_cons_self ..) rfl

theorem ownership_eq_nil (h : d.Follows t id) (ht : t.Headings) (hd : t.sections.Nodup)
    (ho : t.ownership.title ∈ t.sections) (hf : ∀ f ∈ t.ownership.fields, '\n' ∉ f) :
    t.ownership.deviations d.text = [] := by
  obtain ⟨p, hp, hpo⟩ := List.mem_map.1 (h.titles.mem_iff.2 ho)
  obtain ⟨a, c, hlines⟩ := exists_lines_eq hp
  rw [hpo] at hlines
  have hopen : ∀ k ∈ p.body, (!Passage.atSection ('\n' :: k)) = true := fun k hk => by
    rw [not_atSection_plain (h.bodies p hp k hk)]; rfl
  rw [deviations_ownership]
  cases hpass : t.ownership.passage? d.text with
  | none => rfl
  | some b =>
    rw [Option.elim, List.map_eq_nil_iff, List.filter_eq_nil_iff]
    intro f hff
    have hneedle := Passage.needle_boldLabel (hf f hff)
    obtain ⟨l, hl, hfl⟩ := (Text.infix_joinLines_iff hneedle.newline hneedle.ne_nil).1
      (h.labels p hp hpo f hff)
    have hl' : l ∈ (p.body ++ c).takeWhile fun k => !Passage.atSection ('\n' :: k) := by
      rw [List.takeWhile_append_of_pos hopen]
      exact List.mem_append_left _ hl
    obtain ⟨b', hb', hfb⟩ := h.exists_passage Passage.closing_atSection hlines
      (by simp [sectionMark]) hneedle (h.not_infix_before_ownership ht hd ho hlines) ⟨l, hl', hfl⟩
    rw [Option.some.inj (hpass.symm.trans hb')]
    simpa using hfb

theorem telemetry_eq_nil (h : d.Follows t id)
    (hf : '\n' ∉ t.telemetry.family ∧ '\x60' ∉ t.telemetry.family) (hid : id ≠ [])
    (hchars : ∀ c ∈ id, Event.isOwnerChar c = true) : t.telemetry.deviations id d.text = [] := by
  obtain ⟨l, hl, hev⟩ := h.events
  obtain ⟨a, c, hlines, hmark, hl'⟩ := exists_lines_eq_of_mem_linesUnder hl
  have hfirst : ∀ k ∈ a, ¬ subsectionMark t.telemetry.subsection <:+: k := by
    intro k hk hmk
    rw [h.telemetry k (hlines ▸ List.mem_append_left _ hk) hmk] at hk
    exact hmark hk
  obtain ⟨b, hb, hevb⟩ := h.exists_passage Passage.closing_atHeading hlines
    (by simp [subsectionMark]) (Passage.needle_event hf.1 hchars) hfirst ⟨l, hl', hev⟩
  have hpass : t.telemetry.passage? d.text = some b := hb
  rw [deviations_telemetry, hpass, Option.elim, if_pos]
  exact Or.inr ((Event.mem_owners_iff hf.2).2 ⟨hid, hchars, hevb⟩)

end Follows

end Draft

namespace Template

/-- A draft that follows the standard template has no findings, whatever the order of its parts and
    whatever else is in them. -/
theorem findings_draft {id : Text} {d : Draft} (hid : id ≠ [])
    (hchars : ∀ c ∈ id, Event.isOwnerChar c = true) (h : d.Follows standard id) :
    standard.findings id d.text = [] := by
  have hreq : standard.requirements.flatMap (·.deviations (.ofText d.text)) = [] :=
    List.flatMap_eq_nil_iff.2 fun r hr =>
      h.requirement_eq_nil standard_headings standard_nodup hr (standard_subsections_return r hr)
  rw [findings_eq_append, h.sections_eq_nil standard_headings, hreq, h.role_eq_nil,
    h.ownership_eq_nil standard_headings standard_nodup (by decide) standard_fields_newline,
    h.telemetry_eq_nil (by decide) hid hchars]
  rfl

/-- A draft with the last sections in front. -/
def shuffled : Draft where
  preamble := ["# A", "**Role**: R"].map String.toList
  parts :=
    [.ofStrings "Change Log" ["- first"],
     .ofStrings "Ownership & Maintenance"
       ["**Owner**: O", "#### More", "**Backup Owner**: B, **Last Updated**: D",
        "**Review Frequency**: F"],
     .ofStrings "Telemetry & Monitoring"
       ["### Metrics to Monitor", "### Events to Track", "", "- `agent.a.started`",
        "### Monitoring Dashboard"],
     .ofStrings "Agent Name" [], .ofStrings "Overview" ["See `agent.b.started`."],
     .ofStrings "Responsibilities"
       ["### Primary Responsibilities", "### Secondary Responsibilities"],
     .ofStrings "Capabilities" ["### Core Capabilities", "### Technical Skills"],
     .ofStrings "Triggers & Activation" [],
     .ofStrings "Operational Guidelines"
       ["### Decision Framework", "### Quality Standards", "### Constraints"],
     .ofStrings "Safety & Security"
       ["### Safety Considerations", "### Security Requirements", "### Failure Handling"],
     .ofStrings "Integration Points" ["### Dependencies", "### Interactions with Other Agents"],
     .ofStrings "Runbooks & Documentation" ["### Runbook Links", "### Related Documentation", ""]]

theorem findings_shuffled :
    shuffled.Follows standard ['a'] ∧ standard.findings ['a'] shuffled.text = [] :=
  have h : shuffled.Follows standard ['a'] :=
    { titles := by decide +kernel
      newline := by decide +kernel
      preamble := by decide +kernel
      bodies := by decide +kernel
      role := by decide +kernel
      subsections := by decide +kernel
      ownership := by decide +kernel
      labels := by decide +kernel
      telemetry := by decide +kernel
      events := by decide +kernel }
  have hchars : ∀ c ∈ ['a'], Event.isOwnerChar c = true := fun c hc => by
    rw [List.mem_singleton.1 hc]
    decide
  ⟨h, findings_draft (by decide) hchars h⟩

end Template

end OutlineLint
