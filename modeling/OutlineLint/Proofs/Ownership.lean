import OutlineLint.Proofs.Draft

/-! The ownership section is looked for twice. The outline finds it by a heading line, whatever
    blanks are in the line and also when nothing follows it. The rule for its labels finds it by its
    mark, which is written with one space and may stand anywhere in a line, but needs a blank and
    one more character behind it.

        ## T             found by both              ##  T            by the outline alone
        ### T            by the mark alone          ## T (the end)   by the outline alone

    Where the heading is written as the mark and the mark stands nowhere else, the rule looks into
    the body that the outline has. Where the two disagree, the rule is silent about a section that
    is there, or complains about one that is missing; these are the only documents in which labels
    are lacked without a finding, or missed without a section. -/

namespace OutlineLint

/-! ### A heading that is written as the mark -/

section Spelled
open Passage
variable {text title k : Text} {before after : List Text}

/-- Where the mark stands when a heading begins with it and is not the last line. -/
theorem exists_text_eq_of_heading (hlines : text.lines = before ++ k :: after)
    (hk : Heading.title? k = some title) (hmark : sectionMark title <+: k) (hafter : after ≠ []) :
    ∃ u e s : Text, text = u ++ (sectionMark title ++ (e ++ '\n' :: s)) ∧
      (∀ c ∈ e, isBlank c = true) ∧ s.lines = after := by
  obtain ⟨u, l, s, htext, -, rfl, hs⟩ := Text.exists_eq_of_lines_eq hafter text hlines
  obtain ⟨e, rfl⟩ : sectionMark title <+: l := hmark.trans (Text.dropReturn_prefix_self l)
  rw [Heading.title?_dropReturn] at hk
  exact ⟨u, e, s, by rw [htext, List.append_assoc], Heading.blank_of_title?_mark hk, hs⟩

theorem exists_blank_cons {e s : Text} (he : ∀ c ∈ e, isBlank c = true) (hs : s ≠ []) :
    ∃ w v, e ++ '\n' :: s = w :: v ∧ isBlank w = true ∧ v ≠ [] := by
  cases e with
  | nil => exact ⟨'\n', s, rfl, by decide, hs⟩
  | cons c e => exact ⟨c, e ++ '\n' :: s, rfl, he c (by simp), by simp⟩

/-- At such a heading the mark opens a passage. -/
theorem opens_of_heading (hlines : text.lines = before ++ k :: after)
    (hk : Heading.title? k = some title) (hmark : sectionMark title <+: k) (hafter : after ≠ []) :
    Opens (sectionMark title) text := by
  obtain ⟨u, e, s, rfl, he, hs⟩ := exists_text_eq_of_heading hlines hk hmark hafter
  have hne : s ≠ [] := by
    rintro rfl
    exact hafter hs.symm
  obtain ⟨w, v, hwv, hw, hv⟩ := exists_blank_cons he hne
  exact ⟨u, w, v, by rw [hwv], hw, hv⟩

end Spelled

/-! ### A mark that stands once -/

/-- The number of places where a needle stands. -/
def Text.occurrences (needle t : Text) : Nat := t.tails.countP (needle.isPrefixOf ·)

theorem Text.occurrences_pos {needle s : Text} (h : needle <+: s) (u : Text) :
    0 < occurrences needle (u ++ s) :=
  List.countP_pos_iff.2 ⟨s, (List.mem_tails _ _).2 (List.suffix_append u s),
    List.isPrefixOf_iff_prefix.2 h⟩

/-- A mark that stands once is found where it stands. -/
theorem Passage.locate?_append {closes : Text → Bool} {opening s : Text} (hs : opening <+: s) :
    ∀ {u : Text}, Text.occurrences opening (u ++ s) = 1 →
      locate? opening closes (u ++ s) = locate? opening closes s
  | [], _ => rfl
  | c :: u, h => by
    have hpos := Text.occurrences_pos hs u
    rw [List.cons_append, Text.occurrences, List.tails_cons, List.countP_cons,
      ← Text.occurrences] at h
    have hnot : ¬ opening.isPrefixOf (c :: (u ++ s)) = true := fun hp => by
      rw [if_pos hp] at h
      omega
    rw [if_neg hnot, Nat.add_zero] at h
    rw [List.cons_append, locate?_cons, bodyAt?, if_neg hnot, Option.none_or]
    exact locate?_append hs h

/-- The headings with a title begin with its mark, and it stands nowhere else: so there is at most
    one of them. -/
structure SoleMark (text title : Text) : Prop where
  spelled : ∀ l ∈ text.lines, Heading.title? l = some title → sectionMark title <+: l
  once : Text.occurrences (sectionMark title) text = 1

namespace SoleMark
open Passage
variable {text title body : Text}

/-- What is no blank stands in one of the joined lines. -/
theorem exists_solid_line {ls : List Text} (h : ∃ c ∈ Text.joinLines ls, isBlank c = false) :
    ∃ l ∈ ls, ∃ c ∈ l, isBlank c = false := by
  obtain ⟨c, hc, hb⟩ := h
  have hn : '\n' ∉ [c] := fun hn => by
    rw [← List.mem_singleton.1 hn] at hb
    exact absurd hb (by decide)
  obtain ⟨l, hl, hcl⟩ := (Text.infix_joinLines_iff hn (by simp)).1
    ((List.singleton_infix_iff c _).2 hc)
  exact ⟨l, hl, c, (List.singleton_infix_iff c l).1 hcl, hb⟩

/-- The lines under a heading are a stretch of the text behind it. -/
theorem stretch_of_under {s : Text} {ls before body after : List Text}
    (hu : Under ls title before body after) (hplain : ∀ l ∈ body, Draft.Plain l)
    (hs : s.lines = body ++ after) : Stretch atSection s body after where
  lines := hs
  inside l hl := Draft.not_atSection_plain (hplain l hl)
  stop l hl := by
    obtain ⟨n, hn⟩ := Option.ne_none_iff_exists'.1 (hu.stop l hl)
    exact closing_atSection.heading l n hn

/-- Behind the rest of a heading the passage has the needles of the stretch. -/
theorem exists_bodyAfter?_stretch {e s : Text} {body after : List Text}
    (hst : Stretch atSection s body after) (he : ∀ c ∈ e, isBlank c = true)
    (hsolid : ∃ l ∈ body, ∃ c ∈ l, isBlank c = false) :
    ∃ b, bodyAfter? atSection (e ++ '\n' :: s) = some b ∧
      ∀ m, Needle m → m.getLast? ≠ some '\r' → (m <:+: b ↔ ∃ l ∈ body, m <:+: l) := by
  have hne : s ≠ [] := by
    rintro rfl
    obtain ⟨l, hl, -⟩ := hsolid
    exact List.ne_nil_of_mem hl (List.append_eq_nil_iff.1 hst.lines.symm).1
  obtain ⟨w, v, hwv, hw, hv⟩ := exists_blank_cons he hne
  obtain ⟨b, hb⟩ : ∃ b, bodyAfter? atSection (e ++ '\n' :: s) = some b := by
    rw [← Option.ne_none_iff_exists', hwv]
    simp [bodyAfter?_cons_eq_none_iff, hw, hv]
  refine ⟨b, hb, fun m hm hr => ?_⟩
  have hblank : ∃ c ∈ (e ++ '\n' :: s).head?, isBlank c = true := ⟨w, by rw [hwv]; rfl, hw⟩
  have hbody := exists_bodyAfter?_iff closing_atSection (t := e ++ '\n' :: s) hm
  rw [hb, dropWhile_blank_line s he, and_iff_right hblank,
    hst.infix_body_iff closing_atSection atSection_dropReturn hm hr s hsolid] at hbody
  simpa using hbody

/-- The passage at the only mark has the needles of the body under the heading. -/
theorem exists_passage (h : SoleMark text title)
    (hbody : (Outline.ofText text).body? title = some body) (hsolid : ∃ c ∈ body, isBlank c = false)
    (hplain : ∀ l ∈ Text.pieces '\n' body, Draft.Plain l) :
    ∃ b, locate? (sectionMark title) atSection text = some b ∧
      ∀ m, Needle m → m.getLast? ≠ some '\r' → (m <:+: b ↔ m <:+: body) := by
  obtain ⟨before, ls, after, hu, rfl⟩ := Outline.body?_ofText_eq_some_iff.1 hbody
  obtain ⟨k, hk, hlines⟩ := hu.lines
  have hsolid' := exists_solid_line hsolid
  have hls : ls ≠ [] := by
    obtain ⟨l, hl, -⟩ := hsolid'
    exact List.ne_nil_of_mem hl
  have hnl : ∀ l ∈ ls, '\n' ∉ l := fun l hl =>
    Text.not_mem_of_mem_lines (t := text) l (by rw [hlines]; simp [hl])
  rw [Text.pieces_joinLines hls hnl] at hplain
  -- the mark opens the heading, and the lines under the heading follow in the text
  obtain ⟨u, e, s, rfl, he, hs⟩ := exists_text_eq_of_heading hlines hk
    (h.spelled k (hlines ▸ by simp) hk) (List.append_ne_nil_of_left_ne_nil hls after)
  obtain ⟨b, hb, hneedles⟩ := exists_bodyAfter?_stretch (stretch_of_under hu hplain hs) he hsolid'
  have hat : bodyAt? (sectionMark title) atSection (sectionMark title ++ (e ++ '\n' :: s))
      = some b := by
    rw [bodyAt?, if_pos (List.isPrefixOf_iff_prefix.2 (List.prefix_append _ _)), List.drop_left, hb]
  refine ⟨b, by rw [locate?_append (List.prefix_append _ _) h.once, locate?_of_bodyAt? hat],
    fun m hm hr => ?_⟩
  rw [hneedles m hm hr, ← Text.infix_joinLines_iff hm.newline hm.ne_nil]

end SoleMark

/-! ### The two ways agree -/

/-- Different labels are asked for in different words. -/
theorem Deviation.noOwnerLabel_injective {id f g title : Text}
    (h : (noOwnerLabel f title).finding id = (noOwnerLabel g title).finding id) : f = g := by
  have hdetail : (noOwnerLabel f title).detail = (noOwnerLabel g title).detail :=
    congrArg Finding.detail h
  -- what is said in front of the label and behind it is the same
  have hfront := List.append_cancel_right (List.append_cancel_right hdetail)
  exact List.append_cancel_left hfront

/-- The labels complained about are those that a test lets through. -/
theorem noOwnerLabel_mem_map_iff {id f title : Text} {fields : List Text} {p : Text → Bool} :
    (Deviation.noOwnerLabel f title).finding id
        ∈ ((fields.filter p).map (.noOwnerLabel · title)).map (Deviation.finding id) ↔
      f ∈ fields ∧ p f = true := by
  constructor
  · intro hmem
    obtain ⟨d, hd, hdf⟩ := List.mem_map.1 hmem
    obtain ⟨g, hg, rfl⟩ := List.mem_map.1 hd
    rw [← Deviation.noOwnerLabel_injective hdf]
    exact List.mem_filter.1 hg
  · intro hf
    exact List.mem_map_of_mem (List.mem_map_of_mem (List.mem_filter.2 hf))

/-- Where the heading of the ownership section is the only place of its mark and the section holds
    more than blanks, and no line but deeper headings begins with two marks in it, a label is
    complained about exactly when the body in the outline lacks it. -/
theorem mem_ownership_findings_iff {t : Template} {id text body : Text}
    (hfields : ∀ f ∈ t.ownership.fields, '\n' ∉ f) (hsole : SoleMark text t.ownership.title)
    (hbody : (Outline.ofText text).body? t.ownership.title = some body)
    (hsolid : ∃ c ∈ body, isBlank c = false)
    (hplain : ∀ l ∈ Text.pieces '\n' body, Draft.Plain l) :
    ∀ f ∈ t.ownership.fields,
      ((Deviation.noOwnerLabel f t.ownership.title).finding id
          ∈ Rule.ownership.findings t (.ofText id text) ↔ ¬ boldLabel f <:+: body) := by
  intro f hf
  obtain ⟨b, hb, hneedles⟩ := hsole.exists_passage hbody hsolid hplain
  have hlabel : boldLabel f <:+: b ↔ boldLabel f <:+: body :=
    hneedles _ (Passage.needle_boldLabel (hfields f hf)) (needle_boldLabel_return f)
  have hfindings : Rule.ownership.findings t (.ofText id text) =
      ((t.ownership.fields.filter fun f => ¬ boldLabel f <:+: b).map
        (.noOwnerLabel · t.ownership.title)).map (Deviation.finding id) := by
    have hpass : t.ownership.passage? text = some b := hb
    rw [Rule.findings, Rule.deviations, Subject.ofText, deviations_ownership, hpass, Option.elim]
  rw [hfindings, ← hlabel]
  constructor
  · intro hmem
    obtain ⟨d, hd, hdf⟩ := List.mem_map.1 hmem
    obtain ⟨g, hg, rfl⟩ := List.mem_map.1 hd
    rw [← Deviation.noOwnerLabel_injective hdf]
    simpa using (List.mem_filter.1 hg).2
  · intro hn
    refine List.mem_map_of_mem (List.mem_map_of_mem (List.mem_filter.2 ⟨hf, ?_⟩))
    simpa using hn

/-- An ownership section with carriage returns, a deeper heading and a blank line. -/
def returns : Text :=
  "A\r\n## Ownership & Maintenance \r\n\r\n### B\r\n**Owner**: O\r\n##\tC\n**Last Updated**: D".toList

theorem mem_ownership_findings_returns :
    SoleMark returns Template.standard.ownership.title ∧
    ∀ f ∈ Template.standard.ownership.fields,
      ((Deviation.noOwnerLabel f Template.standard.ownership.title).finding ['a']
          ∈ Rule.ownership.findings .standard (.ofText ['a'] returns) ↔
        ¬ boldLabel f <:+: "\n### B\n**Owner**: O".toList) :=
  have hsole : SoleMark returns Template.standard.ownership.title :=
    { spelled := by decide +kernel
      once := by decide +kernel }
  ⟨hsole, mem_ownership_findings_iff Template.standard_fields_newline hsole (by decide +kernel)
    ⟨'#', by decide, by decide⟩ (by decide +kernel)⟩

/-! ### The two ways disagree -/

namespace Template
variable {id text : Text}

/-- The role label is asked for in other words than the labels of an owner. -/
theorem role_detail_ne (f : Text) : (Deviation.noRoleLabel standard.role.field).detail ≠
    (Deviation.noOwnerLabel f standard.ownership.title).detail := by
  intro h
  have hsuffix : standard.ownership.title <:+ (Deviation.noRoleLabel standard.role.field).detail :=
    h ▸ List.suffix_append _ _
  exact absurd hsuffix (by decide +kernel)

/-- The ownership rule alone complains about the labels of an owner. -/
theorem noOwnerLabel_mem_findings {f : Text}
    (h : (Deviation.noOwnerLabel f standard.ownership.title).finding id
      ∈ standard.findings id text) : standard.ownership.deviations text ≠ [] := by
  obtain ⟨r, d, hd, hx⟩ := mem_findings_iff.1 h
  have hkind : d.kind = .missingField := congrArg Finding.kind hx
  have hdetail : d.detail = (Deviation.noOwnerLabel f standard.ownership.title).detail :=
    congrArg Finding.detail hx
  have hr := Rule.rule?_of_mem hd
  cases d with
  | noOwnerLabel g title =>
    rw [← Option.some.inj hr] at hd
    exact List.ne_nil_of_mem hd
  | noRoleLabel g =>
    rw [← Option.some.inj hr, Rule.deviations, deviations_role] at hd
    split at hd
    · cases hd
    · rw [Deviation.noRoleLabel.inj (List.mem_singleton.1 hd)] at hdetail
      exact absurd hdetail (role_detail_ne f)
  | _ => cases hkind

theorem Ownership.deviations_eq_nil {o : Ownership} (h : ¬ Passage.Opens (sectionMark o.title) text) :
    o.deviations text = [] := by
  have hpass : o.passage? text = none := Passage.locate?_eq_none_iff.2 h
  rw [deviations_ownership, hpass, Option.elim]

/-- A passage that is opened has every label when nothing is found. -/
theorem owners_of_opens (h : standard.findings id text = [])
    (hopen : Passage.Opens (sectionMark standard.ownership.title) text) :
    ∀ f ∈ standard.ownership.fields, boldLabel f <:+: text := by
  intro f hf
  obtain ⟨b, hpass⟩ : ∃ b, standard.ownership.passage? text = some b := by
    rw [← Option.ne_none_iff_exists', Ownership.passage?, Ne, Passage.locate?_eq_none_iff]
    exact not_not_intro hopen
  rw [findings_eq_append, List.map_eq_nil_iff] at h
  simp only [List.append_eq_nil_iff] at h
  obtain ⟨⟨⟨-, howner⟩, -⟩, -⟩ := h
  rw [deviations_ownership, hpass, Option.elim, List.map_eq_nil_iff,
    List.filter_eq_nil_iff] at howner
  have hfb : boldLabel f <:+: b := by simpa using howner f hf
  exact hfb.trans (Passage.infix_of_locate? hpass)

/-- In a document without findings the labels are there when some heading of the ownership section
    is written as the mark and is not the last line. -/
theorem owners_of_heading {before after : List Text} {k : Text}
    (h : standard.findings id text = []) (hlines : text.lines = before ++ k :: after)
    (hk : Heading.title? k = some standard.ownership.title)
    (hmark : sectionMark standard.ownership.title <+: k) (hafter : after ≠ []) :
    ∀ f ∈ standard.ownership.fields, boldLabel f <:+: text :=
  owners_of_opens h (opens_of_heading hlines hk hmark hafter)

/-- The draft `shuffled` with other lines in the place of its ownership section. -/
def ownedBy (ls : List String) : Text :=
  Text.joinLines (({ shuffled with
    parts := shuffled.parts.filter (·.title ≠ standard.ownership.title) } : Draft).lines
      ++ ls.map String.toList)

/-- A document without findings has every label of an owner, unless its ownership heading stands
    where the mark opens no passage. -/
theorem owners_of_findings_eq_nil (h : standard.findings id text = []) :
    (∀ f ∈ standard.ownership.fields, boldLabel f <:+: text) ∨
      Headed text standard.ownership.title ∧
        ¬ Passage.Opens (sectionMark standard.ownership.title) text := by
  by_cases hopen : Passage.Opens (sectionMark standard.ownership.title) text
  · exact Or.inl (owners_of_opens h hopen)
  · refine Or.inr ⟨?_, hopen⟩
    by_contra hh
    have hmem : (Deviation.noSection standard.ownership.title).finding id
        ∈ standard.findings id text := noSection_mem_findings_iff.2 ⟨by decide, hh⟩
    rw [h] at hmem
    cases hmem

/-- Its ownership section is complete. -/
def signed : Text := ownedBy ["## Ownership & Maintenance", "**Owner**: O", "#### More",
  "**Backup Owner**: B, **Last Updated**: D", "**Review Frequency**: F"]

theorem owners_of_signed : standard.findings ['a'] signed = [] ∧
    ((∀ f ∈ standard.ownership.fields, boldLabel f <:+: signed) ∨
      Headed signed standard.ownership.title ∧
        ¬ Passage.Opens (sectionMark standard.ownership.title) signed) :=
  have h : standard.findings ['a'] signed = [] := by decide +kernel
  ⟨h, owners_of_findings_eq_nil h⟩

/-- Its ownership heading has a tab behind the marks, and its ownership section lacks a label. -/
def tabbed : Text := ownedBy ["##\tOwnership & Maintenance",
  "**Backup Owner**: B, **Last Updated**: D", "**Review Frequency**: F"]

/-- A heading with a tab is a heading, but not the mark: the section is there, and its labels are not
    asked for. -/
theorem clean_without_owner : standard.findings ['a'] tabbed = [] ∧
    ¬ boldLabel "Owner".toList <:+: tabbed := by
  decide +kernel

/-- When the ownership section is missing, no label of an owner is asked for, unless its mark opens
    a passage where it is no heading. -/
theorem owners_of_missing
    (h : (Deviation.noSection standard.ownership.title).finding id ∈ standard.findings id text) :
    (∀ f, (Deviation.noOwnerLabel f standard.ownership.title).finding id
        ∉ standard.findings id text) ∨
      ¬ Headed text standard.ownership.title ∧
        Passage.Opens (sectionMark standard.ownership.title) text := by
  by_cases hopen : Passage.Opens (sectionMark standard.ownership.title) text
  · exact Or.inr ⟨(noSection_mem_findings_iff.1 h).2, hopen⟩
  · exact Or.inl fun f hf => noOwnerLabel_mem_findings hf (Ownership.deviations_eq_nil hopen)

theorem owners_of_untitled :
    (Deviation.noSection standard.ownership.title).finding ['a']
        ∈ standard.findings ['a'] "## Owners\n- B".toList ∧
    ((∀ f, (Deviation.noOwnerLabel f standard.ownership.title).finding ['a']
          ∉ standard.findings ['a'] "## Owners\n- B".toList) ∨
      ¬ Headed "## Owners\n- B".toList standard.ownership.title ∧
        Passage.Opens (sectionMark standard.ownership.title) "## Owners\n- B".toList) :=
  have h : (Deviation.noSection standard.ownership.title).finding ['a']
      ∈ standard.findings ['a'] "## Owners\n- B".toList :=
    noSection_mem_findings_iff.2 ⟨by decide, by decide +kernel⟩
  ⟨h, owners_of_missing h⟩

/-- Its only mention of the ownership section is a deeper heading. -/
def deeper : Text := ownedBy ["### Ownership & Maintenance", "- nobody yet"]

/-- The mark is a part of a deeper heading: the section is missing, and yet its labels are asked
    for. -/
theorem owner_of_deeper :
    (Deviation.noSection standard.ownership.title).finding ['a'] ∈ standard.findings ['a'] deeper ∧
      (Deviation.noOwnerLabel "Owner".toList standard.ownership.title).finding ['a']
        ∈ standard.findings ['a'] deeper := by
  decide +kernel

end Template

end OutlineLint
