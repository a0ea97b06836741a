import Mathlib.Data.List.Flatten
import OutlineLint.Proofs.Event
import OutlineLint.Proofs.Findings
import OutlineLint.Proofs.Passage

/-! Documents without a heading. Taking the lines that are headings with one title out of a text
    joins their bodies to the sections before them. So every other section keeps its place and
    keeps its body as a beginning, and no subsection that stood in it goes missing; a passage keeps
    its labels, even where it began at such a heading; and what stands near the top moves up.

        text            without ## B
        ## A            ## A
        a               a
        ## B      ──▶   b
        b               ## C
        ## C

    What a passage keeps is told by needles (`Passage.Needle`) that are no part of the lines taken
    out. The comparison of the two texts goes line by line, and inside a line that stays, place by
    place. -/

namespace OutlineLint

/-- A text without the lines that are headings with the title. -/
def Text.withoutHeading (title : Text) : Text → Text :=
  dropLines fun l => Heading.title? l = some title

namespace Removal
open Passage

variable {X : Text}

/-- No heading with the title has the text as a part. -/
def Apart (X m : Text) : Prop := ∀ l, Heading.title? l = some X → ¬ m <:+: l

/-- A character that is neither a mark nor a blank nor in the title keeps a text apart. -/
theorem apart_of_mem {m : Text} {c : Char} (hm : c ∈ m) (hmark : c ≠ '#')
    (hblank : isBlank c = false) (hX : c ∉ X) : Apart X m :=
  fun _ hl => Heading.not_infix_of_title? hl ⟨c, hm, hmark, hblank, hX⟩

/-- Whether some character of a text is neither a mark nor a blank nor in the title. -/
def differs (X m : Text) : Bool := m.any fun c => c != '#' && !isBlank c && !X.contains c

theorem apart_of_differs {m : Text} (h : differs X m = true) : Apart X m := by
  obtain ⟨c, hm, hc⟩ := List.any_eq_true.1 h
  simp only [Bool.and_eq_true, bne_iff_ne, Bool.not_eq_true', List.contains_eq_mem,
    decide_eq_false_iff_not] at hc
  exact apart_of_mem hm hc.1.1 hc.1.2 hc.2

/-! ### Line by line -/

theorem withoutHeading_of_not_mem {l : Text} (hl : '\n' ∉ l) :
    Text.withoutHeading X l = if Heading.title? l = some X then [] else l := by
  rw [Text.withoutHeading, Text.dropLines_of_not_mem _ hl]
  simp only [decide_eq_true_eq]

theorem withoutHeading_line {l : Text} (t : Text) (hl : '\n' ∉ l) :
    Text.withoutHeading X (l ++ '\n' :: t) = if Heading.title? l = some X
      then Text.withoutHeading X t else l ++ '\n' :: Text.withoutHeading X t := by
  rw [Text.withoutHeading, Text.dropLines_line _ t hl]
  simp only [decide_eq_true_eq, Heading.title?_dropReturn]

theorem lines_withoutHeading (t : Text) : (Text.withoutHeading X t).lines =
    t.lines.filter fun l => Heading.title? l ≠ some X := by
  rw [Text.withoutHeading, Text.lines_dropLines]
  simp only [decide_not]

/-! ### Near the top -/

/-- What stands within the first characters still does, unless it was taken out. -/
theorem infix_take_withoutHeading {m : Text} (hm : '\n' ∉ m) (hX : Apart X m) (t : Text) :
    ∀ {n : Nat}, m <:+: t.take n → m <:+: (Text.withoutHeading X t).take n := by
  induction t using Text.lineRec with
  | last l hl =>
    intro n h
    rw [withoutHeading_of_not_mem hl]
    split
    · rename_i hn
      exact absurd (h.trans (List.take_prefix n l).isInfix) (hX l hn)
    · exact h
  | line l t hl ih =>
    intro n h
    have hsplit : ∀ s : Text, (l ++ '\n' :: s).take n =
        l.take n ++ ('\n' :: s).take (n - l.length) := fun s => List.take_append
    rw [withoutHeading_line t hl]
    cases hk : n - l.length with
    | zero =>
      rw [hsplit t, hk, List.take_zero, List.append_nil] at h
      split
      · rename_i hn
        exact absurd (h.trans (List.take_prefix n l).isInfix) (hX l hn)
      · rwa [hsplit, hk, List.take_zero, List.append_nil]
    | succ k =>
      rw [hsplit t, hk, List.take_succ_cons, Text.infix_line_iff _ hm] at h
      split
      · rename_i hn
        rcases h with h | h
        · exact absurd (h.trans (List.take_prefix n l).isInfix) (hX l hn)
        · exact (ih h).trans (List.take_prefix_take_left (by omega)).isInfix
      · rw [hsplit, hk, List.take_succ_cons, Text.infix_line_iff _ hm]
        exact h.imp_right fun h => ih h

/-! ### Bodies of passages -/

variable {closes : Text → Bool} {m : Text}

/-- A line that does not close is not taken out. -/
theorem not_closes_withoutHeading (hc : Closing closes) {t : Text}
    (h : closes ('\n' :: t) = false) : closes ('\n' :: Text.withoutHeading X t) = false := by
  induction t using Text.lineRec with
  | last l hl =>
    rw [withoutHeading_of_not_mem hl, if_neg fun hn => ?_]
    · exact h
    · rw [hc.heading l X hn] at h; cases h
  | line l t hl _ =>
    rw [hc.line l t hl] at h
    rw [withoutHeading_line t hl, if_neg fun hn => ?_]
    · rw [hc.line l _ hl]; exact h
    · rw [hc.heading l X hn] at h; cases h

/-- A needle in a body stays in it. -/
theorem infix_upTo_withoutHeading (hc : Closing closes) (hm : Needle m) (hX : Apart X m)
    (t : Text) : m <:+: upTo closes t → m <:+: upTo closes (Text.withoutHeading X t) := by
  induction t using Text.lineRec with
  | last l hl =>
    intro h
    rw [withoutHeading_of_not_mem hl]
    split
    · rename_i hn
      rw [upTo_of_not_mem hc hl] at h
      exact absurd h (hX l hn)
    · exact h
  | line l t hl ih =>
    intro h
    rw [infix_upTo_line hc t hm hl] at h
    rw [withoutHeading_line t hl]
    split
    · rename_i hn
      rcases h with h | ⟨-, h⟩
      · exact absurd h (hX l hn)
      · exact ih h
    · rw [infix_upTo_line hc _ hm hl]
      exact h.imp_right fun ⟨hnc, h⟩ => ⟨not_closes_withoutHeading hc hnc, ih h⟩

/-- The blanks in front of a body, and then the body, in a text whose first line stays. -/
theorem infix_body_line (hc : Closing closes) (hm : Needle m) (hX : Apart X m) {l t : Text}
    (hl : '\n' ∉ l) (ih : m <:+: upTo closes (t.dropWhile isBlank) →
      m <:+: upTo closes ((Text.withoutHeading X t).dropWhile isBlank))
    (h : m <:+: upTo closes ((l ++ '\n' :: t).dropWhile isBlank)) :
    m <:+: upTo closes ((l ++ '\n' :: Text.withoutHeading X t).dropWhile isBlank) := by
  by_cases hall : ∀ c ∈ l, isBlank c = true
  · rw [dropWhile_blank_line _ hall] at h ⊢
    exact ih h
  · rw [Text.dropWhile_append_of_solid _ hall,
      infix_upTo_line hc _ hm (not_mem_dropWhile_blank hl)] at h ⊢
    exact h.imp_right fun ⟨hnc, h⟩ =>
      ⟨not_closes_withoutHeading hc hnc, infix_upTo_withoutHeading hc hm hX t h⟩

/-- A needle in a body stays in it when the body begins behind blanks, also where these end at a
    heading that is taken out. -/
theorem infix_body_withoutHeading (hc : Closing closes) (hm : Needle m) (hX : Apart X m)
    (t : Text) : m <:+: upTo closes (t.dropWhile isBlank) →
      m <:+: upTo closes ((Text.withoutHeading X t).dropWhile isBlank) := by
  induction t using Text.lineRec with
  | last l hl =>
    intro h
    rw [withoutHeading_of_not_mem hl]
    split
    · rename_i hn
      rw [upTo_of_not_mem hc (not_mem_dropWhile_blank hl)] at h
      exact absurd ((infix_dropWhile_blank hm l).1 h) (hX l hn)
    · exact h
  | line l t hl ih =>
    intro h
    rw [withoutHeading_line t hl]
    split
    · rename_i hn
      rw [Text.dropWhile_append_of_solid _ (Heading.not_blank_of_title? hn),
        infix_upTo_line hc t hm (not_mem_dropWhile_blank hl), infix_dropWhile_blank hm] at h
      rcases h with h | ⟨-, h⟩
      · exact absurd h (hX l hn)
      · exact infix_upTo_dropWhile_blank hm (infix_upTo_withoutHeading hc hm hX t h)
    · exact infix_body_line hc hm hX hl ih h

/-! ### Whole passages -/

/-- A search that found nothing finds nothing, and one that found a body finds one with the needles
    of the first that are apart from the title. -/
def Survives (X : Text) (found found' : Option Text) : Prop :=
  (found = none → found' = none) ∧
    ∀ m, Needle m → Apart X m → (∃ b ∈ found, m <:+: b) → ∃ b ∈ found', m <:+: b

theorem Survives.refl (r : Option Text) : Survives X r r := ⟨id, fun _ _ _ h => h⟩

theorem Survives.infix_of_some {b b' m : Text} (h : Survives X (some b) (some b')) (hm : Needle m)
    (hX : Apart X m) (hmb : m <:+: b) : m <:+: b' := by
  obtain ⟨c, hc, hmc⟩ := h.2 m hm hX ⟨b, rfl, hmb⟩
  rwa [Option.some.inj hc]

/-- The first of two searches that finds something. -/
theorem Survives.or {r r' q q' : Option Text} (hr : Survives X r r') (hq : Survives X q q') :
    Survives X (r.or q) (r'.or q') := by
  cases r with
  | none => rw [hr.1 rfl, Option.none_or, Option.none_or]; exact hq
  | some b =>
    refine ⟨fun h => absurd h (Option.some_ne_none b), fun m hm hX h => ?_⟩
    obtain ⟨b', hb', hmb⟩ := hr.2 m hm hX h
    exact ⟨b', by rw [hb', Option.some_or]; rfl, hmb⟩

/-- The first line behind an opening stays: the opening is in no heading that is taken out. -/
theorem survives_bodyAfter? (hc : Closing closes) {l : Text} (t : Text) (hl : '\n' ∉ l) :
    Survives X (bodyAfter? closes (l ++ '\n' :: t))
      (bodyAfter? closes (l ++ '\n' :: Text.withoutHeading X t)) := by
  constructor
  · intro h
    cases l with
    | nil =>
      rw [List.nil_append, bodyAfter?_cons_eq_none_iff] at h ⊢
      rcases h with h | rfl
      · exact Or.inl h
      · exact Or.inr rfl
    | cons c l =>
      rw [List.cons_append, bodyAfter?_cons_eq_none_iff] at h ⊢
      exact h.imp_right fun h => absurd h (by simp)
  · intro m hm hX h
    obtain ⟨hblank, h⟩ := (exists_bodyAfter?_iff hc hm).1 h
    refine (exists_bodyAfter?_iff hc hm).2 ⟨?_, ?_⟩
    · cases l <;> exact hblank
    · exact infix_body_line hc hm hX hl (infix_body_withoutHeading hc hm hX t) h

theorem survives_bodyAt? (hc : Closing closes) {opening l : Text} (t : Text) (ho : '\n' ∉ opening)
    (hl : '\n' ∉ l) : Survives X (bodyAt? opening closes (l ++ '\n' :: t))
      (bodyAt? opening closes (l ++ '\n' :: Text.withoutHeading X t)) := by
  rw [bodyAt?_line l t ho, bodyAt?_line l _ ho]
  split
  · exact survives_bodyAfter? hc t fun hn => hl ((List.drop_suffix _ l).subset hn)
  · exact Survives.refl none

/-- Place by place along a line that stays. -/
theorem survives_locate?_line (hc : Closing closes) {opening t : Text} (ho : '\n' ∉ opening)
    (ih : Survives X (locate? opening closes t)
      (locate? opening closes (Text.withoutHeading X t))) : ∀ {l : Text}, '\n' ∉ l →
    Survives X (locate? opening closes (l ++ '\n' :: t))
      (locate? opening closes (l ++ '\n' :: Text.withoutHeading X t))
  | [], hl => by
    rw [List.nil_append, List.nil_append, locate?_cons, locate?_cons]
    exact (survives_bodyAt? hc t ho hl).or ih
  | c :: l, hl => by
    rw [List.cons_append, List.cons_append, locate?_cons, locate?_cons]
    refine (survives_bodyAt? hc t ho hl).or (survives_locate?_line hc ho ih fun hn => ?_)
    exact hl (List.mem_cons_of_mem c hn)

/-- A passage whose opening is apart from the title keeps its needles, and where there was none
    comes none. -/
theorem survives_locate? (hc : Closing closes) {opening : Text} (ho : '\n' ∉ opening)
    (hne : opening ≠ []) (hX : Apart X opening) (t : Text) :
    Survives X (locate? opening closes t)
      (locate? opening closes (Text.withoutHeading X t)) := by
  induction t using Text.lineRec with
  | last l hl =>
    rw [withoutHeading_of_not_mem hl]
    split
    · rename_i hn
      rw [locate?_eq_none (hX l hn)]
      exact Survives.refl none
    · exact Survives.refl _
  | line l t hl ih =>
    rw [withoutHeading_line t hl]
    split
    · rename_i hn
      rw [locate?_skip_line t ho hne (hX l hn)]
      exact ih
    · exact survives_locate?_line hc ho ih hl

/-! ### Sections and their bodies -/

/-- The other titles stay, in the same order. -/
theorem titles_withoutHeading (t : Text) : (Outline.ofText (Text.withoutHeading X t)).titles =
    (Outline.ofText t).titles.filter (· ≠ X) := by
  rw [Outline.titles_ofText, Outline.titles_ofText, lines_withoutHeading, List.filterMap_filter,
    ← Outline.eraseDups_filter, List.filter_filterMap]
  refine congrArg _ (List.filterMap_congr fun l _ => ?_)
  cases Heading.title? l <;> simp [Option.filter]

theorem headed_withoutHeading {t n : Text} :
    Headed (Text.withoutHeading X t) n ↔ Headed t n ∧ n ≠ X := by
  rw [Headed, ← Outline.mem_titles_ofText, titles_withoutHeading, List.mem_filter,
    Outline.mem_titles_ofText, decide_eq_true_iff, Headed]

/-- A body stands where it stood, and may run on. -/
theorem under_filter {ls : List Text} {n : Text} {before body after : List Text} (hn : n ≠ X)
    (h : Under ls n before body after) : ∃ before' body' after',
      Under (ls.filter fun l => Heading.title? l ≠ some X) n before' (body ++ body') after' := by
  obtain ⟨⟨l, hl, rfl⟩, hplain, -, hlast⟩ := h
  have hkeep : decide (Heading.title? l ≠ some X) = true := by simpa [hl] using hn
  have hbody : (body.filter fun l => Heading.title? l ≠ some X) = body :=
    List.filter_eq_self.2 fun x hx => by rw [hplain x hx]; simp
  rw [List.filter_append, List.filter_cons, if_pos hkeep, List.filter_append, hbody]
  exact ⟨_, _, _, Under.of_rest hl hplain fun x hx => hlast x (List.mem_filter.1 hx).1⟩

/-- A section that is left has its old body at the beginning of the new one. -/
theorem exists_body_of_withoutHeading {t n b' : Text}
    (h : (Outline.ofText (Text.withoutHeading X t)).body? n = some b') :
    ∃ b, (Outline.ofText t).body? n = some b ∧ b <+: b' := by
  obtain ⟨_, _, _, hu, -⟩ := Outline.body?_ofText_eq_some_iff.1 h
  obtain ⟨hhead, hX⟩ := headed_withoutHeading.1 hu.headed
  obtain ⟨before, body, after, hu⟩ := Under.exists_of_title hhead
  obtain ⟨pre, more, rest, hu'⟩ := under_filter hX hu
  rw [← lines_withoutHeading] at hu'
  have hbody : b' = Text.joinLines (body ++ more) :=
    Option.some.inj (h.symm.trans (Outline.body?_ofText hu'))
  exact ⟨_, Outline.body?_ofText hu, hbody ▸ Text.prefix_joinLines_append body more⟩

/-- No subsection goes missing. -/
theorem lacks_of_withoutHeading {t n s : Text} (h : Lacks (Text.withoutHeading X t) n s) :
    Lacks t n s := by
  obtain ⟨b', hb', hs⟩ := lacks_iff.1 h
  obtain ⟨b, hb, hprefix⟩ := exists_body_of_withoutHeading hb'
  exact lacks_iff.2 ⟨b, hb, fun hsb => hs (hsb.trans hprefix.isInfix)⟩

/-! ### Rule by rule -/

variable {text : Text}

/-- What was missed is missed, and so is every entry with the title taken out. -/
theorem deviations_sections_withoutHeading (t : Template) (id : Text) :
    Rule.sections.deviations t (.ofText id (Text.withoutHeading X text)) =
      (t.sections.filter fun n => ¬ Headed text n ∨ n = X).map .noSection := by
  rw [deviations_sections]
  refine congrArg _ (List.filter_congr fun n _ => ?_)
  rw [decide_eq_decide, headed_withoutHeading, not_and_or, not_not]

/-- Of names that differ and all head a section, only the one taken out is missed. -/
theorem sections_withoutHeading {t : Template} {id : Text} (hX : X ∈ t.sections)
    (hd : t.sections.Nodup) (h : Rule.sections.deviations t (.ofText id text) = []) :
    Rule.sections.deviations t (.ofText id (Text.withoutHeading X text)) = [.noSection X] := by
  rw [deviations_sections, List.map_eq_nil_iff, List.filter_eq_nil_iff] at h
  have hmiss : ∀ n ∈ t.sections, decide (¬ Headed text n ∨ n = X) = (n == X) := by
    intro n hn
    have hhead : Headed text n := by simpa using h n hn
    rw [Bool.eq_iff_iff, beq_iff_eq]
    simp [hhead]
  rw [deviations_sections_withoutHeading, List.filter_congr hmiss, List.filter_beq,
    hd.count, if_pos hX]
  rfl

/-- No section lacks more than it did. -/
theorem requirement_withoutHeading_sublist (r : Requirement) :
    (r.deviations (.ofText (Text.withoutHeading X text))).Sublist
      (r.deviations (.ofText text)) := by
  rw [deviations_requirement, deviations_requirement]
  refine (List.monotone_filter_right _ fun s hs => ?_).map _
  simpa using lacks_of_withoutHeading (by simpa using hs)

theorem requirement_withoutHeading {r : Requirement} (h : r.deviations (.ofText text) = []) :
    r.deviations (.ofText (Text.withoutHeading X text)) = [] :=
  List.sublist_nil.1 (h ▸ requirement_withoutHeading_sublist r)

/-- Nothing is asked of the section taken out. -/
theorem noSubsection_not_mem_withoutHeading (t : Template) (id s : Text) : .noSubsection X s ∉
    Rule.subsections.deviations t (.ofText id (Text.withoutHeading X text)) := by
  intro h
  obtain ⟨r, -, hr⟩ := List.mem_flatMap.1 h
  rw [Subject.ofText, deviations_requirement] at hr
  obtain ⟨s', hs', heq⟩ := List.mem_map.1 hr
  have hlacks : Lacks (Text.withoutHeading X text) r.title s' := by
    simpa using (List.mem_filter.1 hs').2
  exact (headed_withoutHeading.1 hlacks.headed).2 (Deviation.noSubsection.inj heq).1

theorem role_withoutHeading {r : RoleLabel} (hr : '\n' ∉ boldLabel r.field)
    (hX : Apart X (boldLabel r.field)) (h : r.deviations text = []) :
    r.deviations (Text.withoutHeading X text) = [] := by
  rw [deviations_role] at h ⊢
  rw [if_pos]
  refine infix_take_withoutHeading hr hX text ?_
  by_contra hn
  rw [if_neg hn] at h
  cases h

theorem ownership_withoutHeading {o : Ownership} (ho : '\n' ∉ sectionMark o.title)
    (hX : Apart X (sectionMark o.title)) (hf : ∀ f ∈ o.fields, '\n' ∉ f ∧ Apart X (boldLabel f))
    (h : o.deviations text = []) : o.deviations (Text.withoutHeading X text) = [] := by
  have hs : Survives X (o.passage? text) (o.passage? (Text.withoutHeading X text)) :=
    survives_locate? closing_atSection ho (by simp [sectionMark]) hX text
  rw [deviations_ownership] at h ⊢
  cases hp' : o.passage? (Text.withoutHeading X text) with
  | none => rfl
  | some b' =>
    cases hp : o.passage? text with
    | none => rw [hs.1 hp] at hp'; cases hp'
    | some b =>
      rw [hp, hp'] at hs
      rw [hp, Option.elim, List.map_eq_nil_iff, List.filter_eq_nil_iff] at h
      rw [Option.elim, List.map_eq_nil_iff, List.filter_eq_nil_iff]
      intro f hff
      obtain ⟨hn, hXf⟩ := hf f hff
      have hb : boldLabel f <:+: b := by simpa using h f hff
      simpa using hs.infix_of_some (needle_boldLabel hn) hXf hb

theorem telemetry_withoutHeading {m : Telemetry} {id : Text}
    (hm : '\n' ∉ subsectionMark m.subsection) (hX : Apart X (subsectionMark m.subsection))
    (hf : '\n' ∉ m.family ∧ '\x60' ∉ m.family)
    (hX' : '\x60' ∉ X) (h : m.deviations id text = []) :
    m.deviations id (Text.withoutHeading X text) = [] ∨
      m.deviations id (Text.withoutHeading X text) = [.foreignEvents m.family id] ∧
        ∃ e, m.passage? text = some e ∧ m.owners e = [] := by
  have hs : Survives X (m.passage? text) (m.passage? (Text.withoutHeading X text)) :=
    survives_locate? closing_atHeading hm (by simp [subsectionMark]) hX text
  rw [deviations_telemetry] at h ⊢
  cases hp' : m.passage? (Text.withoutHeading X text) with
  | none => exact Or.inl rfl
  | some b' =>
    cases hp : m.passage? text with
    | none => rw [hs.1 hp] at hp'; cases hp'
    | some b =>
      rw [hp, hp'] at hs
      rw [hp, Option.elim] at h
      rw [Option.elim]
      have hb : m.owners b = [] ∨ id ∈ m.owners b := by
        by_contra hn
        rw [if_neg hn] at h
        cases h
      rcases hb with hb | hb
      · split
        · exact Or.inl rfl
        · exact Or.inr ⟨rfl, b, rfl, hb⟩
      · -- an event of the document is a needle
        obtain ⟨hne, hchars, hev⟩ := (Event.mem_owners_iff hf.2).1 hb
        have hmem : '\x60' ∈ Event.opening m.family ++ (id ++ ['.']) := by simp [Event.opening]
        have hevb' := hs.infix_of_some (needle_event hf.1 hchars)
          (apart_of_mem hmem (by decide) (by decide) hX') hev
        refine Or.inl (if_pos (Or.inr ?_))
        exact (Event.mem_owners_iff hf.2).2 ⟨hne, hchars, hevb'⟩

end Removal

namespace Template
open Removal

/-- Taking out the headings with a title takes the title out of the outline. The other sections keep
    their order and begin with what they had. The section rule misses, besides what it missed, the
    entries with the title; the rule for subsections asks nothing of the section taken out, and of
    the others no more than it did. -/
theorem findings_withoutHeading_monotone (t : Template) (id text X : Text) :
    (Outline.ofText (Text.withoutHeading X text)).titles =
      (Outline.ofText text).titles.filter (· ≠ X) ∧
    (∀ s ∈ (Outline.ofText (Text.withoutHeading X text)).sections,
      ∃ b, (Outline.ofText text).body? s.title = some b ∧ b <+: s.body) ∧
    Rule.sections.findings t (.ofText id (Text.withoutHeading X text)) =
      (t.sections.filter fun n => (Deviation.noSection n).finding id
          ∈ Rule.sections.findings t (.ofText id text) ∨ n = X).map
        (fun n => (Deviation.noSection n).finding id) ∧
    (∀ s, .noSubsection X s
      ∉ Rule.subsections.deviations t (.ofText id (Text.withoutHeading X text))) ∧
    (Rule.subsections.findings t (.ofText id (Text.withoutHeading X text))).Sublist
      (Rule.subsections.findings t (.ofText id text)) := by
  refine ⟨titles_withoutHeading text, fun s hs => exists_body_of_withoutHeading
    (Outline.body?_of_mem hs), ?_, noSubsection_not_mem_withoutHeading t id, ?_⟩
  · rw [Rule.findings, deviations_sections_withoutHeading, List.map_map]
    refine congrArg _ (List.filter_congr fun n hn => ?_)
    rw [decide_eq_decide, noSection_mem_sections_iff, and_iff_right hn]
  · exact (List.Sublist.flatMap_right _ fun r _ => requirement_withoutHeading_sublist r).map _

/-- What keeps the standard template apart from its titles: none has an asterisk or a backtick, and
    the two passages are opened by marks that are no part of a heading with another title. -/
theorem standard_apart : ∀ X ∈ standard.sections, '*' ∉ X ∧ '\x60' ∉ X ∧
    differs X (subsectionMark standard.telemetry.subsection) = true ∧
    (X ≠ standard.ownership.title →
      differs X (sectionMark standard.ownership.title) = true) := by
  decide +kernel

/-- Taking a required heading out of a document without findings brings the finding that it is
    missing, and at most one more: that the events are foreign, where there were none before. -/
theorem findings_withoutHeading {id text X : Text} (hX : X ∈ standard.sections)
    (hne : X ≠ standard.ownership.title) (hclean : standard.findings id text = []) :
    standard.findings id (Text.withoutHeading X text) = [(Deviation.noSection X).finding id] ∨
    (standard.findings id (Text.withoutHeading X text) =
        [(Deviation.noSection X).finding id,
          (Deviation.foreignEvents standard.telemetry.family id).finding id] ∧
      ∃ e, standard.telemetry.passage? text = some e ∧ standard.telemetry.owners e = []) := by
  obtain ⟨hstar, htick, hevents, hown⟩ := standard_apart X hX
  rw [findings_eq_append, List.map_eq_nil_iff] at hclean
  simp only [List.append_eq_nil_iff] at hclean
  obtain ⟨⟨⟨⟨hsec, hreq⟩, ho⟩, hrole⟩, htel⟩ := hclean
  have hlabel : ∀ f, Apart X (boldLabel f) := fun f =>
    apart_of_mem (c := '*') (by simp [boldLabel]) (by decide) (by decide) hstar
  have hreq' : standard.requirements.flatMap
      (·.deviations (.ofText (Text.withoutHeading X text))) = [] :=
    List.flatMap_eq_nil_iff.2 fun r hr =>
      requirement_withoutHeading (List.flatMap_eq_nil_iff.1 hreq r hr)
  have ho' : standard.ownership.deviations (Text.withoutHeading X text) = [] :=
    ownership_withoutHeading (by decide) (apart_of_differs (hown hne))
      (fun f hf => ⟨standard_fields_newline f hf, hlabel f⟩) ho
  have hrole' : standard.role.deviations (Text.withoutHeading X text) = [] :=
    role_withoutHeading (by decide) (hlabel _) hrole
  rw [findings_eq_append, sections_withoutHeading hX standard_nodup hsec, hreq', ho', hrole',
    List.append_nil, List.append_nil, List.append_nil]
  rcases telemetry_withoutHeading (by decide) (apart_of_differs hevents) (by decide)
    htick htel with h | ⟨h, he⟩
  · exact Or.inl (by rw [h]; rfl)
  · exact Or.inr ⟨by rw [h]; rfl, he⟩

/-- A document in which the ownership passage begins at the heading of the next section. -/
def ownersUnderLog : Text := Text.joinLines (["**Role**: R", "## Agent Name", "## Overview",
  "## Responsibilities", "### Primary Responsibilities", "### Secondary Responsibilities",
  "## Capabilities", "### Core Capabilities", "### Technical Skills", "## Triggers & Activation",
  "## Operational Guidelines", "### Decision Framework", "### Quality Standards", "### Constraints",
  "## Telemetry & Monitoring", "### Events to Track", "`agent.a.x`", "### Metrics to Monitor",
  "### Monitoring Dashboard", "## Safety & Security", "### Safety Considerations",
  "### Security Requirements", "### Failure Handling", "## Integration Points", "### Dependencies",
  "### Interactions with Other Agents", "## Runbooks & Documentation", "### Runbook Links",
  "### Related Documentation", "## Ownership & Maintenance", "## Change Log", "**Owner**: O",
  "**Backup Owner**: B", "**Last Updated**: D", "**Review Frequency**: F"].map String.toList)

theorem findings_without_changeLog :
    standard.findings ['a'] ownersUnderLog = [] ∧
    (standard.findings ['a'] (Text.withoutHeading "Change Log".toList ownersUnderLog) =
        [(Deviation.noSection "Change Log".toList).finding ['a']] ∨
      standard.findings ['a'] (Text.withoutHeading "Change Log".toList ownersUnderLog) =
        [(Deviation.noSection "Change Log".toList).finding ['a'],
          (Deviation.foreignEvents standard.telemetry.family ['a']).finding ['a']] ∧
      ∃ e, standard.telemetry.passage? ownersUnderLog = some e ∧
        standard.telemetry.owners e = []) :=
  have hclean : standard.findings ['a'] ownersUnderLog = [] := by decide +kernel
  ⟨hclean, findings_withoutHeading (by decide) (by decide) hclean⟩

end Template

end OutlineLint
