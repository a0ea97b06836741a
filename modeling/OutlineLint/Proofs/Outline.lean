import Mathlib.Data.List.Nodup
import OutlineLint.Outline.Extraction
import OutlineLint.Proofs.Heading

/-! The outline of a text. Its titles are those of the heading lines, in the order in which they
    come first; the body under a title is what stands between the last heading with that title and
    the next heading, or the end.

        lines:   x | ## A | y | ## B | ## A | z        x is in no body
        outline:     A ↦ z,     B ↦ (empty)            y is overwritten by z

    `Under` says where a body stands among the lines; extraction and insertion are each followed
    section by section, and meet in `body?_ofText_eq_some_iff`. -/

namespace OutlineLint

/-- Where a body stands: `body` are the lines between the last heading with the title, which stands
    behind `before`, and the next heading, with which `after` begins. -/
structure Under (ls : List Text) (title : Text) (before body after : List Text) : Prop where
  lines : ∃ h, Heading.title? h = some title ∧ ls = before ++ h :: (body ++ after)
  plain : ∀ l ∈ body, Heading.title? l = none
  stop : ∀ l ∈ after.head?, Heading.title? l ≠ none
  last : ∀ l ∈ after, Heading.title? l ≠ some title

/-- The line number `k` stands in the body of the section with the title. -/
def InBody (ls : List Text) (title : Text) (k : Nat) : Prop :=
  ∃ before body after, Under ls title before body after ∧
    before.length < k ∧ k ≤ before.length + body.length

namespace Outline

/-! ### Inserting section after section -/

@[simp] theorem titles_empty : empty.titles = [] := rfl

theorem insertAll_cons (o : Outline) (s : Section) (ss : List Section) :
    o.insertAll (s :: ss) = (o.insert s).insertAll ss := rfl

theorem insertAll_append (o : Outline) (a b : List Section) :
    o.insertAll (a ++ b) = (o.insertAll a).insertAll b := List.foldl_append ..

/-- New titles are added in the order in which they come first. -/
theorem titles_insertAll : ∀ (o : Outline) (ss : List Section), (o.insertAll ss).titles
    = o.titles ++ ((ss.map Section.title).filter fun n => n ∉ o.titles).eraseDups
  | o, [] => by simp [insertAll]
  | o, s :: ss => by
    rw [insertAll_cons, titles_insertAll (o.insert s) ss, titles_insert, List.map_cons]
    by_cases hs : s.title ∈ o.titles
    · rw [if_pos hs, List.filter_cons_of_neg (by simpa using hs)]
    · rw [if_neg hs, List.filter_cons_of_pos (by simpa using hs), List.eraseDups_cons,
        List.filter_filter, List.append_assoc, List.singleton_append]
      congr 3
      refine List.filter_congr fun n _ => ?_
      by_cases hn : n = s.title <;> simp [hn, hs]

theorem titles_ofList (ss : List Section) :
    (ofList ss).titles = (ss.map Section.title).eraseDups := by
  rw [ofList, titles_insertAll]; simp

/-- Taking out repetitions and taking out other texts do not disturb each other. -/
theorem eraseDups_filter (p : Text → Bool) : ∀ ns : List Text,
    (ns.filter p).eraseDups = ns.eraseDups.filter p
  | [] => rfl
  | n :: ns => by
    have ih := eraseDups_filter p (ns.filter fun k => !k == n)
    rw [List.filter_filter] at ih
    rw [List.eraseDups_cons]
    by_cases hn : p n
    · rw [List.filter_cons_of_pos hn, List.filter_cons_of_pos hn, List.eraseDups_cons, ← ih,
        List.filter_filter]
      simp only [Bool.and_comm]
    · rw [List.filter_cons_of_neg hn, List.filter_cons_of_neg hn, ← ih]
      refine congrArg _ (List.filter_congr fun k _ => ?_)
      by_cases hk : k = n
      · simp [hk, hn]
      · simp [hk]
termination_by ns => ns.length
decreasing_by exact Nat.lt_succ_of_le (List.length_filter_le _ _)

/-- The body of the last section with a title. -/
def lastBody? (ss : List Section) (n : Text) : Option Text :=
  (ss.filter (·.title = n)).getLast?.map Section.body

theorem lastBody?_append (a b : List Section) (n : Text) :
    lastBody? (a ++ b) n = (lastBody? b n).or (lastBody? a n) := by
  rw [lastBody?, List.filter_append, List.getLast?_append, Option.map_or]
  rfl

theorem lastBody?_of_ne {ss : List Section} {n : Text} (h : ∀ s ∈ ss, s.title ≠ n) :
    lastBody? ss n = none := by
  rw [lastBody?, List.filter_eq_nil_iff.2 (by simpa using h)]
  rfl

theorem lastBody?_self (s : Section) : lastBody? [s] s.title = some s.body := by
  simp [lastBody?]

theorem body?_insert (o : Outline) (s : Section) (n : Text) :
    (o.insert s).body? n = (lastBody? [s] n).or (o.body? n) := by
  by_cases hn : s.title = n
  · rw [← hn, body?_insert_self, lastBody?_self, Option.some_or]
  · rw [body?_insert_of_ne (Ne.symm hn), lastBody?_of_ne (by simpa using hn), Option.none_or]

/-- The last section with a title gives the body; where there is none, the old body stays. -/
theorem body?_insertAll : ∀ (o : Outline) (ss : List Section) (n : Text),
    (o.insertAll ss).body? n = (lastBody? ss n).or (o.body? n)
  | _, [], _ => rfl
  | o, s :: ss, n => by
    rw [insertAll_cons, body?_insertAll (o.insert s) ss n, body?_insert, ← Option.or_assoc,
      ← lastBody?_append, List.singleton_append]

theorem body?_ofList (ss : List Section) (n : Text) : (ofList ss).body? n = lastBody? ss n := by
  rw [ofList, body?_insertAll]
  exact Option.or_none

theorem body?_ofList_last (a : List Section) (s : Section) {b : List Section}
    (h : ∀ s' ∈ b, s'.title ≠ s.title) : (ofList (a ++ s :: b)).body? s.title = some s.body := by
  rw [body?_ofList, lastBody?_append, ← List.singleton_append, lastBody?_append,
    lastBody?_of_ne h, lastBody?_self, Option.none_or, Option.some_or]

/-- Sections with new titles are added at the end. -/
theorem sections_insertAll_of_nodup : ∀ {ss : List Section} (o : Outline),
    ((o.sections ++ ss).map Section.title).Nodup → (o.insertAll ss).sections = o.sections ++ ss
  | [], o, _ => (List.append_nil _).symm
  | s :: ss, o, h => by
    have hnew : s.title ∉ o.titles := fun hmem => by
      rw [List.map_append, List.nodup_append] at h
      exact h.2.2 _ hmem _ (by simp) rfl
    have hinsert : (o.insert s).sections = o.sections ++ [s] := by
      rw [sections_insert, if_neg hnew]
    have hassoc : (o.insert s).sections ++ ss = o.sections ++ s :: ss := by
      rw [hinsert, List.append_assoc, List.singleton_append]
    rw [insertAll_cons, sections_insertAll_of_nodup _ (hassoc ▸ h), hassoc]

/-- An outline is that of its sections. -/
theorem ofList_sections (o : Outline) : ofList o.sections = o :=
  Outline.ext (sections_insertAll_of_nodup empty o.nodup)

/-- A section of an outline gives the body under its title. -/
theorem body?_of_mem {o : Outline} {s : Section} (h : s ∈ o.sections) :
    o.body? s.title = some s.body := by
  obtain ⟨a, b, hab⟩ := List.append_of_mem h
  have hnodup := o.nodup
  rw [hab, List.map_append, List.map_cons, List.nodup_middle, List.nodup_cons] at hnodup
  rw [← ofList_sections o, hab]
  refine body?_ofList_last a s fun s' hs' heq => hnodup.1 ?_
  exact heq ▸ List.mem_append_right _ (List.mem_map_of_mem hs')

/-! ### Cutting line after line -/

theorem cut_cons (l : Text) (ls : List Text) : cut (l :: ls) = (cut ls).push l := rfl

theorem cut_heading {h n : Text} (hn : Heading.title? h = some n) (ls : List Text) :
    cut (h :: ls) = ⟨[], ⟨n, Text.joinLines (cut ls).preamble⟩ :: (cut ls).sections⟩ := by
  rw [cut_cons, Cut.push, hn]

theorem cut_plain {l : Text} (hl : Heading.title? l = none) (ls : List Text) :
    cut (l :: ls) = ⟨l :: (cut ls).preamble, (cut ls).sections⟩ := by
  rw [cut_cons, Cut.push, hl]

/-- The sections have the titles of the heading lines. -/
theorem map_title_sections : ∀ ls : List Text,
    (cut ls).sections.map Section.title = ls.filterMap Heading.title?
  | [] => rfl
  | l :: ls => by
    cases hl : Heading.title? l with
    | none => rw [cut_plain hl, List.filterMap_cons_none hl, map_title_sections ls]
    | some n =>
      rw [cut_heading hl, List.filterMap_cons_some hl, List.map_cons, map_title_sections ls]

/-- Lines without headings join the preamble. -/
theorem cut_append {body : List Text} (h : ∀ l ∈ body, Heading.title? l = none) (ls : List Text) :
    cut (body ++ ls) = ⟨body ++ (cut ls).preamble, (cut ls).sections⟩ := by
  induction body with
  | nil => rfl
  | cons l body ih =>
    rw [List.cons_append, cut_plain (h l (by simp)), ih fun x hx => h x (by simp [hx])]
    rfl

/-- Lines that begin with a heading, or are none, have no preamble. -/
theorem preamble_of_head {ls : List Text} (h : ∀ l ∈ ls.head?, Heading.title? l ≠ none) :
    (cut ls).preamble = [] := by
  cases ls with
  | nil => rfl
  | cons l ls =>
    obtain ⟨n, hn⟩ := Option.ne_none_iff_exists'.1 (h l rfl)
    rw [cut_heading hn]

/-- Lines without headings in front of a heading, or of nothing, are the preamble. -/
theorem preamble_append {body after : List Text} (hb : ∀ l ∈ body, Heading.title? l = none)
    (ha : ∀ l ∈ after.head?, Heading.title? l ≠ none) :
    (cut (body ++ after)).preamble = body := by
  rw [cut_append hb, preamble_of_head ha, List.append_nil]

/-- In front of a heading, lines are cut as if nothing came behind them. -/
theorem cut_append_of_head {b : List Text} (hb : ∀ l ∈ b.head?, Heading.title? l ≠ none) :
    ∀ a : List Text, cut (a ++ b) = ⟨(cut a).preamble, (cut a).sections ++ (cut b).sections⟩
  | [] => congrArg (Cut.mk · (cut b).sections) (preamble_of_head hb)
  | l :: a => by
    have ih := cut_append_of_head hb a
    rw [List.cons_append]
    cases hl : Heading.title? l with
    | none => rw [cut_plain hl, cut_plain hl, ih]
    | some n => rw [cut_heading hl, cut_heading hl, ih, List.cons_append]

/-! ### Titles and bodies of a text -/

theorem titles_ofText (t : Text) :
    (ofText t).titles = (t.lines.filterMap Heading.title?).eraseDups := by
  rw [ofText, titles_ofList, map_title_sections]

theorem mem_titles_ofText {t n : Text} :
    n ∈ (ofText t).titles ↔ ∃ l ∈ t.lines, Heading.title? l = some n := by
  rw [titles_ofText, List.mem_eraseDups, List.mem_filterMap]

theorem body?_eq_none_iff {o : Outline} {n : Text} : o.body? n = none ↔ n ∉ o.titles := by
  rw [body?, Option.map_eq_none_iff, List.find?_eq_none, titles, List.mem_map]
  simp

theorem body?_ofText {t n : Text} {before body after : List Text}
    (h : Under t.lines n before body after) :
    (ofText t).body? n = some (Text.joinLines body) := by
  obtain ⟨⟨l, hl, hlines⟩, hplain, hstop, hlast⟩ := h
  have hhead : ∀ k ∈ (l :: (body ++ after)).head?, Heading.title? k ≠ none := by
    simp [hl]
  rw [ofText, hlines, cut_append_of_head hhead, cut_heading hl, preamble_append hplain hstop]
  refine body?_ofList_last _ ⟨n, Text.joinLines body⟩ fun s hs hn => ?_
  -- a later section with the title would come from a later heading
  have hmem : s.title ∈ (cut (body ++ after)).sections.map Section.title :=
    List.mem_map_of_mem hs
  rw [map_title_sections, List.mem_filterMap] at hmem
  obtain ⟨l', hl', ht⟩ := hmem
  rw [hn] at ht
  rcases List.mem_append.1 hl' with hb | ha
  · rw [hplain l' hb] at ht; cases ht
  · exact hlast l' ha ht

end Outline

namespace Under

/-- Lines behind a heading without its title again: the body runs up to the next heading. -/
theorem of_rest {before body rest : List Text} {h n : Text} (hn : Heading.title? h = some n)
    (hplain : ∀ l ∈ body, Heading.title? l = none) (hlast : ∀ l ∈ rest, Heading.title? l ≠ some n) :
    Under (before ++ h :: (body ++ rest)) n before
      (body ++ rest.takeWhile fun l => Heading.title? l = none)
      (rest.dropWhile fun l => Heading.title? l = none) where
  lines := ⟨h, hn, by rw [List.append_assoc, List.takeWhile_append_dropWhile]⟩
  plain l hl := by
    rcases List.mem_append.1 hl with hb | hr
    · exact hplain l hb
    · simpa using List.mem_takeWhile_imp hr
  stop l hl := by
    have hhead := List.head?_dropWhile_not (fun l => decide (Heading.title? l = none)) rest
    rw [Option.mem_def.1 hl] at hhead
    simpa using hhead
  last l hl := hlast l ((List.dropWhile_suffix _).subset hl)

/-- A title that some heading has stands over a body. -/
theorem exists_of_title {n : Text} : ∀ {ls : List Text}, (∃ l ∈ ls, Heading.title? l = some n) →
    ∃ before body after, Under ls n before body after
  | [], h => by obtain ⟨l, hl, -⟩ := h; cases hl
  | l :: ls, h => by
    by_cases hls : ∃ l' ∈ ls, Heading.title? l' = some n
    · obtain ⟨before, body, after, ⟨⟨k, hk, rfl⟩, hplain, hstop, hlast⟩⟩ := exists_of_title hls
      exact ⟨l :: before, body, after, ⟨⟨k, hk, rfl⟩, hplain, hstop, hlast⟩⟩
    · have hl : Heading.title? l = some n := by
        obtain ⟨l', hl', hn⟩ := h
        rcases List.mem_cons.1 hl' with rfl | hmem
        · exact hn
        · exact absurd ⟨l', hmem, hn⟩ hls
      have hu : Under ([] ++ l :: ([] ++ ls)) n [] _ _ :=
        of_rest hl (by simp) fun x hx hn => hls ⟨x, hx, hn⟩
      exact ⟨_, _, _, hu⟩

theorem title {ls : List Text} {n : Text} {before body after : List Text}
    (h : Under ls n before body after) : ∃ l, ls[before.length]? = some l ∧
      Heading.title? l = some n := by
  obtain ⟨⟨l, hl, rfl⟩, -⟩ := h
  exact ⟨l, by simp, hl⟩

/-- The lines of a body are no headings. -/
theorem plain_at {ls : List Text} {n : Text} {before body after : List Text} {k : Nat}
    (h : Under ls n before body after) (hk : before.length < k)
    (hk' : k ≤ before.length + body.length) : ∃ l, ls[k]? = some l ∧ Heading.title? l = none := by
  obtain ⟨⟨l, hl, rfl⟩, hplain, -⟩ := h
  obtain ⟨i, rfl⟩ := Nat.exists_eq_add_of_lt hk
  have hi : i < body.length := by omega
  refine ⟨body[i], ?_, hplain _ (List.getElem_mem hi)⟩
  rw [List.getElem?_append_right (by omega)]
  simp [show before.length + i + 1 - before.length = i + 1 by omega,
    List.getElem?_append_left hi]

/-- The last heading with one title does not come before that with another, unless the body between
    them is over. -/
theorem not_before {ls : List Text} {n n' : Text}
    {before body after before' body' after' : List Text}
    (h : Under ls n before body after) (h' : Under ls n' before' body' after') {k : Nat}
    (hk : k ≤ before.length + body.length) (hk' : before'.length < k) :
    ¬ before.length < before'.length := by
  intro hlt
  obtain ⟨l, hl, hnone⟩ := h.plain_at hlt (by omega)
  obtain ⟨l', hl', hsome⟩ := h'.title
  rw [hl, Option.some.injEq] at hl'
  rw [hl', hsome] at hnone
  cases hnone

end Under

namespace InBody

/-- No line stands in two bodies. -/
theorem title_unique {ls : List Text} {n n' : Text} {k : Nat} (h : InBody ls n k)
    (h' : InBody ls n' k) : n = n' := by
  obtain ⟨before, body, after, hu, hlo, hhi⟩ := h
  obtain ⟨before', body', after', hu', hlo', hhi'⟩ := h'
  have hlen : before.length = before'.length :=
    le_antisymm (not_lt.1 (hu'.not_before hu hhi' hlo)) (not_lt.1 (hu.not_before hu' hhi hlo'))
  obtain ⟨l, hl, hn⟩ := hu.title
  obtain ⟨l', hl', hn'⟩ := hu'.title
  rw [← hlen, hl, Option.some.injEq] at hl'
  rw [← hl', hn] at hn'
  exact Option.some.inj hn'

/-- A line in a body comes after a heading. -/
theorem heading_before {ls : List Text} {n : Text} {k : Nat} (h : InBody ls n k) :
    ∃ l ∈ ls.take k, Heading.title? l ≠ none := by
  obtain ⟨before, body, after, hu, hlo, -⟩ := h
  obtain ⟨l, hl, hn⟩ := hu.title
  refine ⟨l, ?_, by rw [hn]; exact Option.some_ne_none n⟩
  exact List.mem_of_getElem? (by rw [List.getElem?_take, if_pos hlo]; exact hl)

end InBody

namespace Outline

/-- The body under a title is what stands between its last heading and the next one. -/
theorem body?_ofText_eq_some_iff {t n b : Text} : (ofText t).body? n = some b ↔
    ∃ before body after, Under t.lines n before body after ∧ b = Text.joinLines body := by
  constructor
  · intro h
    have hmem : n ∈ (ofText t).titles := by
      by_contra hn
      rw [body?_eq_none_iff.2 hn] at h
      cases h
    obtain ⟨before, body, after, hu⟩ := Under.exists_of_title (mem_titles_ofText.1 hmem)
    rw [body?_ofText hu, Option.some.injEq] at h
    exact ⟨before, body, after, hu, h.symm⟩
  · rintro ⟨before, body, after, hu, rfl⟩
    exact body?_ofText hu

/-- The outline of a text has the titles of its heading lines in the order in which they come first,
    none of them twice, and under each what stands between its last heading and the next heading.
    So no line is in two bodies, and none in front of the first heading is in any. -/
theorem ofText_first_titles_last_bodies (t : Text) :
    (ofText t).titles.Nodup ∧
    (ofText t).titles = (t.lines.filterMap Heading.title?).eraseDups ∧
    (∀ n b, (ofText t).body? n = some b ↔
      ∃ before body after, Under t.lines n before body after ∧ b = Text.joinLines body) ∧
    (∀ k n n', InBody t.lines n k → InBody t.lines n' k → n = n') ∧
    (∀ k n, InBody t.lines n k → ∃ l ∈ t.lines.take k, Heading.title? l ≠ none) :=
  ⟨(ofText t).nodup, titles_ofText t, fun _ _ => body?_ofText_eq_some_iff,
    fun _ _ _ h h' => h.title_unique h', fun _ _ h => h.heading_before⟩

/-- A repeated title keeps its place and takes the last body, and a return before a newline is
    dropped. -/
example : (ofText "x\n## A\ny\n## B\n## A \r\nz\r\n\n".toList).sections =
    [⟨"A".toList, "z\n".toList⟩, ⟨"B".toList, []⟩] := by decide

end Outline

end OutlineLint
