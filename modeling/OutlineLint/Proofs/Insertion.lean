import Mathlib.Data.Finset.Dedup
import Mathlib.Data.Finset.Card
import OutlineLint.Proofs.Outline

/-! Sections put in one after the other. An outline is told by its titles and by the body under each
    of them; the first insertion under a title gives the title its place, the last one its body.

        A ↦ 1, B ↦ 2, A ↦ 3      titles A, B     bodies 3, 2
        A ↦ 3, B ↦ 2             titles A, B     bodies 3, 2      the same outline
        B ↦ 2, A ↦ 3             titles B, A     bodies 2, 3      another one

    What has been put together already may be put in as a whole, so a text that begins with a heading
    adds its outline to that of the lines in front of it. -/

namespace OutlineLint.Outline

/-! ### What tells two outlines apart -/

/-- The sections are the titles with the bodies under them. -/
theorem sections_eq_map_titles (o : Outline) :
    o.sections = o.titles.map fun n => ⟨n, (o.body? n).getD []⟩ := by
  have hself : ∀ s ∈ o.sections, (⟨s.title, (o.body? s.title).getD []⟩ : Section) = s := by
    intro s hs
    rw [body?_of_mem hs]
    rfl
  rw [titles, List.map_map]
  exact ((List.map_congr_left hself).trans (List.map_id _)).symm

theorem eq_iff_titles_bodies {o o' : Outline} :
    o = o' ↔ o.titles = o'.titles ∧ ∀ n, o.body? n = o'.body? n := by
  constructor
  · rintro rfl
    exact ⟨rfl, fun _ => rfl⟩
  · rintro ⟨htitles, hbodies⟩
    refine Outline.ext ?_
    rw [sections_eq_map_titles o, sections_eq_map_titles o', htitles]
    simp only [hbodies]

theorem ofList_eq_iff {ss ss' : List Section} : ofList ss = ofList ss' ↔
    (ss.map Section.title).eraseDups = (ss'.map Section.title).eraseDups ∧
      ∀ n, lastBody? ss n = lastBody? ss' n := by
  rw [eq_iff_titles_bodies, titles_ofList, titles_ofList]
  simp only [body?_ofList]

theorem mem_titles_ofList {ss : List Section} {n : Text} :
    n ∈ (ofList ss).titles ↔ n ∈ ss.map Section.title := by
  rw [titles_ofList, List.mem_eraseDups]

/-- There are as many sections as different titles. -/
theorem size_ofList (ss : List Section) :
    (ofList ss).size = (ss.map Section.title).toFinset.card := by
  have htitles : (ofList ss).titles.toFinset = (ss.map Section.title).toFinset := by
    ext n
    rw [List.mem_toFinset, List.mem_toFinset, mem_titles_ofList]
  rw [← htitles, titles, List.toFinset_card_of_nodup (ofList ss).nodup, List.length_map, size]

/-! ### One insertion more -/

theorem ofList_append (a b : List Section) : ofList (a ++ b) = (ofList a).insertAll b :=
  insertAll_append empty a b

theorem replace_of_not_mem {s : Section} {ss : List Section} (h : s.title ∉ ss.map Section.title) :
    replace s ss = ss := by
  have hkeep : ∀ old ∈ ss, (if old.title = s.title then s else old) = id old := by
    intro old hold
    refine if_neg fun htitle => h ?_
    exact htitle ▸ List.mem_map_of_mem hold
  exact (List.map_congr_left hkeep).trans (List.map_id ss)

/-- Under a title that is there, one section is replaced and all others stay. -/
theorem exists_insert_eq {o : Outline} {s : Section} (h : s.title ∈ o.titles) :
    ∃ before old after, o.sections = before ++ old :: after ∧ old.title = s.title ∧
      (o.insert s).sections = before ++ s :: after := by
  obtain ⟨old, hold, htitle⟩ := List.mem_map.1 h
  obtain ⟨before, after, hsections⟩ := List.append_of_mem hold
  have hnodup := o.nodup
  rw [hsections, List.map_append, List.map_cons, List.nodup_middle, List.nodup_cons, htitle,
    List.mem_append, not_or] at hnodup
  obtain ⟨⟨hbefore, hafter⟩, -⟩ := hnodup
  refine ⟨before, old, after, hsections, htitle, ?_⟩
  calc (o.insert s).sections
      = replace s (before ++ old :: after) := by rw [sections_insert, if_pos h, hsections]
    _ = replace s before ++ s :: replace s after := by simp [replace, htitle]
    _ = before ++ s :: after := by rw [replace_of_not_mem hbefore, replace_of_not_mem hafter]

/-- Two insertions under different titles may change places when one of the titles has its place;
    else they give the titles their places. -/
theorem insert_comm_iff {o : Outline} {a b : Section} (hne : a.title ≠ b.title) :
    (o.insert a).insert b = (o.insert b).insert a ↔ a.title ∈ o.titles ∨ b.title ∈ o.titles := by
  -- the bodies are the same in any case, so the titles decide
  have hbodies : ∀ n, ((o.insert a).insert b).body? n = ((o.insert b).insert a).body? n := by
    intro n
    by_cases ha : n = a.title
    · rw [ha, body?_insert_of_ne hne, body?_insert_self, body?_insert_self]
    · by_cases hb : n = b.title
      · rw [hb, body?_insert_of_ne hne.symm, body?_insert_self, body?_insert_self]
      · rw [body?_insert_of_ne hb, body?_insert_of_ne ha, body?_insert_of_ne ha,
          body?_insert_of_ne hb]
  rw [eq_iff_titles_bodies, and_iff_left hbodies]
  by_cases ha : a.title ∈ o.titles <;> by_cases hb : b.title ∈ o.titles <;>
    simp [titles_insert, ha, hb, hne, hne.symm]

/-- Inserted sections have their titles in the order in which they come first, none twice, and under
    each title the body that came last; nothing else tells two such outlines apart. Under a title
    that is there an insertion replaces the one section, and two insertions under different titles
    may change places as soon as one of the titles is there. -/
theorem ofList_last_wins (ss : List Section) :
    (ofList ss).titles = (ss.map Section.title).eraseDups ∧ (ofList ss).titles.Nodup ∧
    (∀ n, (ofList ss).body? n = lastBody? ss n) ∧
    (∀ n, (ofList ss).contains n = true ↔ n ∈ ss.map Section.title) ∧
    (ofList ss).size = (ss.map Section.title).toFinset.card ∧
    (∀ ss', ofList ss = ofList ss' ↔
      (ss.map Section.title).eraseDups = (ss'.map Section.title).eraseDups ∧
        ∀ n, lastBody? ss n = lastBody? ss' n) ∧
    (∀ s, s.title ∈ ss.map Section.title → ∃ before old after,
      (ofList ss).sections = before ++ old :: after ∧ old.title = s.title ∧
        (ofList (ss ++ [s])).sections = before ++ s :: after) ∧
    (∀ a b, a.title ≠ b.title → (ofList (ss ++ [a, b]) = ofList (ss ++ [b, a]) ↔
      a.title ∈ ss.map Section.title ∨ b.title ∈ ss.map Section.title)) := by
  refine ⟨titles_ofList ss, (ofList ss).nodup, body?_ofList ss, fun n => ?_, size_ofList ss,
    fun _ => ofList_eq_iff, fun s hs => ?_, fun a b hne => ?_⟩
  · rw [contains_iff, mem_titles_ofList]
  · rw [ofList_append]
    exact exists_insert_eq (mem_titles_ofList.2 hs)
  · rw [ofList_append, ofList_append, ← mem_titles_ofList, ← mem_titles_ofList]
    exact insert_comm_iff hne

/-- Two sections that come again take their old places, in whichever order they come. -/
theorem ofList_again :
    (∃ before old after,
      (ofList [⟨['A'], ['1']⟩, ⟨['B'], ['2']⟩]).sections = before ++ old :: after ∧
        old.title = ['B'] ∧
        (ofList ([⟨['A'], ['1']⟩, ⟨['B'], ['2']⟩] ++ [⟨['B'], ['3']⟩])).sections =
          before ++ ⟨['B'], ['3']⟩ :: after) ∧
    ['A'] ≠ ['B'] ∧
    ofList ([⟨['A'], ['1']⟩, ⟨['B'], ['2']⟩] ++ [⟨['A'], ['4']⟩, ⟨['B'], ['3']⟩]) =
      ofList ([⟨['A'], ['1']⟩, ⟨['B'], ['2']⟩] ++ [⟨['B'], ['3']⟩, ⟨['A'], ['4']⟩]) := by
  obtain ⟨-, -, -, -, -, -, hagain, hswap⟩ :=
    ofList_last_wins [⟨['A'], ['1']⟩, ⟨['B'], ['2']⟩]
  have hne : ['A'] ≠ ['B'] := by decide
  exact ⟨hagain ⟨['B'], ['3']⟩ (by decide), hne,
    (hswap ⟨['A'], ['4']⟩ ⟨['B'], ['3']⟩ hne).2 (Or.inl (by decide))⟩

/-! ### Texts one after the other -/

theorem eraseDups_titles (o : Outline) : o.titles.eraseDups = o.titles := by
  have htitles := titles_ofList o.sections
  rw [ofList_sections] at htitles
  exact htitles.symm

/-- An outline is put in as the sections from which it was put together. -/
theorem insertAll_sections_ofList (o : Outline) (ss : List Section) :
    o.insertAll (ofList ss).sections = o.insertAll ss := by
  refine eq_iff_titles_bodies.2 ⟨?_, fun n => ?_⟩
  · rw [titles_insertAll, titles_insertAll, ← titles, eraseDups_filter, eraseDups_filter,
      eraseDups_titles, titles_ofList]
  · rw [body?_insertAll, body?_insertAll, ← body?_ofList, ofList_sections, body?_ofList]

/-- A text that begins with a heading, behind whole lines, adds its outline to that of the lines: the
    titles of the lines keep their places and the new ones come after them, and a body stays unless
    its title comes again. -/
theorem ofText_append {t u h : Text} (ht : t.Ended) (hu : u.lines.head? = some h)
    (hheading : Heading.title? h ≠ none) :
    ofText (t ++ u) = (ofText t).insertAll (ofText u).sections ∧
    (ofText (t ++ u)).titles =
      (ofText t).titles ++ (ofText u).titles.filter (· ∉ (ofText t).titles) ∧
    (∀ n, (ofText (t ++ u)).body? n = ((ofText u).body? n).or ((ofText t).body? n)) := by
  have hhead : ∀ l ∈ u.lines.head?, Heading.title? l ≠ none := by
    rintro l hl
    rw [Option.mem_def.1 hl, Option.some.injEq] at hu
    rwa [hu]
  have happend : ofText (t ++ u) = (ofText t).insertAll (cut u.lines).sections := by
    rw [ofText, Text.lines_append_of_ended ht, cut_append_of_head hhead, ofList_append]
    rfl
  refine ⟨?_, ?_, fun n => ?_⟩
  · exact happend.trans (insertAll_sections_ofList _ _).symm
  · rw [happend, titles_insertAll, eraseDups_filter, ← titles_ofList]
    rfl
  · rw [happend, body?_insertAll, ← body?_ofList]
    rfl

/-- A section that comes again takes its new body in its old place. -/
theorem ofText_append_again :
    Text.Ended "x\n## A\na\n## B\nb\n".toList ∧
    (Text.lines "## A\r\nc\n## C\n## A\nd".toList).head? = some "## A".toList ∧
    Heading.title? "## A".toList ≠ none ∧
    ofText ("x\n## A\na\n## B\nb\n".toList ++ "## A\r\nc\n## C\n## A\nd".toList) =
      (ofText "x\n## A\na\n## B\nb\n".toList).insertAll
        (ofText "## A\r\nc\n## C\n## A\nd".toList).sections := by
  have hended : Text.Ended "x\n## A\na\n## B\nb\n".toList := by decide
  have hhead : (Text.lines "## A\r\nc\n## C\n## A\nd".toList).head? = some "## A".toList := by
    decide
  have hheading : Heading.title? "## A".toList ≠ none := by decide
  exact ⟨hended, hhead, hheading, (ofText_append hended hhead hheading).1⟩

end OutlineLint.Outline
