import Mathlib.Data.List.DropRight
import OutlineLint.Heading
import OutlineLint.Proofs.Line

/-! What a section heading looks like from the outside. A heading has the shape

        ## gap title tail

    with blanks in the gap and in the tail, and what has this shape is a heading. A newline may stand
    in the gap and nowhere else. So a text that holds anything else than marks, blanks and characters
    of the title is no part of a heading, and a carriage return at its end changes nothing. -/

namespace OutlineLint.Text

/-! ### Blanks in front of a text -/

/-- Where not all is blank, what follows is not skipped. -/
theorem dropWhile_append_of_solid {l : Text} (t : Text) (h : ¬ ∀ c ∈ l, isBlank c = true) :
    (l ++ t).dropWhile isBlank = l.dropWhile isBlank ++ t := by
  rw [List.dropWhile_append, if_neg]
  rwa [List.isEmpty_iff, List.dropWhile_eq_nil_iff]

/-- What is blank has nothing else. -/
theorem not_exists_solid {l : Text} (h : ∀ c ∈ l, isBlank c = true) :
    ¬ ∃ c ∈ l, isBlank c = false := by
  rintro ⟨c, hc, hb⟩
  rw [h c hc] at hb
  cases hb

/-- Behind the blanks in front of a text there is none. -/
theorem head?_dropWhile_blank {t : Text} {c : Char} {cs : Text}
    (h : t.dropWhile isBlank = c :: cs) : isBlank c = false := by
  have hhead := List.head?_dropWhile_not isBlank t
  rw [h] at hhead
  exact hhead

/-- A trimmed text has no blank at either end. -/
theorem trim_eq_self_iff {n : Text} :
    n.trim = n ↔ n.dropWhile isBlank = n ∧ n.trimEnd = n := by
  constructor
  · intro h
    have hlength : n.trim.length ≤ (n.dropWhile isBlank).length :=
      (List.rdropWhile_prefix isBlank _).length_le
    rw [h] at hlength
    have hfront : n.dropWhile isBlank = n :=
      (List.dropWhile_suffix isBlank).eq_of_length_le hlength
    rw [trim, hfront] at h
    exact ⟨hfront, h⟩
  · rintro ⟨hfront, hend⟩
    rw [trim, hfront, hend]

end OutlineLint.Text

namespace OutlineLint.Heading

theorem title?_mark (rest : Text) : title? ('#' :: '#' :: rest) =
    if rest.takeWhile isBlank = [] ∨ rest.dropWhile isBlank = [] ∨ '\n' ∈ rest.dropWhile isBlank
    then none else some (Text.trimEnd (rest.dropWhile isBlank)) := rfl

theorem title?_of_not_mark {l : Text} (h : ¬ ['#', '#'] <+: l) : title? l = none := by
  unfold title?
  split
  · rename_i rest
    exact absurd ⟨rest, rfl⟩ h
  · rfl

theorem trimEnd_eq (t : Text) : Text.trimEnd t = t.rdropWhile isBlank := rfl

/-- A text that begins with no blank keeps its beginning when its end is trimmed. -/
theorem exists_trimEnd_eq {c : Char} (cs : Text) (h : isBlank c = false) :
    ∃ ds, Text.trimEnd (c :: cs) = c :: ds := by
  have hne : (c :: cs).rdropWhile isBlank ≠ [] := fun hnil => by
    have hall := List.rdropWhile_eq_nil_iff.1 hnil c (List.mem_cons_self ..)
    rw [h] at hall
    cases hall
  have hp := List.rdropWhile_prefix isBlank (c :: cs)
  rw [trimEnd_eq]
  obtain ⟨d, ds, hd⟩ := List.exists_cons_of_ne_nil hne
  rw [hd] at hp ⊢
  exact ⟨ds, by rw [(List.cons_prefix_cons.1 hp).1]⟩

/-- A heading is read as two marks, blanks, and a text in one line, of which the title is what is
    left without the blanks at its end. -/
theorem title?_eq_some_iff {l n : Text} : title? l = some n ↔ ∃ rest, l = '#' :: '#' :: rest ∧
    rest.takeWhile isBlank ≠ [] ∧ rest.dropWhile isBlank ≠ [] ∧ '\n' ∉ rest.dropWhile isBlank ∧
      Text.trimEnd (rest.dropWhile isBlank) = n := by
  constructor
  · intro h
    by_cases hm : ['#', '#'] <+: l
    · obtain ⟨rest, rfl⟩ := hm
      rw [List.cons_append, List.cons_append, List.nil_append] at h ⊢
      rw [title?_mark] at h
      split at h
      · cases h
      · rename_i hc
        rw [not_or, not_or] at hc
        exact ⟨rest, rfl, hc.1, hc.2.1, hc.2.2, Option.some.inj h⟩
    · rw [title?_of_not_mark hm] at h; cases h
  · rintro ⟨rest, rfl, hblank, hafter, hline, rfl⟩
    rw [title?_mark, if_neg fun h => h.elim hblank fun h => h.elim hafter hline]

/-- What is left when the blanks at the end are gone does not end with a blank. -/
theorem exists_last_trimEnd {t : Text} (h : Text.trimEnd t ≠ []) :
    ∃ c ∈ (Text.trimEnd t).getLast?, isBlank c = false := by
  have hlast : ¬ isBlank ((Text.trimEnd t).getLast h) = true :=
    List.rdropWhile_last_not isBlank t h
  exact ⟨_, List.getLast?_eq_some_getLast h, by simpa using hlast⟩

/-- A text that does not end with a blank comes back when blanks are put behind it. -/
theorem trimEnd_append {n e : Text} (hlast : ∃ c ∈ n.getLast?, isBlank c = false)
    (he : ∀ c ∈ e, isBlank c = true) : Text.trimEnd (n ++ e) = n := by
  obtain ⟨c, hc, hblank⟩ := hlast
  obtain ⟨m, rfl⟩ := List.getLast?_eq_some_iff.1 hc
  have hreverse : ∀ x ∈ e.reverse, isBlank x = true := fun x hx => he x (List.mem_reverse.1 hx)
  rw [Text.trimEnd, List.reverse_append, List.dropWhile_append_of_pos hreverse,
    List.reverse_concat, List.dropWhile_cons_of_neg (by simpa using hblank), List.reverse_cons,
    List.reverse_reverse]

/-! ### The shape of a heading -/

/-- What stands behind the two marks of a heading: a gap, the title, and a tail. The title has no
    blank at its ends, and from the title on there is no newline. -/
structure Shape (gap title tail : Text) : Prop where
  gap_ne : gap ≠ []
  gap_blank : ∀ c ∈ gap, isBlank c = true
  first : ∃ c ∈ title.head?, isBlank c = false
  last : ∃ c ∈ title.getLast?, isBlank c = false
  tail_blank : ∀ c ∈ tail, isBlank c = true
  oneLine : '\n' ∉ title ++ tail

/-- What is read as a heading has the shape of one. -/
theorem shape_of_title? {l n : Text} (h : title? l = some n) :
    ∃ w e, Shape w n e ∧ l = '#' :: '#' :: (w ++ (n ++ e)) := by
  obtain ⟨rest, rfl, hblank, hafter, hline, rfl⟩ := title?_eq_some_iff.1 h
  obtain ⟨c, cs, hcs⟩ := List.exists_cons_of_ne_nil hafter
  have hc : isBlank c = false := Text.head?_dropWhile_blank hcs
  obtain ⟨ds, hds⟩ := exists_trimEnd_eq cs hc
  have htitle : Text.trimEnd (rest.dropWhile isBlank) = c :: ds := by rw [hcs, hds]
  have hparts : Text.trimEnd (rest.dropWhile isBlank) ++ (rest.dropWhile isBlank).rtakeWhile isBlank
      = rest.dropWhile isBlank := List.rdropWhile_append_rtakeWhile
  refine ⟨rest.takeWhile isBlank, (rest.dropWhile isBlank).rtakeWhile isBlank,
    { gap_ne := hblank
      gap_blank := fun c => List.mem_takeWhile_imp
      first := ⟨c, by rw [htitle]; rfl, hc⟩
      last := exists_last_trimEnd (by rw [htitle]; exact List.cons_ne_nil c ds)
      tail_blank := fun c => List.mem_rtakeWhile_imp
      oneLine := by rwa [hparts] }, ?_⟩
  rw [hparts, List.takeWhile_append_dropWhile]

/-- What has the shape of a heading is read as one. -/
theorem title?_of_shape {w n e : Text} (h : Shape w n e) :
    title? ('#' :: '#' :: (w ++ (n ++ e))) = some n := by
  obtain ⟨c, hc, hblank⟩ := h.first
  obtain ⟨cs, rfl⟩ := List.head?_eq_some_iff.1 hc
  have hsolid : ¬ isBlank c = true := by simpa using hblank
  have hgap : (w ++ (c :: cs ++ e)).takeWhile isBlank = w := by
    rw [List.takeWhile_append_of_pos h.gap_blank, List.cons_append,
      List.takeWhile_cons_of_neg hsolid, List.append_nil]
  have hafter : (w ++ (c :: cs ++ e)).dropWhile isBlank = c :: cs ++ e := by
    rw [List.dropWhile_append_of_pos h.gap_blank, List.cons_append,
      List.dropWhile_cons_of_neg hsolid]
  refine title?_eq_some_iff.2 ⟨_, rfl, ?_⟩
  rw [hgap, hafter, trimEnd_append h.last h.tail_blank]
  exact ⟨h.gap_ne, List.cons_ne_nil _ _, h.oneLine, rfl⟩

/-! ### What a heading tells about its title -/

/-- A heading begins with two marks and a blank. -/
theorem mark_of_title? {l n : Text} (h : title? l = some n) :
    ∃ b rest, l = '#' :: '#' :: b :: rest ∧ isBlank b = true := by
  obtain ⟨w, e, hshape, rfl⟩ := shape_of_title? h
  obtain ⟨b, w, rfl⟩ := List.exists_cons_of_ne_nil hshape.gap_ne
  exact ⟨b, w ++ (n ++ e), rfl, hshape.gap_blank b (List.mem_cons_self ..)⟩

/-- What begins with two marks is not blank. -/
theorem not_blank_of_mark {l : Text} (h : ['#', '#'] <+: l) : ¬ ∀ c ∈ l, isBlank c = true := by
  intro hblank
  exact absurd (hblank '#' (h.subset (by simp))) (by decide)

theorem not_blank_of_title? {l n : Text} (h : title? l = some n) :
    ¬ ∀ c ∈ l, isBlank c = true := by
  obtain ⟨b, rest, rfl, -⟩ := mark_of_title? h
  exact not_blank_of_mark ⟨b :: rest, rfl⟩

/-- A title begins with no blank. -/
theorem head_of_title? {l n : Text} (h : title? l = some n) : ∃ c ∈ n.head?, isBlank c = false := by
  obtain ⟨w, e, hshape, -⟩ := shape_of_title? h
  exact hshape.first

theorem ne_nil_of_title? {l n : Text} (h : title? l = some n) : n ≠ [] := by
  obtain ⟨c, hc, -⟩ := head_of_title? h
  intro hnil
  rw [hnil] at hc
  cases hc

/-- A title lies in one line. -/
theorem newline_not_mem_of_title? {l n : Text} (h : title? l = some n) : '\n' ∉ n := by
  obtain ⟨w, e, hshape, -⟩ := shape_of_title? h
  exact fun hmem => hshape.oneLine (List.mem_append_left e hmem)

/-- A mark and a title that has no blank at its ends are a heading. -/
theorem title?_of_trim {n : Text} (hne : n ≠ []) (htrim : n.trim = n) (hline : '\n' ∉ n) :
    title? ("## ".toList ++ n) = some n := by
  obtain ⟨hfront, hend⟩ := Text.trim_eq_self_iff.1 htrim
  obtain ⟨c, cs, hcs⟩ := List.exists_cons_of_ne_nil hne
  have hshape : Shape [' '] n [] :=
    { gap_ne := List.cons_ne_nil ' ' []
      gap_blank := List.all_eq_true.1 rfl
      first := ⟨c, by rw [hcs]; rfl, Text.head?_dropWhile_blank (hfront.trans hcs)⟩
      last := hend ▸ exists_last_trimEnd (hend.symm ▸ hne)
      tail_blank := nofun
      oneLine := by rwa [List.append_nil] }
  have htitle := title?_of_shape hshape
  rwa [List.append_nil] at htitle

/-- A title is trimmed. -/
theorem trim_of_title? {l n : Text} (h : title? l = some n) : n.trim = n := by
  obtain ⟨w, e, hshape, -⟩ := shape_of_title? h
  obtain ⟨c, hc, hblank⟩ := hshape.first
  obtain ⟨cs, hcs⟩ := List.head?_eq_some_iff.1 hc
  have hend : Text.trimEnd (n ++ []) = n := trimEnd_append hshape.last nofun
  rw [List.append_nil] at hend
  refine Text.trim_eq_self_iff.2 ⟨?_, hend⟩
  rw [hcs, List.dropWhile_cons_of_neg (by simpa using hblank)]

/-- Behind the mark of its own title a heading has only blanks. -/
theorem blank_of_title?_mark {n e : Text}
    (h : title? ('#' :: '#' :: ' ' :: (n ++ e)) = some n) : ∀ c ∈ e, isBlank c = true := by
  obtain ⟨w, tail, hshape, hl⟩ := shape_of_title? h
  obtain ⟨b, w, rfl⟩ := List.exists_cons_of_ne_nil hshape.gap_ne
  have hparts : n ++ e = w ++ (n ++ tail) := (List.cons.inj (List.cons.inj (List.cons.inj hl).2).2).2
  cases w with
  | nil =>
    obtain rfl : e = tail := List.append_cancel_left hparts
    exact hshape.tail_blank
  | cons d w =>
    -- the title would begin with a blank of the gap
    obtain ⟨c, hc, hsolid⟩ := hshape.first
    obtain ⟨cs, rfl⟩ := List.head?_eq_some_iff.1 hc
    obtain rfl : c = d := (List.cons.inj hparts).1
    rw [hshape.gap_blank c (by simp)] at hsolid
    cases hsolid

/-- A text with a character that neither headings nor the title have is no part of a heading. -/
theorem not_infix_of_title? {l n m : Text} (h : title? l = some n)
    (hm : ∃ c ∈ m, c ≠ '#' ∧ isBlank c = false ∧ c ∉ n) : ¬ m <:+: l := by
  intro hml
  obtain ⟨c, hcm, hmark, hblank, hcn⟩ := hm
  obtain ⟨w, e, hshape, rfl⟩ := shape_of_title? h
  have hc : c ∈ w ∨ c ∈ n ∨ c ∈ e := by simpa [hmark] using hml.subset hcm
  rcases hc with hc | hc | hc
  · rw [hshape.gap_blank c hc] at hblank; cases hblank
  · exact hcn hc
  · rw [hshape.tail_blank c hc] at hblank; cases hblank

/-- A blank that is no newline may stand at the end of the tail. -/
theorem Shape.concat_iff {w n e : Text} {b : Char} (hb : isBlank b = true) (hn : b ≠ '\n') :
    Shape w n (e ++ [b]) ↔ Shape w n e := by
  have htail : (∀ c ∈ e ++ [b], isBlank c = true) ↔ ∀ c ∈ e, isBlank c = true := by
    rw [List.forall_mem_append, List.forall_mem_singleton, and_iff_left hb]
  have hline : '\n' ∉ n ++ (e ++ [b]) ↔ '\n' ∉ n ++ e := by
    rw [← List.append_assoc, List.mem_append, List.mem_singleton, or_iff_left hn.symm]
  constructor
  · intro h
    exact { h with tail_blank := htail.1 h.tail_blank, oneLine := hline.1 h.oneLine }
  · intro h
    exact { h with tail_blank := htail.2 h.tail_blank, oneLine := hline.2 h.oneLine }

/-- A blank at the end that is no newline does not change the title. -/
theorem title?_concat_blank (l : Text) {b : Char} (hb : isBlank b = true) (hn : b ≠ '\n') :
    title? (l ++ [b]) = title? l := by
  refine Option.ext fun n => ⟨fun h => ?_, fun h => ?_⟩
  · obtain ⟨w, e, hshape, hl⟩ := shape_of_title? h
    rcases List.eq_nil_or_concat e with rfl | ⟨e, c, rfl⟩
    · -- the blank would be the end of the title
      obtain ⟨c, hc, hsolid⟩ := hshape.last
      obtain ⟨m, rfl⟩ := List.getLast?_eq_some_iff.1 hc
      have hparts : l ++ [b] = '#' :: '#' :: (w ++ m) ++ [c] := by simpa using hl
      obtain rfl : b = c := List.singleton_inj.1 (List.append_inj' hparts rfl).2
      rw [hsolid] at hb
      cases hb
    · have hparts : l ++ [b] = '#' :: '#' :: (w ++ (n ++ e)) ++ [c] := by simpa using hl
      obtain ⟨rfl, hcb⟩ := List.append_inj' hparts rfl
      obtain rfl : b = c := List.singleton_inj.1 hcb
      rw [List.concat_eq_append] at hshape
      exact title?_of_shape ((Shape.concat_iff hb hn).1 hshape)
  · obtain ⟨w, e, hshape, rfl⟩ := shape_of_title? h
    have htitle := title?_of_shape ((Shape.concat_iff hb hn).2 hshape)
    simpa using htitle

/-- Whether a line is a heading, and which, does not depend on a carriage return at its end. -/
theorem title?_dropReturn (l : Text) : title? (Text.dropReturn l) = title? l := by
  unfold Text.dropReturn
  split
  · rename_i h
    obtain ⟨k, rfl⟩ := List.getLast?_eq_some_iff.1 h
    rw [List.dropLast_concat, title?_concat_blank k (by decide) (by decide)]
  · rfl

/-- Joined lines have the headings that the lines are. -/
theorem filterMap_title?_lines : ∀ {ls : List Text}, (∀ l ∈ ls, '\n' ∉ l) →
    (Text.joinLines ls).lines.filterMap title? = ls.filterMap title?
  | [], _ => rfl
  | [l], h => by
    rw [Text.joinLines_singleton, Text.lines_of_not_mem (h l (by simp))]
    split
    · rename_i hl; subst hl; rfl
    · rfl
  | l :: k :: ls, h => by
    rw [Text.joinLines_cons l (by simp), Text.lines_line _ (h l (by simp)), List.filterMap_cons,
      List.filterMap_cons, title?_dropReturn,
      filterMap_title?_lines fun x hx => h x (List.mem_cons_of_mem l hx)]

/-! ### The grammar of headings -/

/-- A text is a heading exactly when it is two marks, a gap, a title and a tail, and then the title
    is what is read. So a text without the two marks is no heading, nor is one with only blanks
    behind them, nor one with anything but a blank there, such as a third mark. -/
theorem title?_eq_some_iff_shape (l : Text) :
    (∀ n, title? l = some n ↔ ∃ w e, Shape w n e ∧ l = "##".toList ++ w ++ n ++ e) ∧
    (title? l = none ↔ ¬ ∃ w n e, Shape w n e ∧ l = "##".toList ++ w ++ n ++ e) ∧
    (¬ "##".toList <+: l → title? l = none) ∧
    (∀ rest, l = "##".toList ++ rest → (∀ c ∈ rest, isBlank c = true) → title? l = none) ∧
    (∀ c rest, l = "##".toList ++ c :: rest → isBlank c = false → title? l = none) := by
  have hsome : ∀ n, title? l = some n ↔
      ∃ w e, Shape w n e ∧ l = "##".toList ++ w ++ n ++ e := by
    intro n
    constructor
    · intro h
      obtain ⟨w, e, hshape, rfl⟩ := shape_of_title? h
      exact ⟨w, e, hshape, by simp⟩
    · rintro ⟨w, e, hshape, rfl⟩
      have htitle := title?_of_shape hshape
      simpa using htitle
  refine ⟨hsome, ?_, title?_of_not_mark, ?_, ?_⟩
  · rw [Option.eq_none_iff_forall_ne_some, not_exists]
    refine ⟨fun h => ?_, fun h => ?_⟩
    · rintro w ⟨n, e, hw⟩
      exact h n ((hsome n).2 ⟨w, e, hw⟩)
    · intro n hn
      obtain ⟨w, e, hw⟩ := (hsome n).1 hn
      exact h w ⟨n, e, hw⟩
  · rintro rest rfl hblank
    have hnil : rest.dropWhile isBlank = [] := List.dropWhile_eq_nil_iff.2 hblank
    exact if_pos (Or.inr (Or.inl hnil))
  · rintro c rest rfl hc
    have hnil : (c :: rest).takeWhile isBlank = [] :=
      List.takeWhile_cons_of_neg (by simpa using hc)
    exact if_pos (Or.inl hnil)

/-- A newline may stand in the gap, and a return in the tail. -/
theorem title?_of_spread :
    Shape "\n\t".toList "A b".toList "\r ".toList ∧
    title? ("##".toList ++ "\n\t".toList ++ "A b".toList ++ "\r ".toList) = some "A b".toList ∧
    title? " ## A".toList = none ∧ title? "## \n".toList = none ∧
    title? "### A".toList = none := by
  have hshape : Shape "\n\t".toList "A b".toList "\r ".toList :=
    { gap_ne := by decide
      gap_blank := List.all_eq_true.1 rfl
      first := ⟨'A', rfl, by decide⟩
      last := ⟨'b', rfl, by decide⟩
      tail_blank := List.all_eq_true.1 rfl
      oneLine := by decide }
  obtain ⟨-, -, hmark, -, -⟩ := title?_eq_some_iff_shape " ## A".toList
  obtain ⟨-, -, -, hblank, -⟩ := title?_eq_some_iff_shape "## \n".toList
  obtain ⟨-, -, -, -, hsolid⟩ := title?_eq_some_iff_shape "### A".toList
  exact ⟨hshape, ((title?_eq_some_iff_shape _).1 _).2 ⟨_, _, hshape, rfl⟩, hmark (by decide),
    hblank " \n".toList rfl (List.all_eq_true.1 rfl), hsolid '#' " A".toList rfl (by decide)⟩

end OutlineLint.Heading
