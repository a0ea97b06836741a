import OutlineLint.Proofs.Passage

/-! What a search captures. A text with a passage can be cut in many ways:

        text = before ++ opening ++ blanks ++ body ++ rest

    where `blanks` are some blanks, `body` is something, and `rest` is nothing or begins with what
    ends a passage. Of all cuts the search takes the one with the shortest `before`, among these the
    one with the longest `blanks`, and among these the one with the shortest `body`. Blanks give
    their last character back when the text ends with them, since a body is something. -/

namespace OutlineLint.Passage

/-- A cut of a text around an opening: what stands before it, the blanks behind it, a body, and the
    rest, which is nothing or ends the body. -/
structure Span (opening : Text) (Ends : Text → Prop) (t before blanks body rest : Text) :
    Prop where
  text : t = before ++ (opening ++ (blanks ++ (body ++ rest)))
  blanks_ne : blanks ≠ []
  blank : ∀ c ∈ blanks, isBlank c = true
  body_ne : body ≠ []
  ends : rest = [] ∨ Ends rest

/-- The cut with the shortest part before the opening, then the most blanks, then the shortest
    body. -/
structure FirstSpan (opening : Text) (Ends : Text → Prop) (t before blanks body rest : Text) : Prop
    extends Span opening Ends t before blanks body rest where
  leftmost : ∀ a w b q, Span opening Ends t a w b q → before.length ≤ a.length
  greedy : ∀ w b q, Span opening Ends t before w b q → w.length ≤ blanks.length
  lazy : ∀ b q, Span opening Ends t before blanks b q → body.length ≤ b.length

variable {opening t a w b q : Text} {Ends : Text → Prop}

/-- Where a text is cut, the opening is followed by a blank and one more character. -/
theorem Span.opens (h : Span opening Ends t a w b q) : Opens opening t := by
  obtain ⟨c, v, rfl⟩ := List.exists_cons_of_ne_nil h.blanks_ne
  exact ⟨a, c, v ++ (b ++ q), h.text, h.blank c (by simp), by simp [h.body_ne]⟩

/-- One more character in front. -/
theorem span_cons {c : Char} :
    Span opening Ends (c :: t) (c :: a) w b q ↔ Span opening Ends t a w b q := by
  constructor
  · rintro ⟨htext, hw, hblank, hb, hends⟩
    exact ⟨(List.cons.inj htext).2, hw, hblank, hb, hends⟩
  · rintro ⟨htext, hw, hblank, hb, hends⟩
    exact ⟨congrArg (c :: ·) htext, hw, hblank, hb, hends⟩

namespace FirstSpan

/-- Only one cut comes first. -/
theorem body_unique {a' w' b' q' : Text} (h : FirstSpan opening Ends t a w b q)
    (h' : FirstSpan opening Ends t a' w' b' q') : b = b' := by
  have htext := h.text.symm.trans h'.text
  obtain ⟨rfl, hbehind⟩ := List.append_inj htext
    (le_antisymm (h.leftmost _ _ _ _ h'.toSpan) (h'.leftmost _ _ _ _ h.toSpan))
  obtain ⟨rfl, hparts⟩ := List.append_inj (List.append_cancel_left hbehind)
    (le_antisymm (h'.greedy _ _ _ h.toSpan) (h.greedy _ _ _ h'.toSpan))
  exact (List.append_inj hparts
    (le_antisymm (h.lazy _ _ h'.toSpan) (h'.lazy _ _ h.toSpan))).1

/-- A cut that comes first still does when a character is put in front, unless a passage begins
    there. -/
theorem cons {c : Char} (h : FirstSpan opening Ends t a w b q)
    (hnone : ∀ w' b' q', ¬ Span opening Ends (c :: t) [] w' b' q') :
    FirstSpan opening Ends (c :: t) (c :: a) w b q where
  toSpan := span_cons.2 h.toSpan
  leftmost := by
    rintro (_ | ⟨d, a'⟩) w' b' q' hu
    · exact absurd hu (hnone w' b' q')
    · obtain rfl : c = d := (List.cons.inj hu.text).1
      exact Nat.succ_le_succ (h.leftmost _ _ _ _ (span_cons.1 hu))
  greedy w' b' q' hu := h.greedy _ _ _ (span_cons.1 hu)
  lazy b' q' hu := h.lazy _ _ (span_cons.1 hu)

end FirstSpan

/-! ### The parts behind an opening -/

variable {closes : Text → Bool}

/-- The shortest beginning behind which the text is over or closes. -/
theorem exists_upTo_eq (closes : Text → Bool) : ∀ t : Text, ∃ q,
    t = upTo closes t ++ q ∧ (q = [] ∨ closes q = true) ∧ ∀ b' q',
      t = b' ++ q' → (q' = [] ∨ closes q' = true) → (upTo closes t).length ≤ b'.length
  | [] => ⟨[], rfl, Or.inl rfl, fun _ _ _ _ => Nat.zero_le _⟩
  | c :: t => by
    by_cases hc : closes (c :: t) = true
    · exact ⟨c :: t, by rw [upTo, if_pos hc, List.nil_append], Or.inr hc,
        fun _ _ _ _ => by rw [upTo, if_pos hc]; exact Nat.zero_le _⟩
    · obtain ⟨q, ht, hq, hmin⟩ := exists_upTo_eq closes t
      refine ⟨q, by rw [upTo, if_neg hc, List.cons_append, ← ht], hq, ?_⟩
      rintro (_ | ⟨d, b'⟩) q' heq hq'
      · rw [List.nil_append] at heq
        subst heq
        exact absurd (hq'.resolve_left (List.cons_ne_nil c t)) hc
      · rw [upTo, if_neg hc]
        exact Nat.succ_le_succ (hmin b' q' (List.cons.inj heq).2 hq')

/-- Blanks in front of a text are at most those that the search skips. -/
theorem length_le_takeWhile {r : Text} (h : ∀ c ∈ w, isBlank c = true) :
    w.length ≤ ((w ++ r).takeWhile isBlank).length := by
  rw [List.takeWhile_append_of_pos h, List.length_append]
  exact Nat.le_add_right _ _

/-- A body in front of which the blanks end. -/
theorem firstSpan_of_solid {c : Char} {cs v : Text} (hv : v.dropWhile isBlank = c :: cs)
    (hne : v.takeWhile isBlank ≠ []) : ∃ q, FirstSpan opening (closes · = true) (opening ++ v)
      [] (v.takeWhile isBlank) (c :: upTo closes cs) q := by
  obtain ⟨q, hcs, hq, hmin⟩ := exists_upTo_eq closes cs
  have hsplit : v.takeWhile isBlank ++ c :: cs = v := by
    rw [← hv, List.takeWhile_append_dropWhile]
  refine ⟨q, ⟨?_, hne, fun _ => List.mem_takeWhile_imp, List.cons_ne_nil _ _, hq⟩,
    fun _ _ _ _ _ => Nat.zero_le _, fun w b q hu => ?_, ?_⟩
  · rw [List.nil_append, List.cons_append, ← hcs, hsplit]
  · rw [List.append_cancel_left hu.text]
    exact length_le_takeWhile hu.blank
  · rintro (_ | ⟨d, b⟩) q' hu
    · exact absurd rfl hu.body_ne
    · have htext := List.append_cancel_left (hsplit.trans (List.append_cancel_left hu.text))
      exact Nat.succ_le_succ (hmin b q' (List.cons.inj htext).2 hu.ends)

/-- A body in a text that ends with the blanks: the last of them. -/
theorem firstSpan_of_blank {x : Char} (hall : ∀ c ∈ w ++ [x], isBlank c = true) (hne : w ≠ []) :
    FirstSpan opening (closes · = true) (opening ++ (w ++ [x])) [] w [x] [] where
  text := by simp
  blanks_ne := hne
  blank c hc := hall c (List.mem_append_left _ hc)
  body_ne := List.cons_ne_nil _ _
  ends := Or.inl rfl
  leftmost _ _ _ _ _ := Nat.zero_le _
  greedy w' b q hu := by
    have hlength := congrArg List.length (List.append_cancel_left hu.text)
    have hb := List.length_pos_of_ne_nil hu.body_ne
    simp only [List.length_append, List.length_singleton] at hlength
    omega
  lazy b q hu := List.length_pos_of_ne_nil hu.body_ne

/-- A body behind an opening is cut off by the most blanks, and is then the shortest. -/
theorem exists_firstSpan_of_bodyAfter? {v : Text} (h : bodyAfter? closes v = some b) :
    ∃ w q, FirstSpan opening (closes · = true) (opening ++ v) [] w b q := by
  rw [bodyAfter?] at h
  split at h
  · rename_i c cs hdrop
    split at h
    · cases h
    · rename_i hne
      obtain rfl := Option.some.inj h
      exact ⟨_, firstSpan_of_solid hdrop hne⟩
  · rename_i hdrop
    have hall := List.dropWhile_eq_nil_iff.1 hdrop
    rw [List.takeWhile_eq_self_iff.2 hall] at h
    split at h
    · rename_i hlen
      obtain ⟨x, hx, rfl⟩ := Option.map_eq_some_iff.1 h
      obtain ⟨w, rfl⟩ := List.getLast?_eq_some_iff.1 hx
      refine ⟨w, [], firstSpan_of_blank hall ?_⟩
      rintro rfl
      simp at hlen
    · cases h

/-! ### The search -/

/-- Where no body begins, no cut begins. -/
theorem not_span_of_bodyAt? (h : bodyAt? opening closes t = none) (w b q : Text) :
    ¬ Span opening Ends t [] w b q := by
  intro hs
  obtain ⟨c, v, rfl⟩ := List.exists_cons_of_ne_nil hs.blanks_ne
  rcases bodyAt?_eq_none_iff.1 h c (v ++ (b ++ q)) hs.text with hc | hv
  · rw [hs.blank c (by simp)] at hc
    cases hc
  · exact hs.body_ne (List.append_eq_nil_iff.1 (List.append_eq_nil_iff.1 hv).2).1

/-- What is found is the body of the cut that comes first. -/
theorem exists_firstSpan_of_locate? : ∀ {t : Text}, locate? opening closes t = some b →
    ∃ a w q, FirstSpan opening (closes · = true) t a w b q
  | [], h => by cases h
  | c :: t, h => by
    rw [locate?_cons, Option.or_eq_some_iff] at h
    rcases h with h | ⟨hnone, h⟩
    · rw [bodyAt?] at h
      split at h
      · rename_i hp
        obtain ⟨v, hv⟩ := List.isPrefixOf_iff_prefix.1 hp
        rw [← hv, List.drop_left] at h
        rw [← hv]
        exact ⟨[], exists_firstSpan_of_bodyAfter? h⟩
      · cases h
    · obtain ⟨a, w, q, hfirst⟩ := exists_firstSpan_of_locate? h
      exact ⟨c :: a, w, q, hfirst.cons (not_span_of_bodyAt? hnone)⟩

/-- The search finds exactly the body of the cut that comes first. -/
theorem locate?_eq_some_iff_firstSpan (hends : ∀ q, closes q = true ↔ Ends q) :
    locate? opening closes t = some b ↔ ∃ a w q, FirstSpan opening Ends t a w b q := by
  obtain rfl : (closes · = true) = Ends := funext fun q => propext (hends q)
  refine ⟨exists_firstSpan_of_locate?, ?_⟩
  rintro ⟨a, w, q, hfirst⟩
  obtain ⟨b', hb'⟩ : ∃ b', locate? opening closes t = some b' := by
    rw [← Option.ne_none_iff_exists', Ne, locate?_eq_none_iff]
    exact not_not_intro hfirst.opens
  obtain ⟨a', w', q', hfirst'⟩ := exists_firstSpan_of_locate? hb'
  rw [hb', hfirst.body_unique hfirst']

/-! ### The ownership passage -/

/-- A newline and exactly two marks. -/
def SectionEnd (q : Text) : Prop := ∃ r, q = "\n##".toList ++ r ∧ r.head? ≠ some '#'

theorem atSection_iff {q : Text} : atSection q = true ↔ SectionEnd q := by
  unfold atSection
  split
  · rename_i r
    constructor
    · intro h
      exact ⟨r, rfl, by simpa using h⟩
    · rintro ⟨r', heq, hr⟩
      obtain rfl : r = r' := by simpa using heq
      simpa using hr
  · rename_i hne
    refine iff_of_false Bool.false_ne_true ?_
    rintro ⟨r, rfl, -⟩
    exact hne r rfl

/-- A deeper heading does not end a section. -/
theorem SectionEnd.not_deeper {q : Text} (h : SectionEnd q) : ¬ "\n###".toList <+: q := by
  obtain ⟨r, rfl, hr⟩ := h
  rintro ⟨v, hv⟩
  have hv' : '#' :: v = r := by simpa using hv
  exact hr (hv' ▸ rfl)

end Passage

namespace Ownership
open Passage

/-- The ownership passage is the body of the first cut at the heading of the section, and there is
    none exactly where nowhere the heading is followed by a blank and one more character. No cut
    ends at a deeper heading. -/
theorem passage?_eq_some_iff_firstSpan (o : Ownership) (text : Text) :
    (∀ b, o.passage? text = some b ↔
      ∃ before blanks rest,
        FirstSpan (sectionMark o.title) SectionEnd text before blanks b rest) ∧
    (o.passage? text = none ↔
      ¬ ∃ u w v, text = u ++ (sectionMark o.title ++ w :: v) ∧ isBlank w = true ∧ v ≠ []) ∧
    ∀ before blanks b rest, Span (sectionMark o.title) SectionEnd text before blanks b rest →
      ¬ "\n###".toList <+: rest := by
  refine ⟨fun b => locate?_eq_some_iff_firstSpan fun q => atSection_iff, locate?_eq_none_iff,
    fun before blanks b rest hs => ?_⟩
  rcases hs.ends with rfl | hend
  · decide
  · exact hend.not_deeper

/-- An empty section takes the next one in, since a body is something. -/
example : Template.standard.ownership.passage?
    "## Ownership & Maintenance\n\n## B\n### C\n##".toList = some "## B\n### C".toList := by
  decide +kernel

end Ownership

/-! ### The events passage -/

/-- A newline and two marks, whatever follows. -/
def Passage.HeadingEnd (q : Text) : Prop := "\n##".toList <+: q

namespace Telemetry
open Passage

/-- The events passage is the body of the first cut at the heading of the subsection, which a
    heading of any depth below the first ends; and there is none exactly where nowhere the heading
    is followed by a blank and one more character. -/
theorem passage?_eq_some_iff_cut (m : Telemetry) (text : Text) :
    (∀ b, m.passage? text = some b ↔
      ∃ before blanks rest,
        FirstSpan (subsectionMark m.subsection) HeadingEnd text before blanks b rest) ∧
    (m.passage? text = none ↔
      ¬ ∃ u w v, text = u ++ (subsectionMark m.subsection ++ w :: v) ∧ isBlank w = true ∧ v ≠ []) :=
  ⟨fun _ => locate?_eq_some_iff_firstSpan fun _ => atHeading_iff, locate?_eq_none_iff⟩

/-- A deeper heading ends the events, and an end of blanks gives back its last character. -/
example : Template.standard.telemetry.passage? "### Events to Track x\n### B".toList =
      some "x".toList ∧
    Template.standard.telemetry.passage? "### Events to Track \n\t\n".toList =
      some "\n".toList := by
  decide +kernel

end Telemetry

end OutlineLint
