import OutlineLint.Proofs.Outline

/-! Outlines as texts. A section is written as a heading and a body, and every line of both is ended
    by a carriage return and a newline:

        A ↦ x, y          ## A CR LF  x CR LF  y CR LF
        B ↦ (empty)       ## B CR LF  CR LF

    Reading takes off the one return that writing puts on, so a line of a body may have returns of
    its own. What a text cannot give cannot come back: a title with blanks at its ends, or a body
    with a heading in it. Everything else does, so the well-formed outlines are those of texts. -/

namespace OutlineLint

/-- A section that can stand in a text: its title is a title, and no line of its body is a
    heading. -/
structure Section.WellFormed (s : Section) : Prop where
  named : s.title ≠ []
  trimmed : s.title.trim = s.title
  oneLine : '\n' ∉ s.title
  plain : ∀ l ∈ Text.pieces '\n' s.body, Heading.title? l = none

/-- The section as a text. -/
def Section.render (s : Section) : Text :=
  "## ".toList ++ s.title ++ "\r\n".toList ++ s.body.crlf ++ "\r\n".toList

theorem Section.lines_render {s : Section} (h : s.WellFormed) (t : Text) :
    (s.render ++ t).lines = ("## ".toList ++ s.title) :: (Text.pieces '\n' s.body ++ t.lines) := by
  have hline : '\n' ∉ "## ".toList ++ s.title := by simpa using h.oneLine
  rw [← Text.lines_crlf, ← Text.lines_return _ hline]
  simp only [Section.render, List.append_assoc]

namespace Outline

/-- All sections can stand in a text. -/
def WellFormed (o : Outline) : Prop := ∀ s ∈ o.sections, s.WellFormed

/-- The outline as a text. -/
def render (o : Outline) : Text := o.sections.flatMap Section.render

/-! ### Reading what is written -/

/-- Sections that can stand in a text are cut out of it again. -/
theorem cut_render : ∀ {ss : List Section}, (∀ s ∈ ss, s.WellFormed) →
    cut (Text.lines (ss.flatMap Section.render)) = ⟨[], ss⟩
  | [], _ => rfl
  | s :: ss, h => by
    have hs := h s (by simp)
    have hhead := Heading.title?_of_trim hs.named hs.trimmed hs.oneLine
    rw [List.flatMap_cons, Section.lines_render hs, cut_heading hhead, cut_append hs.plain,
      cut_render fun x hx => h x (by simp [hx]), List.append_nil, Text.joinLines_pieces]

theorem ofText_render_of_wellFormed {o : Outline} (h : o.WellFormed) : ofText o.render = o := by
  rw [ofText, render, cut_render h, ofList_sections]

/-! ### What is read can be written -/

theorem wellFormed_ofText (t : Text) : (ofText t).WellFormed := by
  intro s hs
  obtain ⟨l, -, hl⟩ := mem_titles_ofText.1 (List.mem_map_of_mem (f := Section.title) hs)
  refine ⟨Heading.ne_nil_of_title? hl, Heading.trim_of_title? hl,
    Heading.newline_not_mem_of_title? hl, ?_⟩
  obtain ⟨before, body, after, hunder, hbody⟩ := body?_ofText_eq_some_iff.1 (body?_of_mem hs)
  rw [hbody]
  by_cases hnil : body = []
  · -- no lines are written as one empty line
    rw [hnil]
    exact fun l hl => List.mem_singleton.1 hl ▸ rfl
  · obtain ⟨⟨h, -, hlines⟩, hplain, -⟩ := hunder
    have hnewline : ∀ l ∈ body, '\n' ∉ l := fun l hl =>
      Text.not_mem_of_mem_lines (t := t) l (by simp [hlines, hl])
    rwa [Text.pieces_joinLines hnil hnewline]

/-- Reading undoes writing exactly for the well-formed outlines, and these are the outlines of
    texts. So the outline of a text comes back when it is written. -/
theorem ofText_render_iff_wellFormed (o : Outline) (t : Text) :
    (ofText o.render = o ↔ o.WellFormed) ∧ (o.WellFormed ↔ ∃ t, ofText t = o) ∧
      ofText (ofText t).render = ofText t := by
  refine ⟨⟨fun h => h ▸ wellFormed_ofText _, ofText_render_of_wellFormed⟩, ⟨fun h => ?_, ?_⟩, ?_⟩
  · exact ⟨o.render, ofText_render_of_wellFormed h⟩
  · rintro ⟨t, rfl⟩
    exact wellFormed_ofText t
  · exact ofText_render_of_wellFormed (wellFormed_ofText t)

/-- A return at the end of a line, blank lines and an empty body come back. -/
example : ofText (ofText "## A \r\nx\r\r\n\n\n## B".toList).render =
    ofText "## A\nx\r\r\n\n\n##\tB\n\n".toList := by decide

end Outline

end OutlineLint
