import OutlineLint.Text.Basic

/-! Outlines: the titled sections of a document in order, with at most one section per title.
    Inserting under a title that is there replaces its body and keeps its place, so of several
    sections with one title the first gives the place and the last the body.

        insert a 1, insert b 2, insert a 3   ──▶   a ↦ 3, b ↦ 2 -/

namespace OutlineLint

/-- A section: its title and the text under it. -/
structure Section where
  title : Text
  body : Text
  deriving DecidableEq, Repr

/-- The sections of a document, no two with the same title. -/
structure Outline where
  sections : List Section
  nodup : (sections.map Section.title).Nodup
  deriving DecidableEq

namespace Outline

@[ext] theorem ext {a b : Outline} (h : a.sections = b.sections) : a = b := by
  cases a; cases b; cases h; rfl

/-- The outline without sections. -/
def empty : Outline := ⟨[], List.nodup_nil⟩

/-- The titles, in order. -/
def titles (o : Outline) : List Text := o.sections.map Section.title

/-- The number of sections. -/
def size (o : Outline) : Nat := o.sections.length

/-- Whether there is a section with the title. -/
def contains (o : Outline) (title : Text) : Bool := decide (title ∈ o.titles)

/-- The body under a title. -/
def body? (o : Outline) (title : Text) : Option Text :=
  (o.sections.find? (·.title = title)).map Section.body

/-- Replaces the body of the sections with the title of `s`. -/
def replace (s : Section) (ss : List Section) : List Section :=
  ss.map fun old => if old.title = s.title then s else old

@[simp] theorem map_title_replace (s : Section) (ss : List Section) :
    (replace s ss).map Section.title = ss.map Section.title := by
  induction ss with
  | nil => rfl
  | cons old ss ih =>
    simp only [replace, List.map_cons, List.cons.injEq] at ih ⊢
    exact ⟨by split <;> simp_all, ih⟩

/-- Puts a section in: in the place of the section with its title, or at the end. -/
def insert (o : Outline) (s : Section) : Outline :=
  if h : s.title ∈ o.titles then
    ⟨replace s o.sections, by simpa using o.nodup⟩
  else
    ⟨o.sections ++ [s], by
      simp only [List.map_append, List.map_cons, List.map_nil]
      refine List.nodup_append.2 ⟨o.nodup, by simp, fun a ha b hb hab => h ?_⟩
      rwa [← List.mem_singleton.1 hb, ← hab]⟩

/-- Puts sections in, one after the other. -/
def insertAll (o : Outline) (ss : List Section) : Outline := ss.foldl insert o

/-- The outline of a list of sections, of which several may have one title. -/
def ofList (ss : List Section) : Outline := empty.insertAll ss

/-! ### What an insertion changes -/

theorem contains_iff {o : Outline} {title : Text} : o.contains title = true ↔ title ∈ o.titles := by
  simp [contains]

theorem sections_insert (o : Outline) (s : Section) : (o.insert s).sections =
    if s.title ∈ o.titles then replace s o.sections else o.sections ++ [s] := by
  unfold insert
  split <;> rfl

/-- A new title is added at the end. -/
theorem titles_insert (o : Outline) (s : Section) :
    (o.insert s).titles = if s.title ∈ o.titles then o.titles else o.titles ++ [s.title] := by
  rw [titles, sections_insert]
  split
  · exact map_title_replace s o.sections
  · exact List.map_append

theorem find?_replace_self {s : Section} : ∀ {ss : List Section}, s.title ∈ ss.map Section.title →
    (replace s ss).find? (·.title = s.title) = some s
  | [], h => by simp at h
  | old :: ss, h => by
    by_cases ho : old.title = s.title
    · simp [replace, ho]
    · have ht : s.title ∈ ss.map Section.title := by
        rcases List.mem_cons.1 h with heq | hmem
        · exact absurd heq.symm ho
        · exact hmem
      simpa [replace, ho] using find?_replace_self ht

theorem find?_replace_of_ne {s : Section} {title : Text} (h : title ≠ s.title) :
    ∀ ss : List Section, (replace s ss).find? (·.title = title) = ss.find? (·.title = title)
  | [] => rfl
  | old :: ss => by
    have ih := find?_replace_of_ne h ss
    simp only [replace] at ih
    by_cases ho : old.title = s.title
    · have hs : s.title ≠ title := h.symm
      simp [replace, ho, hs, ih]
    · by_cases ht : old.title = title
      · subst ht
        simp [replace, ho]
      · simp [replace, ho, ht, ih]

/-- The title of an inserted section has its body from then on. -/
@[simp] theorem body?_insert_self (o : Outline) (s : Section) :
    (o.insert s).body? s.title = some s.body := by
  unfold insert
  split
  · rename_i h
    simp only [body?]
    rw [find?_replace_self h]; rfl
  · rename_i h
    have hn : o.sections.find? (·.title = s.title) = none := by
      rw [List.find?_eq_none]
      intro x hx hxs
      exact h (List.mem_map.2 ⟨x, hx, by simpa using hxs⟩)
    simp [body?, List.find?_append, hn]

/-- Every other title keeps its body. -/
theorem body?_insert_of_ne {o : Outline} {s : Section} {title : Text} (h : title ≠ s.title) :
    (o.insert s).body? title = o.body? title := by
  unfold insert
  split
  · simp only [body?]
    rw [find?_replace_of_ne h]
  · have hs : s.title ≠ title := h.symm
    simp [body?, List.find?_append, hs]

end Outline

end OutlineLint
