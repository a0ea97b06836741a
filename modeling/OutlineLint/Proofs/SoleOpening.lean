import OutlineLint.Proofs.Ownership
import OutlineLint.Proofs.PassageLines

/-! Passages at an opening that stands once. Where the opening is a line of its own and stands
    nowhere else, the lines behind this one tell the body of the passage:

        opening                           opening
        (blank)                           (blank)
        line                 body         closing line         body
        closing line                      line                 body
                                          closing line

    A line that is not blank in front of the next closing line keeps the body in front of it. When
    there is none the body begins with the closing line, since a body is something, and runs to the
    one after. -/

namespace OutlineLint

namespace Text
variable {needle : Text}

/-! ### Places of a needle line by line -/

theorem occurrences_nil (hne : needle ≠ []) : occurrences needle [] = 0 := by
  simp [occurrences, hne]

theorem occurrences_cons (c : Char) (t : Text) : occurrences needle (c :: t) =
    occurrences needle t + if needle.isPrefixOf (c :: t) then 1 else 0 := by
  rw [occurrences, List.tails_cons, List.countP_cons, occurrences]

/-- A needle stands before or behind a character that it lacks. -/
theorem occurrences_append_cons {c : Char} (hc : c ∉ needle) (hne : needle ≠ []) (l t : Text) :
    occurrences needle (l ++ c :: t) = occurrences needle l + occurrences needle t := by
  have hp : ∀ l : Text, needle.isPrefixOf (l ++ c :: t) = needle.isPrefixOf l := fun l => by
    rw [Bool.eq_iff_iff, List.isPrefixOf_iff_prefix, List.isPrefixOf_iff_prefix,
      prefix_line_iff t hc]
  induction l with
  | nil =>
    have hnil : needle.isPrefixOf ([] ++ c :: t) = false := by
      rw [hp, Bool.eq_false_iff, Ne, List.isPrefixOf_iff_prefix, List.prefix_nil]
      exact hne
    rw [List.nil_append] at hnil ⊢
    rw [occurrences_cons, hnil, occurrences_nil hne]
    simp
  | cons d l ih =>
    have hcons := hp (d :: l)
    rw [List.cons_append] at hcons ⊢
    rw [occurrences_cons, occurrences_cons, hcons, ih]
    omega

/-- A needle stands in the lines of a text, as often as it stands in the text. -/
theorem occurrences_eq_countP (hn : '\n' ∉ needle) (hr : '\r' ∉ needle) (hne : needle ≠ [])
    (t : Text) : occurrences needle t =
      (t.lines.flatMap List.tails).countP (needle.isPrefixOf ·) := by
  induction t using lineRec with
  | last l hl =>
    rw [lines_of_not_mem hl]
    by_cases h : l = []
    · subst h
      simp [occurrences_nil hne]
    · simp [h, occurrences]
  | line l t hl ih =>
    have hreturn : occurrences needle (dropReturn l) = occurrences needle l := by
      by_cases h : l.getLast? = some '\r'
      · obtain ⟨k, rfl⟩ := List.getLast?_eq_some_iff.1 h
        rw [dropReturn_concat, occurrences_append_cons hr hne, occurrences_nil hne, Nat.add_zero]
      · rw [dropReturn, if_neg h]
    rw [occurrences_append_cons hn hne, lines_line t hl, List.flatMap_cons, List.countP_append,
      ← ih, ← hreturn, occurrences]

/-- Where a line is a needle that stands once, no line before it has the needle. -/
theorem not_infix_of_once (hn : '\n' ∉ needle) (hr : '\r' ∉ needle) (hne : needle ≠ []) {t : Text}
    {before after : List Text} (hlines : t.lines = before ++ needle :: after)
    (honce : occurrences needle t = 1) : ∀ l ∈ before, ¬ needle <:+: l := by
  intro l hl hin
  obtain ⟨s, hp, u, rfl⟩ := List.infix_iff_prefix_suffix.1 hin
  obtain ⟨a, b, rfl⟩ := List.append_of_mem hl
  have hline : 0 < occurrences needle (u ++ s) := occurrences_pos hp u
  have hself : 0 < occurrences needle needle := occurrences_pos List.prefix_rfl []
  rw [occurrences_eq_countP hn hr hne, hlines] at honce
  simp only [List.flatMap_append, List.flatMap_cons, List.countP_append] at honce
  rw [occurrences] at hline hself
  omega

end Text

namespace Passage
variable {closes : Text → Bool} {opening m : Text}

/-! ### The lines behind a sole opening -/

theorem behind?_of_not_infix {l : Text} (h : ¬ opening <:+: l) : behind? opening l = none := by
  rw [Option.eq_none_iff_forall_ne_some]
  intro r hr
  obtain ⟨u, rfl⟩ := behind?_eq_some hr
  exact h ⟨u, r, by simp⟩

theorem behind?_self (hne : opening ≠ []) : behind? opening opening = some [] := by
  obtain ⟨c, cs, rfl⟩ := List.exists_cons_of_ne_nil hne
  simp [behind?]

/-- Lines without the opening are passed over. -/
theorem passageLines_append {before : List Text} (h : ∀ l ∈ before, ¬ opening <:+: l)
    (ls : List Text) :
    passageLines opening closes (before ++ ls) = passageLines opening closes ls := by
  induction before with
  | nil => rfl
  | cons l before ih =>
    rw [List.cons_append, passageLines, behind?_of_not_infix (h l (by simp))]
    exact ih fun k hk => h k (List.mem_cons_of_mem l hk)

/-- Behind an opening that stands once, in a line of its own. -/
theorem passageLines_of_once (ho : LineOpening opening) (hr : '\r' ∉ opening) {t : Text}
    {before after : List Text} (hlines : t.lines = before ++ opening :: after)
    (honce : Text.occurrences opening t = 1) :
    passageLines opening closes t.lines = bodyLines closes after := by
  have hbefore : ∀ l ∈ before, ¬ opening <:+: l := fun l hl =>
    Text.not_infix_of_once ho.newline hr ho.ne_nil hlines honce l hl
  rw [hlines, passageLines_append hbefore, passageLines, behind?_self ho.ne_nil]
  exact bodyLines_blank (by simp) after

/-! ### Up to a closing line -/

section Closing
variable {between after : List Text} {heading : Text}

theorem bodyLines_of_blanks (h : ∀ l ∈ between, ∀ c ∈ l, isBlank c = true) (ls : List Text) :
    bodyLines closes (between ++ ls) = bodyLines closes ls := by
  induction between with
  | nil => rfl
  | cons l between ih =>
    rw [List.cons_append, bodyLines_blank (h l (by simp))]
    exact ih fun k hk => h k (List.mem_cons_of_mem l hk)

/-- The lines of a body are some of the lines. -/
theorem bodyLines_sublist (ls : List Text) : (bodyLines closes ls).Sublist ls := by
  induction ls with
  | nil => exact List.Sublist.slnil
  | cons l ls ih =>
    by_cases hl : ∀ c ∈ l, isBlank c = true
    · rw [bodyLines_blank hl]
      exact ih.cons l
    · rw [bodyLines_solid hl]
      exact (List.takeWhile_sublist _).cons_cons l

/-- Where no line closes the body has all lines but the blank ones in front. -/
theorem bodyLines_of_inside {ls : List Text} (h : ∀ l ∈ ls, closes ('\n' :: l) = false) :
    bodyLines closes ls = ls.dropWhile fun l => l.all isBlank := by
  induction ls with
  | nil => rfl
  | cons l ls ih =>
    rw [List.forall_mem_cons] at h
    by_cases hl : ∀ c ∈ l, isBlank c = true
    · rw [bodyLines_blank hl, List.dropWhile_cons_of_pos (by simpa using hl), ih h.2]
    · rw [bodyLines_solid hl, List.dropWhile_cons_of_neg (by simpa using hl),
        List.takeWhile_eq_self_iff.2 fun k hk => by rw [h.2 k hk]; rfl]

/-- A line that is not blank keeps the body in front of what closes. -/
theorem bodyLines_append (hstop : ∀ l ∈ after.head?, closes ('\n' :: l) = true)
    (hsolid : ∃ l ∈ between, ∃ c ∈ l, isBlank c = false) :
    bodyLines closes (between ++ after) = bodyLines closes between := by
  have hafter : (after.takeWhile fun k => !closes ('\n' :: k)) = [] := by
    cases after with
    | nil => rfl
    | cons l after => rw [List.takeWhile_cons_of_neg (by simp [hstop l rfl])]
  induction between with
  | nil => simp at hsolid
  | cons k between ih =>
    rw [List.cons_append]
    by_cases hk : ∀ c ∈ k, isBlank c = true
    · rw [bodyLines_blank hk, bodyLines_blank hk]
      exact ih ((List.exists_mem_cons_iff ..).1 hsolid |>.resolve_left (Text.not_exists_solid hk))
    · rw [bodyLines_solid hk, bodyLines_solid hk, List.takeWhile_append, hafter, List.append_nil]
      split
      · rename_i hlength
        rw [(List.takeWhile_sublist _).eq_of_length hlength]
      · rfl

theorem mem_of_mem_bodyLines (hclose : closes ('\n' :: heading) = true)
    (hsolid : ∃ l ∈ between, ∃ c ∈ l, isBlank c = false) :
    ∀ l ∈ bodyLines closes (between ++ heading :: after), l ∈ between := by
  intro l hl
  rw [bodyLines_append (by simpa using hclose) hsolid] at hl
  exact (bodyLines_sublist between).subset hl

end Closing

end Passage

end OutlineLint
