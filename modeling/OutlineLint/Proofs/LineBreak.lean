import OutlineLint.Proofs.PassageLines

/-! Line breaks. A text in which every newline has got a return in front of it has the same lines,
    and so the same outline, and passages with the same needles. What the rules find differs in two
    places only:

        ## Ownership & Maintenance LF        nothing behind one blank: no passage
        ## Ownership & Maintenance CR LF     the last of two blanks is the body of a passage

        **Role**: behind many short lines    the window ends sooner, since returns count

    Where the ownership heading is the end of the text and opens no passage before, the one text is
    not asked for labels and the other lacks them all. A role label that is seen in the window of
    the longer text is seen in that of the shorter one. -/

namespace OutlineLint

namespace Text

theorem crlf_cons (c : Char) (t : Text) :
    crlf (c :: t) = (if c = '\n' then ['\r', '\n'] else [c]) ++ crlf t := List.flatMap_cons

/-- Returns in front of newlines are no part of the lines. -/
theorem lines_crlf_self {t : Text} (ht : '\r' ∉ t) : lines (crlf t) = lines t := by
  induction t using lineRec with
  | last l hl => rw [crlf_of_not_mem hl]
  | line l t hl ih =>
    have hl' : '\n' ∉ l ++ ['\r'] := by simpa using hl
    have hr : l.getLast? ≠ some '\r' := fun h =>
      ht (List.mem_append_left _ (List.mem_of_getLast? h))
    rw [crlf_line t hl, lines_line _ hl', dropReturn_concat, lines_line t hl, dropReturn,
      if_neg hr, ih fun h => ht (by simp [h])]

section Line
variable {m : Text}

/-- What lies in one line begins a text with returns when it begins the text without them; then what
    follows it has got the other returns. -/
theorem crlf_eq_append_iff (hr : '\r' ∉ m) (hn : '\n' ∉ m) {t s : Text} :
    crlf t = m ++ s ↔ ∃ v, t = m ++ v ∧ crlf v = s := by
  induction m generalizing t with
  | nil => simp
  | cons x m ih =>
    rw [List.mem_cons, not_or] at hr hn
    cases t with
    | nil => simp [crlf]
    | cons c t =>
      rw [crlf_cons]
      by_cases hc : c = '\n'
      · subst hc
        simp [hr.1, hn.1]
      · rw [if_neg hc]
        simp [ih hr.2 hn.2, and_assoc]

theorem infix_of_infix_cons {c : Char} (hc : c ∉ m) {s : Text} (h : m <:+: c :: s) : m <:+: s := by
  rcases (infix_line_iff (l := []) s hc).1 h with h | h
  · rw [List.infix_nil.1 h]
    exact List.nil_infix
  · exact h

/-- What stands near the top of a text with returns stands near the top without them. -/
theorem infix_take_crlf (hr : '\r' ∉ m) (hn : '\n' ∉ m) {t : Text} {n : Nat}
    (h : m <:+: (crlf t).take n) : m <:+: t.take n := by
  induction t generalizing n with
  | nil => exact h
  | cons c t ih =>
    by_cases hc : c = '\n'
    · -- the line break takes two characters of the window instead of one
      subst hc
      rw [crlf_cons, if_pos rfl] at h
      match n, h with
      | 0, h => exact h
      | 1, h => exact (infix_of_infix_cons hr h).trans List.nil_infix
      | n + 2, h =>
        have ht : m <:+: t.take n := ih (infix_of_infix_cons hn (infix_of_infix_cons hr h))
        exact List.infix_cons (ht.trans (List.take_prefix_take_left (Nat.le_succ n)).isInfix)
    · cases n with
      | zero => exact h
      | succ n =>
        have hcrlf : crlf (c :: t) = c :: crlf t := by rw [crlf_cons, if_neg hc]; rfl
        rw [hcrlf, List.take_succ_cons] at h
        rcases List.infix_cons_iff.1 h with hp | h
        · rw [← List.take_succ_cons, ← hcrlf, List.prefix_take_iff] at hp
          obtain ⟨⟨s, hs⟩, hlen⟩ := hp
          obtain ⟨v, hv, -⟩ := (crlf_eq_append_iff hr hn).1 hs.symm
          exact (List.prefix_take_iff.2 ⟨⟨v, hv.symm⟩, hlen⟩).isInfix
        · exact List.infix_cons (ih h)

end Line

end Text

namespace Passage
open Text

theorem crlf_eq_nil_iff {t : Text} : crlf t = [] ↔ t = [] := by
  cases t with
  | nil => simp [crlf]
  | cons c t =>
    rw [crlf_cons]
    split <;> simp

/-- A newline at the end is one blank, and with its return it is two. -/
theorem blank_crlf_iff {r : Text} :
    (∃ w v, crlf r = w :: v ∧ isBlank w = true ∧ v ≠ []) ↔
      (∃ w v, r = w :: v ∧ isBlank w = true ∧ v ≠ []) ∨ r = ['\n'] := by
  have hreturn : isBlank '\r' = true := by decide
  have hnewline : isBlank '\n' = true := by decide
  cases r with
  | nil => simp [crlf]
  | cons d v =>
    rw [crlf_cons]
    by_cases hd : d = '\n'
    · subst hd
      by_cases hv : v = []
      · simp [hreturn, hv]
      · simp [hreturn, hnewline, hv]
    · simp [hd, crlf_eq_nil_iff]

/-- An opening in front of a text with returns. -/
theorem front_crlf_iff {opening : Text} (hr : '\r' ∉ opening) (hn : '\n' ∉ opening) {t : Text} :
    (∃ w v, crlf t = opening ++ w :: v ∧ isBlank w = true ∧ v ≠ []) ↔
      (∃ w v, t = opening ++ w :: v ∧ isBlank w = true ∧ v ≠ []) ∨ t = opening ++ ['\n'] := by
  constructor
  · rintro ⟨w, v, ht, hw, hv⟩
    obtain ⟨r, rfl, hrest⟩ := (crlf_eq_append_iff hr hn).1 ht
    rcases blank_crlf_iff.1 ⟨w, v, hrest, hw, hv⟩ with ⟨w, v, rfl, hw, hv⟩ | rfl
    · exact Or.inl ⟨w, v, rfl, hw, hv⟩
    · exact Or.inr rfl
  · intro h
    obtain ⟨r, rfl, hrest⟩ : ∃ r, t = opening ++ r ∧
        ((∃ w v, r = w :: v ∧ isBlank w = true ∧ v ≠ []) ∨ r = ['\n']) := by
      rcases h with ⟨w, v, rfl, hw, hv⟩ | rfl
      · exact ⟨_, rfl, Or.inl ⟨w, v, rfl, hw, hv⟩⟩
      · exact ⟨_, rfl, Or.inr rfl⟩
    obtain ⟨w, v, hwv, hw, hv⟩ := blank_crlf_iff.2 hrest
    exact ⟨w, v, (crlf_eq_append_iff hr hn).2 ⟨r, rfl, hwv⟩, hw, hv⟩

theorem opens_cons_of_not_mem {opening t : Text} {c : Char} (hc : c ∉ opening) (hne : opening ≠ []) :
    Opens opening (c :: t) ↔ Opens opening t := by
  obtain ⟨x, o, rfl⟩ := List.exists_cons_of_ne_nil hne
  rw [opens_cons, or_iff_right]
  rintro ⟨w, v, ht, -⟩
  rw [(List.cons.inj ht).1] at hc
  exact hc List.mem_cons_self

/-- Returns open a passage at an opening that is the last line, and nowhere else. -/
theorem opens_crlf_iff {opening : Text} (hr : '\r' ∉ opening) (hn : '\n' ∉ opening)
    (hne : opening ≠ []) {t : Text} :
    Opens opening (crlf t) ↔ Opens opening t ∨ opening ++ ['\n'] <:+ t := by
  induction t with
  | nil => simp [crlf]
  | cons c t ih =>
    rw [crlf_cons, List.suffix_cons_iff]
    by_cases hc : c = '\n'
    · subst hc
      have hlast : opening ++ ['\n'] ≠ '\n' :: t := by
        obtain ⟨x, o, rfl⟩ := List.exists_cons_of_ne_nil hne
        intro h
        rw [← (List.cons.inj h).1] at hn
        exact hn List.mem_cons_self
      simp only [if_pos, List.cons_append, List.nil_append, opens_cons_of_not_mem hr hne,
        opens_cons_of_not_mem hn hne, ih, hlast, false_or]
    · have hfront := front_crlf_iff hr hn (t := c :: t)
      rw [crlf_cons, if_neg hc, List.singleton_append] at hfront
      rw [if_neg hc, List.singleton_append, opens_cons, opens_cons, hfront, ih, or_or_or_comm,
        @eq_comm _ (c :: t)]

end Passage

/-! ### The rules -/

open Text Passage

theorem Outline.ofText_crlf {t : Text} (ht : '\r' ∉ t) : ofText t.crlf = ofText t := by
  rw [ofText, lines_crlf_self ht, ofText]

section Rules
variable {t : Text}

/-- Where no passage opens no line of a passage has a label. -/
theorem Ownership.not_label_of_not_opens {o : Ownership} (ho : LineOpening (sectionMark o.title))
    (hfields : ∀ f ∈ o.fields, '\n' ∉ f) (h : ¬ Opens (sectionMark o.title) t) :
    ∀ f ∈ o.fields, ¬ ∃ l ∈ passageLines (sectionMark o.title) atSection t.lines,
      boldLabel f <:+: l := by
  intro f hf
  rw [← exists_locate?_iff_lines lineClosing_atSection (lineNeedle_boldLabel (hfields f hf)) ho,
    locate?_eq_none_iff.2 h]
  simp

/-- Labels are asked for alike, unless the opening is the last line and opens no passage: then the
    text with returns lacks them all, and so there is something to report. -/
theorem Ownership.deviations_crlf_iff {o : Ownership} (ho : LineOpening (sectionMark o.title))
    (hreturn : '\r' ∉ o.title) (hfields : ∀ f ∈ o.fields, '\n' ∉ f) (hne : o.fields ≠ [])
    (ht : '\r' ∉ t) (report : Deviation → Finding) :
    (o.deviations t.crlf).map report = (o.deviations t).map report ↔
      (sectionMark o.title ++ ['\n'] <:+ t → Opens (sectionMark o.title) t) := by
  have hmark : '\r' ∉ sectionMark o.title := by simpa [sectionMark] using hreturn
  have hopens := opens_crlf_iff hmark ho.newline ho.ne_nil (t := t)
  rw [Ownership.deviations_eq_lines ho hfields, Ownership.deviations_eq_lines ho hfields,
    lines_crlf_self ht]
  by_cases h : Opens (sectionMark o.title) t
  · rw [if_pos h, if_pos (hopens.2 (Or.inl h))]
    exact iff_of_true rfl fun _ => h
  · rw [if_neg h]
    by_cases hlast : sectionMark o.title ++ ['\n'] <:+ t
    · rw [if_pos (hopens.2 (Or.inr hlast)), List.filter_eq_self.2 fun f hf => ?_]
      · exact iff_of_false (by simpa using hne) fun hn => h (hn hlast)
      · simpa using Ownership.not_label_of_not_opens ho hfields h f hf
    · rw [if_neg fun hn => (hopens.1 hn).elim h hlast]
      exact iff_of_true rfl fun hn => absurd hn hlast

theorem Telemetry.deviations_crlf {m : Telemetry} (ho : LineOpening (subsectionMark m.subsection))
    (hline : '\n' ∉ m.family) (hquote : '\x60' ∉ m.family) (ht : '\r' ∉ t) (id : Text) :
    m.deviations id t.crlf = m.deviations id t := by
  rw [Telemetry.deviations_eq_lines ho hline hquote, lines_crlf_self ht,
    Telemetry.deviations_eq_lines ho hline hquote]

theorem RoleLabel.deviations_of_crlf {r : RoleLabel} (hreturn : '\r' ∉ boldLabel r.field)
    (hnewline : '\n' ∉ boldLabel r.field) (h : r.deviations t.crlf = []) :
    r.deviations t = [] := by
  rw [deviations_role] at h ⊢
  by_cases hrole : boldLabel r.field <:+: t.crlf.take r.window
  · rw [if_pos (infix_take_crlf hreturn hnewline hrole)]
  · rw [if_neg hrole] at h
    cases h

end Rules

namespace Template

/-- A text and the same text with returns in front of its newlines have the same outline, and the
    standard template finds the same in both, up to two differences. The labels of an owner are
    asked for in the second alone when the ownership heading is the end of the first and opens no
    passage in it. The role label may be out of the window in the second alone. -/
theorem findings_crlf {t : Text} (ht : '\r' ∉ t) (id : Text) :
    Outline.ofText t.crlf = Outline.ofText t ∧
    (∀ r ∈ [Rule.sections, .subsections, .telemetry],
      r.findings standard (.ofText id t.crlf) = r.findings standard (.ofText id t)) ∧
    (Rule.ownership.findings standard (.ofText id t.crlf) =
        Rule.ownership.findings standard (.ofText id t) ↔
      (sectionMark standard.ownership.title ++ ['\n'] <:+ t →
        Opens (sectionMark standard.ownership.title) t)) ∧
    (Rule.role.findings standard (.ofText id t.crlf) = [] →
      Rule.role.findings standard (.ofText id t) = []) := by
  have houtline := Outline.ofText_crlf ht
  refine ⟨houtline, ?_, ?_, ?_⟩
  · have hevents : standard.telemetry.deviations id t.crlf = standard.telemetry.deviations id t :=
      Telemetry.deviations_crlf standard_telemetry_opening (by decide) (by decide) ht id
    simp [Rule.findings, Rule.deviations, Subject.ofText, houtline, hevents]
  · exact Ownership.deviations_crlf_iff standard_ownership_opening (by decide)
      standard_fields_newline (by decide) ht (Deviation.finding id)
  · intro h
    exact List.map_eq_nil_iff.2
      (RoleLabel.deviations_of_crlf (by decide) (by decide) (List.map_eq_nil_iff.1 h))

/-- Its ownership heading is its last line. -/
def unowned : Text := "# A\n## Ownership & Maintenance\n".toList

theorem findings_crlf_unowned : '\r' ∉ unowned ∧
    Outline.ofText unowned.crlf = Outline.ofText unowned ∧
    (∀ r ∈ [Rule.sections, .subsections, .telemetry],
      r.findings standard (.ofText ['a'] unowned.crlf) =
        r.findings standard (.ofText ['a'] unowned)) ∧
    Rule.ownership.findings standard (.ofText ['a'] unowned.crlf) ≠
      Rule.ownership.findings standard (.ofText ['a'] unowned) ∧
    (Rule.role.findings standard (.ofText ['a'] unowned.crlf) = [] →
      Rule.role.findings standard (.ofText ['a'] unowned) = []) :=
  have ht : '\r' ∉ unowned := by decide
  have hlast : sectionMark standard.ownership.title ++ ['\n'] <:+ unowned := by decide
  have hopens : ¬ Opens (sectionMark standard.ownership.title) unowned := by decide
  have h := findings_crlf ht ['a']
  ⟨ht, h.1, h.2.1, fun heq => hopens (h.2.2.1.1 heq hlast), h.2.2.2⟩

end Template

end OutlineLint
