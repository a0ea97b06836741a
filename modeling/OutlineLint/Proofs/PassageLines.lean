import OutlineLint.Proofs.Event
import OutlineLint.Proofs.Findings
import OutlineLint.Proofs.Passage

/-! Passages told by lines. Which needles a passage has can be read off the lines of the text: the
    opening stands in one of them, and the body is in the rest of this line and the lines behind it.

        … opening rest | blank | first | line | line | closing …
                               └─ lines of the body ─┘

    Blank lines are skipped. The first line that is not blank is taken whatever it is, also when it
    would close a passage; from then on the lines are taken up to the first that closes. So texts
    with the same lines have passages with the same needles, whatever their line breaks are. -/

namespace OutlineLint.Passage

/-- The lines of a body that begins in front of some lines. -/
def bodyLines (closes : Text → Bool) (ls : List Text) : List Text :=
  match ls.dropWhile fun l => l.all isBlank with
  | [] => []
  | l :: ls => l :: ls.takeWhile fun k => !closes ('\n' :: k)

/-- What a line has behind the first opening that a blank or the end of the line follows. -/
def behind? (opening : Text) : Text → Option Text
  | [] => none
  | c :: cs =>
    if opening <+: c :: cs ∧ ((c :: cs).drop opening.length).head?.all isBlank = true then
      some ((c :: cs).drop opening.length)
    else behind? opening cs

/-- The lines of the body of the first passage. -/
def passageLines (opening : Text) (closes : Text → Bool) : List Text → List Text
  | [] => []
  | l :: ls =>
    match behind? opening l with
    | some r => bodyLines closes (r :: ls)
    | none => passageLines opening closes ls

/-! ### What a return in front of a newline leaves alone -/

/-- An opening that lies in one line and ends there without a return. -/
structure LineOpening (opening : Text) : Prop where
  newline : '\n' ∉ opening
  ne_nil : opening ≠ []
  last : opening.getLast? ≠ some '\r'

/-- A closing that a return at the end of the line does not change. -/
structure LineClosing (closes : Text → Bool) : Prop extends Closing closes where
  returns : ∀ l, closes ('\n' :: Text.dropReturn l) = closes ('\n' :: l)

/-- A needle that does not end with a return. -/
structure LineNeedle (m : Text) : Prop extends Needle m where
  last : m.getLast? ≠ some '\r'

variable {closes : Text → Bool} {opening m : Text}

theorem prefix_return_iff {l : Text} (hm : m.getLast? ≠ some '\r') :
    m <+: l ++ ['\r'] ↔ m <+: l := by
  rw [List.prefix_concat_iff]
  refine or_iff_right ?_
  rintro rfl
  exact hm (List.getLast?_concat ..)

theorem prefix_dropReturn_iff {l : Text} (hm : m.getLast? ≠ some '\r') :
    m <+: Text.dropReturn l ↔ m <+: l := by
  by_cases h : l.getLast? = some '\r'
  · obtain ⟨k, rfl⟩ := List.getLast?_eq_some_iff.1 h
    rw [Text.dropReturn_concat, prefix_return_iff hm]
  · rw [Text.dropReturn, if_neg h]

theorem lineClosing_atSection : LineClosing atSection :=
  ⟨closing_atSection, atSection_dropReturn⟩

theorem lineClosing_atHeading : LineClosing atHeading where
  toClosing := closing_atHeading
  returns l := by
    rw [Bool.eq_iff_iff, atHeading_line_iff, atHeading_line_iff,
      prefix_dropReturn_iff (by decide)]

theorem lineNeedle_boldLabel {f : Text} (hf : '\n' ∉ f) : LineNeedle (boldLabel f) where
  toNeedle := needle_boldLabel hf
  last := needle_boldLabel_return f

theorem lineNeedle_event {family o : Text} (hf : '\n' ∉ family)
    (ho : ∀ c ∈ o, Event.isOwnerChar c = true) :
    LineNeedle (Event.opening family ++ (o ++ ['.'])) where
  toNeedle := needle_event hf ho
  last := by
    rw [← List.append_assoc, List.getLast?_concat]
    decide

/-- A return at the end of a line is a blank. -/
theorem blank_dropReturn_iff {l : Text} :
    (∀ c ∈ Text.dropReturn l, isBlank c = true) ↔ ∀ c ∈ l, isBlank c = true := by
  unfold Text.dropReturn
  split
  · rename_i h
    obtain ⟨k, rfl⟩ := List.getLast?_eq_some_iff.1 h
    have hreturn : isBlank '\r' = true := by decide
    simp [hreturn, or_imp, forall_and]
  · exact Iff.rfl

/-! ### Lines of a body -/

theorem bodyLines_blank {l : Text} (h : ∀ c ∈ l, isBlank c = true) (ls : List Text) :
    bodyLines closes (l :: ls) = bodyLines closes ls := by
  rw [bodyLines, List.dropWhile_cons_of_pos (by simpa using h), bodyLines]

theorem bodyLines_solid {l : Text} (h : ¬ ∀ c ∈ l, isBlank c = true) (ls : List Text) :
    bodyLines closes (l :: ls) = l :: ls.takeWhile fun k => !closes ('\n' :: k) := by
  rw [bodyLines, List.dropWhile_cons_of_neg (by simpa using h)]

/-- Every text has a stretch of lines up to the first that closes. -/
theorem stretch_takeWhile (closes : Text → Bool) (t : Text) :
    Stretch closes t (t.lines.takeWhile fun k => !closes ('\n' :: k))
      (t.lines.dropWhile fun k => !closes ('\n' :: k)) where
  lines := List.takeWhile_append_dropWhile.symm
  inside l hl := by simpa using List.mem_takeWhile_imp hl
  stop l hl := by
    have hhead := List.head?_dropWhile_not (fun k => !closes ('\n' :: k)) t.lines
    rw [Option.mem_def.1 hl] at hhead
    simpa using hhead

/-- What begins behind the blanks of a text has the needles of the lines of the body. -/
theorem infix_upTo_dropWhile_iff (hc : LineClosing closes) (hm : LineNeedle m) (t : Text) :
    m <:+: upTo closes (t.dropWhile isBlank) ↔ ∃ l ∈ bodyLines closes t.lines, m <:+: l := by
  have hneedle := hm.toNeedle
  have hclosing := hc.toClosing
  induction t using Text.lineRec with
  | last l hl =>
    rw [upTo_of_not_mem hclosing (not_mem_dropWhile_blank hl), infix_dropWhile_blank hneedle,
      Text.lines_of_not_mem hl]
    by_cases hall : ∀ c ∈ l, isBlank c = true
    · refine iff_of_false (not_infix_of_blank hneedle hall) ?_
      split
      · simp [bodyLines]
      · rw [bodyLines_blank hall]
        simp [bodyLines]
    · have hne : l ≠ [] := by rintro rfl; simp at hall
      rw [if_neg hne, bodyLines_solid hall]
      simp
  | line l t hl ih =>
    rw [Text.lines_line t hl]
    by_cases hall : ∀ c ∈ l, isBlank c = true
    · rw [dropWhile_blank_line t hall, bodyLines_blank (blank_dropReturn_iff.2 hall)]
      exact ih
    · rw [Text.dropWhile_append_of_solid _ hall,
        infix_upTo_line hclosing t hneedle (not_mem_dropWhile_blank hl),
        infix_dropWhile_blank hneedle,
        (stretch_takeWhile closes t).infix_upTo_iff hclosing hc.returns hneedle hm.last t,
        bodyLines_solid fun h => hall (blank_dropReturn_iff.1 h), List.exists_mem_cons_iff,
        Text.infix_dropReturn_iff hm.last]

/-- The body of what begins with a blank has the needles of its lines. -/
theorem exists_bodyAfter?_lines (hc : LineClosing closes) (hm : LineNeedle m) {t : Text}
    (ht : ∀ w ∈ t.head?, isBlank w = true) :
    (∃ b ∈ bodyAfter? closes t, m <:+: b) ↔ ∃ l ∈ bodyLines closes t.lines, m <:+: l := by
  have hbody := exists_bodyAfter?_iff hc.toClosing (t := t) hm.toNeedle
  rw [infix_upTo_dropWhile_iff hc hm] at hbody
  refine hbody.trans (and_iff_right_of_imp ?_)
  rintro ⟨l, hl, -⟩
  cases t with
  | nil => cases hl
  | cons w t => exact ⟨w, rfl, ht w rfl⟩

/-! ### The line of the opening -/

/-- A passage that opens takes at least two characters more than its opening. -/
theorem length_of_opens {t : Text} (h : Opens opening t) : opening.length + 2 ≤ t.length := by
  obtain ⟨u, w, v, rfl, -, hv⟩ := h
  have hlength := List.length_pos_of_ne_nil hv
  simp only [List.length_append, List.length_cons]
  omega

/-- There is a body behind a blank, unless nothing else is there. -/
theorem length_of_bodyAfter? {t : Text} (ht : ∀ w ∈ t.head?, isBlank w = true)
    (h : bodyAfter? closes t = none) : t.length ≤ 1 := by
  cases t with
  | nil => exact Nat.zero_le 1
  | cons w t =>
    rcases bodyAfter?_cons_eq_none_iff.1 h with hw | rfl
    · rw [ht w rfl] at hw
      cases hw
    · exact le_rfl

/-- Behind an opening without a body there is no other. -/
theorem locate?_of_bodyAfter? {c : Char} {l r s : Text} (hl : c :: l = opening ++ r)
    (hblank : ∀ w ∈ (r ++ s).head?, isBlank w = true) (h : bodyAfter? closes (r ++ s) = none) :
    locate? opening closes (l ++ s) = none := by
  refine locate?_eq_none_iff.2 fun hopens => ?_
  have hlong := length_of_opens hopens
  have hshort := length_of_bodyAfter? hblank h
  have hlength := congrArg List.length hl
  simp only [List.length_append, List.length_cons] at hlong hshort hlength
  omega

section Line
variable {s : Text}

/-- An opening at the front of a line, with a line break or nothing behind the line. -/
theorem bodyAt?_append (closes : Text → Bool) {l : Text} (ho : '\n' ∉ opening)
    (hs : ∀ c ∈ s.head?, c = '\n') :
    bodyAt? opening closes (l ++ s) =
      if opening <+: l then bodyAfter? closes (l.drop opening.length ++ s) else none := by
  cases s with
  | nil =>
    rw [List.append_nil, List.append_nil, bodyAt?]
    simp only [List.isPrefixOf_iff_prefix]
  | cons c t =>
    obtain rfl := hs c rfl
    exact bodyAt?_line l t ho

/-- What stands behind an opening begins with a blank, if a blank or the end of the line follows. -/
theorem blank_head?_append {r : Text} (hs : ∀ c ∈ s.head?, c = '\n')
    (hr : r.head?.all isBlank = true) : ∀ w ∈ (r ++ s).head?, isBlank w = true := by
  cases r with
  | nil =>
    intro w hw
    rw [hs w hw]
    decide
  | cons c r => simpa using hr

/-- Place by place along a line: the body of a passage that opens in it has the needles of its
    lines. -/
theorem exists_locate?_append_iff (hc : LineClosing closes) (hm : LineNeedle m)
    (ho : '\n' ∉ opening) (hs : ∀ c ∈ s.head?, c = '\n') : ∀ l : Text,
      (∃ b ∈ locate? opening closes (l ++ s), m <:+: b) ↔
        match behind? opening l with
        | some r => ∃ k ∈ bodyLines closes (r ++ s).lines, m <:+: k
        | none => ∃ b ∈ locate? opening closes s, m <:+: b
  | [] => Iff.rfl
  | c :: l => by
    have ih := exists_locate?_append_iff hc hm ho hs l
    have hat := bodyAt?_append closes (l := c :: l) ho hs
    rw [List.cons_append] at hat ⊢
    rw [locate?_cons, hat, behind?]
    by_cases hp : opening <+: c :: l
    · obtain ⟨r, hl⟩ := hp
      rw [← hl, List.drop_left, if_pos (List.prefix_append _ _)]
      by_cases hblank : r.head?.all isBlank = true
      · have hhead := blank_head?_append hs hblank
        rw [if_pos ⟨List.prefix_append _ _, hblank⟩]
        simp only
        rw [← exists_bodyAfter?_lines hc hm hhead]
        cases hbody : bodyAfter? closes (r ++ s) with
        | some b => rw [Option.some_or]
        | none => rw [Option.none_or, locate?_of_bodyAfter? hl.symm hhead hbody]
      · rw [if_neg fun h => hblank h.2]
        cases r with
        | nil => simp at hblank
        | cons w r =>
          have hw : isBlank w = false := by simpa using hblank
          rw [List.cons_append, bodyAfter?_of_not_blank _ hw, Option.none_or]
          exact ih
    · rw [if_neg hp, if_neg fun h => hp h.1, Option.none_or]
      exact ih

end Line

/-! ### Returns behind the opening -/

/-- A return at the end of a line stays at the end. -/
theorem behind?_return (ho : LineOpening opening) : ∀ l : Text,
    behind? opening (l ++ ['\r']) = (behind? opening l).map (· ++ ['\r'])
  | [] => by
    have hno : ¬ opening <+: [] ++ ['\r'] := fun h =>
      ho.ne_nil (List.prefix_nil.1 ((prefix_return_iff ho.last).1 h))
    rw [List.nil_append] at hno ⊢
    rw [behind?, behind?, if_neg fun h => hno h.1]
    rfl
  | c :: l => by
    have ih := behind?_return ho l
    rw [List.cons_append, behind?, behind?]
    by_cases h : opening <+: c :: l
    · obtain ⟨r, hl⟩ := h
      have hl' : opening ++ (r ++ ['\r']) = c :: (l ++ ['\r']) := by
        rw [← List.append_assoc, hl, List.cons_append]
      have hreturn : isBlank '\r' = true := by decide
      have hhead : (r ++ ['\r']).head?.all isBlank = true ↔ r.head?.all isBlank = true := by
        cases r <;> simp [hreturn]
      rw [← hl, ← hl', List.drop_left, List.drop_left]
      by_cases hb : r.head?.all isBlank = true
      · rw [if_pos ⟨List.prefix_append _ _, hhead.2 hb⟩, if_pos ⟨List.prefix_append _ _, hb⟩]
        rfl
      · rw [if_neg fun h => hb (hhead.1 h.2), if_neg fun h => hb h.2, ih]
    · have h' : ¬ opening <+: c :: (l ++ ['\r']) := fun hp =>
        h ((prefix_return_iff ho.last).1 hp)
      rw [if_neg fun hp => h' hp.1, if_neg fun hp => h hp.1, ih]

theorem behind?_eq_some {l r : Text} (h : behind? opening l = some r) :
    ∃ u, l = u ++ (opening ++ r) := by
  induction l with
  | nil => cases h
  | cons c l ih =>
    rw [behind?] at h
    split at h
    · rename_i hc
      obtain ⟨v, hv⟩ := hc.1
      rw [← hv, List.drop_left] at h
      exact ⟨[], by rw [← hv, Option.some.inj h, List.nil_append]⟩
    · obtain ⟨u, rfl⟩ := ih h
      exact ⟨c :: u, rfl⟩

theorem behind?_dropReturn (ho : LineOpening opening) (l : Text) :
    behind? opening (Text.dropReturn l) = (behind? opening l).map Text.dropReturn := by
  by_cases h : l.getLast? = some '\r'
  · obtain ⟨k, rfl⟩ := List.getLast?_eq_some_iff.1 h
    rw [Text.dropReturn_concat, behind?_return ho k, Option.map_map]
    simp [Function.comp_def, Text.dropReturn_concat]
  · rw [Text.dropReturn, if_neg h]
    cases hb : behind? opening l with
    | none => rfl
    | some r =>
      obtain ⟨u, rfl⟩ := behind?_eq_some hb
      have hlast : r.getLast? ≠ some '\r' := fun hlast => by
        obtain ⟨k, rfl⟩ := List.getLast?_eq_some_iff.1 hlast
        exact h (by rw [← List.append_assoc, ← List.append_assoc, List.getLast?_concat])
      rw [Option.map_some, Text.dropReturn, if_neg hlast]

/-! ### The lines of a text -/

/-- A passage has the needles of its lines, and these are told by the lines of the text. -/
theorem exists_locate?_iff_lines (hc : LineClosing closes) (hm : LineNeedle m)
    (ho : LineOpening opening) (t : Text) : (∃ b ∈ locate? opening closes t, m <:+: b) ↔
      ∃ l ∈ passageLines opening closes t.lines, m <:+: l := by
  induction t using Text.lineRec with
  | last l hl =>
    have hline := exists_locate?_append_iff hc hm ho.newline (s := []) (by simp) l
    rw [List.append_nil] at hline
    rw [hline, Text.lines_of_not_mem hl]
    by_cases hnil : l = []
    · subst hnil
      simp [behind?, passageLines, locate?]
    · rw [if_neg hnil, passageLines]
      cases hb : behind? opening l with
      | none => simp [passageLines, locate?]
      | some r =>
        obtain ⟨u, rfl⟩ := behind?_eq_some hb
        have hnr : '\n' ∉ r := fun h => hl (by simp [h])
        simp only [List.append_nil, Text.lines_of_not_mem hnr]
        by_cases hr' : r = []
        · subst hr'
          rfl
        · rw [if_neg hr']
  | line l t hl ih =>
    rw [exists_locate?_append_iff hc hm ho.newline (s := '\n' :: t) (by simp) l,
      Text.lines_line t hl, passageLines, behind?_dropReturn ho]
    cases hb : behind? opening l with
    | none =>
      have hskip : locate? opening closes ([] ++ '\n' :: t) = locate? opening closes t :=
        locate?_skip_line t ho.newline ho.ne_nil fun h => ho.ne_nil (List.infix_nil.1 h)
      rw [List.nil_append] at hskip
      simp only [hskip, Option.map_none]
      exact ih
    | some r =>
      obtain ⟨u, rfl⟩ := behind?_eq_some hb
      have hnr : '\n' ∉ r := fun h => hl (by simp [h])
      simp only [Option.map_some, Text.lines_line t hnr]

end OutlineLint.Passage

namespace OutlineLint
open Passage

/-! ### What the rules read off the lines -/

/-- The labels that the lines of the passage lack are complained about, if there is a passage. -/
theorem Ownership.deviations_eq_lines {o : Ownership} (ho : LineOpening (sectionMark o.title))
    (hfields : ∀ f ∈ o.fields, '\n' ∉ f) (text : Text) : o.deviations text =
      if Opens (sectionMark o.title) text then
        (o.fields.filter fun f => ¬ ∃ l ∈ passageLines (sectionMark o.title) atSection text.lines,
          boldLabel f <:+: l).map (.noOwnerLabel · o.title)
      else [] := by
  rw [deviations_ownership]
  cases hpass : o.passage? text with
  | none => rw [if_neg (locate?_eq_none_iff.1 hpass), Option.elim]
  | some body =>
    have hopens : Opens (sectionMark o.title) text := by
      by_contra hn
      rw [Ownership.passage?, locate?_eq_none_iff.2 hn] at hpass
      cases hpass
    rw [if_pos hopens, Option.elim]
    refine congrArg _ (List.filter_congr fun f hf => ?_)
    have hlines := exists_locate?_iff_lines lineClosing_atSection
      (lineNeedle_boldLabel (hfields f hf)) ho text
    rw [← Ownership.passage?, hpass] at hlines
    rw [decide_eq_decide, ← hlines]
    simp

section Telemetry
variable {m : Telemetry}

/-- The owners of the events in a passage are those of the events in its lines. -/
theorem Telemetry.exists_owner_iff (ho : LineOpening (subsectionMark m.subsection))
    (hline : '\n' ∉ m.family) (hquote : '\x60' ∉ m.family) (text owner : Text) :
    (∃ b ∈ m.passage? text, owner ∈ m.owners b) ↔
      owner ∈ (passageLines (subsectionMark m.subsection) atHeading text.lines).flatMap m.owners := by
  simp only [List.mem_flatMap, Telemetry.owners, Event.mem_owners_iff hquote]
  by_cases hchars : ∀ c ∈ owner, Event.isOwnerChar c = true
  · have hlines := exists_locate?_iff_lines lineClosing_atHeading
      (lineNeedle_event hline hchars) ho text
    constructor
    · rintro ⟨b, hb, hne, -, hin⟩
      obtain ⟨l, hl, hin⟩ := hlines.1 ⟨b, hb, hin⟩
      exact ⟨l, hl, hne, hchars, hin⟩
    · rintro ⟨l, hl, hne, -, hin⟩
      obtain ⟨b, hb, hin⟩ := hlines.2 ⟨l, hl, hin⟩
      exact ⟨b, hb, hne, hchars, hin⟩
  · exact iff_of_false (fun ⟨_, _, _, h, _⟩ => hchars h) fun ⟨_, _, _, h, _⟩ => hchars h

/-- The events in the lines of the passage decide. -/
theorem Telemetry.deviations_eq_lines (ho : LineOpening (subsectionMark m.subsection))
    (hline : '\n' ∉ m.family) (hquote : '\x60' ∉ m.family) (id text : Text) :
    m.deviations id text =
      let owners := (passageLines (subsectionMark m.subsection) atHeading text.lines).flatMap m.owners
      if owners = [] ∨ id ∈ owners then [] else [.foreignEvents m.family id] := by
  have howner := Telemetry.exists_owner_iff ho hline hquote text
  rw [deviations_telemetry]
  cases hpass : m.passage? text with
  | none =>
    rw [if_pos (Or.inl (List.eq_nil_iff_forall_not_mem.2 fun o h => ?_)), Option.elim]
    obtain ⟨b, hb, -⟩ := (howner o).2 h
    rw [hpass] at hb
    cases hb
  | some body =>
    rw [hpass] at howner
    simp only [Option.mem_def, Option.some.injEq, exists_eq_left'] at howner
    simp only [Option.elim, List.eq_nil_iff_forall_not_mem, howner]

end Telemetry

/-! ### The standard template -/

namespace Template

theorem standard_ownership_opening : LineOpening (sectionMark standard.ownership.title) where
  newline := by decide
  ne_nil := by decide
  last := by decide

theorem standard_telemetry_opening :
    LineOpening (subsectionMark standard.telemetry.subsection) where
  newline := by decide
  ne_nil := by decide
  last := by decide

end Template

end OutlineLint
