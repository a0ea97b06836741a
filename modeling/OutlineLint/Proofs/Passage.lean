import OutlineLint.Proofs.Event
import OutlineLint.Proofs.Heading
import OutlineLint.Rule

/-! Passages and lines. A passage is looked for in the raw text, but both its ends can be told line
    by line: an opening has no newline, so it stands in one line, and a closing is decided on the
    line behind a newline.

        … opening blanks | line | line | closing line …
                         └─ body ──────┘

    A needle is a text that begins with no blank and has no newline. Where the body begins and ends
    is told by the needles in it: they stand in a line that comes before the first closing line,
    and blanks in front of the body hold none of them. -/

namespace OutlineLint.Passage

/-- A closing that the line behind a newline decides, and that every section heading is. -/
structure Closing (closes : Text → Bool) : Prop where
  newline : ∀ c cs, c ≠ '\n' → closes (c :: cs) = false
  line : ∀ l t, '\n' ∉ l → closes ('\n' :: (l ++ '\n' :: t)) = closes ('\n' :: l)
  heading : ∀ l n, Heading.title? l = some n → closes ('\n' :: l) = true

/-- What can be looked for in a body. -/
structure Needle (m : Text) : Prop where
  newline : '\n' ∉ m
  head : ∃ c ∈ m.head?, isBlank c = false

theorem Needle.ne_nil {m : Text} (h : Needle m) : m ≠ [] := by
  rintro rfl
  obtain ⟨c, hc, -⟩ := h.head
  cases hc

/-! ### The needles of the rules -/

theorem needle_boldLabel {f : Text} (hf : '\n' ∉ f) : Needle (boldLabel f) where
  newline := by
    have h₁ : '\n' ∉ "**".toList := by decide
    have h₂ : '\n' ∉ "**:".toList := by decide
    simp only [boldLabel, List.mem_append, not_or]
    exact ⟨⟨h₁, hf⟩, h₂⟩
  head := ⟨'*', rfl, by decide⟩

theorem needle_event {family o : Text} (hf : '\n' ∉ family)
    (ho : ∀ c ∈ o, Event.isOwnerChar c = true) : Needle (Event.opening family ++ (o ++ ['.'])) where
  newline := Event.newline_not_mem_event hf ho
  head := ⟨'\x60', rfl, by decide⟩

/-! ### The two closings -/

theorem atSection_of_not_mark {l : Text} (h : ¬ ['#', '#'] <+: l) :
    atSection ('\n' :: l) = false := by
  unfold atSection
  split
  · rename_i rest heq
    exact absurd ⟨rest, (List.cons.inj heq).2.symm⟩ h
  · rfl

theorem closing_atSection : Closing atSection where
  newline c cs hc := by
    unfold atSection
    split
    · rename_i h; exact absurd (List.cons.inj h).1 hc
    · rfl
  line l t hl := by
    have hiff : ['#', '#'] <+: l ++ '\n' :: t ↔ ['#', '#'] <+: l :=
      Text.prefix_line_iff t (by decide)
    by_cases hmark : ['#', '#'] <+: l
    · obtain ⟨rest, rfl⟩ := hmark
      cases rest <;> rfl
    · rw [atSection_of_not_mark hmark, atSection_of_not_mark fun h => hmark (hiff.1 h)]
  heading l n h := by
    obtain ⟨b, rest, rfl, hb⟩ := Heading.mark_of_title? h
    have hne : b ≠ '#' := by rintro rfl; exact absurd hb (by decide)
    simp [atSection, hne]

theorem atHeading_iff {t : Text} : atHeading t = true ↔ "\n##".toList <+: t :=
  List.isPrefixOf_iff_prefix

theorem atHeading_line_iff {l : Text} : atHeading ('\n' :: l) = true ↔ "##".toList <+: l := by
  rw [atHeading_iff]
  exact List.cons_prefix_cons.trans (and_iff_right rfl)

theorem closing_atHeading : Closing atHeading where
  newline c cs hc := by simp [atHeading, List.isPrefixOf, Ne.symm hc]
  line l t hl := by
    rw [Bool.eq_iff_iff, atHeading_line_iff, atHeading_line_iff,
      Text.prefix_line_iff t (by decide)]
  heading l n h := by
    obtain ⟨b, rest, rfl, -⟩ := Heading.mark_of_title? h
    rfl

theorem atSection_dropReturn (l : Text) :
    atSection ('\n' :: Text.dropReturn l) = atSection ('\n' :: l) := by
  unfold Text.dropReturn
  split
  · rename_i h
    obtain ⟨k, rfl⟩ := List.getLast?_eq_some_iff.1 h
    rw [List.dropLast_concat]
    by_cases hmark : ['#', '#'] <+: k
    · obtain ⟨rest, rfl⟩ := hmark
      cases rest <;> rfl
    · have hmark' : ¬ ['#', '#'] <+: k ++ ['\r'] := fun h =>
        hmark ((Text.prefix_line_iff [] (by decide)).1 h)
      rw [atSection_of_not_mark hmark, atSection_of_not_mark hmark']
  · rfl

/-! ### Bodies line by line -/

variable {closes : Text → Bool}

theorem upTo_cons_of_ne (hc : Closing closes) {c : Char} (cs : Text) (h : c ≠ '\n') :
    upTo closes (c :: cs) = c :: upTo closes cs := by
  rw [upTo, hc.newline c cs h, if_neg Bool.false_ne_true]

theorem upTo_of_not_mem (hc : Closing closes) : ∀ {l : Text}, '\n' ∉ l → upTo closes l = l
  | [], _ => rfl
  | c :: l, h => by
    rw [List.mem_cons, not_or] at h
    rw [upTo_cons_of_ne hc l (Ne.symm h.1), upTo_of_not_mem hc h.2]

theorem upTo_line (hc : Closing closes) (t : Text) : ∀ {l : Text}, '\n' ∉ l →
    upTo closes (l ++ '\n' :: t) = if closes ('\n' :: t) then l else l ++ '\n' :: upTo closes t
  | [], _ => rfl
  | c :: l, h => by
    rw [List.mem_cons, not_or] at h
    rw [List.cons_append, upTo_cons_of_ne hc _ (Ne.symm h.1), upTo_line hc t h.2]
    split <;> rfl

/-- A needle is found in the first line, or behind it when the next line does not close. -/
theorem infix_upTo_line (hc : Closing closes) {m l : Text} (t : Text) (hm : Needle m)
    (hl : '\n' ∉ l) : m <:+: upTo closes (l ++ '\n' :: t) ↔
      m <:+: l ∨ closes ('\n' :: t) = false ∧ m <:+: upTo closes t := by
  rw [upTo_line hc t hl]
  by_cases h : closes ('\n' :: t)
  · simp [h]
  · rw [if_neg h, Text.infix_line_iff _ hm.newline]
    simp [h]

/-! ### Blanks in front of a body -/

theorem infix_cons_blank {m : Text} (hm : Needle m) {c : Char} (h : isBlank c = true) (t : Text) :
    m <:+: c :: t ↔ m <:+: t := by
  rw [List.infix_cons_iff, or_iff_right]
  rintro ⟨v, hv⟩
  obtain ⟨d, hd, hb⟩ := hm.head
  obtain ⟨m', rfl⟩ := List.head?_eq_some_iff.1 hd
  rw [(List.cons.inj hv).1, h] at hb
  cases hb

/-- Blanks hold no needle. -/
theorem not_infix_of_blank {m l : Text} (hm : Needle m) (h : ∀ c ∈ l, isBlank c = true) :
    ¬ m <:+: l := by
  intro hml
  obtain ⟨c, hcm, hb⟩ := hm.head
  exact Text.not_exists_solid h ⟨c, hml.subset (List.mem_of_head? hcm), hb⟩

/-- Blanks in front of a text hold no needle. -/
theorem infix_dropWhile_blank {m : Text} (hm : Needle m) : ∀ t : Text,
    m <:+: t.dropWhile isBlank ↔ m <:+: t
  | [] => Iff.rfl
  | c :: t => by
    by_cases h : isBlank c
    · rw [List.dropWhile_cons_of_pos h, infix_dropWhile_blank hm t, infix_cons_blank hm h]
    · rw [List.dropWhile_cons_of_neg h]

theorem dropWhile_blank_line {l : Text} (t : Text) (h : ∀ c ∈ l, isBlank c = true) :
    (l ++ '\n' :: t).dropWhile isBlank = t.dropWhile isBlank := by
  rw [List.dropWhile_append_of_pos h, List.dropWhile_cons_of_pos (by decide)]

theorem not_mem_dropWhile_blank {l : Text} (h : '\n' ∉ l) : '\n' ∉ l.dropWhile isBlank :=
  fun hn => h ((List.dropWhile_suffix _).subset hn)

/-- A body that begins behind the blanks has every needle of one that begins before them. -/
theorem infix_upTo_dropWhile_blank {m : Text} (hm : Needle m) : ∀ {t : Text},
    m <:+: upTo closes t → m <:+: upTo closes (t.dropWhile isBlank)
  | [], h => h
  | c :: t, h => by
    by_cases hb : isBlank c
    · rw [List.dropWhile_cons_of_pos hb]
      rw [upTo] at h
      split at h
      · exact absurd (List.infix_nil.1 h) hm.ne_nil
      · exact infix_upTo_dropWhile_blank hm ((infix_cons_blank hm hb _).1 h)
    · rwa [List.dropWhile_cons_of_neg hb]

/-! ### The lines of a body -/

/-- The lines of a text up to the first that closes, and those from it on. -/
structure Stretch (closes : Text → Bool) (t : Text) (body after : List Text) : Prop where
  lines : t.lines = body ++ after
  inside : ∀ l ∈ body, closes ('\n' :: l) = false
  stop : ∀ l ∈ after.head?, closes ('\n' :: l) = true

namespace Stretch
variable {m : Text} {body after : List Text}

/-- In a text of one line. -/
theorem last_cases {l : Text} (hl : '\n' ∉ l) (h : Stretch closes l body after) :
    (body = [] ∧ (l = [] ∨ closes ('\n' :: l) = true)) ∨
      body = [l] ∧ closes ('\n' :: l) = false := by
  obtain ⟨hlines, hin, hstop⟩ := h
  rw [Text.lines_of_not_mem hl] at hlines
  by_cases hne : l = []
  · rw [if_pos hne] at hlines
    exact Or.inl ⟨(List.append_eq_nil_iff.1 hlines.symm).1, Or.inl hne⟩
  · rw [if_neg hne] at hlines
    cases body with
    | nil => exact Or.inl ⟨rfl, Or.inr (hstop l (by rw [← List.nil_append after, ← hlines]; rfl))⟩
    | cons k body =>
      obtain ⟨rfl, hrest⟩ := List.cons.inj hlines
      rw [(List.append_eq_nil_iff.1 hrest.symm).1] at hin ⊢
      exact Or.inr ⟨rfl, hin l (by simp)⟩

/-- In a text of several lines. -/
theorem line_cases (hret : ∀ l, closes ('\n' :: Text.dropReturn l) = closes ('\n' :: l))
    {l t : Text} (hl : '\n' ∉ l) (h : Stretch closes (l ++ '\n' :: t) body after) :
    (body = [] ∧ closes ('\n' :: l) = true) ∨ closes ('\n' :: l) = false ∧
      ∃ body', body = Text.dropReturn l :: body' ∧ Stretch closes t body' after := by
  obtain ⟨hlines, hin, hstop⟩ := h
  rw [Text.lines_line t hl] at hlines
  cases body with
  | nil =>
    rw [List.nil_append] at hlines
    exact Or.inl ⟨rfl, by rw [← hret, hstop _ (by rw [← hlines]; rfl)]⟩
  | cons k body =>
    obtain ⟨rfl, hrest⟩ := List.cons.inj hlines
    refine Or.inr ⟨by rw [← hret, hin _ (by simp)], body, rfl, hrest, ?_, hstop⟩
    exact fun x hx => hin x (List.mem_cons_of_mem _ hx)

/-- A needle is in the lines up to the first that closes. -/
theorem infix_upTo_iff (hc : Closing closes)
    (hret : ∀ l, closes ('\n' :: Text.dropReturn l) = closes ('\n' :: l)) (hm : Needle m)
    (hr : m.getLast? ≠ some '\r') (t : Text) : ∀ {body : List Text}, Stretch closes t body after →
      (closes ('\n' :: t) = false ∧ m <:+: upTo closes t ↔ ∃ l ∈ body, m <:+: l) := by
  induction t using Text.lineRec with
  | last l hl =>
    intro body h
    rw [upTo_of_not_mem hc hl]
    rcases h.last_cases hl with ⟨rfl, rfl | hcl⟩ | ⟨rfl, hcl⟩
    · simp [hm.ne_nil]
    · simp [hcl]
    · simp [hcl]
  | line l t hl ih =>
    intro body h
    rw [hc.line l t hl, infix_upTo_line hc t hm hl]
    rcases h.line_cases hret hl with ⟨rfl, hcl⟩ | ⟨hcl, body, rfl, ht⟩
    · simp [hcl]
    · rw [ih ht, List.exists_mem_cons_iff, Text.infix_dropReturn_iff hr, and_iff_right hcl]

/-- A needle that is in them is in what begins behind their blanks, when they have more than
    blanks. -/
theorem infix_body_iff (hc : Closing closes)
    (hret : ∀ l, closes ('\n' :: Text.dropReturn l) = closes ('\n' :: l)) (hm : Needle m)
    (hr : m.getLast? ≠ some '\r') (t : Text) : ∀ {body : List Text}, Stretch closes t body after →
      (∃ l ∈ body, ∃ c ∈ l, isBlank c = false) →
      (m <:+: upTo closes (t.dropWhile isBlank) ↔ ∃ l ∈ body, m <:+: l) := by
  induction t using Text.lineRec with
  | last l hl =>
    intro body h hsolid
    rw [upTo_of_not_mem hc (not_mem_dropWhile_blank hl), infix_dropWhile_blank hm]
    rcases h.last_cases hl with ⟨rfl, -⟩ | ⟨rfl, -⟩
    · simp at hsolid
    · simp
  | line l t hl ih =>
    intro body h hsolid
    rcases h.line_cases hret hl with ⟨rfl, -⟩ | ⟨-, body, rfl, ht⟩
    · simp at hsolid
    rw [List.exists_mem_cons_iff, Text.infix_dropReturn_iff hr]
    by_cases hall : ∀ c ∈ l, isBlank c = true
    · rw [dropWhile_blank_line t hall, or_iff_right (not_infix_of_blank hm hall)]
      refine ih ht ((List.exists_mem_cons_iff ..).1 hsolid |>.resolve_left ?_)
      exact Text.not_exists_solid fun c hc => hall c ((Text.dropReturn_prefix_self l).subset hc)
    · rw [Text.dropWhile_append_of_solid _ hall,
        infix_upTo_line hc t hm (not_mem_dropWhile_blank hl), infix_dropWhile_blank hm,
        infix_upTo_iff hc hret hm hr t ht]

end Stretch
/-! ### The body behind an opening -/

theorem bodyAfter?_of_not_blank {w : Char} (t : Text) (h : isBlank w = false) :
    bodyAfter? closes (w :: t) = none := by
  simp [bodyAfter?, h]

theorem bodyAfter?_of_blank {w : Char} (t : Text) (h : isBlank w = true) :
    bodyAfter? closes (w :: t) = match t.dropWhile isBlank with
      | c :: cs => some (c :: upTo closes cs)
      | [] => t.getLast?.map ([·]) := by
  rw [bodyAfter?, List.dropWhile_cons_of_pos h, List.takeWhile_cons_of_pos h]
  cases ht : t.dropWhile isBlank with
  | cons c cs => simp
  | nil =>
    rw [List.takeWhile_eq_self_iff.2 (List.dropWhile_eq_nil_iff.1 ht)]
    cases t with
    | nil => rfl
    | cons c cs => simp [List.getLast?_cons_cons]

/-- There is no body exactly where the opening is not followed by a blank and one more character. -/
theorem bodyAfter?_cons_eq_none_iff {w : Char} {t : Text} :
    bodyAfter? closes (w :: t) = none ↔ isBlank w = false ∨ t = [] := by
  by_cases h : isBlank w
  · rw [bodyAfter?_of_blank t h]
    cases t with
    | nil => simp
    | cons c cs => split <;> simp [h, List.getLast?_cons]
  · have hw : isBlank w = false := by simpa using h
    rw [bodyAfter?_of_not_blank t hw]
    simp [hw]

/-- A needle is in the body when a blank follows the opening and the needle stands behind all the
    blanks, before a closing line. -/
theorem exists_bodyAfter?_iff (hc : Closing closes) {m t : Text} (hm : Needle m) :
    (∃ b, bodyAfter? closes t = some b ∧ m <:+: b) ↔
      (∃ c ∈ t.head?, isBlank c = true) ∧ m <:+: upTo closes (t.dropWhile isBlank) := by
  cases t with
  | nil => simp [bodyAfter?]
  | cons w t =>
    by_cases h : isBlank w
    · rw [bodyAfter?_of_blank t h, List.dropWhile_cons_of_pos h]
      cases ht : t.dropWhile isBlank with
      | cons c cs =>
        have hblank := Text.head?_dropWhile_blank ht
        have hne : c ≠ '\n' := by rintro rfl; exact absurd hblank (by decide)
        rw [upTo_cons_of_ne hc cs hne]
        simp [h]
      | nil =>
        -- nothing but blanks: the body is the last of them, and holds no needle
        have hall := List.dropWhile_eq_nil_iff.1 ht
        constructor
        · rintro ⟨b, hb, hmb⟩
          obtain ⟨x, hx, rfl⟩ := Option.map_eq_some_iff.1 hb
          have hx' := hall x (List.mem_of_getLast? hx)
          exact absurd (List.infix_nil.1 ((infix_cons_blank hm hx' []).1 hmb)) hm.ne_nil
        · rintro ⟨-, hmb⟩
          exact absurd (List.infix_nil.1 hmb) hm.ne_nil
    · rw [bodyAfter?_of_not_blank t (by simpa using h)]
      simp [h]

/-! ### Where the opening stands -/

theorem bodyAt?_line {opening : Text} (l t : Text) (ho : '\n' ∉ opening) :
    bodyAt? opening closes (l ++ '\n' :: t) =
      if opening <+: l then bodyAfter? closes (l.drop opening.length ++ '\n' :: t) else none := by
  rw [bodyAt?]
  simp only [List.isPrefixOf_iff_prefix, Text.prefix_line_iff t ho]
  by_cases h : opening <+: l
  · rw [if_pos h, if_pos h, List.drop_append_of_le_length h.length_le]
  · rw [if_neg h, if_neg h]

theorem locate?_cons (opening : Text) (closes : Text → Bool) (c : Char) (cs : Text) :
    locate? opening closes (c :: cs) =
      (bodyAt? opening closes (c :: cs)).or (locate? opening closes cs) := by
  rw [locate?]
  cases bodyAt? opening closes (c :: cs) <;> rfl

theorem locate?_of_bodyAt? {opening t b : Text} (h : bodyAt? opening closes t = some b) :
    locate? opening closes t = some b := by
  cases t with
  | nil => simp [bodyAt?, bodyAfter?] at h
  | cons c cs => rw [locate?_cons, h, Option.some_or]

/-- A line without the opening is passed over. -/
theorem locate?_skip_line {opening : Text} (t : Text) (ho : '\n' ∉ opening) (hne : opening ≠ []) :
    ∀ {l : Text}, ¬ opening <:+: l →
      locate? opening closes (l ++ '\n' :: t) = locate? opening closes t
  | [], _ => by
    have hat : bodyAt? opening closes ([] ++ '\n' :: t) = none := by
      rw [bodyAt?_line [] t ho, if_neg fun h => hne (List.prefix_nil.1 h)]
    rw [List.nil_append] at hat ⊢
    rw [locate?_cons, hat, Option.none_or]
  | c :: l, h => by
    have hat : bodyAt? opening closes (c :: l ++ '\n' :: t) = none := by
      rw [bodyAt?_line (c :: l) t ho, if_neg fun hp => h hp.isInfix]
    rw [List.cons_append] at hat ⊢
    rw [locate?_cons, hat, Option.none_or]
    exact locate?_skip_line t ho hne fun hl => h (List.infix_cons hl)

/-! ### Whether there is a passage -/

/-- The opening stands somewhere, and a blank and one more character follow it. -/
def Opens (opening t : Text) : Prop :=
  ∃ u w v, t = u ++ (opening ++ w :: v) ∧ isBlank w = true ∧ v ≠ []

theorem bodyAt?_eq_none_iff {opening t : Text} : bodyAt? opening closes t = none ↔
    ∀ w v, t = opening ++ w :: v → isBlank w = false ∨ v = [] := by
  rw [bodyAt?]
  simp only [List.isPrefixOf_iff_prefix]
  by_cases h : opening <+: t
  · obtain ⟨r, rfl⟩ := h
    rw [if_pos (List.prefix_append _ _), List.drop_left]
    cases r with
    | nil => simp [bodyAfter?]
    | cons w v => simp [bodyAfter?_cons_eq_none_iff]
  · rw [if_neg h]
    exact iff_of_true rfl fun w v ht => absurd ⟨w :: v, ht.symm⟩ h

theorem opens_cons {opening t : Text} {c : Char} : Opens opening (c :: t) ↔
    (∃ w v, c :: t = opening ++ w :: v ∧ isBlank w = true ∧ v ≠ []) ∨ Opens opening t := by
  constructor
  · rintro ⟨u, w, v, ht, hw, hv⟩
    cases u with
    | nil => exact Or.inl ⟨w, v, ht, hw, hv⟩
    | cons d u => exact Or.inr ⟨u, w, v, (List.cons.inj ht).2, hw, hv⟩
  · rintro (⟨w, v, ht, hw, hv⟩ | ⟨u, w, v, rfl, hw, hv⟩)
    · exact ⟨[], w, v, ht, hw, hv⟩
    · exact ⟨c :: u, w, v, rfl, hw, hv⟩

/-- There is a passage exactly where the opening stands with a blank and one more character. -/
theorem locate?_eq_none_iff {opening : Text} : ∀ {t : Text},
    locate? opening closes t = none ↔ ¬ Opens opening t
  | [] => iff_of_true rfl fun ⟨u, w, v, ht, _⟩ => by simp at ht
  | c :: t => by
    rw [locate?_cons, Option.or_eq_none_iff, bodyAt?_eq_none_iff, locate?_eq_none_iff, opens_cons,
      not_or]
    refine and_congr_left' ?_
    simp only [not_exists, not_and, ne_eq, not_not]
    refine forall_congr' fun w => forall_congr' fun v => imp_congr_right fun _ => ?_
    cases isBlank w <;> simp

instance (opening t : Text) : Decidable (Opens opening t) :=
  decidable_of_iff (locate? opening (fun _ => false) t ≠ none) (not_iff_comm.1 locate?_eq_none_iff.symm)

/-- Without the opening there is no passage. -/
theorem locate?_eq_none {opening t : Text} (h : ¬ opening <:+: t) :
    locate? opening closes t = none :=
  locate?_eq_none_iff.2 fun ⟨u, w, v, ht, _⟩ => h ⟨u, w :: v, by rw [ht, List.append_assoc]⟩

/-- The body of a passage is a part of the text. -/
theorem upTo_prefix_self : ∀ t : Text, upTo closes t <+: t
  | [] => List.prefix_rfl
  | c :: t => by
    rw [upTo]
    split
    · exact List.nil_prefix
    · exact List.cons_prefix_cons.2 ⟨rfl, upTo_prefix_self t⟩

theorem infix_of_bodyAfter? {t b : Text} (h : bodyAfter? closes t = some b) : b <:+: t := by
  cases t with
  | nil => cases h
  | cons w t =>
    by_cases hw : isBlank w
    · rw [bodyAfter?_of_blank t hw] at h
      refine List.IsInfix.trans ?_ (List.suffix_cons w t).isInfix
      cases ht : t.dropWhile isBlank with
      | cons c cs =>
        rw [ht] at h
        have hb : b <+: t.dropWhile isBlank := by
          rw [ht, ← Option.some.inj h]
          exact List.cons_prefix_cons.2 ⟨rfl, upTo_prefix_self cs⟩
        exact hb.isInfix.trans (List.dropWhile_suffix _).isInfix
      | nil =>
        rw [ht] at h
        obtain ⟨x, hx, rfl⟩ := Option.map_eq_some_iff.1 h
        exact (List.singleton_infix_iff x t).2 (List.mem_of_getLast? hx)
    · rw [bodyAfter?_of_not_blank t (by simpa using hw)] at h
      cases h

theorem infix_of_locate? {opening b : Text} : ∀ {t : Text},
    locate? opening closes t = some b → b <:+: t
  | [], h => by cases h
  | c :: t, h => by
    rw [locate?_cons, Option.or_eq_some_iff] at h
    rcases h with h | ⟨-, h⟩
    · rw [bodyAt?] at h
      split at h
      · exact (infix_of_bodyAfter? h).trans (List.drop_suffix _ _).isInfix
      · cases h
    · exact List.infix_cons (infix_of_locate? h)

/-! ### Joined lines -/

/-- A needle in a line is in the body when no line up to that one closes. -/
theorem infix_upTo_joinLines (hc : Closing closes) {m : Text} (hm : Needle m) :
    ∀ {ls : List Text}, (∀ l ∈ ls, '\n' ∉ l) →
      (∃ l ∈ ls.takeWhile fun l => !closes ('\n' :: l), m <:+: l) →
      m <:+: upTo closes (Text.joinLines ls)
  | [], _, ⟨_, hl, _⟩ => by cases hl
  | [l], hn, ⟨k, hk, hmk⟩ => by
    rw [Text.joinLines_singleton, upTo_of_not_mem hc (hn l (by simp))]
    rwa [← List.mem_singleton.1 ((List.takeWhile_sublist _).subset hk)]
  | l :: k :: ls, hn, ⟨x, hx, hmx⟩ => by
    have hn' : ∀ y ∈ k :: ls, '\n' ∉ y := fun y hy => hn y (List.mem_cons_of_mem l hy)
    rw [Text.joinLines_cons l (by simp), infix_upTo_line hc _ hm (hn l (by simp))]
    rw [List.takeWhile_cons] at hx
    split at hx
    · rcases List.mem_cons.1 hx with rfl | hx
      · exact Or.inl hmx
      · refine Or.inr ⟨?_, infix_upTo_joinLines hc hm hn' ⟨x, hx, hmx⟩⟩
        -- the next line does not close, since some line is taken behind it
        have hk : closes ('\n' :: k) = false := by
          by_contra hk
          rw [List.takeWhile_cons_of_neg (by simpa using hk)] at hx
          cases hx
        cases ls with
        | nil => rwa [Text.joinLines_singleton]
        | cons y ls => rwa [Text.joinLines_cons k (by simp), hc.line k _ (hn' k (by simp))]
    · cases hx

/-- Lines without the opening are passed over. -/
theorem locate?_joinLines {opening : Text} (ho : '\n' ∉ opening) (hne : opening ≠ [])
    {b : List Text} (hb : b ≠ []) : ∀ {a : List Text}, (∀ l ∈ a, ¬ opening <:+: l) →
      locate? opening closes (Text.joinLines (a ++ b)) = locate? opening closes (Text.joinLines b)
  | [], _ => rfl
  | l :: a, h => by
    rw [List.cons_append, Text.joinLines_cons l (by simp [hb]),
      locate?_skip_line _ ho hne (h l (by simp)),
      locate?_joinLines ho hne hb fun x hx => h x (List.mem_cons_of_mem l hx)]

/-- A passage whose opening is a line by itself has the needles of the lines up to a closing one. -/
theorem exists_locate?_joinLines (hc : Closing closes) {opening m : Text} {a b : List Text}
    (ho : '\n' ∉ opening) (hne : opening ≠ []) (hm : Needle m) (ha : ∀ l ∈ a, ¬ opening <:+: l)
    (hb : ∀ l ∈ b, '\n' ∉ l) (hmb : ∃ l ∈ b.takeWhile fun l => !closes ('\n' :: l), m <:+: l) :
    ∃ p, locate? opening closes (Text.joinLines (a ++ opening :: b)) = some p ∧ m <:+: p := by
  have hb' : b ≠ [] := by
    rintro rfl
    obtain ⟨l, hl, -⟩ := hmb
    cases hl
  have hup : m <:+: upTo closes (('\n' :: Text.joinLines b).dropWhile isBlank) := by
    rw [List.dropWhile_cons_of_pos (by decide)]
    exact infix_upTo_dropWhile_blank hm (infix_upTo_joinLines hc hm hb hmb)
  obtain ⟨p, hp, hmp⟩ := (exists_bodyAfter?_iff hc hm).2 ⟨⟨'\n', rfl, by decide⟩, hup⟩
  have hat : bodyAt? opening closes (opening ++ '\n' :: Text.joinLines b) = some p := by
    rw [bodyAt?_line opening _ ho, if_pos List.prefix_rfl, List.drop_length, List.nil_append, hp]
  refine ⟨p, ?_, hmp⟩
  rw [locate?_joinLines ho hne (by simp) ha, Text.joinLines_cons opening hb']
  exact locate?_of_bodyAt? hat

end OutlineLint.Passage
