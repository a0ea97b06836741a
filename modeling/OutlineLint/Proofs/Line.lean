import Mathlib.Data.List.Infix
import OutlineLint.Text.Line

/-! Lines one by one. A text is a single line, or a line, a newline and a text; what is said about
    texts here is proved along this shape (`Text.lineRec`), and every function on lines has one
    equation for each of the two cases.

        t = l                     lines t = [l], and nothing for the empty line
        t = l ++ newline :: rest  lines t = l without its return :: lines rest

    A segment is a line with the newline that ends it. Taking lines out of a text takes out their
    segments, so what stays keeps its line breaks. -/

namespace OutlineLint.Text

/-- Induction along the lines of a text. -/
theorem lineRec {P : Text → Prop} (last : ∀ l, '\n' ∉ l → P l)
    (line : ∀ l t, '\n' ∉ l → P t → P (l ++ '\n' :: t)) (t : Text) : P t := by
  induction h : t.length using Nat.strong_induction_on generalizing t with
  | _ n ih =>
    by_cases hn : '\n' ∈ t
    · obtain ⟨l, r, rfl, hl⟩ := List.eq_append_cons_of_mem hn
      have hr : r.length < n := by
        rw [← h, List.length_append, List.length_cons]; omega
      exact line l r hl (ih r.length hr r rfl)
    · exact last t hn

/-! ### Pieces, lines and joined lines -/

theorem pieces_of_not_mem {sep : Char} : ∀ {l : Text}, sep ∉ l → pieces sep l = [l]
  | [], _ => rfl
  | c :: l, h => by
    rw [List.mem_cons, not_or] at h
    rw [pieces_cons, if_neg (Ne.symm h.1), pieces_of_not_mem h.2]; rfl

theorem pushFirst_append (c : Char) {ps : List Text} (h : ps ≠ []) (qs : List Text) :
    pushFirst c (ps ++ qs) = pushFirst c ps ++ qs := by
  obtain ⟨p, ps, rfl⟩ := List.exists_cons_of_ne_nil h
  rfl

/-- The pieces in front of a separator, and those behind it. -/
theorem pieces_append {sep : Char} (u t : Text) :
    pieces sep (u ++ sep :: t) = pieces sep u ++ pieces sep t := by
  induction u with
  | nil => rw [List.nil_append, pieces_cons, if_pos rfl]; rfl
  | cons c u ih =>
    rw [List.cons_append, pieces_cons, pieces_cons, ih]
    split
    · rfl
    · exact pushFirst_append c (pieces_ne_nil sep u) _

theorem pieces_append_cons {sep : Char} {l : Text} (t : Text) (h : sep ∉ l) :
    pieces sep (l ++ sep :: t) = l :: pieces sep t := by
  rw [pieces_append, pieces_of_not_mem h, List.singleton_append]

theorem lines_of_not_mem {l : Text} (h : '\n' ∉ l) : lines l = if l = [] then [] else [l] := by
  simp [lines, pieces_of_not_mem h]

@[simp] theorem lines_nil : lines [] = [] := rfl

theorem lines_line {l : Text} (t : Text) (h : '\n' ∉ l) :
    lines (l ++ '\n' :: t) = dropReturn l :: lines t := by
  obtain ⟨p, ps, hps⟩ := List.exists_cons_of_ne_nil (pieces_ne_nil '\n' t)
  simp only [lines, pieces_append_cons t h, hps, List.dropLast_cons_cons, List.map_cons,
    List.cons_append, List.getLastD_cons]

@[simp] theorem joinLines_singleton (l : Text) : joinLines [l] = l := by
  rw [joinLines, join, List.intercalate_singleton]

theorem joinLines_cons (l : Text) {ls : List Text} (h : ls ≠ []) :
    joinLines (l :: ls) = l ++ '\n' :: joinLines ls := by
  rw [joinLines, join, List.intercalate_cons_of_ne_nil h]; simp [joinLines, join]

/-- Lines joined in two parts. -/
theorem joinLines_append {b : List Text} (hb : b ≠ []) : ∀ {a : List Text}, a ≠ [] →
    joinLines (a ++ b) = joinLines a ++ '\n' :: joinLines b
  | [l], _ => by rw [List.singleton_append, joinLines_cons l hb, joinLines_singleton]
  | l :: k :: a, _ => by
    have ih := joinLines_append hb (a := k :: a) (List.cons_ne_nil k a)
    rw [List.cons_append, joinLines_cons l (by simp), ih, joinLines_cons l (by simp)]; simp

/-- A beginning of the lines gives a beginning of the joined text. -/
theorem prefix_joinLines_append (a b : List Text) : joinLines a <+: joinLines (a ++ b) := by
  by_cases ha : a = []
  · subst ha; exact List.nil_prefix
  by_cases hb : b = []
  · subst hb; rw [List.append_nil]
  rw [joinLines_append hb ha]
  exact List.prefix_append _ _

/-- Joined lines come back without their returns as long as more lines follow. -/
theorem lines_joinLines_append {b : List Text} (hb : b ≠ []) : ∀ {a : List Text},
    (∀ l ∈ a, '\n' ∉ l) → lines (joinLines (a ++ b)) = a.map dropReturn ++ lines (joinLines b)
  | [], _ => rfl
  | l :: a, h => by
    rw [List.cons_append, joinLines_cons l (by simp [hb]), lines_line _ (h l (by simp)),
      lines_joinLines_append hb fun x hx => h x (List.mem_cons_of_mem l hx)]
    rfl

/-- Joined lines come apart again. -/
theorem pieces_joinLines : ∀ {ls : List Text}, ls ≠ [] → (∀ l ∈ ls, '\n' ∉ l) →
    pieces '\n' (joinLines ls) = ls
  | [l], _, h => by rw [joinLines_singleton, pieces_of_not_mem (h l (by simp))]
  | l :: k :: ls, _, h => by
    rw [joinLines_cons l (by simp), pieces_append_cons _ (h l (by simp)),
      pieces_joinLines (by simp) fun x hx => h x (List.mem_cons_of_mem l hx)]

/-- A first line that is not empty and has no return comes back, whatever follows. -/
theorem lines_joinLines_cons {l : Text} (hl : '\n' ∉ l) (hne : l ≠ []) (hr : dropReturn l = l)
    (ls : List Text) : ∃ rest, lines (joinLines (l :: ls)) = l :: rest := by
  by_cases hls : ls = []
  · subst hls
    exact ⟨[], by rw [joinLines_singleton, lines_of_not_mem hl, if_neg hne]⟩
  · exact ⟨lines (joinLines ls), by rw [joinLines_cons l hls, lines_line _ hl, hr]⟩

/-! ### Returns in front of newlines -/

/-- The text with a carriage return before every newline. -/
def crlf (t : Text) : Text := t.flatMap fun c => if c = '\n' then ['\r', '\n'] else [c]

theorem crlf_of_not_mem : ∀ {l : Text}, '\n' ∉ l → crlf l = l
  | [], _ => rfl
  | c :: l, h => by
    rw [List.mem_cons, not_or] at h
    rw [crlf, List.flatMap_cons, if_neg (Ne.symm h.1)]
    exact congrArg (c :: ·) (crlf_of_not_mem h.2)

theorem crlf_line {l : Text} (t : Text) (h : '\n' ∉ l) :
    crlf (l ++ '\n' :: t) = (l ++ ['\r']) ++ '\n' :: crlf t := by
  have hl := crlf_of_not_mem h
  rw [crlf] at hl ⊢
  rw [List.flatMap_append, hl, List.flatMap_cons, if_pos rfl]
  simp [crlf]

theorem dropReturn_concat (l : Text) : dropReturn (l ++ ['\r']) = l := by
  rw [dropReturn, List.getLast?_concat, if_pos rfl, List.dropLast_concat]

/-- A line comes back from a return and a newline. -/
theorem lines_return {l : Text} (t : Text) (h : '\n' ∉ l) :
    lines (l ++ "\r\n".toList ++ t) = l :: lines t := by
  have hl : '\n' ∉ l ++ ['\r'] := by simpa using h
  have hline := lines_line t hl
  rw [dropReturn_concat] at hline
  simpa using hline

/-- Lines come back from returns and newlines, whatever follows. -/
theorem lines_crlf (t u : Text) :
    lines (crlf t ++ "\r\n".toList ++ u) = pieces '\n' t ++ lines u := by
  induction t using lineRec with
  | last l hl => rw [crlf_of_not_mem hl, lines_return u hl, pieces_of_not_mem hl]; rfl
  | line l t hl ih =>
    have hreturn := lines_return (crlf t ++ "\r\n".toList ++ u) hl
    rw [ih] at hreturn
    rw [crlf_line t hl, pieces_append_cons t hl, List.cons_append, ← hreturn]
    simp

/-- The pieces between newlines, joined, are the text. -/
theorem joinLines_pieces (t : Text) : joinLines (pieces '\n' t) = t := by
  induction t using lineRec with
  | last l hl => rw [pieces_of_not_mem hl, joinLines_singleton]
  | line l t hl ih => rw [pieces_append_cons t hl, joinLines_cons l (pieces_ne_nil _ _), ih]

/-! ### Parts of a text that lie in one line -/

/-- What lacks a character ends before the character. -/
theorem prefix_line_iff {m l : Text} {c : Char} (t : Text) (hm : c ∉ m) :
    m <+: l ++ c :: t ↔ m <+: l := by
  refine ⟨fun h => ?_, fun h => h.trans (List.prefix_append _ _)⟩
  have hl : l ++ [c] <+: l ++ c :: t := ⟨t, by simp⟩
  rcases List.prefix_or_prefix_of_prefix h hl with hml | hlm
  · rcases List.prefix_concat_iff.1 hml with heq | hp
    · exact absurd (heq ▸ List.mem_append_right l (List.mem_singleton.2 rfl)) hm
    · exact hp
  · exact absurd (hlm.subset (List.mem_append_right l (List.mem_singleton.2 rfl))) hm

/-- What lacks a character stands before the character or behind it. -/
theorem infix_line_iff {m l : Text} {c : Char} (t : Text) (hm : c ∉ m) :
    m <:+: l ++ c :: t ↔ m <:+: l ∨ m <:+: t := by
  induction l with
  | nil =>
    rw [List.nil_append, List.infix_cons_iff]
    have hp : m <+: [] ++ c :: t ↔ m <+: [] := prefix_line_iff t hm
    rw [List.nil_append] at hp
    rw [hp, List.prefix_nil, List.infix_nil]
  | cons d l ih =>
    have hp : m <+: d :: l ++ c :: t ↔ m <+: d :: l := prefix_line_iff t hm
    rw [List.cons_append] at hp ⊢
    rw [List.infix_cons_iff, List.infix_cons_iff, hp, ih, or_assoc]

/-- What has no newline stands in one of the joined lines. -/
theorem infix_joinLines_iff {m : Text} (hm : '\n' ∉ m) (hne : m ≠ []) :
    ∀ {ls : List Text}, m <:+: joinLines ls ↔ ∃ l ∈ ls, m <:+: l
  | [] => by simp [joinLines, join, hne]
  | [l] => by simp
  | l :: k :: ls => by
    rw [joinLines_cons l (by simp), infix_line_iff _ hm, infix_joinLines_iff hm hne]
    simp only [List.mem_cons, exists_eq_or_imp]

/-- What does not end in a carriage return is not in the one that is dropped. -/
theorem infix_dropReturn_iff {m l : Text} (hm : m.getLast? ≠ some '\r') :
    m <:+: dropReturn l ↔ m <:+: l := by
  unfold dropReturn
  split
  · rename_i h
    obtain ⟨k, rfl⟩ := List.getLast?_eq_some_iff.1 h
    rw [List.dropLast_concat]
    refine ⟨fun hk => hk.trans (List.prefix_append k _).isInfix, fun hk => ?_⟩
    rcases List.infix_concat_iff.1 hk with hs | hk
    · rcases List.suffix_concat_iff.1 hs with rfl | ⟨v, rfl, -⟩
      · exact List.nil_infix
      · exact absurd (List.getLast?_concat ..) hm
    · exact hk
  · exact Iff.rfl

/-! ### Where a line stands -/

theorem dropReturn_prefix_self (l : Text) : dropReturn l <+: l := by
  unfold dropReturn
  split
  · exact List.dropLast_prefix l
  · exact List.prefix_rfl

theorem not_mem_dropReturn {l : Text} (h : '\n' ∉ l) : '\n' ∉ dropReturn l :=
  fun hn => h ((dropReturn_prefix_self l).subset hn)

/-- No line has a newline. -/
theorem not_mem_of_mem_lines {t : Text} : ∀ l ∈ lines t, '\n' ∉ l := by
  induction t using lineRec with
  | last l hl =>
    rw [lines_of_not_mem hl]
    split
    · simp
    · simpa using hl
  | line l t hl ih =>
    rw [lines_line t hl]
    exact List.forall_mem_cons.2 ⟨not_mem_dropReturn hl, ih⟩

/-- Where a line stands in the text, if it is not the last. -/
theorem exists_eq_of_lines_eq {h : Text} {b : List Text} (hb : b ≠ []) (t : Text) :
    ∀ {a : List Text}, lines t = a ++ h :: b →
      ∃ u l s, t = u ++ (l ++ '\n' :: s) ∧ '\n' ∉ l ∧ dropReturn l = h ∧ lines s = b := by
  induction t using lineRec with
  | last l hl =>
    intro a ht
    have hlen : (lines l).length ≤ 1 := by rw [lines_of_not_mem hl]; split <;> simp
    have hpos := List.length_pos_of_ne_nil hb
    rw [ht, List.length_append, List.length_cons] at hlen
    omega
  | line l t hl ih =>
    intro a ht
    rw [lines_line t hl] at ht
    cases a with
    | nil =>
      obtain ⟨hh, hs⟩ := List.cons.inj ht
      exact ⟨[], l, t, rfl, hl, hh, hs⟩
    | cons k a =>
      obtain ⟨u, l', s, rfl, hl', hh, hs⟩ := ih (List.cons.inj ht).2
      exact ⟨l ++ '\n' :: u, l', s, by simp, hl', hh, hs⟩

/-! ### Whole lines -/

/-- A text is nothing, or ends with a newline. -/
def Ended (t : Text) : Prop := t = [] ∨ t.getLast? = some '\n'

instance (t : Text) : Decidable (Ended t) :=
  inferInstanceAs (Decidable (t = [] ∨ t.getLast? = some '\n'))

theorem ended_nil : Ended [] := Or.inl rfl

/-- A text ends as its last part does, unless that is nothing. -/
theorem Ended.append_left (t : Text) {u : Text} (hu : Ended u) (hne : u ≠ []) : Ended (t ++ u) :=
  Or.inr (by rw [List.getLast?_append_of_ne_nil t hne, hu.resolve_left hne])

theorem ended_concat (t : Text) : Ended (t ++ ['\n']) :=
  Ended.append_left t (by decide) (by decide)

theorem Ended.append {t u : Text} (ht : Ended t) (hu : Ended u) : Ended (t ++ u) := by
  by_cases hne : u = []
  · rwa [hne, List.append_nil]
  · exact hu.append_left t hne

/-- The end of a text that ends is one itself. -/
theorem Ended.of_append {t u : Text} (h : Ended (t ++ u)) : Ended u := by
  by_cases hne : u = []
  · exact Or.inl hne
  · rw [Ended, List.getLast?_append_of_ne_nil t hne] at h
    exact h.imp_left fun hnil => (List.append_eq_nil_iff.1 hnil).2

theorem ended_flatMap {α : Type} {f : α → Text} : ∀ {xs : List α}, (∀ x ∈ xs, Ended (f x)) →
    Ended (xs.flatMap f)
  | [], _ => ended_nil
  | x :: xs, h => by
    rw [List.flatMap_cons]
    exact (h x (List.mem_cons_self ..)).append
      (ended_flatMap fun y hy => h y (List.mem_cons_of_mem x hy))

/-- A text that ends is something and a newline, unless it is nothing. -/
theorem Ended.exists_concat {t : Text} (ht : Ended t) (hne : t ≠ []) : ∃ u, t = u ++ ['\n'] :=
  List.getLast?_eq_some_iff.1 (ht.resolve_left hne)

/-- Behind whole lines the lines of a text come as they are. -/
theorem lines_append_of_ended {t : Text} (ht : Ended t) (u : Text) :
    lines (t ++ u) = lines t ++ lines u := by
  induction t using lineRec with
  | last l hl =>
    have hnil : l = [] := ht.resolve_right fun h => hl (List.mem_of_getLast? h)
    rw [hnil, List.nil_append, lines_nil, List.nil_append]
  | line l t hl ih =>
    rw [← List.singleton_append, ← List.append_assoc] at ht
    rw [List.append_assoc, List.cons_append, lines_line _ hl, lines_line t hl, ih ht.of_append,
      List.cons_append]

/-! ### Taking lines out -/

/-- The lines of a text, each with the newline that ends it. -/
def segments (t : Text) : List Text :=
  t.foldr (fun c ss => if c = '\n' then [c] :: ss else pushFirst c ss) []

/-- The line of a segment. -/
def lineOf (s : Text) : Text := if s.getLast? = some '\n' then dropReturn s.dropLast else s

/-- A text without the lines that `p` holds of, which go with the newlines that end them. -/
def dropLines (p : Text → Bool) (t : Text) : Text :=
  ((segments t).filter fun s => !p (lineOf s)).flatten

theorem segments_cons (c : Char) (t : Text) :
    segments (c :: t) = if c = '\n' then [c] :: segments t else pushFirst c (segments t) := rfl

theorem segments_of_not_mem : ∀ {l : Text}, '\n' ∉ l → segments l = if l = [] then [] else [l]
  | [], _ => rfl
  | c :: l, h => by
    rw [List.mem_cons, not_or] at h
    rw [segments_cons, if_neg (Ne.symm h.1), segments_of_not_mem h.2,
      if_neg (List.cons_ne_nil c l)]
    cases l <;> rfl

theorem segments_line : ∀ {l : Text} (t : Text), '\n' ∉ l →
    segments (l ++ '\n' :: t) = (l ++ ['\n']) :: segments t
  | [], t, _ => by rw [List.nil_append, segments_cons, if_pos rfl]; rfl
  | c :: l, t, h => by
    rw [List.mem_cons, not_or] at h
    rw [List.cons_append, segments_cons, if_neg (Ne.symm h.1), segments_line t h.2]; rfl

/-- The segments make up the text. -/
theorem flatten_segments (t : Text) : (segments t).flatten = t := by
  induction t using lineRec with
  | last l hl =>
    rw [segments_of_not_mem hl]
    split
    · rename_i h; subst h; rfl
    · simp
  | line l t hl ih => rw [segments_line t hl, List.flatten_cons, ih]; simp

theorem lineOf_newline (l : Text) : lineOf (l ++ ['\n']) = dropReturn l := by
  rw [lineOf, List.getLast?_concat, if_pos rfl, List.dropLast_concat]

theorem lineOf_of_not_mem {l : Text} (h : '\n' ∉ l) : lineOf l = l := by
  rw [lineOf, if_neg fun hl => h (List.mem_of_getLast? hl)]

/-- The lines of a text are those of its segments. -/
theorem lines_eq_map_segments (t : Text) : lines t = (segments t).map lineOf := by
  induction t using lineRec with
  | last l hl =>
    rw [lines_of_not_mem hl, segments_of_not_mem hl]
    split
    · rfl
    · rw [List.map_singleton, lineOf_of_not_mem hl]
  | line l t hl ih => rw [lines_line t hl, segments_line t hl, List.map_cons, lineOf_newline, ih]

theorem dropLines_of_not_mem (p : Text → Bool) {l : Text} (h : '\n' ∉ l) :
    dropLines p l = if p l then [] else l := by
  rw [dropLines, segments_of_not_mem h]
  by_cases hl : l = []
  · subst hl; simp
  · rw [if_neg hl]
    by_cases hp : p l <;> simp [lineOf_of_not_mem h, hp]

theorem dropLines_line (p : Text → Bool) {l : Text} (t : Text) (h : '\n' ∉ l) :
    dropLines p (l ++ '\n' :: t) =
      if p (dropReturn l) then dropLines p t else l ++ '\n' :: dropLines p t := by
  rw [dropLines, segments_line t h]
  by_cases hp : p (dropReturn l) <;> simp [lineOf_newline, hp, dropLines]

/-- What is left has the lines that were not taken out. -/
theorem lines_dropLines (p : Text → Bool) (t : Text) :
    lines (dropLines p t) = (lines t).filter fun l => !p l := by
  induction t using lineRec with
  | last l hl =>
    rw [dropLines_of_not_mem p hl, lines_of_not_mem hl]
    by_cases hp : p l
    · rw [if_pos hp]
      split <;> simp [hp]
    · rw [if_neg hp, lines_of_not_mem hl]
      split <;> simp [hp]
  | line l t hl ih =>
    rw [dropLines_line p t hl, lines_line t hl]
    by_cases hp : p (dropReturn l)
    · rw [if_pos hp, ih]; simp [hp]
    · rw [if_neg hp, lines_line _ hl, ih]; simp [hp]

end OutlineLint.Text
