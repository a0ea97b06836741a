import Mathlib.Data.List.Basic
import Mathlib.Data.List.Infix
import OutlineLint.Report.Json

/-! What the JSON report keeps. Everything in it shows where it ends, whatever is written behind it:

        string    a quotation mark, since those inside are escaped
        number    a comma, which is no digit
        list      a newline behind an item, where a comma would bring another one

    So a report is read off its text from left to right, and two reports with one text are one.
    Control characters are escaped in strings as well, so those of a text are its line breaks, and
    the layout says how many these are. -/

namespace OutlineLint

/-- What is written for two things, with anything behind it, is the same only when the things are,
    and what is behind them. -/
def Delimited {α : Type} (write : α → Text) : Prop :=
  ∀ a b s u, write a ++ s = write b ++ u → a = b ∧ s = u

/-- A text in front and a text behind do not matter. -/
theorem Delimited.between {α : Type} {write : α → Text} (hw : Delimited write) (t v : Text) :
    Delimited fun a => t ++ (write a ++ v) := by
  intro a b s u h
  simp only [List.append_assoc, List.append_cancel_left_eq] at h
  obtain ⟨rfl, hrest⟩ := hw a b _ _ h
  exact ⟨rfl, List.append_cancel_left hrest⟩

/-- The control characters of a text, in order. -/
def Text.controls (t : Text) : Text := t.filter (·.toNat < 0x20)

@[simp] theorem Text.controls_append (t u : Text) :
    controls (t ++ u) = controls t ++ controls u := List.filter_append t u

theorem Text.controls_cons (c : Char) (t : Text) :
    controls (c :: t) = controls [c] ++ controls t := by
  rw [← controls_append, List.singleton_append]

/-- Numbers show where they end when a comma follows. -/
theorem Text.delimited_ofNat : Delimited fun n => ofNat n ++ [','] := by
  intro m n s u h
  have hdigit : ∀ k, ∀ c ∈ ofNat k, c.isDigit = true := fun k c hc =>
    Nat.isDigit_of_mem_toDigits (by decide) (by decide) hc
  have hfront := congrArg (List.takeWhile Char.isDigit) h
  have hbehind := congrArg (List.dropWhile Char.isDigit) h
  simp only [List.append_assoc, List.takeWhile_append_of_pos (hdigit _),
    List.dropWhile_append_of_pos (hdigit _)] at hfront hbehind
  have hvalue : ofNat m = ofNat n := by simpa using hfront
  constructor
  · have hread := congrArg (Nat.ofDigitChars 10 · 0) hvalue
    simpa [ofNat, Nat.ofDigitChars_ten_toDigits] using hread
  · simpa using hbehind

theorem Text.controls_ofNat (n : Nat) : controls (ofNat n) = [] := by
  refine List.filter_eq_nil_iff.2 fun c hc => ?_
  have hdigit : c.isDigit = true := Nat.isDigit_of_mem_toDigits (by decide) (by decide) hc
  simp only [Char.isDigit, Bool.and_eq_true, decide_eq_true_eq, UInt32.le_iff_toNat_le] at hdigit
  have hlow : 48 ≤ c.toNat := hdigit.1
  simp only [decide_eq_true_eq]
  omega

namespace Json

/-! ### Strings -/

/-- The characters that a string does not show: those below U+0020, and the two signs. -/
def hidden : List Char := '"' :: '\\' :: (List.range 0x20).map Char.ofNat

theorem mem_hidden_of_lt {c : Char} (h : c.toNat < 0x20) : c ∈ hidden := by
  refine List.mem_cons_of_mem _ (List.mem_cons_of_mem _ (List.mem_map.2 ⟨c.toNat, ?_, ?_⟩))
  · exact List.mem_range.2 h
  · exact Char.ofNat_toNat c

/-- What is written for a hidden character begins with a backslash, has no control character, and
    is the beginning of nothing that is written for another. -/
theorem escape_hidden : ∀ c ∈ hidden, (escape c).head? = some '\\' ∧
    Text.controls (escape c) = [] ∧ ∀ d ∈ hidden, escape c <+: escape d → c = d := by
  -- the two rounds go over the list, and not over all characters
  have h : hidden.all fun c => (escape c).head? = some '\\' ∧ Text.controls (escape c) = [] ∧
      hidden.all fun d => escape c <+: escape d → c = d := by decide +kernel
  simpa only [List.all_eq_true, decide_eq_true_eq] using h

theorem escape_of_not_hidden {c : Char} (h : c ∉ hidden) : escape c = [c] := by
  unfold escape
  split
  case h_8 => rw [if_neg fun hlt => h (mem_hidden_of_lt hlt)]
  all_goals exact absurd (by decide) h

/-- What is written for a character never begins with a quotation mark. -/
theorem head?_escape (c : Char) : ∃ d ∈ (escape c).head?, d ≠ '"' := by
  by_cases h : c ∈ hidden
  · exact ⟨'\\', (escape_hidden c h).1, by decide⟩
  · rw [escape_of_not_hidden h]
    refine ⟨c, rfl, ?_⟩
    rintro rfl
    exact h (by decide)

theorem controls_escape (c : Char) : Text.controls (escape c) = [] := by
  by_cases h : c ∈ hidden
  · exact (escape_hidden c h).2.1
  · rw [escape_of_not_hidden h]
    have hc : ¬ c.toNat < 0x20 := fun hlt => h (mem_hidden_of_lt hlt)
    simp [Text.controls, hc]

/-- A character that stands for itself is not what a hidden one begins with. -/
theorem escape_append_ne {c d : Char} (hc : c ∈ hidden) (hd : d ∉ hidden) (s u : Text) :
    escape c ++ s ≠ d :: u := by
  intro h
  obtain ⟨v, hv⟩ := List.head?_eq_some_iff.1 (escape_hidden c hc).1
  rw [hv, List.cons_append] at h
  exact hd ((List.cons.inj h).1 ▸ by decide)

theorem delimited_escape : Delimited escape := by
  intro c d s u h
  by_cases hc : c ∈ hidden <;> by_cases hd : d ∈ hidden
  · have hp : escape c <+: escape d ∨ escape d <+: escape c :=
      List.prefix_or_prefix_of_prefix ⟨s, rfl⟩ ⟨u, h.symm⟩
    obtain rfl : c = d := hp.elim ((escape_hidden c hc).2.2 d hd)
      fun hp => ((escape_hidden d hd).2.2 c hc hp).symm
    exact ⟨rfl, List.append_cancel_left h⟩
  · rw [escape_of_not_hidden hd] at h
    exact absurd h (escape_append_ne hc hd s u)
  · rw [escape_of_not_hidden hc] at h
    exact absurd h.symm (escape_append_ne hd hc u s)
  · rw [escape_of_not_hidden hc, escape_of_not_hidden hd] at h
    exact List.cons.inj h

/-- Character by character up to the closing quotation mark. -/
theorem flatMap_escape_inj : ∀ {t v s u : Text},
    t.flatMap escape ++ '"' :: s = v.flatMap escape ++ '"' :: u → t = v ∧ s = u
  | [], [], _, _, h => ⟨rfl, (List.cons.inj h).2⟩
  | [], d :: v, s, u, h => by
    obtain ⟨x, hx, hne⟩ := head?_escape d
    obtain ⟨w, hw⟩ := List.head?_eq_some_iff.1 hx
    rw [List.flatMap_cons, hw] at h
    exact absurd (List.cons.inj h).1.symm hne
  | c :: t, [], s, u, h => by
    obtain ⟨x, hx, hne⟩ := head?_escape c
    obtain ⟨w, hw⟩ := List.head?_eq_some_iff.1 hx
    rw [List.flatMap_cons, hw] at h
    exact absurd (List.cons.inj h).1 hne
  | c :: t, d :: v, s, u, h => by
    rw [List.flatMap_cons, List.flatMap_cons, List.append_assoc, List.append_assoc] at h
    obtain ⟨rfl, hrest⟩ := delimited_escape c d _ _ h
    obtain ⟨rfl, rfl⟩ := flatMap_escape_inj hrest
    exact ⟨rfl, rfl⟩

theorem delimited_quote : Delimited quote := by
  intro t v s u h
  simp only [quote, List.cons_append, List.append_assoc, List.nil_append] at h
  exact flatMap_escape_inj (List.cons.inj h).2

/-- A string has no control character. -/
theorem controls_quote (t : Text) : Text.controls (quote t) = [] := by
  have hchars : Text.controls (t.flatMap escape) = [] := by
    rw [Text.controls, List.filter_flatMap, List.flatMap_eq_nil_iff]
    exact fun c _ => controls_escape c
  rw [quote, Text.controls_append, ← List.singleton_append, Text.controls_append, hchars]
  rfl

/-! ### Items -/

/-- What stands behind an item: the other items and the closing bracket. -/
def more (right : Char) (depth : Nat) : List Text → Text
  | [] => newLine depth ++ [right]
  | x :: xs => ',' :: (newLine (depth + 1) ++ (x ++ more right depth xs))

theorem join_newLine (right : Char) (depth : Nat) : ∀ (x : Text) (xs : List Text),
    Text.join [','] ((x :: xs).map (newLine (depth + 1) ++ ·)) ++ (newLine depth ++ [right]) =
      newLine (depth + 1) ++ (x ++ more right depth xs)
  | x, [] => by simp [Text.join, more]
  | x, y :: ys => by
    rw [List.map_cons, Text.join, List.intercalate_cons_of_ne_nil (by simp), List.append_assoc,
      List.append_assoc, ← Text.join, join_newLine right depth y ys, more]
    simp

theorem block_cons (left right : Char) (depth : Nat) (x : Text) (xs : List Text) :
    block left right depth (x :: xs) =
      left :: (newLine (depth + 1) ++ (x ++ more right depth xs)) := by
  rw [block, if_neg (List.cons_ne_nil x xs), List.cons_append, List.cons_append, List.append_assoc,
    join_newLine]

section Items
variable {α : Type} {write : α → Text} {left right : Char} {depth : Nat}

/-- Items show where they end when each of them does. -/
theorem delimited_more (hw : Delimited write) :
    Delimited fun xs : List α => more right depth (xs.map write) := by
  intro xs
  induction xs with
  | nil =>
    rintro (_ | ⟨y, ys⟩) s u h
    · exact ⟨rfl, List.append_cancel_left h⟩
    · exact absurd (List.cons.inj h).1 (by decide)
  | cons x xs ih =>
    rintro (_ | ⟨y, ys⟩) s u h
    · exact absurd (List.cons.inj h).1 (by decide)
    · simp only [List.map_cons, more, List.cons_append, List.append_assoc, List.cons.injEq,
        true_and, List.append_cancel_left_eq] at h
      obtain ⟨rfl, hrest⟩ := hw x y _ _ h
      obtain ⟨rfl, rfl⟩ := ih ys s u hrest
      exact ⟨rfl, rfl⟩

theorem delimited_block (hw : Delimited write) (hr : right ≠ '\n') :
    Delimited fun xs : List α => block left right depth (xs.map write) := by
  have hnil : ∀ (y : α) (ys : List α) (s u : Text), block left right depth [] ++ s ≠
      block left right depth ((y :: ys).map write) ++ u := by
    intro y ys s u h
    rw [List.map_cons, block_cons] at h
    exact hr (List.cons.inj (List.cons.inj h).2).1
  rintro (_ | ⟨x, xs⟩) (_ | ⟨y, ys⟩) s u h
  · exact ⟨rfl, List.append_cancel_left h⟩
  · exact absurd h (hnil y ys s u)
  · exact absurd h.symm (hnil x xs u s)
  · simp only [List.map_cons, block_cons, List.cons_append, List.append_assoc, List.cons.injEq,
      true_and, List.append_cancel_left_eq] at h
    obtain ⟨rfl, hrest⟩ := hw x y _ _ h
    obtain ⟨rfl, rfl⟩ := delimited_more hw xs ys s u hrest
    exact ⟨rfl, rfl⟩

/-! ### Line breaks -/

theorem controls_newLine (depth : Nat) : Text.controls (newLine depth) = ['\n'] := by
  have hblanks : Text.controls (List.replicate (2 * depth) ' ') = [] :=
    List.filter_eq_nil_iff.2 fun c hc => by rw [List.eq_of_mem_replicate hc]; decide
  rw [newLine, ← List.singleton_append, Text.controls_append, hblanks]
  rfl

theorem controls_more (hr : Text.controls [right] = []) : ∀ xs : List Text,
    Text.controls (more right depth xs) = xs.flatMap (fun x => '\n' :: Text.controls x) ++ ['\n']
  | [] => by simp [more, controls_newLine, hr]
  | x :: xs => by
    have hcomma : Text.controls [','] = [] := by decide
    rw [more, Text.controls_cons, Text.controls_append, Text.controls_append, hcomma,
      controls_newLine, controls_more hr xs]
    simp

/-- Every item stands on a line of its own, and so does the closing bracket behind items. -/
theorem controls_block (hl : Text.controls [left] = []) (hr : Text.controls [right] = [])
    (xs : List Text) : Text.controls (block left right depth xs) =
      if xs = [] then [] else xs.flatMap (fun x => '\n' :: Text.controls x) ++ ['\n'] := by
  cases xs with
  | nil =>
    rw [block, if_pos rfl, if_pos rfl, Text.controls_cons, hl, hr, List.nil_append]
  | cons x xs =>
    rw [block_cons, Text.controls_cons, Text.controls_append, Text.controls_append, hl,
      controls_newLine, controls_more hr, if_neg (List.cons_ne_nil x xs)]
    simp

end Items

/-- A member has the control characters of its value. -/
theorem controls_member (key : String) (value : Text) :
    Text.controls (quote key.toList ++ [':', ' '] ++ value) = Text.controls value := by
  have hcolon : Text.controls [':', ' '] = [] := by decide
  rw [Text.controls_append, Text.controls_append, controls_quote, hcolon, List.nil_append,
    List.nil_append]

end Json

/-! ### Findings -/

theorem FindingKind.tag_injective {k k' : FindingKind} (h : k.tag.toList = k'.tag.toList) :
    k = k' := by
  cases k <;> cases k' <;> first | rfl | exact absurd h (by decide)

/-- A finding shows where it ends. -/
theorem Finding.delimited_object (depth : Nat) :
    Delimited fun f : Finding => Json.object depth f.members := by
  rintro ⟨id, kind, detail⟩ ⟨id', kind', detail'⟩ s u h
  simp only [Json.object, members, List.map_cons, List.map_nil, Json.block_cons, Json.more,
    List.append_assoc, List.cons_append, List.cons.injEq, true_and,
    List.append_cancel_left_eq] at h
  obtain ⟨rfl, h₁⟩ := Json.delimited_quote _ _ _ _ h
  simp only [List.cons.injEq, true_and, List.append_cancel_left_eq] at h₁
  obtain ⟨hkind, h₂⟩ := Json.delimited_quote _ _ _ _ h₁
  obtain rfl := FindingKind.tag_injective hkind
  simp only [List.cons.injEq, true_and, List.append_cancel_left_eq] at h₂
  obtain ⟨rfl, h₃⟩ := Json.delimited_quote _ _ _ _ h₂
  simp only [List.append_cancel_left_eq, List.cons.injEq, true_and] at h₃
  exact ⟨rfl, h₃⟩

/-- A finding stands on three lines between two brackets. -/
theorem Finding.controls_object (depth : Nat) (f : Finding) :
    Text.controls (Json.object depth f.members) = List.replicate 4 '\n' := by
  rw [Json.object, Json.controls_block (by decide) (by decide)]
  simp only [members, List.map_cons, List.map_nil, List.flatMap_cons, List.flatMap_nil,
    Json.controls_member, Json.controls_quote]
  rfl

theorem Json.delimited_bool : Delimited Json.bool := by
  intro p p' s u h
  cases p <;> cases p' <;> simp_all [Json.bool]

namespace Report

/-- What is written in front of the verdict. -/
def jsonFront (checked : Nat) : Text :=
  "\x7b\n  \"documents_checked\": ".toList ++
    ((Text.ofNat checked ++ [',']) ++ "\n  \"passed\": ".toList)

/-- What is written behind the verdict. -/
def jsonBack (fs : List Finding) : Text :=
  ",\n  \"findings\": ".toList ++
    (Json.block '[' ']' 1 (fs.map fun f => Json.object 2 f.members) ++ "\n\x7d".toList)

theorem delimited_jsonFront : Delimited jsonFront := by
  intro m n s u h
  unfold jsonFront at h
  exact Text.delimited_ofNat.between _ _ m n s u h

theorem delimited_jsonBack : Delimited jsonBack := by
  have hblock : Delimited fun fs : List Finding =>
      Json.block '[' ']' 1 (fs.map fun f => Json.object 2 f.members) :=
    Json.delimited_block (Finding.delimited_object 2) (by decide)
  intro fs gs s u h
  unfold jsonBack at h
  exact hblock.between _ _ fs gs s u h

theorem json_eq (r : Report) :
    r.json = jsonFront r.checked ++ (Json.bool r.passed ++ jsonBack r.findings) := by
  have hfront : "\x7b\n  \"documents_checked\": ".toList =
      '\x7b' :: (Json.newLine 1 ++ (Json.quote "documents_checked".toList ++ [':', ' '])) := by decide
  have hpassed : "\n  \"passed\": ".toList =
      Json.newLine 1 ++ (Json.quote "passed".toList ++ [':', ' ']) := by decide
  have hback : ",\n  \"findings\": ".toList =
      ',' :: (Json.newLine 1 ++ (Json.quote "findings".toList ++ [':', ' '])) := by decide
  have hend : "\n\x7d".toList = Json.newLine 0 ++ ['\x7d'] := by decide
  unfold jsonFront jsonBack
  rw [hfront, hpassed, hback, hend]
  simp only [json, Json.object, List.map_cons, List.map_nil, Json.block_cons, Json.more,
    List.append_assoc, List.cons_append, List.nil_append]

/-- Reports with one text are one report. -/
theorem eq_of_json_eq {r r' : Report} (h : r.json = r'.json) : r = r' := by
  rw [json_eq, json_eq] at h
  obtain ⟨hchecked, hrest⟩ := delimited_jsonFront _ _ _ _ h
  obtain ⟨-, hback⟩ := Json.delimited_bool _ _ _ _ hrest
  rw [← List.append_nil (jsonBack _), ← List.append_nil (jsonBack r'.findings)] at hback
  obtain ⟨hfindings, -⟩ := delimited_jsonBack _ _ _ _ hback
  cases r
  cases r'
  exact congrArg₂ _ hchecked hfindings

/-- The verdict that is written is the one that the report has. -/
theorem json_passed_iff (r : Report) (p : Bool) :
    (∃ rest, r.json = jsonFront r.checked ++ (Json.bool p ++ rest)) ↔
      (p = true ↔ r.findings = []) := by
  have hpassed : r.passed = true ↔ r.findings = [] := List.isEmpty_iff
  rw [← hpassed, ← Bool.eq_iff_iff, json_eq]
  constructor
  · rintro ⟨rest, h⟩
    exact (Json.delimited_bool _ _ _ _ (List.append_cancel_left h)).1.symm
  · rintro rfl
    exact ⟨_, rfl⟩

/-- Every finding stands on five lines. -/
theorem controls_findings (fs : List Finding) :
    Text.controls (Json.block '[' ']' 1 (fs.map fun f => Json.object 2 f.members)) =
      List.replicate (if fs = [] then 0 else 5 * fs.length + 1) '\n' := by
  have hitems : (fs.map fun f => Json.object 2 f.members).flatMap
      (fun x => '\n' :: Text.controls x) = List.replicate (5 * fs.length) '\n' := by
    induction fs with
    | nil => rfl
    | cons f fs ih =>
      rw [List.map_cons, List.flatMap_cons, ih, Finding.controls_object, ← List.replicate_succ,
        List.replicate_append_replicate, List.length_cons, Nat.mul_succ, Nat.add_comm]
  rw [Json.controls_block (by decide) (by decide), hitems]
  by_cases h : fs = []
  · simp [h]
  · simp [h, List.replicate_succ']

/-- The control characters of a report are the line breaks of its layout. -/
theorem controls_json (r : Report) : Text.controls r.json =
    List.replicate (if r.findings = [] then 4 else 5 * r.findings.length + 5) '\n' := by
  have hbool : ∀ p, Text.controls (Json.bool p) = [] := by decide
  rw [json, Json.object, Json.controls_block (by decide) (by decide), if_neg (by simp)]
  simp only [List.map_cons, List.map_nil, List.flatMap_cons, List.flatMap_nil,
    Json.controls_member, Text.controls_ofNat, hbool, controls_findings]
  by_cases h : r.findings = []
  · rw [if_pos h, if_pos h]; rfl
  · rw [if_neg h, if_neg h]
    exact List.eq_replicate_iff.2 ⟨by simp, by simp⟩

/-- The text of a report tells the whole report; its verdict is that there are no findings; and no
    control character stands in it but the line breaks of the layout. -/
theorem json_lossless (r r' : Report) : (r.json = r'.json ↔ r = r') ∧
    (∀ p, (∃ rest, r.json = "\x7b\n  \"documents_checked\": ".toList ++
        ((Text.ofNat r.checked ++ [',']) ++ "\n  \"passed\": ".toList) ++ (Json.bool p ++ rest)) ↔
      (p = true ↔ r.findings = [])) ∧
    Text.controls r.json =
      List.replicate (if r.findings = [] then 4 else 5 * r.findings.length + 5) '\n' :=
  ⟨⟨eq_of_json_eq, fun h => h ▸ rfl⟩, r.json_passed_iff, r.controls_json⟩

end Report

end OutlineLint
