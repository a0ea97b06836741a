import OutlineLint.Proofs.Findings
import OutlineLint.Proofs.Utf8

/-! The window of the role label. It is measured in characters, also where the text is kept in octets:
    the octet at which a character begins is never inside another character, so a text cut there is
    a text.

        number      0   1   2   3
        character   é   *   *   R
        octet       0   2   3   4          the first 2 characters are the first 3 octets

    A label is seen when it ends within the window. What is seen is still seen in a larger window, in
    a longer text, and when characters in front of the label are taken out. -/

namespace OutlineLint

/-! ### Characters and octets -/

namespace Text

/-- The characters of a text that begins at the octet `i`, each with the octet at which it begins. -/
def placed (i : Nat) : Text → List (Nat × Char)
  | [] => []
  | c :: t => (i, c) :: placed (i + (String.utf8EncodeChar c).length) t

/-- The octets of a text in front of the character number `n`, or all when there is none. -/
def leadingOctets (n : Nat) (t : Text) : Octets :=
  match (placed 0 t)[n]? with
  | some (i, _) => (Utf8.encode t).take i
  | none => Utf8.encode t

/-- A character begins behind the octets of the characters in front of it. -/
theorem getElem?_placed : ∀ (i n : Nat) (t : Text), (placed i t)[n]? =
    t[n]?.map fun c => (i + (Utf8.encode (t.take n)).length, c)
  | _, _, [] => rfl
  | _, 0, _ :: _ => rfl
  | i, n + 1, c :: t => by
    rw [placed, List.getElem?_cons_succ, List.getElem?_cons_succ, getElem?_placed _ n t,
      List.take_succ_cons, Utf8.encode_cons, List.length_append, Nat.add_assoc]

theorem leadingOctets_eq (n : Nat) (t : Text) : leadingOctets n t = Utf8.encode (t.take n) := by
  have hsplit : Utf8.encode t = Utf8.encode (t.take n) ++ Utf8.encode (t.drop n) := by
    rw [← Utf8.encode_append, List.take_append_drop]
  rw [leadingOctets, getElem?_placed]
  cases hn : t[n]? with
  | none => rw [List.take_of_length_le (List.getElem?_eq_none_iff.1 hn)]; rfl
  | some c =>
    simp only [Option.map_some, Nat.zero_add]
    rw [hsplit, List.take_left]

/-- The octets in front of a character are a text, that of the characters in front of it. -/
theorem decode_leadingOctets (n : Nat) (t : Text) :
    Utf8.decode (leadingOctets n t) = .ok (t.take n) :=
  Utf8.decode_eq_ok_iff.2 (leadingOctets_eq n t)

/-- A part of the first characters is a part that ends within them. -/
theorem infix_take_iff {m t : Text} {n : Nat} :
    m <:+: t.take n ↔ ∃ u v, t = u ++ m ++ v ∧ u.length + m.length ≤ n := by
  constructor
  · rintro ⟨u, v, huv⟩
    refine ⟨u, v ++ t.drop n, ?_, ?_⟩
    · rw [← List.append_assoc, huv, List.take_append_drop]
    · have hlength := congrArg List.length huv
      rw [List.length_append, List.length_append, List.length_take] at hlength
      omega
  · rintro ⟨u, v, rfl, hle⟩
    have hfront : u ++ m <+: (u ++ m ++ v).take n :=
      List.prefix_take_iff.2 ⟨List.prefix_append _ _, by rwa [List.length_append]⟩
    exact (List.suffix_append u m).isInfix.trans hfront.isInfix

end Text

/-! ### The label within the window -/

theorem length_boldLabel (f : Text) : (boldLabel f).length = f.length + 5 := by
  simp [boldLabel]

/-- The label stands in a text and ends within the window. -/
def RoleLabel.Seen (r : RoleLabel) (text : Text) : Prop :=
  ∃ u v, text = u ++ boldLabel r.field ++ v ∧ u.length + r.field.length + 5 ≤ r.window

namespace RoleLabel
variable {r : RoleLabel} {text : Text}

theorem seen_iff : r.Seen text ↔ boldLabel r.field <:+: text.take r.window := by
  rw [Text.infix_take_iff, Seen]
  simp only [length_boldLabel, Nat.add_assoc]

theorem Seen.larger {r' : RoleLabel} (h : r.Seen text) (hf : r'.field = r.field)
    (hw : r.window ≤ r'.window) : r'.Seen text := by
  obtain ⟨u, v, rfl, hle⟩ := h
  exact ⟨u, v, by rw [hf], by rw [hf]; omega⟩

theorem Seen.append (h : r.Seen text) (more : Text) : r.Seen (text ++ more) := by
  obtain ⟨u, v, rfl, hle⟩ := h
  exact ⟨u, v ++ more, by rw [List.append_assoc], hle⟩

theorem seen_of_sublist {u u' : Text} (v : Text) (hle : u.length + r.field.length + 5 ≤ r.window)
    (hu : u'.Sublist u) : r.Seen (u' ++ boldLabel r.field ++ v) := by
  have hlength := hu.length_le
  exact ⟨u', v, rfl, by omega⟩

end RoleLabel

/-! ### What is reported -/

namespace Template
variable (t : Template) (id text : Text) (o : Outline)

theorem findings_role : Rule.role.findings t ⟨id, text, o⟩ =
    if boldLabel t.role.field <:+: text.take t.role.window then []
    else [⟨id, .missingField, (Deviation.noRoleLabel t.role.field).detail⟩] := by
  rw [Rule.findings, Rule.deviations, deviations_role]
  split <;> rfl

theorem findings_role_eq_nil_iff :
    Rule.role.findings t ⟨id, text, o⟩ = [] ↔ t.role.Seen text := by
  rw [findings_role, RoleLabel.seen_iff]
  split
  · rename_i h
    exact iff_of_true rfl h
  · rename_i h
    exact iff_of_false (List.cons_ne_nil _ _) h

/-- The rule for the role label looks at the first characters of a text, as many as the window has or
    as there are, and reports one finding unless the label stands in them as a whole. So texts that
    begin alike are reported alike, and nothing is reported when the window grows, when text is
    added at the end, or when characters in front of the label that was seen are taken out. -/
theorem findings_role_window :
    (∃ w, Utf8.decode (text.leadingOctets t.role.window) = .ok w ∧ w <+: text ∧
      w.length = min t.role.window text.length ∧
      Rule.role.findings t ⟨id, text, o⟩ = if boldLabel t.role.field <:+: w then []
        else [⟨id, .missingField, (Deviation.noRoleLabel t.role.field).detail⟩]) ∧
    (Rule.role.findings t ⟨id, text, o⟩ = [] ↔ ∃ u v, text = u ++ boldLabel t.role.field ++ v ∧
      u.length + t.role.field.length + 5 ≤ t.role.window) ∧
    (∀ text', text'.take t.role.window = text.take t.role.window →
      Rule.role.findings t ⟨id, text', o⟩ = Rule.role.findings t ⟨id, text, o⟩) ∧
    (Rule.role.findings t ⟨id, text, o⟩ = [] →
      (∀ t' : Template, t'.role.field = t.role.field → t.role.window ≤ t'.role.window →
        Rule.role.findings t' ⟨id, text, o⟩ = []) ∧
      ∀ more, Rule.role.findings t ⟨id, text ++ more, o⟩ = []) ∧
    (∀ u v u', text = u ++ boldLabel t.role.field ++ v →
      u.length + t.role.field.length + 5 ≤ t.role.window → u'.Sublist u →
        Rule.role.findings t ⟨id, u' ++ boldLabel t.role.field ++ v, o⟩ = []) := by
  refine ⟨⟨_, Text.decode_leadingOctets _ _, List.take_prefix _ _, List.length_take,
    t.findings_role id text o⟩, t.findings_role_eq_nil_iff id text o, fun text' htext => ?_,
    fun hnil => ⟨fun t' hf hw => ?_, fun more => ?_⟩, fun u v u' _ hle hu => ?_⟩
  · rw [findings_role, findings_role, htext]
  · have hseen := (t.findings_role_eq_nil_iff id text o).1 hnil
    exact (t'.findings_role_eq_nil_iff id text o).2 (hseen.larger hf hw)
  · have hseen := (t.findings_role_eq_nil_iff id text o).1 hnil
    exact (t.findings_role_eq_nil_iff id _ o).2 (hseen.append more)
  · exact (t.findings_role_eq_nil_iff id _ o).2 (RoleLabel.seen_of_sublist v hle hu)

/-- A template with a window of eight characters. -/
def narrow : Template := { standard with role := ⟨['R'], 8⟩ }

/-- A label that ends with the window is seen where the window has ten octets, and with one character
    less in front of it. -/
theorem findings_role_narrow :
    "éé**R**: x".toList = "éé".toList ++ boldLabel narrow.role.field ++ " x".toList ∧
    "éé".toList.length + narrow.role.field.length + 5 ≤ narrow.role.window ∧
    "é".toList.Sublist "éé".toList ∧
    Rule.role.findings narrow ⟨['a'], "éé**R**: x".toList, .empty⟩ = [] ∧
    Rule.role.findings narrow ⟨['a'], "é**R**: x".toList, .empty⟩ = [] := by
  have htext : "éé**R**: x".toList = "éé".toList ++ boldLabel narrow.role.field ++ " x".toList := by
    decide
  have hle : "éé".toList.length + narrow.role.field.length + 5 ≤ narrow.role.window := by decide
  have hsub : "é".toList.Sublist "éé".toList := by decide
  obtain ⟨-, hnil, -, -, hless⟩ := narrow.findings_role_window ['a'] "éé**R**: x".toList .empty
  exact ⟨htext, hle, hsub, hnil.2 ⟨_, _, htext, hle⟩, hless _ _ _ htext hle hsub⟩

end Template

end OutlineLint
