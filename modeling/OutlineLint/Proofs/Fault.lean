import Mathlib.Order.Bounds.Basic
import OutlineLint.Proofs.Folder

/-! Where octets stop being a text. A strict reading goes from character to character and ends where
    none stands:

        octets = a text ++ rest

        rest is the beginning of a character    incomplete, from the index of rest
        anything else                           N octets are invalid, from the index of rest

    No other beginning of the octets that is a text is longer, since the octets of a character begin
    no other one. The N octets are those that a character could begin with, and one at least. So a
    fault is told by the octets alone, and the reason why a document could not be read names it. -/

namespace OutlineLint.Utf8

/-! ### Characters that are cut off -/

/-- The octets begin a character and do not end it. -/
def CutOff (bs : Octets) : Prop :=
  ∃ c : Char, bs <+: String.utf8EncodeChar c ∧ bs ≠ String.utf8EncodeChar c

/-- What begins a beginning of a character begins the character. -/
theorem CutOff.of_prefix {as bs : Octets} (h : CutOff bs) (hp : as <+: bs) : CutOff as := by
  obtain ⟨c, hbs, hne⟩ := h
  refine ⟨c, hp.trans hbs, ?_⟩
  rintro rfl
  exact hne (hbs.eq_of_length_le hp.length_le)

/-- The end cuts off what some octets more would make a character. -/
theorem readTail_eq_incomplete_iff {value length : Nat} {bounds : List Bounds} {bs : Octets}
    (hb : ∀ b ∈ bounds, Within b b.1) : readTail value length bounds bs = .incomplete ↔
      ∃ os, os ≠ [] ∧ List.Forall₂ Within bounds (bs ++ os) := by
  induction bounds generalizing value length bs with
  | nil =>
    constructor
    · intro h
      cases h
    · rintro ⟨os, hne, hw⟩
      exact absurd (List.append_eq_nil_iff.1 (List.forall₂_nil_left_iff.1 hw)).2 hne
  | cons b bounds ih =>
    obtain ⟨hlo, hbounds⟩ := List.forall_mem_cons.1 hb
    obtain ⟨lo, hi⟩ := b
    cases bs with
    | nil =>
      -- the least octet at each place completes the character
      refine iff_of_true rfl ⟨lo :: bounds.map Prod.fst, List.cons_ne_nil _ _, .cons hlo ?_⟩
      exact List.forall₂_map_right_iff.2 (List.forall₂_same.2 hbounds)
    | cons o bs =>
      simp only [readTail, List.cons_append, List.forall₂_cons]
      split
      · rename_i ho
        rw [ih hbounds]
        exact exists_congr fun os => and_congr_right' (and_iff_right ho).symm
      · rename_i ho
        constructor
        · intro h
          cases h
        · rintro ⟨os, -, hw, -⟩
          exact absurd hw ho

theorem front_eq_incomplete_iff {b : UInt8} {bs : Octets} :
    front b bs = .incomplete ↔ CutOff (b :: bs) := by
  constructor
  · intro h
    rw [front] at h
    split at h
    · cases h
    · rename_i bounds hb
      obtain ⟨os, hne, hw⟩ := (readTail_eq_incomplete_iff (within_fst_of_following hb)).1 h
      have hchar : ∃ c, String.utf8EncodeChar c = b :: (bs ++ os) :=
        ⟨_, encodeChar_of_following hb hw⟩
      obtain ⟨c, hc⟩ := hchar
      refine ⟨c, ⟨os, by rw [hc, List.cons_append]⟩, fun heq => hne ?_⟩
      rw [hc] at heq
      exact List.self_eq_append_right.1 (List.cons.inj heq).2
  · rintro ⟨c, ⟨os, hos⟩, hne⟩
    have hfront : front b (bs ++ os) = .scalar c [] :=
      front_eq_scalar_iff.2 (by rw [List.append_nil, ← hos, List.cons_append])
    simp only [front] at hfront ⊢
    cases hb : following b with
    | none =>
      rw [hb] at hfront
      cases hfront
    | some bounds =>
      rw [hb] at hfront
      obtain ⟨os', hos', hw, -⟩ := readTail_eq_scalar_iff.1 hfront
      rw [List.append_nil] at hos'
      refine (readTail_eq_incomplete_iff (within_fst_of_following hb)).2 ⟨os, ?_, hos' ▸ hw⟩
      rintro rfl
      exact hne (by rw [← hos, List.append_nil])

/-! ### The longest beginning that is a text -/

/-- The octets of a character begin no other one. -/
theorem encodeChar_append_inj {c d : Char} {as bs : Octets}
    (h : String.utf8EncodeChar c ++ as = String.utf8EncodeChar d ++ bs) : c = d ∧ as = bs := by
  obtain ⟨o, os, hos, hfront⟩ := front_encodeChar c as
  have hfront' : front o os = .scalar d bs := front_eq_scalar_iff.2 (hos.symm.trans h)
  exact Front.scalar.inj (hfront.symm.trans hfront')

/-- What is a text in front of octets that no character begins is a beginning of the text there. -/
theorem prefix_of_encode_prefix {u t : Text} {rest : Octets}
    (hrest : ∀ c : Char, ¬ String.utf8EncodeChar c <+: rest)
    (h : encode u <+: encode t ++ rest) : u <+: t := by
  induction u generalizing t with
  | nil => exact List.nil_prefix
  | cons c u ih =>
    rw [encode_cons] at h
    cases t with
    | nil => exact absurd ((List.prefix_append _ _).trans h) (hrest c)
    | cons d t =>
      obtain ⟨more, hmore⟩ := h
      rw [encode_cons, List.append_assoc, List.append_assoc] at hmore
      obtain ⟨rfl, hu⟩ := encodeChar_append_inj hmore
      exact List.cons_prefix_cons.2 ⟨rfl, ih ⟨more, hu⟩⟩

/-- How many octets from the front may be a text. -/
def textLengths (bs : Octets) : Set Nat := {n | ∃ t, encode t <+: bs ∧ (encode t).length = n}

theorem isGreatest_textLengths {t : Text} {b : UInt8} {rest : Octets}
    (h : ∀ c more, front b rest ≠ .scalar c more) :
    IsGreatest (textLengths (encode t ++ b :: rest)) (encode t).length := by
  have hrest : ∀ c : Char, ¬ String.utf8EncodeChar c <+: b :: rest := by
    rintro c ⟨more, hmore⟩
    exact h c more (front_eq_scalar_iff.2 hmore.symm)
  refine ⟨⟨t, List.prefix_append _ _, rfl⟩, ?_⟩
  rintro n ⟨u, hu, rfl⟩
  obtain ⟨v, rfl⟩ := prefix_of_encode_prefix hrest hu
  rw [encode_append]
  exact (List.prefix_append _ _).length_le

/-! ### Octets that start no character -/

/-- How many octets from the front may be one octet or the beginning of a character. -/
def openings (bs : Octets) : Set Nat :=
  {n | n = 1 ∨ ∃ os, os <+: bs ∧ CutOff os ∧ os.length = n}

/-- As many octets are passed over as may begin a character. -/
theorem isGreatest_openings {b : UInt8} {bs rest : Octets} {n : Nat}
    (h : front b bs = .invalid n rest) : IsGreatest (openings (b :: bs)) n := by
  obtain ⟨os, rfl, rfl, hcut, hstuck⟩ := front_eq_invalid h
  constructor
  · rcases hcut with rfl | hcut
    · exact Or.inl rfl
    · exact Or.inr ⟨b :: os, ⟨rest, rfl⟩, front_eq_incomplete_iff.1 hcut, Nat.add_comm _ _⟩
  · rintro k (rfl | ⟨as, has, hcut, rfl⟩)
    · exact Nat.le_add_right 1 _
    · -- a longer beginning would go on with the octet that is out of bounds
      by_contra hlt
      have hmore : b :: (os ++ rest.take 1) <+: as := by
        refine List.prefix_of_prefix_length_le ?_ has ?_
        · exact List.cons_prefix_cons.2 ⟨rfl, (List.prefix_append_right_inj os).2
            (List.take_prefix 1 rest)⟩
        · have htake := List.length_take_le 1 rest
          rw [List.length_cons, List.length_append]
          omega
      rw [front_eq_incomplete_iff.2 (hcut.of_prefix hmore)] at hstuck
      cases hstuck

/-! ### Faults -/

/-- What a fault says about octets: where the longest text in front ends, whether the end cuts a
    character off there, and how many octets start no character if not. -/
structure Fault.Tells (f : Fault) (bs : Octets) : Prop where
  offset : IsGreatest (textLengths bs) f.offset
  incomplete : f.length = none ↔ CutOff (bs.drop f.offset)
  length : ∀ n, f.length = some n → IsGreatest (openings (bs.drop f.offset)) n

/-- A strict reading fails where no character stands. -/
theorem decodeFrom_eq_error {offset : Nat} {bs : Octets} {f : Fault}
    (h : decodeFrom offset bs = .error f) : ∃ t b rest, bs = encode t ++ b :: rest ∧
      f.offset = offset + (encode t).length ∧
      ((front b rest = .incomplete ∧ f.length = none) ∨
        ∃ n more, front b rest = .invalid n more ∧ f.length = some n) := by
  induction offset, bs using decodeFrom.induct with
  | case1 offset =>
    rw [decodeFrom] at h
    cases h
  | case2 offset b bs c rest hfront ih =>
    rw [decodeFrom_of_scalar hfront] at h
    cases hrest : decodeFrom (offset + ((b :: bs).length - rest.length)) rest with
    | ok t =>
      rw [hrest] at h
      cases h
    | error fault =>
      rw [hrest] at h
      obtain rfl := Except.error.inj h
      obtain ⟨t, o, os, rfl, hoffset, hend⟩ := ih hrest
      have hbs := front_eq_scalar_iff.1 hfront
      refine ⟨c :: t, o, os, by rw [hbs, encode_cons, List.append_assoc], ?_, hend⟩
      rw [hoffset, hbs, encode_cons, List.length_append, Nat.add_sub_cancel, List.length_append,
        Nat.add_assoc]
  | case3 offset b bs n rest hfront =>
    rw [decodeFrom_of_invalid hfront] at h
    obtain rfl := Except.error.inj h
    exact ⟨[], b, bs, rfl, rfl, Or.inr ⟨n, rest, hfront, rfl⟩⟩
  | case4 offset b bs hfront =>
    rw [decodeFrom_of_incomplete hfront] at h
    obtain rfl := Except.error.inj h
    exact ⟨[], b, bs, rfl, rfl, Or.inl ⟨hfront, rfl⟩⟩

/-- The fault of a strict reading is told by the octets. -/
theorem tells_of_decode {bs : Octets} {f : Fault} (h : decode bs = .error f) : f.Tells bs := by
  obtain ⟨t, b, rest, rfl, hoffset, hend⟩ := decodeFrom_eq_error h
  rw [Nat.zero_add] at hoffset
  have hdrop : (encode t ++ b :: rest).drop f.offset = b :: rest := by
    rw [hoffset, List.drop_left]
  have hgreatest (hfront : ∀ c more, front b rest ≠ .scalar c more) :
      IsGreatest (textLengths (encode t ++ b :: rest)) f.offset := by
    rw [hoffset]
    exact isGreatest_textLengths hfront
  rcases hend with ⟨hfront, hlength⟩ | ⟨n, more, hfront, hlength⟩
  · refine ⟨hgreatest (by simp [hfront]), ?_, by simp [hlength]⟩
    rw [hdrop]
    exact iff_of_true hlength (front_eq_incomplete_iff.1 hfront)
  · refine ⟨hgreatest (by simp [hfront]), ?_, fun m hm => ?_⟩
    · rw [hdrop, ← front_eq_incomplete_iff, hfront, hlength]
      simp
    · rw [hlength] at hm
      obtain rfl := Option.some.inj hm
      rw [hdrop]
      exact isGreatest_openings hfront

/-- The wording says whether a character is cut off. -/
theorem Fault.message_eq_incomplete_iff {f : Fault} : f.message =
    "incomplete utf-8 byte sequence from index ".toList ++ Text.ofNat f.offset ↔
      f.length = none := by
  obtain ⟨offset, _ | n⟩ := f
  · exact iff_of_true rfl rfl
  · constructor
    · intro h
      have hbegin : ['i', 'n', 'v'] = ['i', 'n', 'c'] := congrArg (List.take 3) h
      exact absurd hbegin (by decide)
    · intro h
      cases h

end OutlineLint.Utf8

namespace OutlineLint.Folder

/-- A candidate holds the text whose octets its file has, and nothing is lost or replaced. Octets
    that are no text become a reason instead: it says where the longest text in front of them ends,
    and whether a character is cut off there, or how many octets start none. -/
theorem document?_of_octets {s : Selection} {name : Octets} (h : s.Wants name) (dir : Text)
    (content : Octets) : ∃ d, document? s dir (name, .file content) = some d ∧
      (∀ text, d.contents = .readable text ↔ content = Utf8.encode text) ∧
      ((∀ text, content ≠ Utf8.encode text) → ∃ i reason, d.contents = .unreadable reason ∧
        IsGreatest (Utf8.textLengths content) i ∧
        (reason = "incomplete utf-8 byte sequence from index ".toList ++ Text.ofNat i ↔
          Utf8.CutOff (content.drop i)) ∧
        (¬ Utf8.CutOff (content.drop i) → ∃ n,
          IsGreatest (Utf8.openings (content.drop i)) n ∧
          reason = "invalid utf-8 sequence of ".toList ++ Text.ofNat n
            ++ " bytes from index ".toList ++ Text.ofNat i)) := by
  refine ⟨documentIn dir (name, content), if_pos (Selection.admits_iff.2 h),
    fun text => contents_eq_readable_iff, fun hnone => ?_⟩
  cases hdecode : Utf8.decode content with
  | ok text => exact absurd (Utf8.decode_eq_ok_iff.1 hdecode) (hnone text)
  | error fault =>
    have hcontents : contents content = .unreadable fault.message := by rw [contents, hdecode]
    have htells := Utf8.tells_of_decode hdecode
    refine ⟨fault.offset, fault.message, hcontents, htells.offset, ?_, fun hcut => ?_⟩
    · rw [Utf8.Fault.message_eq_incomplete_iff, htells.incomplete]
    · obtain ⟨n, hn⟩ := Option.ne_none_iff_exists'.1 fun hnil => hcut (htells.incomplete.1 hnil)
      refine ⟨n, htells.length n hn, ?_⟩
      rw [Utf8.Fault.message, hn]

/-- A letter, and a character without its last octet. -/
def clipped : Octets := [0x61, 0xE2, 0x82]

theorem document?_of_clipped :
    Selection.standard.Wants (Utf8.encode "a.md".toList) ∧
    (∀ text, clipped ≠ Utf8.encode text) ∧ IsGreatest (Utf8.textLengths clipped) 1 ∧
    Utf8.CutOff (clipped.drop 1) ∧
    ∃ d, document? .standard "agents".toList (Utf8.encode "a.md".toList, .file clipped) = some d ∧
      d.contents = .unreadable "incomplete utf-8 byte sequence from index 1".toList := by
  have hwants : Selection.standard.Wants (Utf8.encode "a.md".toList) :=
    Selection.admits_iff.1 (by decide)
  have hletter : Utf8.front 0x61 [0xE2, 0x82] = .scalar 'a' [0xE2, 0x82] := by decide
  have hfault : Utf8.decode clipped = .error ⟨1, none⟩ := by
    rw [clipped, Utf8.decode, Utf8.decodeFrom_of_scalar hletter,
      Utf8.decodeFrom_of_incomplete (by decide)]
    rfl
  have hnone : ∀ text, clipped ≠ Utf8.encode text := by
    intro text htext
    rw [Utf8.decode_eq_ok_iff.2 htext] at hfault
    cases hfault
  have hcutOff : Utf8.CutOff (clipped.drop 1) := Utf8.front_eq_incomplete_iff.1 (by decide)
  obtain ⟨d, hd, -, hreason⟩ := document?_of_octets hwants "agents".toList clipped
  obtain ⟨i, reason, hcontents, hgreatest, hcut, -⟩ := hreason hnone
  obtain rfl : i = 1 := hgreatest.unique (Utf8.tells_of_decode hfault).offset
  refine ⟨hwants, hnone, hgreatest, hcutOff, d, hd, ?_⟩
  rw [hcontents, hcut.2 hcutOff]
  rfl

end OutlineLint.Folder
