import Mathlib.Data.List.Forall2
import Mathlib.Tactic.SplitIfs
import OutlineLint.Text.Utf8

/-! What a reading of octets has to do with the writing of texts. The octets of a character are a
    first one and octets within the bounds that the first one sets; its value is put together from
    six bits of each. So the character at the front is read exactly where its octets stand, and a
    strict reading succeeds on the octets of a text and on nothing else.

        first       second            value
        o           (none)            o
        o a                           o % 32, a
        o a b       (bounds by o)     o % 16, a, b
        o a b d     (bounds by o)     o % 8, a, b, d

    An ASCII character is one octet that stands in no other character. A forgiving reading sees it
    wherever its octet stands, and reads what stands before and after it as if they were alone. -/

namespace OutlineLint.Utf8

/-! ### Octets within bounds -/

/-- An octet keeps the bounds. -/
def Within (b : Bounds) (o : UInt8) : Prop := b.1 ≤ o ∧ o ≤ b.2

/-- The value of a character after `value` of it, when the octets `os` follow. -/
def valueFrom (value : Nat) (os : Octets) : Nat := os.foldl (fun v o => v * 64 + o.toNat % 64) value

/-- The bounds of the second octet of a character that has more than two. -/
def second (o : UInt8) : Bounds :=
  (if o = 0xE0 then 0xA0 else if o = 0xF0 then 0x90 else 0x80,
   if o = 0xED then 0x9F else if o = 0xF4 then 0x8F else 0xBF)

/-- One row for each number of octets. -/
theorem following_eq (o : UInt8) : following o =
    if o.toNat ≤ 0x7F then some []
    else if o.toNat < 0xC2 then none
    else if o.toNat ≤ 0xDF then some [anyTail]
    else if o.toNat ≤ 0xEF then some [second o, anyTail]
    else if o.toNat ≤ 0xF4 then some [second o, anyTail, anyTail]
    else none := by
  simp only [following, UInt8.le_iff_toNat_le, UInt8.lt_iff_toNat_lt, ← UInt8.toNat_inj,
    UInt8.reduceToNat]
  by_cases h1 : o.toNat ≤ 0x7F
  · rw [if_pos h1, if_pos h1]
  by_cases h2 : o.toNat < 0xC2
  · rw [if_neg h1, if_pos h2, if_neg h1, if_pos h2]
  by_cases h3 : o.toNat ≤ 0xDF
  · rw [if_neg h1, if_neg h2, if_pos h3, if_neg h1, if_neg h2, if_pos h3]
  rw [if_neg h1, if_neg h2, if_neg h3, if_neg h1, if_neg h2, if_neg h3]
  -- only the second octet has bounds of its own, and only behind four first octets
  simp only [second, anyTail, ← UInt8.toNat_inj, UInt8.reduceToNat]
  by_cases h4 : o.toNat ≤ 0xEF
  · rw [if_pos h4, if_pos h4]
    split_ifs <;> first | rfl | omega
  · rw [if_neg h4, if_neg h4]
    split_ifs <;> first | rfl | omega

theorem within_anyTail_iff {o : UInt8} : Within anyTail o ↔ 0x80 ≤ o.toNat ∧ o.toNat ≤ 0xBF := by
  simp only [Within, anyTail, UInt8.le_iff_toNat_le, UInt8.reduceToNat]

theorem within_second_iff {o a : UInt8} : Within (second o) a ↔ Within anyTail a ∧
    (o.toNat = 0xE0 → 0xA0 ≤ a.toNat) ∧ (o.toNat = 0xF0 → 0x90 ≤ a.toNat) ∧
    (o.toNat = 0xED → a.toNat ≤ 0x9F) ∧ (o.toNat = 0xF4 → a.toNat ≤ 0x8F) := by
  rw [within_anyTail_iff]
  simp only [Within, second, UInt8.le_iff_toNat_le, ← UInt8.toNat_inj, UInt8.reduceToNat]
  split_ifs <;> simp only [UInt8.reduceToNat] <;> omega

/-- The bounds behind a first octet are those of the second or those of any other. -/
theorem forall_of_following {o : UInt8} {bounds : List Bounds} {P : Bounds → Prop}
    (h : following o = some bounds) (hsecond : P (second o)) (htail : P anyTail) :
    ∀ b ∈ bounds, P b := by
  rw [following_eq] at h
  split_ifs at h <;> obtain rfl := Option.some.inj h
  · exact nofun
  · exact List.forall_mem_cons.2 ⟨htail, nofun⟩
  · exact List.forall_mem_cons.2 ⟨hsecond, List.forall_mem_cons.2 ⟨htail, nofun⟩⟩
  · exact List.forall_mem_cons.2 ⟨hsecond,
      List.forall_mem_cons.2 ⟨htail, List.forall_mem_cons.2 ⟨htail, nofun⟩⟩⟩

/-- The octets behind a first one have their highest bit set. -/
theorem le_of_following {o : UInt8} {bounds : List Bounds} (h : following o = some bounds) :
    ∀ b ∈ bounds, ∀ a, Within b a → 0x80 ≤ a.toNat :=
  forall_of_following h (fun _ ha => (within_anyTail_iff.1 (within_second_iff.1 ha).1).1)
    fun _ ha => (within_anyTail_iff.1 ha).1

/-- Some octet is within the bounds behind a first one. -/
theorem within_fst_of_following {o : UInt8} {bounds : List Bounds} (h : following o = some bounds) :
    ∀ b ∈ bounds, Within b b.1 := by
  refine forall_of_following h ⟨UInt8.le_refl _, ?_⟩ ⟨UInt8.le_refl _, by decide⟩
  simp only [second, UInt8.le_iff_toNat_le, ← UInt8.toNat_inj, UInt8.reduceToNat]
  split_ifs <;> simp only [UInt8.reduceToNat] <;> omega

/-! ### The octets of one character -/

theorem value_two (o a : UInt8) :
    valueFrom (lead o 1) [a] = o.toNat % 32 * 64 + a.toNat % 64 := rfl

theorem value_three (o a b : UInt8) : valueFrom (lead o 2) [a, b] =
    (o.toNat % 16 * 64 + a.toNat % 64) * 64 + b.toNat % 64 := rfl

theorem value_four (o a b d : UInt8) : valueFrom (lead o 3) [a, b, d] =
    ((o.toNat % 8 * 64 + a.toNat % 64) * 64 + b.toNat % 64) * 64 + d.toNat % 64 := rfl

theorem toNat_val_ofNat {v : Nat} (h : v.isValidChar) : (Char.ofNat v).val.toNat = v := by
  rw [Char.ofNat, dif_pos h]
  rfl

theorem ofNat_eq {o : UInt8} {n : Nat} (h : o.toNat = n % 256) : UInt8.ofNat n = o := by
  rw [← UInt8.toNat_inj, UInt8.toNat_ofNat', h]

theorem encodeChar_two {o a : UInt8} (ho : 0xC2 ≤ o.toNat) (ho' : o.toNat ≤ 0xDF)
    (ha : Within anyTail a) :
    String.utf8EncodeChar (Char.ofNat (valueFrom (lead o 1) [a])) = [o, a] := by
  rw [within_anyTail_iff] at ha
  rw [value_two, String.utf8EncodeChar, toNat_val_ofNat (Or.inl (by omega)), if_neg (by omega),
    if_pos (by omega), ofNat_eq (o := o) (by omega), ofNat_eq (o := a) (by omega)]

theorem encodeChar_three {o a b : UInt8} (ho : 0xE0 ≤ o.toNat) (ho' : o.toNat ≤ 0xEF)
    (ha : Within (second o) a) (hb : Within anyTail b) :
    String.utf8EncodeChar (Char.ofNat (valueFrom (lead o 2) [a, b])) = [o, a, b] := by
  rw [within_second_iff, within_anyTail_iff] at ha
  rw [within_anyTail_iff] at hb
  rw [value_three, String.utf8EncodeChar, toNat_val_ofNat (by unfold Nat.isValidChar; omega),
    if_neg (by omega), if_neg (by omega), if_pos (by omega), ofNat_eq (o := o) (by omega),
    ofNat_eq (o := a) (by omega), ofNat_eq (o := b) (by omega)]

theorem encodeChar_four {o a b d : UInt8} (ho : 0xF0 ≤ o.toNat) (ho' : o.toNat ≤ 0xF4)
    (ha : Within (second o) a) (hb : Within anyTail b) (hd : Within anyTail d) :
    String.utf8EncodeChar (Char.ofNat (valueFrom (lead o 3) [a, b, d])) = [o, a, b, d] := by
  rw [within_second_iff, within_anyTail_iff] at ha
  rw [within_anyTail_iff] at hb hd
  rw [value_four, String.utf8EncodeChar, toNat_val_ofNat (by unfold Nat.isValidChar; omega),
    if_neg (by omega), if_neg (by omega), if_neg (by omega), ofNat_eq (o := o) (by omega),
    ofNat_eq (o := a) (by omega), ofNat_eq (o := b) (by omega), ofNat_eq (o := d) (by omega)]

/-- Octets within the bounds of the first one are those of the character with their value. -/
theorem encodeChar_of_following {o : UInt8} {os : Octets} {bounds : List Bounds}
    (h : following o = some bounds) (hw : List.Forall₂ Within bounds os) :
    String.utf8EncodeChar (Char.ofNat (valueFrom (lead o bounds.length) os)) = o :: os := by
  rw [following_eq] at h
  split_ifs at h with h1 h2 h3 h4 <;> obtain rfl := Option.some.inj h
  · cases hw
    have hv : valueFrom (lead o 0) [] = o.toNat := rfl
    rw [List.length_nil, hv, String.utf8EncodeChar, toNat_val_ofNat (Or.inl (by omega)), if_pos h1,
      UInt8.ofNat_toNat]
  · rcases hw with _ | ⟨ha, _ | _⟩
    exact encodeChar_two (by omega) (by omega) ha
  · rcases hw with _ | ⟨ha, _ | ⟨hb, _ | _⟩⟩
    exact encodeChar_three (by omega) (by omega) ha hb
  · rcases hw with _ | ⟨ha, _ | ⟨hb, _ | ⟨hd, _ | _⟩⟩⟩
    exact encodeChar_four (by omega) (by omega) ha hb hd

/-- Every value of a character has octets within bounds. -/
theorem exists_following {v : Nat} (hv : v.isValidChar) : ∃ o os bounds,
    following o = some bounds ∧ List.Forall₂ Within bounds os ∧
      valueFrom (lead o bounds.length) os = v := by
  have hmod (n : Nat) : (UInt8.ofNat n).toNat = n % 256 := UInt8.toNat_ofNat'
  unfold Nat.isValidChar at hv
  by_cases h1 : v ≤ 0x7F
  · refine ⟨UInt8.ofNat v, [], [], ?_, .nil, ?_⟩
    · rw [following_eq, hmod, if_pos (by omega)]
    · exact (hmod v).trans (by omega)
  by_cases h2 : v ≤ 0x7FF
  · refine ⟨UInt8.ofNat (v / 64 + 0xC0), [UInt8.ofNat (v % 64 + 0x80)], [anyTail], ?_, ?_, ?_⟩
    · rw [following_eq, hmod, if_neg (by omega), if_neg (by omega), if_pos (by omega)]
    · rw [List.forall₂_cons, within_anyTail_iff, hmod]
      exact ⟨by omega, .nil⟩
    · rw [List.length_singleton, value_two, hmod, hmod]
      omega
  by_cases h3 : v ≤ 0xFFFF
  · refine ⟨UInt8.ofNat (v / 4096 + 0xE0),
      [UInt8.ofNat (v / 64 % 64 + 0x80), UInt8.ofNat (v % 64 + 0x80)],
      [second (UInt8.ofNat (v / 4096 + 0xE0)), anyTail], ?_, ?_, ?_⟩
    · rw [following_eq, hmod, if_neg (by omega), if_neg (by omega), if_neg (by omega),
        if_pos (by omega)]
    · rw [List.forall₂_cons, List.forall₂_cons, within_second_iff, within_anyTail_iff,
        within_anyTail_iff, hmod, hmod, hmod]
      exact ⟨by omega, by omega, .nil⟩
    · rw [List.length_cons, List.length_singleton, value_three, hmod, hmod, hmod]
      omega
  · refine ⟨UInt8.ofNat (v / 262144 + 0xF0),
      [UInt8.ofNat (v / 4096 % 64 + 0x80), UInt8.ofNat (v / 64 % 64 + 0x80),
        UInt8.ofNat (v % 64 + 0x80)],
      [second (UInt8.ofNat (v / 262144 + 0xF0)), anyTail, anyTail], ?_, ?_, ?_⟩
    · rw [following_eq, hmod, if_neg (by omega), if_neg (by omega), if_neg (by omega),
        if_neg (by omega), if_pos (by omega)]
    · rw [List.forall₂_cons, List.forall₂_cons, List.forall₂_cons, within_second_iff,
        within_anyTail_iff, within_anyTail_iff, within_anyTail_iff, hmod, hmod, hmod, hmod]
      exact ⟨by omega, by omega, by omega, .nil⟩
    · rw [List.length_cons, List.length_cons, List.length_singleton, value_four, hmod, hmod, hmod,
        hmod]
      omega

/-! ### The character at the front -/

theorem readTail_eq_scalar_iff {value length : Nat} {bounds : List Bounds} {bs rest : Octets}
    {c : Char} : readTail value length bounds bs = .scalar c rest ↔
      ∃ os, bs = os ++ rest ∧ List.Forall₂ Within bounds os ∧ c = Char.ofNat (valueFrom value os) := by
  induction bounds generalizing value length bs with
  | nil =>
    simp only [readTail, Front.scalar.injEq, List.forall₂_nil_left_iff]
    constructor
    · rintro ⟨rfl, rfl⟩
      exact ⟨[], rfl, rfl, rfl⟩
    · rintro ⟨os, rfl, rfl, rfl⟩
      exact ⟨rfl, rfl⟩
  | cons b bounds ih =>
    obtain ⟨lo, hi⟩ := b
    cases bs with
    | nil => simp [readTail, List.forall₂_cons_left_iff]
    | cons o bs =>
      simp only [readTail]
      split
      · rename_i ho
        rw [ih]
        constructor
        · rintro ⟨os, rfl, hos, rfl⟩
          exact ⟨o :: os, rfl, .cons ho hos, rfl⟩
        · rintro ⟨os, hbs, hos, rfl⟩
          obtain ⟨x, xs, -, hxs, rfl⟩ := List.forall₂_cons_left_iff.1 hos
          obtain ⟨rfl, rfl⟩ := List.cons.inj hbs
          exact ⟨xs, rfl, hxs, rfl⟩
      · rename_i ho
        refine ⟨fun h => absurd h Front.noConfusion, ?_⟩
        rintro ⟨os, hbs, hos, rfl⟩
        obtain ⟨x, xs, hx, -, rfl⟩ := List.forall₂_cons_left_iff.1 hos
        obtain ⟨rfl, rfl⟩ := List.cons.inj hbs
        exact absurd hx ho

/-- A character is read where its octets stand, and nowhere else. -/
theorem front_eq_scalar_iff {b : UInt8} {bs rest : Octets} {c : Char} :
    front b bs = .scalar c rest ↔ b :: bs = String.utf8EncodeChar c ++ rest := by
  constructor
  · intro h
    rw [front] at h
    split at h
    · cases h
    · rename_i bounds hb
      obtain ⟨os, rfl, hos, rfl⟩ := readTail_eq_scalar_iff.1 h
      rw [encodeChar_of_following hb hos, List.cons_append]
  · intro h
    obtain ⟨o, os, bounds, ho, hos, hv⟩ := exists_following c.valid
    have hc : Char.ofNat (valueFrom (lead o bounds.length) os) = c := by
      rw [hv]
      exact Char.ofNat_toNat c
    rw [← hc, encodeChar_of_following ho hos, List.cons_append] at h
    obtain ⟨rfl, rfl⟩ := List.cons.inj h
    rw [front, ho]
    exact readTail_eq_scalar_iff.2 ⟨os, rfl, hos, hc.symm⟩

/-- Octets are passed over up to the first one out of bounds. Those before it would be cut off by
    an end, and with it they are no longer. -/
theorem readTail_eq_invalid {value length n : Nat} {bounds : List Bounds} {bs rest : Octets}
    (h : readTail value length bounds bs = .invalid n rest) :
    ∃ os, bs = os ++ rest ∧ n = length + os.length ∧
      readTail value length bounds os = .incomplete ∧
      readTail value length bounds (os ++ rest.take 1) = .invalid n (rest.take 1) := by
  induction bounds generalizing value length bs with
  | nil => cases h
  | cons b bounds ih =>
    obtain ⟨lo, hi⟩ := b
    cases bs with
    | nil => cases h
    | cons o bs =>
      simp only [readTail] at h
      split at h
      · rename_i ho
        obtain ⟨os, rfl, rfl, hcut, hstuck⟩ := ih h
        refine ⟨o :: os, rfl, by rw [List.length_cons]; omega, ?_, ?_⟩
        · rw [readTail, if_pos ho, hcut]
        · rw [List.cons_append, readTail, if_pos ho, hstuck]
      · rename_i ho
        obtain ⟨rfl, rfl⟩ := Front.invalid.inj h
        exact ⟨[], rfl, rfl, rfl, if_neg ho⟩

/-- Octets that start no character are passed over: the first one, and those that would be cut off
    by an end. With one more they would not. -/
theorem front_eq_invalid {b : UInt8} {bs rest : Octets} {n : Nat}
    (h : front b bs = .invalid n rest) : ∃ os, bs = os ++ rest ∧ n = 1 + os.length ∧
      (os = [] ∨ front b os = .incomplete) ∧
      front b (os ++ rest.take 1) = .invalid n (rest.take 1) := by
  simp only [front] at h ⊢
  cases hb : following b with
  | none =>
    rw [hb] at h
    obtain ⟨rfl, rfl⟩ := Front.invalid.inj h
    exact ⟨[], rfl, rfl, Or.inl rfl, rfl⟩
  | some bounds =>
    rw [hb] at h
    obtain ⟨os, hbs, hn, hcut, hstuck⟩ := readTail_eq_invalid h
    exact ⟨os, hbs, hn, Or.inr hcut, hstuck⟩

theorem front_encodeChar (c : Char) (rest : Octets) : ∃ b bs,
    String.utf8EncodeChar c ++ rest = b :: bs ∧ front b bs = .scalar c rest := by
  obtain ⟨b, bs, h⟩ := List.exists_cons_of_ne_nil (String.utf8EncodeChar_ne_nil (c := c))
  exact ⟨b, bs ++ rest, by rw [h, List.cons_append],
    front_eq_scalar_iff.2 (by rw [h, List.cons_append])⟩

/-! ### The octets of a text -/

@[simp] theorem encode_nil : encode [] = [] := rfl

theorem encode_cons (c : Char) (t : Text) : encode (c :: t) = String.utf8EncodeChar c ++ encode t :=
  List.flatMap_cons

theorem encode_append (a b : Text) : encode (a ++ b) = encode a ++ encode b := List.flatMap_append

theorem decodeFrom_of_scalar {offset : Nat} {b : UInt8} {bs rest : Octets} {c : Char}
    (h : front b bs = .scalar c rest) : decodeFrom offset (b :: bs) =
      (decodeFrom (offset + ((b :: bs).length - rest.length)) rest).map (c :: ·) := by
  rw [decodeFrom]
  split <;> simp_all

theorem decodeFrom_of_invalid {offset n : Nat} {b : UInt8} {bs rest : Octets}
    (h : front b bs = .invalid n rest) : decodeFrom offset (b :: bs) = .error ⟨offset, some n⟩ := by
  rw [decodeFrom]
  split <;> simp_all

theorem decodeFrom_of_incomplete {offset : Nat} {b : UInt8} {bs : Octets}
    (h : front b bs = .incomplete) : decodeFrom offset (b :: bs) = .error ⟨offset, none⟩ := by
  rw [decodeFrom]
  split <;> simp_all

/-- A strict reading takes the octets of a text as the text. -/
theorem decodeFrom_encode (offset : Nat) (t : Text) : decodeFrom offset (encode t) = .ok t := by
  induction t generalizing offset with
  | nil => rw [encode_nil, decodeFrom]
  | cons c t ih =>
    obtain ⟨b, bs, hbs, hfront⟩ := front_encodeChar c (encode t)
    rw [encode_cons, hbs, decodeFrom_of_scalar hfront, ih]
    rfl

/-- What a strict reading takes as a text are the octets of the text. -/
theorem eq_encode_of_decodeFrom {offset : Nat} {bs : Octets} {t : Text}
    (h : decodeFrom offset bs = .ok t) : bs = encode t := by
  induction offset, bs using decodeFrom.induct generalizing t with
  | case1 offset =>
    rw [decodeFrom, Except.ok.injEq] at h
    rw [← h, encode_nil]
  | case2 offset b bs c rest hfront ih =>
    rw [decodeFrom_of_scalar hfront] at h
    cases hrest : decodeFrom (offset + ((b :: bs).length - rest.length)) rest with
    | error fault =>
      rw [hrest] at h
      cases h
    | ok t' =>
      rw [hrest] at h
      obtain rfl := Except.ok.inj h
      rw [encode_cons, ← ih hrest, ← front_eq_scalar_iff.1 hfront]
  | case3 offset b bs n rest hfront =>
    rw [decodeFrom_of_invalid hfront] at h
    cases h
  | case4 offset b bs hfront =>
    rw [decodeFrom_of_incomplete hfront] at h
    cases h

/-- A strict reading succeeds on the octets of a text, and on nothing else. -/
theorem decode_eq_ok_iff {bs : Octets} {t : Text} : decode bs = .ok t ↔ bs = encode t :=
  ⟨eq_encode_of_decodeFrom, fun h => h ▸ decodeFrom_encode 0 t⟩

/-! ### ASCII characters -/

/-- A character is one octet: it has its own number. -/
theorem encodeChar_ascii {c : Char} (hc : c.toNat < 0x80) : String.utf8EncodeChar c = [c.toUInt8] := by
  have hv : c.val.toNat ≤ 0x7F := Nat.lt_succ_iff.1 hc
  rw [String.utf8EncodeChar, if_pos hv]
  rfl

theorem toNat_toUInt8 {c : Char} (hc : c.toNat < 0x80) : c.toUInt8.toNat = c.toNat := by
  have h : c.toUInt8 = UInt8.ofNat c.toNat := rfl
  rw [h, UInt8.toNat_ofNat', Nat.mod_eq_of_lt (by omega)]

theorem front_ascii {c : Char} (hc : c.toNat < 0x80) (bs : Octets) :
    front c.toUInt8 bs = .scalar c bs :=
  front_eq_scalar_iff.2 (by rw [encodeChar_ascii hc, List.singleton_append])

theorem mem_encode_ascii {c : Char} {t : Text} (hc : c.toNat < 0x80) (h : c ∈ t) :
    c.toUInt8 ∈ encode t :=
  List.mem_flatMap.2 ⟨c, h, by rw [encodeChar_ascii hc, List.mem_singleton]⟩

/-- What is read when octets follow of which the first continues no character: a character that is
    cut off, with `length` octets, is one no longer. -/
def Front.followedBy (length : Nat) (ds : Octets) : Front → Front
  | .scalar c rest => .scalar c (rest ++ ds)
  | .invalid n rest => .invalid n (rest ++ ds)
  | .incomplete => .invalid length ds

theorem readTail_append_ascii {value length : Nat} {bounds : List Bounds} {bs ds : Octets}
    {d : UInt8} (hd : d.toNat < 0x80) (hb : ∀ b ∈ bounds, ∀ a, Within b a → 0x80 ≤ a.toNat) :
    readTail value length bounds (bs ++ d :: ds) =
      (readTail value length bounds bs).followedBy (length + bs.length) (d :: ds) := by
  induction bounds generalizing value length bs with
  | nil => rfl
  | cons b bounds ih =>
    obtain ⟨lo, hi⟩ := b
    obtain ⟨hb, hbounds⟩ := List.forall_mem_cons.1 hb
    cases bs with
    | nil =>
      have hout : ¬ (lo ≤ d ∧ d ≤ hi) := fun h => absurd (hb d h) (by omega)
      simp only [List.nil_append, readTail, if_neg hout]
      rfl
    | cons o bs =>
      simp only [List.cons_append, readTail]
      split
      · rw [ih hbounds, List.length_cons, Nat.add_right_comm, Nat.add_assoc]
      · rfl

theorem front_append_ascii {b d : UInt8} {bs ds : Octets} (hd : d.toNat < 0x80) :
    front b (bs ++ d :: ds) = (front b bs).followedBy (1 + bs.length) (d :: ds) := by
  rw [front, front]
  cases hb : following b with
  | none => rfl
  | some bounds => exact readTail_append_ascii hd (le_of_following hb)

/-! ### A forgiving reading -/

@[simp] theorem decodeLossy_nil : decodeLossy [] = [] := by
  rw [decodeLossy]

theorem decodeLossy_of_scalar {b : UInt8} {bs rest : Octets} {c : Char}
    (h : front b bs = .scalar c rest) : decodeLossy (b :: bs) = c :: decodeLossy rest := by
  rw [decodeLossy]
  split <;> simp_all

theorem decodeLossy_of_invalid {b : UInt8} {bs rest : Octets} {n : Nat}
    (h : front b bs = .invalid n rest) :
    decodeLossy (b :: bs) = '\uFFFD' :: decodeLossy rest := by
  rw [decodeLossy]
  split <;> simp_all

theorem decodeLossy_of_incomplete {b : UInt8} {bs : Octets} (h : front b bs = .incomplete) :
    decodeLossy (b :: bs) = ['\uFFFD'] := by
  rw [decodeLossy]
  split <;> simp_all

/-- No octets are passed over. -/
theorem decodeLossy_eq_nil_iff {bs : Octets} : decodeLossy bs = [] ↔ bs = [] := by
  cases bs with
  | nil => exact iff_of_true decodeLossy_nil rfl
  | cons b bs =>
    refine iff_of_false (fun h => ?_) (List.cons_ne_nil b bs)
    cases hfront : front b bs with
    | scalar c rest => rw [decodeLossy_of_scalar hfront] at h; cases h
    | invalid n rest => rw [decodeLossy_of_invalid hfront] at h; cases h
    | incomplete => rw [decodeLossy_of_incomplete hfront] at h; cases h

/-- A text comes back. -/
theorem decodeLossy_encode (t : Text) : decodeLossy (encode t) = t := by
  induction t with
  | nil => rw [encode_nil, decodeLossy_nil]
  | cons c t ih =>
    obtain ⟨b, bs, hbs, hfront⟩ := front_encodeChar c (encode t)
    rw [encode_cons, hbs, decodeLossy_of_scalar hfront, ih]

/-- Octets in which nothing is amiss are those of the text. -/
theorem eq_encode_of_decodeLossy {bs : Octets} (h : '\uFFFD' ∉ decodeLossy bs) :
    bs = encode (decodeLossy bs) := by
  induction bs using decodeLossy.induct with
  | case1 => rw [decodeLossy_nil, encode_nil]
  | case2 b bs c rest hfront ih =>
    rw [decodeLossy_of_scalar hfront, List.mem_cons, not_or] at h
    rw [decodeLossy_of_scalar hfront, encode_cons, ← ih h.2, ← front_eq_scalar_iff.1 hfront]
  | case3 b bs n rest hfront ih =>
    rw [decodeLossy_of_invalid hfront] at h
    exact absurd (List.mem_cons_self ..) h
  | case4 b bs hfront =>
    rw [decodeLossy_of_incomplete hfront] at h
    exact absurd (List.mem_cons_self ..) h

theorem decodeLossy_ascii {c : Char} (hc : c.toNat < 0x80) (bs : Octets) :
    decodeLossy (c.toUInt8 :: bs) = c :: decodeLossy bs :=
  decodeLossy_of_scalar (front_ascii hc bs)

/-- What stands before an ASCII character and what stands behind it are read each on its own. -/
theorem decodeLossy_append_ascii {c : Char} (hc : c.toNat < 0x80) (bs ds : Octets) :
    decodeLossy (bs ++ c.toUInt8 :: ds) = decodeLossy bs ++ c :: decodeLossy ds := by
  have hd : c.toUInt8.toNat < 0x80 := by rwa [toNat_toUInt8 hc]
  induction bs using decodeLossy.induct with
  | case1 => rw [List.nil_append, decodeLossy_nil, List.nil_append, decodeLossy_ascii hc]
  | case2 b bs c' rest hfront ih =>
    have hmore : front b (bs ++ c.toUInt8 :: ds) = .scalar c' (rest ++ c.toUInt8 :: ds) := by
      rw [front_append_ascii hd, hfront]; rfl
    rw [List.cons_append, decodeLossy_of_scalar hmore, decodeLossy_of_scalar hfront, ih,
      List.cons_append]
  | case3 b bs n rest hfront ih =>
    have hmore : front b (bs ++ c.toUInt8 :: ds) = .invalid n (rest ++ c.toUInt8 :: ds) := by
      rw [front_append_ascii hd, hfront]; rfl
    rw [List.cons_append, decodeLossy_of_invalid hmore, decodeLossy_of_invalid hfront, ih,
      List.cons_append]
  | case4 b bs hfront =>
    have hmore : front b (bs ++ c.toUInt8 :: ds) = .invalid (1 + bs.length) (c.toUInt8 :: ds) := by
      rw [front_append_ascii hd, hfront]; rfl
    rw [List.cons_append, decodeLossy_of_invalid hmore, decodeLossy_of_incomplete hfront,
      decodeLossy_ascii hc, List.singleton_append]

/-- An ASCII character is read only where its octet stands. -/
theorem mem_of_mem_decodeLossy {c : Char} (hc : c.toNat < 0x80) {bs : Octets}
    (h : c ∈ decodeLossy bs) : c.toUInt8 ∈ bs := by
  have hne : c ≠ '\uFFFD' := by rintro rfl; exact absurd hc (by decide)
  induction bs using decodeLossy.induct with
  | case1 => rw [decodeLossy_nil] at h; cases h
  | case2 b bs c' rest hfront ih =>
    rw [decodeLossy_of_scalar hfront, List.mem_cons] at h
    rw [front_eq_scalar_iff.1 hfront, List.mem_append]
    rcases h with rfl | h
    · exact Or.inl (by rw [encodeChar_ascii hc, List.mem_singleton])
    · exact Or.inr (ih h)
  | case3 b bs n rest hfront ih =>
    rw [decodeLossy_of_invalid hfront, List.mem_cons, or_iff_right hne] at h
    obtain ⟨os, rfl, -⟩ := front_eq_invalid hfront
    exact List.mem_cons_of_mem b (List.mem_append_right os (ih h))
  | case4 b bs hfront =>
    rw [decodeLossy_of_incomplete hfront, List.mem_singleton] at h
    exact absurd h hne

end OutlineLint.Utf8
