import OutlineLint.Text.Basic

/-! UTF-8. The first octet of a character says how many octets follow and which bounds each of them
    keeps; the bounds rule out overlong forms, surrogates and values above U+10FFFF.

        first      then
        00–7F
        C2–DF      80–BF
        E0         A0–BF 80–BF
        E1–EF      80–BF 80–BF          (ED: 80–9F first)
        F0         90–BF 80–BF 80–BF
        F1–F3      80–BF 80–BF 80–BF
        F4         80–8F 80–BF 80–BF

    A strict reading ends at the first octet that no character can continue with; a forgiving one
    puts U+FFFD for the octets up to there and goes on. -/

namespace OutlineLint

/-- A string of octets. -/
abbrev Octets := List UInt8

namespace Utf8

/-- The octets of a text. -/
def encode (t : Text) : Octets := t.flatMap String.utf8EncodeChar

/-- The least and the greatest octet at a place. -/
abbrev Bounds := UInt8 × UInt8

/-- The bounds of an octet about which nothing is known but that it continues a character. -/
def anyTail : Bounds := (0x80, 0xBF)

/-- The bounds of the octets that follow a first octet. -/
def following (first : UInt8) : Option (List Bounds) :=
  if first ≤ 0x7F then some []
  else if first < 0xC2 then none
  else if first ≤ 0xDF then some [anyTail]
  else if first = 0xE0 then some [(0xA0, 0xBF), anyTail]
  else if first = 0xED then some [(0x80, 0x9F), anyTail]
  else if first ≤ 0xEF then some [anyTail, anyTail]
  else if first = 0xF0 then some [(0x90, 0xBF), anyTail, anyTail]
  else if first ≤ 0xF3 then some [anyTail, anyTail, anyTail]
  else if first = 0xF4 then some [(0x80, 0x8F), anyTail, anyTail]
  else none

/-- What stands at the front of a string of octets. -/
inductive Front where
  /-- A character, and what follows it. -/
  | scalar (c : Char) (rest : Octets)
  /-- Octets that start no character, and what follows them. -/
  | invalid (length : Nat) (rest : Octets)
  /-- The beginning of a character, cut off by the end. -/
  | incomplete
  deriving DecidableEq, Repr

/-- Reads the octets that follow a first one: `value` and `length` are those of the octets read. -/
def readTail (value length : Nat) : List Bounds → Octets → Front
  | [], rest => .scalar (Char.ofNat value) rest
  | _ :: _, [] => .incomplete
  | (lo, hi) :: bounds, b :: rest =>
    if lo ≤ b ∧ b ≤ hi then readTail (value * 64 + b.toNat % 64) (length + 1) bounds rest
    else .invalid length (b :: rest)

/-- The share of a first octet in the value of its character, when `n` octets follow. -/
def lead (first : UInt8) (n : Nat) : Nat :=
  if n = 0 then first.toNat else first.toNat % (1 <<< (6 - n))

/-- Reads the character at the front. -/
def front (b : UInt8) (bs : Octets) : Front :=
  match following b with
  | none => .invalid 1 bs
  | some bounds => readTail (lead b bounds.length) 1 bounds bs

/-! ### Reading makes progress -/

theorem length_readTail {bounds : List Bounds} {bs rest : Octets} {value length : Nat}
    (h : (∃ c, readTail value length bounds bs = .scalar c rest) ∨
      ∃ n, readTail value length bounds bs = .invalid n rest) : rest.length ≤ bs.length := by
  induction bounds generalizing value length bs with
  | nil => rcases h with ⟨c, h⟩ | ⟨n, h⟩ <;> simp_all [readTail]
  | cons b bounds ih =>
    cases bs with
    | nil => rcases h with ⟨c, h⟩ | ⟨n, h⟩ <;> simp [readTail] at h
    | cons x xs =>
      simp only [readTail] at h
      split at h
      · exact Nat.le_succ_of_le (ih h)
      · rcases h with ⟨c, h⟩ | ⟨n, h⟩ <;> simp_all

theorem length_front {b : UInt8} {bs rest : Octets}
    (h : (∃ c, front b bs = .scalar c rest) ∨ ∃ n, front b bs = .invalid n rest) :
    rest.length ≤ bs.length := by
  unfold front at h
  split at h
  · rcases h with ⟨c, h⟩ | ⟨n, h⟩ <;> simp_all
  · exact length_readTail h

/-! ### Texts -/

/-- The first place where octets are no text. -/
structure Fault where
  /-- How many octets are a text. -/
  offset : Nat
  /-- How many octets after that start no character, or `none` when the end cuts one off. -/
  length : Option Nat
  deriving DecidableEq, Repr

/-- The wording of a fault. -/
def Fault.message (f : Fault) : Text :=
  match f.length with
  | some n =>
    "invalid utf-8 sequence of ".toList ++ Text.ofNat n ++ " bytes from index ".toList
      ++ Text.ofNat f.offset
  | none => "incomplete utf-8 byte sequence from index ".toList ++ Text.ofNat f.offset

/-- Reads octets after `offset` others as a text. -/
def decodeFrom (offset : Nat) : Octets → Except Fault Text
  | [] => .ok []
  | b :: bs =>
    match _ : front b bs with
    | .scalar c rest => (decodeFrom (offset + ((b :: bs).length - rest.length)) rest).map (c :: ·)
    | .invalid n _ => .error ⟨offset, some n⟩
    | .incomplete => .error ⟨offset, none⟩
termination_by bs => bs.length
decreasing_by
  have := length_front (.inl ⟨c, by assumption⟩)
  simp only [List.length_cons]; omega

/-- Reads octets as a text, or says where they stop being one. -/
def decode (bs : Octets) : Except Fault Text := decodeFrom 0 bs

/-- Reads octets as a text, with U+FFFD for what is none. -/
def decodeLossy : Octets → Text
  | [] => []
  | b :: bs =>
    match _ : front b bs with
    | .scalar c rest => c :: decodeLossy rest
    | .invalid _ rest => '\uFFFD' :: decodeLossy rest
    | .incomplete => ['\uFFFD']
termination_by bs => bs.length
decreasing_by
  · have := length_front (.inl ⟨c, by assumption⟩)
    simp only [List.length_cons]; omega
  · have := length_front (.inr ⟨_, by assumption⟩)
    simp only [List.length_cons]; omega

end Utf8

end OutlineLint
