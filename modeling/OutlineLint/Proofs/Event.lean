import Mathlib.Data.List.Infix
import Mathlib.Data.List.TakeWhile
import OutlineLint.Event
import OutlineLint.Proofs.Line

/-! Events in a text. The scan jumps over every event that it has read, and still misses none: an
    event begins with a backtick and has no other, so no event begins inside another one. Hence the
    owners are those at all places of the text, in the order of the places, and an owner is among
    them exactly when its event stands somewhere.

        backtick family . owner . rest
        └──── jumped over ──────┘  no backtick behind the first

    An event lies in one line when its family does, so the owners of a text are those of its lines,
    one line after the other. -/

namespace OutlineLint.Event

/-- What the text has where an event begins: the opening, the owner and a dot. -/
theorem ownerAt?_eq_some_iff {family t o : Text} : ownerAt? family t = some o ↔
    o ≠ [] ∧ (∀ c ∈ o, isOwnerChar c = true) ∧ opening family ++ (o ++ ['.']) <+: t := by
  unfold ownerAt?
  simp only [List.isPrefixOf_iff_prefix]
  constructor
  · intro h
    split at h
    · rename_i hp
      obtain ⟨rest, rfl⟩ := hp
      rw [List.drop_left] at h
      split at h
      · rename_i ho
        rw [Option.some.injEq] at h
        obtain ⟨hne, hdot⟩ := ho
        obtain ⟨v, hv⟩ := List.head?_eq_some_iff.1 hdot
        refine ⟨h ▸ hne, fun c hc => List.mem_takeWhile_imp (h ▸ hc), ⟨v, ?_⟩⟩
        rw [← h, List.append_assoc, List.append_assoc, List.singleton_append, ← hv,
          List.takeWhile_append_dropWhile]
      · cases h
    · cases h
  · rintro ⟨hne, ho, v, rfl⟩
    have hdot : isOwnerChar '.' = false := by decide
    rw [List.append_assoc, if_pos (List.prefix_append _ _), List.drop_left, List.append_assoc,
      List.takeWhile_append_of_pos ho, List.dropWhile_append_of_pos ho]
    simp [hdot, hne]

/-- No event begins anywhere but at a backtick. -/
theorem ownerAt?_of_ne {family : Text} {c : Char} (cs : Text) (h : c ≠ '\x60') :
    ownerAt? family (c :: cs) = none := by
  rw [ownerAt?, if_neg]
  simpa [opening, List.isPrefixOf] using fun hc => absurd hc.symm h

/-- The scan reads the events at all places, if those it skips have no backtick. -/
theorem ownersFrom_eq_filterMap_tails {family : Text} (hf : '\x60' ∉ family) :
    ∀ (skip : Nat) (t : Text), '\x60' ∉ t.take skip →
      ownersFrom family skip t = t.tails.filterMap (ownerAt? family)
  | _, [], _ => by simp [ownersFrom, ownerAt?, opening]
  | skip + 1, c :: cs, h => by
    rw [List.take_succ_cons, List.mem_cons, not_or] at h
    rw [ownersFrom, ownersFrom_eq_filterMap_tails hf skip cs h.2, List.tails_cons,
      List.filterMap_cons_none (ownerAt?_of_ne cs (Ne.symm h.1))]
  | 0, c :: cs, _ => by
    rw [ownersFrom, List.tails_cons]
    cases ho : ownerAt? family (c :: cs) with
    | none =>
      rw [List.filterMap_cons_none ho]
      exact ownersFrom_eq_filterMap_tails hf 0 cs (by simp)
    | some o =>
      rw [List.filterMap_cons_some ho]
      refine congrArg (o :: ·) (ownersFrom_eq_filterMap_tails hf _ cs ?_)
      -- what is jumped over is the family, the owner and two dots
      obtain ⟨-, hchars, v, hv⟩ := ownerAt?_eq_some_iff.1 ho
      have hcs : cs = (family ++ ['.'] ++ (o ++ ['.'])) ++ v := by
        rw [opening, List.cons_append, List.cons_append, List.cons_append, List.cons.injEq] at hv
        rw [← hv.2]
      have hlen :
          (opening family).length + o.length = (family ++ ['.'] ++ (o ++ ['.'])).length := by
        simp only [opening, List.length_append, List.length_cons, List.length_nil]; omega
      rw [hcs, hlen, List.take_left]
      have ho' : '\x60' ∉ o := fun hm => absurd (hchars _ hm) (by decide)
      simp [hf, ho']

theorem owners_eq_filterMap_tails {family : Text} (hf : '\x60' ∉ family) (t : Text) :
    owners family t = t.tails.filterMap (ownerAt? family) :=
  ownersFrom_eq_filterMap_tails hf 0 t (by simp)

/-! ### Places -/

/-- At the place `k` of the text an event of the owner begins. -/
structure Mention (family t : Text) (k : Nat) (owner : Text) : Prop where
  text : ∃ u v, t = u ++ ('\x60' :: family ++ '.' :: (owner ++ '.' :: v)) ∧ u.length = k
  ne_nil : owner ≠ []
  chars : ∀ c ∈ owner, isOwnerChar c = true

/-- The places at which events begin, each with the owner of the event. -/
def mentions (family t : Text) : List (Nat × Text) :=
  (List.range (t.length + 1)).filterMap fun k => (ownerAt? family (t.drop k)).map (k, ·)

theorem ownerAt?_drop_eq_some_iff {family t o : Text} {k : Nat} :
    ownerAt? family (t.drop k) = some o ↔ Mention family t k o := by
  have hsplit : ∀ v, opening family ++ (o ++ ['.']) ++ v =
      '\x60' :: family ++ '.' :: (o ++ '.' :: v) := fun v => by simp [opening]
  rw [ownerAt?_eq_some_iff]
  constructor
  · rintro ⟨hne, hchars, v, hv⟩
    refine ⟨⟨t.take k, v, ?_, ?_⟩, hne, hchars⟩
    · rw [← hsplit, hv, List.take_append_drop]
    · have hlength := congrArg List.length hv
      simp only [opening, List.length_append, List.length_cons, List.length_drop] at hlength
      rw [List.length_take]
      omega
  · rintro ⟨⟨u, v, rfl, rfl⟩, hne, hchars⟩
    exact ⟨hne, hchars, v, by rw [List.drop_left, hsplit]⟩

theorem mem_mentions_iff {family t o : Text} {k : Nat} :
    (k, o) ∈ mentions family t ↔ Mention family t k o := by
  rw [mentions, List.mem_filterMap]
  constructor
  · rintro ⟨j, -, hj⟩
    obtain ⟨o', ho', heq⟩ := Option.map_eq_some_iff.1 hj
    obtain ⟨rfl, rfl⟩ := Prod.mk.inj heq
    exact ownerAt?_drop_eq_some_iff.1 ho'
  · intro h
    obtain ⟨u, v, rfl, rfl⟩ := h.text
    refine ⟨u.length, List.mem_range.2 ?_, ?_⟩
    · simp only [List.length_append]
      omega
    · rw [ownerAt?_drop_eq_some_iff.2 h, Option.map_some]

/-- The places go upwards, and there is one owner to a place. -/
theorem pairwise_mentions (family t : Text) :
    (mentions family t).Pairwise fun a b => a.1 < b.1 := by
  refine List.Pairwise.filterMap _ (fun j k hjk a ha b hb => ?_) List.pairwise_lt_range
  obtain ⟨o, -, rfl⟩ := Option.map_eq_some_iff.1 ha
  obtain ⟨p, -, rfl⟩ := Option.map_eq_some_iff.1 hb
  exact hjk

theorem tails_eq_map_drop (t : Text) : t.tails = (List.range (t.length + 1)).map t.drop :=
  List.ext_getElem (by simp) fun k _ _ => by simp

/-- The scan reads the owners off the places. -/
theorem owners_eq_map_mentions {family : Text} (hf : '\x60' ∉ family) (t : Text) :
    owners family t = (mentions family t).map Prod.snd := by
  rw [owners_eq_filterMap_tails hf, tails_eq_map_drop, List.filterMap_map, mentions,
    List.map_filterMap]
  simp [Function.comp_def]

theorem mem_owners_iff_mention {family t o : Text} (hf : '\x60' ∉ family) :
    o ∈ owners family t ↔ ∃ k, Mention family t k o := by
  rw [owners_eq_map_mentions hf, List.mem_map]
  constructor
  · rintro ⟨⟨k, o⟩, hk, rfl⟩
    exact ⟨k, mem_mentions_iff.1 hk⟩
  · rintro ⟨k, hk⟩
    exact ⟨(k, o), mem_mentions_iff.2 hk, rfl⟩

/-- Somebody owns an event exactly when it stands in the text. -/
theorem mem_owners_iff {family t o : Text} (hf : '\x60' ∉ family) : o ∈ owners family t ↔
    o ≠ [] ∧ (∀ c ∈ o, isOwnerChar c = true) ∧ opening family ++ (o ++ ['.']) <:+: t := by
  rw [mem_owners_iff_mention hf]
  constructor
  · rintro ⟨k, ⟨u, v, rfl, -⟩, hne, hchars⟩
    exact ⟨hne, hchars, u, v, by simp [opening]⟩
  · rintro ⟨hne, hchars, u, v, rfl⟩
    exact ⟨u.length, ⟨u, v, by simp [opening], rfl⟩, hne, hchars⟩

/-! ### Lines -/

theorem newline_not_mem_event {family o : Text} (hf : '\n' ∉ family)
    (ho : ∀ c ∈ o, isOwnerChar c = true) : '\n' ∉ opening family ++ (o ++ ['.']) := by
  have h : '\n' ∉ o := fun hn => absurd (ho _ hn) (by decide)
  simp [opening, hf, h]

/-- An event does not go beyond its line. -/
theorem ownerAt?_line {family : Text} (hf : '\n' ∉ family) (l t : Text) :
    ownerAt? family (l ++ '\n' :: t) = ownerAt? family l := by
  refine Option.ext fun o => ?_
  rw [ownerAt?_eq_some_iff, ownerAt?_eq_some_iff]
  refine and_congr_right fun _ => and_congr_right fun ho => ?_
  exact Text.prefix_line_iff t (newline_not_mem_event hf ho)

theorem owners_line {family : Text} (hq : '\x60' ∉ family) (hf : '\n' ∉ family) (l t : Text) :
    owners family (l ++ '\n' :: t) = owners family l ++ owners family t := by
  simp only [owners_eq_filterMap_tails hq, List.tails_append, List.filterMap_append,
    List.filterMap_map, List.tails_cons, List.tail_cons]
  congr 2
  exact funext fun s => ownerAt?_line hf s t

/-- In a family without a backtick, the scan lists the owners of all events that stand in the text,
    from the first place to the last, and loses none to one that it has read before. In a family
    without a newline it does so line by line. -/
theorem owners_eq_places {family : Text} (hf : '\x60' ∉ family) (t : Text) :
    (∃ places : List (Nat × Text), places.Pairwise (fun a b => a.1 < b.1) ∧
      (∀ k o, (k, o) ∈ places ↔ Mention family t k o) ∧
      owners family t = places.map Prod.snd) ∧
    ('\n' ∉ family → ∀ a b, owners family (a ++ '\n' :: b) = owners family a ++ owners family b) :=
  ⟨⟨mentions family t, pairwise_mentions family t, fun _ _ => mem_mentions_iff,
    owners_eq_map_mentions hf t⟩, fun hn => owners_line hf hn⟩

/-- Events behind an opening without an owner, a capital letter, a line break in an event and an
    event without a gap. -/
def crowded : Text :=
  "`agent.`agent.a.b, `agent.B.c, `agent.d\n.e`agent.a-b.f.``agent.a.".toList

theorem owners_of_crowded : '\x60' ∉ "agent".toList ∧ '\n' ∉ "agent".toList ∧
    owners "agent".toList crowded = ["a", "a-b", "a"].map String.toList ∧
    (∃ places : List (Nat × Text), places.Pairwise (fun a b => a.1 < b.1) ∧
      (∀ k o, (k, o) ∈ places ↔ Mention "agent".toList crowded k o) ∧
      owners "agent".toList crowded = places.map Prod.snd) ∧
    ∀ a b, owners "agent".toList (a ++ '\n' :: b) =
      owners "agent".toList a ++ owners "agent".toList b :=
  have hf : '\x60' ∉ "agent".toList := by decide
  have hn : '\n' ∉ "agent".toList := by decide
  have h := owners_eq_places hf crowded
  ⟨hf, hn, by decide +kernel, h.1, h.2 hn⟩

end OutlineLint.Event
