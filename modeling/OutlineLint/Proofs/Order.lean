import Mathlib.Data.Char
import Mathlib.Data.List.Lex
import Mathlib.Data.List.Sort
import OutlineLint.Document

/-! The order of documents. Documents are sorted by their identities, and by their file names where
    identities agree; those that agree in both keep the order in which they came. So the sorted
    documents are determined by the sequences of those that agree, and one more document is put in
    at one place while all others stay.

        c.md, a.md (1), b.md, a.md (2)   ──▶   a.md (1), a.md (2), b.md, c.md -/

namespace OutlineLint.Document

/-- `a` has the smaller identity, or the same one and no greater file name. -/
def Before (a b : Document) : Prop := a.id < b.id ∨ a.id = b.id ∧ a.fileName ≤ b.fileName

/-- The documents with an identity and a file name, in order. -/
def named (id fileName : Text) (ds : List Document) : List Document :=
  ds.filter fun d => d.id = id ∧ d.fileName = fileName

/-- `bs` are the documents `as` in order: none is lost, and those that agree stand as they came. -/
structure Ordered (as bs : List Document) : Prop where
  perm : bs.Perm as
  sorted : bs.Pairwise Before
  stable : ∀ id fileName, named id fileName bs = named id fileName as

/-! ### The comparison -/

theorem le_iff {a b : Document} : le a b = true ↔ Before a b := by
  simp [le, Before]

theorem Before.trans {a b c : Document} : Before a b → Before b c → Before a c := by
  rintro (hab | ⟨hab, hab'⟩) (hbc | ⟨hbc, hbc'⟩)
  · exact Or.inl (lt_trans hab hbc)
  · exact Or.inl (hbc ▸ hab)
  · exact Or.inl (hab ▸ hbc)
  · exact Or.inr ⟨hab.trans hbc, le_trans hab' hbc'⟩

theorem before_total (a b : Document) : Before a b ∨ Before b a := by
  rcases lt_trichotomy a.id b.id with h | h | h
  · exact Or.inl (Or.inl h)
  · exact (le_total a.fileName b.fileName).imp (fun hf => Or.inr ⟨h, hf⟩)
      fun hf => Or.inr ⟨h.symm, hf⟩
  · exact Or.inr (Or.inl h)

/-- Documents that come before each other agree in both. -/
theorem Before.antisymm {a b : Document} :
    Before a b → Before b a → a.id = b.id ∧ a.fileName = b.fileName := by
  rintro (hab | ⟨hab, hab'⟩) (hba | ⟨hba, hba'⟩)
  · exact absurd hab (lt_asymm hba)
  · exact absurd hab (hba ▸ lt_irrefl _)
  · exact absurd hba (hab ▸ lt_irrefl _)
  · exact ⟨hab, le_antisymm hab' hba'⟩

theorem before_of_eq {a b : Document} (hid : a.id = b.id) (hname : a.fileName = b.fileName) :
    Before a b := Or.inr ⟨hid, hname.le⟩

theorem le_trans' (a b c : Document) (hab : le a b = true) (hbc : le b c = true) :
    le a c = true := le_iff.2 ((le_iff.1 hab).trans (le_iff.1 hbc))

theorem le_total' (a b : Document) : (le a b || le b a) = true := by
  rw [Bool.or_eq_true, le_iff, le_iff]
  exact before_total a b

instance : DecidableRel Before := fun _ _ => decidable_of_iff _ le_iff

/-! ### One document more among sorted ones -/

theorem orderedInsert_of_forall_before {d : Document} : ∀ {ds : List Document},
    (∀ x ∈ ds, Before d x) → ds.orderedInsert Before d = d :: ds
  | [], _ => rfl
  | x :: _, h => List.orderedInsert_cons_of_le _ _ (h x (List.mem_cons_self ..))

theorem orderedInsert_append {d : Document} {bs : List Document} (hb : ∀ x ∈ bs, Before d x) :
    ∀ {as : List Document}, (∀ x ∈ as, ¬ Before d x) →
      (as ++ bs).orderedInsert Before d = as ++ d :: bs
  | [], _ => orderedInsert_of_forall_before hb
  | a :: as, ha => by
    obtain ⟨had, ha⟩ := List.forall_mem_cons.1 ha
    rw [List.cons_append, List.orderedInsert_of_not_le _ _ had, orderedInsert_append hb ha,
      List.cons_append]

/-- A document passes none that it agrees with. -/
theorem named_orderedInsert (id fileName : Text) (d : Document) : ∀ ds : List Document,
    named id fileName (ds.orderedInsert Before d) = named id fileName (d :: ds)
  | [] => rfl
  | x :: ds => by
    by_cases hdx : Before d x
    · rw [List.orderedInsert_cons_of_le _ _ hdx]
    · have ih := named_orderedInsert id fileName d ds
      rw [List.orderedInsert_of_not_le _ _ hdx]
      simp only [named, List.filter_cons, decide_eq_true_eq] at ih ⊢
      rw [ih]
      by_cases hx : x.id = id ∧ x.fileName = fileName
      · have hd : ¬ (d.id = id ∧ d.fileName = fileName) := fun hd =>
          hdx (before_of_eq (hd.1.trans hx.1.symm) (hd.2.trans hx.2.symm))
        simp only [if_pos hx, if_neg hd]
      · simp only [if_neg hx]

/-- Where one document stands among sorted ones, a further document is put in as if it did not. -/
theorem exists_orderedInsert (a d : Document) (after : List Document) :
    ∀ before : List Document, (before ++ d :: after).Pairwise Before →
      ∃ before' after', (before ++ after).orderedInsert Before a = before' ++ after' ∧
        (before ++ d :: after).orderedInsert Before a = before' ++ d :: after'
  | [], h => by
    have hafter := (List.pairwise_cons.1 h).1
    by_cases had : Before a d
    · -- what stands behind `d` stands behind `a` as well
      have hfront : ∀ x ∈ after, Before a x := fun x hx => had.trans (hafter x hx)
      exact ⟨[a], after, orderedInsert_of_forall_before hfront,
        List.orderedInsert_cons_of_le _ _ had⟩
    · exact ⟨[], after.orderedInsert Before a, rfl, List.orderedInsert_of_not_le _ _ had⟩
  | x :: before, h => by
    by_cases hax : Before a x
    · exact ⟨a :: x :: before, after, List.orderedInsert_cons_of_le _ _ hax,
        List.orderedInsert_cons_of_le _ _ hax⟩
    · obtain ⟨before', after', hwithout, hwith⟩ :=
        exists_orderedInsert a d after before (List.pairwise_cons.1 h).2
      refine ⟨x :: before', after', ?_, ?_⟩
      · rw [List.cons_append, List.orderedInsert_of_not_le _ _ hax, hwithout, List.cons_append]
      · rw [List.cons_append, List.orderedInsert_of_not_le _ _ hax, hwith, List.cons_append]

/-! ### The sorted documents -/

theorem perm_sort (ds : List Document) : (sort ds).Perm ds := List.mergeSort_perm ds le

theorem sort_eq_nil_iff {ds : List Document} : sort ds = [] ↔ ds = [] := by
  rw [← List.length_eq_zero_iff, (perm_sort ds).length_eq, List.length_eq_zero_iff]

theorem pairwise_sort (ds : List Document) : (sort ds).Pairwise Before :=
  (List.pairwise_mergeSort le_trans' le_total' ds).imp le_iff.1

/-- Documents are sorted as if they were put in one by one, from the last to the first. -/
theorem sort_cons (d : Document) (ds : List Document) :
    sort (d :: ds) = (sort ds).orderedInsert Before d := by
  obtain ⟨as, bs, hcons, hds, has⟩ := List.mergeSort_cons le_trans' le_total' d ds
  have hbs : ∀ x ∈ bs, Before d x := by
    have hsorted := pairwise_sort (d :: ds)
    rw [sort, hcons, List.pairwise_append, List.pairwise_cons] at hsorted
    exact hsorted.2.1.1
  have has' : ∀ x ∈ as, ¬ Before d x := fun x hx hdx => by
    have hlt := has x hx
    rw [le_iff.2 hdx] at hlt
    cases hlt
  rw [sort, sort, hcons, hds, orderedInsert_append hbs has']

/-- Documents that agree keep their order. -/
theorem named_sort (id fileName : Text) : ∀ ds : List Document,
    named id fileName (sort ds) = named id fileName ds
  | [] => by rw [sort, List.mergeSort_nil]
  | d :: ds => by
    have ih := named_sort id fileName ds
    rw [sort_cons, named_orderedInsert]
    simp only [named, List.filter_cons] at ih ⊢
    rw [ih]

theorem ordered_sort (ds : List Document) : Ordered ds (sort ds) :=
  ⟨perm_sort ds, pairwise_sort ds, fun id fileName => named_sort id fileName ds⟩

theorem named_cons_self (d : Document) (ds : List Document) :
    named d.id d.fileName (d :: ds) = d :: named d.id d.fileName ds := by
  simp [named]

/-- The first of sorted documents comes before each of them. -/
theorem before_of_mem {a b : Document} {as : List Document} (h : (a :: as).Pairwise Before)
    (hb : b ∈ a :: as) : Before a b := by
  rcases List.mem_cons.1 hb with rfl | hb
  · exact before_of_eq rfl rfl
  · exact (List.pairwise_cons.1 h).1 b hb

theorem mem_of_named_eq {as bs : List Document} {d : Document}
    (h : ∀ id fileName, named id fileName as = named id fileName bs) (hd : d ∈ as) : d ∈ bs := by
  have hmem : d ∈ named d.id d.fileName as := List.mem_filter.2 ⟨hd, by simp⟩
  rw [h] at hmem
  exact (List.mem_filter.1 hmem).1

/-- Sorted documents are determined by the sequences of those that agree. -/
theorem eq_of_named_eq : ∀ {as bs : List Document}, as.Pairwise Before → bs.Pairwise Before →
    (∀ id fileName, named id fileName as = named id fileName bs) → as = bs
  | [], [], _, _, _ => rfl
  | [], b :: bs, _, _, h => by simpa [named] using h b.id b.fileName
  | a :: as, [], _, _, h => by simpa [named] using h a.id a.fileName
  | a :: as, b :: bs, ha, hb, h => by
    have hba : Before b a := before_of_mem hb (mem_of_named_eq h (List.mem_cons_self ..))
    have hab : Before a b := before_of_mem ha
      (mem_of_named_eq (fun i n => (h i n).symm) (List.mem_cons_self ..))
    -- the two heads agree, so they are the first of the documents that agree with them
    obtain ⟨hid, hname⟩ := hab.antisymm hba
    have hheads := h a.id a.fileName
    rw [named_cons_self, hid, hname, named_cons_self] at hheads
    obtain rfl := (List.cons.inj hheads).1
    refine congrArg (a :: ·) (eq_of_named_eq ha.of_cons hb.of_cons fun i n => ?_)
    have htails := h i n
    simp only [named, List.filter_cons] at htails ⊢
    split at htails
    · exact (List.cons.inj htails).2
    · exact htails

/-- The order in which documents come matters only among those that agree. -/
theorem sort_eq_of_named_eq {as bs : List Document}
    (h : ∀ id fileName, named id fileName as = named id fileName bs) : sort as = sort bs :=
  eq_of_named_eq (pairwise_sort as) (pairwise_sort bs) fun i n => by
    rw [named_sort, named_sort, h]

/-- Documents of different file names are sorted to one list, in whatever order they come. -/
theorem sort_eq_of_perm {as bs : List Document} (h : as.Perm bs)
    (hnames : (bs.map Document.fileName).Nodup) : sort as = sort bs := by
  have hperm : (sort as).Perm (sort bs) := (perm_sort as).trans (h.trans (perm_sort bs).symm)
  refine hperm.eq_of_pairwise (fun a b ha hb hab hba => ?_) (pairwise_sort as) (pairwise_sort bs)
  have ha' : a ∈ bs := (perm_sort bs).mem_iff.1 (hperm.mem_iff.1 ha)
  exact List.inj_on_of_nodup_map hnames ha' ((perm_sort bs).mem_iff.1 hb) (hab.antisymm hba).2

/-- One more document, wherever it comes, is put in at one place. -/
theorem exists_sort_insert (d : Document) (bs : List Document) : ∀ as : List Document,
    ∃ before after, sort (as ++ bs) = before ++ after ∧
      sort (as ++ d :: bs) = before ++ d :: after
  | [] => by
    rw [List.nil_append, List.nil_append, sort_cons, List.orderedInsert_eq_take_drop]
    exact ⟨_, _, List.takeWhile_append_dropWhile.symm, rfl⟩
  | a :: as => by
    obtain ⟨before, after, hwithout, hwith⟩ := exists_sort_insert d bs as
    have hsorted := pairwise_sort (as ++ d :: bs)
    rw [hwith] at hsorted
    rw [List.cons_append, List.cons_append, sort_cons, sort_cons, hwithout, hwith]
    exact exists_orderedInsert a d after before hsorted

end OutlineLint.Document
