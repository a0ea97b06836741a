import OutlineLint.Folder
import OutlineLint.Proofs.FileName
import OutlineLint.Proofs.Order
import OutlineLint.Proofs.Utf8

/-! The documents of a folder. Three views of a file name meet here: its extension and its exclusion
    are read off the octets, its identity off the text that is shown. They fit together because a
    dot is an ASCII character, which is seen in the text where its octet stands in the name:

        octets    stem    + . + extension        extension wanted, name not excluded
        shown     id      + . + extension        id is not empty

    So a document is told apart by its identity as well as by its file name, and documents whose
    shown names differ come in one order, however the folder lists them. -/

namespace OutlineLint

/-- A file with the name is a document: the name is a stem, a dot and the extension, and it is not
    excluded. -/
structure Selection.Wants (s : Selection) (name : Octets) : Prop where
  ending : ∃ stem, stem ≠ [] ∧ name = stem ++ '.'.toUInt8 :: Utf8.encode s.extension
  last : '.'.toUInt8 ∉ Utf8.encode s.extension
  included : ∀ e ∈ s.excluded, name ≠ Utf8.encode e

/-- A name that can stand in a folder, as octets. -/
abbrev FileName.Listed (name : Octets) : Prop := FileName.Plain '/'.toUInt8 '.'.toUInt8 name

theorem Selection.admits_iff {s : Selection} {name : Octets} :
    s.admits name = true ↔ s.Wants name := by
  rw [admits, Bool.and_eq_true, decide_eq_true_iff, FileName.extension?_eq_some_iff,
    Bool.not_eq_true', List.any_eq_false]
  constructor
  · rintro ⟨⟨stem, hstem, hname, hlast⟩, hincluded⟩
    exact ⟨⟨stem, hstem, hname⟩, hlast, fun e he heq => hincluded e he (decide_eq_true heq.symm)⟩
  · rintro ⟨⟨stem, hstem, hname⟩, hlast, hincluded⟩
    exact ⟨⟨stem, hstem, hname, hlast⟩, fun e he heq => hincluded e he (of_decide_eq_true heq).symm⟩

namespace Folder

/-! ### Names as octets and as texts -/

/-- A name that can stand in a folder is shown as one. -/
theorem plain_decodeLossy {name : Octets} (h : FileName.Listed name) :
    FileName.Plain '/' '.' (Utf8.decodeLossy name) := by
  have hne {t : Text} (ht : '\uFFFD' ∉ t) (hname : name ≠ Utf8.encode t) :
      Utf8.decodeLossy name ≠ t := by
    rintro rfl
    exact hname (Utf8.eq_encode_of_decodeLossy ht)
  exact ⟨fun hmem => h.slash (Utf8.mem_of_mem_decodeLossy (by decide) hmem),
    hne (by decide) h.named, hne (by decide) h.here, hne (by decide) h.up⟩

/-- The identity of a document is what stands in front of its extension, and is not empty. -/
theorem identity_of_wants {s : Selection} {name : Octets} (h : FileName.Listed name)
    (hs : s.Wants name) : FileName.identity (Utf8.decodeLossy name) ≠ [] ∧
      Utf8.decodeLossy name =
        FileName.identity (Utf8.decodeLossy name) ++ '.' :: s.extension := by
  obtain ⟨⟨stem, hstem, hname⟩, hlast, -⟩ := hs
  have hshown : Utf8.decodeLossy name = Utf8.decodeLossy stem ++ '.' :: s.extension := by
    rw [hname, Utf8.decodeLossy_append_ascii (by decide), Utf8.decodeLossy_encode]
  have hid : FileName.identity (Utf8.decodeLossy name) = Utf8.decodeLossy stem := by
    rw [FileName.identity_of_plain (plain_decodeLossy h), hshown]
    refine FileName.stem_append (fun hnil => hstem (Utf8.decodeLossy_eq_nil_iff.1 hnil)) ?_
    exact fun hmem => hlast (Utf8.mem_encode_ascii (by decide) hmem)
  rw [hid]
  exact ⟨fun hnil => hstem (Utf8.decodeLossy_eq_nil_iff.1 hnil), hshown⟩

/-! ### The files of a folder -/

/-- The document in a file of a folder. -/
def documentIn (dir : Text) (f : Octets × Octets) : Document :=
  .ofFile (Utf8.decodeLossy f.1) (Path.join dir (Utf8.decodeLossy f.1)) (contents f.2)

/-- A file can be read when it holds the octets of a text, and then holds the text. -/
theorem contents_eq_readable_iff {content : Octets} {text : Text} :
    contents content = .readable text ↔ content = Utf8.encode text := by
  rw [contents, ← Utf8.decode_eq_ok_iff]
  cases Utf8.decode content <;> simp

/-- The files of a folder that are documents, with what they hold. -/
def candidates (s : Selection) (entries : List (Octets × FileTree)) : List (Octets × Octets) :=
  entries.filterMap fun
    | (name, .file content) => if s.admits name then some (name, content) else none
    | (_, .folder _) => none

theorem filterMap_document? (s : Selection) (dir : Text) (entries : List (Octets × FileTree)) :
    entries.filterMap (document? s dir) = (candidates s entries).map (documentIn dir) := by
  rw [candidates, List.map_filterMap]
  refine List.filterMap_congr fun e _ => ?_
  obtain ⟨name, content | entries⟩ := e
  · by_cases h : s.admits name = true
    · simp only [document?, if_pos h]
      rfl
    · simp only [document?, if_neg h]
      rfl
  · rfl

theorem mem_candidates_iff {s : Selection} {entries : List (Octets × FileTree)}
    {name content : Octets} : (name, content) ∈ candidates s entries ↔
      (name, .file content) ∈ entries ∧ s.Wants name := by
  rw [candidates, List.mem_filterMap, ← Selection.admits_iff]
  constructor
  · rintro ⟨⟨name', content' | entries'⟩, he, h⟩
    · simp only at h
      split at h
      · rename_i hadmits
        obtain ⟨rfl, rfl⟩ := Prod.mk.inj (Option.some.inj h)
        exact ⟨he, hadmits⟩
      · cases h
    · cases h
  · rintro ⟨he, hadmits⟩
    exact ⟨_, he, if_pos hadmits⟩

/-- The names of the candidates are names of the folder, in the same order. -/
theorem sublist_candidates (s : Selection) : ∀ entries : List (Octets × FileTree),
    ((candidates s entries).map Prod.fst).Sublist (entries.map Prod.fst)
  | [] => .slnil
  | (name, .folder _) :: entries => (sublist_candidates s entries).cons name
  | (name, .file content) :: entries => by
    have ih := sublist_candidates s entries
    by_cases h : s.admits name = true
    · have hcons : candidates s ((name, .file content) :: entries) =
          (name, content) :: candidates s entries := List.filterMap_cons_some (if_pos h)
      rw [hcons]
      exact ih.cons_cons name
    · have hskip : candidates s ((name, .file content) :: entries) = candidates s entries :=
        List.filterMap_cons_none (if_neg h)
      rw [hskip]
      exact ih.cons name

/-! ### The documents of a folder -/

/-- The documents of a listed folder, in order. -/
def documents (s : Selection) (dir : Text) (entries : List (Octets × FileTree)) : List Document :=
  Document.sort ((candidates s entries).map (documentIn dir))

theorem load_folder (s : Selection) (dir : Text) (entries : List (Octets × FileTree)) :
    load s dir (.folder entries) = .ok (documents s dir entries) := by
  rw [load, filterMap_document?, documents]

section
variable {s : Selection} {dir : Text} {entries : List (Octets × FileTree)}

theorem mem_documents_iff {d : Document} : d ∈ documents s dir entries ↔
    ∃ name content, ((name, .file content) ∈ entries ∧ s.Wants name) ∧
      d = documentIn dir (name, content) := by
  rw [documents, (Document.perm_sort _).mem_iff, List.mem_map]
  simp only [Prod.exists, mem_candidates_iff, eq_comm]

/-- The shown name of a document is its identity, a dot and the extension. -/
theorem fileName_of_mem_documents (hlisted : ∀ e ∈ entries, FileName.Listed e.1) {d : Document}
    (hd : d ∈ documents s dir entries) : d.id ≠ [] ∧ d.fileName = d.id ++ '.' :: s.extension := by
  obtain ⟨name, content, ⟨he, hs⟩, rfl⟩ := mem_documents_iff.1 hd
  exact identity_of_wants (hlisted _ he) hs

theorem fileName_eq_of_id_eq (hlisted : ∀ e ∈ entries, FileName.Listed e.1) {d d' : Document}
    (hd : d ∈ documents s dir entries) (hd' : d' ∈ documents s dir entries) (h : d.id = d'.id) :
    d.fileName = d'.fileName := by
  rw [(fileName_of_mem_documents hlisted hd).2, (fileName_of_mem_documents hlisted hd').2, h]

/-- Documents whose shown names differ stand in the order of their identities. -/
theorem pairwise_id_documents (hlisted : ∀ e ∈ entries, FileName.Listed e.1)
    (h : (((candidates s entries).map (documentIn dir)).map Document.fileName).Nodup) :
    (documents s dir entries).Pairwise fun d d' => d.id < d'.id := by
  have hdiffer : (documents s dir entries).Pairwise fun d d' => d.fileName ≠ d'.fileName :=
    List.pairwise_map.1 (((Document.perm_sort _).map Document.fileName).nodup_iff.2 h)
  refine ((Document.pairwise_sort _).and hdiffer).imp_of_mem fun {d d'} hd hd' hbefore => ?_
  refine hbefore.1.resolve_right fun hid => hbefore.2 ?_
  exact fileName_eq_of_id_eq hlisted hd hd' hid.1

/-- Documents whose shown names differ are the same in whatever order the folder lists them. -/
theorem documents_eq_of_perm {entries' : List (Octets × FileTree)}
    (h : (((candidates s entries).map (documentIn dir)).map Document.fileName).Nodup)
    (hperm : entries'.Perm entries) : documents s dir entries' = documents s dir entries :=
  Document.sort_eq_of_perm ((hperm.filterMap _).map _) h

/-- The documents of a folder are those of its wanted files, one for each. The shown name of each is
    its identity, a dot and the extension, so documents of one identity have one shown name. When
    the shown names differ, the identities increase, and the order in which the folder lists its
    entries does not matter. -/
theorem load_candidates (hlisted : ∀ e ∈ entries, FileName.Listed e.1)
    (hdistinct : (entries.map Prod.fst).Nodup) :
    ∃ (files : List (Octets × Octets)) (ds : List Document), load s dir (.folder entries) = .ok ds ∧
      (files.map Prod.fst).Nodup ∧
      (∀ name content, (name, content) ∈ files ↔
        (name, .file content) ∈ entries ∧ s.Wants name) ∧
      ds.Perm (files.map (documentIn dir)) ∧
      (∀ d ∈ ds, d.id ≠ [] ∧ d.fileName = d.id ++ '.' :: s.extension) ∧
      (∀ d ∈ ds, ∀ d' ∈ ds, d.id = d'.id → d.fileName = d'.fileName) ∧
      ((files.map fun f => Utf8.decodeLossy f.1).Nodup →
        (ds.Pairwise fun d d' => d.id < d'.id) ∧
        ∀ entries', entries'.Perm entries → load s dir (.folder entries') = .ok ds) := by
  refine ⟨candidates s entries, documents s dir entries, load_folder s dir entries,
    hdistinct.sublist (sublist_candidates s entries), fun _ _ => mem_candidates_iff,
    Document.perm_sort _, fun d => fileName_of_mem_documents hlisted,
    fun d hd d' hd' => fileName_eq_of_id_eq hlisted hd hd', fun hshown => ?_⟩
  have hfiles : (((candidates s entries).map (documentIn dir)).map Document.fileName).Nodup := by
    rwa [List.map_map]
  refine ⟨pairwise_id_documents hlisted hfiles, fun entries' hperm => ?_⟩
  rw [load_folder, documents_eq_of_perm hfiles hperm]

/-- A folder with every kind of entry: a name that is no text, one with two dots, one that is all
    stem, an excluded one, and a subfolder. -/
def assorted : List (Octets × FileTree) :=
  [(0xFF :: Utf8.encode ".md".toList, .file []), (Utf8.encode "a.b.md".toList, .file [0x61]),
   (Utf8.encode ".md".toList, .file [0x61]), (Utf8.encode "README.md".toList, .file [0x61]),
   (Utf8.encode "c.md".toList, .folder [])]

theorem load_assorted : (∀ e ∈ assorted, FileName.Listed e.1) ∧ (assorted.map Prod.fst).Nodup ∧
    ∃ ds, load .standard "agents".toList (.folder assorted) = .ok ds ∧
      (∀ d ∈ ds, d.id ≠ [] ∧ d.fileName = d.id ++ ".md".toList) ∧
      (ds.Pairwise fun d d' => d.id < d'.id) ∧
      load .standard "agents".toList (.folder assorted.reverse) = .ok ds := by
  refine ⟨by decide, by decide, ?_⟩
  obtain ⟨files, ds, hload, hfiles, hmem, -, hnames, -, horder⟩ :=
    @load_candidates .standard "agents".toList assorted (by decide) (by decide)
  have hshown : (assorted.map fun e => Utf8.decodeLossy e.1).Nodup := by decide +kernel
  have hdiffer : (files.map fun f => Utf8.decodeLossy f.1).Nodup := by
    refine (List.Nodup.of_map _ hfiles).map_on fun f hf f' hf' h => ?_
    have he := List.inj_on_of_nodup_map hshown ((hmem f.1 f.2).1 hf).1 ((hmem f'.1 f'.2).1 hf').1 h
    exact Prod.ext (Prod.mk.inj he).1 (FileTree.file.inj (Prod.mk.inj he).2)
  obtain ⟨hincreasing, hperm⟩ := horder hdiffer
  exact ⟨ds, hload, hnames, hincreasing, hperm _ assorted.reverse_perm⟩

end

end Folder

end OutlineLint
