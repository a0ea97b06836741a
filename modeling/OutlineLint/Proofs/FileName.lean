import Mathlib.Data.List.TakeWhile
import OutlineLint.FileName
import OutlineLint.Proofs.Line

/-! File names from the outside. A name with a dot is cut at its last one, and what stands in front
    of it is the stem unless that is nothing; so a name has an extension exactly when it is a stem,
    a dot and the extension.

        a.b.md  =  a.b + . + md         .md  =  .md         md.  =  md + . + (empty)

    A path is known by the stem of its last part, whatever folders stand in front of it and however
    many slashes, and dots behind slashes, stand behind it:

        docs/a.b.md  ──▶  a.b           a.b.md//.  ──▶  a.b -/

namespace OutlineLint.FileName

variable {α : Type} {dot : α}

/-- A list with a member has a last place where it stands. -/
theorem exists_last_of_mem {name : List α} (h : dot ∈ name) :
    ∃ before after, name = before ++ dot :: after ∧ dot ∉ after := by
  obtain ⟨after, before, hname, hafter⟩ := List.eq_append_cons_of_mem (List.mem_reverse.2 h)
  refine ⟨before.reverse, after.reverse, ?_, fun hmem => hafter (List.mem_reverse.1 hmem)⟩
  rw [← List.reverse_inj, hname]
  simp

section
variable [DecidableEq α]

/-- A name is cut at its last dot. -/
theorem splitLast?_append (before : List α) {after : List α} (h : dot ∉ after) :
    splitLast? dot (before ++ dot :: after) = some (before, after) := by
  have hall : ∀ x ∈ after.reverse, decide (x ≠ dot) = true := fun x hx =>
    decide_eq_true fun heq => h (heq ▸ List.mem_reverse.1 hx)
  rw [splitLast?, List.reverse_append, List.reverse_cons, List.append_assoc,
    List.singleton_append, List.dropWhile_append_of_pos hall, List.takeWhile_append_of_pos hall,
    List.dropWhile_cons_of_neg (by simp), List.takeWhile_cons_of_neg (by simp)]
  simp only [List.append_nil, List.reverse_reverse]

theorem splitLast?_of_not_mem {name : List α} (h : dot ∉ name) : splitLast? dot name = none := by
  have hnil : name.reverse.dropWhile (· ≠ dot) = [] :=
    List.dropWhile_eq_nil_iff.2 fun x hx =>
      decide_eq_true fun heq => h (heq ▸ List.mem_reverse.1 hx)
  rw [splitLast?, hnil]

/-- The part in front of the last dot is the stem, unless it is empty. -/
theorem stem_append {before after : List α} (hbefore : before ≠ []) (hafter : dot ∉ after) :
    stem dot (before ++ dot :: after) = before := by
  rw [stem, splitLast?_append before hafter]
  exact if_neg hbefore

/-- A name with an extension is a stem, a dot and the extension. -/
theorem extension?_eq_some_iff {name after : List α} : extension? dot name = some after ↔
    ∃ before, before ≠ [] ∧ name = before ++ dot :: after ∧ dot ∉ after := by
  constructor
  · intro h
    by_cases hdot : dot ∈ name
    · obtain ⟨before, rest, rfl, hrest⟩ := exists_last_of_mem hdot
      simp only [extension?, splitLast?_append before hrest] at h
      split at h
      · cases h
      · rename_i hbefore
        obtain rfl := Option.some.inj h
        exact ⟨before, hbefore, rfl, hrest⟩
    · rw [extension?, splitLast?_of_not_mem hdot] at h
      cases h
  · rintro ⟨before, hbefore, rfl, hafter⟩
    rw [extension?, splitLast?_append before hafter]
    exact if_neg hbefore

end

/-- A name that can stand in a folder: it is one part of a path, and leads neither here nor up. -/
structure Plain (slash dot : α) (name : List α) : Prop where
  slash : slash ∉ name
  named : name ≠ []
  here : name ≠ [dot]
  up : name ≠ [dot, dot]

instance [DecidableEq α] (slash dot : α) (name : List α) : Decidable (Plain slash dot name) :=
  decidable_of_iff (slash ∉ name ∧ name ≠ [] ∧ name ≠ [dot] ∧ name ≠ [dot, dot])
    ⟨fun ⟨hslash, hnamed, hhere, hup⟩ => ⟨hslash, hnamed, hhere, hup⟩,
      fun h => ⟨h.slash, h.named, h.here, h.up⟩⟩

/-! ### The parts of a path -/

theorem parts_append (p q : Text) :
    Path.parts (p ++ '/' :: q) = Path.parts p ++ Path.parts q := by
  rw [Path.parts, Text.pieces_append, List.filter_append]
  rfl

/-- A path that stays where it is: slashes, and dots behind slashes. -/
inductive Idle : Text → Prop where
  | nil : Idle []
  | slash {t : Text} : Idle t → Idle ('/' :: t)
  | here {t : Text} : Idle t → Idle ('/' :: '.' :: t)

/-- What stays where it is adds no part. -/
theorem parts_append_idle {t : Text} (h : Idle t) (p : Text) :
    Path.parts (p ++ t) = Path.parts p := by
  induction h generalizing p with
  | nil => rw [List.append_nil]
  | @slash t _ ih =>
    have hrest : Path.parts t = [] := ih []
    rw [parts_append, hrest, List.append_nil]
  | @here t _ ih =>
    have hrest : Path.parts ('.' :: t) = [] := ih ['.']
    rw [parts_append, hrest, List.append_nil]

theorem parts_of_plain {name : Text} (h : Plain '/' '.' name) : Path.parts name = [name] := by
  rw [Path.parts, Text.pieces_of_not_mem h.slash]
  exact List.filter_cons_of_pos (decide_eq_true ⟨h.named, h.here⟩)

/-- A path is known by the stem of its last part, unless that goes up. -/
theorem identity_of_getLast? {path name : Text} (h : (Path.parts path).getLast? = some name)
    (hup : name ≠ ['.', '.']) : identity path = stem '.' name := by
  rw [identity, h]
  exact if_neg hup

/-- A name that can stand in a folder is known by its stem. -/
theorem identity_of_plain {name : Text} (h : Plain '/' '.' name) :
    identity name = stem '.' name :=
  identity_of_getLast? (by rw [parts_of_plain h]; rfl) h.up

/-- What stands in front of a name does not matter, nor what stays where it is behind it. -/
theorem parts_in_folder {dir name t : Text} (hdir : dir = [] ∨ dir.getLast? = some '/')
    (hname : Plain '/' '.' name) (ht : Idle t) :
    (Path.parts (dir ++ name ++ t)).getLast? = some name := by
  rw [parts_append_idle ht]
  rcases hdir with rfl | hslash
  · rw [List.nil_append, parts_of_plain hname]
    rfl
  · obtain ⟨base, rfl⟩ := List.getLast?_eq_some_iff.1 hslash
    rw [List.append_assoc, List.singleton_append, parts_append, parts_of_plain hname,
      List.getLast?_concat]

/-- A name whose only dot is at its front is all stem, as is one without a dot. -/
theorem stem_eq_self {name : Text} (h : '.' ∉ name ∨ ∃ rest, name = '.' :: rest ∧ '.' ∉ rest) :
    stem '.' name = name := by
  rcases h with hdot | ⟨rest, rfl, hdot⟩
  · rw [stem, splitLast?_of_not_mem hdot]
  · have hcut : splitLast? '.' ('.' :: rest) = some ([], rest) := splitLast?_append [] hdot
    rw [stem, hcut]
    exact if_pos rfl

/-- A path is known by its last part: what stands before and behind it does not matter. Of the part
    one extension is left out, which may be empty, and a part without an extension is its own
    identity. -/
theorem identity_of_last_part :
    (∀ dir name t : Text, (dir = [] ∨ dir.getLast? = some '/') → Plain '/' '.' name → Idle t →
      identity (dir ++ name ++ t) = identity name) ∧
    (∀ before after : Text, before ≠ [] → '/' ∉ before → '.' ∉ after → '/' ∉ after →
      before ++ ".".toList ++ after ≠ "..".toList →
        identity (before ++ ".".toList ++ after) = before) ∧
    (∀ name : Text, '/' ∉ name → ('.' ∉ name ∨ ∃ rest, name = '.' :: rest ∧ '.' ∉ rest) →
      identity name = name) := by
  refine ⟨fun dir name t hdir hname ht => ?_, fun before after hbefore hslash hdot hslash' hup => ?_,
    fun name hslash hdot => ?_⟩
  · rw [identity_of_plain hname]
    exact identity_of_getLast? (parts_in_folder hdir hname ht) hname.up
  · have hplain : Plain '/' '.' (before ++ ".".toList ++ after) := by
      refine ⟨by simp [hslash, hslash'], by simp, ?_, hup⟩
      obtain ⟨c, cs, rfl⟩ := List.exists_cons_of_ne_nil hbefore
      simp
    rw [identity_of_plain hplain, List.append_assoc]
    exact stem_append hbefore hdot
  · by_cases hnamed : name = []
    · rw [hnamed]
      rfl
    by_cases hhere : name = ['.']
    · rw [hhere]
      rfl
    have hup : name ≠ ['.', '.'] := by
      rintro rfl
      rcases hdot with hnone | ⟨rest, hrest, hnone⟩
      · exact hnone (List.mem_cons_self ..)
      · exact hnone ((List.cons.inj hrest).2 ▸ List.mem_cons_self ..)
    rw [identity_of_plain ⟨hslash, hnamed, hhere, hup⟩, stem_eq_self hdot]

/-- A dot in front of the extension is not the last one, and one in front of the name is no
    extension's. -/
theorem identity_of_dotted :
    Plain '/' '.' "a.b.md".toList ∧ Idle "/./".toList ∧
    identity ("../c.d/".toList ++ "a.b.md".toList ++ "/./".toList) = identity "a.b.md".toList ∧
    identity ("a.b".toList ++ ".".toList ++ "md".toList) = "a.b".toList ∧
    identity ".md".toList = ".md".toList := by
  obtain ⟨hpart, hstem, hself⟩ := identity_of_last_part
  have hplain : Plain '/' '.' "a.b.md".toList := by decide
  have hidle : Idle "/./".toList := .here (.slash .nil)
  exact ⟨hplain, hidle, hpart _ _ _ (Or.inr rfl) hplain hidle,
    hstem _ _ (by decide) (by decide) (by decide) (by decide) (by decide),
    hself _ (by decide) (Or.inr ⟨"md".toList, rfl, by decide⟩)⟩

end OutlineLint.FileName
