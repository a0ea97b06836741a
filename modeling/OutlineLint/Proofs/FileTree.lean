import OutlineLint.FileTree

/-! Where a path leads, told by locations. A location is the names from the top of a tree down to a
    place; two dots take its last name away, any other name is put behind it. The walk that follows
    a path has no location: it keeps the folders above at hand, and goes back to them.

        path        ..        docs        .         agents
        location    [work] ─▶ [] ─▶ [docs] ─▶ [docs] ─▶ [docs, agents]

    The two agree because a tree has no links: the folder that a walk goes back to is the one that
    the location without its last name leads to. -/

namespace OutlineLint.FileTree

/-- What is at a location. -/
def at? (top : FileTree) (location : List Octets) : Option FileTree :=
  location.foldlM (fun t name => t.child? name) top

/-- The pieces of a path lead from one location to another. -/
inductive Leads (top : FileTree) : List Octets → List Text → List Octets → Prop
  | done (location : List Octets) : Leads top location [] location
  | stay {location piece pieces goal entries} (hfolder : top.at? location = some (.folder entries))
      (hpiece : piece = [] ∨ piece = ['.']) (hrest : Leads top location pieces goal) :
      Leads top location (piece :: pieces) goal
  | up {location pieces goal entries} (hfolder : top.at? location = some (.folder entries))
      (hrest : Leads top location.dropLast pieces goal) :
      Leads top location (['.', '.'] :: pieces) goal
  | enter {location piece pieces goal found} (hnamed : piece ≠ []) (hhere : piece ≠ ['.'])
      (hup : piece ≠ ['.', '.'])
      (hfound : top.at? (location ++ [Utf8.encode piece]) = some found)
      (hrest : Leads top (location ++ [Utf8.encode piece]) pieces goal) :
      Leads top location (piece :: pieces) goal

/-- A path leads to a tree: from the top if it starts with a slash, else from the working directory.
    The empty path leads nowhere. -/
def Reaches (top : FileTree) (workingDir : List Octets) (path : Text) (t : FileTree) : Prop :=
  path ≠ [] ∧ ∃ goal,
    Leads top (if path.head? = some '/' then [] else workingDir) (Text.pieces '/' path) goal ∧
      top.at? goal = some t

theorem at?_append (top : FileTree) (location names : List Octets) :
    top.at? (location ++ names) = (top.at? location).bind (·.at? names) := List.foldlM_append

theorem at?_cons (t : FileTree) (name : Octets) (names : List Octets) :
    t.at? (name :: names) = (t.child? name).bind (·.at? names) := List.foldlM_cons

theorem at?_concat (top : FileTree) (location : List Octets) (name : Octets) :
    top.at? (location ++ [name]) = (top.at? location).bind (·.child? name) := by
  rw [at?_append]
  exact Option.bind_congr fun t _ => (at?_cons ..).trans (Option.bind_fun_some _)

/-- A path that leads to something starts at something. -/
theorem Leads.exists_at? {top t : FileTree} {location goal : List Octets} {pieces : List Text}
    (h : Leads top location pieces goal) (hgoal : top.at? goal = some t) :
    ∃ found, top.at? location = some found := by
  cases h with
  | done => exact ⟨t, hgoal⟩
  | stay hfolder _ _ => exact ⟨_, hfolder⟩
  | up hfolder _ => exact ⟨_, hfolder⟩
  | enter _ _ _ hfound _ =>
    rw [at?_concat, Option.bind_eq_some_iff] at hfound
    exact hfound.imp fun _ h => h.1

/-! ### One step of a walk -/

namespace Position
variable {p : Position} {entries : List (Octets × FileTree)} {piece : Text}

theorem step?_stay (hfolder : p.here = .folder entries) (hpiece : piece = [] ∨ piece = ['.']) :
    p.step? piece = some p := by
  rw [step?, hfolder]
  exact if_pos hpiece

theorem step?_up (hfolder : p.here = .folder entries) : p.step? ['.', '.'] = some p.up := by
  rw [step?, hfolder]
  rfl

theorem step?_enter (hfolder : p.here = .folder entries) (hnamed : piece ≠ [])
    (hhere : piece ≠ ['.']) (hup : piece ≠ ['.', '.']) :
    p.step? piece = p.enter? (Utf8.encode piece) := by
  rw [step?, hfolder]
  exact (if_neg (not_or.2 ⟨hnamed, hhere⟩)).trans (if_neg hup)

theorem step?_of_file {content : Octets} (hfile : p.here = .file content) :
    p.step? piece = none := by
  rw [step?, hfile]

/-- What holds something under a name is a folder. -/
theorem exists_entries_of_enter? {q : Position} {name : Octets} (h : p.enter? name = some q) :
    ∃ entries, p.here = .folder entries := by
  rw [enter?] at h
  cases hhere : p.here with
  | file content =>
    rw [hhere] at h
    cases h
  | folder entries => exact ⟨entries, rfl⟩

end Position

/-- A walk stands at a location, with the folders above it at hand. -/
inductive Stands (top : FileTree) : List Octets → Position → Prop
  | top : Stands top [] (.top top)
  | under {location p name found} (hp : Stands top location p)
      (hfound : p.here.child? name = some found) :
      Stands top (location ++ [name]) ⟨found, p.here :: p.above⟩

namespace Stands
variable {top : FileTree} {location : List Octets} {p q : Position}

theorem at?_eq (h : Stands top location p) : top.at? location = some p.here := by
  induction h with
  | top => rfl
  | under _ hfound ih => rw [at?_concat, ih, Option.bind_some, hfound]

/-- The folder above is at the location without its last name. -/
theorem up (h : Stands top location p) : Stands top location.dropLast p.up := by
  cases h with
  | top => exact .top
  | under hp _ =>
    rw [List.dropLast_concat]
    exact hp

/-- A name that is entered is put behind the location. -/
theorem enter (h : Stands top location p) {name : Octets} (hq : p.enter? name = some q) :
    Stands top (location ++ [name]) q := by
  rw [Position.enter?, Option.map_eq_some_iff] at hq
  obtain ⟨found, hfound, rfl⟩ := hq
  exact .under h hfound

/-- A name can be entered when something is at the location that it makes. -/
theorem exists_enter (h : Stands top location p) {name : Octets} {found : FileTree}
    (hfound : top.at? (location ++ [name]) = some found) :
    ∃ q, p.enter? name = some q ∧ Stands top (location ++ [name]) q := by
  rw [at?_concat, h.at?_eq, Option.bind_some] at hfound
  have hq : p.enter? name = some ⟨found, p.here :: p.above⟩ := by
    rw [Position.enter?, hfound, Option.map_some]
  exact ⟨_, hq, .under h hfound⟩

/-! ### Whole walks -/

/-- Names are entered one after the other when something is at the location that they make. -/
theorem exists_enter_all {names : List Octets} {t : FileTree} (h : Stands top location p)
    (ht : top.at? (location ++ names) = some t) :
    ∃ q, names.foldlM Position.enter? p = some q ∧ Stands top (location ++ names) q := by
  induction names generalizing location p with
  | nil =>
    rw [List.append_nil]
    exact ⟨p, rfl, h⟩
  | cons name names ih =>
    rw [List.append_cons] at ht ⊢
    obtain ⟨found, hfound, -⟩ := Option.bind_eq_some_iff.1 ((at?_append ..).symm.trans ht)
    obtain ⟨q, hq, hstands⟩ := h.exists_enter hfound
    rw [List.foldlM_cons, hq]
    exact ih hstands ht

/-- What names are entered for is at the location that they make. -/
theorem enter_all {names : List Octets} (h : Stands top location p)
    (hq : names.foldlM Position.enter? p = some q) : Stands top (location ++ names) q := by
  induction names generalizing location p with
  | nil =>
    rw [List.append_nil]
    exact Option.some.inj hq ▸ h
  | cons name names ih =>
    rw [List.foldlM_cons] at hq
    obtain ⟨r, hr, hq⟩ := Option.bind_eq_some_iff.1 hq
    rw [List.append_cons]
    exact ih (h.enter hr) hq

/-- One step of a walk is one piece of what leads from its location. -/
theorem exists_step (h : Stands top location p) {piece : Text} (hq : p.step? piece = some q) :
    ∃ next, Stands top next q ∧
      ∀ pieces goal, Leads top next pieces goal → Leads top location (piece :: pieces) goal := by
  have hat := h.at?_eq
  -- nothing leads on from a file; in a folder a step tells the cases of `Leads` apart
  cases hfolder : p.here with
  | file content =>
    rw [Position.step?_of_file hfolder] at hq
    cases hq
  | folder entries =>
    rw [hfolder] at hat
    by_cases hstay : piece = [] ∨ piece = ['.']
    · rw [Position.step?_stay hfolder hstay] at hq
      exact ⟨location, Option.some.inj hq ▸ h, fun _ _ hrest => .stay hat hstay hrest⟩
    obtain ⟨hnamed, hhere⟩ := not_or.1 hstay
    by_cases hup : piece = ['.', '.']
    · subst hup
      rw [Position.step?_up hfolder] at hq
      exact ⟨location.dropLast, Option.some.inj hq ▸ h.up, fun _ _ hrest => .up hat hrest⟩
    · rw [Position.step?_enter hfolder hnamed hhere hup] at hq
      have hnext := h.enter hq
      exact ⟨_, hnext, fun _ _ hrest => .enter hnamed hhere hup hnext.at?_eq hrest⟩

/-- A walk along the pieces of a path ends where they lead. -/
theorem exists_leads {pieces : List Text} (h : Stands top location p)
    (hq : pieces.foldlM Position.step? p = some q) :
    ∃ goal, Leads top location pieces goal ∧ Stands top goal q := by
  induction pieces generalizing location p with
  | nil => exact ⟨location, .done location, Option.some.inj hq ▸ h⟩
  | cons piece pieces ih =>
    rw [List.foldlM_cons] at hq
    obtain ⟨r, hr, hq⟩ := Option.bind_eq_some_iff.1 hq
    obtain ⟨next, hnext, hpiece⟩ := h.exists_step hr
    obtain ⟨goal, hleads, hgoal⟩ := ih hnext hq
    exact ⟨goal, hpiece _ _ hleads, hgoal⟩

/-- Where the pieces of a path lead, a walk along them comes. -/
theorem exists_walk {pieces : List Text} {goal : List Octets}
    (hleads : Leads top location pieces goal) (h : Stands top location p) :
    ∃ q, pieces.foldlM Position.step? p = some q ∧ Stands top goal q := by
  -- each case of `Leads` names the step to take; that `..` finds its folder is `Stands.up`
  induction hleads generalizing p with
  | done => exact ⟨p, rfl, h⟩
  | stay hfolder hpiece _ ih =>
    rw [h.at?_eq] at hfolder
    rw [List.foldlM_cons, Position.step?_stay (Option.some.inj hfolder) hpiece]
    exact ih h
  | up hfolder _ ih =>
    rw [h.at?_eq] at hfolder
    rw [List.foldlM_cons, Position.step?_up (Option.some.inj hfolder)]
    exact ih h.up
  | enter hnamed hhere hup hfound _ ih =>
    obtain ⟨q, hq, hnext⟩ := h.exists_enter hfound
    obtain ⟨entries, hfolder⟩ := Position.exists_entries_of_enter? hq
    rw [List.foldlM_cons, Position.step?_enter hfolder hnamed hhere hup, hq]
    exact ih hnext

end Stands

/-! ### Paths -/

/-- A path is found to lead where its pieces do. -/
theorem find?_eq_some_iff {top t : FileTree} {workingDir : List Octets} {path : Text} :
    top.find? path workingDir = some t ↔ top.Reaches workingDir path t := by
  rw [find?, Reaches]
  split
  · rename_i hnil
    exact iff_of_false nofun fun h => h.1 hnil
  rename_i hpath
  simp only [hpath, ne_eq, not_false_eq_true, true_and, Option.bind_eq_some_iff,
    Option.map_eq_some_iff]
  constructor
  · rintro ⟨start, hstart, q, hq, rfl⟩
    obtain ⟨goal, hleads, hgoal⟩ := (Stands.top.enter_all hstart).exists_leads hq
    exact ⟨goal, hleads, hgoal.at?_eq⟩
  · rintro ⟨goal, hleads, hgoal⟩
    obtain ⟨found, hfound⟩ := hleads.exists_at? hgoal
    obtain ⟨start, hstart, hstands⟩ := Stands.top.exists_enter_all hfound
    obtain ⟨q, hq, hend⟩ := Stands.exists_walk hleads hstands
    exact ⟨start, hstart, q, hq, Option.some.inj (hend.at?_eq.symm.trans hgoal)⟩

/-- Above the top there is nothing to go up to. -/
example : (folder [([0x61], .file [0x62])]).find? "/../a".toList [[0x61]] = some (.file [0x62]) :=
  rfl

theorem list_eq_folder_iff {top : FileTree} {workingDir : List Octets} {path : Text}
    {entries : List (Octets × FileTree)} : top.list path workingDir = .folder entries ↔
      top.Reaches workingDir path (.folder entries) := by
  rw [← find?_eq_some_iff, list]
  split <;> simp_all

end OutlineLint.FileTree
