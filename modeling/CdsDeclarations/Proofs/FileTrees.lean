import CdsDeclarations.Files.FileSystem
import Mathlib.Data.List.Basic
import Mathlib.Tactic.Lemma

/-!
# Changes of file trees

What a tree holds after an entry is put into it, after a file is written, and after directories are
made. A change that takes away no directory leaves every way through the tree open.
-/

namespace CdsDeclarations

/-- The place that names lead to from the top. -/
def Place.ofNames (names : List String) : Place :=
  names.foldl FileTree.advance []

/-- The place that a path leads to. -/
def Place.ofPath (path : String) : Place :=
  .ofNames (Path.names path)

namespace FileTree

lemma lookup_filter_ne {place other : Place} (h : other ≠ place)
    (entries : List (Place × FileEntry)) :
    (entries.filter fun entry => entry.1 ≠ place).lookup other = entries.lookup other := by
  induction entries with
  | nil => rfl
  | cons entry rest ih =>
    rw [List.filter_cons]
    by_cases hentry : entry.1 = place
    · have hother : other ≠ entry.1 := hentry ▸ h
      rw [if_neg (by simpa using hentry), ih, List.lookup_cons, beq_eq_false_iff_ne.mpr hother]
    · rw [if_pos (by simpa using hentry), List.lookup_cons, List.lookup_cons, ih]

lemma get?_put (tree : FileTree) {place : Place} (hplace : place ≠ []) (entry : FileEntry)
    (other : Place) :
    (tree.put place entry).get? other = if other = place then some entry else tree.get? other := by
  by_cases h : other = place
  · rw [if_pos h, get?, if_neg (h ▸ hplace), put, h, List.lookup_cons_self]
  · rw [if_neg h, get?, get?, put, List.lookup_cons, beq_eq_false_iff_ne.mpr h]
    exact if_congr Iff.rfl rfl (lookup_filter_ne h tree.entries)

lemma ne_nil_of_not_directory {tree : FileTree} {place : Place}
    (h : tree.get? place ≠ some .directory) : place ≠ [] := by
  rintro rfl
  exact h rfl

lemma walk_place {tree : FileTree} {place target : Place} {names : List String}
    (h : tree.walk place names = .ok target) : target = names.foldl advance place := by
  induction names generalizing place with
  | nil => exact (Except.ok.inj h).symm
  | cons name rest ih =>
    rw [walk] at h
    split at h
    · cases h
    · cases h
    · exact ih h

namespace Route

/-- The names on a route. -/
def names (route : Route) : List String :=
  route.before ++ [route.last]

def place (route : Route) : Place :=
  .ofNames route.names

lemma names_of_ofNames? {names : List String} {ending : Path.Ending} {route : Route}
    (h : ofNames? names ending = some route) : route.names = names ∧ route.ending = ending := by
  obtain ⟨last, hlast, rfl⟩ := Option.map_eq_some_iff.mp h
  exact ⟨List.dropLast_append_getLast? last hlast, rfl⟩

lemma names_of_ofPath? {path : String} {route : Route} (h : ofPath? path = some route) :
    route.names = Path.names path :=
  (names_of_ofNames? h).1

lemma place_of_ofPath? {path : String} {route : Route} (h : ofPath? path = some route) :
    route.place = .ofPath path := by
  rw [place, names_of_ofPath? h, Place.ofPath]

end Route

lemma find_eq_ok_iff {tree : FileTree} {route : Route} {place : Place} {found : Option FileEntry} :
    tree.find route = .ok (place, found) ↔
      (∃ directory, tree.walk [] route.before = .ok directory) ∧ place = route.place ∧
        found = tree.get? place := by
  unfold find
  cases hwalk : tree.walk [] route.before with
  | error fault => simp [bind, Except.bind]
  | ok directory =>
    have hplace : advance directory route.last = route.place := by
      rw [Route.place, Route.names, Place.ofNames, List.foldl_append, walk_place hwalk]
      rfl
    simp only [bind, Except.bind, pure, Except.pure, hplace, Except.ok.injEq, Prod.mk.injEq,
      exists_eq', true_and]
    constructor
    · rintro ⟨rfl, rfl⟩
      exact ⟨rfl, rfl⟩
    · rintro ⟨rfl, rfl⟩
      exact ⟨rfl, rfl⟩

/-- A change after which every directory is still there. -/
def KeepsDirectories (tree after : FileTree) : Prop :=
  ∀ place, tree.get? place = some .directory → after.get? place = some .directory

section KeepsDirectories

variable {tree after : FileTree}

lemma KeepsDirectories.trans {between : FileTree} (h : KeepsDirectories tree between)
    (hafter : KeepsDirectories between after) : KeepsDirectories tree after :=
  fun place hplace => hafter place (h place hplace)

lemma walk_of_keepsDirectories (h : KeepsDirectories tree after) {place target : Place}
    {names : List String} (hwalk : tree.walk place names = .ok target) :
    after.walk place names = .ok target := by
  induction names generalizing place with
  | nil => exact hwalk
  | cons name rest ih =>
    rw [walk] at hwalk ⊢
    split at hwalk
    · cases hwalk
    · cases hwalk
    · next hdirectory =>
      rw [h _ hdirectory]
      exact ih hwalk

end KeepsDirectories

section Files

variable {tree after : FileTree} {path content : String}

lemma ne_empty_of_ofPath? {route : Route} (h : Route.ofPath? path = some route) : path ≠ "" := by
  rintro rfl
  have hnone : Route.ofPath? "" = none := rfl
  rw [hnone] at h
  cases h

lemma readText_eq_ok_iff :
    tree.readText path = .ok content ↔
      ∃ route, Route.ofPath? path = some route ∧ route.ending = .name ∧
        tree.find route = .ok (route.place, some (.file (.text content))) := by
  cases hroute : Route.ofPath? path with
  | none =>
    rw [readText, hroute]
    by_cases hpath : path = "" <;> simp [hpath]
  | some route =>
    rw [readText, if_neg (ne_empty_of_ofPath? hroute), hroute]
    cases hfind : tree.find route with
    | error fault => simp [bind, Except.bind, hfind]
    | ok found =>
      obtain ⟨place, entry⟩ := found
      have hplace : place = route.place := (find_eq_ok_iff.mp hfind).2.1
      subst hplace
      rcases entry with _ | _ | value | bytes
      · simp [bind, Except.bind, hfind]
      · simp [bind, Except.bind, hfind]
      · by_cases hending : route.ending = .name <;>
          simp [bind, Except.bind, hfind, hending]
      · by_cases hending : route.ending = .name <;>
          simp [bind, Except.bind, hfind, hending]

/-- A text stays what it is when neither its file nor a directory goes. -/
lemma readText_of_keepsDirectories (hkeeps : KeepsDirectories tree after)
    (hsame : after.get? (.ofPath path) = tree.get? (.ofPath path))
    (h : tree.readText path = .ok content) : after.readText path = .ok content := by
  obtain ⟨route, hroute, hending, hfind⟩ := readText_eq_ok_iff.mp h
  obtain ⟨⟨directory, hwalk⟩, -, hfound⟩ := find_eq_ok_iff.mp hfind
  refine readText_eq_ok_iff.mpr ⟨route, hroute, hending, find_eq_ok_iff.mpr ⟨?_, rfl, ?_⟩⟩
  · exact ⟨directory, walk_of_keepsDirectories hkeeps hwalk⟩
  · rw [hfound, Route.place_of_ofPath? hroute, hsame]

lemma creationFault?_eq_none {route : Route} {present : FileFault} {found : Option FileEntry}
    (h : creationFault? route present found = none) :
    found ≠ some .directory ∧ route.ending ≠ .dot := by
  rcases found with _ | _ | content
  · refine ⟨by simp, fun hdot => ?_⟩
    simp [creationFault?, hdot] at h
  · cases h
  · refine ⟨by simp, fun hdot => ?_⟩
    simp [creationFault?, hdot] at h

/-- Writing puts a file where no directory is, on a way through directories. -/
lemma writeText_eq_ok (h : tree.writeText path content = .ok after) :
    ∃ route, Route.ofPath? path = some route ∧ route.ending = .name ∧
      tree.find route = .ok (route.place, tree.get? route.place) ∧
      tree.get? route.place ≠ some .directory ∧
      after = tree.put route.place (.file (.text content)) := by
  cases hroute : Route.ofPath? path with
  | none =>
    rw [writeText, hroute] at h
    by_cases hpath : path = "" <;> simp [hpath] at h
  | some route =>
    rw [writeText, if_neg (ne_empty_of_ofPath? hroute), hroute] at h
    cases hfind : tree.find route with
    | error fault => simp [bind, Except.bind, hfind] at h
    | ok found =>
      obtain ⟨place, entry⟩ := found
      obtain ⟨-, hplace, hentry⟩ := find_eq_ok_iff.mp hfind
      subst hplace hentry
      simp only [bind, Except.bind, hfind] at h
      cases hfault : creationFault? route .isDirectory (tree.get? route.place) with
      | some fault => simp [hfault] at h
      | none =>
        obtain ⟨hdirectory, hdot⟩ := creationFault?_eq_none hfault
        rw [hfault] at h
        by_cases hslash : route.ending = .slash
        · simp [hslash] at h
        · have hname : route.ending = .name := by
            cases hending : route.ending with
            | name => rfl
            | slash => exact absurd hending hslash
            | dot => exact absurd hending hdot
          simp only [if_neg hslash] at h
          exact ⟨route, rfl, hname, hfind, hdirectory, (Except.ok.inj h).symm⟩

lemma get?_of_writeText (h : tree.writeText path content = .ok after) (place : Place) :
    after.get? place =
      if place = .ofPath path then some (.file (.text content)) else tree.get? place := by
  obtain ⟨route, hroute, -, -, hdirectory, rfl⟩ := writeText_eq_ok h
  rw [get?_put tree (ne_nil_of_not_directory hdirectory), Route.place_of_ofPath? hroute]

lemma keepsDirectories_of_writeText (h : tree.writeText path content = .ok after) :
    KeepsDirectories tree after := by
  intro place hplace
  rw [get?_of_writeText h]
  split
  · next hsame =>
    obtain ⟨route, hroute, -, -, hdirectory, -⟩ := writeText_eq_ok h
    rw [hsame, ← Route.place_of_ofPath? hroute] at hplace
    exact absurd hplace hdirectory
  · exact hplace

/-- A text that was written is read back. -/
theorem readText_of_writeText (h : tree.writeText path content = .ok after) :
    after.readText path = .ok content := by
  obtain ⟨route, hroute, hending, hfind, -, -⟩ := writeText_eq_ok h
  obtain ⟨⟨directory, hwalk⟩, -, -⟩ := find_eq_ok_iff.mp hfind
  refine readText_eq_ok_iff.mpr ⟨route, hroute, hending, find_eq_ok_iff.mpr ⟨?_, rfl, ?_⟩⟩
  · exact ⟨directory, walk_of_keepsDirectories (keepsDirectories_of_writeText h) hwalk⟩
  · rw [get?_of_writeText h, if_pos (Route.place_of_ofPath? hroute)]

end Files

/-- A change that at most makes directories, each on the way that some names lead. -/
def MakesWay (names : List String) (tree after : FileTree) : Prop :=
  ∀ place, after.get? place = tree.get? place ∨
    tree.get? place = none ∧ after.get? place = some .directory ∧
      ∃ front, front <+: names ∧ place = .ofNames front

section MakesWay

variable {names : List String} {tree after : FileTree}

lemma MakesWay.refl (names : List String) (tree : FileTree) : MakesWay names tree tree :=
  fun _ => Or.inl rfl

lemma MakesWay.trans {between : FileTree} (h : MakesWay names tree between)
    (hafter : MakesWay names between after) : MakesWay names tree after := by
  intro place
  rcases hafter place with hsame | ⟨hnone, hmade, hway⟩
  · rw [hsame]
    exact h place
  · rcases h place with hsame | ⟨-, hdirectory, -⟩
    · exact Or.inr ⟨hsame ▸ hnone, hmade, hway⟩
    · rw [hnone] at hdirectory
      cases hdirectory

lemma makesWay_makeDirectory {route : Route} (hroute : route.names <+: names)
    (h : tree.makeDirectory route = .ok after) : MakesWay names tree after := by
  unfold makeDirectory at h
  cases hfind : tree.find route with
  | error fault => simp [bind, Except.bind, hfind] at h
  | ok found =>
    obtain ⟨place, entry⟩ := found
    obtain ⟨-, hplace, hentry⟩ := find_eq_ok_iff.mp hfind
    subst hplace hentry
    simp only [bind, Except.bind, hfind] at h
    cases hfault : creationFault? route .alreadyExists (tree.get? route.place) with
    | some fault => simp [hfault] at h
    | none =>
      rw [hfault] at h
      cases hfound : tree.get? route.place with
      | some entry => simp [hfound] at h
      | none =>
        simp only [hfound, Option.isSome_none, Bool.false_eq_true, if_false] at h
        obtain rfl := Except.ok.inj h
        have hnil : route.place ≠ [] := ne_nil_of_not_directory (by rw [hfound]; simp)
        intro place
        rw [get?_put tree hnil]
        by_cases hplace : place = route.place
        · rw [if_pos hplace, hplace]
          exact Or.inr ⟨hfound, rfl, route.names, hroute, rfl⟩
        · exact Or.inl (if_neg hplace)

lemma makesWay_makeFirst {routes : List Route} (h : ∀ route ∈ routes, route.names <+: names)
    (tree : FileTree) : MakesWay names tree (tree.makeFirst routes).1 := by
  induction routes with
  | nil => exact .refl names tree
  | cons route above ih =>
    have hroute := h route List.mem_cons_self
    have habove := ih fun other hother => h other (List.mem_cons_of_mem route hother)
    unfold makeFirst
    split
    · next made hmade => exact makesWay_makeDirectory hroute hmade
    · split
      · next between fault hbetween =>
        rw [hbetween] at habove
        exact habove
      · next between hbetween =>
        rw [hbetween] at habove
        split
        · next made hmade => exact habove.trans (makesWay_makeDirectory hroute hmade)
        · exact habove
    · exact .refl names tree

lemma names_of_mem_routesAbove {count : Nat} {names : List String} {route : Route}
    (h : route ∈ routesAbove count names) : route.names <+: names := by
  induction count generalizing names with
  | zero => cases h
  | succ count ih =>
    rw [routesAbove] at h
    rcases List.mem_append.mp h with hfirst | habove
    · exact (Route.names_of_ofNames? (Option.mem_toList.mp hfirst)).1 ▸ List.prefix_refl _
    · have hfront := List.dropLast_prefix names
      exact (ih habove).trans hfront

/-- Making directories makes nothing but those on the way of a path. -/
theorem makesWay_makeDirectories (tree : FileTree) (path : String) :
    MakesWay (Path.names path) tree (tree.makeDirectories path).1 := by
  unfold makeDirectories
  cases hroute : Route.ofPath? path with
  | none => exact .refl _ tree
  | some route =>
    refine makesWay_makeFirst (fun other hother => ?_) tree
    rw [← Route.names_of_ofPath? hroute]
    rcases List.mem_cons.mp hother with rfl | habove
    · exact List.prefix_refl _
    · exact (names_of_mem_routesAbove habove).trans (List.prefix_append _ _)

end MakesWay

end FileTree

end CdsDeclarations
