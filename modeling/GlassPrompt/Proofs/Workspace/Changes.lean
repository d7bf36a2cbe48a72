import GlassPrompt.Workspace.Compile
import Mathlib.Tactic.Common

/-!
# What file operations change

The view of a file tree is what it holds at each place, `FileTree.node?`.  Making folders and writing a
file are described through this view: what is there afterwards, and that all other places hold what they
held before.

* `node?_put_self`, `node?_put_of_ne` — putting something at one place.
* `KeepsFolders`, `locate_of_keepsFolders` — where all folders stay, paths lead where they led before.
* `MadeParents`, `madeParents_makeFolders` — making folders makes folders that are missing on the way,
  and does nothing else, even if it fails.
* `HasWritten`, `writeModule_spec` — a written module is one more file, and folders on the way to it.
-/

namespace GlassPrompt

/-! ## One place -/

section

variable {route other : Route} {entries : List (Route × Node)}

lemma lookup_filter_ne (differs : other ≠ route) :
    (entries.filter (·.1 != route)).lookup other = entries.lookup other := by
  have elsewhere : (other == route) = false := by simpa using differs
  induction entries with
  | nil => rfl
  | cons entry rest ih =>
    obtain ⟨place, node⟩ := entry
    by_cases same : place = route
    · simp [same, List.lookup_cons, elsewhere, ih]
    · simp [same, List.lookup_cons, ih]

lemma lookup_filter_self : (entries.filter (·.1 != route)).lookup route = none := by
  rw [List.lookup_eq_none_iff]
  intro entry member
  have kept : entry.1 ≠ route := by simpa using (List.mem_filter.1 member).2
  simpa using kept.symm

end

namespace FileTree

section

variable {tree : FileTree} {route other : Route} {node : Node}

@[simp] lemma node?_put_self (notAround : route.isAround = false) :
    (tree.put route node).node? route = some node := by
  simp [node?, put, notAround, List.lookup_append, lookup_filter_self]

@[simp] lemma node?_put_of_ne (differs : other ≠ route) :
    (tree.put route node).node? other = tree.node? other := by
  have elsewhere : (other == route) = false := by simpa using differs
  simp [node?, put, List.lookup_append, lookup_filter_ne differs, List.lookup_cons, elsewhere]

/-- The folders that are always there are not missing, and are no files. -/
lemma isAround_eq_false (notFolder : tree.node? route ≠ some .folder) : route.isAround = false := by
  by_contra around
  rw [Bool.not_eq_false] at around
  exact notFolder (by simp [node?, around])

lemma ne_of_node? (differs : tree.node? other ≠ tree.node? route) : other ≠ route := by
  rintro rfl
  exact differs rfl

end

/-! ## Where paths lead -/

/-- Every folder that was there before is still there. -/
def KeepsFolders (before after : FileTree) : Prop :=
  ∀ route, before.node? route = some .folder → after.node? route = some .folder

section

variable {before after : FileTree}

lemma keepsFolders_put {tree : FileTree} {route : Route} (node : Node)
    (notFolder : tree.node? route ≠ some .folder) : tree.KeepsFolders (tree.put route node) := by
  intro other folder
  rwa [node?_put_of_ne (ne_of_node? (by rw [folder]; exact notFolder.symm))]

lemma locateFrom_of_keepsFolders (keeps : before.KeepsFolders after) {here place : Route}
    {parts : List Text} (leads : before.locateFrom here parts = .ok place) :
    after.locateFrom here parts = .ok place := by
  induction parts generalizing here with
  | nil => exact leads
  | cons part rest ih =>
    rw [locateFrom] at leads ⊢
    cases node : before.node? here with
    | none => simp [node] at leads
    | some found =>
      cases found with
      | file content => simp [node] at leads
      | folder =>
        simp only [node] at leads
        simp only [keeps here node]
        split at leads
        · next outwards =>
          rw [if_pos outwards]
          exact ih leads
        · next inwards =>
          rw [if_neg inwards]
          split at leads
          · simp at leads
          · next short =>
            rw [if_neg short]
            exact ih leads

/-- **Paths lead where they led before** if all folders are still there. -/
lemma locate_of_keepsFolders (keeps : before.KeepsFolders after) {path : Path} {place : Route}
    (leads : before.locate path = .ok place) : after.locate path = .ok place := by
  unfold locate at leads ⊢
  split at leads
  · simp at leads
  · next isPath =>
    rw [if_neg isPath]
    split at leads
    · simp at leads
    · next short =>
      rw [if_neg short]
      exact locateFrom_of_keepsFolders keeps leads

end

end FileTree

/-! ## Making folders -/

/-- The first path leads to one of the folders that the second one leads through. -/
def Path.LeadsTo (outer path : Path) : Prop :=
  outer.root = path.root ∧ outer.parts <+: path.parts ∧ outer.parts ≠ path.parts

namespace FileTree

/-- A folder has been made at the place, one of those that the path leads through. -/
def MadeParent (before after : FileTree) (path : Path) (place : Route) : Prop :=
  before.node? place = none ∧ after.node? place = some .folder ∧
    ∃ outer : Path, outer.LeadsTo path ∧ after.locate outer = .ok place

/-- Some missing folders that the path leads through have been made, and nothing else has changed. -/
def MadeParents (before after : FileTree) (path : Path) : Prop :=
  ∀ place, after.node? place = before.node? place ∨ before.MadeParent after path place

section

variable {before middle after : FileTree} {path : Path}

lemma MadeParents.refl (tree : FileTree) (path : Path) : tree.MadeParents tree path :=
  fun _ => .inl rfl

lemma MadeParents.keepsFolders (made : before.MadeParents after path) :
    before.KeepsFolders after := by
  intro place folder
  rcases made place with same | ⟨-, now, -⟩
  · rw [same, folder]
  · exact now

lemma MadeParents.trans (first : before.MadeParents middle path)
    (second : middle.MadeParents after path) : before.MadeParents after path := by
  intro place
  rcases second place with same | ⟨missing, now, outer, leads, located⟩
  · rcases first place with unchanged | ⟨missing, now, outer, leads, located⟩
    · exact .inl (same.trans unchanged)
    · exact .inr ⟨missing, same.trans now, outer, leads,
        locate_of_keepsFolders second.keepsFolders located⟩
  · rcases first place with unchanged | ⟨-, already, -⟩
    · exact .inr ⟨unchanged.symm.trans missing, now, outer, leads, located⟩
    · simp [already] at missing

/-- A folder is made where there is nothing. -/
lemma makeFolder_eq_ok {tree : FileTree} {outer : Path} (h : tree.makeFolder outer = .ok after) :
    ∃ place, tree.locate outer = .ok place ∧ tree.node? place = none ∧
      after = tree.put place .folder := by
  unfold makeFolder at h
  split at h
  · simp at h
  · next place located =>
    split at h
    · simp at h
    · next missing => exact ⟨place, located, by simpa using missing, (Except.ok.inj h).symm⟩

lemma madeParents_put {tree : FileTree} {outer : Path} {place : Route} (leads : outer.LeadsTo path)
    (located : tree.locate outer = .ok place) (missing : tree.node? place = none) :
    tree.MadeParents (tree.put place .folder) path := by
  have notFolder : tree.node? place ≠ some .folder := by simp [missing]
  intro other
  by_cases same : other = place
  · subst same
    exact .inr ⟨missing, node?_put_self (isAround_eq_false notFolder), outer, leads,
      locate_of_keepsFolders (keepsFolders_put .folder notFolder) located⟩
  · exact .inl (node?_put_of_ne same)

lemma madeParents_ensureFolder {tree : FileTree} {outer : Path} (leads : outer.LeadsTo path)
    (h : tree.ensureFolder outer = .ok after) : tree.MadeParents after path := by
  unfold ensureFolder at h
  split at h
  · next made =>
    obtain rfl := Except.ok.inj h
    obtain ⟨place, located, missing, rfl⟩ := makeFolder_eq_ok made
    exact madeParents_put leads located missing
  · simp at h
  · split at h
    · obtain rfl := Except.ok.inj h
      exact .refl tree path
    · simp at h

/-- The induction is on the folders from the inside outwards; the folders that are left are those at the
start of the path. -/
lemma madeParents_makeFoldersFrom {root : Text} {outer inner : List Text} (tree : FileTree)
    (leads : path = ⟨root, outer.reverse ++ inner⟩) (nonempty : inner ≠ []) :
    tree.MadeParents (tree.makeFoldersFrom root outer).1 path := by
  have through (folders rest : List Text) (rest_ne : rest ≠ []) (whole : folders ++ rest = path.parts) :
      Path.LeadsTo ⟨root, folders⟩ path := by
    refine ⟨by rw [leads], ⟨rest, whole⟩, ?_⟩
    intro same
    exact rest_ne (List.append_right_eq_self.1 (whole.trans same.symm))
  induction outer generalizing tree inner with
  | nil =>
    have here : Path.LeadsTo ⟨root, []⟩ path := through [] inner nonempty (by rw [leads]; rfl)
    unfold makeFoldersFrom
    split
    · next made => exact madeParents_ensureFolder here made
    · exact .refl tree path
  | cons part outer ih =>
    have here : Path.LeadsTo ⟨root, (part :: outer).reverse⟩ path :=
      through _ inner nonempty (by rw [leads])
    have further : path = ⟨root, outer.reverse ++ part :: inner⟩ := by simp [leads]
    have around := ih tree further (List.cons_ne_nil part inner)
    unfold makeFoldersFrom
    dsimp only
    split
    · next made => exact madeParents_ensureFolder here made
    · split
      · next failed =>
        rw [failed] at around
        exact around
      · next done =>
        rw [done] at around
        split
        · next made => exact around.trans (madeParents_ensureFolder here made)
        · exact around
    · exact .refl tree path

/-- **Making folders** makes folders that are missing on the way, and does nothing else; of folders that
cannot all be made, some may have been. -/
theorem madeParents_makeFolders (tree : FileTree) (folder : Path) (name : Text) :
    tree.MadeParents (tree.makeFolders folder).1 (folder.append [name]) :=
  madeParents_makeFoldersFrom tree (by simp [Path.append]) (List.cons_ne_nil name [])

end

/-! ## Writing a file -/

/-- A file with the content has been written at the path.  Apart from that, missing folders that the path
leads through have been made, and nothing else has changed. -/
def HasWritten (before after : FileTree) (path : Path) (content : ByteArray) : Prop :=
  ∃ place, after.locate path = .ok place ∧ after.node? place = some (.file content) ∧
    before.node? place ≠ some .folder ∧
    ∀ other, other ≠ place →
      after.node? other = before.node? other ∨ before.MadeParent after path other

section

variable {before middle after : FileTree} {path : Path} {content : ByteArray}

lemma MadeParent.of_keepsFolders {place : Route} (made : before.MadeParent middle path place)
    (keeps : middle.KeepsFolders after) : before.MadeParent after path place := by
  obtain ⟨missing, now, outer, leads, located⟩ := made
  exact ⟨missing, keeps place now, outer, leads, locate_of_keepsFolders keeps located⟩

lemma write_eq_ok (h : before.write path content = .ok after) :
    ∃ place, before.locate path = .ok place ∧ before.node? place ≠ some .folder ∧
      after = before.put place (.file content) := by
  unfold write at h
  split at h
  · simp at h
  · next place located =>
    split at h
    · simp at h
    · next notFolder =>
      refine ⟨place, located, ?_, (Except.ok.inj h).symm⟩
      intro folder
      simp [folder, Node.isFolder] at notFolder

/-- Writing a file after the folders that lead to it have been made. -/
lemma MadeParents.hasWritten (made : before.MadeParents middle path)
    (h : middle.write path content = .ok after) : before.HasWritten after path content := by
  obtain ⟨place, located, notFolder, rfl⟩ := write_eq_ok h
  have keeps := keepsFolders_put (.file content) notFolder
  refine ⟨place, locate_of_keepsFolders keeps located,
    node?_put_self (isAround_eq_false notFolder), ?_, ?_⟩
  · intro folder
    exact notFolder (made.keepsFolders place folder)
  · intro other differs
    rcases made other with same | parent
    · exact .inl ((node?_put_of_ne differs).trans same)
    · exact .inr (parent.of_keepsFolders keeps)

/-- **Writing a module** writes its file and makes folders that are missing on the way.  If it fails,
folders at most have been made. -/
theorem writeModule_spec (tree : FileTree) (folder : Path) (language text : Text) :
    (∀ path, (tree.writeModule folder language text).2 = .ok path →
      path = folder.append [moduleFileName language] ∧
        tree.HasWritten (tree.writeModule folder language text).1 path (encodeText text)) ∧
      ∀ error, (tree.writeModule folder language text).2 = .error error →
        tree.MadeParents (tree.writeModule folder language text).1
          (folder.append [moduleFileName language]) := by
  have made := madeParents_makeFolders tree folder (moduleFileName language)
  unfold writeModule
  generalize tree.makeFolders folder = result at made
  obtain ⟨middle, failure⟩ := result
  cases failure with
  | some error => exact ⟨by simp, fun _ _ => made⟩
  | none =>
    dsimp only
    cases written : middle.write (folder.append [moduleFileName language]) (encodeText text) with
    | error error => exact ⟨by simp, fun _ _ => made⟩
    | ok after =>
      refine ⟨?_, by simp⟩
      intro path isPath
      obtain rfl := Except.ok.inj isPath
      exact ⟨rfl, made.hasWritten written⟩

end

end FileTree

end GlassPrompt
