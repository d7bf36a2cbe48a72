import GlassPrompt.Import.Specifier
import GlassPrompt.Proofs.Text.Trim
import GlassPrompt.Proofs.Workspace.Paths
import GlassPrompt.Workspace.Tree

/-!
# Specifiers seen from a child folder

A relative specifier is a path, read from the folder of its module.  Seen from a child folder, every
path starts one folder further in, so it has to lead out once more before anything else.

* `Route.enter`, `Route.resolve` — where the parts of a path lead, with `resolve_of_locateFrom`: a file
  tree finds it there, if it finds it.
* `IsRelative` — the specifiers that are paths, with `isRelative_cases`.
* `parts_specifierFromChild` — the parts of a rewritten specifier.
* `specifierFromChild_resolves` — when it leads to the same place; `not_resolves_dot` is a specifier
  that does not.
-/

namespace GlassPrompt

/-! ## Where a path leads -/

namespace Route

/-- The place that one part of a path leads to. -/
def enter (here : Route) (part : Text) : Route :=
  if part = ['.', '.'] then here.outwards else here ++ [part]

/-- The place that a written path leads to from a folder, whether there is anything or not. -/
def resolve (here : Route) (path : Text) : Route :=
  (Path.parse path).parts.foldl enter here

end Route

/-- A name that a folder can have. -/
structure IsFolderName (name : Text) : Prop where
  filled : name ≠ []
  notHere : name ≠ ['.']
  notOutwards : name ≠ ['.', '.']
  noSlash : '/' ∉ name

/-- Around a folder with a name is the folder that it is in. -/
lemma outwards_child {name : Text} (isName : IsFolderName name) (folder : Route) :
    Route.outwards (folder ++ [name]) = folder := by
  have notOutermost : folder ++ [name] ≠ Route.outermost := by
    intro same
    have last := congrArg List.getLast? same
    rw [List.getLast?_concat] at last
    obtain rfl : name = ['/'] := Option.some.inj last
    exact isName.noSlash List.mem_cons_self
  have notAround : Route.isAround (folder ++ [name]) = false := by
    simp [Route.isAround, isName.notOutwards, notOutermost]
  rw [Route.outwards, if_neg notOutermost, notAround, if_neg Bool.false_ne_true,
    List.dropLast_concat]

/-- Only the outermost folder has nothing else around it. -/
lemma outwards_eq_self_iff {folder : Route} : folder.outwards = folder ↔ folder = Route.outermost := by
  constructor
  · intro same
    by_contra other
    rw [Route.outwards, if_neg other] at same
    split at same
    · simp at same
    · next notAround =>
      have lengths := congrArg List.length same
      rw [List.length_dropLast] at lengths
      obtain rfl : folder = [] := List.length_eq_zero_iff.1 (by omega)
      exact notAround rfl
  · rintro rfl
    rfl

/-- **A file tree finds a path where its parts lead**, if it finds it at all. -/
theorem resolve_of_locateFrom {tree : FileTree} {here route : Route} {parts : List Text}
    (found : tree.locateFrom here parts = .ok route) : parts.foldl Route.enter here = route := by
  induction parts generalizing here with
  | nil => exact Except.ok.inj found
  | cons part rest ih =>
    rw [FileTree.locateFrom] at found
    rw [List.foldl_cons, Route.enter]
    split at found
    · exact nomatch found
    · exact nomatch found
    · by_cases outwards : part = ['.', '.']
      · rw [if_pos outwards] at found ⊢
        exact ih found
      · rw [if_neg outwards] at found ⊢
        split at found
        · exact nomatch found
        · exact ih found

/-! ## Relative specifiers -/

/-- The first segment of the specifier is `.` or `..`. -/
def IsRelative (specifier : Text) : Prop :=
  specifier.takeWhile (· != '/') = ['.'] ∨ specifier.takeWhile (· != '/') = ['.', '.']

instance (specifier : Text) : Decidable (IsRelative specifier) :=
  inferInstanceAs (Decidable (_ ∨ _))

/-- A first segment is the whole specifier, or a slash follows it. -/
lemma eq_of_takeWhile {specifier segment : Text} (first : specifier.takeWhile (· != '/') = segment) :
    specifier = segment ∨ ∃ rest, specifier = segment ++ '/' :: rest := by
  rcases dropWhile_ne_cases '/' specifier with ⟨-, nothing⟩ | ⟨before, rest, split, -, taken, -⟩
  · have whole := List.takeWhile_append_dropWhile (p := (· != '/')) (l := specifier)
    rw [nothing, first, List.append_nil] at whole
    exact .inl whole.symm
  · rw [first] at taken
    exact .inr ⟨rest, taken ▸ split⟩

lemma isRelative_cases {specifier : Text} (relative : IsRelative specifier) :
    (specifier = ['.'] ∨ specifier = ['.', '.']) ∨
      ∃ rest, specifier = '.' :: '/' :: rest ∨ specifier = '.' :: '.' :: '/' :: rest := by
  rcases relative with first | first
  · rcases eq_of_takeWhile first with whole | ⟨rest, split⟩
    · exact .inl (.inl whole)
    · exact .inr ⟨rest, .inl split⟩
  · rcases eq_of_takeWhile first with whole | ⟨rest, split⟩
    · exact .inl (.inr whole)
    · exact .inr ⟨rest, .inr split⟩

/-- **A rewritten specifier leads out of the child folder** and then goes on as before. -/
theorem parts_specifierFromChild {specifier : Text} (relative : IsRelative specifier)
    (slash : '/' ∈ specifier) :
    (Path.parse (specifierFromChild specifier)).parts =
      ['.', '.'] :: (Path.parse specifier).parts := by
  have here (rest : Text) : (Path.parse ('.' :: '/' :: rest)).parts = (Path.parse rest).parts := by
    simp [Path.parse, List.splitOn_cons_eq_if_modifyHead]
  have outwards (rest : Text) : (Path.parse ('.' :: '.' :: '/' :: rest)).parts =
      ['.', '.'] :: (Path.parse rest).parts := by
    simp [Path.parse, List.splitOn_cons_eq_if_modifyHead]
  rcases isRelative_cases relative with (rfl | rfl) | ⟨rest, rfl | rfl⟩
  · exact absurd slash (by decide)
  · exact absurd slash (by decide)
  · rw [specifierFromChild, here, outwards]
  · rw [specifierFromChild, outwards]

/-- A specifier that is not relative is kept. -/
lemma specifierFromChild_of_not {specifier : Text} (other : ¬ IsRelative specifier) :
    specifierFromChild specifier = specifier := by
  unfold specifierFromChild
  split
  · exact absurd (.inl (by simp)) other
  · exact absurd (.inr (by simp)) other
  · rfl

/-! ## The same place -/

section

variable {folder : Route} {name : Text} (isName : IsFolderName name)

include isName

lemma resolve_specifierFromChild {specifier : Text} (relative : IsRelative specifier)
    (slash : '/' ∈ specifier) :
    Route.resolve (folder ++ [name]) (specifierFromChild specifier) = folder.resolve specifier := by
  rw [Route.resolve, parts_specifierFromChild relative slash, List.foldl_cons, Route.enter,
    if_pos rfl, outwards_child isName]
  rfl

/-- In a file tree it is not only the place that is the same, but also what is wrong on the way. -/
lemma locateFrom_specifierFromChild {specifier : Text} (relative : IsRelative specifier)
    (slash : '/' ∈ specifier) {tree : FileTree}
    (isFolder : tree.node? (folder ++ [name]) = some .folder) :
    tree.locateFrom (folder ++ [name]) (Path.parse (specifierFromChild specifier)).parts =
      tree.locateFrom folder (Path.parse specifier).parts := by
  rw [parts_specifierFromChild relative slash, FileTree.locateFrom, isFolder]
  dsimp only
  rw [if_pos rfl, outwards_child isName]

/-- Without a slash a specifier is kept, so it leads to a place that is one folder further in. -/
lemma resolve_without_slash {specifier : Text} (relative : IsRelative specifier)
    (noSlash : '/' ∉ specifier) :
    Route.resolve (folder ++ [name]) (specifierFromChild specifier) = folder.resolve specifier ↔
      specifier = ['.', '.'] ∧ folder = Route.outermost := by
  rcases isRelative_cases relative with (rfl | rfl) | ⟨rest, rfl | rfl⟩
  · have kept : specifierFromChild ['.'] = ['.'] := rfl
    have stays (here : Route) : here.resolve ['.'] = here := rfl
    rw [kept, stays, stays]
    simp
  · have kept : specifierFromChild ['.', '.'] = ['.', '.'] := rfl
    have leaves (here : Route) : here.resolve ['.', '.'] = here.outwards := rfl
    rw [kept, leaves, leaves, outwards_child isName, eq_comm, outwards_eq_self_iff]
    simp
  · simp at noSlash
  · simp at noSlash

end

/-- **A rewritten specifier leads from the child folder to where the specifier leads from its folder**
exactly if the specifier has a slash, or leads out of the outermost folder; and a file tree finds it
there, or does not find it for the same reason.  Specifiers that are not relative are kept. -/
theorem specifierFromChild_resolves (specifier : Text) :
    (IsRelative specifier → ∀ (folder : Route) (name : Text), IsFolderName name →
      (Route.resolve (folder ++ [name]) (specifierFromChild specifier) = folder.resolve specifier ↔
        '/' ∈ specifier ∨ specifier = ['.', '.'] ∧ folder = Route.outermost) ∧
      ('/' ∈ specifier → ∀ tree : FileTree, tree.node? (folder ++ [name]) = some .folder →
        tree.locateFrom (folder ++ [name]) (Path.parse (specifierFromChild specifier)).parts =
          tree.locateFrom folder (Path.parse specifier).parts)) ∧
    (¬ IsRelative specifier → specifierFromChild specifier = specifier) := by
  refine ⟨fun relative folder name isName => ⟨?_, fun slash tree => ?_⟩, specifierFromChild_of_not⟩
  · by_cases slash : '/' ∈ specifier
    · simp only [slash, true_or, iff_true]
      exact resolve_specifierFromChild isName relative slash
    · simp only [slash, false_or]
      exact resolve_without_slash isName relative slash
  · exact locateFrom_specifierFromChild isName relative slash

/-- A specifier with an empty segment that leads above the working folder. -/
theorem specifierFromChild_resolves_above :
    specifierFromChild "..//./../m".toList = "../..//./../m".toList ∧
      Route.resolve [['p'], ['x']] "../..//./../m".toList = Route.resolve [['p']] "..//./../m".toList ∧
      Route.resolve [['p']] "..//./../m".toList = [['.', '.'], ['m']] := by
  have isName : IsFolderName ['x'] := ⟨by decide, by decide, by decide, by decide⟩
  have same := ((specifierFromChild_resolves "..//./../m".toList).1 (by decide) [['p']] ['x']
    isName).1.2 (.inl (by decide))
  exact ⟨rfl, same, by decide⟩

/-- The specifier `.` names the module of the folder itself.  It is kept, and so names one of the
child folder. -/
theorem not_resolves_dot : ¬ ∀ specifier, IsRelative specifier → ∀ (folder : Route) (name : Text),
    IsFolderName name →
      Route.resolve (folder ++ [name]) (specifierFromChild specifier) = folder.resolve specifier := by
  intro same
  have isName : IsFolderName ['x'] := ⟨by decide, by decide, by decide, by decide⟩
  exact absurd (same ['.'] (by decide) [['p']] ['x'] isName) (by decide)

end GlassPrompt
