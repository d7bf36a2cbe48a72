import GlassPrompt.Proofs.Text.Lines
import GlassPrompt.Workspace.Path

/-!
# Written paths

There are many ways to write a path, but only one in which it is written itself.  Reading that gives
the path back.

* `Path.IsRead` — a path as it comes out of reading, with `Path.isRead_parse`.
* `Path.parse_text` — reading a written path.
-/

namespace GlassPrompt

namespace Path

/-- A path as it comes out of reading: it has no parts that are left out. -/
structure IsRead (path : Path) : Prop where
  root : path.root = [] ∨ path.root = ['/'] ∨ path.root = ['/', '/']
  parts : ∀ part ∈ path.parts, part ≠ [] ∧ part ≠ ['.'] ∧ '/' ∉ part

lemma rootOf_cases (text : Text) :
    rootOf text = [] ∨ rootOf text = ['/'] ∨ rootOf text = ['/', '/'] := by
  unfold rootOf
  split <;> simp

theorem isRead_parse (text : Text) : (parse text).IsRead := by
  refine ⟨rootOf_cases text, fun part member => ?_⟩
  obtain ⟨piece, kept⟩ := List.mem_filter.1 member
  rw [List.splitOn_eq_splitOnP] at piece
  have noSlash : '/' ∉ part := fun slash => by
    simpa using (mem_of_mem_splitOnP piece '/' slash).2
  simp only [Bool.and_eq_true, Bool.not_eq_true', List.isEmpty_eq_false_iff, bne_iff_ne] at kept
  exact ⟨kept.1, kept.2, noSlash⟩

lemma parse_slash (rest : Text) : (parse ('/' :: rest)).parts = (parse rest).parts := by
  rw [parse, List.splitOn_cons_eq_if_modifyHead]
  simp [parse]

section

variable {parts : List Text} (read : ∀ part ∈ parts, part ≠ [] ∧ part ≠ ['.'] ∧ '/' ∉ part)
include read

lemma parse_intercalate : (parse (['/'].intercalate parts)).parts = parts := by
  by_cases nothing : parts = []
  · rw [nothing]
    rfl
  rw [parse]
  dsimp only
  rw [List.splitOn_intercalate '/' (fun part member => (read part member).2.2) nothing]
  refine List.filter_eq_self.2 fun part member => ?_
  obtain ⟨filled, notHere, -⟩ := read part member
  simp [filled, notHere]

lemma head?_intercalate : (['/'].intercalate parts).head? ≠ some '/' := by
  cases parts with
  | nil => simp
  | cons first rest =>
    obtain ⟨filled, -, noSlash⟩ := read first List.mem_cons_self
    obtain ⟨c, more, rfl⟩ := List.exists_cons_of_ne_nil filled
    have other : c ≠ '/' := fun slash => noSlash (slash ▸ List.mem_cons_self)
    cases rest with
    | nil => simpa using other
    | cons second rest => simpa [List.intercalate_cons_cons] using other

end

lemma rootOf_append {root names : Text} (isRoot : root = [] ∨ root = ['/'] ∨ root = ['/', '/'])
    (relative : names.head? ≠ some '/') : rootOf (root ++ names) = root := by
  cases names with
  | nil => rcases isRoot with rfl | rfl | rfl <;> rfl
  | cons c rest =>
    have other : c ≠ '/' := fun slash => relative (congrArg some slash)
    rcases isRoot with rfl | rfl | rfl <;> simp [rootOf, other]

/-- **A written path stands for the path.** -/
theorem parse_text {path : Path} (h : path.IsRead) : parse path.text = path := by
  obtain ⟨root, parts⟩ := path
  by_cases nothing : root = [] ∧ parts = []
  · obtain ⟨rfl, rfl⟩ := nothing
    rfl
  have text : Path.text ⟨root, parts⟩ = root ++ ['/'].intercalate parts := by
    simp only [Path.text, Bool.and_eq_true, List.isEmpty_iff, nothing, if_false]
  have rootEq : (parse (root ++ ['/'].intercalate parts)).root = root :=
    rootOf_append h.root (head?_intercalate h.parts)
  have partsEq : (parse (root ++ ['/'].intercalate parts)).parts =
      (parse (['/'].intercalate parts)).parts := by
    rcases h.root with rfl | rfl | rfl
    · rfl
    · exact parse_slash _
    · exact (parse_slash _).trans (parse_slash _)
  rw [text]
  calc parse (root ++ ['/'].intercalate parts)
      = ⟨(parse (root ++ ['/'].intercalate parts)).root,
          (parse (root ++ ['/'].intercalate parts)).parts⟩ := rfl
    _ = ⟨root, parts⟩ := by rw [rootEq, partsEq, parse_intercalate h.parts]

/-- No path is written as nothing. -/
lemma isEmpty_text {path : Path} (h : path.IsRead) : path.text.isEmpty = false := by
  refine List.isEmpty_eq_false_iff.2 fun nothing => ?_
  have same := parse_text h
  rw [nothing] at same
  rw [← same] at nothing
  exact absurd nothing (by decide)

end Path

end GlassPrompt
