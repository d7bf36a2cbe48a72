import GlassPrompt.Text.Basic
import Mathlib.Tactic

/-!
# The starts of lines

A search that is anchored at the starts of lines looks at what a text reads like from each of them on.

* `StartsLine` — what a text reads like from the start of one of its lines on.
* `startsLine_lastLine`, `startsLine_line` — the starts of lines, line by line.
-/

namespace GlassPrompt

/-- The rest of the text starts at the start of one of its lines. -/
def StartsLine (text rest : Text) : Prop :=
  ∃ before, text = before ++ rest ∧ (before = [] ∨ before.getLast? = some '\n')

lemma startsLine_self (text : Text) : StartsLine text text :=
  ⟨[], rfl, .inl rfl⟩

section

variable {line text more rest : Text}

/-- The lines behind a newline are lines of the whole text. -/
lemma StartsLine.behind (starts : StartsLine more rest) (front : Text) :
    StartsLine (front ++ '\n' :: more) rest := by
  obtain ⟨before, rfl, ends⟩ := starts
  refine ⟨front ++ '\n' :: before, by simp, .inr ?_⟩
  rcases ends with rfl | ends
  · exact List.getLast?_concat
  · rw [List.append_cons, List.getLast?_append, ends]
    rfl

/-- A line that does not start the text is shorter. -/
lemma StartsLine.eq_or_lt (starts : StartsLine text rest) :
    rest = text ∨ rest.length < text.length := by
  obtain ⟨before, rfl, -⟩ := starts
  cases before with
  | nil => exact .inl rfl
  | cons c more =>
    rw [List.length_append, List.length_cons]
    exact .inr (by omega)

/-- A text without newlines has one line. -/
lemma startsLine_lastLine (oneLine : '\n' ∉ text) : StartsLine text rest ↔ rest = text := by
  constructor
  · rintro ⟨before, rfl, rfl | ends⟩
    · rfl
    · exact absurd (List.mem_append_left rest (List.mem_of_getLast? ends)) oneLine
  · rintro rfl
    exact startsLine_self rest

/-- Behind its first line, the lines of a text are those of what follows. -/
lemma startsLine_line (oneLine : '\n' ∉ line) :
    StartsLine (line ++ '\n' :: more) rest ↔
      rest = line ++ '\n' :: more ∨ StartsLine more rest := by
  constructor
  · rintro ⟨before, split, first | ends⟩
    · rw [first, List.nil_append] at split
      exact .inl split.symm
    · obtain ⟨start, rfl⟩ := List.getLast?_eq_some_iff.1 ends
      rw [List.append_assoc, List.singleton_append] at split
      -- The newline before the rest is the one behind the first line, or it stands further on.
      rcases List.append_eq_append_iff.1 split with ⟨gap, rfl, behind⟩ | ⟨gap, rfl, behind⟩
      · cases gap with
        | nil =>
          obtain ⟨-, rfl⟩ := List.cons.inj behind
          exact .inr (startsLine_self _)
        | cons c gap =>
          obtain ⟨rfl, rfl⟩ := List.cons.inj behind
          exact .inr ⟨gap ++ ['\n'], by simp, .inr List.getLast?_concat⟩
      · cases gap with
        | nil =>
          obtain ⟨-, rfl⟩ := List.cons.inj behind
          exact .inr (startsLine_self _)
        | cons c gap =>
          obtain ⟨rfl, -⟩ := List.cons.inj behind
          exact absurd (List.mem_append_right start List.mem_cons_self) oneLine
  · rintro (rfl | starts)
    · exact startsLine_self _
    · exact starts.behind line

end

end GlassPrompt
