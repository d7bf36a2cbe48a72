/-!
# Ranges of code points

Classes of characters that no short rule describes are given by tables of ranges.

* `inRanges` — a character is in one of the ranges of a table.
-/

namespace GlassPrompt

/-- The code point of the character is in one of the inclusive ranges. -/
def inRanges (ranges : List (Nat × Nat)) (c : Char) : Bool :=
  ranges.any fun (low, high) => low ≤ c.toNat && c.toNat ≤ high

theorem inRanges_iff {ranges : List (Nat × Nat)} {c : Char} :
    inRanges ranges c ↔ ∃ range ∈ ranges, range.1 ≤ c.toNat ∧ c.toNat ≤ range.2 := by
  simp [inRanges]

end GlassPrompt
