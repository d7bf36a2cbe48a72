import GlassPrompt.Text.Basic

/-!
# Segments of a written line

What is written to the console may hold style tags in square brackets: `[red]` starts a style and
`[/red]` ends it.  A backslash before a style tag makes it literal, two backslashes stand for one.

* `readStyleTag?` — a style tag at the head of a text.
* `Segment`, `segments` — a written line taken apart.
-/

namespace GlassPrompt

/-- The characters that a style tag starts with. -/
def isStyleStart (c : Char) : Bool :=
  c.isLower || c == '#' || c == '/' || c == '@'

/-- The inside of the style tag at the head of a text, and what follows the tag. -/
def readStyleTag? : Text → Option (Text × Text)
  | '[' :: c :: rest =>
    if isStyleStart c then
      match rest.dropWhile fun c => c != '[' && c != ']' with
      | ']' :: after => some (c :: rest.takeWhile (fun c => c != '[' && c != ']'), after)
      | _ => none
    else none
  | _ => none

theorem length_of_readStyleTag? {text style rest : Text}
    (h : readStyleTag? text = some (style, rest)) : rest.length < text.length := by
  unfold readStyleTag? at h
  split at h
  · split at h
    · next c tail _ =>
      have drop := (List.dropWhile_suffix (l := tail) fun c => c != '[' && c != ']').length_le
      split at h
      · next heq =>
        obtain ⟨_, rfl⟩ := Prod.mk.inj (Option.some.inj h)
        rw [heq, List.length_cons] at drop
        simp only [List.length_cons]
        omega
      · simp at h
    · simp at h
  · simp at h

/-- A part of a written line. -/
inductive Segment where
  | plain (text : Text)
  | style (tag : Text)
  deriving DecidableEq, Repr

/-- The segments of backslashes before a style tag and of the tag: every two backslashes are one, and
one that is left over makes the tag literal. -/
def escapedSegments (slashes : Nat) (style : Text) : List Segment :=
  (if slashes < 2 then [] else [.plain (List.replicate (slashes / 2) '\\')]) ++
    [if slashes % 2 = 0 then .style style else .plain ('[' :: style ++ [']'])]

/-- The segments of a written line, where `plain` stands before it. -/
def segmentsFrom (plain : Text) : Text → List Segment
  | [] => if plain.isEmpty then [] else [.plain plain]
  | c :: rest =>
    let slashes := (c :: rest).takeWhile (· == '\\')
    match _h : readStyleTag? ((c :: rest).dropWhile (· == '\\')) with
    | some (style, after) =>
      (if plain.isEmpty then [] else [.plain plain]) ++ escapedSegments slashes.length style ++
        segmentsFrom [] after
    | none => segmentsFrom (plain ++ c :: slashes.drop 1) (rest.drop (slashes.length - 1))
termination_by text => text.length
decreasing_by
  · have := length_of_readStyleTag? _h
    have := (List.dropWhile_suffix (l := c :: rest) (· == '\\')).length_le
    omega
  · simp only [List.length_drop, List.length_cons]
    omega

/-- The segments of a written line. -/
def segments (line : Text) : List Segment :=
  segmentsFrom [] line

end GlassPrompt
