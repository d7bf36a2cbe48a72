import GlassPrompt.Text.Blank
import GlassPrompt.Text.Word

/-!
# Import clauses

An import clause says which names an import statement binds: `x`, `* as ns`, `{ a, b as c }`, or a
name and one of the others.

* `splitBraced?` — a text around its first part in braces.
* `normaliseClause` — the clause with its blanks in a standard form.
* `importedNames` — the names that the clause binds.
-/

namespace GlassPrompt

/-! ## Braces and commas -/

/-- The text before the first opening brace, the part up to the next closing brace, and what follows
that one. -/
def splitBraced? (text : Text) : Option (Text × Text × Text) :=
  match text.dropWhile (· != '\x7b') with
  | [] => none
  | _ :: opened =>
    match opened.dropWhile (· != '\x7d') with
    | [] => none
    | _ :: after =>
      some (text.takeWhile (· != '\x7b'), opened.takeWhile (· != '\x7d'), after)

theorem length_of_splitBraced? {text before inside after : Text}
    (h : splitBraced? text = some (before, inside, after)) : after.length < text.length := by
  simp only [splitBraced?] at h
  split at h
  · simp at h
  · next heq =>
    split at h
    · simp at h
    · next heq' =>
      have outer := (List.dropWhile_suffix (l := text) (· != '\x7b')).length_le
      rename_i opened _ _ _
      have inner := (List.dropWhile_suffix (l := opened) (· != '\x7d')).length_le
      simp only [Option.some.injEq, Prod.mk.injEq] at h
      obtain ⟨_, _, rfl⟩ := h
      rw [heq, List.length_cons] at outer
      rw [heq', List.length_cons] at inner
      omega

/-- The parts between commas, without blanks at their ends; empty parts are left out. -/
def commaParts (text : Text) : List Text :=
  ((text.splitOn ',').map Text.trim).filter fun part => !part.isEmpty

/-! ## The standard form -/

/-- A list of names in braces, with one blank inside each brace and after each comma. -/
def bracedNames (inside : Text) : Text :=
  "\x7b ".toList ++ [',', ' '].intercalate (commaParts inside) ++ " \x7d".toList

/-- Every part in braces is written as a list of names; the rest stays as it is. -/
def spaceBraces (text : Text) : Text :=
  match _h : splitBraced? text with
  | none => text
  | some (before, inside, after) => before ++ bracedNames inside ++ spaceBraces after
termination_by text.length
decreasing_by exact length_of_splitBraced? _h

/-- The clause with single blanks between its words and its lists of names in standard form. -/
def normaliseClause (clause : Text) : Text :=
  spaceBraces ([' '].intercalate (Text.words clause))

/-! ## Bound names -/

/-- What follows the last ` as `, where the search starts behind each one found; `piece` is what
follows the last one found so far. -/
def afterAs (piece : Text) : Text → Text
  | [] => piece
  | ' ' :: 'a' :: 's' :: ' ' :: rest => afterAs rest rest
  | _ :: rest => afterAs piece rest

/-- The name that a part of a clause binds: the one behind ` as `, or the part itself. -/
def localName (part : Text) : Text :=
  Text.trim (afterAs part part)

/-- The names that a list of names in braces binds. -/
def bracedLocals (inside : Text) : List Text :=
  ((commaParts inside).map localName).filter Text.isIdentifier

/-- The names that the parts outside braces bind; a part with a star binds a namespace. -/
def plainLocals (clause : Text) : List Text :=
  ((commaParts clause).map fun part =>
    if part.head? = some '*' then localName part else part).filter Text.isIdentifier

/-- The local names that a clause binds: those in braces first, then the others. -/
def importedNames (clause : Text) : List Text :=
  match splitBraced? clause with
  | none => plainLocals clause
  | some (before, inside, after) => bracedLocals inside ++ plainLocals (before ++ after)

end GlassPrompt
