import GlassPrompt.Text.Basic

/-!
# Paths

A path is a root, empty for a relative path, and the parts between its slashes.  Empty parts and parts
`.` are left out.

* `Path.parse`, `Path.text` — a path from its written form, and back.
* `Path.parent`, `Path.name`, `Path.stem`, `Path.append` — the parts of a path.
-/

namespace GlassPrompt

/-- A path: the slashes that it starts from, and its parts. -/
structure Path where
  root : Text
  parts : List Text
  deriving DecidableEq, Repr

namespace Path

/-- The root of a written path: exactly two slashes at its start are kept, more are one. -/
def rootOf : Text → Text
  | '/' :: '/' :: '/' :: _ => ['/']
  | '/' :: '/' :: _ => ['/', '/']
  | '/' :: _ => ['/']
  | _ => []

/-- The path of a written form. -/
def parse (text : Text) : Path where
  root := rootOf text
  parts := (text.splitOn '/').filter fun part => !part.isEmpty && part != ['.']

/-- The written form of a path. -/
def text (path : Path) : Text :=
  if path.root.isEmpty && path.parts.isEmpty then ['.']
  else path.root ++ ['/'].intercalate path.parts

/-- The path without its last part. -/
def parent (path : Path) : Path :=
  { path with parts := path.parts.dropLast }

/-- The last part. -/
def name (path : Path) : Text :=
  path.parts.getLast?.getD []

/-- The path ends in the name of what it leads to. -/
def endsInName (path : Path) : Bool :=
  path.parts.getLast?.any (· != ['.', '.'])

/-- The path with further parts. -/
def append (path : Path) (parts : List Text) : Path :=
  { path with parts := path.parts ++ parts }

/-- A name without its ending: what stands before its last dot, if neither end of the name is there. -/
def stemOf (name : Text) : Text :=
  let ending := (name.reverse.takeWhile (· != '.')).length
  let before := name.take (name.length - ending - 1)
  if ending = 0 ∨ before.isEmpty ∨ ending = name.length then name else before

/-- The last part without its ending. -/
def stem (path : Path) : Text :=
  stemOf path.name

end Path

end GlassPrompt
