import GlassPrompt.Text.Basic

/-!
# Module specifiers

A generated module lies one folder below the folder that the specifiers of a document are written
for, so its relative specifiers start one folder higher.

* `specifierFromChild` — how a module is named from a child folder.
-/

namespace GlassPrompt

/-- The specifier that names, from a child folder, the module that `specifier` names.  A specifier
that starts with neither `./` nor `../` is not relative, and is kept. -/
def specifierFromChild : Text → Text
  | '.' :: '/' :: rest => '.' :: '.' :: '/' :: rest
  | '.' :: '.' :: '/' :: rest => '.' :: '.' :: '/' :: '.' :: '.' :: '/' :: rest
  | specifier => specifier

end GlassPrompt
