import GlassPrompt.Text.Basic

/-!
# The elements of a prompt

A prompt is marked up with six elements: three chat roles, loops, request settings and embedded code.
A tag of any other name is literal text.

* `Role`, `Element` — the vocabulary, with `Element.name` its written names.
* `Element.ofName?` — the element of a written name; it inverts `Element.name`
  (`ofName?_eq_some_iff`).
* `Element.nestsInItself` — whether an element may be open inside itself.
-/

namespace GlassPrompt

/-- Who speaks a part of a chat prompt. -/
inductive Role where
  | system
  | user
  | assistant
  deriving DecidableEq, Repr

/-- The elements that have a meaning. -/
inductive Element where
  | role (role : Role)
  | loop
  | request
  | code
  deriving DecidableEq, Repr

/-- The written name of a role. -/
def Role.name : Role → Text
  | .system => "System".toList
  | .user => "User".toList
  | .assistant => "Assistant".toList

namespace Element

/-- The written name of an element. -/
def name : Element → Text
  | .role r => r.name
  | .loop => "For".toList
  | .request => "Request".toList
  | .code => "Code".toList

/-- Every element once. -/
def all : List Element :=
  [.role .system, .role .user, .role .assistant, .loop, .request, .code]

/-- The element of a written name; names are compared with their case. -/
def ofName? (name : Text) : Option Element :=
  all.find? fun element => element.name == name

/-- Only a loop may be open inside itself.  Another element that is opened again while it is open
reads as a mistyped closing tag. -/
def nestsInItself : Element → Bool
  | .loop => true
  | _ => false

theorem mem_all (element : Element) : element ∈ all := by
  cases element with
  | role r => cases r <;> decide
  | _ => decide

theorem name_injective {a b : Element} (h : a.name = b.name) : a = b := by
  have key : ∀ a ∈ all, ∀ b ∈ all, a.name = b.name → a = b := by decide
  exact key a (mem_all a) b (mem_all b) h

theorem ofName?_eq_some_iff {name : Text} {element : Element} :
    ofName? name = some element ↔ element.name = name := by
  constructor
  · intro h
    simpa using List.find?_some h
  · rintro rfl
    unfold ofName?
    cases h : all.find? fun e => e.name == element.name with
    | none => simpa using List.find?_eq_none.1 h element (mem_all element)
    | some e => exact congrArg some (name_injective (by simpa using List.find?_some h))

end Element

end GlassPrompt
