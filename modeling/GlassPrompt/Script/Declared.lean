import GlassPrompt.Text.Blank
import GlassPrompt.Text.Word

/-!
# Names that a piece of code declares

* `readDeclaredAt?` — the name declared at the start of a line.
* `declaredNames` — all names declared at the starts of lines.
-/

namespace GlassPrompt

/-- What follows a word and at least one blank. -/
def skipWord? (word text : Text) : Option Text :=
  match word.isPrefixOf? text with
  | none => none
  | some rest => if rest.head?.any isBlank then some (Text.trimStart rest) else none

/-- The words that declare a name, `async` apart. -/
def declaringWords : List Text :=
  ["const".toList, "let".toList, "var".toList, "class".toList, "function".toList]

/-- What follows the word that declares a name. -/
def skipDeclaringWord? (text : Text) : Option Text :=
  (declaringWords.findSome? (skipWord? · text)).or
    ((skipWord? "async".toList text).bind (skipWord? "function".toList))

/-- The name declared at the start of a line, indented and exported or not, and what follows it. -/
def readDeclaredAt? (line : Text) : Option (Text × Text) :=
  let text := line.dropWhile isIndent
  (skipDeclaringWord? ((skipWord? "export".toList text).getD text)).bind Text.readIdentifier?

/-- What follows the first newline. -/
def nextLine? (text : Text) : Option Text :=
  match text.dropWhile (· != '\n') with
  | [] => none
  | _ :: rest => some rest

theorem length_of_nextLine? {text rest : Text} (h : nextLine? text = some rest) :
    rest.length < text.length := by
  have drop := (List.dropWhile_suffix (l := text) (· != '\n')).length_le
  simp only [nextLine?] at h
  split at h
  · simp at h
  · next heq =>
    obtain rfl := Option.some.inj h
    rw [heq, List.length_cons] at drop
    omega

theorem length_skipWord?_le {word text rest : Text} (h : skipWord? word text = some rest) :
    rest.length ≤ text.length := by
  simp only [skipWord?] at h
  split at h
  · simp at h
  · next tail heq =>
    split at h
    · obtain rfl := Option.some.inj h
      rw [← Text.isPrefixOf?_eq_some_iff.1 heq, List.length_append]
      have := Text.length_trimStart_le tail
      omega
    · simp at h

theorem length_skipDeclaringWord?_le {text rest : Text} (h : skipDeclaringWord? text = some rest) :
    rest.length ≤ text.length := by
  simp only [skipDeclaringWord?, Option.or_eq_some_iff] at h
  rcases h with h | ⟨_, h⟩
  · obtain ⟨_, _, h⟩ := List.exists_of_findSome?_eq_some h
    exact length_skipWord?_le h
  · obtain ⟨_, h, h'⟩ := Option.bind_eq_some_iff.1 h
    exact Nat.le_trans (length_skipWord?_le h') (length_skipWord?_le h)

theorem length_of_readDeclaredAt? {line name rest : Text}
    (h : readDeclaredAt? line = some (name, rest)) : rest.length ≤ line.length := by
  have drop := (List.dropWhile_suffix (l := line) isIndent).length_le
  simp only [readDeclaredAt?] at h
  obtain ⟨text, hword, hname⟩ := Option.bind_eq_some_iff.1 h
  have := Text.length_of_readIdentifier? hname
  have := length_skipDeclaringWord?_le hword
  cases hexport : skipWord? "export".toList (line.dropWhile isIndent) with
  | none => simp only [hexport, Option.getD_none] at this; omega
  | some exported =>
    have := length_skipWord?_le hexport
    simp only [hexport, Option.getD_some] at *
    omega

/-- The names declared at the starts of lines, in order; a name may be on a later line than the word
that declares it. -/
def declaredNames (code : Text) : List Text :=
  match _h : readDeclaredAt? code with
  | some (name, rest) =>
    match _h' : nextLine? rest with
    | none => [name]
    | some lines => name :: declaredNames lines
  | none =>
    match _h' : nextLine? code with
    | none => []
    | some lines => declaredNames lines
termination_by code.length
decreasing_by
  · have := length_of_readDeclaredAt? _h
    have := length_of_nextLine? _h'
    omega
  · exact length_of_nextLine? _h'

end GlassPrompt
