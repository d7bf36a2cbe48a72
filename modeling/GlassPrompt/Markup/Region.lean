import GlassPrompt.Text.Blank
import GlassPrompt.Text.Word

/-!
# Brace regions

A brace region is a piece of script between braces.  The closing brace is found by reading the
script one character at a time: braces count only outside string literals and comments.

* `ScriptMode` — where in a script a character stands, and `ScriptMode.next` the step over one.
* `braceLength?` — how many characters a text has up to the brace that brings the depth to zero.
* `RegionKind.ofSource` — whether the inside of a region is an expression or a list of statements.
* `Region` — a region of a document.
-/

namespace GlassPrompt

/-! ## Finding the closing brace -/

/-- The characters that delimit string literals. -/
def isQuote (c : Char) : Bool :=
  c == '\'' || c == '"' || c == '`'

/-- Where in a script a character stands. -/
inductive ScriptMode where
  /-- Outside string literals and comments. -/
  | code
  /-- Inside a string literal that ends at `quote`. -/
  | quoted (quote : Char)
  /-- Just after a backslash inside a string literal. -/
  | escaped (quote : Char)
  /-- On the second character of `//` or, for a block comment, of `/*`. -/
  | commentStart (block : Bool)
  /-- Inside a comment. -/
  | comment (block : Bool)
  /-- On the second character of `*/`. -/
  | commentEnd
  deriving DecidableEq, Repr

namespace ScriptMode

/-- The mode after the character `c`, where `ahead` is the character that follows it. -/
def next (mode : ScriptMode) (c : Char) (ahead : Option Char) : ScriptMode :=
  match mode with
  | .code =>
    if isQuote c then .quoted c
    else if c = '/' ∧ ahead = some '/' then .commentStart false
    else if c = '/' ∧ ahead = some '*' then .commentStart true
    else .code
  | .quoted quote => if c = '\\' then .escaped quote else if c = quote then .code else .quoted quote
  | .escaped quote => .quoted quote
  | .commentStart block => .comment block
  | .comment false => if c = '\n' then .code else .comment false
  | .comment true => if c = '*' ∧ ahead = some '/' then .commentEnd else .comment true
  | .commentEnd => .code

/-- The brace depth after the character `c`; only braces in code count. -/
def depthAfter (mode : ScriptMode) (depth : Int) (c : Char) : Int :=
  match mode with
  | .code => if c = '{' then depth + 1 else if c = '}' then depth - 1 else depth
  | _ => depth

end ScriptMode

/-- The number of characters up to and including the first closing brace in code at which the depth
gets to zero. -/
def braceLength? (mode : ScriptMode) (depth : Int) : Text → Option Nat
  | [] => none
  | c :: rest =>
    let depth' := mode.depthAfter depth c
    if mode = .code ∧ c = '}' ∧ depth' = 0 then some 1
    else (braceLength? (mode.next c rest.head?) depth' rest).map (· + 1)

theorem braceLength?_le {mode : ScriptMode} {depth : Int} {text : Text} {n : Nat}
    (h : braceLength? mode depth text = some n) : n ≤ text.length := by
  induction text generalizing mode depth n with
  | nil => simp [braceLength?] at h
  | cons c rest ih =>
    simp only [braceLength?] at h
    split at h
    · simp at h; simp [← h]
    · obtain ⟨m, hm, rfl⟩ := Option.map_eq_some_iff.1 h
      simpa using ih hm

theorem braceLength?_pos {mode : ScriptMode} {depth : Int} {text : Text} {n : Nat}
    (h : braceLength? mode depth text = some n) : 0 < n := by
  cases text with
  | nil => simp [braceLength?] at h
  | cons c rest =>
    simp only [braceLength?] at h
    split at h
    · simp at h; omega
    · obtain ⟨m, _, rfl⟩ := Option.map_eq_some_iff.1 h
      omega

/-- The characters counted end in the closing brace. -/
theorem take_of_braceLength? {mode : ScriptMode} {depth : Int} {text : Text} {n : Nat}
    (h : braceLength? mode depth text = some n) : ∃ inside, text.take n = inside ++ ['\x7d'] := by
  induction text generalizing mode depth n with
  | nil => simp [braceLength?] at h
  | cons c rest ih =>
    simp only [braceLength?] at h
    split at h
    · next closes =>
      obtain rfl : 1 = n := Option.some.inj h
      exact ⟨[], by simp [closes.2.1]⟩
    · obtain ⟨m, hm, rfl⟩ := Option.map_eq_some_iff.1 h
      obtain ⟨inside, eq⟩ := ih hm
      exact ⟨c :: inside, by simp [eq]⟩

/-- A region is an opening brace, its inside and a closing brace. -/
theorem append_of_braceLength? {rest : Text} {n : Nat}
    (h : braceLength? .code 0 ('\x7b' :: rest) = some n) :
    2 ≤ n ∧ '\x7b' :: rest = ('\x7b' :: rest.take (n - 2) ++ ['\x7d']) ++ rest.drop (n - 1) := by
  simp only [braceLength?] at h
  split at h
  · next closes => exact absurd closes.2.1 (by decide)
  · obtain ⟨m, hm, rfl⟩ := Option.map_eq_some_iff.1 h
    have pos := braceLength?_pos hm
    have le := braceLength?_le hm
    obtain ⟨inside, eq⟩ := take_of_braceLength? hm
    have length : inside.length = m - 1 := by
      have := congrArg List.length eq
      simp only [List.length_take, List.length_append, List.length_singleton] at this
      omega
    have prior : rest.take (m - 1) = inside := by
      have := congrArg (List.take (m - 1)) eq
      rwa [List.take_take, Nat.min_eq_left (Nat.sub_le m 1), ← length, List.take_left, length] at this
    refine ⟨by omega, ?_⟩
    rw [show m + 1 - 2 = m - 1 from rfl, prior, Nat.add_sub_cancel, List.cons_append, ← eq,
      List.cons_append, List.take_append_drop]

/-! ## Expressions and statements -/

/-- What the inside of a region is. -/
inductive RegionKind where
  /-- An expression. -/
  | interpolation
  /-- A list of statements. -/
  | code
  deriving DecidableEq, Repr

/-- The words that start a statement which is no expression. -/
def statementWords : List Text :=
  ["function".toList, "const".toList, "let".toList, "var".toList, "for".toList, "while".toList,
    "if".toList, "return".toList, "class".toList, "do".toList, "switch".toList, "try".toList]

/-- The first word of a script is one that starts a statement, or `async` before `function`. -/
def startsStatement (source : Text) : Bool :=
  let script := Text.trimStart source
  let word := script.takeWhile isWord
  let rest := script.dropWhile isWord
  statementWords.contains word ||
    (word == "async".toList && rest.head?.any isBlank &&
      (Text.trimStart rest).takeWhile isWord == "function".toList)

/-- A text starts with the word `function`, or with `for` or `while` and a parenthesis. -/
def startsBlockWord (text : Text) : Bool :=
  let word := text.takeWhile isWord
  word == "function".toList ||
    ((word == "for".toList || word == "while".toList) &&
      (Text.trimStart (text.dropWhile isWord)).head? == some '(')

/-- A text starts with an arrow and a brace. -/
def startsArrowBody : Text → Bool
  | '=' :: '>' :: rest => (Text.trimStart rest).head? == some '\x7b'
  | _ => false

/-- Somewhere in a script a function, a loop or the block of an arrow function starts; `inWord` tells
whether a word character comes just before the script. -/
def hasBlock (inWord : Bool) : Text → Bool
  | [] => false
  | c :: rest =>
    (!inWord && startsBlockWord (c :: rest)) || startsArrowBody (c :: rest) ||
      hasBlock (isWord c) rest

/-- A region is code if it starts a statement, or if it has several lines and a block in it. -/
def RegionKind.ofSource (source : Text) : RegionKind :=
  if startsStatement source then .code
  else if (Text.trim source).contains '\n' && hasBlock false source then .code
  else .interpolation

/-- A brace region of a document: `source` is what stands between its outer braces. -/
structure Region where
  kind : RegionKind
  source : Text
  start : Nat
  stop : Nat
  deriving DecidableEq, Repr

end GlassPrompt
