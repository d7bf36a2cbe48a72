import GlassPrompt.Markup.Tag

/-!
# The tokens of a document

Scanning finds the tags and brace regions of a document and skips literal text.  A backslash before a
brace makes the brace literal, a comment `<!-- ... -->` is skipped, and what follows an opening code
tag is not looked at up to the next closing code tag.  A construct that is left open is reported,
and scanning goes on just behind its first character.

* `Token` — a tag, a region or a lexical error.
* `readToken` — what stands at one character, and how many more characters it takes.
* `scanFrom`, `scan` — all tokens, from a given offset on.
* `tagsOf` — the tags among them.
-/

namespace GlassPrompt

/-! ## Tokens -/

/-- What scanning finds. -/
inductive Token where
  | tag (tag : Tag)
  | region (region : Region)
  | error (error : LexicalError)
  deriving DecidableEq, Repr

namespace Token

/-- The offset of the first character. -/
def start : Token → Nat
  | .tag t => t.start
  | .region r => r.start
  | .error e => e.start

/-- The offset behind the last character. -/
def stop : Token → Nat
  | .tag t => t.stop
  | .region r => r.stop
  | .error e => e.stop

/-- The tag of a token that is one. -/
def tag? : Token → Option Tag
  | .tag t => some t
  | _ => none

end Token

/-! ## What is not looked at -/

/-- A text starts with the closing tag of `name`, blanks allowed before the `>`. -/
def startsRawEnd (name text : Text) : Bool :=
  match ('<' :: '/' :: name).isPrefixOf? text with
  | none => false
  | some rest => (Text.trimStart rest).head? == some '>'

/-- How far away the nearest closing tag of `name` is, whatever stands before it. -/
def rawEnd? (name text : Text) : Option Nat :=
  Text.offsetWhere? (startsRawEnd name) text

/-- How many characters the body of a tag has that is not scanned: the body of a code element that is
closed somewhere, and nothing otherwise. -/
def rawBodyLength (name : Text) (form : TagForm) (rest : Text) : Nat :=
  if name = Element.code.name ∧ form = .opening then (rawEnd? name rest).getD 0 else 0

/-- How far away the end of a comment is, its closing mark included. -/
def commentLength? (text : Text) : Option Nat :=
  (Text.offsetWhere? ("-->".toList.isPrefixOf ·) text).map (· + 3)

/-! ## Reading one token -/

/-- Reads a `<` at `offset`, where `rest` follows it. -/
def readAngle (offset : Nat) (rest : Text) : Option Token × Nat :=
  let stop := offset + 1 + rest.length
  match "!--".toList.isPrefixOf? rest with
  | some body =>
    match commentLength? body with
    | none => (some (.error ⟨.comment, offset, stop⟩), 3)
    | some n => (none, 3 + n)
  | none =>
    match readTag rest with
    | .inert => (none, 0)
    | .broken fault => (some (.error ⟨fault, offset, stop⟩), 0)
    | .read name attributes form after =>
      let width := rest.length - after.length
      (some (.tag ⟨name, attributes, form, offset, offset + 1 + width⟩),
        width + rawBodyLength name form after)

/-- Reads a brace at `offset`, where `rest` follows it. -/
def readBrace (offset : Nat) (rest : Text) : Option Token × Nat :=
  match braceLength? .code 0 ('\x7b' :: rest) with
  | none => (some (.error ⟨.region, offset, offset + 1 + rest.length⟩), 0)
  | some n =>
    let source := rest.take (n - 2)
    (some (.region ⟨.ofSource source, source, offset, offset + n⟩), n - 1)

/-- Reads the character `c` at `offset`, where `rest` follows it: the token that starts there, if
any, and how many characters of `rest` are to be passed over. -/
def readToken (offset : Nat) (c : Char) (rest : Text) : Option Token × Nat :=
  if c = '\\' then
    if rest.head? = some '\x7b' ∨ rest.head? = some '\x7d' then (none, 1) else (none, 0)
  else if c = '\x7b' then readBrace offset rest
  else if c = '<' then readAngle offset rest
  else (none, 0)

/-! ## Scanning -/

/-- The tokens of a text whose first character has the given offset. -/
def scanFrom (offset : Nat) : Text → List Token
  | [] => []
  | c :: rest =>
    let (token?, more) := readToken offset c rest
    token?.toList ++ scanFrom (offset + 1 + more) (rest.drop more)
termination_by text => text.length
decreasing_by
  simp only [List.length_drop, List.length_cons]
  omega

/-- The tokens of a document from offset `start` on. -/
def scan (text : Text) (start : Nat) : List Token :=
  scanFrom start (text.drop start)

/-- The tags of a document. -/
def tagsOf (text : Text) : List Tag :=
  (scan text 0).filterMap Token.tag?

end GlassPrompt
