import GlassPrompt.Markup.Element
import GlassPrompt.Markup.LexicalError
import GlassPrompt.Markup.Region

/-!
# Tags and their attributes

A tag is `<Name ...>`, `</Name>` or `<Name ... />`.  An attribute is a name alone, or a name with a
quoted text, an expression in braces or a bare word.

* `Tag` — a tag of a document, with `Tag.element?` its meaning.
* `Attributes.set` — attributes keep the order of their first writing and the value of their last.
* `readAttribute` — one attribute at the head of a text.
* `readTag` — what follows a `<`: a tag, an open construct, or nothing at all.
-/

namespace GlassPrompt

/-! ## Attributes -/

/-- An attribute holds a text, or is only there. -/
inductive AttributeValue where
  | flag
  | text (value : Text)
  deriving DecidableEq, Repr

/-- The text of a value that is one. -/
def AttributeValue.text? : AttributeValue → Option Text
  | .flag => none
  | .text value => some value

/-- The attributes of a tag in the order of their first writing, each name once. -/
abbrev Attributes := List (Text × AttributeValue)

namespace Attributes

/-- A name that is there keeps its place and takes the new value; another one is added at the end. -/
def set (name : Text) (value : AttributeValue) : Attributes → Attributes
  | [] => [(name, value)]
  | (other, old) :: rest =>
    if other = name then (other, value) :: rest else (other, old) :: set name value rest

/-- The value of a name. -/
def get? (attributes : Attributes) (name : Text) : Option AttributeValue :=
  attributes.lookup name

/-- The text of a name, if it is there and is not a mere flag. -/
def text? (attributes : Attributes) (name : Text) : Option Text :=
  (attributes.get? name).bind AttributeValue.text?

end Attributes

/-! ## Tags -/

/-- How a tag is written. -/
inductive TagForm where
  | opening
  | closing
  | selfClosing
  deriving DecidableEq, Repr

/-- A tag of a document, from offset `start` up to `stop`. -/
structure Tag where
  name : Text
  attributes : Attributes
  form : TagForm
  start : Nat
  stop : Nat
  deriving DecidableEq, Repr

namespace Tag

/-- The element that the tag belongs to, if its name is one of the vocabulary. -/
def element? (tag : Tag) : Option Element :=
  Element.ofName? tag.name

/-- The name of the tag is one of the vocabulary. -/
def isSupported (tag : Tag) : Bool :=
  tag.element?.isSome

/-- The mark at the start of a tag: `<`, or `</` for a closing tag. -/
def mark (tag : Tag) : Text :=
  if tag.form = .closing then ['<', '/'] else ['<']

end Tag

/-! ## Reading one attribute -/

/-- The characters that a tag name goes on with after its first letter. -/
def isTagNameRest (c : Char) : Bool :=
  isWord c || c == '.' || c == ':' || c == '-'

/-- The characters that an attribute name goes on with. -/
def isAttributeNameRest (c : Char) : Bool :=
  isTagNameRest c || c == '$'

/-- The bare word at the head of a text: it ends before a blank, a `>` or a `/>`. -/
def takeBareValue : Text → Text
  | [] => []
  | '/' :: '>' :: _ => []
  | c :: rest => if isBlank c || c == '>' then [] else c :: takeBareValue rest

/-- What stands at a place where an attribute may stand. -/
inductive AttributeReading where
  /-- No attribute. -/
  | absent
  /-- An attribute that the document leaves open. -/
  | broken (fault : LexicalFault)
  /-- An attribute, and what follows it. -/
  | read (name : Text) (value : AttributeValue) (rest : Text)
  deriving DecidableEq, Repr

/-- Reads the value after an equals sign, for an attribute of the tag `tag`. -/
def readAttributeValue (tag name : Text) : Text → AttributeReading
  | [] => .broken (.tag tag)
  | c :: rest =>
    if c = '\'' ∨ c = '"' then
      if rest.contains c then
        .read name (.text (rest.takeWhile (· != c))) ((rest.dropWhile (· != c)).drop 1)
      else .broken (.attributeValue tag)
    else if c = '\x7b' then
      match braceLength? .code 0 (c :: rest) with
      | none => .broken (.attributeExpression tag)
      | some n => .read name (.text (Text.trim (rest.take (n - 2)))) (rest.drop (n - 1))
    else
      let value := takeBareValue (c :: rest)
      .read name (.text value) ((c :: rest).drop value.length)

/-- Reads one attribute of the tag `tag` at the head of a text. -/
def readAttribute (tag : Text) : Text → AttributeReading
  | [] => .absent
  | c :: rest =>
    if isNameStart c then
      let name := c :: rest.takeWhile isAttributeNameRest
      match Text.trimStart (rest.dropWhile isAttributeNameRest) with
      | '=' :: after => readAttributeValue tag name (Text.trimStart after)
      | other => .read name .flag other
    else .absent

theorem length_of_readAttributeValue {tag name text key : Text} {value : AttributeValue}
    {rest : Text} (h : readAttributeValue tag name text = .read key value rest) :
    rest.length ≤ text.length := by
  cases text with
  | nil => simp [readAttributeValue] at h
  | cons c cs =>
    simp only [readAttributeValue] at h
    repeat' split at h
    all_goals simp only [AttributeReading.read.injEq, reduceCtorEq] at h
    all_goals obtain ⟨_, _, rfl⟩ := h
    · have := (List.dropWhile_suffix (l := cs) (· != c)).length_le
      simp only [List.length_drop, List.length_cons]
      omega
    · simp only [List.length_drop, List.length_cons]
      omega
    · simp

theorem length_of_readAttribute {tag text key : Text} {value : AttributeValue} {rest : Text}
    (h : readAttribute tag text = .read key value rest) : rest.length < text.length := by
  cases text with
  | nil => simp [readAttribute] at h
  | cons c cs =>
    have drop := (List.dropWhile_suffix (l := cs) isAttributeNameRest).length_le
    have trim := Text.length_trimStart_le (cs.dropWhile isAttributeNameRest)
    simp only [readAttribute] at h
    split at h
    · split at h
      · next after heq =>
        have value := length_of_readAttributeValue h
        have after_le := Text.length_trimStart_le after
        simp only [heq, List.length_cons] at trim ⊢
        omega
      · simp only [AttributeReading.read.injEq] at h
        obtain ⟨_, _, rfl⟩ := h
        simp only [List.length_cons]
        omega
    · simp at h

/-! ## Reading a tag -/

/-- What follows a `<`. -/
inductive TagReading where
  /-- No tag: the `<` is literal text. -/
  | inert
  /-- A tag that the document leaves open. -/
  | broken (fault : LexicalFault)
  /-- A tag, and what follows it. -/
  | read (name : Text) (attributes : Attributes) (form : TagForm) (rest : Text)
  deriving DecidableEq, Repr

/-- Reads the attributes and the end of an opening or self-closing tag. -/
def readAttributes (name : Text) (attributes : Attributes) (text : Text) : TagReading :=
  match Text.trimStart text with
  | [] => .broken (.tag name)
  | '>' :: rest => .read name attributes .opening rest
  | '/' :: '>' :: rest => .read name attributes .selfClosing rest
  | _ =>
    match _h : readAttribute name (Text.trimStart text) with
    | .absent => .inert
    | .broken fault => .broken fault
    | .read key value rest => readAttributes name (attributes.set key value) rest
termination_by text.length
decreasing_by
  exact Nat.lt_of_lt_of_le (length_of_readAttribute _h) (Text.length_trimStart_le text)

/-- Reads the end of a closing tag; it has no attributes. -/
def readClosing (name text : Text) : TagReading :=
  match Text.trimStart text with
  | [] => .broken (.tag name)
  | '>' :: rest => .read name [] .closing rest
  | _ => .inert

/-- Reads a tag name and hands on what follows it. -/
def readTagName (reader : Text → Text → TagReading) : Text → TagReading
  | [] => .inert
  | c :: rest =>
    if c.isAlpha then
      reader (c :: rest.takeWhile isTagNameRest) (rest.dropWhile isTagNameRest)
    else .inert

/-- Reads what follows a `<`. -/
def readTag : Text → TagReading
  | '/' :: rest => readTagName readClosing rest
  | text => readTagName (fun name => readAttributes name []) text

end GlassPrompt
