import GlassPrompt.Text.Basic
import GlassPrompt.Text.CaseRanges
import GlassPrompt.Text.CodeRange

/-!
# Texts in lower case

Every character has its own small form, and two of them are special.  The small form of `İ` is `i` with
a dot above it, and `Σ` becomes `ς` at the end of a word and `σ` elsewhere.

* `smallForm` — the small form of a character on its own.
* `isCased`, `isCaseIgnorable` — what tells the end of a word.
* `Text.lower` — the text in lower case.
-/

namespace GlassPrompt

/-- The character is in the run. -/
def CaseRun.contains (run : CaseRun) (c : Char) : Bool :=
  run.first ≤ c.toNat && c.toNat ≤ run.last && (c.toNat - run.first) % run.step == 0

/-- The small form of a character on its own. -/
def smallForm (c : Char) : Text :=
  if c.toNat < 0x80 then [c.toLower]
  else if c = 'İ' then ['i', '\u0307']
  else match lowerRuns.find? (·.contains c) with
    | some run => [Char.ofNat (c.toNat + run.shift).toNat]
    | none => [c]

/-- Letters that have case. -/
def isCased (c : Char) : Bool :=
  inRanges casedRanges c

/-- Characters that may stand inside a word without being part of it. -/
def isCaseIgnorable (c : Char) : Bool :=
  inRanges caseIgnorableRanges c

namespace Text

/-- A letter with case comes first, behind ignorable characters at most. -/
def startsCased (text : Text) : Bool :=
  ((text.dropWhile isCaseIgnorable).head?.map isCased).getD false

/-- The text in lower case, where `inWord` tells whether a letter with case stands before it, behind it
ignorable characters at most. -/
def lowerFrom (inWord : Bool) : Text → Text
  | [] => []
  | c :: rest =>
    (if c = 'Σ' then [if inWord && !startsCased rest then 'ς' else 'σ'] else smallForm c) ++
      lowerFrom (if isCaseIgnorable c then inWord else isCased c) rest

/-- The text in lower case. -/
def lower (text : Text) : Text :=
  lowerFrom false text

@[simp] theorem lower_nil : lower [] = [] :=
  rfl

end Text

end GlassPrompt
