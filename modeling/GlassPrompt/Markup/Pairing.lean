import GlassPrompt.Markup.Tag

/-!
# Pairing opening and closing tags

A closing tag belongs to the innermost open tag of its name, and leaves every tag opened after that
one without a partner.  Tags outside the vocabulary are literal text, so they are paired among
themselves and never come between the others.

* `TagPair`, `Pairing` — the pairs, and the tags without a partner.
* `splitAtOpening?` — the stack of open tags taken apart at the innermost tag of a name
  (`splitAtOpening?_eq_some_iff`).
* `reportable` — of the tags left open, those that are worth a report.
* `PairingState`, `PairingState.step` — pairing one tag at a time; there is one lemma for each thing
  that a step can do.
* `Pairing.ofTags` — the pairing of all tags, in document order.
-/

namespace GlassPrompt

/-! ## Pairs and open tags -/

/-- An opening tag with its closing tag. -/
structure TagPair where
  opening : Tag
  closing : Tag
  deriving DecidableEq, Repr

/-- The outcome of pairing. -/
structure Pairing where
  pairs : List TagPair
  unmatched : List Tag
  deriving DecidableEq, Repr

/-- The open tags, innermost first, taken apart at the innermost one of the given name: the tags
opened after it, the tag itself and the tags opened before it. -/
def splitAtOpening? (name : Text) : List Tag → Option (List Tag × Tag × List Tag)
  | [] => none
  | tag :: outer =>
    if tag.name = name then some ([], tag, outer)
    else (splitAtOpening? name outer).map fun (inner, opening, rest) => (tag :: inner, opening, rest)

theorem splitAtOpening?_eq_none_iff {name : Text} {opened : List Tag} :
    splitAtOpening? name opened = none ↔ ∀ tag ∈ opened, tag.name ≠ name := by
  induction opened with
  | nil => simp [splitAtOpening?]
  | cons tag outer ih => by_cases h : tag.name = name <;> simp [splitAtOpening?, h, ih]

theorem splitAtOpening?_eq_some_iff {name : Text} {opened inner outer : List Tag} {opening : Tag} :
    splitAtOpening? name opened = some (inner, opening, outer) ↔
      opened = inner ++ opening :: outer ∧ opening.name = name ∧ ∀ tag ∈ inner, tag.name ≠ name := by
  induction opened generalizing inner with
  | nil => simp [splitAtOpening?]
  | cons tag below ih =>
    rw [splitAtOpening?]
    by_cases h : tag.name = name
    · rw [if_pos h]
      constructor
      · intro found
        obtain ⟨rfl, rfl, rfl⟩ : [] = inner ∧ tag = opening ∧ below = outer := by simpa using found
        exact ⟨rfl, h, by simp⟩
      · rintro ⟨split, named, unnamed⟩
        cases inner with
        | nil =>
          obtain ⟨rfl, rfl⟩ := List.cons.inj split
          rfl
        | cons first rest =>
          obtain ⟨rfl, -⟩ := List.cons.inj split
          exact absurd h (unnamed tag List.mem_cons_self)
    · rw [if_neg h, Option.map_eq_some_iff]
      constructor
      · rintro ⟨⟨rest, opened, behind⟩, found, parts⟩
        obtain ⟨rfl, rfl, rfl⟩ : tag :: rest = inner ∧ opened = opening ∧ behind = outer := by
          simpa using parts
        obtain ⟨rfl, named, unnamed⟩ := ih.1 found
        exact ⟨rfl, named, List.forall_mem_cons.2 ⟨h, unnamed⟩⟩
      · rintro ⟨split, named, unnamed⟩
        cases inner with
        | nil =>
          obtain ⟨rfl, -⟩ := List.cons.inj split
          exact absurd named h
        | cons first rest =>
          obtain ⟨rfl, below⟩ := List.cons.inj split
          exact ⟨_, ih.2 ⟨below, named, (List.forall_mem_cons.1 unnamed).2⟩, rfl⟩

/-- A tag of this name may be open inside another one of the same name. -/
def mayReopen (name : Text) : Bool :=
  match Element.ofName? name with
  | none => true
  | some element => element.nestsInItself

/-- Of the tags left open, outermost first, those worth a report: a tag that may not be open inside
itself stands in for its missing closing tag, so only the outermost of its name is kept. -/
def reportable (seen : List Text) : List Tag → List Tag
  | [] => []
  | tag :: inner =>
    if !mayReopen tag.name && seen.contains tag.name then reportable seen inner
    else tag :: reportable (tag.name :: seen) inner

/-! ## One tag at a time -/

/-- Where pairing stands: the open tags, innermost first, and what has been found. -/
structure PairingState where
  opened : List Tag
  pairs : List TagPair
  unmatched : List Tag
  deriving DecidableEq, Repr

namespace PairingState

/-- Nothing open and nothing found. -/
def empty : PairingState :=
  ⟨[], [], []⟩

/-- Takes in the next tag. -/
def step (state : PairingState) (tag : Tag) : PairingState :=
  match tag.form with
  | .selfClosing => state
  | .opening => { state with opened := tag :: state.opened }
  | .closing =>
    match splitAtOpening? tag.name state.opened with
    | none => { state with unmatched := state.unmatched ++ [tag] }
    | some (inner, opening, outer) =>
      { opened := outer
        pairs := state.pairs ++ [⟨opening, tag⟩]
        unmatched := state.unmatched ++ reportable [] inner.reverse }

theorem step_selfClosing (state : PairingState) {tag : Tag} (form : tag.form = .selfClosing) :
    state.step tag = state := by
  simp only [step, form]

theorem step_opening (state : PairingState) {tag : Tag} (form : tag.form = .opening) :
    state.step tag = { state with opened := tag :: state.opened } := by
  simp only [step, form]

/-- A closing tag of which no tag is open. -/
theorem step_stray {state : PairingState} {tag : Tag} (form : tag.form = .closing)
    (split : splitAtOpening? tag.name state.opened = none) :
    state.step tag = { state with unmatched := state.unmatched ++ [tag] } := by
  simp only [step, form, split]

theorem step_closing {state : PairingState} {tag opening : Tag} {inner outer : List Tag}
    (form : tag.form = .closing)
    (split : splitAtOpening? tag.name state.opened = some (inner, opening, outer)) :
    state.step tag =
      ⟨outer, state.pairs ++ [⟨opening, tag⟩], state.unmatched ++ reportable [] inner.reverse⟩ := by
  simp only [step, form, split]

/-- At the end the tags that are still open are left without a partner. -/
def finish (state : PairingState) : Pairing :=
  ⟨state.pairs, state.unmatched ++ reportable [] state.opened.reverse⟩

end PairingState

/-! ## All tags -/

/-- The state after all of the tags. -/
def pairingState (tags : List Tag) : PairingState :=
  tags.foldl PairingState.step .empty

namespace Pairing

/-- The pairing of tags that all take part in one nesting. -/
def ofNesting (tags : List Tag) : Pairing :=
  (pairingState tags).finish

/-- The pairing of all tags of a document, in the order of their offsets. -/
def ofTags (tags : List Tag) : Pairing :=
  let supported := ofNesting (tags.filter Tag.isSupported)
  let others := ofNesting (tags.filter (!·.isSupported))
  { pairs := (supported.pairs ++ others.pairs).mergeSort (·.opening.start ≤ ·.opening.start)
    unmatched := (supported.unmatched ++ others.unmatched).mergeSort (·.start ≤ ·.start) }

end Pairing

end GlassPrompt
