import GlassPrompt.Proofs.Markup.Matching

/-!
# Well-nested tags

Pairing finds nothing to report exactly if the tags are well nested, the tags of the vocabulary and the
other tags each by themselves.

* `WellNested` — the words of tags in which every opening tag has its closing tag.
* `WellNested.foldl_step` — pairing a well-nested word leaves the open tags as they are.
* `Unclosed`, `unclosed_of_unmatched` — without a report, what has been paired is a well-nested word but
  for the open tags.
* `unmatched_ofTags_eq_nil_iff` — both directions, for all tags of a document.
-/

namespace GlassPrompt

/-- Each opening tag is followed by well-nested tags and a closing tag of its name, and then by further
well-nested tags. -/
inductive WellNested : List Tag → Prop
  | nil : WellNested []
  | pair {opening closing : Tag} {inner rest : List Tag} (opens : opening.form = .opening)
      (closes : closing.form = .closing) (name : opening.name = closing.name)
      (inside : WellNested inner) (behind : WellNested rest) :
      WellNested (opening :: inner ++ closing :: rest)

lemma WellNested.append {first second : List Tag} (h : WellNested first)
    (behind : WellNested second) : WellNested (first ++ second) := by
  induction h with
  | nil => exact behind
  | @pair opening closing inner rest opens closes name inside _ _ ih =>
    have joined := WellNested.pair opens closes name inside ih
    rw [← List.cons_append, ← List.append_assoc] at joined
    exact joined

/-! ## Pairing a well-nested word -/

/-- Pairing a well-nested word leaves the open tags as they are, and finds nothing to report. -/
theorem WellNested.foldl_step {word : List Tag} (h : WellNested word) (state : PairingState) :
    (word.foldl PairingState.step state).opened = state.opened ∧
      (word.foldl PairingState.step state).unmatched = state.unmatched := by
  induction h generalizing state with
  | nil => exact ⟨rfl, rfl⟩
  | @pair opening closing inner rest opens closes name _ _ inside behind =>
    rw [List.foldl_append, List.foldl_cons, List.foldl_cons, state.step_opening opens]
    obtain ⟨opened, reported⟩ := inside { state with opened := opening :: state.opened }
    have split : splitAtOpening? closing.name (inner.foldl PairingState.step
        { state with opened := opening :: state.opened }).opened = some ([], opening, state.opened) :=
      splitAtOpening?_eq_some_iff.2 ⟨opened, name, by simp⟩
    obtain ⟨after, still⟩ := behind (PairingState.step _ closing)
    rw [PairingState.step_closing closes split] at after still ⊢
    exact ⟨after, still.trans ((List.append_nil _).trans reported)⟩

/-! ## What is paired without a report -/

/-- A word that is well nested but for the open tags, innermost first. -/
inductive Unclosed : List Tag → List Tag → Prop
  | nil {word : List Tag} (nested : WellNested word) : Unclosed [] word
  | cons {tag : Tag} {opened before inner : List Tag} (outer : Unclosed opened before)
      (form : tag.form = .opening) (inside : WellNested inner) :
      Unclosed (tag :: opened) (before ++ tag :: inner)

lemma Unclosed.append {opened word more : List Tag} (h : Unclosed opened word)
    (nested : WellNested more) : Unclosed opened (word ++ more) := by
  cases h with
  | nil before => exact .nil (before.append nested)
  | cons outer form inside =>
    rw [List.append_assoc, List.cons_append]
    exact .cons outer form (inside.append nested)

/-- A closing tag of its name closes the innermost open tag. -/
lemma Unclosed.close {opening closing : Tag} {outer word : List Tag}
    (h : Unclosed (opening :: outer) word) (form : closing.form = .closing)
    (name : opening.name = closing.name) : Unclosed outer (word ++ [closing]) := by
  cases h with
  | cons below opens inside =>
    rw [List.append_assoc]
    exact below.append (.pair opens form name inside .nil)

/-- What is paired without a report is well nested but for the open tags. -/
theorem unclosed_of_unmatched {tags : List Tag} (h : (pairingState tags).unmatched = []) :
    Unclosed (pairingState tags).opened (tags.filter Tag.takesPart) := by
  induction tags using List.reverseRecOn with
  | nil => exact .nil .nil
  | append_singleton tags tag ih =>
    have last : pairingState (tags ++ [tag]) = (pairingState tags).step tag := by
      rw [pairingState, List.foldl_append]
      rfl
    rw [last] at h ⊢
    rw [List.filter_append]
    have kept (form : tag.form ≠ .selfClosing) : [tag].filter Tag.takesPart = [tag] := by
      simp [Tag.takesPart, form]
    cases form : tag.form with
    | selfClosing =>
      rw [PairingState.step_selfClosing _ form] at h ⊢
      have dropped : [tag].filter Tag.takesPart = [] := by simp [Tag.takesPart, form]
      rw [dropped, List.append_nil]
      exact ih h
    | opening =>
      rw [PairingState.step_opening _ form] at h ⊢
      rw [kept (by simp [form])]
      exact .cons (ih h) form .nil
    | closing =>
      rw [kept (by simp [form])]
      cases split : splitAtOpening? tag.name (pairingState tags).opened with
      | none =>
        rw [PairingState.step_stray form split] at h
        exact absurd h (by simp)
      | some found =>
        obtain ⟨inner, opening, outer⟩ := found
        rw [PairingState.step_closing form split] at h ⊢
        obtain ⟨before, nothing⟩ := List.append_eq_nil_iff.1 h
        have empty : inner = [] := List.reverse_eq_nil_iff.1 (reportable_eq_nil_iff.1 nothing)
        subst empty
        obtain ⟨opened, name, -⟩ := splitAtOpening?_eq_some_iff.1 split
        have unclosed := ih before
        rw [opened] at unclosed
        exact unclosed.close form name

/-! ## Both directions -/

lemma pairingState_filter (tags : List Tag) :
    pairingState (tags.filter Tag.takesPart) = pairingState tags := by
  unfold pairingState
  generalize PairingState.empty = state
  induction tags generalizing state with
  | nil => rfl
  | cons tag rest ih =>
    by_cases form : tag.form = .selfClosing
    · rw [List.filter_cons_of_neg (by simp [Tag.takesPart, form]), ih, List.foldl_cons,
        state.step_selfClosing form]
    · rw [List.filter_cons_of_pos (by simp [Tag.takesPart, form]), List.foldl_cons, ih,
        List.foldl_cons]

/-- **One nesting has nothing to report exactly if its tags are well nested.** -/
theorem unmatched_ofNesting_eq_nil_iff (tags : List Tag) :
    (Pairing.ofNesting tags).unmatched = [] ↔ WellNested (tags.filter Tag.takesPart) := by
  show (pairingState tags).unmatched ++ reportable [] (pairingState tags).opened.reverse = [] ↔ _
  rw [List.append_eq_nil_iff, reportable_eq_nil_iff, List.reverse_eq_nil_iff]
  constructor
  · rintro ⟨unmatched, opened⟩
    have unclosed := unclosed_of_unmatched unmatched
    rw [opened] at unclosed
    cases unclosed with
    | nil nested => exact nested
  · intro nested
    obtain ⟨opened, unmatched⟩ := nested.foldl_step .empty
    have state : (tags.filter Tag.takesPart).foldl PairingState.step .empty = pairingState tags :=
      pairingState_filter tags
    rw [state] at opened unmatched
    exact ⟨unmatched, opened⟩

/-- The tags of the vocabulary, or the other ones, that have a partner or lack one. -/
def partnersOf (supported : Bool) (tags : List Tag) : List Tag :=
  tags.filter fun tag => tag.isSupported == supported && tag.takesPart

/-- **Pairing has nothing to report exactly if both nestings are well nested.** -/
theorem unmatched_ofTags_eq_nil_iff (tags : List Tag) :
    (Pairing.ofTags tags).unmatched = [] ↔
      WellNested (partnersOf true tags) ∧ WellNested (partnersOf false tags) := by
  have ofClass (supported : Bool) : (Pairing.ofClass tags supported).unmatched = [] ↔
      WellNested (partnersOf supported tags) := by
    rw [Pairing.ofClass, unmatched_ofNesting_eq_nil_iff, List.filter_filter, partnersOf]
    simp only [Bool.and_comm]
  have sorted : (Pairing.ofTags tags).unmatched.Perm
      ((Pairing.ofClass tags true).unmatched ++ (Pairing.ofClass tags false).unmatched) := by
    rw [ofTags_eq]
    exact List.mergeSort_perm _ _
  rw [← ofClass, ← ofClass, ← List.append_eq_nil_iff, ← List.length_eq_zero_iff, sorted.length_eq,
    List.length_eq_zero_iff]

end GlassPrompt
