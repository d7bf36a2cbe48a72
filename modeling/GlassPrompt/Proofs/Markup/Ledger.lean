import GlassPrompt.Markup.Pairing
import Mathlib.Tactic

/-!
# A ledger of pairing

Pairing drops tags: of those that are left open inside a pair, only some are reported, and nothing
tells where they have been.  A ledger is a state of pairing in which nothing is dropped.  Each tag
that takes part is found in it at exactly one place, and the places are nested like the pairs.

* `Ledger`, `Ledger.Step`, `Ledger.Run` — pairing one tag after the other, with all tags kept.
* `Ledger.Shows`, `exists_ledger` — every state of pairing has a ledger.
* `Ledger.Run.tags_perm` — the ledger holds each tag that is not self-closing once.
* `Ledger.Nested`, `Ledger.Run.nested` — how the tags of a ledger lie in the document, an invariant of
  the steps.
-/

namespace GlassPrompt

/-! ## Ledgers -/

/-- A pair of tags, with the tags that were left open between the two, outermost first. -/
structure PairEntry where
  pair : TagPair
  inside : List Tag

/-- A state of pairing that keeps every tag. -/
structure Ledger where
  /-- The open tags, innermost first. -/
  opened : List Tag
  entries : List PairEntry
  /-- The closing tags without a partner. -/
  strays : List Tag

/-- The tag has a partner, or lacks one. -/
def Tag.takesPart (tag : Tag) : Bool :=
  tag.form != .selfClosing

/-- The two tags of a pair. -/
def TagPair.tags (pair : TagPair) : List Tag :=
  [pair.opening, pair.closing]

namespace Ledger

/-- The tags left open, in groups: those outside all pairs, and those between the tags of each pair.
Each group has its outermost tag first. -/
def groups (ledger : Ledger) : List (List Tag) :=
  ledger.opened.reverse :: ledger.entries.map (·.inside)

/-- The tags of all pairs. -/
def ends (ledger : Ledger) : List Tag :=
  ledger.entries.flatMap (·.pair.tags)

/-- All tags of the ledger. -/
def tags (ledger : Ledger) : List Tag :=
  ledger.groups.flatten ++ ledger.ends ++ ledger.strays

/-- What the next tag does to a ledger. -/
inductive Step (ledger : Ledger) (tag : Tag) : Ledger → Prop
  | skip (form : tag.form = .selfClosing) : Step ledger tag ledger
  | opens (form : tag.form = .opening) :
      Step ledger tag { ledger with opened := tag :: ledger.opened }
  | strays (form : tag.form = .closing) (unnamed : ∀ other ∈ ledger.opened, other.name ≠ tag.name) :
      Step ledger tag { ledger with strays := ledger.strays ++ [tag] }
  | pairs {inner outer : List Tag} {opening : Tag} (form : tag.form = .closing)
      (opened : ledger.opened = inner ++ opening :: outer) (name : opening.name = tag.name)
      (unnamed : ∀ other ∈ inner, other.name ≠ tag.name) :
      Step ledger tag
        ⟨outer, ledger.entries ++ [⟨⟨opening, tag⟩, inner.reverse⟩], ledger.strays⟩

/-- The ledger of a list of tags. -/
inductive Run : List Tag → Ledger → Prop
  | nil : Run [] ⟨[], [], []⟩
  | snoc {tags : List Tag} {tag : Tag} {ledger next : Ledger} (run : Run tags ledger)
      (step : Step ledger tag next) : Run (tags ++ [tag]) next

/-! ## The ledger of a state -/

/-- The ledger and the state of pairing agree. -/
structure Shows (ledger : Ledger) (state : PairingState) : Prop where
  opened : state.opened = ledger.opened
  pairs : state.pairs = ledger.entries.map (·.pair)
  unmatched : state.unmatched.Perm
    (ledger.entries.flatMap (fun entry => reportable [] entry.inside) ++ ledger.strays)

lemma exists_step {ledger : Ledger} {state : PairingState} (h : ledger.Shows state) (tag : Tag) :
    ∃ next, Step ledger tag next ∧ next.Shows (state.step tag) := by
  cases form : tag.form with
  | selfClosing =>
    refine ⟨ledger, .skip form, ?_⟩
    rw [state.step_selfClosing form]
    exact h
  | opening =>
    refine ⟨_, .opens form, ?_⟩
    rw [state.step_opening form]
    exact ⟨congrArg (tag :: ·) h.opened, h.pairs, h.unmatched⟩
  | closing =>
    cases split : splitAtOpening? tag.name state.opened with
    | none =>
      have unnamed := splitAtOpening?_eq_none_iff.1 split
      rw [h.opened] at unnamed
      refine ⟨_, .strays form unnamed, ?_⟩
      rw [PairingState.step_stray form split]
      refine ⟨h.opened, h.pairs, ?_⟩
      rw [← List.append_assoc]
      exact h.unmatched.append_right [tag]
    | some found =>
      obtain ⟨inner, opening, outer⟩ := found
      obtain ⟨opened, name, unnamed⟩ := splitAtOpening?_eq_some_iff.1 split
      refine ⟨_, .pairs form (h.opened.symm.trans opened) name unnamed, ?_⟩
      rw [PairingState.step_closing form split]
      refine ⟨rfl, ?_, ?_⟩
      · rw [List.map_append, ← h.pairs]
        rfl
      · refine (h.unmatched.append_right (reportable [] inner.reverse)).trans ?_
        rw [List.flatMap_append, List.append_assoc, List.append_assoc, List.flatMap_singleton]
        exact List.Perm.append_left _ List.perm_append_comm

/-- Every state of pairing has a ledger. -/
theorem exists_ledger (tags : List Tag) :
    ∃ ledger, Run tags ledger ∧ ledger.Shows (pairingState tags) := by
  induction tags using List.reverseRecOn with
  | nil => exact ⟨_, .nil, rfl, rfl, .refl _⟩
  | append_singleton tags tag ih =>
    obtain ⟨ledger, run, shows_⟩ := ih
    obtain ⟨next, step, shows_⟩ := exists_step shows_ tag
    refine ⟨next, .snoc run step, ?_⟩
    rw [pairingState, List.foldl_append]
    exact shows_

/-! ## No tag is dropped -/

lemma count_tags (ledger : Ledger) (tag : Tag) :
    ledger.tags.count tag = ledger.opened.count tag +
      (ledger.entries.flatMap (·.inside)).count tag + ledger.ends.count tag +
        ledger.strays.count tag := by
  rw [tags, groups, List.flatten_cons, List.count_append, List.count_append, List.count_append,
    List.count_reverse, List.flatMap_def]

lemma Step.tags_perm {ledger next : Ledger} {tag : Tag} (step : Step ledger tag next) :
    next.tags.Perm (ledger.tags ++ [tag].filter Tag.takesPart) := by
  have kept (form : tag.form ≠ .selfClosing) : [tag].filter Tag.takesPart = [tag] := by
    simp [Tag.takesPart, form]
  rw [List.perm_iff_count]
  intro other
  cases step with
  | skip form => simp [Tag.takesPart, form]
  | opens form =>
    rw [kept (by simp [form]), List.count_append, count_tags, count_tags]
    simp only [ends, List.count_cons, List.count_nil]
    omega
  | strays form unnamed =>
    rw [kept (by simp [form]), List.count_append, count_tags, count_tags]
    simp only [ends, List.count_append]
    omega
  | pairs form opened name unnamed =>
    rw [kept (by simp [form]), List.count_append, count_tags, count_tags, opened]
    simp only [ends, TagPair.tags, List.flatMap_append, List.flatMap_singleton, List.count_append,
      List.count_cons, List.count_nil, List.count_reverse]
    omega

/-- The ledger holds each tag that is not self-closing, and holds it once. -/
theorem Run.tags_perm {tags : List Tag} {ledger : Ledger} (run : Run tags ledger) :
    ledger.tags.Perm (tags.filter Tag.takesPart) := by
  induction run with
  | nil => exact .refl _
  | snoc run step ih =>
    rw [List.filter_append]
    exact step.tags_perm.trans (ih.append_right _)

end Ledger

/-! ## Pairs in the document -/

namespace TagPair

/-- The offset of a tag lies in the pair, from its opening tag up to its closing tag. -/
def Encloses (pair : TagPair) (tag : Tag) : Prop :=
  pair.opening.start ≤ tag.start ∧ tag.start < pair.closing.start

/-- The first pair lies in the second one, or is the same. -/
def Within (first second : TagPair) : Prop :=
  second.opening.start ≤ first.opening.start ∧ first.closing.start ≤ second.closing.start

/-- The first pair ends before the second one starts. -/
def Before (first second : TagPair) : Prop :=
  first.closing.start < second.opening.start

/-- The pairs do not cross: one lies in the other one, or before it. -/
def NestedOrApart (first second : TagPair) : Prop :=
  first.Within second ∨ second.Within first ∨ first.Before second ∨ second.Before first

lemma NestedOrApart.symm {first second : TagPair} (h : first.NestedOrApart second) :
    second.NestedOrApart first := by
  rcases h with h | h | h | h
  · exact .inr (.inl h)
  · exact .inl h
  · exact .inr (.inr (.inr h))
  · exact .inr (.inr (.inl h))

lemma Within.refl (pair : TagPair) : pair.Within pair :=
  ⟨Nat.le_refl _, Nat.le_refl _⟩

/-- An opening tag and a later closing tag of its name. -/
structure Joins (pair : TagPair) : Prop where
  opening : pair.opening.form = .opening
  closing : pair.closing.form = .closing
  name : pair.opening.name = pair.closing.name
  ordered : pair.opening.start < pair.closing.start

end TagPair

namespace Ledger

/-- How the tags of a ledger lie in the document. -/
structure Nested (ledger : Ledger) : Prop where
  opened : ∀ tag ∈ ledger.opened, tag.form = .opening
  joined : ∀ entry ∈ ledger.entries, entry.pair.Joins
  inner : ∀ entry ∈ ledger.entries, ∀ tag ∈ entry.inside, tag.form = .opening
  strays : ∀ tag ∈ ledger.strays, tag.form = .closing
  /-- The open tags stand in order, the innermost one last. -/
  stacked : ledger.opened.Pairwise fun inner outer => outer.start < inner.start
  ordered : ∀ entry ∈ ledger.entries, entry.inside.Pairwise fun outer inner => outer.start < inner.start
  /-- No pair has been closed around an open tag. -/
  outside : ∀ tag ∈ ledger.opened, ∀ entry ∈ ledger.entries,
    tag.start < entry.pair.opening.start ∨ entry.pair.closing.start < tag.start
  /-- The tags left open in a pair are enclosed by that pair, and by those around it only. -/
  inside : ∀ entry ∈ ledger.entries, ∀ tag ∈ entry.inside, ∀ other ∈ ledger.entries,
    other.pair.Encloses tag ↔ entry.pair.Within other.pair
  laminar : ∀ first ∈ ledger.entries, ∀ second ∈ ledger.entries,
    first.pair.NestedOrApart second.pair
  distinct : (ledger.entries.map fun entry => entry.pair.opening.start).Nodup

variable {ledger next : Ledger} {tag : Tag}

lemma mem_tags_of_opened {other : Tag} (member : other ∈ ledger.opened) : other ∈ ledger.tags := by
  simp [tags, groups, member]

lemma mem_tags_of_entry {entry : PairEntry} (member : entry ∈ ledger.entries) {other : Tag}
    (isEnd : other ∈ entry.pair.tags) : other ∈ ledger.tags :=
  List.mem_append_left _ (List.mem_append_right _ (List.mem_flatMap.2 ⟨entry, member, isEnd⟩))

/-- An open tag lies in no pair. -/
lemma Nested.not_encloses_of_opened (h : ledger.Nested) (opened : tag ∈ ledger.opened) :
    ∀ entry ∈ ledger.entries, ¬ entry.pair.Encloses tag := by
  rintro entry known ⟨starts, stops⟩
  have outside := h.outside tag opened entry known
  omega

/-! ### A new pair -/

section

variable (h : ledger.Nested) {opening closing : Tag} (known : opening ∈ ledger.opened)
  (passed : ∀ entry ∈ ledger.entries, entry.pair.closing.start < closing.start)

include h known passed

/-- What a new pair is to the pairs that are there already: its opening tag was open while they were
closed, so each of them lies inside or before it. -/
lemma Nested.around : ∀ entry ∈ ledger.entries,
    entry.pair.Within ⟨opening, closing⟩ ∨ entry.pair.Before ⟨opening, closing⟩ := by
  intro entry member
  rcases h.outside opening known entry member with before | behind
  · exact .inl ⟨Nat.le_of_lt before, Nat.le_of_lt (passed entry member)⟩
  · exact .inr behind

/-- The new pair encloses what was left open in an old pair if it lies around that pair. -/
lemma Nested.encloses_new_iff : ∀ entry ∈ ledger.entries, ∀ other ∈ entry.inside,
    TagPair.Encloses ⟨opening, closing⟩ other ↔ entry.pair.Within ⟨opening, closing⟩ := by
  intro entry member other inside
  have enclosed := (h.inside entry member other inside entry member).2 (.refl _)
  rcases h.around known passed entry member with within | apart
  · exact iff_of_true
      ⟨Nat.le_trans within.1 enclosed.1, Nat.lt_trans enclosed.2 (passed entry member)⟩ within
  · -- What was left open ends with its pair, before the new pair starts.
    have ends : other.start < opening.start := Nat.lt_trans enclosed.2 apart
    refine iff_of_false (fun encloses => ?_) (fun within => ?_)
    · exact Nat.not_lt_of_le encloses.1 ends
    · exact Nat.not_lt_of_le (Nat.le_trans within.1 enclosed.1) ends

lemma Nested.laminar_new : ∀ entry ∈ ledger.entries,
    entry.pair.NestedOrApart ⟨opening, closing⟩ := by
  intro entry member
  rcases h.around known passed entry member with within | apart
  · exact .inl within
  · exact .inr (.inr (.inl apart))

end

lemma Nested.distinct_new (h : ledger.Nested) {opening : Tag} (known : opening ∈ ledger.opened) :
    ∀ entry ∈ ledger.entries, entry.pair.opening.start ≠ opening.start := by
  intro entry member same
  have ordered := (h.joined entry member).ordered
  have outside := h.outside opening known entry member
  omega

/-- The innermost open tag of a name is taken out of a nested ledger, with all that is open in it. -/
lemma Nested.pairs (h : ledger.Nested) {inner outer : List Tag} {opening : Tag}
    (form : tag.form = .closing) (opened : ledger.opened = inner ++ opening :: outer)
    (name : opening.name = tag.name)
    (opensBefore : ∀ other ∈ ledger.opened, other.start < tag.start)
    (closesBefore : ∀ entry ∈ ledger.entries, entry.pair.closing.start < tag.start) :
    Nested ⟨outer, ledger.entries ++ [⟨⟨opening, tag⟩, inner.reverse⟩], ledger.strays⟩ := by
  have openingKnown : opening ∈ ledger.opened := by simp [opened]
  have outerKnown : ∀ other ∈ outer, other ∈ ledger.opened := by simp +contextual [opened]
  have innerKnown : ∀ other ∈ inner.reverse, other ∈ ledger.opened := by
    simp +contextual [opened]
  have stacked := h.stacked
  rw [opened] at stacked
  obtain ⟨innerStacked, outerStacked, behind⟩ := List.pairwise_append.1 stacked
  obtain ⟨before, outerStacked⟩ := List.pairwise_cons.1 outerStacked
  have innerBehind : ∀ other ∈ inner.reverse, opening.start < other.start :=
    fun other member => behind other (List.mem_reverse.1 member) opening List.mem_cons_self
  have old := h.laminar_new openingKnown closesBefore
  refine ⟨?_, ?_, ?_, h.strays, outerStacked, ?_, ?_, ?_, ?_, ?_⟩
  · exact fun other member => h.opened other (outerKnown other member)
  · refine List.forall_mem_append.2 ⟨h.joined, List.forall_mem_singleton.2 ?_⟩
    exact ⟨h.opened opening openingKnown, form, name, opensBefore opening openingKnown⟩
  · refine List.forall_mem_append.2 ⟨h.inner, List.forall_mem_singleton.2 ?_⟩
    exact fun other member => h.opened other (innerKnown other member)
  · refine List.forall_mem_append.2 ⟨h.ordered, List.forall_mem_singleton.2 ?_⟩
    exact List.pairwise_reverse.2 innerStacked
  · intro other member
    refine List.forall_mem_append.2 ⟨h.outside other (outerKnown other member), ?_⟩
    exact List.forall_mem_singleton.2 (.inl (before other member))
  · refine List.forall_mem_append.2 ⟨?_, List.forall_mem_singleton.2 ?_⟩
    · intro entry member other inside
      refine List.forall_mem_append.2 ⟨h.inside entry member other inside, ?_⟩
      exact List.forall_mem_singleton.2
        (h.encloses_new_iff openingKnown closesBefore entry member other inside)
    · intro other inside
      have known := innerKnown other inside
      refine List.forall_mem_append.2 ⟨fun entry member => ?_, List.forall_mem_singleton.2 ?_⟩
      · exact iff_of_false (h.not_encloses_of_opened known entry member)
          (fun within => Nat.not_lt_of_le within.2 (closesBefore entry member))
      · exact iff_of_true
          ⟨Nat.le_of_lt (innerBehind other inside), opensBefore other known⟩ (.refl _)
  · refine List.forall_mem_append.2 ⟨fun first member => ?_, List.forall_mem_singleton.2 ?_⟩
    · refine List.forall_mem_append.2 ⟨h.laminar first member, ?_⟩
      exact List.forall_mem_singleton.2 (old first member)
    · refine List.forall_mem_append.2 ⟨fun second member => (old second member).symm, ?_⟩
      exact List.forall_mem_singleton.2 (.inl (.refl _))
  · rw [List.map_append]
    refine List.nodup_append.2 ⟨h.distinct, List.nodup_singleton _, ?_⟩
    intro start member
    obtain ⟨entry, known, rfl⟩ := List.mem_map.1 member
    exact List.forall_mem_singleton.2 (h.distinct_new openingKnown entry known)

/-- **Every step keeps a ledger nested**, if the next tag lies behind all tags of the ledger. -/
theorem Step.nested (step : Step ledger tag next) (h : ledger.Nested)
    (passed : ∀ other ∈ ledger.tags, other.start < tag.start) : next.Nested := by
  have opensBefore : ∀ other ∈ ledger.opened, other.start < tag.start :=
    fun other member => passed other (mem_tags_of_opened member)
  have closesBefore : ∀ entry ∈ ledger.entries, entry.pair.closing.start < tag.start :=
    fun entry member => passed _ (mem_tags_of_entry member (by simp [TagPair.tags]))
  cases step with
  | skip form => exact h
  | strays form unnamed =>
    refine { h with strays := ?_ }
    exact List.forall_mem_append.2 ⟨h.strays, List.forall_mem_singleton.2 form⟩
  | opens form =>
    refine { h with opened := ?_, stacked := ?_, outside := ?_ }
    · exact List.forall_mem_cons.2 ⟨form, h.opened⟩
    · exact List.pairwise_cons.2 ⟨opensBefore, h.stacked⟩
    · exact List.forall_mem_cons.2 ⟨fun entry member => .inr (closesBefore entry member), h.outside⟩
  | pairs form opened name unnamed => exact h.pairs form opened name opensBefore closesBefore

/-- The ledger of tags in document order is nested. -/
theorem Run.nested {tags : List Tag} (run : Run tags ledger)
    (ordered : tags.Pairwise fun first second => first.start < second.start) : ledger.Nested := by
  induction run with
  | nil => constructor <;> simp
  | snoc run step ih =>
    obtain ⟨earlier, -, before⟩ := List.pairwise_append.1 ordered
    refine step.nested (ih earlier) ?_
    intro other member
    have known := (List.mem_filter.1 (run.tags_perm.mem_iff.1 member)).1
    exact before other known _ (List.mem_singleton_self _)

end Ledger

end GlassPrompt
