import GlassPrompt.Proofs.Markup.Ledger
import Mathlib.Data.List.Sort

/-!
# Pairing accounts for every tag

Pairing tells three kinds of tags apart: those with a partner, those that are reported to lack one, and
openings that are left out of the report, because an earlier tag of the same name stands in for them.

* `reportable_pairwise`, `mem_reportable_or` — what a report of open tags leaves out.
* `Ledger.Nested.group_eq` — the pairs around a tag determine the group that it was left open in.
* `Pairing.Paired`, `Pairing.StoodInFor`, `ExactlyOne` — the three kinds.
* `Pairing.Accounts`, `ofTags_accounts` — the pairing of all tags of a document.
-/

namespace GlassPrompt

/-! ## Reports of open tags -/

lemma reportable_sublist (seen : List Text) (tags : List Tag) :
    (reportable seen tags).Sublist tags := by
  induction tags generalizing seen with
  | nil => exact .refl _
  | cons tag inner ih =>
    rw [reportable]
    split
    · exact .cons tag (ih seen)
    · exact .cons_cons tag (ih _)

lemma reportable_flatMap_sublist (groups : List (List Tag)) :
    (groups.flatMap (reportable [])).Sublist groups.flatten := by
  induction groups with
  | nil => exact .refl _
  | cons group rest ih =>
    rw [List.flatMap_cons, List.flatten_cons]
    exact (reportable_sublist [] group).append ih

lemma not_seen_of_mem_reportable {seen : List Text} {tags : List Tag} {tag : Tag}
    (single : mayReopen tag.name = false) (member : tag ∈ reportable seen tags) : tag.name ∉ seen := by
  induction tags generalizing seen with
  | nil => exact nomatch member
  | cons first inner ih =>
    rw [reportable] at member
    split at member
    · exact ih member
    · next kept =>
      rcases List.mem_cons.1 member with rfl | member
      · simpa [single] using kept
      · exact fun seen => ih member (List.mem_cons_of_mem _ seen)

/-- A report holds a name only once, unless it may be opened in itself. -/
lemma reportable_pairwise (seen : List Text) (tags : List Tag) :
    (reportable seen tags).Pairwise fun first second =>
      first.name = second.name → mayReopen second.name = true := by
  induction tags generalizing seen with
  | nil => exact .nil
  | cons tag inner ih =>
    rw [reportable]
    split
    · exact ih seen
    · refine List.pairwise_cons.2 ⟨?_, ih _⟩
      intro other member same
      by_contra single
      have unseen := not_seen_of_mem_reportable (by simpa using single) member
      exact unseen (by simp [same])

lemma mayReopen_of_mem_reportable {seen : List Text} {tags : List Tag} {first second : Tag}
    (isFirst : first ∈ reportable seen tags) (isSecond : second ∈ reportable seen tags)
    (different : first ≠ second) (same : first.name = second.name) :
    mayReopen second.name = true := by
  have : Std.Symm fun first second : Tag => first.name = second.name → mayReopen second.name = true :=
    ⟨fun _ _ h same => same ▸ h same.symm⟩
  exact (reportable_pairwise seen tags).forall isFirst isSecond different same

/-- What a report of tags in order leaves out has a tag of its name before it. -/
lemma mem_reportable_or (seen : List Text) {tags : List Tag} {tag : Tag}
    (ordered : tags.Pairwise fun outer inner => outer.start < inner.start) (member : tag ∈ tags) :
    tag ∈ reportable seen tags ∨ mayReopen tag.name = false ∧ (tag.name ∈ seen ∨
      ∃ earlier ∈ reportable seen tags, earlier.name = tag.name ∧ earlier.start < tag.start) := by
  induction tags generalizing seen with
  | nil => exact nomatch member
  | cons first inner ih =>
    obtain ⟨before, ordered⟩ := List.pairwise_cons.1 ordered
    rw [reportable]
    split
    · next skipped =>
      rcases List.mem_cons.1 member with rfl | member
      · refine .inr ?_
        simp only [Bool.and_eq_true, Bool.not_eq_true', List.contains_iff_mem] at skipped
        exact ⟨skipped.1, .inl skipped.2⟩
      · exact ih seen ordered member
    · rcases List.mem_cons.1 member with rfl | member
      · exact .inl List.mem_cons_self
      · rcases ih (first.name :: seen) ordered member with kept | ⟨single, known | stands⟩
        · exact .inl (List.mem_cons_of_mem _ kept)
        · refine .inr ⟨single, ?_⟩
          rcases List.mem_cons.1 known with same | known
          · exact .inr ⟨first, List.mem_cons_self, same.symm, before tag member⟩
          · exact .inl known
        · obtain ⟨earlier, kept, stands⟩ := stands
          exact .inr ⟨single, .inr ⟨earlier, List.mem_cons_of_mem _ kept, stands⟩⟩

lemma reportable_eq_nil_iff {tags : List Tag} : reportable [] tags = [] ↔ tags = [] := by
  cases tags with
  | nil => simp [reportable]
  | cons tag inner => simp [reportable]

/-! ## Groups -/

namespace Ledger

variable {ledger : Ledger} (h : ledger.Nested) {group : List Tag} (isGroup : group ∈ ledger.groups)

include h isGroup

lemma Nested.opening_of_group : ∀ tag ∈ group, tag.form = .opening := by
  intro tag member
  rcases List.mem_cons.1 isGroup with rfl | isGroup
  · exact h.opened tag (List.mem_reverse.1 member)
  · obtain ⟨entry, known, rfl⟩ := List.mem_map.1 isGroup
    exact h.inner entry known tag member

lemma Nested.ordered_of_group : group.Pairwise fun outer inner => outer.start < inner.start := by
  rcases List.mem_cons.1 isGroup with rfl | isGroup
  · exact List.pairwise_reverse.2 h.stacked
  · obtain ⟨entry, known, rfl⟩ := List.mem_map.1 isGroup
    exact h.ordered entry known

/-- The same pairs lie around all tags of a group. -/
lemma Nested.encloses_iff_of_group {first second : Tag} (isFirst : first ∈ group)
    (isSecond : second ∈ group) :
    ∀ entry ∈ ledger.entries, entry.pair.Encloses first ↔ entry.pair.Encloses second := by
  intro other known
  rcases List.mem_cons.1 isGroup with rfl | isGroup
  · exact iff_of_false (h.not_encloses_of_opened (List.mem_reverse.1 isFirst) other known)
      (h.not_encloses_of_opened (List.mem_reverse.1 isSecond) other known)
  · obtain ⟨entry, member, rfl⟩ := List.mem_map.1 isGroup
    exact (h.inside entry member first isFirst other known).trans
      (h.inside entry member second isSecond other known).symm

/-- **The pairs around a tag determine its group.** -/
theorem Nested.group_eq {other : List Tag} (isOther : other ∈ ledger.groups) {first second : Tag}
    (isFirst : first ∈ group) (isSecond : second ∈ other)
    (same : ∀ entry ∈ ledger.entries, entry.pair.Encloses first ↔ entry.pair.Encloses second) :
    group = other := by
  have itself {entry : PairEntry} (known : entry ∈ ledger.entries) {tag : Tag}
      (inside : tag ∈ entry.inside) : entry.pair.Encloses tag :=
    (h.inside entry known tag inside entry known).2 (.refl _)
  rcases List.mem_cons.1 isGroup with rfl | isGroup <;>
    rcases List.mem_cons.1 isOther with rfl | isOther
  · rfl
  · obtain ⟨entry, known, rfl⟩ := List.mem_map.1 isOther
    have encloses := (same entry known).2 (itself known isSecond)
    exact absurd encloses (h.not_encloses_of_opened (List.mem_reverse.1 isFirst) entry known)
  · obtain ⟨entry, known, rfl⟩ := List.mem_map.1 isGroup
    have encloses := (same entry known).1 (itself known isFirst)
    exact absurd encloses (h.not_encloses_of_opened (List.mem_reverse.1 isSecond) entry known)
  · obtain ⟨entry, known, rfl⟩ := List.mem_map.1 isGroup
    obtain ⟨entry', known', rfl⟩ := List.mem_map.1 isOther
    have within : entry'.pair.Within entry.pair :=
      (h.inside entry' known' second isSecond entry known).1
        ((same entry known).1 (itself known isFirst))
    have around : entry.pair.Within entry'.pair :=
      (h.inside entry known first isFirst entry' known').1
        ((same entry' known').2 (itself known' isSecond))
    have start : entry.pair.opening.start = entry'.pair.opening.start :=
      Nat.le_antisymm within.1 around.1
    rw [List.inj_on_of_nodup_map h.distinct known known' start]

end Ledger

/-! ## The three kinds of tags -/

/-- One of three statements holds, and no more than one. -/
def ExactlyOne (first second third : Prop) : Prop :=
  (first ∧ ¬second ∧ ¬third) ∨ (¬first ∧ second ∧ ¬third) ∨ (¬first ∧ ¬second ∧ third)

namespace Pairing

/-- The tag is in one of the pairs. -/
def Paired (pairs : List TagPair) (tag : Tag) : Prop :=
  ∃ pair ∈ pairs, tag ∈ pair.tags

/-- An opening tag that may not be open in itself, and an earlier one of its name, inside the same
pairs, is reported. -/
def StoodInFor (pairs : List TagPair) (unmatched : List Tag) (tag : Tag) : Prop :=
  tag.form = .opening ∧ mayReopen tag.name = false ∧
    ∃ earlier ∈ unmatched, earlier.form = .opening ∧ earlier.name = tag.name ∧
      earlier.start < tag.start ∧ ∀ pair ∈ pairs, pair.Encloses earlier ↔ pair.Encloses tag

end Pairing

namespace Ledger

/-- The ledger explains the pairing of tags. -/
structure Explains (ledger : Ledger) (tags : List Tag) (pairing : Pairing) : Prop where
  nested : ledger.Nested
  perm : ledger.tags.Perm (tags.filter Tag.takesPart)
  once : ledger.tags.Nodup
  pairs : pairing.pairs = ledger.entries.map (·.pair)
  unmatched : pairing.unmatched.Perm (ledger.groups.flatMap (reportable []) ++ ledger.strays)

/-- The pairing of tags in document order is explained by a ledger. -/
theorem exists_explains {tags : List Tag}
    (ordered : tags.Pairwise fun first second => first.start < second.start) :
    ∃ ledger : Ledger, ledger.Explains tags (Pairing.ofNesting tags) := by
  obtain ⟨ledger, run, shows_⟩ := exists_ledger tags
  have perm := run.tags_perm
  have distinct : tags.Nodup := ordered.imp fun before same => by
    rw [same] at before
    exact Nat.lt_irrefl _ before
  refine ⟨ledger, run.nested ordered, perm, perm.nodup_iff.2 (distinct.filter _), shows_.pairs, ?_⟩
  show ((pairingState tags).unmatched ++ reportable [] (pairingState tags).opened.reverse).Perm _
  rw [shows_.opened, groups, List.flatMap_cons, List.flatMap_map, List.append_assoc]
  exact (shows_.unmatched.append_right _).trans List.perm_append_comm

variable {ledger : Ledger} {tags : List Tag} {pairing : Pairing} {tag : Tag}

lemma Explains.mem_tags (h : ledger.Explains tags pairing) (member : tag ∈ ledger.tags) :
    tag ∈ tags ∧ tag.takesPart = true :=
  List.mem_filter.1 (h.perm.mem_iff.1 member)

lemma Explains.paired_iff (h : ledger.Explains tags pairing) :
    Pairing.Paired pairing.pairs tag ↔ tag ∈ ledger.ends := by
  rw [Pairing.Paired, h.pairs, ends, List.mem_flatMap]
  simp only [List.mem_map, exists_exists_and_eq_and]

lemma Explains.mem_unmatched_iff (h : ledger.Explains tags pairing) :
    tag ∈ pairing.unmatched ↔
      (∃ group ∈ ledger.groups, tag ∈ reportable [] group) ∨ tag ∈ ledger.strays := by
  rw [h.unmatched.mem_iff, List.mem_append, List.mem_flatMap]

lemma Explains.mem_tags_of_unmatched (h : ledger.Explains tags pairing)
    (member : tag ∈ pairing.unmatched) :
    tag ∈ ledger.groups.flatten ∨ tag ∈ ledger.strays := by
  rcases h.mem_unmatched_iff.1 member with ⟨group, isGroup, kept⟩ | stray
  · exact .inl (List.mem_flatten.2 ⟨group, isGroup, (reportable_sublist _ _).subset kept⟩)
  · exact .inr stray

/-- A tag of a pair is not stood in for: the pair lies around it, but not around earlier tags. -/
lemma Explains.not_stoodIn_of_end (h : ledger.Explains tags pairing) (isEnd : tag ∈ ledger.ends) :
    ¬ Pairing.StoodInFor pairing.pairs pairing.unmatched tag := by
  rintro ⟨form, -, earlier, -, -, -, before, same⟩
  obtain ⟨entry, known, isEnd⟩ := List.mem_flatMap.1 isEnd
  have joins := h.nested.joined entry known
  have opening : tag = entry.pair.opening := by
    rcases List.mem_cons.1 isEnd with opening | closing
    · exact opening
    · rw [List.mem_singleton.1 closing, joins.closing] at form
      exact nomatch form
  have member : entry.pair ∈ pairing.pairs := by
    rw [h.pairs]
    exact List.mem_map_of_mem known
  have encloses : entry.pair.Encloses tag := by
    rw [opening]
    exact ⟨Nat.le_refl _, joins.ordered⟩
  have around := ((same entry.pair member).2 encloses).1
  rw [opening] at before
  omega

/-- A reported tag is not stood in for. -/
lemma Explains.not_stoodIn_of_kept (h : ledger.Explains tags pairing) {group : List Tag}
    (isGroup : group ∈ ledger.groups) (kept : tag ∈ reportable [] group) :
    ¬ Pairing.StoodInFor pairing.pairs pairing.unmatched tag := by
  rintro ⟨-, single, earlier, reported, form, name, before, same⟩
  have same : ∀ entry ∈ ledger.entries, entry.pair.Encloses earlier ↔ entry.pair.Encloses tag :=
    fun entry known => same entry.pair (by rw [h.pairs]; exact List.mem_map_of_mem known)
  rcases h.mem_unmatched_iff.1 reported with ⟨other, isOther, earlierKept⟩ | stray
  · obtain rfl := h.nested.group_eq isOther isGroup ((reportable_sublist _ _).subset earlierKept)
      ((reportable_sublist _ _).subset kept) same
    have different : earlier ≠ tag := by
      rintro rfl
      exact Nat.lt_irrefl _ before
    rw [mayReopen_of_mem_reportable earlierKept kept different name] at single
    exact nomatch single
  · rw [h.nested.strays earlier stray] at form
    exact nomatch form

/-- No tag is at two places of the ledger. -/
lemma Explains.apart (h : ledger.Explains tags pairing) :
    (∀ tag ∈ ledger.groups.flatten, tag ∉ ledger.ends ∧ tag ∉ ledger.strays) ∧
      ∀ tag ∈ ledger.ends, tag ∉ ledger.strays := by
  obtain ⟨once, -, strays⟩ := List.nodup_append.1 h.once
  obtain ⟨-, -, ends⟩ := List.nodup_append.1 once
  refine ⟨fun tag grouped => ⟨?_, ?_⟩, ?_⟩
  · exact fun isEnd => ends tag grouped tag isEnd rfl
  · exact fun stray => strays tag (List.mem_append_left _ grouped) tag stray rfl
  · exact fun tag isEnd stray => strays tag (List.mem_append_right _ isEnd) tag stray rfl

/-- A tag that was left open but is not reported is stood in for. -/
lemma Explains.stoodIn_of_dropped (h : ledger.Explains tags pairing) {group : List Tag}
    (isGroup : group ∈ ledger.groups) (member : tag ∈ group) (dropped : tag ∉ reportable [] group) :
    Pairing.StoodInFor pairing.pairs pairing.unmatched tag := by
  rcases mem_reportable_or [] (h.nested.ordered_of_group isGroup) member with
    kept | ⟨single, seen | ⟨earlier, kept, name, before⟩⟩
  · exact absurd kept dropped
  · exact nomatch seen
  · have earlierMember := (reportable_sublist _ _).subset kept
    refine ⟨h.nested.opening_of_group isGroup tag member, single, earlier,
      h.mem_unmatched_iff.2 (.inl ⟨group, isGroup, kept⟩),
      h.nested.opening_of_group isGroup earlier earlierMember, name, before, ?_⟩
    intro pair isPair
    rw [h.pairs] at isPair
    obtain ⟨entry, known, rfl⟩ := List.mem_map.1 isPair
    exact h.nested.encloses_iff_of_group isGroup earlierMember member entry known

lemma Explains.exactlyOne_of_group (h : ledger.Explains tags pairing) {group : List Tag}
    (isGroup : group ∈ ledger.groups) (member : tag ∈ group) :
    ExactlyOne (Pairing.Paired pairing.pairs tag) (tag ∈ pairing.unmatched)
      (Pairing.StoodInFor pairing.pairs pairing.unmatched tag) := by
  obtain ⟨notEnd, notStray⟩ := h.apart.1 tag (List.mem_flatten.2 ⟨group, isGroup, member⟩)
  have notPaired : ¬ Pairing.Paired pairing.pairs tag := fun paired => notEnd (h.paired_iff.1 paired)
  by_cases kept : tag ∈ reportable [] group
  · exact .inr (.inl ⟨notPaired, h.mem_unmatched_iff.2 (.inl ⟨group, isGroup, kept⟩),
      h.not_stoodIn_of_kept isGroup kept⟩)
  · refine .inr (.inr ⟨notPaired, ?_, h.stoodIn_of_dropped isGroup member kept⟩)
    intro reported
    rcases h.mem_unmatched_iff.1 reported with ⟨other, isOther, otherKept⟩ | stray
    · have same := h.nested.group_eq isGroup isOther member
        ((reportable_sublist _ _).subset otherKept) fun _ _ => .rfl
      rw [same] at kept
      exact kept otherKept
    · exact notStray stray

/-- **Every tag of a nesting is of one kind.** -/
theorem Explains.exactlyOne (h : ledger.Explains tags pairing) (known : tag ∈ tags)
    (takesPart : tag.takesPart = true) :
    ExactlyOne (Pairing.Paired pairing.pairs tag) (tag ∈ pairing.unmatched)
      (Pairing.StoodInFor pairing.pairs pairing.unmatched tag) := by
  have place : tag ∈ ledger.tags := h.perm.mem_iff.2 (List.mem_filter.2 ⟨known, takesPart⟩)
  rcases List.mem_append.1 place with place | stray
  · rcases List.mem_append.1 place with grouped | isEnd
    · obtain ⟨group, isGroup, member⟩ := List.mem_flatten.1 grouped
      exact h.exactlyOne_of_group isGroup member
    · refine .inl ⟨h.paired_iff.2 isEnd, ?_, h.not_stoodIn_of_end isEnd⟩
      intro reported
      rcases h.mem_tags_of_unmatched reported with grouped | stray
      · exact (h.apart.1 tag grouped).1 isEnd
      · exact h.apart.2 tag isEnd stray
  · refine .inr (.inl ⟨?_, h.mem_unmatched_iff.2 (.inr stray), ?_⟩)
    · intro paired
      exact h.apart.2 tag (h.paired_iff.1 paired) stray
    · rintro ⟨form, -⟩
      rw [h.nested.strays tag stray] at form
      exact nomatch form

lemma Explains.joins (h : ledger.Explains tags pairing) :
    ∀ pair ∈ pairing.pairs, pair.opening ∈ tags ∧ pair.closing ∈ tags ∧ pair.Joins := by
  intro pair isPair
  rw [h.pairs] at isPair
  obtain ⟨entry, known, rfl⟩ := List.mem_map.1 isPair
  have isTag : ∀ tag ∈ entry.pair.tags, tag ∈ tags :=
    fun tag isEnd => (h.mem_tags (mem_tags_of_entry known isEnd)).1
  exact ⟨isTag _ (by simp [TagPair.tags]), isTag _ (by simp [TagPair.tags]),
    h.nested.joined entry known⟩

lemma Explains.mem_of_paired (h : ledger.Explains tags pairing)
    (paired : Pairing.Paired pairing.pairs tag) : tag ∈ tags ∧ tag.takesPart = true :=
  h.mem_tags (List.mem_append_left _ (List.mem_append_right _ (h.paired_iff.1 paired)))

lemma Explains.mem_of_unmatched (h : ledger.Explains tags pairing) :
    ∀ tag ∈ pairing.unmatched, tag ∈ tags ∧ tag.takesPart = true := by
  intro tag member
  refine h.mem_tags ?_
  rcases h.mem_tags_of_unmatched member with grouped | stray
  · exact List.mem_append_left _ (List.mem_append_left _ grouped)
  · exact List.mem_append_right _ stray

lemma Explains.laminar (h : ledger.Explains tags pairing) :
    ∀ first ∈ pairing.pairs, ∀ second ∈ pairing.pairs, first.NestedOrApart second := by
  intro first isFirst second isSecond
  rw [h.pairs] at isFirst isSecond
  obtain ⟨entry, known, rfl⟩ := List.mem_map.1 isFirst
  obtain ⟨other, isOther, rfl⟩ := List.mem_map.1 isSecond
  exact h.nested.laminar entry known other isOther

lemma Explains.nodup_pairs (h : ledger.Explains tags pairing) :
    (pairing.pairs.flatMap TagPair.tags).Nodup := by
  obtain ⟨once, -, -⟩ := List.nodup_append.1 h.once
  obtain ⟨-, ends, -⟩ := List.nodup_append.1 once
  rw [h.pairs, List.flatMap_map]
  exact ends

lemma Explains.nodup_unmatched (h : ledger.Explains tags pairing) : pairing.unmatched.Nodup := by
  have places : (ledger.groups.flatMap (reportable []) ++ ledger.strays).Sublist ledger.tags :=
    ((reportable_flatMap_sublist ledger.groups).trans (List.sublist_append_left _ _)).append (.refl _)
  exact h.unmatched.nodup_iff.2 (h.once.sublist places)

end Ledger

/-! ## All tags of a document -/

/-- Only a tag of the vocabulary may not be open in itself. -/
lemma isSupported_of_not_mayReopen {tag : Tag} (single : mayReopen tag.name = false) :
    tag.isSupported = true := by
  unfold mayReopen at single
  rw [Tag.isSupported, Tag.element?]
  cases named : Element.ofName? tag.name with
  | none =>
    rw [named] at single
    exact nomatch single
  | some element => rfl

lemma isSupported_congr {first second : Tag} (name : first.name = second.name) :
    first.isSupported = second.isSupported := by
  rw [Tag.isSupported, Tag.isSupported, Tag.element?, Tag.element?, name]

/-- What the pairing of a document's tags tells about them. -/
structure Pairing.Accounts (tags : List Tag) (pairing : Pairing) : Prop where
  /-- A pair joins an opening tag to a later closing tag of its name. -/
  joins : ∀ pair ∈ pairing.pairs, pair.opening ∈ tags ∧ pair.closing ∈ tags ∧ pair.Joins
  /-- No tag is in two pairs, or twice in one. -/
  distinct : (pairing.pairs.flatMap TagPair.tags).Nodup
  /-- Pairs of the vocabulary do not cross, and neither do the others. -/
  laminar : ∀ first ∈ pairing.pairs, ∀ second ∈ pairing.pairs,
    first.opening.isSupported = second.opening.isSupported → first.NestedOrApart second
  /-- Every tag that is not self-closing is paired, reported, or stood in for. -/
  kinds : ∀ tag ∈ tags, tag.form ≠ .selfClosing →
    ExactlyOne (Paired pairing.pairs tag) (tag ∈ pairing.unmatched)
      (StoodInFor (pairing.pairs.filter (·.opening.isSupported)) pairing.unmatched tag)
  /-- Self-closing tags do not take part. -/
  selfClosing : ∀ tag ∈ tags, tag.form = .selfClosing →
    ¬ Paired pairing.pairs tag ∧ tag ∉ pairing.unmatched
  /-- What is reported are tags, in document order. -/
  reported : ∀ tag ∈ pairing.unmatched, tag ∈ tags
  reportedInOrder : pairing.unmatched.Pairwise fun first second => first.start < second.start
  /-- Pairs stand in the order of their opening tags, so an outer pair before the pairs inside it. -/
  pairsInOrder : pairing.pairs.Pairwise fun first second =>
    first.opening.start < second.opening.start

/-- Sorting by a key that no two elements share leaves them in strictly increasing order. -/
lemma pairwise_lt_mergeSort {α : Type} (key : α → Nat) {elements : List α}
    (distinct : (elements.map key).Nodup) :
    (elements.mergeSort (key · ≤ key ·)).Pairwise (key · < key ·) := by
  have sorted : (elements.mergeSort (key · ≤ key ·)).Pairwise fun first second =>
      decide (key first ≤ key second) = true :=
    List.pairwise_mergeSort (by simp; omega) (by simp; omega) elements
  have different : (elements.mergeSort (key · ≤ key ·)).Pairwise (key · ≠ key ·) :=
    List.pairwise_map.1 (((List.mergeSort_perm elements _).map key).nodup_iff.2 distinct)
  exact (sorted.and different).imp fun both =>
    Nat.lt_of_le_of_ne (of_decide_eq_true both.1) both.2

/-- Lists in strictly increasing order of a key are the same if they have the same members. -/
lemma eq_of_mem_iff_of_lt {α : Type} (key : α → Nat) {first second : List α}
    (firstOrder : first.Pairwise (key · < key ·)) (secondOrder : second.Pairwise (key · < key ·))
    (same : ∀ a, a ∈ first ↔ a ∈ second) : first = second := by
  have : Std.Irrefl fun a b : α => key a < key b := ⟨fun _ => Nat.lt_irrefl _⟩
  have : Std.Antisymm fun a b : α => key a < key b :=
    ⟨fun _ _ less greater => absurd less (Nat.lt_asymm greater)⟩
  exact firstOrder.eq_of_mem_iff secondOrder same

lemma openings_sublist (pairs : List TagPair) :
    (pairs.map TagPair.opening).Sublist (pairs.flatMap TagPair.tags) := by
  induction pairs with
  | nil => exact .refl _
  | cons pair rest ih =>
    rw [List.map_cons, List.flatMap_cons]
    exact .cons_cons _ (.cons _ ih)

/-! ### The two nestings -/

/-- The pairing of the tags of the vocabulary, or that of the other tags. -/
def Pairing.ofClass (tags : List Tag) (supported : Bool) : Pairing :=
  .ofNesting (tags.filter (·.isSupported == supported))

lemma ofTags_eq (tags : List Tag) :
    Pairing.ofTags tags =
      ⟨((Pairing.ofClass tags true).pairs ++ (Pairing.ofClass tags false).pairs).mergeSort
          (·.opening.start ≤ ·.opening.start),
        ((Pairing.ofClass tags true).unmatched ++ (Pairing.ofClass tags false).unmatched).mergeSort
          (·.start ≤ ·.start)⟩ := by
  have supported : tags.filter (·.isSupported == true) = tags.filter Tag.isSupported :=
    List.filter_congr fun tag _ => beq_true _
  have others : tags.filter (·.isSupported == false) = tags.filter (!·.isSupported) :=
    List.filter_congr fun tag _ => beq_false _
  rw [Pairing.ofClass, Pairing.ofClass, supported, others]
  rfl

lemma mem_pairs_ofTags {tags : List Tag} {pair : TagPair} :
    pair ∈ (Pairing.ofTags tags).pairs ↔
      ∃ supported, pair ∈ (Pairing.ofClass tags supported).pairs := by
  simp only [ofTags_eq, List.mem_mergeSort, List.mem_append, Bool.exists_bool, or_comm]

lemma mem_unmatched_ofTags {tags : List Tag} {tag : Tag} :
    tag ∈ (Pairing.ofTags tags).unmatched ↔
      ∃ supported, tag ∈ (Pairing.ofClass tags supported).unmatched := by
  simp only [ofTags_eq, List.mem_mergeSort, List.mem_append, Bool.exists_bool, or_comm]

section

variable {tags : List Tag} (ordered : tags.Pairwise fun first second => first.start < second.start)

include ordered

/-- Each of the two nestings is explained by a ledger. -/
lemma exists_explains_ofClass (supported : Bool) : ∃ ledger : Ledger,
    ledger.Explains (tags.filter (·.isSupported == supported)) (Pairing.ofClass tags supported) :=
  Ledger.exists_explains (ordered.filter (·.isSupported == supported))

lemma isSupported_of_paired {supported : Bool} {tag : Tag}
    (paired : Pairing.Paired (Pairing.ofClass tags supported).pairs tag) :
    tag ∈ tags ∧ tag.takesPart = true ∧ tag.isSupported = supported := by
  obtain ⟨ledger, explains⟩ := exists_explains_ofClass ordered supported
  obtain ⟨member, takesPart⟩ := explains.mem_of_paired paired
  obtain ⟨known, isClass⟩ := List.mem_filter.1 member
  exact ⟨known, takesPart, by simpa using isClass⟩

lemma isSupported_of_unmatched {supported : Bool} {tag : Tag}
    (unmatched : tag ∈ (Pairing.ofClass tags supported).unmatched) :
    tag ∈ tags ∧ tag.takesPart = true ∧ tag.isSupported = supported := by
  obtain ⟨ledger, explains⟩ := exists_explains_ofClass ordered supported
  obtain ⟨member, takesPart⟩ := explains.mem_of_unmatched tag unmatched
  obtain ⟨known, isClass⟩ := List.mem_filter.1 member
  exact ⟨known, takesPart, by simpa using isClass⟩

/-- A pair comes from the nesting of its opening tag. -/
lemma mem_pairs_iff {pair : TagPair} :
    pair ∈ (Pairing.ofTags tags).pairs ↔
      pair ∈ (Pairing.ofClass tags pair.opening.isSupported).pairs := by
  refine ⟨fun member => ?_, fun member => mem_pairs_ofTags.2 ⟨_, member⟩⟩
  obtain ⟨supported, member⟩ := mem_pairs_ofTags.1 member
  rw [(isSupported_of_paired ordered ⟨pair, member, List.mem_cons_self⟩).2.2]
  exact member

/-- A tag is paired in its own nesting. -/
lemma paired_iff {tag : Tag} :
    Pairing.Paired (Pairing.ofTags tags).pairs tag ↔
      Pairing.Paired (Pairing.ofClass tags tag.isSupported).pairs tag := by
  refine ⟨?_, fun ⟨pair, member, isEnd⟩ => ⟨pair, mem_pairs_ofTags.2 ⟨_, member⟩, isEnd⟩⟩
  rintro ⟨pair, member, isEnd⟩
  obtain ⟨supported, member⟩ := mem_pairs_ofTags.1 member
  have paired : Pairing.Paired (Pairing.ofClass tags supported).pairs tag := ⟨pair, member, isEnd⟩
  rw [(isSupported_of_paired ordered paired).2.2]
  exact paired

/-- A tag is reported in its own nesting. -/
lemma mem_unmatched_iff {tag : Tag} :
    tag ∈ (Pairing.ofTags tags).unmatched ↔
      tag ∈ (Pairing.ofClass tags tag.isSupported).unmatched := by
  refine ⟨fun member => ?_, fun member => mem_unmatched_ofTags.2 ⟨_, member⟩⟩
  obtain ⟨supported, member⟩ := mem_unmatched_ofTags.1 member
  rw [(isSupported_of_unmatched ordered member).2.2]
  exact member

/-- A tag is stood in for in its own nesting. -/
lemma stoodInFor_iff {tag : Tag} :
    Pairing.StoodInFor ((Pairing.ofTags tags).pairs.filter (·.opening.isSupported))
        (Pairing.ofTags tags).unmatched tag ↔
      Pairing.StoodInFor (Pairing.ofClass tags tag.isSupported).pairs
        (Pairing.ofClass tags tag.isSupported).unmatched tag := by
  refine and_congr_right fun form => and_congr_right fun single => ?_
  have supported : tag.isSupported = true := isSupported_of_not_mayReopen single
  have pairs : ∀ pair, pair ∈ (Pairing.ofTags tags).pairs.filter (·.opening.isSupported) ↔
      pair ∈ (Pairing.ofClass tags tag.isSupported).pairs := by
    intro pair
    rw [List.mem_filter, mem_pairs_iff ordered, supported]
    constructor
    · rintro ⟨member, isSupported⟩
      rw [isSupported] at member
      exact member
    · intro member
      have isSupported : pair.opening.isSupported = true :=
        (isSupported_of_paired ordered ⟨pair, member, List.mem_cons_self⟩).2.2
      rw [isSupported]
      exact ⟨member, rfl⟩
  have reported : ∀ earlier : Tag, earlier.name = tag.name →
      (earlier ∈ (Pairing.ofTags tags).unmatched ↔
        earlier ∈ (Pairing.ofClass tags tag.isSupported).unmatched) := by
    intro earlier name
    rw [mem_unmatched_iff ordered, isSupported_congr name]
  simp only [pairs]
  constructor
  · rintro ⟨earlier, member, opening, name, rest⟩
    exact ⟨earlier, (reported earlier name).1 member, opening, name, rest⟩
  · rintro ⟨earlier, member, opening, name, rest⟩
    exact ⟨earlier, (reported earlier name).2 member, opening, name, rest⟩

lemma start_injective {first second : Tag} (isFirst : first ∈ tags) (isSecond : second ∈ tags)
    (same : first.start = second.start) : first = second := by
  have distinct : (tags.map Tag.start).Nodup :=
    List.pairwise_map.2 (ordered.imp fun before => Nat.ne_of_lt before)
  exact List.inj_on_of_nodup_map distinct isFirst isSecond same

/-- No tag is in pairs of both nestings. -/
lemma nodup_ends : (((Pairing.ofClass tags true).pairs ++
    (Pairing.ofClass tags false).pairs).flatMap TagPair.tags).Nodup := by
  have nodup (supported : Bool) :
      ((Pairing.ofClass tags supported).pairs.flatMap TagPair.tags).Nodup := by
    obtain ⟨ledger, explains⟩ := exists_explains_ofClass ordered supported
    exact explains.nodup_pairs
  rw [List.flatMap_append]
  refine List.nodup_append.2 ⟨nodup true, nodup false, ?_⟩
  rintro tag first _ second rfl
  have isSupported := (isSupported_of_paired ordered (List.mem_flatMap.1 first)).2.2
  rw [(isSupported_of_paired ordered (List.mem_flatMap.1 second)).2.2] at isSupported
  exact nomatch isSupported

/-- No tag is reported by both nestings. -/
lemma nodup_reported :
    ((Pairing.ofClass tags true).unmatched ++ (Pairing.ofClass tags false).unmatched).Nodup := by
  have nodup (supported : Bool) : (Pairing.ofClass tags supported).unmatched.Nodup := by
    obtain ⟨ledger, explains⟩ := exists_explains_ofClass ordered supported
    exact explains.nodup_unmatched
  refine List.nodup_append.2 ⟨nodup true, nodup false, ?_⟩
  rintro tag first _ second rfl
  have isSupported := (isSupported_of_unmatched ordered first).2.2
  rw [(isSupported_of_unmatched ordered second).2.2] at isSupported
  exact nomatch isSupported

/-- **Pairing accounts for every tag** of a document. -/
theorem ofTags_accounts : Pairing.Accounts tags (Pairing.ofTags tags) := by
  refine ⟨?_, ?_, ?_, ?_, ?_, ?_, ?_, ?_⟩
  · intro pair member
    obtain ⟨supported, member⟩ := mem_pairs_ofTags.1 member
    obtain ⟨ledger, explains⟩ := exists_explains_ofClass ordered supported
    obtain ⟨opening, closing, joins⟩ := explains.joins pair member
    exact ⟨List.mem_of_mem_filter opening, List.mem_of_mem_filter closing, joins⟩
  · rw [ofTags_eq]
    exact ((List.mergeSort_perm _ _).flatMap_right _).nodup_iff.2 (nodup_ends ordered)
  · intro first isFirst second isSecond same
    rw [mem_pairs_iff ordered] at isFirst isSecond
    rw [← same] at isSecond
    obtain ⟨ledger, explains⟩ := exists_explains_ofClass ordered first.opening.isSupported
    exact explains.laminar first isFirst second isSecond
  · intro tag known form
    obtain ⟨ledger, explains⟩ := exists_explains_ofClass ordered tag.isSupported
    rw [paired_iff ordered, mem_unmatched_iff ordered, stoodInFor_iff ordered]
    exact explains.exactlyOne (List.mem_filter.2 ⟨known, by simp⟩) (by simp [Tag.takesPart, form])
  · intro tag known form
    have aside : ¬ tag.takesPart = true := by simp [Tag.takesPart, form]
    refine ⟨fun paired => aside ?_, fun unmatched => aside ?_⟩
    · exact (isSupported_of_paired ordered ((paired_iff ordered).1 paired)).2.1
    · exact (isSupported_of_unmatched ordered ((mem_unmatched_iff ordered).1 unmatched)).2.1
  · intro tag unmatched
    exact (isSupported_of_unmatched ordered ((mem_unmatched_iff ordered).1 unmatched)).1
  · rw [ofTags_eq]
    refine pairwise_lt_mergeSort Tag.start (List.Nodup.map_on ?_ (nodup_reported ordered))
    intro first isFirst second isSecond same
    have known : ∀ tag ∈ (Pairing.ofClass tags true).unmatched ++
        (Pairing.ofClass tags false).unmatched, tag ∈ tags := by
      intro tag member
      rcases List.mem_append.1 member with member | member
      · exact (isSupported_of_unmatched ordered member).1
      · exact (isSupported_of_unmatched ordered member).1
    exact start_injective ordered (known first isFirst) (known second isSecond) same
  · rw [ofTags_eq]
    refine pairwise_lt_mergeSort (fun pair : TagPair => pair.opening.start) ?_
    have openings := (nodup_ends ordered).sublist (openings_sublist _)
    rw [show (fun pair : TagPair => pair.opening.start) = Tag.start ∘ TagPair.opening from rfl,
      ← List.map_map]
    refine List.Nodup.map_on ?_ openings
    intro first isFirst second isSecond same
    have known : ∀ tag ∈ ((Pairing.ofClass tags true).pairs ++
        (Pairing.ofClass tags false).pairs).map TagPair.opening, tag ∈ tags := by
      intro tag member
      obtain ⟨pair, isPair, rfl⟩ := List.mem_map.1 member
      rcases List.mem_append.1 isPair with isPair | isPair
      · exact (isSupported_of_paired ordered ⟨pair, isPair, List.mem_cons_self⟩).1
      · exact (isSupported_of_paired ordered ⟨pair, isPair, List.mem_cons_self⟩).1
    exact start_injective ordered (known first isFirst) (known second isSecond) same

/-- **The tags of the vocabulary are reported as if there were no others.** -/
theorem unmatched_ofTags_supported : (Pairing.ofTags tags).unmatched.filter Tag.isSupported =
    (Pairing.ofTags (tags.filter Tag.isSupported)).unmatched := by
  have supportedOrder := ordered.filter Tag.isSupported
  have sameClass : Pairing.ofClass (tags.filter Tag.isSupported) true = Pairing.ofClass tags true := by
    rw [Pairing.ofClass, Pairing.ofClass, List.filter_filter]
    simp
  refine eq_of_mem_iff_of_lt Tag.start ((ofTags_accounts ordered).reportedInOrder.filter _)
    (ofTags_accounts supportedOrder).reportedInOrder fun tag => ?_
  rw [List.mem_filter, mem_unmatched_iff ordered, mem_unmatched_iff supportedOrder]
  cases supported : tag.isSupported with
  | true => rw [sameClass, and_iff_left rfl]
  | false =>
    refine iff_of_false (nomatch ·.2) fun reported => ?_
    have known := (isSupported_of_unmatched supportedOrder reported).1
    exact Bool.noConfusion (supported.symm.trans (List.mem_filter.1 known).2)

end

/-- Tags that do not take part do not matter for the others. -/
theorem ofTags_append_of_not_takesPart {aside : List Tag}
    (selfClosing : ∀ tag ∈ aside, tag.takesPart = false) (tags : List Tag) :
    Pairing.ofTags (aside ++ tags) = Pairing.ofTags tags := by
  have passed {aside : List Tag} (selfClosing : ∀ tag ∈ aside, tag.takesPart = false)
      (tags : List Tag) : Pairing.ofNesting (aside ++ tags) = Pairing.ofNesting tags := by
    induction aside with
    | nil => rfl
    | cons tag rest ih =>
      obtain ⟨first, later⟩ := List.forall_mem_cons.1 selfClosing
      have form : tag.form = .selfClosing := by simpa [Tag.takesPart] using first
      rw [← ih later, Pairing.ofNesting, Pairing.ofNesting, pairingState, List.cons_append,
        List.foldl_cons, PairingState.step_selfClosing _ form]
      rfl
  have filtered (p : Tag → Bool) : ∀ tag ∈ aside.filter p, tag.takesPart = false :=
    fun tag member => selfClosing tag (List.mem_of_mem_filter member)
  unfold Pairing.ofTags
  rw [List.filter_append, List.filter_append, passed (filtered _), passed (filtered _)]

end GlassPrompt
