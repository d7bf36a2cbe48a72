import GlassPrompt.Proofs.Document.RegionBlocks
import GlassPrompt.Template.Index

/-!
# Sharing slots only renames them

A template can be numbered in two ways.  Plainly every slot gets a number of its own; if slots are
shared, an occurrence takes the number of an earlier one with the same source.  The second numbering is
the first one with its numbers renamed.

* `placeEntry_indexed`, `numberParts_indexed` — numbers are given in order, without gaps.
* `Occurrence.Shares`, `Occurrence.OfKind` — when two occurrences share a number, and why they are then
  the same.
* `Renames` — a renaming of the plain entries to the shared ones; `Renames.place` extends it by one
  more occurrence, and `numberParts_renames` by a whole list of parts.
* `Template.Numbered`, `shared_renames_plain` — the two templates of a document.
-/

namespace GlassPrompt

/-! ## Numbers without gaps -/

/-- The entries have the numbers from zero on. -/
def Indexed (entries : List Entry) : Prop :=
  entries.map Entry.index = List.range entries.length

lemma Indexed.index_eq {entries : List Entry} (h : Indexed entries) {i : Nat} {entry : Entry}
    (at_ : entries[i]? = some entry) : entry.index = i := by
  have index : (entries.map Entry.index)[i]? = some entry.index := by
    rw [List.getElem?_map, at_, Option.map_some]
  rw [h, List.getElem?_range (List.getElem?_eq_some_iff.1 at_).1] at index
  exact (Option.some.inj index).symm

lemma Indexed.getElem?_index {entries : List Entry} (h : Indexed entries) {entry : Entry}
    (member : entry ∈ entries) : entries[entry.index]? = some entry := by
  obtain ⟨i, bound, rfl⟩ := List.mem_iff_getElem.1 member
  have at_ : entries[i]? = some entries[i] := List.getElem?_eq_getElem bound
  rw [h.index_eq at_, at_]

lemma Indexed.append {entries : List Entry} (h : Indexed entries) (occurrence : Occurrence) :
    Indexed (entries ++ [⟨entries.length, occurrence⟩]) := by
  unfold Indexed at h ⊢
  rw [List.map_append, h, List.length_append, List.length_singleton, List.range_succ]
  rfl

/-! ## Sharing -/

/-- Two occurrences may share a number: neither is a loop, and the sources are the same. -/
def Occurrence.Shares (first second : Occurrence) : Prop :=
  first.isLoop = false ∧ second.isLoop = false ∧ first.source = second.source

/-- An expression is no statement, and inline code is one. -/
def Occurrence.OfKind : Occurrence → Prop
  | .interpolation source => RegionKind.ofSource source = .interpolation
  | .code source => RegionKind.ofSource source = .code
  | .loop _ _ _ => True

lemma Occurrence.Shares.symm {first second : Occurrence} (h : first.Shares second) :
    second.Shares first :=
  ⟨h.2.1, h.1, h.2.2.symm⟩

/-- Occurrences that share a number are the same: their source tells of which kind they are. -/
lemma Occurrence.Shares.eq {first second : Occurrence} (h : first.Shares second)
    (isFirst : first.OfKind) (isSecond : second.OfKind) : first = second := by
  obtain ⟨firstNoLoop, secondNoLoop, source⟩ := h
  cases first with
  | loop => exact nomatch firstNoLoop
  | interpolation expression =>
    cases second with
    | loop => exact nomatch secondNoLoop
    | interpolation other => exact congrArg Occurrence.interpolation source
    | code other =>
      obtain rfl : expression = other := source
      exact nomatch isFirst.symm.trans isSecond
  | code statements =>
    cases second with
    | loop => exact nomatch secondNoLoop
    | interpolation other =>
      obtain rfl : statements = other := source
      exact nomatch isFirst.symm.trans isSecond
    | code other => exact congrArg Occurrence.code source

lemma sharedEntry?_eq_some {entries : List Entry} {occurrence : Occurrence} {entry : Entry}
    (h : sharedEntry? entries occurrence = some entry) :
    entry ∈ entries ∧ entry.occurrence.Shares occurrence := by
  unfold sharedEntry? at h
  split at h
  · simp at h
  · next noLoop =>
    have found := List.find?_some h
    simp only [Bool.and_eq_true, Bool.not_eq_true', beq_iff_eq] at found
    exact ⟨List.mem_of_find?_eq_some h, found.1, by simpa using noLoop, found.2⟩

lemma sharedEntry?_eq_none {entries : List Entry} {occurrence : Occurrence}
    (h : sharedEntry? entries occurrence = none) :
    ∀ entry ∈ entries, ¬ entry.occurrence.Shares occurrence := by
  rintro entry member ⟨entryNoLoop, noLoop, source⟩
  rw [ sharedEntry?, if_neg (by simp [noLoop]), List.find?_eq_none] at h
  exact h entry member (by simp [entryNoLoop, source])

/-- Placing an occurrence that may share: it takes the number of an entry, or the next number. -/
lemma placeEntry_shared (entries : List Entry) (occurrence : Occurrence) :
    (∃ entry ∈ entries, entry.occurrence.Shares occurrence ∧
        placeEntry true entries occurrence = (entry.index, entries)) ∨
      (∀ entry ∈ entries, ¬ entry.occurrence.Shares occurrence) ∧
        placeEntry true entries occurrence =
          (entries.length, entries ++ [⟨entries.length, occurrence⟩]) := by
  cases found : sharedEntry? entries occurrence with
  | some entry =>
    obtain ⟨member, shares⟩ := sharedEntry?_eq_some found
    exact .inl ⟨entry, member, shares, by simp [placeEntry, found]⟩
  | none => exact .inr ⟨sharedEntry?_eq_none found, by simp [placeEntry, found]⟩

/-- However an occurrence is placed, the numbers stay without gaps, and its own is the one that may be
new. -/
lemma placeEntry_indexed {entries : List Entry} (h : Indexed entries) (share : Bool)
    (occurrence : Occurrence) :
    Indexed (placeEntry share entries occurrence).2 ∧
      ∀ index, index < (placeEntry share entries occurrence).2.length ↔
        index < entries.length ∨ index = (placeEntry share entries occurrence).1 := by
  have fresh : Indexed (entries ++ [⟨entries.length, occurrence⟩]) ∧
      ∀ index, index < (entries ++ [(⟨entries.length, occurrence⟩ : Entry)]).length ↔
        index < entries.length ∨ index = entries.length := by
    refine ⟨h.append occurrence, fun index => ?_⟩
    rw [List.length_append, List.length_singleton, Nat.lt_succ_iff, Nat.le_iff_lt_or_eq]
  cases share with
  | false => exact fresh
  | true =>
    rcases placeEntry_shared entries occurrence with ⟨entry, member, -, placed⟩ | ⟨-, placed⟩
    · have bound := (List.getElem?_eq_some_iff.1 (h.getElem?_index member)).1
      rw [placed]
      refine ⟨h, fun index => ⟨.inl, ?_⟩⟩
      rintro (old | rfl)
      · exact old
      · exact bound
    · rw [placed]
      exact fresh

/-- **Numbers are given without gaps**, shared or not, and the slots hold all new ones. -/
theorem numberParts_indexed {entries : List Entry} (h : Indexed entries) (share : Bool)
    (parts : List Part) :
    Indexed (numberParts share entries parts).2 ∧
      ∀ index, index < (numberParts share entries parts).2.length ↔
        index < entries.length ∨ Piece.slot index ∈ (numberParts share entries parts).1 := by
  induction parts generalizing entries with
  | nil => exact ⟨h, fun index => by simp [numberParts]⟩
  | cons part rest ih =>
    cases part with
    | literal text =>
      obtain ⟨indexed, slots⟩ := ih h
      exact ⟨indexed, fun index => (slots index).trans (by simp [numberParts])⟩
    | slot occurrence =>
      obtain ⟨placed, bound⟩ := placeEntry_indexed h share occurrence
      obtain ⟨indexed, slots⟩ := ih placed
      refine ⟨indexed, fun index => (slots index).trans ?_⟩
      rw [bound index, or_assoc]
      simp [numberParts]

/-- The number in a slot. -/
def Piece.index? : Piece → Option Nat
  | .literal _ => none
  | .slot index => some index

/-- The numbers in the slots, in the order of the template. -/
def slots (pieces : List Piece) : List Nat :=
  pieces.filterMap Piece.index?

/-- Without sharing, the slots hold the numbers in their order. -/
lemma slots_numberParts_plain (entries : List Entry) (parts : List Part) :
    List.range entries.length ++ slots (numberParts false entries parts).1 =
      List.range (numberParts false entries parts).2.length := by
  induction parts generalizing entries with
  | nil => exact List.append_nil _
  | cons part rest ih =>
    cases part with
    | literal text => exact ih entries
    | slot occurrence =>
      have next := ih (entries ++ [⟨entries.length, occurrence⟩])
      rw [List.length_append, List.length_singleton, List.range_succ, List.append_assoc] at next
      exact next

lemma mem_numberParts_plain {entries : List Entry} {entry : Entry} (member : entry ∈ entries)
    (parts : List Part) : entry ∈ (numberParts false entries parts).2 := by
  induction parts generalizing entries with
  | nil => exact member
  | cons part rest ih =>
    cases part with
    | literal text => exact ih member
    | slot occurrence => exact ih (List.mem_append_left _ member)

/-- Without sharing, every slot has an entry of its own. -/
lemma exists_entry_of_slot_plain (entries : List Entry) {parts : List Part} {occurrence : Occurrence}
    (slot : Part.slot occurrence ∈ parts) :
    ∃ entry ∈ (numberParts false entries parts).2, entry.occurrence = occurrence := by
  induction parts generalizing entries with
  | nil => exact nomatch slot
  | cons part rest ih =>
    rcases List.mem_cons.1 slot with rfl | later
    · exact ⟨⟨entries.length, occurrence⟩,
        mem_numberParts_plain (List.mem_append_right _ List.mem_cons_self) rest, rfl⟩
    · cases part with
      | literal text => exact ih entries later
      | slot other => exact ih _ later

/-! ## Kinds in a template -/

mutual

lemma ofKind_of_mem_parts {block : Block} (kinds : ∀ inner ∈ block.walk, inner.OfKind)
    {occurrence : Occurrence} (member : Part.slot occurrence ∈ block.parts) :
    occurrence.OfKind := by
  cases block with
  | text | hoisted | request => simp [Block.parts] at member
  | interpolation source span =>
    obtain rfl : occurrence = .interpolation source := by simpa [Block.parts] using member
    exact kinds (.interpolation source span) List.mem_cons_self
  | code source span =>
    obtain rfl : occurrence = .code source := by simpa [Block.parts] using member
    exact kinds (.code source span) List.mem_cons_self
  | role speaker openTag closeTag children span =>
    have inside : Part.slot occurrence ∈ partsOf children := by simpa [Block.parts] using member
    exact ofKind_of_mem_partsOf (fun inner found => kinds inner (List.mem_cons_of_mem _ found)) inside
  | loop each item openTag closeTag children span =>
    obtain rfl : occurrence = .loop each item children := by simpa [Block.parts] using member
    exact trivial

/-- What stands in the slots of a template is of its kind, if the blocks are. -/
lemma ofKind_of_mem_partsOf {blocks : List Block} (kinds : ∀ inner ∈ walkBlocks blocks, inner.OfKind)
    {occurrence : Occurrence} (member : Part.slot occurrence ∈ partsOf blocks) :
    occurrence.OfKind := by
  cases blocks with
  | nil => simp [partsOf] at member
  | cons block rest =>
    rw [walkBlocks, List.forall_mem_append] at kinds
    rw [partsOf] at member
    rcases List.mem_append.1 member with here | later
    · exact ofKind_of_mem_parts kinds.1 here
    · exact ofKind_of_mem_partsOf kinds.2 later

end

/-! ## Renaming -/

/-- `f` renames the plain entries to the shared ones. -/
structure Renames (f : Nat → Nat) (plain shared : List Entry) : Prop where
  /-- An entry stands for the same under its new number. -/
  keeps : ∀ {i entry}, plain[i]? = some entry →
    ∃ kept, shared[f i]? = some kept ∧ kept.occurrence = entry.occurrence
  /-- Every new number is in use. -/
  onto : ∀ name < shared.length, ∃ i < plain.length, f i = name
  /-- New numbers are given in the order in which they are first needed. -/
  ordered : ∀ i < plain.length, ∀ name < f i, ∃ j < i, f j = name
  /-- Two entries get one number if their occurrences may share it, and only then. -/
  merges : ∀ {i j first second}, plain[i]? = some first → plain[j]? = some second → i ≠ j →
    (f i = f j ↔ first.occurrence.Shares second.occurrence)

namespace Renames

variable {f : Nat → Nat} {plain shared : List Entry}

lemma nil (f : Nat → Nat) : Renames f [] [] where
  keeps none := nomatch none
  onto _ none := nomatch none
  ordered _ none := nomatch none
  merges none := nomatch none

lemma lt (h : Renames f plain shared) {i : Nat} (bound : i < plain.length) : f i < shared.length := by
  obtain ⟨kept, at_, -⟩ := h.keeps (List.getElem?_eq_getElem bound)
  exact (List.getElem?_eq_some_iff.1 at_).1

/-- A shared entry stands for what some plain entry stands for. -/
lemma exists_plain (h : Renames f plain shared) {name : Nat} {kept : Entry}
    (at_ : shared[name]? = some kept) :
    ∃ i entry, plain[i]? = some entry ∧ f i = name ∧ entry.occurrence = kept.occurrence := by
  obtain ⟨i, bound, rfl⟩ := h.onto name (List.getElem?_eq_some_iff.1 at_).1
  have plainAt : plain[i]? = some plain[i] := List.getElem?_eq_getElem bound
  obtain ⟨same, sameAt, occurrence⟩ := h.keeps plainAt
  obtain rfl : same = kept := Option.some.inj (sameAt.symm.trans at_)
  exact ⟨i, plain[i], plainAt, rfl, occurrence.symm⟩

/-- The shared entries are those that one more occurrence leaves, at its number there is an entry for
it, and the plain entries with that number are those that it may share with. -/
structure Placed (f : Nat → Nat) (plain shared : List Entry) (occurrence : Occurrence)
    (placed : Nat × List Entry) : Prop where
  stays : ∀ {name : Nat} {entry : Entry}, shared[name]? = some entry → placed.2[name]? = some entry
  bound : placed.1 ≤ shared.length
  length : ∀ name, name < placed.2.length ↔ name < shared.length ∨ name = placed.1
  keeps : ∃ kept, placed.2[placed.1]? = some kept ∧ kept.occurrence = occurrence
  merges : ∀ {i : Nat} {entry : Entry}, plain[i]? = some entry →
    (f i = placed.1 ↔ entry.occurrence.Shares occurrence)

/-- **An occurrence that may share** finds the one entry that it shares with, or gets a new one. -/
lemma placed (h : Renames f plain shared) (numbered : Indexed shared)
    (kinds : ∀ entry ∈ plain, entry.occurrence.OfKind) {occurrence : Occurrence}
    (kind : occurrence.OfKind) :
    Placed f plain shared occurrence (placeEntry true shared occurrence) := by
  have length := (placeEntry_indexed numbered true occurrence).2
  rcases placeEntry_shared shared occurrence with ⟨known, member, shares, placed⟩ | ⟨new, placed⟩
  · -- The entry that is found stands for the occurrence itself, so for it alone.
    rw [placed] at length ⊢
    have knownAt := numbered.getElem?_index member
    obtain ⟨j, first, firstAt, name, same⟩ := h.exists_plain knownAt
    have equal : first.occurrence = occurrence :=
      Occurrence.Shares.eq (same ▸ shares) (kinds first (List.mem_of_getElem? firstAt)) kind
    have itself : occurrence.Shares occurrence := by rwa [← same, equal] at shares
    refine ⟨id, ((length _).2 (.inr rfl)).le, length, ⟨known, knownAt, same.symm.trans equal⟩, ?_⟩
    intro i entry entryAt
    rw [← name]
    by_cases here : i = j
    · subst here
      obtain rfl : entry = first := Option.some.inj (entryAt.symm.trans firstAt)
      exact iff_of_true rfl (equal ▸ itself)
    · rw [h.merges entryAt firstAt here, equal]
  · rw [placed] at length ⊢
    refine ⟨fun at_ => ?_, Nat.le_refl _, length,
      ⟨⟨shared.length, occurrence⟩, List.getElem?_concat_length, rfl⟩, fun {i entry} entryAt => ?_⟩
    · exact List.getElem?_append_left (List.getElem?_eq_some_iff.1 at_).1 ▸ at_
    · have before : f i < shared.length := h.lt (List.getElem?_eq_some_iff.1 entryAt).1
      obtain ⟨kept, keptAt, same⟩ := h.keeps entryAt
      have apart := new kept (List.mem_of_getElem? keptAt)
      exact iff_of_false before.ne (same ▸ apart)

/-- **Placing one more occurrence** extends the renaming by its number. -/
theorem place (h : Renames f plain shared) (numbered : Indexed shared)
    (kinds : ∀ entry ∈ plain, entry.occurrence.OfKind) {occurrence : Occurrence}
    (kind : occurrence.OfKind) :
    Renames (Function.update f plain.length (placeEntry true shared occurrence).1)
      (plain ++ [⟨plain.length, occurrence⟩]) (placeEntry true shared occurrence).2 := by
  have placed := h.placed numbered kinds kind
  generalize placeEntry true shared occurrence = next at placed ⊢
  have old {i : Nat} (bound : i < plain.length) : Function.update f plain.length next.1 i = f i :=
    Function.update_of_ne bound.ne _ f
  have new : Function.update f plain.length next.1 plain.length = next.1 :=
    Function.update_self _ _ f
  generalize Function.update f plain.length next.1 = g at old new ⊢
  -- An entry is one of the old ones, or it is the new one.
  have entries {i : Nat} {entry : Entry}
      (at_ : (plain ++ [⟨plain.length, occurrence⟩])[i]? = some entry) :
      (i < plain.length ∧ plain[i]? = some entry) ∨
        (i = plain.length ∧ entry = ⟨plain.length, occurrence⟩) := by
    rcases Nat.lt_trichotomy i plain.length with bound | rfl | beyond
    · rw [List.getElem?_append_left bound] at at_
      exact .inl ⟨bound, at_⟩
    · rw [List.getElem?_concat_length] at at_
      exact .inr ⟨rfl, (Option.some.inj at_).symm⟩
    · have := (List.getElem?_eq_some_iff.1 at_).1
      rw [List.length_append, List.length_singleton] at this
      omega
  have length : (plain ++ [(⟨plain.length, occurrence⟩ : Entry)]).length = plain.length + 1 :=
    List.length_append
  refine ⟨fun {i entry} at_ => ?keeps, fun name inUse => ?onto, fun i bound name below => ?ordered,
    fun {i j first second} firstAt secondAt apart => ?merges⟩
  case keeps =>
    rcases entries at_ with ⟨bound, plainAt⟩ | ⟨rfl, rfl⟩
    · obtain ⟨kept, keptAt, same⟩ := h.keeps plainAt
      exact ⟨kept, old bound ▸ placed.stays keptAt, same⟩
    · exact new ▸ placed.keeps
  case onto =>
    rw [length]
    rcases (placed.length name).1 inUse with before | rfl
    · obtain ⟨i, bound, renamed⟩ := h.onto name before
      exact ⟨i, bound.trans (Nat.lt_succ_self _), (old bound).trans renamed⟩
    · exact ⟨plain.length, Nat.lt_succ_self _, new⟩
  case ordered =>
    rw [length, Nat.lt_succ_iff_lt_or_eq] at bound
    rcases bound with bound | rfl
    · rw [old bound] at below
      obtain ⟨j, before, renamed⟩ := h.ordered i bound name below
      exact ⟨j, before, (old (before.trans bound)).trans renamed⟩
    · rw [new] at below
      obtain ⟨j, before, renamed⟩ := h.onto name (below.trans_le placed.bound)
      exact ⟨j, before, (old before).trans renamed⟩
  case merges =>
    rcases entries firstAt with ⟨firstBound, firstPlain⟩ | ⟨rfl, rfl⟩
    · rcases entries secondAt with ⟨secondBound, secondPlain⟩ | ⟨rfl, rfl⟩
      · rw [old firstBound, old secondBound]
        exact h.merges firstPlain secondPlain apart
      · rw [old firstBound, new]
        exact placed.merges firstPlain
    · rcases entries secondAt with ⟨secondBound, secondPlain⟩ | ⟨rfl, -⟩
      · rw [old secondBound, new, eq_comm, placed.merges secondPlain]
        exact ⟨Occurrence.Shares.symm, Occurrence.Shares.symm⟩
      · exact absurd rfl apart

end Renames

/-- A piece with its slot renamed. -/
def Piece.rename (f : Nat → Nat) : Piece → Piece
  | .literal text => .literal text
  | .slot index => .slot (f index)

/-- **Numbering a list of parts with shared slots** is numbering it plainly and renaming. -/
theorem numberParts_renames {f : Nat → Nat} {plain shared : List Entry}
    (h : Renames f plain shared) (numbered : Indexed shared)
    (kinds : ∀ entry ∈ plain, entry.occurrence.OfKind) {parts : List Part}
    (kind : ∀ occurrence, Part.slot occurrence ∈ parts → occurrence.OfKind) :
    ∃ g, (∀ i < plain.length, g i = f i) ∧
      Renames g (numberParts false plain parts).2 (numberParts true shared parts).2 ∧
      (numberParts true shared parts).1 = (numberParts false plain parts).1.map (Piece.rename g) := by
  induction parts generalizing f plain shared with
  | nil => exact ⟨f, fun _ _ => rfl, h, rfl⟩
  | cons part rest ih =>
    have later : ∀ occurrence, Part.slot occurrence ∈ rest → occurrence.OfKind :=
      fun occurrence member => kind occurrence (List.mem_cons_of_mem _ member)
    cases part with
    | literal text =>
      obtain ⟨g, agrees, renames, pieces⟩ := ih h numbered kinds later
      exact ⟨g, agrees, renames, congrArg (Piece.literal text :: ·) pieces⟩
    | slot occurrence =>
      have own := kind occurrence List.mem_cons_self
      obtain ⟨g, agrees, renames, pieces⟩ := ih (h.place numbered kinds own)
        (placeEntry_indexed numbered true occurrence).1
        (by simpa [or_imp, forall_and] using ⟨kinds, own⟩) later
      have length : plain.length < (plain ++ [(⟨plain.length, occurrence⟩ : Entry)]).length :=
        List.length_append ▸ Nat.lt_succ_self _
      refine ⟨g, fun i bound => ?_, renames, ?_⟩
      · rw [agrees i (bound.trans length), Function.update_of_ne bound.ne]
      · have here : g plain.length = (placeEntry true shared occurrence).1 := by
          rw [agrees _ length, Function.update_self]
        exact congrArg₂ (Piece.slot · :: ·) here.symm pieces

/-! ## The two templates of a document -/

/-- The numbers of a template have no gaps, each is in some slot, and each belongs either to the
entries that are evaluated once or to the loops. -/
structure Template.Numbered (template : Template) : Prop where
  indexed : Indexed template.entries
  slots : ∀ index, Piece.slot index ∈ template.pieces ↔ index < template.entries.length
  split : (template.interpolations.map Entry.index ++ template.loops.map Entry.index).Perm
    (List.range template.entries.length)

theorem Template.numbered (share : Bool) (blocks : List Block) :
    (Template.ofBlocks share blocks).Numbered := by
  obtain ⟨gapless, inSlots⟩ := numberParts_indexed (show Indexed [] from rfl) share
    (partsOf blocks)
  have indexed : Indexed (Template.ofBlocks share blocks).entries := gapless
  refine ⟨indexed, fun index => ?_, ?_⟩
  · have bound := inSlots index
    rw [List.length_nil, or_iff_right (Nat.not_lt_zero index)] at bound
    exact bound.symm
  rw [← indexed, ← List.map_append]
  have parted := List.filter_append_perm (fun entry : Entry => entry.occurrence.isLoop)
    (Template.ofBlocks share blocks).entries
  exact (List.perm_append_comm.trans parted).map Entry.index

/-- The shared template of a document is the plain one, renamed. -/
theorem exists_renames {source : Text} {document : Document}
    (parsed : Document.parse source = .ok document) :
    ∃ f, Renames f (Template.ofBlocks false document.blocks).entries
        (Template.ofBlocks true document.blocks).entries ∧
      (Template.ofBlocks true document.blocks).pieces =
        (Template.ofBlocks false document.blocks).pieces.map (Piece.rename f) := by
  have kind : ∀ occurrence, Part.slot occurrence ∈ partsOf document.blocks → occurrence.OfKind :=
    fun _ member => ofKind_of_mem_partsOf (fun _ found => ofKind_of_parse parsed found) member
  obtain ⟨f, -, renames, pieces⟩ :=
    numberParts_renames (Renames.nil id) rfl (fun _ none => nomatch none) kind
  exact ⟨f, renames, pieces⟩

/-- **Sharing slots only renames them.**  In the plain template of a document the slots hold the numbers
in order; in the shared one they hold new numbers for them, and the literal text is the same. -/
theorem shared_renames_plain {source : Text} {document : Document}
    (parsed : Document.parse source = .ok document) :
    let plain := Template.ofBlocks false document.blocks
    let shared := Template.ofBlocks true document.blocks
    plain.Numbered ∧ shared.Numbered ∧
      slots plain.pieces = List.range plain.entries.length ∧
      ∃ f, Renames f plain.entries shared.entries ∧
        shared.pieces = plain.pieces.map (Piece.rename f) :=
  ⟨Template.numbered false _, Template.numbered true _,
    slots_numberParts_plain [] (partsOf document.blocks), exists_renames parsed⟩

/-- An expression that is written twice shares its number, though the loop over it does not. -/
theorem shared_renames_plain_repeated : ∃ document,
    Document.parse "\x7bx\x7d<For each=\x7bx\x7d as=i />\x7b x \x7d".toList = .ok document ∧
      (Template.ofBlocks false document.blocks).text = "\x7b0\x7d\x7b1\x7d\x7b2\x7d".toList ∧
      (Template.ofBlocks true document.blocks).text = "\x7b0\x7d\x7b1\x7d\x7b0\x7d".toList ∧
      ∃ f, Renames f (Template.ofBlocks false document.blocks).entries
        (Template.ofBlocks true document.blocks).entries := by
  have texts : (Document.parse "\x7bx\x7d<For each=\x7bx\x7d as=i />\x7b x \x7d".toList).map
      (fun document => ((Template.ofBlocks false document.blocks).text,
        (Template.ofBlocks true document.blocks).text)) =
      .ok ("\x7b0\x7d\x7b1\x7d\x7b2\x7d".toList, "\x7b0\x7d\x7b1\x7d\x7b0\x7d".toList) := by
    decide +kernel
  obtain ⟨document, parsed, texts⟩ := exists_parse texts
  obtain ⟨plain, shared⟩ := Prod.mk.inj texts
  obtain ⟨-, -, -, f, renames, -⟩ := shared_renames_plain parsed
  exact ⟨document, parsed, plain, shared, f, renames⟩

end GlassPrompt
