import GlassPrompt.Proofs.Document.Tiling

/-!
# Blocks in document order

The walk over the blocks of a document meets them in the order of their starts, and a leaf ends before
the next block starts.

* `blocks_induction` — induction over blocks, those inside a block before those behind it.
* `walkBlocks_cons`, `walkBlocks_children_subset` — the walk, block by block, and inside its blocks.
* `Block.Precedes`, `Laid.walk_pairwise` — the order of the walk of a tiling.
* `Laid.leaf_covers_none` — leaves do not overlap with other blocks.
-/

namespace GlassPrompt

/-! ## Induction over blocks -/

mutual

/-- What holds of no blocks, and of a block and others behind it if it holds of the children of the
block and of the others, holds of all blocks. -/
theorem blocks_induction {motive : List Block → Prop} (nil : motive [])
    (cons : ∀ block rest, motive block.children → motive rest → motive (block :: rest)) :
    ∀ blocks, motive blocks
  | [] => nil
  | block :: rest =>
    cons block rest (children_induction nil cons block) (blocks_induction nil cons rest)

theorem children_induction {motive : List Block → Prop} (nil : motive [])
    (cons : ∀ block rest, motive block.children → motive rest → motive (block :: rest)) :
    ∀ block : Block, motive block.children
  | .role _ _ _ children _ => blocks_induction nil cons children
  | .loop _ _ _ _ children _ => blocks_induction nil cons children
  | .text _ _ => nil
  | .interpolation _ _ => nil
  | .code _ _ => nil
  | .hoisted _ _ => nil
  | .request _ _ _ => nil

end

lemma walkBlocks_cons (block : Block) (rest : List Block) :
    walkBlocks (block :: rest) = block :: (walkBlocks block.children ++ walkBlocks rest) := by
  cases block <;> simp [walkBlocks, Block.walk, Block.children]

lemma mem_walkBlocks {block : Block} {blocks : List Block} (member : block ∈ blocks) :
    block ∈ walkBlocks blocks := by
  induction blocks with
  | nil => exact nomatch member
  | cons first rest ih =>
    rw [walkBlocks_cons]
    rcases List.mem_cons.1 member with rfl | later
    · exact List.mem_cons_self
    · exact List.mem_cons_of_mem _ (List.mem_append_right _ (ih later))

/-- What is inside a block of the walk is on the walk. -/
lemma walkBlocks_children_subset {block : Block} {blocks : List Block}
    (member : block ∈ walkBlocks blocks) : walkBlocks block.children ⊆ walkBlocks blocks := by
  induction blocks using blocks_induction with
  | nil => exact nomatch member
  | cons first rest inside behind =>
    rw [walkBlocks_cons] at member ⊢
    refine List.subset_cons_of_subset _ ?_
    rcases List.mem_cons.1 member with rfl | later
    · exact List.subset_append_left _ _
    · rcases List.mem_append.1 later with child | following
      · exact List.subset_append_of_subset_left _ (inside child)
      · exact List.subset_append_of_subset_right _ (behind following)

/-! ## The order of a tiling -/

/-- Of two members of an ordered list one stands before the other. -/
lemma precedes_or_follows {α : Type} {before : α → α → Prop} {items : List α}
    (ordered : items.Pairwise before) {first second : α} (isFirst : first ∈ items)
    (isSecond : second ∈ items) (other : first ≠ second) :
    before first second ∨ before second first :=
  have : Std.Symm fun a b => before a b ∨ before b a := ⟨fun _ _ => Or.symm⟩
  (ordered.imp .inl).forall (R := fun a b => before a b ∨ before b a) isFirst isSecond other

/-- The first block starts before the second one, and if it is a leaf, it also ends before. -/
def Block.Precedes (first second : Block) : Prop :=
  first.span.start < second.span.start ∧
    (first.element? = none → first.span.stop ≤ second.span.start)

/-- The children of a block tile a part of it behind its start. -/
lemma Block.CarriesSlice.children_tiles {source : Text} {tags : List Tag} {block : Block}
    (carries : block.CarriesSlice source tags) (nonempty : block.span.start < block.span.stop) :
    ∃ start stop, block.span.start < start ∧ stop ≤ block.span.stop ∧
      Tiles start stop block.children := by
  have encloses {span : Span} {openTag closeTag : Text} {children : List Block}
      (h : Encloses source span openTag closeTag children) :
      ∃ start stop, span.start < start ∧ stop ≤ span.stop ∧ Tiles start stop children :=
    ⟨_, _, Nat.lt_add_of_pos_right (List.length_pos_iff.2 h.opened), Nat.sub_le _ _, h.tiles⟩
  cases block with
  | role => exact encloses carries
  | loop => exact encloses carries
  | text | interpolation | code | hoisted | request => exact ⟨_, _, nonempty, Nat.le_refl _, rfl⟩

lemma children_eq_nil_of_leaf {block : Block} (leaf : block.element? = none) :
    block.children = [] := by
  cases block with
  | role | loop => exact nomatch leaf
  | text | interpolation | code | hoisted | request => rfl

/-- The walk of a tiling is in order, and no block on it is empty. -/
lemma Tiles.walk_ordered {source : Text} {tags : List Tag} (blocks : List Block) :
    ∀ {start stop : Nat}, Tiles start stop blocks →
      (∀ block ∈ walkBlocks blocks, block.CarriesSlice source tags) →
      (walkBlocks blocks).Pairwise Block.Precedes ∧ ∀ block ∈ walkBlocks blocks,
        start ≤ block.span.start ∧ block.span.start < block.span.stop ∧ block.span.stop ≤ stop := by
  induction blocks using blocks_induction with
  | nil => exact fun _ _ => ⟨.nil, nofun⟩
  | cons block rest inside behind =>
    intro start stop tiles carries
    obtain ⟨rfl, nonempty, restTiles⟩ := tiles
    rw [walkBlocks_cons] at carries ⊢
    obtain ⟨itself, others⟩ := List.forall_mem_cons.1 carries
    obtain ⟨children, following⟩ := List.forall_mem_append.1 others
    obtain ⟨first, last, opens, closes, childTiles⟩ := itself.children_tiles nonempty
    obtain ⟨childOrder, childBounds⟩ := inside childTiles children
    obtain ⟨restOrder, restBounds⟩ := behind restTiles following
    have restEnds := restTiles.le
    refine ⟨List.pairwise_cons.2 ⟨?_, List.pairwise_append.2 ⟨childOrder, restOrder, ?_⟩⟩, ?_⟩
    · intro other member
      rcases List.mem_append.1 member with child | later
      · have bounds := childBounds other child
        refine ⟨by omega, fun leaf => ?_⟩
        rw [children_eq_nil_of_leaf leaf] at child
        exact nomatch child
      · have bounds := restBounds other later
        exact ⟨by omega, fun _ => bounds.1⟩
    · intro child childMember later laterMember
      have childBound := childBounds child childMember
      have laterBound := restBounds later laterMember
      exact ⟨by omega, fun _ => by omega⟩
    · intro other member
      rcases List.mem_cons.1 member with rfl | member
      · exact ⟨Nat.le_refl _, nonempty, restEnds⟩
      · rcases List.mem_append.1 member with child | later
        · have bounds := childBounds other child
          omega
        · have bounds := restBounds other later
          omega

section

variable {source : Text} {tags : List Tag} {start stop : Nat} {blocks : List Block}
  (laid : Laid source tags start stop blocks)

include laid

/-- **The walk over blocks that tile a document is in document order.** -/
theorem Laid.walk_pairwise : (walkBlocks blocks).Pairwise Block.Precedes :=
  (Tiles.walk_ordered blocks laid.tiles laid.carries).1

theorem Laid.walk_nonempty {block : Block} (member : block ∈ walkBlocks blocks) :
    block.span.start < block.span.stop :=
  ((Tiles.walk_ordered blocks laid.tiles laid.carries).2 block member).2.1

/-- No leaf covers another block of the walk. -/
theorem Laid.leaf_covers_none {leaf block : Block} (isLeaf : leaf.element? = none)
    (leafMember : leaf ∈ walkBlocks blocks) (member : block ∈ walkBlocks blocks)
    (other : leaf ≠ block) :
    ¬ (leaf.span.start ≤ block.span.start ∧ block.span.stop ≤ leaf.span.stop) := by
  rintro ⟨starts, stops⟩
  have nonempty := laid.walk_nonempty member
  rcases precedes_or_follows laid.walk_pairwise leafMember member other with before | behind
  · have ends := before.2 isLeaf
    omega
  · have follows := behind.1
    omega

end

end GlassPrompt
