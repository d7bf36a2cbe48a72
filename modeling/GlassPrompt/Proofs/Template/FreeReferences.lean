import GlassPrompt.Proofs.Document.WalkOrder
import GlassPrompt.Proofs.Script.Scope

/-!
# Free references

An expression in a document refers to an argument at its place in the tree of blocks: a name is bound
there by the loops above, and everywhere by imports and hoisted code.  What a document needs and what
it has not declared are both read off the places with a free reference, in document order.

* `Place`, `placesOf` — the blocks of the walk, each with the blocks that it stands in
  (`block_placesOf`, `parent_of_mem_placesOf`).
* `Document.FreeAt`, `Document.FirstFreeAt` — a place refers freely to a name, and is the first to do
  so.
* `referencesOf_eq_filterMap` — the references of blocks are those of their places.
* `names_firstReferences`, `firstInOrder_firstReferences` — the first reference to each name, in order.
* `inferredArguments_undeclared` — what is inferred and what is undeclared, by free references.
-/

namespace GlassPrompt

/-! ## Places -/

/-- A block of a document at its place: with the blocks that it stands in, the innermost first. -/
structure Place where
  above : List Block
  block : Block

mutual

/-- The place of a block below some others, and all places inside it. -/
def Block.places (above : List Block) : Block → List Place
  | .role role openTag closeTag children span =>
    ⟨above, .role role openTag closeTag children span⟩ ::
      placesOf (.role role openTag closeTag children span :: above) children
  | .loop each item openTag closeTag children span =>
    ⟨above, .loop each item openTag closeTag children span⟩ ::
      placesOf (.loop each item openTag closeTag children span :: above) children
  | block => [⟨above, block⟩]

/-- The places of blocks below some others and of all blocks inside them, in document order. -/
def placesOf (above : List Block) : List Block → List Place
  | [] => []
  | block :: rest => block.places above ++ placesOf above rest

end

lemma placesOf_cons (above : List Block) (block : Block) (rest : List Block) :
    placesOf above (block :: rest) =
      ⟨above, block⟩ :: (placesOf (block :: above) block.children ++ placesOf above rest) := by
  cases block <;> simp [placesOf, Block.places, Block.children]

/-- The places are those of the walk. -/
lemma block_placesOf (above blocks : List Block) :
    (placesOf above blocks).map Place.block = walkBlocks blocks := by
  induction blocks using blocks_induction generalizing above with
  | nil => rfl
  | cons block rest inside behind =>
    rw [placesOf_cons, walkBlocks_cons, List.map_cons, List.map_append, inside, behind]

/-- A block stands among the children of the block right above it, and that one is at its own place with
the others above it. -/
lemma parent_of_mem_placesOf {above blocks : List Block} {place : Place}
    (member : place ∈ placesOf above blocks) :
    place.above = above ∧ place.block ∈ blocks ∨
      ∃ parent ∈ placesOf above blocks, place.above = parent.block :: parent.above ∧
        place.block ∈ parent.block.children := by
  induction blocks using blocks_induction generalizing above with
  | nil => exact nomatch member
  | cons block rest inside behind =>
    rw [placesOf_cons] at member ⊢
    rcases List.mem_cons.1 member with rfl | below
    · exact .inl ⟨rfl, List.mem_cons_self⟩
    · rcases List.mem_append.1 below with child | later
      · rcases inside child with ⟨here, isChild⟩ | ⟨parent, deeper, here, isChild⟩
        · exact .inr ⟨⟨above, block⟩, List.mem_cons_self, here, isChild⟩
        · exact .inr ⟨parent, List.mem_cons_of_mem _ (List.mem_append_left _ deeper), here, isChild⟩
      · rcases behind later with ⟨here, isLater⟩ | ⟨parent, deeper, here, isChild⟩
        · exact .inl ⟨here, List.mem_cons_of_mem _ isLater⟩
        · exact .inr ⟨parent, List.mem_cons_of_mem _ (List.mem_append_right _ deeper), here, isChild⟩

/-! ## Free references -/

/-- The expression in which a block may refer to an argument. -/
def Block.argumentExpression? : Block → Option Text
  | .interpolation source _ => some source
  | .loop each _ _ _ _ _ => some each
  | _ => none

/-- The name that a loop binds in its children. -/
def Block.item? : Block → Option Text
  | .loop _ item _ _ _ _ => some item
  | _ => none

/-- The block is a loop. -/
def Block.isLoop (block : Block) : Bool :=
  block.item?.isSome

namespace Document

/-- The places of a document, in document order. -/
def places (document : Document) : List Place :=
  placesOf [] document.blocks

/-- The place refers to the name, which no loop above it, no import and no hoisted code of the document
binds. -/
structure FreeAt (document : Document) (place : Place) (name : Text) : Prop where
  refers : ∃ expression, place.block.argumentExpression? = some expression ∧
    referenceRoot? expression = some name
  noLoop : ∀ block ∈ place.above, block.item? ≠ some name
  notImported : name ∉ document.importedNames
  notHoisted : ∀ source span, .hoisted source span ∈ walkBlocks document.blocks →
    name ∉ declaredNames source

/-- The place of this index is the first one in the document that refers freely to the name. -/
structure FirstFreeAt (document : Document) (name : Text) (index : Nat) (place : Place) : Prop where
  here : document.places[index]? = some place
  free : document.FreeAt place name
  first : ∀ earlier < index, ∀ other, document.places[earlier]? = some other →
    ¬ document.FreeAt other name

end Document

/-! ## References at places -/

/-- The names that loops among the blocks bind. -/
def itemsOf (above : List Block) : List Text :=
  above.filterMap Block.item?

/-- The reference at a place, unless its name is bound there. -/
def Place.reference? (bound : List Text) (place : Place) : Option Reference :=
  (place.block.argumentExpression?.bind referenceRoot?).bind fun name =>
    if (itemsOf place.above ++ bound).contains name then none
    else some ⟨name, place.block.isLoop, place.block.span⟩

lemma referenceOf_eq_toList (bound : List Text) (expression : Text) (iterated : Bool) (span : Span) :
    referenceOf bound expression iterated span =
      ((referenceRoot? expression).bind fun name =>
        if bound.contains name then none else some ⟨name, iterated, span⟩).toList := by
  unfold referenceOf
  cases referenceRoot? expression with
  | none => rfl
  | some name =>
    show (if bound.contains name then [] else _) = Option.toList (if _ then _ else _)
    split_ifs <;> rfl

lemma referencesOf_cons (above : List Block) (bound : List Text) (block : Block)
    (rest : List Block) :
    referencesOf (itemsOf above ++ bound) (block :: rest) =
      (Place.reference? bound ⟨above, block⟩).toList ++
        (referencesOf (itemsOf (block :: above) ++ bound) block.children ++
          referencesOf (itemsOf above ++ bound) rest) := by
  rw [referencesOf, ← List.append_assoc]
  congr 1
  cases block with
  | text | code | hoisted | request => rfl
  | role => rfl
  | interpolation source span =>
    rw [Block.references, referenceOf_eq_toList]
    exact (List.append_nil _).symm
  | loop each item openTag closeTag children span =>
    rw [Block.references, referenceOf_eq_toList]
    rfl

/-- **The references of blocks are those of their places**, in order: what is bound around a block is
what the loops above its place bind. -/
theorem referencesOf_eq_filterMap (above : List Block) (bound : List Text) (blocks : List Block) :
    referencesOf (itemsOf above ++ bound) blocks =
      (placesOf above blocks).filterMap (Place.reference? bound) := by
  induction blocks using blocks_induction generalizing above with
  | nil => rfl
  | cons block rest inside behind =>
    rw [referencesOf_cons, placesOf_cons, inside, behind, List.filterMap_cons, List.filterMap_append]
    cases Place.reference? bound ⟨above, block⟩ <;> rfl

namespace Document

variable {document : Document}

lemma references_eq_filterMap (document : Document) :
    document.references = document.places.filterMap (Place.reference? document.boundNames) :=
  referencesOf_eq_filterMap [] document.boundNames document.blocks

lemma mem_hoisted_iff {source : Text} : source ∈ document.hoisted ↔
    ∃ span, .hoisted source span ∈ walkBlocks document.blocks := by
  rw [hoisted, hoistedSources, List.mem_filterMap]
  constructor
  · rintro ⟨block, member, found⟩
    cases block with
    | hoisted source span =>
      obtain rfl := Option.some.inj found
      exact ⟨span, member⟩
    | text | interpolation | code | request | role | loop => exact nomatch found
  · rintro ⟨span, member⟩
    exact ⟨_, member, rfl⟩

lemma not_mem_boundNames_iff {name : Text} : name ∉ document.boundNames ↔
    name ∉ document.importedNames ∧ ∀ source span,
      .hoisted source span ∈ walkBlocks document.blocks → name ∉ declaredNames source := by
  rw [boundNames, List.mem_append, not_or, List.mem_flatMap]
  refine and_congr_right fun _ => ⟨fun none source span member declared => ?_, ?_⟩
  · exact none ⟨source, mem_hoisted_iff.2 ⟨span, member⟩, declared⟩
  · rintro none ⟨source, member, declared⟩
    obtain ⟨span, inside⟩ := mem_hoisted_iff.1 member
    exact none source span inside declared

/-- **A place has a reference exactly if it refers to a name freely.** -/
theorem reference?_eq_some_iff {place : Place} {reference : Reference} :
    place.reference? document.boundNames = some reference ↔
      document.FreeAt place reference.name ∧ reference.iterated = place.block.isLoop ∧
        reference.span = place.block.span := by
  constructor
  · intro found
    obtain ⟨name, root, free⟩ := Option.bind_eq_some_iff.1 found
    obtain ⟨expression, holds, refers⟩ := Option.bind_eq_some_iff.1 root
    split_ifs at free with bound
    obtain rfl := Option.some.inj free
    rw [List.contains_iff_mem, List.mem_append, not_or, not_mem_boundNames_iff] at bound
    refine ⟨⟨⟨expression, holds, refers⟩, fun block above binds => ?_, bound.2.1, bound.2.2⟩, rfl, rfl⟩
    exact bound.1 (List.mem_filterMap.2 ⟨block, above, binds⟩)
  · obtain ⟨name, iterated, span⟩ := reference
    rintro ⟨⟨⟨expression, holds, refers⟩, noLoop, notImported, notHoisted⟩, rfl, rfl⟩
    have unbound : name ∉ itemsOf place.above ++ document.boundNames := by
      rw [List.mem_append, not_or, not_mem_boundNames_iff]
      refine ⟨fun bound => ?_, notImported, notHoisted⟩
      obtain ⟨block, above, binds⟩ := List.mem_filterMap.1 bound
      exact noLoop block above binds
    rw [Place.reference?, holds, Option.bind_some, refers, Option.bind_some, if_neg]
    rwa [List.contains_iff_mem]

end Document

/-! ## The first reference to each name -/

lemma filter_eraseDups {α : Type} [BEq α] [LawfulBEq α] (p : α → Bool) : (list : List α) →
    (list.filter p).eraseDups = list.eraseDups.filter p
  | [] => rfl
  | a :: rest => by
    have shorter := filter_eraseDups p (rest.filter fun b => !b == a)
    rw [List.eraseDups_cons, List.filter_cons, List.filter_cons]
    split_ifs with keep
    · rw [List.eraseDups_cons, List.filter_comm, shorter]
    · rw [← shorter, List.filter_filter]
      congr 1
      refine List.filter_congr fun b _ => ?_
      cases same : b == a with
      | false => simp
      | true => simp [eq_of_beq same, keep]
termination_by list => list.length
decreasing_by exact Nat.lt_succ_of_le (List.length_filter_le _ _)

open Document in
/-- The names with a first reference, without those that are known. -/
lemma names_firstReferences (known : List Text) (references : List Reference) :
    (firstReferences known references).map Reference.name =
      ((references.map Reference.name).eraseDups).filter (!known.contains ·) := by
  induction references generalizing known with
  | nil => rfl
  | cons reference rest ih =>
    rw [firstReferences, List.map_cons, List.eraseDups_cons, List.filter_cons]
    by_cases isKnown : known.contains reference.name
    · simp only [isKnown, if_true, Bool.not_true, Bool.false_eq_true, if_false, ih,
        filter_eraseDups, List.filter_filter]
      refine List.filter_congr fun name _ => ?_
      cases same : name == reference.name with
      | false => simp
      | true => rw [eq_of_beq same, isKnown]; rfl
    · simp only [isKnown, Bool.false_eq_true, if_false, Bool.not_false, if_true, List.map_cons, ih,
        filter_eraseDups, List.filter_filter]
      refine congrArg _ (List.filter_congr fun name _ => ?_)
      rw [List.contains_cons, Bool.not_or, Bool.and_comm]

/-- The item of this index has the reference, and no item before it has one to the same name. -/
structure IsFirst {α : Type} (find : α → Option Reference) (items : List α) (index : Nat)
    (reference : Reference) : Prop where
  here : items[index]?.bind find = some reference
  first : ∀ earlier < index, ∀ other, items[earlier]?.bind find = some other →
    other.name ≠ reference.name

/-- References to names that are not known, each the first one to its name, one behind the other. -/
structure FirstInOrder {α : Type} (find : α → Option Reference) (items : List α) (known : List Text)
    (references : List Reference) : Prop where
  isFirst : ∀ reference ∈ references, reference.name ∉ known ∧
    ∃ index, IsFirst find items index reference
  ordered : references.Pairwise fun one other => ∃ index behind,
    IsFirst find items index one ∧ IsFirst find items behind other ∧ index < behind

section

variable {α : Type} {find : α → Option Reference} {item : α} {items : List α} {known : List Text}
  {reference : Reference} {references : List Reference}

/-- An item with another name, or with none, moves the index of the first reference. -/
lemma IsFirst.cons {index : Nat} (isFirst : IsFirst find items index reference)
    (apart : ∀ other, find item = some other → other.name ≠ reference.name) :
    IsFirst find (item :: items) (index + 1) reference where
  here := isFirst.here
  first earlier before other found := by
    cases earlier with
    | zero => exact apart other found
    | succ earlier => exact isFirst.first earlier (Nat.lt_of_succ_lt_succ before) other found

namespace FirstInOrder

/-- An item with a reference that is known, or with none. -/
lemma skip (order : FirstInOrder find items known references)
    (isKnown : ∀ other, find item = some other → other.name ∈ known) :
    FirstInOrder find (item :: items) known references := by
  have apart {reference : Reference} (member : reference ∈ references) :
      ∀ other, find item = some other → other.name ≠ reference.name := fun other found same =>
    (order.isFirst reference member).1 (same ▸ isKnown other found)
  constructor
  · intro reference member
    obtain ⟨new, index, isFirst⟩ := order.isFirst reference member
    exact ⟨new, index + 1, isFirst.cons (apart member)⟩
  · refine order.ordered.imp_of_mem ?_
    rintro one other oneMember otherMember ⟨index, behind, oneFirst, otherFirst, before⟩
    exact ⟨index + 1, behind + 1, oneFirst.cons (apart oneMember), otherFirst.cons (apart otherMember),
      Nat.succ_lt_succ before⟩

/-- An item with a reference to a new name comes before all others. -/
lemma push (order : FirstInOrder find items (reference.name :: known) references)
    (found : find item = some reference) (new : reference.name ∉ known) :
    FirstInOrder find (item :: items) known (reference :: references) := by
  have atHead : IsFirst find (item :: items) 0 reference :=
    ⟨found, fun _ before => absurd before (Nat.not_lt_zero _)⟩
  have later : FirstInOrder find (item :: items) (reference.name :: known) references :=
    order.skip fun other same => Option.some.inj (found.symm.trans same) ▸ List.mem_cons_self
  constructor
  · refine List.forall_mem_cons.2 ⟨⟨new, 0, atHead⟩, fun other member => ?_⟩
    obtain ⟨apart, isFirst⟩ := later.isFirst other member
    exact ⟨fun isKnown => apart (List.mem_cons_of_mem _ isKnown), isFirst⟩
  · refine List.pairwise_cons.2 ⟨fun other member => ?_, later.ordered⟩
    obtain ⟨apart, index, isFirst⟩ := later.isFirst other member
    have behind : 0 < index := by
      refine Nat.pos_of_ne_zero fun zero => apart ?_
      obtain rfl := Option.some.inj (atHead.here.symm.trans (zero ▸ isFirst.here))
      exact List.mem_cons_self
    exact ⟨0, index, atHead, isFirst, behind⟩

end FirstInOrder

/-- **The first references are in order.** -/
theorem firstInOrder_firstReferences (find : α → Option Reference) (known : List Text)
    (items : List α) :
    FirstInOrder find items known (Document.firstReferences known (items.filterMap find)) := by
  induction items generalizing known with
  | nil => exact ⟨nofun, .nil⟩
  | cons item rest ih =>
    cases found : find item with
    | none =>
      rw [List.filterMap_cons_none found]
      exact (ih known).skip fun other same => nomatch found.symm.trans same
    | some reference =>
      rw [List.filterMap_cons_some found, Document.firstReferences]
      split_ifs with isKnown
      · refine (ih known).skip fun other same => ?_
        obtain rfl := Option.some.inj (found.symm.trans same)
        exact List.contains_iff_mem.1 isKnown
      · exact (ih _).push found (mt List.contains_iff_mem.2 isKnown)

end

/-! ## What is inferred and what is undeclared -/

namespace Document

variable {document : Document}

lemma firstFreeAt_of_isFirst {index : Nat} {reference : Reference}
    (isFirst : IsFirst (Place.reference? document.boundNames) document.places index reference) :
    ∃ place, document.FirstFreeAt reference.name index place ∧
      reference.span = place.block.span := by
  obtain ⟨place, here, found⟩ := Option.bind_eq_some_iff.1 isFirst.here
  obtain ⟨free, -, span⟩ := reference?_eq_some_iff.1 found
  refine ⟨place, ⟨here, free, fun earlier before other there freeThere => ?_⟩, span⟩
  have known : document.places[earlier]?.bind (Place.reference? document.boundNames) =
      some ⟨reference.name, other.block.isLoop, other.block.span⟩ := by
    rw [there]
    exact reference?_eq_some_iff.2 ⟨freeThere, rfl, rfl⟩
  exact isFirst.first earlier before _ known rfl

lemma exists_reference_iff {name : Text} {p : Bool → Prop} :
    (∃ reference ∈ document.references, reference.name = name ∧ p reference.iterated) ↔
      ∃ place ∈ document.places, document.FreeAt place name ∧ p place.block.isLoop := by
  rw [references_eq_filterMap]
  constructor
  · rintro ⟨reference, member, rfl, holds⟩
    obtain ⟨place, inside, found⟩ := List.mem_filterMap.1 member
    obtain ⟨free, iterated, -⟩ := reference?_eq_some_iff.1 found
    exact ⟨place, inside, free, iterated ▸ holds⟩
  · rintro ⟨place, inside, free, holds⟩
    exact ⟨⟨name, place.block.isLoop, place.block.span⟩,
      List.mem_filterMap.2 ⟨place, inside, reference?_eq_some_iff.2 ⟨free, rfl, rfl⟩⟩, rfl, holds⟩

lemma names_inferred_eq (document : Document) :
    document.inferredArguments.map Declaration.name =
      (firstReferences [] document.references).map Reference.name := by
  rw [names_inferredArguments, names_firstReferences]
  exact (List.filter_eq_self.2 fun _ _ => rfl).symm

/-- The places of a document at which its first references stand. -/
lemma firstInOrder (document : Document) (known : List Text) :
    FirstInOrder (Place.reference? document.boundNames) document.places known
      (firstReferences known document.references) := by
  rw [references_eq_filterMap]
  exact firstInOrder_firstReferences _ known document.places

end Document

/-- **What is inferred and what is undeclared are the same free references.**  The names of the inferred
arguments are those with a free reference, each once, in the order of their first ones; a name is a list
if some free reference to it is what a loop runs over, and a string otherwise.  A document that declares
something has one issue for each of these names that it does not declare, in the same order, and each
issue stands at the first free reference to its name. -/
theorem inferredArguments_undeclared (document : Document) :
    (∀ name, name ∈ document.inferredArguments.map Declaration.name ↔
        ∃ place ∈ document.places, document.FreeAt place name) ∧
      (document.inferredArguments.map Declaration.name).Nodup ∧
      (document.inferredArguments.map Declaration.name).Pairwise (fun name other =>
        ∃ index place behind otherPlace, document.FirstFreeAt name index place ∧
          document.FirstFreeAt other behind otherPlace ∧ index < behind) ∧
      (∀ argument ∈ document.inferredArguments,
        (∃ place ∈ document.places, document.FreeAt place argument.name ∧ place.block.isLoop = true) ∧
            argument.type = "any[]".toList ∨
          (¬ ∃ place ∈ document.places, document.FreeAt place argument.name ∧
              place.block.isLoop = true) ∧
            argument.type = "string".toList) ∧
      (document.declarations ≠ [] → List.Forall₂
        (fun name issue => ∃ index place, document.FirstFreeAt name index place ∧
          issue = ⟨.undeclared name, place.block.span⟩)
        ((document.inferredArguments.map Declaration.name).filter fun name =>
          !(document.declarations.map Declaration.name).contains name)
        document.undeclared) := by
  refine ⟨fun name => ?_, ?_, ?_, fun argument member => ?_, fun nonempty => ?_⟩
  · rw [names_inferredArguments, List.mem_eraseDups, List.mem_map]
    have free : (∃ reference ∈ document.references, reference.name = name ∧ True) ↔
        ∃ place ∈ document.places, document.FreeAt place name ∧ True :=
      Document.exists_reference_iff (p := fun _ => True)
    simpa only [and_true] using free
  · rw [names_inferredArguments]
    exact nodup_eraseDups _
  · rw [Document.names_inferred_eq, List.pairwise_map]
    refine (document.firstInOrder []).ordered.imp ?_
    rintro reference other ⟨index, behind, isFirst, otherFirst, before⟩
    obtain ⟨place, free, -⟩ := Document.firstFreeAt_of_isFirst isFirst
    obtain ⟨otherPlace, otherFree, -⟩ := Document.firstFreeAt_of_isFirst otherFirst
    exact ⟨index, place, behind, otherPlace, free, otherFree, before⟩
  · obtain ⟨name, -, rfl⟩ := List.mem_map.1 member
    rw [← Document.exists_reference_iff (p := (· = true)), Document.inferredType]
    split_ifs with iterated
    · refine .inl ⟨?_, rfl⟩
      simpa [List.any_eq_true] using iterated
    · refine .inr ⟨?_, rfl⟩
      simpa [List.any_eq_true] using iterated
  · rw [Document.undeclared, if_neg (mt List.isEmpty_iff.1 nonempty), names_inferredArguments,
      ← names_firstReferences, List.forall₂_map_left_iff, List.forall₂_map_right_iff,
      List.forall₂_same]
    intro reference member
    obtain ⟨-, index, isFirst⟩ := (document.firstInOrder _).isFirst reference member
    obtain ⟨place, free, span⟩ := Document.firstFreeAt_of_isFirst isFirst
    exact ⟨index, place, free, by rw [span]⟩

/-- A loop in a loop: the inner one runs over a name that it also binds, and `x` is bound in the outer one
and free behind it. -/
def nestedLoops : Text :=
  ("---\nq: string\n---\n<For each=\x7bxs\x7d as=\"x\">\x7bx\x7d\x7by\x7d<For each=\x7by\x7d as=\"y\">" ++
    "\x7by.z\x7d</For></For>\x7bc\x7d\x7bq\x7d\x7bx\x7d<Code>\nconst c = 1\n</Code>").toList

/-- One issue for each of three names, at their first free references. -/
theorem inferredArguments_undeclared_nested : ∃ document,
    Document.parse nestedLoops = .ok document ∧ document.declarations ≠ [] ∧
      List.Forall₂
        (fun name issue => ∃ index place, document.FirstFreeAt name index place ∧
          issue = ⟨.undeclared name, place.block.span⟩)
        ["xs".toList, ['y'], ['x']] document.undeclared := by
  have computed : (Document.parse nestedLoops).map (fun document =>
      (document.declarations.isEmpty,
        (document.inferredArguments.map Declaration.name).filter fun name =>
          !(document.declarations.map Declaration.name).contains name)) =
      .ok (false, ["xs".toList, ['y'], ['x']]) := by decide +kernel
  obtain ⟨document, parsed, both⟩ := exists_parse computed
  obtain ⟨declares, names⟩ := Prod.mk.inj both
  have nonempty : document.declarations ≠ [] := by
    intro none
    rw [none] at declares
    exact nomatch declares
  refine ⟨document, parsed, nonempty, ?_⟩
  rw [← names]
  exact (inferredArguments_undeclared document).2.2.2.2 nonempty

end GlassPrompt
