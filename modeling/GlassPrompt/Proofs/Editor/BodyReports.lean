import GlassPrompt.Editor.Diagnostic
import GlassPrompt.Editor.Folding
import GlassPrompt.Proofs.Document.Opening

/-!
# Frontmatter is not seen in the markup

An editor scans a whole document, frontmatter included, where compiling starts at the body.  Nothing in
frontmatter can start a tag, a region or an escape, so both find the same tokens.  Pairing compares
offsets and never looks at their values, so what is said about the tags of a document is what is said
about those of its body, moved on by the length of the frontmatter.

* `Tag.shift`, `Pairing.shift` — tags and pairings moved on.
* `ofTags_shift` — tags that are moved on are paired as before.
* `reports_behindFrontmatter` — the tokens, and the reports about tags, of a document with frontmatter.
-/

namespace GlassPrompt

/-! ## Moving tags -/

/-- The tag with its offsets moved on. -/
def Tag.shift (distance : Nat) (tag : Tag) : Tag :=
  { tag with start := distance + tag.start, stop := distance + tag.stop }

/-- The pair with the offsets of both tags moved on. -/
def TagPair.shift (distance : Nat) (pair : TagPair) : TagPair :=
  ⟨pair.opening.shift distance, pair.closing.shift distance⟩

/-- The pairing with the offsets of all its tags moved on. -/
def Pairing.shift (distance : Nat) (pairing : Pairing) : Pairing :=
  ⟨pairing.pairs.map (TagPair.shift distance), pairing.unmatched.map (Tag.shift distance)⟩

/-- The state with the offsets of all its tags moved on. -/
def PairingState.shift (distance : Nat) (state : PairingState) : PairingState where
  opened := state.opened.map (Tag.shift distance)
  pairs := state.pairs.map (TagPair.shift distance)
  unmatched := state.unmatched.map (Tag.shift distance)

section

variable (distance : Nat)

@[simp] lemma Tag.name_shift (tag : Tag) : (tag.shift distance).name = tag.name := rfl

@[simp] lemma Tag.isSupported_shift (tag : Tag) :
    (tag.shift distance).isSupported = tag.isSupported := rfl

lemma Tag.start_shift_le (first second : Tag) :
    decide (first.start ≤ second.start) =
      decide ((first.shift distance).start ≤ (second.shift distance).start) := by
  simp [Tag.shift]

lemma splitAtOpening?_shift (name : Text) (opened : List Tag) :
    splitAtOpening? name (opened.map (Tag.shift distance)) =
      (splitAtOpening? name opened).map fun (inner, opening, outer) =>
        (inner.map (Tag.shift distance), opening.shift distance, outer.map (Tag.shift distance)) := by
  induction opened with
  | nil => rfl
  | cons tag outer ih =>
    by_cases named : tag.name = name
    · simp [splitAtOpening?, named]
    · simp only [List.map_cons, splitAtOpening?, Tag.name_shift, named, if_false, ih,
        Option.map_map]
      rfl

lemma reportable_shift (seen : List Text) (tags : List Tag) :
    reportable seen (tags.map (Tag.shift distance)) =
      (reportable seen tags).map (Tag.shift distance) := by
  induction tags generalizing seen with
  | nil => rfl
  | cons tag inner ih =>
    simp only [List.map_cons, reportable, Tag.name_shift, ih]
    split <;> simp

lemma PairingState.step_shift (state : PairingState) (tag : Tag) :
    (state.shift distance).step (tag.shift distance) = (state.step tag).shift distance := by
  have moved : (tag.shift distance).form = tag.form := rfl
  cases form : tag.form with
  | selfClosing => rw [step_selfClosing _ (moved.trans form), step_selfClosing state form]
  | opening =>
    rw [step_opening _ (moved.trans form), step_opening state form]
    rfl
  | closing =>
    have found : splitAtOpening? (tag.shift distance).name (state.shift distance).opened = _ :=
      splitAtOpening?_shift distance tag.name state.opened
    cases split : splitAtOpening? tag.name state.opened with
    | none =>
      rw [split] at found
      rw [step_stray (moved.trans form) found, step_stray form split]
      simp [shift]
    | some parts =>
      obtain ⟨inner, opening, outer⟩ := parts
      rw [split] at found
      rw [step_closing (moved.trans form) found, step_closing form split]
      simp [shift, TagPair.shift, ← List.map_reverse, reportable_shift]

lemma pairingState_shift (tags : List Tag) :
    pairingState (tags.map (Tag.shift distance)) = (pairingState tags).shift distance := by
  have run (state : PairingState) : (tags.map (Tag.shift distance)).foldl PairingState.step
      (state.shift distance) = (tags.foldl PairingState.step state).shift distance := by
    induction tags generalizing state with
    | nil => rfl
    | cons tag rest ih =>
      rw [List.map_cons, List.foldl_cons, List.foldl_cons, PairingState.step_shift, ih]
  exact run .empty

lemma ofNesting_shift (tags : List Tag) :
    Pairing.ofNesting (tags.map (Tag.shift distance)) =
      (Pairing.ofNesting tags).shift distance := by
  rw [Pairing.ofNesting, pairingState_shift]
  simp [PairingState.finish, PairingState.shift, Pairing.shift, Pairing.ofNesting,
    ← List.map_reverse, reportable_shift]

lemma filter_shift {p : Tag → Bool} (same : ∀ tag, p (tag.shift distance) = p tag)
    (tags : List Tag) :
    (tags.map (Tag.shift distance)).filter p = (tags.filter p).map (Tag.shift distance) := by
  rw [List.filter_map]
  congr 2
  funext tag
  exact same tag

/-- **Tags that are moved on are paired as before**: both orders compare offsets only. -/
theorem ofTags_shift (tags : List Tag) :
    Pairing.ofTags (tags.map (Tag.shift distance)) = (Pairing.ofTags tags).shift distance := by
  rw [Pairing.ofTags, filter_shift distance (Tag.isSupported_shift distance),
    filter_shift distance (fun _ => rfl), ofNesting_shift, ofNesting_shift]
  simp only [Pairing.shift, Pairing.ofTags, ← List.map_append]
  congr 1
  · symm
    apply List.map_mergeSort
    intro first _ second _
    exact Tag.start_shift_le distance first.opening second.opening
  · symm
    apply List.map_mergeSort
    intro first _ second _
    exact Tag.start_shift_le distance first second

lemma tags_shift (tokens : List Token) :
    (tokens.map (Token.shift distance)).filterMap Token.tag? =
      (tokens.filterMap Token.tag?).map (Tag.shift distance) := by
  rw [List.filterMap_map, List.map_filterMap]
  congr 1
  funext token
  cases token <;> rfl

end

/-! ## Behind the frontmatter -/

section

variable {text : Text} {frontmatter : Frontmatter}
  (split : splitFrontmatter text = .ok frontmatter)

include split

/-- Scanning finds nothing in frontmatter. -/
lemma scan_frontmatter : scan text 0 = scan text frontmatter.bodyOffset := by
  have passed := scanFrom_plain 0 (isPlain_frontmatter split) (text.drop frontmatter.bodyOffset)
  rwa [List.take_append_drop, List.length_take_of_le (bodyOffset_le split), Nat.zero_add] at passed

/-- The tags of a document are those of its body, moved on. -/
lemma tagsOf_frontmatter :
    tagsOf text =
      (tagsOf (text.drop frontmatter.bodyOffset)).map (Tag.shift frontmatter.bodyOffset) := by
  have moved := scanFrom_shift frontmatter.bodyOffset 0 (text.drop frontmatter.bodyOffset)
  rw [tagsOf, scan_frontmatter split, tagsOf, ← tags_shift]
  exact congrArg _ moved

/-- **Frontmatter is not seen in the markup.**  A document has the same tokens scanned from its start
and from its body on, and the tags without a partner, the tags outside the vocabulary and the pairs that
can be folded are those of the body, moved on by the length of the frontmatter. -/
theorem reports_behindFrontmatter :
    scan text 0 = scan text frontmatter.bodyOffset ∧
      unmatchedTags text = (unmatchedTags (text.drop frontmatter.bodyOffset)).map
        (Tag.shift frontmatter.bodyOffset) ∧
      unsupportedTags text = (unsupportedTags (text.drop frontmatter.bodyOffset)).map
        (Tag.shift frontmatter.bodyOffset) ∧
      foldablePairs text = (foldablePairs (text.drop frontmatter.bodyOffset)).map
        (TagPair.shift frontmatter.bodyOffset) := by
  have pairing := congrArg Pairing.ofTags (tagsOf_frontmatter split)
  rw [ofTags_shift] at pairing
  refine ⟨scan_frontmatter split, congrArg Pairing.unmatched pairing, ?_,
    congrArg Pairing.pairs pairing⟩
  rw [unsupportedTags, tagsOf_frontmatter split, filter_shift _ (fun _ => rfl)]
  rfl

end

/-- Frontmatter, and a body with a pair, a tag outside the vocabulary and a tag that closes nothing. -/
def declaringDocument : Text :=
  "---\na: any[]\n\n---\n<User><b>\x7ba\x7d</User></For>".toList

/-- The pair and the tag that closes nothing stand behind eighteen characters of frontmatter. -/
theorem reports_behindFrontmatter_declaring :
    ∃ frontmatter, splitFrontmatter declaringDocument = .ok frontmatter ∧
      frontmatter.bodyOffset = 18 ∧
      unmatchedTags declaringDocument =
        (unmatchedTags "<User><b>\x7ba\x7d</User></For>".toList).map (Tag.shift 18) ∧
      (foldablePairs declaringDocument).map (·.opening.start) = [18] := by
  have split : splitFrontmatter declaringDocument = .ok ⟨[⟨['a'], "any[]".toList⟩], 18⟩ := by
    decide +kernel
  obtain ⟨-, unmatched, -, pairs⟩ := reports_behindFrontmatter split
  refine ⟨_, split, rfl, unmatched, ?_⟩
  rw [pairs]
  decide +kernel

end GlassPrompt
