import GlassPrompt.Editor.Diagnostic
import GlassPrompt.Editor.Folding
import GlassPrompt.Proofs.Markup.TokenStream
import GlassPrompt.Proofs.Markup.WellNested

/-!
# What an editor is told about tags

Diagnostics and folding both come from the pairing of a document's tags.  A document has no error
exactly if its frontmatter can be read and its tags are known and well nested, and what can be folded
are its pairs, the outer ones first.

* `tagsOf_ordered` — the tags of a document stand in order.
* `noErrors_iff` — a document without errors.
* `pairing_sound` — the pairing of tags, with what follows from it for diagnostics and folding.
-/

namespace GlassPrompt

theorem tagsOf_ordered (text : Text) :
    (tagsOf text).Pairwise fun first second => first.start < second.start :=
  scan_tags_ordered text 0

/-! ## Errors -/

/-- Nothing that is said about the document is an error. -/
def NoErrors (text : Text) : Prop :=
  ∀ diagnostic ∈ diagnostics text, diagnostic.severity ≠ .error

lemma noTagErrors_iff (text : Text) :
    (∀ diagnostic ∈ tagDiagnostics text, diagnostic.severity ≠ .error) ↔
      unmatchedTags text = [] ∧ unsupportedTags text = [] := by
  constructor
  · intro noErrors
    refine ⟨List.eq_nil_iff_forall_not_mem.2 fun tag member => ?_,
      List.eq_nil_iff_forall_not_mem.2 fun tag member => ?_⟩
    · exact noErrors _ (List.mem_append_left _ (List.mem_map_of_mem member)) rfl
    · exact noErrors _ (List.mem_append_right _ (List.mem_map_of_mem member)) rfl
  · rintro ⟨unmatched, unsupported⟩ diagnostic member
    rw [tagDiagnostics, unmatched, unsupported] at member
    exact nomatch member

/-- If all tags are of the vocabulary, there is one nesting. -/
lemma wellNested_of_supported {tags : List Tag} (supported : ∀ tag ∈ tags, tag.isSupported = true) :
    (WellNested (partnersOf true tags) ∧ WellNested (partnersOf false tags)) ↔
      WellNested (tags.filter Tag.takesPart) := by
  have all : partnersOf true tags = tags.filter Tag.takesPart :=
    List.filter_congr fun tag member => by simp [supported tag member]
  have none : partnersOf false tags = [] :=
    List.filter_eq_nil_iff.2 fun tag member => by simp [supported tag member]
  rw [all, none]
  exact and_iff_left .nil

/-- **A document has no errors** exactly if its frontmatter can be read, its tags are all of the
vocabulary, and they are well nested. -/
theorem noErrors_iff (text : Text) :
    NoErrors text ↔
      (∃ frontmatter, splitFrontmatter text = .ok frontmatter) ∧
        (∀ tag ∈ tagsOf text, tag.isSupported = true) ∧
        WellNested ((tagsOf text).filter Tag.takesPart) := by
  have tagErrors : (∀ diagnostic ∈ tagDiagnostics text, diagnostic.severity ≠ .error) ↔
      (∀ tag ∈ tagsOf text, tag.isSupported = true) ∧
        WellNested ((tagsOf text).filter Tag.takesPart) := by
    rw [noTagErrors_iff, unmatchedTags, unmatched_ofTags_eq_nil_iff, unsupportedTags,
      List.filter_eq_nil_iff, and_comm]
    have supported : (∀ tag ∈ tagsOf text, ¬ (!tag.isSupported) = true) ↔
        ∀ tag ∈ tagsOf text, tag.isSupported = true := by simp
    rw [supported]
    exact and_congr_right wellNested_of_supported
  rw [NoErrors, diagnostics, List.forall_mem_append, tagErrors, and_comm]
  refine and_congr_left fun _ => ?_
  unfold Document.parse
  cases split : splitFrontmatter text with
  | error e =>
    refine iff_of_false (fun noErrors => ?_) (fun ⟨_, read⟩ => nomatch read)
    exact noErrors _ (List.mem_singleton_self _) rfl
  | ok frontmatter =>
    refine iff_of_true ?_ ⟨frontmatter, rfl⟩
    intro diagnostic member
    obtain ⟨issue, -, rfl⟩ := List.mem_map.1 member
    exact nofun

/-! ## Soundness -/

/-- **Pairing is sound, complete and free of crossings**, for any tags in document order.  So the
errors of a document are those of its frontmatter and of its tags, and what can be folded are its
pairs. -/
theorem pairing_sound :
    (∀ tags : List Tag, tags.Pairwise (fun first second => first.start < second.start) →
      Pairing.Accounts tags (Pairing.ofTags tags) ∧
        ((Pairing.ofTags tags).unmatched = [] ↔
          WellNested (partnersOf true tags) ∧ WellNested (partnersOf false tags))) ∧
      ∀ text,
        (NoErrors text ↔
          (∃ frontmatter, splitFrontmatter text = .ok frontmatter) ∧
            (∀ tag ∈ tagsOf text, tag.isSupported = true) ∧
            WellNested ((tagsOf text).filter Tag.takesPart)) ∧
        Pairing.Accounts (tagsOf text) ⟨foldablePairs text, unmatchedTags text⟩ :=
  ⟨fun tags ordered => ⟨ofTags_accounts ordered, unmatched_ofTags_eq_nil_iff tags⟩,
    fun text => ⟨noErrors_iff text, ofTags_accounts (tagsOf_ordered text)⟩⟩

/-- The tags of `<User><System></User><System>`, one character each. -/
def reopenedTags : List Tag :=
  [⟨"User".toList, [], .opening, 0, 1⟩, ⟨"System".toList, [], .opening, 1, 2⟩,
    ⟨"User".toList, [], .closing, 2, 3⟩, ⟨"System".toList, [], .opening, 3, 4⟩]

theorem pairing_sound_reopened :
    reopenedTags.Pairwise (fun first second => first.start < second.start) ∧
      Pairing.Accounts reopenedTags (Pairing.ofTags reopenedTags) :=
  ⟨by decide, (pairing_sound.1 reopenedTags (by decide)).1⟩

/-- Without the pairs around them, an earlier tag of the same name does not tell the kinds apart: of
two tags of one name, both can be reported. -/
theorem not_exactlyOne_reopened :
    ¬ ∀ tags : List Tag, tags.Pairwise (fun first second => first.start < second.start) →
      ∀ tag ∈ tags, tag.form ≠ .selfClosing →
        ExactlyOne (Pairing.Paired (Pairing.ofTags tags).pairs tag)
          (tag ∈ (Pairing.ofTags tags).unmatched)
          (tag.form = .opening ∧ mayReopen tag.name = false ∧
            ∃ earlier ∈ (Pairing.ofTags tags).unmatched, earlier.form = .opening ∧
              earlier.name = tag.name ∧ earlier.start < tag.start) := by
  intro claim
  have reported : ∀ tag ∈ (Pairing.ofClass reopenedTags true).unmatched,
      tag ∈ (Pairing.ofTags reopenedTags).unmatched :=
    fun tag member => mem_unmatched_ofTags.2 ⟨true, member⟩
  have first := reported ⟨"System".toList, [], .opening, 1, 2⟩ (by decide)
  have second := reported ⟨"System".toList, [], .opening, 3, 4⟩ (by decide)
  rcases claim reopenedTags (by decide) ⟨"System".toList, [], .opening, 3, 4⟩ (by decide) (by decide)
    with ⟨-, notReported, -⟩ | ⟨-, -, notStoodIn⟩ | ⟨-, notReported, -⟩
  · exact notReported second
  · exact notStoodIn ⟨rfl, by decide, _, first, rfl, rfl, by decide⟩
  · exact notReported second

end GlassPrompt
