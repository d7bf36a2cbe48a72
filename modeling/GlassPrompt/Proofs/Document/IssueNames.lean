import GlassPrompt.Proofs.Document.IssueLog
import GlassPrompt.Proofs.Document.RegionBlocks
import GlassPrompt.Proofs.Markup.AttributeText
import GlassPrompt.Proofs.Markup.Matching
import GlassPrompt.Template.Reference

/-!
# Names in issues

The message of an issue is a fixed text around a name that stands in the document: of a tag, of an
attribute or of an argument.  Names are made of letters, digits and a few marks, so a message holds
nothing of the document that is not a name.

* `Problem.name?`, `Problem.QuotesName` — the name in the message of a problem.
* `Token.names`, `names_of_mem_scan` — the names in what scanning finds.
* `quotesName_of_parse` — what the issues of a document quote are names.
-/

namespace GlassPrompt

/-! ## Names -/

/-- A text of characters that an attribute name goes on with; tags and arguments have no others. -/
def IsNameText (text : Text) : Prop :=
  ∀ c ∈ text, isAttributeNameRest c = true

section

variable {c : Char}

lemma isAttributeNameRest_of_isTagNameRest (h : isTagNameRest c = true) :
    isAttributeNameRest c = true := by
  simp [isAttributeNameRest, h]

lemma isAttributeNameRest_of_isNameRest (h : isNameRest c = true) : isAttributeNameRest c = true := by
  simp only [isNameRest, Bool.or_eq_true] at h
  rcases h with word | dollar
  · simp [isAttributeNameRest, isTagNameRest, word]
  · simp [isAttributeNameRest, dollar]

lemma isTagNameRest_of_isAlpha (h : c.isAlpha = true) : isTagNameRest c = true := by
  simp [isTagNameRest, isWord, Char.isAlphanum, h]

lemma isNameText_cons {text : Text} (first : isAttributeNameRest c = true) (rest : IsNameText text) :
    IsNameText (c :: text) :=
  List.forall_mem_cons.2 ⟨first, rest⟩

end

lemma isNameText_of_isTagName {name : Text} (h : isTagName name = true) : IsNameText name := by
  cases name with
  | nil => exact nofun
  | cons c rest =>
    simp only [isTagName, Bool.and_eq_true, List.all_eq_true] at h
    refine isNameText_cons (isAttributeNameRest_of_isTagNameRest (isTagNameRest_of_isAlpha h.1)) ?_
    exact fun d member => isAttributeNameRest_of_isTagNameRest (h.2 d member)

lemma isNameText_of_readIdentifier? {text name rest : Text}
    (h : Text.readIdentifier? text = some (name, rest)) : IsNameText name := by
  cases text with
  | nil => simp [Text.readIdentifier?] at h
  | cons c cs =>
    simp only [Text.readIdentifier?] at h
    split at h
    · next first =>
      obtain ⟨rfl, -⟩ := Prod.mk.inj (Option.some.inj h)
      refine isNameText_cons (isAttributeNameRest_of_isNameRest (isNameRest_of_isNameStart first)) ?_
      exact fun d member => isAttributeNameRest_of_isNameRest (List.mem_takeWhile_imp member)
    · simp at h

/-! ## Names in problems -/

/-- The name in the message of a fault. -/
def LexicalFault.name? : LexicalFault → Option Text
  | .region | .comment => none
  | .tag name | .attributeValue name | .attributeExpression name => some name

/-- The name in the message of a problem that stands in the document. -/
def Problem.name? : Problem → Option Text
  | .lexical fault => fault.name?
  | .unknownSetting name | .unclosed name | .unopened name | .undeclared name => some name
  | .nestedRole _ | .loopWithout _ | .repeatedRequest => none

/-- What the message of a problem quotes is a name. -/
def Problem.QuotesName (problem : Problem) : Prop :=
  ∀ name ∈ problem.name?, IsNameText name

/-- A message without a name quotes none. -/
lemma Problem.QuotesName.of_none {problem : Problem} (h : problem.name? = none) :
    problem.QuotesName := by
  intro name quoted
  rw [h] at quoted
  simp at quoted

/-- A message that quotes one text quotes a name if that is one. -/
lemma Problem.QuotesName.of_some {problem : Problem} {name : Text} (h : problem.name? = some name)
    (isName : IsNameText name) : problem.QuotesName := by
  intro quoted same
  exact Option.some.inj (h.symm.trans same) ▸ isName

lemma IsNameText.bracket_not_mem {name : Text} (h : IsNameText name) : '[' ∉ name := by
  intro member
  exact absurd (h _ member) (by decide)

lemma bracket_not_mem_around {before name after : Text} (isName : IsNameText name)
    (free : '[' ∉ before) (freeBehind : '[' ∉ after) : '[' ∉ before ++ name ++ after := by
  simp only [List.mem_append, not_or]
  exact ⟨⟨free, isName.bracket_not_mem⟩, freeBehind⟩

/-- A message that quotes a name has no opening square bracket. -/
lemma Problem.QuotesName.bracket_not_mem {problem : Problem} (h : problem.QuotesName) :
    '[' ∉ problem.message := by
  cases problem with
  | lexical fault =>
    cases fault with
    | region | comment => decide +kernel
    | tag name | attributeValue name | attributeExpression name =>
      exact bracket_not_mem_around (h name rfl) (by decide +kernel) (by decide +kernel)
  | nestedRole role => cases role <;> decide +kernel
  | loopWithout missing => cases missing <;> decide +kernel
  | repeatedRequest => decide +kernel
  | unknownSetting name =>
    exact bracket_not_mem_around (h name rfl) (by decide +kernel) (by decide +kernel)
  | undeclared name =>
    exact @bracket_not_mem_around ['\''] _ _ (h name rfl) (by decide) (by decide +kernel)
  | unclosed name =>
    have opening := @bracket_not_mem_around ['<'] name "> tag requires a closing </".toList
      (h name rfl) (by decide) (by decide +kernel)
    exact bracket_not_mem_around (h name rfl) opening (by decide +kernel)
  | unopened name =>
    have closing := @bracket_not_mem_around "</".toList name "> has no matching <".toList
      (h name rfl) (by decide +kernel) (by decide +kernel)
    exact bracket_not_mem_around (h name rfl) closing (by decide +kernel)

/-! ## Names that are read -/

section

variable {tag name text key : Text} {value : AttributeValue} {rest : Text} {fault : LexicalFault}
  {attributes found : Attributes} {form : TagForm}

lemma key_of_readAttributeValue (h : readAttributeValue tag name text = .read key value rest) :
    key = name :=
  (writtenAs_of_readAttributeValue h).1

lemma fault_of_readAttributeValue (h : readAttributeValue tag name text = .broken fault) :
    fault.name? = some tag := by
  cases text with
  | nil =>
    obtain rfl := AttributeReading.broken.inj h
    rfl
  | cons c cs =>
    simp only [readAttributeValue] at h
    repeat' split at h
    all_goals simp only [AttributeReading.broken.injEq, reduceCtorEq] at h
    all_goals exact h ▸ rfl

lemma key_of_readAttribute (h : readAttribute tag text = .read key value rest) : IsNameText key := by
  cases text with
  | nil => simp [readAttribute] at h
  | cons c cs =>
    simp only [readAttribute] at h
    split at h
    · next first =>
      have isName : IsNameText (c :: cs.takeWhile isAttributeNameRest) :=
        isNameText_cons (isAttributeNameRest_of_isNameRest (isNameRest_of_isNameStart first))
          fun d member => List.mem_takeWhile_imp member
      split at h
      · exact key_of_readAttributeValue h ▸ isName
      · exact (AttributeReading.read.inj h).1 ▸ isName
    · simp at h

lemma fault_of_readAttribute (h : readAttribute tag text = .broken fault) :
    fault.name? = some tag := by
  cases text with
  | nil => simp [readAttribute] at h
  | cons c cs =>
    simp only [readAttribute] at h
    split at h
    · split at h
      · exact fault_of_readAttributeValue h
      · simp at h
    · simp at h

lemma fault_of_readAttributes (h : readAttributes name attributes text = .broken fault) :
    fault.name? = some name := by
  fun_induction readAttributes name attributes text with
  | case1 => exact TagReading.broken.inj h ▸ rfl
  | case2 => simp at h
  | case3 => simp at h
  | case4 => simp at h
  | case5 attributes text other broken =>
    obtain rfl := TagReading.broken.inj h
    exact fault_of_readAttribute broken
  | case6 attributes text key value after read _ _ _ ih => exact ih h

lemma keys_of_readAttributes (h : readAttributes name attributes text = .read key found form rest)
    (known : ∀ entry ∈ attributes, IsNameText entry.1) : ∀ entry ∈ found, IsNameText entry.1 := by
  fun_induction readAttributes name attributes text with
  | case1 => simp at h
  | case2 => exact (TagReading.read.inj h).2.1 ▸ known
  | case3 => exact (TagReading.read.inj h).2.1 ▸ known
  | case4 => simp at h
  | case5 => simp at h
  | case6 attributes text key value after read _ _ _ ih =>
    refine ih h fun entry member => ?_
    rcases mem_set member with rfl | before
    · exact key_of_readAttribute read
    · exact known entry before

lemma fault_of_readClosing (h : readClosing name text = .broken fault) :
    fault.name? = some name := by
  unfold readClosing at h
  split at h
  · exact TagReading.broken.inj h ▸ rfl
  · simp at h
  · simp at h

lemma name_of_readTagName_broken {reader : Text → Text → TagReading}
    (h : readTagName reader text = .broken fault) :
    ∃ called after, isTagName called = true ∧ reader called after = .broken fault := by
  cases text with
  | nil => simp [readTagName] at h
  | cons c cs =>
    simp only [readTagName] at h
    split at h
    · next letter =>
      refine ⟨_, _, ?_, h⟩
      simp only [isTagName, letter, Bool.true_and, List.all_takeWhile]
    · simp at h

/-- A tag that is left open is reported by its name. -/
lemma fault_of_readTag (h : readTag text = .broken fault) :
    ∃ called, fault.name? = some called ∧ isTagName called = true := by
  unfold readTag at h
  split at h
  · obtain ⟨called, after, isName, broken⟩ := name_of_readTagName_broken h
    exact ⟨called, fault_of_readClosing broken, isName⟩
  · obtain ⟨called, after, isName, broken⟩ := name_of_readTagName_broken h
    exact ⟨called, fault_of_readAttributes broken, isName⟩

lemma keys_of_readTag (h : readTag text = .read name found form rest) :
    ∀ entry ∈ found, IsNameText entry.1 := by
  unfold readTag at h
  split at h
  · obtain ⟨called, behind, -, -, read⟩ := readTagName_eq_read h
    obtain rfl := attributes_of_readClosing read
    exact nofun
  · obtain ⟨called, behind, -, -, read⟩ := readTagName_eq_read h
    exact keys_of_readAttributes read nofun

end

/-! ## Names in tokens -/

/-- The names in a token. -/
def Token.names : Token → List Text
  | .tag t => t.name :: t.attributes.map Prod.fst
  | .region _ => []
  | .error e => e.fault.name?.toList

lemma fault_of_readToken {start : Nat} {c : Char} {rest : Text} {error : LexicalError}
    (found : (readToken start c rest).1 = some (.error error)) :
    error.fault.name? = none ∨ readTag rest = .broken error.fault := by
  unfold readToken at found
  split at found
  · split at found <;> simp at found
  · split at found
    · unfold readBrace at found
      split at found
      · exact .inl (Token.error.inj (Option.some.inj found) ▸ rfl)
      · simp at found
    · split at found
      · unfold readAngle at found
        split at found
        · split at found
          · exact .inl (Token.error.inj (Option.some.inj found) ▸ rfl)
          · simp at found
        · split at found
          · simp at found
          · next broken => exact .inr (Token.error.inj (Option.some.inj found) ▸ broken)
          · simp at found
      · simp at found

/-- **The names in what scanning finds are names.** -/
theorem names_of_mem_scan {text : Text} {start : Nat} {token : Token}
    (member : token ∈ scan text start) : ∀ name ∈ token.names, IsNameText name := by
  obtain ⟨c, rest, -, found⟩ := readToken_of_mem_scan member
  cases token with
  | region region => exact nofun
  | error error =>
    intro name known
    have quoted : error.fault.name? = some name := Option.mem_toList.1 known
    rcases fault_of_readToken found with nothing | broken
    · simp [nothing] at quoted
    · obtain ⟨called, same, isName⟩ := fault_of_readTag broken
      obtain rfl := Option.some.inj (same.symm.trans quoted)
      exact isNameText_of_isTagName isName
  | tag tag =>
    obtain ⟨-, after, read, -⟩ := readTag_of_readToken found
    refine List.forall_mem_cons.2 ⟨isNameText_of_isTagName (append_of_readTag read).1, ?_⟩
    intro name known
    obtain ⟨entry, among, rfl⟩ := List.mem_map.1 known
    exact keys_of_readTag read entry among

/-! ## Names in the issues of building -/

namespace BuildState

variable {source : Text} {state : BuildState}

lemma quotesName_of_tagProblems {tag : Tag} {problem : Problem}
    (member : problem ∈ state.tagProblems tag)
    (names : ∀ entry ∈ tag.attributes, IsNameText entry.1) : problem.QuotesName := by
  unfold tagProblems at member
  split at member
  · exact absurd member List.not_mem_nil
  · exact absurd member List.not_mem_nil
  · next element _ _ =>
    cases element with
    | role role =>
      rw [openingProblems] at member
      split at member
      · rw [List.mem_singleton.1 member]
        exact .of_none rfl
      · exact absurd member List.not_mem_nil
    | loop =>
      obtain ⟨key, -, found⟩ := List.mem_filterMap.1 member
      split at found
      · rw [← Option.some.inj found]
        exact .of_none rfl
      · exact absurd found (Option.some_ne_none _).symm
    | request =>
      rcases List.mem_append.1 member with repeated | unknown
      · split at repeated
        · exact absurd repeated List.not_mem_nil
        · rw [List.mem_singleton.1 repeated]
          exact .of_none rfl
      · obtain ⟨entry, known, rfl⟩ := List.mem_map.1 unknown
        exact .of_some rfl (names entry (List.mem_of_mem_filter known))
    | code => exact absurd member List.not_mem_nil

/-- A token adds issues that quote its names. -/
lemma quotesName_addToken {token : Token} (names : ∀ name ∈ token.names, IsNameText name)
    (before : ∀ issue ∈ state.issues, issue.problem.QuotesName) :
    ∀ issue ∈ (state.addToken source token).issues, issue.problem.QuotesName := by
  cases token with
  | error e =>
    refine List.forall_mem_append.2 ⟨before, List.forall_mem_singleton.2 ?_⟩
    exact fun name quoted => names name (Option.mem_toList.2 quoted)
  | region region =>
    have same : (state.addToken source (.region region)).issues = state.issues :=
      congrArg Record.issues (record_addToken_region source state region)
    exact same ▸ before
  | tag tag =>
    have added : (state.addToken source (.tag tag)).issues = state.issues ++ _ :=
      congrArg Record.issues (record_addToken_tag source state tag)
    rw [added]
    refine List.forall_mem_append.2 ⟨before, fun issue member => ?_⟩
    obtain ⟨problem, known, rfl⟩ := List.mem_map.1 member
    refine quotesName_of_tagProblems known fun entry among => names _ ?_
    exact List.mem_cons_of_mem _ (List.mem_map_of_mem among)

lemma quotesName_addTokens {tokens : List Token}
    (names : ∀ token ∈ tokens, ∀ name ∈ token.names, IsNameText name)
    (before : ∀ issue ∈ state.issues, issue.problem.QuotesName) :
    ∀ issue ∈ (tokens.foldl (addToken source) state).issues, issue.problem.QuotesName := by
  induction tokens generalizing state with
  | nil => exact before
  | cons token rest ih =>
    obtain ⟨here, later⟩ := List.forall_mem_cons.1 names
    exact ih later (quotesName_addToken here before)

end BuildState

/-- A tag without a partner is one of the document. -/
lemma mem_scan_of_unmatched {source : Text} {start : Nat} {tag : Tag}
    (unmatched : tag ∈ (Pairing.ofTags (supportedTags (scan source start))).unmatched) :
    .tag tag ∈ scan source start := by
  have supported : tag ∈ supportedTags (scan source start) :=
    (ofTags_accounts ((scan_tags_ordered source start).filter _)).reported tag unmatched
  exact mem_of_mem_tags (List.mem_of_mem_filter supported)

/-- The issues that building a document finds quote names only. -/
lemma quotesName_build (source : Text) (start : Nat) :
    ∀ issue ∈ (build source start).issues, issue.problem.QuotesName := by
  rw [issues_build]
  refine List.forall_mem_append.2 ⟨?_, fun issue member => ?_⟩
  · exact BuildState.quotesName_addTokens (fun token member => names_of_mem_scan member) nofun
  · obtain ⟨tag, unmatched, rfl⟩ := List.mem_map.1 member
    have isName : IsNameText tag.name :=
      names_of_mem_scan (mem_scan_of_unmatched unmatched) _ List.mem_cons_self
    intro name quoted
    unfold BuildState.unmatchedIssue BuildState.unmatchedProblem at quoted
    split at quoted <;> exact Option.some.inj quoted ▸ isName

/-! ## Names of arguments -/

lemma isNameText_of_referenceRoot? {expression name : Text}
    (h : referenceRoot? expression = some name) : IsNameText name := by
  unfold referenceRoot? at h
  split at h
  · simp at h
  · next read =>
    split at h
    · exact Option.some.inj h ▸ isNameText_of_readIdentifier? read
    · simp at h

lemma isNameText_of_referenceOf {bound : List Text} {expression : Text} {iterated : Bool} {span : Span} :
    ∀ reference ∈ referenceOf bound expression iterated span, IsNameText reference.name := by
  intro reference member
  unfold referenceOf at member
  split at member
  · exact nomatch member
  · next root =>
    split at member
    · exact nomatch member
    · obtain rfl := List.mem_singleton.1 member
      exact isNameText_of_referenceRoot? root

mutual

lemma isNameText_of_block (bound : List Text) : (block : Block) →
    ∀ reference ∈ block.references bound, IsNameText reference.name
  | .text .. | .code .. | .hoisted .. | .request .. => nofun
  | .interpolation source span => isNameText_of_referenceOf
  | .role _ _ _ children _ => isNameText_of_blocks bound children
  | .loop each item _ _ children span => by
    rw [Block.references]
    exact List.forall_mem_append.2 ⟨isNameText_of_referenceOf, isNameText_of_blocks _ children⟩

lemma isNameText_of_blocks (bound : List Text) : (blocks : List Block) →
    ∀ reference ∈ referencesOf bound blocks, IsNameText reference.name
  | [] => nofun
  | block :: rest => by
    rw [referencesOf]
    exact List.forall_mem_append.2 ⟨isNameText_of_block bound block, isNameText_of_blocks bound rest⟩

end

lemma firstReferences_subset (known : List Text) (references : List Reference) :
    Document.firstReferences known references ⊆ references := by
  induction references generalizing known with
  | nil => exact List.Subset.refl []
  | cons reference rest ih =>
    rw [Document.firstReferences]
    split
    · exact List.subset_cons_of_subset _ (ih known)
    · exact List.cons_subset_cons _ (ih _)

lemma quotesName_undeclared (document : Document) :
    ∀ issue ∈ document.undeclared, issue.problem.QuotesName := by
  unfold Document.undeclared
  split
  · exact nofun
  · intro issue member
    obtain ⟨reference, first, rfl⟩ := List.mem_map.1 member
    have isName : IsNameText reference.name :=
      isNameText_of_blocks _ _ reference (firstReferences_subset _ _ first)
    exact .of_some rfl isName

/-- **What the issues of a document quote are names.** -/
theorem quotesName_of_parse {source : Text} {document : Document}
    (h : Document.parse source = .ok document) :
    ∀ issue ∈ document.allIssues, issue.problem.QuotesName := by
  refine List.forall_mem_append.2 ⟨?_, quotesName_undeclared document⟩
  rw [issues_of_parse h]
  exact quotesName_build source document.contentStart

end GlassPrompt
