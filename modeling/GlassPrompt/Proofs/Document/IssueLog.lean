import GlassPrompt.Document.Parse
import GlassPrompt.Proofs.Document.StackDiscipline

/-!
# What building records

Besides its layout, building keeps a record: the issues, the tags that it has taken in and the number of
requests.  Text, regions and the closing of frames leave the record as it is; a tag adds itself and the
problems it has where it stands; and the tags without a partner are added at the end.

* `BuildState.Record` — the view of a building state.
* `BuildState.record_addTag`, `BuildState.record_finish` — what changes the record.
* `issues_build`, `unmatched_issues_build` — the issues of tags without a partner, behind the others.
* `Tag.opensRequest`, `repeated_issues_build` — the issues of repeated requests.
-/

namespace GlassPrompt

namespace BuildState

/-! ## The record of a building state -/

/-- The issues, the tags taken in and the number of requests. -/
structure Record where
  issues : List Issue
  tags : List Tag
  requests : Nat

/-- The record of a building state. -/
def record (state : BuildState) : Record :=
  ⟨state.issues, state.tags, state.requests⟩

section

variable (source : Text) (state : BuildState)

@[simp] lemma record_note (move : Move) : (state.note move).record = state.record := rfl

@[simp] lemma record_push (blocks : List Block) : (state.push blocks).record = state.record := by
  unfold push
  cases state.frames <;> rfl

@[simp] lemma record_openFrame (element : Element) (tag : Tag) :
    (state.openFrame element tag).record = state.record := rfl

@[simp] lemma record_addText (start stop : Nat) :
    (state.addText source start stop).record = state.record := by
  unfold addText
  rw [record_note]
  split
  · rfl
  · exact record_push state _

@[simp] lemma record_addRegion (region : Region) : (state.addRegion region).record = state.record := by
  rw [addRegion, record_note, record_push]

@[simp] lemma record_closeFrame (closing : Option Tag) (stop : Nat) :
    (state.closeFrame source closing stop).record = state.record := by
  unfold closeFrame
  cases state.frames with
  | nil => rfl
  | cons frame outer =>
    dsimp only
    rw [record_note, record_push]
    rfl

@[simp] lemma record_closeFrames (stop count : Nat) :
    (closeFrames source stop count state).record = state.record := by
  induction count generalizing state with
  | zero => rfl
  | succ count ih => rw [closeFrames, ih, record_closeFrame]

@[simp] lemma record_closeTag (tag : Tag) : (state.closeTag source tag).record = state.record := by
  unfold closeTag
  split
  · rw [record_push]
  · rw [record_closeFrame, record_closeFrames]

end

end BuildState

/-! ## What changes the record -/

/-- The tag opens a request, with or without a body. -/
def Tag.opensRequest (tag : Tag) : Bool :=
  tag.element? == some .request && tag.form != .closing

namespace BuildState

/-- The record after a tag with the given problems. -/
def Record.addTag (problems : List Problem) (tag : Tag) (record : Record) : Record where
  issues := record.issues ++ problems.map (⟨·, tag.span⟩)
  tags := record.tags ++ [tag]
  requests := record.requests + if tag.opensRequest then 1 else 0

/-- The record with the issues of the tags without a partner. -/
def Record.addUnmatched (record : Record) : Record where
  issues := record.issues ++
    (Pairing.ofTags (record.tags.filter Tag.isSupported)).unmatched.map unmatchedIssue
  tags := record.tags
  requests := record.requests

/-- The problems that a tag has where it stands. -/
def tagProblems (tag : Tag) (state : BuildState) : List Problem :=
  match tag.element?, tag.form with
  | none, _ => []
  | some _, .closing => []
  | some element, _ => state.openingProblems element tag

variable (source : Text) (state : BuildState)

lemma record_openTag (element : Element) (tag : Tag) :
    (state.openTag source element tag).record =
      ⟨state.issues ++ (state.openingProblems element tag).map (⟨·, tag.span⟩), state.tags,
        state.requests + if element = .request then 1 else 0⟩ := by
  by_cases request : element = .request
  · subst request
    unfold openTag
    dsimp only
    rw [reports_eq]
    split
    · rw [record_push]
      rfl
    · rw [record_openFrame, record_push]
      rfl
  · rw [openTag_other request, reports_eq, if_neg request]
    dsimp only
    split
    · rw [record_closeFrame, record_openFrame]
      rfl
    · rw [record_openFrame]
      rfl

lemma openingProblems_of_tags (element : Element) (tag : Tag) (tags : List Tag) :
    ({ state with tags := tags } : BuildState).openingProblems element tag =
      state.openingProblems element tag := rfl

/-- **A tag adds itself to the record, with its problems.** -/
theorem record_addTag (tag : Tag) :
    (state.addTag source tag).record = state.record.addTag (state.tagProblems tag) tag := by
  unfold addTag tagProblems Record.addTag Tag.opensRequest
  rw [record_note]
  cases named : tag.element? with
  | none =>
    dsimp only
    rw [record_push]
    simp [record]
  | some element =>
    cases form : tag.form with
    | closing =>
      dsimp only
      rw [record_closeTag]
      simp [record]
    | opening | selfClosing =>
      have request : (some element == some Element.request) = decide (element = .request) := by
        cases element <;> rfl
      dsimp only
      rw [record_openTag, request, openingProblems_of_tags]
      simp [record]

/-- **At the end, the tags without a partner are added to the issues.** -/
theorem record_finish : (state.finish source).record = state.record.addUnmatched := by
  have reports (covered : BuildState) :
      covered.reportUnmatched.record = covered.record.addUnmatched := by
    rw [reportUnmatched_eq]
    rfl
  unfold finish
  dsimp only
  rw [reports, record_closeFrames]
  exact congrArg Record.addUnmatched (record_addText source state state.position source.length)

lemma record_addToken_tag (tag : Tag) : (state.addToken source (.tag tag)).record =
    state.record.addTag ((state.addText source state.position tag.start).tagProblems tag) tag := by
  rw [← record_addText source state state.position tag.start, ← record_addTag]
  rfl

lemma record_addToken_region (region : Region) :
    (state.addToken source (.region region)).record = state.record :=
  (record_addRegion _ region).trans (record_addText source state _ _)

end BuildState

/-! ## Tags without a partner -/

namespace BuildState

variable {source : Text} {state : BuildState}

lemma kind_of_mem_openingProblems {element : Element} {tag : Tag} {problem : Problem}
    (member : problem ∈ state.openingProblems element tag) : problem.kind = .structural := by
  cases element with
  | role role =>
    rw [openingProblems] at member
    split at member
    · rw [List.mem_singleton.1 member]
      rfl
    · exact nomatch member
  | loop =>
    obtain ⟨key, -, found⟩ := List.mem_filterMap.1 member
    split at found
    · rw [← Option.some.inj found]
      rfl
    · exact nomatch found
  | request =>
    rcases List.mem_append.1 member with repeated | unknown
    · split at repeated
      · exact nomatch repeated
      · rw [List.mem_singleton.1 repeated]
        rfl
    · obtain ⟨setting, -, rfl⟩ := List.mem_map.1 unknown
      rfl
  | code => exact nomatch member

lemma kind_of_mem_tagProblems {tag : Tag} {problem : Problem}
    (member : problem ∈ state.tagProblems tag) : problem.kind = .structural := by
  unfold tagProblems at member
  split at member
  · exact nomatch member
  · exact nomatch member
  · exact kind_of_mem_openingProblems member

/-- No token adds the issue of a tag without a partner. -/
lemma unmatched_issues_addToken (token : Token) :
    (state.addToken source token).issues.filter (·.problem.kind == .unmatched) =
      state.issues.filter (·.problem.kind == .unmatched) := by
  cases token with
  | error e =>
    show (state.issues ++ [_]).filter _ = _
    rw [List.filter_append]
    exact List.append_nil _
  | region region =>
    have same : (state.addToken source (.region region)).issues = state.issues :=
      congrArg Record.issues (record_addToken_region source state region)
    rw [same]
  | tag tag =>
    have added : (state.addToken source (.tag tag)).issues = state.issues ++ _ :=
      congrArg Record.issues (record_addToken_tag source state tag)
    have structural : List.filter (fun issue : Issue => issue.problem.kind == .unmatched)
        (((state.addText source state.position tag.start).tagProblems tag).map (⟨·, tag.span⟩)) =
          [] := by
      refine List.filter_eq_nil_iff.2 fun issue member => ?_
      obtain ⟨problem, known, rfl⟩ := List.mem_map.1 member
      rw [kind_of_mem_tagProblems known]
      decide
    rw [added, List.filter_append, structural, List.append_nil]

lemma tags_addToken (token : Token) :
    (state.addToken source token).tags = state.tags ++ token.tag?.toList := by
  cases token with
  | error e => exact (List.append_nil _).symm
  | region region =>
    exact (congrArg Record.tags (record_addToken_region source state region)).trans
      (List.append_nil _).symm
  | tag tag => exact congrArg Record.tags (record_addToken_tag source state tag)

lemma tags_addTokens (tokens : List Token) :
    (tokens.foldl (addToken source) state).tags = state.tags ++ tokens.filterMap Token.tag? := by
  induction tokens generalizing state with
  | nil => exact (List.append_nil _).symm
  | cons token rest ih =>
    rw [List.foldl_cons, ih, tags_addToken, List.append_assoc]
    cases found : token.tag? <;> simp [found]

lemma unmatched_issues_addTokens (tokens : List Token) :
    (tokens.foldl (addToken source) state).issues.filter (·.problem.kind == .unmatched) =
      state.issues.filter (·.problem.kind == .unmatched) := by
  induction tokens generalizing state with
  | nil => rfl
  | cons token rest ih => rw [List.foldl_cons, ih, unmatched_issues_addToken]

end BuildState

lemma kind_unmatchedIssue (tag : Tag) : (BuildState.unmatchedIssue tag).problem.kind = .unmatched := by
  unfold BuildState.unmatchedIssue BuildState.unmatchedProblem
  split <;> rfl

/-- The issues of a document: those that its tokens add, and those of tags without a partner. -/
lemma issues_build (source : Text) (start : Nat) : (build source start).issues =
    ((scan source start).foldl (BuildState.addToken source) (.init start)).issues ++
      (Pairing.ofTags (supportedTags (scan source start))).unmatched.map
        BuildState.unmatchedIssue := by
  have tags := @BuildState.tags_addTokens source (.init start) (scan source start)
  have finished : (build source start).issues = _ ++ _ :=
    congrArg BuildState.Record.issues (BuildState.record_finish source
      ((scan source start).foldl (BuildState.addToken source) (.init start)))
  rw [finished, BuildState.record, tags]
  rfl

/-- **The issues of tags without a partner** are those of the pairing of all tags, in its order. -/
theorem unmatched_issues_build (source : Text) (start : Nat) :
    (build source start).issues.filter (·.problem.kind == .unmatched) =
      (Pairing.ofTags (supportedTags (scan source start))).unmatched.map
        BuildState.unmatchedIssue := by
  have others := @BuildState.unmatched_issues_addTokens source (.init start) (scan source start)
  rw [issues_build, List.filter_append, others, List.filter_map]
  refine congrArg (List.map _) (List.filter_eq_self.2 fun tag _ => ?_)
  rw [Function.comp_apply, kind_unmatchedIssue]
  rfl

/-! ## Repeated requests -/

/-- The tags that open requests, of a list of tokens. -/
def requestTags (tokens : List Token) : List Tag :=
  (tokens.filterMap Token.tag?).filter Tag.opensRequest

/-- The issue of a request behind another one. -/
def repeatedIssue (tag : Tag) : Issue :=
  ⟨.repeatedRequest, tag.span⟩

namespace BuildState

variable {source : Text} {state : BuildState}

lemma repeated_openingProblems (element : Element) (tag : Tag) :
    (state.openingProblems element tag).filter (· == .repeatedRequest) =
      if element = .request ∧ state.requests ≠ 0 then [.repeatedRequest] else [] := by
  cases element with
  | role role =>
    rw [openingProblems]
    split <;> rfl
  | loop =>
    rw [if_neg (fun request => nomatch request.1)]
    refine List.filter_eq_nil_iff.2 fun problem member => ?_
    obtain ⟨key, -, found⟩ := List.mem_filterMap.1 member
    split at found
    · simp [← Option.some.inj found]
    · exact nomatch found
  | request =>
    rw [openingProblems, List.filter_append]
    refine (congrArg (_ ++ ·) (List.filter_eq_nil_iff.2 fun problem member => ?_)).trans ?_
    · obtain ⟨setting, -, rfl⟩ := List.mem_map.1 member
      simp
    · by_cases first : state.requests = 0 <;> simp [first]
  | code => rfl

lemma repeated_tagProblems (tag : Tag) :
    (state.tagProblems tag).filter (· == .repeatedRequest) =
      if tag.opensRequest = true ∧ state.requests ≠ 0 then [.repeatedRequest] else [] := by
  unfold tagProblems Tag.opensRequest
  cases tag.element? with
  | none => rfl
  | some element =>
    cases tag.form with
    | closing => simp
    | opening | selfClosing =>
      dsimp only
      rw [repeated_openingProblems]
      simp

lemma requestTags_tag (tag : Tag) :
    requestTags [.tag tag] = if tag.opensRequest then [tag] else [] := by
  cases opens : tag.opensRequest <;> simp [requestTags, Token.tag?, opens]

lemma requests_addToken (token : Token) :
    (state.addToken source token).requests = state.requests + (requestTags [token]).length := by
  cases token with
  | error e => rfl
  | region region => exact congrArg Record.requests (record_addToken_region source state region)
  | tag tag =>
    have added : (state.addToken source (.tag tag)).requests = state.requests + _ :=
      congrArg Record.requests (record_addToken_tag source state tag)
    rw [added, requestTags_tag]
    split <;> rfl

/-- A token adds the issue of a repeated request if it opens one behind another. -/
lemma repeated_issues_addToken (token : Token) :
    (state.addToken source token).issues.filter (·.problem == .repeatedRequest) =
      state.issues.filter (·.problem == .repeatedRequest) ++
        ((requestTags [token]).drop (1 - state.requests)).map repeatedIssue := by
  cases token with
  | error e =>
    show (state.issues ++ [_]).filter _ = _ ++ ([].drop _).map _
    rw [List.filter_append, List.drop_nil]
    rfl
  | region region =>
    have same : (state.addToken source (.region region)).issues = state.issues :=
      congrArg Record.issues (record_addToken_region source state region)
    show _ = _ ++ ([].drop _).map _
    rw [same, List.drop_nil, List.map_nil, List.append_nil]
  | tag tag =>
    have added : (state.addToken source (.tag tag)).issues = state.issues ++ _ :=
      congrArg Record.issues (record_addToken_tag source state tag)
    have requests : (state.addText source state.position tag.start).requests = state.requests :=
      congrArg Record.requests (record_addText source state state.position tag.start)
    have repeated := @repeated_tagProblems (state.addText source state.position tag.start) tag
    rw [requests] at repeated
    rw [added, List.filter_append, List.filter_map, requestTags_tag]
    refine congrArg (_ ++ ·) ((congrArg (List.map _) repeated).trans ?_)
    by_cases opens : tag.opensRequest = true
    · cases count : state.requests with
      | zero => simp [opens]
      | succ before => simp [opens, repeatedIssue]
    · simp [opens]

/-- **The issues of repeated requests**, of any number of tokens: the first request has none, if none
has been opened before. -/
theorem repeated_issues_addTokens (tokens : List Token) :
    (tokens.foldl (addToken source) state).issues.filter (·.problem == .repeatedRequest) =
      state.issues.filter (·.problem == .repeatedRequest) ++
        ((requestTags tokens).drop (1 - state.requests)).map repeatedIssue := by
  induction tokens generalizing state with
  | nil => simp [requestTags]
  | cons token rest ih =>
    have tags : requestTags (token :: rest) = requestTags [token] ++ requestTags rest := by
      rw [requestTags, requestTags, requestTags, ← List.filter_append, ← List.filterMap_append]
      rfl
    rw [List.foldl_cons, ih, repeated_issues_addToken, requests_addToken, tags, List.drop_append,
      List.map_append, List.append_assoc, Nat.sub_add_eq]

end BuildState

/-- **The issues of repeated requests of a document**: one for each request behind the first one. -/
theorem repeated_issues_build (source : Text) (start : Nat) :
    (build source start).issues.filter (·.problem == .repeatedRequest) =
      ((requestTags (scan source start)).drop 1).map repeatedIssue := by
  have read := @BuildState.repeated_issues_addTokens source (.init start) (scan source start)
  have others (tags : List Tag) : tags.filter
      ((·.problem == .repeatedRequest) ∘ BuildState.unmatchedIssue) = [] := by
    refine List.filter_eq_nil_iff.2 fun tag _ same => ?_
    have kind := kind_unmatchedIssue tag
    rw [beq_iff_eq.1 same] at kind
    exact nomatch kind
  rw [issues_build, List.filter_append, read, List.filter_map, others]
  exact List.append_nil _

end GlassPrompt
