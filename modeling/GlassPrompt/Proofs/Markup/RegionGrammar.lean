import GlassPrompt.Proofs.Markup.RegionSource

/-!
# The grammar of regions

The closing brace of a region is found by a machine with a depth and a mode.  What the machine accepts
is a recursive grammar: a region is a pair of braces around a script, and a script is a sequence of
regions, string literals, comments and single characters.

* `IsLiteralBody`, `IsScript`, `IsRegion` — the grammar.
* `braceLength?_script` — a script is read up to the brace behind it, at every depth.
* `exists_script` — what is read up to a brace is a script.
* `closesInBraces_iff_isScript` — the scripts that close between braces are those of the grammar.
* `regions_read` — from every opening brace of a text, the machine finds the end of the region that
  starts there, and there is at most one.
-/

namespace GlassPrompt

/-! ## The grammar -/

/-- What stands in a string literal that ends at `quote`; a backslash takes the next character with
it. -/
inductive IsLiteralBody (quote : Char) : Text → Prop
  | nil : IsLiteralBody quote []
  | escape {c : Char} {rest : Text} (more : IsLiteralBody quote rest) :
    IsLiteralBody quote ('\\' :: c :: rest)
  | plain {c : Char} {rest : Text} (notBackslash : c ≠ '\\') (notQuote : c ≠ quote)
    (more : IsLiteralBody quote rest) : IsLiteralBody quote (c :: rest)

/-- The text starts with the mark of a comment. -/
def StartsComment (text : Text) : Prop :=
  ['/', '/'] <+: text ∨ ['/', '*'] <+: text

/-- A sequence of regions, string literals, comments and single characters. -/
inductive IsScript : Text → Prop
  | nil : IsScript []
  | region {inside rest : Text} (nested : IsScript inside) (more : IsScript rest) :
    IsScript ('\x7b' :: inside ++ '\x7d' :: rest)
  | literal {quote : Char} {body rest : Text} (quotes : isQuote quote = true)
    (inside : IsLiteralBody quote body) (more : IsScript rest) :
    IsScript (quote :: body ++ quote :: rest)
  /-- A line comment ends at the next newline. -/
  | lineComment {body rest : Text} (oneLine : '\n' ∉ body) (more : IsScript rest) :
    IsScript ('/' :: '/' :: body ++ '\n' :: rest)
  /-- A block comment ends at the first `*/` behind its mark. -/
  | blockComment {body rest : Text} (noEnd : ¬ ['*', '/'] <:+: body ++ ['*'])
    (more : IsScript rest) : IsScript ('/' :: '*' :: body ++ '*' :: '/' :: rest)
  /-- Any other character stands for itself if it does not start a comment. -/
  | single {c : Char} {rest : Text} (noBrace : c ≠ '\x7b' ∧ c ≠ '\x7d')
    (noQuote : isQuote c = false) (noComment : ¬ StartsComment (c :: rest))
    (more : IsScript rest) : IsScript (c :: rest)

/-- A script between braces. -/
def IsRegion (text : Text) : Prop :=
  ∃ script, IsScript script ∧ text = '\x7b' :: script ++ ['\x7d']

lemma startsComment_cons {c : Char} {rest : Text} :
    StartsComment (c :: rest) ↔
      c = '/' ∧ (rest.head? = some '/' ∨ rest.head? = some '*') := by
  cases rest with
  | nil => simp [StartsComment]
  | cons d more =>
    simp only [StartsComment, List.cons_prefix_cons, List.nil_prefix, and_true, List.head?_cons,
      Option.some.injEq, eq_comm (a := '/'), eq_comm (a := '*')]
    tauto

/-! ## One character at a time -/

section

variable {depth : Int} {c : Char} {rest : Text}

/-- Outside code no brace counts. -/
lemma braceLength?_outsideCode (mode : ScriptMode) (outside : mode ≠ .code) :
    braceLength? mode depth (c :: rest) =
      (braceLength? (mode.next c rest.head?) depth rest).map (· + 1) := by
  rw [braceLength?, if_neg fun closes => outside closes.1]
  cases mode with
  | code => exact absurd rfl outside
  | quoted | escaped | commentStart | comment | commentEnd => rfl

/-- In code, a character that is no brace leaves the depth as it is. -/
lemma braceLength?_noBrace (noBrace : c ≠ '\x7b' ∧ c ≠ '\x7d') :
    braceLength? .code depth (c :: rest) =
      (braceLength? (ScriptMode.code.next c rest.head?) depth rest).map (· + 1) := by
  rw [braceLength?, if_neg fun closes => noBrace.2 closes.2.1]
  simp only [ScriptMode.depthAfter, if_neg noBrace.1, if_neg noBrace.2]

lemma braceLength?_openBrace :
    braceLength? .code depth ('\x7b' :: rest) =
      (braceLength? .code (depth + 1) rest).map (· + 1) := by
  rw [braceLength?, if_neg fun closes => absurd closes.2.1 (by decide)]
  rfl

end

/-- What is left to read behind a closing brace that brings the depth to `depth`: nothing if that is
zero. -/
def lengthBehind? (depth : Int) (behind : Text) : Option Nat :=
  if depth = 0 then some 0 else braceLength? .code depth behind

lemma braceLength?_closeBrace (depth : Int) (behind : Text) :
    braceLength? .code (depth + 1) ('\x7d' :: behind) =
      (lengthBehind? depth behind).map (· + 1) := by
  have drop : ScriptMode.code.depthAfter (depth + 1) '\x7d' = depth := by
    show depth + 1 - 1 = depth
    omega
  rw [braceLength?, lengthBehind?, drop]
  by_cases zero : depth = 0
  · rw [if_pos ⟨rfl, rfl, zero⟩, if_pos zero]
    rfl
  · rw [if_neg fun closes => zero closes.2.2, if_neg zero]
    rfl

lemma lengthBehind?_of_pos {depth : Int} (pos : 0 < depth) (behind : Text) :
    lengthBehind? depth behind = braceLength? .code depth behind :=
  if_neg (by omega)

/-! ## The machine accepts the grammar -/

section

variable (depth : Int) (behind : Text)

lemma braceLength?_literal {quote : Char} {body : Text} (quotes : isQuote quote = true)
    (inside : IsLiteralBody quote body) :
    braceLength? (.quoted quote) depth (body ++ quote :: behind) =
      (braceLength? .code depth behind).map (· + (body.length + 1)) := by
  have notBackslash : quote ≠ '\\' := by
    rintro rfl
    exact absurd quotes (by decide)
  induction inside with
  | nil =>
    rw [List.nil_append, braceLength?_outsideCode (.quoted quote) (by simp)]
    simp [ScriptMode.next, notBackslash]
  | @escape c rest _ ih =>
    rw [List.cons_append, List.cons_append, braceLength?_outsideCode (.quoted quote) (by simp)]
    simp only [ScriptMode.next, if_true]
    rw [braceLength?_outsideCode (.escaped quote) (by simp)]
    simp only [ScriptMode.next]
    rw [ih, Option.map_map, Option.map_map]
    rfl
  | @plain c rest noBackslash noQuote _ ih =>
    rw [List.cons_append, braceLength?_outsideCode (.quoted quote) (by simp)]
    simp only [ScriptMode.next, if_neg noBackslash, if_neg noQuote]
    rw [ih, Option.map_map]
    rfl

lemma braceLength?_lineComment {body : Text} (oneLine : '\n' ∉ body) :
    braceLength? (.comment false) depth (body ++ '\n' :: behind) =
      (braceLength? .code depth behind).map (· + (body.length + 1)) := by
  induction body with
  | nil =>
    rw [List.nil_append, braceLength?_outsideCode (.comment false) (by decide)]
    rfl
  | cons c rest ih =>
    rw [List.mem_cons, not_or] at oneLine
    rw [List.cons_append, braceLength?_outsideCode (.comment false) (by decide)]
    simp only [ScriptMode.next, if_neg (Ne.symm oneLine.1)]
    rw [ih oneLine.2, Option.map_map]
    rfl

lemma braceLength?_blockComment {body : Text} (noEnd : ¬ ['*', '/'] <:+: body ++ ['*']) :
    braceLength? (.comment true) depth (body ++ '*' :: '/' :: behind) =
      (braceLength? .code depth behind).map (· + (body.length + 2)) := by
  induction body with
  | nil =>
    rw [List.nil_append, braceLength?_outsideCode (.comment true) (by decide)]
    simp only [ScriptMode.next, List.head?_cons, and_self, if_true]
    rw [braceLength?_outsideCode .commentEnd (by decide), Option.map_map]
    rfl
  | cons c rest ih =>
    rw [List.cons_append, List.infix_cons_iff, not_or] at noEnd
    -- The character and what follows it are no `*/`, even where the body ends.
    have stays : ¬ (c = '*' ∧ (rest ++ '*' :: '/' :: behind).head? = some '/') := by
      rintro ⟨rfl, ahead⟩
      cases rest with
      | nil => exact absurd ahead (by simp)
      | cons d more =>
        obtain rfl : d = '/' := Option.some.inj ahead
        exact noEnd.1 ⟨more ++ ['*'], rfl⟩
    rw [List.cons_append, braceLength?_outsideCode (.comment true) (by decide)]
    simp only [ScriptMode.next, if_neg stays]
    rw [ih noEnd.2, Option.map_map]
    rfl

end

/-- A character that stands for itself is read in code, whatever the brace behind the script. -/
lemma next_of_noComment {c : Char} {rest : Text} (noQuote : isQuote c = false)
    (noComment : ¬ StartsComment (c :: rest)) (behind : Text) :
    ScriptMode.code.next c (rest ++ '\x7d' :: behind).head? = .code := by
  rw [startsComment_cons] at noComment
  have noMark {mark : Char} (isMark : mark = '/' ∨ mark = '*') :
      ¬ (c = '/' ∧ (rest ++ '\x7d' :: behind).head? = some mark) := by
    rintro ⟨slash, ahead⟩
    cases rest with
    | nil =>
      obtain rfl : '\x7d' = mark := Option.some.inj ahead
      exact absurd isMark (by decide)
    | cons d more =>
      rcases isMark with rfl | rfl
      · exact noComment ⟨slash, .inl ahead⟩
      · exact noComment ⟨slash, .inr ahead⟩
  simp only [ScriptMode.next, noQuote, Bool.false_eq_true, if_false, if_neg (noMark (.inl rfl)),
    if_neg (noMark (.inr rfl))]

lemma map_add_map_add {length : Option Nat} {m n total : Nat} (sum : m + n = total) :
    (length.map (· + m)).map (· + n) = length.map (· + total) := by
  subst sum
  rw [Option.map_map]
  congr 1
  funext k
  exact Nat.add_assoc k m n

/-- **A script is read up to the brace behind it**, at every depth. -/
theorem braceLength?_script {script : Text} (isScript : IsScript script) {depth : Int}
    (nonneg : 0 ≤ depth) (behind : Text) :
    braceLength? .code (depth + 1) (script ++ '\x7d' :: behind) =
      (lengthBehind? depth behind).map (· + (script.length + 1)) := by
  induction isScript generalizing depth behind with
  | nil => exact braceLength?_closeBrace depth behind
  | @region inside rest _ _ ihInside ihRest =>
    -- The inside is read one level deeper, and there is something behind its brace.
    rw [List.append_assoc, List.cons_append, List.cons_append, braceLength?_openBrace,
      ihInside (by omega), lengthBehind?_of_pos (by omega), ihRest nonneg, map_add_map_add rfl]
    exact map_add_map_add (by simp; omega)
  | @literal quote body rest quotes inside _ ih =>
    have noBrace : quote ≠ '\x7b' ∧ quote ≠ '\x7d' := by
      constructor <;> (rintro rfl; exact absurd quotes (by decide))
    have opens (ahead : Option Char) : ScriptMode.code.next quote ahead = .quoted quote := by
      simp only [ScriptMode.next, if_pos quotes]
    rw [List.append_assoc, List.cons_append, List.cons_append, braceLength?_noBrace noBrace, opens,
      braceLength?_literal _ _ quotes inside, ih nonneg, map_add_map_add rfl]
    exact map_add_map_add (by simp; omega)
  | @lineComment body rest oneLine _ ih =>
    have opens (text : Text) : braceLength? .code (depth + 1) ('/' :: '/' :: text) =
        (braceLength? (.comment false) (depth + 1) text).map (· + 2) := by
      rw [braceLength?_noBrace (by decide)]
      show (braceLength? (.commentStart false) _ _).map _ = _
      rw [braceLength?_outsideCode (.commentStart false) (by decide)]
      exact map_add_map_add rfl
    rw [List.append_assoc, List.cons_append, List.cons_append, List.cons_append, opens,
      braceLength?_lineComment _ _ oneLine, ih nonneg, map_add_map_add rfl]
    exact map_add_map_add (by simp; omega)
  | @blockComment body rest noEnd _ ih =>
    have opens (text : Text) : braceLength? .code (depth + 1) ('/' :: '*' :: text) =
        (braceLength? (.comment true) (depth + 1) text).map (· + 2) := by
      rw [braceLength?_noBrace (by decide)]
      show (braceLength? (.commentStart true) _ _).map _ = _
      rw [braceLength?_outsideCode (.commentStart true) (by decide)]
      exact map_add_map_add rfl
    rw [List.append_assoc, List.cons_append, List.cons_append, List.cons_append, List.cons_append,
      opens, braceLength?_blockComment _ _ noEnd, ih nonneg, map_add_map_add rfl]
    exact map_add_map_add (by simp; omega)
  | @single c rest noBrace noQuote noComment _ ih =>
    rw [List.cons_append, braceLength?_noBrace noBrace, next_of_noComment noQuote noComment,
      ih nonneg]
    exact map_add_map_add rfl

/-! ## The machine accepts nothing else -/

section

variable {depth : Int} {text : Text}

/-- A literal that is read to its end. -/
lemma exists_literalBody {quote : Char}
    (closes : (braceLength? (.quoted quote) depth text).isSome = true) :
    ∃ body after, text = body ++ quote :: after ∧ IsLiteralBody quote body ∧
      (braceLength? .code depth after).isSome = true := by
  induction left : text.length using Nat.strong_induction_on generalizing text with
  | _ left ih =>
    cases text with
    | nil => simp [braceLength?] at closes
    | cons c rest =>
      rw [braceLength?_outsideCode (.quoted quote) (by simp), Option.isSome_map] at closes
      simp only [ScriptMode.next] at closes
      split_ifs at closes with backslash ends
      · -- a backslash and the character that it takes with it
        cases rest with
        | nil => simp [braceLength?] at closes
        | cons d more =>
          rw [braceLength?_outsideCode (.escaped quote) (by simp), Option.isSome_map] at closes
          obtain ⟨body, after, rfl, inside, later⟩ :=
            ih more.length (by simp only [List.length_cons] at left; omega) closes rfl
          exact ⟨'\\' :: d :: body, after, by rw [backslash]; rfl, .escape inside, later⟩
      · exact ⟨[], rest, by rw [ends]; rfl, .nil, closes⟩
      · obtain ⟨body, after, rfl, inside, later⟩ :=
          ih rest.length (by simp only [List.length_cons] at left; omega) closes rfl
        exact ⟨c :: body, after, rfl, .plain backslash ends inside, later⟩

/-- A line comment that is read to its end. -/
lemma exists_lineComment (closes : (braceLength? (.comment false) depth text).isSome = true) :
    ∃ body after, text = body ++ '\n' :: after ∧ '\n' ∉ body ∧
      (braceLength? .code depth after).isSome = true := by
  induction text with
  | nil => simp [braceLength?] at closes
  | cons c rest ih =>
    rw [braceLength?_outsideCode (.comment false) (by decide), Option.isSome_map] at closes
    simp only [ScriptMode.next] at closes
    split_ifs at closes with ends
    · exact ⟨[], rest, by rw [ends]; rfl, List.not_mem_nil, closes⟩
    · obtain ⟨body, after, rfl, oneLine, later⟩ := ih closes
      refine ⟨c :: body, after, rfl, ?_, later⟩
      rw [List.mem_cons, not_or]
      exact ⟨Ne.symm ends, oneLine⟩

/-- A block comment that is read to its end. -/
lemma exists_blockComment (closes : (braceLength? (.comment true) depth text).isSome = true) :
    ∃ body after, text = body ++ '*' :: '/' :: after ∧ ¬ ['*', '/'] <:+: body ++ ['*'] ∧
      (braceLength? .code depth after).isSome = true := by
  induction text with
  | nil => simp [braceLength?] at closes
  | cons c rest ih =>
    rw [braceLength?_outsideCode (.comment true) (by decide), Option.isSome_map] at closes
    simp only [ScriptMode.next] at closes
    split_ifs at closes with ends
    · obtain ⟨rfl, ahead⟩ := ends
      obtain ⟨after, rfl⟩ := List.head?_eq_some_iff.1 ahead
      rw [braceLength?_outsideCode .commentEnd (by decide), Option.isSome_map] at closes
      exact ⟨[], after, rfl, by decide, closes⟩
    · obtain ⟨body, after, rfl, noEnd, later⟩ := ih closes
      refine ⟨c :: body, after, rfl, ?_, later⟩
      rw [List.cons_append, List.infix_cons_iff, not_or]
      refine ⟨fun here => ends ?_, noEnd⟩
      -- a `*/` at the head would have ended the comment
      obtain ⟨rfl, next⟩ := List.cons_prefix_cons.1 here
      refine ⟨rfl, ?_⟩
      cases body with
      | nil => exact absurd next (by decide)
      | cons d more =>
        obtain ⟨rfl, -⟩ := List.cons_prefix_cons.1 next
        rfl

end

/-- What does not start a comment does not start one in front of less either. -/
lemma StartsComment.append {text : Text} (comment : StartsComment text) (behind : Text) :
    StartsComment (text ++ behind) :=
  comment.imp (·.trans (List.prefix_append _ _)) (·.trans (List.prefix_append _ _))

/-- **What is read up to a brace is a script.** -/
theorem exists_script {depth : Int} (nonneg : 0 ≤ depth) {text : Text}
    (closes : (braceLength? .code (depth + 1) text).isSome = true) :
    ∃ script behind, text = script ++ '\x7d' :: behind ∧ IsScript script ∧
      (lengthBehind? depth behind).isSome = true := by
  induction left : text.length using Nat.strong_induction_on generalizing text depth with
  | _ left ih =>
    cases text with
    | nil => simp [braceLength?] at closes
    | cons c rest =>
      rw [List.length_cons] at left
      by_cases close : c = '\x7d'
      · subst close
        rw [braceLength?_closeBrace, Option.isSome_map] at closes
        exact ⟨[], rest, rfl, .nil, closes⟩
      by_cases opens : c = '\x7b'
      · -- a region, and then the rest of the script
        subst opens
        rw [braceLength?_openBrace, Option.isSome_map] at closes
        obtain ⟨inside, after, rfl, nested, later⟩ :=
          ih rest.length (by omega) (by omega) closes rfl
        rw [List.length_append, List.length_cons] at left
        rw [lengthBehind?_of_pos (by omega)] at later
        obtain ⟨script, behind, rfl, more, last⟩ := ih after.length (by omega) nonneg later rfl
        exact ⟨_, behind, by simp, .region nested more, last⟩
      have noBrace : c ≠ '\x7b' ∧ c ≠ '\x7d' := ⟨opens, close⟩
      rw [braceLength?_noBrace noBrace, Option.isSome_map] at closes
      simp only [ScriptMode.next] at closes
      split_ifs at closes with quotes line block
      · obtain ⟨body, after, rfl, inside, later⟩ := exists_literalBody closes
        rw [List.length_append, List.length_cons] at left
        obtain ⟨script, behind, rfl, more, last⟩ := ih after.length (by omega) nonneg later rfl
        exact ⟨_, behind, by simp, .literal quotes inside more, last⟩
      · obtain ⟨rfl, ahead⟩ := line
        obtain ⟨comment, rfl⟩ := List.head?_eq_some_iff.1 ahead
        rw [braceLength?_outsideCode (.commentStart false) (by decide), Option.isSome_map] at closes
        obtain ⟨body, after, rfl, oneLine, later⟩ := exists_lineComment closes
        simp only [List.length_append, List.length_cons] at left
        obtain ⟨script, behind, rfl, more, last⟩ := ih after.length (by omega) nonneg later rfl
        exact ⟨_, behind, by simp, .lineComment oneLine more, last⟩
      · obtain ⟨rfl, ahead⟩ := block
        obtain ⟨comment, rfl⟩ := List.head?_eq_some_iff.1 ahead
        rw [braceLength?_outsideCode (.commentStart true) (by decide), Option.isSome_map] at closes
        obtain ⟨body, after, rfl, noEnd, later⟩ := exists_blockComment closes
        simp only [List.length_append, List.length_cons] at left
        obtain ⟨script, behind, rfl, more, last⟩ := ih after.length (by omega) nonneg later rfl
        exact ⟨_, behind, by simp, .blockComment noEnd more, last⟩
      · have noComment : ¬ StartsComment (c :: rest) := by
          rw [startsComment_cons]
          rintro ⟨slash, ahead | ahead⟩
          · exact line ⟨slash, ahead⟩
          · exact block ⟨slash, ahead⟩
        obtain ⟨script, behind, rfl, more, last⟩ := ih rest.length (by omega) nonneg closes rfl
        refine ⟨c :: script, behind, rfl, .single noBrace (by simpa using quotes) ?_ more, last⟩
        exact fun comment => noComment (comment.append _)

/-! ## Regions -/

/-- A region is read to its end, and nothing behind it is looked at. -/
lemma braceLength?_region {region : Text} (isRegion : IsRegion region) (behind : Text) :
    braceLength? .code 0 (region ++ behind) = some region.length := by
  obtain ⟨script, isScript, rfl⟩ := isRegion
  have inside := braceLength?_script isScript (le_refl 0) behind
  rw [List.cons_append, List.cons_append, List.append_assoc, braceLength?_openBrace]
  rw [List.singleton_append, inside]
  show some (0 + (script.length + 1) + 1) = _
  simp

/-- What is read from an opening brace is a region. -/
lemma isRegion_of_braceLength? {rest : Text} {n : Nat}
    (length : braceLength? .code 0 ('\x7b' :: rest) = some n) :
    ∃ region behind, '\x7b' :: rest = region ++ behind ∧ IsRegion region ∧ n = region.length := by
  have opened := length
  rw [braceLength?_openBrace] at opened
  obtain ⟨m, found, -⟩ := Option.map_eq_some_iff.1 opened
  obtain ⟨script, behind, rfl, isScript, -⟩ :=
    exists_script (le_refl 0) (Option.isSome_iff_exists.2 ⟨m, found⟩)
  have isRegion : IsRegion ('\x7b' :: script ++ ['\x7d']) := ⟨script, isScript, rfl⟩
  have whole : '\x7b' :: (script ++ '\x7d' :: behind) =
      '\x7b' :: script ++ ['\x7d'] ++ behind := by simp
  refine ⟨_, behind, whole, isRegion, ?_⟩
  rw [whole, braceLength?_region isRegion] at length
  exact (Option.some.inj length).symm

lemma isRegion_inBraces {script : Text} :
    IsRegion ('\x7b' :: script ++ ['\x7d']) ↔ IsScript script := by
  constructor
  · rintro ⟨other, isScript, same⟩
    obtain rfl : script = other := by simpa using same
    exact isScript
  · exact fun isScript => ⟨script, isScript, rfl⟩

/-- **The scripts that close between braces are those of the grammar.** -/
theorem closesInBraces_iff_isScript {script : Text} : ClosesInBraces script ↔ IsScript script := by
  rw [← isRegion_inBraces]
  constructor
  · intro closes
    obtain ⟨region, behind, split, isRegion, length⟩ := isRegion_of_braceLength? closes
    have whole : '\x7b' :: script ++ ['\x7d'] = region ++ behind := split
    -- The region takes up the whole text, since it is as long.
    have lengths := congrArg List.length whole
    simp only [List.length_append, List.length_cons, List.length_nil] at lengths
    obtain rfl : behind = [] := List.length_eq_zero_iff.1 (by omega)
    rwa [whole, List.append_nil]
  · intro isRegion
    have read := braceLength?_region isRegion []
    rw [List.append_nil] at read
    rw [ClosesInBraces, read]
    simp

/-- Of two regions that one text starts with, both end at the same place. -/
lemma IsRegion.length_eq {text first second : Text} (isFirst : IsRegion first)
    (isSecond : IsRegion second) (startsFirst : first <+: text) (startsSecond : second <+: text) :
    first.length = second.length := by
  obtain ⟨behind, rfl⟩ := startsFirst
  obtain ⟨other, same⟩ := startsSecond
  have read := braceLength?_region isSecond other
  rw [same, braceLength?_region isFirst] at read
  exact Option.some.inj read

/-- A region is as long as its offsets say. -/
lemma IsRegion.stop_eq {text : Text} {start stop : Nat} (isRegion : IsRegion (text.slice start stop))
    (inside : stop ≤ text.length) : start + (text.slice start stop).length = stop := by
  have pos : 0 < (text.slice start stop).length := by
    obtain ⟨script, -, eq⟩ := isRegion
    rw [eq]
    simp
  rw [Text.length_slice inside] at pos ⊢
  omega

lemma slice_isPrefix (text : Text) (start stop : Nat) : text.slice start stop <+: text.drop start :=
  List.take_prefix _ _

/-- **From every opening brace of a text, the end of the region that starts there is found.**  An
offset is found exactly if the text up to it is a region; there is at most one; and none is found
exactly if the text from the brace on does not start with a region. -/
theorem regions_read {text : Text} {start : Nat} (brace : text[start]? = some '\x7b') :
    (∀ stop, (braceLength? .code 0 (text.drop start)).map (start + ·) = some stop ↔
      stop ≤ text.length ∧ IsRegion (text.slice start stop)) ∧
    (∀ stop ≤ text.length, ∀ other ≤ text.length, IsRegion (text.slice start stop) →
      IsRegion (text.slice start other) → stop = other) ∧
    (braceLength? .code 0 (text.drop start) = none ↔
      ∀ part, part <+: text.drop start → ¬ IsRegion part) := by
  obtain ⟨bound, first⟩ := List.getElem?_eq_some_iff.1 brace
  have opens : text.drop start = '\x7b' :: text.drop (start + 1) := by
    rw [List.drop_eq_getElem_cons bound, first]
  -- What is read is a region at the brace, and a region at the brace is read.
  have sound {n : Nat} (length : braceLength? .code 0 (text.drop start) = some n) :
      ∃ region behind, text.drop start = region ++ behind ∧ IsRegion region ∧ n = region.length := by
    rw [opens] at length ⊢
    exact isRegion_of_braceLength? length
  have complete {part : Text} (starts : part <+: text.drop start) (isRegion : IsRegion part) :
      braceLength? .code 0 (text.drop start) = some part.length := by
    obtain ⟨behind, whole⟩ := starts
    rw [← whole]
    exact braceLength?_region isRegion behind
  refine ⟨fun stop => ⟨?_, ?_⟩, ?_, ?_, ?_⟩
  · intro found
    obtain ⟨n, length, rfl⟩ := Option.map_eq_some_iff.1 found
    obtain ⟨region, behind, whole, isRegion, rfl⟩ := sound length
    have nonempty : region ≠ [] := by
      rintro rfl
      obtain ⟨script, -, eq⟩ := isRegion
      exact absurd eq (by simp)
    have total := Text.length_of_drop whole nonempty
    rw [Text.slice_of_drop whole]
    exact ⟨by omega, isRegion⟩
  · rintro ⟨inside, isRegion⟩
    rw [complete (slice_isPrefix text start stop) isRegion]
    exact congrArg some (isRegion.stop_eq inside)
  · intro stop inside other otherInside isRegion isOther
    rw [← isRegion.stop_eq inside, ← isOther.stop_eq otherInside,
      isRegion.length_eq isOther (slice_isPrefix text start stop) (slice_isPrefix text start other)]
  · intro none part starts isRegion
    rw [complete starts isRegion] at none
    exact nomatch none
  · intro noRegion
    by_contra some
    obtain ⟨n, length⟩ := Option.ne_none_iff_exists'.1 some
    obtain ⟨region, behind, whole, isRegion, -⟩ := sound length
    exact noRegion region ⟨behind, whole.symm⟩ isRegion

/-- A region whose comments and literal have marks of each other in them, and a brace behind it. -/
def overlappingMarks : Text :=
  "a\x7b/*/ ' */\"\\\"\x7d\"//*\x7d\n\x7d\x7d".toList

/-- The region ends at the first brace outside of comments and literals.  Without that brace and the
one behind it, no region starts there. -/
theorem regions_read_overlappingMarks :
    overlappingMarks[1]? = some '\x7b' ∧ IsRegion (overlappingMarks.slice 1 21) ∧
      ∀ part, part <+: (overlappingMarks.take 20).drop 1 → ¬ IsRegion part := by
  have brace : overlappingMarks[1]? = some '\x7b' := by decide
  have region := ((regions_read brace).1 21).1 (by decide +kernel)
  have open_ : (overlappingMarks.take 20)[1]? = some '\x7b' := by decide
  exact ⟨brace, region.2, (regions_read open_).2.2.1 (by decide +kernel)⟩

end GlassPrompt
