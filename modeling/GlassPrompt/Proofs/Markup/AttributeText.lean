import GlassPrompt.Proofs.Markup.RegionSource
import GlassPrompt.Proofs.Markup.TokenStream

/-!
# Attributes and their text

Every attribute of a tag stands in the text of the tag: a name alone, or a name, an equals sign and the
text of the attribute, which is quoted, a script in braces or a bare word.

* `ValueWrittenAs`, `AttributeWrittenAs` — how attributes are written.
* `writtenAs_of_readAttribute`, `writtenAs_of_readTag_attributes` — so they are read.
* `attributeWrittenAs_of_mem_scan` — the attributes of every tag that scanning finds.
* `closesInBraces_of_mem_scan` — the script of every region that scanning finds.
-/

namespace GlassPrompt

/-! ## How attributes are written -/

/-- How the text of an attribute is written. -/
inductive ValueWrittenAs : Text → Text → Prop
  | quoted {quote : Char} {value : Text} (isQuote : quote = '\'' ∨ quote = '"')
    (inside : quote ∉ value) : ValueWrittenAs value (quote :: value ++ [quote])
  /-- A script in braces is kept without the blanks around it. -/
  | script {script : Text} (closes : ClosesInBraces script) :
    ValueWrittenAs (Text.trim script) ('\x7b' :: script ++ ['\x7d'])
  | bare {word : Text} (first : ∀ c ∈ word.head?, c ≠ '\'' ∧ c ≠ '"' ∧ c ≠ '\x7b') :
    ValueWrittenAs word word

/-- How an attribute is written. -/
inductive AttributeWrittenAs : Text × AttributeValue → Text → Prop
  | flag (name : Text) : AttributeWrittenAs (name, .flag) name
  | text {name value part before behind : Text} (blankBefore : Text.isBlankText before = true)
    (blankBehind : Text.isBlankText behind = true) (written : ValueWrittenAs value part) :
    AttributeWrittenAs (name, .text value) (name ++ before ++ '=' :: behind ++ part)

/-- The text of an attribute that is written in braces closes like a region. -/
theorem ValueWrittenAs.closesButForComment {value part : Text} (written : ValueWrittenAs value part)
    (braces : part.head? = some '\x7b') : ClosesButForComment value := by
  cases written with
  | quoted isQuote =>
    obtain rfl := Option.some.inj braces
    exact absurd isQuote (by decide)
  | script closes => exact closesButForComment_trim closes
  | bare first => exact absurd rfl (first _ braces).2.2

/-! ## How attributes are read -/

lemma drop_takeBareValue (text : Text) :
    text = takeBareValue text ++ text.drop (takeBareValue text).length := by
  obtain ⟨after, eq, -⟩ := append_takeBareValue text
  generalize takeBareValue text = word at eq ⊢
  rw [eq, List.drop_left]

lemma eq_of_head?_takeBareValue {c d : Char} {rest : Text}
    (first : d ∈ (takeBareValue (c :: rest)).head?) : d = c := by
  have whole := drop_takeBareValue (c :: rest)
  obtain ⟨more, word⟩ := List.head?_eq_some_iff.1 first
  rw [word] at whole
  exact (List.cons.inj whole).1.symm

lemma writtenAs_of_readAttributeValue {tag name text key : Text} {value : AttributeValue}
    {rest : Text} (h : readAttributeValue tag name text = .read key value rest) :
    key = name ∧ ∃ kept part, value = .text kept ∧ text = part ++ rest ∧ ValueWrittenAs kept part := by
  cases text with
  | nil => simp [readAttributeValue] at h
  | cons c cs =>
    simp only [readAttributeValue] at h
    split at h
    · next isQuote =>
      split at h
      · next closed =>
        simp only [AttributeReading.read.injEq] at h
        obtain ⟨rfl, rfl, rfl⟩ := h
        refine ⟨rfl, _, _, rfl, ?_, .quoted isQuote ?_⟩
        · rw [List.cons_append, List.cons_append, ← takeWhile_append_quote closed]
        · exact fun member => by simpa using List.mem_takeWhile_imp member
      · simp at h
    · next notQuote =>
      split at h
      · next brace =>
        subst brace
        split at h
        · simp at h
        · next n length =>
          simp only [AttributeReading.read.injEq] at h
          obtain ⟨rfl, rfl, rfl⟩ := h
          exact ⟨rfl, _, _, rfl, (append_of_braceLength? length).2,
            .script (closesInBraces_of_braceLength? length)⟩
      · next notBrace =>
        simp only [AttributeReading.read.injEq] at h
        obtain ⟨rfl, rfl, rfl⟩ := h
        refine ⟨rfl, _, _, rfl, drop_takeBareValue (c :: cs), .bare fun d first => ?_⟩
        rw [eq_of_head?_takeBareValue first]
        exact ⟨fun same => notQuote (.inl same), fun same => notQuote (.inr same), notBrace⟩

lemma writtenAs_of_readAttribute {tag text key : Text} {value : AttributeValue} {rest : Text}
    (h : readAttribute tag text = .read key value rest) :
    ∃ part gap, text = part ++ gap ++ rest ∧ AttributeWrittenAs (key, value) part := by
  cases text with
  | nil => simp [readAttribute] at h
  | cons c cs =>
    simp only [readAttribute] at h
    split at h
    · have whole : c :: cs = (c :: cs.takeWhile isAttributeNameRest) ++
          (cs.dropWhile isAttributeNameRest).takeWhile isBlank ++
            Text.trimStart (cs.dropWhile isAttributeNameRest) := by
        rw [List.append_assoc, blanks_append_trimStart, List.cons_append,
          List.takeWhile_append_dropWhile]
      generalize c :: cs.takeWhile isAttributeNameRest = name at whole h
      have blank : Text.isBlankText ((cs.dropWhile isAttributeNameRest).takeWhile isBlank) = true :=
        List.all_takeWhile
      generalize (cs.dropWhile isAttributeNameRest).takeWhile isBlank = before at whole blank
      split at h
      · next after equals =>
        obtain ⟨rfl, kept, part, rfl, eq, written⟩ := writtenAs_of_readAttributeValue h
        have blankBehind : Text.isBlankText (after.takeWhile isBlank) = true := List.all_takeWhile
        refine ⟨_, [], ?_, .text blank blankBehind written⟩
        have behindEquals := blanks_append_trimStart after
        rw [eq] at behindEquals
        rw [whole, equals]
        simp [behindEquals]
      · simp only [AttributeReading.read.injEq] at h
        obtain ⟨rfl, rfl, rfl⟩ := h
        exact ⟨_, _, whole, .flag name⟩
    · simp at h

/-- Setting an attribute adds no other one. -/
lemma mem_set {name : Text} {value : AttributeValue} {attributes : Attributes}
    {entry : Text × AttributeValue} (member : entry ∈ attributes.set name value) :
    entry = (name, value) ∨ entry ∈ attributes := by
  induction attributes with
  | nil => exact .inl (List.mem_singleton.1 member)
  | cons first rest ih =>
    obtain ⟨other, old⟩ := first
    rw [Attributes.set] at member
    split at member
    · next same =>
      rcases List.mem_cons.1 member with rfl | later
      · exact .inl (congrArg (·, value) same)
      · exact .inr (List.mem_cons_of_mem _ later)
    · rcases List.mem_cons.1 member with rfl | later
      · exact .inr List.mem_cons_self
      · exact (ih later).imp_right (List.mem_cons_of_mem _)

lemma writtenAs_of_readAttributes {name text key : Text} {attributes found : Attributes}
    {form : TagForm} {rest : Text}
    (h : readAttributes name attributes text = .read key found form rest) :
    ∃ written, text = written ++ rest ∧ ∀ entry ∈ found, entry ∈ attributes ∨
      ∃ part, part <:+: written ∧ AttributeWrittenAs entry part := by
  fun_induction readAttributes name attributes text with
  | case1 => simp at h
  | case2 attributes text after eq =>
    simp only [TagReading.read.injEq] at h
    obtain ⟨-, rfl, -, rfl⟩ := h
    refine ⟨text.takeWhile isBlank ++ ['>'], ?_, fun _ known => .inl known⟩
    rw [List.append_assoc, List.singleton_append, ← eq, blanks_append_trimStart]
  | case3 attributes text after eq =>
    simp only [TagReading.read.injEq] at h
    obtain ⟨-, rfl, -, rfl⟩ := h
    refine ⟨text.takeWhile isBlank ++ ['/', '>'], ?_, fun _ known => .inl known⟩
    rw [List.append_assoc, List.cons_append, List.singleton_append, ← eq, blanks_append_trimStart]
  | case4 => simp at h
  | case5 => simp at h
  | case6 attributes text key value after read _ _ _ ih =>
    obtain ⟨written, eq, attributesWritten⟩ := ih h
    obtain ⟨part, gap, textEq, partWritten⟩ := writtenAs_of_readAttribute read
    refine ⟨text.takeWhile isBlank ++ part ++ gap ++ written, ?_, fun entry member => ?_⟩
    · rw [List.append_assoc _ written, ← eq, List.append_assoc _ gap, List.append_assoc,
        ← List.append_assoc part, ← textEq, blanks_append_trimStart]
    · rcases attributesWritten entry member with known | ⟨other, inside, otherWritten⟩
      · rcases mem_set known with rfl | before
        · refine .inr ⟨part, ?_, partWritten⟩
          rw [List.append_assoc _ gap]
          exact List.infix_append _ _ _
        · exact .inl before
      · exact .inr ⟨other, inside.trans (List.suffix_append _ _).isInfix, otherWritten⟩

lemma attributes_of_readClosing {name text key : Text} {found : Attributes} {form : TagForm}
    {rest : Text} (h : readClosing name text = .read key found form rest) : found = [] := by
  unfold readClosing at h
  split at h
  · simp at h
  · exact (TagReading.read.inj h).2.1.symm
  · simp at h

lemma writtenAs_of_readTag_attributes {text name : Text} {attributes : Attributes} {form : TagForm}
    {rest : Text} (h : readTag text = .read name attributes form rest) :
    ∃ written, text = written ++ rest ∧ ∀ entry ∈ attributes,
      ∃ part, part <:+: written ∧ AttributeWrittenAs entry part := by
  unfold readTag at h
  split at h
  · next after =>
    obtain ⟨called, behind, -, rfl, read⟩ := readTagName_eq_read h
    obtain rfl := attributes_of_readClosing read
    obtain ⟨-, -, part, rfl, -⟩ := append_of_readClosing read
    exact ⟨'/' :: (called ++ (part ++ form.tail)), by simp, nofun⟩
  · obtain ⟨called, behind, -, rfl, read⟩ := readTagName_eq_read h
    obtain ⟨written, rfl, attributesWritten⟩ := writtenAs_of_readAttributes read
    refine ⟨called ++ written, (List.append_assoc _ _ _).symm, fun entry member => ?_⟩
    obtain ⟨part, inside, partWritten⟩ := (attributesWritten entry member).resolve_left nofun
    exact ⟨part, inside.trans (List.suffix_append _ _).isInfix, partWritten⟩

/-! ## Tags and regions of a scan -/

/-- **Every attribute of a tag stands in the text of the tag.** -/
theorem attributeWrittenAs_of_mem_scan {text : Text} {start : Nat} {tag : Tag}
    (member : Token.tag tag ∈ scan text start) {entry : Text × AttributeValue}
    (known : entry ∈ tag.attributes) :
    ∃ part, part <:+: text.slice tag.start tag.stop ∧ AttributeWrittenAs entry part := by
  obtain ⟨c, rest, eq, found⟩ := readToken_of_mem_scan member
  obtain ⟨rfl, after, read, -, stop⟩ := readTag_of_readToken found
  obtain ⟨written, rfl, entries⟩ := writtenAs_of_readTag_attributes read
  obtain ⟨part, inside, partWritten⟩ := entries entry known
  have stop_eq : tag.stop = tag.start + ('<' :: written).length := by
    rw [stop, List.length_append, Nat.add_sub_cancel]
    show tag.start + 1 + written.length = tag.start + (written.length + 1)
    omega
  have slice : text.slice tag.start tag.stop = '<' :: written := by
    rw [stop_eq]
    exact Text.slice_of_drop eq
  rw [slice]
  exact ⟨part, inside.trans (List.suffix_cons _ _).isInfix, partWritten⟩

/-- **The script of every region closes between braces.** -/
theorem closesInBraces_of_mem_scan {text : Text} {start : Nat} {region : Region}
    (member : Token.region region ∈ scan text start) : ClosesInBraces region.source := by
  obtain ⟨c, rest, -, found⟩ := readToken_of_mem_scan member
  obtain ⟨-, n, length, eq⟩ := braceLength?_of_readToken found
  rw [eq]
  exact closesInBraces_of_braceLength? length

end GlassPrompt
