import GlassPrompt.Proofs.Document.RegionBlocks
import GlassPrompt.Proofs.Markup.AttributeText

/-!
# Where the scripts of a document end

The expressions of a document and the attributes that are written in braces are put between other
delimiters when the document is compiled.  They end outside of literals, at the brace depth at which
they start; but they may end inside a line comment, and then the next delimiter is part of it.

* `closesButForComment_regionBlock` — the script of a region, as its block keeps it.
* `scripts_closeButForComment` — all expressions and attributes of a document.
-/

namespace GlassPrompt

/-- The expression of a region closes, but for a line comment at its end. -/
lemma closesButForComment_regionBlock {region : Region} (closes : ClosesInBraces region.source)
    {script : Text} {span : Span}
    (isBlock : .interpolation script span = BuildState.regionBlock region) :
    ClosesButForComment script := by
  unfold BuildState.regionBlock at isBlock
  split at isBlock
  · obtain ⟨rfl, -⟩ := Block.interpolation.inj isBlock
    exact closesButForComment_trim closes
  · exact nomatch isBlock

/-- **The scripts of a document end where they can be closed, but for a line comment.**  Every
expression, and the text of every attribute that is written in braces, ends at the depth at which it
starts, in code or inside a line comment; between braces it is closed by the brace behind it unless it
ends inside a line comment. -/
theorem scripts_closeButForComment {source : Text} {document : Document}
    (parsed : Document.parse source = .ok document) :
    (∀ script span, .interpolation script span ∈ walkBlocks document.blocks →
        ClosesButForComment script) ∧
      ∀ tag, .tag tag ∈ scan source document.contentStart →
        ∀ name value, (name, .text value) ∈ tag.attributes → ∃ before behind part,
          Text.isBlankText before = true ∧ Text.isBlankText behind = true ∧
            name ++ before ++ '=' :: behind ++ part <:+: source.slice tag.start tag.stop ∧
            ValueWrittenAs value part ∧
              (part.head? = some '\x7b' → ClosesButForComment value) := by
  constructor
  · intro script span member
    rw [blocks_of_parse parsed] at member
    obtain ⟨region, found, isBlock⟩ := regionBlock_of_mem_build member rfl
    exact closesButForComment_regionBlock (closesInBraces_of_mem_scan found) isBlock
  · intro tag found name value known
    obtain ⟨part, inside, written⟩ := attributeWrittenAs_of_mem_scan found known
    cases written with
    | text blankBefore blankBehind written =>
      exact ⟨_, _, _, blankBefore, blankBehind, inside, written, written.closesButForComment⟩

/-- A quoted brace and a block comment at the end do not keep an expression open. -/
theorem scripts_closeButForComment_blockComment : ∃ document,
    Document.parse "\x7b '\x7d' /* \x7d */ \x7d".toList = .ok document ∧
      ClosesInBraces "'\x7d' /* \x7d */".toList := by
  have computed : (Document.parse "\x7b '\x7d' /* \x7d */ \x7d".toList).map (fun document =>
      (walkBlocks document.blocks).map fun block => match block with
        | .interpolation script _ => some script
        | _ => none) = .ok [some "'\x7d' /* \x7d */".toList] := by decide +kernel
  obtain ⟨document, parsed, scripts⟩ := exists_parse computed
  obtain ⟨block, member, isScript⟩ := List.mem_map.1 (scripts ▸ List.mem_cons_self)
  refine ⟨document, parsed, ?_⟩
  cases block with
  | interpolation script span =>
    obtain rfl := Option.some.inj isScript
    have closes := ((scripts_closeButForComment parsed).1 _ span member).length
    rw [if_neg (by decide)] at closes
    exact closes
  | text | code | hoisted | request | role | loop => exact nomatch isScript

/-- A line comment that a newline before the brace has closed: without the newline, it is open. -/
theorem not_closesInBraces_lineComment : ¬ ∀ source document,
    Document.parse source = .ok document →
      ∀ script span, .interpolation script span ∈ walkBlocks document.blocks →
        ClosesInBraces script := by
  intro closes
  have computed : (Document.parse "\x7ba // first\n\x7d \x7bb\x7d".toList).map (fun document =>
      (walkBlocks document.blocks).map fun block => match block with
        | .interpolation script _ => some script
        | _ => none) = .ok [some "a // first".toList, none, some ['b']] := by decide +kernel
  obtain ⟨document, parsed, scripts⟩ := exists_parse computed
  obtain ⟨block, member, isScript⟩ := List.mem_map.1 (scripts ▸ List.mem_cons_self)
  cases block with
  | interpolation script span =>
    obtain rfl := Option.some.inj isScript
    exact absurd (closes _ document parsed _ span member) (by decide)
  | text | code | hoisted | request | role | loop => exact nomatch isScript

end GlassPrompt
