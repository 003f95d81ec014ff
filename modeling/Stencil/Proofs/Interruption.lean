/-
# What has been handed out when a scan breaks off

A construct is handed out together with the text before it, once it is complete. A construct
that is wrong is never handed out, and so the text right before it is not either, although all
of it has been read. What has been handed out lies side by side from the start of the source to
the end of the last construct that was complete. From there to the construct that is wrong the
text held back goes on without a gap.

So the tokens reach up to the error exactly if there is no such text: the construct that is
wrong follows another one, or starts the source.
-/

import Stencil.Proofs.Lookahead
import Stencil.Proofs.Tiling

namespace Stencil

/-- Spans without a gap have one end. -/
theorem Span.Tile.stop_unique {start stop stop' : Nat} {spans : List Span}
    (first : Tile start spans stop) (second : Tile start spans stop') : stop = stop' := by
  induction spans generalizing start with
  | nil => exact first.symm.trans second
  | cons span rest ih => exact ih first.2 second.2

/-- A stretch that takes up nothing of the source has no value. -/
theorem Stretch.Reads.value_eq_nil_iff {delimiter cs : List Char} {doubling : Bool}
    {stretch : Stretch} (reads : Reads delimiter doubling cs stretch) (nonempty : delimiter ≠ []) :
    stretch.value = [] ↔ stretch.size = 0 := by
  constructor
  · exact reads.size_eq_zero_of_value_eq_nil nonempty
  · intro none
    have short := reads.length_value_le
    rw [none] at short
    exact List.length_eq_zero_iff.mp (Nat.le_zero.mp short)

namespace Scan

variable {options : Options} {source before cs : List Char} {error : TemplateError}

/-- A step that breaks off points at the opener behind the text that it has read. -/
theorem Stepped.exists_approach {offset : Nat}
    (stepped : Stepped options offset cs (.broken error)) :
    ∃ approach : Approach options cs, error.span.start = offset + approach.text.size := by
  cases stepped with
  | unterminated approach _ _ _ => exact ⟨approach, rfl⟩
  | refused passage _ refused =>
      obtain ⟨name, args, reason, rfl⟩ := Fragment.exists_of_tokens_eq_error refused
      exact ⟨passage.toApproach, Fragment.span_start _ _⟩

/-- A batch ends with the last token of its construct. -/
theorem Passage.not_text_of_getLast? {offset : Nat} (passage : Passage options cs)
    {tokens : List Token} (accepted : (passage.fragment offset).tokens options = .ok tokens) :
    ∀ token ∈ (passage.batch offset tokens).tokens.getLast?, token.kind ≠ .text := by
  obtain ⟨nonempty, others⟩ := Fragment.tokens_ne_text accepted
  intro token last
  rw [batch, List.getLast?_append_of_ne_nil _ nonempty] at last
  exact others token (List.mem_of_getLast? last)

/-- What a scan that breaks off has delivered, seen with all of the source before it, and the
construct at which it breaks off with the text before that. -/
theorem covers_of_failure (same : source = before ++ cs)
    (fails : (scanFrom options before.length cs).failure = some error) :
    ∃ passed here, cs = passed ++ here ∧
      Covers options source before.length (before ++ passed).length
        (scanFrom options before.length cs).tokens ∧
      (∀ token ∈ (scanFrom options before.length cs).tokens.getLast?, token.kind ≠ .text) ∧
      ∃ approach : Approach options here,
        error.span.start = (before ++ passed).length + approach.text.size := by
  have scans := scans_scanFrom options before.length cs
  generalize scanFrom options before.length cs = scan at scans fails ⊢
  generalize start : before.length = offset at scans ⊢
  induction scans generalizing before with
  | final text reads ended => cases fails
  | @broken offset cs error stepped =>
      cases fails
      refine ⟨[], cs, rfl, ?_, by simp, ?_⟩
      · rw [List.append_nil, start]
        exact .nil offset
      · rw [List.append_nil, start]
        exact stepped.exists_approach
  | more passage tokens accepted _ ih =>
      subst start
      obtain ⟨⟨passed, split, position⟩, covers⟩ := covers_passage same passage accepted
      have further : source = before ++ passed ++ passage.after := by
        rw [List.append_assoc, ← split]
        exact same
      obtain ⟨more, here, rest, covers', coded, approach⟩ := ih further fails position.symm
      rw [tokens_deliver]
      refine ⟨passed ++ more, here, ?_, ?_, ?_, ?_⟩
      · rw [List.append_assoc, ← rest]
        exact split
      · rw [← List.append_assoc]
        exact covers.append covers'
      · intro token last
        rw [List.getLast?_append] at last
        rcases Option.or_eq_some_iff.mp last with later | ⟨-, here⟩
        · exact coded token later
        · exact passage.not_text_of_getLast? accepted token here
      · rw [← List.append_assoc]
        exact approach

end Scan

/-- A scan that breaks off has handed out tokens that lie side by side from the start of the
source, and the last of them is not literal text. Together with the text read since then they
reach up to the construct that the error points at, so they reach up to there by themselves
exactly if there is no such text. -/
theorem tokens_before_failure (options : Options) (source : String) (error : TemplateError)
    (fails : (Scan.ofText options source).failure = some error) :
    ∃ (reached : Nat) (held : Stretch),
      Covers options source.toList 0 reached (Scan.ofText options source).tokens ∧
      (∀ token ∈ (Scan.ofText options source).tokens.getLast?, token.kind ≠ .text) ∧
      held = Stretch.read options.delimiters.opener.toList options.doubling
        (source.toList.drop reached) ∧
      Covers options source.toList 0 error.span.start
        ((Scan.ofText options source).tokens ++ Scan.literal held reached) ∧
      options.delimiters.opener.toList <+: source.toList.drop error.span.start ∧
      (Span.Tile 0 ((Scan.ofText options source).tokens.map Token.span) error.span.start ↔
        held.value = []) := by
  obtain ⟨passed, here, split, covers, coded, approach, starts⟩ :=
    Scan.covers_of_failure (List.nil_append source.toList).symm fails
  rw [List.nil_append] at covers starts
  obtain ⟨written, read, size, isWritten⟩ :=
    approach.reads.exists_written options.delimiters.opener_toList_ne
  have whole : source.toList = passed ++ written ++ approach.text.rest := by
    rw [List.append_assoc, ← read]
    exact split
  have literals := Scan.covers_literal whole size isWritten
    (approach.reads.size_eq_zero_of_value_eq_nil options.delimiters.opener_toList_ne)
  refine ⟨passed.length, approach.text, covers, coded, ?_, ?_, ?_, ?_⟩
  · rw [split, List.drop_left]
    exact (approach.reads.read_eq options.delimiters.opener_toList_ne).symm
  · rw [starts]
    exact covers.append literals
  · rw [starts, ← size, ← List.length_append, whole, List.drop_left]
    exact approach.reads.rest_eq_nil_or_prefix.resolve_left approach.rest_ne_nil
  · rw [starts, approach.reads.value_eq_nil_iff options.delimiters.opener_toList_ne]
    constructor
    · intro tile
      have same := covers.tile.stop_unique tile
      omega
    · intro none
      rw [none, Nat.add_zero]
      exact covers.tile

/-- A block without an end behind an expression and a text: the text is read and held back. -/
theorem tokens_before_failure_after_expression :
    let source := "ok <#= x #> <# broken"
    let error : TemplateError := .unterminated (Span.sized 12 2) "<#" "#>"
    (Scan.ofText {} source).failure = some error ∧
    ∃ (reached : Nat) (held : Stretch),
      Covers {} source.toList 0 reached (Scan.ofText {} source).tokens ∧
      Covers {} source.toList 0 12 ((Scan.ofText {} source).tokens ++ Scan.literal held reached) ∧
      (Span.Tile 0 ((Scan.ofText {} source).tokens.map Token.span) 12 ↔ held.value = []) := by
  intro source error
  have fails : (Scan.ofText {} source).failure = some error := by decide +kernel
  obtain ⟨reached, held, covers, -, -, covers', -, exactly⟩ :=
    tokens_before_failure {} source error fails
  exact ⟨fails, reached, held, covers, covers', exactly⟩

/-- Text before a construct without an end is not handed out. -/
theorem text_before_failure_held :
    ∃ error, (Scan.ofText {} "a<#").failure = some error ∧
      ¬ Span.Tile 0 ((Scan.ofText {} "a<#").tokens.map Token.span) error.span.start := by
  have fails : (Scan.ofText {} "a<#").failure =
      some (.unterminated (Span.sized 1 2) "<#" "#>") := by decide +kernel
  have nothing : (Scan.ofText {} "a<#").tokens = [] := by decide +kernel
  refine ⟨_, fails, ?_⟩
  rw [nothing]
  exact Nat.zero_ne_one

end Stencil
