/-
# Scanning loses nothing

The tokens of a source lie side by side over it, from its first character to its
last, and each of them can be written back: literal text and code by doubling the
delimiters in them, openers and closers as they are. Only a directive keeps no
record of its source other than its span.

A batch is looked at with all of the source around it, so that the slices of its
spans are slices of the whole source. What a scan keeps from step to step is only
that the source passed so far has the length of the offset.
-/

import Mathlib.Data.List.Chain
import Stencil.Proofs.Construct

namespace Stencil

namespace Span

/-- Spans that follow one another without a gap, from one offset to another. -/
def Tile : Nat → List Span → Nat → Prop
  | start, [], stop => start = stop
  | start, span :: rest, stop => span.start = start ∧ Tile span.stop rest stop

theorem Tile.append {start middle stop : Nat} {first second : List Span}
    (left : Tile start first middle) (right : Tile middle second stop) :
    Tile start (first ++ second) stop := by
  induction first generalizing start with
  | nil =>
      cases left
      exact right
  | cons span rest ih => exact ⟨left.1, ih left.2⟩

/-- The slice of a span is what stands between its two ends. -/
theorem slice_eq_of_split {span : Span} {source : List Char} (before middle after : List Char)
    (same : source = before ++ middle ++ after) (starts : span.start = before.length)
    (stops : span.stop = before.length + middle.length) : span.slice source = middle := by
  rw [slice, same, starts, stops, ← List.length_append, List.take_left, List.drop_left]

end Span

/-- What a token keeps of the source under its span. -/
def Token.Faithful (options : Options) (source : List Char) (token : Token) : Prop :=
  match token.kind with
  | .text =>
    token.value ≠ "" ∧
      Written options.delimiters.opener.toList options.doubling token.value.toList
        (token.span.slice source)
  | .code =>
    Written options.delimiters.closer.toList options.doubling token.value.toList
      (token.span.slice source)
  | .expressionOpen | .expressionClose | .blockOpen | .blockClose =>
    token.value.toList = token.span.slice source
  | .directive | .endOfInput => True

/-- Not both of two tokens are literal text. -/
def Token.Apart (first second : Token) : Prop :=
  ¬ (first.kind = .text ∧ second.kind = .text)

/-- Tokens that lie over a part of a source and keep all of it. -/
structure Covers (options : Options) (source : List Char) (start stop : Nat)
    (tokens : List Token) : Prop where
  tile : Span.Tile start (tokens.map Token.span) stop
  faithful : ∀ token ∈ tokens, token.Faithful options source
  inner : ∀ token ∈ tokens, token.kind ≠ .endOfInput

namespace Covers

variable {options : Options} {source : List Char}

theorem nil (offset : Nat) : Covers options source offset offset [] :=
  ⟨rfl, by simp, by simp⟩

theorem append {start middle stop : Nat} {first second : List Token}
    (left : Covers options source start middle first)
    (right : Covers options source middle stop second) :
    Covers options source start stop (first ++ second) := by
  refine ⟨?_, ?_, ?_⟩
  · rw [List.map_append]
    exact left.tile.append right.tile
  · intro token present
    rcases List.mem_append.mp present with present | present
    · exact left.faithful token present
    · exact right.faithful token present
  · intro token present
    rcases List.mem_append.mp present with present | present
    · exact left.inner token present
    · exact right.inner token present

/-- One token over its own span. -/
theorem singleton {token : Token} {start stop : Nat} (starts : token.span.start = start)
    (stops : token.span.stop = stop) (faithful : token.Faithful options source)
    (inner : token.kind ≠ .endOfInput) : Covers options source start stop [token] := by
  refine ⟨⟨starts, stops⟩, ?_, ?_⟩
  · intro other same
    rwa [List.mem_singleton.mp same]
  · intro other same
    rwa [List.mem_singleton.mp same]

end Covers

namespace Scan

variable {options : Options} {source : List Char}

/-- Literal text covers the source it was read from. -/
theorem covers_literal {text : Stretch} {before written after : List Char}
    (same : source = before ++ written ++ after) (size : written.length = text.size)
    (isWritten : Written options.delimiters.opener.toList options.doubling text.value written)
    (empty : text.value = [] → text.size = 0) :
    Covers options source before.length (before.length + text.size)
      (literal text before.length) := by
  unfold literal
  split
  · rename_i isEmpty
    rw [empty (List.isEmpty_iff.mp isEmpty)]
    exact .nil before.length
  · rename_i isNotEmpty
    refine .singleton rfl rfl ⟨?_, ?_⟩ (by simp)
    · intro noText
      apply isNotEmpty
      rw [List.isEmpty_iff, ← String.toList_ofList (l := text.value)]
      exact String.toList_eq_nil_iff.mpr noText
    · rw [Span.slice_eq_of_split before written after same rfl (by rw [size]; rfl)]
      simpa using isWritten

end Scan

namespace Fragment

variable {options : Options} {source before codeSource after : List Char} {fragment : Fragment}

/-- A fragment at its place in a source. -/
structure At (options : Options) (source before codeSource after : List Char)
    (fragment : Fragment) : Prop where
  split : source = before ++ (fragment.construct.opener options.delimiters).toList ++
    codeSource ++ options.delimiters.closer.toList ++ after
  starts : fragment.start = before.length
  size : fragment.codeSize = codeSource.length
  written : Written options.delimiters.closer.toList options.doubling fragment.code codeSource

/-- Opener, code and closer cover their construct. -/
theorem covers_delimitedTokens (place : fragment.At options source before codeSource after)
    {openKind closeKind : TokenKind}
    (opens : openKind = .expressionOpen ∨ openKind = .blockOpen)
    (closes : closeKind = .expressionClose ∨ closeKind = .blockClose) :
    Covers options source fragment.start (fragment.closeSpan options.delimiters).stop
      (fragment.delimitedTokens options.delimiters openKind closeKind) := by
  obtain ⟨split, starts, size, written⟩ := place
  -- Each span starts where the source before it ends.
  have openerSlice : (fragment.openSpan options.delimiters).slice source =
      (fragment.construct.opener options.delimiters).toList := by
    apply Span.slice_eq_of_split before _ (codeSource ++ options.delimiters.closer.toList ++ after)
    · simp [split]
    · exact starts
    · simp [starts]
  have codeSlice : (fragment.codeSpan options.delimiters).slice source = codeSource := by
    apply Span.slice_eq_of_split (before ++ (fragment.construct.opener options.delimiters).toList)
      _ (options.delimiters.closer.toList ++ after)
    · simp [split]
    · simp [starts]
    · simp [starts, size]
  have closerSlice : (fragment.closeSpan options.delimiters).slice source =
      options.delimiters.closer.toList := by
    apply Span.slice_eq_of_split
      (before ++ (fragment.construct.opener options.delimiters).toList ++ codeSource) _ after
    · exact split
    · simp [starts, size, Nat.add_assoc]
    · simp [starts, size, Nat.add_assoc]
  refine ⟨⟨rfl, rfl, rfl, rfl⟩, ?_, ?_⟩
  · intro token present
    simp only [delimitedTokens, List.mem_cons, List.not_mem_nil, or_false] at present
    rcases present with rfl | rfl | rfl
    · rcases opens with rfl | rfl <;> exact openerSlice.symm
    · simpa [Token.Faithful, codeSlice] using written
    · rcases closes with rfl | rfl <;> exact closerSlice.symm
  · intro token present
    simp only [delimitedTokens, List.mem_cons, List.not_mem_nil, or_false] at present
    rcases present with rfl | rfl | rfl
    · rcases opens with rfl | rfl <;> simp
    · simp
    · rcases closes with rfl | rfl <;> simp

/-- The tokens of a construct cover it. -/
theorem covers_tokens (place : fragment.At options source before codeSource after)
    {tokens : List Token} (accepted : fragment.tokens options = .ok tokens) :
    Covers options source fragment.start (fragment.closeSpan options.delimiters).stop tokens := by
  cases formed_tokens accepted with
  | expression is => exact covers_delimitedTokens place (.inl rfl) (.inl rfl)
  | directive name args is =>
      exact .singleton (span_start _ _) (span_stop _ _) trivial (by simp)
  | block is => exact covers_delimitedTokens place (.inr rfl) (.inr rfl)

/-- A construct has a token, and none of its tokens is literal text. -/
theorem tokens_ne_text {tokens : List Token} (accepted : fragment.tokens options = .ok tokens) :
    tokens ≠ [] ∧ ∀ token ∈ tokens, token.kind ≠ .text := by
  cases formed_tokens accepted <;> simp [delimitedTokens]

end Fragment

namespace Scan

variable {options : Options} {source : List Char}

/-- Literal text is at most one token. -/
theorem isChain_literal_append (text : Stretch) (offset : Nat) {tokens : List Token}
    (others : ∀ token ∈ tokens, token.kind ≠ .text) :
    (literal text offset ++ tokens).IsChain Token.Apart := by
  have alone : tokens.IsChain Token.Apart := by
    apply List.Pairwise.isChain
    apply List.pairwise_of_forall_mem_list
    intro first present second _ both
    exact others first present both.1
  unfold literal
  split
  · exact alone
  · refine List.IsChain.cons alone ?_
    intro second first both
    exact others second (List.mem_of_mem_head? first) both.2

/-- A step that goes on covers the source that it passes. -/
theorem covers_passage {before cs : List Char} (same : source = before ++ cs)
    (passage : Passage options cs) {tokens : List Token}
    (accepted : (passage.fragment before.length).tokens options = .ok tokens) :
    (∃ passed, cs = passed ++ passage.after ∧
      (passage.batch before.length tokens).position = (before ++ passed).length) ∧
    Covers options source before.length (passage.batch before.length tokens).position
      (passage.batch before.length tokens).tokens := by
  obtain ⟨written, read, size, isWritten⟩ :=
    passage.reads.exists_written options.delimiters.opener_toList_ne
  obtain ⟨codeSource, inside, codeSize, codeWritten⟩ :=
    passage.readsCode.exists_written options.delimiters.closer_toList_ne
  have text : source = before ++ written ++ passage.text.rest := by
    rw [List.append_assoc, ← read]
    exact same
  have construct : passage.text.rest = (passage.construct.opener options.delimiters).toList ++
      codeSource ++ options.delimiters.closer.toList ++ passage.after := by
    rw [passage.opened, inside, passage.closed]
    simp only [List.append_assoc]
  refine ⟨⟨written ++ (passage.construct.opener options.delimiters).toList ++ codeSource ++
    options.delimiters.closer.toList, ?_, ?_⟩, ?_⟩
  · refine read.trans ?_
    rw [construct]
    simp only [List.append_assoc]
  · simp [Passage.batch, Passage.fragment, size, codeSize, Nat.add_assoc]
  · have place : (passage.fragment before.length).At options source (before ++ written) codeSource
        passage.after := by
      refine ⟨?_, ?_, codeSize.symm, codeWritten⟩
      · rw [text, construct]
        simp only [Passage.fragment, List.append_assoc]
      · rw [List.length_append, size]
        rfl
    have literals := covers_literal text size isWritten
      (passage.reads.size_eq_zero_of_value_eq_nil options.delimiters.opener_toList_ne)
    exact literals.append (Fragment.covers_tokens place accepted)

/-- What a scan to the end has delivered, seen with all of the source before it. -/
theorem covers_scanFrom {before cs : List Char} (same : source = before ++ cs)
    (h : (scanFrom options before.length cs).failure = none) :
    ∃ body, (scanFrom options before.length cs).tokens = body ++ [ending source.length] ∧
      Covers options source before.length source.length body ∧
      body.IsChain Token.Apart := by
  have scans := scans_scanFrom options before.length cs
  generalize scanFrom options before.length cs = scan at scans h ⊢
  generalize start : before.length = offset at scans ⊢
  induction scans generalizing before with
  | final text reads ended =>
      subst start
      obtain ⟨written, read, textSize, isWritten⟩ :=
        reads.exists_written options.delimiters.opener_toList_ne
      rw [ended, List.append_nil] at read
      have whole : source = before ++ written ++ [] := by
        rw [same, read, List.append_nil]
      have covers := covers_literal whole textSize isWritten
        (reads.size_eq_zero_of_value_eq_nil options.delimiters.opener_toList_ne)
      have stop : before.length + text.size = source.length := by
        rw [whole, List.append_nil, List.length_append, textSize]
      rw [stop] at covers
      refine ⟨literal text before.length, ?_, covers, ?_⟩
      · simp [Scan.tokens, stop]
      · have alone := isChain_literal_append text before.length
          (fun _ present => absurd present List.not_mem_nil)
        rwa [List.append_nil] at alone
  | broken error _ => cases h
  | more passage tokens accepted _ ih =>
      subst start
      obtain ⟨⟨passed, split, position⟩, covers⟩ := covers_passage same passage accepted
      have further : source = before ++ passed ++ passage.after := by
        rw [List.append_assoc, ← split]
        exact same
      obtain ⟨body, delivered, rest, chain⟩ := ih further h position.symm
      refine ⟨(passage.batch before.length tokens).tokens ++ body, ?_,
        covers.append rest, ?_⟩
      · rw [tokens_deliver, delivered, List.append_assoc]
      · obtain ⟨nonempty, others⟩ := Fragment.tokens_ne_text accepted
        refine (isChain_literal_append _ _ others).append chain ?_
        intro last isLast first _ both
        rw [List.getLast?_append_of_ne_nil _ nonempty] at isLast
        exact others last (List.mem_of_getLast? isLast) both.1

end Scan

/-- Every source that can be scanned to its end is covered by its tokens. The spans
before the end of input follow one another from the first character to the last,
each token keeps the source under its span, and literal text is never cut in two. -/
theorem scan_covers_source (options : Options) (source : String) (tokens : List Token)
    (h : (Scan.ofText options source).complete = .ok tokens) :
    ∃ body, tokens = body ++ [Scan.ending source.length] ∧
      (∀ token ∈ body, token.kind ≠ .endOfInput) ∧
      Span.Tile 0 (body.map Token.span) source.length ∧
      tokens.IsChain Token.Apart ∧
      ∀ token ∈ body, token.Faithful options source.toList := by
  obtain ⟨succeeded, rfl⟩ := Scan.complete_eq_ok h
  obtain ⟨body, split, covers, chain⟩ :=
    Scan.covers_scanFrom (List.nil_append source.toList).symm succeeded
  rw [String.length_toList] at split covers
  have delivered : (Scan.ofText options source).tokens = body ++ [Scan.ending source.length] :=
    split
  have chained : (Scan.ofText options source).tokens.IsChain Token.Apart := by
    rw [delivered]
    refine chain.append (List.isChain_singleton _) ?_
    intro last _ first isFirst both
    cases isFirst
    cases both.2
  exact ⟨body, delivered, covers.inner, covers.tile, chained, covers.faithful⟩

/-- Delimiters that overlap themselves, doubled both in text and in code. -/
theorem scan_covers_source_overlapping :
    ∃ tokens,
      (Scan.ofText { delimiters := { opener := "<<", closer := ">>" } }
        "a<<<<b<<= c>>>>d>>").complete = .ok tokens ∧
      ∃ body, tokens = body ++ [Scan.ending "a<<<<b<<= c>>>>d>>".length] ∧
        (∀ token ∈ body, token.kind ≠ .endOfInput) ∧
        Span.Tile 0 (body.map Token.span) "a<<<<b<<= c>>>>d>>".length ∧
        tokens.IsChain Token.Apart ∧
        ∀ token ∈ body,
          token.Faithful { delimiters := { opener := "<<", closer := ">>" } }
            "a<<<<b<<= c>>>>d>>".toList := by
  have scanned :
      (Scan.ofText { delimiters := { opener := "<<", closer := ">>" } }
        "a<<<<b<<= c>>>>d>>").complete =
      .ok [⟨.text, "a<<b", Span.sized 0 6, []⟩, ⟨.expressionOpen, "<<=", Span.sized 6 3, []⟩,
        ⟨.code, " c>>d", Span.sized 9 7, []⟩, ⟨.expressionClose, ">>", Span.sized 16 2, []⟩,
        Scan.ending 18] := by decide +kernel
  exact ⟨_, scanned, scan_covers_source _ _ _ scanned⟩

end Stencil
