/-
# Sources one after the other

A scan keeps nothing across the end of a construct but the offset. Where a source ends with a
construct, another one can be written behind it, and the tokens of the two are those of the
first and then those of the second, moved by the length of the first.

Two facts make this up. A scan from another offset is the same scan with its spans moved. And
what was decided inside the first source is not decided otherwise for the text behind it. A
delimiter or a mark that is looked for is no longer than a closer, so the closer at the end of
each construct leaves room for all that the scan looks ahead to at its opener. At the closer
itself a doubled one is looked for, and there the text behind may interfere.
-/

import Stencil.Proofs.Lookahead

namespace Stencil

/-- The range moved to the right. -/
def Span.shift (distance : Nat) (span : Span) : Span :=
  ⟨distance + span.start, distance + span.stop, Nat.add_le_add_left span.ordered distance⟩

@[simp]
theorem Span.shift_sized (distance start length : Nat) :
    (sized start length).shift distance = sized (distance + start) length := by
  ext
  · rfl
  · exact (Nat.add_assoc distance start length).symm

/-- The token moved to the right. -/
def Token.shift (distance : Nat) (token : Token) : Token :=
  { token with span := token.span.shift distance }

/-- The same error, found further to the right. -/
def TemplateError.shift (distance : Nat) : TemplateError → TemplateError
  | .unterminated span delimiter closer => .unterminated (span.shift distance) delimiter closer
  | .unbalanced span imbalance => .unbalanced (span.shift distance) imbalance
  | .unknownDirective span name => .unknownDirective (span.shift distance) name
  | .unsuitableArguments span name args reason =>
    .unsuitableArguments (span.shift distance) name args reason

namespace Fragment

variable (distance : Nat) (fragment : Fragment)

/-- The construct moved to the right. -/
def shift : Fragment :=
  { fragment with start := distance + fragment.start }

variable (delimiters : Delimiters)

theorem openSpan_shift :
    (fragment.shift distance).openSpan delimiters =
      (fragment.openSpan delimiters).shift distance := by
  rw [openSpan, openSpan, Span.shift_sized]
  rfl

theorem codeSpan_shift :
    (fragment.shift distance).codeSpan delimiters =
      (fragment.codeSpan delimiters).shift distance := by
  rw [codeSpan, codeSpan, Span.shift_sized, openSpan_shift]
  rfl

theorem closeSpan_shift :
    (fragment.shift distance).closeSpan delimiters =
      (fragment.closeSpan delimiters).shift distance := by
  rw [closeSpan, closeSpan, Span.shift_sized, codeSpan_shift]
  rfl

theorem span_shift :
    (fragment.shift distance).span delimiters = (fragment.span delimiters).shift distance := by
  ext
  · show _ = distance + (fragment.span delimiters).start
    rw [span_start, span_start]
    rfl
  · show _ = distance + (fragment.span delimiters).stop
    rw [span_stop, span_stop, closeSpan_shift]
    rfl

theorem delimitedTokens_shift (openKind closeKind : TokenKind) :
    (fragment.shift distance).delimitedTokens delimiters openKind closeKind =
      (fragment.delimitedTokens delimiters openKind closeKind).map (Token.shift distance) := by
  simp only [delimitedTokens, openSpan_shift, codeSpan_shift, closeSpan_shift]
  rfl

end Fragment

/-- What a construct comes to, moved to the right. -/
def shiftOutcome (distance : Nat) :
    Except TemplateError (List Token) → Except TemplateError (List Token)
  | .error error => .error (error.shift distance)
  | .ok tokens => .ok (tokens.map (Token.shift distance))

theorem Fragment.tokens_shift (distance : Nat) (fragment : Fragment) (options : Options) :
    (fragment.shift distance).tokens options =
      shiftOutcome distance (fragment.tokens options) := by
  have construct : (fragment.shift distance).construct = fragment.construct := rfl
  have code : (fragment.shift distance).code = fragment.code := rfl
  cases is : fragment.construct with
  | expression =>
      simp only [Fragment.tokens, construct, is, delimitedTokens_shift]
      rfl
  | directive =>
      simp only [Fragment.tokens, construct, code, is, span_shift, explicitDirective]
      cases Argument.split (String.ofList (explicitHead fragment.code).2) <;> rfl
  | block =>
      simp only [Fragment.tokens, construct, code, is, span_shift, delimitedTokens_shift]
      cases if options.bareDirectives then bareDirective? fragment.code else none <;> rfl

/-- The batch with its tokens moved to the right. -/
def Batch.shift (distance : Nat) (batch : Batch) : Batch :=
  ⟨batch.tokens.map (Token.shift distance), distance + batch.position⟩

theorem Batch.shift_position (distance : Nat) (batch : Batch) :
    (batch.shift distance).position = distance + batch.position := rfl

namespace Scan

/-- A scan of which everything is moved to the right. -/
def shift (distance : Nat) (scan : Scan) : Scan where
  batches := scan.batches.map (Batch.shift distance)
  failure := scan.failure.map (TemplateError.shift distance)

theorem tokens_shift (distance : Nat) (scan : Scan) :
    (scan.shift distance).tokens = scan.tokens.map (Token.shift distance) := by
  simp [tokens, shift, Batch.shift, List.flatMap_map, List.map_flatMap]

theorem literal_shift (text : Stretch) (distance offset : Nat) :
    literal text (distance + offset) = (literal text offset).map (Token.shift distance) := by
  unfold literal
  split
  · rfl
  · rw [List.map_singleton, Token.shift, Span.shift_sized]

theorem ending_shift (distance offset : Nat) :
    ending (distance + offset) = (ending offset).shift distance := by
  rw [ending, ending, Token.shift, Span.shift_sized]

variable {options : Options} {offset : Nat} {cs : List Char}

theorem Passage.fragment_shift (passage : Passage options cs) (distance offset : Nat) :
    passage.fragment (distance + offset) = (passage.fragment offset).shift distance := by
  rw [fragment, fragment, Fragment.shift, Nat.add_assoc]

theorem Passage.batch_shift (passage : Passage options cs) (distance offset : Nat)
    (tokens : List Token) :
    passage.batch (distance + offset) (tokens.map (Token.shift distance)) =
      (passage.batch offset tokens).shift distance := by
  rw [batch, batch, Batch.shift, passage.fragment_shift, Fragment.closeSpan_shift, literal_shift,
    List.map_append]
  rfl

/-- Where a source stands makes no difference to its scan but for the offsets. -/
theorem scanFrom_shift (options : Options) (distance offset : Nat) (cs : List Char) :
    scanFrom options (distance + offset) cs = (scanFrom options offset cs).shift distance := by
  have scans := scans_scanFrom options offset cs
  generalize scanFrom options offset cs = scan at scans ⊢
  induction scans with
  | @final offset cs text reads ended =>
      rw [scanFrom_of_final (step_of_ended reads ended (distance + offset)), literal_shift,
        Nat.add_assoc, ending_shift]
      simp [shift, Batch.shift]
  | @broken offset cs error stepped =>
      cases stepped with
      | unterminated approach code readsCode ended =>
          rw [scanFrom_of_broken
            (step_of_unterminated approach readsCode ended (distance + offset)), Nat.add_assoc]
          simp [shift, fail, TemplateError.shift]
      | refused passage _ refused =>
          have stops : step options (distance + offset) cs = .broken (error.shift distance) := by
            rw [passage.step_eq, passage.fragment_shift, Fragment.tokens_shift, refused]
            rfl
          rw [scanFrom_of_broken stops]
          rfl
  | @more offset cs next passage tokens accepted further ih =>
      have accepted' : (passage.fragment (distance + offset)).tokens options =
          .ok (tokens.map (Token.shift distance)) := by
        rw [passage.fragment_shift, Fragment.tokens_shift, accepted]
        rfl
      rw [passage.scanFrom_eq accepted', passage.batch_shift, Batch.shift_position, ih]
      rfl

end Scan

/-- Text at the end does not change what a list starts with. -/
theorem sameFront_append {α : Type} (first tail : List α) :
    SameFront first.length first (first ++ tail) := by
  rw [SameFront, List.take_left, List.take_length]

namespace Stretch.Reads

variable {delimiter cs : List Char} {doubling : Bool} {stretch : Stretch}

/-- The delimiter at which reading has stopped is not doubled. -/
theorem not_doubled_rest (reads : Reads delimiter doubling cs stretch) (found : stretch.rest ≠ [])
    (on : doubling = true) : ¬ delimiter ++ delimiter <+: stretch.rest := by
  induction reads with
  | ended => exact absurd rfl found
  | stopped single _ => exact single on
  | doubled _ _ ih | passed _ _ ih => exact ih found

/-- Reading up to a delimiter is not changed by text at the end, unless that doubles the
delimiter. -/
theorem append {tail : List Char} (reads : Reads delimiter doubling cs stretch)
    (found : delimiter <+: stretch.rest)
    (single : doubling = true → ¬ delimiter ++ delimiter <+: stretch.rest ++ tail) :
    Reads delimiter doubling (cs ++ tail) ⟨stretch.value, stretch.size, stretch.rest ++ tail⟩ := by
  induction reads with
  | ended =>
      exact .stopped single (found.trans (List.prefix_append [] tail))
  | doubled on further ih =>
      rw [List.append_assoc]
      exact .doubled on (ih found single)
  | stopped _ stops => exact .stopped single (stops.trans (List.prefix_append _ tail))
  | @passed c cs next absent further ih =>
      have short : delimiter.length ≤ (c :: cs).length := by
        obtain ⟨source, same, -⟩ := further.exists_source
        have inside : delimiter.length ≤ next.rest.length := found.length_le
        rw [same, List.length_cons, List.length_append]
        omega
      have absent' : ¬ delimiter <+: c :: (cs ++ tail) :=
        mt ((sameFront_append (c :: cs) tail).prefix_iff short).mp absent
      exact .passed absent' (ih found single)

end Stretch.Reads

namespace Scan

variable {options : Options} {offset : Nat} {cs tail : List Char}

/-- What follows a construct does not double its closer. -/
theorem Passage.not_closer_prefix_after (passage : Passage options cs)
    (doubles : options.doubling = true) : ¬ options.delimiters.closer.toList <+: passage.after := by
  have found : passage.code.rest ≠ [] := by
    rw [passage.closed]
    simp [options.delimiters.closer_ne]
  have single := passage.readsCode.not_doubled_rest found doubles
  rwa [passage.closed, List.prefix_append_right_inj] at single

/-- A construct takes up its opener and its closer. -/
theorem Passage.length_le_rest (passage : Passage options cs) :
    options.delimiters.opener.length + options.delimiters.closer.length ≤
      passage.text.rest.length := by
  obtain ⟨code, read, -⟩ := passage.readsCode.exists_source
  have opens := passage.construct.length_opener_le options.delimiters
  rw [passage.opened, read, passage.closed]
  simp only [List.length_append, String.length_toList]
  omega

/-- A passage is not changed by text at the end of the source, unless that doubles its
closer. -/
theorem Passage.exists_append (passage : Passage options cs)
    (far : options.delimiters.longest ≤ options.delimiters.closer.length)
    (apart : options.doubling = true →
      ¬ options.delimiters.closer.toList <+: passage.after ++ tail) :
    ∃ passage' : Passage options (cs ++ tail),
      (∀ offset, passage'.fragment offset = passage.fragment offset) ∧
      (∀ offset tokens, passage'.batch offset tokens = passage.batch offset tokens) ∧
      passage'.after = passage.after ++ tail := by
  have room := passage.length_le_rest
  have same := sameFront_append passage.text.rest tail
  have reads : Stretch.Reads options.delimiters.opener.toList options.doubling (cs ++ tail)
      ⟨passage.text.value, passage.text.size, passage.text.rest ++ tail⟩ := by
    apply passage.reads.append
    · exact passage.reads.rest_eq_nil_or_prefix.resolve_left passage.rest_ne_nil
    · intro doubles
      have opener : options.delimiters.opener.length ≤ options.delimiters.longest := by
        simp only [Delimiters.longest]
        omega
      apply mt (same.prefix_iff ?_).mp
      · exact passage.reads.not_doubled_rest passage.rest_ne_nil doubles
      · simp only [List.length_append, String.length_toList]
        omega
  have recognised : passage.construct =
      Construct.recognise options.delimiters (passage.text.rest ++ tail) := by
    rw [passage.recognised]
    exact (Construct.recognise_eq_of_sameFront same (by omega)).symm
  have readsCode : Stretch.Reads options.delimiters.closer.toList options.doubling
      (passage.inside ++ tail)
      ⟨passage.code.value, passage.code.size, passage.code.rest ++ tail⟩ := by
    apply passage.readsCode.append
    · rw [passage.closed]
      exact List.prefix_append _ _
    · intro doubles
      rw [passage.closed, List.append_assoc, List.prefix_append_right_inj]
      exact apart doubles
  let passage' : Passage options (cs ++ tail) :=
    { text := ⟨passage.text.value, passage.text.size, passage.text.rest ++ tail⟩
      construct := passage.construct
      inside := passage.inside ++ tail
      reads
      recognised
      opened := by rw [passage.opened, List.append_assoc]
      code := ⟨passage.code.value, passage.code.size, passage.code.rest ++ tail⟩
      after := passage.after ++ tail
      readsCode
      closed := by rw [passage.closed, List.append_assoc] }
  exact ⟨passage', fun _ => rfl, fun _ _ => rfl, rfl⟩

/-- A source that is empty or ends with a construct, and the tokens of its constructs and of
the texts before them. -/
inductive Closes (options : Options) : Nat → List Char → List Token → Prop
  | nil {offset : Nat} : Closes options offset [] []
  | cons {offset : Nat} {cs : List Char} {tokens others : List Token}
      (passage : Passage options cs)
      (accepted : (passage.fragment offset).tokens options = .ok tokens)
      (further : Closes options (passage.batch offset tokens).position passage.after others) :
      Closes options offset cs ((passage.batch offset tokens).tokens ++ others)

theorem Passage.position_add_length (passage : Passage options cs) (offset : Nat)
    (tokens : List Token) :
    (passage.batch offset tokens).position + passage.after.length = offset + cs.length := by
  obtain ⟨passed, whole, size⟩ := passage.exists_passed
  have position : (passage.batch offset tokens).position = offset + passage.size := by
    rw [batch, ← Fragment.span_stop, passage.span_stop]
  have length := congrArg List.length whole
  rw [List.length_append] at length
  omega

/-- A source with a construct at its end has room for a closer. -/
theorem Closes.eq_nil_or_length_le {body : List Token} (closes : Closes options offset cs body) :
    cs = [] ∨ options.delimiters.closer.length ≤ cs.length := by
  cases closes with
  | nil => exact .inl rfl
  | cons passage _ _ =>
      right
      obtain ⟨passed, whole, size⟩ := passage.exists_passed
      rw [whole, List.length_append, size, Passage.size, ← String.length_toList]
      omega

/-- Behind a source that ends with a construct, the scan goes on as if it started there. -/
theorem Closes.scanFrom_append {body : List Token} (closes : Closes options offset cs body)
    (far : options.delimiters.longest ≤ options.delimiters.closer.length)
    (apart : options.doubling = true → ¬ options.delimiters.closer.toList <+: tail) :
    (scanFrom options offset (cs ++ tail)).tokens =
        body ++ (scanFrom options (offset + cs.length) tail).tokens ∧
      (scanFrom options offset (cs ++ tail)).failure =
        (scanFrom options (offset + cs.length) tail).failure := by
  induction closes with
  | nil => exact ⟨rfl, rfl⟩
  | @cons offset cs tokens others passage accepted further ih =>
      have apart' : options.doubling = true →
          ¬ options.delimiters.closer.toList <+: passage.after ++ tail := by
        intro doubles
        rcases further.eq_nil_or_length_le with none | room
        · rw [none, List.nil_append]
          exact apart doubles
        · apply mt ((sameFront_append passage.after tail).prefix_iff ?_).mp
          · exact passage.not_closer_prefix_after doubles
          · rwa [String.length_toList]
      obtain ⟨passage', fragments, batches, after⟩ := passage.exists_append far apart'
      have scanned := passage'.scanFrom_eq ((fragments offset).symm ▸ accepted)
      obtain ⟨tokens_eq, failure_eq⟩ := ih
      rw [scanned, tokens_deliver, failure_deliver, batches, after, List.append_assoc,
        ← passage.position_add_length offset tokens]
      exact ⟨congrArg _ tokens_eq, failure_eq⟩

/-- A scan to the end has its last token at the end of the source, and if literal text does not
come right before that, the source ends with a construct. -/
theorem exists_closes (succeeds : (scanFrom options offset cs).failure = none) :
    ∃ body, (scanFrom options offset cs).tokens = body ++ [ending (offset + cs.length)] ∧
      ((∀ token ∈ body.getLast?, token.kind ≠ .text) → Closes options offset cs body) := by
  have scans := scans_scanFrom options offset cs
  generalize scanFrom options offset cs = scan at scans succeeds ⊢
  induction scans with
  | @final offset cs text reads ended =>
      obtain ⟨source, read, length⟩ := reads.exists_source
      rw [ended, List.append_nil] at read
      refine ⟨literal text offset, ?_, ?_⟩
      · simp [tokens, read, length]
      · intro coded
        unfold literal at coded ⊢
        split at coded
        · rename_i empty
          have none := reads.size_eq_zero_of_value_eq_nil
            options.delimiters.opener_toList_ne (List.isEmpty_iff.mp empty)
          rw [none, List.length_eq_zero_iff] at length
          rw [read, length, if_pos empty]
          exact .nil
        · exact absurd rfl (coded _ rfl)
  | broken error _ => cases succeeds
  | @more offset cs next passage tokens accepted _ ih =>
      obtain ⟨body, delivered, closes⟩ := ih succeeds
      refine ⟨(passage.batch offset tokens).tokens ++ body, ?_, ?_⟩
      · rw [tokens_deliver, delivered, passage.position_add_length, List.append_assoc]
      · intro coded
        refine .cons passage accepted (closes ?_)
        intro token last
        apply coded
        rw [List.getLast?_append, Option.mem_def.mp last]
        rfl

end Scan

/-- Scanning two sources one after the other. If the first one can be scanned and ends with a
construct, the tokens are those of the first without its end of input, and then those of the
second, moved by the length of the first. An error in the second is the same error, moved
likewise. With doubling on, the second must not start with a closer, which would double the last
one of the first. -/
theorem scan_append (options : Options) (isStandard : options.delimiters = .standard)
    (first second : String) (tokens : List Token)
    (scanned : (Scan.ofText options first).complete = .ok tokens)
    (coded : ∀ token ∈ tokens.dropLast.getLast?, token.kind ≠ .text)
    (apart : options.doubling = true →
      ¬ Delimiters.standard.closer.toList <+: second.toList) :
    (Scan.ofText options (first ++ second)).tokens =
      tokens.dropLast ++ (Scan.ofText options second).tokens.map (Token.shift first.length) ∧
    (∀ others, (Scan.ofText options second).complete = .ok others →
      (Scan.ofText options (first ++ second)).complete =
        .ok (tokens.dropLast ++ others.map (Token.shift first.length))) ∧
    ∀ error, (Scan.ofText options second).complete = .error error →
      (Scan.ofText options (first ++ second)).complete =
        .error (error.shift first.length) := by
  obtain ⟨succeeds, rfl⟩ := Scan.complete_eq_ok scanned
  obtain ⟨body, split, closes⟩ := Scan.exists_closes succeeds
  have body_eq : (Scan.ofText options first).tokens.dropLast = body := by
    rw [Scan.ofText, split, List.dropLast_concat]
  rw [body_eq] at coded ⊢
  have far : options.delimiters.longest ≤ options.delimiters.closer.length := by
    rw [isStandard]
    decide
  have moved : Scan.scanFrom options (0 + first.toList.length) second.toList =
      (Scan.ofText options second).shift first.length := by
    rw [Nat.add_comm, Scan.scanFrom_shift, String.length_toList, Scan.ofText]
  obtain ⟨tokens_eq, failure_eq⟩ :=
    (closes coded).scanFrom_append far (isStandard.symm ▸ apart)
  rw [moved, ← String.toList_append, ← Scan.ofText] at tokens_eq failure_eq
  rw [Scan.tokens_shift] at tokens_eq
  refine ⟨tokens_eq, ?_, ?_⟩
  · intro others complete
    obtain ⟨succeeds', rfl⟩ := Scan.complete_eq_ok complete
    have reaches : (Scan.ofText options (first ++ second)).failure = none := by
      rw [failure_eq, Scan.shift, succeeds']
      rfl
    rw [Scan.complete_of_none reaches, tokens_eq]
  · intro error fails
    rw [Scan.complete_eq_error_iff] at fails ⊢
    rw [failure_eq, Scan.shift, fails]
    rfl

/-- The second source breaks off at a directive behind a text, and the first ends with a doubled
closer inside code. -/
theorem scan_append_broken :
    let first := "a<#<#<#= b#>#> #>"
    let second := "> c<#@ escape \"#>"
    let tokens : List Token :=
      [⟨.text, "a<#", Span.sized 0 5, []⟩, ⟨.expressionOpen, "<#=", Span.sized 5 3, []⟩,
        ⟨.code, " b#> ", Span.sized 8 7, []⟩, ⟨.expressionClose, "#>", Span.sized 15 2, []⟩]
    (Scan.ofText {} first).complete = .ok (tokens ++ [Scan.ending 17]) ∧
    ∃ error, (Scan.ofText {} second).complete = .error error ∧ error.span = Span.sized 3 14 ∧
      (Scan.ofText {} (first ++ second)).complete = .error (error.shift first.length) ∧
      (error.shift first.length).span = Span.sized 20 14 ∧
      (Scan.ofText {} (first ++ second)).tokens = tokens := by
  intro first second tokens
  have scanned : (Scan.ofText {} first).complete = .ok (tokens ++ [Scan.ending 17]) := by
    decide +kernel
  have broken : (Scan.ofText {} second).complete =
      .error (.unsuitableArguments (Span.sized 3 14) "escape" ["\""]
        (.malformed (.unexpected Text.doubleQuote 1))) := by
    decide +kernel
  obtain ⟨delivered, -, fails⟩ := scan_append {} rfl first second _ scanned
    (by decide +kernel) (by decide +kernel)
  refine ⟨scanned, _, broken, rfl, fails _ broken, by decide +kernel, ?_⟩
  rw [delivered]
  decide +kernel

end Stencil
