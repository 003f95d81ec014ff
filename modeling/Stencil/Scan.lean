/-
# Scanning a template

Scanning cuts a source into tokens from left to right. Outside of constructs it
collects literal text up to the next opener; a construct lasts up to the next
closer. Where doubling is on, a doubled opener in text and a doubled closer in
code stand for the delimiter itself, so `Stretch.read` serves for both.

A construct is handed out as one batch, together with the literal text before it,
once it is complete. When a construct turns out to be wrong, its batch, and with
it the literal text before, is not handed out: what a scan has delivered before
an error are whole batches.
-/

import Stencil.TemplateError
import Stencil.Token

namespace Stencil

/-- A stretch of source up to a delimiter. -/
structure Stretch where
  /-- The characters, each doubled delimiter replaced by a single one. -/
  value : List Char
  /-- The number of source characters. -/
  size : Nat
  /-- The source from the delimiter on; empty if there is no delimiter. -/
  rest : List Char
  deriving DecidableEq

/-- Read up to a delimiter. -/
def Stretch.read (delimiter : List Char) (doubling : Bool) : List Char → Stretch
  | [] => ⟨[], 0, []⟩
  | c :: cs =>
    if doubling && (delimiter ++ delimiter).isPrefixOf (c :: cs) then
      let next := Stretch.read delimiter doubling (cs.drop (2 * delimiter.length - 1))
      ⟨delimiter ++ next.value, 2 * delimiter.length + next.size, next.rest⟩
    else if delimiter.isPrefixOf (c :: cs) then ⟨[], 0, c :: cs⟩
    else
      let next := Stretch.read delimiter doubling cs
      ⟨c :: next.value, 1 + next.size, next.rest⟩
termination_by cs => cs.length
decreasing_by all_goals simp only [List.length_cons, List.length_drop]; omega

/-- What remains after a stretch is no longer than the source. -/
theorem Stretch.length_rest_le (delimiter : List Char) (doubling : Bool) (cs : List Char) :
    (Stretch.read delimiter doubling cs).rest.length ≤ cs.length := by
  fun_induction Stretch.read delimiter doubling cs with
  | case1 => simp
  | case2 c cs _ next ih =>
    exact Nat.le_trans ih (by simp only [List.length_drop, List.length_cons]; omega)
  | case3 => simp
  | case4 c cs _ _ next ih => exact Nat.le_trans ih (by simp)

/-- The three kinds of construct. -/
inductive Construct
  | expression
  | directive
  | block
  deriving DecidableEq

namespace Construct

/-- What a construct of this kind starts with. -/
def opener (delimiters : Delimiters) : Construct → String
  | .expression => delimiters.expressionOpener
  | .directive => delimiters.directiveOpener
  | .block => delimiters.opener

/-- The kind of construct that starts here, at an opener. -/
def recognise (delimiters : Delimiters) (cs : List Char) : Construct :=
  if delimiters.expressionOpener.toList.isPrefixOf cs then .expression
  else if delimiters.directiveOpener.toList.isPrefixOf cs then .directive
  else .block

end Construct

/-- A complete construct in the source. -/
structure Fragment where
  construct : Construct
  /-- The offset of the opener. -/
  start : Nat
  /-- The code, with doubled closers undone. -/
  code : List Char
  /-- The number of source characters between opener and closer. -/
  codeSize : Nat

namespace Fragment

variable (delimiters : Delimiters) (fragment : Fragment)

/-- The span of the opener. -/
def openSpan : Span :=
  Span.sized fragment.start (fragment.construct.opener delimiters).toList.length

/-- The span of the code. -/
def codeSpan : Span :=
  Span.sized (fragment.openSpan delimiters).stop fragment.codeSize

/-- The span of the closer. -/
def closeSpan : Span :=
  Span.sized (fragment.codeSpan delimiters).stop delimiters.closer.toList.length

/-- The span of the whole construct. -/
def span : Span :=
  (fragment.openSpan delimiters).cover (fragment.closeSpan delimiters)

@[simp]
theorem openSpan_start : (fragment.openSpan delimiters).start = fragment.start := rfl

@[simp]
theorem openSpan_stop :
    (fragment.openSpan delimiters).stop =
      fragment.start + (fragment.construct.opener delimiters).toList.length := rfl

@[simp]
theorem codeSpan_start :
    (fragment.codeSpan delimiters).start = (fragment.openSpan delimiters).stop := rfl

@[simp]
theorem codeSpan_stop :
    (fragment.codeSpan delimiters).stop =
      (fragment.openSpan delimiters).stop + fragment.codeSize := rfl

@[simp]
theorem closeSpan_start :
    (fragment.closeSpan delimiters).start = (fragment.codeSpan delimiters).stop := rfl

@[simp]
theorem closeSpan_stop :
    (fragment.closeSpan delimiters).stop =
      (fragment.codeSpan delimiters).stop + delimiters.closer.toList.length := rfl

@[simp]
theorem span_start : (fragment.span delimiters).start = fragment.start := by
  simp only [span, Span.cover, closeSpan_start, codeSpan_stop, openSpan_stop, openSpan_start]
  omega

@[simp]
theorem span_stop :
    (fragment.span delimiters).stop = (fragment.closeSpan delimiters).stop := by
  simp only [span, Span.cover, closeSpan_stop, codeSpan_stop, openSpan_stop]
  omega

/-- The directive that a code block spells out: blanks, the name of a directive,
and suitable arguments. Anything else is code. -/
def bareDirective? (code : List Char) : Option (String × List String) :=
  match Text.trimStart code with
  | [] => none
  | c :: rest =>
    let name := String.ofList ((c :: rest).takeWhile Text.isWord)
    let after := (c :: rest).dropWhile Text.isWord
    if Text.isNameStart c && after.head?.all Text.isBlank && Directive.isName name then
      match Argument.split (String.ofList after) with
      | .error _ => none
      | .ok args =>
        match Directive.interpret name args with
        | .error _ => none
        | .ok _ => some (name, args)
    else none

/-- The name and the argument text of an explicit directive: the first run of
non-blank characters, and what follows it. -/
def explicitHead (code : List Char) : String × List Char :=
  let text := Text.trimStart code
  (String.ofList (text.takeWhile fun c => !Text.isBlank c),
    text.dropWhile fun c => !Text.isBlank c)

/-- The token of an explicit directive. Its name is not looked up here. -/
def explicitDirective (code : List Char) (span : Span) : Except TemplateError Token :=
  let (name, rest) := explicitHead code
  match Argument.split (String.ofList rest) with
  | .ok args => .ok ⟨.directive, name, span, args⟩
  | .error fault =>
    .error (.unsuitableArguments span name [String.ofList (Text.trim rest)] (.malformed fault))

/-- Opener, code and closer. -/
def delimitedTokens (openKind closeKind : TokenKind) : List Token :=
  [⟨openKind, fragment.construct.opener delimiters, fragment.openSpan delimiters, []⟩,
    ⟨.code, String.ofList fragment.code, fragment.codeSpan delimiters, []⟩,
    ⟨closeKind, delimiters.closer, fragment.closeSpan delimiters, []⟩]

/-- The tokens of a construct. -/
def tokens (options : Options) : Except TemplateError (List Token) :=
  let delimiters := options.delimiters
  match fragment.construct with
  | .expression => .ok (fragment.delimitedTokens delimiters .expressionOpen .expressionClose)
  | .directive =>
    (explicitDirective fragment.code (fragment.span delimiters)).map fun token => [token]
  | .block =>
    match if options.bareDirectives then bareDirective? fragment.code else none with
    | some (name, args) => .ok [⟨.directive, name, fragment.span delimiters, args⟩]
    | none => .ok (fragment.delimitedTokens delimiters .blockOpen .blockClose)

end Fragment

/-- Tokens that are handed out together, and the offset reached by then. -/
structure Batch where
  tokens : List Token
  position : Nat

/-- What scanning delivers: whole batches, and the error that ended it, if any. -/
structure Scan where
  batches : List Batch
  failure : Option TemplateError

namespace Scan

/-- A scan that delivers a batch and goes on. -/
def deliver (batch : Batch) (next : Scan) : Scan :=
  ⟨batch :: next.batches, next.failure⟩

/-- A scan that ends in an error. -/
def fail (error : TemplateError) : Scan :=
  ⟨[], some error⟩

/-- The token of literal text, if there is any text. -/
def literal (text : Stretch) (offset : Nat) : List Token :=
  if text.value.isEmpty then []
  else [⟨.text, String.ofList text.value, Span.sized offset text.size, []⟩]

/-- The end of input. -/
def ending (offset : Nat) : Token :=
  ⟨.endOfInput, "", Span.sized offset 0, []⟩

/-- What scanning up to the end of the next construct comes to. -/
inductive Step
  /-- There is no further construct, and this batch is the last. -/
  | final (batch : Batch)
  /-- The next construct is wrong. -/
  | broken (error : TemplateError)
  /-- The next construct is complete, and the source goes on after it. -/
  | more (batch : Batch) (rest : List Char)

/-- Scan up to the end of the next construct, from an offset on. -/
def step (options : Options) (offset : Nat) (cs : List Char) : Step :=
  let text := Stretch.read options.delimiters.opener.toList options.doubling cs
  let start := offset + text.size
  match text.rest with
  | [] => .final ⟨literal text offset ++ [ending start], start⟩
  | _ :: _ =>
    let construct := Construct.recognise options.delimiters text.rest
    let opener := construct.opener options.delimiters
    let code := Stretch.read options.delimiters.closer.toList options.doubling
      (text.rest.drop opener.toList.length)
    match code.rest with
    | [] =>
      .broken (.unterminated (Span.sized start opener.toList.length) opener
        options.delimiters.closer)
    | _ :: _ =>
      let fragment : Fragment := ⟨construct, start, code.value, code.size⟩
      match fragment.tokens options with
      | .error error => .broken error
      | .ok tokens =>
        .more ⟨literal text offset ++ tokens, (fragment.closeSpan options.delimiters).stop⟩
          (code.rest.drop options.delimiters.closer.toList.length)

/-- A complete construct takes up at least its closer. -/
theorem length_lt_of_step_more {options : Options} {offset : Nat} {cs rest : List Char}
    {batch : Batch} (h : step options offset cs = .more batch rest) :
    rest.length < cs.length := by
  have closer_pos := List.length_pos_iff.mpr options.delimiters.closer_toList_ne
  have text_le := Stretch.length_rest_le options.delimiters.opener.toList options.doubling cs
  simp only [step] at h
  split at h
  · cases h
  · split at h
    · cases h
    · rename_i atCloser
      split at h
      · cases h
      · cases h
        have code_le := Stretch.length_rest_le options.delimiters.closer.toList options.doubling
          ((Stretch.read options.delimiters.opener.toList options.doubling cs).rest.drop
            ((Construct.recognise options.delimiters
              (Stretch.read options.delimiters.opener.toList options.doubling cs).rest).opener
                options.delimiters).toList.length)
        rw [List.length_drop] at code_le ⊢
        rw [atCloser] at code_le ⊢
        rw [List.length_cons] at code_le ⊢
        omega

/-- Scan the rest of a source that stands at an offset. -/
def scanFrom (options : Options) (offset : Nat) (cs : List Char) : Scan :=
  match _h : step options offset cs with
  | .final batch => ⟨[batch], none⟩
  | .broken error => fail error
  | .more batch rest => deliver batch (scanFrom options batch.position rest)
termination_by cs.length
decreasing_by exact length_lt_of_step_more _h

theorem scanFrom_of_final {options : Options} {offset : Nat} {cs : List Char} {batch : Batch}
    (h : step options offset cs = .final batch) :
    scanFrom options offset cs = ⟨[batch], none⟩ := by
  rw [scanFrom]
  split <;> simp_all

theorem scanFrom_of_broken {options : Options} {offset : Nat} {cs : List Char}
    {error : TemplateError} (h : step options offset cs = .broken error) :
    scanFrom options offset cs = fail error := by
  rw [scanFrom]
  split <;> simp_all

theorem scanFrom_of_more {options : Options} {offset : Nat} {cs rest : List Char}
    {batch : Batch} (h : step options offset cs = .more batch rest) :
    scanFrom options offset cs = deliver batch (scanFrom options batch.position rest) := by
  rw [scanFrom]
  split <;> simp_all

/-- Scan a whole source. -/
def ofText (options : Options) (source : String) : Scan :=
  scanFrom options 0 source.toList

/-- The tokens that were handed out. -/
def tokens (scan : Scan) : List Token :=
  scan.batches.flatMap Batch.tokens

@[simp]
theorem tokens_fail (error : TemplateError) : (fail error).tokens = [] := rfl

@[simp]
theorem tokens_deliver (batch : Batch) (next : Scan) :
    (deliver batch next).tokens = batch.tokens ++ next.tokens := rfl

@[simp]
theorem failure_deliver (batch : Batch) (next : Scan) :
    (deliver batch next).failure = next.failure := rfl

/-- The offset reached when each token was handed out. -/
def positions (scan : Scan) : List Nat :=
  scan.batches.flatMap fun batch => batch.tokens.map fun _ => batch.position

/-- All tokens of a source that can be scanned to its end. -/
def complete (scan : Scan) : Except TemplateError (List Token) :=
  match scan.failure with
  | some error => .error error
  | none => .ok scan.tokens

theorem complete_eq_ok {scan : Scan} {tokens : List Token} (h : scan.complete = .ok tokens) :
    scan.failure = none ∧ scan.tokens = tokens := by
  unfold complete at h
  split at h
  · cases h
  · rename_i succeeded
    exact ⟨succeeded, Except.ok.inj h⟩

theorem complete_of_none {scan : Scan} (h : scan.failure = none) :
    scan.complete = .ok scan.tokens := by
  rw [complete, h]

theorem complete_eq_error_iff {scan : Scan} {error : TemplateError} :
    scan.complete = .error error ↔ scan.failure = some error := by
  unfold complete
  split
  · rename_i failed
    rw [failed, Except.error.injEq, Option.some.injEq]
  · rename_i succeeded
    simp [succeeded]

end Scan

end Stencil
