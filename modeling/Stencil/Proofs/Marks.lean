/-
# Where a mark is read

An expression and an explicit directive start with the opener and a mark, and validation asks
of the marks only that they are not empty and differ. This leaves room for other readings, since
a scan tries them in a fixed order. A mark that goes on with an opener makes a doubled opener,
which is literal text. A directive mark that goes on with the expression mark makes an
expression. What matters is what stands after the opener, so the code and even the closer may
take part in it.

There are no further ways to miss a marked construct: where neither happens, the construct is
read as it was written.
-/

import Stencil.Proofs.Interruption

namespace Stencil

namespace Construct

/-- The mark between the opener and the code. -/
def mark (delimiters : Delimiters) : Construct → String
  | .expression => delimiters.expressionMark
  | .directive => delimiters.directiveMark
  | .block => ""

/-- What stands behind the opener of a construct. -/
def behind (delimiters : Delimiters) (construct : Construct) (code : String) : String :=
  construct.mark delimiters ++ code ++ delimiters.closer

/-- A construct around a code, with nothing doubled. -/
def around (delimiters : Delimiters) (construct : Construct) (code : String) : String :=
  delimiters.opener ++ construct.behind delimiters code

theorem toList_around (delimiters : Delimiters) (construct : Construct) (code : String) :
    (construct.around delimiters code).toList =
      delimiters.opener.toList ++ (construct.behind delimiters code).toList := by
  simp [around]

theorem toList_around_opener (delimiters : Delimiters) (construct : Construct) (code : String) :
    (construct.around delimiters code).toList =
      (construct.opener delimiters).toList ++ (code.toList ++ delimiters.closer.toList) := by
  cases construct <;>
    simp [around, behind, mark, opener, Delimiters.expressionOpener, Delimiters.directiveOpener]

/-- At an opener, the marks behind it tell the constructs apart, the expression mark first. -/
theorem recognise_opener (delimiters : Delimiters) (rest : List Char) :
    recognise delimiters (delimiters.opener.toList ++ rest) =
      if delimiters.expressionMark.toList <+: rest then .expression
      else if delimiters.directiveMark.toList <+: rest then .directive
      else .block := by
  simp only [recognise, Delimiters.expressionOpener, Delimiters.directiveOpener,
    String.toList_append, List.isPrefixOf_iff_prefix, List.prefix_append_right_inj]

theorem mark_prefix_behind (delimiters : Delimiters) (construct : Construct) (code : String) :
    (construct.mark delimiters).toList <+: (construct.behind delimiters code).toList := by
  rw [behind, String.append_assoc, String.toList_append]
  exact List.prefix_append _ _

theorem recognise_expression (delimiters : Delimiters) (code : String) :
    recognise delimiters (expression.around delimiters code).toList = .expression := by
  rw [toList_around, recognise_opener]
  exact if_pos (expression.mark_prefix_behind delimiters code)

theorem recognise_directive {delimiters : Delimiters} {code : String}
    (unmarked : ¬ delimiters.expressionMark.toList <+: (directive.behind delimiters code).toList) :
    recognise delimiters (directive.around delimiters code).toList = .directive := by
  rw [toList_around, recognise_opener, if_neg unmarked]
  exact if_pos (directive.mark_prefix_behind delimiters code)

end Construct

/-- A construct by itself takes up the whole source. -/
theorem Construct.span_around (delimiters : Delimiters) (construct : Construct) (code : String) :
    Fragment.span delimiters ⟨construct, 0, code.toList, code.toList.length⟩ =
      Span.sized 0 (construct.around delimiters code).length := by
  have size := congrArg List.length (construct.toList_around_opener delimiters code)
  simp only [List.length_append, String.length_toList] at size
  ext
  · simp [Span.sized]
  · simp only [Fragment.span_stop, Fragment.closeSpan_stop, Fragment.codeSpan_stop,
      Fragment.openSpan_stop, Span.sized, String.length_toList]
    omega

/-- An opener with these characters behind it is a doubled one. -/
def Options.Doubles (options : Options) (rest : String) : Prop :=
  options.doubling = true ∧ options.delimiters.opener.toList <+: rest.toList
  deriving Decidable

/-- Behind a code, a closer is found only at the end. -/
def ClosedOnce (closer code : List Char) : Prop :=
  ∀ before after, code ++ closer = before ++ closer ++ after → after = []

theorem closedOnce_iff {closer code : List Char} :
    ClosedOnce closer code ↔ ∀ n < code.length, ¬ closer <+: (code ++ closer).drop n := by
  constructor
  · rintro once n inside ⟨after, found⟩
    have split : code ++ closer = (code ++ closer).take n ++ closer ++ after := by
      rw [List.append_assoc, found, List.take_append_drop]
    have last := once _ after split
    have size := congrArg List.length found
    rw [last] at size
    simp only [List.length_append, List.length_nil, List.length_drop] at size
    omega
  · intro absent before after split
    by_contra more
    have size := congrArg List.length split
    have room := List.length_pos_iff.mpr more
    simp only [List.length_append] at size
    refine absent before.length (by omega) ⟨after, ?_⟩
    rw [split, List.append_assoc, List.drop_left]

instance (closer code : List Char) : Decidable (ClosedOnce closer code) :=
  decidable_of_iff _ closedOnce_iff.symm

theorem ClosedOnce.tail {closer code : List Char} {c : Char}
    (once : ClosedOnce closer (c :: code)) : ClosedOnce closer code := by
  intro before after split
  refine once (c :: before) after ?_
  rw [List.cons_append, split]
  rfl

/-- Such a code is read up to its closer, whether or not closers can be doubled. -/
theorem Stretch.reads_closedOnce {closer code : List Char} (nonempty : closer ≠ [])
    (once : ClosedOnce closer code) (doubling : Bool) :
    Reads closer doubling (code ++ closer) ⟨code, code.length, closer⟩ := by
  induction code with
  | nil =>
      refine .stopped ?_ (List.prefix_refl closer)
      intro _ doubled
      have size := doubled.length_le
      have room := List.length_pos_iff.mpr nonempty
      simp only [List.nil_append, List.length_append] at size
      omega
  | cons c code ih =>
      have absent : ¬ closer <+: c :: (code ++ closer) := by
        rintro ⟨after, split⟩
        have last := once [] after split.symm
        have size := congrArg List.length split
        rw [last] at size
        simp only [List.length_append, List.length_cons, List.length_nil] at size
        omega
      have further := Reads.passed absent (ih once.tail)
      rwa [Nat.add_comm] at further

section Doubles

variable {options : Options} {rest : String}

/-- An opener that is not doubled ends the text before it. -/
theorem Options.reads_of_not_doubles (single : ¬ options.Doubles rest) :
    Stretch.Reads options.delimiters.opener.toList options.doubling
      (options.delimiters.opener.toList ++ rest.toList)
      ⟨[], 0, options.delimiters.opener.toList ++ rest.toList⟩ := by
  refine .stopped ?_ (List.prefix_append _ _)
  intro on doubled
  exact single ⟨on, (List.prefix_append_right_inj _).mp doubled⟩

/-- A doubled opener is text. -/
theorem Options.not_doubles_of_value
    (nothing : (Stretch.read options.delimiters.opener.toList options.doubling
      (options.delimiters.opener.toList ++ rest.toList)).value = []) :
    ¬ options.Doubles rest := by
  rintro ⟨on, tail, doubled⟩
  have nonempty := options.delimiters.opener_toList_ne
  have reads := Stretch.Reads.doubled on (Stretch.reads_read nonempty options.doubling tail)
  rw [List.append_assoc, doubled] at reads
  rw [reads.read_eq nonempty] at nothing
  exact nonempty (List.append_eq_nil_iff.mp nothing).1

/-- An opener that ends an empty text and opens no expression is neither doubled nor followed by
the expression mark. -/
theorem Options.apart_of_first
    (nothing : (Stretch.read options.delimiters.opener.toList options.doubling
      (options.delimiters.opener.toList ++ rest.toList)).value = [])
    (other : Construct.recognise options.delimiters
      (Stretch.read options.delimiters.opener.toList options.doubling
        (options.delimiters.opener.toList ++ rest.toList)).rest ≠ .expression) :
    ¬ options.Doubles rest ∧ ¬ options.delimiters.expressionMark.toList <+: rest.toList := by
  have single := not_doubles_of_value nothing
  refine ⟨single, ?_⟩
  intro marked
  rw [(reads_of_not_doubles single).read_eq options.delimiters.opener_toList_ne,
    Construct.recognise_opener, if_pos marked] at other
  exact other rfl

end Doubles

/-- Every expression can be taken up. -/
theorem Fragment.ne_expression_of_refused {options : Options} {fragment : Fragment}
    {error : TemplateError} (refused : fragment.tokens options = .error error) :
    fragment.construct ≠ .expression := by
  intro is
  simp [Fragment.tokens, is] at refused

namespace Scan

section Constructs

variable {options : Options} {construct : Construct} {code : String}

/-- After the last construct there is only the end of input. -/
theorem scanFrom_nil (options : Options) (offset : Nat) :
    scanFrom options offset [] = ⟨[⟨[ending offset], offset⟩], none⟩ :=
  scanFrom_of_final (step_of_ended .ended rfl offset)

/-- A construct that is recognised where it starts is all there is to scan. -/
theorem complete_around (once : ClosedOnce options.delimiters.closer.toList code.toList)
    (single : ¬ options.Doubles (construct.behind options.delimiters code))
    (recognised : Construct.recognise options.delimiters
      (construct.around options.delimiters code).toList = construct) :
    (ofText options (construct.around options.delimiters code)).complete =
      (Fragment.tokens ⟨construct, 0, code.toList, code.toList.length⟩ options).map
        (· ++ [ending (construct.around options.delimiters code).toList.length]) := by
  have written := construct.toList_around_opener options.delimiters code
  have reads := Options.reads_of_not_doubles single
  rw [← Construct.toList_around] at reads
  -- The code is read up to the closer, and behind it there is nothing.
  let passage : Passage options (construct.around options.delimiters code).toList :=
    ⟨⟨_, construct, _, reads, recognised.symm, written⟩, _, [],
      Stretch.reads_closedOnce options.delimiters.closer_toList_ne once options.doubling,
      (List.append_nil _).symm⟩
  have passes := passage.step_eq 0
  have fragment : passage.fragment 0 = ⟨construct, 0, code.toList, code.toList.length⟩ := rfl
  rw [fragment] at passes
  cases accepted : Fragment.tokens ⟨construct, 0, code.toList, code.toList.length⟩ options with
  | error error =>
      rw [accepted] at passes
      rw [ofText, scanFrom_of_broken passes]
      rfl
  | ok tokens =>
      rw [accepted] at passes
      have stop : (passage.batch 0 tokens).position =
          (construct.around options.delimiters code).toList.length := by
        refine Eq.trans ?_ (congrArg List.length written).symm
        simp [Passage.batch, fragment, Nat.add_assoc]
      have scanned : ofText options (construct.around options.delimiters code) =
          deliver (passage.batch 0 tokens)
            (scanFrom options (passage.batch 0 tokens).position []) :=
        scanFrom_of_more passes
      rw [scanned, stop, scanFrom_nil]
      rfl

end Constructs

section First

variable {options : Options} {cs : List Char} {offset : Nat} {token : Token} {rest : List Token}

theorem literal_of_value_ne_nil {text : Stretch} (nonempty : text.value ≠ []) (offset : Nat) :
    literal text offset = [⟨.text, String.ofList text.value, Span.sized offset text.size, []⟩] := by
  rw [literal, if_neg (by simpa using nonempty)]

/-- Text in front of a construct is handed out before it. -/
theorem value_eq_nil_of_first (handed : (scanFrom options offset cs).tokens = token :: rest)
    (coded : token.kind ≠ .text) :
    (Stretch.read options.delimiters.opener.toList options.doubling cs).value = [] := by
  have nonempty := options.delimiters.opener_toList_ne
  have scans := scans_scanFrom options offset cs
  generalize scanFrom options offset cs = scan at scans handed
  by_contra found
  cases scans with
  | final text reads ended =>
      rw [reads.read_eq nonempty] at found
      simp only [tokens, List.flatMap_cons, literal_of_value_ne_nil found,
        List.cons_append] at handed
      cases handed
      exact coded rfl
  | broken error stepped => cases handed
  | more passage tokens accepted further =>
      rw [passage.reads.read_eq nonempty] at found
      simp only [tokens_deliver, Passage.batch, literal_of_value_ne_nil found,
        List.cons_append] at handed
      cases handed
      exact coded rfl

/-- A source that starts with a directive does not start with an expression. -/
theorem recognise_ne_of_directive (handed : (scanFrom options offset cs).tokens = token :: rest)
    (directive : token.kind = .directive) :
    Construct.recognise options.delimiters
      (Stretch.read options.delimiters.opener.toList options.doubling cs).rest ≠ .expression := by
  have nonempty := options.delimiters.opener_toList_ne
  have alone := value_eq_nil_of_first handed (by simp [directive])
  have scans := scans_scanFrom options offset cs
  generalize scanFrom options offset cs = scan at scans handed
  cases scans with
  | final text reads ended =>
      rw [reads.read_eq nonempty] at alone
      simp [tokens, literal, alone] at handed
      rw [← handed.1] at directive
      cases directive
  | broken error stepped => cases handed
  | more passage tokens accepted further =>
      rw [passage.reads.read_eq nonempty] at alone ⊢
      rw [← passage.recognised]
      intro expression
      cases Fragment.formed_tokens accepted with
      | expression _ =>
          simp [Passage.batch, literal, alone, Fragment.delimitedTokens] at handed
          rw [← handed.1] at directive
          cases directive
      | directive _ _ other => exact other expression
      | block is => cases is.symm.trans expression

/-- An error at the start of a source is met by the first step. -/
theorem step_of_failure {error : TemplateError}
    (fails : (scanFrom options 0 cs).failure = some error) (starts : error.span.start = 0) :
    step options 0 cs = .broken error := by
  have stepped := stepped_step options 0 cs
  cases taken : step options 0 cs with
  | final batch =>
      rw [scanFrom_of_final taken] at fails
      cases fails
  | broken other =>
      rw [scanFrom_of_broken taken] at fails
      cases fails
      rfl
  | more batch rest =>
      rw [taken] at stepped
      rw [scanFrom_of_more taken, failure_deliver] at fails
      cases stepped with
      | more passage tokens accepted =>
          -- Errors of later steps lie behind the closer of this one.
          obtain ⟨⟨passed, -, reached⟩, -⟩ :=
            @covers_passage options cs [] cs rfl passage tokens accepted
          have later : error.span.start ≥ (passage.batch 0 tokens).position := by
            change (passage.batch 0 tokens).position = passed.length at reached
            rw [reached] at fails ⊢
            obtain ⟨more, _, -, -, -, _, place⟩ := covers_of_failure rfl fails
            rw [place, List.length_append]
            omega
          have closer := List.length_pos_iff.mpr options.delimiters.closer_toList_ne
          simp only [Passage.batch, Fragment.closeSpan_stop] at later
          omega

/-- Where arguments are refused at the start of a source, it starts with a directive. -/
theorem first_of_unsuitable {span : Span} {name : String} {args : List String}
    {reason : Directive.Reason}
    (fails : (scanFrom options 0 cs).failure = some (.unsuitableArguments span name args reason))
    (starts : span.start = 0) :
    (Stretch.read options.delimiters.opener.toList options.doubling cs).value = [] ∧
      Construct.recognise options.delimiters
        (Stretch.read options.delimiters.opener.toList options.doubling cs).rest ≠ .expression := by
  have nonempty := options.delimiters.opener_toList_ne
  have stepped := stepped_step options 0 cs
  rw [step_of_failure fails starts] at stepped
  cases stepped with
  | refused passage _ refused =>
      rw [passage.reads.read_eq nonempty]
      constructor
      · obtain ⟨_, _, _, same⟩ := Fragment.exists_of_tokens_eq_error refused
        cases same
        rw [Fragment.span_start] at starts
        refine (passage.reads.value_eq_nil_iff nonempty).mpr ?_
        simpa [Passage.fragment] using starts
      · rw [← passage.recognised]
        exact Fragment.ne_expression_of_refused refused

end First

end Scan

/-- An expression around any code that the closer does not end early is read as it was written,
unless it starts with a doubled opener. A directive is read as a directive over the whole source,
or its arguments are refused, unless it starts with a doubled opener or with an expression. In
these cases it is not. -/
theorem marked_constructs_reachable (options : Options) (code : String)
    (once : ClosedOnce options.delimiters.closer.toList code.toList) :
    let delimiters := options.delimiters
    let opened := delimiters.expressionOpener.length
    let expression := Construct.expression.around delimiters code
    let directive := Construct.directive.around delimiters code
    ((Scan.ofText options expression).complete =
        .ok [⟨.expressionOpen, delimiters.expressionOpener, Span.sized 0 opened, []⟩,
          ⟨.code, code, Span.sized opened code.length, []⟩,
          ⟨.expressionClose, delimiters.closer,
            Span.sized (opened + code.length) delimiters.closer.length, []⟩,
          Scan.ending expression.length] ↔
      ¬ options.Doubles (Construct.expression.behind delimiters code)) ∧
    (((∃ name args, (Scan.ofText options directive).complete =
          .ok [⟨.directive, name, Span.sized 0 directive.length, args⟩,
            Scan.ending directive.length]) ∨
        ∃ name args reason, (Scan.ofText options directive).complete =
          .error (.unsuitableArguments (Span.sized 0 directive.length) name args reason)) ↔
      ¬ options.Doubles (Construct.directive.behind delimiters code) ∧
        ¬ delimiters.expressionMark.toList <+:
          (Construct.directive.behind delimiters code).toList) := by
  intro delimiters opened expression directive
  refine ⟨⟨?_, ?_⟩, ⟨?_, ?_⟩⟩
  · intro complete
    have handed := (Scan.complete_eq_ok complete).2
    rw [Scan.ofText, Construct.toList_around] at handed
    exact Options.not_doubles_of_value (Scan.value_eq_nil_of_first handed (by simp))
  · intro single
    rw [Scan.complete_around once single (Construct.recognise_expression delimiters code)]
    simp [Fragment.tokens, Fragment.delimitedTokens, Fragment.openSpan, Fragment.codeSpan,
      Fragment.closeSpan, Span.sized, Construct.opener, Except.map, String.length_toList,
      delimiters, opened, expression]
  · rintro (⟨name, args, complete⟩ | ⟨name, args, reason, complete⟩)
    · have handed := (Scan.complete_eq_ok complete).2
      rw [Scan.ofText, Construct.toList_around] at handed
      exact Options.apart_of_first (Scan.value_eq_nil_of_first handed (by simp))
        (Scan.recognise_ne_of_directive handed rfl)
    · have fails := Scan.complete_eq_error_iff.mp complete
      rw [Scan.ofText, Construct.toList_around] at fails
      obtain ⟨nothing, other⟩ := Scan.first_of_unsuitable fails rfl
      exact Options.apart_of_first nothing other
  · rintro ⟨single, unmarked⟩
    rw [Scan.complete_around once single (Construct.recognise_directive unmarked)]
    have whole := Construct.directive.span_around delimiters code
    cases accepted : Fragment.tokens ⟨.directive, 0, code.toList, code.toList.length⟩ options with
    | error error =>
        obtain ⟨name, args, reason, rfl⟩ := Fragment.exists_of_tokens_eq_error accepted
        rw [whole]
        exact .inr ⟨name, args, reason, rfl⟩
    | ok tokens =>
        cases Fragment.formed_tokens accepted with
        | expression is => cases is
        | directive name args _ =>
            rw [whole, String.length_toList]
            exact .inl ⟨name, args, rfl⟩
        | block is => cases is

/-- Marks that share their first character, around a code that ends as the closer starts. -/
theorem marked_constructs_reachable_overlapping :
    let options : Options := { delimiters := { expressionMark := "==", directiveMark := "=" } }
    ClosedOnce options.delimiters.closer.toList "name #".toList ∧
    (Scan.ofText options "<#==name ##>").complete =
      .ok [⟨.expressionOpen, "<#==", Span.sized 0 4, []⟩, ⟨.code, "name #", Span.sized 4 6, []⟩,
        ⟨.expressionClose, "#>", Span.sized 10 2, []⟩, Scan.ending 12] ∧
    ((∃ name args, (Scan.ofText options "<#=name ##>").complete =
        .ok [⟨.directive, name, Span.sized 0 11, args⟩, Scan.ending 11]) ∨
      ∃ name args reason, (Scan.ofText options "<#=name ##>").complete =
        .error (.unsuitableArguments (Span.sized 0 11) name args reason)) := by
  intro options
  have once : ClosedOnce options.delimiters.closer.toList "name #".toList := by decide
  obtain ⟨expression, directive⟩ := marked_constructs_reachable options "name #" once
  have first : Construct.expression.around options.delimiters "name #" = "<#==name ##>" := by
    decide
  have second : Construct.directive.around options.delimiters "name #" = "<#=name ##>" := by
    decide
  have opener : options.delimiters.expressionOpener = "<#==" := by decide
  have size : "<#=name ##>".length = 11 := by decide
  rw [first, opener] at expression
  rw [second, size] at directive
  exact ⟨once, (expression.mpr (by decide)).trans (by decide), directive.mpr (by decide)⟩

/-- A directive whose mark goes on with the expression mark is an expression, and an expression
whose mark goes on with the opener is text. -/
theorem marked_constructs_hidden :
    let marked : Options := { delimiters := { directiveMark := "==" } }
    let opened : Options := { delimiters := { expressionMark := "<#" } }
    ClosedOnce "#>".toList "x".toList ∧
    Construct.directive.around marked.delimiters "x" = "<#==x#>" ∧
    (Scan.ofText marked "<#==x#>").complete =
      .ok [⟨.expressionOpen, "<#=", Span.sized 0 3, []⟩, ⟨.code, "=x", Span.sized 3 2, []⟩,
        ⟨.expressionClose, "#>", Span.sized 5 2, []⟩, Scan.ending 7] ∧
    Construct.expression.around opened.delimiters "x" = "<#<#x#>" ∧
    (Scan.ofText opened "<#<#x#>").complete =
      .ok [⟨.text, "<#x#>", Span.sized 0 7, []⟩, Scan.ending 7] := by
  decide +kernel

end Stencil
