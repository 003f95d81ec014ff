/-
# Recognising bare directives changes no structure

Whether a code block that reads as a directive is taken for one is a matter of the
options. This module compares two runs on one source, which differ in that option alone,
and shows that they go through the same motions: the scans stop at the same places with
the same errors, each segment of one run is the segment of the other or its recast as a
directive, and the contexts in which they are placed have the same open blocks. A recast
segment cannot fail in either run. As a directive it has a meaning, which was found
before it was recast, and as code it is a statement, which is placed anywhere.

What the runs do not share are the modes that directives set, so contexts are compared
up to these.
-/

import Stencil.Proofs.Formation
import Stencil.Proofs.Spelling

namespace Stencil

/-- The options with the recognition of bare directives turned on or off. -/
def Options.recognising (options : Options) (bareDirectives : Bool) : Options :=
  { options with bareDirectives }

/-- A segment where bare directives are code, and where they are directives. -/
inductive Segment.Recast : Segment → Segment → Prop
  | same (segment : Segment) : Recast segment segment
  | bare {span : Span} {code name : String} {args : List String}
      (reads : Fragment.bareDirective? code.toList = some (name, args)) :
      Recast (.block span code) (.directive span name args)

/-- Only the tokens of a code block that reads as a directive depend on recognition. -/
theorem Fragment.tokens_recognising (options : Options) (fragment : Fragment) :
    fragment.tokens (options.recognising true) = fragment.tokens (options.recognising false) ∨
      ∃ name args, bareDirective? fragment.code = some (name, args) ∧
        fragment.tokens (options.recognising false) =
          .ok (fragment.delimitedTokens options.delimiters .blockOpen .blockClose) ∧
        fragment.tokens (options.recognising true) =
          .ok [⟨.directive, name, fragment.span options.delimiters, args⟩] := by
  obtain ⟨construct, start, code, codeSize⟩ := fragment
  cases construct with
  | expression | directive => exact .inl rfl
  | block =>
      cases reads : bareDirective? code with
      | none =>
          refine .inl ?_
          simp [tokens, Options.recognising, reads]
      | some result =>
          refine .inr ⟨result.1, result.2, rfl, rfl, ?_⟩
          simp [tokens, Options.recognising, reads]

namespace Scan

section Steps

variable {options : Options} {offset : Nat} {cs : List Char}

/-- The same source up to a construct with recognition turned on. -/
def Approach.recognising (approach : Approach (options.recognising false) cs) :
    Approach (options.recognising true) cs :=
  ⟨approach.text, approach.construct, approach.inside, approach.reads, approach.recognised,
    approach.opened⟩

/-- The same passage with recognition turned on. -/
def Passage.recognising (passage : Passage (options.recognising false) cs) :
    Passage (options.recognising true) cs :=
  ⟨passage.toApproach.recognising, passage.code, passage.after, passage.readsCode,
    passage.closed⟩

theorem Passage.outcome_recognising (passage : Passage (options.recognising false) cs)
    (offset : Nat) (tokens : Except TemplateError (List Token)) :
    passage.recognising.outcome offset tokens = passage.outcome offset tokens := by
  cases tokens with
  | error error => rfl
  | ok tokens => rfl

/-- The steps of the two runs: the same, or past the same bare directive. -/
inductive Recast (options : Options) (offset : Nat) (cs : List Char) : Step → Step → Prop
  | same (step : Step) : Recast options offset cs step step
  | bare (passage : Passage (options.recognising false) cs) {name : String} {args : List String}
      (reads : Fragment.bareDirective? passage.code.value = some (name, args)) :
      Recast options offset cs
        (.more (passage.batch offset ((passage.fragment offset).delimitedTokens
          options.delimiters .blockOpen .blockClose)) passage.after)
        (.more (passage.batch offset
          [⟨.directive, name, (passage.fragment offset).span options.delimiters, args⟩])
          passage.after)

theorem Passage.recast_step (passage : Passage (options.recognising false) cs) (offset : Nat) :
    Recast options offset cs (step (options.recognising false) offset cs)
      (step (options.recognising true) offset cs) := by
  have bare : step (options.recognising true) offset cs =
      passage.outcome offset ((passage.fragment offset).tokens (options.recognising true)) :=
    (passage.recognising.step_eq offset).trans (passage.outcome_recognising offset _)
  rw [passage.step_eq offset, bare]
  rcases Fragment.tokens_recognising options (passage.fragment offset) with
    same | ⟨name, args, reads, plain, recognised⟩
  · rw [same]
    exact .same _
  · rw [plain, recognised]
    exact .bare passage reads

theorem recast_step (options : Options) (offset : Nat) (cs : List Char) :
    Recast options offset cs (step (options.recognising false) offset cs)
      (step (options.recognising true) offset cs) := by
  have stepped := stepped_step (options.recognising false) offset cs
  cases hstep : step (options.recognising false) offset cs with
  | final batch =>
      rw [hstep] at stepped
      cases stepped with
      | final text reads ended =>
          have reads' : Stretch.Reads (options.recognising true).delimiters.opener.toList
            (options.recognising true).doubling cs text := reads
          rw [step_of_ended reads' ended offset]
          exact .same _
  | broken error =>
      rw [hstep] at stepped
      cases stepped with
      | unterminated approach code readsCode ended =>
          rw [step_of_unterminated approach.recognising readsCode ended offset]
          exact .same _
      | refused passage error refused => exact hstep ▸ passage.recast_step offset
  | more batch rest =>
      rw [hstep] at stepped
      cases stepped with
      | more passage tokens accepted => exact hstep ▸ passage.recast_step offset

end Steps

/-- The scans of the two runs fail alike, and each segment of one is that of the other or
its recast. -/
theorem exists_recast (options : Options) (offset : Nat) (cs : List Char) :
    ∃ segments segments', (scanFrom (options.recognising false) offset cs).Carries segments ∧
      (scanFrom (options.recognising true) offset cs).Carries segments' ∧
      (scanFrom (options.recognising true) offset cs).failure =
        (scanFrom (options.recognising false) offset cs).failure ∧
      List.Forall₂ Segment.Recast segments segments' := by
  induction hsize : cs.length using Nat.strongRecOn generalizing offset cs with
  | ind size ih =>
      have reflexive : ∀ {segments}, List.Forall₂ Segment.Recast segments segments :=
        List.forall₂_same.mpr fun segment _ => .same segment
      have recast := recast_step options offset cs
      generalize plain : step (options.recognising false) offset cs = step at recast
      generalize bare : Scan.step (options.recognising true) offset cs = step' at recast
      cases recast with
      | same =>
          obtain ⟨segments, carries, -⟩ := exists_segments (options.recognising false) offset cs
          cases step with
          | final batch =>
              rw [scanFrom_of_final plain] at carries ⊢
              rw [scanFrom_of_final bare]
              exact ⟨segments, segments, carries, carries, rfl, reflexive⟩
          | broken error =>
              rw [scanFrom_of_broken plain] at carries ⊢
              rw [scanFrom_of_broken bare]
              exact ⟨segments, segments, carries, carries, rfl, reflexive⟩
          | more batch rest =>
              rw [scanFrom_of_more plain, scanFrom_of_more bare]
              obtain ⟨here, units, -⟩ := exists_segments_of_more plain
              obtain ⟨others, others', further, further', fails, recast⟩ :=
                ih _ (hsize ▸ length_lt_of_step_more plain) batch.position rest rfl
              exact ⟨here ++ others, here ++ others', further.deliver units,
                further'.deliver units, fails, List.rel_append reflexive recast⟩
      | @bare passage name args reads =>
          -- Both scans go on after the same closer, at the same offset.
          rw [scanFrom_of_more plain, scanFrom_of_more bare]
          obtain ⟨before, units, -⟩ := concatenates_literal passage.reads offset
          obtain ⟨others, others', further, further', fails, recast⟩ :=
            ih _ (hsize ▸ length_lt_of_step_more plain)
              ((passage.fragment offset).closeSpan options.delimiters).stop passage.after rfl
          have code : Concatenates ((passage.fragment offset).delimitedTokens options.delimiters
              .blockOpen .blockClose)
              [.block ((passage.fragment offset).span options.delimiters)
                (String.ofList passage.code.value)] :=
            .singleton (.block rfl rfl rfl)
          have directive : Concatenates
              [⟨.directive, name, (passage.fragment offset).span options.delimiters, args⟩]
              [.directive ((passage.fragment offset).span options.delimiters) name args] :=
            .singleton (.directive rfl)
          have here : Segment.Recast
              (.block ((passage.fragment offset).span options.delimiters)
                (String.ofList passage.code.value))
              (.directive ((passage.fragment offset).span options.delimiters) name args) := by
            refine .bare ?_
            rwa [String.toList_ofList]
          exact ⟨_, _, further.deliver (units.append code),
            further'.deliver (units.append directive), fails,
            List.rel_append (List.rel_append reflexive (.cons here .nil)) recast⟩

end Scan

/-- Blocks that differ at most in the cleaning mode. -/
structure Block.Alike (first second : Block) : Prop where
  span : second.span = first.span
  code : second.code = first.code
  role : second.role = first.role
  depth : second.depth = first.depth
  keyword : second.keyword = first.keyword

/-- A node where bare directives are code, and where they are directives. The modes that
were in force need not be the same. -/
inductive Node.Recast : Node → Node → Prop
  | literal (span : Span) (text : String) : Recast (.literal span text) (.literal span text)
  | expression (span : Span) (code : String) (escaping escaping' : Escaping)
      (escaper escaper' : Option String) :
      Recast (.expression span code escaping escaper) (.expression span code escaping' escaper')
  | block {first second : Block} (alike : first.Alike second) :
      Recast (.block first) (.block second)
  | directive (span : Span) (name : String) (args : List String) (cleaning cleaning' : Cleaning) :
      Recast (.directive span name args cleaning) (.directive span name args cleaning')
  /-- A statement that reads as a directive. -/
  | bare {block : Block} {code name : String} {args : List String} (cleaning : Cleaning)
      (statement : block.role = .statement) (trimmed : block.code = Text.trimmed code)
      (reads : Fragment.bareDirective? code.toList = some (name, args)) :
      Recast (.block block) (.directive block.span name args cleaning)

theorem Node.Recast.span_eq {first second : Node} (recast : Recast first second) :
    second.span = first.span := by
  cases recast with
  | literal | expression | directive | bare => rfl
  | block alike => exact alike.span

theorem Node.map_span_eq_of_recast {nodes nodes' : List Node}
    (recast : List.Forall₂ Recast nodes nodes') : nodes'.map Node.span = nodes.map Node.span := by
  induction recast with
  | nil => rfl
  | cons here _ ih => rw [List.map_cons, List.map_cons, here.span_eq, ih]

/-- Contexts with the same open blocks. Of the modes, only the depth has to agree. -/
structure Context.Alike (first second : Context) : Prop where
  depth : second.modes.depth = first.modes.depth
  openBlocks : List.Forall₂ Block.Alike first.openBlocks second.openBlocks

/-- Results that are the same error, or both succeed with what is related. -/
inductive Agree {α : Type} (related : α → α → Prop) :
    Except TemplateError α → Except TemplateError α → Prop
  | error (error : TemplateError) : Agree related (.error error) (.error error)
  | ok {first second : α} (values : related first second) : Agree related (.ok first) (.ok second)

theorem Agree.map {α β : Type} {related : α → α → Prop} {related' : β → β → Prop} {f : α → β}
    {first second : Except TemplateError α} (agree : Agree related first second)
    (values : ∀ {a b}, related a b → related' (f a) (f b)) :
    Agree related' (first.map f) (second.map f) := by
  cases agree with
  | error error => exact .error error
  | ok both => exact .ok (values both)

namespace Context

variable {first second : Context}

/-- A fragment fits one of two alike contexts if it fits the other. -/
theorem Alike.agree_placeShape (alike : first.Alike second) (span : Span) (code : String)
    (shape : Shape) :
    Agree (fun placed placed' => placed.1.Alike placed'.1 ∧ placed.2.Alike placed'.2)
      (first.placeShape span code shape) (second.placeShape span code shape) := by
  obtain ⟨modes, openBlocks⟩ := first
  obtain ⟨modes', openBlocks'⟩ := second
  obtain ⟨depth, blocks⟩ := alike
  dsimp only at depth blocks
  cases role : shape.role with
  | opens =>
      simp only [placeShape, role]
      have opened : Block.Alike ⟨span, code, .opens, modes.depth, shape.keyword, modes.cleaning⟩
          ⟨span, code, .opens, modes'.depth, shape.keyword, modes'.cleaning⟩ :=
        ⟨rfl, rfl, rfl, depth, rfl⟩
      exact .ok ⟨opened, congrArg (· + 1) depth, .cons opened blocks⟩
  | continues =>
      cases blocks with
      | nil =>
          simp only [placeShape, role]
          exact .error _
      | cons innermost outer =>
          simp only [placeShape, role]
          exact .ok ⟨⟨rfl, rfl, rfl, congrArg (· - 1) depth, rfl⟩, depth, .cons innermost outer⟩
  | closes =>
      cases blocks with
      | nil =>
          simp only [placeShape, role]
          exact .error _
      | cons innermost outer =>
          simp only [placeShape, role, innermost.keyword, innermost.span, innermost.code]
          split
          · exact .ok ⟨⟨rfl, rfl, rfl, congrArg (· - 1) depth, rfl⟩, congrArg (· - 1) depth, outer⟩
          · exact .error _
  | statement =>
      simp only [placeShape, role]
      exact .ok ⟨⟨rfl, rfl, rfl, depth, rfl⟩, depth, blocks⟩

/-- A segment and its recast fit alike contexts alike. -/
theorem Alike.agree_place (alike : first.Alike second) (style : BlockStyle)
    {segment segment' : Segment} (recast : Segment.Recast segment segment') :
    Agree (fun placed placed' => Node.Recast placed.1 placed'.1 ∧ placed.2.Alike placed'.2)
      (first.place style segment) (second.place style segment') := by
  cases recast with
  | same =>
      cases segment with
      | text span value => exact .ok ⟨.literal span value, alike⟩
      | expression span code => exact .ok ⟨.expression _ _ _ _ _ _, alike⟩
      | block span code =>
          refine (alike.agree_placeShape span (Text.trimmed code) _).map ?_
          exact fun both => ⟨.block both.1, both.2⟩
      | directive span name args =>
          cases meaning : Directive.interpret name args with
          | error fault =>
              simp only [place, Modes.direct_of_error meaning]
              exact .error _
          | ok directive =>
              simp only [place, Modes.direct_of_ok meaning]
              refine .ok ⟨.directive _ _ _ _ _, ?_, alike.openBlocks⟩
              rw [Modes.apply_depth, Modes.apply_depth]
              exact alike.depth
  | @bare span code name args reads =>
      obtain ⟨after, bare⟩ := Fragment.exists_bare reads
      obtain ⟨directive, meaning⟩ := bare.meaning
      -- Neither a statement nor a directive with a meaning is ever refused.
      have statement := bare.classify_trimmed style
      rw [String.ofList_toList] at statement
      simp only [place, statement, placeShape, Modes.direct_of_ok meaning, Except.map]
      refine .ok ⟨.bare _ rfl rfl reads, ?_, alike.openBlocks⟩
      rw [Modes.apply_depth]
      exact alike.depth

/-- The same block is reported as still open. -/
theorem Alike.unclosed_eq (alike : first.Alike second) :
    Parse.unclosed second = Parse.unclosed first := by
  obtain ⟨modes, openBlocks⟩ := first
  obtain ⟨modes', openBlocks'⟩ := second
  obtain ⟨-, blocks⟩ := alike
  cases blocks with
  | nil => rfl
  | cons innermost outer => simp [Parse.unclosed, innermost.span, innermost.code]

end Context

namespace Parse

/-- Segments and their recasts are placed with the same failure, and their nodes are
recasts too. -/
theorem recast_ofSegments {first second : Context} {segments segments' : List Segment}
    (alike : first.Alike second) (style : BlockStyle)
    (recast : List.Forall₂ Segment.Recast segments segments') (failure : Option ParseFailure) :
    (ofSegments style failure second segments').failure =
        (ofSegments style failure first segments).failure ∧
      List.Forall₂ Node.Recast (ofSegments style failure first segments).nodes
        (ofSegments style failure second segments').nodes := by
  induction recast generalizing first second with
  | nil =>
      refine ⟨?_, .nil⟩
      cases failure with
      | some failure => rfl
      | none =>
          simp only [ofSegments, closing, alike.unclosed_eq]
  | cons here further ih =>
      have agree := alike.agree_place style here
      rw [ofSegments, ofSegments]
      generalize first.place style _ = placed at agree ⊢
      generalize second.place style _ = placed' at agree ⊢
      cases agree with
      | error error => exact ⟨rfl, .nil⟩
      | ok both =>
          obtain ⟨fails, nodes⟩ := ih both.2
          exact ⟨fails, .cons both.1 nodes⟩

end Parse

/-- Whether bare directives are recognised decides neither whether a source parses nor
with what error it fails. The nodes are the same but for their modes and for statements
that are directives where they are recognised. -/
theorem bare_directives_keep_structure (options : Options) (source : String) :
    (Parse.ofText (options.recognising true) source).failure =
        (Parse.ofText (options.recognising false) source).failure ∧
      (Parse.ofText (options.recognising true) source).nodes.map Node.span =
        (Parse.ofText (options.recognising false) source).nodes.map Node.span ∧
      List.Forall₂ Node.Recast (Parse.ofText (options.recognising false) source).nodes
        (Parse.ofText (options.recognising true) source).nodes := by
  obtain ⟨segments, segments', carries, carries', fails, recast⟩ :=
    Scan.exists_recast options 0 source.toList
  have alike : (Context.initial (options.recognising false)).Alike
      (Context.initial (options.recognising true)) := ⟨rfl, .nil⟩
  have scans : (Scan.ofText (options.recognising true) source).failure =
      (Scan.ofText (options.recognising false) source).failure := fails
  rw [Parse.ofText_eq_ofSegments carries, Parse.ofText_eq_ofSegments carries', scans]
  obtain ⟨same, nodes⟩ := Parse.recast_ofSegments alike options.blockStyle recast
    ((Scan.ofText (options.recognising false) source).failure.map .template)
  exact ⟨same, Node.map_span_eq_of_recast nodes, nodes⟩

example :
    (Parse.ofText (Options.standard.recognising false) "<# escape off #>").nodes =
        [.block ⟨Span.sized 0 16, "escape off", .statement, 0, none, .none⟩] ∧
      (Parse.ofText (Options.standard.recognising true) "<# escape off #>").nodes =
        [.directive (Span.sized 0 16) "escape" ["off"] .none] := by
  decide +kernel

end Stencil
