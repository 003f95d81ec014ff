/-
# What a parser makes of what its source delivers

A source is described by the tokens it delivers when it is asked to the end, and by
the error it then breaks off with, if any. A parser at work faces the tokens that it
has not let go of yet, the one in hand among them. Both are relations, so nothing is
said here of when a source does its work.

The result is that a parse depends on a source only through what it delivers, and is
then the same as placing the segments of its tokens one after the other. This is the
form in which the results of a parse are studied elsewhere.
-/

import Stencil.Proofs.Grammar
import Stencil.Proofs.Placement

namespace Stencil

variable {σ : Type} [TokenSource σ]

/-- The tokens a source hands out, and the error it breaks off with. -/
inductive Delivers : σ → List Token → Option TemplateError → Prop
  | ended {source : σ} (h : TokenSource.next source = .ok none) : Delivers source [] none
  | broken {source : σ} {error : TemplateError} (h : TokenSource.next source = .error error) :
      Delivers source [] (some error)
  | token {source rest : σ} {token : Token} {tokens : List Token} {ending : Option TemplateError}
      (h : TokenSource.next source = .ok (some (token, rest)))
      (further : Delivers rest tokens ending) : Delivers source (token :: tokens) ending

theorem delivers_list (tokens : List Token) : Delivers tokens tokens none := by
  induction tokens with
  | nil => exact .ended rfl
  | cons token rest ih => exact .token rfl ih

namespace Parser

variable {parser : Parser σ} {tokens rest : List Token} {token : Token}
  {ending : Option TemplateError} {kind : TokenKind}

/-- The tokens that a parser has not let go of, and how its source ends. -/
inductive Faces : Parser σ → List Token → Option TemplateError → Prop
  | unasked {source : σ} {context : Context} {tokens : List Token}
      {ending : Option TemplateError} (further : Delivers source tokens ending) :
      Faces ⟨source, none, context⟩ tokens ending
  | ended {source : σ} {context : Context} : Faces ⟨source, some none, context⟩ [] none
  | held {source : σ} {context : Context} {token : Token} {tokens : List Token}
      {ending : Option TemplateError} (further : Delivers source tokens ending) :
      Faces ⟨source, some (some token), context⟩ (token :: tokens) ending

/-- An action that gives a value, leaves these tokens to be faced, and does not touch
the context. -/
def Gives {α : Type} (action : Action σ α) (parser : Parser σ) (value : α)
    (tokens : List Token) (ending : Option TemplateError) : Prop :=
  ∃ next, action parser = .ok value next ∧ next.Faces tokens ending ∧
    next.context = parser.context

/-- An action that fails and does not touch the context. -/
def Fails {α : Type} (action : Action σ α) (parser : Parser σ) (failure : ParseFailure) : Prop :=
  ∃ last, action parser = .error failure last ∧ last.context = parser.context

theorem Gives.bind {α β : Type} {first : Action σ α} {second : α → Action σ β} {value : α}
    {result : β} {later : List Token} (given : Gives first parser value tokens ending)
    (h : ∀ next : Parser σ, next.Faces tokens ending →
      Gives (second value) next result later ending) :
    Gives (first >>= second) parser result later ending := by
  obtain ⟨middle, hfirst, faces, same⟩ := given
  obtain ⟨last, hsecond, faces', same'⟩ := h middle faces
  exact ⟨last, by rw [bind_of_ok hfirst, hsecond], faces', same'.trans same⟩

theorem Gives.bind_fails {α β : Type} {first : Action σ α} {second : α → Action σ β} {value : α}
    {failure : ParseFailure} (given : Gives first parser value tokens ending)
    (h : ∀ next : Parser σ, next.Faces tokens ending → Fails (second value) next failure) :
    Fails (first >>= second) parser failure := by
  obtain ⟨middle, hfirst, faces, same⟩ := given
  obtain ⟨last, hsecond, same'⟩ := h middle faces
  exact ⟨last, by rw [bind_of_ok hfirst, hsecond], same'.trans same⟩

omit [TokenSource σ] in
theorem Fails.bind {α β : Type} {first : Action σ α} {second : α → Action σ β}
    {failure : ParseFailure} (failed : Fails first parser failure) :
    Fails (first >>= second) parser failure := by
  obtain ⟨last, hfirst, same⟩ := failed
  exact ⟨last, bind_of_error hfirst, same⟩

theorem gives_pure {α : Type} {value : α} (faces : parser.Faces tokens ending) :
    Gives (pure value) parser value tokens ending :=
  ⟨parser, rfl, faces, rfl⟩

/-- A look shows the first token that is faced, and keeps it. -/
theorem gives_peek (faces : parser.Faces (token :: rest) ending) :
    Gives peek parser (some token) (token :: rest) ending := by
  cases faces with
  | unasked further =>
      cases further with
      | token delivered further =>
          refine ⟨_, ?_, .held further, rfl⟩
          simp only [peek_eq, delivered]
  | held further => exact ⟨_, rfl, .held further, rfl⟩

/-- A look after the last token shows that there is none. -/
theorem gives_peek_none (faces : parser.Faces [] none) : Gives peek parser none [] none := by
  cases faces with
  | @unasked source context _ _ further =>
      cases further with
      | ended exhausted =>
          refine ⟨⟨source, some none, context⟩, ?_, .ended, rfl⟩
          simp only [peek_eq, exhausted]
  | ended => exact ⟨_, rfl, .ended, rfl⟩

/-- A look beyond the last token meets the error of the source. -/
theorem fails_peek {error : TemplateError} (faces : parser.Faces [] (some error)) :
    Fails peek parser (.template error) := by
  cases faces with
  | unasked further =>
      cases further with
      | broken error =>
          refine ⟨_, ?_, rfl⟩
          simp only [peek_eq, error]

/-- Letting go of the token in hand leaves the ones after it. -/
theorem gives_advance (faces : parser.Faces (token :: rest) ending) :
    Gives advance parser () rest ending := by
  obtain ⟨looked, hlook, faces', same⟩ := gives_peek faces
  have held := ahead_of_peek hlook
  cases faces' with
  | unasked further => cases held
  | held further =>
      refine ⟨_, ?_, .unasked further, same⟩
      simp only [advance, bind_of_ok hlook]
      rfl

theorem gives_consume (faces : parser.Faces (token :: rest) ending) (is : token.kind = kind)
    (inner : kind ≠ .endOfInput) : Gives (consume kind) parser token rest ending := by
  apply (gives_peek faces).bind
  intro looked faces'
  have fits : ¬ (token.kind = .endOfInput ∨ token.kind ≠ kind) := by
    rw [is]
    simpa using inner
  simp only [if_neg fits]
  exact (gives_advance faces').bind fun next => gives_pure

theorem fails_consume (faces : parser.Faces (token :: rest) ending) (differs : token.kind ≠ kind) :
    Fails (consume kind) parser (.expected kind token) := by
  apply (gives_peek faces).bind_fails
  intro looked _
  simp only [if_pos (Or.inr differs)]
  exact ⟨looked, rfl, rfl⟩

/-- A token that is missing is missed only when it is asked for: then a source that
breaks off reports its own error. -/
theorem fails_consume_nil (faces : parser.Faces [] ending) :
    Fails (consume kind) parser ((ending.map .template).getD (.exhausted kind)) := by
  cases ending with
  | none =>
      apply (gives_peek_none faces).bind_fails
      intro looked _
      exact ⟨looked, rfl, rfl⟩
  | some error => exact (fails_peek faces).bind

theorem gives_delimited {opener code closer : Token} {closing : TokenKind}
    (faces : parser.Faces (opener :: code :: closer :: rest) ending)
    (opens : opener.kind.closing? = some closing) (holds : code.kind = .code)
    (closes : closer.kind = closing) :
    Gives (delimited opener.kind closing) parser (opener.span.cover closer.span, code.value)
      rest ending := by
  obtain ⟨inner, inner'⟩ := TokenKind.ne_endOfInput_of_opens opens
  apply (gives_consume faces rfl inner).bind
  intro first faces
  apply (gives_consume faces holds (by simp)).bind
  intro second faces
  apply (gives_consume faces closes inner').bind
  intro third faces
  exact gives_pure faces

/-- A construct with a token that does not fit. -/
theorem fails_delimited {opener : Token} {closing : TokenKind} {failure : ParseFailure}
    (faces : parser.Faces (opener :: rest) ending)
    (opens : opener.kind.closing? = some closing) (clashes : Clashes (opener :: rest) failure) :
    Fails (delimited opener.kind closing) parser failure := by
  obtain ⟨inner, -⟩ := TokenKind.ne_endOfInput_of_opens opens
  cases clashes with
  | stray is => rcases is with is | is | is <;> rw [is] at opens <;> cases opens
  | notCode _ differs =>
      apply (gives_consume faces rfl inner).bind_fails
      intro first faces
      exact (fails_consume faces differs).bind
  | notCloser opens' holds differs =>
      cases opens.symm.trans opens'
      apply (gives_consume faces rfl inner).bind_fails
      intro first faces
      apply (gives_consume faces holds (by simp)).bind_fails
      intro second faces
      exact (fails_consume faces differs).bind

/-- A construct with a token that is missing. -/
theorem fails_delimited_short {opener : Token} {closing : TokenKind}
    (faces : parser.Faces (opener :: rest) ending)
    (opens : opener.kind.closing? = some closing) (short : Short (opener :: rest) kind) :
    Fails (delimited opener.kind closing) parser
      ((ending.map .template).getD (.exhausted kind)) := by
  obtain ⟨inner, -⟩ := TokenKind.ne_endOfInput_of_opens opens
  cases short with
  | code _ =>
      apply (gives_consume faces rfl inner).bind_fails
      intro first faces
      exact (fails_consume_nil faces).bind
  | closer opens' holds =>
      cases opens.symm.trans opens'
      apply (gives_consume faces rfl inner).bind_fails
      intro first faces
      apply (gives_consume faces holds (by simp)).bind_fails
      intro second faces
      exact (fails_consume_nil faces).bind

/-- The tokens of a segment give that segment. -/
theorem gives_segment {others : List Token} {taken : Segment}
    (faces : parser.Faces (token :: others ++ rest) ending)
    (spells : Segment.Spells (token :: others) taken) :
    Gives (segment token) parser taken rest ending := by
  cases spells with
  | text is =>
      simp only [segment, is]
      exact (gives_advance faces).bind fun next => gives_pure
  | directive is =>
      simp only [segment, is]
      exact (gives_consume faces is (by simp)).bind fun next => gives_pure
  | expression opens holds closes =>
      have given := gives_delimited faces (by rw [opens]; rfl) holds closes
      rw [opens] at given
      simp only [segment, opens]
      exact given.bind fun next => gives_pure
  | block opens holds closes =>
      have given := gives_delimited faces (by rw [opens]; rfl) holds closes
      rw [opens] at given
      simp only [segment, opens]
      exact given.bind fun next => gives_pure

/-- Whatever makes a construct fail makes its segment fail. -/
private theorem fails_segment_of_opens {failure : ParseFailure} {closing : TokenKind}
    (opens : token.kind.closing? = some closing)
    (failed : Fails (delimited token.kind closing) parser failure) :
    Fails (segment token) parser failure := by
  cases kind : token.kind with
  | expressionOpen =>
      rw [kind] at opens failed
      cases opens
      simp only [segment, kind]
      exact failed.bind
  | blockOpen =>
      rw [kind] at opens failed
      cases opens
      simp only [segment, kind]
      exact failed.bind
  | text | directive | expressionClose | blockClose | code | endOfInput =>
      rw [kind] at opens
      cases opens

theorem fails_segment {failure : ParseFailure} (faces : parser.Faces (token :: rest) ending)
    (clashes : Clashes (token :: rest) failure) : Fails (segment token) parser failure := by
  cases id clashes with
  | stray is =>
      refine ⟨parser, ?_, rfl⟩
      rcases is with is | is | is <;> simp only [segment, is] <;> rfl
  | notCode opens _ => exact fails_segment_of_opens opens (fails_delimited faces opens clashes)
  | notCloser opens _ _ => exact fails_segment_of_opens opens (fails_delimited faces opens clashes)

theorem fails_segment_short (faces : parser.Faces (token :: rest) ending)
    (short : Short (token :: rest) kind) :
    Fails (segment token) parser ((ending.map .template).getD (.exhausted kind)) := by
  cases id short with
  | code opens => exact fails_segment_of_opens opens (fails_delimited_short faces opens short)
  | closer opens _ => exact fails_segment_of_opens opens (fails_delimited_short faces opens short)

theorem Faces.nest {context : Context} (faces : parser.Faces tokens ending) :
    ({ parser with context } : Parser σ).Faces tokens ending := by
  cases faces with
  | unasked further => exact .unasked further
  | ended => exact .ended
  | held further => exact .held further

variable (style : BlockStyle)

/-- A turn over the tokens of a segment is the placing of that segment. -/
theorem turn_of_spells {unit : List Token} {taken : Segment}
    (faces : parser.Faces (unit ++ rest) ending) (spells : Segment.Spells unit taken) :
    ∃ next : Parser σ, next.Faces rest ending ∧ next.context = parser.context ∧
      turn style parser =
        match parser.context.place style taken with
        | .error error => .error (.template error) next
        | .ok (node, context) => .ok (some node) { next with context } := by
  cases unit with
  | nil => exact absurd spells.length_pos (Nat.lt_irrefl 0)
  | cons token others =>
      have inner : token.kind ≠ .endOfInput := by
        cases spells <;> simp_all
      obtain ⟨looked, hlook, faces', same⟩ := gives_peek faces
      obtain ⟨next, htaken, faces'', same'⟩ := gives_segment faces' spells
      refine ⟨next, faces'', same'.trans same, ?_⟩
      simp only [turn, bind_of_ok hlook, if_neg inner, bind_of_ok htaken]
      rw [← same, ← same']
      cases hplace : next.context.place style taken with
      | error error =>
          exact bind_of_error (by rw [build_eq, hplace])
      | ok placed =>
          rw [bind_of_ok (by rw [build_eq, hplace])]
          rfl

/-- A turn fails if the segment in front of it does. -/
private theorem fails_turn_of_segment {failure : ParseFailure}
    (faces : parser.Faces (token :: rest) ending) (inner : token.kind ≠ .endOfInput)
    (failed : ∀ next : Parser σ, next.Faces (token :: rest) ending →
      Fails (segment token) next failure) :
    Fails (turn style) parser failure := by
  apply (gives_peek faces).bind_fails
  intro looked faces'
  simp only [if_neg inner]
  exact (failed looked faces').bind

theorem fails_turn {failure : ParseFailure} (faces : parser.Faces tokens ending)
    (clashes : Clashes tokens failure) : Fails (turn style) parser failure := by
  cases id clashes with
  | stray is =>
      apply fails_turn_of_segment style faces
      · rcases is with is | is | is <;> simp [is]
      · intro next faces'
        exact fails_segment faces' clashes
  | notCode opens _ | notCloser opens _ _ =>
      apply fails_turn_of_segment style faces (TokenKind.ne_endOfInput_of_opens opens).1
      intro next faces'
      exact fails_segment faces' clashes

theorem fails_turn_short (faces : parser.Faces tokens ending) (short : Short tokens kind) :
    Fails (turn style) parser ((ending.map .template).getD (.exhausted kind)) := by
  cases id short with
  | code opens | closer opens _ =>
      apply fails_turn_of_segment style faces (TokenKind.ne_endOfInput_of_opens opens).1
      intro next faces'
      exact fails_segment_short faces' short

/-- A turn at an end of input builds nothing and asks for nothing. -/
theorem gives_turn_of_input (faces : parser.Faces (token :: rest) ending)
    (is : token.kind = .endOfInput) :
    Gives (turn style) parser none (token :: rest) ending := by
  apply (gives_peek faces).bind
  intro looked faces'
  simp only [if_pos is]
  exact gives_pure faces'

theorem gives_turn_of_used (faces : parser.Faces [] none) :
    Gives (turn style) parser none [] none := by
  apply (gives_peek_none faces).bind
  intro looked faces'
  exact gives_pure faces'

end Parser

namespace Parse

/-- A run places the segments of the tokens that it faces. -/
theorem run_eq_ofSegments {style : BlockStyle} {parser : Parser σ} {tokens : List Token}
    {ending : Option TemplateError} {segments : List Segment} {halt : Halt}
    (faces : parser.Faces tokens ending) (groups : Groups tokens segments halt) :
    run style parser = ofSegments style (halt.failure ending) parser.context segments := by
  induction groups generalizing parser with
  | input is =>
      obtain ⟨last, turned, -, same⟩ := Parser.gives_turn_of_input style faces is
      rw [run_of_none turned, same]
      rfl
  | used =>
      cases ending with
      | none =>
          obtain ⟨last, turned, -, same⟩ := Parser.gives_turn_of_used style faces
          rw [run_of_none turned, same]
          rfl
      | some error =>
          obtain ⟨last, turned, same⟩ := (Parser.fails_peek faces).bind
          rw [run_of_error turned, same]
          rfl
  | clash clashes =>
      obtain ⟨last, turned, same⟩ := Parser.fails_turn style faces clashes
      rw [run_of_error turned, same]
      rfl
  | short short =>
      obtain ⟨last, turned, same⟩ := Parser.fails_turn_short style faces short
      rw [run_of_error turned, same]
      rfl
  | segment spells further ih =>
      obtain ⟨next, faces', same, turned⟩ := Parser.turn_of_spells style faces spells
      cases placed : parser.context.place style _ with
      | error error =>
          rw [placed] at turned
          rw [run_of_error turned, same, ofSegments, placed]
      | ok result =>
          rw [placed] at turned
          rw [run_of_some turned, ofSegments, placed, ih faces'.nest]

/-- A parse depends on its source only through what the source delivers. -/
theorem ofSource_eq_ofSegments {options : Options} {source : σ} {tokens : List Token}
    {ending : Option TemplateError} {segments : List Segment} {halt : Halt}
    (delivers : Delivers source tokens ending) (groups : Groups tokens segments halt) :
    ofSource options source =
      ofSegments options.blockStyle (halt.failure ending) (Context.initial options) segments :=
  run_eq_ofSegments (.unasked delivers) groups

/-- A parse of tokens places their segments. -/
theorem ofTokens_eq_ofSegments {options : Options} {tokens : List Token}
    {segments : List Segment} {halt : Halt} (groups : Groups tokens segments halt) :
    ofTokens options tokens =
      ofSegments options.blockStyle (halt.failure none) (Context.initial options) segments :=
  ofSource_eq_ofSegments (delivers_list tokens) groups

end Parse

end Stencil
