/-
# The grammar of tokens

Tokens fall into segments from the left until there is no further segment. Where
and why they stop is a matter of the tokens alone: at the end of input, between two
segments, inside a segment, or at a token that does not fit. What a parser reports
for it also depends on how its source ends, so the two are kept apart: `Halt` says
where the segments stop, and `Halt.failure` what is reported over a given source.
-/

import Stencil.Segment

namespace Stencil

/-- What closes a construct whose opener is of this kind. -/
def TokenKind.closing? : TokenKind → Option TokenKind
  | .expressionOpen => some .expressionClose
  | .blockOpen => some .blockClose
  | _ => none

/-- The kinds at the two ends of a construct are no ends of input. -/
theorem TokenKind.ne_endOfInput_of_opens {opening closing : TokenKind}
    (opens : opening.closing? = some closing) :
    opening ≠ .endOfInput ∧ closing ≠ .endOfInput := by
  cases opening <;> cases opens <;> simp

/-- The tokens of one segment. -/
inductive Segment.Spells : List Token → Segment → Prop
  | text {token : Token} (is : token.kind = .text) :
      Spells [token] (.text token.span token.value)
  | directive {token : Token} (is : token.kind = .directive) :
      Spells [token] (.directive token.span token.value token.args)
  | expression {opener code closer : Token} (opens : opener.kind = .expressionOpen)
      (holds : code.kind = .code) (closes : closer.kind = .expressionClose) :
      Spells [opener, code, closer] (.expression (opener.span.cover closer.span) code.value)
  | block {opener code closer : Token} (opens : opener.kind = .blockOpen)
      (holds : code.kind = .code) (closes : closer.kind = .blockClose) :
      Spells [opener, code, closer] (.block (opener.span.cover closer.span) code.value)

/-- Tokens among which one does not fit before a first segment is complete. -/
inductive Clashes : List Token → ParseFailure → Prop
  | stray {token : Token} {rest : List Token}
      (is : token.kind = .expressionClose ∨ token.kind = .blockClose ∨ token.kind = .code) :
      Clashes (token :: rest) (.unexpected token)
  | notCode {opener other : Token} {rest : List Token} {closing : TokenKind}
      (opens : opener.kind.closing? = some closing) (differs : other.kind ≠ .code) :
      Clashes (opener :: other :: rest) (.expected .code other)
  | notCloser {opener code other : Token} {rest : List Token} {closing : TokenKind}
      (opens : opener.kind.closing? = some closing) (holds : code.kind = .code)
      (differs : other.kind ≠ closing) :
      Clashes (opener :: code :: other :: rest) (.expected closing other)

/-- A token that does not fit is no error of the template. -/
theorem Clashes.ne_template {tokens : List Token} {failure : ParseFailure}
    (clashes : Clashes tokens failure) (error : TemplateError) : failure ≠ .template error := by
  cases clashes <;> simp

/-- Tokens that end within a first segment, and what has to follow. -/
inductive Short : List Token → TokenKind → Prop
  | code {opener : Token} {closing : TokenKind}
      (opens : opener.kind.closing? = some closing) : Short [opener] .code
  | closer {opener code : Token} {closing : TokenKind}
      (opens : opener.kind.closing? = some closing) (holds : code.kind = .code) :
      Short [opener, code] closing

/-- Where the segments of a token sequence stop. -/
inductive Halt
  /-- At an end of input. -/
  | input
  /-- After the last token, between two segments. -/
  | used
  /-- At a token that does not fit. -/
  | clash (failure : ParseFailure)
  /-- After the last token, within a segment. -/
  | short (kind : TokenKind)

/-- What is wrong where the segments stop, over a source that may break off with an
error. -/
def Halt.failure (ending : Option TemplateError) : Halt → Option ParseFailure
  | .input => none
  | .used => ending.map .template
  | .clash failure => some failure
  | .short kind => some ((ending.map .template).getD (.exhausted kind))

/-- The segments of a token sequence, and where they stop. -/
inductive Groups : List Token → List Segment → Halt → Prop
  | input {token : Token} {rest : List Token} (is : token.kind = .endOfInput) :
      Groups (token :: rest) [] .input
  | used : Groups [] [] .used
  | clash {tokens : List Token} {failure : ParseFailure} (clashes : Clashes tokens failure) :
      Groups tokens [] (.clash failure)
  | short {tokens : List Token} {kind : TokenKind} (short : Short tokens kind) :
      Groups tokens [] (.short kind)
  | segment {unit rest : List Token} {segment : Segment} {segments : List Segment} {halt : Halt}
      (spells : Segment.Spells unit segment) (further : Groups rest segments halt) :
      Groups (unit ++ rest) (segment :: segments) halt

/-- What can stand where a construct is opened. -/
private theorem cases_of_opens {opener : Token} {closing : TokenKind}
    (opens : opener.kind.closing? = some closing) (rest : List Token)
    (complete : ∀ {code closer : Token}, code.kind = .code → closer.kind = closing →
      ∃ segment, Segment.Spells [opener, code, closer] segment) :
    (∃ unit segment after, opener :: rest = unit ++ after ∧ Segment.Spells unit segment) ∨
      (∃ failure, Clashes (opener :: rest) failure) ∨ ∃ kind, Short (opener :: rest) kind := by
  cases rest with
  | nil => exact .inr (.inr ⟨_, .code opens⟩)
  | cons code rest =>
      by_cases holds : code.kind = .code
      · cases rest with
        | nil => exact .inr (.inr ⟨_, .closer opens holds⟩)
        | cons closer after =>
            by_cases closes : closer.kind = closing
            · obtain ⟨segment, spells⟩ := complete holds closes
              exact .inl ⟨_, segment, after, rfl, spells⟩
            · exact .inr (.inl ⟨_, .notCloser opens holds closes⟩)
      · exact .inr (.inl ⟨_, .notCode opens holds⟩)

/-- Where input does not end, a segment follows, or a token clashes, or one is
missing. -/
theorem spells_or_clashes_or_short {token : Token} (rest : List Token)
    (inner : token.kind ≠ .endOfInput) :
    (∃ unit segment after, token :: rest = unit ++ after ∧ Segment.Spells unit segment) ∨
      (∃ failure, Clashes (token :: rest) failure) ∨ ∃ kind, Short (token :: rest) kind := by
  cases kind : token.kind with
  | text => exact .inl ⟨[token], _, rest, rfl, .text kind⟩
  | directive => exact .inl ⟨[token], _, rest, rfl, .directive kind⟩
  | expressionOpen =>
      apply cases_of_opens (by rw [kind]; rfl)
      intro code closer holds closes
      exact ⟨_, .expression kind holds closes⟩
  | blockOpen =>
      apply cases_of_opens (by rw [kind]; rfl)
      intro code closer holds closes
      exact ⟨_, .block kind holds closes⟩
  | expressionClose => exact .inr (.inl ⟨_, .stray (.inl kind)⟩)
  | blockClose => exact .inr (.inl ⟨_, .stray (.inr (.inl kind))⟩)
  | code => exact .inr (.inl ⟨_, .stray (.inr (.inr kind))⟩)
  | endOfInput => exact absurd kind inner

theorem Segment.Spells.length_pos {unit : List Token} {segment : Segment}
    (spells : Segment.Spells unit segment) : 0 < unit.length := by
  cases spells <;> exact Nat.succ_pos _

/-- Every token sequence has segments that stop somewhere. -/
theorem exists_groups (tokens : List Token) : ∃ segments halt, Groups tokens segments halt := by
  induction hsize : tokens.length using Nat.strongRecOn generalizing tokens with
  | ind size ih =>
      cases tokens with
      | nil => exact ⟨[], .used, .used⟩
      | cons token rest =>
          by_cases ends : token.kind = .endOfInput
          · exact ⟨[], .input, .input ends⟩
          · rcases spells_or_clashes_or_short rest ends with
              ⟨unit, segment, after, split, spells⟩ | ⟨failure, clashes⟩ | ⟨kind, short⟩
            · have fewer : after.length < size := by
                rw [← hsize, split, List.length_append]
                exact Nat.lt_add_of_pos_left spells.length_pos
              obtain ⟨segments, halt, further⟩ := ih after.length fewer after rfl
              rw [split]
              exact ⟨_, halt, .segment spells further⟩
            · exact ⟨[], _, .clash clashes⟩
            · exact ⟨[], _, .short short⟩

namespace Groups

variable {tokens : List Token} {segments : List Segment}

/-- Segments stop at an end of input only where there is one. -/
theorem exists_endOfInput (groups : Groups tokens segments .input) :
    ∃ token ∈ tokens, token.kind = .endOfInput := by
  generalize atInput : Halt.input = halt at groups
  induction groups with
  | input is => exact ⟨_, List.mem_cons_self, is⟩
  | segment spells further ih =>
      obtain ⟨token, present, is⟩ := ih atInput
      exact ⟨token, List.mem_append_right _ present, is⟩
  | used | clash _ | short _ => cases atInput

/-- Segments that were complete stay complete when tokens are added. -/
theorem exists_append {halt : Halt} (groups : Groups tokens segments halt) (more : List Token) :
    ∃ others halt', Groups (tokens ++ more) (segments ++ others) halt' := by
  induction groups with
  | segment spells further ih =>
      obtain ⟨others, halt', extended⟩ := ih
      rw [List.append_assoc]
      exact ⟨others, halt', .segment spells extended⟩
  | input _ | used | clash _ | short _ => exact exists_groups _

/-- A token that does not fit is met before any tokens that are added. -/
theorem append_of_clash {failure : ParseFailure} (groups : Groups tokens segments (.clash failure))
    (more : List Token) : Groups (tokens ++ more) segments (.clash failure) := by
  generalize atClash : Halt.clash failure = halt at groups
  induction groups with
  | clash clashes =>
      cases clashes with
      | stray is => exact .clash (.stray is)
      | notCode opens differs => exact .clash (.notCode opens differs)
      | notCloser opens holds differs => exact .clash (.notCloser opens holds differs)
  | segment spells further ih =>
      rw [List.append_assoc]
      exact .segment spells (ih atClash)
  | input _ | used | short _ => cases atClash

theorem ne_template_of_clash {failure : ParseFailure}
    (groups : Groups tokens segments (.clash failure)) (error : TemplateError) :
    failure ≠ .template error := by
  generalize atClash : Halt.clash failure = halt at groups
  induction groups with
  | clash clashes =>
      cases atClash
      exact clashes.ne_template error
  | segment spells further ih => exact ih atClash
  | input _ | used | short _ => cases atClash

/-- Where segments stop only because the tokens do, a token can be added that does not
fit, and what is reported then is that token. -/
theorem exists_clash_of_append {halt : Halt} (groups : Groups tokens segments halt)
    (ends : halt = .used ∨ ∃ kind, halt = .short kind) (value : String) :
    ∃ token : Token, token.value = value ∧
      ∃ failure, Groups (tokens ++ [token]) segments (.clash failure) ∧
        (failure = .unexpected token ∨ ∃ kind, failure = .expected kind token) := by
  induction groups with
  | used =>
      refine ⟨⟨.code, value, Span.sized 0 0, []⟩, rfl, _, .clash (.stray ?_), .inl rfl⟩
      exact .inr (.inr rfl)
  | short short =>
      refine ⟨⟨.text, value, Span.sized 0 0, []⟩, rfl, ?_⟩
      cases short with
      | code opens => exact ⟨_, .clash (.notCode opens (by simp)), .inr ⟨_, rfl⟩⟩
      | @closer opener _ _ opens holds =>
          refine ⟨_, .clash (.notCloser opens holds ?_), .inr ⟨_, rfl⟩⟩
          cases kind : opener.kind <;> rw [kind] at opens <;> cases opens <;> simp
  | segment spells further ih =>
      obtain ⟨token, is, failure, extended, names⟩ := ih ends
      refine ⟨token, is, failure, ?_, names⟩
      rw [List.append_assoc]
      exact .segment spells extended
  | input _ | clash _ => simp at ends

end Groups

end Stencil
