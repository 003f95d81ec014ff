/-
# What the parser accepts

A token sequence is a template exactly if its tokens up to the end of input are the
units of segments that fit one after the other and leave no block open. There are
three ways to fail, and the first one from the left is reported: the tokens do not go
on with a unit, the next unit does not fit, or all units fit and a block is still open
after the last. Only the first is a failure of the token sequence; the other two are
errors of the template.
-/

import Stencil.Proofs.Delivery
import Stencil.Proofs.Fitting

namespace Stencil

/-- The tokens before the first end of input. -/
def body (tokens : List Token) : List Token :=
  tokens.takeWhile fun token => token.kind ≠ .endOfInput

/-- Tokens that are the units of segments, one after the other. -/
def Concatenates (tokens : List Token) (segments : List Segment) : Prop :=
  ∃ units : List (List Token), tokens = units.flatten ∧ List.Forall₂ Segment.Spells units segments

/-- Tokens with content that do not start with a unit. -/
def NoUnit (tokens : List Token) : Prop :=
  body tokens ≠ [] ∧ ∀ unit after segment, body tokens = unit ++ after →
    ¬ Segment.Spells unit segment

/-- Tokens that break off before a first unit is complete, and what is reported. -/
inductive Breaks : List Token → ParseFailure → Prop
  | clash {tokens : List Token} {failure : ParseFailure} (clashes : Clashes tokens failure) :
      Breaks tokens failure
  | short {tokens : List Token} {kind : TokenKind} (short : Short tokens kind) :
      Breaks tokens (.exhausted kind)

/-- The first thing that is wrong with a token sequence. Everything before it is
sound. -/
inductive FirstFault (style : BlockStyle) (tokens : List Token) : ParseFailure → Prop
  /-- No unit follows. -/
  | breaks {front rest : List Token} {segments : List Segment} {failure : ParseFailure}
      (split : tokens = front ++ rest) (units : Concatenates front segments)
      (sound : Segment.Sound style segments) (breaks : Breaks rest failure) :
      FirstFault style tokens failure
  /-- The unit that follows does not fit. -/
  | objection {front unit rest : List Token} {segments : List Segment} {segment : Segment}
      {error : TemplateError} (split : tokens = front ++ (unit ++ rest))
      (units : Concatenates front segments) (sound : Segment.Sound style segments)
      (spells : Segment.Spells unit segment)
      (objection : Segment.Objection style segments segment error) :
      FirstFault style tokens (.template error)
  /-- No unit is left, and a block is open. -/
  | unclosed {segments : List Segment} {place : Nat} {span : Span} {code : String}
      (units : Concatenates (body tokens) segments) (sound : Segment.Sound style segments)
      (innermost : Innermost (Segment.roles style segments) place)
      (opener : segments[place]? = some (.block span code)) :
      FirstFault style tokens (.template (.unbalanced span (.unclosed (Text.trimmed code))))

section Body

variable {front rest : List Token}

theorem Segment.Spells.inner {unit : List Token} {segment : Segment}
    (spells : Segment.Spells unit segment) : ∀ token ∈ unit, token.kind ≠ .endOfInput := by
  cases spells with
  | text is | directive is => simp [is]
  | expression opens holds closes | block opens holds closes => simp [opens, holds, closes]

theorem body_append (inner : ∀ token ∈ front, token.kind ≠ .endOfInput) (rest : List Token) :
    body (front ++ rest) = front ++ body rest :=
  List.takeWhile_append_of_pos (by simpa using inner)

@[simp] theorem body_cons_of_end {token : Token} (is : token.kind = .endOfInput)
    (rest : List Token) : body (token :: rest) = [] := by
  simp [body, is]

@[simp] theorem body_cons_of_inner {token : Token} (inner : token.kind ≠ .endOfInput)
    (rest : List Token) : body (token :: rest) = token :: body rest := by
  simp [body, inner]

/-- After the body the tokens stop without a fault. -/
theorem exists_rest (tokens : List Token) :
    ∃ rest halt, tokens = body tokens ++ rest ∧ Groups rest [] halt ∧ halt.failure none = none := by
  induction tokens with
  | nil => exact ⟨[], .used, rfl, .used, rfl⟩
  | cons token rest ih =>
      by_cases is : token.kind = .endOfInput
      · refine ⟨token :: rest, .input, ?_, .input is, rfl⟩
        rw [body_cons_of_end is]
        rfl
      · obtain ⟨rest', halt, split, stops, faultless⟩ := ih
        refine ⟨rest', halt, ?_, stops, faultless⟩
        rw [body_cons_of_inner is, List.cons_append, ← split]

end Body

namespace Concatenates

variable {front : List Token} {segments : List Segment}

theorem nil : Concatenates [] [] :=
  ⟨[], rfl, .nil⟩

theorem cons {unit rest : List Token} {segment : Segment} (spells : Segment.Spells unit segment)
    (further : Concatenates rest segments) : Concatenates (unit ++ rest) (segment :: segments) := by
  obtain ⟨units, rfl, all⟩ := further
  exact ⟨unit :: units, rfl, .cons spells all⟩

theorem inner (units : Concatenates front segments) :
    ∀ token ∈ front, token.kind ≠ .endOfInput := by
  obtain ⟨units, rfl, all⟩ := units
  induction all with
  | nil => simp
  | cons spells _ ih =>
      intro token listed
      rcases List.mem_append.mp listed with first | later
      · exact spells.inner token first
      · exact ih token later

/-- What follows the units of segments goes on where they end. -/
theorem groups {rest : List Token} {others : List Segment} {halt : Halt}
    (units : Concatenates front segments) (further : Groups rest others halt) :
    Groups (front ++ rest) (segments ++ others) halt := by
  obtain ⟨units, rfl, all⟩ := units
  induction all with
  | nil => exact further
  | cons spells _ ih =>
      rw [List.flatten_cons, List.append_assoc]
      exact .segment spells ih

/-- The units before a segment, its own, and those after it. -/
theorem exists_split {before after : List Segment} {segment : Segment}
    (units : Concatenates front (before ++ segment :: after)) :
    ∃ front' unit rest, front = front' ++ (unit ++ rest) ∧ Concatenates front' before ∧
      Segment.Spells unit segment := by
  obtain ⟨units, rfl, all⟩ := units
  induction before generalizing units with
  | nil =>
      cases all with
      | cons spells _ => exact ⟨[], _, _, rfl, .nil, spells⟩
  | cons first before ih =>
      cases all with
      | cons spells further =>
          obtain ⟨front', unit, rest, split, earlier, spells'⟩ := ih _ further
          refine ⟨_ ++ front', unit, rest, ?_, earlier.cons spells, spells'⟩
          rw [List.flatten_cons, split, List.append_assoc]

end Concatenates

/-- The segments of a token sequence, and what is left where they stop. -/
theorem Groups.exists_front {tokens : List Token} {segments : List Segment} {halt : Halt}
    (groups : Groups tokens segments halt) :
    ∃ front rest, tokens = front ++ rest ∧ Concatenates front segments ∧ Groups rest [] halt := by
  induction groups with
  | segment spells _ ih =>
      obtain ⟨front, rest, rfl, units, stops⟩ := ih
      exact ⟨_ ++ front, rest, (List.append_assoc ..).symm, units.cons spells, stops⟩
  | @input token rest is => exact ⟨[], token :: rest, rfl, .nil, .input is⟩
  | used => exact ⟨[], [], rfl, .nil, .used⟩
  | @clash tokens _ clashes => exact ⟨[], tokens, rfl, .nil, .clash clashes⟩
  | @short tokens _ short => exact ⟨[], tokens, rfl, .nil, .short short⟩

namespace Groups

variable {rest : List Token} {halt : Halt}

theorem breaks {failure : ParseFailure} (stops : Groups rest [] halt)
    (reported : halt.failure none = some failure) : Breaks rest failure := by
  cases stops with
  | clash clashes =>
      cases reported
      exact .clash clashes
  | short short =>
      cases reported
      exact .short short
  | input _ | used => cases reported

theorem body_eq_nil (stops : Groups rest [] halt) (faultless : halt.failure none = none) :
    body rest = [] := by
  cases stops with
  | input is => exact body_cons_of_end is _
  | used => rfl
  | clash _ | short _ => cases faultless

end Groups

namespace Breaks

variable {tokens : List Token} {failure : ParseFailure}

/-- It is the token sequence that is at fault, not the template. -/
theorem ne_template (breaks : Breaks tokens failure) (error : TemplateError) :
    failure ≠ .template error := by
  cases breaks with
  | clash clashes => exact clashes.ne_template error
  | short _ => simp

/-- No segment follows, and this is what is reported. -/
theorem exists_stop (breaks : Breaks tokens failure) :
    ∃ halt, Groups tokens [] halt ∧ halt.failure none = some failure := by
  cases breaks with
  | clash clashes => exact ⟨_, .clash clashes, rfl⟩
  | short short => exact ⟨_, .short short, rfl⟩

theorem body_ne_nil (breaks : Breaks tokens failure) : body tokens ≠ [] := by
  cases breaks with
  | clash clashes =>
      cases clashes with
      | stray is =>
          rw [body_cons_of_inner (by rcases is with is | is | is <;> simp [is])]
          simp
      | notCode opens _ | notCloser opens _ _ =>
          rw [body_cons_of_inner (TokenKind.ne_endOfInput_of_opens opens).1]
          simp
  | short short =>
      cases short with
      | code opens | closer opens _ =>
          rw [body_cons_of_inner (TokenKind.ne_endOfInput_of_opens opens).1]
          simp

theorem not_spells {unit after : List Token} {segment : Segment} (breaks : Breaks tokens failure)
    (split : tokens = unit ++ after) : ¬ Segment.Spells unit segment := by
  intro spells
  cases breaks with
  | clash clashes =>
      cases clashes with
      | stray is =>
          cases spells <;> cases split <;> simp_all
      | notCode opens differs =>
          cases spells <;> cases split <;> simp_all [TokenKind.closing?]
      | notCloser opens holds differs =>
          cases spells <;> cases split <;> simp_all [TokenKind.closing?]
  | short short =>
      cases short <;> cases spells <;> cases split <;> simp_all [TokenKind.closing?]

theorem noUnit (breaks : Breaks tokens failure) : NoUnit tokens := by
  refine ⟨breaks.body_ne_nil, ?_⟩
  intro unit after segment split
  obtain ⟨rest, -, extended, -, -⟩ := exists_rest tokens
  rw [split, List.append_assoc] at extended
  exact breaks.not_spells extended

end Breaks

theorem NoUnit.exists_breaks {tokens : List Token} (noUnit : NoUnit tokens) :
    ∃ failure, Breaks tokens failure := by
  obtain ⟨nonempty, none⟩ := noUnit
  cases tokens with
  | nil => exact absurd rfl nonempty
  | cons token rest =>
      have inner : token.kind ≠ .endOfInput := by
        intro is
        exact nonempty (body_cons_of_end is rest)
      rcases spells_or_clashes_or_short rest inner with
        ⟨unit, segment, after, split, spells⟩ | ⟨failure, clashes⟩ | ⟨kind, short⟩
      · refine absurd spells (none unit (body after) segment ?_)
        rw [split, body_append spells.inner]
      · exact ⟨failure, .clash clashes⟩
      · exact ⟨_, .short short⟩

namespace Parse

variable {options : Options} {tokens : List Token} {segments : List Segment}

/-- Sound segments are all placed, and what is wrong after them is what stops the tokens,
or else a block that is still open. -/
theorem exists_places_of_groups {halt : Halt} (groups : Groups tokens segments halt)
    (sound : Segment.Sound options.blockStyle segments) :
    ∃ nodes last, Places options.blockStyle (Context.initial options) segments nodes last ∧
      ofTokens options tokens = ⟨nodes, last, closing last (halt.failure none)⟩ := by
  obtain ⟨nodes, last, placed⟩ := sound.exists_places options
  refine ⟨nodes, last, placed, ?_⟩
  rw [ofTokens_eq_ofSegments groups, ofSegments_of_places placed]

/-- Where the body is the units of sound segments, nothing else than an open block can be
wrong. -/
theorem exists_places_of_body (units : Concatenates (body tokens) segments)
    (sound : Segment.Sound options.blockStyle segments) :
    ∃ nodes last, Places options.blockStyle (Context.initial options) segments nodes last ∧
      ofTokens options tokens = ⟨nodes, last, unclosed last⟩ := by
  obtain ⟨rest, halt, split, stops, faultless⟩ := exists_rest tokens
  have groups := units.groups stops
  rw [← split, List.append_nil] at groups
  obtain ⟨nodes, last, placed, parsed⟩ := exists_places_of_groups groups sound
  rw [faultless] at parsed
  exact ⟨nodes, last, placed, parsed⟩

/-- The first thing that is wrong is what a parse fails with. -/
theorem failure_of_firstFault {failure : ParseFailure}
    (fault : FirstFault options.blockStyle tokens failure) :
    (ofTokens options tokens).failure = some failure := by
  cases fault with
  | breaks split units sound breaks =>
      obtain ⟨halt, stops, reported⟩ := breaks.exists_stop
      have groups := units.groups stops
      rw [← split, List.append_nil] at groups
      obtain ⟨nodes, last, -, parsed⟩ := exists_places_of_groups groups sound
      rw [parsed, reported]
      rfl
  | @objection front unit rest segments segment error split units sound spells objection =>
      obtain ⟨others, halt, further⟩ := exists_groups rest
      have groups := units.groups (.segment spells further)
      rw [← split] at groups
      obtain ⟨nodes, last, placed⟩ := sound.exists_places options
      -- The segment that is objected to cannot be placed, and for no other reason.
      cases fits : last.place options.blockStyle segment with
      | ok result => exact absurd (placed.admits fits) objection.not_admits
      | error other =>
          obtain rfl := objection.unique (placed.objection fits)
          rw [ofTokens_eq_ofSegments groups, ofSegments_of_refuses (placed.refuses fits others)]
  | unclosed units sound innermost opener =>
      obtain ⟨nodes, last, placed, parsed⟩ := exists_places_of_body units sound
      rw [parsed]
      cases inside : last.openBlocks with
      | nil => exact absurd innermost.1 (placed.openBlocks_eq_nil_iff.mp inside _)
      | cons block outer =>
          obtain ⟨place, code, innermost', opener', trimmed, -⟩ := placed.exists_opener inside
          obtain rfl := innermost.unique innermost'
          rw [opener] at opener'
          cases opener'
          simp [unclosed, inside, trimmed]

/-- A parse ends in one of two ways: its tokens are those of a template, with a node for
each unit, or there is a first thing that is wrong. -/
theorem accepted_or_firstFault (options : Options) (tokens : List Token) :
    (∃ segments, Concatenates (body tokens) segments ∧
      Segment.Sound options.blockStyle segments ∧
      (∀ place, ¬ Unclosed (Segment.roles options.blockStyle segments) place) ∧
      List.Forall₂ (Segment.Yields options.blockStyle) segments (ofTokens options tokens).nodes ∧
      (ofTokens options tokens).failure = none) ∨
    ∃ failure, FirstFault options.blockStyle tokens failure := by
  obtain ⟨segments, halt, groups⟩ := exists_groups tokens
  obtain ⟨front, rest, rfl, units, stops⟩ := groups.exists_front
  rcases places_or_refuses options.blockStyle (Context.initial options) segments with
    ⟨nodes, last, placed⟩ | ⟨nodes, last, error, refuses⟩
  · cases reported : halt.failure none with
    | some failure => exact .inr ⟨failure, .breaks rfl units placed.sound (stops.breaks reported)⟩
    | none =>
        have whole : Concatenates (body (front ++ rest)) segments := by
          rw [body_append units.inner, stops.body_eq_nil reported, List.append_nil]
          exact units
        cases inside : last.openBlocks with
        | cons innermost outer =>
            obtain ⟨place, code, isInnermost, opener, -, -⟩ := placed.exists_opener inside
            exact .inr ⟨_, .unclosed whole placed.sound isInnermost opener⟩
        | nil =>
            have parsed : ofTokens options (front ++ rest) = ⟨nodes, last, none⟩ := by
              rw [ofTokens_eq_ofSegments groups, ofSegments_of_places placed, reported]
              exact congrArg (Parse.mk nodes last) (unclosed_eq_none.mpr inside)
            refine .inl ⟨segments, whole, placed.sound,
              placed.openBlocks_eq_nil_iff.mp inside, ?_, ?_⟩
            · rw [parsed]
              exact placed.yields
            · rw [parsed]
  · obtain ⟨before, segment, after, rfl, placed, refused⟩ := refuses.exists_split
    obtain ⟨front', unit, rest', rfl, earlier, spells⟩ := units.exists_split
    have split : front' ++ (unit ++ rest') ++ rest = front' ++ (unit ++ (rest' ++ rest)) := by
      simp only [List.append_assoc]
    exact .inr ⟨_, .objection split earlier placed.sound spells (placed.objection refused)⟩

theorem firstFault_of_failure {failure : ParseFailure}
    (fails : (ofTokens options tokens).failure = some failure) :
    FirstFault options.blockStyle tokens failure := by
  rcases accepted_or_firstFault options tokens with ⟨-, -, -, -, -, succeeds⟩ | ⟨other, fault⟩
  · rw [succeeds] at fails
    cases fails
  · rw [failure_of_firstFault fault] at fails
    cases fails
    exact fault

end Parse

/-- Tokens are accepted exactly if their body is the units of segments that fit one after
the other and leave no block open; then there is one node for each unit, in order. What
is reported otherwise is the first thing that is wrong, and it is a failure of the token
sequence exactly if no unit follows there. -/
theorem parse_accepts_grammar (options : Options) (tokens : List Token) :
    ((Parse.ofTokens options tokens).failure = none ↔
      ∃ segments, Concatenates (body tokens) segments ∧
        Segment.Sound options.blockStyle segments ∧
        ∀ place, ¬ Unclosed (Segment.roles options.blockStyle segments) place) ∧
    ((Parse.ofTokens options tokens).failure = none →
      ∃ segments, Concatenates (body tokens) segments ∧
        List.Forall₂ (Segment.Yields options.blockStyle) segments
          (Parse.ofTokens options tokens).nodes) ∧
    (∀ failure, (Parse.ofTokens options tokens).failure = some failure ↔
      FirstFault options.blockStyle tokens failure) ∧
    ∀ failure, (Parse.ofTokens options tokens).failure = some failure →
      ((∀ error, failure ≠ .template error) ↔
        ∃ front rest segments, tokens = front ++ rest ∧ Concatenates front segments ∧
          Segment.Sound options.blockStyle segments ∧ NoUnit rest) := by
  refine ⟨⟨?_, ?_⟩, ?_, ?_, ?_⟩
  · intro succeeds
    rcases Parse.accepted_or_firstFault options tokens with
      ⟨segments, units, sound, closed, -, -⟩ | ⟨failure, fault⟩
    · exact ⟨segments, units, sound, closed⟩
    · rw [Parse.failure_of_firstFault fault] at succeeds
      cases succeeds
  · rintro ⟨segments, units, sound, closed⟩
    obtain ⟨nodes, last, placed, parsed⟩ := Parse.exists_places_of_body units sound
    rw [parsed]
    exact Parse.unclosed_eq_none.mpr (placed.openBlocks_eq_nil_iff.mpr closed)
  · intro succeeds
    rcases Parse.accepted_or_firstFault options tokens with
      ⟨segments, units, -, -, yields, -⟩ | ⟨failure, fault⟩
    · exact ⟨segments, units, yields⟩
    · rw [Parse.failure_of_firstFault fault] at succeeds
      cases succeeds
  · intro failure
    refine ⟨?_, Parse.failure_of_firstFault⟩
    intro fails
    exact Parse.firstFault_of_failure fails
  · intro failure fails
    constructor
    · intro noTemplate
      cases Parse.firstFault_of_failure fails with
      | breaks split units sound breaks => exact ⟨_, _, _, split, units, sound, breaks.noUnit⟩
      | objection _ _ _ _ _ | unclosed _ _ _ _ => exact absurd rfl (noTemplate _)
    · rintro ⟨front, rest, segments, split, units, sound, noUnit⟩ error
      obtain ⟨other, breaks⟩ := noUnit.exists_breaks
      have fault : FirstFault options.blockStyle tokens other :=
        .breaks split units sound breaks
      have reported := Parse.failure_of_firstFault fault
      rw [fails] at reported
      cases reported
      exact breaks.ne_template error

/-- A block with text in it, whatever comes after the end of input; and the same block
followed by a construct that is cut off by the end of input. -/
theorem parse_accepts_grammar_cut_off :
    let block (code : String) (start : Nat) : List Token :=
      [⟨.blockOpen, "<#", Span.sized start 2, []⟩, ⟨.code, code, Span.sized (start + 2) 3, []⟩,
        ⟨.blockClose, "#>", Span.sized (start + 5) 2, []⟩]
    let stop : Token := ⟨.endOfInput, "", Span.sized 21 0, []⟩
    let text : Token := ⟨.text, "x", Span.sized 7 1, []⟩
    let accepted := block "if " 0 ++ [text] ++ block "end" 8 ++ [stop, stop, text]
    let cut := block "if " 0 ++ [⟨.expressionOpen, "<#=", Span.sized 7 3, []⟩, stop]
    ((Parse.ofTokens {} accepted).failure = none ∧
      ∃ segments, Concatenates (body accepted) segments ∧
        List.Forall₂ (Segment.Yields .keyword) segments (Parse.ofTokens {} accepted).nodes) ∧
    (Parse.ofTokens {} cut).failure = some (.expected .code stop) ∧
      ∃ front rest segments, cut = front ++ rest ∧ Concatenates front segments ∧
        Segment.Sound .keyword segments ∧ NoUnit rest := by
  intro block stop text accepted cut
  have succeeds : (Parse.ofTokens {} accepted).failure = none := by decide +kernel
  have fails : (Parse.ofTokens {} cut).failure = some (.expected .code stop) := by decide +kernel
  refine ⟨⟨succeeds, (parse_accepts_grammar {} accepted).2.1 succeeds⟩, fails, ?_⟩
  exact ((parse_accepts_grammar {} cut).2.2.2 _ fails).mp (by simp)

end Stencil
