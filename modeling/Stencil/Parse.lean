/-
# Parsing a template

A parser asks its source for a token only when it needs one, holds it until it
lets go of it, and turns each segment into a node as soon as the segment is
complete. The first thing that is wrong ends the parse, so over a source that is
scanned on demand an error further right is never met. The nodes built before and
the context reached stay visible. When the tokens end, no block may be left open.
-/

import Stencil.Context
import Stencil.Scan.Feed

namespace Stencil

/-- A parser at work. -/
structure Parser (σ : Type) where
  source : σ
  /-- The token in hand, or that there is none after the last one; unset until it is
  asked for. -/
  ahead : Option (Option Token) := none
  context : Context

namespace Parser

/-- What a parser does at one go. A failure leaves the parser as it is at that
point. -/
abbrev Action (σ α : Type) := EStateM ParseFailure (Parser σ) α

section Actions

variable {σ : Type} [TokenSource σ]

/-- The token in hand, asked for where it is not yet. -/
def peek : Action σ (Option Token) := do
  let parser ← get
  match parser.ahead with
  | some current => return current
  | none =>
    match TokenSource.next parser.source with
    | .error error => throw (.template error)
    | .ok none =>
      set { parser with ahead := some none }
      return none
    | .ok (some (token, rest)) =>
      set { parser with source := rest, ahead := some (some token) }
      return some token

/-- Let go of the token in hand. -/
def advance : Action σ Unit := do
  let _ ← peek
  modify fun parser => { parser with ahead := none }

/-- Take a token of the given kind. -/
def consume (kind : TokenKind) : Action σ Token := do
  match ← peek with
  | none => throw (.exhausted kind)
  | some token =>
    if token.kind = .endOfInput ∨ token.kind ≠ kind then throw (.expected kind token)
    else
      advance
      return token

/-- Take an opener, its code and its closer. -/
def delimited (openKind closeKind : TokenKind) : Action σ (Span × String) := do
  let opener ← consume openKind
  let code ← consume .code
  let closer ← consume closeKind
  return (opener.span.cover closer.span, code.value)

/-- Take the segment that starts with the token in hand. -/
def segment (token : Token) : Action σ Segment :=
  match token.kind with
  | .text => do
    advance
    return .text token.span token.value
  | .expressionOpen => do
    let (span, code) ← delimited .expressionOpen .expressionClose
    return .expression span code
  | .blockOpen => do
    let (span, code) ← delimited .blockOpen .blockClose
    return .block span code
  | .directive => do
    let taken ← consume .directive
    return .directive taken.span taken.value taken.args
  | .expressionClose | .blockClose | .code | .endOfInput => throw (.unexpected token)

/-- Build the node of a complete segment. -/
def build (style : BlockStyle) (segment : Segment) : Action σ Node := do
  let parser ← get
  match parser.context.place style segment with
  | .error error => throw (.template error)
  | .ok (node, context) =>
    set { parser with context }
    return node

/-- Build the next node; none is left at the end of input. -/
def turn (style : BlockStyle) : Action σ (Option Node) := do
  match ← peek with
  | none => return none
  | some token =>
    if token.kind = .endOfInput then return none
    else
      let segment ← segment token
      let node ← build style segment
      return some node

end Actions

section Equations

/-- What starts with the parser as it is. -/
theorem get_bind {σ α : Type} (action : Parser σ → Action σ α) (parser : Parser σ) :
    (get >>= action) parser = action parser parser := rfl

variable {σ : Type} [TokenSource σ]

/-- A look asks the source only if no token is in hand. -/
theorem peek_eq (parser : Parser σ) :
    peek parser =
      match parser.ahead with
      | some current => .ok current parser
      | none =>
        match TokenSource.next parser.source with
        | .error error => .error (.template error) parser
        | .ok none => .ok none { parser with ahead := some none }
        | .ok (some (token, rest)) =>
          .ok (some token) { parser with source := rest, ahead := some (some token) } := by
  obtain ⟨source, ahead, context⟩ := parser
  rw [peek, get_bind]
  cases ahead with
  | some current => rfl
  | none => rcases TokenSource.next source with error | _ | ⟨token, rest⟩ <;> rfl

/-- What was found by a look is in hand. -/
theorem ahead_of_peek {parser next : Parser σ} {current : Option Token}
    (h : peek parser = .ok current next) : next.ahead = some current := by
  rw [peek_eq] at h
  split at h
  · rename_i held
    cases h
    exact held
  · split at h <;> cases h <;> rfl

/-- A token in hand is let go of without asking the source. -/
theorem advance_of_ahead {parser : Parser σ} {current : Option Token}
    (h : parser.ahead = some current) :
    advance parser = .ok () { parser with ahead := none } := by
  have held : peek parser = .ok current parser := by rw [peek_eq, h]
  simp only [advance, bind, EStateM.bind, held]
  rfl

/-- Only the token in hand decides whether a token of some kind is taken. -/
theorem consume_eq (kind : TokenKind) (parser : Parser σ) :
    consume kind parser =
      match peek parser with
      | .error failure last => .error failure last
      | .ok none last => .error (.exhausted kind) last
      | .ok (some token) last =>
        if token.kind = .endOfInput ∨ token.kind ≠ kind then .error (.expected kind token) last
        else .ok token { last with ahead := none } := by
  simp only [consume, bind, EStateM.bind]
  cases hpeek : peek parser with
  | error failure last => rfl
  | ok current last =>
      cases current with
      | none => rfl
      | some token =>
          by_cases mismatch : token.kind = .endOfInput ∨ token.kind ≠ kind
          · simp only [if_pos mismatch]
            rfl
          · simp only [if_neg mismatch, EStateM.bind, advance_of_ahead (ahead_of_peek hpeek)]
            rfl

end Equations

section Progress

variable {σ α β : Type}

theorem bind_of_ok {first : Action σ α} {second : α → Action σ β} {parser middle : Parser σ}
    {value : α} (h : first parser = .ok value middle) :
    (first >>= second) parser = second value middle := by
  simp only [bind, EStateM.bind, h]

theorem bind_of_error {first : Action σ α} {second : α → Action σ β} {parser last : Parser σ}
    {failure : ParseFailure} (h : first parser = .error failure last) :
    (first >>= second) parser = .error failure last := by
  simp only [bind, EStateM.bind, h]

/-- One action after the other succeeds exactly if each does in its turn. -/
theorem bind_eq_ok {first : Action σ α} {second : α → Action σ β} {parser last : Parser σ}
    {result : β} :
    (first >>= second) parser = .ok result last ↔
      ∃ value middle, first parser = .ok value middle ∧ second value middle = .ok result last := by
  constructor
  · intro h
    cases hfirst : first parser with
    | ok value middle =>
        rw [bind_of_ok hfirst] at h
        exact ⟨value, middle, rfl, h⟩
    | error failure last =>
        rw [bind_of_error hfirst] at h
        cases h
  · rintro ⟨value, middle, hfirst, hsecond⟩
    rw [bind_of_ok hfirst]
    exact hsecond

/-- Building a node changes nothing but the context. -/
theorem build_eq (style : BlockStyle) (segment : Segment) (parser : Parser σ) :
    build style segment parser =
      match parser.context.place style segment with
      | .error error => .error (.template error) parser
      | .ok (node, context) => .ok node { parser with context } := by
  rw [build, get_bind]
  rcases parser.context.place style segment with error | ⟨node, context⟩ <;> rfl

/-- How many tokens are in hand. -/
def holding (parser : Parser σ) : Nat :=
  match parser.ahead with
  | some (some _) => 1
  | _ => 0

variable [TokenSource σ]

/-- A bound on the number of tokens that a parser has still to let go of. -/
def left (parser : Parser σ) : Nat :=
  TokenSource.left parser.source + parser.holding

/-- A look adds no token. -/
theorem left_le_of_peek {parser next : Parser σ} {current : Option Token}
    (h : peek parser = .ok current next) : next.left ≤ parser.left := by
  rw [peek_eq] at h
  split at h
  · cases h
    exact Nat.le_refl _
  · rename_i unasked
    split at h
    · cases h
    · cases h
      simp [left, holding]
    · rename_i token rest delivered
      cases h
      have fewer := TokenSource.left_lt delivered
      simp only [left, holding, unasked]
      omega

/-- Letting go of a token leaves fewer. -/
theorem left_lt_of_ahead {parser : Parser σ} {token : Token}
    (h : parser.ahead = some (some token)) :
    ({ parser with ahead := none } : Parser σ).left < parser.left := by
  simp [left, holding, h]

theorem left_lt_of_consume {kind : TokenKind} {parser next : Parser σ} {token : Token}
    (h : consume kind parser = .ok token next) : next.left < parser.left := by
  rw [consume_eq] at h
  split at h
  · cases h
  · cases h
  · rename_i found middle looked
    split at h
    · cases h
    · cases h
      exact Nat.lt_of_lt_of_le (left_lt_of_ahead (ahead_of_peek looked))
        (left_le_of_peek looked)

theorem left_lt_of_delimited {openKind closeKind : TokenKind} {parser next : Parser σ}
    {content : Span × String} (h : delimited openKind closeKind parser = .ok content next) :
    next.left < parser.left := by
  obtain ⟨opener, first, hopener, h⟩ := bind_eq_ok.mp h
  obtain ⟨code, second, hcode, h⟩ := bind_eq_ok.mp h
  obtain ⟨closer, third, hcloser, h⟩ := bind_eq_ok.mp h
  cases h
  exact Nat.lt_trans (left_lt_of_consume hcloser)
    (Nat.lt_trans (left_lt_of_consume hcode) (left_lt_of_consume hopener))

/-- A segment takes up at least the token it starts with. -/
theorem left_lt_of_segment {token : Token} {parser next : Parser σ} {taken : Segment}
    (held : parser.ahead = some (some token)) (h : segment token parser = .ok taken next) :
    next.left < parser.left := by
  cases kind : token.kind with
  | text =>
      simp only [segment, kind] at h
      obtain ⟨_, middle, hadvance, h⟩ := bind_eq_ok.mp h
      rw [advance_of_ahead held] at hadvance
      cases hadvance
      cases h
      exact left_lt_of_ahead held
  | expressionOpen | blockOpen =>
      simp only [segment, kind] at h
      obtain ⟨content, middle, hcontent, h⟩ := bind_eq_ok.mp h
      cases h
      exact left_lt_of_delimited hcontent
  | directive =>
      simp only [segment, kind] at h
      obtain ⟨directive, middle, hconsume, h⟩ := bind_eq_ok.mp h
      cases h
      exact left_lt_of_consume hconsume
  | expressionClose | blockClose | code | endOfInput =>
      simp only [segment, kind] at h
      cases h

/-- Every node takes up at least one token. -/
theorem left_lt_of_turn {style : BlockStyle} {parser next : Parser σ} {node : Node}
    (h : turn style parser = .ok (some node) next) : next.left < parser.left := by
  obtain ⟨current, looked, hlook, h⟩ := bind_eq_ok.mp h
  cases current with
  | none => cases h
  | some token =>
      dsimp only at h
      split at h
      · cases h
      · obtain ⟨taken, middle, htaken, h⟩ := bind_eq_ok.mp h
        obtain ⟨built, last, hbuilt, h⟩ := bind_eq_ok.mp h
        cases h
        have same : next.left = middle.left := by
          rw [build_eq] at hbuilt
          split at hbuilt <;> cases hbuilt
          rfl
        rw [same]
        exact Nat.lt_of_lt_of_le (left_lt_of_segment (ahead_of_peek hlook) htaken)
          (left_le_of_peek hlook)

end Progress

end Parser

/-- Nodes, the context reached, and what is wrong, if anything. -/
structure Parse where
  nodes : List Node
  context : Context
  failure : Option ParseFailure

namespace Parse

/-- One more node in front. -/
def prepend (node : Node) (parse : Parse) : Parse :=
  { parse with nodes := node :: parse.nodes }

/-- What is wrong when all tokens are used up: a block that is still open, the
innermost if there are several. -/
def unclosed (context : Context) : Option ParseFailure :=
  context.openBlocks.head?.map fun innermost =>
    .template (.unbalanced innermost.span (.unclosed innermost.code))

/-- Build nodes up to the end of input or to the first failure. -/
def run {σ : Type} [TokenSource σ] (style : BlockStyle) (parser : Parser σ) : Parse :=
  match _turned : Parser.turn style parser with
  | .error failure last => ⟨[], last.context, some failure⟩
  | .ok none last => ⟨[], last.context, unclosed last.context⟩
  | .ok (some node) next => (run style next).prepend node
termination_by parser.left
decreasing_by exact Parser.left_lt_of_turn _turned

section Run

variable {σ : Type} [TokenSource σ] {style : BlockStyle} {parser last : Parser σ}

theorem run_of_error {failure : ParseFailure} (h : Parser.turn style parser = .error failure last) :
    run style parser = ⟨[], last.context, some failure⟩ := by
  rw [run]
  split <;> simp_all

theorem run_of_none (h : Parser.turn style parser = .ok none last) :
    run style parser = ⟨[], last.context, unclosed last.context⟩ := by
  rw [run]
  split <;> simp_all

theorem run_of_some {node : Node} (h : Parser.turn style parser = .ok (some node) last) :
    run style parser = (run style last).prepend node := by
  rw [run]
  split <;> simp_all

end Run

/-- Parse what a source hands out. -/
def ofSource {σ : Type} [TokenSource σ] (options : Options) (source : σ) : Parse :=
  run options.blockStyle ⟨source, none, Context.initial options⟩

/-- Parse tokens. -/
def ofTokens (options : Options) (tokens : List Token) : Parse :=
  ofSource options tokens

/-- Parse a source as it is scanned, so that the leftmost error is the one found. -/
def ofText (options : Options) (source : String) : Parse :=
  ofSource options (Feed.ofText options source)

/-- The nodes of a template that parses. -/
def result (parse : Parse) : Except ParseFailure (List Node) :=
  match parse.failure with
  | some failure => .error failure
  | none => .ok parse.nodes

theorem result_eq_ok {parse : Parse} {nodes : List Node} :
    parse.result = .ok nodes ↔ parse.failure = none ∧ parse.nodes = nodes := by
  rw [result]
  cases parse.failure <;> simp

end Parse

end Stencil
