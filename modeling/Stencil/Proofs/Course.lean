/-
# The course of a parse

A parse passes through many points: tokens are looked at and let go of, nodes are
built, and at last the tokens end or something fails. All of them are points of the
relation `Reaches`, which goes with the nodes built so far. Only building a node
changes the context, so that whatever holds of contexts after placing segments holds
at every point, and after a failure too.
-/

import Stencil.Proofs.Placement

namespace Stencil

namespace Parser

section Keeps

variable {σ α β : Type}

/-- The context that an action leaves, whether it succeeds or fails. -/
def contextAfter : EStateM.Result ParseFailure (Parser σ) α → Context
  | .ok _ next => next.context
  | .error _ last => last.context

/-- An action that leaves the context as it is. -/
def Keeps (action : Action σ α) : Prop :=
  ∀ parser, contextAfter (action parser) = parser.context

theorem Keeps.context_of_ok {action : Action σ α} {parser next : Parser σ} {value : α}
    (keeps : Keeps action) (h : action parser = .ok value next) :
    next.context = parser.context := by
  have same := keeps parser
  rw [h] at same
  exact same

theorem Keeps.context_of_error {action : Action σ α} {parser last : Parser σ}
    {failure : ParseFailure} (keeps : Keeps action) (h : action parser = .error failure last) :
    last.context = parser.context := by
  have same := keeps parser
  rw [h] at same
  exact same

theorem Keeps.bind {first : Action σ α} {second : α → Action σ β} (keeps : Keeps first)
    (further : ∀ value, Keeps (second value)) : Keeps (first >>= second) := by
  intro parser
  cases hfirst : first parser with
  | ok value middle =>
      rw [bind_of_ok hfirst, further value middle]
      exact keeps.context_of_ok hfirst
  | error failure last =>
      rw [bind_of_error hfirst]
      exact keeps.context_of_error hfirst

theorem keeps_pure (value : α) : Keeps (pure value : Action σ α) :=
  fun _ => rfl

theorem keeps_throw (failure : ParseFailure) : Keeps (throw failure : Action σ α) :=
  fun _ => rfl

variable [TokenSource σ]

theorem keeps_peek : Keeps (peek : Action σ (Option Token)) := by
  intro parser
  rw [peek_eq]
  split
  · rfl
  · split <;> rfl

theorem keeps_advance : Keeps (advance : Action σ Unit) :=
  keeps_peek.bind fun _ _ => rfl

theorem keeps_consume (kind : TokenKind) : Keeps (consume kind : Action σ Token) := by
  refine keeps_peek.bind ?_
  intro current
  cases current with
  | none => exact keeps_throw _
  | some token =>
      dsimp only
      split
      · exact keeps_throw _
      · exact keeps_advance.bind fun _ => keeps_pure _

theorem keeps_delimited (openKind closeKind : TokenKind) :
    Keeps (delimited openKind closeKind : Action σ (Span × String)) :=
  (keeps_consume openKind).bind fun _ => (keeps_consume .code).bind fun _ =>
    (keeps_consume closeKind).bind fun _ => keeps_pure _

theorem keeps_segment (token : Token) : Keeps (segment token : Action σ Segment) := by
  cases kind : token.kind with
  | text =>
      simp only [segment, kind]
      exact keeps_advance.bind fun _ => keeps_pure _
  | expressionOpen | blockOpen =>
      simp only [segment, kind]
      exact (keeps_delimited _ _).bind fun _ => keeps_pure _
  | directive =>
      simp only [segment, kind]
      exact (keeps_consume _).bind fun _ => keeps_pure _
  | expressionClose | blockClose | code | endOfInput =>
      simp only [segment, kind]
      exact keeps_throw _

end Keeps

section Turns

variable {σ : Type} [TokenSource σ] {style : BlockStyle} {parser : Parser σ}

/-- All that one turn can do to the context. -/
inductive Turned (style : BlockStyle) (parser : Parser σ) :
    EStateM.Result ParseFailure (Parser σ) (Option Node) → Prop
  | failed {failure : ParseFailure} {last : Parser σ} (same : last.context = parser.context) :
      Turned style parser (.error failure last)
  | ended {last : Parser σ} (same : last.context = parser.context) :
      Turned style parser (.ok none last)
  | built {node : Node} {next : Parser σ} (segment : Segment)
      (placed : parser.context.place style segment = .ok (node, next.context)) :
      Turned style parser (.ok (some node) next)

theorem turned_turn (style : BlockStyle) (parser : Parser σ) :
    Turned style parser (turn style parser) := by
  cases hlook : peek parser with
  | error failure last =>
      rw [turn, bind_of_error hlook]
      exact .failed (keeps_peek.context_of_error hlook)
  | ok current looked =>
      have same := keeps_peek.context_of_ok hlook
      rw [turn, bind_of_ok hlook]
      cases current with
      | none => exact .ended same
      | some token =>
          dsimp only
          split
          · exact .ended same
          · cases htake : segment token looked with
            | error failure last =>
                rw [bind_of_error htake]
                exact .failed (((keeps_segment token).context_of_error htake).trans same)
            | ok segment taken =>
                have same := ((keeps_segment token).context_of_ok htake).trans same
                rw [bind_of_ok htake]
                -- Only here does the context change, and only if the segment fits it.
                have built := build_eq style segment taken
                rw [same] at built
                cases placed : parser.context.place style segment with
                | error error =>
                    rw [placed] at built
                    rw [bind_of_error built]
                    exact .failed same
                | ok result =>
                    rw [placed] at built
                    rw [bind_of_ok built]
                    exact .built segment placed

end Turns

/-- The points of a parse: the nodes built so far, and the parser there. They are the
points between two nodes, those after each look at a token and each token let go of,
and the one where the parse ends or fails. -/
inductive Reaches {σ : Type} [TokenSource σ] (style : BlockStyle) (start : Parser σ) :
    List Node → Parser σ → Prop
  | start : Reaches style start [] start
  | looked {nodes : List Node} {parser next : Parser σ} {current : Option Token}
      (reached : Reaches style start nodes parser) (looks : peek parser = .ok current next) :
      Reaches style start nodes next
  | advanced {nodes : List Node} {parser next : Parser σ}
      (reached : Reaches style start nodes parser) (advances : advance parser = .ok () next) :
      Reaches style start nodes next
  | built {nodes : List Node} {parser next : Parser σ} {node : Node}
      (reached : Reaches style start nodes parser)
      (builds : turn style parser = .ok (some node) next) :
      Reaches style start (nodes ++ [node]) next
  | ended {nodes : List Node} {parser last : Parser σ}
      (reached : Reaches style start nodes parser) (ends : turn style parser = .ok none last) :
      Reaches style start nodes last
  | failed {nodes : List Node} {parser last : Parser σ} {failure : ParseFailure}
      (reached : Reaches style start nodes parser)
      (fails : turn style parser = .error failure last) :
      Reaches style start nodes last

section Reaches

variable {σ : Type} [TokenSource σ] {style : BlockStyle} {start parser : Parser σ}
  {nodes : List Node}

/-- At every point the nodes built so far are those of segments placed one after the
other. -/
theorem Reaches.exists_places (reached : Reaches style start nodes parser) :
    ∃ segments, Places style start.context segments nodes parser.context := by
  induction reached with
  | start => exact ⟨[], .nil⟩
  | looked _ looks ih =>
      rw [keeps_peek.context_of_ok looks]
      exact ih
  | advanced _ advances ih =>
      rw [keeps_advance.context_of_ok advances]
      exact ih
  | @built _ parser _ _ _ builds ih =>
      have turned := turned_turn style parser
      rw [builds] at turned
      cases turned with
      | built segment placed =>
          obtain ⟨segments, places⟩ := ih
          exact ⟨segments ++ [segment], places.concat placed⟩
  | @ended _ parser _ _ ends ih =>
      have turned := turned_turn style parser
      rw [ends] at turned
      cases turned with
      | ended same =>
          rw [same]
          exact ih
  | @failed _ parser _ _ _ fails ih =>
      have turned := turned_turn style parser
      rw [fails] at turned
      cases turned with
      | failed same =>
          rw [same]
          exact ih

/-- What is left of a parse ends at one of its points. -/
theorem Reaches.exists_last (reached : Reaches style start nodes parser) :
    ∃ last, Reaches style start (nodes ++ (Parse.run style parser).nodes) last ∧
      last.context = (Parse.run style parser).context := by
  induction size : parser.left using Nat.strongRecOn generalizing parser nodes with
  | ind left ih =>
      cases turned : turn style parser with
      | error failure last =>
          rw [Parse.run_of_error turned, List.append_nil]
          exact ⟨last, .failed reached turned, rfl⟩
      | ok found last =>
          cases found with
          | none =>
              rw [Parse.run_of_none turned, List.append_nil]
              exact ⟨last, .ended reached turned, rfl⟩
          | some node =>
              have fewer := left_lt_of_turn turned
              have further := ih last.left (size ▸ fewer) (.built reached turned) rfl
              rw [Parse.run_of_some turned]
              simpa only [Parse.prepend, List.append_assoc, List.singleton_append] using further

end Reaches

end Parser

namespace Parse

/-- A parse ends at one of its points. -/
theorem exists_reaches {σ : Type} [TokenSource σ] (options : Options) (source : σ) :
    ∃ last, Parser.Reaches options.blockStyle ⟨source, none, Context.initial options⟩
        (ofSource options source).nodes last ∧
      last.context = (ofSource options source).context :=
  Parser.Reaches.exists_last .start

theorem unclosed_eq_none {context : Context} :
    unclosed context = none ↔ context.openBlocks = [] := by
  simp [unclosed]

/-- A parse succeeds only if no block is open at its end. -/
theorem openBlocks_of_run {σ : Type} [TokenSource σ] {style : BlockStyle} {parser : Parser σ}
    (succeeds : (run style parser).failure = none) :
    (run style parser).context.openBlocks = [] := by
  induction size : parser.left using Nat.strongRecOn generalizing parser with
  | ind left ih =>
      cases turned : Parser.turn style parser with
      | error failure last =>
          rw [run_of_error turned] at succeeds
          cases succeeds
      | ok found last =>
          cases found with
          | none =>
              rw [run_of_none turned] at succeeds ⊢
              exact unclosed_eq_none.mp succeeds
          | some node =>
              have fewer := Parser.left_lt_of_turn turned
              rw [run_of_some turned] at succeeds ⊢
              exact ih last.left (size ▸ fewer) succeeds rfl

end Parse

end Stencil
