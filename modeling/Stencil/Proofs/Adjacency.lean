/-
# Text next to an expression

Text that touches an expression is written as it stands, whatever is on its other side and
whatever the cleaning mode. What touches what is decided three times over, for tokens, for
nodes and for the literals that are left after cleaning, and the three agree: a text token
next to the opener or the closer of an expression is a literal next to an expression node,
and cleaning looks at the neighbours of the list it was given. That the expression may be
empty and leave no instruction does not matter, since its node is there all the same.
-/

import Stencil.Proofs.Tidiness

namespace Stencil

/-- Whether a segment is an expression. -/
def Segment.isExpression : Segment → Bool
  | .expression _ _ => true
  | .text _ _ | .block _ _ | .directive _ _ _ => false

theorem Segment.Yields.isExpression_eq {style : BlockStyle} {segment : Segment} {node : Node}
    (yields : segment.Yields style node) : node.isExpression = segment.isExpression := by
  cases yields <;> rfl

namespace Segment.Spells

variable {unit : List Token} {segment : Segment} {token : Token}

/-- A text token is all of its unit. -/
theorem eq_of_mem_text (spells : Segment.Spells unit segment) (listed : token ∈ unit)
    (isText : token.kind = .text) :
    unit = [token] ∧ segment = .text token.span token.value := by
  cases spells with
  | text _ =>
      rw [List.mem_singleton.mp listed]
      exact ⟨rfl, rfl⟩
  | directive is =>
      rw [List.mem_singleton.mp listed, is] at isText
      cases isText
  | expression opens holds closes | block opens holds closes =>
      simp only [List.mem_cons, List.not_mem_nil, or_false] at listed
      rcases listed with rfl | rfl | rfl
      · simp [opens] at isText
      · simp [holds] at isText
      · simp [closes] at isText

/-- The opener and the closer of an expression stand in its unit only. -/
theorem isExpression_of_mem (spells : Segment.Spells unit segment) (listed : token ∈ unit)
    (delimits : token.kind = .expressionOpen ∨ token.kind = .expressionClose) :
    segment.isExpression = true := by
  cases spells with
  | expression _ _ _ => rfl
  | text is | directive is =>
      rw [List.mem_singleton.mp listed, is] at delimits
      simp at delimits
  | block opens holds closes =>
      simp only [List.mem_cons, List.not_mem_nil, or_false] at listed
      rcases listed with rfl | rfl | rfl
      · simp [opens] at delimits
      · simp [holds] at delimits
      · simp [closes] at delimits

end Segment.Spells

namespace Concatenates

variable {tokens before after : List Token} {token : Token} {segments : List Segment}

/-- The segments before a text token, its own, and those after it. -/
theorem exists_split_of_text (units : Concatenates (before ++ token :: after) segments)
    (isText : token.kind = .text) :
    ∃ earlier later, segments = earlier ++ .text token.span token.value :: later ∧
      Concatenates before earlier ∧ Concatenates after later := by
  obtain ⟨units, same, all⟩ := units
  induction all generalizing before with
  | nil => simp at same
  | @cons unit segment units segments spells further ih =>
      rw [List.flatten_cons] at same
      rcases List.append_eq_append_iff.mp same with ⟨rest, first, others⟩ | ⟨rest, first, others⟩
      · cases rest with
        | nil =>
            rw [List.append_nil] at first
            obtain ⟨earlier, later, rfl, front, back⟩ := @ih [] others
            exact ⟨segment :: earlier, later, rfl, by simpa [first] using front.cons spells, back⟩
        | cons other rest =>
            obtain ⟨rfl, rfl⟩ := List.cons.inj others
            -- The token lies in the first unit, so it is all of it.
            obtain ⟨alone, rfl⟩ := spells.eq_of_mem_text (by simp [first]) isText
            rw [first, List.append_eq_singleton_iff] at alone
            simp only [List.cons.injEq, reduceCtorEq, and_false, or_false, true_and] at alone
            obtain ⟨rfl, rfl⟩ := alone
            exact ⟨[], segments, rfl, .nil, units, rfl, further⟩
      · obtain ⟨earlier, later, rfl, front, back⟩ := ih others.symm
        exact ⟨segment :: earlier, later, rfl, first ▸ front.cons spells, back⟩

/-- What starts with the opener of an expression starts with an expression. -/
theorem isExpression_head? (units : Concatenates tokens segments) (first : token ∈ tokens.head?)
    (opens : token.kind = .expressionOpen) :
    segments.head?.any Segment.isExpression = true := by
  obtain ⟨units, rfl, all⟩ := units
  cases all with
  | nil => cases first
  | cons spells _ =>
      rw [List.flatten_cons,
        List.head?_append_of_ne_nil _ (List.length_pos_iff.mp spells.length_pos)] at first
      exact spells.isExpression_of_mem (List.mem_of_mem_head? first) (.inl opens)

/-- What ends with the closer of an expression ends with an expression. -/
theorem isExpression_getLast? (units : Concatenates tokens segments)
    (last : token ∈ tokens.getLast?) (closes : token.kind = .expressionClose) :
    segments.getLast?.any Segment.isExpression = true := by
  obtain ⟨units, rfl, all⟩ := units
  induction all with
  | nil => cases last
  | cons spells further ih =>
      cases further with
      | nil =>
          rw [List.flatten_cons, List.flatten_nil, List.append_nil] at last
          exact spells.isExpression_of_mem (List.mem_of_getLast? last) (.inr closes)
      | @cons unit' _ units' _ spells' _ =>
          have nonempty : (unit' :: units').flatten ≠ [] := by
            rw [List.flatten_cons]
            exact List.append_ne_nil_of_left_ne_nil (List.length_pos_iff.mp spells'.length_pos) _
          rw [List.flatten_cons, List.getLast?_append_of_ne_nil _ nonempty] at last
          rw [List.getLast?_cons_cons]
          exact ih last

end Concatenates

namespace Node

variable {previous : Option Node} {node : Node} {earlier later cleaned : List Node}

/-- Cleaning treats each node between its neighbours in the list that was given. -/
theorem exists_cleanBetween_of_cleanAfter
    (clean : cleanAfter previous (earlier ++ node :: later) = .ok cleaned) :
    ∃ outcome, cleanBetween (earlier.getLast?.or previous) node later.head? = .ok outcome ∧
      ∀ kept ∈ outcome, kept ∈ cleaned := by
  induction earlier generalizing previous cleaned with
  | nil =>
      obtain ⟨outcome, others, here, -, rfl⟩ := cleanAfter_cons_eq_ok.mp clean
      refine ⟨outcome, here, ?_⟩
      intro kept is
      exact List.mem_append_left others (Option.mem_toList.mpr is)
  | cons first earlier ih =>
      obtain ⟨outcome, others, -, further, rfl⟩ := cleanAfter_cons_eq_ok.mp clean
      obtain ⟨outcome', here, present⟩ := ih further
      refine ⟨outcome', ?_, fun kept is => List.mem_append_right _ (present kept is)⟩
      rw [List.getLast?_cons]
      cases last : earlier.getLast? <;> simpa [last] using here

/-- A literal next to an expression is still there after cleaning. -/
theorem mem_of_cleanAfter {span : Span} {text : String}
    (clean : cleanAfter previous (earlier ++ .literal span text :: later) = .ok cleaned)
    (beside : earlier.getLast?.any isExpression = true ∨ later.head?.any isExpression = true) :
    .literal span text ∈ cleaned := by
  obtain ⟨outcome, here, present⟩ := exists_cleanBetween_of_cleanAfter clean
  have kept : cleanBetween (earlier.getLast?.or previous) (.literal span text) later.head? =
      .ok (some (.literal span text)) := by
    rw [cleanBetween, if_pos]
    rcases beside with first | second
    · cases last : earlier.getLast? with
      | none =>
          rw [last] at first
          cases first
      | some node =>
          rw [last] at first
          rw [Option.some_or, first, Bool.true_or]
    · rw [second, Bool.or_true]
  rw [kept] at here
  cases here
  exact present _ rfl

variable {style : BlockStyle} {segments others : List Segment} {nodes : List Node}

/-- The nodes before and after the node of a segment are those of the segments there. -/
theorem exists_split_of_yields {segment : Segment}
    (yields : List.Forall₂ (Segment.Yields style) (segments ++ segment :: others) nodes) :
    ∃ earlier node later, nodes = earlier ++ node :: later ∧ segment.Yields style node ∧
      List.Forall₂ (Segment.Yields style) segments earlier ∧
      List.Forall₂ (Segment.Yields style) others later := by
  induction segments generalizing nodes with
  | nil =>
      cases yields with
      | cons here back => exact ⟨[], _, _, rfl, here, .nil, back⟩
  | cons _ segments ih =>
      cases yields with
      | cons first further =>
          obtain ⟨earlier, node, later, rfl, here, front, back⟩ := ih further
          exact ⟨_ :: earlier, node, later, rfl, here, .cons first front, back⟩

theorem isExpression_head?_of_yields
    (yields : List.Forall₂ (Segment.Yields style) segments nodes) :
    nodes.head?.any isExpression = segments.head?.any Segment.isExpression := by
  cases yields with
  | nil => rfl
  | cons first _ => exact first.isExpression_eq

theorem isExpression_getLast?_of_yields
    (yields : List.Forall₂ (Segment.Yields style) segments nodes) :
    nodes.getLast?.any isExpression = segments.getLast?.any Segment.isExpression := by
  induction yields with
  | nil => rfl
  | cons first further ih =>
      cases further with
      | nil => exact first.isExpression_eq
      | cons _ _ =>
          rw [List.getLast?_cons_cons, List.getLast?_cons_cons]
          exact ih

end Node

/-- What any node writes is among the instructions. -/
theorem Instruction.mem_of_ofNodes {nodes : List Node} {node : Node} {instruction : Instruction}
    {instructions : List Instruction} (generated : ofNodes nodes = .ok instructions)
    (listed : node ∈ nodes) (emitted : ofNode node = .ok (some instruction)) :
    instruction ∈ instructions := by
  induction nodes generalizing instructions with
  | nil => cases listed
  | cons first rest ih =>
      obtain ⟨outcome, others, here, further, rfl⟩ := ofNodes_cons_eq_ok.mp generated
      rcases List.mem_cons.mp listed with rfl | later
      · rw [emitted] at here
        cases here
        exact List.mem_append_left others List.mem_cons_self
      · exact List.mem_append_right _ (ih further later)

/-- A token before the end of input, with what follows it there. -/
theorem Scan.exists_rest_of_split {body before after : List Token} {token : Token} {stop : Nat}
    (same : body ++ [ending stop] = before ++ token :: after) (inner : token.kind ≠ .endOfInput) :
    ∃ rest, body = before ++ token :: rest ∧
      ∀ next ∈ after.head?, next.kind ≠ .endOfInput → next ∈ rest.head? := by
  rcases List.eq_nil_or_concat after with rfl | ⟨rest, final, rfl⟩
  · obtain ⟨-, last⟩ := List.append_inj' same rfl
    rw [← (List.cons.inj last).1] at inner
    exact absurd rfl inner
  · rw [List.concat_eq_append, ← List.cons_append, ← List.append_assoc] at same
    obtain ⟨rfl, last⟩ := List.append_inj' same rfl
    refine ⟨rest, rfl, ?_⟩
    intro next first inside
    cases rest with
    | nil =>
        cases first
        rw [← (List.cons.inj last).1] at inside
        exact absurd rfl inside
    | cons _ _ => exact first

/-- A text token next to an expression is written as it stands, with its own span: no
cleaning mode and no neighbour on the other side takes anything from it. -/
theorem text_beside_expression_kept (options : Options) (source name : String)
    (program : Program) (compiled : compile options source name = .ok program) :
    ∃ tokens, (Scan.ofText options source).complete = .ok tokens ∧
      ∀ before token after, tokens = before ++ token :: after → token.kind = .text →
        (∃ opener ∈ after.head?, opener.kind = .expressionOpen) ∨
            (∃ closer ∈ before.getLast?, closer.kind = .expressionClose) →
          .literal token.value token.span ∈ program.instructions := by
  obtain ⟨nodes, cleaned, parsed, clean, generated⟩ := exists_of_compile compiled
  obtain ⟨succeeds, rfl⟩ := Parse.result_eq_ok.mp parsed
  obtain ⟨body, stop, segments, last, split, scanned, units, roomy, places⟩ :=
    Parse.exists_places_of_ofText succeeds
  refine ⟨_, Scan.complete_of_none scanned, ?_⟩
  intro before token after same isText beside
  obtain ⟨rest, rfl, follows⟩ :=
    Scan.exists_rest_of_split (split.symm.trans same) (by simp [isText])
  obtain ⟨earlier, later, rfl, front, back⟩ := units.exists_split_of_text isText
  obtain ⟨nodes, node, nodes', whole, here, yields, yields'⟩ :=
    Node.exists_split_of_yields places.yields
  cases here
  have touches : nodes.getLast?.any Node.isExpression = true ∨
      nodes'.head?.any Node.isExpression = true := by
    rw [Node.isExpression_getLast?_of_yields yields, Node.isExpression_head?_of_yields yields']
    rcases beside with ⟨opener, first, opens⟩ | ⟨closer, last, closes⟩
    · exact .inr (back.isExpression_head? (follows opener first (by simp [opens])) opens)
    · exact .inl (front.isExpression_getLast? last closes)
  rw [whole] at clean
  have kept := Node.mem_of_cleanAfter clean touches
  have nonempty : token.value ≠ "" := (roomy _ (List.mem_append_right _ List.mem_cons_self)).1
  exact Instruction.mem_of_ofNodes generated kept (by rw [Instruction.ofNode, if_neg nonempty])

/-- Blanks between blocks that clean and an expression without code. -/
theorem text_beside_expression_kept_empty :
    ∃ program,
      compile { cleaning := .block } "<# if x #> \n<#= #> <# end #>" "<template>" =
        .ok program ∧
      .literal " \n" (Span.sized 10 2) ∈ program.instructions ∧
      .literal " " (Span.sized 18 1) ∈ program.instructions := by
  have compiled : compile { cleaning := .block } "<# if x #> \n<#= #> <# end #>" "<template>" =
      .ok ⟨"<template>",
        [.raw "if x" (Span.sized 0 10), .literal " \n" (Span.sized 10 2),
          .literal " " (Span.sized 18 1), .raw "end" (Span.sized 19 9)], "_out", false⟩ := by
    decide +kernel
  have scanned :
      (Scan.ofText { cleaning := .block } "<# if x #> \n<#= #> <# end #>").complete = .ok
        [⟨.blockOpen, "<#", Span.sized 0 2, []⟩, ⟨.code, " if x ", Span.sized 2 6, []⟩,
          ⟨.blockClose, "#>", Span.sized 8 2, []⟩, ⟨.text, " \n", Span.sized 10 2, []⟩,
          ⟨.expressionOpen, "<#=", Span.sized 12 3, []⟩, ⟨.code, " ", Span.sized 15 1, []⟩,
          ⟨.expressionClose, "#>", Span.sized 16 2, []⟩, ⟨.text, " ", Span.sized 18 1, []⟩,
          ⟨.blockOpen, "<#", Span.sized 19 2, []⟩, ⟨.code, " end ", Span.sized 21 5, []⟩,
          ⟨.blockClose, "#>", Span.sized 26 2, []⟩, Scan.ending 28] := by
    decide +kernel
  obtain ⟨tokens, scanned', kept⟩ := text_beside_expression_kept _ _ _ _ compiled
  cases scanned.symm.trans scanned'
  refine ⟨_, compiled, ?_, ?_⟩
  · exact kept [_, _, _] _ _ rfl rfl (.inl ⟨_, rfl, rfl⟩)
  · exact kept [_, _, _, _, _, _, _] _ _ rfl rfl (.inr ⟨_, rfl, rfl⟩)

end Stencil
