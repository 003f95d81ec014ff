/-
# Cleaning white space once is enough

Nodes are tidy if each literal, between the neighbours it has now, has no blank that
cleaning would take. Tidy nodes are left as they are, so cleaning is settled after one
pass if that pass leaves nodes tidy.

It need not. A literal that was all blank is dropped, and a literal next to it then has a
neighbour that it was not cleaned against. Where no two literals are next to each other
this cannot happen: the neighbours of a literal are nodes that cleaning never drops or
changes. The nodes of a source are of this kind because a scan never cuts literal text in
two.
-/

import Stencil.Proofs.Emission
import Stencil.Proofs.Tiling

namespace Stencil

namespace Text

/-- No blank is left at the sides that are to be trimmed. -/
def Trimmed (leading trailing : Bool) (cs : List Char) : Prop :=
  (leading = true → ∀ c ∈ cs.head?, isBlank c = false) ∧
    (trailing = true → ∀ c ∈ cs.getLast?, isBlank c = false)

theorem not_blank_head?_trimStart (cs : List Char) :
    ∀ c ∈ (trimStart cs).head?, isBlank c = false := by
  intro c first
  have stops := List.head?_dropWhile_not isBlank cs
  rw [trimStart] at first
  rw [first] at stops
  exact stops

theorem not_blank_getLast?_trimEnd (cs : List Char) :
    ∀ c ∈ (trimEnd cs).getLast?, isBlank c = false := by
  rw [trimEnd, List.getLast?_reverse]
  exact not_blank_head?_trimStart cs.reverse

/-- Trimming the back leaves the first character, if it leaves any. -/
theorem mem_head?_of_trimEnd {cs : List Char} {c : Char} (first : c ∈ (trimEnd cs).head?) :
    c ∈ cs.head? := by
  obtain ⟨back, split, -⟩ := exists_trimEnd cs
  rw [split, List.head?_append, first]
  rfl

theorem trimStart_eq_self {cs : List Char} (solid : ∀ c ∈ cs.head?, isBlank c = false) :
    trimStart cs = cs := by
  cases cs with
  | nil => rfl
  | cons c cs => exact List.dropWhile_cons_of_neg (by simp [solid c rfl])

theorem trimEnd_eq_self {cs : List Char} (solid : ∀ c ∈ cs.getLast?, isBlank c = false) :
    trimEnd cs = cs := by
  rw [← List.head?_reverse] at solid
  exact List.reverse_eq_iff.mpr (trimStart_eq_self solid)

/-- What is trimmed at some sides has no blank left there. -/
theorem trimmed_trim (leading trailing : Bool) (cs : List Char) :
    let front := if leading then trimStart cs else cs
    Trimmed leading trailing (if trailing then trimEnd front else front) := by
  intro front
  have solidFront : leading = true → ∀ c ∈ front.head?, isBlank c = false := by
    rintro rfl
    exact not_blank_head?_trimStart cs
  cases trailing with
  | false => exact ⟨solidFront, by simp⟩
  | true =>
      refine ⟨?_, fun _ => not_blank_getLast?_trimEnd front⟩
      intro asked c first
      exact solidFront asked c (mem_head?_of_trimEnd first)

/-- What has no blank at some sides is not changed by trimming there. -/
theorem trim_of_trimmed {leading trailing : Bool} {cs : List Char}
    (trimmed : Trimmed leading trailing cs) :
    let front := if leading then trimStart cs else cs
    (if trailing then trimEnd front else front) = cs := by
  intro front
  have whole : front = cs := by
    cases leading with
    | false => rfl
    | true => exact trimStart_eq_self (trimmed.1 rfl)
  rw [whole]
  cases trailing with
  | false => rfl
  | true => exact trimEnd_eq_self (trimmed.2 rfl)

end Text

namespace Node

/-- Whether a node is literal text. -/
def isLiteral : Node → Bool
  | .literal _ _ => true
  | .expression _ _ _ _ | .block _ | .directive _ _ _ _ | .placeholder _ => false

/-- Not both of two nodes are literals. -/
def Apart (first second : Node) : Prop :=
  ¬ (first.isLiteral = true ∧ second.isLiteral = true)

theorem apart_of_left {first second : Node} (other : first.isLiteral = false) :
    Apart first second := by
  simp [Apart, other]

theorem apart_of_right {first second : Node} (other : second.isLiteral = false) :
    Apart first second := by
  simp [Apart, other]

/-- What follows a literal is none. -/
theorem not_literal_head?_of_apart {node : Node} {rest : List Node}
    (apart : ∀ second ∈ rest.head?, Apart node second) (literal : node.isLiteral = true) :
    ∀ second ∈ rest.head?, second.isLiteral = false := by
  intro second isSecond
  have differs := apart second isSecond
  rw [Apart, literal] at differs
  simpa using differs

/-- Nothing is to be cleaned of a node between its neighbours. -/
def Tidy (previous : Option Node) (node : Node) (next : Option Node) : Prop :=
  ∀ span text, node = .literal span text → previous.any isExpression = false →
    next.any isExpression = false →
      Text.Trimmed (previous.any cleansBeside) (next.any cleansBeside) text.toList

/-- Nothing is to be cleaned of the nodes that follow a node. -/
def TidyAfter (previous : Option Node) : List Node → Prop
  | [] => True
  | node :: rest => Tidy previous node rest.head? ∧ TidyAfter (some node) rest

section Between

variable {previous next : Option Node} {node : Node}

/-- What is not a literal is always tidy. -/
theorem tidy_of_not_literal (other : node.isLiteral = false) : Tidy previous node next := by
  rintro span text rfl
  cases other

/-- A tidy node is kept as it is. -/
theorem cleanBetween_of_tidy (tidy : Tidy previous node next) :
    cleanBetween previous node next = .ok (some node) := by
  cases node with
  | literal span text =>
      rw [cleanBetween]
      split
      · rfl
      · rename_i beside
        rw [Bool.not_eq_true, Bool.or_eq_false_iff] at beside
        have same := Text.trim_of_trimmed (tidy span text rfl beside.1 beside.2)
        exact if_pos same
  | expression _ _ _ _ | block _ | directive _ _ _ _ | placeholder _ => rfl

/-- What is left of a literal that was trimmed is a literal without blanks at those
sides. -/
theorem exists_trimmed_of_trimLiteral {span : Span} {text : String} {leading trailing : Bool}
    {kept : Node} (h : trimLiteral span text leading trailing = .ok (some kept)) :
    ∃ inside left, kept = .literal inside left ∧ Text.Trimmed leading trailing left.toList := by
  have trimmed := Text.trimmed_trim leading trailing text.toList
  simp only [trimLiteral] at h trimmed
  generalize (if leading then Text.trimStart text.toList else text.toList) = front at h trimmed
  generalize (if trailing then Text.trimEnd front else front) = rest at h trimmed
  split at h
  · rename_i same
    cases h
    rw [same] at trimmed
    exact ⟨span, text, rfl, trimmed⟩
  · split at h
    · cases h
    · generalize Span.ofInts _ _ = built at h
      cases built with
      | error fault => cases h
      | ok inside =>
          cases h
          refine ⟨inside, _, rfl, ?_⟩
          rwa [String.toList_ofList]

/-- All that cleaning a node can come to: it stays as it is, unless it is a literal, and
what is left of a literal is a tidy one. -/
theorem cases_of_cleanBetween {cleaned : Option Node}
    (h : cleanBetween previous node next = .ok cleaned) :
    (node.isLiteral = false ∧ cleaned = some node) ∨
      node.isLiteral = true ∧ (cleaned = none ∨
        ∃ kept, cleaned = some kept ∧ kept.isLiteral = true ∧ Tidy previous kept next) := by
  cases node with
  | literal span text =>
      refine .inr ⟨rfl, ?_⟩
      rw [cleanBetween] at h
      split at h
      · rename_i beside
        cases h
        refine .inr ⟨_, rfl, rfl, ?_⟩
        intro _ _ _ first second
        rw [first, second] at beside
        cases beside
      · cases cleaned with
        | none => exact .inl rfl
        | some kept =>
            obtain ⟨inside, left, rfl, trimmed⟩ := exists_trimmed_of_trimLiteral h
            refine .inr ⟨_, rfl, rfl, ?_⟩
            rintro _ _ ⟨⟩ _ _
            exact trimmed
  | expression _ _ _ _ | block _ | directive _ _ _ _ | placeholder _ =>
      cases h
      exact .inl ⟨rfl, rfl⟩

end Between

section After

variable {previous : Option Node} {nodes cleaned : List Node}

theorem cleanAfter_of_tidyAfter (tidy : TidyAfter previous nodes) :
    cleanAfter previous nodes = .ok nodes := by
  induction nodes generalizing previous with
  | nil => rfl
  | cons node rest ih =>
      exact cleanAfter_cons_eq_ok.mpr ⟨_, _, cleanBetween_of_tidy tidy.1, ih tidy.2, rfl⟩

/-- What stands before nodes is looked at only if they start with a literal. -/
theorem TidyAfter.of_head {other : Option Node} (tidy : TidyAfter previous nodes)
    (head : ∀ first ∈ nodes.head?, first.isLiteral = false) : TidyAfter other nodes := by
  cases nodes with
  | nil => trivial
  | cons node rest => exact ⟨tidy_of_not_literal (head node rfl), tidy.2⟩

/-- Cleaning leaves nodes tidy and apart, where they were apart. A first node that is no
literal stays where it is, which is how the literal before it keeps its neighbour. -/
theorem tidyAfter_of_cleanAfter (apart : nodes.IsChain Apart)
    (h : cleanAfter previous nodes = .ok cleaned) :
    TidyAfter previous cleaned ∧ cleaned.IsChain Apart ∧
      ((∀ first ∈ nodes.head?, first.isLiteral = false) → cleaned.head? = nodes.head?) := by
  induction nodes generalizing previous cleaned with
  | nil =>
      cases h
      exact ⟨trivial, .nil, fun _ => rfl⟩
  | cons node rest ih =>
      obtain ⟨first, others, here, further, rfl⟩ := cleanAfter_cons_eq_ok.mp h
      rw [List.isChain_cons] at apart
      obtain ⟨tidy, chain, head⟩ := ih apart.2 further
      rcases cases_of_cleanBetween here with ⟨other, rfl⟩ | ⟨literal, outcome⟩
      · refine ⟨⟨tidy_of_not_literal other, tidy⟩, ?_, fun _ => rfl⟩
        exact List.isChain_cons.mpr ⟨fun _ _ => apart_of_left other, chain⟩
      · -- The node after a literal is none, so it is still the first of the others.
        have next := not_literal_head?_of_apart apart.1 literal
        have same := head next
        have nextLeft : ∀ second ∈ others.head?, second.isLiteral = false := by
          rw [same]
          exact next
        have starts : ¬ ∀ first ∈ (node :: rest).head?, first.isLiteral = false := by
          simp [literal]
        rcases outcome with rfl | ⟨kept, rfl, keptLiteral, keptTidy⟩
        · exact ⟨tidy.of_head nextLeft, chain, fun noLiteral => absurd noLiteral starts⟩
        · refine ⟨⟨?_, tidy.of_head nextLeft⟩, ?_, fun noLiteral => absurd noLiteral starts⟩
          · show Tidy previous kept others.head?
            rw [same]
            exact keptTidy
          · exact List.isChain_cons.mpr
              ⟨fun second isSecond => apart_of_right (nextLeft second isSecond), chain⟩

end After

end Node

section Parsed

theorem Segment.Yields.isLiteral_eq {style : BlockStyle} {segment : Segment} {node : Node}
    (yields : segment.Yields style node) : node.isLiteral = segment.isText := by
  cases yields <;> rfl

/-- A text segment starts and ends with its one token. -/
theorem Segment.Spells.exists_of_isText {unit : List Token} {segment : Segment}
    (spells : Segment.Spells unit segment) (isText : segment.isText = true) :
    ∃ token, unit = [token] ∧ token.kind = .text := by
  cases spells with
  | text is => exact ⟨_, rfl, is⟩
  | directive _ | expression _ _ _ | block _ _ _ => cases isText

/-- No two segments next to each other are text if no two tokens are. -/
theorem Concatenates.isChain_isText {tokens : List Token} {segments : List Segment}
    (units : Concatenates tokens segments) (apart : tokens.IsChain Token.Apart) :
    segments.IsChain fun first second => ¬ (first.isText = true ∧ second.isText = true) := by
  obtain ⟨units, rfl, all⟩ := units
  induction all with
  | nil => exact .nil
  | @cons unit segment units segments spells further ih =>
      rw [List.flatten_cons] at apart
      rw [List.isChain_cons]
      refine ⟨?_, ih apart.right_of_append⟩
      rintro second isSecond ⟨firstText, secondText⟩
      obtain ⟨token, rfl, kind⟩ := spells.exists_of_isText firstText
      cases further with
      | nil => cases isSecond
      | cons spells' _ =>
          cases isSecond
          obtain ⟨token', rfl, kind'⟩ := spells'.exists_of_isText secondText
          exact (List.isChain_cons_cons.mp apart).1 ⟨kind, kind'⟩

theorem Node.isChain_of_yields {style : BlockStyle} {segments : List Segment} {nodes : List Node}
    (yields : List.Forall₂ (Segment.Yields style) segments nodes)
    (apart : segments.IsChain fun first second =>
      ¬ (first.isText = true ∧ second.isText = true)) : nodes.IsChain Node.Apart := by
  induction yields with
  | nil => exact .nil
  | cons first further ih =>
      rw [List.isChain_cons] at apart ⊢
      refine ⟨?_, ih apart.2⟩
      intro second isSecond
      cases further with
      | nil => cases isSecond
      | cons next _ =>
          cases isSecond
          rw [Node.Apart, first.isLiteral_eq, next.isLiteral_eq]
          exact apart.1 _ rfl

/-- The tokens of a source that parses have no two texts next to each other, and neither
have its nodes. -/
theorem Parse.isChain_apart {options : Options} {source : String}
    (succeeds : (Parse.ofText options source).failure = none) :
    (Parse.ofText options source).nodes.IsChain Node.Apart := by
  obtain ⟨body, stop, segments, last, split, scanned, units, -, places⟩ :=
    exists_places_of_ofText succeeds
  obtain ⟨body', split', -, apart⟩ :=
    Scan.covers_scanFrom (List.nil_append source.toList).symm scanned
  obtain ⟨rfl, -⟩ : body = body' ∧ _ := List.append_inj' (split.symm.trans split') rfl
  exact Node.isChain_of_yields places.yields (units.isChain_isText apart)

end Parsed

/-- Nodes without two literals next to each other are still so after cleaning, and
cleaning them once more changes nothing. The nodes of a source that parses are of this
kind, and can be cleaned. -/
theorem clean_idempotent :
    (∀ nodes cleaned : List Node, nodes.IsChain Node.Apart → Node.clean nodes = .ok cleaned →
      cleaned.IsChain Node.Apart ∧ Node.clean cleaned = .ok cleaned) ∧
    ∀ (options : Options) (source : String) (nodes : List Node),
      (Parse.ofText options source).result = .ok nodes →
        nodes.IsChain Node.Apart ∧ ∃ cleaned, Node.clean nodes = .ok cleaned := by
  constructor
  · intro nodes cleaned apart clean
    obtain ⟨tidy, chain, -⟩ := Node.tidyAfter_of_cleanAfter apart clean
    exact ⟨chain, Node.cleanAfter_of_tidyAfter tidy⟩
  · intro options source nodes parsed
    obtain ⟨succeeds, rfl⟩ := Parse.result_eq_ok.mp parsed
    obtain ⟨cleaned, -, clean, -⟩ :=
      Node.exists_cleanAfter none (Parse.roomy_of_ofText succeeds)
    exact ⟨Parse.isChain_apart succeeds, cleaned, clean⟩

/-- One literal is dropped, one is trimmed, and the two next to an expression stay. -/
theorem clean_idempotent_dropped :
    let source := " <# if x #>\n<#= y #> <# end #>  a "
    let opening : Block := ⟨Span.sized 1 10, "if x", .opens, 0, some "if", .block⟩
    let closing : Block := ⟨Span.sized 21 9, "end", .closes, 0, some "if", .block⟩
    let inside : List Node :=
      [.block opening, .literal (Span.sized 11 1) "\n",
        .expression (Span.sized 12 8) "y" .auto none, .literal (Span.sized 20 1) " ",
        .block closing]
    let nodes := .literal (Span.sized 0 1) " " :: inside ++ [.literal (Span.sized 30 4) "  a "]
    let cleaned := inside ++ [.literal (Span.sized 32 2) "a "]
    (Parse.ofText { cleaning := .block } source).result = .ok nodes ∧
      nodes.IsChain Node.Apart ∧ Node.clean nodes = .ok cleaned ∧
      cleaned.IsChain Node.Apart ∧ Node.clean cleaned = .ok cleaned := by
  intro source opening closing inside nodes cleaned
  have parsed : (Parse.ofText { cleaning := .block } source).result = .ok nodes := by
    decide +kernel
  have clean : Node.clean nodes = .ok cleaned := by decide +kernel
  have apart := (clean_idempotent.2 _ _ _ parsed).1
  exact ⟨parsed, apart, clean, clean_idempotent.1 _ _ apart clean⟩

-- Without two literals in a row being excluded, a second pass can find more to clean.
example :
    let nodes : List Node :=
      [.directive (Span.sized 0 13) "cleanws" [] .block, .literal (Span.sized 13 1) " ",
        .literal (Span.sized 14 2) " a"]
    Node.clean nodes >>= Node.clean ≠ Node.clean nodes := by
  decide +kernel

end Stencil
