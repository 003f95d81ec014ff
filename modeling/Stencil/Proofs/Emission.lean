/-
# From nodes to instructions

Every node of a parsed source ends as one instruction or as none, and which of the two
is a matter of the node alone, up to the blanks that cleaning takes from the ends of a
literal. Cleaning computes the span of what is left of a literal from numbers, and
this is the one place where a span could come out of order. It does not, because a
literal takes up at least as many characters of the source as it has, and cleaning
takes no more from the span than from the text.

Together with what is known of parsing, this leaves the errors of the template as the
only reason for a source to have no program.
-/

import Stencil.Program
import Stencil.Proofs.Formation

namespace Stencil

namespace Node

/-- A literal takes up at least its own length, and nothing is a mere placeholder. -/
def Roomy : Node → Prop
  | .literal span text => span.start + text.toList.length ≤ span.stop
  | .placeholder _ => False
  | .expression _ _ _ _ | .block _ | .directive _ _ _ _ => True

/-- What a node can end as. A literal may have lost blanks at its ends, and its span as
many characters on the same sides. -/
inductive Emits : Node → Option Instruction → Prop
  | text {span inside : Span} {text kept : String} (front back : List Char)
      (split : text.toList = front ++ kept.toList ++ back)
      (blank : ∀ c ∈ front ++ back, Text.isBlank c = true) (nonempty : kept ≠ "")
      (starts : inside.start = span.start + front.length)
      (stops : inside.stop + back.length = span.stop) :
      Emits (.literal span text) (some (.literal kept inside))
  | blank {span : Span} {text : String} (blank : ∀ c ∈ text.toList, Text.isBlank c = true) :
      Emits (.literal span text) none
  | expression {span : Span} {code : String} {escaping : Escaping} {escaper : Option String}
      (nonempty : code ≠ "") :
      Emits (.expression span code escaping escaper)
        (some (.expression code escaping span (if escaping = .auto then escaper else none)))
  | emptyExpression {span : Span} {code : String} {escaping : Escaping} {escaper : Option String}
      (empty : code = "") : Emits (.expression span code escaping escaper) none
  | block {block : Block} (nonempty : block.code ≠ "") :
      Emits (.block block) (some (.raw block.code block.span))
  | emptyBlock {block : Block} (empty : block.code = "") : Emits (.block block) none
  | directive {span : Span} {name : String} {args : List String} {cleaning : Cleaning} :
      Emits (.directive span name args cleaning) none

section Trim

/-- The front that is trimmed if asked for. -/
private theorem exists_front (leading : Bool) (cs : List Char) :
    ∃ front, cs = front ++ (if leading then Text.trimStart cs else cs) ∧
      ∀ c ∈ front, Text.isBlank c = true := by
  cases leading with
  | true => exact Text.exists_trimStart cs
  | false => exact ⟨[], rfl, by simp⟩

private theorem exists_back (trailing : Bool) (cs : List Char) :
    ∃ back, cs = (if trailing then Text.trimEnd cs else cs) ++ back ∧
      ∀ c ∈ back, Text.isBlank c = true := by
  cases trailing with
  | true => exact Text.exists_trimEnd cs
  | false => exact ⟨[], (List.append_nil cs).symm, by simp⟩

/-- Ends that have been moved towards each other are still in order if there is room. -/
private theorem exists_inside {span : Span} {front back : Nat}
    (room : span.start + front + back ≤ span.stop) :
    ∃ inside : Span, Span.ofInts ((span.start : Int) + front) ((span.stop : Int) - back) =
        .ok inside ∧
      inside.start = span.start + front ∧ inside.stop + back = span.stop := by
  rw [Span.ofInts, dif_pos (by omega)]
  refine ⟨_, rfl, ?_, ?_⟩
  · dsimp only
    omega
  · dsimp only
    omega

/-- Trimming a literal that has room leaves a literal without some blanks at its ends, or
nothing where all of it is blank. -/
theorem exists_trimLiteral {span : Span} {text : String} (leading trailing : Bool)
    (room : span.start + text.toList.length ≤ span.stop) :
    (∃ inside kept front back, trimLiteral span text leading trailing =
        .ok (some (.literal inside kept)) ∧
      text.toList = front ++ kept.toList ++ back ∧
      (∀ c ∈ front ++ back, Text.isBlank c = true) ∧
      inside.start = span.start + front.length ∧ inside.stop + back.length = span.stop) ∨
    trimLiteral span text leading trailing = .ok none ∧
      ∀ c ∈ text.toList, Text.isBlank c = true := by
  obtain ⟨front, split, blankFront⟩ := exists_front leading text.toList
  simp only [trimLiteral]
  generalize hrest : (if leading then Text.trimStart text.toList else text.toList) = rest at *
  obtain ⟨back, split', blankBack⟩ := exists_back trailing rest
  generalize hkept : (if trailing then Text.trimEnd rest else rest) = kept at *
  have whole : text.toList = front ++ kept ++ back := by
    rw [split, List.append_assoc, ← split']
  have blank : ∀ c ∈ front ++ back, Text.isBlank c = true := by
    intro c present
    rcases List.mem_append.mp present with inFront | inBack
    · exact blankFront c inFront
    · exact blankBack c inBack
  by_cases same : kept = text.toList
  · rw [if_pos same]
    exact .inl ⟨span, text, [], [], rfl, by simp, by simp, rfl, rfl⟩
  · rw [if_neg same]
    by_cases gone : kept = []
    · rw [if_pos (by rw [gone]; rfl)]
      rw [gone, List.append_nil] at whole
      rw [whole]
      exact .inr ⟨rfl, blank⟩
    · rw [if_neg (by simpa using gone)]
      -- What is taken from the text on each side is what is taken from the span.
      have fromFront : text.toList.length - rest.length = front.length := by
        rw [split, List.length_append]
        omega
      have fromBack : rest.length - kept.length = back.length := by
        rw [split', List.length_append]
        omega
      have room' : span.start + front.length + back.length ≤ span.stop := by
        rw [whole, List.length_append, List.length_append] at room
        omega
      obtain ⟨inside, built, starts, stops⟩ := exists_inside room'
      rw [fromFront, fromBack, built]
      refine .inl ⟨inside, String.ofList kept, front, back, rfl, ?_, blank, starts, stops⟩
      rw [String.toList_ofList]
      exact whole

end Trim

/-- A literal that is kept is written, unless it is empty. -/
private theorem exists_emits_text {span inside : Span} {text kept : String}
    (front back : List Char) (split : text.toList = front ++ kept.toList ++ back)
    (blank : ∀ c ∈ front ++ back, Text.isBlank c = true)
    (starts : inside.start = span.start + front.length)
    (stops : inside.stop + back.length = span.stop) :
    ∃ outcome, Instruction.ofNode (.literal inside kept) = .ok outcome ∧
      Emits (.literal span text) outcome := by
  by_cases empty : kept = ""
  · refine ⟨none, by rw [Instruction.ofNode, if_pos empty], .blank ?_⟩
    rw [split, empty]
    simpa using blank
  · refine ⟨_, by rw [Instruction.ofNode, if_neg empty], ?_⟩
    exact .text front back split blank empty starts stops

/-- A node that is kept as it is. -/
theorem exists_emits {node : Node} (roomy : node.Roomy) :
    ∃ outcome, Instruction.ofNode node = .ok outcome ∧ node.Emits outcome := by
  cases node with
  | literal span text => exact exists_emits_text [] [] (by simp) (by simp) rfl rfl
  | expression span code escaping escaper =>
      by_cases empty : code = ""
      · exact ⟨none, by rw [Instruction.ofNode, if_pos empty], .emptyExpression empty⟩
      · exact ⟨_, by rw [Instruction.ofNode, if_neg empty], .expression empty⟩
  | block block =>
      by_cases empty : block.code = ""
      · exact ⟨none, by rw [Instruction.ofNode, if_pos empty], .emptyBlock empty⟩
      · exact ⟨_, by rw [Instruction.ofNode, if_neg empty], .block empty⟩
  | directive span name args cleaning => exact ⟨none, rfl, .directive⟩
  | placeholder span => exact roomy.elim

end Node

namespace Instruction

theorem ofNodes_singleton {node : Node} {outcome : Option Instruction}
    (h : ofNode node = .ok outcome) : ofNodes [node] = .ok outcome.toList := by
  simp only [ofNodes, h]
  exact congrArg Except.ok (List.append_nil _)

theorem ofNodes_append {nodes more : List Node} {first second : List Instruction}
    (left : ofNodes nodes = .ok first) (right : ofNodes more = .ok second) :
    ofNodes (nodes ++ more) = .ok (first ++ second) := by
  induction nodes generalizing first with
  | nil =>
      cases left
      exact right
  | cons node rest ih =>
      obtain ⟨outcome, others, emitted, further, rfl⟩ := ofNodes_cons_eq_ok.mp left
      rw [List.append_assoc]
      exact ofNodes_cons_eq_ok.mpr ⟨outcome, _, emitted, ih further, rfl⟩

end Instruction

namespace Node

/-- One node, between its neighbours, is cleaned and ends as it can. -/
theorem exists_cleanBetween {node : Node} (previous next : Option Node) (roomy : node.Roomy) :
    ∃ cleaned outcome, cleanBetween previous node next = .ok cleaned ∧
      Instruction.ofNodes cleaned.toList = .ok outcome.toList ∧ node.Emits outcome := by
  obtain ⟨outcome, emitted, emits⟩ := exists_emits roomy
  have kept : Instruction.ofNodes (some node).toList = .ok outcome.toList :=
    Instruction.ofNodes_singleton emitted
  cases node with
  | literal span text =>
      rw [cleanBetween]
      split
      · exact ⟨_, outcome, rfl, kept, emits⟩
      · rcases exists_trimLiteral (previous.any cleansBeside) (next.any cleansBeside) roomy with
          ⟨inside, left, front, back, trimmed, split, blank, starts, stops⟩ | ⟨trimmed, blank⟩
        · obtain ⟨outcome, emitted, emits⟩ := exists_emits_text front back split blank starts stops
          exact ⟨_, outcome, trimmed, Instruction.ofNodes_singleton emitted, emits⟩
        · exact ⟨none, none, trimmed, rfl, .blank blank⟩
  | expression _ _ _ _ | block _ | directive _ _ _ _ =>
      exact ⟨_, outcome, rfl, kept, emits⟩
  | placeholder _ => exact roomy.elim

/-- Nodes with room are all cleaned, and each ends as it can. -/
theorem exists_cleanAfter {nodes : List Node} (previous : Option Node)
    (roomy : ∀ node ∈ nodes, node.Roomy) :
    ∃ cleaned outcomes, cleanAfter previous nodes = .ok cleaned ∧
      Instruction.ofNodes cleaned = .ok outcomes.reduceOption ∧
      List.Forall₂ Emits nodes outcomes := by
  induction nodes generalizing previous with
  | nil => exact ⟨[], [], rfl, rfl, .nil⟩
  | cons node rest ih =>
      obtain ⟨first, outcome, cleaned, emitted, emits⟩ :=
        exists_cleanBetween previous rest.head? (roomy node List.mem_cons_self)
      obtain ⟨others, outcomes, cleaned', emitted', emits'⟩ :=
        ih (some node) fun other present => roomy other (List.mem_cons_of_mem node present)
      refine ⟨first.toList ++ others, outcome :: outcomes, ?_, ?_, .cons emits emits'⟩
      · rw [cleanAfter, cleaned, cleaned']
        rfl
      · rw [Instruction.ofNodes_append emitted emitted']
        cases outcome <;> rfl

/-- Segments with room become nodes with room. -/
theorem roomy_of_yields {style : BlockStyle} {segments : List Segment} {nodes : List Node}
    (yields : List.Forall₂ (Segment.Yields style) segments nodes)
    (roomy : ∀ segment ∈ segments, segment.Roomy) : ∀ node ∈ nodes, node.Roomy := by
  induction yields with
  | nil => simp
  | cons first _ ih =>
      rw [List.forall_mem_cons] at roomy ⊢
      refine ⟨?_, ih roomy.2⟩
      cases first with
      | literal => exact roomy.1.2
      | expression | block _ _ _ _ | directive => trivial

end Node

section Compile

variable {options : Options} {source : String}

/-- The nodes of a source that parses have room. -/
theorem Parse.roomy_of_ofText (succeeds : (Parse.ofText options source).failure = none) :
    ∀ node ∈ (Parse.ofText options source).nodes, node.Roomy := by
  obtain ⟨body, stop, segments, last, -, -, -, roomy, places⟩ := exists_places_of_ofText succeeds
  exact Node.roomy_of_yields places.yields roomy

theorem compile_of_failure {failure : ParseFailure}
    (fails : (Parse.ofText options source).failure = some failure) (name : String) :
    compile options source name = .error (.parse failure) := by
  simp only [compile, cleanNodes, Parse.result, fails]
  rfl

/-- A program comes from nodes that were parsed, cleaned and turned into instructions. -/
theorem exists_of_compile {name : String} {program : Program}
    (compiled : compile options source name = .ok program) :
    ∃ nodes cleaned, (Parse.ofText options source).result = .ok nodes ∧
      Node.clean nodes = .ok cleaned ∧ Instruction.ofNodes cleaned = .ok program.instructions := by
  simp only [compile, cleanNodes, bind, Except.bind] at compiled
  cases parsed : (Parse.ofText options source).result with
  | error failure => simp [parsed, Except.mapError] at compiled
  | ok nodes =>
      cases clean : Node.clean nodes with
      | error fault => simp [parsed, clean, Except.mapError] at compiled
      | ok cleaned =>
          cases generated : Instruction.ofNodes cleaned with
          | error fault => simp [parsed, clean, generated, Except.mapError] at compiled
          | ok instructions =>
              simp only [parsed, clean, generated, Except.mapError] at compiled
              cases compiled
              exact ⟨nodes, cleaned, rfl, clean, generated⟩

/-- A source that parses has a program, in which each of its nodes ends as it can. -/
theorem exists_compile (succeeds : (Parse.ofText options source).failure = none)
    (name : String) :
    ∃ outcomes, compile options source name =
        .ok ⟨name, outcomes.reduceOption, options.sink, options.debug⟩ ∧
      List.Forall₂ Node.Emits (Parse.ofText options source).nodes outcomes := by
  obtain ⟨cleaned, outcomes, clean, generated, emits⟩ :=
    Node.exists_cleanAfter none (Parse.roomy_of_ofText succeeds)
  refine ⟨outcomes, ?_, emits⟩
  simp only [compile, cleanNodes, Parse.result, succeeds, Except.mapError, Node.clean, clean,
    bind, Except.bind, generated]
  rfl

/-- A source without a program fails with the error of its parse. -/
theorem exists_failure_of_compile {name : String} {failure : CompileFailure}
    (fails : compile options source name = .error failure) :
    ∃ error, failure = .parse (.template error) ∧
      (Parse.ofText options source).failure = some (.template error) := by
  cases parsed : (Parse.ofText options source).failure with
  | none =>
      obtain ⟨outcomes, compiled, -⟩ := exists_compile parsed name
      cases compiled.symm.trans fails
  | some other =>
      obtain ⟨error, rfl⟩ := Parse.exists_template_of_failure parsed
      cases (compile_of_failure parsed name).symm.trans fails
      exact ⟨error, rfl, rfl⟩

end Compile

/-- Every explicit directive has a head: blanks, a name without blanks, and what
follows from the first blank on. -/
theorem Fragment.exists_explicitHead (code : List Char) :
    ∃ blanks, code = blanks ++ (explicitHead code).1.toList ++ (explicitHead code).2 ∧
      (∀ c ∈ blanks, Text.isBlank c = true) ∧
      (∀ c ∈ (explicitHead code).1.toList, Text.isBlank c = false) ∧
      ∀ c ∈ (explicitHead code).2.head?, Text.isBlank c = true := by
  obtain ⟨blanks, split, blank⟩ := Text.exists_trimStart code
  refine ⟨blanks, ?_, blank, ?_, ?_⟩
  · simp only [explicitHead, String.toList_ofList]
    rw [List.append_assoc, List.takeWhile_append_dropWhile]
    exact split
  · intro c present
    simp only [explicitHead, String.toList_ofList] at present
    simpa using List.all_eq_true.mp List.all_takeWhile c present
  · intro c first
    have stops := List.head?_dropWhile_not (fun c => !Text.isBlank c) (Text.trimStart code)
    simp only [explicitHead] at first
    rw [first] at stops
    simpa using stops

/-- A source has a program or an error of the template, of one of four kinds, and
nothing else can go wrong with it: no token is out of place or missing, no literal is
trimmed beyond its span, and every node has an instruction or none. The spans of a scan
and of a parse, which are built without a check, would pass it, and every explicit
directive has a head. -/
theorem compile_ok_or_template_error (options : Options) (source name : String) :
    ((∃ program, compile options source name = .ok program) ∨
      ∃ error, compile options source name = .error (.parse (.template error)) ∧
        error.kind ∈ ["UnterminatedDelimiter", "UnbalancedBlock", "UnknownDirective",
          "InvalidDirectiveArgs"]) ∧
    (∀ start length : Nat, Span.ofInts start (start + length) = .ok (.sized start length)) ∧
    (∀ first second : Span,
      Span.ofInts (min first.start second.start) (max first.stop second.stop) =
        .ok (first.cover second)) ∧
    ∀ code, ∃ blanks,
      code = blanks ++ (Fragment.explicitHead code).1.toList ++ (Fragment.explicitHead code).2 ∧
      (∀ c ∈ blanks, Text.isBlank c = true) ∧
      (∀ c ∈ (Fragment.explicitHead code).1.toList, Text.isBlank c = false) ∧
      ∀ c ∈ (Fragment.explicitHead code).2.head?, Text.isBlank c = true := by
  refine ⟨?_, Span.ofInts_sized, Span.ofInts_cover, Fragment.exists_explicitHead⟩
  cases parsed : (Parse.ofText options source).failure with
  | none =>
      obtain ⟨outcomes, compiled, -⟩ := exists_compile parsed name
      exact .inl ⟨_, compiled⟩
  | some failure =>
      obtain ⟨error, rfl⟩ := Parse.exists_template_of_failure parsed
      refine .inr ⟨error, compile_of_failure parsed name, ?_⟩
      cases error <;> simp [TemplateError.kind]

end Stencil
