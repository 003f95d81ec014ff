/-
# Output options decide output only

Of the options, four decide how a source is read: the delimiters, the block style, the
doubling of delimiters and the recognition of bare directives. The others set the modes
that a template starts with and what is passed through to the program. This module
compares two runs on one source whose options agree in the first four.

Both runs scan the same tokens and place the same segments, so they fail alike. Their
modes are changed by the same directives. The way expressions are written and the cleaning
mode go their own ways, neither depending on the other nor on the depth, and each of them
stays the same in both runs where the options start it off the same. What is left to
compare are the programs of nodes that are alike up to modes. Code has instructions that
cleaning cannot touch, and literals lose nothing to it but blanks.
-/

import Stencil.Proofs.Recognition
import Stencil.Proofs.Scope
import Stencil.Proofs.Tidiness

namespace Stencil

/-- Options under which every source is read in the same way. -/
structure Options.ReadAlike (first second : Options) : Prop where
  delimiters : second.delimiters = first.delimiters
  blockStyle : second.blockStyle = first.blockStyle
  doubling : second.doubling = first.doubling
  bareDirectives : second.bareDirectives = first.bareDirectives

section Reading

variable {first second : Options}

theorem Fragment.tokens_eq_of_readAlike (alike : first.ReadAlike second) (fragment : Fragment) :
    fragment.tokens second = fragment.tokens first := by
  simp only [tokens, alike.delimiters, alike.bareDirectives]

namespace Scan

theorem step_eq_of_readAlike (alike : first.ReadAlike second) (offset : Nat) (cs : List Char) :
    step second offset cs = step first offset cs := by
  simp only [step, alike.delimiters, alike.doubling, Fragment.tokens_eq_of_readAlike alike]

theorem scanFrom_eq_of_readAlike (alike : first.ReadAlike second) (offset : Nat)
    (cs : List Char) : scanFrom second offset cs = scanFrom first offset cs := by
  induction hsize : cs.length using Nat.strongRecOn generalizing offset cs with
  | ind size ih =>
      have same := step_eq_of_readAlike alike offset cs
      cases hstep : step first offset cs with
      | final batch => rw [scanFrom_of_final hstep, scanFrom_of_final (same.trans hstep)]
      | broken error => rw [scanFrom_of_broken hstep, scanFrom_of_broken (same.trans hstep)]
      | more batch rest =>
          rw [scanFrom_of_more hstep, scanFrom_of_more (same.trans hstep),
            ih _ (hsize ▸ length_lt_of_step_more hstep) batch.position rest rfl]

end Scan

/-- The two runs read the same segments and fail alike. -/
theorem Parse.exists_carries_of_readAlike (alike : first.ReadAlike second) (source : String) :
    ∃ segments, (Scan.ofText first source).Carries segments ∧
      (Scan.ofText second source).Carries segments ∧
      (ofText second source).failure = (ofText first source).failure := by
  have scans : Scan.ofText second source = Scan.ofText first source :=
    Scan.scanFrom_eq_of_readAlike alike 0 source.toList
  obtain ⟨segments, carries, -⟩ := Scan.exists_segments first 0 source.toList
  have carries' : (Scan.ofText second source).Carries segments := scans ▸ carries
  refine ⟨segments, carries, carries', ?_⟩
  have start : (Context.initial first).Alike (Context.initial second) := ⟨rfl, .nil⟩
  have recast : List.Forall₂ Segment.Recast segments segments :=
    List.forall₂_same.mpr fun segment _ => .same segment
  rw [ofText_eq_ofSegments carries, ofText_eq_ofSegments carries', scans, alike.blockStyle]
  exact (recast_ofSegments start first.blockStyle recast _).1

end Reading

/-- Modes that agree on how expressions are written, or on cleaning, where this is asked
for. -/
structure Modes.Agree (escapes cleans : Prop) (first second : Modes) : Prop where
  writing : escapes → second.writing = first.writing
  cleaning : cleans → second.cleaning = first.cleaning

/-- Nodes that differ at most in their modes, and not in those that are asked to agree. -/
inductive Node.Alike (escapes cleans : Prop) : Node → Node → Prop
  | literal (span : Span) (text : String) :
      Alike escapes cleans (.literal span text) (.literal span text)
  | expression (span : Span) (code : String) {escaping escaping' : Escaping}
      {escaper escaper' : Option String}
      (same : escapes → (escaping', escaper') = (escaping, escaper)) :
      Alike escapes cleans (.expression span code escaping escaper)
        (.expression span code escaping' escaper')
  | block {block block' : Block} (span : block'.span = block.span)
      (code : block'.code = block.code) (same : cleans → block'.cleaning = block.cleaning) :
      Alike escapes cleans (.block block) (.block block')
  | directive (span : Span) (name : String) (args : List String) {cleaning cleaning' : Cleaning}
      (same : cleans → cleaning' = cleaning) :
      Alike escapes cleans (.directive span name args cleaning)
        (.directive span name args cleaning')

section Placing

variable {escapes cleans : Prop}

/-- What a directive makes of the modes depends on what it changes and on nothing else. -/
theorem Modes.Agree.apply {first second : Modes} (agree : Agree escapes cleans first second)
    (directive : Directive) :
    Agree escapes cleans (first.apply directive) (second.apply directive) := by
  cases directive with
  | clean mode => exact ⟨agree.writing, fun _ => rfl⟩
  | escape policy function =>
      refine ⟨fun _ => ?_, fun asked => ?_⟩
      · by_cases on : policy = .auto
        · rw [on, writing_apply_auto, writing_apply_auto]
        · rw [writing_apply_off first on, writing_apply_off second on]
      · rw [cleaning_apply_escape, cleaning_apply_escape]
        exact agree.cleaning asked

theorem Modes.agree_initial (first second : Options) :
    Agree (first.autoescape = second.autoescape) (first.cleaning = second.cleaning)
      (initial first) (initial second) where
  writing same := by rw [writing_initial, writing_initial, same]
  cleaning same := same.symm

variable {style : BlockStyle} {first second : Context}

/-- A segment that is placed in contexts with modes that agree becomes nodes that are
alike, and the modes agree after it. -/
theorem Context.alike_of_place {segment : Segment} {node node' : Node} {next next' : Context}
    (agree : Modes.Agree escapes cleans first.modes second.modes)
    (placed : first.place style segment = .ok (node, next))
    (placed' : second.place style segment = .ok (node', next')) :
    Node.Alike escapes cleans node node' ∧
      Modes.Agree escapes cleans next.modes next'.modes := by
  cases segment with
  | text span value =>
      cases placed
      cases placed'
      exact ⟨.literal span value, agree⟩
  | expression span code =>
      cases placed
      cases placed'
      exact ⟨.expression span _ agree.writing, agree⟩
  | block span code =>
      obtain ⟨block, rfl, shaped⟩ := shaped_of_place_eq_ok placed
      obtain ⟨block', rfl, shaped'⟩ := shaped_of_place_eq_ok placed'
      obtain ⟨covers, trimmed, -, -⟩ := shaped.block_eq
      obtain ⟨covers', trimmed', -, -⟩ := shaped'.block_eq
      obtain ⟨shows, unchanged⟩ := shaped.modes_eq
      obtain ⟨shows', unchanged'⟩ := shaped'.modes_eq
      have after : Modes.Agree escapes cleans next.modes next'.modes := by
        rw [unchanged, unchanged']
        exact ⟨agree.writing, agree.cleaning⟩
      refine ⟨.block (covers'.trans covers.symm) (trimmed'.trans trimmed.symm) ?_, after⟩
      intro asked
      rw [shows, shows']
      exact after.cleaning asked
  | directive span name args =>
      obtain ⟨directive, meaning, rfl, rfl⟩ := interpret_of_place_eq_ok placed
      obtain ⟨directive', meaning', rfl, rfl⟩ := interpret_of_place_eq_ok placed'
      cases meaning.symm.trans meaning'
      have after := agree.apply directive
      exact ⟨.directive span name args after.cleaning, after⟩

/-- The same segments, placed one after the other, become nodes that are alike. -/
theorem Places.forall₂_alike {segments : List Segment} {nodes nodes' : List Node}
    {last last' : Context} (agree : Modes.Agree escapes cleans first.modes second.modes)
    (placed : Places style first segments nodes last)
    (placed' : Places style second segments nodes' last') :
    List.Forall₂ (Node.Alike escapes cleans) nodes nodes' := by
  induction placed generalizing second nodes' with
  | nil =>
      cases placed'
      exact .nil
  | cons here _ ih =>
      cases placed' with
      | cons here' further' =>
          obtain ⟨alike, after⟩ := Context.alike_of_place agree here here'
          exact .cons alike (ih after further')

/-- The nodes of the two runs are alike. -/
theorem Parse.alike_of_readAlike {first second : Options} (alike : first.ReadAlike second)
    {source : String} (succeeds : (ofText first source).failure = none)
    (succeeds' : (ofText second source).failure = none) :
    List.Forall₂
      (Node.Alike (first.autoescape = second.autoescape) (first.cleaning = second.cleaning))
      (ofText first source).nodes (ofText second source).nodes := by
  obtain ⟨segments, carries, carries', -⟩ := exists_carries_of_readAlike alike source
  obtain ⟨-, last, placed⟩ := exists_places_of_carries carries succeeds
  obtain ⟨-, last', placed'⟩ := exists_places_of_carries carries' succeeds'
  rw [alike.blockStyle] at placed'
  exact Places.forall₂_alike (Modes.agree_initial first second) placed placed'

end Placing

namespace Instruction

/-- Whether an instruction comes from code and not from literal text. -/
def isCode : Instruction → Bool
  | .literal _ _ => false
  | .expression _ _ _ _ | .raw _ _ => true

/-- An instruction without the way a value is written. -/
def unmarked : Instruction → Instruction
  | .literal text span => .literal text span
  | .expression code _ span _ => .expression code .raw span none
  | .raw code span => .raw code span

/-- The characters of literal text. -/
def characters : Instruction → List Char
  | .literal text _ => text.toList
  | .expression _ _ _ _ | .raw _ _ => []

/-- All literal text of instructions, without its blanks. -/
def solidText (instructions : List Instruction) : List Char :=
  (instructions.flatMap characters).filter fun c => !Text.isBlank c

theorem solidText_append (instructions others : List Instruction) :
    solidText (instructions ++ others) = solidText instructions ++ solidText others := by
  rw [solidText, List.flatMap_append, List.filter_append]
  rfl

end Instruction

namespace Node

/-- The instruction of a node that is code, if it has one. -/
def code : Node → List Instruction
  | .expression span code escaping escaper =>
    if code = "" then []
    else [.expression code escaping span (if escaping = .auto then escaper else none)]
  | .block placed => if placed.code = "" then [] else [.raw placed.code placed.span]
  | .literal _ _ | .directive _ _ _ _ | .placeholder _ => []

/-- The characters of a literal that are not blank. -/
def solid : Node → List Char
  | .literal _ text => text.toList.filter fun c => !Text.isBlank c
  | .expression _ _ _ _ | .block _ | .directive _ _ _ _ | .placeholder _ => []

section Emitting

variable {node : Node} {outcome : Option Instruction} {nodes : List Node}
  {outcomes : List (Option Instruction)}

/-- Cleaning has no part in the instruction of code. -/
theorem Emits.code_eq (emits : node.Emits outcome) :
    outcome.toList.filter Instruction.isCode = node.code := by
  cases emits with
  | text _ _ _ _ _ _ _ | blank _ | directive => rfl
  | expression nonempty | block nonempty => simp [code, nonempty, Instruction.isCode]
  | emptyExpression empty | emptyBlock empty => simp [code, empty]

private theorem filter_blanks {cs : List Char} (blank : ∀ c ∈ cs, Text.isBlank c = true) :
    cs.filter (fun c => !Text.isBlank c) = [] := by
  simpa [List.filter_eq_nil_iff] using blank

/-- What cleaning takes from a literal is blank. -/
theorem Emits.solid_eq (emits : node.Emits outcome) :
    Instruction.solidText outcome.toList = node.solid := by
  cases emits with
  | text front back split blank nonempty starts stops =>
      rw [List.forall_mem_append] at blank
      simp [Instruction.solidText, Instruction.characters, solid, split, filter_blanks blank.1,
        filter_blanks blank.2]
  | blank blank => exact (filter_blanks blank).symm
  | expression _ | emptyExpression _ | block _ | emptyBlock _ | directive => rfl

private theorem reduceOption_cons (outcome : Option Instruction)
    (outcomes : List (Option Instruction)) :
    (outcome :: outcomes).reduceOption = outcome.toList ++ outcomes.reduceOption := by
  cases outcome <;> rfl

theorem filter_isCode_of_emits (emits : List.Forall₂ Emits nodes outcomes) :
    outcomes.reduceOption.filter Instruction.isCode = nodes.flatMap code := by
  induction emits with
  | nil => rfl
  | cons here _ ih =>
      rw [reduceOption_cons, List.filter_append, here.code_eq, ih, List.flatMap_cons]

theorem solidText_of_emits (emits : List.Forall₂ Emits nodes outcomes) :
    Instruction.solidText outcomes.reduceOption = nodes.flatMap solid := by
  induction emits with
  | nil => rfl
  | cons here _ ih =>
      rw [reduceOption_cons, Instruction.solidText_append, here.solid_eq, ih, List.flatMap_cons]

end Emitting

/-- A node without the way it is written and without its place among the blocks. -/
def unmarked : Node → Node
  | .expression span code _ _ => .expression span code .raw none
  | .block placed =>
    .block { span := placed.span, code := placed.code, cleaning := placed.cleaning }
  | .literal span text => .literal span text
  | .directive span name args cleaning => .directive span name args cleaning
  | .placeholder span => .placeholder span

section Unmarked

variable {previous next : Option Node} {node : Node} {nodes cleaned : List Node}

theorem isExpression_unmarked (node : Node) : node.unmarked.isExpression = node.isExpression := by
  cases node <;> rfl

theorem cleansBeside_unmarked (node : Node) : node.unmarked.cleansBeside = node.cleansBeside := by
  cases node <;> rfl

/-- Cleaning looks at no marks, and leaves them as they are. -/
theorem cleanBetween_unmarked {outcome : Option Node}
    (clean : cleanBetween previous node next = .ok outcome) :
    cleanBetween (previous.map unmarked) node.unmarked (next.map unmarked) =
      .ok (outcome.map unmarked) := by
  cases node with
  | literal span text =>
      have same (side : Option Node) :
          (side.map unmarked).any isExpression = side.any isExpression ∧
            (side.map unmarked).any cleansBeside = side.any cleansBeside := by
        cases side with
        | none => exact ⟨rfl, rfl⟩
        | some node => exact ⟨isExpression_unmarked node, cleansBeside_unmarked node⟩
      have unchanged : outcome.map unmarked = outcome := by
        rcases cases_of_cleanBetween clean with ⟨other, -⟩ | ⟨-, rfl | ⟨kept, rfl, literal, -⟩⟩
        · cases other
        · rfl
        · cases kept with
          | literal span text => rfl
          | expression _ _ _ _ | block _ | directive _ _ _ _ | placeholder _ => cases literal
      rw [unchanged, ← clean]
      simp only [cleanBetween, unmarked, same]
  | expression _ _ _ _ | block _ | directive _ _ _ _ | placeholder _ =>
      cases clean
      rfl

theorem cleanAfter_unmarked (clean : cleanAfter previous nodes = .ok cleaned) :
    cleanAfter (previous.map unmarked) (nodes.map unmarked) = .ok (cleaned.map unmarked) := by
  induction nodes generalizing previous cleaned with
  | nil =>
      cases clean
      rfl
  | cons node rest ih =>
      obtain ⟨first, others, here, further, rfl⟩ := cleanAfter_cons_eq_ok.mp clean
      refine cleanAfter_cons_eq_ok.mpr ⟨first.map unmarked, others.map unmarked, ?_, ih further, ?_⟩
      · rw [List.head?_map]
        exact cleanBetween_unmarked here
      · cases first <;> simp

theorem ofNode_unmarked {outcome : Option Instruction}
    (emitted : Instruction.ofNode node = .ok outcome) :
    Instruction.ofNode node.unmarked = .ok (outcome.map Instruction.unmarked) := by
  cases node with
  | placeholder span => cases emitted
  | directive span name args cleaning =>
      cases emitted
      rfl
  | literal span text | expression span text _ _ =>
      cases emitted
      by_cases empty : text = ""
      · simp [unmarked, Instruction.ofNode, empty]
      · simp [unmarked, Instruction.ofNode, empty, Instruction.unmarked]
  | block placed =>
      cases emitted
      by_cases empty : placed.code = ""
      · simp [unmarked, Instruction.ofNode, empty]
      · simp [unmarked, Instruction.ofNode, empty, Instruction.unmarked]

theorem ofNodes_unmarked {instructions : List Instruction}
    (generated : Instruction.ofNodes nodes = .ok instructions) :
    Instruction.ofNodes (nodes.map unmarked) = .ok (instructions.map Instruction.unmarked) := by
  induction nodes generalizing instructions with
  | nil =>
      cases generated
      rfl
  | cons node rest ih =>
      obtain ⟨first, others, here, further, rfl⟩ := Instruction.ofNodes_cons_eq_ok.mp generated
      refine Instruction.ofNodes_cons_eq_ok.mpr ⟨_, _, ofNode_unmarked here, ih further, ?_⟩
      cases first <;> simp

end Unmarked

section Alike

variable {escapes cleans : Prop} {first second : Node} {nodes others : List Node}

theorem Alike.solid_eq (alike : Alike escapes cleans first second) :
    second.solid = first.solid := by
  cases alike <;> rfl

theorem Alike.code_eq (alike : Alike escapes cleans first second) (asked : escapes) :
    second.code = first.code := by
  cases alike with
  | literal | directive => rfl
  | expression span text same =>
      cases same asked
      rfl
  | block span text same => simp only [code, span, text]

theorem Alike.map_unmarked_code (alike : Alike escapes cleans first second) :
    second.code.map Instruction.unmarked = first.code.map Instruction.unmarked := by
  cases alike with
  | literal | directive => rfl
  | expression span text same =>
      simp only [code]
      split <;> rfl
  | block span text same => simp only [code, span, text]

theorem Alike.unmarked_eq (alike : Alike escapes cleans first second) (asked : cleans) :
    second.unmarked = first.unmarked := by
  cases alike with
  | literal | expression => rfl
  | block span text same => simp only [unmarked, span, text, same asked]
  | directive span name args same => rw [same asked]

/-- What is the same for any two nodes that are alike is the same for lists of them. -/
theorem map_eq_of_alike {β : Type} {f : Node → β}
    (alike : List.Forall₂ (Alike escapes cleans) nodes others)
    (same : ∀ {first second}, Alike escapes cleans first second → f second = f first) :
    others.map f = nodes.map f := by
  induction alike with
  | nil => rfl
  | cons here _ ih => rw [List.map_cons, List.map_cons, same here, ih]

theorem flatMap_eq_of_alike {β : Type} {f : Node → List β}
    (alike : List.Forall₂ (Alike escapes cleans) nodes others)
    (same : ∀ {first second}, Alike escapes cleans first second → f second = f first) :
    others.flatMap f = nodes.flatMap f := by
  rw [List.flatMap_def, List.flatMap_def, map_eq_of_alike alike same]

end Alike

end Node

section Compile

variable {options first second : Options} {source name : String} {program program' : Program}

/-- The code of a program and its literal text up to blanks are those of its nodes, before
cleaning. -/
theorem code_and_text_of_compile (compiled : compile options source name = .ok program) :
    (Parse.ofText options source).failure = none ∧
      program.instructions.filter Instruction.isCode =
        (Parse.ofText options source).nodes.flatMap Node.code ∧
      Instruction.solidText program.instructions =
        (Parse.ofText options source).nodes.flatMap Node.solid := by
  obtain ⟨_, _, result, -, -⟩ := exists_of_compile compiled
  obtain ⟨parsed, -⟩ := Parse.result_eq_ok.mp result
  obtain ⟨outcomes, compiled', emits⟩ := exists_compile parsed name
  cases compiled.symm.trans compiled'
  exact ⟨parsed, Node.filter_isCode_of_emits emits, Node.solidText_of_emits emits⟩

/-- Programs of nodes that differ in marks only do so too. -/
theorem map_unmarked_of_compile
    (same : (Parse.ofText second source).nodes.map Node.unmarked =
      (Parse.ofText first source).nodes.map Node.unmarked)
    (compiled : compile first source name = .ok program)
    (compiled' : compile second source name = .ok program') :
    program'.instructions.map Instruction.unmarked =
      program.instructions.map Instruction.unmarked := by
  obtain ⟨_, cleaned, result, clean, generated⟩ := exists_of_compile compiled
  obtain ⟨_, cleaned', result', clean', generated'⟩ := exists_of_compile compiled'
  obtain ⟨-, rfl⟩ := Parse.result_eq_ok.mp result
  obtain ⟨-, rfl⟩ := Parse.result_eq_ok.mp result'
  have cleanUnmarked := Node.cleanAfter_unmarked clean
  have cleanUnmarked' := Node.cleanAfter_unmarked clean'
  rw [same, cleanUnmarked] at cleanUnmarked'
  have madeUnmarked := Node.ofNodes_unmarked generated
  have madeUnmarked' := Node.ofNodes_unmarked generated'
  rw [← Except.ok.inj cleanUnmarked', madeUnmarked] at madeUnmarked'
  exact (Except.ok.inj madeUnmarked').symm

theorem compile_eq_error_iff_of_readAlike (alike : first.ReadAlike second)
    (failure : CompileFailure) :
    compile first source name = .error failure ↔ compile second source name = .error failure := by
  obtain ⟨-, -, -, fails⟩ := Parse.exists_carries_of_readAlike alike source
  cases parsed : (Parse.ofText first source).failure with
  | some failure =>
      rw [compile_of_failure parsed, compile_of_failure (fails.trans parsed)]
  | none =>
      obtain ⟨outcomes, compiled, -⟩ := exists_compile parsed name
      obtain ⟨outcomes', compiled', -⟩ := exists_compile (fails.trans parsed) name
      simp [compiled, compiled']

end Compile

/-- Options that agree on how a source is read compile it alike. It fails under both with
the same error or under neither. The code in the two programs is the same, up to the way
expressions are written, and that is the same if autoescaping is. If the cleaning mode is
the same then so are literal text and its places in the code. In any case literal text
differs in blanks only. -/
theorem output_options_keep_structure (first second : Options) (source name : String)
    (alike : first.ReadAlike second) :
    (∀ failure, compile first source name = .error failure ↔
      compile second source name = .error failure) ∧
    ∀ program program', compile first source name = .ok program →
      compile second source name = .ok program' →
        (program'.instructions.filter Instruction.isCode).map Instruction.unmarked =
          (program.instructions.filter Instruction.isCode).map Instruction.unmarked ∧
        (first.autoescape = second.autoescape →
          program'.instructions.filter Instruction.isCode =
            program.instructions.filter Instruction.isCode) ∧
        (first.cleaning = second.cleaning →
          program'.instructions.map Instruction.unmarked =
            program.instructions.map Instruction.unmarked) ∧
        Instruction.solidText program'.instructions =
          Instruction.solidText program.instructions := by
  refine ⟨compile_eq_error_iff_of_readAlike alike, ?_⟩
  intro program program' compiled compiled'
  obtain ⟨parsed, code, solid⟩ := code_and_text_of_compile compiled
  obtain ⟨parsed', code', solid'⟩ := code_and_text_of_compile compiled'
  have nodes := Parse.alike_of_readAlike alike parsed parsed'
  rw [code, code', solid, solid']
  refine ⟨?_, fun same => ?_, fun same => ?_, ?_⟩
  · rw [List.map_flatMap, List.map_flatMap]
    exact Node.flatMap_eq_of_alike nodes Node.Alike.map_unmarked_code
  · exact Node.flatMap_eq_of_alike nodes fun alike => alike.code_eq same
  · have unmarked := Node.map_eq_of_alike nodes fun alike => alike.unmarked_eq same
    exact map_unmarked_of_compile unmarked compiled compiled'
  · exact Node.flatMap_eq_of_alike nodes Node.Alike.solid_eq

/-- Four options differ. One literal is in the first program only, two are shorter in the
second, and of two expressions one is written differently. -/
theorem output_options_keep_structure_overridden :
    let first : Options := {}
    let second : Options := { cleaning := .block, autoescape := false, sink := "w", debug := true }
    let source := "a <# if x #> \n<#= y #><# escape on #><#= z #>\n<# end #> <# f() #> b"
    first.ReadAlike second ∧
    ∃ program program', compile first source "<template>" = .ok program ∧
      compile second source "<template>" = .ok program' ∧
      program'.instructions.length < program.instructions.length ∧
      (program'.instructions.filter Instruction.isCode).map Instruction.unmarked =
        (program.instructions.filter Instruction.isCode).map Instruction.unmarked ∧
      Instruction.solidText program'.instructions =
        Instruction.solidText program.instructions := by
  intro first second source
  have alike : first.ReadAlike second := ⟨rfl, rfl, rfl, rfl⟩
  have compiled : compile first source "<template>" = .ok ⟨"<template>",
      [.literal "a " (Span.sized 0 2), .raw "if x" (Span.sized 2 10),
        .literal " \n" (Span.sized 12 2), .expression "y" .auto (Span.sized 14 8) none,
        .expression "z" .auto (Span.sized 37 8) none, .literal "\n" (Span.sized 45 1),
        .raw "end" (Span.sized 46 9), .literal " " (Span.sized 55 1),
        .raw "f()" (Span.sized 56 9), .literal " b" (Span.sized 65 2)], "_out", false⟩ := by
    decide +kernel
  have compiled' : compile second source "<template>" = .ok ⟨"<template>",
      [.literal "a" (Span.sized 0 1), .raw "if x" (Span.sized 2 10),
        .literal " \n" (Span.sized 12 2), .expression "y" .raw (Span.sized 14 8) none,
        .expression "z" .auto (Span.sized 37 8) none, .literal "\n" (Span.sized 45 1),
        .raw "end" (Span.sized 46 9), .raw "f()" (Span.sized 56 9),
        .literal "b" (Span.sized 66 1)], "w", true⟩ := by
    decide +kernel
  obtain ⟨code, -, -, solid⟩ :=
    (output_options_keep_structure first second source "<template>" alike).2 _ _ compiled compiled'
  exact ⟨alike, _, _, compiled, compiled', by decide, code, solid⟩

end Stencil
