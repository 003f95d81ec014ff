/-
# The lines of the views

The parts view has an entry for each node and a listing one for each instruction, and entries
stand one below the other. Whether an entry is one line depends on what stands in it. Texts are
quoted, and what a directive or a sink is called cannot have a line break in it, since names and
words have none. Code is shown as it is. So the views have a line for each entry, and one more for
each line break in the code of a template: `linesOf_joinLines` is for the case without any,
`length_linesOf_joinLines` for all cases.
-/

import Stencil.Proofs.Quoting
import Stencil.Proofs.Showing
import Stencil.Proofs.Spelling
import Stencil.Proofs.Transitions

namespace Stencil

namespace Text

/-- The lines of a text. A text without characters has none. -/
def linesOf (text : String) : List String :=
  if text = "" then [] else (text.toList.splitOn '\n').map String.ofList

theorem toList_joinLines (lines : List String) :
    (joinLines lines).toList = ['\n'].intercalate (lines.map String.toList) :=
  String.toList_intercalate

theorem joinLines_ne_empty {first : String} (solid : first ≠ "") (others : List String) :
    joinLines (first :: others) ≠ "" := by
  intro empty
  have none := congrArg String.toList empty
  cases others with
  | nil => exact solid (by simpa [toList_joinLines] using none)
  | cons next rest => simp [toList_joinLines] at none

/-- Lines without a line break that are put one below the other are the lines of the text. -/
theorem linesOf_joinLines {lines : List String} (solid : "" ∉ lines)
    (unbroken : ∀ line ∈ lines, '\n' ∉ line.toList) : linesOf (joinLines lines) = lines := by
  cases lines with
  | nil => rfl
  | cons first others =>
      have first_ne : first ≠ "" := fun empty => solid (empty ▸ List.mem_cons_self)
      rw [linesOf, if_neg (joinLines_ne_empty first_ne others), toList_joinLines,
        List.splitOn_intercalate]
      · simp
      · simpa using unbroken
      · simp

theorem count_joinLines (first : String) (others : List String) :
    (joinLines (first :: others)).toList.count '\n' =
      others.length + ((first :: others).map fun line => line.toList.count '\n').sum := by
  induction others generalizing first with
  | nil => simp [toList_joinLines]
  | cons next rest ih =>
      have joined := ih next
      rw [toList_joinLines] at joined ⊢
      simp only [List.map_cons, List.intercalate_cons_cons, List.count_append] at joined ⊢
      rw [joined]
      simp
      omega

/-- There is a line for each entry, and one for each line break in an entry. -/
theorem length_linesOf_joinLines {lines : List String} (solid : "" ∉ lines) :
    (linesOf (joinLines lines)).length =
      lines.length + (lines.map fun line => line.toList.count '\n').sum := by
  cases lines with
  | nil => rfl
  | cons first others =>
      have first_ne : first ≠ "" := fun empty => solid (empty ▸ List.mem_cons_self)
      rw [linesOf, if_neg (joinLines_ne_empty first_ne others), List.length_map,
        LineTable.length_splitOn, count_joinLines, List.length_cons]
      omega

/-- A text that shows a piece of code as it is, with no line break round it. -/
def Frames (text code : String) : Prop :=
  ∃ front back, text.toList = front ++ code.toList ++ back ∧ '\n' ∉ front ∧ '\n' ∉ back

namespace Frames

variable {text code : String}

theorem self (code : String) : Frames code code :=
  ⟨[], [], by simp, List.not_mem_nil, List.not_mem_nil⟩

/-- A text without a line break, which shows no code. -/
theorem of_not_mem (unbroken : '\n' ∉ text.toList) : Frames text "" :=
  ⟨text.toList, [], by simp, unbroken, List.not_mem_nil⟩

theorem prepend (frames : Frames text code) {left : String} (unbroken : '\n' ∉ left.toList) :
    Frames (left ++ text) code := by
  obtain ⟨front, back, split, absent, absent'⟩ := frames
  refine ⟨left.toList ++ front, back, ?_, ?_, absent'⟩
  · rw [String.toList_append, split]
    simp only [List.append_assoc]
  · rw [List.mem_append]
    exact not_or.mpr ⟨unbroken, absent⟩

theorem append (frames : Frames text code) {right : String} (unbroken : '\n' ∉ right.toList) :
    Frames (text ++ right) code := by
  obtain ⟨front, back, split, absent, absent'⟩ := frames
  refine ⟨front, back ++ right.toList, ?_, absent, ?_⟩
  · rw [String.toList_append, split]
    simp only [List.append_assoc]
  · rw [List.mem_append]
    exact not_or.mpr ⟨absent', unbroken⟩

/-- Its line breaks are those of the code. -/
theorem count_eq (frames : Frames text code) :
    text.toList.count '\n' = code.toList.count '\n' := by
  obtain ⟨front, back, split, absent, absent'⟩ := frames
  rw [split, List.count_append, List.count_append, List.count_eq_zero.mpr absent,
    List.count_eq_zero.mpr absent', Nat.zero_add, Nat.add_zero]

end Frames

/-- Entries that show code and no other line break have a line each and one more for every line
break in the code. So they are the lines of the text exactly if there is none. -/
theorem linesOf_entries {α : Type} {Entry : α → String → Prop} {code : α → String}
    {items : List α} {lines : List String}
    (shows : ∀ item ∈ items, ∀ line, Entry item line → Frames line (code item) ∧ line ≠ "")
    (entries : List.Forall₂ Entry items lines) :
    (linesOf (joinLines lines)).length =
        items.length + (items.map fun item => (code item).toList.count '\n').sum ∧
      (List.Forall₂ Entry items (linesOf (joinLines lines)) ↔
        ∀ item ∈ items, '\n' ∉ (code item).toList) ∧
      (joinLines lines = "" ↔ items = []) := by
  obtain ⟨solid, counts⟩ : "" ∉ lines ∧ lines.map (fun line => line.toList.count '\n') =
      items.map fun item => (code item).toList.count '\n' := by
    induction entries with
    | nil => simp
    | cons entry _ ih =>
        obtain ⟨frames, nonempty⟩ := shows _ List.mem_cons_self _ entry
        obtain ⟨solid, counts⟩ := ih fun item listed => shows item (List.mem_cons_of_mem _ listed)
        rw [List.mem_cons, not_or, List.map_cons, List.map_cons, frames.count_eq, counts]
        exact ⟨⟨nonempty.symm, solid⟩, rfl⟩
  have length : (linesOf (joinLines lines)).length =
      items.length + (items.map fun item => (code item).toList.count '\n').sum := by
    rw [length_linesOf_joinLines solid, entries.length_eq, counts]
  refine ⟨length, ⟨?_, ?_⟩, ?_⟩
  · intro each item listed
    -- As many lines as entries leave no room for a line break in one of them.
    have one := each.length_eq
    have none : (items.map fun item => (code item).toList.count '\n').sum = 0 := by omega
    rw [List.sum_eq_zero_iff_forall_eq_nat, List.forall_mem_map] at none
    exact List.count_eq_zero.mp (none item listed)
  · intro unbroken
    rw [linesOf_joinLines solid]
    · exact entries
    · have none : ∀ count ∈ lines.map (fun line => line.toList.count '\n'), count = 0 := by
        rw [counts, List.forall_mem_map]
        exact fun item listed => List.count_eq_zero.mpr (unbroken item listed)
      rw [List.forall_mem_map] at none
      exact fun line listed => List.count_eq_zero.mp (none line listed)
  · cases entries with
    | nil => simp [joinLines]
    | cons _ _ =>
        rw [List.mem_cons, not_or] at solid
        simp [joinLines_ne_empty (Ne.symm solid.1)]

/-- What is neither in the texts nor in what stands between them is not in the whole. -/
theorem not_mem_intercalate {c : Char} {separator : String} {texts : List String}
    (apart : c ∉ separator.toList) (absent : ∀ text ∈ texts, c ∉ text.toList) :
    c ∉ (separator.intercalate texts).toList := by
  induction texts with
  | nil => simp
  | cons first others ih =>
      rw [List.forall_mem_cons] at absent
      cases others with
      | nil => simpa using absent.1
      | cons next rest =>
          rw [String.intercalate_cons_cons, String.toList_append, String.toList_append,
            List.mem_append, List.mem_append, not_or, not_or]
          exact ⟨⟨absent.1, apart⟩, ih absent.2⟩

/-- The characters at which a reader may break a line. -/
def lineBreaks : List Char :=
  ['\n', '\r', '\x0b', '\x0c', '\x1c', '\x1d', '\x1e', '\u0085', '\u2028', '\u2029']

variable {c : Char}

theorem unused_of_mem_lineBreaks (breaks : c ∈ lineBreaks) : Directive.Unused c := by
  simp only [lineBreaks, List.mem_cons, List.not_mem_nil, or_false] at breaks
  rcases breaks with rfl | rfl | rfl | rfl | rfl | rfl | rfl | rfl | rfl | rfl <;>
    exact ⟨by decide, by decide, by decide +kernel, by decide +kernel, by decide, by decide,
      by decide⟩

/-- What can be printed has no line break in it. -/
theorem not_mem_of_isPrintable (breaks : c ∈ lineBreaks) {text : String}
    (printable : ∀ d ∈ text.toList, isPrintable d = true) : c ∉ text.toList := by
  intro present
  have none : lineBreaks.all (fun c => !isPrintable c) = true := by decide +kernel
  have hidden := List.all_eq_true.mp none c breaks
  rw [printable c present] at hidden
  cases hidden

theorem not_mem_quoted (breaks : c ∈ lineBreaks) (text : String) : c ∉ (quoted text).toList :=
  not_mem_of_isPrintable breaks fun _ => isPrintable_of_mem_quoted

end Text

namespace Node

/-- Nothing but texts and code in a node has the given character in it. -/
def Clear (c : Char) : Node → Prop
  | .expression _ _ _ escaper => ∀ function ∈ escaper, c ∉ function.toList
  | .directive _ name args _ => ∀ word ∈ name :: args, c ∉ word.toList
  | .literal _ _ | .block _ | .placeholder _ => True

theorem Clear.cleanBetween {c : Char} {previous next : Option Node} {node kept : Node}
    (cleaned : cleanBetween previous node next = .ok (some kept)) (clear : node.Clear c) :
    kept.Clear c := by
  rcases cases_of_cleanBetween cleaned with ⟨-, same⟩ | ⟨-, gone | ⟨left, same, literal, -⟩⟩
  · cases same
    exact clear
  · cases gone
  · cases same
    cases kept with
    | literal _ _ => trivial
    | expression _ _ _ _ | block _ | directive _ _ _ _ | placeholder _ => cases literal

end Node

section Clear

variable {c : Char} {style : BlockStyle} {context next last : Context} {segment : Segment}
  {node : Node} {segments : List Segment} {nodes : List Node}

/-- A function that a directive sets is one of its words. -/
theorem Modes.not_mem_escaper_apply {modes : Modes} {name : String} {args : List String}
    {directive : Directive} (clear : ∀ function ∈ modes.escaper, c ∉ function.toList)
    (meaning : Directive.interpret name args = .ok directive)
    (absent : ∀ word ∈ name :: args, c ∉ word.toList) :
    ∀ function ∈ (modes.apply directive).escaper, c ∉ function.toList := by
  rcases Directive.cases_of_interpret meaning with
    ⟨rfl, mode, rfl⟩ | ⟨rfl, ⟨given, rfl⟩ | rfl⟩
  · exact clear
  · intro function (named : given = some function)
    rw [named] at meaning
    obtain ⟨rfl, -⟩ := Directive.function_of_interpret meaning
    have word := absent (Directive.functionKey ++ function) (by simp)
    rw [String.toList_append, List.mem_append, not_or] at word
    exact word.2
  · intro function named
    simp only [Modes.apply] at named
    split at named
    · exact clear function named
    · cases named

/-- Placing a segment makes a clear node, and the function in force stays clear. -/
theorem Context.clear_of_place (unused : Directive.Unused c)
    (clear : ∀ function ∈ context.modes.escaper, c ∉ function.toList)
    (placed : context.place style segment = .ok (node, next)) :
    node.Clear c ∧ ∀ function ∈ next.modes.escaper, c ∉ function.toList := by
  cases segment with
  | text span value =>
      cases placed
      exact ⟨trivial, clear⟩
  | expression span code =>
      cases placed
      refine ⟨?_, clear⟩
      intro function named
      rw [Modes.activeEscaper] at named
      split at named
      · exact clear function named
      · cases named
  | block span code =>
      obtain ⟨block, rfl, shaped⟩ := Context.shaped_of_place_eq_ok placed
      refine ⟨trivial, ?_⟩
      rw [(Context.Shaped.modes_eq shaped).2]
      exact clear
  | directive span name args =>
      obtain ⟨directive, meaning, rfl, rfl⟩ := Context.interpret_of_place_eq_ok placed
      have absent := Directive.not_mem_of_interpret unused meaning
      exact ⟨absent, Modes.not_mem_escaper_apply clear meaning absent⟩

theorem Places.clear (unused : Directive.Unused c)
    (clear : ∀ function ∈ context.modes.escaper, c ∉ function.toList)
    (places : Places style context segments nodes last) : ∀ node ∈ nodes, node.Clear c := by
  induction places with
  | nil => simp
  | cons placed _ ih =>
      obtain ⟨here, later⟩ := Context.clear_of_place unused clear placed
      exact List.forall_mem_cons.mpr ⟨here, ih later⟩

/-- The nodes of a source are clear, before and after cleaning. -/
theorem clear_of_cleanNodes {options : Options} {source : String} (unused : Directive.Unused c)
    (cleaned : cleanNodes options source = .ok nodes) : ∀ node ∈ nodes, node.Clear c := by
  obtain ⟨parsed, parses, cleans⟩ := cleanNodes_eq_ok_iff.mp cleaned
  obtain ⟨succeeds, rfl⟩ := Parse.result_eq_ok.mp parses
  obtain ⟨_, _, segments, last, -, -, -, -, places⟩ := Parse.exists_places_of_ofText succeeds
  refine Node.forall_mem_cleanAfter Node.Clear.cleanBetween cleans ?_
  exact places.clear unused (by simp [Context.initial, Modes.initial])

end Clear

namespace View

variable {c : Char} {node : Node}

/-- The code that a node shows as it is. -/
def codeOf : Node → String
  | .expression _ code _ _ => code
  | .block placed => placed.code
  | .literal _ _ | .directive _ _ _ _ | .placeholder _ => ""

/-- In the parts view a node shows its code, and no line break besides. -/
theorem frames_partLabel {label : String} (clear : node.Clear '\n')
    (labels : partLabel node = some label) : Text.Frames label (codeOf node) := by
  cases node with
  | literal span text =>
      cases labels
      apply Text.Frames.prepend (.of_not_mem (Text.not_mem_quoted (by decide) text))
      decide
  | expression span code escaping escaper =>
      cases labels
      apply Text.Frames.prepend (.self code)
      have word : '\n' ∉ escaping.word.toList := by cases escaping <;> decide
      simp only [toString, String.toList_append, List.mem_append, not_or]
      refine ⟨⟨by decide, ?_⟩, by decide⟩
      split
      · exact word
      · exact word
      · simp only [String.toList_append, List.mem_append, not_or]
        exact ⟨⟨word, by decide⟩, clear _ rfl⟩
  | block placed =>
      cases labels
      apply Text.Frames.prepend (.self placed.code)
      have word : '\n' ∉ placed.role.word.toList := by cases placed.role <;> decide
      simp only [String.toList_append, List.mem_append, not_or]
      exact ⟨⟨⟨⟨by decide, word⟩, by decide⟩, Text.not_mem_toString _⟩, by decide⟩
  | directive span name args cleaning =>
      cases labels
      apply Text.Frames.prepend (.of_not_mem (Text.not_mem_intercalate (by decide) clear))
      decide
  | placeholder span => cases labels

/-- The line of a node in the parts view does so too. -/
theorem PartLine.frames {source line : String} (clear : node.Clear '\n')
    (partLine : PartLine source node line) : Text.Frames line (codeOf node) ∧ line ≠ "" := by
  obtain ⟨location, label, -, labels, rfl⟩ := partLine
  constructor
  · apply (frames_partLabel clear labels).prepend
    rw [String.toList_append, List.mem_append, not_or]
    exact ⟨Location.not_mem_describe location, by decide⟩
  · simp [toString]

/-- The code that an instruction shows as it is. -/
def codeShown : Instruction → String
  | .literal _ _ => ""
  | .expression code _ _ _ => code
  | .raw code _ => code

/-- The function of an instruction, if it has any, has no line break in its name. -/
def ClearInstruction : Instruction → Prop
  | .expression _ _ _ escaper => ∀ function ∈ escaper, '\n' ∉ function.toList
  | .literal _ _ | .raw _ _ => True

theorem clear_of_ofNode {instruction : Instruction}
    (emitted : Instruction.ofNode node = .ok (some instruction)) (clear : node.Clear '\n') :
    ClearInstruction instruction := by
  cases node with
  | literal span text | block block =>
      simp only [Instruction.ofNode] at emitted
      split at emitted
      · cases emitted
      · cases emitted
        trivial
  | expression span code escaping escaper =>
      simp only [Instruction.ofNode] at emitted
      split at emitted
      · cases emitted
      · cases emitted
        intro function named
        split at named
        · exact clear function named
        · cases named
  | directive _ _ _ _ | placeholder _ => cases emitted

/-- A statement shows the code of its instruction, and no line break besides. -/
theorem frames_statement {instruction : Instruction} {sink : String}
    (clear : ClearInstruction instruction) (single : '\n' ∉ sink.toList) :
    Text.Frames (instruction.statement sink) (codeShown instruction) := by
  cases instruction with
  | literal text span =>
      apply Text.Frames.append _ (by decide)
      apply Text.Frames.of_not_mem
      simp only [String.toList_append, List.mem_append, not_or]
      exact ⟨⟨single, by decide⟩, Text.not_mem_quoted (by decide) text⟩
  | expression code escaping span escaper =>
      have called {method : String} (unbroken : '\n' ∉ method.toList) :
          Text.Frames (sink ++ method ++ code ++ ")") code := by
        apply Text.Frames.append _ (by decide)
        apply Text.Frames.prepend (.self code)
        rw [String.toList_append, List.mem_append, not_or]
        exact ⟨single, unbroken⟩
      cases escaping with
      | raw => exact called (by decide)
      | auto =>
          simp only [Instruction.statement]
          split
          · exact called (by decide)
          · exact called (by decide)
          · rename_i function _
            apply Text.Frames.append _ (by decide)
            apply Text.Frames.prepend (.self code)
            simp only [String.toList_append, List.mem_append, not_or]
            exact ⟨⟨⟨single, by decide⟩, clear function rfl⟩, by decide⟩
  | raw code span => exact .self code

/-- The line of an instruction in a listing does so too, if the template has a name of one
line. -/
theorem ListingLine.frames {source line : String} {program : Program} {instruction : Instruction}
    (clear : ClearInstruction instruction) (single : '\n' ∉ program.sink.toList)
    (named : '\n' ∉ program.name.toList)
    (listingLine : ListingLine source program instruction line) :
    Text.Frames line (codeShown instruction) ∧ line ≠ "" := by
  obtain ⟨location, -, rfl⟩ := listingLine
  constructor
  · apply Text.Frames.append _ (Location.not_mem_describe location)
    apply Text.Frames.append _ (by decide)
    apply Text.Frames.append _ named
    exact (frames_statement clear single).append (by decide)
  · simp [toString]

end View

/-- A program has the name it was given and the sink of the options. -/
theorem name_and_sink_of_compile {options : Options} {source name : String} {program : Program}
    (compiled : compile options source name = .ok program) :
    program.name = name ∧ program.sink = options.sink := by
  cases parsed : (Parse.ofText options source).failure with
  | none =>
      obtain ⟨outcomes, compiles, -⟩ := exists_compile parsed name
      cases compiled.symm.trans compiles
      exact ⟨rfl, rfl⟩
  | some failure => cases (compile_of_failure parsed name).symm.trans compiled

/-- The parts view has a line for each node exactly if no code of the template has a line break
in it, and so has a listing a line for each instruction, which ends with the name of the template
and the location. In any case there is one line more for each such line break. -/
theorem views_break_with_code {options : Options} {source name : String} {program : Program}
    (compiled : compile options source name = .ok program) :
    ∃ nodes parts listing, cleanNodes options source = .ok nodes ∧
      View.parts nodes source = .ok parts ∧ View.locatedListing program source = .ok listing ∧
      program.name = name ∧
      ((Text.linesOf parts).length = nodes.length +
          (nodes.map fun node => (View.codeOf node).toList.count '\n').sum ∧
        (List.Forall₂ (View.PartLine source) nodes (Text.linesOf parts) ↔
          ∀ node ∈ nodes, '\n' ∉ (View.codeOf node).toList) ∧
        (parts = "" ↔ nodes = [])) ∧
      ('\n' ∉ name.toList →
        (Text.linesOf listing).length = program.instructions.length +
          (program.instructions.map fun instruction =>
            (View.codeShown instruction).toList.count '\n').sum ∧
        (List.Forall₂ (View.ListingLine source program) program.instructions
            (Text.linesOf listing) ↔
          ∀ instruction ∈ program.instructions,
            '\n' ∉ (View.codeShown instruction).toList) ∧
        (listing = "" ↔ program.instructions = [])) := by
  obtain ⟨nodes, cleaned, parsed, clean, generated⟩ := exists_of_compile compiled
  have cleans : cleanNodes options source = .ok cleaned :=
    cleanNodes_eq_ok_iff.mpr ⟨nodes, parsed, clean⟩
  obtain ⟨lines, shown, entries⟩ := View.showsParts (Node.showable_of_clean parsed clean)
  obtain ⟨lines', shown', entries'⟩ := View.showsListing (within_of_compile compiled)
  obtain ⟨named, sunk⟩ := name_and_sink_of_compile compiled
  have unused : Directive.Unused '\n' := Text.unused_of_mem_lineBreaks (by decide)
  have clear := clear_of_cleanNodes unused cleans
  refine ⟨cleaned, _, _, cleans, shown, shown', named, Text.linesOf_entries ?_ entries, ?_⟩
  · intro node listed line entry
    exact entry.frames (clear node listed)
  · intro single
    have clear' := Instruction.forall_mem_ofNodes View.clear_of_ofNode generated clear
    refine Text.linesOf_entries ?_ entries'
    intro instruction listed line entry
    apply entry.frames (clear' instruction listed)
    · rw [sunk]
      exact unused.not_mem_identifier options.sink_identifier
    · rwa [named]

/-- A line break before the end of a block is trimmed, and one in a text is quoted, so that all
entries are lines. -/
theorem views_break_with_code_trimmed :
    let source := "<#@ escape function=html #>a\n<#= x #><# if y\n #>b<# end #>"
    ∃ nodes parts program listing, cleanNodes {} source = .ok nodes ∧
      compile {} source "t" = .ok program ∧ View.parts nodes source = .ok parts ∧
      View.locatedListing program source = .ok listing ∧ (Text.linesOf parts).length = 6 ∧
      List.Forall₂ (View.PartLine source) nodes (Text.linesOf parts) ∧
      List.Forall₂ (View.ListingLine source program) program.instructions
        (Text.linesOf listing) := by
  intro source
  have compiled : compile {} source "t" =
      .ok ⟨"t",
        [.literal "a\n" (Span.sized 27 2), .expression "x" .auto (Span.sized 29 8) (some "html"),
          .raw "if y" (Span.sized 37 11), .literal "b" (Span.sized 48 1),
          .raw "end" (Span.sized 49 9)], "_out", false⟩ := by
    decide +kernel
  have cleaned : cleanNodes {} source =
      .ok [.directive (Span.sized 0 27) "escape" ["function=html"] .none,
        .literal (Span.sized 27 2) "a\n", .expression (Span.sized 29 8) "x" .auto (some "html"),
        .block ⟨Span.sized 37 11, "if y", .opens, 0, some "if", .none⟩,
        .literal (Span.sized 48 1) "b",
        .block ⟨Span.sized 49 9, "end", .closes, 0, some "if", .none⟩] := by
    decide +kernel
  obtain ⟨nodes, parts, listing, cleans, shown, listed, -, ⟨length, lines, -⟩, ends⟩ :=
    views_break_with_code compiled
  cases cleaned.symm.trans cleans
  obtain ⟨-, lines', -⟩ := ends (by decide)
  refine ⟨_, parts, _, listing, cleaned, compiled, shown, listed, ?_, lines.mpr ?_, lines'.mpr ?_⟩
  · rw [length]
    decide
  · decide
  · decide

/-- A line break inside of an expression breaks its entry in both views. -/
theorem code_breaks_views :
    let source := "<#=a\nb#>"
    ∃ nodes parts program listing, cleanNodes {} source = .ok nodes ∧
      compile {} source "t" = .ok program ∧ View.parts nodes source = .ok parts ∧
      View.locatedListing program source = .ok listing ∧
      nodes.length = 1 ∧ (Text.linesOf parts).length = 2 ∧
      program.instructions.length = 1 ∧ (Text.linesOf listing).length = 2 := by
  intro source
  refine ⟨[.expression (Span.sized 0 8) "a\nb" .auto none], "1:1 Expr[auto]:a\nb",
    ⟨"t", [.expression "a\nb" .auto (Span.sized 0 8) none], "_out", false⟩,
    "_out.write_escaped(a\nb)  # t:1:1", ?_, ?_, ?_, ?_, rfl, ?_, rfl, ?_⟩
  · decide +kernel
  · decide +kernel
  · decide +kernel
  · decide +kernel
  · decide +kernel
  · decide +kernel

end Stencil
