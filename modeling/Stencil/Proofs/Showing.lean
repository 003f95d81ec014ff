/-
# Every span can be shown

A line table has a location for each offset of its source, the end included, and none for
any other. Since spans lie within the source, the views that give locations never fail on what
comes from compiling it, and neither do reports and diagnostics. What they show counts lines
and columns from one: the first line starts at zero, so every offset has a line that starts at
it or before it.

A diagnostic asks for the width of the span as well, and there is a largest width. No source
that an index can count reaches it.
-/

import Stencil.Report
import Stencil.View.Listing
import Stencil.View.Nodes
import Stencil.Proofs.Tidiness
import Stencil.Proofs.Underlining

namespace Stencil

/-- Lines and columns are counted from one. -/
def Location.Counted (location : Location) : Prop :=
  1 ≤ location.line ∧ 1 ≤ location.column

namespace LineTable

/-- Every offset of a source has a location. -/
theorem exists_locate {source : String} {offset : Nat} (inside : offset ≤ source.length) :
    ∃ location, (ofText source).locate offset = .ok location ∧ location.Counted := by
  have located := locate_eq source offset
  rw [if_pos (by omega)] at located
  refine ⟨_, located, ?_, ?_⟩
  · simp only [Location.after]
    omega
  · simp only [Location.after]
    omega

end LineTable

/-- Where a span is shown to start. -/
def Span.ShownAt (source : String) (span : Span) (location : Location) : Prop :=
  (LineTable.ofText source).locate span.start = .ok location ∧ location.Counted

/-- What lies within a source can be shown. -/
theorem Span.Within.exists_shownAt {source : String} {span : Span}
    (within : span.Within source.length) : ∃ location, span.ShownAt source location := by
  exact LineTable.exists_locate (Nat.le_trans within.1 within.2)

/-- A list is shown if each of its items is. -/
private theorem exists_mapM {α β ε : Type} {show? : α → Except ε β} (Shows : α → β → Prop)
    {items : List α} (each : ∀ item ∈ items, ∃ shown, show? item = .ok shown ∧ Shows item shown) :
    ∃ shown, items.mapM show? = .ok shown ∧ List.Forall₂ Shows items shown := by
  induction items with
  | nil => exact ⟨[], rfl, .nil⟩
  | cons item rest ih =>
      rw [List.forall_mem_cons] at each
      obtain ⟨⟨first, here, shows⟩, later⟩ := each
      obtain ⟨others, further, all⟩ := ih later
      refine ⟨first :: others, ?_, .cons shows all⟩
      rw [List.mapM_cons, here]
      simp only [bind, Except.bind, further]
      rfl

/-- A node within a source that has a line in the parts view. -/
def Node.Showable (source : String) (node : Node) : Prop :=
  node.span.Within source.length ∧ View.partLabel node ≠ none

/-- Only a placeholder has no line. -/
theorem Node.Roomy.showable {source : String} {node : Node} (roomy : node.Roomy)
    (within : node.span.Within source.length) : node.Showable source := by
  refine ⟨within, ?_⟩
  cases node with
  | placeholder _ => exact roomy.elim
  | literal _ _ | expression _ _ _ _ | block _ | directive _ _ _ _ => simp [View.partLabel]

/-- Cleaning leaves a literal or the node itself, if it leaves anything. -/
theorem Node.Showable.cleanBetween {source : String} {previous next : Option Node}
    {node kept : Node} (cleaned : cleanBetween previous node next = .ok (some kept))
    (showable : node.Showable source) : kept.Showable source := by
  refine ⟨within_cleanBetween cleaned showable.1, ?_⟩
  rcases cases_of_cleanBetween cleaned with ⟨-, same⟩ | ⟨-, gone | ⟨left, same, literal, -⟩⟩
  · cases same
    exact showable.2
  · cases gone
  · cases same
    cases kept with
    | literal _ _ => simp [View.partLabel]
    | expression _ _ _ _ | block _ | directive _ _ _ _ | placeholder _ => cases literal

namespace View

/-- The line of a node in the parts view. -/
def PartLine (source : String) (node : Node) (line : String) : Prop :=
  ∃ location label, node.span.ShownAt source location ∧ partLabel node = some label ∧
    line = s!"{location.describe} {label}"

/-- The parts view has the line of each node. -/
def ShowsParts (source : String) (nodes : List Node) : Prop :=
  ∃ lines, parts nodes source = .ok (Text.joinLines lines) ∧
    List.Forall₂ (PartLine source) nodes lines

theorem exists_partLines {source : String} {nodes : List Node}
    (showable : ∀ node ∈ nodes, node.Showable source) :
    ∃ lines, partLines (LineTable.ofText source) nodes = .ok lines ∧
      List.Forall₂ (PartLine source) nodes lines := by
  induction nodes with
  | nil => exact ⟨[], rfl, .nil⟩
  | cons node rest ih =>
      rw [List.forall_mem_cons] at showable
      obtain ⟨⟨within, labelled⟩, later⟩ := showable
      obtain ⟨location, shown⟩ := within.exists_shownAt
      obtain ⟨label, labels⟩ := Option.ne_none_iff_exists'.mp labelled
      obtain ⟨others, further, lines⟩ := ih later
      refine ⟨s!"{location.describe} {label}" :: others, ?_, .cons ⟨_, _, shown, labels, rfl⟩ lines⟩
      simp only [partLines, shown.1, further, labels, bind, Except.bind]
      rfl

theorem showsParts {source : String} {nodes : List Node}
    (showable : ∀ node ∈ nodes, node.Showable source) : ShowsParts source nodes := by
  obtain ⟨lines, shown, each⟩ := exists_partLines showable
  refine ⟨lines, ?_, each⟩
  rw [parts, shown]
  rfl

/-- The line of an instruction in a listing. -/
def ListingLine (source : String) (program : Program) (instruction : Instruction)
    (line : String) : Prop :=
  ∃ location, instruction.span.ShownAt source location ∧
    line = s!"{instruction.statement program.sink}  # {program.name}:{location.describe}"

/-- The listing has the line of each instruction. -/
def ShowsListing (source : String) (program : Program) : Prop :=
  ∃ lines, locatedListing program source = .ok (Text.joinLines lines) ∧
    List.Forall₂ (ListingLine source program) program.instructions lines

theorem showsListing {source : String} {program : Program}
    (within : ∀ instruction ∈ program.instructions, instruction.span.Within source.length) :
    ShowsListing source program := by
  have each (instruction : Instruction) (listed : instruction ∈ program.instructions) :
      ∃ line, locatedStatement program (LineTable.ofText source) instruction = .ok line ∧
        ListingLine source program instruction line := by
    obtain ⟨location, shown⟩ := (within instruction listed).exists_shownAt
    refine ⟨_, ?_, location, shown, rfl⟩
    simp only [locatedStatement, shown.1, bind, Except.bind]
    rfl
  obtain ⟨lines, shown, all⟩ := exists_mapM (ListingLine source program) each
  refine ⟨lines, ?_, all⟩
  rw [locatedListing, shown]
  rfl

end View

namespace Diagnostic

/-- The diagnostic of an error starts with the name, the location and the message. -/
def Shows (source name : String) (error : TemplateError) : Prop :=
  ∃ location excerpt, error.span.ShownAt source location ∧
    ofError error source name =
      .ok (Text.joinLines (s!"{name}:{location.describe}: error: {error.message}" :: excerpt))

/-- An error that lies within a source can be diagnosed, if the source can be counted. -/
theorem shows {source : String} {error : TemplateError} (within : error.span.Within source.length)
    (countable : source.length ≤ Span.maxWidth) (name : String) : Shows source name error := by
  have inside := Nat.le_trans within.1 within.2
  obtain ⟨location, shown⟩ := within.exists_shownAt
  obtain ⟨-, rfl⟩ := LineTable.eq_after_of_locate shown.1
  by_cases blank : ∀ c ∈ line source error.span, Text.isBlank c = true
  · exact ⟨_, [], shown, render_of_blank error.message name inside blank⟩
  · have width : error.span.stop - error.span.start ≤ Span.maxWidth := by
      have stops := within.2
      omega
    exact ⟨_, _, shown, render_of_countable error.message name inside blank width⟩

end Diagnostic

/-- A field of a name and a value, anywhere in a document. -/
inductive Document.HasField (name : String) (value : Document) : Document → Prop
  | here {entries : List (Document × Document)} (listed : (.text name, value) ∈ entries) :
      HasField name value (.map entries)
  | inEntry {entries : List (Document × Document)} {key part : Document}
      (listed : (key, part) ∈ entries) (inside : HasField name value part) :
      HasField name value (.map entries)
  | inItem {items : List Document} {part : Document} (listed : part ∈ items)
      (inside : HasField name value part) : HasField name value (.list items)

namespace Report

/-- What a field of a report may hold: lines and columns are counted from one, and the ends of
a span lie within the source. -/
def Allows (length : Nat) (name : String) (value : Document) : Prop :=
  (name = "line" ∨ name = "column" → ∃ count : Int, value = .int count ∧ 1 ≤ count) ∧
    (name = "start" ∨ name = "end" →
      ∃ offset : Int, value = .int offset ∧ 0 ≤ offset ∧ offset ≤ length)

/-- All fields of a report, at any depth, hold what they may. -/
def Valid (length : Nat) (report : Document) : Prop :=
  ∀ name value, Document.HasField name value report → Allows length name value

section Valid

variable {length : Nat}

theorem valid_fields {entries : List (String × Document)}
    (each : ∀ entry ∈ entries, Allows length entry.1 entry.2 ∧ Valid length entry.2) :
    Valid length (fields entries) := by
  intro name value found
  cases found with
  | here listed =>
      obtain ⟨entry, present, same⟩ := List.mem_map.mp listed
      cases same
      exact (each entry present).1
  | inEntry listed inside =>
      obtain ⟨entry, present, same⟩ := List.mem_map.mp listed
      cases same
      exact (each entry present).2 name value inside

theorem valid_list {items : List Document} (each : ∀ item ∈ items, Valid length item) :
    Valid length (.list items) := by
  intro name value found
  cases found with
  | inItem listed inside => exact each _ listed name value inside

theorem valid_null : Valid length .null := nofun

theorem valid_bool (value : Bool) : Valid length (.bool value) := nofun

theorem valid_int (value : Int) : Valid length (.int value) := nofun

theorem valid_text (value : String) : Valid length (.text value) := nofun

theorem valid_optionalText (text : Option String) : Valid length (optionalText text) := by
  cases text with
  | none => exact valid_null
  | some text => exact valid_text text

theorem valid_assemble {instructions : List Document} {error : Document}
    (each : ∀ instruction ∈ instructions, Valid length instruction) (valid : Valid length error)
    (version template : String) (ok : Bool) (sink : String) (debug : Bool) :
    Valid length (assemble version template ok sink debug instructions error) := by
  apply valid_fields
  simp [Allows, valid_int, valid_text, valid_bool, valid_list each, valid]

end Valid

theorem hasField_fields {entries : List (String × Document)} {name : String} {value : Document}
    (listed : (name, value) ∈ entries) : Document.HasField name value (fields entries) :=
  .here (List.mem_map.mpr ⟨_, listed, rfl⟩)

theorem hasField_fields_of_part {entries : List (String × Document)} {name key : String}
    {value part : Document} (listed : (key, part) ∈ entries)
    (inside : Document.HasField name value part) :
    Document.HasField name value (fields entries) :=
  .inEntry (List.mem_map.mpr ⟨_, listed, rfl⟩) inside

/-- A valid document that gives the location of a span. -/
def ShowsSpan (source : String) (span : Span) (report : Document) : Prop :=
  Valid source.length report ∧
    ∃ location, span.ShownAt source location ∧
      Document.HasField "line" (.int location.line) report ∧
      Document.HasField "column" (.int location.column) report

/-- The report of a program is valid and gives the location of each instruction. -/
def ShowsProgram (source : String) (program : Program) : Prop :=
  ∃ report entries, ofProgram program source = .ok report ∧ Valid source.length report ∧
    Document.HasField "instructions" (.list entries) report ∧
    List.Forall₂ (fun instruction => ShowsSpan source instruction.span) program.instructions entries

/-- The report of an error is valid and gives the location of the error. -/
def ShowsError (source name : String) (error : TemplateError) : Prop :=
  ∃ report, ofError name error source = .ok report ∧ ShowsSpan source error.span report

variable {source : String} {span : Span}

/-- What gives the location of a span gives it also as a part of other fields. -/
theorem ShowsSpan.fields {part : Document} {entries : List (String × Document)}
    (shows : ShowsSpan source span part) (key : String) (listed : (key, part) ∈ entries)
    (valid : Valid source.length (fields entries)) : ShowsSpan source span (fields entries) := by
  obtain ⟨-, location, shown, line, column⟩ := shows
  exact ⟨valid, location, shown, hasField_fields_of_part listed line,
    hasField_fields_of_part listed column⟩

theorem exists_ofSpan (within : span.Within source.length) :
    ∃ report, ofSpan (LineTable.ofText source) span = .ok report ∧
      ShowsSpan source span report := by
  obtain ⟨location, shown⟩ := within.exists_shownAt
  obtain ⟨located, line, column⟩ := id shown
  have ends : (span.start : Int) ≤ source.length ∧ (span.stop : Int) ≤ source.length :=
    ⟨Int.ofNat_le.mpr (Nat.le_trans within.1 within.2), Int.ofNat_le.mpr within.2⟩
  simp only [ofSpan, located, bind, Except.bind]
  refine ⟨_, rfl, valid_fields ?_, location, shown, hasField_fields ?_, hasField_fields ?_⟩
  · simp [Allows, valid_int, line, column, ends]
  · simp
  · simp

theorem exists_ofInstruction {instruction : Instruction}
    (within : instruction.span.Within source.length) :
    ∃ report, ofInstruction (LineTable.ofText source) instruction = .ok report ∧
      ShowsSpan source instruction.span report := by
  obtain ⟨part, shown, shows⟩ := exists_ofSpan within
  have valid := shows.1
  simp only [ofInstruction, shown, bind, Except.bind]
  cases instruction with
  | literal text _ | expression code escaping _ escaper | raw code _ =>
      refine ⟨_, rfl, shows.fields "span" (by simp) (valid_fields ?_)⟩
      simp [Allows, valid_text, valid_optionalText, valid]

theorem valid_of_showsSpan {instructions : List Instruction} {entries : List Document}
    (each : List.Forall₂ (fun instruction => ShowsSpan source instruction.span) instructions
      entries) : ∀ entry ∈ entries, Valid source.length entry := by
  induction each with
  | nil => simp
  | cons first _ ih => exact List.forall_mem_cons.mpr ⟨first.1, ih⟩

theorem showsProgram {program : Program}
    (within : ∀ instruction ∈ program.instructions, instruction.span.Within source.length) :
    ShowsProgram source program := by
  obtain ⟨entries, shown, each⟩ :=
    exists_mapM (fun instruction => ShowsSpan source instruction.span) fun instruction listed =>
      exists_ofInstruction (within instruction listed)
  refine ⟨_, entries, ?_, valid_assemble (valid_of_showsSpan each) valid_null toolVersion
    program.name true program.sink program.debug, hasField_fields (by simp), each⟩
  simp only [ofProgram, shown, bind, Except.bind]
  rfl

theorem showsError {error : TemplateError} (within : error.span.Within source.length)
    (name : String) : ShowsError source name error := by
  obtain ⟨part, shown, shows⟩ := exists_ofSpan within
  have valid := shows.1
  have inner : ShowsSpan source error.span (fields
      [("kind", .text error.kind), ("message", .text error.message), ("span", part)]) := by
    refine shows.fields "span" (by simp) (valid_fields ?_)
    simp [Allows, valid_text, valid]
  have none : ∀ instruction ∈ [], Valid source.length instruction := by simp
  simp only [ShowsError, ofError, shown, bind, Except.bind]
  exact ⟨_, rfl, inner.fields "error" (by simp) (valid_assemble none inner.1 _ _ _ _ _)⟩

end Report

section Compile

variable {options : Options} {source : String}

theorem Parse.showable {nodes : List Node}
    (parsed : (Parse.ofText options source).result = .ok nodes) :
    ∀ node ∈ nodes, node.Showable source := by
  obtain ⟨succeeds, rfl⟩ := Parse.result_eq_ok.mp parsed
  intro node listed
  exact (Parse.roomy_of_ofText succeeds node listed).showable
    ((Parse.within_ofText options source).1 node listed)

theorem cleanNodes_eq_ok_iff {cleaned : List Node} :
    cleanNodes options source = .ok cleaned ↔
      ∃ nodes, (Parse.ofText options source).result = .ok nodes ∧
        Node.clean nodes = .ok cleaned := by
  simp only [cleanNodes, bind, Except.bind]
  cases (Parse.ofText options source).result with
  | error failure => simp [Except.mapError]
  | ok nodes => cases cleans : Node.clean nodes <;> simp [Except.mapError, cleans]

theorem Node.showable_of_clean {nodes cleaned : List Node}
    (parsed : (Parse.ofText options source).result = .ok nodes)
    (clean : Node.clean nodes = .ok cleaned) : ∀ node ∈ cleaned, node.Showable source :=
  Node.forall_mem_cleanAfter Node.Showable.cleanBetween clean (Parse.showable parsed)

/-- The instructions of a program lie within the source. -/
theorem within_of_compile {name : String} {program : Program}
    (compiled : compile options source name = .ok program) :
    ∀ instruction ∈ program.instructions, instruction.span.Within source.length := by
  obtain ⟨nodes, cleaned, parsed, clean, generated⟩ := exists_of_compile compiled
  exact Instruction.within_ofNodes generated fun node listed =>
    (Node.showable_of_clean parsed clean node listed).1

/-- A source without a program has an error that lies within it. -/
theorem exists_error_of_compile {name : String} {failure : CompileFailure}
    (fails : compile options source name = .error failure) :
    ∃ error, failure = .parse (.template error) ∧ error.span.Within source.length := by
  obtain ⟨error, rfl, parsed⟩ := exists_failure_of_compile fails
  exact ⟨error, rfl, (Parse.within_ofText options source).2 error parsed⟩

end Compile

/-- Every span that comes from a source lies within it, so everything that is compiled or goes
wrong can be shown: the parts before and after cleaning, the listing, the two kinds of report,
and the diagnostic. Lines and columns are counted from one wherever they are shown. Only the
diagnostic asks how wide a span is, which takes a source whose characters an index can count. -/
theorem spans_can_be_shown (options : Options) (source name : String) :
    (∀ token ∈ (Scan.ofText options source).tokens, token.span.Within source.length) ∧
    (∀ error, (Scan.ofText options source).failure = some error →
      error.span.Within source.length) ∧
    (∀ node ∈ (Parse.ofText options source).nodes, node.span.Within source.length) ∧
    (∀ nodes, (Parse.ofText options source).result = .ok nodes → View.ShowsParts source nodes) ∧
    (∀ nodes, cleanNodes options source = .ok nodes →
      (∀ node ∈ nodes, node.span.Within source.length) ∧ View.ShowsParts source nodes) ∧
    (∀ program, compile options source name = .ok program →
      (∀ instruction ∈ program.instructions, instruction.span.Within source.length) ∧
        View.ShowsListing source program ∧ Report.ShowsProgram source program) ∧
    ∀ failure, compile options source name = .error failure →
      ∃ error, failure = .parse (.template error) ∧ error.span.Within source.length ∧
        Report.ShowsError source name error ∧
        (source.length ≤ Span.maxWidth → Diagnostic.Shows source name error) := by
  obtain ⟨handed, failed⟩ := Scan.within_ofText options source
  refine ⟨handed, failed, (Parse.within_ofText options source).1, ?_, ?_, ?_, ?_⟩
  · intro nodes parsed
    exact View.showsParts (Parse.showable parsed)
  · intro cleaned clean
    obtain ⟨nodes, parsed, cleans⟩ := cleanNodes_eq_ok_iff.mp clean
    have showable := Node.showable_of_clean parsed cleans
    exact ⟨fun node listed => (showable node listed).1, View.showsParts showable⟩
  · intro program compiled
    have within := within_of_compile compiled
    exact ⟨within, View.showsListing within, Report.showsProgram within⟩
  · intro failure fails
    obtain ⟨error, rfl, within⟩ := exists_error_of_compile fails
    refine ⟨error, rfl, within, Report.showsError within name, ?_⟩
    intro countable
    exact Diagnostic.shows within countable name

end Stencil
