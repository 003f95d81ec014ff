/-
# The segments of a source

A scan hands out a construct as a whole or not at all. Its tokens are therefore the
units of segments, whether it gets to the end of input or breaks off at an error, and
a parser that reads a source never meets a token that does not fit and never misses
one. All it can report is an error of the template.

The segments also have room: literal text takes up at least as many characters of the
source as it has, because undoing a doubled delimiter only shortens it, and any other
segment takes up at least its opener.
-/

import Stencil.Proofs.Acceptance
import Stencil.Proofs.Demand

namespace Stencil

/-- Undoing doubled delimiters makes no text longer. -/
theorem Stretch.Reads.length_value_le {delimiter cs : List Char} {doubling : Bool}
    {stretch : Stretch} (reads : Reads delimiter doubling cs stretch) :
    stretch.value.length ≤ stretch.size := by
  induction reads with
  | ended | stopped _ _ => simp
  | doubled _ _ ih =>
      dsimp only
      rw [List.length_append]
      omega
  | passed _ _ ih =>
      dsimp only
      rw [List.length_cons]
      omega

namespace Segment

/-- The span of a segment. -/
def span : Segment → Span
  | .text span _ => span
  | .expression span _ => span
  | .block span _ => span
  | .directive span _ _ => span

/-- Whether a segment is literal text. -/
def isText : Segment → Bool
  | .text _ _ => true
  | .expression _ _ | .block _ _ | .directive _ _ _ => false

/-- A segment takes up some of the source, and a text at least its own length. -/
def Roomy : Segment → Prop
  | .text span value => value ≠ "" ∧ span.start + value.toList.length ≤ span.stop
  | .expression span _ | .block span _ | .directive span _ _ => span.start < span.stop

theorem Roomy.start_lt_stop {segment : Segment} (roomy : segment.Roomy) :
    segment.span.start < segment.span.stop := by
  cases segment with
  | text span value =>
      have nonempty : 0 < value.toList.length :=
        List.length_pos_iff.mpr (mt String.toList_eq_nil_iff.mp roomy.1)
      exact Nat.lt_of_lt_of_le (Nat.lt_add_of_pos_right nonempty) roomy.2
  | expression _ _ | block _ _ | directive _ _ _ => exact roomy

end Segment

namespace Concatenates

variable {first second : List Token} {segments others : List Segment}

theorem singleton {unit : List Token} {segment : Segment} (spells : Segment.Spells unit segment) :
    Concatenates unit [segment] :=
  ⟨[unit], (List.append_nil unit).symm, .cons spells .nil⟩

theorem append (left : Concatenates first segments) (right : Concatenates second others) :
    Concatenates (first ++ second) (segments ++ others) := by
  obtain ⟨units, rfl, all⟩ := left
  obtain ⟨units', rfl, all'⟩ := right
  exact ⟨units ++ units', List.flatten_append.symm, List.rel_append all all'⟩

end Concatenates

namespace Fragment

variable {options : Options} {fragment : Fragment}

/-- A construct takes up at least its opener. -/
theorem span_start_lt_stop (delimiters : Delimiters) (fragment : Fragment) :
    (fragment.span delimiters).start < (fragment.span delimiters).stop := by
  have opens := List.length_pos_iff.mpr (fragment.construct.opener_toList_ne delimiters)
  rw [span_start, span_stop, closeSpan_stop, codeSpan_stop, openSpan_stop]
  omega

/-- The tokens of a construct are the unit of one segment, which takes up the whole
construct. -/
theorem exists_spells {tokens : List Token} (accepted : fragment.tokens options = .ok tokens) :
    ∃ segment, Segment.Spells tokens segment ∧ segment.span = fragment.span options.delimiters ∧
      segment.Roomy := by
  have room := fragment.span_start_lt_stop options.delimiters
  cases formed_tokens accepted with
  | expression _ => exact ⟨_, .expression rfl rfl rfl, rfl, room⟩
  | directive _ _ _ => exact ⟨_, .directive rfl, rfl, room⟩
  | block _ => exact ⟨_, .block rfl rfl rfl, rfl, room⟩

end Fragment

namespace Scan

variable {options : Options} {offset : Nat} {cs : List Char}

/-- Literal text is the unit of a segment, unless it is empty. -/
theorem concatenates_literal {text : Stretch}
    (reads : Stretch.Reads options.delimiters.opener.toList options.doubling cs text)
    (offset : Nat) :
    ∃ segments, Concatenates (literal text offset) segments ∧
      ∀ segment ∈ segments, segment.Roomy := by
  unfold literal
  split
  · exact ⟨[], .nil, by simp⟩
  · rename_i nonempty
    refine ⟨_, .singleton (.text rfl), ?_⟩
    intro segment same
    rw [List.mem_singleton.mp same]
    refine ⟨?_, ?_⟩
    · simpa [← String.toList_eq_nil_iff] using nonempty
    · rw [String.toList_ofList]
      exact Nat.add_le_add_left reads.length_value_le offset

/-- How the tokens of a scan end: with the end of input, or with an error and no further
token. -/
inductive Ends : Option TemplateError → List Token → Prop
  | input (stop : Nat) : Ends none [ending stop]
  | broken (error : TemplateError) : Ends (some error) []

theorem Ends.exists_groups {failure : Option TemplateError} {tail : List Token}
    (ends : Ends failure tail) :
    ∃ halt, Groups tail [] halt ∧ halt.failure failure = failure.map .template := by
  cases ends with
  | input stop => exact ⟨.input, .input rfl, rfl⟩
  | broken error => exact ⟨.used, .used, rfl⟩

/-- What a scan hands out before it ends are the units of these segments. -/
def Carries (scan : Scan) (segments : List Segment) : Prop :=
  ∃ front tail, scan.tokens = front ++ tail ∧ Ends scan.failure tail ∧ Concatenates front segments

theorem carries_fail (error : TemplateError) : (fail error).Carries [] :=
  ⟨[], [], rfl, .broken error, .nil⟩

theorem carries_of_final {front : List Token} {segments : List Segment}
    (units : Concatenates front segments) (stop position : Nat) :
    Carries ⟨[⟨front ++ [ending stop], position⟩], none⟩ segments :=
  ⟨front, [ending stop], List.append_nil _, .input stop, units⟩

theorem Carries.deliver {scan : Scan} {batch : Batch} {segments others : List Segment}
    (further : scan.Carries others) (units : Concatenates batch.tokens segments) :
    (deliver batch scan).Carries (segments ++ others) := by
  obtain ⟨front, tail, split, ends, units'⟩ := further
  refine ⟨batch.tokens ++ front, tail, ?_, ends, units.append units'⟩
  rw [tokens_deliver, split, List.append_assoc]

/-- A batch consists of whole units, each with room in the source. -/
theorem Passage.exists_segments (passage : Passage options cs) {tokens : List Token}
    (accepted : (passage.fragment offset).tokens options = .ok tokens) :
    ∃ segments, Concatenates (passage.batch offset tokens).tokens segments ∧
      ∀ segment ∈ segments, segment.Roomy := by
  obtain ⟨before, units, roomy⟩ := concatenates_literal passage.reads offset
  obtain ⟨segment, spells, -, room⟩ := Fragment.exists_spells accepted
  refine ⟨before ++ [segment], units.append (.singleton spells), ?_⟩
  intro other present
  rcases List.mem_append.mp present with first | last
  · exact roomy other first
  · rwa [List.mem_singleton.mp last]

theorem exists_segments_of_more {batch : Batch} {rest : List Char}
    (hstep : step options offset cs = .more batch rest) :
    ∃ segments, Concatenates batch.tokens segments ∧ ∀ segment ∈ segments, segment.Roomy := by
  have stepped := stepped_step options offset cs
  rw [hstep] at stepped
  cases stepped with
  | more passage tokens accepted => exact passage.exists_segments accepted

/-- What a scan hands out are the units of segments, each with room in the source. -/
theorem exists_segments (options : Options) (offset : Nat) (cs : List Char) :
    ∃ segments, (scanFrom options offset cs).Carries segments ∧
      ∀ segment ∈ segments, segment.Roomy := by
  have scans := scans_scanFrom options offset cs
  generalize scanFrom options offset cs = scan at scans ⊢
  induction scans with
  | @final offset cs text reads ended =>
      obtain ⟨segments, units, roomy⟩ := concatenates_literal reads offset
      exact ⟨segments, carries_of_final units _ _, roomy⟩
  | broken error stepped => exact ⟨[], carries_fail error, by simp⟩
  | more passage tokens accepted further ih =>
      obtain ⟨segments, units, roomy⟩ := passage.exists_segments accepted
      obtain ⟨others, further, roomy'⟩ := ih
      refine ⟨segments ++ others, further.deliver units, ?_⟩
      intro segment present
      rcases List.mem_append.mp present with first | later
      · exact roomy segment first
      · exact roomy' segment later

end Scan

namespace Parse

/-- A source is parsed by placing its segments, and what the tokens end with is at most
the error of the scan. -/
theorem ofText_eq_ofSegments {options : Options} {source : String} {segments : List Segment}
    (carries : (Scan.ofText options source).Carries segments) :
    ofText options source =
      ofSegments options.blockStyle ((Scan.ofText options source).failure.map .template)
        (Context.initial options) segments := by
  obtain ⟨front, tail, split, ends, units⟩ := carries
  obtain ⟨halt, stops, reported⟩ := ends.exists_groups
  have groups := units.groups stops
  rw [← split, List.append_nil] at groups
  have parsed : ofText options source =
      ofSegments options.blockStyle (halt.failure (Scan.ofText options source).failure)
        (Context.initial options) segments :=
    ofSource_eq_ofSegments (Feed.delivers_ofText options source) groups
  rw [parsed]
  exact congrArg (ofSegments options.blockStyle · (Context.initial options) segments) reported

/-- All that a parse of a source can fail with is an error of the template. -/
theorem exists_template_of_failure {options : Options} {source : String} {failure : ParseFailure}
    (fails : (ofText options source).failure = some failure) :
    ∃ error, failure = .template error := by
  obtain ⟨segments, carries, -⟩ := Scan.exists_segments options 0 source.toList
  rw [ofText_eq_ofSegments carries] at fails
  rcases places_or_refuses options.blockStyle (Context.initial options) segments with
    ⟨nodes, last, places⟩ | ⟨nodes, last, error, refuses⟩
  · rw [ofSegments_of_places places] at fails
    cases hscan : (Scan.ofText options source).failure with
    | some error =>
        rw [hscan] at fails
        cases fails
        exact ⟨error, rfl⟩
    | none =>
        rw [hscan] at fails
        obtain ⟨innermost, -, rfl⟩ := Option.map_eq_some_iff.mp fails
        exact ⟨_, rfl⟩
  · rw [ofSegments_of_refuses refuses] at fails
    cases fails
    exact ⟨error, rfl⟩

/-- All segments of a source that parses have been placed, and the scan did not break
off. -/
theorem exists_places_of_carries {options : Options} {source : String} {segments : List Segment}
    (carries : (Scan.ofText options source).Carries segments)
    (succeeds : (ofText options source).failure = none) :
    (Scan.ofText options source).failure = none ∧
      ∃ last, Places options.blockStyle (Context.initial options) segments
        (ofText options source).nodes last := by
  rw [ofText_eq_ofSegments carries] at succeeds ⊢
  rcases places_or_refuses options.blockStyle (Context.initial options) segments with
    ⟨nodes, last, places⟩ | ⟨nodes, last, error, refuses⟩
  · rw [ofSegments_of_places places] at succeeds ⊢
    cases hscan : (Scan.ofText options source).failure with
    | some error =>
        rw [hscan] at succeeds
        cases succeeds
    | none => exact ⟨rfl, last, places⟩
  · rw [ofSegments_of_refuses refuses] at succeeds
    cases succeeds

/-- A source that parses has been scanned to its end, and its nodes are those of its
segments. -/
theorem exists_places_of_ofText {options : Options} {source : String}
    (succeeds : (ofText options source).failure = none) :
    ∃ body stop segments last, (Scan.ofText options source).tokens = body ++ [Scan.ending stop] ∧
      (Scan.ofText options source).failure = none ∧ Concatenates body segments ∧
      (∀ segment ∈ segments, segment.Roomy) ∧
      Places options.blockStyle (Context.initial options) segments (ofText options source).nodes
        last := by
  obtain ⟨segments, carries, roomy⟩ := Scan.exists_segments options 0 source.toList
  obtain ⟨scanned, last, places⟩ := exists_places_of_carries carries succeeds
  obtain ⟨front, tail, split, ends, units⟩ := carries
  rw [← Scan.ofText, scanned] at ends
  cases ends with
  | input stop => exact ⟨front, stop, segments, last, split, scanned, units, roomy, places⟩

end Parse

end Stencil
