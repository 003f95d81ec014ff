/-
# What a diagnostic underlines

A diagnostic shows the line in which a span starts, and puts marks below the part of the span
that lies in this line. Line and column come from the line table, the line has lost its end, and
the marks are cut off where the line ends, so the borders are where this could go wrong: a span
may be empty, start at a line end, reach over several lines or beyond the source.

The width of a span is asked for only where there is a line to show. It is the one thing that
can fail: a span may be wider than an index can count, although no source is.

An error of a template points at a construct, and a construct starts with an opener. The
standard opener has no character that could end a line, so it is always underlined.
-/

import Stencil.Diagnostic
import Stencil.Proofs.Bounds
import Stencil.Proofs.Locating

namespace Stencil

section Openers

/-- Every kind of construct starts with the common opener. -/
theorem Construct.opener_prefix_opener (delimiters : Delimiters) (construct : Construct) :
    delimiters.opener.toList <+: (construct.opener delimiters).toList := by
  cases construct with
  | expression =>
      rw [opener, Delimiters.expressionOpener, String.toList_append]
      exact List.prefix_append _ _
  | directive =>
      rw [opener, Delimiters.directiveOpener, String.toList_append]
      exact List.prefix_append _ _
  | block => exact List.prefix_refl _

/-- What a span covers starts with an opener. -/
def Span.Opens (options : Options) (source : List Char) (span : Span) : Prop :=
  options.delimiters.opener.toList <+: span.slice source

variable {options : Options} {source before cs : List Char}

/-- A longer span from the same offset covers what the shorter one does. -/
theorem Span.Opens.extend {span longer : Span} (opens : span.Opens options source)
    (starts : longer.start = span.start) (stops : span.stop ≤ longer.stop) :
    longer.Opens options source := by
  refine List.IsPrefix.trans opens ?_
  rw [slice, slice, starts]
  exact (List.take_prefix_take_left stops).drop span.start

namespace Scan

theorem Approach.opens (approach : Approach options cs) (same : source = before ++ cs) :
    (Span.sized (before.length + approach.text.size)
      (approach.construct.opener options.delimiters).toList.length).Opens options source := by
  obtain ⟨text, split, size⟩ := approach.reads.exists_source
  have whole : source = before ++ text ++ (approach.construct.opener options.delimiters).toList ++
      approach.inside := by
    refine same.trans ((congrArg (before ++ ·) split).trans ?_)
    rw [approach.opened]
    simp only [List.append_assoc]
  rw [Span.Opens, Span.slice_eq_of_split _ _ _ whole (by simp [Span.sized, size])
    (by simp [Span.sized, size])]
  exact approach.construct.opener_prefix_opener options.delimiters

theorem Passage.opens (passage : Passage options cs) (same : source = before ++ cs) :
    ((passage.fragment before.length).span options.delimiters).Opens options source := by
  refine (passage.toApproach.opens same).extend (Fragment.span_start _ _) ?_
  rw [Fragment.span_stop, Fragment.closeSpan_stop, Fragment.codeSpan_stop, Fragment.openSpan_stop]
  simp only [Span.sized, Passage.fragment]
  omega

theorem isText_of_mem_literalSegments {text : Stretch} {offset : Nat} {segment : Segment}
    (listed : segment ∈ literalSegments text offset) : segment.isText = true := by
  unfold literalSegments at listed
  split at listed
  · cases listed
  · rw [List.mem_singleton.mp listed]
    rfl

/-- The segments of a scan that are no literal text start with an opener, and so does what its
error points at. -/
theorem exists_opened (options : Options) (same : source = before ++ cs) :
    ∃ segments, (scanFrom options before.length cs).Carries segments ∧
      (∀ segment ∈ segments, segment.isText = false → segment.span.Opens options source) ∧
      ∀ error, (scanFrom options before.length cs).failure = some error →
        error.span.Opens options source := by
  have scans := scans_scanFrom options before.length cs
  generalize scanFrom options before.length cs = scan at scans ⊢
  generalize start : before.length = offset at scans
  induction scans generalizing before with
  | final text reads ended =>
      refine ⟨_, carries_of_final (concatenates_literalSegments text _) _ _, ?_, by simp⟩
      intro segment listed coded
      rw [isText_of_mem_literalSegments listed] at coded
      cases coded
  | broken error stepped =>
      subst start
      refine ⟨[], carries_fail error, by simp, ?_⟩
      rintro _ ⟨⟩
      cases stepped with
      | unterminated approach _ _ _ => exact approach.opens same
      | refused passage _ refused =>
          obtain ⟨name, args, reason, rfl⟩ := Fragment.exists_of_tokens_eq_error refused
          exact passage.opens same
  | more passage tokens accepted _ ih =>
      subst start
      obtain ⟨⟨passed, split, position⟩, -⟩ := covers_passage same passage accepted
      have further : source = before ++ passed ++ passage.after := by
        rw [List.append_assoc, ← split]
        exact same
      obtain ⟨others, carries, opened, failed⟩ := ih further position.symm
      obtain ⟨segment, spells, covers, -⟩ := Fragment.exists_spells accepted
      have units := (concatenates_literalSegments passage.text before.length).append
        (.singleton spells)
      refine ⟨_, carries.deliver units, ?_, failed⟩
      intro other listed coded
      rcases List.mem_append.mp listed with here | later
      · rcases List.mem_append.mp here with inText | construct
        · rw [isText_of_mem_literalSegments inText] at coded
          cases coded
        · rw [List.mem_singleton.mp construct, covers]
          exact passage.opens same
      · exact opened other later coded

end Scan

/-- What an error of a source points at starts with an opener. -/
theorem Parse.opens_of_failure {source : String} {error : TemplateError}
    (fails : (Parse.ofText options source).failure = some (.template error)) :
    error.span.Opens options source.toList := by
  obtain ⟨segments, carries, opened, failed⟩ :=
    Scan.exists_opened options (List.nil_append source.toList).symm
  rcases Parse.exists_blamed carries fails with scanned | ⟨blamed, listed, coded, same⟩
  · exact failed error scanned
  · rw [← same]
    exact opened blamed listed coded

end Openers

/-- Nothing is left of a text after trimming exactly if all of it is blank. -/
theorem Text.trim_eq_nil_iff {cs : List Char} : trim cs = [] ↔ ∀ c ∈ cs, isBlank c = true := by
  have back : trim cs = [] ↔ ∀ c ∈ trimStart cs, isBlank c = true := List.rdropWhile_eq_nil_iff
  rw [back]
  constructor
  · intro blank c present
    obtain ⟨front, split, blankFront⟩ := exists_trimStart cs
    rw [split, List.mem_append] at present
    rcases present with early | late
    · exact blankFront c early
    · exact blank c late
  · intro blank c present
    exact blank c (trimStart_subset cs present)

/-- Dropping from the back stops at a character that is kept. -/
theorem prefix_rdropWhile {drops : Char → Bool} {front : List Char} {c : Char}
    (kept : drops c = false) (back : List Char) :
    front ++ [c] <+: (front ++ [c] ++ back).rdropWhile drops := by
  induction back using List.reverseRecOn with
  | nil => rw [List.append_nil, List.rdropWhile_concat_neg _ _ _ (by simp [kept])]
  | append_singleton back last ih =>
      rw [← List.append_assoc, List.rdropWhile_concat]
      split
      · exact ih
      · rw [List.append_assoc]
        exact List.prefix_append _ _

namespace Diagnostic

section Parts

variable (message name source : String) (span : Span)

/-- The characters between the start of the line and the span. -/
def lead : List Char :=
  Text.sinceBreak (source.toList.take span.start)

/-- The line in which a span starts, without its line end. -/
def line : List Char :=
  (lead source span ++ (source.toList.drop span.start).takeWhile (· != '\n')).rdropWhile (· == '\r')

/-- What a diagnostic says before the message: the name, and the location of the span. -/
def place : String :=
  s!"{name}:{(Location.after (source.toList.take span.start)).describe}: error: "

/-- The first line of a diagnostic. -/
def heading : String :=
  place name source span ++ message

/-- A diagnostic that shows the line and puts some marks below it. -/
def excerpt (marks : Nat) : String :=
  Text.joinLines [heading message name source span, "    " ++ String.ofList (line source span),
    "    " ++ String.ofList (List.replicate (lead source span).length ' ' ++
      List.replicate marks '^')]

/-- The part of the line that has marks below it. -/
def underlined (marks : Nat) : List Char :=
  ((line source span).drop (lead source span).length).take marks

end Parts

variable {message name source : String} {span : Span}

/-- The number of marks below a line. -/
def marksOf (source : String) (span : Span) : Nat :=
  max 1 (min (span.stop - span.start) ((line source span).length - (lead source span).length))

theorem lineText_start (source : String) (span : Span) :
    (LineTable.ofText source).lineText (Location.after (source.toList.take span.start)).line =
      .ok (String.ofList (line source span)) := by
  obtain ⟨front, back, isLine, counts, -⟩ :=
    LineTable.isLine_around (source.toList.take span.start) (source.toList.drop span.start)
  rw [List.take_append_drop] at isLine
  have text := LineTable.lineText_of_isLine isLine
  rw [counts, Int.add_comm] at text
  exact text

/-- A diagnostic is a heading and, unless the line is blank, an excerpt. Only the excerpt needs
the width of the span. -/
theorem render_eq (message name : String) (inside : span.start ≤ source.length) :
    render message span source name =
      if (Text.trim (line source span)).isEmpty then .ok (heading message name source span)
      else if span.stop - span.start ≤ Span.maxWidth then
        .ok (excerpt message name source span (marksOf source span))
      else .error .uncountable := by
  have located := LineTable.locate_eq source span.start
  rw [if_pos (by omega), Int.toNat_natCast] at located
  have before : ((Location.after (source.toList.take span.start)).column - 1).toNat =
      (lead source span).length := by
    simp only [Location.after, lead]
    omega
  simp only [render, located, lineText_start, bind, Except.bind, String.toList_ofList, Span.width,
    before]
  split
  · rfl
  · by_cases countable : span.stop - span.start ≤ Span.maxWidth
    · simp only [if_pos countable, excerpt, marksOf, String.ofList_append]
      rfl
    · simp only [if_neg countable]

theorem isEmpty_trim_iff {cs : List Char} :
    (Text.trim cs).isEmpty = true ↔ ∀ c ∈ cs, Text.isBlank c = true := by
  rw [List.isEmpty_iff, Text.trim_eq_nil_iff]

theorem render_of_blank (message name : String) (inside : span.start ≤ source.length)
    (blank : ∀ c ∈ line source span, Text.isBlank c = true) :
    render message span source name = .ok (heading message name source span) := by
  rw [render_eq message name inside, if_pos (isEmpty_trim_iff.mpr blank)]

theorem render_of_countable (message name : String) (inside : span.start ≤ source.length)
    (solid : ¬ ∀ c ∈ line source span, Text.isBlank c = true)
    (countable : span.stop - span.start ≤ Span.maxWidth) :
    render message span source name =
      .ok (excerpt message name source span (marksOf source span)) := by
  rw [render_eq message name inside, if_neg (mt isEmpty_trim_iff.mp solid), if_pos countable]

/-- A diagnostic fails only if there is a line to show and the span is too wide to be counted. -/
theorem exists_render_iff (message name : String) (inside : span.start ≤ source.length) :
    (∃ text, render message span source name = .ok text) ↔
      (∀ c ∈ line source span, Text.isBlank c = true) ∨
        span.stop - span.start ≤ Span.maxWidth := by
  rw [render_eq message name inside, ← isEmpty_trim_iff]
  split
  · rename_i blank
    simp [blank]
  · rename_i solid
    split
    · rename_i countable
      simp [countable]
    · rename_i wide
      simp [solid, wide]

/-- The rest of the line is the source from the span on. -/
theorem drop_line_prefix_source (source : String) (span : Span) :
    (line source span).drop (lead source span).length <+: source.toList.drop span.start := by
  have whole : line source span <+:
      lead source span ++ (source.toList.drop span.start).takeWhile (· != '\n') :=
    List.rdropWhile_prefix _ _
  have rest := whole.drop (lead source span).length
  rw [List.drop_left] at rest
  exact rest.trans (List.takeWhile_prefix _)

/-- A span that starts in its line is underlined as far as it lies in the line. -/
theorem underlined_eq (nonempty : span.start < span.stop)
    (starts : (lead source span).length < (line source span).length) :
    underlined source span (marksOf source span) =
      (source.toList.take (min span.stop
        (span.start - (lead source span).length + (line source span).length))).drop
          span.start := by
  have short : (lead source span).length ≤ span.start := by
    have inside := (List.rtakeWhile_suffix (· != '\n') (source.toList.take span.start)).length_le
    rw [List.length_take] at inside
    exact Nat.le_trans inside (Nat.min_le_left _ _)
  have rest := List.prefix_iff_eq_take.mp (drop_line_prefix_source source span)
  rw [underlined, rest, List.take_take, List.drop_take, List.length_drop, marksOf]
  congr 1
  omega

/-- Whatever is shown starts with the heading. -/
theorem heading_prefix_text {text : String} (inside : span.start ≤ source.length)
    (rendered : render message span source name = .ok text) :
    (heading message name source span).toList <+: text.toList := by
  rw [render_eq message name inside] at rendered
  split at rendered
  · cases rendered
    exact List.prefix_refl _
  · split at rendered
    · cases rendered
      simp only [excerpt, Text.joinLines, String.intercalate_cons_cons, String.toList_append,
        List.append_assoc]
      exact List.prefix_append _ _
    · cases rendered

theorem not_mem_place (single : '\n' ∉ name.toList) (source : String) (span : Span) :
    '\n' ∉ (place name source span).toList := by
  have spelled : (place name source span).toList =
      name.toList ++ ':' :: ((Location.after (source.toList.take span.start)).describe.toList ++
        ": error: ".toList) := by
    simp only [place, toString, String.toList_append, List.append_assoc]
    rfl
  rw [spelled, List.mem_append, List.mem_cons, List.mem_append, not_or, not_or, not_or]
  exact ⟨single, by decide, Location.not_mem_describe _, by decide⟩

/-- The first line of a diagnostic carries the location, if the name is a single line. -/
theorem place_prefix_text {text : String} (inside : span.start ≤ source.length)
    (rendered : render message span source name = .ok text) (single : '\n' ∉ name.toList) :
    (place name source span).toList <+: text.toList.takeWhile (· != '\n') := by
  have headed := heading_prefix_text inside rendered
  rw [heading, String.toList_append] at headed
  obtain ⟨rest, split⟩ := (List.prefix_append _ _).trans headed
  have unbroken : ∀ c ∈ (place name source span).toList, (c != '\n') = true := by
    intro c present
    simpa using ne_of_mem_of_not_mem present (not_mem_place single source span)
  rw [← split, List.takeWhile_append_of_pos unbroken]
  exact List.prefix_append _ _

/-- The standard opener is underlined wherever a span starts with it. -/
theorem opener_prefix_underlined {options : Options} (standard : options.delimiters = .standard)
    (opens : span.Opens options source.toList) :
    (¬ ∀ c ∈ line source span, Text.isBlank c = true) ∧
      "<#".toList <+: underlined source span (marksOf source span) := by
  rw [Span.Opens, standard, Span.slice, List.drop_take] at opens
  have wide : 2 ≤ span.stop - span.start := by
    have size := opens.length_le
    rw [List.length_take] at size
    exact Nat.le_trans size (Nat.min_le_left _ _)
  obtain ⟨after, rest⟩ : ['<', '#'] <+: source.toList.drop span.start :=
    opens.trans (List.take_prefix _ _)
  -- Nothing at the end of the line reaches back into the opener.
  have kept : lead source span ++ ['<'] ++ ['#'] <+: line source span := by
    have whole : line source span =
        (lead source span ++ ['<'] ++ ['#'] ++ after.takeWhile (· != '\n')).rdropWhile
          (· == '\r') := by
      rw [line, ← rest]
      simp
    rw [whole]
    exact prefix_rdropWhile rfl _
  obtain ⟨tail, split⟩ := kept
  have size := congrArg List.length split
  simp only [List.length_append, List.length_cons, List.length_nil] at size
  constructor
  · intro blank
    have opener := blank '<' (by simp [← split])
    revert opener
    decide
  · have shown : ['<', '#'] <+: (line source span).drop (lead source span).length := by
      rw [← split, List.append_assoc, List.append_assoc, List.drop_left]
      exact List.prefix_append ['<', '#'] tail
    have two : "<#".toList.length = 2 := rfl
    refine List.prefix_take_iff.mpr ⟨shown, ?_⟩
    rw [two, marksOf]
    omega

end Diagnostic

open Diagnostic in
/-- A diagnostic gives the location of a span in its first line and underlines what the span
covers of the line in which it starts. It fails only for a span that is too wide to be counted,
and only if that line is not blank. What is wrong with a template with standard delimiters is
always shown, from the opener on. -/
theorem diagnostic_underlines (message name source : String) :
    (∀ span : Span, span.start ≤ source.length →
      ((∃ text, render message span source name = .ok text) ↔
        (∀ c ∈ line source span, Text.isBlank c = true) ∨
          span.stop - span.start ≤ Span.maxWidth) ∧
      (∀ text, render message span source name = .ok text → '\n' ∉ name.toList →
        (place name source span).toList <+: text.toList.takeWhile (· != '\n')) ∧
      ((∀ c ∈ line source span, Text.isBlank c = true) →
        render message span source name = .ok (heading message name source span)) ∧
      ((¬ ∀ c ∈ line source span, Text.isBlank c = true) →
        span.stop - span.start ≤ Span.maxWidth →
        ∃ marks, 1 ≤ marks ∧
          render message span source name = .ok (excerpt message name source span marks) ∧
          (span.start < span.stop → (lead source span).length < (line source span).length →
            underlined source span marks =
              (source.toList.take (min span.stop
                (span.start - (lead source span).length + (line source span).length))).drop
                  span.start))) ∧
    ∀ (options : Options) (template : String) (failure : CompileFailure),
      options.delimiters = .standard → source.length ≤ Span.maxWidth →
      compile options source template = .error failure →
        ∃ error marks, failure = .parse (.template error) ∧
          ofError error source name = .ok (excerpt error.message name source error.span marks) ∧
          "<#".toList <+: underlined source error.span marks := by
  constructor
  · intro span inside
    refine ⟨exists_render_iff message name inside, ?_, render_of_blank message name inside, ?_⟩
    · intro text rendered single
      exact place_prefix_text inside rendered single
    · intro solid countable
      exact ⟨marksOf source span, Nat.le_max_left _ _,
        render_of_countable message name inside solid countable, underlined_eq⟩
  · intro options template failure standard countable fails
    obtain ⟨error, rfl, parsed⟩ := exists_failure_of_compile fails
    have within := (Parse.within_ofText options source).2 error parsed
    have stops := within.2
    obtain ⟨solid, underlines⟩ :=
      opener_prefix_underlined standard (Parse.opens_of_failure parsed)
    refine ⟨error, marksOf source error.span, rfl, ?_, underlines⟩
    exact render_of_countable error.message name (Nat.le_trans within.1 stops) solid (by omega)

/-- An expression without an end, in a line that ends in a carriage return. The span that is
asked about goes on into the next line. -/
theorem diagnostic_underlines_clipped :
    let source := "a\r\n  <#= x\r\ny"
    let span := Span.sized 5 7
    span.start ≤ source.length ∧
    (∃ marks, 1 ≤ marks ∧
      Diagnostic.render "m" span source "t" =
        .ok (Diagnostic.excerpt "m" "t" source span marks) ∧
      Diagnostic.underlined source span marks = "<#= x".toList) ∧
    ∃ error marks, compile {} source "u" = .error (.parse (.template error)) ∧
      Diagnostic.ofError error source "t" =
        .ok (Diagnostic.excerpt error.message "t" source error.span marks) ∧
      "<#".toList <+: Diagnostic.underlined source error.span marks := by
  intro source span
  obtain ⟨shown, failing⟩ := diagnostic_underlines "m" "t" source
  have inside : span.start ≤ source.length := by decide +kernel
  obtain ⟨-, -, -, excerpts⟩ := shown span inside
  have solid : ¬ ∀ c ∈ Diagnostic.line source span, Text.isBlank c = true := fun blank =>
    absurd (blank '<' (by decide +kernel)) (by decide)
  obtain ⟨marks, positive, rendered, underlines⟩ := excerpts solid (by decide +kernel)
  have clipped : Diagnostic.underlined source span marks = "<#= x".toList := by
    rw [underlines (by decide +kernel) (by decide +kernel)]
    decide +kernel
  have fails : compile {} source "u" =
      .error (.parse (.template (.unterminated (Span.sized 5 3) "<#=" "#>"))) := by decide +kernel
  obtain ⟨error, marks', same, diagnosed, opened⟩ :=
    failing {} "u" _ rfl (by decide +kernel) fails
  rw [same] at fails
  exact ⟨inside, ⟨marks, positive, rendered, clipped⟩, error, marks', fails, diagnosed, opened⟩

/-- A span that is wider than an index can count has no diagnostic, although it starts in the
source. -/
theorem diagnostic_fails_too_wide :
    let span := Span.sized 0 (2 ^ 63)
    span.start ≤ "x".length ∧ ¬ ∃ text, Diagnostic.render "m" span "x" "t" = .ok text := by
  intro span
  have refused : Diagnostic.render "m" span "x" "t" = .error .uncountable := by decide +kernel
  refine ⟨by decide +kernel, ?_⟩
  rintro ⟨text, shown⟩
  cases refused.symm.trans shown

end Stencil
