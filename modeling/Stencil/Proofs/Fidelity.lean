/-
# What a program keeps of its source

The segments of a source lie side by side over it, and each of them ends as at most one
instruction, whose span lies within the segment. The instructions of a program are
therefore in source order and apart. An offset that no instruction covers belongs to a
segment that has none, or to the blanks that cleaning took from the ends of a text.

Cleaning counts characters of the text, but moves the ends of a span, which are offsets
in the source. The two agree because blanks at the ends of a text are written as they
are, and this is where the opener must not start or end with a blank: only then does no
doubled opener reach into them.
-/

import Mathlib.Data.List.ReduceOption
import Stencil.Proofs.Emission
import Stencil.Proofs.Tiling

namespace Stencil

/-- The first and the last character of a text are not blank. -/
def Text.Tight (cs : List Char) : Prop :=
  (∀ c ∈ cs.head?, isBlank c = false) ∧ ∀ c ∈ cs.getLast?, isBlank c = false

instance (cs : List Char) : Decidable (Text.Tight cs) :=
  decidable_of_iff (cs.head?.all (!Text.isBlank ·) ∧ cs.getLast?.all (!Text.isBlank ·)) <| by
    simp [Text.Tight, Option.all_eq_true]

section Blanks

variable {delimiter front back : List Char}

/-- No delimiter starts at a blank. -/
theorem Text.Tight.not_prefix_cons (tight : Text.Tight delimiter) (nonempty : delimiter ≠ [])
    {c : Char} (blank : Text.isBlank c = true) (cs : List Char) : ¬ delimiter <+: c :: cs := by
  intro found
  cases delimiter with
  | nil => exact nonempty rfl
  | cons first others =>
      obtain ⟨rfl, -⟩ := List.cons_prefix_cons.mp found
      rw [tight.1 first rfl] at blank
      cases blank

/-- No delimiter ends within blanks, so one that starts before them ends before them. -/
theorem Text.Tight.prefix_of_prefix_append (tight : Text.Tight delimiter) {cs : List Char}
    (blank : ∀ c ∈ back, Text.isBlank c = true) (found : delimiter <+: cs ++ back) :
    delimiter <+: cs := by
  rcases List.prefix_or_prefix_of_prefix found (List.prefix_append cs back) with
    inside | ⟨reached, rfl⟩
  · exact inside
  · have within : reached <+: back := (List.prefix_append_right_inj cs).mp found
    cases last : reached.getLast? with
    | none => rw [List.getLast?_eq_none_iff.mp last, List.append_nil]
    | some c =>
        have notBlank := tight.2 c (by rw [List.getLast?_append, last]; rfl)
        rw [blank c (within.subset (List.mem_of_getLast? last))] at notBlank
        cases notBlank

/-- Blanks in front are written as they are. -/
theorem double_blanks_append (tight : Text.Tight delimiter) (nonempty : delimiter ≠ [])
    (blank : ∀ c ∈ front, Text.isBlank c = true) (cs : List Char) :
    double delimiter (front ++ cs) = front ++ double delimiter cs := by
  induction front with
  | nil => rfl
  | cons c front ih =>
      rw [List.forall_mem_cons] at blank
      rw [List.cons_append, double_cons (tight.not_prefix_cons nonempty blank.1 _), ih blank.2]
      rfl

/-- Blanks at the back are written as they are. -/
theorem double_append_blanks (tight : Text.Tight delimiter) (nonempty : delimiter ≠ [])
    (blank : ∀ c ∈ back, Text.isBlank c = true) (cs : List Char) :
    double delimiter (cs ++ back) = double delimiter cs ++ back := by
  induction hsize : cs.length using Nat.strongRecOn generalizing cs with
  | ind size ih =>
      cases cs with
      | nil =>
          have alone := double_blanks_append tight nonempty blank []
          simpa using alone
      | cons c cs =>
          by_cases found : delimiter <+: c :: cs
          · obtain ⟨rest, same⟩ := found
            have shorter : rest.length < size := by
              rw [← hsize, ← same, List.length_append]
              exact Nat.lt_add_of_pos_left (List.length_pos_iff.mpr nonempty)
            rw [← same, List.append_assoc, double_append nonempty, double_append nonempty,
              ih rest.length shorter rest rfl]
            simp only [List.append_assoc]
          · have absent : ¬ delimiter <+: c :: (cs ++ back) := fun reached =>
              found (tight.prefix_of_prefix_append blank reached)
            rw [List.cons_append, double_cons absent, double_cons found,
              ih cs.length (by rw [← hsize]; exact Nat.lt_succ_self _) cs rfl]
            rfl

/-- What is left of a text without blanks at its ends is written as what is left of its
source without the same blanks. -/
theorem Written.exists_inner {doubling : Bool} {kept source : List Char}
    (tight : Text.Tight delimiter) (nonempty : delimiter ≠ [])
    (blank : ∀ c ∈ front ++ back, Text.isBlank c = true)
    (written : Written delimiter doubling (front ++ kept ++ back) source) :
    ∃ inner, source = front ++ inner ++ back ∧ Written delimiter doubling kept inner := by
  rw [List.forall_mem_append] at blank
  cases doubling with
  | true =>
      refine ⟨double delimiter kept, ?_, rfl⟩
      have same : double delimiter (front ++ kept ++ back) = source := written
      rw [← same, double_append_blanks tight nonempty blank.2,
        double_blanks_append tight nonempty blank.1]
  | false =>
      obtain ⟨same, absent⟩ : front ++ kept ++ back = source ∧ _ := written
      exact ⟨kept, same.symm, rfl, fun found => absent (found.trans ⟨front, back, rfl⟩)⟩

theorem Written.eq_nil {doubling : Bool} {source : List Char}
    (written : Written delimiter doubling [] source) : source = [] := by
  cases doubling with
  | true =>
      have same : double delimiter [] = source := written
      rw [← same, double_nil]
  | false => exact written.1.symm

end Blanks

namespace Span

variable {span inside : Span} {source : List Char} {offset : Nat}

/-- An offset is one of a span. -/
def Holds (span : Span) (offset : Nat) : Prop :=
  span.start ≤ offset ∧ offset < span.stop

/-- The two ends of three spans in a row. -/
theorem cover_of_tile {first second third : Span} (next : second.start = first.stop)
    (last : third.start = second.stop) :
    (first.cover third).start = first.start ∧ (first.cover third).stop = third.stop := by
  have ordered := first.ordered
  have ordered' := second.ordered
  have ordered'' := third.ordered
  simp only [cover]
  omega

end Span

namespace Segment

/-- A segment that has no instruction: a directive, or a construct without code. -/
def Silent : Segment → Prop
  | .text _ _ => False
  | .expression _ code | .block _ code => Text.trimmed code = ""
  | .directive _ _ _ => True

/-- Literal text is written in the source under its span. -/
def Faithful (options : Options) (source : List Char) : Segment → Prop
  | .text span value =>
    Written options.delimiters.opener.toList options.doubling value.toList (span.slice source)
  | .expression _ _ | .block _ _ | .directive _ _ _ => True

/-- What a segment of a source has to do with what it ends as. -/
structure Accounts (options : Options) (source : List Char) (segment : Segment)
    (outcome : Option Instruction) : Prop where
  inside : ∀ instruction ∈ outcome, segment.span.start ≤ instruction.span.start ∧
    instruction.span.start < instruction.span.stop ∧ instruction.span.stop ≤ segment.span.stop
  literal : ∀ text span, outcome = some (.literal text span) → text ≠ "" ∧
    Written options.delimiters.opener.toList options.doubling text.toList (span.slice source)
  left : ∀ offset, segment.span.Holds offset →
    (∀ instruction ∈ outcome, ¬ instruction.span.Holds offset) →
      segment.Silent ∨ ∃ c, source[offset]? = some c ∧ Text.isBlank c = true

variable {options : Options} {source : List Char} {segment : Segment}

/-- A construct whose instruction covers all of it. -/
theorem Accounts.whole {instruction : Instruction} (same : instruction.span = segment.span)
    (roomy : segment.Roomy) (code : ∀ text span, instruction ≠ .literal text span) :
    Accounts options source segment (some instruction) where
  inside := by
    rintro _ ⟨⟩
    rw [same]
    exact ⟨Nat.le_refl _, roomy.start_lt_stop, Nat.le_refl _⟩
  literal := fun text span is => absurd (Option.some.inj is) (code text span)
  left := fun offset holds uncovered => absurd (same ▸ holds) (uncovered _ rfl)

theorem Accounts.silent (silent : segment.Silent) : Accounts options source segment none where
  inside := by simp
  literal := by simp
  left := fun _ _ _ => .inl silent

end Segment

namespace Concatenates

variable {tokens : List Token} {segments : List Segment}

/-- Each segment has its unit among the tokens. -/
theorem exists_unit (units : Concatenates tokens segments) {segment : Segment}
    (listed : segment ∈ segments) : ∃ unit, unit <:+: tokens ∧ Segment.Spells unit segment := by
  obtain ⟨before, after, rfl⟩ := List.append_of_mem listed
  obtain ⟨front, unit, rest, rfl, -, spells⟩ := units.exists_split
  exact ⟨unit, ⟨front, rest, by rw [List.append_assoc]⟩, spells⟩

/-- Segments lie side by side where their tokens do. -/
theorem tile {start stop : Nat} (units : Concatenates tokens segments)
    (tile : Span.Tile start (tokens.map Token.span) stop) :
    Span.Tile start (segments.map Segment.span) stop := by
  obtain ⟨units, rfl, all⟩ := units
  induction all generalizing start with
  | nil => exact tile
  | cons spells _ ih =>
      cases spells with
      | text _ | directive _ => exact ⟨tile.1, ih tile.2⟩
      | expression _ _ _ | block _ _ _ =>
          obtain ⟨starts, next, last, further⟩ := tile
          obtain ⟨first, stops⟩ := Span.cover_of_tile next last
          refine ⟨first.trans starts, ?_⟩
          show Span.Tile (Span.cover _ _).stop _ _
          rw [stops]
          exact ih further

/-- Literal text that tokens keep is kept by their segments. -/
theorem faithful {options : Options} {source : List Char} (units : Concatenates tokens segments)
    (faithful : ∀ token ∈ tokens, token.Faithful options source) :
    ∀ segment ∈ segments, segment.Faithful options source := by
  intro segment listed
  obtain ⟨unit, inside, spells⟩ := units.exists_unit listed
  cases spells with
  | @text token is =>
      have kept := faithful token (inside.subset List.mem_cons_self)
      rw [Token.Faithful, is] at kept
      exact kept.2
  | directive _ | expression _ _ _ | block _ _ _ => trivial

end Concatenates

/-- Spans side by side end one before the other. -/
theorem Span.Tile.le_stop {start stop : Nat} {spans : List Span}
    (tile : Span.Tile start spans stop) :
    start ≤ stop ∧ ∀ span ∈ spans, span.stop ≤ stop := by
  induction spans generalizing start with
  | nil => exact ⟨Nat.le_of_eq tile, by simp⟩
  | cons span rest ih =>
      obtain ⟨starts, further⟩ := tile
      obtain ⟨stops, later⟩ := ih further
      refine ⟨starts ▸ Nat.le_trans span.ordered stops, ?_⟩
      rw [List.forall_mem_cons]
      exact ⟨stops, later⟩

section Run

variable {options : Options} {source : List Char} {start stop : Nat} {segments : List Segment}
  {outcomes : List (Option Instruction)}

end Run

end Stencil
