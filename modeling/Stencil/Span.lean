/-
# Spans of a template source

A span is a half-open range of character offsets. Every construct carries the
span it came from, so that any later report can point at the source. The order of
the two ends is part of the type; `Span.ofInts` is where an unordered pair is
turned away.
-/

namespace Stencil

/-- What can be wrong with a place in a source. -/
inductive PlaceFault
  /-- The ends of a range are negative or out of order. -/
  | disordered (start stop : Int)
  /-- A range has more characters than an index can count. -/
  | uncountable
  /-- An offset lies outside of the source. -/
  | outside (offset : Int) (length : Nat)
  /-- A line table has no line of that number. -/
  | noSuchLine
  deriving DecidableEq

/-- The report of a misplaced offset, range or line. -/
def PlaceFault.message : PlaceFault → String
  | .disordered start stop => s!"Invalid span: ({start}, {stop})"
  | .uncountable => "cannot fit 'int' into an index-sized integer"
  | .outside offset length => s!"Offset {offset} is outside of the source (length {length})"
  | .noSuchLine => "list index out of range"

/-- A half-open range of character offsets. -/
@[ext]
structure Span where
  /-- The offset of the first character. -/
  start : Nat
  /-- The offset after the last character. -/
  stop : Nat
  ordered : start ≤ stop
  deriving DecidableEq

namespace Span

/-- The range of the given length at an offset. -/
def sized (start length : Nat) : Span :=
  ⟨start, start + length, Nat.le_add_right start length⟩

/-- The range between two numbers, if they are in order and not negative. -/
def ofInts (start stop : Int) : Except PlaceFault Span :=
  if h : 0 ≤ start ∧ start ≤ stop then
    .ok ⟨start.toNat, stop.toNat, Int.toNat_le_toNat h.2⟩
  else .error (.disordered start stop)

/-- The largest width that can be asked for. -/
def maxWidth : Nat := Nat.pow 2 63 - 1

/-- The number of characters in the range. -/
def width (span : Span) : Except PlaceFault Nat :=
  if span.stop - span.start ≤ maxWidth then .ok (span.stop - span.start)
  else .error .uncountable

/-- The characters of a source that the range covers; what lies beyond the source
is left out. -/
def slice (span : Span) (source : List Char) : List Char :=
  (source.take span.stop).drop span.start

/-- The smallest range that contains both. -/
def cover (first second : Span) : Span :=
  ⟨min first.start second.start, max first.stop second.stop,
    Nat.le_trans (Nat.min_le_left _ _) (Nat.le_trans first.ordered (Nat.le_max_left _ _))⟩

/-- The ends of a range of some length are in order. -/
theorem ofInts_sized (start length : Nat) :
    ofInts start (start + length) = .ok (sized start length) := by
  rw [ofInts, dif_pos (by omega)]
  rfl

/-- The ends of the smallest range that contains two others are in order. -/
theorem ofInts_cover (first second : Span) :
    ofInts (min first.start second.start) (max first.stop second.stop) =
      .ok (first.cover second) := by
  have ordered := (first.cover second).ordered
  simp only [cover] at ordered
  rw [ofInts, dif_pos (by omega)]
  congr 1
  ext
  · simp only [cover]
    omega
  · simp only [cover]
    omega

/-- The range as it is shown in messages. -/
def describe (span : Span) : String :=
  s!"Span({span.start}, {span.stop})"

end Span

end Stencil
