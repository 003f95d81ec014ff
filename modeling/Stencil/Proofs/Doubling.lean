/-
# Doubled delimiters

A delimiter inside a text is written twice, and reading undoes it. Writing here is
a replacement from left to right that does not look back, so nothing is assumed of
a delimiter but that it is not empty: it may overlap itself, and a text may end in
the middle of one.

The step that makes reading an inverse of writing is that a value and the source it
was read from agree for at least the length of a delimiter. A delimiter at the
front of the value would therefore have stood at the front of the source, where
reading would have stopped or undone it.
-/

import Stencil.Scan

namespace Stencil

/-- Write every occurrence of a delimiter twice, from left to right. -/
def double (delimiter : List Char) : List Char → List Char
  | [] => []
  | c :: cs =>
    if delimiter.isPrefixOf (c :: cs) then
      delimiter ++ delimiter ++ double delimiter (cs.drop (delimiter.length - 1))
    else c :: double delimiter cs
termination_by cs => cs.length
decreasing_by all_goals simp only [List.length_cons, List.length_drop]; omega

/-- A source is how a value is written: with doubling on, delimiters in the value are
written twice; with doubling off, there are none and the value is written as it is. -/
def Written (delimiter : List Char) (doubling : Bool) (value source : List Char) : Prop :=
  if doubling then double delimiter value = source
  else value = source ∧ ¬ delimiter <:+: value

section Double

variable {delimiter : List Char}

@[simp]
theorem double_nil : double delimiter [] = [] := by
  rw [double]

/-- What follows a non-empty front of a list, counted from its second element. -/
private theorem drop_pred_of_append {front back cs : List Char} {c : Char} (h : front ≠ [])
    (same : front ++ back = c :: cs) : cs.drop (front.length - 1) = back := by
  cases front with
  | nil => exact absurd rfl h
  | cons first others =>
      rw [List.cons_append, List.cons.injEq] at same
      rw [← same.2, List.length_cons, Nat.add_sub_cancel, List.drop_left]

/-- A delimiter is written twice. -/
theorem double_append (h : delimiter ≠ []) (cs : List Char) :
    double delimiter (delimiter ++ cs) = delimiter ++ delimiter ++ double delimiter cs := by
  cases hcs : delimiter ++ cs with
  | nil => exact absurd (List.append_eq_nil_iff.mp hcs).1 h
  | cons first others =>
      have front : delimiter.isPrefixOf (first :: others) = true := by
        rw [List.isPrefixOf_iff_prefix, ← hcs]
        exact List.prefix_append delimiter cs
      rw [double, if_pos front, drop_pred_of_append h hcs]

/-- A character at which no delimiter starts is written as it is. -/
theorem double_cons {c : Char} {cs : List Char} (h : ¬ delimiter <+: c :: cs) :
    double delimiter (c :: cs) = c :: double delimiter cs := by
  rw [double, if_neg]
  rwa [List.isPrefixOf_iff_prefix]

end Double

namespace Stretch

/-- How a stretch comes about, without offsets: a doubled delimiter is undone, a
single one ends the stretch, and any other character is part of it. -/
inductive Reads (delimiter : List Char) (doubling : Bool) : List Char → Stretch → Prop
  | ended : Reads delimiter doubling [] ⟨[], 0, []⟩
  | doubled {tail : List Char} {next : Stretch} (on : doubling = true)
      (further : Reads delimiter doubling tail next) :
      Reads delimiter doubling (delimiter ++ delimiter ++ tail)
        ⟨delimiter ++ next.value, 2 * delimiter.length + next.size, next.rest⟩
  | stopped {cs : List Char} (single : doubling = true → ¬ delimiter ++ delimiter <+: cs)
      (found : delimiter <+: cs) : Reads delimiter doubling cs ⟨[], 0, cs⟩
  | passed {c : Char} {cs : List Char} {next : Stretch} (absent : ¬ delimiter <+: c :: cs)
      (further : Reads delimiter doubling cs next) :
      Reads delimiter doubling (c :: cs) ⟨c :: next.value, 1 + next.size, next.rest⟩

variable {delimiter : List Char} {doubling : Bool}

/-- What a doubled delimiter at the front leaves to be read. -/
private theorem drop_doubled {c : Char} {cs : List Char} (h : delimiter ≠ [])
    (front : delimiter ++ delimiter <+: c :: cs) :
    c :: cs = delimiter ++ delimiter ++ cs.drop (2 * delimiter.length - 1) := by
  obtain ⟨back, same⟩ := front
  have twice : (delimiter ++ delimiter).length = 2 * delimiter.length := by
    rw [List.length_append, Nat.two_mul]
  rw [← same, ← twice, drop_pred_of_append (by simpa using h) same]

/-- Reading does what the rules say. -/
theorem reads_read (h : delimiter ≠ []) (doubling : Bool) (cs : List Char) :
    Reads delimiter doubling cs (read delimiter doubling cs) := by
  fun_induction read delimiter doubling cs with
  | case1 => exact .ended
  | case2 c cs doubled next ih =>
      rw [Bool.and_eq_true, List.isPrefixOf_iff_prefix] at doubled
      rw [drop_doubled h doubled.2]
      exact .doubled doubled.1 ih
  | case3 c cs notDoubled found =>
      rw [List.isPrefixOf_iff_prefix] at found
      refine .stopped (fun on front => notDoubled ?_) found
      rw [on, Bool.true_and, List.isPrefixOf_iff_prefix]
      exact front
  | case4 c cs _ absent next ih =>
      rw [List.isPrefixOf_iff_prefix] at absent
      exact .passed absent ih

namespace Reads

variable {cs : List Char} {stretch : Stretch}

/-- A stretch and what follows it make up the source. -/
theorem exists_source (h : Reads delimiter doubling cs stretch) :
    ∃ source, cs = source ++ stretch.rest ∧ source.length = stretch.size := by
  induction h with
  | ended => exact ⟨[], rfl, rfl⟩
  | doubled on further ih =>
      obtain ⟨source, same, size⟩ := ih
      refine ⟨delimiter ++ delimiter ++ source, ?_, ?_⟩
      · rw [same, List.append_assoc _ source]
      · rw [List.length_append, List.length_append, size, Nat.two_mul]
  | stopped single found => exact ⟨[], rfl, rfl⟩
  | @passed c cs next absent further ih =>
      obtain ⟨source, same, size⟩ := ih
      refine ⟨c :: source, ?_, ?_⟩
      · rw [same, List.cons_append]
      · rw [List.length_cons, size, Nat.add_comm]

/-- A stretch ends at a delimiter or at the end of the source. -/
theorem rest_eq_nil_or_prefix (h : Reads delimiter doubling cs stretch) :
    stretch.rest = [] ∨ delimiter <+: stretch.rest := by
  induction h with
  | ended => exact Or.inl rfl
  | doubled on further ih => exact ih
  | stopped single found => exact Or.inr found
  | passed absent further ih => exact ih

/-- Only an empty stretch of source has an empty value. -/
theorem size_eq_zero_of_value_eq_nil (h : Reads delimiter doubling cs stretch)
    (nonempty : delimiter ≠ []) (empty : stretch.value = []) : stretch.size = 0 := by
  cases h with
  | ended => rfl
  | doubled on further => exact absurd (List.append_eq_nil_iff.mp empty).1 nonempty
  | stopped single found => rfl
  | passed absent further => exact absurd empty (List.cons_ne_nil _ _)

/-- The rules leave no choice: there is one stretch to read. -/
theorem read_eq (h : Reads delimiter doubling cs stretch) (nonempty : delimiter ≠ []) :
    read delimiter doubling cs = stretch := by
  induction h with
  | ended => rw [read]
  | @doubled tail next on further ih =>
      cases source : delimiter ++ delimiter ++ tail with
      | nil => simp [nonempty] at source
      | cons c cs =>
          have twice : delimiter ++ delimiter <+: c :: cs := ⟨tail, source⟩
          have rest := drop_doubled nonempty twice
          rw [← source] at rest
          rw [read, if_pos (by simp [on, List.isPrefixOf_iff_prefix, twice]),
            ← List.append_cancel_left rest, ih]
  | @stopped cs single found =>
      cases cs with
      | nil => exact absurd (List.prefix_nil.mp found) nonempty
      | cons c cs =>
          rw [read, if_neg, if_pos (List.isPrefixOf_iff_prefix.mpr found)]
          rw [Bool.and_eq_true, List.isPrefixOf_iff_prefix]
          exact fun both => single both.1 both.2
  | passed absent further ih =>
      rw [read, if_neg, if_neg (mt List.isPrefixOf_iff_prefix.mp absent), ih]
      rw [Bool.and_eq_true, List.isPrefixOf_iff_prefix]
      exact fun both => absent ((List.prefix_append _ _).trans both.2)

/-- A value agrees with its source up to the length of a delimiter. -/
theorem take_value_prefix (h : Reads delimiter doubling cs stretch) {n : Nat}
    (short : n ≤ delimiter.length) : stretch.value.take n <+: cs := by
  induction h generalizing n with
  | ended => simp
  | @doubled tail next on further ih =>
      rw [List.take_append_of_le_length short, List.append_assoc]
      exact (List.take_prefix n delimiter).trans (List.prefix_append _ _)
  | stopped single found => simp
  | @passed c cs next absent further ih =>
      cases n with
      | zero => simp
      | succ m =>
          rw [List.take_succ_cons, List.cons_prefix_cons]
          exact ⟨rfl, ih (Nat.le_of_succ_le short)⟩

/-- No delimiter starts in a value where none starts in the source. -/
theorem not_prefix_cons_value {c : Char} (h : Reads delimiter doubling cs stretch)
    (absent : ¬ delimiter <+: c :: cs) : ¬ delimiter <+: c :: stretch.value := by
  intro front
  apply absent
  cases delimiter with
  | nil => exact List.nil_prefix
  | cons first others =>
      rw [List.cons_prefix_cons] at front ⊢
      refine ⟨front.1, ?_⟩
      rw [List.prefix_iff_eq_take.mp front.2]
      exact h.take_value_prefix (Nat.le_succ others.length)

/-- With doubling on, writing the value gives the source back. -/
theorem double_value (h : Reads delimiter true cs stretch) (nonempty : delimiter ≠ []) :
    double delimiter stretch.value ++ stretch.rest = cs := by
  induction h with
  | ended => simp
  | doubled on further ih =>
      rw [double_append nonempty, List.append_assoc, ih]
  | stopped single found => simp
  | passed absent further ih =>
      rw [double_cons (further.not_prefix_cons_value absent), List.cons_append, ih]

/-- With doubling off, the value is the source. -/
theorem value_append_rest (h : Reads delimiter false cs stretch) :
    stretch.value ++ stretch.rest = cs := by
  induction h with
  | ended => rfl
  | doubled on further ih => cases on
  | stopped single found => rfl
  | passed absent further ih => rw [List.cons_append, ih]

/-- With doubling off, a value holds no delimiter. -/
theorem not_infix_value (h : Reads delimiter false cs stretch) (nonempty : delimiter ≠ []) :
    ¬ delimiter <:+: stretch.value := by
  induction h with
  | ended => simpa using nonempty
  | doubled on further ih => cases on
  | stopped single found => simpa using nonempty
  | passed absent further ih =>
      rw [List.infix_cons_iff]
      rintro (front | inside)
      · exact further.not_prefix_cons_value absent front
      · exact ih inside

/-- A stretch of source is how its value is written. -/
theorem exists_written (h : Reads delimiter doubling cs stretch) (nonempty : delimiter ≠ []) :
    ∃ source, cs = source ++ stretch.rest ∧ source.length = stretch.size ∧
      Written delimiter doubling stretch.value source := by
  obtain ⟨source, same, size⟩ := h.exists_source
  refine ⟨source, same, size, ?_⟩
  cases doubling with
  | true => exact List.append_cancel_right ((h.double_value nonempty).trans same)
  | false =>
      exact ⟨List.append_cancel_right (h.value_append_rest.trans same),
        h.not_infix_value nonempty⟩

end Reads

end Stretch

end Stencil
