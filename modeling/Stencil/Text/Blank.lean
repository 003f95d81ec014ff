/-
# Blank characters and trimming

Blanks are the tab, the line breaks, the four information separators, the
space, the next-line and no-break characters, and the wider Unicode spaces.
Trimming removes a run of blanks from one end of a text or from both; it never
touches a character between two others that stay.
-/

namespace Stencil.Text

/-- The characters that count as white space. -/
def isBlank (c : Char) : Bool :=
  let n := c.toNat
  (9 ≤ n && n ≤ 13) || (28 ≤ n && n ≤ 32) || n == 0x85 || n == 0xA0 || n == 0x1680 ||
    (0x2000 ≤ n && n ≤ 0x200A) || n == 0x2028 || n == 0x2029 || n == 0x202F || n == 0x205F ||
    n == 0x3000

/-- Drop the blanks at the front. -/
def trimStart (cs : List Char) : List Char :=
  cs.dropWhile isBlank

/-- Drop the blanks at the back. -/
def trimEnd (cs : List Char) : List Char :=
  (cs.reverse.dropWhile isBlank).reverse

/-- Drop the blanks at both ends. -/
def trim (cs : List Char) : List Char :=
  trimEnd (trimStart cs)

/-- The text without the blanks at its ends. -/
def trimmed (s : String) : String :=
  String.ofList (trim s.toList)

/-- What is dropped at the front is blank. -/
theorem exists_trimStart (cs : List Char) :
    ∃ front, cs = front ++ trimStart cs ∧ ∀ c ∈ front, isBlank c = true := by
  refine ⟨cs.takeWhile isBlank, List.takeWhile_append_dropWhile.symm, ?_⟩
  exact List.all_eq_true.mp List.all_takeWhile

/-- What is dropped at the back is blank. -/
theorem exists_trimEnd (cs : List Char) :
    ∃ back, cs = trimEnd cs ++ back ∧ ∀ c ∈ back, isBlank c = true := by
  obtain ⟨front, split, blank⟩ := exists_trimStart cs.reverse
  refine ⟨front.reverse, ?_, ?_⟩
  · rw [trimEnd, ← List.reverse_append]
    exact List.reverse_eq_iff.mp split
  · intro c present
    exact blank c (List.mem_reverse.mp present)

theorem trimStart_subset (cs : List Char) : trimStart cs ⊆ cs :=
  (List.dropWhile_sublist isBlank).subset

theorem trimEnd_subset (cs : List Char) : trimEnd cs ⊆ cs := by
  intro c present
  exact List.mem_reverse.mp (trimStart_subset cs.reverse (List.mem_reverse.mp present))

theorem trim_subset (cs : List Char) : trim cs ⊆ cs := by
  intro c present
  exact trimStart_subset cs (trimEnd_subset _ present)

end Stencil.Text
