/-
# Pieces of a text

A separator cuts a text into pieces, always one more than there are separators,
so the empty text has one empty piece. Joining puts a separator between pieces.
A piece at the front of a text can also be known by its characters.
-/

namespace Stencil.Text

/-- The pieces between the occurrences of a separator character. -/
def pieces (separator : Char) : List Char → List (List Char)
  | [] => [[]]
  | c :: cs =>
    if c = separator then [] :: pieces separator cs
    else
      match pieces separator cs with
      | [] => [[c]]
      | piece :: rest => (c :: piece) :: rest

/-- Texts one below the other, without a line end after the last. -/
def joinLines (lines : List String) : String :=
  String.intercalate "\n" lines

/-- A front is all that is taken if its characters are, and the next one is not. -/
theorem takeWhile_eq_front {p : Char → Bool} {front back : List Char}
    (inside : ∀ c ∈ front, p c = true) (outside : ∀ c ∈ back.head?, p c = false) :
    (front ++ back).takeWhile p = front ∧ (front ++ back).dropWhile p = back := by
  rw [List.takeWhile_append_of_pos inside, List.dropWhile_append_of_pos inside]
  cases back with
  | nil => simp
  | cons c cs => simp [outside c rfl]

end Stencil.Text
