/-
# Locations count line breaks

A line table is built once and searched many times. What it answers can be said without it: the
line of an offset is one more than the number of line breaks before it, its column is one more
than the number of characters since the last of them, and the text of a line is a piece of the
source between two line breaks.

Everything is said of a source that is split where the question is asked. The table of such a
source consists of the starts up to the split and of those beyond it, and the search stops
between the two.
-/

import Mathlib.Data.List.DropRight
import Stencil.LineTable

namespace Stencil

/-- The characters of a text since its last line break. -/
def Text.sinceBreak (cs : List Char) : List Char :=
  cs.rtakeWhile (· != '\n')

namespace Text

theorem not_mem_sinceBreak (cs : List Char) : '\n' ∉ sinceBreak cs := by
  intro present
  simpa using List.mem_rtakeWhile_imp present

/-- A text without a line break goes on with the line before it. -/
theorem sinceBreak_append {before more : List Char} (unbroken : '\n' ∉ more) :
    sinceBreak (before ++ more) = sinceBreak before ++ more := by
  have goesOn : ∀ c ∈ more.reverse, (c != '\n') = true := by
    intro c present
    rw [List.mem_reverse] at present
    simpa using ne_of_mem_of_not_mem present unbroken
  rw [sinceBreak, List.rtakeWhile, List.reverse_append, List.takeWhile_append_of_pos goesOn,
    List.reverse_append, List.reverse_reverse]
  rfl

/-- What stands before the last line of a text is empty or ends with a line break. -/
theorem exists_sinceBreak (cs : List Char) :
    ∃ front, cs = front ++ sinceBreak cs ∧ ∀ c ∈ front.getLast?, c = '\n' := by
  refine ⟨cs.rdropWhile (· != '\n'), List.rdropWhile_append_rtakeWhile.symm, ?_⟩
  intro c last
  obtain ⟨nonempty, same⟩ := List.mem_getLast?_eq_getLast last
  have stops := List.rdropWhile_last_not _ _ nonempty
  rw [← same] at stops
  simpa using stops

/-- A whole number is written with digits, after a sign if it is negative. -/
theorem eq_or_isDigit_of_mem_toString {n : Int} {c : Char} (present : c ∈ (toString n).toList) :
    c = '-' ∨ c.isDigit = true := by
  have digit {count : Nat} (listed : c ∈ (Nat.repr count).toList) : c.isDigit = true := by
    rw [Nat.repr, String.toList_ofList] at listed
    exact Nat.isDigit_of_mem_toDigits (by decide) (by decide) listed
  cases n with
  | ofNat count => exact .inr (digit present)
  | negSucc count =>
      change c ∈ ("-" ++ Nat.repr (count + 1)).toList at present
      rw [String.toList_append, List.mem_append] at present
      rcases present with sign | later
      · exact .inl (List.mem_singleton.mp sign)
      · exact .inr (digit later)

theorem not_mem_toString (n : Int) : '\n' ∉ (toString n).toList := by
  intro present
  rcases eq_or_isDigit_of_mem_toString present with minus | digit
  · cases minus
  · cases digit

end Text

/-- The location right after a text. -/
def Location.after (before : List Char) : Location :=
  ⟨1 + before.count '\n', 1 + (Text.sinceBreak before).length⟩

/-- A location is in an earlier line, or in the same line and further to the left. -/
def Location.Before (first second : Location) : Prop :=
  first.line < second.line ∨ first.line = second.line ∧ first.column < second.column

namespace Location

theorem Before.irrefl (location : Location) : ¬ location.Before location := by
  simp [Before]

theorem Before.asymm {first second : Location} (before : first.Before second) :
    ¬ second.Before first := by
  simp only [Before] at *
  omega

/-- Every character moves on: to the next line, or to the right. -/
theorem after_before_append (before : List Char) {more : List Char} (nonempty : more ≠ []) :
    (after before).Before (after (before ++ more)) := by
  by_cases broken : '\n' ∈ more
  · have breaks := List.count_pos_iff.mpr broken
    refine .inl ?_
    simp only [after, List.count_append]
    omega
  · have room := List.length_pos_iff.mpr nonempty
    refine .inr ⟨?_, ?_⟩
    · simp [after, List.count_eq_zero.mpr broken]
    · simp only [after, Text.sinceBreak_append broken, List.length_append]
      omega

/-- A location is shown in one line. -/
theorem not_mem_describe (location : Location) : '\n' ∉ location.describe.toList := by
  have spelled : location.describe.toList =
      (toString location.line).toList ++ ':' :: (toString location.column).toList := by
    simp only [describe, toString, String.toList_append, List.append_assoc]
    rfl
  rw [spelled, List.mem_append, List.mem_cons, not_or, not_or]
  exact ⟨Text.not_mem_toString _, by decide, Text.not_mem_toString _⟩

/-- Locations are in the order of their offsets. -/
theorem after_take_before {source : List Char} {first second : Nat} (less : first < second)
    (inside : second ≤ source.length) :
    (after (source.take first)).Before (after (source.take second)) := by
  have split : source.take second = source.take first ++ (source.take second).drop first := by
    have parts := List.take_append_drop first (source.take second)
    rwa [List.take_take, Nat.min_eq_left (Nat.le_of_lt less), eq_comm] at parts
  rw [split]
  apply after_before_append
  rw [ne_eq, List.drop_eq_nil_iff, List.length_take, Nat.min_eq_left inside]
  omega

theorem after_take_before_iff {source : List Char} {first second : Nat}
    (inside : first ≤ source.length) (inside' : second ≤ source.length) :
    (after (source.take first)).Before (after (source.take second)) ↔ first < second := by
  constructor
  · intro before
    rcases Nat.lt_trichotomy first second with less | rfl | more
    · exact less
    · exact absurd before (Before.irrefl _)
    · exact absurd before (after_take_before more inside).asymm
  · intro less
    exact after_take_before less inside'

theorem after_take_eq_iff {source : List Char} {first second : Nat}
    (inside : first ≤ source.length) (inside' : second ≤ source.length) :
    after (source.take first) = after (source.take second) ↔ first = second := by
  constructor
  · intro same
    have notLess := mt (after_take_before_iff inside inside').mpr (same ▸ Before.irrefl _)
    have notMore := mt (after_take_before_iff inside' inside).mpr (same ▸ Before.irrefl _)
    omega
  · rintro rfl
    rfl

end Location

namespace LineTable

section Starts

theorem startsAfter_append (offset : Nat) (before after : List Char) :
    startsAfter offset (before ++ after) =
      startsAfter offset before ++ startsAfter (offset + before.length) after := by
  induction before generalizing offset with
  | nil => simp [startsAfter]
  | cons c before ih =>
      have shifted : offset + 1 + before.length = offset + (before.length + 1) := by omega
      simp only [List.cons_append, startsAfter, ih, List.length_cons, shifted]
      split <;> rfl

/-- There is a start for each line break. -/
theorem length_startsAfter (offset : Nat) (cs : List Char) :
    (startsAfter offset cs).length = cs.count '\n' := by
  induction cs generalizing offset with
  | nil => rfl
  | cons c cs ih =>
      rw [startsAfter, List.count_cons]
      split
      · rename_i broken
        rw [List.length_cons, ih, broken]
        rfl
      · rename_i other
        rw [ih, if_neg (by simpa using other)]
        rfl

/-- A line starts right after a character of the text. -/
theorem bounds_of_mem_startsAfter {offset start : Nat} {cs : List Char}
    (listed : start ∈ startsAfter offset cs) : offset < start ∧ start ≤ offset + cs.length := by
  induction cs generalizing offset with
  | nil => cases listed
  | cons c cs ih =>
      have later (deeper : start ∈ startsAfter (offset + 1) cs) :
          offset < start ∧ start ≤ offset + (cs.length + 1) := by
        have bounds := ih deeper
        omega
      rw [startsAfter] at listed
      rw [List.length_cons]
      split at listed
      · rcases List.mem_cons.mp listed with rfl | deeper
        · omega
        · exact later deeper
      · exact later listed

/-- The last line of a text starts where the characters since the last line break do. -/
theorem getLastD_startsAfter (before : List Char) :
    (startsAfter 0 before).getLastD 0 + (Text.sinceBreak before).length = before.length := by
  induction before using List.reverseRecOn with
  | nil => rfl
  | append_singleton before c ih =>
      rw [startsAfter_append, Text.sinceBreak, List.rtakeWhile_concat, ← Text.sinceBreak]
      by_cases broken : c = '\n'
      · simp [startsAfter, broken]
      · simp [startsAfter, broken, ← ih, Nat.add_assoc]

end Starts

section Table

variable {source : String} {before after : List Char}

/-- The starts up to an offset, and those beyond it. -/
theorem starts_of_split (split : source.toList = before ++ after) :
    (ofText source).starts =
      (0 :: startsAfter 0 before) ++ startsAfter before.length after := by
  simp only [ofText, split, startsAfter_append, Nat.zero_add, List.cons_append]

/-- The search for an offset stops at the lines that start beyond it. -/
theorem takeWhile_starts (split : source.toList = before ++ after) :
    (ofText source).starts.takeWhile (· ≤ before.length) = 0 :: startsAfter 0 before := by
  have reached : ∀ start ∈ 0 :: startsAfter 0 before, decide (start ≤ before.length) = true := by
    intro start listed
    rcases List.mem_cons.mp listed with rfl | later
    · simp
    · simpa using (bounds_of_mem_startsAfter later).2
  have beyond : (startsAfter before.length after).takeWhile (· ≤ before.length) = [] := by
    cases starts : startsAfter before.length after with
    | nil => rfl
    | cons start others =>
        have bounds : before.length < start :=
          (bounds_of_mem_startsAfter (starts ▸ List.mem_cons_self)).1
        rw [List.takeWhile_cons_of_neg]
        simpa using bounds
  rw [starts_of_split split, List.takeWhile_append_of_pos reached, beyond, List.append_nil]

theorem locate_of_split (split : source.toList = before ++ after) :
    (ofText source).locate before.length = .ok (Location.after before) := by
  have inside : 0 ≤ (before.length : Int) ∧
      (before.length : Int) ≤ (ofText source).source.length := by
    simp only [ofText, split, List.length_append]
    omega
  have last := getLastD_startsAfter before
  rw [locate, if_pos inside, Int.toNat_natCast, takeWhile_starts split]
  simp only [Location.after, List.length_cons, length_startsAfter, List.getLastD_cons]
  congr 2
  · omega
  · omega

/-- An offset of the source has the location that counting gives, and no other has one. -/
theorem locate_eq (source : String) (offset : Int) :
    (ofText source).locate offset =
      if 0 ≤ offset ∧ offset ≤ source.length then
        .ok (Location.after (source.toList.take offset.toNat))
      else .error (.outside offset source.length) := by
  split
  · rename_i inside
    have size : (source.toList.take offset.toNat).length = offset.toNat := by
      rw [List.length_take, String.length_toList]
      omega
    have located := locate_of_split (List.take_append_drop offset.toNat source.toList).symm
    rwa [size, Int.toNat_of_nonneg inside.1] at located
  · rename_i outside
    have same : (ofText source).source.length = source.length := String.length_toList
    rw [locate, same, if_neg outside]

theorem eq_after_of_locate {offset : Nat} {location : Location}
    (located : (ofText source).locate offset = .ok location) :
    offset ≤ source.toList.length ∧ location = Location.after (source.toList.take offset) := by
  rw [locate_eq, Int.toNat_natCast] at located
  split at located
  · rename_i inside
    cases located
    rw [String.length_toList]
    exact ⟨Int.ofNat_le.mp inside.2, rfl⟩
  · cases located

end Table

/-- A line of a text, with what stands before and after it. -/
structure IsLine (source front line back : List Char) : Prop where
  split : source = front ++ line ++ back
  starts : ∀ c ∈ front.getLast?, c = '\n'
  whole : '\n' ∉ line
  stops : ∀ c ∈ back.head?, c = '\n'

namespace IsLine

variable {source front line back : List Char}

/-- Only the first line has nothing before it. -/
theorem front_eq_nil (isLine : IsLine source front line back) (first : front.count '\n' = 0) :
    front = [] := by
  cases last : front.getLast? with
  | none => exact List.getLast?_eq_none_iff.mp last
  | some c =>
      have broken := isLine.starts c last
      exact absurd (broken ▸ List.mem_of_getLast? last) (List.count_eq_zero.mp first)

/-- A line break in front makes another line. -/
theorem cons_break (isLine : IsLine source front line back) :
    IsLine ('\n' :: source) ('\n' :: front) line back := by
  refine ⟨by rw [isLine.split]; rfl, ?_, isLine.whole, isLine.stops⟩
  intro c last
  rw [List.getLast?_cons] at last
  cases deeper : front.getLast? with
  | none =>
      rw [deeper] at last
      exact (Option.some.inj last).symm
  | some other =>
      rw [deeper] at last
      cases last
      exact isLine.starts other deeper

/-- Another character in front makes the first line longer. -/
theorem cons_first {c : Char} (isLine : IsLine source [] line back) (other : c ≠ '\n') :
    IsLine (c :: source) [] (c :: line) back := by
  refine ⟨by rw [isLine.split]; rfl, by simp, ?_, isLine.stops⟩
  rw [List.mem_cons, not_or]
  exact ⟨other.symm, isLine.whole⟩

/-- Another character in front changes no later line. -/
theorem cons_later {c : Char} (isLine : IsLine source front line back) (later : front ≠ []) :
    IsLine (c :: source) (c :: front) line back := by
  refine ⟨by rw [isLine.split]; rfl, ?_, isLine.whole, isLine.stops⟩
  intro last isLast
  rw [List.getLast?_cons_of_ne_nil later] at isLast
  exact isLine.starts last isLast

end IsLine

/-- The line that a place between two texts lies in. -/
theorem isLine_around (before after : List Char) :
    ∃ front back,
      IsLine (before ++ after) front
        (Text.sinceBreak before ++ after.takeWhile (· != '\n')) back ∧
      front.count '\n' = before.count '\n' ∧
      before = front ++ Text.sinceBreak before := by
  obtain ⟨front, split, starts⟩ := Text.exists_sinceBreak before
  have noBreak := Text.not_mem_sinceBreak before
  have here : '\n' ∉ after.takeWhile (· != '\n') := by
    intro present
    simpa using List.mem_takeWhile_imp present
  refine ⟨front, after.dropWhile (· != '\n'), ⟨?_, starts, ?_, ?_⟩, ?_, split⟩
  · rw [List.append_assoc, List.append_assoc, List.takeWhile_append_dropWhile, ← List.append_assoc,
      ← split]
  · rw [List.mem_append, not_or]
    exact ⟨noBreak, here⟩
  · intro c first
    have stops := List.head?_dropWhile_not (· != '\n') after
    rw [first] at stops
    simpa using stops
  · have counts := congrArg (List.count '\n') split
    rw [List.count_append, List.count_eq_zero.mpr noBreak, Nat.add_zero] at counts
    exact counts.symm

/-- Line breaks cut a text into one piece more than there are of them. -/
theorem length_splitOn (cs : List Char) : (cs.splitOn '\n').length = 1 + cs.count '\n' := by
  induction cs with
  | nil => rfl
  | cons c cs ih =>
      rw [List.splitOn, List.splitOnP_cons_eq_if_modifyHead, ← List.splitOn, List.count_cons]
      split
      · rw [List.length_cons, ih, Nat.add_assoc]
      · rw [List.length_modifyHead, ih, Nat.add_zero]

/-- Each piece between line breaks is a line, after as many line breaks as pieces. -/
theorem exists_isLine {source line : List Char} {index : Nat}
    (listed : (source.splitOn '\n')[index]? = some line) :
    ∃ front back, IsLine source front line back ∧ front.count '\n' = index := by
  induction source generalizing index line with
  | nil =>
      cases index with
      | zero =>
          cases listed
          exact ⟨[], [], ⟨rfl, by simp, by simp, by simp⟩, rfl⟩
      | succ index => cases listed
  | cons c source ih =>
      rw [List.splitOn, List.splitOnP_cons_eq_if_modifyHead, ← List.splitOn] at listed
      by_cases broken : c = '\n'
      · subst broken
        cases index with
        | zero =>
            cases listed
            exact ⟨[], _, ⟨rfl, by simp, by simp, by simp⟩, rfl⟩
        | succ index =>
            obtain ⟨front, back, isLine, counts⟩ := ih listed
            exact ⟨_, back, isLine.cons_break, by rw [List.count_cons_self, counts]⟩
      · rw [if_neg (by simpa using broken)] at listed
        cases index with
        | zero =>
            rw [List.getElem?_modifyHead_zero, Option.map_eq_some_iff] at listed
            obtain ⟨rest, first, rfl⟩ := listed
            obtain ⟨front, back, isLine, counts⟩ := ih first
            cases isLine.front_eq_nil counts
            exact ⟨[], back, isLine.cons_first broken, rfl⟩
        | succ index =>
            rw [List.getElem?_modifyHead_succ] at listed
            obtain ⟨front, back, isLine, counts⟩ := ih listed
            have later : front ≠ [] := by
              rintro rfl
              cases counts
            refine ⟨_, back, isLine.cons_later later, ?_⟩
            rw [List.count_cons_of_ne broken, counts]

section Lines

variable {source : String} {front line back : List Char}

/-- The table has the start of a line at the number of line breaks before it. -/
theorem startAt_of_split {rest : List Char} (split : source.toList = front ++ rest)
    (starts : ∀ c ∈ front.getLast?, c = '\n') :
    (ofText source).startAt (front.count '\n') = .ok front.length := by
  have alone : Text.sinceBreak front = [] := by
    rw [Text.sinceBreak, List.rtakeWhile_eq_nil_iff]
    intro nonempty
    rw [starts _ (List.getLast?_eq_getLast_of_ne_nil nonempty)]
    simp
  have last := getLastD_startsAfter front
  rw [alone, List.length_nil, Nat.add_zero] at last
  have natural : ¬ (front.count '\n' : Int) < 0 := by omega
  have found : (ofText source).starts[front.count '\n']? = some front.length := by
    have place : (0 :: startsAfter 0 front).length - 1 = front.count '\n' := by
      rw [List.length_cons, Nat.add_sub_cancel, length_startsAfter]
    rw [starts_of_split split, List.getElem?_append_left (by simp [length_startsAfter]),
      ← place, ← List.getLast?_eq_getElem?, List.getLast?_cons, ← List.getLastD_eq_getLast?, last]
  simp only [startAt, if_neg natural, Int.toNat_natCast, found]

theorem lineCount_eq (source : String) :
    (ofText source).lineCount = 1 + source.toList.count '\n' := by
  rw [lineCount, ofText, List.length_cons, length_startsAfter, Nat.add_comm]

/-- In a text without a line break there are only carriage returns to drop. -/
theorem dropLineEnd_eq (whole : '\n' ∉ line) :
    dropLineEnd line = line.rdropWhile (· == '\r') := by
  induction line using List.reverseRecOn with
  | nil => rfl
  | append_singleton line c ih =>
      rw [List.mem_append, List.mem_singleton, not_or] at whole
      have other : (c == '\n') = false := by simpa using Ne.symm whole.2
      have either : dropLineEnd (line ++ [c]) =
          if c == '\r' || c == '\n' then dropLineEnd line else line ++ [c] :=
        List.rdropWhile_concat _ line c
      rw [either, other, Bool.or_false, List.rdropWhile_concat, ih whole.1]

theorem dropLineEnd_break (whole : '\n' ∉ line) :
    dropLineEnd (line ++ ['\n']) = line.rdropWhile (· == '\r') := by
  rw [← dropLineEnd_eq whole]
  exact List.rdropWhile_concat_pos _ line '\n' rfl

/-- The text of a line is found by its number. -/
theorem lineText_of_isLine (isLine : IsLine source.toList front line back) :
    (ofText source).lineText (front.count '\n' + 1) =
      .ok (String.ofList (line.rdropWhile (· == '\r'))) := by
  obtain ⟨split, starts, whole, stops⟩ := isLine
  have start := startAt_of_split (split.trans (List.append_assoc _ _ _)) starts
  have unbroken := List.count_eq_zero.mpr whole
  have count : (ofText source).starts.length = front.count '\n' + back.count '\n' + 1 := by
    have lines := lineCount_eq source
    rw [split, List.count_append, List.count_append, unbroken] at lines
    rw [← lineCount, lines]
    omega
  simp only [lineText, Int.add_sub_cancel, start, bind, Except.bind]
  cases back with
  | nil =>
      -- The last line ends with the source.
      have last : ¬ (front.count '\n' + 1 : Int) < (ofText source).starts.length := by
        rw [count, List.count_nil]
        omega
      have text : (source.toList.take source.toList.length).drop front.length = line := by
        rw [List.take_length, split, List.append_nil, List.drop_left]
      rw [if_neg last]
      simp only [pure, Except.pure, ofText, text, dropLineEnd_eq whole]
  | cons c rest =>
      -- Any other line ends where the next one starts.
      cases stops c rfl
      have notLast : (front.count '\n' + 1 : Int) < (ofText source).starts.length := by
        rw [count, List.count_cons_self]
        omega
      have further : source.toList = (front ++ line ++ ['\n']) ++ rest := by
        rw [split]
        simp
      have stop := startAt_of_split further (by simp)
      have number : ((front ++ line ++ ['\n']).count '\n' : Int) = front.count '\n' + 1 := by
        simp [List.count_append, unbroken]
      have text : (source.toList.take (front ++ line ++ ['\n']).length).drop front.length =
          line ++ ['\n'] := by
        rw [further, List.take_left, List.append_assoc, List.drop_left]
      rw [number] at stop
      rw [if_pos notLast, stop]
      simp only [pure, Except.pure, ofText, text, dropLineEnd_break whole]

end Lines

end LineTable

/-- A line table answers by counting. An offset has a location exactly if it lies in the source
or at its end, and locations are in the order of their offsets, so no two offsets share one.
There is one line more than there are line breaks, and the text of a line is the piece of the
source between two of them, without carriage returns at its end. -/
theorem line_table_exact (source : String) :
    (∀ offset : Int, (LineTable.ofText source).locate offset =
      if 0 ≤ offset ∧ offset ≤ source.length then
        .ok ⟨1 + (source.toList.take offset.toNat).count '\n',
          1 + ((source.toList.take offset.toNat).rtakeWhile (· != '\n')).length⟩
      else .error (.outside offset source.length)) ∧
    (∀ (first second : Nat) (place place' : Location),
      (LineTable.ofText source).locate first = .ok place →
      (LineTable.ofText source).locate second = .ok place' →
        (place.Before place' ↔ first < second) ∧ (place = place' ↔ first = second)) ∧
    (LineTable.ofText source).lineCount = 1 + source.toList.count '\n' ∧
    (LineTable.ofText source).lineCount = (source.toList.splitOn '\n').length ∧
    ∀ (index : Nat) (line : List Char), (source.toList.splitOn '\n')[index]? = some line →
      (LineTable.ofText source).lineText (index + 1) =
        .ok (String.ofList (line.rdropWhile (· == '\r'))) := by
  refine ⟨LineTable.locate_eq source, ?_, LineTable.lineCount_eq source, ?_, ?_⟩
  · intro first second place place' located located'
    obtain ⟨inside, rfl⟩ := LineTable.eq_after_of_locate located
    obtain ⟨inside', rfl⟩ := LineTable.eq_after_of_locate located'
    exact ⟨Location.after_take_before_iff inside inside',
      Location.after_take_eq_iff inside inside'⟩
  · rw [LineTable.lineCount_eq, LineTable.length_splitOn]
  · intro index line listed
    obtain ⟨front, back, isLine, rfl⟩ := LineTable.exists_isLine listed
    exact LineTable.lineText_of_isLine isLine

/-- A line that ends in two carriage returns, an empty line, and a last line without an end. -/
theorem line_table_exact_returns :
    let table := LineTable.ofText "ab\r\r\n\nc"
    table.locate 5 = .ok ⟨2, 1⟩ ∧ table.locate 7 = .ok ⟨3, 2⟩ ∧
    (Location.Before ⟨2, 1⟩ ⟨3, 2⟩ ↔ 5 < 7) ∧ table.lineCount = 3 ∧
    "ab\r\r\n\nc".toList.splitOn '\n' = [['a', 'b', '\r', '\r'], [], ['c']] ∧
    table.lineText 1 = .ok "ab" := by
  intro table
  obtain ⟨located, ordered, lines, -, texts⟩ := line_table_exact "ab\r\r\n\nc"
  have split : "ab\r\r\n\nc".toList.splitOn '\n' = [['a', 'b', '\r', '\r'], [], ['c']] := by
    decide
  have first : table.locate 5 = .ok ⟨2, 1⟩ := located 5
  have last : table.locate 7 = .ok ⟨3, 2⟩ := located 7
  exact ⟨first, last, (ordered 5 7 _ _ first last).1, lines, split,
    texts 0 ['a', 'b', '\r', '\r'] (by rw [split]; rfl)⟩

end Stencil
