/-
# Arguments written out

An argument text can be written in many ways: a value needs no quotes if it has no blank in
it, blanks may stand round an equals sign, and a backslash may stand before almost anything.
Here arguments are written in one way only, words as they are and values between quotes, with
any blanks between them, and splitting what was written gives the arguments back.

A word and what follows it are never taken for a pair. For that an equals sign would have to
come next, after blanks or none, but a word has none in it and no argument starts with one.

Whatever a text was like, the arguments it is split into can be written in this way.
-/

import Mathlib.Data.List.Basic
import Stencil.Proofs.Directives

namespace Stencil

/-- Blanks in front of a text are dropped with its own. -/
theorem Text.trimStart_append {lead cs : List Char} (blank : ∀ c ∈ lead, isBlank c = true) :
    trimStart (lead ++ cs) = trimStart cs :=
  List.dropWhile_append_of_pos blank

namespace Argument

/-- A word: at least one character, and no blank, quote or equals sign. -/
def IsWord (argument : List Char) : Prop :=
  argument ≠ [] ∧ ∀ c ∈ argument, Text.isBlank c = false ∧ c ≠ Text.doubleQuote ∧ c ≠ '='

/-- A key: a letter or an underscore, and then word characters, dots and hyphens. -/
def IsKey : List Char → Prop
  | [] => False
  | c :: cs => Text.isNameStart c = true ∧ ∀ d ∈ cs, Text.isWord d = true ∨ d = '.' ∨ d = '-'

instance (argument : List Char) : Decidable (IsWord argument) :=
  decidable_of_iff (argument ≠ [] ∧ argument.all
    (fun c => !Text.isBlank c && c != Text.doubleQuote && c != '=') = true)
    (by simp [IsWord, and_assoc])

instance : (key : List Char) → Decidable (IsKey key)
  | [] => isFalse id
  | c :: cs =>
    decidable_of_iff (Text.isNameStart c = true ∧
      cs.all (fun d => Text.isWord d || d == '.' || d == '-') = true)
      (by simp [IsKey, or_assoc])

/-- A word, or a key, an equals sign and any value. -/
def WellFormed (argument : String) : Prop :=
  IsWord argument.toList ∨ ∃ key value, IsKey key ∧ argument.toList = key ++ '=' :: value

/-- A character of a quoted value. A quote or a backslash stands after a backslash. -/
def escape (c : Char) : List Char :=
  if c = '\\' ∨ c = Text.doubleQuote then ['\\', c] else [c]

/-- A value between quotes. -/
def quote (value : List Char) : List Char :=
  Text.doubleQuote :: (value.flatMap escape ++ [Text.doubleQuote])

/-- An argument as it is written: all up to the first equals sign as it is, and what follows
the sign between quotes. -/
def write (argument : String) : List Char :=
  match argument.toList.dropWhile (· != '=') with
  | [] => argument.toList
  | _ :: value => argument.toList.takeWhile (· != '=') ++ '=' :: quote value

/-- Arguments laid out in a text, with blanks before the first and after each of them. Only
after the last one there may be none. -/
structure Layout where
  lead : List Char
  /-- The arguments, each with the blanks after it. -/
  items : List (String × List Char)
  lead_blank : ∀ c ∈ lead, Text.isBlank c = true
  gap_blank : ∀ item ∈ items, ∀ c ∈ item.2, Text.isBlank c = true
  gap_ne : ∀ item ∈ items.dropLast, item.2 ≠ []

namespace Layout

/-- The arguments that are laid out. -/
def arguments (layout : Layout) : List String :=
  layout.items.map Prod.fst

/-- The text of a layout. -/
def text (layout : Layout) : List Char :=
  layout.lead ++ layout.items.flatMap fun item => write item.1 ++ item.2

/-- Arguments with a space after each. -/
def spaced (arguments : List String) : Layout where
  lead := []
  items := arguments.map fun argument => (argument, [' '])
  lead_blank := by simp
  gap_blank := by
    simp only [List.mem_map]
    rintro item ⟨argument, -, rfl⟩ c space
    rw [List.mem_singleton.mp space]
    decide
  gap_ne := by
    intro item present
    obtain ⟨argument, -, rfl⟩ := List.mem_map.mp (List.dropLast_subset _ present)
    simp

@[simp]
theorem arguments_spaced (arguments : List String) : (spaced arguments).arguments = arguments := by
  rw [Layout.arguments, spaced, List.map_map]
  exact List.map_id' arguments

end Layout

section Characters

variable {c : Char}

theorem isPlain_eq_true :
    isPlain c = true ↔ Text.isBlank c = false ∧ c ≠ Text.doubleQuote ∧ c ≠ '=' := by
  simp [isPlain, isBare, and_assoc]

theorem isKeyRest_eq_true : isKeyRest c = true ↔ Text.isWord c = true ∨ c = '.' ∨ c = '-' := by
  simp [isKeyRest, or_assoc]

theorem isKeyRest_of_isNameStart (starts : Text.isNameStart c = true) : isKeyRest c = true := by
  simp only [Text.isNameStart, Bool.or_eq_true, beq_iff_eq] at starts
  rw [isKeyRest_eq_true]
  left
  rcases starts with letter | rfl
  · simp [Text.isWord, Char.isAlphanum, letter]
  · decide

/-- No blank is part of a key. -/
theorem isKeyRest_of_isBlank (blank : Text.isBlank c = true) : isKeyRest c = false := by
  rw [Bool.eq_false_iff, ne_eq, isKeyRest_eq_true]
  rintro (word | rfl | rfl)
  · rw [Text.isWord_of_isBlank blank] at word
    cases word
  · revert blank
    decide
  · revert blank
    decide

end Characters

section Writing

variable {argument : String} {key value word rest : List Char}

theorem IsKey.exists_first (isKey : IsKey key) :
    ∃ first others, key = first :: others ∧ Text.isNameStart first = true := by
  cases key with
  | nil => exact absurd isKey id
  | cons first others => exact ⟨first, others, rfl, isKey.1⟩

theorem IsKey.isKeyRest (isKey : IsKey key) : ∀ c ∈ key, isKeyRest c = true := by
  cases key with
  | nil => exact absurd isKey id
  | cons first others =>
      intro c present
      rcases List.mem_cons.mp present with rfl | later
      · exact isKeyRest_of_isNameStart isKey.1
      · exact isKeyRest_eq_true.mpr (isKey.2 c later)

theorem IsKey.ne_equals (isKey : IsKey key) : ∀ c ∈ key, c ≠ '=' := by
  rintro c present rfl
  have inside := isKey.isKeyRest _ present
  revert inside
  decide

theorem write_of_word (isWord : IsWord argument.toList) : write argument = argument.toList := by
  have none : (argument.toList ++ []).dropWhile (· != '=') = [] :=
    (Text.takeWhile_eq_front (fun c present => by simpa using (isWord.2 c present).2.2)
      (fun c absent => by cases absent)).2
  rw [List.append_nil] at none
  rw [write, none]

theorem write_of_pair (isKey : IsKey key) (same : argument.toList = key ++ '=' :: value) :
    write argument = key ++ '=' :: quote value := by
  obtain ⟨taken, dropped⟩ :
      (key ++ '=' :: value).takeWhile (· != '=') = key ∧
        (key ++ '=' :: value).dropWhile (· != '=') = '=' :: value :=
    Text.takeWhile_eq_front (fun c present => by simpa using isKey.ne_equals c present)
      (fun c first => by cases first; rfl)
  rw [write, same, dropped, taken]

/-- What is written for an argument starts with neither a blank nor an equals sign. -/
theorem WellFormed.exists_first (wellFormed : WellFormed argument) :
    ∃ first others, write argument = first :: others ∧ Text.isBlank first = false ∧
      first ≠ '=' := by
  rcases wellFormed with isWord | ⟨key, value, isKey, same⟩
  · rw [write_of_word isWord]
    obtain ⟨first, others, split⟩ := List.exists_cons_of_ne_nil isWord.1
    have plain := isWord.2 first (by simp [split])
    exact ⟨first, others, split, plain.1, plain.2.2⟩
  · rw [write_of_pair isKey same]
    obtain ⟨first, others, rfl, starts⟩ := isKey.exists_first
    refine ⟨first, _, rfl, ?_, isKey.ne_equals first List.mem_cons_self⟩
    rw [Bool.eq_false_iff]
    intro blank
    have inside := isKeyRest_of_isNameStart starts
    rw [isKeyRest_of_isBlank blank] at inside
    cases inside

/-- A quoted value is read back, up to the quote that ends it. -/
theorem readQuoted_escape (value rest : List Char) :
    readQuoted (value.flatMap escape ++ Text.doubleQuote :: rest) = some (value, rest) := by
  induction value with
  | nil => rfl
  | cons c cs ih =>
      rw [List.flatMap_cons, List.append_assoc]
      by_cases special : c = '\\' ∨ c = Text.doubleQuote
      · have notBreak : c ≠ '\n' := by
          rintro rfl
          revert special
          decide
        rw [escape, if_pos special]
        simp [readQuoted, notBreak, ih]
      · rw [escape, if_neg special]
        rw [not_or] at special
        simp [readQuoted, special, ih]

/-- A key and a quoted value are read as a pair, whatever follows. -/
theorem readPair_of_pair (isKey : IsKey key) (value rest : List Char) :
    readPair (key ++ '=' :: (quote value ++ rest)) = some (key ++ '=' :: value, rest) := by
  obtain ⟨taken, dropped⟩ :
      (key ++ '=' :: (quote value ++ rest)).takeWhile isKeyRest = key ∧
        (key ++ '=' :: (quote value ++ rest)).dropWhile isKeyRest =
          '=' :: (quote value ++ rest) :=
    Text.takeWhile_eq_front isKey.isKeyRest (fun c first => by cases first; decide)
  have quoted : readValue (Text.trimStart (quote value ++ rest)) = (value, rest) := by
    have starts : quote value ++ rest =
        Text.doubleQuote :: (value.flatMap escape ++ Text.doubleQuote :: rest) := by
      simp [quote]
    have solid : Text.isBlank Text.doubleQuote = false := by decide
    rw [starts, Text.trimStart, List.dropWhile_cons_of_neg (by simp [solid])]
    simp [readValue, readQuoted_escape]
  obtain ⟨first, others, rfl, starts⟩ := isKey.exists_first
  rw [List.cons_append] at taken dropped ⊢
  have signed : Text.trimStart ('=' :: (quote value ++ rest)) = '=' :: (quote value ++ rest) := rfl
  simp only [readPair, starts, if_true, dropped, signed, taken, quoted]

/-- What may follow an argument: nothing, or a blank, and no equals sign after the blanks. -/
structure Ends (rest : List Char) : Prop where
  parted : ∀ c ∈ rest.head?, Text.isBlank c = true
  unsigned : ∀ c ∈ (Text.trimStart rest).head?, c ≠ '='

/-- Behind the key that a word might be, there is no equals sign. -/
theorem Ends.unsigned_of_word (ends : Ends rest)
    (plain : ∀ c ∈ word, Text.isBlank c = false ∧ c ≠ Text.doubleQuote ∧ c ≠ '=') :
    ∀ c ∈ (Text.trimStart ((word ++ rest).dropWhile isKeyRest)).head?, c ≠ '=' := by
  induction word with
  | nil =>
      have whole : rest.dropWhile isKeyRest = rest := by
        cases rest with
        | nil => rfl
        | cons c cs =>
            exact List.dropWhile_cons_of_neg (by simp [isKeyRest_of_isBlank (ends.parted c rfl)])
      rw [List.nil_append, whole]
      exact ends.unsigned
  | cons first others ih =>
      rw [List.forall_mem_cons] at plain
      by_cases inKey : isKeyRest first = true
      · rw [List.cons_append, List.dropWhile_cons_of_pos inKey]
        exact ih plain.2
      · rw [List.cons_append, List.dropWhile_cons_of_neg inKey, Text.trimStart,
          List.dropWhile_cons_of_neg (by simp [plain.1.1])]
        intro c isFirst
        cases isFirst
        exact plain.1.2.2

/-- A word is not read as a pair. -/
theorem readPair_of_word (ends : Ends rest)
    (plain : ∀ c ∈ word, Text.isBlank c = false ∧ c ≠ Text.doubleQuote ∧ c ≠ '=') :
    readPair (word ++ rest) = none := by
  have unsigned := ends.unsigned_of_word plain
  unfold readPair
  split
  · rfl
  · rename_i first others _
    split
    · split
      · rename_i sign
        rw [sign] at unsigned
        exact absurd rfl (unsigned _ rfl)
      · rfl
    · rfl

theorem readWord_of_word (isWord : IsWord word) (ends : Ends rest) :
    readWord (word ++ rest) = some (word, rest) := by
  have plain : ∀ c ∈ word, isPlain c = true := fun c present =>
    isPlain_eq_true.mpr (isWord.2 c present)
  obtain ⟨taken, dropped⟩ :
      (word ++ rest).takeWhile isPlain = word ∧ (word ++ rest).dropWhile isPlain = rest := by
    apply Text.takeWhile_eq_front plain
    intro c first
    simp [isPlain, isBare, ends.parted c first]
  obtain ⟨first, others, rfl⟩ := List.exists_cons_of_ne_nil isWord.1
  rw [List.cons_append] at taken dropped ⊢
  rw [readWord, if_pos (plain first List.mem_cons_self), taken, dropped]

/-- A written argument is read back, up to what may follow it. -/
theorem readArgument_write (wellFormed : WellFormed argument) (ends : Ends rest) :
    readArgument (write argument ++ rest) = some (argument.toList, rest) := by
  rcases wellFormed with isWord | ⟨key, value, isKey, same⟩
  · rw [write_of_word isWord, readArgument, readPair_of_word ends isWord.2, Option.none_or]
    exact readWord_of_word isWord ends
  · have pair := readPair_of_pair isKey value rest
    rw [write_of_pair isKey same, readArgument, List.append_assoc, List.cons_append, pair,
      Option.some_or, same]

end Writing

section Splitting

variable {total : Nat} {lead cs rest argument : List Char} {args : List String}

theorem splitFrom_of_nil (none : Text.trimStart cs = []) : splitFrom total cs = .ok [] := by
  rw [splitFrom]
  split
  · rfl
  · rename_i some
    cases none.symm.trans some

theorem splitFrom_of_cons {first : Char} {tail : List Char}
    (trimmed : Text.trimStart cs = first :: tail)
    (found : readArgument (first :: tail) = some (argument, rest))
    (parted : rest.head?.all Text.isBlank = true) (further : splitFrom total rest = .ok args) :
    splitFrom total cs = .ok (String.ofList argument :: args) := by
  rw [splitFrom]
  split
  · rename_i none
    cases none.symm.trans trimmed
  · rename_i same
    cases same.symm.trans trimmed
    split
    · rename_i none
      cases none.symm.trans found
    · rename_i some
      cases some.symm.trans found
      rw [if_pos parted, further]
      rfl

/-- What follows the first argument of a layout. -/
theorem Layout.ends_tail {gap : List Char} {items : List (String × List Char)}
    (blank : ∀ c ∈ gap, Text.isBlank c = true) (parted : items ≠ [] → gap ≠ [])
    (wellFormed : ∀ item ∈ items, WellFormed item.1) :
    Ends (gap ++ items.flatMap fun item => write item.1 ++ item.2) where
  parted := by
    intro c first
    cases gap with
    | nil =>
        cases items with
        | nil => cases first
        | cons item others => exact absurd rfl (parted (List.cons_ne_nil _ _))
    | cons space spaces =>
        cases first
        exact blank _ List.mem_cons_self
  unsigned := by
    rw [Text.trimStart_append blank]
    cases items with
    | nil =>
        intro c first
        cases first
    | cons item others =>
        obtain ⟨first, tail, written, solid, unsigned⟩ :=
          (wellFormed item List.mem_cons_self).exists_first
        rw [List.flatMap_cons, written]
        simp only [List.cons_append, Text.trimStart, List.dropWhile_cons, solid]
        intro c isFirst
        cases isFirst
        exact unsigned

/-- Splitting a layout gives its arguments back. -/
theorem splitFrom_layout (layout : Layout)
    (wellFormed : ∀ argument ∈ layout.arguments, WellFormed argument) (total : Nat) :
    splitFrom total layout.text = .ok layout.arguments := by
  obtain ⟨lead, items, lead_blank, gap_blank, gap_ne⟩ := layout
  simp only [Layout.arguments, Layout.text, List.forall_mem_map] at wellFormed ⊢
  -- The blanks after an argument are the lead of the layout of the rest.
  induction items generalizing lead with
  | nil =>
      apply splitFrom_of_nil
      rw [List.flatMap_nil, Text.trimStart_append lead_blank]
      rfl
  | cons item others ih =>
      obtain ⟨argument, gap⟩ := item
      rw [List.forall_mem_cons] at wellFormed gap_blank
      have gaps : ∀ item ∈ others.dropLast, item.2 ≠ [] := by
        intro item present
        apply gap_ne
        cases others with
        | nil => cases present
        | cons next more => exact List.mem_cons_of_mem _ present
      have parted : others ≠ [] → gap ≠ [] := by
        intro more
        apply gap_ne (argument, gap)
        rw [List.dropLast_cons_of_ne_nil more]
        exact List.mem_cons_self
      have ends := Layout.ends_tail gap_blank.1 parted wellFormed.2
      have found := readArgument_write wellFormed.1 ends
      have further := ih gap gap_blank.1 gap_blank.2 gaps wellFormed.2
      obtain ⟨first, tail, written, solid, -⟩ := wellFormed.1.exists_first
      rw [written, List.cons_append] at found
      rw [List.flatMap_cons, List.append_assoc, written, List.cons_append, List.map_cons,
        ← String.ofList_toList (s := argument)]
      refine splitFrom_of_cons ?_ found ?_ further
      · rw [Text.trimStart_append lead_blank, Text.trimStart,
          List.dropWhile_cons_of_neg (by simp [solid])]
      · rw [Option.all_eq_true]
        exact ends.parted

/-- What is read as a pair has a key. -/
theorem exists_key_of_readPair (found : readPair cs = some (argument, rest)) :
    ∃ key value, IsKey key ∧ argument = key ++ '=' :: value := by
  unfold readPair at found
  split at found
  · cases found
  · rename_i first others
    split at found
    · rename_i starts
      split at found
      · cases found
        refine ⟨_, _, ?_, rfl⟩
        rw [List.takeWhile_cons_of_pos (isKeyRest_of_isNameStart starts)]
        exact ⟨starts, fun c taken =>
          isKeyRest_eq_true.mp (List.all_eq_true.mp List.all_takeWhile c taken)⟩
      · cases found
    · cases found

/-- What is read as a word is one. -/
theorem isWord_of_readWord (found : readWord cs = some (argument, rest)) : IsWord argument := by
  unfold readWord at found
  split at found
  · cases found
  · rename_i first others
    split at found
    · rename_i plain
      cases found
      constructor
      · rw [List.takeWhile_cons_of_pos plain]
        exact List.cons_ne_nil _ _
      · intro c taken
        exact isPlain_eq_true.mp (List.all_eq_true.mp List.all_takeWhile c taken)
    · cases found

theorem wellFormed_of_readArgument (found : readArgument cs = some (argument, rest)) :
    WellFormed (String.ofList argument) := by
  unfold readArgument at found
  rw [WellFormed, String.toList_ofList]
  cases pair : readPair cs with
  | none =>
      rw [pair, Option.none_or] at found
      exact .inl (isWord_of_readWord found)
  | some result =>
      rw [pair, Option.some_or] at found
      cases found
      exact .inr (exists_key_of_readPair pair)

/-- Every argument that a text is split into is well-formed. -/
theorem wellFormed_of_splitFrom (split : splitFrom total cs = .ok args) :
    ∀ argument ∈ args, WellFormed argument := by
  fun_induction splitFrom total cs generalizing args with
  | case1 cs blank =>
      cases split
      simp
  | case2 => cases split
  | case3 cs first tail trimmed argument rest found parted ih =>
      cases further : splitFrom total rest with
      | error fault =>
          rw [further] at split
          cases split
      | ok others =>
          rw [further] at split
          cases split
          rw [List.forall_mem_cons]
          exact ⟨wellFormed_of_readArgument found, ih further⟩
  | case4 => cases split

end Splitting

/-- Arguments can be written and split again. Well-formed arguments come back from every text
in which they are laid out. The arguments of a text, however it was written, are well-formed,
so they come back when they are written again. -/
theorem split_layout :
    (∀ layout : Layout, (∀ argument ∈ layout.arguments, WellFormed argument) →
      split (String.ofList layout.text) = .ok layout.arguments) ∧
    ∀ text args, split text = .ok args →
      (∀ argument ∈ args, WellFormed argument) ∧
      (∃ layout : Layout, layout.arguments = args) ∧
      ∀ layout : Layout, layout.arguments = args →
        split (String.ofList layout.text) = .ok args := by
  have back : ∀ layout : Layout, (∀ argument ∈ layout.arguments, WellFormed argument) →
      split (String.ofList layout.text) = .ok layout.arguments := by
    intro layout wellFormed
    rw [split, String.toList_ofList]
    exact splitFrom_layout layout wellFormed _
  refine ⟨back, ?_⟩
  intro text args succeeds
  have wellFormed := wellFormed_of_splitFrom succeeds
  refine ⟨wellFormed, ⟨.spaced args, Layout.arguments_spaced args⟩, ?_⟩
  rintro layout rfl
  exact back layout wellFormed

/-- Blanks of several kinds, a value with a quote, a backslash, an equals sign and a line feed,
and one that is empty; and a text with blanks round its equals sign. -/
theorem split_layout_awkward :
    (∃ layout : Layout, layout.arguments = ["-1", "k.x=\"\\ =\n", "c="] ∧
      layout.text = "\n-1 \tk.x=\"\\\"\\\\ =\n\" c=\"\"".toList ∧
      split (String.ofList layout.text) = .ok layout.arguments) ∧
    split "a = \"x\\\" y\"  b" = .ok ["a=x\" y", "b"] ∧
    split (String.ofList (Layout.spaced ["a=x\" y", "b"]).text) = .ok ["a=x\" y", "b"] := by
  let layout : Layout :=
    { lead := ['\n']
      items := [("-1", [' ', '\t']), ("k.x=\"\\ =\n", [' ']), ("c=", [])]
      lead_blank := by simp; decide
      gap_blank := by simp; decide
      gap_ne := by simp }
  have wellFormed : ∀ argument ∈ layout.arguments, WellFormed argument := by
    simp only [layout, Layout.arguments, List.map_cons, List.map_nil, List.forall_mem_cons]
    refine ⟨.inl (by decide), .inr ⟨"k.x".toList, "\"\\ =\n".toList, by decide, by decide⟩,
      .inr ⟨"c".toList, [], by decide, by decide⟩, by simp⟩
  have loose : split "a = \"x\\\" y\"  b" = .ok ["a=x\" y", "b"] := by decide +kernel
  exact ⟨⟨layout, rfl, by decide, split_layout.1 layout wellFormed⟩, loose,
    (split_layout.2 _ _ loose).2.2 _ (Layout.arguments_spaced _)⟩

end Argument

end Stencil
