/-
# Directive arguments

The arguments of a directive are separated by blanks. An argument is a word, or a
key, an equals sign and a value; the value may stand in double quotes, where a
backslash takes the next character literally. A pair is handed on as the key, the
equals sign and the value, without quotes and with no blanks round the sign.
-/

import Stencil.Text.Blank
import Stencil.Text.Quoted
import Stencil.Text.Word

namespace Stencil.Argument

/-- Why a text is no list of arguments, and at which offset in it. -/
inductive Fault
  /-- No argument can start with this character. -/
  | unexpected (c : Char) (offset : Nat)
  /-- Two arguments touch. -/
  | missingSeparator (offset : Nat)
  deriving DecidableEq

/-- The report of a text that is no list of arguments. -/
def Fault.message : Fault → String
  | .unexpected c offset =>
    s!"unexpected {Text.quoted (String.singleton c)} at argument offset {offset}"
  | .missingSeparator offset => s!"missing separator at argument offset {offset}"

/-- Whether a key may go on with this character. -/
def isKeyRest (c : Char) : Bool :=
  Text.isWord c || c == '.' || c == '-'

/-- Whether an unquoted value may hold this character. -/
def isBare (c : Char) : Bool :=
  !Text.isBlank c && c != Text.doubleQuote

/-- Whether a word may hold this character. -/
def isPlain (c : Char) : Bool :=
  isBare c && c != '='

/-- Read a quoted value after its opening quote: the value, and what follows the
closing quote. A backslash takes the next character literally, unless that is a
line feed. There is no value without a closing quote. -/
def readQuoted : List Char → Option (List Char × List Char)
  | [] => none
  | '\\' :: [] => none
  | '\\' :: c :: cs =>
    if c = '\n' then none else (readQuoted cs).map fun (value, rest) => (c :: value, rest)
  | c :: cs =>
    if c = Text.doubleQuote then some ([], cs)
    else (readQuoted cs).map fun (value, rest) => (c :: value, rest)

/-- Read the value of a pair: quoted if a closed quotation follows, else the
characters up to a blank or a quote. -/
def readValue (cs : List Char) : List Char × List Char :=
  match cs with
  | c :: rest =>
    if c = Text.doubleQuote then (readQuoted rest).getD ([], cs)
    else (cs.takeWhile isBare, cs.dropWhile isBare)
  | [] => ([], [])

/-- Read a key, an equals sign and a value. -/
def readPair (cs : List Char) : Option (List Char × List Char) :=
  match cs with
  | [] => none
  | c :: _ =>
    if Text.isNameStart c then
      match Text.trimStart (cs.dropWhile isKeyRest) with
      | '=' :: rest =>
        let (value, rest) := readValue (Text.trimStart rest)
        some (cs.takeWhile isKeyRest ++ '=' :: value, rest)
      | _ => none
    else none

/-- Read a word. -/
def readWord (cs : List Char) : Option (List Char × List Char) :=
  match cs with
  | [] => none
  | c :: _ => if isPlain c then some (cs.takeWhile isPlain, cs.dropWhile isPlain) else none

/-- Read one argument, a pair if possible. -/
def readArgument (cs : List Char) : Option (List Char × List Char) :=
  (readPair cs).or (readWord cs)

theorem length_dropWhile_le (p : Char → Bool) (cs : List Char) :
    (cs.dropWhile p).length ≤ cs.length :=
  (List.dropWhile_sublist p).length_le

theorem length_dropWhile_lt (p : Char → Bool) (c : Char) (cs : List Char) (h : p c = true) :
    ((c :: cs).dropWhile p).length < (c :: cs).length := by
  have := length_dropWhile_le p cs
  simp only [List.dropWhile_cons, h, if_true, List.length_cons]
  omega

theorem length_readQuoted_le (cs : List Char) {result : List Char × List Char}
    (h : readQuoted cs = some result) : result.2.length ≤ cs.length := by
  fun_induction readQuoted cs generalizing result with
  | case1 => simp at h
  | case2 => simp at h
  | case3 => simp at h
  | case4 c cs _ ih =>
    obtain ⟨inner, found, rfl⟩ := Option.map_eq_some_iff.1 h
    have := ih found
    simp only [List.length_cons]
    omega
  | case5 cs =>
    obtain rfl := Option.some.inj h
    simp
  | case6 c cs _ _ _ ih =>
    obtain ⟨inner, found, rfl⟩ := Option.map_eq_some_iff.1 h
    have := ih found
    simp only [List.length_cons]
    omega

theorem length_readValue_le (cs : List Char) : (readValue cs).2.length ≤ cs.length := by
  unfold readValue
  split
  · next c rest =>
    split
    · cases found : readQuoted rest with
      | none => simp
      | some result =>
        have := length_readQuoted_le rest found
        simp only [Option.getD_some, List.length_cons]
        omega
    · exact length_dropWhile_le _ _
  · simp

theorem length_readPair_lt (cs : List Char) {argument rest : List Char}
    (h : readPair cs = some (argument, rest)) : rest.length < cs.length := by
  unfold readPair at h
  split at h
  · simp at h
  · next c tail =>
    split at h
    · split at h
      · next after equal =>
        have first := length_dropWhile_le isKeyRest (c :: tail)
        have second := length_dropWhile_le Text.isBlank ((c :: tail).dropWhile isKeyRest)
        have third := length_dropWhile_le Text.isBlank after
        have fourth := length_readValue_le (Text.trimStart after)
        unfold Text.trimStart at equal fourth h
        rw [equal] at second
        simp only [Option.some.injEq, Prod.mk.injEq] at h
        obtain ⟨_, rfl⟩ := h
        simp only [List.length_cons] at *
        omega
      · simp at h
    · simp at h

theorem length_readWord_lt (cs : List Char) {argument rest : List Char}
    (h : readWord cs = some (argument, rest)) : rest.length < cs.length := by
  unfold readWord at h
  split at h
  · simp at h
  · next c tail =>
    split at h
    · next plain =>
      simp only [Option.some.injEq, Prod.mk.injEq] at h
      obtain ⟨_, rfl⟩ := h
      exact length_dropWhile_lt _ _ _ plain
    · simp at h

/-- Reading an argument takes at least one character. -/
theorem length_readArgument_lt (cs : List Char) {argument rest : List Char}
    (h : readArgument cs = some (argument, rest)) : rest.length < cs.length := by
  unfold readArgument at h
  cases found : readPair cs with
  | none => rw [found] at h; exact length_readWord_lt cs (by simpa using h)
  | some result =>
    rw [found] at h
    have same : result = (argument, rest) := by simpa using h
    subst same
    exact length_readPair_lt cs found

/-- Split the rest of an argument text of the given total length. -/
def splitFrom (total : Nat) (cs : List Char) : Except Fault (List String) :=
  match _trimmed : Text.trimStart cs with
  | [] => .ok []
  | c :: tail =>
    match _found : readArgument (c :: tail) with
    | none => .error (.unexpected c (total - (c :: tail).length))
    | some (argument, rest) =>
      if rest.head?.all Text.isBlank then do
        let arguments ← splitFrom total rest
        return String.ofList argument :: arguments
      else .error (.missingSeparator (total - rest.length))
termination_by cs.length
decreasing_by
  have shorter := length_readArgument_lt _ _found
  have bound := length_dropWhile_le Text.isBlank cs
  unfold Text.trimStart at _trimmed
  rw [_trimmed] at bound
  omega

/-- The arguments written in a text. -/
def split (text : String) : Except Fault (List String) :=
  splitFrom text.toList.length text.toList

end Stencil.Argument
