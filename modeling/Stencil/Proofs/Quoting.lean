/-
# Quoted texts can be read back

A quoted text is a literal: it denotes the text that it was made from. What a literal denotes
is said here by a reader of its own, which goes through a literal from left to right, undoes
escapes, and stops at the first quote that no backslash escapes. The reader knows more escapes
than quoting uses, so that the texts of reports can be read by it as well.

What a single character becomes in a literal is said once, by `Spelled`. From there it follows
that the reader takes it back, that all of it is visible, and that no quote comes out of it
without a backslash in front.
-/

import Stencil.Instruction

namespace Stencil

namespace Text

/-- The two characters that can enclose a literal. -/
def IsQuote (c : Char) : Prop := c = singleQuote ∨ c = doubleQuote

instance (c : Char) : Decidable (IsQuote c) :=
  inferInstanceAs (Decidable (_ ∨ _))

section Reader

/-- The value of a hexadecimal digit, in either case. -/
def hexValue? (c : Char) : Option Nat :=
  let n := c.toNat
  if 48 ≤ n ∧ n < 58 then some (n - 48)
  else if 97 ≤ n ∧ n < 103 then some (n - 87)
  else if 65 ≤ n ∧ n < 71 then some (n - 55)
  else none

/-- The number that hexadecimal digits write, the most significant first. -/
def hexNumber? (digits : List Char) : Option Nat :=
  digits.foldlM (fun n c => (hexValue? c).map (16 * n + ·)) 0

/-- The character whose code point stands in front in `width` hexadecimal digits, and what
follows. -/
def readCodePoint (cs : List Char) (width : Nat) : Option (Char × List Char) :=
  (hexNumber? (cs.take width)).bind fun n =>
    if width ≤ cs.length ∧ n.isValidChar then some (Char.ofNat n, cs.drop width) else none

/-- The character that a sign after a backslash stands for by itself. -/
def signMeans? (sign : Char) : Option Char :=
  if sign = '\\' ∨ IsQuote sign then some sign
  else if sign = 'n' then some '\n'
  else if sign = 'r' then some '\r'
  else if sign = 't' then some '\t'
  else if sign = 'b' then some '\x08'
  else if sign = 'f' then some '\x0c'
  else none

/-- The number of hexadecimal digits after a sign that announces a code point. -/
def signWidth? (sign : Char) : Option Nat :=
  if sign = 'x' then some 2
  else if sign = 'u' then some 4
  else if sign = 'U' then some 8
  else none

/-- The first character that a literal means, and what follows. A line does not end inside of a
literal. -/
def readChar : List Char → Option (Char × List Char)
  | [] => none
  | ['\\'] => none
  | '\\' :: sign :: rest =>
    match signMeans? sign with
    | some c => some (c, rest)
    | none => (signWidth? sign).bind (readCodePoint rest)
  | c :: rest => if c = '\n' ∨ c = '\r' then none else some (c, rest)

theorem length_readCodePoint_le {cs rest : List Char} {width : Nat} {c : Char}
    (read : readCodePoint cs width = some (c, rest)) : rest.length ≤ cs.length := by
  obtain ⟨n, -, read⟩ := Option.bind_eq_some_iff.mp read
  split at read
  · cases read
    rw [List.length_drop]
    omega
  · cases read

/-- A character takes up at least one. -/
theorem length_readChar_lt {cs rest : List Char} {c : Char}
    (read : readChar cs = some (c, rest)) : rest.length < cs.length := by
  unfold readChar at read
  split at read
  · cases read
  · cases read
  · simp only [List.length_cons]
    split at read
    · cases read
      omega
    · obtain ⟨width, -, read⟩ := Option.bind_eq_some_iff.mp read
      have shorter := length_readCodePoint_le read
      omega
  · split at read
    · cases read
    · cases read
      exact Nat.lt_succ_self _

/-- The text up to the first quote that is not escaped, and what follows that quote. -/
def readBody (quote : Char) (cs : List Char) : Option (List Char × List Char) :=
  if cs.head? = some quote then some ([], cs.tail)
  else
    match _read : readChar cs with
    | none => none
    | some (c, rest) => (readBody quote rest).map fun (text, after) => (c :: text, after)
termination_by cs.length
decreasing_by exact length_readChar_lt _read

/-- The text that a literal denotes. It stands between two quotes of one kind, with nothing
before the first and nothing after the second. -/
def unquote (literal : String) : Option String :=
  match literal.toList with
  | [] => none
  | quote :: rest =>
    if IsQuote quote then
      match readBody quote rest with
      | some (text, []) => some (String.ofList text)
      | _ => none
    else none

theorem readBody_quote (quote : Char) (rest : List Char) :
    readBody quote (quote :: rest) = some ([], rest) := by
  rw [readBody, if_pos (List.head?_cons ..)]
  rfl

theorem readBody_of_readChar {quote c : Char} {cs rest : List Char} (inside : cs.head? ≠ some quote)
    (read : readChar cs = some (c, rest)) :
    readBody quote cs = (readBody quote rest).map fun (text, after) => (c :: text, after) := by
  rw [readBody, if_neg inside]
  split
  · rename_i failed
    cases failed.symm.trans read
  · rename_i found
    cases found.symm.trans read
    rfl

end Reader

section Hexadecimal

theorem hexValue?_hexDigit : ∀ d < 16, hexValue? (hexDigit d) = some d := by decide

theorem length_hexDigits (width n : Nat) : (hexDigits width n).length = width := by
  induction width generalizing n with
  | zero => rfl
  | succ width ih => rw [hexDigits, List.length_append, ih, List.length_singleton]

theorem exists_of_mem_hexDigits {width n : Nat} {c : Char} (present : c ∈ hexDigits width n) :
    ∃ d < 16, c = hexDigit d := by
  induction width generalizing n with
  | zero => cases present
  | succ width ih =>
      rw [hexDigits, List.mem_append, List.mem_singleton] at present
      rcases present with earlier | rfl
      · exact ih earlier
      · exact ⟨n % 16, Nat.mod_lt n (by decide), rfl⟩

theorem hexNumber?_hexDigits {width n : Nat} (fits : n < Nat.pow 16 width) :
    hexNumber? (hexDigits width n) = some n := by
  induction width generalizing n with
  | zero =>
      rw [Nat.lt_one_iff.mp fits]
      rfl
  | succ width ih =>
      have front := ih (Nat.div_lt_of_lt_mul (Nat.lt_of_lt_of_eq fits (Nat.mul_comm _ 16)))
      rw [hexNumber?] at front ⊢
      rw [hexDigits, List.foldlM_append, front]
      have last := hexValue?_hexDigit (n % 16) (Nat.mod_lt n (by decide))
      simp [last]
      omega

/-- A code point in enough digits is read back. -/
theorem readCodePoint_hexDigits {c : Char} {width : Nat} (fits : c.toNat < Nat.pow 16 width)
    (rest : List Char) :
    readCodePoint (hexDigits width c.toNat ++ rest) width = some (c, rest) := by
  have size := length_hexDigits width c.toNat
  rw [readCodePoint, List.take_left' size, List.drop_left' size, hexNumber?_hexDigits fits,
    Option.bind_some, if_pos, Char.ofNat_toNat]
  constructor
  · rw [List.length_append]
    omega
  · exact c.valid

end Hexadecimal

/-- All that a character can become in a literal between the given quotes: a sign or a code
point after a backslash, or the character itself where it is visible. -/
inductive Spelled (quote : Char) (Visible : Char → Prop) (c : Char) : List Char → Prop
  | sign {sign : Char} (means : signMeans? sign = some c) : Spelled quote Visible c ['\\', sign]
  | code {sign : Char} {width : Nat} (announces : signWidth? sign = some width)
      (fits : c.toNat < Nat.pow 16 width) :
      Spelled quote Visible c ('\\' :: sign :: hexDigits width c.toNat)
  | self (visible : Visible c) (notQuote : c ≠ quote) (notBackslash : c ≠ '\\')
      (unbroken : c ≠ '\n' ∧ c ≠ '\r') : Spelled quote Visible c [c]

/-- The characters of a text that neither escape another one nor are escaped. -/
def unescaped : List Char → List Char
  | [] => []
  | '\\' :: _ :: rest => unescaped rest
  | c :: rest => c :: unescaped rest

theorem unescaped_append {plain : List Char} (ordinary : '\\' ∉ plain) (rest : List Char) :
    unescaped (plain ++ rest) = plain ++ unescaped rest := by
  induction plain with
  | nil => rfl
  | cons c others ih =>
      rw [List.mem_cons, not_or] at ordinary
      rw [List.cons_append, unescaped, ih ordinary.2, List.cons_append]
      intro _ _ same
      exact absurd same.symm ordinary.1

/-- The characters that have a meaning after a backslash. -/
def signs : List Char :=
  ['\\', singleQuote, doubleQuote, 'n', 'r', 't', 'b', 'f', 'x', 'u', 'U']

theorem mem_signs_of_signMeans? {sign c : Char} (means : signMeans? sign = some c) :
    sign ∈ signs := by
  apply Classical.byContradiction
  intro absent
  simp only [signs, List.mem_cons, List.not_mem_nil, or_false, not_or] at absent
  simp [signMeans?, IsQuote, absent] at means

/-- A sign announces a code point only if it stands for no character. -/
theorem signMeans?_of_signWidth? {sign : Char} {width : Nat}
    (announces : signWidth? sign = some width) : sign ∈ signs ∧ signMeans? sign = none := by
  unfold signWidth? at announces
  split at announces
  · rename_i same
    rw [same]
    decide
  · split at announces
    · rename_i same
      rw [same]
      decide
    · split at announces
      · rename_i same
        rw [same]
        decide
      · cases announces

namespace Spelled

variable {quote c : Char} {Visible : Char → Prop} {spelling : List Char}

/-- What a character has become is read back. -/
theorem readChar_eq (spelled : Spelled quote Visible c spelling) (rest : List Char) :
    readChar (spelling ++ rest) = some (c, rest) := by
  cases spelled with
  | sign means =>
      change readChar ('\\' :: _ :: rest) = _
      rw [readChar, means]
  | @code sign width announces fits =>
      change readChar ('\\' :: sign :: (hexDigits width c.toNat ++ rest)) = _
      rw [readChar, (signMeans?_of_signWidth? announces).2, announces]
      exact readCodePoint_hexDigits fits rest
  | self _ _ notBackslash unbroken =>
      change readChar (c :: rest) = _
      unfold readChar
      split <;> simp_all

/-- It starts with a backslash or with a character other than the quote. -/
theorem head?_ne (spelled : Spelled quote Visible c spelling) (isQuote : IsQuote quote)
    (rest : List Char) : (spelling ++ rest).head? ≠ some quote := by
  have backslash : '\\' ≠ quote := by
    rcases isQuote with rfl | rfl <;> decide
  cases spelled with
  | sign _ | code _ _ => simpa using backslash
  | self _ notQuote _ _ => simpa using notQuote

/-- All of it is visible where the signs and the digits are. -/
theorem forall_visible (spelled : Spelled quote Visible c spelling)
    (visible : ∀ sign ∈ signs, Visible sign) (digits : ∀ d < 16, Visible (hexDigit d)) :
    ∀ shown ∈ spelling, Visible shown := by
  have backslash : Visible '\\' := visible '\\' (by decide)
  intro shown present
  cases spelled with
  | sign means =>
      rw [List.mem_cons, List.mem_singleton] at present
      rcases present with rfl | rfl
      · exact backslash
      · exact visible shown (mem_signs_of_signMeans? means)
  | code announces _ =>
      rw [List.mem_cons, List.mem_cons] at present
      rcases present with rfl | rfl | digit
      · exact backslash
      · exact visible shown (signMeans?_of_signWidth? announces).1
      · obtain ⟨d, small, rfl⟩ := exists_of_mem_hexDigits digit
        exact digits d small
  | self visible _ _ _ => rwa [List.mem_singleton.mp present]

/-- No quote stands in it but after a backslash. -/
theorem exists_unescaped (spelled : Spelled quote Visible c spelling) (isQuote : IsQuote quote) :
    ∃ plain, quote ∉ plain ∧ ∀ rest, unescaped (spelling ++ rest) = plain ++ unescaped rest := by
  cases spelled with
  | sign _ => exact ⟨[], List.not_mem_nil, fun rest => rfl⟩
  | @code sign width announces fits =>
      have foreign : ∀ d < 16, hexDigit d ≠ '\\' ∧ ¬ IsQuote (hexDigit d) := by decide
      have digit (shown : Char) (present : shown ∈ hexDigits width c.toNat) :
          shown ≠ '\\' ∧ ¬ IsQuote shown := by
        obtain ⟨d, small, rfl⟩ := exists_of_mem_hexDigits present
        exact foreign d small
      refine ⟨hexDigits width c.toNat, fun present => (digit quote present).2 isQuote, ?_⟩
      intro rest
      exact unescaped_append (fun present => (digit _ present).1 rfl) rest
  | self _ notQuote notBackslash _ =>
      exact ⟨[c], by simpa using notQuote.symm, unescaped_append (by simpa using notBackslash.symm)⟩

end Spelled

section Literal

variable {quote : Char} {Visible : Char → Prop} {spell : Char → List Char}

/-- A text is read back up to the quote that follows it. -/
theorem readBody_flatMap (isQuote : IsQuote quote)
    (spelled : ∀ c, Spelled quote Visible c (spell c)) (cs rest : List Char) :
    readBody quote (cs.flatMap spell ++ quote :: rest) = some (cs, rest) := by
  induction cs with
  | nil => exact readBody_quote quote rest
  | cons c others ih =>
      rw [List.flatMap_cons, List.append_assoc,
        readBody_of_readChar ((spelled c).head?_ne isQuote _) ((spelled c).readChar_eq _), ih]
      rfl

theorem exists_unescaped_flatMap (isQuote : IsQuote quote)
    (spelled : ∀ c, Spelled quote Visible c (spell c)) (cs : List Char) :
    ∃ plain, quote ∉ plain ∧
      ∀ rest, unescaped (cs.flatMap spell ++ rest) = plain ++ unescaped rest := by
  induction cs with
  | nil => exact ⟨[], List.not_mem_nil, fun rest => rfl⟩
  | cons c others ih =>
      obtain ⟨plain, absent, here⟩ := (spelled c).exists_unescaped isQuote
      obtain ⟨more, absent', there⟩ := ih
      refine ⟨plain ++ more, ?_, ?_⟩
      · rw [List.mem_append]
        exact not_or.mpr ⟨absent, absent'⟩
      · intro rest
        rw [List.flatMap_cons, List.append_assoc, here, there, List.append_assoc]

end Literal

theorem isQuote_quoteFor (cs : List Char) : IsQuote (quoteFor cs) := by
  rw [quoteFor]
  split
  · exact .inr rfl
  · exact .inl rfl

theorem spelled_codePointEscape (quote : Char) (Visible : Char → Prop) (c : Char) :
    Spelled quote Visible c (codePointEscape c) := by
  have valid : c.toNat < 0x110000 := by
    have bound := c.valid
    simp only [UInt32.isValidChar, Nat.isValidChar] at bound
    simp only [Char.toNat]
    omega
  unfold codePointEscape
  split
  · exact .code rfl (by omega)
  · split
    · exact .code rfl (by omega)
    · exact .code rfl (Nat.lt_trans valid (by decide))

/-- Between quotes a character stands as it is only if it is printable. -/
theorem spelled_quoteChar {quote : Char} (isQuote : IsQuote quote) (c : Char) :
    Spelled quote (isPrintable · = true) c (quoteChar quote c) := by
  unfold quoteChar
  split
  · rename_i special
    rw [Bool.or_eq_true, decide_eq_true_eq, decide_eq_true_eq] at special
    apply Spelled.sign
    rw [signMeans?, if_pos]
    rcases special with rfl | backslash
    · exact .inr isQuote
    · exact .inl backslash
  · rename_i ordinary
    rw [Bool.or_eq_true, decide_eq_true_eq, decide_eq_true_eq, not_or] at ordinary
    by_cases feed : c = '\n'
    · rw [if_pos feed, feed]
      exact .sign rfl
    · by_cases carriage : c = '\r'
      · rw [if_neg feed, if_pos carriage, carriage]
        exact .sign rfl
      · by_cases tab : c = '\t'
        · rw [if_neg feed, if_neg carriage, if_pos tab, tab]
          exact .sign rfl
        · rw [if_neg feed, if_neg carriage, if_neg tab]
          split
          · rename_i printable
            exact .self printable ordinary.1 ordinary.2 ⟨feed, carriage⟩
          · exact spelled_codePointEscape ..

/-- A quoted text denotes the text. -/
theorem unquote_quoted (text : String) : unquote (quoted text) = some text := by
  have isQuote := isQuote_quoteFor text.toList
  rw [unquote, quoted, String.toList_ofList, quoteChars]
  dsimp only
  rw [if_pos isQuote, readBody_flatMap isQuote (spelled_quoteChar isQuote)]
  exact congrArg some String.ofList_toList

/-- All characters of a quoted text are printable. -/
theorem isPrintable_of_mem_quoted {text : String} {c : Char} (present : c ∈ (quoted text).toList) :
    isPrintable c = true := by
  have isQuote := isQuote_quoteFor text.toList
  have visible : ∀ sign ∈ signs, isPrintable sign = true :=
    List.all_eq_true.mp (by decide)
  have digits : ∀ d < 16, isPrintable (hexDigit d) = true := by decide
  have quotes : isPrintable (quoteFor text.toList) = true := by
    rcases isQuote with single | double
    · rw [single]
      decide
    · rw [double]
      decide
  rw [quoted, String.toList_ofList, quoteChars, List.mem_cons, List.mem_append,
    List.mem_singleton] at present
  rcases present with rfl | inside | rfl
  · exact quotes
  · obtain ⟨meant, -, shown⟩ := List.mem_flatMap.mp inside
    exact (spelled_quoteChar isQuote meant).forall_visible visible digits c shown
  · exact quotes

/-- The quote in use stands at the two ends of a quoted text, and inside of it only where a
backslash escapes it. -/
theorem exists_unescaped_quoted (text : String) :
    ∃ quote body, IsQuote quote ∧ (quoted text).toList = quote :: (body ++ [quote]) ∧
      unescaped (quoted text).toList = quote :: (unescaped body ++ [quote]) ∧
      quote ∉ unescaped body := by
  have isQuote := isQuote_quoteFor text.toList
  obtain ⟨plain, absent, taken⟩ :=
    exists_unescaped_flatMap isQuote (spelled_quoteChar isQuote) text.toList
  have inner : unescaped (text.toList.flatMap (quoteChar (quoteFor text.toList))) = plain := by
    simpa [unescaped] using taken []
  have ordinary : '\\' ∉ [quoteFor text.toList] := by
    rcases isQuote with single | double
    · rw [single]
      decide
    · rw [double]
      decide
  have whole : (quoted text).toList = [quoteFor text.toList] ++
      (text.toList.flatMap (quoteChar (quoteFor text.toList)) ++ [quoteFor text.toList]) := by
    rw [quoted, String.toList_ofList]
    rfl
  refine ⟨quoteFor text.toList, _, isQuote, whole, ?_, by rwa [inner]⟩
  have closing : unescaped [quoteFor text.toList] = [quoteFor text.toList] :=
    unescaped_append ordinary []
  rw [whole, unescaped_append ordinary, taken, inner, closing]
  rfl

end Text

theorem Instruction.statement_literal (sink text : String) (span : Span) :
    (literal text span).statement sink = sink ++ ".write(" ++ Text.quoted text ++ ")" :=
  rfl

/-- The statement that writes a text shows the text as a literal. All of the literal is
printable, so it has no line break; its quote stands in it unescaped at the two ends only; and
it denotes the text. So no two texts have the same statement. -/
theorem literal_statement_denotes (sink text : String) (span : Span) :
    (Instruction.literal text span).statement sink =
      sink ++ ".write(" ++ Text.quoted text ++ ")" ∧
    (∀ c ∈ (Text.quoted text).toList, Text.isPrintable c = true ∧ c ≠ '\n' ∧ c ≠ '\r') ∧
    (∃ quote body, Text.IsQuote quote ∧
      (Text.quoted text).toList = quote :: (body ++ [quote]) ∧
      Text.unescaped (Text.quoted text).toList = quote :: (Text.unescaped body ++ [quote]) ∧
      quote ∉ Text.unescaped body) ∧
    Text.unquote (Text.quoted text) = some text ∧
    ∀ (other : String) (elsewhere : Span),
      (Instruction.literal other elsewhere).statement sink =
        (Instruction.literal text span).statement sink ↔ other = text := by
  refine ⟨Instruction.statement_literal sink text span, ?_, Text.exists_unescaped_quoted text,
    Text.unquote_quoted text, ?_⟩
  · intro c present
    have printable := Text.isPrintable_of_mem_quoted present
    refine ⟨printable, ?_, ?_⟩
    · rintro rfl
      cases printable
    · rintro rfl
      cases printable
  · intro other elsewhere
    constructor
    · intro same
      have literals : Text.quoted other = Text.quoted text := by
        rw [Instruction.statement_literal, Instruction.statement_literal] at same
        simpa using same
      have denoted := congrArg Text.unquote literals
      rw [Text.unquote_quoted, Text.unquote_quoted] at denoted
      exact Option.some.inj denoted
    · rintro rfl
      rfl

end Stencil
