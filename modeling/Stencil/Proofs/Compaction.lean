/-
# The pretty form is the compact form with blanks

Outside of texts the compact form of a document has no blanks, and the pretty form has them only
where one is put in for layout. So the pretty form without the blanks outside of its texts is the
compact form. To leave out these blanks one has to know where a text ends, and a text ends at the
first quote that is not escaped: `squeeze` goes through what is outside of texts, and `copyText`
through a text.

Both forms are built from the same pieces in the same order. `Squeezes` relates a piece to what is
left of it, whatever follows, so that it goes together with the pieces next to it.
-/

import Stencil.Document.Json
import Stencil.Proofs.Locating
import Stencil.Proofs.Quoting

namespace Stencil

namespace Decimal

/-- The characters that a number is written with, or the word for what is no number. -/
def isNumeral (c : Char) : Bool :=
  c.isDigit || ".e+-infa".toList.contains c

theorem isNumeral_of_isDigit {cs : List Char} (all : ∀ c ∈ cs, c.isDigit = true) :
    ∀ c ∈ cs, isNumeral c = true := by
  intro c listed
  rw [isNumeral, all c listed, Bool.true_or]

theorem isNumeral_of_mem_digitsOf (n : Nat) : ∀ c ∈ digitsOf n, isNumeral c = true :=
  isNumeral_of_isDigit fun _ => Nat.isDigit_of_mem_toDigits (by decide) (by decide)

theorem isNumeral_of_mem_zeros (count : Nat) : ∀ c ∈ zeros count, isNumeral c = true := by
  intro c listed
  rw [List.eq_of_mem_replicate listed]
  decide

theorem isNumeral_of_mem_shortest (significand : Nat) (exponent : Int) (powerOfTwo : Bool) :
    ∀ c ∈ (shortest significand exponent powerOfTwo).1, isNumeral c = true := by
  intro c listed
  have kept := (List.dropWhile_sublist _).subset (List.mem_reverse.mp listed)
  exact isNumeral_of_mem_digitsOf _ c (List.mem_reverse.mp kept)

theorem isNumeral_of_mem_written {digits : List Char} (all : ∀ c ∈ digits, isNumeral c = true)
    (point : Int) : ∀ c ∈ written digits point, isNumeral c = true := by
  have front (count : Nat) : ∀ c ∈ digits.take count, isNumeral c = true :=
    fun c listed => all c (List.mem_of_mem_take listed)
  have back (count : Nat) : ∀ c ∈ digits.drop count, isNumeral c = true :=
    fun c listed => all c (List.mem_of_mem_drop listed)
  unfold written
  dsimp only
  split
  · split
    · simp only [List.forall_mem_cons, List.forall_mem_append]
      exact ⟨by decide, by decide, isNumeral_of_mem_zeros _, all⟩
    · split
      · simp only [List.forall_mem_cons, List.forall_mem_append]
        exact ⟨⟨all, isNumeral_of_mem_zeros _⟩, by decide, by decide, nofun⟩
      · simp only [List.forall_mem_cons, List.forall_mem_append]
        exact ⟨front _, by decide, back _⟩
  · simp only [List.forall_mem_cons, List.forall_mem_append]
    refine ⟨⟨front 1, ?_⟩, by decide, ?_, isNumeral_of_mem_zeros _, isNumeral_of_mem_digitsOf _⟩
    · split
      · exact List.forall_mem_cons.mpr ⟨by decide, back 1⟩
      · nofun
    · split <;> decide

theorem isNumeral_of_mem_ofFloat (x : Float) : ∀ c ∈ (ofFloat x).toList, isNumeral c = true := by
  have word {text : String} (all : text.toList.all isNumeral = true) :
      ∀ c ∈ text.toList, isNumeral c = true :=
    List.all_eq_true.mp all
  have sign (negative : Prop) [Decidable negative] :
      ∀ c ∈ (if negative then "-" else "").toList, isNumeral c = true := by
    split <;> exact word (by decide)
  unfold ofFloat
  dsimp only
  split
  · split
    · rw [String.toList_append, List.forall_mem_append]
      exact ⟨sign _, word (by decide)⟩
    · exact word (by decide)
  · split
    · rw [String.toList_append, List.forall_mem_append]
      exact ⟨sign _, word (by decide)⟩
    · rw [String.toList_append, List.forall_mem_append, String.toList_ofList]
      exact ⟨sign _, isNumeral_of_mem_written (isNumeral_of_mem_shortest _ _ _) _⟩

end Decimal

namespace Document

mutual

/-- A JSON text without the blanks that stand outside of its texts. -/
def squeeze : List Char → List Char
  | [] => []
  | c :: rest =>
    if c = Text.doubleQuote then c :: copyText rest
    else if Text.isBlank c then squeeze rest
    else c :: squeeze rest

/-- The same from within a text on. -/
def copyText : List Char → List Char
  | [] => []
  | '\\' :: c :: rest => '\\' :: c :: copyText rest
  | c :: rest => c :: if c = Text.doubleQuote then squeeze rest else copyText rest

end

/-- A JSON text without the blanks that stand outside of its texts. -/
def squeezed (written : String) : String :=
  String.ofList (squeeze written.toList)

section Texts

theorem copyText_append {plain : List Char}
    (ordinary : ∀ c ∈ plain, c ≠ '\\' ∧ c ≠ Text.doubleQuote) (rest : List Char) :
    copyText (plain ++ rest) = plain ++ copyText rest := by
  induction plain with
  | nil => rfl
  | cons c others ih =>
      rw [List.forall_mem_cons] at ordinary
      rw [List.cons_append, copyText, if_neg ordinary.1.2, ih ordinary.2, List.cons_append]
      intro _ _ same
      exact absurd same ordinary.1.1

/-- What a character has become inside of a text is copied. -/
theorem copyText_spelled {Visible : Char → Prop} {c : Char} {spelling : List Char}
    (spelled : Text.Spelled Text.doubleQuote Visible c spelling) (rest : List Char) :
    copyText (spelling ++ rest) = spelling ++ copyText rest := by
  cases spelled with
  | sign _ =>
      change copyText ('\\' :: _ :: rest) = _
      rw [copyText]
      rfl
  | @code sign width _ _ =>
      have ordinary : ∀ d < 16, Text.hexDigit d ≠ '\\' ∧ Text.hexDigit d ≠ Text.doubleQuote := by
        decide
      change copyText ('\\' :: sign :: (Text.hexDigits width c.toNat ++ rest)) = _
      rw [copyText, copyText_append]
      · rfl
      · intro shown present
        obtain ⟨d, small, rfl⟩ := Text.exists_of_mem_hexDigits present
        exact ordinary d small
  | self _ notQuote notBackslash _ =>
      apply copyText_append
      simpa using ⟨notBackslash, notQuote⟩

/-- Inside of a JSON text a character is spelled as in a literal between double quotes. -/
theorem spelled_jsonChar (c : Char) :
    Text.Spelled Text.doubleQuote (fun _ => True) c (jsonChar c) := by
  have sign {d sign : Char} (means : Text.signMeans? sign = some d) (same : c = d) :
      Text.Spelled Text.doubleQuote (fun _ => True) c ['\\', sign] :=
    same ▸ .sign means
  unfold jsonChar
  split
  · rename_i quote
    rw [quote]
    exact .sign rfl
  · rename_i notQuote
    split
    · exact sign rfl ‹_›
    · rename_i notBackslash
      split
      · exact sign rfl ‹_›
      · rename_i notFeed
        split
        · exact sign rfl ‹_›
        · rename_i notReturn
          split
          · exact sign rfl ‹_›
          · split
            · exact sign rfl ‹_›
            · split
              · exact sign rfl ‹_›
              · split
                · rename_i control
                  exact .code rfl (Nat.lt_trans control (by decide))
                · exact .self trivial notQuote notBackslash ⟨notFeed, notReturn⟩

end Texts

/-- Whatever follows, the second text is what is left of the first one when blanks outside of
texts are left out, and it ends outside of a text. -/
def Squeezes (written left : String) : Prop :=
  ∀ rest, squeeze (written.toList ++ rest) = left.toList ++ squeeze rest

namespace Squeezes

variable {written left written' left' : String}

theorem squeezed_eq (squeezes : Squeezes written left) : squeezed written = left := by
  have whole := squeezes []
  rw [List.append_nil, squeeze, List.append_nil] at whole
  rw [squeezed, whole, String.ofList_toList]

theorem append (squeezes : Squeezes written left) (squeezes' : Squeezes written' left') :
    Squeezes (written ++ written') (left ++ left') := by
  intro rest
  rw [String.toList_append, String.toList_append, List.append_assoc, List.append_assoc, squeezes,
    squeezes']

/-- What has neither blanks nor quotes in it is left as it is. -/
theorem of_solid {text : String}
    (solid : ∀ c ∈ text.toList, c ≠ Text.doubleQuote ∧ Text.isBlank c = false) :
    Squeezes text text := by
  intro rest
  generalize text.toList = cs at solid ⊢
  induction cs with
  | nil => rfl
  | cons c others ih =>
      rw [List.forall_mem_cons] at solid
      simp only [List.cons_append, squeeze, if_neg solid.1.1, solid.1.2, ih solid.2]
      rfl

/-- Nothing is left of blanks. -/
theorem of_blank {blanks : String} (blank : blanks.toList.all Text.isBlank = true) :
    Squeezes blanks "" := by
  intro rest
  generalize blanks.toList = cs at blank ⊢
  induction cs with
  | nil => rfl
  | cons c others ih =>
      rw [List.all_cons, Bool.and_eq_true] at blank
      have notQuote : c ≠ Text.doubleQuote := by
        rintro rfl
        cases blank.1
      rw [List.cons_append, squeeze, if_neg notQuote, if_pos blank.1, ih blank.2]

theorem word {text : String}
    (solid : text.toList.all (fun c => c != Text.doubleQuote && !Text.isBlank c) = true) :
    Squeezes text text := by
  apply of_solid
  intro c listed
  simpa using List.all_eq_true.mp solid c listed

/-- A number is left as it is. -/
theorem number {text : String} (numeral : ∀ c ∈ text.toList, Decimal.isNumeral c = true) :
    Squeezes text text := by
  apply of_solid
  intro c listed
  have isNumeral := numeral c listed
  rw [Decimal.isNumeral, Bool.or_eq_true] at isNumeral
  rcases isNumeral with digit | mark
  · have range : 48 ≤ c.toNat ∧ c.toNat ≤ 57 := by
      simpa [Char.isDigit, UInt32.le_iff_toNat_le] using digit
    constructor
    · rintro rfl
      cases digit
    · simp [Text.isBlank]
      omega
  · have none : ".e+-infa".toList.all
        (fun c => c != Text.doubleQuote && !Text.isBlank c) = true := by
      decide
    simpa using List.all_eq_true.mp none c (List.contains_iff_mem.mp mark)

/-- Texts with something between them are squeezed one by one. -/
theorem intercalate {texts texts' : List String} (between : Squeezes written left)
    (each : List.Forall₂ Squeezes texts texts') :
    Squeezes (written.intercalate texts) (left.intercalate texts') := by
  induction each with
  | nil => exact word rfl
  | cons first others ih =>
      cases others with
      | nil => simpa using first
      | cons second others =>
          rw [String.intercalate_cons_cons, String.intercalate_cons_cons]
          exact (first.append between).append ih

end Squeezes

/-- A text is left as it is. -/
theorem squeezes_jsonText (text : String) : Squeezes (jsonText text) (jsonText text) := by
  -- No character of the text becomes a quote that ends it.
  have copied (cs rest : List Char) :
      copyText (cs.flatMap jsonChar ++ rest) = cs.flatMap jsonChar ++ copyText rest := by
    induction cs with
    | nil => rfl
    | cons c others ih =>
        rw [List.flatMap_cons, List.append_assoc, copyText_spelled (spelled_jsonChar c), ih,
          List.append_assoc]
  have closes (rest : List Char) :
      copyText (Text.doubleQuote :: rest) = Text.doubleQuote :: squeeze rest := by
    rw [copyText, if_pos rfl]
    nofun
  intro rest
  rw [jsonText, String.toList_ofList]
  simp only [List.cons_append, List.append_assoc, List.nil_append, squeeze, if_true, copied, closes]

theorem squeezes_jsonBreak (pretty : Bool) (level : Nat) :
    Squeezes (jsonBreak pretty level) (jsonBreak false level) := by
  cases pretty with
  | false => exact .word rfl
  | true =>
      apply Squeezes.of_blank
      rw [jsonBreak, if_pos rfl, String.toList_append, List.all_append, Bool.and_eq_true]
      constructor
      · decide
      · rw [String.toList_ofList, List.all_replicate]
        split <;> decide

theorem squeezes_jsonColon (pretty : Bool) : Squeezes (jsonColon pretty) (jsonColon false) := by
  cases pretty with
  | false => exact .word (by decide)
  | true =>
      have colon : Squeezes ":" ":" := .word (by decide)
      have space : Squeezes " " "" := .of_blank (by decide)
      exact colon.append space

/-- Parts between brackets are squeezed one by one. -/
theorem squeezes_jsonEnclosed {pretty : Bool} {level : Nat} {left right : String}
    {parts parts' : List String} (opens : Squeezes left left) (closes : Squeezes right right)
    (each : List.Forall₂ Squeezes parts parts') :
    Squeezes (jsonEnclosed pretty level left right parts)
      (jsonEnclosed false level left right parts') := by
  have comma : Squeezes "," "," := .word (by decide)
  have between := comma.append (squeezes_jsonBreak pretty (level + 1))
  cases each with
  | nil => exact opens.append closes
  | cons first others =>
      have inner := (opens.append (squeezes_jsonBreak pretty (level + 1))).append
        (between.intercalate (.cons first others))
      exact (inner.append (squeezes_jsonBreak pretty level)).append closes

theorem squeezes_jsonFloat (x : Float) : Squeezes (jsonFloat x) (jsonFloat x) := by
  unfold jsonFloat
  dsimp only
  split
  · exact .word (by decide)
  · split
    · exact .word (by decide)
    · split
      · exact .word (by decide)
      · exact .number (Decimal.isNumeral_of_mem_ofFloat x)

theorem squeezes_toString (n : Int) : Squeezes (toString n) (toString n) := by
  apply Squeezes.number
  intro c listed
  rcases Text.eq_or_isDigit_of_mem_toString listed with rfl | digit
  · decide
  · rw [Decimal.isNumeral, digit, Bool.true_or]

mutual

/-- Either form of a document is squeezed to the compact form. -/
theorem squeezes_jsonAt (pretty : Bool) (level : Nat) :
    ∀ document, Squeezes (jsonAt pretty level document) (jsonAt false level document)
  | null | bool true | bool false => by
      simp only [jsonAt]
      exact .word (by decide)
  | int n => by
      simp only [jsonAt]
      exact squeezes_toString n
  | float x => by
      simp only [jsonAt]
      exact squeezes_jsonFloat x
  | Document.text value => by
      simp only [jsonAt]
      exact squeezes_jsonText value
  | time value => by
      simp only [jsonAt]
      exact squeezes_jsonText value.text
  | foreign value => by
      simp only [jsonAt]
      exact squeezes_jsonText value.describe
  | list items => by
      simp only [jsonAt]
      apply squeezes_jsonEnclosed (.word (by decide)) (.word (by decide))
      exact squeezes_jsonItems pretty (level + 1) items
  | map entries => by
      simp only [jsonAt]
      apply squeezes_jsonEnclosed (.word (by decide)) (.word (by decide))
      exact squeezes_jsonEntries pretty (level + 1) entries

theorem squeezes_jsonItems (pretty : Bool) (level : Nat) :
    ∀ items, List.Forall₂ Squeezes (jsonItems pretty level items) (jsonItems false level items)
  | [] => .nil
  | item :: rest => by
      simp only [jsonItems]
      exact .cons (squeezes_jsonAt pretty level item) (squeezes_jsonItems pretty level rest)

theorem squeezes_jsonEntries (pretty : Bool) (level : Nat) :
    ∀ entries,
      List.Forall₂ Squeezes (jsonEntries pretty level entries) (jsonEntries false level entries)
  | [] => .nil
  | (key, value) :: rest => by
      simp only [jsonEntries]
      have first := ((squeezes_jsonText (jsonKey key)).append (squeezes_jsonColon pretty)).append
        (squeezes_jsonAt pretty level value)
      exact .cons first (squeezes_jsonEntries pretty level rest)

end

/-- Either form of a document is the compact form once blanks outside of texts are left out. -/
theorem squeezed_json (document : Document) (pretty : Bool) :
    squeezed (document.json pretty) = document.json false :=
  (squeezes_jsonAt pretty 0 document).squeezed_eq

end Document

end Stencil
