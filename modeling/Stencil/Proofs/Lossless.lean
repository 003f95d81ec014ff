/-
# Reports lose nothing

Two templates with the same report are the same, and it is enough that the reports have the same
JSON text. A report is built of nothing, truth values, whole numbers, texts, lists, and mappings
from texts. The compact form of such a document can be told from whatever follows it: its first
character gives the kind of document, a number ends where no digit follows, a text ends at the
first quote that is not escaped, and in brackets a comma or the closing bracket comes after each
part. So two documents that are written at the start of the same text are the same. The pretty
form has no more in it than the compact form.
-/

import Mathlib.Data.List.Forall2
import Stencil.Report
import Stencil.Proofs.Compaction
import Stencil.Proofs.Fields

namespace Stencil

namespace Document

/-- A document without fractions, timestamps and values of foreign kinds, in which all keys are
texts. -/
inductive Plain : Document → Prop
  | null : Plain .null
  | bool (value : Bool) : Plain (.bool value)
  | int (value : Int) : Plain (.int value)
  | text (value : String) : Plain (.text value)
  | list {items : List Document} (each : ∀ item ∈ items, Plain item) : Plain (.list items)
  | fields {entries : List (String × Document)} (each : ∀ entry ∈ entries, Plain entry.2) :
      Plain (Report.fields entries)

/-- The compact form of a document at a level of nesting. -/
def compact (level : Nat) (document : Document) : List Char :=
  (jsonAt false level document).toList

/-- The compact form of an entry. -/
def compactEntry (level : Nat) (entry : String × Document) : List Char :=
  (jsonText entry.1).toList ++ ':' :: compact level entry.2

theorem compact_null (level : Nat) : compact level .null = "null".toList := by
  rw [compact, jsonAt]

theorem compact_bool (level : Nat) (value : Bool) :
    compact level (.bool value) = (if value then "true" else "false").toList := by
  cases value with
  | true | false =>
      rw [compact, jsonAt]
      rfl

theorem compact_int (level : Nat) (value : Int) :
    compact level (.int value) = (toString value).toList := by
  rw [compact, jsonAt]

theorem compact_text (level : Nat) (value : String) :
    compact level (.text value) = (jsonText value).toList := by
  rw [compact, jsonAt]

theorem toList_jsonText (text : String) :
    (jsonText text).toList =
      Text.doubleQuote :: (text.toList.flatMap jsonChar ++ [Text.doubleQuote]) := by
  rw [jsonText, String.toList_ofList]

section Brackets

theorem jsonItems_eq_map (pretty : Bool) (level : Nat) (items : List Document) :
    jsonItems pretty level items = items.map (jsonAt pretty level) := by
  induction items with
  | nil => rfl
  | cons item rest ih => rw [jsonItems, ih, List.map_cons]

theorem jsonEntries_eq_map (pretty : Bool) (level : Nat) (entries : List (String × Document)) :
    jsonEntries pretty level (entries.map fun (name, value) => (.text name, value)) =
      entries.map fun (name, value) =>
        jsonText name ++ jsonColon pretty ++ jsonAt pretty level value := by
  induction entries with
  | nil => rfl
  | cons entry rest ih =>
      rw [List.map_cons, jsonEntries, ih, List.map_cons]
      rfl

/-- In the compact form there is nothing but commas between parts. -/
theorem toList_jsonEnclosed (level : Nat) (left right : String) (parts : List String) :
    (jsonEnclosed false level left right parts).toList =
      left.toList ++ ([','].intercalate (parts.map String.toList) ++ right.toList) := by
  have single : ",".toList = [','] := rfl
  cases parts with
  | nil => simp [jsonEnclosed]
  | cons first others => simp [jsonEnclosed, jsonBreak, String.toList_intercalate, single]

theorem compact_list (level : Nat) (items : List Document) :
    compact level (.list items) =
      '[' :: ([','].intercalate (items.map (compact (level + 1))) ++ [']']) := by
  rw [compact, jsonAt, toList_jsonEnclosed, jsonItems_eq_map, List.map_map]
  rfl

theorem compact_fields (level : Nat) (entries : List (String × Document)) :
    compact level (Report.fields entries) =
      '\x7b' :: ([','].intercalate (entries.map (compactEntry (level + 1))) ++ ['\x7d']) := by
  have entry : String.toList ∘ (fun (name, value) =>
      jsonText name ++ jsonColon false ++ jsonAt false (level + 1) value) =
        compactEntry (level + 1) := by
    funext (name, value)
    simp [compactEntry, compact, jsonColon]
  rw [compact, Report.fields, jsonAt, toList_jsonEnclosed, jsonEntries_eq_map, List.map_map, entry]
  rfl

end Brackets

section Prefixes

/-- The characters of whole numbers. -/
def inNumber (c : Char) : Bool := c == '-' || c.isDigit

/-- What can follow a document: it does not go on with a number. -/
def Ends (rest : List Char) : Prop := ∀ c ∈ rest.head?, inNumber c = false

/-- Written at the start of one text, the two are the same, and so is what follows them. -/
def Apart {α : Type} (written : α → List Char) (first second : α) : Prop :=
  ∀ ⦃rest rest'⦄, Ends rest → Ends rest' → written first ++ rest = written second ++ rest' →
    first = second ∧ rest = rest'

theorem ends_cons {c : Char} (notNumber : inNumber c = false) (rest : List Char) :
    Ends (c :: rest) := by
  rintro _ ⟨⟩
  exact notNumber

theorem inNumber_of_mem_toString {n : Int} {c : Char} (listed : c ∈ (toString n).toList) :
    inNumber c = true := by
  rcases Text.eq_or_isDigit_of_mem_toString listed with rfl | digit
  · rfl
  · rw [inNumber, digit, Bool.or_true]

/-- The number that digits stand for, with a dash in front if it is negative. -/
def readNumber (cs : List Char) : Int :=
  if cs.head? = some '-' then -(Nat.ofDigitChars 10 cs.tail 0 : Int)
  else (Nat.ofDigitChars 10 cs 0 : Int)

theorem readNumber_toString (n : Int) : readNumber (toString n).toList = n := by
  have digits (count : Nat) : Nat.ofDigitChars 10 (Nat.repr count).toList 0 = count := by
    rw [Nat.toList_repr]
    exact Nat.ofDigitChars_toDigits (by decide) (by decide)
  cases n with
  | ofNat count =>
      have noDash : (Nat.repr count).toList.head? ≠ some '-' := by
        intro dash
        have listed := List.mem_of_mem_head? dash
        rw [Nat.toList_repr] at listed
        cases Nat.isDigit_of_mem_toDigits (by decide) (by decide) listed
      change readNumber (Nat.repr count).toList = count
      rw [readNumber, if_neg noDash, digits]
  | negSucc count =>
      change readNumber ("-" ++ Nat.repr (count + 1)).toList = Int.negSucc count
      have dash : ("-" ++ Nat.repr (count + 1)).toList = '-' :: (Nat.repr (count + 1)).toList :=
        String.toList_append
      rw [readNumber, dash, List.head?_cons, if_pos rfl, List.tail_cons, digits]
      rfl

/-- A number is all up to where no digit follows. -/
theorem toString_append_inj {first second : Int} {rest rest' : List Char} (ends : Ends rest)
    (ends' : Ends rest')
    (same : (toString first).toList ++ rest = (toString second).toList ++ rest') :
    first = second ∧ rest = rest' := by
  have taken (n : Int) {rest : List Char} (ends : Ends rest) :
      ((toString n).toList ++ rest).takeWhile inNumber = (toString n).toList :=
    (Text.takeWhile_eq_front (fun _ => inNumber_of_mem_toString) ends).1
  have digits := congrArg (List.takeWhile inNumber) same
  rw [taken first ends, taken second ends'] at digits
  have numbers := congrArg readNumber digits
  rw [readNumber_toString, readNumber_toString] at numbers
  rw [digits] at same
  exact ⟨numbers, List.append_cancel_left same⟩

/-- A text is all up to the first quote that is not escaped. -/
theorem jsonText_append_inj {first second : String} {rest rest' : List Char}
    (same : (jsonText first).toList ++ rest = (jsonText second).toList ++ rest') :
    first = second ∧ rest = rest' := by
  have read (text : String) (rest : List Char) :
      Text.readBody Text.doubleQuote ((jsonText text).toList ++ rest).tail =
        some (text.toList, rest) := by
    rw [toList_jsonText, List.cons_append, List.tail_cons, List.append_assoc]
    exact Text.readBody_flatMap (.inr rfl) spelled_jsonChar text.toList rest
  have denoted := read first rest
  rw [same, read second rest', Option.some.injEq, Prod.mk.injEq] at denoted
  exact ⟨String.toList_inj.mp denoted.1.symm, denoted.2.symm⟩

variable {α : Type} {written : α → List Char} {items others : List α} {close : Char}
  {rest rest' : List Char}

/-- The first of several parts, and the others with a comma before each. -/
theorem intercalate_map_cons (item : α) (items : List α) :
    [','].intercalate ((item :: items).map written) =
      written item ++ items.flatMap (fun item => ',' :: written item) := by
  induction items generalizing item with
  | nil => simp
  | cons next later ih =>
      rw [List.map_cons, List.map_cons, List.intercalate_cons_cons, ← List.map_cons, ih]
      simp

theorem ends_tails (notNumber : inNumber close = false) (items : List α) (rest : List Char) :
    Ends (items.flatMap (fun item => ',' :: written item) ++ close :: rest) := by
  cases items with
  | nil => exact ends_cons notNumber rest
  | cons item later => exact ends_cons rfl _

theorem tails_append_inj (each : ∀ item ∈ items, ∀ other ∈ others, Apart written item other)
    (notComma : close ≠ ',') (notNumber : inNumber close = false)
    (same : items.flatMap (fun item => ',' :: written item) ++ close :: rest =
      others.flatMap (fun item => ',' :: written item) ++ close :: rest') :
    items = others ∧ rest = rest' := by
  induction items generalizing others with
  | nil =>
      cases others with
      | nil => exact ⟨rfl, (List.cons.inj same).2⟩
      | cons other later => exact absurd (List.cons.inj same).1 notComma
  | cons item more ih =>
      cases others with
      | nil => exact absurd (List.cons.inj same).1.symm notComma
      | cons other later =>
          simp only [List.flatMap_cons, List.cons_append, List.append_assoc] at same
          obtain ⟨rfl, sameTails⟩ := each item List.mem_cons_self other List.mem_cons_self
            (ends_tails notNumber more rest) (ends_tails notNumber later rest')
            (List.cons.inj same).2
          obtain ⟨rfl, sameRest⟩ := ih (fun item listed other listed' =>
            each item (List.mem_cons_of_mem _ listed) other (List.mem_cons_of_mem _ listed'))
            sameTails
          exact ⟨rfl, sameRest⟩

/-- Parts up to a closing bracket are told apart if each of them is, and none of them starts with
the bracket. -/
theorem intercalate_append_inj
    (each : ∀ item ∈ items, ∀ other ∈ others, Apart written item other)
    (opens : ∀ item ∈ items ++ others, ∃ c cs, written item = c :: cs ∧ c ≠ close)
    (notComma : close ≠ ',') (notNumber : inNumber close = false)
    (same : [','].intercalate (items.map written) ++ close :: rest =
      [','].intercalate (others.map written) ++ close :: rest') :
    items = others ∧ rest = rest' := by
  cases items with
  | nil =>
      cases others with
      | nil => exact ⟨rfl, (List.cons.inj same).2⟩
      | cons other later =>
          obtain ⟨c, cs, starts, notClose⟩ := opens other (by simp)
          rw [intercalate_map_cons, starts] at same
          exact absurd (List.cons.inj same).1.symm notClose
  | cons item more =>
      cases others with
      | nil =>
          obtain ⟨c, cs, starts, notClose⟩ := opens item (by simp)
          rw [intercalate_map_cons, starts] at same
          exact absurd (List.cons.inj same).1 notClose
      | cons other later =>
          -- With a comma in front, the first part is like the others.
          apply tails_append_inj each notComma notNumber
          simp only [List.flatMap_cons, List.cons_append, ← intercalate_map_cons, same]

end Prefixes

namespace Plain

variable {document other : Document} {level : Nat}

/-- The kind of a plain document that starts with a character. -/
def kindOf (first : Char) : String :=
  if inNumber first then "int"
  else if first = 'n' then "NoneType"
  else if first = 't' ∨ first = 'f' then "bool"
  else if first = Text.doubleQuote then "str"
  else if first = '[' then "list"
  else "dict"

theorem exists_first_toString (value : Int) :
    ∃ first later, (toString value).toList = first :: later ∧ inNumber first = true := by
  have nonempty : (toString value).toList ≠ [] := by
    rw [ne_eq, String.toList_eq_nil_iff]
    cases value with
    | ofNat count => exact Nat.repr_ne_empty
    | negSucc count =>
        change "-" ++ _ ≠ ""
        simp
  obtain ⟨first, later, spelled⟩ := List.exists_cons_of_ne_nil nonempty
  refine ⟨first, later, spelled, inNumber_of_mem_toString (n := value) ?_⟩
  rw [spelled]
  exact List.mem_cons_self

/-- The first character tells the kind, and is no closing bracket. -/
theorem exists_first (plain : document.Plain) (level : Nat) :
    ∃ first later, compact level document = first :: later ∧ kindOf first = document.kind ∧
      first ≠ ']' := by
  cases plain with
  | null => exact ⟨'n', _, compact_null level, by decide, by decide⟩
  | bool value =>
      cases value with
      | true => exact ⟨'t', _, compact_bool level true, by decide, by decide⟩
      | false => exact ⟨'f', _, compact_bool level false, by decide, by decide⟩
  | int value =>
      obtain ⟨first, later, starts, number⟩ := exists_first_toString value
      refine ⟨first, later, (compact_int level value).trans starts, if_pos number, ?_⟩
      rintro rfl
      cases number
  | text value =>
      have quote : kindOf Text.doubleQuote = "str" := by decide
      exact ⟨Text.doubleQuote, _, (compact_text ..).trans (toList_jsonText value), quote, by decide⟩
  | list each =>
      have bracket : kindOf '[' = "list" := by decide
      exact ⟨'[', _, compact_list .., bracket, by decide⟩
  | fields each =>
      have brace : kindOf '\x7b' = "dict" := by decide
      exact ⟨'\x7b', _, compact_fields .., brace, by decide⟩

theorem kind_eq (plain : document.Plain) (plain' : other.Plain) {rest rest' : List Char}
    (same : compact level document ++ rest = compact level other ++ rest') :
    document.kind = other.kind := by
  obtain ⟨first, later, starts, kind, -⟩ := plain.exists_first level
  obtain ⟨first', later', starts', kind', -⟩ := plain'.exists_first level
  rw [starts, starts'] at same
  rw [← kind, ← kind', (List.cons.inj same).1]

/-- Only documents of one kind have to be told apart. -/
theorem apart_of_kind (plain : document.Plain) (plain' : other.Plain)
    (ofSameKind : document.kind = other.kind → Apart (compact level) document other) :
    Apart (compact level) document other := by
  intro rest rest' ends ends' same
  exact ofSameKind (plain.kind_eq plain' same) ends ends' same

theorem apart_bool (value value' : Bool) : Apart (compact level) (.bool value) (.bool value') := by
  intro rest rest' _ _ same
  rw [compact_bool, compact_bool] at same
  cases value <;> cases value' <;> simp_all

theorem apart_int (value value' : Int) : Apart (compact level) (.int value) (.int value') := by
  intro rest rest' ends ends' same
  rw [compact_int, compact_int] at same
  obtain ⟨rfl, sameRest⟩ := toString_append_inj ends ends' same
  exact ⟨rfl, sameRest⟩

theorem apart_text (value value' : String) :
    Apart (compact level) (.text value) (.text value') := by
  intro rest rest' _ _ same
  rw [compact_text, compact_text] at same
  obtain ⟨rfl, sameRest⟩ := jsonText_append_inj same
  exact ⟨rfl, sameRest⟩

theorem apart_list {items others : List Document} (plain : ∀ item ∈ items, item.Plain)
    (plain' : ∀ item ∈ others, item.Plain)
    (each : ∀ item ∈ items, ∀ other ∈ others, Apart (compact (level + 1)) item other) :
    Apart (compact level) (.list items) (.list others) := by
  have opens (item : Document) (listed : item ∈ items ++ others) :
      ∃ c cs, compact (level + 1) item = c :: cs ∧ c ≠ ']' := by
    have itemPlain : item.Plain := (List.mem_append.mp listed).elim (plain item) (plain' item)
    obtain ⟨first, later, starts, -, notClose⟩ := itemPlain.exists_first (level + 1)
    exact ⟨first, later, starts, notClose⟩
  intro rest rest' _ _ same
  simp only [compact_list, List.cons_append, List.append_assoc, List.nil_append] at same
  obtain ⟨rfl, sameRest⟩ :=
    intercalate_append_inj each opens (by decide) (by decide) (List.cons.inj same).2
  exact ⟨rfl, sameRest⟩

theorem apart_compactEntry {entry entry' : String × Document}
    (values : Apart (compact level) entry.2 entry'.2) :
    Apart (compactEntry level) entry entry' := by
  intro rest rest' ends ends' same
  simp only [compactEntry, List.append_assoc, List.cons_append] at same
  obtain ⟨sameName, sameValues⟩ := jsonText_append_inj same
  obtain ⟨sameValue, sameRest⟩ := values ends ends' (List.cons.inj sameValues).2
  exact ⟨Prod.ext sameName sameValue, sameRest⟩

theorem apart_fields {entries others : List (String × Document)}
    (each : ∀ entry ∈ entries, ∀ other ∈ others, Apart (compact (level + 1)) entry.2 other.2) :
    Apart (compact level) (Report.fields entries) (Report.fields others) := by
  have opens (entry : String × Document) (_ : entry ∈ entries ++ others) :
      ∃ c cs, compactEntry (level + 1) entry = c :: cs ∧ c ≠ '\x7d' := by
    rw [compactEntry, toList_jsonText]
    exact ⟨_, _, List.cons_append, by decide⟩
  intro rest rest' _ _ same
  simp only [compact_fields, List.cons_append, List.append_assoc, List.nil_append] at same
  obtain ⟨rfl, sameRest⟩ := intercalate_append_inj
    (fun entry listed other listed' => apart_compactEntry (each entry listed other listed'))
    opens (by decide) (by decide) (List.cons.inj same).2
  exact ⟨rfl, sameRest⟩

theorem apart_of_kind_eq (plain : document.Plain) (plain' : other.Plain)
    (kinds : document.kind = other.kind) : Apart (compact level) document other := by
  -- The kinds of the parts are not known to agree, but where they do not the texts differ.
  induction plain generalizing other level with
  | null =>
      cases plain' with
      | null => exact fun _ _ _ _ same => ⟨rfl, List.append_cancel_left same⟩
      | _ => simp [kind, Report.fields] at kinds
  | bool value =>
      cases plain' with
      | bool value' => exact apart_bool value value'
      | _ => simp [kind, Report.fields] at kinds
  | int value =>
      cases plain' with
      | int value' => exact apart_int value value'
      | _ => simp [kind, Report.fields] at kinds
  | text value =>
      cases plain' with
      | text value' => exact apart_text value value'
      | _ => simp [kind, Report.fields] at kinds
  | list each ih =>
      cases plain' with
      | list each' =>
          apply apart_list each each'
          intro item listed other listed'
          exact apart_of_kind (each item listed) (each' other listed')
            (ih item listed (each' other listed'))
      | _ => simp [kind, Report.fields] at kinds
  | fields each ih =>
      cases plain' with
      | fields each' =>
          apply apart_fields
          intro entry listed other listed'
          exact apart_of_kind (each entry listed) (each' other listed')
            (ih entry listed (each' other listed'))
      | _ => simp [kind, Report.fields] at kinds

/-- Plain documents with the same JSON text are the same. -/
theorem eq_of_json {pretty : Bool} (plain : document.Plain) (plain' : other.Plain)
    (same : document.json pretty = other.json pretty) : document = other := by
  -- The pretty form gives the compact form, so that only the latter has to be read.
  have compacts : document.json false = other.json false := by
    rw [← squeezed_json document pretty, same, squeezed_json]
  have ends : Ends [] := nofun
  have apart : Apart (compact 0) document other :=
    apart_of_kind plain plain' (apart_of_kind_eq plain plain')
  exact (apart ends ends (congrArg (·.toList ++ []) compacts)).1

end Plain

end Document

/-- What succeeds on a list succeeds on each of its items. -/
theorem forall₂_of_mapM {α β ε : Type} {f : α → Except ε β} {items : List α} {results : List β}
    (maps : items.mapM f = .ok results) :
    List.Forall₂ (fun item result => f item = .ok result) items results := by
  induction items generalizing results with
  | nil =>
      cases maps
      exact .nil
  | cons item rest ih =>
      rw [List.mapM_cons] at maps
      obtain ⟨first, here, maps⟩ := Reader.bind_eq_ok.mp maps
      obtain ⟨others, further, maps⟩ := Reader.bind_eq_ok.mp maps
      cases maps
      exact .cons here (ih further)

namespace Report

variable {table table' : LineTable} {span span' : Span} {instruction instruction' : Instruction}
  {report : Document}

theorem fields_inj {entries others : List (String × Document)} :
    fields entries = fields others ↔ entries = others := by
  rw [fields, fields, Document.map.injEq]
  apply List.map_inj_right
  intro (name, value) (name', value') same
  simpa using same

theorem optionalText_inj {text other : Option String} :
    optionalText text = optionalText other ↔ text = other := by
  cases text <;> cases other <;> simp [optionalText]

theorem plain_optionalText (text : Option String) : (optionalText text).Plain := by
  cases text with
  | none => exact .null
  | some text => exact .text text

/-- A span is reported by its ends and a location. -/
theorem exists_of_ofSpan (reports : ofSpan table span = .ok report) :
    ∃ location : Location, report = fields
      [("start", .int span.start), ("end", .int span.stop), ("line", .int location.line),
        ("column", .int location.column)] := by
  obtain ⟨location, -, built⟩ := Reader.bind_eq_ok.mp reports
  cases built
  exact ⟨location, rfl⟩

theorem plain_of_ofSpan (reports : ofSpan table span = .ok report) : report.Plain := by
  obtain ⟨location, rfl⟩ := exists_of_ofSpan reports
  apply Document.Plain.fields
  simp [Document.Plain.int]

theorem span_eq_of_ofSpan (reports : ofSpan table span = .ok report)
    (reports' : ofSpan table' span' = .ok report) : span = span' := by
  obtain ⟨location, rfl⟩ := exists_of_ofSpan reports
  obtain ⟨location', same⟩ := exists_of_ofSpan reports'
  rw [fields_inj] at same
  simp only [List.cons.injEq, Prod.mk.injEq, Document.int.injEq, true_and] at same
  exact Span.ext (Int.ofNat.inj same.1) (Int.ofNat.inj same.2.1)

/-- The fields of an instruction, given the report of its span. -/
def entryOf (part : Document) : Instruction → List (String × Document)
  | .literal text _ =>
    [("op", .text "literal"), ("span", part), ("text", .text text), ("code", .null),
      ("escape", .null), ("escaper", .null)]
  | .expression code escaping _ escaper =>
    [("op", .text "expression"), ("span", part), ("text", .null), ("code", .text code),
      ("escape", .text escaping.word), ("escaper", optionalText escaper)]
  | .raw code _ =>
    [("op", .text "raw"), ("span", part), ("text", .null), ("code", .text code),
      ("escape", .null), ("escaper", .null)]

theorem exists_of_ofInstruction (reports : ofInstruction table instruction = .ok report) :
    ∃ part, ofSpan table instruction.span = .ok part ∧
      report = fields (entryOf part instruction) := by
  obtain ⟨part, reported, built⟩ := Reader.bind_eq_ok.mp reports
  cases instruction with
  | literal _ _ | expression _ _ _ _ | raw _ _ =>
      cases built
      exact ⟨part, reported, rfl⟩

theorem plain_of_ofInstruction (reports : ofInstruction table instruction = .ok report) :
    report.Plain := by
  obtain ⟨part, reported, rfl⟩ := exists_of_ofInstruction reports
  apply Document.Plain.fields
  have plain := plain_of_ofSpan reported
  cases instruction with
  | literal _ _ | expression _ _ _ _ | raw _ _ =>
      simp [entryOf, Document.Plain.text, Document.Plain.null, plain_optionalText, plain]

theorem part_eq_of_entryOf {part part' : Document}
    (same : entryOf part instruction = entryOf part' instruction') : part = part' := by
  have second (part : Document) (instruction : Instruction) :
      (entryOf part instruction)[1]? = some ("span", part) := by
    cases instruction <;> rfl
  have parts := second part instruction
  rw [same, second part' instruction'] at parts
  simpa using parts.symm

/-- The fields of an instruction give the instruction but for its span. -/
theorem eq_of_entryOf {part part' : Document}
    (same : entryOf part instruction = entryOf part' instruction')
    (spans : instruction.span = instruction'.span) : instruction = instruction' := by
  have words {escaping escaping' : Escaping} (same : escaping.word = escaping'.word) :
      escaping = escaping' := by
    revert same
    cases escaping <;> cases escaping' <;> decide
  cases instruction with
  | literal text span =>
      cases instruction' with
      | literal text' span' => simp_all [entryOf, Instruction.span]
      | expression _ _ _ _ | raw _ _ => simp [entryOf] at same
  | expression code escaping span escaper =>
      cases instruction' with
      | expression code' escaping' span' escaper' =>
          simp only [entryOf, optionalText_inj, List.cons.injEq, Prod.mk.injEq,
            Document.text.injEq] at same
          simp_all [Instruction.span, words same.2.2.2.2.1.2]
      | literal _ _ | raw _ _ => simp [entryOf] at same
  | raw code span =>
      cases instruction' with
      | raw code' span' => simp_all [entryOf, Instruction.span]
      | literal _ _ | expression _ _ _ _ => simp [entryOf] at same

theorem instruction_eq_of_ofInstruction (reports : ofInstruction table instruction = .ok report)
    (reports' : ofInstruction table' instruction' = .ok report) : instruction = instruction' := by
  obtain ⟨part, reported, rfl⟩ := exists_of_ofInstruction reports
  obtain ⟨part', reported', same⟩ := exists_of_ofInstruction reports'
  rw [fields_inj] at same
  rw [← part_eq_of_entryOf same] at reported'
  exact eq_of_entryOf same (span_eq_of_ofSpan reported reported')

/-- The reports of instructions, one for each. -/
abbrev Entries (table : LineTable) : List Instruction → List Document → Prop :=
  List.Forall₂ fun instruction entry => ofInstruction table instruction = .ok entry

theorem Entries.plain {instructions : List Instruction} {entries : List Document}
    (each : Entries table instructions entries) : ∀ entry ∈ entries, entry.Plain := by
  induction each with
  | nil => simp
  | cons reports _ ih => exact List.forall_mem_cons.mpr ⟨plain_of_ofInstruction reports, ih⟩

theorem Entries.eq {instructions others : List Instruction} {entries : List Document}
    (each : Entries table instructions entries) (each' : Entries table' others entries) :
    instructions = others := by
  induction each generalizing others with
  | nil =>
      cases each'
      rfl
  | cons reports _ ih =>
      cases each' with
      | cons reports' later' =>
          rw [instruction_eq_of_ofInstruction reports reports', ih later']

variable {program program' : Program} {source source' version version' : String}

/-- A report is assembled from the reports of the instructions. -/
theorem exists_of_ofProgram (reports : ofProgram program source version = .ok report) :
    ∃ entries, Entries (LineTable.ofText source) program.instructions entries ∧
      report =
        assemble version program.name true program.sink program.debug entries .null := by
  obtain ⟨entries, mapped, built⟩ := Reader.bind_eq_ok.mp reports
  cases built
  exact ⟨entries, forall₂_of_mapM mapped, rfl⟩

theorem plain_of_ofProgram (reports : ofProgram program source version = .ok report) :
    report.Plain := by
  obtain ⟨entries, each, rfl⟩ := exists_of_ofProgram reports
  have plain : (Document.list entries).Plain := .list each.plain
  apply Document.Plain.fields
  simp [Document.Plain.text, Document.Plain.null, Document.Plain.bool, Document.Plain.int, plain]

/-- The report of a program gives all of it, and the version. -/
theorem program_eq_of_ofProgram (reports : ofProgram program source version = .ok report)
    (reports' : ofProgram program' source' version' = .ok report) :
    program = program' ∧ version = version' := by
  obtain ⟨entries, each, rfl⟩ := exists_of_ofProgram reports
  obtain ⟨entries', each', same⟩ := exists_of_ofProgram reports'
  rw [assemble, assemble, fields_inj] at same
  simp only [List.cons.injEq, Prod.mk.injEq, Document.text.injEq, Document.bool.injEq,
    Document.list.injEq, true_and, and_true] at same
  obtain ⟨versions, names, sinks, debugs, rfl⟩ := same
  have instructions := each.eq each'
  cases program
  cases program'
  simp_all

end Report

/-- The report of a compiled template loses nothing: templates whose reports have the same JSON
text, both compact or both pretty, are the same, whatever the sources are. For any document, the
pretty text without the blanks outside of its texts is the compact text. -/
theorem report_lossless :
    (∀ (program other : Program) (source source' version version' : String)
        (report report' : Document) (pretty : Bool),
      Report.ofProgram program source version = .ok report →
      Report.ofProgram other source' version' = .ok report' →
      report.json pretty = report'.json pretty → program = other ∧ version = version') ∧
    ∀ document : Document, Document.squeezed (document.json true) = document.json false := by
  constructor
  · intro program other source source' version version' report report' pretty reports reports' same
    have plain := Report.plain_of_ofProgram reports
    have plain' := Report.plain_of_ofProgram reports'
    rw [← plain.eq_of_json plain' same] at reports'
    exact Report.program_eq_of_ofProgram reports reports'
  · intro document
    exact Document.squeezed_json document true

/-- The sources differ in blanks that no instruction has in it, and so the reports do not. -/
theorem report_lossless_same_text :
    let source := "<# #>\"<#= a\\ #>"
    let source' := "<#\t#>\"<#=a\\\t\t#>"
    ∃ program program' report report', compile {} source "t" = .ok program ∧
      compile {} source' "t" = .ok program' ∧ Report.ofProgram program source = .ok report ∧
      Report.ofProgram program' source' = .ok report' ∧
      report.json true = report'.json true ∧ program = program' ∧
      Document.squeezed (report.json true) = report.json false := by
  intro source source'
  let program : Program :=
    ⟨"t", [.literal "\"" (Span.sized 5 1), .expression "a\\" .auto (Span.sized 6 9) none], "_out",
      false⟩
  have compiled : compile {} source "t" = .ok program := by decide +kernel
  have compiled' : compile {} source' "t" = .ok program := by decide +kernel
  have texts : (Report.ofProgram program source).map (·.json true) =
      (Report.ofProgram program source').map (·.json true) := by
    decide +kernel
  have succeeds : (Report.ofProgram program source).isOk = true := by decide +kernel
  cases reports : Report.ofProgram program source with
  | error fault =>
      rw [reports] at succeeds
      cases succeeds
  | ok report =>
      cases reports' : Report.ofProgram program source' with
      | error fault =>
          rw [reports, reports'] at texts
          cases texts
      | ok report' =>
          rw [reports, reports'] at texts
          have same : report.json true = report'.json true := Except.ok.inj texts
          exact ⟨program, program, report, report', compiled, compiled', reports, reports', same,
            (report_lossless.1 _ _ _ _ _ _ _ _ _ reports reports' same).1, report_lossless.2 report⟩

end Stencil
