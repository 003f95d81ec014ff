/-
# Documents from YAML nodes

What a node stands for is worked out from the outside in: the items and entries of
a list or mapping are taken up in order, and the lists and mappings among them are
put off until everything at the same depth is done. A key, in contrast, is worked
out at once and whole. The result does not depend on this order, but the fault that
is reported does: the least deep one, and of several at one depth the first.

The keys of a mapping differ, unless something is merged into it: then a later
entry replaces an earlier one. A list can be a key if only scalars are in it.
-/

import Stencil.Yaml.Node

namespace Stencil.Yaml

/-- A fault, and the depth of the list or mapping that was worked on. -/
abbrev Encounter := Nat × Fault

/-- The fault that is met first, of two in the order of the text. -/
def firstMet : Option Encounter → Option Encounter → Option Encounter
  | none, second => second
  | some first, none => some first
  | some first, some second => if second.1 < first.1 then some second else some first

/-- What was worked out, and the fault that was met first. -/
structure Outcome (α : Type) where
  value : α
  fault : Option Encounter := none

/-- The value of a scalar. -/
def scalarValue (text : String) (plain : Bool) : Except Fault Document :=
  if !plain then .ok (.text text)
  else if text ∈ reservedWords then .error .unusableValue
  else (plainValue text).mapError .value

/-- Why a document cannot be a key, which is known before its value is. -/
def keyFault? : Document → Option Fault
  | .map _ => some .unusableKey
  | _ => none

/-- Why a list cannot be a key, which is known after its value is. -/
def itemFault? : Document → Option Fault
  | .list items =>
    (items.find? fun
      | .list _ | .map _ => true
      | _ => false).map fun item => .value (.unusableInKey item.kind)
  | _ => none

/-- Whether a report can show a value that may be put off. What is put off is shown
as if it were empty. -/
def isShowableNow (deep : Bool) : Document → Bool
  | .list items => !deep || Document.areShowable items
  | .map entries => !deep || Document.areShowableEntries entries
  | value => value.isShowable

/-- Why an entry with a key that is there already cannot be added. -/
def repetitionFault? (deep : Bool) (entries : List (Document × Document))
    (key value : Document) : Option Fault :=
  (entries.find? fun entry => entry.1.sameKey key).map fun entry =>
    if key.isShowable && isShowableNow deep value && isShowableNow deep entry.2 then .duplicateKey
    else .value .unshowable

/-- Add an entry, or replace the value at its key. -/
def put (entries : List (Document × Document)) (key value : Document) :
    List (Document × Document) :=
  if entries.any fun entry => entry.1.sameKey key then
    entries.map fun entry => if entry.1.sameKey key then (entry.1, value) else entry
  else entries ++ [(key, value)]

mutual

/-- What a node stands for, worked out at a depth. Inside a key nothing is put off,
so nothing is deeper. -/
def outcome (deep : Bool) (depth : Nat) : Node → Outcome Document
  | .scalar text plain =>
    match scalarValue text plain with
    | .ok value => { value }
    | .error fault => { value := .null, fault := some (depth, fault) }
  | .list items =>
    let found := itemsOutcome deep (if deep then depth else depth + 1) items
    { found with value := .list found.value }
  | .map merged own fault =>
    let inside := if deep then depth else depth + 1
    let distinct := merged.isEmpty
    let first := entriesOutcome deep inside distinct [] merged
    let both := entriesOutcome deep inside distinct first.value own
    { value := .map both.value
      fault := firstMet (fault.map (inside, ·)) (firstMet first.fault both.fault) }

/-- What the items of a list stand for. -/
def itemsOutcome (deep : Bool) (depth : Nat) : List Node → Outcome (List Document)
  | [] => { value := [] }
  | item :: rest =>
    let first := outcome deep depth item
    let others := itemsOutcome deep depth rest
    { value := first.value :: others.value, fault := firstMet first.fault others.fault }

/-- What the entries of a mapping stand for, after entries that are known. -/
def entriesOutcome (deep : Bool) (depth : Nat) (distinct : Bool)
    (known : List (Document × Document)) :
    List (Node × Node) → Outcome (List (Document × Document))
  | [] => { value := known }
  | (keyNode, valueNode) :: rest =>
    let key := outcome true depth keyNode
    let value := outcome deep depth valueNode
    let repetition := if distinct then repetitionFault? deep known key.value value.value else none
    let others := entriesOutcome deep depth distinct (put known key.value value.value) rest
    let here (fault : Option Fault) : Option Encounter := fault.map (depth, ·)
    { value := others.value
      fault := [key.fault, here (keyFault? key.value), value.fault,
        here (itemFault? key.value), here repetition, others.fault].foldl firstMet none }

end

/-- The document that a text holds. An empty text holds nothing. -/
def read (text : String) : Except Fault Document := do
  match ← nodeOf text with
  | none => return .null
  | some node =>
    let found := outcome false 0 node
    match found.fault with
    | some (_, fault) => .error fault
    | none => return found.value

end Stencil.Yaml
