/-
# Nodes of a YAML text

The signs of a text are read by recursive descent into nodes: scalars, lists and
mappings as they are written. Where a value may be left out, an empty plain scalar
stands in its place. A list that is a value of a mapping may start at the column of
the mapping, and then has no block of its own.

A mapping keeps apart what is merged into it. Whether that can be done is known
here, but it is a fault only once the mapping is used, so the fault is kept too.
-/

import Stencil.Yaml.Sign
import Stencil.Yaml.Value

namespace Stencil.Yaml

/-- A value as it is written. -/
inductive Node
  | scalar (text : String) (plain : Bool)
  | list (items : List Node)
  /-- The entries that are merged in, the entries of its own, and why the merging
  failed, if it did. -/
  | map (merged own : List (Node × Node)) (fault : Option Fault)

namespace Node

/-- A value that is left out. -/
def empty : Node :=
  .scalar "" true

/-- Whether a node is a reserved word. -/
def isWord (word : String) : Node → Bool
  | .scalar text plain => plain && text == word
  | _ => false

/-- What a node contributes to a mapping into which it is merged. Of several
mappings the first one wins, so its entries come last. -/
def contribution : Node → Except Fault (List (Node × Node))
  | .map merged own none => .ok (merged ++ own)
  | .map _ _ (some fault) => .error fault
  | .list items => do
    let parts ← items.mapM fun
      | .map merged own none => .ok (merged ++ own)
      | .map _ _ (some fault) => .error fault
      | _ => .error .unmergeable
    return parts.reverse.flatten
  | .scalar _ _ => .error .unmergeable

/-- The entries that are merged in and the entries of its own, of a mapping as it is
written. Only one key may merge. The word for a value is a text as a key. -/
def separate (merged own : List (Node × Node)) :
    List (Node × Node) → Except Fault (List (Node × Node) × List (Node × Node))
  | [] => .ok (merged, own)
  | (key, value) :: rest =>
    if key.isWord mergeWord then
      if merged.isEmpty then do separate (← value.contribution) own rest
      else .error .duplicateKey
    else if key.isWord valueWord then
      separate merged (own ++ [(.scalar valueWord false, value)]) rest
    else separate merged (own ++ [(key, value)]) rest

/-- The mapping with the given entries. -/
def ofEntries (entries : List (Node × Node)) : Node :=
  match separate [] [] entries with
  | .ok (merged, own) => .map merged own none
  | .error fault => .map [] [] (some fault)

end Node

/-- A node that was read, and the signs after it. -/
abbrev Part := Node × List Sign

/-- The fault of signs that do not go on as they have to. Where the text could not
be cut, that is the fault. -/
def refuse (signs : List Sign) (fault : Fault) : Fault :=
  match signs with
  | .broken cause :: _ => cause
  | _ => fault

/-- Whether a block value is left out before this sign. -/
def endsBlockValue : Option Sign → Bool
  | some .key | some .value | some .blockEnd => true
  | _ => false

/-- Whether a value in brackets is left out before this sign. -/
def endsFlowValue (close : Sign) : Option Sign → Bool
  | some sign => sign == .comma || sign == close
  | none => false

/-- Whether a key in brackets is left out before this sign. -/
def endsFlowKey (close : Sign) (sign : Option Sign) : Bool :=
  sign == some .value || endsFlowValue close sign

/-- The signs of the next item in brackets, after a comma unless it is the first. -/
def nextItem (first : Bool) (signs : List Sign) : Except Fault (List Sign) :=
  if first then .ok signs
  else
    match signs with
    | .comma :: rest => .ok rest
    | _ => .error (refuse signs .missingEnd)

mutual

/-- A value in a block. -/
def readNode : Nat → List Sign → Except Fault Part
  | 0, _ => .error .tooDeep
  | fuel + 1, signs =>
    match signs with
    | .blockList :: rest => readBlockList fuel [] rest
    | .blockMap :: rest => readBlockMap fuel [] rest
    | other => readFlowNode fuel other

/-- A value inside brackets, or a scalar. -/
def readFlowNode : Nat → List Sign → Except Fault Part
  | 0, _ => .error .tooDeep
  | fuel + 1, signs =>
    match signs with
    | .scalar text plain :: rest => .ok (.scalar text plain, rest)
    | .listOpen :: rest => readFlowList fuel true [] rest
    | .mapOpen :: rest => readFlowMap fuel true [] rest
    | _ => .error (refuse signs .missingContent)

/-- A value of a block mapping, which may be a list at the column of the mapping. -/
def readMapNode : Nat → List Sign → Except Fault Part
  | 0, _ => .error .tooDeep
  | fuel + 1, signs =>
    match signs with
    | .entry :: _ => readOpenList fuel [] signs
    | other => readNode fuel other

/-- The entries of an indented list. -/
def readBlockList : Nat → List Node → List Sign → Except Fault Part
  | 0, _, _ => .error .tooDeep
  | fuel + 1, items, signs =>
    match signs with
    | .blockEnd :: rest => .ok (.list items, rest)
    | .entry :: rest =>
      match rest with
      | .entry :: _ | .blockEnd :: _ => readBlockList fuel (items ++ [.empty]) rest
      | _ => do
        let (item, after) ← readNode fuel rest
        readBlockList fuel (items ++ [item]) after
    | _ => .error (refuse signs .missingEnd)

/-- The entries of a list at the column of the mapping it belongs to. -/
def readOpenList : Nat → List Node → List Sign → Except Fault Part
  | 0, _, _ => .error .tooDeep
  | fuel + 1, items, signs =>
    match signs with
    | .entry :: rest =>
      if rest.head? == some .entry || endsBlockValue rest.head? then
        readOpenList fuel (items ++ [.empty]) rest
      else do
        let (item, after) ← readNode fuel rest
        readOpenList fuel (items ++ [item]) after
    | _ => .ok (.list items, signs)

/-- The entries of an indented mapping. -/
def readBlockMap : Nat → List (Node × Node) → List Sign → Except Fault Part
  | 0, _, _ => .error .tooDeep
  | fuel + 1, entries, signs =>
    match signs with
    | .blockEnd :: rest => .ok (.ofEntries entries, rest)
    | .key :: rest => do
      let (key, after) ← if endsBlockValue rest.head? then pure (.empty, rest)
        else readMapNode fuel rest
      let (value, after) ← readBlockValue fuel after
      readBlockMap fuel (entries ++ [(key, value)]) after
    | .value :: _ => do
      let (value, after) ← readBlockValue fuel signs
      readBlockMap fuel (entries ++ [(.empty, value)]) after
    | _ => .error (refuse signs .missingEnd)

/-- The value after a key of an indented mapping. -/
def readBlockValue : Nat → List Sign → Except Fault Part
  | 0, _ => .error .tooDeep
  | fuel + 1, signs =>
    match signs with
    | .value :: rest =>
      if endsBlockValue rest.head? then .ok (.empty, rest) else readMapNode fuel rest
    | _ => .ok (.empty, signs)

/-- The items of a list in brackets. A pair without braces is a mapping of its
own. -/
def readFlowList : Nat → Bool → List Node → List Sign → Except Fault Part
  | 0, _, _, _ => .error .tooDeep
  | fuel + 1, first, items, signs =>
    match signs with
    | .listClose :: rest => .ok (.list items, rest)
    | _ => do
      let signs ← nextItem first signs
      match signs with
      | .listClose :: rest => return (.list items, rest)
      | .key :: rest =>
        let (key, after) ← readFlowKey fuel .listClose rest
        let (value, after) ← readFlowValue fuel .listClose after
        readFlowList fuel false (items ++ [.ofEntries [(key, value)]]) after
      | _ =>
        let (item, after) ← readFlowNode fuel signs
        readFlowList fuel false (items ++ [item]) after

/-- The entries of a mapping in braces. -/
def readFlowMap : Nat → Bool → List (Node × Node) → List Sign → Except Fault Part
  | 0, _, _, _ => .error .tooDeep
  | fuel + 1, first, entries, signs =>
    match signs with
    | .mapClose :: rest => .ok (.ofEntries entries, rest)
    | _ => do
      let signs ← nextItem first signs
      match signs with
      | .mapClose :: rest => return (.ofEntries entries, rest)
      | .key :: rest =>
        let (key, after) ← readFlowKey fuel .mapClose rest
        let (value, after) ← readFlowValue fuel .mapClose after
        readFlowMap fuel false (entries ++ [(key, value)]) after
      | .value :: _ =>
        let (value, after) ← readFlowValue fuel .mapClose signs
        readFlowMap fuel false (entries ++ [(.empty, value)]) after
      | _ =>
        let (key, after) ← readFlowNode fuel signs
        readFlowMap fuel false (entries ++ [(key, .empty)]) after

/-- A key inside brackets that close with a sign. -/
def readFlowKey : Nat → Sign → List Sign → Except Fault Part
  | 0, _, _ => .error .tooDeep
  | fuel + 1, close, signs =>
    if endsFlowKey close signs.head? then .ok (.empty, signs) else readFlowNode fuel signs

/-- The value after a key inside brackets that close with a sign. -/
def readFlowValue : Nat → Sign → List Sign → Except Fault Part
  | 0, _, _ => .error .tooDeep
  | fuel + 1, close, signs =>
    match signs with
    | .value :: rest =>
      if endsFlowValue close rest.head? then .ok (.empty, rest) else readFlowNode fuel rest
    | _ => .ok (.empty, signs)

end

/-- A node, if there is no other document after it. The end of a document may be
marked once. -/
def expectNothing (node : Node) (signs : List Sign) : Except Fault Node :=
  match signs with
  | [] | [.documentEnd] => .ok node
  | .documentEnd :: rest => .error (refuse rest .severalDocuments)
  | _ => .error (refuse signs .severalDocuments)

/-- The content of a document, possibly left out. -/
def readContent (signs : List Sign) : Except Fault Node :=
  match signs with
  | [] | .documentStart :: _ | .documentEnd :: _ => expectNothing .empty signs
  | _ => do
    let (node, rest) ← readNode (4 * signs.length + 4) signs
    expectNothing node rest

/-- The node that a text holds, if it is not empty. -/
def nodeOf (text : String) : Except Fault (Option Node) :=
  match signsOf text with
  | [] => .ok none
  | .documentStart :: rest => (readContent rest).map some
  | .documentEnd :: _ => .error .missingContent
  | signs => (readContent signs).map some

end Stencil.Yaml
