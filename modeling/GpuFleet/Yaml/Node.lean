import GpuFleet.Yaml.Token.Layout

/-!
The nodes of a YAML document, with the anchors and tags that the text gives them, and their grammar
over tokens. A node that is left out is an empty scalar.

The functions that call one another descend on a counter. Every cycle of calls takes a token, and
calls at most three functions for it.
-/
namespace GpuFleet.Yaml

inductive Node where
  | reference (name : String)
  | scalar (anchor : Option String) (tag : Option Tag) (plain : Bool) (text : String)
  | sequence (anchor : Option String) (tag : Option Tag) (items : List Node)
  | mapping (anchor : Option String) (tag : Option Tag) (entries : List (Node × Node))

/-- What handles of tags stand for. -/
abbrev TagHandles := List (String × List UInt8)

namespace Node

def empty : Node := .scalar none none true ""

/-- A tag with its handle replaced; an unknown handle is an error. -/
def tag? (handles : TagHandles) (handle : String) (suffix : List UInt8) : Option Tag :=
  if handle = "" then some (.ofParts [] suffix)
  else (handles.lookup handle).map (Tag.ofParts · suffix)

/-- The anchor and the tag before a node, in either order. -/
def properties? (handles : TagHandles) :
    List Token → Option (Option String × Option Tag × List Token)
  | .anchor name :: .tag handle suffix :: ts | .tag handle suffix :: .anchor name :: ts => do
    some (some name, some (← tag? handles handle suffix), ts)
  | .anchor name :: ts => some (some name, none, ts)
  | .tag handle suffix :: ts => do some (none, some (← tag? handles handle suffix), ts)
  | ts => some (none, none, ts)

/-- The tokens before which an entry of a flow sequence is left out. -/
def endsFlowItem : List Token → Bool
  | .flowEntry :: _ | .flowSequenceEnd :: _ => true
  | _ => false

/-- The tokens before which a value of a flow mapping is left out. -/
def endsFlowValue : List Token → Bool
  | .flowEntry :: _ | .flowMappingEnd :: _ => true
  | _ => false

/-- The tokens before which a key or a value of a block mapping is left out. -/
def endsBlockPart : List Token → Bool
  | .key :: _ | .value :: _ | .blockEnd :: _ => true
  | _ => false

/-- A separating comma, except before the first entry. -/
def separated? (first : Bool) : List Token → Option (List Token)
  | .flowEntry :: ts => if first then some (.flowEntry :: ts) else some ts
  | ts => if first then some ts else none

mutual

/-- A node. In a block it may be a block collection; `indentless` says that a sequence may stand at
the column of the mapping around it. -/
def read? (handles : TagHandles) :
    (fuel : Nat) → (block indentless : Bool) → List Token → Option (Node × List Token)
  | 0, _, _, _ => none
  | fuel + 1, block, indentless, ts => do
    match ts with
    | .reference name :: ts => some (.reference name, ts)
    | ts =>
      let (anchor, tag, ts) ← properties? handles ts
      match ts, block, indentless with
      | .blockEntry :: _, _, true =>
        let (items, ts) ← indentlessItems? handles fuel ts
        some (.sequence anchor tag items, ts)
      | .scalar plain text :: ts, _, _ => some (.scalar anchor tag plain text, ts)
      | .flowSequenceStart :: ts, _, _ =>
        let (items, ts) ← flowItems? handles fuel true ts
        some (.sequence anchor tag items, ts)
      | .flowMappingStart :: ts, _, _ =>
        let (entries, ts) ← flowEntries? handles fuel true ts
        some (.mapping anchor tag entries, ts)
      | .blockSequenceStart :: ts, true, _ =>
        let (items, ts) ← blockItems? handles fuel ts
        some (.sequence anchor tag items, ts)
      | .blockMappingStart :: ts, true, _ =>
        let (entries, ts) ← blockEntries? handles fuel ts
        some (.mapping anchor tag entries, ts)
      | ts, _, _ =>
        if anchor.isSome || tag.isSome then some (.scalar anchor tag true "", ts) else none

/-- The items of a block sequence, up to its end. -/
def blockItems? (handles : TagHandles) :
    (fuel : Nat) → List Token → Option (List Node × List Token)
  | 0, _ => none
  | fuel + 1, ts => do
    match ts with
    | .blockEntry :: ts =>
      let (item, ts) ← match ts with
        | .blockEntry :: _ | .blockEnd :: _ => some (empty, ts)
        | _ => read? handles fuel true false ts
      let (items, ts) ← blockItems? handles fuel ts
      some (item :: items, ts)
    | .blockEnd :: ts => some ([], ts)
    | _ => none

/-- The items of a sequence at the column of the mapping around it. -/
def indentlessItems? (handles : TagHandles) :
    (fuel : Nat) → List Token → Option (List Node × List Token)
  | 0, _ => none
  | fuel + 1, ts => do
    match ts with
    | .blockEntry :: ts =>
      let (item, ts) ← match ts with
        | .blockEntry :: _ => some (empty, ts)
        | _ => if endsBlockPart ts then some (empty, ts) else read? handles fuel true false ts
      let (items, ts) ← indentlessItems? handles fuel ts
      some (item :: items, ts)
    | ts => some ([], ts)

/-- The entries of a block mapping, up to its end. -/
def blockEntries? (handles : TagHandles) :
    (fuel : Nat) → List Token → Option (List (Node × Node) × List Token)
  | 0, _ => none
  | fuel + 1, ts => do
    match ts with
    | .key :: ts =>
      let (k, ts) ← if endsBlockPart ts then some (empty, ts) else read? handles fuel true true ts
      let (v, ts) ← match ts with
        | .value :: ts =>
          if endsBlockPart ts then some (empty, ts) else read? handles fuel true true ts
        | ts => some (empty, ts)
      let (entries, ts) ← blockEntries? handles fuel ts
      some ((k, v) :: entries, ts)
    | .blockEnd :: ts => some ([], ts)
    | _ => none

/-- The items of a flow sequence, up to its end. An item with a key is a mapping of one entry. Where
that key is left out, the token behind its question mark goes with it. -/
def flowItems? (handles : TagHandles) :
    (fuel : Nat) → (first : Bool) → List Token → Option (List Node × List Token)
  | 0, _, _ => none
  | _ + 1, _, .flowSequenceEnd :: ts => some ([], ts)
  | fuel + 1, first, ts => do
    match ← separated? first ts with
    | .flowSequenceEnd :: ts => some ([], ts)
    | .key :: ts =>
      let (k, ts) ← match ts with
        | .value :: ts | .flowEntry :: ts | .flowSequenceEnd :: ts => some (empty, ts)
        | _ => read? handles fuel false false ts
      let (v, ts) ← match ts with
        | .value :: ts =>
          if endsFlowItem ts then some (empty, ts) else read? handles fuel false false ts
        | ts => some (empty, ts)
      let (items, ts) ← flowItems? handles fuel false ts
      some (.mapping none none [(k, v)] :: items, ts)
    | ts =>
      let (item, ts) ← read? handles fuel false false ts
      let (items, ts) ← flowItems? handles fuel false ts
      some (item :: items, ts)

/-- The entries of a flow mapping, up to its end. An entry without a question mark or a colon is a
key alone. -/
def flowEntries? (handles : TagHandles) :
    (fuel : Nat) → (first : Bool) → List Token → Option (List (Node × Node) × List Token)
  | 0, _, _ => none
  | _ + 1, _, .flowMappingEnd :: ts => some ([], ts)
  | fuel + 1, first, ts => do
    match ← separated? first ts with
    | .flowMappingEnd :: ts => some ([], ts)
    | .key :: ts =>
      let (k, ts) ← match ts with
        | .value :: _ => some (empty, ts)
        | _ => if endsFlowValue ts then some (empty, ts) else read? handles fuel false false ts
      let (v, ts) ← match ts with
        | .value :: ts =>
          if endsFlowValue ts then some (empty, ts) else read? handles fuel false false ts
        | ts => some (empty, ts)
      let (entries, ts) ← flowEntries? handles fuel false ts
      some ((k, v) :: entries, ts)
    | ts =>
      let (k, ts) ← read? handles fuel false false ts
      let (entries, ts) ← flowEntries? handles fuel false ts
      some ((k, empty) :: entries, ts)

end

/-- The handles that every document knows. -/
def commonHandles : TagHandles := [("!", Tag.bare), ("!!", Tag.octetsOf "tag:yaml.org,2002:")]

/-- The directives before a document: one version at most, and every handle once. -/
def directives? (versioned : Bool) (handles : TagHandles) :
    List Token → Option (TagHandles × List Token)
  | .version major minor :: ts =>
    if !versioned ∧ major = 1 ∧ (minor = 1 ∨ minor = 2) then directives? true handles ts else none
  | .tagHandle handle stem :: ts =>
    if (handles.lookup handle).isSome then none
    else directives? versioned (handles ++ [(handle, stem)]) ts
  | ts => some (handles ++ commonHandles, ts)

/-- A directive or a mark comes next, or the text ends. -/
def atDocumentEdge : List Token → Bool
  | .version .. :: _ | .tagHandle .. :: _ | .documentStart :: _ | .documentEnd :: _ | [] => true
  | _ => false

/-- The roots of the documents. Only the first document may lack its mark. -/
def documents? : (fuel : Nat) → (first : Bool) → List Token → Option (List Node)
  | 0, _, _ => none
  | fuel + 1, first, ts => do
    let ts := if first then ts else ts.dropWhile (· == .documentEnd)
    if ts = [] then some []
    else
      let (root, ts) ←
        if first ∧ (ts.head? = some .documentEnd ∨ !atDocumentEdge ts) then
          read? commonHandles (4 * ts.length + 4) true false ts
        else do
          let (handles, ts) ← directives? false [] ts
          match ts with
          | .documentStart :: ts =>
            if atDocumentEdge ts then some (empty, ts)
            else read? handles (4 * ts.length + 4) true false ts
          | _ => none
      let ts := match ts with
        | .documentEnd :: ts => ts
        | ts => ts
      let roots ← documents? fuel false ts
      some (root :: roots)

/-- The roots of the documents of a text. -/
def ofText? (text : String) : Option (List Node) := do
  let ts ← Token.ofText? text
  documents? (ts.length + 2) true ts

end Node

end GpuFleet.Yaml
