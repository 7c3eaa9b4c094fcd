import Tabletop.Yaml.Token

/-!
# Tabletop — Yaml — Nodes

The tree of a YAML document, read from its tokens (`Node.read?`).  A node with an anchor carries a
number, and an alias stands for the last node of its number (`Node.anchors`).  The number of a
node is the number of names that anchors have given before it; a name that is given again gets a
new number, which it shares with the next new name.
-/

namespace Tabletop.Yaml

/-- A node of a document. -/
inductive Node where
  /-- A text. -/
  | scalar (text : String) (style : Style) (tag : Option Tag)
  /-- A list of nodes. -/
  | sequence (items : List Node)
  /-- Keys and values. -/
  | mapping (entries : List (Node × Node))
  /-- A node with an anchor. -/
  | anchored (number : Nat) (node : Node)
  /-- A reference to the nodes of a number. -/
  | alias (number : Nat)
  deriving Inhabited

namespace Node

/-- A node that is not written. -/
def blank : Node := .scalar "" .plain none

/-- A node without its anchor. -/
def bare : Node → Node
  | .anchored _ node => node.bare
  | node => node

/-! ### Anchors -/

mutual

/-- The nodes with an anchor, with their numbers: those inside a node, from the last to the first,
and then those `found` before it. -/
def anchorsAfter (found : List (Nat × Node)) : Node → List (Nat × Node)
  | .scalar _ _ _ => found
  | .sequence items => itemAnchors found items
  | .mapping entries => entryAnchors found entries
  | .anchored number node => node.anchorsAfter ((number, node.bare) :: found)
  | .alias _ => found

/-- The nodes with an anchor inside items. -/
def itemAnchors (found : List (Nat × Node)) : List Node → List (Nat × Node)
  | [] => found
  | node :: rest => itemAnchors (node.anchorsAfter found) rest

/-- The nodes with an anchor inside entries. -/
def entryAnchors (found : List (Nat × Node)) : List (Node × Node) → List (Nat × Node)
  | [] => found
  | (key, value) :: rest => entryAnchors (value.anchorsAfter (key.anchorsAfter found)) rest

end

/-- The nodes with an anchor inside a node, from the last to the first, with their numbers. -/
def anchors (node : Node) : List (Nat × Node) := node.anchorsAfter []

/-! ### Size -/

mutual

/-- The number of texts and aliases and of beginnings and ends of lists and records. -/
def size : Node → Nat
  | .scalar _ _ _ => 1
  | .sequence items => itemSize items + 2
  | .mapping entries => entrySize entries + 2
  | .anchored _ node => node.size
  | .alias _ => 1

/-- The size of items. -/
def itemSize : List Node → Nat
  | [] => 0
  | node :: rest => node.size + itemSize rest

/-- The size of entries. -/
def entrySize : List (Node × Node) → Nat
  | [] => 0
  | (key, value) :: rest => key.size + value.size + entrySize rest

end

end Node

/-! ### Reading -/

/-- What is left to read of a document. -/
structure Reading where
  /-- The tokens that are left. -/
  rest : List Token
  /-- The names that anchors have given, with their numbers. -/
  names : List (String × Nat)

namespace Reading

/-- The next token. -/
def next? (r : Reading) : Option Token := r.rest.head?

/-- The reading behind the next token. -/
def skip (r : Reading) : Reading := { r with rest := r.rest.tail }

/-- The next token is one of several. -/
def nextIsOneOf (r : Reading) (tokens : List Token) : Bool := r.next?.any tokens.contains

/-- A name is given; gives its number. -/
def giveName (r : Reading) (name : String) : Nat × Reading :=
  (r.names.length, { r with names := (name, r.names.length) :: r.names.filter (·.1 != name) })

end Reading

/-- An anchor and a tag before a node, in either order. -/
def properties : List Token → Option String × Option (String × Tag) × List Token
  | .anchor name :: .tag handle suffix :: rest => (some name, some (handle, suffix), rest)
  | .tag handle suffix :: .anchor name :: rest => (some name, some (handle, suffix), rest)
  | .anchor name :: rest => (some name, none, rest)
  | .tag handle suffix :: rest => (none, some (handle, suffix), rest)
  | rest => (none, none, rest)

/-- What handles stand for. -/
abbrev Handles : Type := List (String × Tag)

/-- A tag in full.  Its handle has to be known. -/
def fullTag? (handles : Handles) : Option (String × Tag) → Option (Option Tag)
  | none => some none
  | some ("", suffix) => some (some suffix)
  | some (handle, suffix) => (handles.lookup handle).map fun meaning => some (meaning ++ suffix)

namespace Node

mutual

/-- A node.  Outside of brackets it may be a block (`inBlock`), and as part of a key or value also
a list whose entries are not indented (`level`). -/
def read? (handles : Handles) : (fuel : Nat) → (inBlock level : Bool) → Reading →
    Option (Node × Reading)
  | 0, _, _, _ => none
  | fuel + 1, inBlock, level, r => do
    if let some (.alias name) := r.next? then
      return (.alias (← r.names.lookup name), r.skip)
    let (anchor, tag, rest) := properties r.rest
    let tag ← fullTag? handles tag
    let r := { r with rest }
    match anchor with
    | none => readContent? handles fuel inBlock level false tag r
    | some name =>
      let (number, r) := r.giveName name
      let (node, r) ← readContent? handles fuel inBlock level true tag r
      return (.anchored number node, r)

/-- A node behind its anchor and its tag.  With one of them it may be left out. -/
def readContent? (handles : Handles) : (fuel : Nat) → (inBlock level hasAnchor : Bool) →
    (tag : Option Tag) → Reading → Option (Node × Reading)
  | 0, _, _, _, _, _ => none
  | fuel + 1, inBlock, level, hasAnchor, tag, r =>
    match r.next? with
    | some (.scalar text style) => some (.scalar text style tag, r.skip)
    | some .openSequence =>
      (readFlowItems? handles fuel true r.skip).map fun (items, r) => (.sequence items, r)
    | some .openMapping =>
      (readFlowEntries? handles fuel true r.skip).map fun (entries, r) => (.mapping entries, r)
    | token =>
      if level && token == some .blockEntry then
        (readLevelItems? handles fuel r).map fun (items, r) => (.sequence items, r)
      else if inBlock && token == some .blockSequence then
        (readItems? handles fuel r.skip).map fun (items, r) => (.sequence items, r)
      else if inBlock && token == some .blockMapping then
        (readEntries? handles fuel r.skip).map fun (entries, r) => (.mapping entries, r)
      else if hasAnchor || tag.isSome then some (.scalar "" .plain tag, r)
      else none

/-- A node, which is left out if one of `stops` comes next. -/
def readUnless? (handles : Handles) : (fuel : Nat) → (inBlock level : Bool) →
    (stops : List Token) → Reading → Option (Node × Reading)
  | 0, _, _, _, _ => none
  | fuel + 1, inBlock, level, stops, r =>
    if r.nextIsOneOf stops then some (.blank, r) else read? handles fuel inBlock level r

/-- The entries of a block and its end. -/
def readItems? (handles : Handles) : (fuel : Nat) → Reading → Option (List Node × Reading)
  | 0, _ => none
  | fuel + 1, r => do
    match r.next? with
    | some .blockEntry =>
      let (node, r) ← readUnless? handles fuel true false [.blockEntry, .blockEnd] r.skip
      let (nodes, r) ← readItems? handles fuel r
      return (node :: nodes, r)
    | some .blockEnd => return ([], r.skip)
    | _ => none

/-- The entries of a list that is not indented. -/
def readLevelItems? (handles : Handles) : (fuel : Nat) → Reading → Option (List Node × Reading)
  | 0, _ => none
  | fuel + 1, r => do
    match r.next? with
    | some .blockEntry =>
      let (node, r) ←
        readUnless? handles fuel true false [.blockEntry, .key, .value, .blockEnd] r.skip
      let (nodes, r) ← readLevelItems? handles fuel r
      return (node :: nodes, r)
    | _ => return ([], r)

/-- The keys and values of a block and its end. -/
def readEntries? (handles : Handles) : (fuel : Nat) → Reading →
    Option (List (Node × Node) × Reading)
  | 0, _ => none
  | fuel + 1, r => do
    match r.next? with
    | some .key =>
      let (key, r) ← readUnless? handles fuel true true [.key, .value, .blockEnd] r.skip
      let (value, r) ←
        if r.next? = some .value then
          readUnless? handles fuel true true [.key, .value, .blockEnd] r.skip
        else some (.blank, r)
      let (entries, r) ← readEntries? handles fuel r
      return ((key, value) :: entries, r)
    | some .blockEnd => return ([], r.skip)
    | _ => none

/-- The items of a list in brackets and the closing bracket.  All but the `first` follow a comma,
behind which the list may end.  An item that is marked as a key is a record of one entry. -/
def readFlowItems? (handles : Handles) : (fuel : Nat) → (first : Bool) → Reading →
    Option (List Node × Reading)
  | 0, _, _ => none
  | fuel + 1, first, r => do
    if r.next? = some .closeSequence then return ([], r.skip)
    if !first && r.next? ≠ some .flowEntry then none
    let r := if first then r else r.skip
    match r.next? with
    | some .closeSequence => return ([], r.skip)
    | some .key =>
      let (entry, r) ← readPair? handles fuel r.skip
      let (nodes, r) ← readFlowItems? handles fuel false r
      return (.mapping [entry] :: nodes, r)
    | _ =>
      let (node, r) ← read? handles fuel false false r
      let (nodes, r) ← readFlowItems? handles fuel false r
      return (node :: nodes, r)

/-- The only entry of a record inside of brackets, behind the mark of its key.  A key that is left
out takes the next token with it. -/
def readPair? (handles : Handles) : (fuel : Nat) → Reading → Option ((Node × Node) × Reading)
  | 0, _ => none
  | fuel + 1, r => do
    let (key, r) ←
      if r.nextIsOneOf [.value, .flowEntry, .closeSequence] then some (.blank, r.skip)
      else read? handles fuel false false r
    let (value, r) ←
      if r.next? = some .value then
        readUnless? handles fuel false false [.flowEntry, .closeSequence] r.skip
      else some (.blank, r)
    return ((key, value), r)

/-- The entries of a record in braces and the closing brace.  All but the `first` follow a comma,
behind which the record may end. -/
def readFlowEntries? (handles : Handles) : (fuel : Nat) → (first : Bool) → Reading →
    Option (List (Node × Node) × Reading)
  | 0, _, _ => none
  | fuel + 1, first, r => do
    if r.next? = some .closeMapping then return ([], r.skip)
    if !first && r.next? ≠ some .flowEntry then none
    let r := if first then r else r.skip
    match r.next? with
    | some .closeMapping => return ([], r.skip)
    | some .key =>
      let stops := [.value, .flowEntry, .closeMapping]
      let (key, r) ← readUnless? handles fuel false false stops r.skip
      let (value, r) ←
        if r.next? = some .value then
          readUnless? handles fuel false false [.flowEntry, .closeMapping] r.skip
        else some (.blank, r)
      let (entries, r) ← readFlowEntries? handles fuel false r
      return ((key, value) :: entries, r)
    | _ =>
      let (key, r) ← read? handles fuel false false r
      let (entries, r) ← readFlowEntries? handles fuel false r
      return ((key, .blank) :: entries, r)

end

end Node

end Tabletop.Yaml
