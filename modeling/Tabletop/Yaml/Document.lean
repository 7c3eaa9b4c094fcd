import Tabletop.Yaml.Node

/-!
# Tabletop — Yaml — Documents

A YAML text holds one document at most.  Directives may stand before it, which say what the handles
of tags stand for; a text that holds no document at all stands for a node that is not written.
-/

namespace Tabletop.Yaml

/-! ### Directives -/

/-- The handles that every document knows. -/
def standardHandles : Handles := [("!", [Tag.mark]), ("!!", Tag.shared "")]

/-- The directives before a document: whether a version has been given, and the handles. -/
structure Directives where
  /-- A version has been given. -/
  versioned : Bool
  /-- The handles that have been given. -/
  handles : Handles

/-- The directives at the start of tokens, and what follows.  A version is given once and is 1.1 or
1.2, and a handle is given once. -/
def directives? (d : Directives) : List Token → Option (Directives × List Token)
  | .version major minor :: rest =>
    if d.versioned || major != 1 || (minor != 1 && minor != 2) then none
    else directives? { d with versioned := true } rest
  | .tagHandle handle meaning :: rest =>
    if (d.handles.lookup handle).isSome then none
    else directives? { d with handles := (handle, meaning) :: d.handles } rest
  | rest => some (d, rest)

/-! ### Documents -/

/-- A token that opens a document or its directives. -/
def Token.opensDocument : Token → Bool
  | .version _ _ => true
  | .tagHandle _ _ => true
  | .documentStart => true
  | _ => false

/-- A token that ends a document. -/
def Token.endsDocument (t : Token) : Bool := t.opensDocument || t == .documentEnd

/-- The root of a document whose mark has been read. -/
def markedRoot? (handles : Handles) (fuel : Nat) (rest : List Token) : Option (Node × Reading) :=
  if rest.head?.all Token.endsDocument then some (.blank, ⟨rest, []⟩)
  else Node.read? handles fuel true false ⟨rest, []⟩

/-- The root of the document at the start of tokens, and what follows. -/
def root? (fuel : Nat) (tokens : List Token) : Option (Node × Reading) :=
  if tokens.head?.any Token.opensDocument then do
    let (d, rest) ← directives? ⟨false, []⟩ tokens
    match rest with
    | .documentStart :: rest => markedRoot? (d.handles ++ standardHandles) fuel rest
    | _ => none
  else Node.read? standardHandles fuel true false ⟨tokens, []⟩

/-- The root of the only document of a text, if the text is well formed. -/
def parse? (text : String) : Option Node := do
  let tokens ← tokens? text
  if tokens.isEmpty then return .blank
  let (node, r) ← root? (4 * tokens.length + 4) tokens
  if r.rest.all (· == .documentEnd) then return node else none

end Tabletop.Yaml
