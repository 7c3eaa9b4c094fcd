import Tabletop.Text.Numeral
import Tabletop.Yaml.Scalar
import Tabletop.Yaml.Tag

/-!
# Tabletop — Yaml — Tokens

The tokens of a YAML document.  Indentation becomes tokens that open and close blocks.  A key that
is not marked as one is known only by the colon behind it, so a text that may be such a key is
remembered (`PendingKey`), and the token for the key is put in front of it when the colon comes.
-/

namespace Tabletop.Yaml

/-- How a text is written. -/
inductive Style where
  /-- As it is. -/
  | plain
  /-- In quotes. -/
  | quoted
  /-- As a block whose lines are kept. -/
  | literal
  /-- As a block whose lines are folded. -/
  | folded
  deriving DecidableEq, Repr

/-- A token. -/
inductive Token where
  /-- The version of the document, two numbers. -/
  | version (major minor : Nat)
  /-- A handle for tags and what it stands for. -/
  | tagHandle (handle : String) (meaning : Tag)
  /-- The mark before a document. -/
  | documentStart
  /-- The mark behind a document. -/
  | documentEnd
  /-- A block of entries begins. -/
  | blockSequence
  /-- A block of keys and values begins. -/
  | blockMapping
  /-- A block ends. -/
  | blockEnd
  /-- An opening bracket. -/
  | openSequence
  /-- A closing bracket. -/
  | closeSequence
  /-- An opening brace. -/
  | openMapping
  /-- A closing brace. -/
  | closeMapping
  /-- An entry of a block begins. -/
  | blockEntry
  /-- A comma. -/
  | flowEntry
  /-- A key begins. -/
  | key
  /-- A value begins. -/
  | value
  /-- A reference to an anchor. -/
  | alias (name : String)
  /-- An anchor. -/
  | anchor (name : String)
  /-- A tag. -/
  | tag (handle : String) (suffix : Tag)
  /-- A text. -/
  | scalar (text : String) (style : Style)
  deriving DecidableEq, Repr

/-- A text that is a key if a colon follows. -/
structure PendingKey where
  /-- It has to be a key, because it stands where the entries of its block begin. -/
  required : Bool
  /-- The number of tokens before it. -/
  position : Nat
  /-- Its place. -/
  place : Place

/-- The state of a scan. -/
structure Scan where
  /-- The cells that are left. -/
  rest : List Cell
  /-- The tokens so far. -/
  tokens : Array Token
  /-- The column of the current block, -1 outside of all blocks. -/
  indent : Int
  /-- The columns of the blocks around it, from the innermost. -/
  outer : List Int
  /-- A key may begin here. -/
  keyAllowed : Bool
  /-- The pending keys, one place for each level of brackets, from the innermost. -/
  pending : List (Option PendingKey)

namespace Scan

/-- The start of a scan. -/
def ofCells (cells : List Cell) : Scan := ⟨cells, #[], -1, [], true, [none]⟩

/-- The scan is inside of brackets. -/
def inFlow (s : Scan) : Bool := 1 < s.pending.length

/-- The place of the next cell.  Behind the last one a new line begins. -/
def place (s : Scan) (finish : Place) : Place := (s.rest.head?.map (·.place)).getD finish

/-- The column of the next cell. -/
def column (s : Scan) : Nat := (s.rest.head?.map Cell.column).getD 0

/-- A token more. -/
def push (s : Scan) (t : Token) : Scan := { s with tokens := s.tokens.push t }

/-- The scan some cells further. -/
def advance (s : Scan) (n : Nat) : Scan := { s with rest := s.rest.drop n }

/-- A key may or may not begin from here on. -/
def allowKey (s : Scan) (allowed : Bool) : Scan := { s with keyAllowed := allowed }

/-! ### Pending keys -/

/-- The pending key of the current level. -/
def pendingKey (s : Scan) : Option PendingKey := s.pending.head?.join

/-- The pending key of the current level is another one. -/
def setPending (s : Scan) (key : Option PendingKey) : Scan :=
  { s with pending := key :: s.pending.tail }

/-- The pending key of the current level is no key after all. -/
def dropPending? (s : Scan) : Option Scan :=
  match s.pendingKey with
  | some key => if key.required then none else some (s.setPending none)
  | none => some s

/-- A key may begin at the next cell. -/
def savePending? (s : Scan) (finish : Place) : Option Scan :=
  if s.keyAllowed then do
    let s ← s.dropPending?
    return s.setPending (some
      { required := !s.inFlow && s.indent == (s.column : Int)
        position := s.tokens.size
        place := s.place finish })
  else some s

/-- A key stands on one line and has 1024 bytes at most. -/
def expire? (now : Place) : Option PendingKey → Option (Option PendingKey)
  | none => some none
  | some key =>
    if key.place.line < now.line ∨ key.place.index + 1024 < now.index then
      if key.required then none else some none
    else some (some key)

/-- Pending keys that are too old are no keys. -/
def expirePending? (s : Scan) (finish : Place) : Option Scan := do
  return { s with pending := (← s.pending.mapM (expire? (s.place finish))) }

/-! ### Blocks -/

/-- A block begins at a column if that is deeper than the current one.  Its token is put at a
position among the tokens. -/
def openBlock (s : Scan) (column position : Nat) (t : Token) : Scan :=
  if !s.inFlow && decide (s.indent < column) then
    { s with
      indent := column
      outer := s.indent :: s.outer
      tokens := s.tokens.insertIdxIfInBounds position t }
  else s

/-- The columns of the blocks that are left at a column, from the innermost, and how many blocks
end there. -/
def leave (column : Int) (indent : Int) : List Int → Int × List Int × Nat
  | [] => (indent, [], 0)
  | next :: outer =>
    if column < indent then
      let (indent, outer, n) := leave column next outer
      (indent, outer, n + 1)
    else (indent, next :: outer, 0)

/-- Blocks that are deeper than a column end. -/
def closeBlocks (s : Scan) (column : Int) : Scan :=
  if s.inFlow then s
  else
    let (indent, outer, n) := leave column s.indent s.outer
    { s with indent, outer, tokens := s.tokens ++ Array.replicate n .blockEnd }

/-! ### Between tokens -/

/-- The cells behind white space and comments, and whether a key may begin there.  Tabs are white
space only where no key may begin. -/
def skipGap (inFlow : Bool) : (comment keyAllowed : Bool) → List Cell → Bool × List Cell
  | _, keyAllowed, [] => (keyAllowed, [])
  | true, keyAllowed, c :: cs =>
    if c.isBreak then skipGap inFlow false (keyAllowed || !inFlow) cs
    else skipGap inFlow true keyAllowed cs
  | false, keyAllowed, c :: cs =>
    if c.is ' ' || (c.is '\t' && (inFlow || !keyAllowed)) then skipGap inFlow false keyAllowed cs
    else if c.char.toNat = 0xFEFF ∧ c.column = 0 then skipGap inFlow false keyAllowed cs
    else if c.is '#' then skipGap inFlow true keyAllowed cs
    else if c.isBreak then skipGap inFlow false (keyAllowed || !inFlow) cs
    else (keyAllowed, c :: cs)

/-- The scan behind white space and comments. -/
def skip (s : Scan) : Scan :=
  let (keyAllowed, rest) := skipGap s.inFlow false s.keyAllowed s.rest
  { s with keyAllowed, rest }

/-! ### Directives and anchors -/

/-- A number of a version, of nine digits at most. -/
def versionNumber? (cs : List Cell) : Option (Nat × List Cell) :=
  let digits := chars (cs.takeWhile fun c => c.char.isDigit)
  if digits.length ≤ 9 then
    (Text.readNat? digits).map fun n => (n, cs.dropWhile fun c => c.char.isDigit)
  else none

/-- A version or a handle for tags, behind the percent sign. -/
def directive? (cs : List Cell) : Option (Token × List Cell) := do
  let (name, rest) := splitWord cs
  if name = "" ∨ !endsWord rest then none
  let rest := skipBlanks rest
  if name = "YAML" then
    let (major, rest) ← versionNumber? rest
    if !begins '.' rest then none
    let (minor, rest) ← versionNumber? rest.tail
    return (.version major minor, ← finishLine? rest)
  else if name = "TAG" then
    let (handle, meaning, rest) ← tagMeaning? rest
    return (.tagHandle handle meaning, ← finishLine? rest)
  else none

/-- The name of an anchor. -/
def anchorName? (cs : List Cell) : Option (String × List Cell) :=
  let (name, rest) := splitWord cs
  if name ≠ "" ∧ (endsWord rest || beginsOneOf "?:,]\x7d%@`" rest) then some (name, rest) else none

/-! ### One token -/

/-- Behind a token, before which no key is pending and behind which none may begin. -/
def closing? (s : Scan) (t : Token) (length : Nat) : Option Scan := do
  return ((← s.dropPending?).push t).allowKey false |>.advance length

/-- A mark or a line outside of all blocks. -/
def outside? (s : Scan) (t : Token) (rest : List Cell) : Option Scan := do
  let s ← (s.closeBlocks (-1)).dropPending?
  return { (s.push t).allowKey false with rest }

/-- An opening bracket, which may be a key as a whole. -/
def openFlow? (s : Scan) (finish : Place) (t : Token) : Option Scan := do
  let s ← s.savePending? finish
  return ({ s with pending := none :: s.pending }.push t).allowKey true |>.advance 1

/-- A closing bracket. -/
def closeFlow? (s : Scan) (t : Token) : Option Scan := do
  let s ← s.dropPending?
  let s := if s.inFlow then { s with pending := s.pending.tail } else s
  return (s.push t).allowKey false |>.advance 1

/-- An entry of a block, which may begin only where a key may. -/
def blockEntry? (s : Scan) : Option Scan := do
  if !s.inFlow && !s.keyAllowed then none
  let s ← (s.openBlock s.column s.tokens.size .blockSequence).dropPending?
  return (s.push .blockEntry).allowKey true |>.advance 1

/-- A key that is marked as one. -/
def key? (s : Scan) : Option Scan := do
  if !s.inFlow && !s.keyAllowed then none
  let s ← (s.openBlock s.column s.tokens.size .blockMapping).dropPending?
  return (s.push .key).allowKey (!s.inFlow) |>.advance 1

/-- A colon: the pending key is a key, or else a value without a simple key begins. -/
def value? (s : Scan) : Option Scan :=
  match s.pendingKey with
  | some key =>
    let s := { s with tokens := s.tokens.insertIdxIfInBounds key.position .key }
    let s := s.openBlock key.place.column key.position .blockMapping
    some (((s.setPending none).push .value).allowKey false |>.advance 1)
  | none =>
    if !s.inFlow && !s.keyAllowed then none
    else
      let s := s.openBlock s.column s.tokens.size .blockMapping
      some ((s.push .value).allowKey (!s.inFlow) |>.advance 1)

/-- A token that may be a key. -/
def nodeStart? (s : Scan) (finish : Place) (read : Option (Token × List Cell)) : Option Scan := do
  let s ← s.savePending? finish
  let (token, rest) ← read
  return { (s.push token).allowKey false with rest }

/-- A quoted text. -/
def quotedToken? (quote : Char) (cs : List Cell) : Option (Token × List Cell) :=
  (quoted? quote cs.tail).map fun (text, rest) => (.scalar (String.ofList text) .quoted, rest)

/-- A block text. -/
def blockToken? (s : Scan) (style : Style) : Option Scan := do
  let s ← s.dropPending?
  let (text, rest) ← block? (style == .folded) s.indent s.rest.tail
  return { (s.push (.scalar (String.ofList text) style)).allowKey true with rest }

/-- A plain text. -/
def plainToken? (s : Scan) (finish : Place) : Option Scan := do
  let s ← s.savePending? finish
  let (text, broken, rest) ← plain? s.inFlow (s.indent + 1) s.rest
  return { (s.push (.scalar (String.ofList text) .plain)).allowKey broken with rest }

/-- A character with which a plain text may begin, seen with what follows it. -/
def beginsPlain (inFlow : Bool) (c : Cell) (cs : List Cell) : Bool :=
  !(c.isBlank || "-?:,[]\x7b\x7d#&*!|>'\"%@`".toList.contains c.char) ||
    (c.is '-' && !(cs.head?.map Cell.isBlank).getD false) ||
    (!inFlow && (c.is '?' || c.is ':') && !endsWord cs)

/-- The next token, at a cell that is no white space. -/
def token? (s : Scan) (finish : Place) (c : Cell) (cs : List Cell) : Option Scan :=
  let indicator := s.inFlow || endsWord cs
  if c.column = 0 ∧ c.is '%' then (directive? cs).bind fun (token, rest) => s.outside? token rest
  else if isDocumentMark '-' s.rest then s.outside? .documentStart (s.rest.drop 3)
  else if isDocumentMark '.' s.rest then s.outside? .documentEnd (s.rest.drop 3)
  else if c.is '[' then s.openFlow? finish .openSequence
  else if c.is '\x7b' then s.openFlow? finish .openMapping
  else if c.is ']' then s.closeFlow? .closeSequence
  else if c.is '\x7d' then s.closeFlow? .closeMapping
  else if c.is ',' then (s.closing? .flowEntry 1).map (·.allowKey true)
  else if c.is '-' && endsWord cs then s.blockEntry?
  else if c.is '?' && indicator then s.key?
  else if c.is ':' && indicator then s.value?
  else if c.is '*' then
    s.nodeStart? finish ((anchorName? cs).map fun (name, rest) => (.alias name, rest))
  else if c.is '&' then
    s.nodeStart? finish ((anchorName? cs).map fun (name, rest) => (.anchor name, rest))
  else if c.is '!' then
    s.nodeStart? finish
      ((tag? s.inFlow s.rest).map fun (handle, suffix, rest) => (.tag handle suffix, rest))
  else if c.is '|' && !s.inFlow then s.blockToken? .literal
  else if c.is '>' && !s.inFlow then s.blockToken? .folded
  else if c.is '\'' then s.nodeStart? finish (quotedToken? '\'' s.rest)
  else if c.is '"' then s.nodeStart? finish (quotedToken? '"' s.rest)
  else if beginsPlain s.inFlow c cs then s.plainToken? finish
  else none

/-- The tokens up to the end of the cells. -/
def run? (finish : Place) : (fuel : Nat) → Scan → Option (Array Token)
  | 0, _ => none
  | fuel + 1, s => do
    let s ← s.skip.expirePending? finish
    let s := s.closeBlocks s.column
    match s.rest with
    | [] => return (← (s.closeBlocks (-1)).dropPending?).tokens
    | c :: cs => run? finish fuel (← s.token? finish c cs)

end Scan

/-- The tokens of a document, if it is well formed. -/
def tokens? (text : String) : Option (List Token) := do
  let cells ← cells? text
  let finish : Place := ⟨cells.length + 1, cells.length + 1, 0⟩
  return (← Scan.run? finish (cells.length + 2) (.ofCells cells)).toList

end Tabletop.Yaml
