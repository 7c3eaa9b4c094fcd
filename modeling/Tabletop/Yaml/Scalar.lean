import Tabletop.Json.Reader
import Tabletop.Yaml.Source

/-!
# Tabletop — Yaml — Scalars

The texts of a YAML document: plain, in single or double quotes, and in blocks.  White space inside
a text is folded: a line break becomes a space, and of several breaks the first one goes.  Each
reader gives the text with the cells that follow it, or nothing where the text is not well formed.
-/

namespace Tabletop.Yaml

/-! ### Folding -/

/-- White space inside a text that has been read and not yet folded. -/
structure Gap where
  /-- The blanks before the first line break, in reverse. -/
  blanks : List Char
  /-- A line break has been passed. -/
  broken : Bool
  /-- The first line break, if it counts. -/
  first : List Char
  /-- The further line breaks, in reverse. -/
  more : List Char

namespace Gap

/-- No white space. -/
def none : Gap := ⟨[], false, [], []⟩

/-- An escaped line break, which does not count. -/
def escaped : Gap := ⟨[], true, [], []⟩

/-- A blank more. -/
def addBlank (g : Gap) (c : Char) : Gap :=
  if g.broken then g else { g with blanks := c :: g.blanks }

/-- A line break more. -/
def addBreak (g : Gap) (c : Char) : Gap :=
  if g.broken then { g with more := c :: g.more } else ⟨[], true, [c], []⟩

/-- The gap as it stands in the text, in reverse. -/
def fold (g : Gap) : List Char :=
  if !g.broken then g.blanks
  else if g.first = ['\n'] then if g.more.isEmpty then [' '] else g.more
  else g.more ++ g.first

end Gap

/-! ### Plain texts -/

/-- The rest of a plain text.  `text` holds what has been read, in reverse, and `inside` says that
the last cell was part of a word.  Gives the text, whether a line break was passed behind its last
word, and what follows.  Outside of brackets a text ends at a line that is indented by less than
`indent`. -/
def plainFrom (inFlow : Bool) (indent : Int) (text : List Char) (gap : Gap) (inside : Bool) :
    List Cell → Option (List Char × Bool × List Cell)
  | [] => some (text.reverse, gap.broken, [])
  | c :: cs =>
    if c.isBlank then
      if gap.broken && decide ((c.column : Int) < indent) && c.is '\t' then none
      else plainFrom inFlow indent text (gap.addBlank c.char) false cs
    else if c.isBreak then plainFrom inFlow indent text (gap.addBreak c.char) false cs
    else
      let outdented := !text.isEmpty && !inFlow && decide ((c.column : Int) < indent)
      if !inside && (outdented || isAnyDocumentMark (c :: cs) || c.is '#') then
        some (text.reverse, gap.broken, c :: cs)
      else if inFlow && c.is ':' && beginsOneOf ",?[]\x7b\x7d" cs then none
      else if (c.is ':' && endsWord cs) || (inFlow && ",[]\x7b\x7d".toList.contains c.char) then
        some (text.reverse, gap.broken, c :: cs)
      else plainFrom inFlow indent (c.char :: gap.fold ++ text) .none true cs

/-- A plain text. -/
def plain? (inFlow : Bool) (indent : Int) (cs : List Cell) :
    Option (List Char × Bool × List Cell) :=
  plainFrom inFlow indent [] .none false cs

/-! ### Quoted texts -/

/-- The character for an escape of one letter. -/
def simpleEscape? (c : Char) : Option Char :=
  [('0', 0x0), ('a', 0x7), ('b', 0x8), ('t', 0x9), ('\t', 0x9), ('n', 0xA), ('v', 0xB),
   ('f', 0xC), ('r', 0xD), ('e', 0x1B), (' ', 0x20), ('"', 0x22), ('/', 0x2F), ('\\', 0x5C),
   ('N', 0x85), ('_', 0xA0), ('L', 0x2028), ('P', 0x2029)].lookup c |>.map Char.ofNat

/-- The number of digits behind an escape that gives a code point. -/
def escapeLength? (c : Char) : Option Nat := [('x', 2), ('u', 4), ('U', 8)].lookup c

/-- The code point that digits of base sixteen spell. -/
def codePoint? (digits : List Cell) : Option Char := do
  let n ← digits.foldlM (fun n d => (Json.hexValue? d.char).map (16 * n + ·)) 0
  if h : n.isValidChar then some (Char.ofNatAux n h) else none

/-- An escape behind its backslash: its character and what follows. -/
def escape? : List Cell → Option (Char × List Cell)
  | [] => none
  | c :: cs =>
    match simpleEscape? c.char, escapeLength? c.char with
    | some char, _ => some (char, cs)
    | none, some length =>
      if (cs.take length).length = length then
        (codePoint? (cs.take length)).map fun char => (char, cs.drop length)
      else none
    | none, none => none

/-- The rest of a quoted text, up to its closing quote.  `text` holds what has been read, in
reverse. -/
def quotedFrom (quote : Char) : (fuel : Nat) → (text : List Char) → Gap → List Cell →
    Option (List Char × List Cell)
  | 0, _, _, _ => none
  | _, _, _, [] => none
  | fuel + 1, text, gap, c :: cs =>
    if c.isBlank then quotedFrom quote fuel text (gap.addBlank c.char) cs
    else if c.isBreak then quotedFrom quote fuel text (gap.addBreak c.char) cs
    else if isAnyDocumentMark (c :: cs) then none
    else
      let text := gap.fold ++ text
      if quote = '\'' && c.is '\'' && begins '\'' cs then
        quotedFrom quote fuel ('\'' :: text) .none cs.tail
      else if c.is quote then some (text.reverse, cs)
      else if quote = '"' && c.is '\\' then
        if !cs.isEmpty && endsLine cs then quotedFrom quote fuel text .escaped cs.tail
        else (escape? cs).bind fun (char, rest) => quotedFrom quote fuel (char :: text) .none rest
      else quotedFrom quote fuel (c.char :: text) .none cs

/-- A quoted text behind its opening quote. -/
def quoted? (quote : Char) (cs : List Cell) : Option (List Char × List Cell) :=
  quotedFrom quote (cs.length + 1) [] .none cs

/-! ### Block texts -/

/-- What becomes of the line breaks at the end of a block. -/
inductive Chomping where
  /-- They go. -/
  | strip
  /-- One of them stays. -/
  | clip
  /-- They stay. -/
  | keep
  deriving DecidableEq

/-- The chomping that a character asks for. -/
def chomping? (c : Char) : Option Chomping := [('+', .keep), ('-', .strip)].lookup c

/-- A character that sets the indentation, which is never zero. -/
def indentation? (c : Char) : Option Nat :=
  if '1' ≤ c ∧ c ≤ '9' then some (c.toNat - 0x30) else none

/-- The chomping and the indentation that stand behind the mark of a block, in either order. -/
def blockHeader (cs : List Cell) : Chomping × Option Nat × List Cell :=
  match cs with
  | [] => (.clip, none, [])
  | c :: rest =>
    match chomping? c.char, indentation? c.char with
    | some chomping, _ =>
      match (rest.head?.map (·.char)).bind indentation? with
      | some n => (chomping, some n, rest.tail)
      | none => (chomping, none, rest)
    | none, some n =>
      match (rest.head?.map (·.char)).bind chomping? with
      | some chomping => (chomping, some n, rest.tail)
      | none => (.clip, some n, rest)
    | none, none => (.clip, none, c :: rest)

/-- The indentation and the empty lines before a line of a block: the deepest column reached, the
breaks in reverse, and what follows.  Nothing where a tab stands in the indentation.  Without
an `indent` any indentation is passed. -/
def blockBreaks (indent : Option Nat) (deepest : Nat) (breaks : List Char) :
    List Cell → Option (Nat × List Char × List Cell)
  | [] => some (deepest, breaks, [])
  | c :: cs =>
    let before := match indent with | some n => decide (c.column < n) | none => true
    if before && c.is ' ' then blockBreaks indent (max deepest (c.column + 1)) breaks cs
    else if before && c.is '\t' then none
    else if c.isBreak then blockBreaks indent (max deepest c.column) (c.char :: breaks) cs
    else some (max deepest c.column, breaks, c :: cs)

/-- The lines of a block whose indentation is `indent`.  `text` and `breaks` are in reverse, `first`
is the break behind the last line, and `blank` says that the last line began with a blank. -/
def blockLines (folded : Bool) (chomping : Chomping) (indent : Nat) :
    (fuel : Nat) → (text first breaks : List Char) → (blank : Bool) → List Cell →
    Option (List Char × List Cell)
  | 0, _, _, _, _, _ => none
  | fuel + 1, text, first, breaks, blank, cs =>
    if (cs.head?.map fun c => c.column == indent).getD false then
      let blankNow := (cs.head?.map Cell.isBlank).getD false
      let joint := if folded && first == ['\n'] && !blank && !blankNow then
          if breaks.isEmpty then [' '] else []
        else first
      let line := cs.takeWhile (!·.isBreak)
      let rest := cs.dropWhile (!·.isBreak)
      let text := (chars line).reverse ++ breaks ++ joint ++ text
      let first := chars (rest.take 1)
      (blockBreaks (some indent) 0 [] (rest.drop 1)).bind fun (_, breaks, rest) =>
        blockLines folded chomping indent fuel text first breaks blankNow rest
    else
      let text := if chomping = .strip then text else first ++ text
      let text := if chomping = .keep then breaks ++ text else text
      some (text.reverse, cs)

/-- A block text behind its mark, in a block whose indentation is `parent`. -/
def block? (folded : Bool) (parent : Int) (cs : List Cell) : Option (List Char × List Cell) := do
  let (chomping, increment, rest) := blockHeader cs
  let rest ← finishLine? rest
  let given := increment.map fun n => if 0 ≤ parent then parent.toNat + n else n
  let (deepest, breaks, rest) ← blockBreaks given 0 [] rest
  let indent := given.getD (max deepest (max (parent + 1).toNat 1))
  blockLines folded chomping indent (rest.length + 1) [] [] breaks false rest

end Tabletop.Yaml
