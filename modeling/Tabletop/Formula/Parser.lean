import Tabletop.Formula.Basic
import Tabletop.Text.Blank
import Tabletop.Text.Lowercase
import Tabletop.Text.Numeral

/-!
# Tabletop — Formula — Reading

A formula is read from text in four passes.  The text is put in small letters; the mode keywords
are taken out, wherever they stand; the blanks go; and what is left is either a signed number or
holds a dice group, `count d sides`, with an optional keep suffix and an optional modifier behind
it (`Group`).  Only the first dice group counts, and text around it is ignored.
-/

namespace Tabletop

namespace Formula

/-! ### Why a text is no formula -/

/-- What a number in a formula stands for. -/
inductive NumberRole where
  /-- A modifier. -/
  | modifier
  /-- The number of dice. -/
  | diceCount
  /-- The number of sides. -/
  | dieSize
  /-- The number of dice that count. -/
  | keepCount
  deriving DecidableEq, Repr

/-- The words for a number's part. -/
def NumberRole.name : NumberRole → String
  | .modifier => "modifier"
  | .diceCount => "dice count"
  | .dieSize => "die size"
  | .keepCount => "keep count"

/-- What is wrong with a text that is no formula. -/
inductive Fault where
  /-- Nothing is left beside keywords and blanks. -/
  | nothing
  /-- There is neither a signed number nor a dice group. -/
  | noDice
  /-- The digits of a number spell none in its range. -/
  | outOfRange (role : NumberRole) (digits : String)
  /-- There are more than `maxCount` dice. -/
  | tooManyDice
  /-- There are dice, but they have no sides. -/
  | noSides
  /-- The dice have more than `maxSides` sides. -/
  | tooManySides
  deriving DecidableEq, Repr

/-- The words for a fault. -/
def Fault.reason : Fault → String
  | .nothing => "no dice or modifier"
  | .noDice => "no dice group found"
  | .outOfRange role digits => s!"{role.name} '{digits}' is out of range"
  | .tooManyDice => s!"at most {maxCount} dice per roll"
  | .noSides => "dice need at least one side"
  | .tooManySides => s!"dice have at most {maxSides} sides"

/-! ### Mode keywords -/

/-- The mode keywords, each before those it contains. -/
def keywords : List (List Char × Mode) :=
  [("disadvantage".toList, .disadvantage), ("advantage".toList, .advantage),
   ("dis".toList, .disadvantage), ("adv".toList, .advantage)]

/-- The first keyword that the characters begin with: its mode, and its length. -/
def keywordAt? (cs : List Char) : Option (Mode × Nat) :=
  keywords.findSome? fun (word, mode) =>
    if word.isPrefixOf cs then some (mode, word.length) else none

/-- The modes of the keywords in the characters and the characters without them, after the first
`skip` characters, which belong to a keyword that has been counted. -/
def extractKeywords : (skip : Nat) → List Char → List Mode × List Char
  | _, [] => ([], [])
  | skip + 1, _ :: cs => extractKeywords skip cs
  | 0, c :: cs =>
    match keywordAt? (c :: cs) with
    | some (mode, length) =>
      let (modes, rest) := extractKeywords (length - 1) cs
      (mode :: modes, rest)
    | none =>
      let (modes, rest) := extractKeywords 0 cs
      (modes, c :: rest)

/-! ### Dice groups -/

/-- A sign. -/
def isSign (c : Char) : Bool := c == '+' || c == '-'

/-- An optional sign and one digit or more. -/
def isSignedDigits (cs : List Char) : Bool :=
  match cs with
  | [] => false
  | c :: rest =>
    let digits := if isSign c then rest else c :: rest
    !digits.isEmpty && digits.all Text.isDecimalDigit

/-- The longest run of digits at the start, and what follows it. -/
def splitDigits (cs : List Char) : List Char × List Char :=
  (cs.takeWhile Text.isDecimalDigit, cs.dropWhile Text.isDecimalDigit)

/-- The characters begin with a digit. -/
def startsWithDigit (cs : List Char) : Bool := (cs.head?.map Text.isDecimalDigit).getD false

/-- The parts of a dice group as they are spelled. -/
structure Group where
  /-- The digits before the `d`; none stand for one die. -/
  count : List Char
  /-- The digits after the `d`. -/
  sides : List Char
  /-- The keep suffix: whether the lowest dice count, and the digits of how many. -/
  keep : Option (Bool × List Char)
  /-- The modifier: whether it is subtracted, and its digits. -/
  modifier : Option (Bool × List Char)

/-- The first `d` that a digit follows: the digits before it, which end the reversed `run`, and
the characters after it. -/
def findDice? (run : List Char) : List Char → Option (List Char × List Char)
  | [] => none
  | c :: cs =>
    if c = 'd' ∧ startsWithDigit cs then some (run.reverse, cs)
    else if Text.isDecimalDigit c then findDice? (c :: run) cs
    else findDice? [] cs

/-- A keep suffix at the start: whether the lowest dice count, the digits of how many, and the
rest. -/
def keepSuffix? (cs : List Char) : Option ((Bool × List Char) × List Char) :=
  let suffix (lowest : Bool) (rest : List Char) :=
    if startsWithDigit rest then
      some ((lowest, (splitDigits rest).1), (splitDigits rest).2)
    else none
  match cs with
  | 'k' :: 'h' :: rest => suffix false rest
  | 'k' :: 'l' :: rest => suffix true rest
  | 'k' :: rest => suffix false rest
  | 'h' :: rest => suffix false rest
  | 'l' :: rest => suffix true rest
  | _ => none

/-- A modifier at the start: whether it is subtracted, and its digits.  A signed number that a `d`
follows opens another dice group and is no modifier. -/
def modifierSuffix? (cs : List Char) : Option (Bool × List Char) :=
  match cs with
  | c :: rest =>
    if isSign c && startsWithDigit rest && (splitDigits rest).2.head? != some 'd' then
      some (c == '-', (splitDigits rest).1)
    else none
  | [] => none

/-- The first dice group in the characters. -/
def Group.find? (cs : List Char) : Option Group :=
  (findDice? [] cs).map fun (count, afterD) =>
    let (sides, afterSides) := splitDigits afterD
    match keepSuffix? afterSides with
    | some (keep, afterKeep) => ⟨count, sides, some keep, modifierSuffix? afterKeep⟩
    | none => ⟨count, sides, none, modifierSuffix? afterSides⟩

/-! ### Numbers and limits -/

/-- The count that digits spell. -/
def countOf (role : NumberRole) (digits : List Char) : Except Fault Nat :=
  match Text.readCount? digits with
  | some n => .ok n
  | none => .error (.outOfRange role (String.ofList digits))

/-- The amount that a sign and digits spell. -/
def amountOf (role : NumberRole) (cs : List Char) : Except Fault Int :=
  match Text.readAmount? cs with
  | some n => .ok n
  | none => .error (.outOfRange role (String.ofList cs))

/-- The keep rule that a suffix spells. -/
def keepOf : Option (Bool × List Char) → Except Fault (Option KeepRule)
  | none => .ok none
  | some (lowest, digits) =>
    (countOf .keepCount digits).map fun n => some (if lowest then .lowest n else .highest n)

/-- The modifier that a suffix spells; zero without one. -/
def modifierOf : Option (Bool × List Char) → Except Fault Int
  | none => .ok 0
  | some (negative, digits) =>
    (amountOf .modifier digits).map fun n => if negative then -n else n

/-- The limits on the dice of a written formula. -/
def checkLimits (count sides : Nat) : Except Fault Unit :=
  if maxCount < count then .error .tooManyDice
  else if 0 < count ∧ sides = 0 then .error .noSides
  else if maxSides < sides then .error .tooManySides
  else .ok ()

/-- The formula that a dice group spells. -/
def Group.toFormula (g : Group) (mode : Mode) : Except Fault Formula := do
  let count ← if g.count = [] then .ok 1 else countOf .diceCount g.count
  let sides ← countOf .dieSize g.sides
  checkLimits count sides
  let keep ← keepOf g.keep
  let modifier ← modifierOf g.modifier
  return ⟨count, sides, modifier, keep, mode⟩

/-- The formula that characters without keywords and blanks spell. -/
def readCore (mode : Mode) (cs : List Char) : Except Fault Formula :=
  if cs = [] then .error .nothing
  else if isSignedDigits cs then (amountOf .modifier cs).map (ofModifier · mode)
  else match Group.find? cs with
    | none => .error .noDice
    | some group => group.toFormula mode

/-- The formula that characters spell. -/
def read (cs : List Char) : Except Fault Formula :=
  let (modes, rest) := extractKeywords 0 (Text.lowercase cs)
  readCore (Mode.combineAll modes) (Text.squeeze rest)

end Formula

/-- A text that is no formula, and what is wrong with it. -/
structure FormulaError where
  /-- The text. -/
  text : String
  /-- What is wrong with it. -/
  fault : Formula.Fault
  deriving DecidableEq, Repr

/-- The message for a text that is no formula. -/
def FormulaError.message (e : FormulaError) : String :=
  s!"invalid dice expression '{e.text}': {e.fault.reason}"

/-- The formula that a text spells. -/
def Formula.parse (text : String) : Except FormulaError Formula :=
  match read text.toList with
  | .ok f => .ok f
  | .error fault => .error ⟨text, fault⟩

end Tabletop
