/-!
# Tabletop — Command line — Arguments

How the words of a command line become options and an operand.  An option is a word `--name`; its
value is the next word, or stands behind an equals sign.  Flags have no value.  Behind a word `--`
all words are operands.  A word that begins with a hyphen is no value, except where hyphens are
allowed or where the operand, which may begin with one, is still missing and no option is of that
name.  The first word that is not understood or asks for help settles what becomes of all.
-/

namespace Tabletop.CommandLine

/-- An option or a flag. -/
structure OptionForm where
  /-- The name behind its two hyphens. -/
  name : String
  /-- It has a value. -/
  hasValue : Bool := true
  /-- Its value may begin with a hyphen. -/
  allowsHyphens : Bool := false
  /-- It may be given more than once. -/
  repeats : Bool := false
  /-- The values it may have. -/
  accepts : String → Bool := fun _ => true

/-- What a command understands. -/
structure Form where
  /-- Its options and flags. -/
  options : List OptionForm
  /-- It takes one operand. -/
  hasOperand : Bool := false

/-- What a command was given. -/
structure Given where
  /-- The options in the order given, with their values. -/
  options : List (String × String)
  /-- The operand. -/
  operand : Option String

/-- Why words are no command. -/
inductive Refusal where
  /-- They ask for help. -/
  | help
  /-- They are not understood. -/
  | misused
  deriving DecidableEq, Repr

/-- The flag that every command understands, and its letter. -/
def verbose : OptionForm := { name := "verbose", hasValue := false, repeats := true }

/-- The letter of the flag that every command understands. -/
def verboseLetter : Char := 'v'

/-- The letter that asks for help. -/
def helpLetter : Char := 'h'

/-- The word that asks for help. -/
def helpName : String := "help"

/-- What a word is by its looks. -/
inductive Word where
  /-- Two hyphens alone. -/
  | separator
  /-- Two hyphens, a name and a value behind an equals sign. -/
  | long (name : String) (value : Option String)
  /-- A hyphen and letters. -/
  | letters (letters : List Char)
  /-- Any other word. -/
  | plain
  deriving DecidableEq, Repr

/-- A word that begins with two hyphens. -/
def longWord (cs : List Char) : Word :=
  let name := String.ofList (cs.takeWhile (· != '='))
  match cs.dropWhile (· != '=') with
  | _ :: value => .long name (some (String.ofList value))
  | [] => .long name none

/-- What a word is by its looks. -/
def Word.ofString (word : String) : Word :=
  match word.toList with
  | ['-', '-'] => .separator
  | '-' :: '-' :: cs => longWord cs
  | '-' :: c :: cs => .letters (c :: cs)
  | _ => .plain

namespace Given

/-- Nothing has been given. -/
def nothing : Given := ⟨[], none⟩

/-- The value of an option. -/
def value? (g : Given) (name : String) : Option String := g.options.lookup name

/-- An option or flag has been given. -/
def has (g : Given) (name : String) : Bool := (g.value? name).isSome

/-- An option is given, with a value that it may have; only some may be given twice. -/
def set (g : Given) (o : OptionForm) (value : String) : Except Refusal Given :=
  if (g.has o.name && !o.repeats) || !o.accepts value then .error .misused
  else .ok { g with options := g.options ++ [(o.name, value)] }

end Given

namespace Form

/-- The option of a name. -/
def find? (form : Form) (name : String) : Option OptionForm :=
  (verbose :: form.options).find? fun o => o.name == name

/-- An operand is still missing. -/
def lacksOperand (form : Form) (g : Given) : Bool := form.hasOperand && g.operand.isNone

/-- A word that is an operand. -/
def takeOperand (form : Form) (g : Given) (word : String) : Except Refusal Given :=
  if form.lacksOperand g then .ok { g with operand := some word } else .error .misused

/-- Words of which each is an operand. -/
def takeOperands (form : Form) (g : Given) : List String → Except Refusal Given
  | [] => .ok g
  | word :: rest => (form.takeOperand g word).bind fun g => form.takeOperands g rest

/-- The letters of a word, one after the other. -/
def takeLetters (g : Given) : List Char → Except Refusal Given
  | [] => .ok g
  | c :: rest =>
    if c = verboseLetter then (g.set verbose "").bind fun g => takeLetters g rest
    else if c = helpLetter then .error .help
    else .error .misused

/-- A word is not an option by its looks: all its letters would have to be known. -/
def isWordAnyway (form : Form) (g : Given) : Word → Bool
  | .long name _ => (form.find? name).isNone && name != helpName && form.lacksOperand g
  | .letters cs => form.lacksOperand g && cs.any fun c => c != verboseLetter && c != helpLetter
  | .separator => false
  | .plain => true

/-- Words are read one after the other.  A `pending` option waits for its value. -/
def read (form : Form) : (pending : Option OptionForm) → Given → List String →
    Except Refusal Given
  | some _, _, [] => .error .misused
  | none, g, [] => .ok g
  | some o, g, word :: rest =>
    if o.allowsHyphens || form.isWordAnyway g (.ofString word) then
      (g.set o word).bind fun g => form.read none g rest
    else .error .misused
  | none, g, word :: rest =>
    let looks := Word.ofString word
    if form.isWordAnyway g looks then (form.takeOperand g word).bind fun g => form.read none g rest
    else
      match looks with
      | .separator => form.takeOperands g rest
      | .letters cs => (takeLetters g cs).bind fun g => form.read none g rest
      | .plain => .error .misused
      | .long name value =>
        match form.find? name, value with
        | none, _ => .error (if name = helpName ∧ value = none then .help else .misused)
        | some o, some value =>
          if o.hasValue then (g.set o value).bind fun g => form.read none g rest
          else .error .misused
        | some o, none =>
          if o.hasValue then form.read (some o) g rest
          else (g.set o "").bind fun g => form.read none g rest

end Form

end Tabletop.CommandLine
