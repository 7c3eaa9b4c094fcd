/-!
# Tabletop — Text — Encodings

Texts as bytes.  `decodeUtf8` takes UTF-8 alone and tells where bytes are none.  `decodeMarked?`
goes by the mark that tells an encoding at the start of a text, and puts a replacement character in
the place of everything malformed: one for each longest run of bytes that begins a character.
-/

namespace Tabletop.Text

/-! ### UTF-8 -/

/-- What bytes begin with: a character of some bytes, a run of bytes that begins one but does not
go on as it should, or the start of one at their end. -/
inductive Utf8Part where
  /-- A character and the number of its bytes. -/
  | char (c : Char) (length : Nat)
  /-- A number of bytes that are no character. -/
  | malformed (length : Nat)
  /-- A number of bytes at the end that begin a character. -/
  | incomplete (length : Nat)
  deriving DecidableEq, Repr

namespace Utf8Part

/-- The number of bytes of a part. -/
def length : Utf8Part → Nat
  | .char _ n => n
  | .malformed n => n
  | .incomplete n => n

end Utf8Part

/-- What follows the first byte of a character of several bytes. -/
structure Utf8Lead where
  /-- The first byte without its mark. -/
  value : Nat
  /-- The least second byte. -/
  low : Nat
  /-- The greatest second byte. -/
  high : Nat
  /-- The number of bytes behind the second. -/
  further : Nat

/-- The least byte that goes on with a character. -/
def leastTail : Nat := 0x80

/-- The greatest byte that goes on with a character. -/
def greatestTail : Nat := 0xBF

/-- What the first byte of a character of several bytes says. -/
def utf8Lead? (b : Nat) : Option Utf8Lead :=
  if 0xC2 ≤ b ∧ b ≤ 0xDF then some ⟨b - 0xC0, leastTail, greatestTail, 0⟩
  else if b = 0xE0 then some ⟨0x0, 0xA0, greatestTail, 1⟩
  else if b = 0xED then some ⟨0xD, leastTail, 0x9F, 1⟩
  else if 0xE1 ≤ b ∧ b ≤ 0xEF then some ⟨b - 0xE0, leastTail, greatestTail, 1⟩
  else if b = 0xF0 then some ⟨0x0, 0x90, greatestTail, 2⟩
  else if 0xF1 ≤ b ∧ b ≤ 0xF3 then some ⟨b - 0xF0, leastTail, greatestTail, 2⟩
  else if b = 0xF4 then some ⟨0x4, leastTail, 0x8F, 2⟩
  else none

/-- The part whose bytes up to here are `taken` bytes that give `value`. -/
def utf8Tail (value low high taken : Nat) : (further : Nat) → List Nat → Utf8Part
  | _, [] => .incomplete taken
  | further, b :: rest =>
    if low ≤ b ∧ b ≤ high then
      let value := 64 * value + (b - leastTail)
      match further with
      | 0 => .char (Char.ofNat value) (taken + 1)
      | further + 1 => utf8Tail value leastTail greatestTail (taken + 1) further rest
    else .malformed taken

/-- What bytes begin with. -/
def utf8Part (b : Nat) (rest : List Nat) : Utf8Part :=
  if b < leastTail then .char (Char.ofNat b) 1
  else
    match utf8Lead? b with
    | some lead => utf8Tail lead.value lead.low lead.high 1 lead.further rest
    | none => .malformed 1

/-- The parts of bytes; of a part's bytes, `skip` have been passed by. -/
def utf8Parts : (skip : Nat) → List Nat → List Utf8Part
  | _, [] => []
  | skip + 1, _ :: rest => utf8Parts skip rest
  | 0, b :: rest =>
    let part := utf8Part b rest
    part :: utf8Parts (part.length - 1) rest

/-- Where bytes stop being UTF-8. -/
structure Utf8Error where
  /-- The number of bytes before. -/
  index : Nat
  /-- The number of bytes that are no character, unless the bytes only end too early. -/
  length : Option Nat
  deriving DecidableEq, Repr

/-- The message for bytes that are no UTF-8. -/
def Utf8Error.message (e : Utf8Error) : String :=
  match e.length with
  | some n => s!"invalid utf-8 sequence of {n} bytes from index {e.index}"
  | none => s!"incomplete utf-8 byte sequence from index {e.index}"

/-- The characters of parts that begin at an index, all of which have to be characters. -/
def joinUtf8 (index : Nat) : List Utf8Part → Except Utf8Error (List Char)
  | [] => .ok []
  | .char c n :: rest => (joinUtf8 (index + n) rest).map (c :: ·)
  | .malformed n :: _ => .error ⟨index, some n⟩
  | .incomplete _ :: _ => .error ⟨index, none⟩

/-- The numbers of bytes. -/
def octets (bytes : ByteArray) : List Nat := bytes.toList.map (·.toNat)

/-- The text of bytes of UTF-8. -/
def decodeUtf8 (bytes : ByteArray) : Except Utf8Error String :=
  (joinUtf8 0 (utf8Parts 0 (octets bytes))).map String.ofList

/-! ### Replacement -/

/-- The character that stands for what is malformed. -/
def replacement : Char := Char.ofNat 0xFFFD

/-- The character of a part. -/
def Utf8Part.charOrReplacement : Utf8Part → Char
  | .char c _ => c
  | .malformed _ => replacement
  | .incomplete _ => replacement

/-- The text of bytes of UTF-8, with replacements. -/
def replaceUtf8 (bytes : List Nat) : List Char :=
  (utf8Parts 0 bytes).map Utf8Part.charOrReplacement

/-- Units of sixteen bits from their bytes; a byte that is left over gives no unit. -/
def units (bigEndian : Bool) : List Nat → List (Option Nat)
  | [] => []
  | [_] => [none]
  | a :: b :: rest => some (if bigEndian then 256 * a + b else 256 * b + a) :: units bigEndian rest

/-- The first unit of a surrogate pair. -/
def isHighSurrogate (u : Nat) : Bool := 0xD800 ≤ u && u < 0xDC00

/-- The second unit of a surrogate pair. -/
def isLowSurrogate (u : Nat) : Bool := 0xDC00 ≤ u && u < 0xE000

/-- The character of a unit alone. -/
def unitChar (u : Nat) : Char :=
  if isHighSurrogate u || isLowSurrogate u then replacement else Char.ofNat u

/-- The characters of units, with replacements.  Half a pair and a byte left over behind it count
as one. -/
def replaceUnits : List (Option Nat) → List Char
  | [] => []
  | none :: rest => replacement :: replaceUnits rest
  | [some u] => [unitChar u]
  | some u :: none :: rest =>
    if isHighSurrogate u then replacement :: replaceUnits rest
    else unitChar u :: replaceUnits (none :: rest)
  | some u :: some v :: rest =>
    if isHighSurrogate u && isLowSurrogate v then
      Char.ofNat (0x10000 + (u - 0xD800) * 0x400 + (v - 0xDC00)) :: replaceUnits rest
    else unitChar u :: replaceUnits (some v :: rest)

/-! ### Marks -/

/-- An encoding that a mark can tell. -/
inductive Encoding where
  /-- Bytes. -/
  | utf8
  /-- Units of two bytes, the lower one first. -/
  | utf16LittleEndian
  /-- Units of two bytes, the higher one first. -/
  | utf16BigEndian
  deriving DecidableEq, Repr

/-- The encoding that the mark at the start of bytes tells, and what follows the mark. -/
def mark? : List Nat → Option (Encoding × List Nat)
  | 0xEF :: 0xBB :: 0xBF :: rest => some (.utf8, rest)
  | 0xFF :: 0xFE :: rest => some (.utf16LittleEndian, rest)
  | 0xFE :: 0xFF :: rest => some (.utf16BigEndian, rest)
  | _ => none

/-- The text of bytes of an encoding, with replacements. -/
def Encoding.decode (encoding : Encoding) (bytes : List Nat) : String :=
  String.ofList <|
    match encoding with
    | .utf8 => replaceUtf8 bytes
    | .utf16LittleEndian => replaceUnits (units false bytes)
    | .utf16BigEndian => replaceUnits (units true bytes)

/-- The text of bytes that begin with a mark.  Of two marks, the second one counts. -/
def decodeMarked? (bytes : ByteArray) : Option String :=
  (mark? (octets bytes)).map fun (encoding, rest) =>
    match mark? rest with
    | some (encoding, rest) => encoding.decode rest
    | none => encoding.decode rest

/-- The text of bytes: in the encoding of their mark, or of UTF-8 if they have none. -/
def decode (bytes : ByteArray) : Except Utf8Error String :=
  match decodeMarked? bytes with
  | some text => .ok text
  | none => decodeUtf8 bytes

end Tabletop.Text
