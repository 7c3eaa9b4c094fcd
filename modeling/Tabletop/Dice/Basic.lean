import Tabletop.Dice.Keystream
import Tabletop.Mode

/-!
# Tabletop — Dice

The dice that every roll draws from, one face after the other.  Seeded dice take words of a
keystream; scripted dice repeat a list of faces, so that a wanted face can be forced.  A face of a
die with `sides` sides always lies between 1 and `max sides 1` (`die_pos`, `die_le`).
-/

namespace Tabletop

/-- A source of faces. -/
inductive Dice where
  /-- Faces from a stream of random words. -/
  | seeded (stream : Keystream)
  /-- The faces of a list, over and over, of which `drawn` have been drawn. -/
  | scripted (faces : List Nat) (drawn : Nat)
  deriving DecidableEq

namespace Dice

/-- The greatest seed, `2^64 - 1`. -/
def greatestSeed : Nat := 18446744073709551615

/-- Dice that a seed determines. -/
def ofSeed (seed : Nat) : Dice := .seeded (Keystream.ofSeed (UInt64.ofNat seed))

/-- Dice that show the given faces in turn. -/
def ofFaces (faces : List Nat) : Dice := .scripted faces 0

/-! ### Faces from random words -/

/-- The largest low half of a product `word * sides` that is taken.  Products beyond it would
favour some faces. -/
def acceptance (sides : Nat) : Nat := sides <<< (31 - Nat.log2 sides) - 1

/-- The face that a word stands for on a die with `sides` sides. -/
def faceOf (word : UInt32) (sides : Nat) : Nat := word.toNat * sides / UInt32.size + 1

/-- Words are taken until one is accepted, `attempts` more at most; the face is that of the last
word taken. -/
def drawFace (sides : Nat) : (attempts : Nat) → Keystream → Nat × Keystream
  | 0, stream => (faceOf stream.next.1 sides, stream.next.2)
  | attempts + 1, stream =>
    if stream.next.1.toNat * sides % UInt32.size ≤ acceptance sides then
      (faceOf stream.next.1 sides, stream.next.2)
    else drawFace sides attempts stream.next.2

/-- How many words a face may refuse.  Each is refused with a chance below one half. -/
def maxRefused : Nat := 1000

/-! ### Throwing dice -/

/-- One die with `sides` sides: its face, and the dice after it.  Without sides it counts as a
die with one. -/
def die (sides : Nat) : Dice → Nat × Dice
  | .seeded stream =>
    let drawn := drawFace (max sides 1) maxRefused stream
    (drawn.1, .seeded drawn.2)
  | .scripted faces drawn =>
    match faces[drawn % faces.length]? with
    | none => (1, .scripted faces drawn)
    | some face => (max 1 (min face (max sides 1)), .scripted faces (drawn + 1))

/-- Some dice of the same kind, in the order thrown. -/
def pool (sides : Nat) : (count : Nat) → Dice → List Nat × Dice
  | 0, dice => ([], dice)
  | count + 1, dice =>
    let first := dice.die sides
    let others := pool sides count first.2
    (first.1 :: others.1, others.2)

/-- A twenty-sided die in a mode: the faces thrown, and the one that counts. -/
def d20 (mode : Mode) (dice : Dice) : (List Nat × Nat) × Dice :=
  let first := dice.die 20
  let second := first.2.die 20
  match mode with
  | .normal => (([first.1], first.1), first.2)
  | .advantage => (([first.1, second.1], max first.1 second.1), second.2)
  | .disadvantage => (([first.1, second.1], min first.1 second.1), second.2)

/-! ### Faces lie on the die -/

theorem faceOf_pos (word : UInt32) (sides : Nat) : 1 ≤ faceOf word sides := by simp [faceOf]

theorem faceOf_le {sides : Nat} (word : UInt32) (h : 1 ≤ sides) : faceOf word sides ≤ sides := by
  have small : word.toNat < UInt32.size := word.toNat_lt_size
  have product : word.toNat * sides < UInt32.size * sides := Nat.mul_lt_mul_of_pos_right small h
  have quotient : word.toNat * sides / UInt32.size < sides := Nat.div_lt_of_lt_mul product
  unfold faceOf
  omega

theorem drawFace_pos (sides attempts : Nat) (stream : Keystream) :
    1 ≤ (drawFace sides attempts stream).1 := by
  induction attempts generalizing stream with
  | zero => exact faceOf_pos _ _
  | succ attempts ih =>
    unfold drawFace
    split
    · exact faceOf_pos _ _
    · exact ih _

theorem drawFace_le {sides : Nat} (h : 1 ≤ sides) (attempts : Nat) (stream : Keystream) :
    (drawFace sides attempts stream).1 ≤ sides := by
  induction attempts generalizing stream with
  | zero => exact faceOf_le _ h
  | succ attempts ih =>
    unfold drawFace
    split
    · exact faceOf_le _ h
    · exact ih _

theorem die_pos (sides : Nat) (dice : Dice) : 1 ≤ (dice.die sides).1 := by
  cases dice with
  | seeded stream => exact drawFace_pos _ _ _
  | scripted faces drawn =>
    simp only [die]
    split
    · exact Nat.le_refl 1
    · exact Nat.le_max_left 1 _

theorem die_le (sides : Nat) (dice : Dice) : (dice.die sides).1 ≤ max sides 1 := by
  cases dice with
  | seeded stream => exact drawFace_le (Nat.le_max_right _ _) _ _
  | scripted faces drawn =>
    simp only [die]
    split
    · exact Nat.le_max_right _ _
    · exact Nat.max_le.2 ⟨Nat.le_max_right _ _, Nat.min_le_right _ _⟩

@[simp] theorem length_pool (sides count : Nat) (dice : Dice) :
    (dice.pool sides count).1.length = count := by
  induction count generalizing dice with
  | zero => rfl
  | succ count ih => simp [pool, ih]

end Dice

end Tabletop
