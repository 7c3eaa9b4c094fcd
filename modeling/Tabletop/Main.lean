import Tabletop.CommandLine.Run

/-!
# Tabletop — Main

The program: the files that the command line names are read, the command line is answered, and the
answer is printed.
-/

open Tabletop CommandLine

/-- The bytes of those files of some paths that can be read. -/
def readAll (paths : List String) : IO Files := do
  let mut files : Files := []
  for path in paths do
    try
      files := (path, ← IO.FS.readBinFile path) :: files
    catch _ => pure ()
  return files

/-- A random seed. -/
def randomSeed : IO Nat := return (← IO.getRandomBytes 8).toUInt64LE!.toNat

/-- Answers a command line. -/
def main (words : List String) : IO UInt32 := do
  let paths := match Request.read words with
    | .ok request => request.paths
    | .error _ => []
  let answer := run words (← readAll paths) (← randomSeed)
  IO.print answer.output
  if let some complaint := answer.complaint then IO.eprintln s!"Error: {complaint}"
  if answer.exit = 2 then IO.eprint usageText
  return answer.exit.toUInt32
