import TileAdventure.Console.Program

/-!
# The command line

`main` plays the world of the file named by the first argument, or else by the environment,
with commands from standard input.
-/

namespace TileAdventure.Console

/-- What the process's environment sets. -/
def readEnvironment : IO Environment := do
  return {
    seed := ← IO.getEnv "TILEPLAY_SEED"
    inputInterval := ← IO.getEnv "TILEPLAY_INPUT_INTERVAL_MS"
    pageChars := ← IO.getEnv "TILEPLAY_DIALOG_PAGE_CHARS" }

/-- A word nobody chose. -/
def freshWord : IO UInt32 := do
  let bytes ← IO.getRandomBytes 4
  return bytes.foldl (fun n b => n <<< 8 ||| b.toUInt32) 0

/-- A row of words nobody chose. -/
def freshRow : IO Random.Row := do
  return ⟨← freshWord, ← freshWord, ← freshWord, ← freshWord⟩

/-- A seed nobody chose. -/
def freshSeed : IO Random.Seed := do
  return .key ⟨← freshRow, ← freshRow⟩

/-- The next line of the input after the bytes of `line`, without its end. -/
partial def readLine (input : IO.FS.Stream) (line : List UInt8) : IO (Option (List UInt8)) := do
  match (← input.read 1).toList with
  | [] => return if line.isEmpty then none else some line.reverse
  | b :: _ => if b = 0x0A then return some line.reverse else readLine input (b :: line)

/-- Print lines at once. -/
def print (lines : List String) : IO Unit := do
  for line in lines do
    IO.println line
  (← IO.getStdout).flush

/-- Print the rest of a run that needs no more input. -/
def finish (t : Transcript) : IO UInt32 := do
  print t.printed
  return UInt32.ofNat t.ending.exitCode

/-- Answer the lines of the input as they come. -/
partial def play (s : Session) (input : IO.FS.Stream) : IO UInt32 := do
  match ← readLine input [] with
  | none => finish (.ofSummary s)
  | some bytes =>
    match lineText? bytes with
    | none => finish ⟨[], .failure⟩
    | some line =>
      match answerLine s line with
      | (lines, .proceed s) =>
        print lines
        play s input
      | (lines, .quit s) => finish ((Transcript.ofSummary s).after lines)
      | (lines, .crash) => finish ⟨lines, .crash⟩

/-- The text of a file, if it can be read. -/
def readFile? (path : String) : IO (Option String) := do
  try
    return some (← IO.FS.readFile path)
  catch _ => return none

end TileAdventure.Console

open TileAdventure Console in
/-- Play a world from the command line. -/
def main (args : List String) : IO UInt32 := do
  let settings := Settings.ofEnvironment (← readEnvironment) (← freshSeed)
  match args.head?.or (← IO.getEnv "TILEPLAY_WORLD") with
  | none =>
    IO.eprintln "no world file given: pass a path or set TILEPLAY_WORLD"
    return 1
  | some path =>
    match (← readFile? path).bind (begin? settings) with
    | none =>
      IO.eprintln "the world file cannot be played"
      return 1
    | some s => play s (← IO.getStdin)
