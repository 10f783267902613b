import TileAdventure.Console.Command
import TileAdventure.Json.Writer
import TileAdventure.Session.Input
import TileAdventure.World.Document

/-!
# The console program

The program plays a world by commands, one on a line. It answers each with the lines of the
dialog and its replies, and at the end prints what the session came to. `transcript` is the
whole run on a given input.
-/

namespace TileAdventure.Console

/-! ## Settings -/

/-- What the environment may set, as given there. -/
structure Environment where
  seed : Option String
  inputInterval : Option String
  pageChars : Option String

/-- How to play. -/
structure Settings where
  config : Config
  /-- How many characters of a dialog go on a page. -/
  pageChars : Nat

/-- The size of a page unless given otherwise. -/
def defaultPageChars : Nat := 64

/-- A setting without the blanks around it. -/
def setting (raw : Option String) : Option (List Char) :=
  raw.map fun s => Text.trim s.toList

/-- The settings of an environment, where what cannot be read or used is ignored. Without a
number as a seed the shuffles take `fresh`. -/
def Settings.ofEnvironment (env : Environment) (fresh : Random.Seed) : Settings :=
  let seed := (setting env.seed).bind Decimal.readNatural?
  let interval := ((setting env.inputInterval).bind Decimal.Numeral.read?).map (·.toDouble)
  let pageChars := (setting env.pageChars).bind Decimal.readNatural?
  { config := {
      Config.default with
      seed := (seed.map fun n => .number (UInt64.ofNat n)).getD fresh
      inputInterval := (interval.filter (0 < ·)).getD Config.default.inputInterval }
    pageChars := (pageChars.filter (0 < ·)).getD defaultPageChars }

/-! ## Replies -/

/-- The outcome of a move in words. -/
def describeMove : MoveResult → String
  | .moved enteredRoom =>
    "Committed \x7b room_changed: " ++ (if enteredRoom then "true" else "false") ++ " \x7d"
  | .blocked => "Blocked"
  | .leftWorld => "BoundaryRejected"

/-- A tick in words. -/
def describeTick (report : TickReport) : String :=
  "frame " ++ toString report.frame ++ (report.move.map (" " ++ describeMove ·)).getD ""

/-- The items held, one on a line. -/
def describeInventory (inv : Inventory) : String :=
  match inv.counts.filter fun (_, n) => 0 < n with
  | [] => "(empty)"
  | held => String.intercalate "\n" (held.map fun (item, n) => item ++ " " ++ toString n)

/-- A summary in words. -/
def describeSummary (s : Session) : String :=
  s.summary.toJson.compact

/-! ## Commands -/

/-- The replies to a command, unless it fails, and the session after it. -/
abbrev Reply := Except Halt (List String) × Session

/-- Report a tick. -/
def reportTick (result : Except Halt TickReport × Session) : Reply :=
  (result.1.map fun report => [describeTick report], result.2)

/-- Say nothing. -/
def silently (result : Except Halt Unit × Session) : Reply :=
  (result.1.map fun _ => [], result.2)

/-- Hold a key, let the input be evaluated, and release the key. If the key goes to a dialog
and that fails, the rest is left. -/
def press (s : Session) (key : Key) : Reply :=
  match s.handle (.keyDown key false) with
  | (.error halt, s) => (.error halt, s)
  | (.ok _, s) =>
    match s.tick 0 with
    | (.error .lostPlace, s) => (.error .lostPlace, s)
    | (ticked, s) =>
      match s.handle (.keyUp key) with
      | (.error halt, s) => (.error halt, s)
      | (.ok _, s) => reportTick (ticked, s)

/-- Carry out a command. -/
def apply (s : Session) : Command → Reply
  | .help => (.ok Command.helpLines, s)
  | .quit => (.ok [], s)
  | .keyDown key => silently (s.handle (.keyDown key false))
  | .keyUp key => silently (s.handle (.keyUp key))
  | .press direction => press s (.arrow direction)
  | .touch point => silently (s.handle (.touch point))
  | .drag point => silently (s.handle (.drag point))
  | .lift => silently (s.handle .lift)
  | .tick elapsed => reportTick (s.tick elapsed)
  | .confirm => silently s.confirm
  | .state => (.ok [describeSummary s], s)
  | .inventory => (.ok [describeInventory s.game.state.inventory], s)

/-- How the program goes on. -/
inductive Next where
  | proceed (s : Session)
  | quit (s : Session)
  /-- A sequence has lost its place. -/
  | crash

/-- Answer a command: what it printed, the dialog's lines first, and how to go on. -/
def answer (s : Session) (command : Command) : List String × Next :=
  let print (s : Session) (replies : List String) :=
    let (notices, s) := s.takeLog
    (notices.filterMap Notice.line? ++ replies, Next.proceed s)
  match command with
  | .quit => ([], .quit s)
  | command =>
    match apply s command with
    | (.ok replies, s) => print s replies
    | (.error (.failed f), s) => print s ["error: " ++ f.message]
    | (.error .lostPlace, _) => ([], .crash)

/-- Answer a line. -/
def answerLine (s : Session) (line : String) : List String × Next :=
  match Command.parse line with
  | .ok none => ([], .proceed s)
  | .ok (some command) => answer s command
  | .error e => ([e.message], .proceed s)

/-! ## Runs -/

/-- The lines of an input. The last one need not end. -/
def inputLines (bytes : List UInt8) : List (List UInt8) :=
  let pieces := bytes.splitOn 0x0A
  if pieces.getLast? = some [] then pieces.dropLast else pieces

/-- The text of a line, if it is UTF-8. -/
def lineText? (bytes : List UInt8) : Option String :=
  String.fromUTF8? ⟨bytes.toArray⟩

/-- How a run ends. -/
inductive Ending where
  | success
  /-- There is no world to play, or a line is not UTF-8. -/
  | failure
  | crash
  deriving DecidableEq, Repr

/-- The exit code of an ending. -/
def Ending.exitCode : Ending → Nat
  | success => 0
  | failure => 1
  | crash => 101

/-- A run: what it printed, and how it ended. -/
structure Transcript where
  printed : List String
  ending : Ending
  deriving DecidableEq, Repr

namespace Transcript

/-- Print `lines` first. -/
def after (lines : List String) (t : Transcript) : Transcript :=
  { t with printed := lines ++ t.printed }

/-- Print what the session came to. -/
def ofSummary (s : Session) : Transcript :=
  ⟨[describeSummary s], .success⟩

/-- The rest of a run on the given lines. -/
def ofLines (s : Session) : List (List UInt8) → Transcript
  | [] => ofSummary s
  | bytes :: rest =>
    match lineText? bytes with
    | none => ⟨[], .failure⟩
    | some line =>
      match answerLine s line with
      | (lines, .proceed s) => (ofLines s rest).after lines
      | (lines, .quit s) => (ofSummary s).after lines
      | (lines, .crash) => ⟨lines, .crash⟩

/-- The text that the run printed. -/
def text (t : Transcript) : String :=
  String.join (t.printed.map (· ++ "\n"))

end Transcript

/-- A session in the world of a document, if it is one and can be entered. -/
def begin? (settings : Settings) (document : String) : Option Session := do
  let world ← (World.load document).toOption
  (Session.start world settings.config (.ofPageChars settings.pageChars)).toOption

/-- The whole run on an input, given the world's document if there is one. -/
def transcript (settings : Settings) (document : Option String) (input : List UInt8) :
    Transcript :=
  match document.bind (begin? settings) with
  | none => ⟨[], .failure⟩
  | some s => .ofLines s (inputLines input)

end TileAdventure.Console
