import TileAdventure.Control.Key
import TileAdventure.Control.Pointer
import TileAdventure.Decimal.Numeral
import TileAdventure.Text.Blank

/-!
# Commands

A command is a line of words: its name, in capitals or small letters, and its arguments.
`Command.parse` reads one and depends on the words alone. A line without words is no
command.
-/

namespace TileAdventure

/-- What the player asks for. -/
inductive Command where
  | help
  | quit
  | keyDown (key : Key)
  | keyUp (key : Key)
  /-- Hold an arrow for one evaluation of the input. -/
  | press (direction : Direction)
  | touch (point : Point)
  | drag (point : Point)
  | lift
  | tick (elapsed : Float)
  | confirm
  | state
  | inventory

/-- What is wrong with a command's arguments. -/
inductive ArgumentError where
  | unexpected (count : Nat)
  | missing (name : String)
  | wrongCount (expected count : Nat)
  | badCoordinate (word : String)
  | badDirection (word : String)
  | badDuration (word : String)
  deriving DecidableEq, Repr

/-- The error in words. -/
def ArgumentError.message : ArgumentError → String
  | unexpected count => "expected no arguments, got " ++ toString count
  | missing name => "missing required argument <" ++ name ++ ">"
  | wrongCount expected count =>
    "expected " ++ toString expected ++ (if expected = 1 then " argument" else " arguments")
      ++ ", got " ++ toString count
  | badCoordinate word => "invalid coordinate '" ++ word ++ "' (expected f32)"
  | badDirection word => "invalid direction '" ++ word ++ "'"
  | badDuration word => "invalid duration '" ++ word ++ "' (expected non-negative f64)"

/-- Why a line is no command. -/
inductive CommandError where
  | unknown (name : String)
  | badArguments (error : ArgumentError) (usage : String)
  deriving DecidableEq, Repr

/-- The error in words. -/
def CommandError.message : CommandError → String
  | unknown name => "error: unknown command '" ++ name ++ "'. try: help"
  | badArguments error usage => "error: " ++ error.message ++ ". usage: " ++ usage

/-- A word of a command line. -/
abbrev Word := List Char

namespace Command

/-! ## Arguments -/

/-- No arguments. -/
def noArguments (command : Command) (args : List Word) : Except ArgumentError Command :=
  if args.isEmpty then .ok command else .error (.unexpected args.length)

/-- The one argument, called `name`. -/
def oneArgument (name : String) : List Word → Except ArgumentError Word
  | [word] => .ok word
  | [] => .error (.missing name)
  | args => .error (.wrongCount 1 args.length)

/-- The key that a word names: an arrow by its direction, or any key by its identifier. -/
def key (word : Word) : Key :=
  match String.ofList (Text.lower word) with
  | "left" => .arrow .left
  | "right" => .arrow .right
  | "up" => .arrow .up
  | "down" => .arrow .down
  | _ => .ofIdentifier (String.ofList word)

/-- The direction of the arrow that a word names. -/
def direction (word : Word) : Except ArgumentError Direction :=
  match (key word).direction? with
  | some direction => .ok direction
  | none => .error (.badDirection (String.ofList word))

/-- A coordinate. -/
def coordinate (word : Word) : Except ArgumentError Float32 :=
  match Decimal.Numeral.read? word with
  | some n => .ok n.toSingle
  | none => .error (.badCoordinate (String.ofList word))

/-- Two coordinates. -/
def point : List Word → Except ArgumentError Point
  | [x, y] => do
    let x ← coordinate x
    let y ← coordinate y
    return ⟨x, y⟩
  | args => .error (.wrongCount 2 args.length)

/-- A finite time that is not negative. -/
def duration (word : Word) : Except ArgumentError Float :=
  match (Decimal.Numeral.read? word).map Decimal.Numeral.toDouble with
  | some x =>
    if x.isFinite && 0 ≤ x then .ok x else .error (.badDuration (String.ofList word))
  | none => .error (.badDuration (String.ofList word))

/-! ## Forms -/

/-- A form of command. -/
structure Form where
  name : String
  help : String
  /-- The arguments as the help shows them. -/
  arguments : String
  /-- The whole form as an error shows it. -/
  usage : String
  read : List Word → Except ArgumentError Command

/-- The forms of command, in the order of the help. -/
def forms : List Form :=
  [⟨"help", "List commands", "", "help", noArguments .help⟩,
    ⟨"down", "Hold a key", "<key>", "down <key>",
      fun args => (oneArgument "key" args).map fun word => .keyDown (key word)⟩,
    ⟨"up", "Release a key", "<key>", "up <key>",
      fun args => (oneArgument "key" args).map fun word => .keyUp (key word)⟩,
    ⟨"press", "Hold an arrow for one input tick", "<left|right|up|down>",
      "press <left|right|up|down>",
      fun args => (oneArgument "direction" args >>= direction).map .press⟩,
    ⟨"pointer-down", "Touch at a point", "<x:f32> <y:f32>", "pointer-down <x> <y>",
      fun args => (point args).map .touch⟩,
    ⟨"pointer-move", "Drag to a point", "<x:f32> <y:f32>", "pointer-move <x> <y>",
      fun args => (point args).map .drag⟩,
    ⟨"pointer-up", "Lift the pointer", "", "pointer-up", noArguments .lift⟩,
    ⟨"tick", "Advance the clock", "<ms:f64>", "tick <ms>",
      fun args => (oneArgument "ms" args >>= duration).map .tick⟩,
    ⟨"confirm", "Confirm the showing dialog", "", "confirm", noArguments .confirm⟩,
    ⟨"state", "Print the session state as JSON", "", "state", noArguments .state⟩,
    ⟨"inventory", "Print held items and their counts", "", "inventory",
      noArguments .inventory⟩,
    ⟨"quit", "End the session", "", "quit", noArguments .quit⟩]

/-- The help on a form. -/
def Form.helpLine (form : Form) : String :=
  form.name ++ (if form.arguments = "" then "" else " " ++ form.arguments) ++ " - " ++ form.help

/-- The help on all forms. -/
def helpLines : List String :=
  forms.map Form.helpLine

/-- The command of the given words, if there are any. -/
def ofWords : List Word → Except CommandError (Option Command)
  | [] => .ok none
  | name :: args =>
    match forms.find? (·.name = String.ofList (Text.lower name)) with
    | none => .error (.unknown (String.ofList name))
    | some form => ((form.read args).map some).mapError (.badArguments · form.usage)

/-- The command of a line, if it has any words. -/
def parse (line : String) : Except CommandError (Option Command) :=
  ofWords (Text.words line.toList)

end Command

end TileAdventure
