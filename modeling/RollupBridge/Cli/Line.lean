import RollupBridge.Cli.Args
import RollupBridge.Text.Split

namespace RollupBridge.Cli

/-- A level of the command line so far. An argument that waits has no text until the next one. A
value is checked only when the next argument shows that it is complete, so the first of several
errors is found in that order. -/
structure Level where
  settings : Settings := []
  waiting : Option (Slot × Option String) := none
  operands : Nat := 0

namespace Level

/-- True while the last argument still takes a text. -/
def takesText (level : Level) : Bool := (level.waiting.map fun (_, text) => text.isNone).getD false

def set (level : Level) (name text : String) : Level :=
  { level with settings := (name, ⟨text, true⟩) :: level.settings }

/-- Counts an argument once more, up to 255. -/
def countUp (level : Level) (name : String) : Level :=
  let seen := ((level.settings.lookup name).bind fun s => Decimal.read? s.text.toList).getD 0
  level.set name (Decimal.write (min 255 (seen + 1)))

/-- Takes an argument whose text, if it has one, is complete. -/
def complete (level : Level) (slot : Slot) (text : Option String) : Except Stop Level :=
  match slot.form, text with
  | .help, _ => .error .help
  | .version, _ => .error .version
  | .count, _ => .ok (level.countUp slot.name)
  | .flag, _ =>
    if level.settings.has slot.name then .error .repeatedArgument
    else .ok (level.set slot.name "true")
  | _, none => .error .invalidValue
  | _, some text =>
    if level.settings.has slot.name then .error .repeatedArgument
    else do
      slot.check text
      return level.set slot.name text

/-- Takes the argument that waits. -/
def settle (level : Level) : Except Stop Level :=
  match level.waiting with
  | none => .ok level
  | some (slot, text) => { level with waiting := none }.complete slot text

/-- Takes an argument at once, behind the one that waits. -/
def give (level : Level) (slot : Slot) (text : Option String) : Except Stop Level := do
  (← level.settle).complete slot text

/-- Lets an argument wait. -/
def wait (level : Level) (slot : Slot) (text : Option String) : Except Stop Level := do
  return { ← level.settle with waiting := some (slot, text) }

/-- Takes an argument given by its name, with the text behind the equals sign, if there is one. -/
def giveLong (level : Level) (slots : List Slot) (argument : List Char) : Except Stop Level :=
  let (name, attached) := match Text.splitOnce '=' argument with
    | some (name, text) => (name, some (String.ofList text))
    | none => (argument, none)
  match slots.find? fun slot => slot.isNamed && slot.name.toList == name with
  | none => .error .unknownArgument
  | some slot =>
    if slot.takesValue then
      if attached.isSome then level.give slot attached else level.wait slot none
    else if attached.isSome then .error .unexpectedValue
    else level.give slot none

def giveLetters (level : Level) (slots : List Slot) : List Char → Except Stop Level
  | [] => .ok level
  | letter :: rest => do
    match slots.find? fun slot => slot.letter == some letter with
    | none => .error .unknownArgument
    | some slot => (← level.give slot none).giveLetters slots rest

/-- Takes a text that stands in its place. Without a place for it, it was meant for a command. -/
def giveOperand (level : Level) (slots : List Slot) (commands : List String) (isTrailing : Bool)
    (text : String) : Except Stop Level :=
  match (slots.filter fun slot => slot.form = .operand)[level.operands]? with
  | some slot => { level with operands := level.operands + 1 }.wait slot (some text)
  | none =>
    if commands.isEmpty || (isTrailing && commands.contains text) then .error .unknownArgument
    else .error .unknownCommand

/-- Takes the next argument. Behind two dashes every argument is a text in its place. -/
def take (level : Level) (slots : List Slot) (commands : List String) (isTrailing : Bool)
    (argument : String) : Except Stop Level :=
  if isTrailing then level.giveOperand slots commands true argument
  else match argument.toList with
    | '-' :: '-' :: name => level.giveLong slots name
    | '-' :: letter :: letters => level.giveLetters slots (letter :: letters)
    | _ => match level.waiting with
      | some (slot, none) => .ok { level with waiting := some (slot, some argument) }
      | _ => level.giveOperand slots commands false argument

/-- Takes arguments up to the name of a command, and returns the name and what is behind it. -/
def read (slots : List Slot) (commands : List String) :
    (isTrailing : Bool) → Level → List String → Except Stop (Level × Option (String × List String))
  | _, level, [] => .ok (level, none)
  | isTrailing, level, argument :: rest =>
    if !isTrailing && !level.takesText && commands.contains argument then
      .ok (level, some (argument, rest))
    else if !isTrailing && argument == "--" then read slots commands true level rest
    else do read slots commands isTrailing (← level.take slots commands isTrailing argument) rest

def complement (env : String → Option String) (settings : Settings) (slot : Slot) :
    Except Stop Settings :=
  match slot.env.bind env with
  | none => .ok settings
  | some text =>
    if settings.has slot.name then .ok settings
    else do
      slot.check text
      return (slot.name, ⟨text, false⟩) :: settings

/-- What is given once no argument is left. -/
def finish (level : Level) (slots : List Slot) (env : String → Option String) :
    Except Stop Settings := do
  slots.foldlM (complement env) (← level.settle).settings

end Level

def helpSlot : Slot := { form := .help, name := "help", letter := some 'h' }

def versionSlot : Slot := { form := .version, name := "version", letter := some 'V' }

def helpCommand : String := "help"

/-- What asking for the help of a command comes to. Commands have no commands of their own. -/
def helpOn (commands : List String) : List String → Stop
  | [] => .help
  | [name] => if commands.contains name then .help else .unknownCommand
  | _ => .unknownCommand

/-- What is given for the arguments of both levels. What the command line gives beats what a variable
gives; of two equals the one behind the command wins. -/
def Settings.merge (outer inner : Settings) (name : String) : Settings :=
  match outer.lookup name, inner.lookup name with
  | some a, some b => [(name, if a.isExplicit && !b.isExplicit then a else b)]
  | some a, none => [(name, a)]
  | none, some b => [(name, b)]
  | none, none => []

/-- Reads a command line. The arguments of `shared` may be given at both levels. -/
def readLine {α γ : Type} (shared : Args γ) (commands : List (String × Args α))
    (env : String → Option String) (arguments : List String) : Except Stop (α × γ) := do
  let names := commands.map Prod.fst ++ [helpCommand]
  let (outer, command) ← Level.read (shared.slots ++ [helpSlot, versionSlot]) names false {} arguments
  match command with
  | none =>
    let settings ← outer.finish shared.slots env
    .error (if settings.isEmpty then .nothingGiven else .missingCommand)
  | some (name, rest) =>
    match commands.lookup name with
    | none => .error (helpOn names rest)
    | some args =>
      let slots := args.slots ++ shared.slots
      let (inner, _) ← Level.read (slots ++ [helpSlot]) [] false {} rest
      let inner ← inner.finish slots env
      let value ← args.build inner
      let outer ← outer.finish shared.slots env
      let settings := shared.slots.flatMap fun slot => Settings.merge outer inner slot.name
      return (value, ← shared.build settings)

end RollupBridge.Cli
