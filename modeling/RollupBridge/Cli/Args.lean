import RollupBridge.Cli.Reader

namespace RollupBridge.Cli

inductive Form
  /-- A text in its place. -/
  | operand
  /-- Its name and a text. -/
  | value
  /-- Its name, once. -/
  | flag
  /-- Its name, as often as wanted. -/
  | count
  | help
  | version
deriving DecidableEq

/-- An argument that may be given, also by an environment variable. -/
structure Slot where
  form : Form
  name : String
  letter : Option Char := none
  env : Option String := none
  check : String → Except Stop Unit := fun _ => .ok ()

namespace Slot

/-- True for an argument given by a name and a text. -/
def takesValue (slot : Slot) : Bool := slot.form = .value

/-- True for an argument that is given by its name. -/
def isNamed (slot : Slot) : Bool := slot.form ≠ .operand

end Slot

/-- The text of an argument that is given, by the command line or else by its variable. -/
structure Setting where
  text : String
  isExplicit : Bool
deriving DecidableEq

/-- What is given, by the names of the arguments. -/
abbrev Settings := List (String × Setting)

namespace Settings

/-- True if an argument is given. -/
def has (settings : Settings) (name : String) : Bool := (settings.lookup name).isSome

/-- The value of an argument, if it is given. -/
def get? {α : Type} (settings : Settings) (name : String) (read : Reader α) :
    Except Stop (Option α) :=
  match settings.lookup name with
  | none => .ok none
  | some setting => some <$> read setting.text

end Settings

/-- What may be given on a command line, and how a record of options is built from it. The two are
kept together, so that whatever can be given is read, and the other way round. -/
structure Args (α : Type) where
  slots : List Slot
  build : Settings → Except Stop α

namespace Args

variable {α β : Type}

instance : Applicative Args where
  pure a := ⟨[], fun _ => .ok a⟩
  map f x := ⟨x.slots, fun settings => f <$> x.build settings⟩
  seq f x :=
    let x := x ()
    ⟨f.slots ++ x.slots, fun settings => do return (← f.build settings) (← x.build settings)⟩

/-- An argument without its value. -/
def checked (read : Reader α) : String → Except Stop Unit := fun text => do discard (read text)

/-- A value that may be absent. -/
def optional (name : String) (read : Reader α) (env : Option String := none) : Args (Option α) :=
  ⟨[{ form := .value, name, env, check := checked read }], fun settings => settings.get? name read⟩

def withDefault (name : String) (read : Reader α) (default : α) (env : Option String := none) :
    Args α :=
  (fun value => value.getD default) <$> optional name read env

/-- The value of an argument that must be given. -/
def require (settings : Settings) (name : String) (read : Reader α) : Except Stop α := do
  match ← settings.get? name read with
  | some value => return value
  | none => .error .missingArgument

/-- A value that must be given. -/
def required (name : String) (read : Reader α) (env : Option String := none) : Args α :=
  ⟨[{ form := .value, name, env, check := checked read }], fun settings => require settings name read⟩

/-- A text in its place, which must be given. -/
def operand (name : String) (read : Reader α) : Args α :=
  ⟨[{ form := .operand, name, check := checked read }], fun settings => require settings name read⟩

def flag (name : String) (letter : Option Char := none) : Args Bool :=
  ⟨[{ form := .flag, name, letter }], fun settings => .ok (settings.has name)⟩

/-- A flag that is counted, up to the most that `read` takes. -/
def count (name : String) (letter : Char) (read : Reader α) (default : α) (env : Option String) :
    Args α :=
  ⟨[{ form := .count, name, letter := some letter, env, check := checked read }], fun settings => do
    return (← settings.get? name read).getD default⟩

end Args

end RollupBridge.Cli
