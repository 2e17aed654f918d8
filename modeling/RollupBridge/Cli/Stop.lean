namespace RollupBridge.Cli

/-- Why a command line is not run. -/
inductive Stop
  /-- The help text is asked for. -/
  | help
  /-- The version is asked for. -/
  | version
  /-- Nothing at all is given. -/
  | nothingGiven
  | missingCommand
  | unknownCommand
  | missingArgument
  | unknownArgument
  | repeatedArgument
  /-- A flag is given a value. -/
  | unexpectedValue
  /-- An argument has no value, or none of the values it may have. -/
  | invalidValue
  /-- A value does not read as what it should be. -/
  | refusedValue
  /-- Reading a value ends the process. -/
  | aborted
deriving DecidableEq

/-- The exit code: asking for help or the version succeeds. -/
def Stop.exitCode : Stop → Nat
  | .help => 0
  | .version => 0
  | .aborted => 101
  | _ => 2

/-- What is said about a command line that is not run. -/
def Stop.message : Stop → Option String
  | .help => none
  | .version => none
  | .nothingGiven => some "a command is required"
  | .missingCommand => some "a command is required"
  | .unknownCommand => some "there is no such command"
  | .missingArgument => some "a required argument is missing"
  | .unknownArgument => some "there is no such argument"
  | .repeatedArgument => some "an argument is given twice"
  | .unexpectedValue => some "a flag is given a value"
  | .invalidValue => some "an argument has none of the values it may have"
  | .refusedValue => some "the value of an argument is malformed"
  | .aborted => some "the value of an argument cannot be read"

end RollupBridge.Cli
