import RollupBridge.Cli.Args

namespace RollupBridge.Cli

/-- The least important events that are logged. -/
inductive LogFilter
  | off
  | error
  | warn
  | info
  | debug
  | trace
deriving DecidableEq

namespace LogFilter

def ofVerbosity : Nat → LogFilter
  | 0 => .off
  | 1 => .error
  | 2 => .warn
  | 3 => .info
  | 4 => .debug
  | _ => .trace

def name : LogFilter → String
  | .off => "off"
  | .error => "error"
  | .warn => "warn"
  | .info => "info"
  | .debug => "debug"
  | .trace => "trace"

end LogFilter

inductive LogFormat
  | full
  | compact
  | json
deriving DecidableEq

def LogFormat.names : List (String × LogFormat) :=
  [("full", .full), ("compact", .compact), ("json", .json)]

def LogFormat.name : LogFormat → String
  | .full => "full"
  | .compact => "compact"
  | .json => "json"

structure LogOptions where
  verbosity : Uint 8
  isQuiet : Bool
  format : LogFormat
deriving DecidableEq

namespace LogOptions

def args : Args LogOptions :=
  LogOptions.mk
    <$> Args.count "verbose" 'v' Reader.signedUint 3 (some "BRIDGE_LOG_LEVEL")
    <*> Args.flag "quiet" (some 'q')
    <*> Args.withDefault "log-format" (Reader.choice LogFormat.names) .full (some "BRIDGE_LOG_FORMAT")

def filter (options : LogOptions) : LogFilter := .ofVerbosity options.verbosity.toNat

/-- The format of what is logged to the standard output, if anything is. -/
def output (options : LogOptions) : Option LogFormat :=
  if options.isQuiet then none else some options.format

end LogOptions

end RollupBridge.Cli
