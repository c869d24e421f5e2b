import ServerOperator.Config
import ServerOperator.Text.Numeral
import ServerOperator.Text.Terminal

/-!
# The command line

Settings given as arguments, which win over those of the environment. Arguments are read from left to
right. A value that stands apart from its option is looked at when the next option begins or the
arguments end, so an argument that cannot be understood at all is reported before a bad value.
-/

namespace ServerOperator.CommandLine

inductive Setting where
  | metricsPort
  | watchNamespace
  | logFormat
  | maxConcurrentReconciliations
  | resyncIntervalSecs
  deriving DecidableEq, Repr

namespace Setting

def all : List Setting :=
  [metricsPort, watchNamespace, logFormat, maxConcurrentReconciliations, resyncIntervalSecs]

def name : Setting → String
  | metricsPort => "metrics-port"
  | watchNamespace => "watch-namespace"
  | logFormat => "log-format"
  | maxConcurrentReconciliations => "max-concurrent-reconciliations"
  | resyncIntervalSecs => "resync-interval-secs"

def ofName? (s : String) : Option Setting := all.find? (·.name == s)

def placeholder : Setting → String
  | metricsPort => "METRICS_PORT"
  | watchNamespace => "WATCH_NAMESPACE"
  | logFormat => "LOG_FORMAT"
  | maxConcurrentReconciliations => "MAX_CONCURRENT_RECONCILIATIONS"
  | resyncIntervalSecs => "RESYNC_INTERVAL_SECS"

def help : Setting → String
  | metricsPort => "Port for /metrics, /healthz and /readyz"
  | watchNamespace => "Only watch MCPServers in this namespace"
  | logFormat => "Log format: text or json"
  | maxConcurrentReconciliations => "Maximum number of reconciliations running at once"
  | resyncIntervalSecs => "Seconds between resyncs of a converged server"

/-- The option with the place of its value. -/
def usage (s : Setting) : String := "--" ++ s.name ++ " <" ++ s.placeholder ++ ">"

end Setting

/-! ## Errors -/

inductive UsageError where
  | unexpectedArgument (argument : String)
  /-- A flag that takes no value was given one. -/
  | unexpectedValue (flag value : String)
  | missingValue (setting : Setting)
  | repeated (setting : Setting)
  | invalidValue (setting : Setting) (value reason : String)
  deriving DecidableEq, Repr

open Text.Terminal in
/-- The message as a terminal gets it: what was given is highlighted. -/
def UsageError.message : UsageError → String
  | unexpectedArgument a => "error: unexpected argument '" ++ highlighted a ++ "' found"
  | unexpectedValue flag v =>
    "error: unexpected value '" ++ highlighted v ++ "' for '" ++ flag ++ "' found; no more were expected"
  | missingValue s => "error: a value is required for '" ++ s.usage ++ "' but none was supplied"
  | repeated s => "error: the argument '" ++ s.usage ++ "' cannot be used multiple times"
  | invalidValue s v reason =>
    "error: invalid value '" ++ highlighted v ++ "' for '" ++ s.usage ++ "': " ++ reason

/-- What ends the reading of arguments early. -/
inductive Stop where
  | help
  | version
  | usage (error : UsageError)
  deriving DecidableEq, Repr

/-! ## Values -/

/-- The settings that were given. -/
structure Settings where
  metricsPort : Option UInt16 := none
  watchNamespace : Option String := none
  logFormat : Option String := none
  maxConcurrentReconciliations : Option UInt16 := none
  resyncIntervalSecs : Option UInt64 := none
  deriving DecidableEq, Repr

namespace Settings

def has (g : Settings) : Setting → Bool
  | .metricsPort => g.metricsPort.isSome
  | .watchNamespace => g.watchNamespace.isSome
  | .logFormat => g.logFormat.isSome
  | .maxConcurrentReconciliations => g.maxConcurrentReconciliations.isSome
  | .resyncIntervalSecs => g.resyncIntervalSecs.isSome

/-- A 16-bit number is read as a longer one with a sign, and its range checked then. -/
def readUInt16 (value : String) : Except String UInt16 :=
  match Text.readSigned value with
  | .error e => .error e.message
  | .ok n =>
    if 0 ≤ n ∧ n ≤ 65535 then .ok (UInt16.ofNat n.toNat)
    else .error (toString n ++ " is not in 0..=65535")

def readUInt64 (value : String) : Except String UInt64 :=
  match Text.readUnsigned (UInt64.size - 1) value with
  | .error e => .error e.message
  | .ok n => .ok (UInt64.ofNat n)

def read (g : Settings) (s : Setting) (value : String) : Except String Settings :=
  match s with
  | .metricsPort => (readUInt16 value).map fun n => { g with metricsPort := some n }
  | .watchNamespace => .ok { g with watchNamespace := some value }
  | .logFormat => .ok { g with logFormat := some value }
  | .maxConcurrentReconciliations =>
    (readUInt16 value).map fun n => { g with maxConcurrentReconciliations := some n }
  | .resyncIntervalSecs => (readUInt64 value).map fun n => { g with resyncIntervalSecs := some n }

/-- Take the value of a setting that was not given before. -/
def assign (g : Settings) (s : Setting) (value : String) : Except Stop Settings :=
  if g.has s then .error (.usage (.repeated s))
  else
    match g.read s value with
    | .ok g => .ok g
    | .error reason => .error (.usage (.invalidValue s value reason))

/-- The configuration with the given settings in place of its own. -/
def apply (g : Settings) (c : Config) : Config :=
  { c with
    metricsPort := g.metricsPort.getD c.metricsPort
    watchNamespace := g.watchNamespace <|> c.watchNamespace
    logFormat := g.logFormat.getD c.logFormat
    maxConcurrentReconciliations := g.maxConcurrentReconciliations.getD c.maxConcurrentReconciliations
    resyncIntervalSecs := g.resyncIntervalSecs.getD c.resyncIntervalSecs }

end Settings

/-! ## Arguments -/

/-- The forms an argument can have. -/
inductive Argument where
  /-- Two dashes alone: no options follow. -/
  | separator
  | long (name : String) (value : Option String)
  /-- One dash and a letter; more letters do not matter. -/
  | short (letter : Char)
  | plain (text : String)
  deriving DecidableEq, Repr

def Argument.ofString (s : String) : Argument :=
  match s.toList with
  | ['-', '-'] => separator
  | '-' :: '-' :: cs =>
    let value := match cs.dropWhile (· ≠ '=') with
      | '=' :: value => some (String.ofList value)
      | _ => none
    long (String.ofList (cs.takeWhile (· ≠ '='))) value
  | '-' :: c :: _ => short c
  | _ => plain s

/-- What was read so far, and an option whose value was not looked at yet or is still to come. -/
structure State where
  settings : Settings := {}
  pending : Option (Setting × Option String) := none

namespace State

/-- Look at the value of the pending option. -/
def settle (s : State) : Except Stop Settings :=
  match s.pending with
  | none => .ok s.settings
  | some (setting, none) => .error (.usage (.missingValue setting))
  | some (setting, some value) => s.settings.assign setting value

/-- A flag that ends the reading. -/
def flag (s : State) (name : String) (value : Option String) (stop : Stop) : Except Stop State :=
  match value with
  | some v => .error (.usage (.unexpectedValue name v))
  | none => do let _ ← s.settle; .error stop

def take (s : State) : Argument → Except Stop State
  | .separator => .ok s
  | .long "help" value => s.flag "--help" value .help
  | .long "version" value => s.flag "--version" value .version
  | .long name value =>
    match Setting.ofName? name with
    | none => .error (.usage (.unexpectedArgument ("--" ++ name)))
    | some setting => do
      let settings ← s.settle
      match value with
      | some v => return { settings := ← settings.assign setting v }
      | none => return { settings, pending := some (setting, none) }
  | .short 'h' => s.flag "-h" none .help
  | .short 'V' => s.flag "-V" none .version
  | .short c => .error (.usage (.unexpectedArgument (String.ofList ['-', c])))
  | .plain text =>
    match s.pending with
    | some (setting, none) => .ok { s with pending := some (setting, some text) }
    | _ => .error (.usage (.unexpectedArgument text))

end State

/-- After the separator every argument is one too many. -/
def parseFrom (s : State) : List String → Except Stop Settings
  | [] => s.settle
  | argument :: rest =>
    match Argument.ofString argument, rest with
    | .separator, next :: _ => .error (.usage (.unexpectedArgument next))
    | a, _ => do parseFrom (← s.take a) rest

def parse (arguments : List String) : Except Stop Settings := parseFrom {} arguments

/-! ## Texts -/

def programName : String := "mcp-runtime-operator"

def versionText : String := programName ++ " 0.1.0\n"

def usageText : String := "Usage: " ++ programName ++ " [OPTIONS]\n"

def optionText (option help : String) : String := option ++ "\n          " ++ help ++ "\n"

def helpText : String :=
  "MCP runtime operator\n\n" ++ usageText ++ "\nOptions:\n" ++
    String.join (Setting.all.map fun s => optionText ("      " ++ s.usage) s.help) ++
    optionText "  -h, --help" "Print help" ++ optionText "  -V, --version" "Print version"

/-- What is printed of an error when the output is no terminal. -/
def UsageError.text (e : UsageError) : String :=
  Text.Terminal.shown (e.message ++ "\n\n" ++ usageText ++ "\nFor more information, try '--help'.\n")

end ServerOperator.CommandLine
