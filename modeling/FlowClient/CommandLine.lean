import FlowClient.Config.Document
import FlowClient.Event
import FlowClient.Text.Blank
import FlowClient.Text.Unsigned
import FlowClient.Wire

/-! The command line. Options stand before the tokens they concern: those of the
client before the subcommand, those of a subcommand behind it. The value of an
option is looked at when the next option, token or the end shows that no more
belongs to it, and a subcommand is read before the options in front of it are
looked at; which of two mistakes is told depends on that. -/

namespace FlowClient

/-! ## What is asked for -/

inductive Subcommand where
  | run (server : String) (node : Option String) (tokens : List String)
  | watch (server : Option String)
  | suites (server : String)
  | file (server node : String) (kind : FileKind)
  | check
deriving DecidableEq, Repr

structure Arguments where
  config : String
  logLevel : Option LogLevel
  subcommand : Subcommand
deriving DecidableEq, Repr

inductive ArgumentError where
  | displayHelp
  | displayVersion
  | displayHelpForNothing
  | invalidValue
  | unknownArgument
  | invalidSubcommand
  | missingSubcommand
  | missingRequired
  | conflict
  | tooManyValues
deriving DecidableEq, Repr

namespace ArgumentError

def title : ArgumentError → String
  | displayHelp => "DisplayHelp"
  | displayVersion => "DisplayVersion"
  | displayHelpForNothing => "DisplayHelpOnMissingArgumentOrSubcommand"
  | invalidValue => "InvalidValue"
  | unknownArgument => "UnknownArgument"
  | invalidSubcommand => "InvalidSubcommand"
  | missingSubcommand => "MissingSubcommand"
  | missingRequired => "MissingRequiredArgument"
  | conflict => "ArgumentConflict"
  | tooManyValues => "TooManyValues"

/-- The exit code of a program that cannot go on. Help that was asked for is no
mistake. -/
def exitCode : ArgumentError → UInt32
  | displayHelp => 0
  | displayVersion => 0
  | _ => 2

/-- How the program is used. -/
def usage : String :=
  "Talk to workflow servers: run commands, fetch files, follow state changes.\n\n" ++
  "Usage: suitelink [--config <PATH>] [--log-level <LEVEL>] <COMMAND>\n\n" ++
  "Commands:\n" ++
  "  run     --server <NAME> [--node <PATH>] <TOKENS>...\n" ++
  "  watch   [--server <NAME>]\n" ++
  "  suites  --server <NAME>\n" ++
  "  file    --server <NAME> --node <PATH> [--kind <KIND>]\n" ++
  "  check\n"

def output : ArgumentError → String
  | displayHelp => usage
  | displayVersion => "suitelink 0.1.0\n"
  | _ => ""

def complaint : ArgumentError → String
  | displayHelp => ""
  | displayVersion => ""
  | displayHelpForNothing => usage
  | error => s!"error: {error.title}\n\nFor more information, try '--help'.\n"

end ArgumentError

/-! ## What there is -/

/-- An option that takes a value, and the values it may take if not all. -/
structure OptionRule where
  name : String
  choices : Option (List String) := none

def OptionRule.accepts (rule : OptionRule) (value : String) : Bool :=
  rule.choices.all (·.contains value)

/-- What may stand behind a program's name, or behind that of a subcommand. -/
structure CommandRules where
  options : List OptionRule := []
  subcommands : List String := []
  hasVersion : Bool := false
  /-- Whether tokens may follow; from the first on all is taken as it stands. -/
  takesTokens : Bool := false

namespace CommandRules

def option? (rules : CommandRules) (name : String) : Option OptionRule :=
  rules.options.find? (·.name == name)

/-- The flags and the single letters for them, with what they ask for. -/
def flag? (rules : CommandRules) (name : String) : Option ArgumentError :=
  if name = "help" then some .displayHelp
  else if name = "version" && rules.hasVersion then some .displayVersion
  else none

def letter? (rules : CommandRules) (letter : Char) : Option ArgumentError :=
  if letter = 'h' then some .displayHelp
  else if letter = 'V' && rules.hasVersion then some .displayVersion
  else none

end CommandRules

/-! ## Reading -/

structure ArgumentScan where
  values : Table String := .empty
  /-- An option whose value was not looked at yet, or has not come. -/
  pending : Option (OptionRule × Option String) := none
  tokens : List String := []
  trailing : Bool := false

namespace ArgumentScan

/-- Whether the next argument is the value of an option. -/
def awaitsValue (scan : ArgumentScan) : Bool := scan.pending.any (·.2.isNone)

def settle (scan : ArgumentScan) (rule : OptionRule) (value : Option String) :
    Except ArgumentError ArgumentScan :=
  match value with
  | none => .error .invalidValue
  | some value =>
      if scan.values.contains rule.name then .error .conflict
      else if rule.accepts value then
        .ok { scan with values := scan.values.insert rule.name value }
      else .error .invalidValue

def resolve (scan : ArgumentScan) : Except ArgumentError ArgumentScan :=
  match scan.pending with
  | none => .ok scan
  | some (rule, value) => settle { scan with pending := none } rule value

/-- The mistake in what is pending, or else the given one. -/
def orPending (scan : ArgumentScan) (error : ArgumentError) : ArgumentError :=
  match scan.resolve with
  | .error pending => pending
  | .ok _ => error

end ArgumentScan

/-- What an argument is, by its form. -/
inductive ArgumentForm where
  | divider
  | long (name : String) (value : Option String)
  | letters (letters : List Char)
  | plain
deriving DecidableEq, Repr

def ArgumentForm.of (argument : String) : ArgumentForm :=
  match argument.toList with
  | ['-', '-'] => .divider
  | '-' :: '-' :: rest =>
      let name := rest.takeWhile (· != '=')
      let value := match rest.drop name.length with
        | _ :: value => some (String.ofList value)
        | [] => none
      .long (String.ofList name) value
  | '-' :: letter :: rest => .letters (letter :: rest)
  | _ => .plain

/-- What an argument that may be an option comes to. -/
inductive OptionReading where
  | taken (scan : ArgumentScan)
  | other

/-- Read an argument that has the form of an option. -/
def readOption (rules : CommandRules) (scan : ArgumentScan) :
    ArgumentForm → Except ArgumentError OptionReading
  | .long name value =>
      match rules.option? name, value with
      | some rule, some value => do
          let scan ← scan.resolve
          let scan ← scan.settle rule (some value)
          .ok (.taken scan)
      | some rule, none => do
          let scan ← scan.resolve
          .ok (.taken { scan with pending := some (rule, none) })
      | none, _ =>
          match rules.flag? name, value with
          | some _, some _ => .error .tooManyValues
          | some asked, none => .error (scan.orPending asked)
          | none, _ => if rules.takesTokens then .ok .other else .error .unknownArgument
  | .letters letters =>
      if rules.takesTokens && letters.any (fun letter => (rules.letter? letter).isNone) then
        .ok .other
      else match letters.head?.bind rules.letter? with
        | some asked => .error (scan.orPending asked)
        | none => .error .unknownArgument
  | _ => .ok .other

def strayError (rules : CommandRules) (trailing : Bool) (argument : String) : ArgumentError :=
  if trailing && rules.subcommands.contains argument then .unknownArgument
  else if rules.subcommands.isEmpty then .unknownArgument
  else .invalidSubcommand

def scanArguments (rules : CommandRules) :
    List String → ArgumentScan →
      Except ArgumentError (ArgumentScan × Option (String × List String))
  | [], scan => .ok (scan, none)
  | argument :: rest, scan => do
      if scan.trailing then
        if rules.takesTokens then
          let scan ← scan.resolve
          scanArguments rules rest { scan with tokens := scan.tokens ++ [argument] }
        else .error (strayError rules true argument)
      else if !scan.awaitsValue && rules.subcommands.contains argument then
        .ok (scan, some (argument, rest))
      else
        let form := ArgumentForm.of argument
        if form = .divider then scanArguments rules rest { scan with trailing := true }
        else match ← readOption rules scan form with
          | .taken scan => scanArguments rules rest scan
          | .other =>
              match scan.pending with
              | some (rule, none) =>
                  scanArguments rules rest
                    { scan with pending := some (rule, some argument) }
              | _ =>
                  if rules.takesTokens then
                    let scan ← scan.resolve
                    scanArguments rules rest
                      { scan with tokens := scan.tokens ++ [argument], trailing := true }
                  else .error (strayError rules false argument)

def scanAll (rules : CommandRules) (arguments : List String) :
    Except ArgumentError ArgumentScan := do
  let (scan, _) ← scanArguments rules arguments {}
  scan.resolve

/-! ## The client -/

def LogLevel.name : LogLevel → String
  | error => "error"
  | warn => "warn"
  | info => "info"
  | debug => "debug"
  | trace => "trace"

def LogLevel.ofName? (name : String) : Option LogLevel := all.find? (fun level => level.name == name)

def clientRules : CommandRules where
  options := [
    { name := "config" },
    { name := "log-level", choices := some (LogLevel.all.map LogLevel.name) }]
  subcommands := ["run", "watch", "suites", "file", "check", "help"]
  hasVersion := true

def serverOption : OptionRule := { name := "server" }
def nodeOption : OptionRule := { name := "node" }

/-- An argument without which a subcommand means nothing. -/
def requiredValue (scan : ArgumentScan) (name : String) : Except ArgumentError String :=
  match scan.values.get? name with
  | some value => .ok value
  | none => .error .missingRequired

def readSubcommand (name : String) (arguments : List String) :
    Except ArgumentError Subcommand :=
  match name with
  | "run" => do
      let scan ← scanAll { options := [serverOption, nodeOption], takesTokens := true } arguments
      let server ← requiredValue scan "server"
      if scan.tokens.isEmpty then .error .missingRequired
      else .ok (.run server (scan.values.get? "node") scan.tokens)
  | "watch" => do
      let scan ← scanAll { options := [serverOption] } arguments
      .ok (.watch (scan.values.get? "server"))
  | "suites" => do
      let scan ← scanAll { options := [serverOption] } arguments
      (requiredValue scan "server").map .suites
  | "file" => do
      let kindOption : OptionRule :=
        { name := "kind", choices := some (FileKind.all.map FileKind.name) }
      let scan ← scanAll { options := [serverOption, nodeOption, kindOption] } arguments
      let server ← requiredValue scan "server"
      let node ← requiredValue scan "node"
      let kind := ((scan.values.get? "kind").bind FileKind.ofName?).getD .script
      .ok (.file server node kind)
  | "check" => do
      let _ ← scanAll {} arguments
      .ok .check
  | _ =>
      -- Behind `help` stands at most one name, or its own and nothing else.
      match arguments with
      | [] => .error .displayHelp
      | [topic] =>
          if clientRules.subcommands.contains topic then .error .displayHelp
          else .error .invalidSubcommand
      | _ => .error .invalidSubcommand

def Arguments.read (arguments : List String) : Except ArgumentError Arguments := do
  let (scan, found) ← scanArguments clientRules arguments {}
  match found with
  | some (name, rest) =>
      let subcommand ← readSubcommand name rest
      let scan ← scan.resolve
      .ok {
        config := (scan.values.get? "config").getD defaultConfigPath
        logLevel := (scan.values.get? "log-level").bind LogLevel.ofName?
        subcommand }
  | none =>
      let scan ← scan.resolve
      .error (if scan.values.isEmpty then .displayHelpForNothing else .missingSubcommand)

/-! ## The log level -/

/-- The level that a value of the environment names: a word, whatever the case of
its letters, or a number. -/
def LogLevel.ofEnvironment? (value : String) : Option LogLevel :=
  let value := String.ofList ((Text.trim value.toList).map Char.toLower)
  if value = "warning" then some warn
  else ofName? value <|>
    (Text.unsigned? value).bind fun number => all.find? (fun level => level.verbosity == number)

/-- How much is logged: as the command line has it, or else the environment, or
else as usual. -/
def effectiveLevel (asked : Option LogLevel) (environment : Option String) : LogLevel :=
  (asked <|> environment.bind LogLevel.ofEnvironment?).getD .info

end FlowClient
