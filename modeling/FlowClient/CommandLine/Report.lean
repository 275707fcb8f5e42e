import FlowClient.CommandLine
import FlowClient.Json

/-! Arguments as JSON, for tools that look into a client. -/

namespace FlowClient

def Subcommand.report (subcommand : Subcommand) : Json :=
  let named (name : String) (fields : List (String × Json)) :=
    Json.object (("command", .string name) :: fields)
  match subcommand with
  | run server node tokens => named "run" [
      ("server", .string server),
      ("node", Json.ofOption .string node),
      ("tokens", Json.ofTexts tokens)]
  | watch server => named "watch" [("server", Json.ofOption .string server)]
  | suites server => named "suites" [("server", .string server)]
  | file server node kind => named "file" [
      ("server", .string server),
      ("node", .string node),
      ("kind", .string kind.name)]
  | check => named "check" []

def Arguments.report (arguments : Arguments) : Json :=
  .object [
    ("config", .string arguments.config),
    ("log_level", Json.ofOption (fun level => .string (LogLevel.name level).capitalize)
      arguments.logLevel),
    ("tracing_level", Json.ofOption (fun level => .string (LogLevel.title level))
      arguments.logLevel),
    ("run", arguments.subcommand.report)]

end FlowClient
