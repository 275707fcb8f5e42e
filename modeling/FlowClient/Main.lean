import FlowClient.Program.Stages

/-! The program itself. It reads its configuration, keeps the clock and writes its log
and its answers. Sockets are beyond it: every server is out of its reach. -/

open FlowClient

namespace FlowClient.Main

def complain (error : ArgumentError) : IO UInt32 := do
  IO.print error.output
  IO.eprint error.complaint
  return error.exitCode

def readContents (path : String) : IO (Except FileProblem ByteArray) := do
  try
    return .ok (← IO.FS.readBinFile path)
  catch
    | .noFileOrDirectory _ _ _ => return .error .missing
    | .inappropriateType _ _ _ => return .error .directory
    | error => return .error (.other (toString error))

def sleepUntil (time : Nat) : IO Unit := do
  let now ← IO.monoMsNow
  if now < time then IO.sleep (time - now).toUInt32

partial def follow (level : LogLevel) (program : Program) : IO Ending := do
  let now ← IO.monoMsNow
  let (program, need) := program.advance now
  let (program, lines) := program.takeLog
  for line in lines do
    if line.isShown level then IO.eprintln line.text
  match need with
  | .nothing ending => return ending
  | .exchange server exchange =>
      sleepUntil exchange.earliest
      follow level (program.answered server (← IO.monoMsNow) (.error .noNetwork))
  | .time limit =>
      sleepUntil (limit.getD (now + 1000))
      follow level program

def run (arguments : Arguments) : IO UInt32 := do
  let level := effectiveLevel arguments.logLevel (← IO.getEnv "SUITELINK_LOG")
  let contents ← readContents arguments.config
  let ending ← follow level (.start arguments contents (← IO.monoMsNow))
  for line in ending.lines do IO.println line
  if let some complaint := ending.complaint then IO.eprint complaint
  return ending.exitCode

end FlowClient.Main

def main (arguments : List String) : IO UInt32 := do
  match Arguments.read arguments with
  | .ok arguments => FlowClient.Main.run arguments
  | .error error => FlowClient.Main.complain error
