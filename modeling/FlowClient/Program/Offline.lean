import FlowClient.Program.Stages

/-! Runs on a machine without a network, under a clock of their own: every server is
out of reach, time passes at once, and whoever only watches stops watching as soon
as nothing more happens by itself. -/

namespace FlowClient

structure Transcript where
  ending : Ending
  log : List LogLine
deriving DecidableEq

namespace Program

def offlineFor : Nat → Nat → Program → List LogLine → Option Transcript
  | 0, _, _, _ => none
  | needs + 1, now, program, log =>
      let (program, need) := program.advance now
      let (program, lines) := program.takeLog
      let log := log ++ lines
      match need with
      | .nothing ending => some { ending, log }
      | .exchange server exchange =>
          let now := max now exchange.earliest
          offlineFor needs now (program.answered server now (.error .noNetwork)) log
      | .time limit =>
          if program.isWatching then offlineFor needs now program.interrupted log
          else limit.bind fun later => offlineFor needs (max now later) program log

/-- Follow a run to its end. There is none if it waits for what never comes. -/
def offline (program : Program) : Option Transcript :=
  offlineFor settlingSteps 0 program []

end Program

def Transcript.shown (transcript : Transcript) (level : LogLevel) : List LogLine :=
  transcript.log.filter (·.isShown level)

end FlowClient
