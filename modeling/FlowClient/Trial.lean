import FlowClient.Registry
import FlowClient.ScriptedServer

/-! Trials: live sessions that talk to scripted servers, under a clock of their own.
Whatever can happen happens before the clock moves on. -/

namespace FlowClient

/-! ## One session -/

structure Trial where
  live : LiveSession
  server : ScriptedServer := {}

namespace Trial

def start (options : SessionOptions) (server : ScriptedServer) (now : Nat) : Trial :=
  { live := .start options now, server }

/-- Carry out what the worker does to the connection. -/
def perform (server : ScriptedServer) : ConnectionAction → ScriptedServer
  | .send request => server.receive request
  | .setCredential credential => server.setCredential credential
  | .release => server.giveUp

def connect? (trial : Trial) : Option Trial :=
  if trial.live.worker.actions.isEmpty then none
  else some {
    live := { trial.live with worker := trial.live.worker.withoutActions }
    server := trial.live.worker.actions.foldl perform trial.server }

def serve? (trial : Trial) : Option Trial :=
  trial.server.answer?.map fun (server, outcome) =>
    { live := trial.live.finish outcome, server }

def step? (now : Nat) (trial : Trial) : Option Trial :=
  trial.connect? <|> trial.serve? <|>
    (trial.live.step? now).map fun live => { trial with live }

/-- Let things happen until nothing more can, but no more than a given number. -/
def settleFor (now : Nat) : Nat → Trial → Trial
  | 0, trial => trial
  | steps + 1, trial =>
      match trial.step? now with
      | some next => settleFor now steps next
      | none => trial

def settle (now : Nat) (trial : Trial) : Trial := settleFor now settlingSteps trial

end Trial

/-- Where a clock that is to reach a time stops next. -/
def nextStop (now later : Nat) : Option Nat → Nat
  | some deadline => if now < deadline then min later deadline else later
  | none => later

namespace Trial

/-- Let the clock run up to a time, stopping wherever the timer is due. -/
def advance : Nat → Nat → Nat → Trial → Trial
  | 0, _, later, trial => trial.settle later
  | ticks + 1, now, later, trial =>
      if later ≤ now then trial.settle now
      else
        let trial := trial.settle now
        let stop := nextStop now later trial.live.deadline?
        advance ticks stop later trial

end Trial

/-! ## Several sessions -/

/-- A registry whose sessions talk to scripted servers, by name. -/
structure RegistryTrial where
  registry : Registry := {}
  servers : Table ScriptedServer := .empty

namespace RegistryTrial

def mapTrials (change : Trial → Trial) (trial : RegistryTrial) : RegistryTrial :=
  let changed (sessions : Table LiveSession) : Table Trial :=
    sessions.mapValues fun name live =>
      change { live, server := (trial.servers.get? name).getD {} }
  let sessions := changed trial.registry.sessions
  let leaving := changed trial.registry.leaving
  let serversOf (trials : Table Trial) : List (String × ScriptedServer) :=
    trials.entries.map fun (name, trial) => (name, trial.server)
  { registry := { trial.registry with
      sessions := sessions.mapValues fun _ trial => trial.live
      leaving := leaving.mapValues fun _ trial => trial.live }
    servers := (trial.servers.insertAll (serversOf leaving)).insertAll (serversOf sessions) }

def settle (now : Nat) (trial : RegistryTrial) : RegistryTrial :=
  trial.mapTrials (·.settle now)

/-- Let the clock run up to a time. The sessions do not concern each other, so
each may do so by itself. -/
def advance (now later : Nat) (trial : RegistryTrial) : RegistryTrial :=
  trial.mapTrials (·.advance (later - now) now later)

/-- Take a command as far as it goes in a number of steps, letting the sessions
work whenever it has to wait. -/
def commandFor (now : Nat) : Nat → CommandRun → RegistryTrial →
    RegistryTrial × Option (Except ClientError (List SessionTask))
  | 0, _, trial => (trial, none)
  | steps + 1, run, trial =>
      match run.progress with
      | .done result => (trial, some result)
      | _ =>
          match trial.registry.stepCommand? run with
          | some (registry, run) => commandFor now steps run { trial with registry }
          | none => commandFor now steps run (trial.settle now)

def command (now : Nat) (run : CommandRun) (trial : RegistryTrial) :
    RegistryTrial × Option (Except ClientError (List SessionTask)) :=
  commandFor now settlingSteps run trial

end RegistryTrial

end FlowClient
