import FlowClient.Session

/-! Filling the mirror and keeping it up to date: loading everything anew, filling
it from the definition at hand, and following the changes node by node. -/

namespace FlowClient.Session

/-! ## Contact -/

def contactGained (session : Session) : Session :=
  if session.contact = .normal then session else session.setContact .normal

/-- The server could not be reached. Whoever is disconnected stays so. -/
def contactLost (session : Session) (reason : String) : Session :=
  if session.contact = .disconnected then session
  else session.setContact (.lost (some reason))

/-! ## The mirror -/

/-- Empty the mirror. An empty one needs no announcement. -/
def clearTree (session : Session) : Session :=
  if session.mirror.isEmpty then session
  else
    let session := session.announce .clearBegin
    { session with mirror := session.mirror.clear }.announce .clearEnd

def scan (session : Session) : Session × Except MirrorError Unit :=
  let (mirror, extent) := session.mirror.beginScan session.definition session.filter
  let session := { session with mirror }.announce (.scanBegin extent)
  let session := { session with mirror := session.mirror.endScan }
  let checked := session.mirror.checkScan extent
  (session.announce .scanEnd, checked)

/-- Fill the mirror anew from the definition at hand. -/
def rescan (session : Session) : Session × Except MirrorError Unit :=
  let session := (session.setActivity .rescanning).stopTimer
  let session := { session with queue := session.queue.suspend }.clearTree
  let (session, checked) := session.scan
  let session := { session with queue := session.queue.start }.restartTimer
  (session.setActivity .idle, checked)

/-! ## Resets -/

/-- The variable under which the server's name in the client is kept. -/
def viewerVariable : String := "nameInViewer"

def stampServer (session : Session) : Session :=
  let definition := session.definition.setVariable viewerVariable session.options.name
  let server := { definition.server with
    endpoint := some (session.options.host, session.options.port) }
  { session with definition := { definition with server } }

/-- Drop everything and ask for the whole definition. This is not done twice at
a time, and not while nothing may be sent. -/
def reset (session : Session) : Session :=
  if session.queue.state = .reset then session
  else if session.contact = .disconnected || session.shuttingDown then session
  else
    let session := session.stopTimer
    let session := { session with queue := session.queue.suspend }.clearTree
    let session := session.setActivity .loading
    let (session, id) := session.enter
      (Task.reset session.filter.registered session.filter.autoAddNew)
    { session with queue := (session.queue.reset id).1 }

def resetFinished (session : Session) : Session × Except MirrorError Unit :=
  let (session, checked) := (session.setActivity .idle).stampServer.scan
  (session.contactGained.restartTimer, checked)

/-- The definition could not be had. A later poll may still find the server. -/
def resetFailed (session : Session) (reason : String) : Session :=
  let session := { session with contact := .lost (some reason) }.setActivity .idle
  (session.announce (.contactChanged (.lost (some reason)))).restartTimer

/-! ## Changes -/

/-- Follow one change in the mirror. A change of the tree's shape empties it, so
that it is filled anew. -/
def nodeChanged (session : Session) (update : NodeUpdate) :
    Session × Except MirrorError Unit :=
  if update.isServer then (session.announce (.definitionChanged update.aspects), .ok ())
  else if update.isStructural then (session.clearTree, .ok ())
  else if session.mirror.isEmpty then (session, .ok ())
  else match session.mirror.beginUpdate update.path {} with
    | .error problem => (session, .error problem)
    | .ok change =>
        if change.ignore then (session, .ok ())
        else
          let session := session.announce
            (.nodeChangeBegin update.path update.aspects change)
          match session.mirror.endUpdate update change with
          | .error problem => (session, .error problem)
          | .ok (mirror, change) =>
              ({ session with mirror }.announce
                (.nodeChangeEnd update.path update.aspects change), .ok ())

/-- Fold one change into the definition and follow it in the mirror. A mirror
that no longer matches the definition is emptied. -/
def applyChange (session : Session) (update : NodeUpdate) : Session :=
  let session := { session with definition := session.definition.updated update }
  match session.nodeChanged update with
  | (session, .ok ()) => session
  | (session, .error _) => session.clearTree

/-- Take over the definition of a reply that replaces it. -/
def takeDefinition (session : Session) (reply : Reply) : Session :=
  if reply.fullSync then
    match reply.definition with
    | some definition => { session with definition }.stampServer
    | none => session
  else session

def applySync (session : Session) (reply : Reply) : Session :=
  reply.changes.foldl applyChange (session.takeDefinition reply)

end FlowClient.Session
