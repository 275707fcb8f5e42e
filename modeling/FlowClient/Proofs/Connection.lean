import FlowClient.Client
import FlowClient.Proofs.Tables
import FlowClient.Proofs.Wire.RoundTrip
import Mathlib.Data.List.Induction

/-! A connection at work. A session sets its credential, or sends a request over it and then waits
for what comes of that. Which credential and which cursor an envelope carries can be read off what
was set and what came back before, and for each request one envelope goes out. -/

namespace FlowClient

/-! ## What a request comes to -/

/-- A failure that stands for an error in a reply. -/
structure Failure.Reports (failure : Failure) (error : ServerError) : Prop where
  message : failure.message = error.message
  authentication : failure.cause = .authentication ↔ error.kind = .authenticationFailed
  rejected : error.kind ≠ .authenticationFailed → failure.cause = .rejected error.kind

theorem Failure.reports_ofServerError (error : ServerError) :
    (Failure.ofServerError error).Reports error := by
  rcases error with ⟨kind, message⟩
  cases kind <;> constructor <;> simp [ofServerError]

/-- What a session is told of an exchange, by what came of that. -/
structure Outcome.Concludes (throwOnError : Bool) (came result : Outcome) : Prop where
  fails_iff : (∃ failure, result = .error failure) ↔
    (∃ failure, came = .error failure) ∨
      throwOnError = true ∧ ∃ reply error, came = .ok reply ∧ reply.error = some error
  failed : ∀ failure, came = .error failure → result = .error failure
  refused : ∀ reply error failure, came = .ok reply → reply.error = some error →
    result = .error failure → failure.Reports error
  replied : ∀ reply, result = .ok reply → came = .ok reply

namespace Connection

theorem concludes_receive (connection : Connection) (now : Nat) (came : Outcome) :
    Outcome.Concludes connection.settings.throwOnError came (connection.receive now came).2 := by
  cases came with
  | error failure => constructor <;> simp [receive]
  | ok reply =>
      cases refusal : reply.error with
      | none => constructor <;> simp [receive, refusal]
      | some error =>
          cases throws : connection.settings.throwOnError with
          | false => constructor <;> simp [receive, refusal, throws]
          | true =>
              have told : (connection.receive now (.ok reply)).2 =
                  .error (Failure.ofServerError error) := by simp [receive, refusal, throws]
              rw [told]
              refine ⟨by simp [refusal], by simp, ?_, by simp⟩
              intro other given failure same isGiven fails
              obtain rfl := Except.ok.inj same
              obtain rfl := Option.some.inj (refusal.symm.trans isGiven)
              obtain rfl := Except.error.inj fails
              exact Failure.reports_ofServerError error

/-- The connection keeps the cursor of a reply whatever else the reply says, and passes on
no other reply. -/
theorem receive_ok (connection : Connection) (now : Nat) (reply : Reply) :
    (connection.receive now (.ok reply)).1.cursor = reply.cursor.getD connection.cursor ∧
      ∀ used, (connection.receive now (.ok reply)).2 = .ok used → used = reply := by
  simp only [receive]
  split
  · split <;> simp
  · simp [eq_comm]

theorem receive_keeps (connection : Connection) (now : Nat) (came : Outcome) :
    (connection.receive now came).1.settings = connection.settings ∧
      (connection.receive now came).1.credential = connection.credential := by
  cases came with
  | error failure => exact ⟨rfl, rfl⟩
  | ok reply =>
      simp only [receive]
      split
      · split <;> exact ⟨rfl, rfl⟩
      · exact ⟨rfl, rfl⟩

end Connection

/-! ## Moves -/

namespace Link

inductive Move where
  /-- The session turns to its connection. -/
  | call (action : ConnectionAction)
  /-- The attempt at the request that is out comes to something. -/
  | answer (now : Nat) (came : Outcome)

/-- Something that was seen of a link. -/
inductive Entry where
  | called (action : ConnectionAction)
  /-- An envelope went out, something came of that, and the session was told a result. -/
  | exchanged (envelope : Envelope) (came result : Outcome)

/-- A link, and what was seen of it so far. -/
structure Traced where
  link : Link
  log : List Entry := []

namespace Traced

/-- The link of a session that is new. -/
def start (settings : ConnectionSettings) (credential : Credential) : Traced where
  link := { connection := { settings, credential } }

def called (traced : Traced) (action : ConnectionAction) : Traced where
  link := traced.link.perform action
  log := traced.log ++ [.called action]

def answered (traced : Traced) (request : Request) (now : Nat) (came : Outcome) : Traced where
  link := { connection := (traced.link.connection.receive now came).1 }
  log := traced.log ++ [.exchanged (traced.link.connection.envelope request) came
    (traced.link.connection.receive now came).2]

/-- A session that waits for a request does nothing else with its connection. -/
def move (traced : Traced) : Move → Traced
  | .call action =>
      match traced.link.request with
      | none => traced.called action
      | some _ => traced
  | .answer now came =>
      match traced.link.request with
      | some request => traced.answered request now came
      | none => traced

def moveAll (traced : Traced) (moves : List Move) : Traced := moves.foldl move traced

@[simp] theorem moveAll_nil (traced : Traced) : traced.moveAll [] = traced := rfl

@[simp] theorem moveAll_concat (traced : Traced) (moves : List Move) (move : Move) :
    traced.moveAll (moves ++ [move]) = (traced.moveAll moves).move move := by
  simp [moveAll]

/-- What a move can come to. -/
inductive Moves (traced : Traced) : Traced → Prop
  | stays : Moves traced traced
  | calls (free : traced.link.request = none) (action : ConnectionAction) :
      Moves traced (traced.called action)
  | answers {request : Request} (out : traced.link.request = some request) (now : Nat)
      (came : Outcome) : Moves traced (traced.answered request now came)

theorem moves_move (traced : Traced) (move : Move) : traced.Moves (traced.move move) := by
  cases move with
  | call action =>
      rw [Traced.move]
      split
      · exact .calls ‹_› action
      · exact .stays
  | answer now came =>
      rw [Traced.move]
      split
      · exact .answers ‹_› now came
      · exact .stays

/-- That a link goes on, whatever it is told. -/
structure Responds (traced : Traced) : Prop where
  /-- Nothing is refused to a session that does not wait. -/
  calls : traced.link.request = none → ∀ action,
    (traced.move (.call action)).link = traced.link.perform action ∧
      (traced.move (.call action)).log = traced.log ++ [.called action]
  /-- Whatever comes of a request that is out, that is the end of it. -/
  answers : ∀ request now came, traced.link.request = some request →
    (traced.move (.answer now came)).link.request = none ∧
      ∃ result, (traced.move (.answer now came)).log = traced.log ++
        [.exchanged (traced.link.connection.envelope request) came result]

theorem responds (traced : Traced) : traced.Responds where
  calls free action := by
    rw [move, free]
    exact ⟨rfl, rfl⟩
  answers request now came out := by
    rw [move, out]
    exact ⟨rfl, _, rfl⟩

end Traced

/-! ## What the past requires -/

/-- The credential that is set. -/
def Entry.credential? : Entry → Option Credential
  | called (.setCredential credential) => some credential
  | _ => none

/-- The cursor that a reply carries, whatever else it says and whatever was asked. -/
def Entry.cursor? : Entry → Option Cursor
  | exchanged _ (.ok reply) _ => reply.cursor
  | _ => none

def lastCredential (initial : Credential) (log : List Entry) : Credential :=
  (log.filterMap Entry.credential?).getLastD initial

def lastCursor (log : List Entry) : Cursor := (log.filterMap Entry.cursor?).getLastD {}

/-- The envelope in which a request has to go out. A reset begins anew. -/
def due (initial : Credential) (log : List Entry) (request : Request) : Envelope where
  credential := lastCredential initial log
  cursor := match request with
    | .reset _ _ => {}
    | _ => lastCursor log
  request := request

theorem getLastD_filterMap_concat {α β : Type} (f : α → Option β) (initial : β) (values : List α)
    (value : α) : ((values ++ [value]).filterMap f).getLastD initial =
      (f value).getD ((values.filterMap f).getLastD initial) := by
  rw [List.filterMap_append]
  cases given : f value <;> simp [given]

theorem lastCredential_concat (initial : Credential) (log : List Entry) (entry : Entry) :
    lastCredential initial (log ++ [entry]) =
      entry.credential?.getD (lastCredential initial log) :=
  getLastD_filterMap_concat _ _ _ _

theorem lastCursor_concat (log : List Entry) (entry : Entry) :
    lastCursor (log ++ [entry]) = entry.cursor?.getD (lastCursor log) :=
  getLastD_filterMap_concat _ _ _ _

/-! ## One move -/

/-- What a connection holds, by what was seen of it. -/
structure Tracks (initial : Credential) (throwOnError : Bool) (traced : Traced) : Prop where
  throwOnError : traced.link.connection.settings.throwOnError = throwOnError
  credential : traced.link.connection.credential = lastCredential initial traced.log
  cursor : traced.link.connection.cursor = lastCursor traced.log
  /-- A request that is out was sent last. -/
  asked : ∀ request, traced.link.request = some request →
    ∃ earlier, traced.log = earlier ++ [.called (.send request)]

variable {initial : Credential} {throwOnError : Bool} {traced after : Traced}

theorem Tracks.envelope (tracks : Tracks initial throwOnError traced) (request : Request) :
    traced.link.connection.envelope request = due initial traced.log request := by
  cases request <;> simp [Connection.envelope, due, tracks.credential, tracks.cursor]

theorem cursor_receive (connection : Connection) (now : Nat) (envelope : Envelope)
    (came result : Outcome) : (connection.receive now came).1.cursor =
      (Entry.exchanged envelope came result).cursor?.getD connection.cursor := by
  cases came with
  | error failure => rfl
  | ok reply => exact (connection.receive_ok now reply).1

theorem tracks_called (tracks : Tracks initial throwOnError traced)
    (free : traced.link.request = none) (action : ConnectionAction) :
    Tracks initial throwOnError (traced.called action) := by
  have cursor := (lastCursor_concat traced.log (.called action)).symm
  have credential := (lastCredential_concat initial traced.log (.called action)).symm
  cases action with
  | send request =>
      refine ⟨tracks.throwOnError, tracks.credential.trans credential,
        tracks.cursor.trans cursor, ?_⟩
      rintro sent ⟨⟩
      exact ⟨traced.log, rfl⟩
  | setCredential other =>
      refine ⟨tracks.throwOnError, credential, tracks.cursor.trans cursor, ?_⟩
      intro request out
      cases free.symm.trans out
  | release =>
      refine ⟨tracks.throwOnError, tracks.credential.trans credential,
        tracks.cursor.trans cursor, ?_⟩
      intro request out
      cases free.symm.trans out

theorem tracks_answered (tracks : Tracks initial throwOnError traced) (request : Request)
    (now : Nat) (came : Outcome) :
    Tracks initial throwOnError (traced.answered request now came) := by
  obtain ⟨settings, credential⟩ := traced.link.connection.receive_keeps now came
  refine ⟨?_, ?_, ?_, nofun⟩
  · exact (congrArg ConnectionSettings.throwOnError settings).trans tracks.throwOnError
  · rw [Traced.answered, lastCredential_concat]
    exact credential.trans tracks.credential
  · rw [Traced.answered, lastCursor_concat, ← tracks.cursor]
    exact cursor_receive _ _ _ _ _

theorem tracks_of_moves (tracks : Tracks initial throwOnError traced)
    (moves : traced.Moves after) : Tracks initial throwOnError after := by
  cases moves with
  | stays => exact tracks
  | calls free action => exact tracks_called tracks free action
  | answers out now came => exact tracks_answered tracks _ now came

/-! ## A whole run -/

/-- What holds of a run of a connection that began with a credential. -/
structure Disciplined (initial : Credential) (throwOnError : Bool) (traced : Traced) : Prop where
  /-- A request that was sent is out, or its exchange followed at once. Either way its envelope
  is the one that was due. -/
  sent : ∀ before request after, traced.log = before ++ .called (.send request) :: after →
    after = [] ∧ traced.link.request = some request ∧
        traced.link.connection.envelope request = due initial before request ∨
      ∃ came result rest, after = .exchanged (due initial before request) came result :: rest ∧
        Outcome.Concludes throwOnError came result
  /-- Nothing goes out but for a request that was sent just before. -/
  exchanged : ∀ before envelope came result after,
    traced.log = before ++ .exchanged envelope came result :: after →
      ∃ earlier request, before = earlier ++ [.called (.send request)]
  responds : traced.Responds

/-- Where something stands in a list that was extended: at its end, or where it was. -/
theorem split_concat {α : Type} {values before after : List α} {last value : α}
    (split : values ++ [last] = before ++ value :: after) :
    (after = [] ∧ before = values ∧ value = last) ∨
      ∃ rest, after = rest ++ [last] ∧ values = before ++ value :: rest := by
  rcases after.eq_nil_or_concat' with rfl | ⟨rest, final, rfl⟩
  · obtain ⟨rfl, same⟩ := List.append_inj' split rfl
    exact .inl ⟨rfl, rfl, (List.singleton_inj.mp same).symm⟩
  · rw [← List.cons_append, ← List.append_assoc] at split
    obtain ⟨rfl, same⟩ := List.append_inj' split rfl
    obtain rfl := List.singleton_inj.mp same
    exact .inr ⟨rest, rfl, rfl⟩

theorem disciplined_called (tracks : Tracks initial throwOnError traced)
    (disciplined : Disciplined initial throwOnError traced)
    (free : traced.link.request = none) (action : ConnectionAction) :
    Disciplined initial throwOnError (traced.called action) := by
  refine ⟨?_, ?_, Traced.responds _⟩
  · intro before request after split
    rcases split_concat split with ⟨rfl, rfl, same⟩ | ⟨rest, rfl, earlier⟩
    · obtain rfl : ConnectionAction.send request = action := Entry.called.inj same
      exact .inl ⟨rfl, rfl, tracks.envelope request⟩
    · rcases disciplined.sent _ _ _ earlier with ⟨-, out, -⟩ | ⟨came, result, others, rfl, told⟩
      · cases free.symm.trans out
      · exact .inr ⟨came, result, others ++ [.called action], rfl, told⟩
  · intro before envelope came result after split
    rcases split_concat split with ⟨-, -, same⟩ | ⟨rest, -, earlier⟩
    · cases same
    · exact disciplined.exchanged _ _ _ _ _ earlier

theorem disciplined_answered (tracks : Tracks initial throwOnError traced)
    (disciplined : Disciplined initial throwOnError traced) {request : Request}
    (out : traced.link.request = some request) (now : Nat) (came : Outcome) :
    Disciplined initial throwOnError (traced.answered request now came) := by
  have told : Outcome.Concludes throwOnError came (traced.link.connection.receive now came).2 :=
    tracks.throwOnError ▸ traced.link.connection.concludes_receive now came
  refine ⟨?_, ?_, Traced.responds _⟩
  · intro before sent after split
    rcases split_concat split with ⟨-, -, same⟩ | ⟨rest, rfl, earlier⟩
    · cases same
    · right
      rcases disciplined.sent _ _ _ earlier with
        ⟨rfl, waits, envelope⟩ | ⟨other, result, others, rfl, concludes⟩
      · obtain rfl : request = sent := Option.some.inj (out.symm.trans waits)
        rw [envelope]
        exact ⟨came, _, [], rfl, told⟩
      · exact ⟨other, result, _, rfl, concludes⟩
  · intro before envelope other result after split
    rcases split_concat split with ⟨-, rfl, -⟩ | ⟨rest, -, earlier⟩
    · obtain ⟨earlier, last⟩ := tracks.asked request out
      exact ⟨earlier, request, last⟩
    · exact disciplined.exchanged _ _ _ _ _ earlier

theorem disciplined_of_moves (tracks : Tracks initial throwOnError traced)
    (disciplined : Disciplined initial throwOnError traced) (moves : traced.Moves after) :
    Disciplined initial throwOnError after := by
  cases moves with
  | stays => exact disciplined
  | calls free action => exact disciplined_called tracks disciplined free action
  | answers out now came => exact disciplined_answered tracks disciplined out now came

theorem tracks_moveAll (settings : ConnectionSettings) (initial : Credential)
    (moves : List Move) :
    Tracks initial settings.throwOnError ((Traced.start settings initial).moveAll moves) := by
  induction moves using List.reverseRecOn with
  | nil => exact ⟨rfl, rfl, rfl, nofun⟩
  | append_singleton moves move tracks =>
      rw [Traced.moveAll_concat]
      exact tracks_of_moves tracks (Traced.moves_move _ move)

/-- In any run each request goes out once, under the credential that was set last and from the
point of the last cursor that came, and the session is told just what came of it. -/
theorem disciplined_moveAll (settings : ConnectionSettings) (initial : Credential)
    (moves : List Move) :
    Disciplined initial settings.throwOnError
      ((Traced.start settings initial).moveAll moves) := by
  induction moves using List.reverseRecOn with
  | nil => exact ⟨by simp [Traced.start], by simp [Traced.start], Traced.responds _⟩
  | append_singleton moves move disciplined =>
      rw [Traced.moveAll_concat]
      exact disciplined_of_moves (tracks_moveAll settings initial moves) disciplined
        (Traced.moves_move _ move)

/-- The cursor of a reply counts for the next request, also when the reply says that the request
was refused. -/
example : ((Traced.start { host := "host", port := "3141" } (.token "secret")).moveAll [
    .call (.send .sync),
    .answer 0 (.ok { error := some ⟨.notFound, "no /s1"⟩, cursor := some ⟨7, 3, 1⟩ }),
    .call (.send .news)]).link.connection.envelope .news = ⟨.token "secret", ⟨7, 3, 1⟩, .news⟩ :=
  rfl

end Link

/-! ## The links of a client -/

namespace Client

variable {client : Client} {name : String} {link : Link} {live : LiveSession} {now : Nat}

/-- A client that takes in what came for a session moves its link so. -/
theorem get?_links_answered (session : client.find? name = some live)
    (linked : client.links.get? name = some link) (now : Nat)
    (answer : Except TransportError String) :
    (client.answered name now answer).links.get? name =
      some (Link.Traced.move { link }
        (.answer now (outcomeOf link.connection.settings answer))).link := by
  rcases link with ⟨connection, _ | request⟩
  · simp [answered, session, linked, Link.Traced.move]
  · simp only [answered, session, linked, Connection.answered, Link.Traced.move]
    split <;> simp [note, Link.Traced.answered]

/-- The line that a client has to send is read as the envelope of the request that is out. -/
theorem line_of_exchange? {exchange : Exchange}
    (asked : client.exchange? now = some (name, exchange)) :
    ∃ link request, client.links.get? name = some link ∧ link.request = some request ∧
      ofLine? Envelope.reader exchange.line = some (link.connection.envelope request) := by
  obtain ⟨⟨other, link⟩, member, found⟩ := List.exists_of_findSome?_eq_some asked
  obtain ⟨request, out, same⟩ := Option.map_eq_some_iff.mp found
  obtain ⟨rfl, rfl⟩ := Prod.mk.inj same
  exact ⟨link, request, (Entries.mem_iff_get? client.links.ordered _ _).mp member, out,
    Connection.exchange_line _ _ _⟩

end Client

end FlowClient
