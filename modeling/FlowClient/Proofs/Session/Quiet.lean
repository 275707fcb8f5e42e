import FlowClient.Proofs.Queue.Outstanding
import FlowClient.Proofs.Session.Dispatch
import FlowClient.Proofs.Session.Released

/-! A session that is left alone becomes quiet. Whatever the server answers, what follows from
a task is nearer to the end than the task was, so a run that only takes steps and brings
tasks back dispatches few of them, and in the end nothing is outstanding. -/

namespace FlowClient.Session

variable {session : Session} {id : TaskId} {kind : TaskKind}

/-! ## What follows from a task -/

/-- A task gets its end, and at most one task follows, from which less follows than from it. -/
def Dwindles (before : Session) (id : TaskId) (kind : TaskKind) (after : Session) : Prop :=
  ∃ ending : Progress, (before.queue.advance id ending).Moves []
    (fun task => task.kind.following < kind.following) after.queue

theorem Dwindles.of_moves (ending : Progress) {after : Session}
    (moves : (session.advance id ending).queue.Moves []
      (fun task => task.kind.following < kind.following) after.queue) :
    session.Dwindles id kind after :=
  ⟨ending, moves⟩

theorem dwindles_of_same (ending : Progress) {after : Session}
    (same : after.queue = session.queue.advance id ending) : session.Dwindles id kind after :=
  ⟨ending, same ▸ .none _⟩

theorem dwindles_recordOnly (session : Session) (id : TaskId) (kind : TaskKind)
    (outcome : Outcome) : session.Dwindles id kind (session.recordOnly id kind outcome) := by
  have same (ending : Progress) (loaded : Bool) :
      (if loaded then (session.advance id ending).setActivity .idle
        else session.advance id ending).finishIfIdle.queue = session.queue.advance id ending := by
    cases loaded <;> simp
  exact dwindles_of_same _ (same _ _)

/-- News are followed by a sync, by a reset, or by nothing. -/
theorem moves_news {made : Task → Prop} (sync : made { kind := .sync })
    (reset : ∀ task, task.kind = .reset → made task) (answer : Option News) :
    session.queue.Moves [] made (session.handleNews answer).queue := by
  have gained : session.contactGained.queue = session.queue := by simp
  rw [← gained]
  unfold handleNews
  match answer with
  | some .news => exact session.contactGained.moves_follow sync nofun
  | some .doFullSync => exact session.contactGained.moves_load (reset _ rfl)
  | some .noNews => exact .none _
  | none => exact .none _

theorem dwindles_syncSucceeded (ends : 0 < kind.following) (reply : Reply) :
    session.Dwindles id kind (session.syncSucceeded id reply) := by
  refine ⟨.finished .nothing, ?_⟩
  simp only [syncSucceeded]
  have advanced : ((session.applySync reply).advance id (.finished .nothing)).queue =
      session.queue.advance id (.finished .nothing) := by simp
  split
  · refine Queue.Adjusts.andMoves ?_ (moves_follow _ ends (by decide))
    simpa using .start .done
  · rw [← advanced]
    exact moves_follow _ ends (by decide)

theorem dwindles_resetSucceeded (ends : 0 < kind.following) (reply : Reply) :
    session.Dwindles id kind (session.resetSucceeded id reply) := by
  refine ⟨.finished .nothing, ?_⟩
  have ordinary : ({ kind := .suiteList } : Task).kind ≠ .reset := by decide
  simpa [resetSucceeded] using Queue.moves_add (session.queue.advance id _) ends ordinary

theorem dwindles_taskSucceeded (session : Session) (id : TaskId) (kind : TaskKind)
    (reply : Reply) : session.Dwindles id kind (session.taskSucceeded id kind reply) := by
  have following : kind.following = kind.onSuccess.following := rfl
  cases use : kind.onSuccess with
  | followNews =>
      rw [use] at following
      have sync : TaskKind.sync.following < kind.following := by rw [following]; decide
      simp only [taskSucceeded, use]
      apply Dwindles.of_moves (.finished (.ofReply .followNews reply))
      apply moves_news sync
      intro task reset
      rw [reset, following]
      decide
  | foldChanges =>
      rw [use] at following
      simp only [taskSucceeded, use]
      exact dwindles_syncSucceeded (by rw [following]; decide) reply
  | loadDefinition =>
      rw [use] at following
      simp only [taskSucceeded, use]
      exact dwindles_resetSucceeded (by rw [following]; decide) reply
  | keepTextAndAskNews =>
      rw [use] at following
      have news : TaskKind.news.following < kind.following := by rw [following]; decide
      simp only [taskSucceeded, use]
      exact .of_moves _ (moves_follow _ news (by decide))
  | takeSuiteList =>
      simp only [taskSucceeded, use]
      exact .of_moves _ (by simpa [updateLoaded] using .none _)
  | _ =>
      simp only [taskSucceeded, use]
      exact dwindles_of_same _ rfl

theorem dwindles_taskFailed (session : Session) (id : TaskId) (kind : TaskKind)
    (failure : Failure) : session.Dwindles id kind (session.taskFailed id kind failure) := by
  apply dwindles_of_same (.aborted failure.text)
  simp only [taskFailed]
  split
  · simp
  · simp
  · split <;> simp

theorem dwindles_complete (flying : session.queue.inFlight = some id)
    (known : session.queue.kind? id = some kind) (outcome : Outcome) :
    (session.takenBack id).Dwindles id kind (session.receive (.complete outcome)) := by
  rw [receive_complete flying, taskCompleted_of_known known]
  split
  · exact dwindles_recordOnly _ id kind outcome
  · cases outcome with
    | ok reply => exact dwindles_taskSucceeded _ id kind reply
    | error failure => exact dwindles_taskFailed _ id kind failure

/-! ## Runs without calls -/

/-- What comes back leaves no more to come than there was. -/
theorem toCome_complete (sound : session.queue.Sound) (outcome : Outcome) :
    (session.receive (.complete outcome)).queue.toCome ≤ session.queue.toCome := by
  cases flying : session.queue.inFlight with
  | none => rw [receive_complete_none flying]
  | some id =>
      rcases sound.inFlight_known id flying with ⟨kind, known⟩
      rcases dwindles_complete flying known outcome with ⟨ending, moves⟩
      have back := sound.complete flying
      have advanced := back.toCome_advance id ending
      have followed := (back.advance id ending).toCome_move moves
      have left := Queue.toCome_complete flying
      rw [Queue.following_of_kind? known] at left
      omega

/-- Each dispatch of a turn that is no call is one of those that were to come. -/
theorem toCome_receive (coherent : session.Coherent) (input : Input)
    (uncalled : input.isCall = false) :
    (Turn.dispatched ⟨session, input⟩).length + (session.receive input).queue.toCome ≤
      session.queue.toCome := by
  cases input with
  | takeStep =>
      rw [dispatched_takeStep coherent]
      exact coherent.sound.toCome_next
  | complete outcome => simpa [Turn.dispatched] using toCome_complete coherent.sound outcome
  | _ => cases uncalled

theorem toCome_receiveAll (coherent : session.Coherent) (inputs : List Input)
    (uncalled : ∀ input ∈ inputs, input.isCall = false) :
    ((session.turns inputs).flatMap Turn.dispatched).length +
      (session.receiveAll inputs).queue.toCome ≤ session.queue.toCome := by
  induction inputs generalizing session with
  | nil => simp
  | cons input inputs induction =>
      have first := toCome_receive coherent input (uncalled input List.mem_cons_self)
      have rest := induction (coherent_receive coherent input) fun later member =>
        uncalled later (List.mem_cons_of_mem _ member)
      simp only [turns, List.flatMap_cons, List.length_append]
      change _ + (((session.receive input).receiveAll inputs).queue.toCome) ≤ _
      omega

/-! ## Rounds -/

/-- The inputs of a run in which steps are taken and tasks come back by turns. -/
def rounds (outcomes : List Outcome) : List Input :=
  outcomes.flatMap fun outcome => [.takeStep, .complete outcome]

/-- Each round takes something off what is left to do, for as long as anything is. -/
theorem work_round (coherent : session.Coherent) (flows : Flows session.queue)
    (outcome : Outcome) :
    ((session.receive .takeStep).receive (.complete outcome)).queue.work ≤
      session.queue.work - 1 := by
  have sound := sound_receive coherent.sound .takeStep
  have stepped : (session.receive .takeStep).queue = session.queue.next.1 := rfl
  have taken := coherent.sound.work_next
  have returned := toCome_complete sound outcome
  have free := inFlight_complete sound outcome
  simp only [Queue.work, free, stepped, Option.toList_none, List.length_nil] at *
  cases flying : session.queue.next.1.inFlight with
  | some id =>
      simp only [flying, Option.toList_some, List.length_singleton] at taken
      omega
  | none =>
      have empty : session.queue.next.1.pending = [] := by
        refine List.eq_nil_iff_forall_not_mem.mpr fun id waits => ?_
        have := Queue.isSome_inFlight_next flows.unsuspended flows.tidy waits
        simp [flying] at this
      rw [Queue.toCome_of_free flying, empty] at returned
      simp only [List.map_nil, List.sum_nil] at returned
      omega

theorem work_rounds (coherent : session.Coherent) (flows : Flows session.queue)
    (outcomes : List Outcome) :
    (session.receiveAll (rounds outcomes)).queue.work ≤ session.queue.work - outcomes.length := by
  induction outcomes generalizing session with
  | nil => exact Nat.le_refl _
  | cons outcome outcomes induction =>
      have first := work_round coherent flows outcome
      have stepped := coherent_receive coherent .takeStep
      have flowing := flows_receive coherent.sound flows .takeStep
      have rest := induction (coherent_receive stepped (.complete outcome))
        (flows_receive stepped.sound flowing (.complete outcome))
      have same : session.receiveAll (rounds (outcome :: outcomes)) =
          ((session.receive .takeStep).receive (.complete outcome)).receiveAll (rounds outcomes) :=
        rfl
      rw [same, List.length_cons]
      omega

/-- How a session comes to rest that is left alone, whatever the server answers. -/
structure Quietens (session : Session) : Prop where
  /-- Steps and returns, in whatever order, dispatch at most four tasks for each that is
  outstanding. -/
  bounded : ∀ inputs : List Input, (∀ input ∈ inputs, input.isCall = false) →
    ((session.turns inputs).flatMap Turn.dispatched).length ≤ 4 * session.queue.outstanding.length
  /-- After as many rounds nothing is outstanding any more. -/
  settles : ∀ outcomes : List Outcome, 4 * session.queue.outstanding.length ≤ outcomes.length →
    (session.receiveAll (rounds outcomes)).queue.outstanding = []

/-- In any run that begins with a reset, the session is at any time about to become quiet. -/
theorem quietens_receiveAll (options : SessionOptions) (inputs : List Input) :
    Quietens ((new options).receiveAll (.reset :: inputs)) := by
  have coherent := coherent_receiveAll options (.reset :: inputs)
  have flows := flows_receiveAll options inputs
  have enough := ((new options).receiveAll (.reset :: inputs)).queue.work_le
  refine ⟨?_, ?_⟩
  · intro later uncalled
    have bounded := toCome_receiveAll coherent later uncalled
    simp only [Queue.work] at enough
    omega
  · intro outcomes sufficient
    have left := work_rounds coherent flows outcomes
    apply Queue.outstanding_of_work
    omega

/-- A command waits, and nothing else. -/
def oneCommand : Session :=
  (new sampleOptions).receiveAll (.reset :: loads ++ [.runCommand ["--ping"]])

-- The command is followed by news, these by a sync, and that by the list of suites.
example : oneCommand.queue.outstanding = [2] ∧
    (oneCommand.turns (rounds [.ok {}, .ok { news := some .news }, .ok {}, .ok {}])).flatMap
      Turn.dispatched = [2, 3, 4, 5] := by
  decide +kernel

end FlowClient.Session
