import Concurrente.WebServer.Http.LineBudget
import Concurrente.WebServer.Http.Progress

/-!
# Answers that cannot be missed

The line before shutdown comes to rest whatever the order of its steps is, and
where it rests, every client request that was accepted has been answered.
-/

namespace Concurrente.WebServer

open Library Network

namespace Configuration

variable {config : Configuration} {capacity : Channel config → Option Nat}
  {state last : config.State}

/-- A step of some thread that brings nothing from outside. -/
def QuietStep (capacity : Channel config → Option Nat)
    (before after : config.State) : Prop :=
  ∃ node, Step (config.network capacity) node before after ∧
    Quiet before.store after.store

/-- Any number of connections close, and then a thread takes a quiet step. -/
def QuietTurn (capacity : Channel config → Option Nat)
    (before after : config.State) : Prop :=
  ∃ closing, Reaches (config.network capacity) True (fun _ _ => False) before
      closing ∧
    QuietStep capacity closing after

/-- A step of a thread of the line, or a connection that is handed over. -/
def LineStep (capacity : Channel config → Option Nat)
    (before after : config.State) : Prop :=
  ∃ node, (OfLine before node ∨ HandsOver before node) ∧
    Step (config.network capacity) node before after

/-! ## The budget -/

theorem pool_le_connected {faults : Prop}
    {allowed : Node config → config.State → Prop}
    (run : Reaches (config.network capacity) faults allowed config.start state) :
    state.store.pool.length ≤ state.store.connected.length := by
  have kept := poolKept run
  have inside : state.store.pool.Subperm state.store.connected := by
    apply List.subperm_ext_iff.mpr
    intro worker _
    obtain ⟨_, bound, _⟩ := kept worker
    omega
  exact inside.length_le

theorem QuietStep.budget_lt {before after : config.State}
    (known : before.store.pool.length ≤ before.store.connected.length)
    (step : QuietStep capacity before after) :
    budget lineWeights after < budget lineWeights before := by
  obtain ⟨node, step, quiet⟩ := step
  exact step.budget_lt (spends before.store known node (before.thread node)) quiet

theorem Reaches.quiet {faults : Prop} {allowed : Node config → config.State → Prop}
    (run : Reaches (config.network capacity) faults allowed config.start state)
    (quiet : Relation.ReflTransGen (QuietStep capacity) state last) :
    Reaches (config.network capacity) faults (fun _ _ => True) config.start
      last := by
  have reached : Reaches (config.network capacity) faults (fun _ _ => True)
      config.start state := run.mono faults id fun _ _ _ => trivial
  induction quiet with
  | refl => exact reached
  | tail _ step ih =>
      obtain ⟨node, step, _⟩ := step
      exact ih.tail (.step trivial step)

theorem closed_of_quiet
    (quiet : Relation.ReflTransGen (QuietStep capacity) state last) :
    last.closed = state.closed := by
  induction quiet with
  | refl => rfl
  | tail _ step ih =>
      obtain ⟨_, step, _⟩ := step
      exact step.closed_eq.trans ih

/-- Without arrivals every run can be continued until the line is at rest. -/
theorem exists_rest {faults : Prop} {allowed : Node config → config.State → Prop}
    (run : Reaches (config.network capacity) faults allowed config.start state) :
    ∃ last, Relation.ReflTransGen (QuietStep capacity) state last ∧
      ∀ after, ¬ QuietStep capacity last after := by
  apply CountedRun.exists_end
  · intro later reached
    exact pool_le_connected (Reaches.quiet run reached)
  · intro before after known step
    exact step.budget_lt known

/-- A connection that closes is no step of a thread, and costs nothing. -/
theorem QuietTurn.budget_lt {before after : config.State}
    (known : before.store.pool.length ≤ before.store.connected.length)
    (turn : QuietTurn capacity before after) :
    budget lineWeights after < budget lineWeights before := by
  obtain ⟨_, closings, step⟩ := turn
  obtain ⟨closed, rfl⟩ := closings.exists_closed
  exact @QuietStep.budget_lt _ _ { before with closed } after known step

theorem QuietStep.turn {before after : config.State}
    (step : QuietStep capacity before after) : QuietTurn capacity before after :=
  ⟨before, .refl, step⟩

theorem Reaches.turns {faults : Prop} {allowed : Node config → config.State → Prop}
    (run : Reaches (config.network capacity) faults allowed config.start state)
    (turns : Relation.ReflTransGen (QuietTurn capacity) state last) :
    Reaches (config.network capacity) True (fun _ _ => True) config.start last := by
  induction turns with
  | refl => exact run.mono True (fun _ => trivial) fun _ _ _ => trivial
  | tail _ turn ih =>
      obtain ⟨closing, closings, step⟩ := turn
      have closed : Reaches (config.network capacity) True (fun _ _ => True) _
          closing := closings.mono True id fun _ _ _ => trivial
      exact Reaches.quiet (ih.trans closed) (.single step)

/-- In every run, with connections that close between any two messages, during
shutdown or before it: when neither a client request nor a worker comes from
outside, the threads take at most as many steps as the threads and the items of
the line weigh. -/
theorem quiet_steps_le {faults : Prop} {allowed : Node config → config.State → Prop}
    (run : Reaches (config.network capacity) faults allowed config.start state)
    {count : Nat} (quiet : CountedRun (QuietTurn capacity) state count last) :
    budget lineWeights last + count ≤ budget lineWeights state := by
  apply quiet.measure_add_le
  · intro later reached
    exact pool_le_connected (Reaches.turns run reached)
  · intro before after known turn
    exact turn.budget_lt known

/-- A request on its way: its second unit is about to be sent to a worker. -/
def busyState : Option sampleConfiguration.State :=
  (sampleConfiguration.network fun _ => some 1).exec false (fun _ _ => true)
    (sampleTurns.take 17) sampleConfiguration.start

/-- The connection of the worker closes. -/
def closing (state : sampleConfiguration.State) : sampleConfiguration.State :=
  { state with closed := Function.update state.closed only true }

/-- The unit is lost: the distributor sends it on the closed connection. -/
def closingStep (state : sampleConfiguration.State) :
    Option sampleConfiguration.State :=
  (sampleConfiguration.network fun _ => some 1).advance .distributor .proceed true
    (closing state)

/-- The connection closes while the steps are counted. -/
theorem quiet_steps_le_busy :
    ∃ state ∈ busyState, ∃ count last,
      CountedRun (QuietTurn fun _ => some 1) state count last ∧
      state.closed only = false ∧ last.closed only = true ∧
      (∀ after, ¬ QuietStep (fun _ => some 1) last after) ∧
      budget lineWeights last + count ≤ budget lineWeights state := by
  have works : busyState.any (fun state => state.closed only = false ∧
      (closingStep state).any (fun after =>
        decide (after.store.accepted = state.store.accepted ∧
          after.store.connected.length ≤ state.store.connected.length)) =
        true) = true := by
    decide +kernel
  obtain ⟨state, result, run, isOpen, next⟩ :=
    Reaches.exists_of_exec False (by decide) (fun _ _ _ => trivial) works
  obtain ⟨after, step, quiet⟩ := (Option.any_eq_true _ _).mp next
  obtain ⟨accepted, connected⟩ := of_decide_eq_true quiet
  have turn : QuietTurn (fun _ => some 1) state after :=
    ⟨closing state, .single (.close trivial only), .distributor,
      .of_advance step, accepted, connected⟩
  obtain ⟨last, rest, stuck⟩ := exists_rest (Reaches.turns run (.single turn))
  obtain ⟨count, counted⟩ := CountedRun.exists_of_reaches
    (.head turn (.mono (fun _ _ step => QuietStep.turn step) _ _ rest))
  refine ⟨state, result, count, last, counted, isOpen, ?_, stuck,
    quiet_steps_le run counted⟩
  rw [closed_of_quiet rest, (Step.of_advance step).closed_eq]
  exact Function.update_self only true state.closed

/-! ## The steps of the line -/

theorem LineStep.quiet {before after : config.State}
    (step : LineStep capacity before after) : QuietStep capacity before after := by
  obtain ⟨node, inside, step⟩ := step
  refine ⟨node, step, ?_⟩
  cases step with
  | receive | receiveClosed | send | sendClosed => exact ⟨rfl, Nat.le_refl _⟩
  | @work effect choice shared thread acts result =>
      have acts : config.act node (before.thread node) = .work effect := acts
      have within := act_within node (before.thread node)
      rw [acts] at within
      have frame := within choice _ _ _ result
      cases node with
      | signalHandler => exact (inside.elim id id).elim
      | connectionHandler index =>
          obtain ⟨data, producing⟩ := inside.elim id False.elim
          rw [producing] at acts
          cases acts
      | masterServer =>
          obtain ⟨worker, producing⟩ := inside.elim False.elim id
          rw [producing] at acts
          cases acts
      | workerConnectionHandler index =>
          refine ⟨frame.accepted rfl, ?_⟩
          generalize before.thread (.workerConnectionHandler index) = acting at acts
          cases acting with
          | loop | reading | producing | lastStop | ended | failed => cases acts
          | routing worker text =>
              cases acts
              obtain ⟨heap, next, handles, _⟩ :=
                WorkerConnectionHandler.handle_cases worker text before.store
              have outcome := handles.symm.trans (Option.some.inj result)
              cases outcome
              exact Nat.le_refl _
          | removing worker =>
              cases acts
              simp only [Option.ite_none_left_eq_some, Option.some.injEq,
                Prod.mk.injEq] at result
              obtain ⟨_, rfl, _⟩ := result
              exact Nat.le_refl _
      | _ =>
          have roster := congrArg Prod.snd (frame.roster rfl)
          exact ⟨frame.accepted rfl, (congrArg List.length roster).le⟩

/-- The signal comes from outside. -/
theorem LineStep.running {before after : config.State}
    (step : LineStep capacity before after) :
    after.store.clientsStopped = before.store.clientsStopped := by
  obtain ⟨node, inside, step⟩ := step
  cases step with
  | receive | receiveClosed | send | sendClosed => rfl
  | @work effect choice shared thread acts result =>
      have acts : config.act node (before.thread node) = .work effect := acts
      have within := act_within node (before.thread node)
      rw [acts] at within
      have outside : node ≠ .signalHandler := by
        rintro rfl
        exact inside.elim id id
      exact congrArg Prod.fst ((within choice _ _ _ result).signals outside)

theorem quiet_of_lineSteps
    (steps : Relation.ReflTransGen (LineStep capacity) state last) :
    Relation.ReflTransGen (QuietStep capacity) state last :=
  Relation.ReflTransGen.mono (fun _ _ step => LineStep.quiet step) _ _ steps

theorem pool_le_of_lineSteps {faults : Prop}
    {allowed : Node config → config.State → Prop}
    (run : Reaches (config.network capacity) faults allowed config.start state)
    (steps : Relation.ReflTransGen (LineStep capacity) state last) :
    last.store.pool.length ≤ last.store.connected.length :=
  pool_le_connected (Reaches.quiet run (quiet_of_lineSteps steps))

theorem lineSteps_unchanged
    (steps : Relation.ReflTransGen (LineStep capacity) state last) :
    last.store.accepted = state.store.accepted ∧
      last.store.clientsStopped = state.store.clientsStopped := by
  induction steps with
  | refl => exact ⟨rfl, rfl⟩
  | tail _ step ih =>
      obtain ⟨_, _, quiet⟩ := step.quiet
      constructor
      · exact quiet.accepted.trans ih.1
      · exact step.running.trans ih.2

/-! ## Where the line comes to rest -/

theorem exists_lineRest
    (run : Reaches (config.network capacity) False (fun _ _ => True)
      config.start state) :
    ∃ last, Relation.ReflTransGen (LineStep capacity) state last ∧
      ∀ after, ¬ LineStep capacity last after := by
  apply CountedRun.exists_end
  · intro later reached
    exact pool_le_of_lineSteps run reached
  · intro before after known step
    exact step.quiet.budget_lt known

/-- Before shutdown a line that comes to rest stands still. -/
theorem still_of_stuck (staffed : config.Staffed)
    (few : config.workers ≤ config.maxWorkerConnections)
    (clients : 0 < config.maxConnections)
    (capacities : ∀ channel bound, capacity channel = some bound → 0 < bound)
    (run : Reaches (config.network capacity) False (fun _ _ => True)
      config.start state)
    (running : state.store.clientsStopped = false)
    (stuck : ∀ after, ¬ LineStep capacity state after) : Still capacity state := by
  have restricted := allRegistered_of_running staffed clients run running
  obtain ⟨both, _⟩ := informed run .signalHandler
  constructor
  · exact staffed
  · exact few
  · exact capacities
  · exact restricted
  · by_contra locked
    obtain ⟨_, stopping⟩ :=
      informed run .distributor (Bool.eq_true_of_not_eq_false locked)
    have awaits := distributor_awaits staffed clients restricted running
    simp [stopping] at awaits
  · by_contra stopped
    have both := both (Bool.eq_true_of_not_eq_false stopped)
    rw [running] at both
    cases both
  · intro node inside canStep
    obtain ⟨after, step⟩ := canStep
    exact stuck after ⟨node, inside, step⟩

/-- In every run before shutdown in which connections stay open and messages
arrive whole, for capacities of at least one, calculators in every process and
no more workers than handlers: whatever the order in which the threads of the
line step, they come to rest after at most as many steps as the line weighs,
and then every client request that was accepted has been answered. -/
theorem answers_inevitable (calculators : 0 < config.calculatorsAmount)
    (workerCalculators : ∀ worker, 0 < config.workerCalculators worker)
    (few : config.workers ≤ config.maxWorkerConnections)
    (capacities : ∀ channel bound, capacity channel = some bound → 0 < bound)
    (run : Reaches (config.network capacity) False (fun _ _ => True)
      config.start state)
    (running : state.store.clientsStopped = false) {count : Nat}
    (steps : CountedRun (LineStep capacity) state count last) :
    count ≤ budget lineWeights state ∧
      last.store.accepted = state.store.accepted ∧
      ((∀ after, ¬ LineStep capacity last after) →
        ∀ number < state.store.accepted.length, number ∈ last.store.responded) := by
  have spent : budget lineWeights last + count ≤ budget lineWeights state :=
    steps.measure_add_le (fun _ reached => pool_le_of_lineSteps run reached)
      fun _ _ known step => step.quiet.budget_lt known
  obtain ⟨accepted, unchanged⟩ := lineSteps_unchanged steps.reaches
  refine ⟨by omega, accepted, fun stuck number inside => ?_⟩
  have reached := Reaches.quiet run (quiet_of_lineSteps steps.reaches)
  have staffed : config.Staffed := by
    constructor
    · exact calculators
    · exact workerCalculators
    · intro worker
      exact Nat.lt_of_lt_of_le (Nat.zero_lt_of_lt worker.isLt) few
  have clients : 0 < config.maxConnections := by
    obtain ⟨_, _, _, none⟩ := informed run .signalHandler
    apply Nat.pos_of_ne_zero
    intro closed
    simp [none closed] at inside
  have still := still_of_stuck staffed few clients capacities reached
    (unchanged.trans running) stuck
  rw [← accepted] at inside
  exact responded_of_unloaded still.run (by simp [still.queue]) still.threadLoads
    inside

theorem answers_inevitable_busy :
    ∃ state ∈ busyState, ∃ last,
      Relation.ReflTransGen (LineStep fun _ => some 1) state last ∧
      (∀ after, ¬ LineStep (fun _ => some 1) last after) ∧
      0 ∉ state.store.responded ∧ 0 ∈ last.store.responded := by
  have works : busyState.any (fun state => state.store.clientsStopped = false ∧
      state.store.accepted.length = 1 ∧ 0 ∉ state.store.responded) = true := by
    decide +kernel
  obtain ⟨state, result, run, running, accepted, unanswered⟩ :=
    Reaches.exists_of_exec False (by decide) (fun _ _ _ => trivial) works
  obtain ⟨last, reached, stuck⟩ := exists_lineRest run
  obtain ⟨count, steps⟩ := CountedRun.exists_of_reaches reached
  have answered := answers_inevitable Nat.one_pos (fun _ => Nat.one_pos)
    (Nat.le_refl 1) (fun _ _ same => by cases same; exact Nat.one_pos) run running
    steps
  exact ⟨state, result, last, reached, stuck, unanswered,
    answered.2.2 stuck 0 (accepted ▸ Nat.one_pos)⟩

/-! ## When connections close -/

/-- An object that was enqueued for the responder with the answer to a client
request: a result for each of its queries, as the application computes it. -/
def AnswersRequest (state : config.State) (number : Nat) : Prop :=
  ∃ appIndex queries app data store calcData,
    state.store.accepted[number]? = some (appIndex, queries) ∧
    config.applications[appIndex.toNat]? = some (.calc app) ∧
    ⟨.responderQueue, some data, store⟩ ∈ state.sent ∧
    store.heap data = some calcData ∧
    calcData.exchange = some number ∧
    calcData.queries = queries ∧
    calcData.results = queries.map fun query => app.processQuery query []

theorem answersRequest_of_handed {faults : Prop}
    {allowed : Node config → config.State → Prop}
    (run : Reaches (config.network capacity) faults allowed config.start state)
    {number : Nat} (handed : number ∈ config.handedRequests state.sent) :
    AnswersRequest state number := by
  obtain ⟨⟨channel, item, store⟩, sent, requests⟩ := List.mem_filterMap.mp handed
  cases channel with
  | responderQueue =>
      cases item with
      | none => cases requests
      | some data =>
          obtain ⟨calcData, exchanged, app, live, exchange, accepted, registered,
            complete⟩ := (requestsKept run).snapshots data store sent
          have same : exchanged = number := by
            have requests : (store.heap data).bind CalcData.exchange = some number :=
              requests
            rw [live, Option.bind_some, exchange] at requests
            exact Option.some.inj requests
          subst same
          exact ⟨calcData.appIndex, calcData.queries, app, data, store, calcData,
            accepted, registered.application, sent, live, exchange, rfl, complete⟩
  | _ => cases requests

/-- In every run, whichever connections close between two messages, and during
shutdown too: no thread fails, no client request is answered twice, and a
request that was answered was accepted, and the answer has the right result for
each of its queries.  A message arrives whole or not at all, and a send on a
closed connection only reports an error: neither a message cut short nor
`SIGPIPE`, which the source does not ignore, is in the model. -/
theorem answers_right_despite_faults {faults : Prop}
    {allowed : Node config → config.State → Prop}
    (run : Reaches (config.network capacity) faults allowed config.start state) :
    (∀ node, ¬ config.Failed node (state.thread node)) ∧
      state.store.responded.Nodup ∧
      ∀ number ∈ state.store.responded, number < state.store.accepted.length ∧
        AnswersRequest state number := by
  have kept := requestsKept run
  refine ⟨not_failed run, kept.answeredOnce, fun number responded => ?_⟩
  have handed := kept.responded number responded
  constructor
  · exact kept.known number handed
  · exact answersRequest_of_handed run handed

/-- The connection of the only worker closes, and the master answers a request
on its own. -/
def closedTurns : List SampleTurn :=
  [.step (.connectionHandler only) (.accept 0 [7] 4096) true, .close only,
    .go (.connectionHandler only), .go .decomposer, .go .decomposer,
    .go .decomposer, .go .distributor, .go .distributor, .go .distributor,
    .go (.calculator only), .go (.calculator only), .go (.calculator only),
    .go .responseAssembler, .go .responseAssembler, .go .responseAssembler,
    .go .clientResponder, .go .clientResponder]

theorem answers_right_despite_faults_closed :
    ∃ state ∈ (sampleConfiguration.network fun _ => some 1).exec true
        (fun _ _ => true) closedTurns sampleConfiguration.start,
      state.closed only = true ∧ AnswersRequest state 0 := by
  have works : ((sampleConfiguration.network fun _ => some 1).exec true
      (fun _ _ => true) closedTurns sampleConfiguration.start).any (fun state =>
        state.closed only = true ∧ state.store.responded = [0]) = true := by
    decide +kernel
  obtain ⟨state, result, run, closed, responded⟩ :=
    Reaches.exists_of_exec True (fun _ => trivial) (fun _ _ _ => trivial) works
  exact ⟨state, result, closed,
    ((answers_right_despite_faults run).2.2 0 (by simp [responded])).2⟩

end Configuration

end Concurrente.WebServer
