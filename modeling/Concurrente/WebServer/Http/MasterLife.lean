import Concurrente.WebServer.Http.MasterProcess

/-!
# The life of a master

A master that listens builds its threads and accepts clients until its listener
is stopped; then it joins and deletes what it built.  A signal that comes before
the master server listens is lost on it, and one that comes before it is made or
after it is deleted ends the process.
-/

namespace Concurrente.WebServer

open Library

namespace MasterProcess

variable {config : Configuration} {queuesCapacity : Nat} {process : MasterProcess config}
  {events : List (MasterEvent config)}

theorem start_sound : Sound queuesCapacity (start config queuesCapacity) [] :=
  ⟨.start, rfl, fun _ member => by cases member⟩

theorem exists_sound
    (run : execute (step queuesCapacity) events (start config queuesCapacity) = .ok process) :
    ∃ done, Sound queuesCapacity process done := by
  apply execute_keeps (fun process => ∃ done, Sound queuesCapacity process done) ?_
    ⟨[], start_sound⟩ run
  rintro event before after ⟨done, sound⟩ happens
  exact sound.after_step happens

/-- The main thread could not listen and is about to stop. -/
def CannotListen (process : MasterProcess config) : Prop :=
  process.listener = .unopened ∧
    process.rest = (HttpServer.stopServer config).map .statement

/-- The main thread waits: for a client, for room in the queue of the connection
handlers, or for the end of a thread. -/
def Waits (queuesCapacity : Nat) (process : MasterProcess config) : Prop :=
  (process.rest.head? = some .acceptAllConnections ∧ process.listener = .listening) ∨
    ∃ statement, process.rest.head? = some (.statement statement) ∧
      ((statement = .enqueue .socketsQueue ∧ queuesCapacity ≤ process.sockets) ∨
        ∃ thread, awaited statement = some thread ∧ process.hasEnded thread = false)

/-- What `HttpServer::stop` finds instead of a master server, by what the main
thread has still to do: it is not made yet, or it was deleted. -/
def masterServerFault (process : MasterProcess config) : Option TeamFault :=
  if process.listener = .unopened ∨
      .statement (.newThread .masterServer config.maxWorkerConnections) ∈ process.rest then
    some .nullPointer
  else if .statement (.deleteThread .masterServer) ∈ process.rest then none
  else if .statement (.clear [.masterServer]) ∈ process.rest then some .dangling
  else some .nullPointer

/-! ## What a signal finds -/

theorem mem_statements {statement : HttpServer.MasterStatement config}
    {rest : List (Instruction config)} :
    statement ∈ statements rest ↔ .statement statement ∈ rest := by
  rw [statements, List.mem_filterMap]
  constructor
  · rintro ⟨instruction, member, same⟩
    cases instruction with
    | statement other =>
        cases same
        exact member
    | _ => cases same
  · exact fun member => ⟨_, member, rfl⟩

/-- The statements up to the one that makes the master server. -/
def makingFirst (config : Configuration) : List (HttpServer.MasterStatement config) :=
  List.flatten
    [[.assertNone (HttpServer.handlers config)],
      (HttpServer.handlers config).flatMap fun handler => [.newThread handler 0],
      [.newThread .decomposer config.maxConnections],
      [.newThread .distributor config.calculatorsAmount],
      (HttpServer.calculators config).flatMap fun calculator => [.newThread calculator 0]]

/-- The threads that are made after the master server. -/
def makingLast (config : Configuration) : List (HttpServer.MasterStatement config) :=
  List.flatten
    [(HttpServer.workerConnectionHandlers config).flatMap fun handler =>
        [.newThread handler 0],
      [.newThread .responseAssembler
        (config.calculatorsAmount + config.maxWorkerConnections)],
      [.newThread .clientResponder 0]]

theorem createThreads_split : HttpServer.createThreads config =
    makingFirst config ++
      .newThread .masterServer config.maxWorkerConnections :: makingLast config := by
  simp [HttpServer.createThreads, makingFirst, makingLast]

/-- The threads that are deleted before the master server. -/
def deletingFirst (config : Configuration) : List (HttpServer.MasterStatement config) :=
  List.flatten
    [(HttpServer.handlers config).flatMap fun handler => [.deleteThread handler],
      [.clear (HttpServer.handlers config)],
      [.deleteThread .decomposer, .clear [.decomposer]],
      [.deleteThread .distributor, .clear [.distributor]],
      (HttpServer.calculators config).flatMap fun calculator => [.deleteThread calculator],
      [.clear (HttpServer.calculators config)]]

/-- The threads that are deleted after the master server. -/
def deletingLast (config : Configuration) : List (HttpServer.MasterStatement config) :=
  List.flatten
    [(HttpServer.workerConnectionHandlers config).flatMap fun handler =>
        [.deleteThread handler],
      [.clear (HttpServer.workerConnectionHandlers config)],
      [.deleteThread .responseAssembler, .clear [.responseAssembler]],
      [.deleteThread .clientResponder, .clear [.clientResponder]]]

theorem deleteThreads_split : HttpServer.deleteThreads config =
    deletingFirst config ++
      .deleteThread .masterServer :: .clear [.masterServer] :: deletingLast config := by
  simp [HttpServer.deleteThreads, deletingFirst, deletingLast]

/-- What comes between `new` and `delete` of the master server. -/
def running (config : Configuration) (queuesCapacity clients : Nat) :
    List (HttpServer.MasterStatement config) :=
  List.flatten
    [makingLast config, HttpServer.createQueues config queuesCapacity,
      HttpServer.connectQueues config, HttpServer.startThreads config,
      List.replicate clients (.enqueue .socketsQueue), HttpServer.joinThreads config,
      deletingFirst config]

theorem run_split (clients : Nat) : HttpServer.run config queuesCapacity clients =
    makingFirst config ++ .newThread .masterServer config.maxWorkerConnections ::
      (running config queuesCapacity clients ++
        .deleteThread .masterServer :: .clear [.masterServer] :: deletingLast config) := by
  simp only [HttpServer.run, HttpServer.buildMaster, HttpServer.stopServer,
    createThreads_split, deleteThreads_split, running, List.flatten_cons, List.flatten_nil,
    List.append_assoc, List.cons_append, List.nil_append]

theorem quiet_makingFirst : ∀ statement ∈ makingFirst config,
    statement.Quiet (.masterServer : MasterThread config) := by
  simp only [makingFirst, HttpServer.handlers, HttpServer.calculators, List.flatMap_map,
    List.flatten_cons, List.flatten_nil, List.forall_mem_append, List.forall_mem_flatMap,
    List.forall_mem_cons, List.not_mem_nil, false_implies, implies_true, and_true]
  simp [Statement.Quiet, Statement.leaves]

theorem quiet_deletingLast : ∀ statement ∈ deletingLast config,
    statement.Quiet (.masterServer : MasterThread config) := by
  simp only [deletingLast, HttpServer.workerConnectionHandlers, List.flatMap_map,
    List.flatten_cons, List.flatten_nil, List.forall_mem_append, List.forall_mem_flatMap,
    List.forall_mem_cons, List.not_mem_nil, false_implies, implies_true, and_true]
  simp [Statement.Quiet, Statement.leaves]

theorem quiet_running (clients : Nat) : ∀ statement ∈ running config queuesCapacity clients,
    statement.Quiet (.masterServer : MasterThread config) := by
  simp only [running, makingLast, HttpServer.createQueues, HttpServer.connectQueues,
    HttpServer.startThreads, deletingFirst, HttpServer.handlers, HttpServer.calculators,
    HttpServer.workerConnectionHandlers, List.flatMap_map,
    List.flatten_cons, List.flatten_nil, List.forall_mem_append, List.forall_mem_flatMap,
    List.forall_mem_cons, List.not_mem_nil, false_implies, implies_true, and_true]
  simp [Statement.Quiet, Statement.leaves]
  exact quiet_of_mem_joinThreads .masterServer

/-- What a signal finds can be told from what the main thread has still to do. -/
theorem Sound.masterServer_status {done : List (HttpServer.MasterStatement config)}
    (sound : Sound queuesCapacity process done) :
    (process.masterServerFault = none ∧
        (process.team.threads .masterServer).status = .object) ∨
      (process.masterServerFault = some .nullPointer ∧
        (process.team.threads .masterServer).status = .null) ∨
      (process.masterServerFault = some .dangling ∧
        (process.team.threads .masterServer).status = .dangling) := by
  by_cases unopened : process.listener = .unopened
  · have executed := sound.executed
    rw [(sound.position.of_unopened unopened).1, execute_nil] at executed
    rw [← Except.ok.inj executed, masterServerFault, if_pos (.inl unopened)]
    exact .inr (.inl ⟨rfl, rfl⟩)
  · obtain ⟨clients, whole⟩ := sound.position.exists_run unopened
    rw [run_split] at whole
    rw [status_of_execute .masterServer sound.executed]
    have possible := statusAfter_cases whole quiet_makingFirst (quiet_running clients)
      quiet_deletingLast
    simp only [mem_statements] at possible
    rcases possible with ⟨null, member⟩ | ⟨made, ⟨object, member⟩ | ⟨dangling, gone, member⟩ |
      ⟨null, gone, cleared⟩⟩
    · rw [masterServerFault, if_pos (.inr member)]
      exact .inr (.inl ⟨rfl, null⟩)
    all_goals rw [masterServerFault, if_neg (not_or.mpr ⟨unopened, made⟩)]
    · rw [if_pos member]
      exact .inl ⟨rfl, object⟩
    · rw [if_neg gone, if_pos member]
      exact .inr (.inr ⟨rfl, dangling⟩)
    · rw [if_neg gone, if_neg cleared]
      exact .inr (.inl ⟨rfl, null⟩)

/-! ## The end of a run -/

/-- A main thread at its end has joined and deleted all threads. -/
theorem Sound.released {done : List (HttpServer.MasterStatement config)}
    (sound : Sound queuesCapacity process done) (finished : process.rest = []) :
    HttpServer.Released process.team ∧ ∀ thread, process.hasEnded thread = true := by
  have position := sound.position
  rw [finished] at position
  obtain ⟨clients, rfl⟩ := position.of_nil
  constructor
  · have ends := sound.executed
    rw [HttpServer.run_execute] at ends
    rw [← Except.ok.inj ends]
    exact HttpServer.deletingTeam_released queuesCapacity
  · intro thread
    obtain ⟨statement, member, waits⟩ := exists_join thread
    refine sound.joined statement ?_ thread waits
    simp [HttpServer.run, HttpServer.stopServer, member]

theorem join_masterServer_mem : (.waitToFinish .masterServer) ∈ HttpServer.stopServer config := by
  simp [HttpServer.stopServer, HttpServer.joinThreads]

/-- What is not to be done any more is done. -/
theorem Sound.hasEnded_masterServer {done : List (HttpServer.MasterStatement config)}
    (sound : Sound queuesCapacity process done) (listens : ¬process.CannotListen)
    (joined : .statement (.waitToFinish .masterServer) ∉ process.rest) :
    process.hasEnded .masterServer = true := by
  refine sound.joined (.waitToFinish .masterServer) ?_ .masterServer rfl
  rw [← mem_statements] at joined
  have opened : process.listener ≠ .unopened := by
    intro unopened
    rcases (sound.position.of_unopened unopened).2 with begins | stops
    · rw [begins] at joined
      simp [program, mem_statements, join_masterServer_mem] at joined
    · exact listens ⟨unopened, stops⟩
  obtain ⟨clients, whole⟩ := sound.position.exists_run opened
  have member : .waitToFinish .masterServer ∈ done ++ statements process.rest := by
    rw [whole]
    simp [HttpServer.run, join_masterServer_mem]
  exact (List.mem_append.mp member).resolve_right joined

/-- What the master server does is its own, but for its listener. -/
theorem masterServer_of_step {next : MasterProcess config} {event : MasterEvent config}
    (happens : step queuesCapacity event process = .ok next) :
    (∃ action, event = .masterServer action ∧
        process.masterServer.step process.masterListener action =
          some (next.masterServer, next.masterListener)) ∨
      next.masterServer = process.masterServer ∧
        (next.masterListener = process.masterListener ∨
          event = .signalled ∧
            next.masterListener = process.masterListener.stopListening) := by
  cases event with
  | masterServer action =>
      obtain ⟨_, _, moved, rfl⟩ := masterServer_cases happens
      exact .inl ⟨action, rfl, moved⟩
  | signalled =>
      obtain ⟨_, _, rfl⟩ := signalled_cases happens
      exact .inr ⟨rfl, .inr ⟨rfl, rfl⟩⟩
  | proceed =>
      rcases proceed_cases happens with ⟨_, _, rfl⟩ | ⟨_, _, _, rfl⟩ |
        ⟨_, _, _, _, _, _, _, rfl⟩ <;> exact .inr ⟨rfl, .inl rfl⟩
  | client =>
      obtain ⟨_, _, _, rfl | rfl⟩ := accept_cases (.inl rfl) happens <;>
        exact .inr ⟨rfl, .inl rfl⟩
  | cannotAccept =>
      obtain ⟨_, _, _, rfl | rfl⟩ := accept_cases (.inr rfl) happens <;>
        exact .inr ⟨rfl, .inl rfl⟩
  | signal =>
      cases happens
      exact .inr ⟨rfl, .inl rfl⟩
  | cannotListen | dequeue | ends =>
      simp only [step] at happens
      split at happens <;> cases happens
      exact .inr ⟨rfl, .inl rfl⟩

/-- The listener of a master server was stopped by a signal that came when it
listened. -/
theorem exists_signalled_of_stopped
    (run : execute (step queuesCapacity) events (start config queuesCapacity) = .ok process)
    (stopped : process.masterListener = .stopped) :
    ∃ before after middle, events = before ++ .signalled :: after ∧
      execute (step queuesCapacity) before (start config queuesCapacity) = .ok middle ∧
      middle.masterListener = .listening := by
  obtain ⟨before, event, after, middle, next, split, reached, happens, notYet, now⟩ :=
    execute_changes (fun process => process.masterListener = .stopped) (by simp [start])
      stopped run
  rcases masterServer_of_step happens with ⟨action, _, moved⟩ | ⟨_, same | ⟨rfl, stops⟩⟩
  · exact absurd (MasterPhase.stopped_of_step moved now) notYet
  · rw [same] at now
    exact absurd now notYet
  · refine ⟨before, after, middle, split, reached, ?_⟩
    rw [now] at stops
    cases listener : middle.masterListener with
    | listening => rfl
    | unopened => simp [listener, Listener.stopListening] at stops
    | stopped => exact absurd listener notYet

/-- A master server ends because it fails, or because of a signal that came when
it listened. -/
theorem exists_signalled_of_ended
    (run : execute (step queuesCapacity) events (start config queuesCapacity) = .ok process)
    (ended : process.hasEnded .masterServer = true) :
    .masterServer .fail ∈ events ∨
      ∃ before after middle, events = before ++ .signalled :: after ∧
        execute (step queuesCapacity) before (start config queuesCapacity) = .ok middle ∧
        middle.masterListener = .listening := by
  have inside : ¬(start config queuesCapacity).masterServer.Leaving := by
    simp [start, MasterPhase.Leaving]
  have leaving : process.masterServer.Leaving := .inr (of_decide_eq_true ended)
  obtain ⟨before, event, after, middle, next, rfl, reached, happens, inside, leaving⟩ :=
    execute_changes (fun process => process.masterServer.Leaving) inside leaving run
  rcases masterServer_of_step happens with ⟨action, rfl, moved⟩ | ⟨same, _⟩
  · rcases MasterPhase.leaving_of_step moved inside leaving with rfl | stopped
    · exact .inl (by simp)
    · obtain ⟨first, second, earlier, rfl, begun, listening⟩ :=
        exists_signalled_of_stopped reached stopped
      exact .inr ⟨first, second ++ .masterServer action :: after, earlier, by simp, begun,
        listening⟩
  · rw [same] at leaving
    exact absurd leaving inside

theorem waits_iff {statement : HttpServer.MasterStatement config}
    {rest : List (Instruction config)} (here : process.rest = .statement statement :: rest)
    (present : ∀ thread, awaited statement = some thread →
      (process.team.threads thread).status = .object) :
    process.Waits queuesCapacity ↔ process.blocked queuesCapacity statement = true := by
  simp only [Waits, here, List.head?_cons, Option.some.injEq, reduceCtorEq, false_and, false_or,
    Instruction.statement.injEq, exists_eq_left']
  cases statement with
  | enqueue queue => cases queue <;> simp [blocked, awaited]
  | waitToFinish thread => simp [blocked, awaited]
  | waitToFinishInVector thread =>
      have object := present thread rfl
      have notNull : process.team.threads thread ≠ .null := by
        intro null
        rw [null] at object
        cases object
      simp [blocked, awaited, notNull]
  | _ => simp [blocked, awaited]

/-- A main thread that listened goes on unless it waits. -/
theorem Sound.proceeds_iff {done : List (HttpServer.MasterStatement config)}
    (sound : Sound queuesCapacity process done) (unfinished : process.rest ≠ [])
    (listens : ¬process.CannotListen) :
    (∃ next, process.proceed queuesCapacity = .ok next) ↔ ¬process.Waits queuesCapacity := by
  have position := sound.position
  match here : process.rest with
  | [] => exact absurd here unfinished
  | .listenForConnections :: rest => simp [proceed, Waits, here]
  | .acceptAllConnections :: rest =>
      rw [here] at position
      have opened := position.of_acceptAllConnections.1
      cases listener : process.listener with
      | unopened => exact absurd listener opened
      | _ => simp [proceed, Waits, here, listener]
  | .statement statement :: rest =>
      rw [here] at position
      rcases position.of_statement with ⟨unopened, -, stopping⟩ | ⟨opened, -, present⟩
      · exact absurd ⟨unopened, here.trans stopping⟩ listens
      obtain ⟨team, result⟩ := sound.exists_step opened here
      have waits : process.Waits queuesCapacity ↔
          process.blocked queuesCapacity statement = true :=
        waits_iff here fun thread waits => present thread waits _ sound.executed
      rw [waits, Bool.not_eq_true]
      cases free : process.blocked queuesCapacity statement <;>
        simp [proceed, here, result, free]

theorem Sound.proceed_fault_iff {done : List (HttpServer.MasterStatement config)}
    (sound : Sound queuesCapacity process done) (fault : TeamFault) :
    process.proceed queuesCapacity = .error (.fault fault) ↔
      process.CannotListen ∧ fault = .nullPointer := by
  have position := sound.position
  match here : process.rest with
  | [] =>
      obtain ⟨first, later, begins, _⟩ := HttpServer.stopServer_execute_empty config
      simp [proceed, CannotListen, here, begins]
  | .listenForConnections :: rest =>
      rw [here] at position
      obtain ⟨first, later, begins, _⟩ := HttpServer.stopServer_execute_empty config
      simp [proceed, CannotListen, here, begins]
  | .acceptAllConnections :: rest =>
      rw [here] at position
      obtain ⟨opened, -⟩ := position.of_acceptAllConnections
      cases listener : process.listener <;> simp_all [proceed, CannotListen]
  | .statement statement :: rest =>
      rw [here] at position
      rcases position.of_statement with ⟨unopened, rfl, stopping⟩ | ⟨opened, -, -⟩
      · have fails := failed_of_stopping sound.executed stopping
        rw [proceed, here]
        simp only [fails, CannotListen, unopened, here, stopping, true_and,
          Except.error.injEq, Halt.fault.injEq]
        exact eq_comm
      · obtain ⟨team, result⟩ := sound.exists_step opened here
        cases free : process.blocked queuesCapacity statement <;>
          simp [proceed, CannotListen, here, result, free, opened]

theorem Sound.signalled_fault_iff {done : List (HttpServer.MasterStatement config)}
    (sound : Sound queuesCapacity process done) (fault : TeamFault) :
    process.stopMasterServer = .error (.fault fault) ↔
      0 < process.signals ∧ process.masterServerFault = some fault := by
  rw [stopMasterServer, Nat.pos_iff_ne_zero]
  by_cases idle : process.signals = 0
  · simp [idle]
  · rw [if_neg idle]
    rcases sound.masterServer_status with ⟨finds, status⟩ | ⟨finds, status⟩ | ⟨finds, status⟩ <;>
      rw [finds] <;>
      cases pointer : process.team.threads .masterServer <;> rw [pointer] at status <;>
      first
        | (simp at status; done)
        | simp [idle, eq_comm]

/-- A signal fails exactly if it finds no master server, and a main thread if it
could not listen. -/
theorem Sound.fault_iff {done : List (HttpServer.MasterStatement config)}
    (sound : Sound queuesCapacity process done) (event : MasterEvent config)
    (fault : TeamFault) :
    step queuesCapacity event process = .error (.fault fault) ↔
      (event = .proceed ∧ process.CannotListen ∧ fault = .nullPointer) ∨
        (event = .signalled ∧ 0 < process.signals ∧
          process.masterServerFault = some fault) := by
  cases event with
  | proceed => simpa [step] using sound.proceed_fault_iff fault
  | signalled => simpa [step] using sound.signalled_fault_iff fault
  | signal => simp [step]
  | _ =>
      simp only [step, reduceCtorEq, false_and, or_self, iff_false]
      repeat' split
      all_goals simp

/-! ## The life -/

/-- The life of a master.  A main thread at its end has joined and deleted all
threads; before, it goes on exactly if it does not wait.  Nothing fails but a
signal that finds no master server, and the main thread if it could not listen.
The master server is joined only after it failed, or after a signal that came
when it listened. -/
theorem interrupted_run
    (run : execute (step queuesCapacity) events (start config queuesCapacity) = .ok process) :
    (process.rest = [] →
        HttpServer.Released process.team ∧ ∀ thread, process.hasEnded thread = true) ∧
      (process.rest ≠ [] → ¬process.CannotListen →
        ((∃ next, step queuesCapacity .proceed process = .ok next) ↔
          ¬process.Waits queuesCapacity)) ∧
      (∀ event fault, step queuesCapacity event process = .error (.fault fault) ↔
        (event = .proceed ∧ process.CannotListen ∧ fault = .nullPointer) ∨
          (event = .signalled ∧ 0 < process.signals ∧
            process.masterServerFault = some fault)) ∧
      (¬process.CannotListen →
        .statement (.waitToFinish .masterServer) ∉ process.rest →
          .masterServer .fail ∈ events ∨
            ∃ before after middle, events = before ++ .signalled :: after ∧
              execute (step queuesCapacity) before (start config queuesCapacity) =
                  .ok middle ∧
              middle.masterListener = .listening) := by
  obtain ⟨done, sound⟩ := exists_sound run
  refine ⟨sound.released, sound.proceeds_iff, sound.fault_iff, ?_⟩
  intro listens joined
  exact exists_signalled_of_ended run (sound.hasEnded_masterServer listens joined)

/-- A machine with one thread, and a master for one worker. -/
def smallConfiguration : Configuration :=
  { applications := []
    fewApplications := Nat.two_pow_pos 64
    maxConnections := 1
    calculatorsAmount := 1
    maxWorkerConnections := 1
    workers := 0
    workerCalculators := Fin.elim0 }

/-- The main thread listens and builds its threads. -/
def building (config : Configuration) (queuesCapacity : Nat) : List (MasterEvent config) :=
  List.replicate (1 + (HttpServer.buildMaster config queuesCapacity).length) .proceed

/-- The threads end, but for the master server. -/
def ending (config : Configuration) : List (MasterEvent config) :=
  ((HttpServer.makingOrder config).filter fun thread => thread ≠ .masterServer).map .ends

/-- A run in which a signal stops the server. -/
def stoppedRun : List (MasterEvent smallConfiguration) :=
  building _ 8 ++ [.masterServer .listen, .signal, .signalled, .masterServer .leave,
    .masterServer .stop] ++ ending _ ++
      List.replicate (1 + (HttpServer.stopServer smallConfiguration).length) .proceed

/-- A run with a signal that comes before the master server listens. -/
def lostRun : List (MasterEvent smallConfiguration) :=
  building _ 8 ++ [.signal, .signalled, .masterServer .listen] ++ ending _ ++
    List.replicate 6 .proceed

/-- A signal that stops the server, and one that leaves it waiting for the
master server. -/
theorem interrupted_run_small :
    (∃ process,
      execute (step 8) stoppedRun (start smallConfiguration 8) = .ok process ∧
        process.rest = [] ∧ HttpServer.Released process.team) ∧
      ∃ process,
        execute (step 8) lostRun (start smallConfiguration 8) = .ok process ∧
          process.rest.head? = some (.statement (.waitToFinish .masterServer)) ∧
          ¬∃ next, step 8 .proceed process = .ok next := by
  constructor
  · obtain ⟨process, run, finished⟩ : ∃ process,
        execute (step 8) stoppedRun (start smallConfiguration 8) = .ok process ∧
          process.rest = [] := by
      refine ⟨_, rfl, ?_⟩
      rfl
    exact ⟨process, run, finished, ((interrupted_run run).1 finished).1⟩
  · obtain ⟨process, run, joining, listening, running⟩ : ∃ process,
        execute (step 8) lostRun (start smallConfiguration 8) = .ok process ∧
          process.rest.head? = some (.statement (.waitToFinish .masterServer)) ∧
          process.listener = .stopped ∧ process.hasEnded .masterServer = false := by
      refine ⟨_, rfl, ?_⟩
      exact ⟨rfl, rfl, rfl⟩
    refine ⟨process, run, joining, ?_⟩
    have unfinished : process.rest ≠ [] := by
      intro finished
      rw [finished] at joining
      cases joining
    have listens : ¬process.CannotListen := by
      rintro ⟨unopened, -⟩
      rw [listening] at unopened
      cases unopened
    rw [(interrupted_run run).2.1 unfinished listens, not_not]
    exact .inr ⟨_, joining, .inr ⟨_, rfl, running⟩⟩

end MasterProcess

end Concurrente.WebServer
