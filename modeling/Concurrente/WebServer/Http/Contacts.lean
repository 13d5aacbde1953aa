import Concurrente.WebServer.Http.UnitFlow
import Concurrente.WebServer.Http.WorkerPool

/-!
# Contact with workers

Nothing is sent to a worker before it is registered, and nothing happens at a
worker before something is sent to it.
-/

namespace Concurrente.WebServer

open Library Network

namespace Configuration

variable (config : Configuration)

/-- The worker at whose end of its connection an item is. -/
@[simp] def itemContacts : (channel : Channel config) → config.Item channel →
    config.Worker → Nat
  | .toWorker worker, _ => Pi.single worker 1
  | .workerUnits worker, _ => Pi.single worker 1
  | .workerResponses worker, _ => Pi.single worker 1
  | .toMaster worker, _ => Pi.single worker 1
  | _, _ => 0

/-- The workers that a thread writes to, and the worker of a thread that has
received something. -/
@[simp] def threadContacts : (node : Node config) → config.Thread node →
    config.Worker → Nat
  | .distributor, .sending worker _ _ => Pi.single worker 1
  | .distributor, .stoppingWorkers workers => (workers.count ·)
  | .requestServer _, .reading => 0
  | .requestServer worker, _ => Pi.single worker 1
  | .workerCalculator _ _, .loop => 0
  | .workerCalculator worker _, _ => Pi.single worker 1
  | .responseClient worker, thread =>
      if thread = .loop (config.workerCalculators worker) then 0
      else Pi.single worker 1
  | _, _ => 0

/-- What is at workers. -/
def contacts : Weights config.Item config.Thread (config.Worker → Nat) where
  item := config.itemContacts
  thread := config.threadContacts
  lost _ _ _ := 0

/-- What is at workers, and the workers that are about to be registered. -/
def contactWeights : Weights config.Item config.Thread
    ((config.Worker → Nat) × (config.Worker → Nat)) :=
  config.contacts.prod (config.poolWeights.map (AddMonoidHom.snd _ _))

@[simp] theorem contactWeights_item (channel : Channel config)
    (item : config.Item channel) :
    config.contactWeights.item channel item =
      (config.itemContacts channel item, (config.itemWorkers channel item).2) := rfl

@[simp] theorem contactWeights_thread (node : Node config)
    (thread : config.Thread node) :
    config.contactWeights.thread node thread =
      (config.threadContacts node thread, (config.threadWorkers node thread).2) := rfl

@[simp] theorem contactWeights_lost (channel : Channel config)
    (item : config.Item channel) (reported : Bool) :
    config.contactWeights.lost channel item reported =
      (0, (config.itemWorkers channel item).2) := rfl

/-- Workers at which something is are registered. -/
def ContactsKept (shared : Shared config)
    (contacts : (config.Worker → Nat) × (config.Worker → Nat))
    (_ : List (Sent (Shared config) config.Item)) : Prop :=
  ∀ worker, 0 < contacts.1 worker →
    worker ∈ shared.connected ∧ contacts.2 worker = 0

end Configuration

section Threads

variable {config : Configuration}
  {allowed : Node config → config.State → Prop}

/-- The step of a thread in some state, in runs in which connections stay open,
keeps the contacts. -/
abbrev KeepsContacts (allowed : Node config → config.State → Prop)
    (node : Node config) (thread : config.Thread node) : Prop :=
  Respects config.contactWeights (fun _ => False) allowed config.ContactsKept node
    thread (config.act node thread)

theorem Configuration.contactsKept_ignores :
    Ignores config.ContactsKept Shared.roster fun _ _ => True where
  store same kept := by
    simp only [Shared.roster, Prod.mk.injEq] at same
    unfold Configuration.ContactsKept
    rw [same.2]
    exact kept
  sent _ kept := kept

theorem KeepsContacts.of_keeps {node : Node config} {thread : config.Thread node}
    (keeps : Keeps config.contactWeights (fun _ => False) Shared.roster
      (fun _ _ => True) node thread (config.act node thread)) :
    KeepsContacts allowed node thread :=
  Keeps.respects Configuration.contactsKept_ignores keeps

/-- Contact goes on, or ends. -/
theorem Configuration.ContactsKept.mono {shared after : Shared config}
    {rest seen next : (config.Worker → Nat) × (config.Worker → Nat)}
    {sent later : List (Sent (Shared config) config.Item)}
    (kept : config.ContactsKept shared (rest + seen) sent)
    (connected : after.connected = shared.connected) (pending : next.2 = seen.2)
    (goes : ∀ worker, 0 < next.1 worker → 0 < seen.1 worker) :
    config.ContactsKept after (rest + next) later := by
  intro worker contact
  have before : 0 < (rest + seen).1 worker := by
    have more := goes worker
    simp only [Prod.fst_add, Pi.add_apply] at contact ⊢
    omega
  rw [connected, Prod.snd_add, pending]
  exact kept worker before

theorem Configuration.itemWorkers_snd (channel : Channel config)
    (item : config.Item channel) : (config.itemWorkers channel item).2 = 0 := by
  cases channel <;> first | rfl | (cases item <;> rfl)

theorem Configuration.threadWorkers_of_other {node : Node config}
    (other : managesWorkers node = false) (thread : config.Thread node) :
    config.threadWorkers node thread = 0 := by
  cases node <;> first | rfl | cases other

/-- A thread of the master that does not deal with workers. -/
theorem KeepsContacts.of_other {node : Node config}
    (other : Configuration.managesWorkers node = false)
    (silent : ∀ thread, config.threadContacts node thread = 0)
    (apart : ∀ channel, Configuration.uses node channel → ∀ item,
      config.itemContacts channel item = 0)
    (thread : config.Thread node) : KeepsContacts allowed node thread := by
  refine .of_keeps (.of_within (Configuration.act_within node thread)
    (fun _ _ frame => frame.roster other) (fun thread => ?_)
    fun channel used item => ⟨trivial, ?_, fun _ => ?_⟩)
  · rw [config.contactWeights_thread, silent,
      Configuration.threadWorkers_of_other other]
    rfl
  · rw [config.contactWeights_item, apart channel used,
      Configuration.itemWorkers_snd]
    rfl
  · rw [config.contactWeights_lost, Configuration.itemWorkers_snd]
    rfl

/-- A thread of a worker, which does something after it has received
something. -/
theorem KeepsContacts.of_worker {node : Node config} (worker : config.Worker)
    (other : Configuration.managesWorkers node = false)
    (alone : ∀ thread contact, 0 < config.threadContacts node thread contact →
      contact = worker)
    (there : ∀ channel, Configuration.uses node channel → ∀ item,
      config.itemContacts channel item = Pi.single worker 1)
    (busy : ∀ thread, (∀ channel next, config.act node thread ≠
      .receive channel next) → config.act node thread ≠ .halt →
      0 < config.threadContacts node thread worker)
    (thread : config.Thread node) : KeepsContacts allowed node thread := by
  have within := Configuration.act_within node thread
  have working := busy thread
  unfold KeepsContacts
  cases acts : config.act node thread with
  | receive channel next =>
      rw [acts] at within
      refine ⟨fun state rest item _ focus => ?_, fun closing => closing.elim⟩
      refine focus.holds.mono rfl ?_ fun contact busy => ?_
      · simp only [config.contactWeights_item, config.contactWeights_thread,
          Prod.snd_add, Configuration.threadWorkers_of_other other,
          Configuration.itemWorkers_snd, Prod.snd_zero, add_zero]
      · obtain rfl := alone _ _ busy
        rw [config.contactWeights_item, there channel within]
        exact Nat.add_pos_left (by simp) _
  | send channel item next =>
      rw [acts] at within working
      refine ⟨fun state rest focus => ?_, fun closing => closing.elim⟩
      refine focus.holds.mono rfl ?_ fun contact busy => ?_
      · simp only [config.contactWeights_item, config.contactWeights_thread,
          Prod.snd_add, Configuration.threadWorkers_of_other other,
          Configuration.itemWorkers_snd, Prod.snd_zero, add_zero]
      · obtain rfl : contact = worker := by
          rcases Nat.add_pos_iff_pos_or_pos.mp busy with sent | goes
          · rw [config.contactWeights_item, there channel within] at sent
            by_contra differs
            simp [differs] at sent
          · exact alone _ _ goes
        exact working (by simp) (by simp)
  | work effect =>
      rw [acts] at within working
      intro state rest choice store after result focus
      have connected := congrArg Prod.snd
        ((within choice _ _ _ result).roster other)
      refine focus.holds.mono connected ?_ fun contact busy => ?_
      · simp only [config.contactWeights_thread,
          Configuration.threadWorkers_of_other other]
      · obtain rfl := alone _ _ busy
        exact working (by simp) (by simp)
  | halt => trivial

theorem WorkerConnectionHandler.keepsContacts
    (index : Fin config.maxWorkerConnections)
    (thread : WorkerConnectionHandler config.Worker) :
    KeepsContacts allowed (.workerConnectionHandler index) thread := by
  have pending (thread : WorkerConnectionHandler config.Worker) :
      (config.threadWorkers (.workerConnectionHandler index) thread).2 = 0 := by
    cases thread <;> rfl
  cases thread with
  | loop =>
      refine ⟨fun state rest item _ focus => ?_, fun closing => closing.elim⟩
      refine focus.holds.mono rfl ?_ fun _ busy => by simp at busy
      cases item <;> rfl
  | reading worker =>
      refine ⟨fun state rest item _ focus => ?_, fun closing => closing.elim⟩
      exact focus.holds.mono rfl
        (by simp) fun _ busy => by simp at busy
  | routing worker text =>
      intro state rest choice store after result focus
      obtain ⟨heap, next, handles, _⟩ := handle_cases worker text state.store
      simp only [handles, Option.some.injEq, Prod.mk.injEq] at result
      obtain ⟨rfl, rfl⟩ := result
      exact focus.holds.mono rfl (pending next) fun _ busy => by simp at busy
  | removing worker =>
      intro state rest choice store after result focus
      simp only [Option.ite_none_left_eq_some, Option.some.injEq,
        Prod.mk.injEq] at result
      obtain ⟨_, rfl, rfl⟩ := result
      exact focus.holds.mono rfl (by simp) fun _ busy => by simp at busy
  | producing | lastStop =>
      refine ⟨fun state rest focus => ?_, fun closing => closing.elim⟩
      exact focus.holds.mono rfl (by simp) fun _ busy => by simp at busy
  | ended | failed => trivial

theorem MasterServer.keepsContacts (thread : MasterServer config.Worker) :
    KeepsContacts allowed .masterServer thread := by
  cases thread with
  | listening =>
      intro state rest choice store next result focus
      have kept : config.ContactsKept state.store (rest + 0) state.sent :=
        focus.holds
      rcases accept_cases result with ⟨worker, _, fresh, rfl, rfl⟩ | ⟨_, rfl, rfl⟩
      · intro other contact
        obtain ⟨connected, none⟩ := kept other contact
        have differs : other ≠ worker := fun same => fresh (same ▸ connected)
        exact ⟨List.mem_cons_of_mem _ connected, by simpa [differs] using none⟩
      · exact kept
  | readingPassword worker =>
      intro state rest choice store next result focus
      rcases readPassword_cases result with ⟨rfl, rfl⟩ | ⟨rfl, rfl⟩
      · exact focus.holds
      · intro other contact
        obtain ⟨connected, none⟩ := focus.holds other contact
        have differs : other ≠ worker := by
          rintro rfl
          simp at none
        exact ⟨(List.mem_erase_of_ne differs).mpr connected,
          by simpa [differs] using none⟩
  | adding worker =>
      intro state rest choice store next result focus
      simp only [Option.ite_none_left_eq_some, Option.some.injEq,
        Prod.mk.injEq] at result
      obtain ⟨_, rfl, rfl⟩ := result
      intro other contact
      obtain ⟨connected, none⟩ := focus.holds other contact
      have pending : (rest + (0, Pi.single worker 1)).2 other = 0 := none
      exact ⟨connected, by simpa using (Nat.add_eq_zero_iff.mp pending).1⟩
  | producing worker => exact .of_keeps ⟨trivial, by simp, fun closing => closing.elim⟩
  | stops count =>
      cases count with
      | zero => trivial
      | succ count =>
          exact .of_keeps ⟨trivial, by simp, fun closing => closing.elim⟩

theorem Distributor.eq_of_contact_serialize {shared : Shared config}
    {unit : DataUnit} {worker other : config.Worker}
    (contact : 0 < config.threadContacts .distributor
      (serialize shared unit worker) other) : other = worker := by
  by_contra differs
  unfold serialize at contact
  repeat' split at contact
  all_goals simp [differs] at contact

/-- The distributor turns to workers of the pool, which are not about to be
registered. -/
theorem Distributor.engage {state : config.State} {after : Shared config}
    {thread : Distributor config.Worker}
    {rest seen next : (config.Worker → Nat) × (config.Worker → Nat)}
    {sent : List (Sent (Shared config) config.Item)}
    (known : ∀ node state, allowed node state →
      config.PoolKept state.store (config.poolWeights.total state) state.sent)
    (focus : Focus config.contactWeights allowed config.ContactsKept .distributor
      thread state rest seen)
    (connected : after.connected = state.store.connected)
    (pending : next.2 = seen.2)
    (goes : ∀ worker, 0 < next.1 worker → worker ∈ state.store.pool) :
    config.ContactsKept after (rest + next) sent := by
  intro worker contact
  rw [connected, Prod.snd_add, pending]
  rcases Nat.add_pos_iff_pos_or_pos.mp contact with before | new
  · exact focus.holds worker (Nat.add_pos_left before _)
  · obtain ⟨_, bound, once⟩ := known _ _ focus.permitted worker
    have total : (rest + seen).2 = (config.poolWeights.total state).2 := by
      rw [← focus.total]
      exact (congrArg Prod.snd (Weights.total_prod ..)).trans (Weights.total_map ..)
    have counted := List.count_pos_iff.mpr (goes worker new)
    rw [← Prod.snd_add, total]
    exact ⟨List.count_pos_iff.mp (by omega), by omega⟩

theorem Distributor.keepsContacts (thread : Distributor config.Worker)
    (known : ∀ node state, allowed node state →
      config.PoolKept state.store (config.poolWeights.total state) state.sent) :
    KeepsContacts allowed .distributor thread := by
  cases thread with
  | loop =>
      refine .of_keeps ⟨fun item => ?_, fun closing => closing.elim⟩
      cases item <;> simp
  | consuming unit =>
      intro state rest choice store next result focus
      obtain ⟨rfl, ⟨worker, member, rfl⟩ | rfl⟩ :=
        getRandomWorkerConnection_cases result
      · refine engage known focus rfl ?_ fun other contact => ?_
        · simp
        · rwa [eq_of_contact_serialize contact]
      · exact focus.holds
  | sending worker unit text =>
      exact .of_keeps ⟨trivial, by simp, fun closing => closing.elim⟩
  | producing unit =>
      exact .of_keeps ⟨trivial, by simp, fun closing => closing.elim⟩
  | stopping =>
      intro state rest choice store next result focus
      simp only [Option.ite_none_left_eq_some, Option.some.injEq,
        Prod.mk.injEq] at result
      obtain ⟨_, rfl, rfl⟩ := result
      exact engage known focus rfl (by simp) fun worker contact =>
        List.count_pos_iff.mp contact
  | stoppingWorkers workers =>
      cases workers with
      | nil =>
          refine .of_keeps ?_
          rintro choice store after next ⟨⟩
          exact ⟨rfl, by simp [Pi.zero_def]⟩
      | cons worker workers =>
          refine .of_keeps ⟨trivial, Prod.ext (funext fun other => ?_) rfl,
            fun closing => closing.elim⟩
          by_cases same : other = worker
          · subst same
            simp [Nat.add_comm]
          · simp [same, Ne.symm same]
  | stops count =>
      cases count with
      | zero => trivial
      | succ count =>
          exact .of_keeps ⟨trivial, by simp, fun closing => closing.elim⟩
  | failed => trivial

theorem RequestServer.keepsContacts (worker : config.Worker)
    (thread : config.Thread (.requestServer worker)) :
    KeepsContacts allowed (.requestServer worker) thread := by
  refine .of_worker worker rfl (fun thread other contact => ?_)
    (fun channel used item => ?_) (fun thread unread halted => ?_) thread
  · by_contra differs
    cases thread <;> simp [differs] at contact
  · rcases used with rfl | rfl <;> rfl
  · cases thread with
    | reading => exact (unread _ _ rfl).elim
    | producing | stops | failed => simp

theorem Calculator.keepsWorkContacts (worker : config.Worker)
    (index : Fin (config.workerCalculators worker))
    (thread : config.Thread (.workerCalculator worker index)) :
    KeepsContacts allowed (.workerCalculator worker index) thread := by
  refine .of_worker worker rfl (fun thread other contact => ?_)
    (fun channel used item => ?_) (fun thread unread halted => ?_) thread
  · by_contra differs
    cases thread <;> simp [differs] at contact
  · rcases used with rfl | rfl <;> rfl
  · cases thread with
    | loop => exact (unread _ _ rfl).elim
    | processing | producing | lastStop | ended | failed => simp

theorem ResponseClient.keepsContacts (worker : config.Worker)
    (thread : config.Thread (.responseClient worker))
    (staffed : 0 < config.workerCalculators worker) :
    KeepsContacts allowed (.responseClient worker) thread := by
  refine .of_worker worker rfl (fun thread other contact => ?_)
    (fun channel used item => ?_) (fun thread unread halted => ?_) thread
  · by_contra differs
    simp only [Configuration.threadContacts] at contact
    split at contact <;> simp [differs] at contact
  · rcases used with rfl | rfl <;> rfl
  · have busy : thread ≠ .loop (config.workerCalculators worker) := by
      rintro rfl
      obtain ⟨pending, same⟩ := Nat.exists_eq_succ_of_ne_zero staffed.ne'
      rw [same] at unread
      exact unread _ _ rfl
    simp [busy]

/-- Every step of every thread keeps the contacts. -/
theorem Configuration.keepsContacts
    (staffed : ∀ worker, 0 < config.workerCalculators worker)
    (known : ∀ node state, allowed node state →
      config.PoolKept state.store (config.poolWeights.total state) state.sent)
    (node : Node config) (thread : config.Thread node) :
    KeepsContacts allowed node thread := by
  cases node with
  | distributor => exact Distributor.keepsContacts thread known
  | masterServer => exact MasterServer.keepsContacts thread
  | workerConnectionHandler index =>
      exact WorkerConnectionHandler.keepsContacts index thread
  | requestServer worker => exact RequestServer.keepsContacts worker thread
  | workerCalculator worker index =>
      exact Calculator.keepsWorkContacts worker index thread
  | responseClient worker =>
      exact ResponseClient.keepsContacts worker thread (staffed worker)
  | signalHandler | connectionHandler | clientResponder =>
      refine .of_other rfl (fun _ => rfl) (fun channel used item => ?_) thread
      cases used <;> rfl
  | decomposer | calculator | responseAssembler =>
      refine .of_other rfl (fun _ => rfl) (fun channel used item => ?_) thread
      rcases used with rfl | rfl <;> rfl

end Threads

/-- In every state of every run in which connections stay open, workers at which
something is are registered. -/
theorem Configuration.contactsKept {config : Configuration}
    {capacity : Channel config → Option Nat}
    {allowed : Node config → config.State → Prop} {state : config.State}
    (staffed : ∀ worker, 0 < config.workerCalculators worker)
    (run : Reaches (config.network capacity) False allowed config.start state) :
    config.ContactsKept state.store (config.contactWeights.total state)
      state.sent := by
  have known := run.assuming fun _ reached => config.poolKept reached
  have unclosable :
      (config.network capacity).MayClose False = fun _ => False :=
    funext fun channel => eq_false fun closing => closing.1
  refine known.total_invariant config.ContactsKept (fun _ => rfl) ?_ fun node thread => ?_
  · have empty : config.contactWeights.total config.start = 0 := by
      refine Weights.total_eq_zero _ (fun _ _ member => by cases member)
        (fun node => ?_) fun _ member => by cases member
      cases node <;> first | rfl | simp [start, startThread]
    rw [empty]
    exact fun worker contact => (Nat.lt_irrefl 0 contact).elim
  · rw [unclosable]
    exact config.keepsContacts staffed (fun _ _ permitted => permitted.2) node thread

section Consequences

variable {config : Configuration} {state : config.State} {worker : config.Worker}

theorem Configuration.contacts_pos_of_item {channel : Channel config}
    {item : config.Item channel} (queued : item ∈ state.queue channel)
    (belongs : channelWorker channel = some worker) :
    0 < (config.contactWeights.total state).1 worker := by
  obtain ⟨rest, split⟩ :=
    config.contactWeights.exists_total_eq_item queued .decomposer
  have contact : 0 < config.itemContacts channel item worker := by
    cases channel <;> cases belongs <;> simp
  rw [split, Prod.fst_add, Prod.fst_add, Pi.add_apply, Pi.add_apply]
  simp only [contactWeights_item]
  omega

theorem Configuration.contacts_pos_of_thread (node : Node config)
    (contact : 0 < config.threadContacts node (state.thread node) worker) :
    0 < (config.contactWeights.total state).1 worker := by
  rw [config.contactWeights.total_eq_others state node, Prod.fst_add, Pi.add_apply]
  simp only [contactWeights_thread]
  omega

/-- Where nothing has arrived there is nothing to do. -/
theorem Configuration.threadLoads_of_no_contact {node : Node config}
    (belongs : nodeWorker node = some worker)
    (none : (config.contactWeights.total state).1 worker = 0) :
    config.threadLoads node (state.thread node) = [] := by
  have silent : config.threadContacts node (state.thread node) worker = 0 := by
    by_contra contact
    have pos := contacts_pos_of_thread node (Nat.pos_of_ne_zero contact)
    omega
  cases node with
  | requestServer | workerCalculator =>
      cases belongs
      revert silent
      generalize state.thread _ = thread
      cases thread <;> simp
  | responseClient =>
      cases belongs
      revert silent
      generalize state.thread _ = thread
      cases thread <;> simp
  | _ => cases belongs

end Consequences

end Concurrente.WebServer
