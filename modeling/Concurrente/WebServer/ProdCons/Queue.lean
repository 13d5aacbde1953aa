import Concurrente.Library.NetworkSchedule

/-!
# The thread-safe queue

`enqueue` and `dequeue` take several atomic steps each, and the steps of any
number of threads interleave.  The two semaphores are counted together with
the program counters of all threads: a slot that was taken from `canProduce`
is held by a thread until an element fills it or `canProduce` gets it back,
and likewise for `canConsume`.
-/

namespace Concurrente.WebServer

open Library Network

/-- A semaphore, seen through its value. -/
structure Semaphore where
  value : Nat
deriving DecidableEq, Repr

/-- No result while the calling thread blocks. -/
def Semaphore.wait (semaphore : Semaphore) : Option Semaphore :=
  if semaphore.value = 0 then none else some ⟨semaphore.value - 1⟩

def Semaphore.signal (semaphore : Semaphore) : Semaphore :=
  ⟨semaphore.value + 1⟩

/-- A mutex, seen through its owner. -/
structure Mutex (ThreadId : Type) where
  owner : Option ThreadId
deriving DecidableEq, Repr

def Mutex.lock {ThreadId : Type} (mutex : Mutex ThreadId) (thread : ThreadId) :
    Option (Mutex ThreadId) :=
  match mutex.owner with
  | none => some ⟨some thread⟩
  | some _ => none

def Mutex.unlock {ThreadId : Type} (_ : Mutex ThreadId) : Mutex ThreadId :=
  ⟨none⟩

/-- The queue as the threads share it.  `pushed` and `popped` record the past:
every element that was pushed, with the thread that did it, and every element
that was popped. -/
structure Queue (ThreadId α : Type) where
  mutex : Mutex ThreadId
  canConsume : Semaphore
  queue : List α
  canProduce : Semaphore
  pushed : List (ThreadId × α)
  popped : List α
deriving DecidableEq, Repr

/-- A call of a method of the queue. -/
inductive QueueCall (α : Type) where
  | enqueue (data : α)
  | dequeue
deriving DecidableEq, Repr

/-- The element that a call pushes. -/
def QueueCall.element {α : Type} : QueueCall α → Option α
  | .enqueue data => some data
  | .dequeue => none

/-- Where a thread is between two atomic steps.  `undefined` follows
`front` on an empty queue and `unlock` on a mutex of another thread. -/
inductive QueuePosition (α : Type) where
  | ready
  | producing (data : α)
  | pushing (data : α)
  | pushed
  | signalingConsumers
  | consuming
  | popping
  | popped (result : α)
  | signalingProducers (result : α)
  | undefined
deriving DecidableEq, Repr

/-- A thread: where it is, the calls it still has to make and what its calls of
`dequeue` returned. -/
structure QueueUser (α : Type) where
  position : QueuePosition α
  calls : List (QueueCall α)
  results : List α
deriving DecidableEq, Repr

namespace QueueUser

variable {ThreadId α : Type} [DecidableEq ThreadId]

/-- One atomic step of a thread, unless it blocks or has ended. -/
def step (thread : ThreadId) (user : QueueUser α) (shared : Queue ThreadId α) :
    Option (Queue ThreadId α × QueueUser α) :=
  match user.position with
  | .ready =>
      match user.calls with
      | [] => none
      | .enqueue data :: calls =>
          shared.canProduce.wait.map fun canProduce =>
            ({ shared with canProduce },
              { user with position := .producing data, calls })
      | .dequeue :: calls =>
          shared.canConsume.wait.map fun canConsume =>
            ({ shared with canConsume },
              { user with position := .consuming, calls })
  | .producing data =>
      (shared.mutex.lock thread).map fun mutex =>
        ({ shared with mutex }, { user with position := .pushing data })
  | .pushing data =>
      some ({ shared with
          queue := shared.queue ++ [data]
          pushed := shared.pushed ++ [(thread, data)] },
        { user with position := .pushed })
  | .pushed =>
      if shared.mutex.owner = some thread then
        some ({ shared with mutex := shared.mutex.unlock },
          { user with position := .signalingConsumers })
      else some (shared, { user with position := .undefined })
  | .signalingConsumers =>
      some ({ shared with canConsume := shared.canConsume.signal },
        { user with position := .ready })
  | .consuming =>
      (shared.mutex.lock thread).map fun mutex =>
        ({ shared with mutex }, { user with position := .popping })
  | .popping =>
      match shared.queue with
      | [] => some (shared, { user with position := .undefined })
      | result :: queue =>
          some ({ shared with queue, popped := shared.popped ++ [result] },
            { user with position := .popped result })
  | .popped result =>
      if shared.mutex.owner = some thread then
        some ({ shared with mutex := shared.mutex.unlock },
          { user with position := .signalingProducers result })
      else some (shared, { user with position := .undefined })
  | .signalingProducers result =>
      some ({ shared with canProduce := shared.canProduce.signal },
        { user with
          position := .ready
          results := user.results ++ [result] })
  | .undefined => none

end QueueUser

namespace Queue

variable {ThreadId α : Type} [DecidableEq ThreadId]

/-- The constructor. -/
def init (queueCapacity : Nat) : Queue ThreadId α where
  mutex := ⟨none⟩
  canConsume := ⟨0⟩
  queue := []
  canProduce := ⟨queueCapacity⟩
  pushed := []
  popped := []

/-- The threads have no other channel than the queue itself. -/
abbrev Link : Type := Empty

/-- All threads that use the queue. -/
def users : Network Link (Queue ThreadId α) Unit (Empty.elim : Empty → Type)
    fun _ : ThreadId => QueueUser α where
  act thread user := .work fun _ shared => user.step thread shared
  capacity channel := channel.elim
  link channel := channel.elim

/-- A state of the queue and its threads. -/
abbrev Execution (ThreadId α : Type) : Type :=
  State Link (Queue ThreadId α) (Empty.elim : Empty → Type)
    fun _ : ThreadId => QueueUser α

/-- Before the first call. -/
def start (queueCapacity : Nat) (calls : ThreadId → List (QueueCall α)) :
    Execution ThreadId α where
  queue channel := channel.elim
  thread thread := ⟨.ready, calls thread, []⟩
  store := init queueCapacity
  closed link := link.elim
  sent := []
  lost := []

/-- The states of all interleavings of the threads. -/
def Reachable (queueCapacity : Nat) (calls : ThreadId → List (QueueCall α))
    (state : Execution ThreadId α) : Prop :=
  Reaches users False (fun _ _ => True) (start queueCapacity calls) state

/-- The elements a thread has pushed, in order. -/
def pushedBy (entries : List (ThreadId × α)) (thread : ThreadId) : List α :=
  (entries.filter fun entry => entry.1 = thread).map Prod.snd

end Queue

namespace Semaphore

theorem value_of_wait {semaphore after : Semaphore}
    (waited : semaphore.wait = some after) :
    semaphore.value = after.value + 1 := by
  unfold wait at waited
  split at waited
  · cases waited
  · cases waited
    change semaphore.value = semaphore.value - 1 + 1
    omega

@[simp] theorem signal_value (semaphore : Semaphore) :
    semaphore.signal.value = semaphore.value + 1 := rfl

end Semaphore

theorem Mutex.owner_of_lock {ThreadId : Type} {mutex after : Mutex ThreadId}
    {thread : ThreadId} (locked : mutex.lock thread = some after) :
    mutex.owner = none ∧ after.owner = some thread := by
  unfold lock at locked
  split at locked
  · rename_i free
    cases locked
    exact ⟨free, rfl⟩
  · cases locked

@[simp] theorem Mutex.unlock_owner {ThreadId : Type} (mutex : Mutex ThreadId) :
    mutex.unlock.owner = none := rfl

namespace QueueUser

variable {ThreadId α : Type} [DecidableEq ThreadId] {thread : ThreadId}
  {user next : QueueUser α} {shared after : Queue ThreadId α}

/-- The steps of a thread, one constructor for each statement of the two
methods. -/
inductive Moves (thread : ThreadId) (shared : Queue ThreadId α) :
    QueueUser α → Queue ThreadId α → QueueUser α → Prop where
  | waitToProduce {data calls results canProduce}
      (waited : shared.canProduce.wait = some canProduce) :
      Moves thread shared ⟨.ready, .enqueue data :: calls, results⟩
        { shared with canProduce } ⟨.producing data, calls, results⟩
  | lockToProduce {data calls results mutex}
      (locked : shared.mutex.lock thread = some mutex) :
      Moves thread shared ⟨.producing data, calls, results⟩
        { shared with mutex } ⟨.pushing data, calls, results⟩
  | push {data calls results} :
      Moves thread shared ⟨.pushing data, calls, results⟩
        { shared with
          queue := shared.queue ++ [data]
          pushed := shared.pushed ++ [(thread, data)] }
        ⟨.pushed, calls, results⟩
  | unlockPushed {calls results} (owns : shared.mutex.owner = some thread) :
      Moves thread shared ⟨.pushed, calls, results⟩
        { shared with mutex := shared.mutex.unlock }
        ⟨.signalingConsumers, calls, results⟩
  | signalConsumers {calls results} :
      Moves thread shared ⟨.signalingConsumers, calls, results⟩
        { shared with canConsume := shared.canConsume.signal }
        ⟨.ready, calls, results⟩
  | waitToConsume {calls results canConsume}
      (waited : shared.canConsume.wait = some canConsume) :
      Moves thread shared ⟨.ready, .dequeue :: calls, results⟩
        { shared with canConsume } ⟨.consuming, calls, results⟩
  | lockToConsume {calls results mutex}
      (locked : shared.mutex.lock thread = some mutex) :
      Moves thread shared ⟨.consuming, calls, results⟩
        { shared with mutex } ⟨.popping, calls, results⟩
  | pop {result queue calls results} (filled : shared.queue = result :: queue) :
      Moves thread shared ⟨.popping, calls, results⟩
        { shared with queue, popped := shared.popped ++ [result] }
        ⟨.popped result, calls, results⟩
  | unlockPopped {result calls results}
      (owns : shared.mutex.owner = some thread) :
      Moves thread shared ⟨.popped result, calls, results⟩
        { shared with mutex := shared.mutex.unlock }
        ⟨.signalingProducers result, calls, results⟩
  | signalProducers {result calls results} :
      Moves thread shared ⟨.signalingProducers result, calls, results⟩
        { shared with canProduce := shared.canProduce.signal }
        ⟨.ready, calls, results ++ [result]⟩

/-- A step that the language does not define. -/
inductive Breaks (thread : ThreadId) (shared : Queue ThreadId α) :
    QueueUser α → Prop where
  | front {calls results} (empty : shared.queue = []) :
      Breaks thread shared ⟨.popping, calls, results⟩
  | unlockPushed {calls results} (foreign : shared.mutex.owner ≠ some thread) :
      Breaks thread shared ⟨.pushed, calls, results⟩
  | unlockPopped {result calls results}
      (foreign : shared.mutex.owner ≠ some thread) :
      Breaks thread shared ⟨.popped result, calls, results⟩

/-- Everything a thread can do in one step. -/
theorem moves_or_breaks
    (result : user.step thread shared = some (after, next)) :
    Moves thread shared user after next ∨
      Breaks thread shared user ∧ after = shared ∧
        next = { user with position := .undefined } := by
  obtain ⟨position, calls, results⟩ := user
  cases position with
  | ready =>
      cases calls with
      | nil => cases result
      | cons call calls =>
          cases call with
          | enqueue data =>
              obtain ⟨canProduce, waited, same⟩ := Option.map_eq_some_iff.mp result
              cases same
              exact .inl (.waitToProduce waited)
          | dequeue =>
              obtain ⟨canConsume, waited, same⟩ := Option.map_eq_some_iff.mp result
              cases same
              exact .inl (.waitToConsume waited)
  | producing data =>
      obtain ⟨mutex, locked, same⟩ := Option.map_eq_some_iff.mp result
      cases same
      exact .inl (.lockToProduce locked)
  | pushing data =>
      cases result
      exact .inl .push
  | pushed =>
      by_cases owns : shared.mutex.owner = some thread
      · simp only [step, if_pos owns] at result
        cases result
        exact .inl (.unlockPushed owns)
      · simp only [step, if_neg owns] at result
        cases result
        exact .inr ⟨.unlockPushed owns, rfl, rfl⟩
  | signalingConsumers =>
      cases result
      exact .inl .signalConsumers
  | consuming =>
      obtain ⟨mutex, locked, same⟩ := Option.map_eq_some_iff.mp result
      cases same
      exact .inl (.lockToConsume locked)
  | popping =>
      cases filled : shared.queue with
      | nil =>
          simp only [step, filled] at result
          cases result
          exact .inr ⟨.front filled, rfl, rfl⟩
      | cons first queue =>
          simp only [step, filled] at result
          cases result
          exact .inl (.pop filled)
  | popped value =>
      by_cases owns : shared.mutex.owner = some thread
      · simp only [step, if_pos owns] at result
        cases result
        exact .inl (.unlockPopped owns)
      · simp only [step, if_neg owns] at result
        cases result
        exact .inr ⟨.unlockPopped owns, rfl, rfl⟩
  | signalingProducers value =>
      cases result
      exact .inl .signalProducers
  | undefined => cases result

/-- Between `lock` and `unlock`; a thread that has called `front` on an empty
queue never unlocks. -/
def Inside (user : QueueUser α) : Prop :=
  match user.position with
  | .pushing _ | .pushed | .popping | .popped _ | .undefined => True
  | _ => False

/-- The slots of the queue that a thread holds, the elements, and one for a
thread that has broken the rules. -/
def held (user : QueueUser α) : Nat × Nat × Nat :=
  match user.position with
  | .producing _ | .pushing _ | .popped _ | .signalingProducers _ => (1, 0, 0)
  | .pushed | .signalingConsumers | .consuming | .popping => (0, 1, 0)
  | .undefined => (0, 0, 1)
  | .ready => 0

/-- What a thread has still to push: its current element, then those of the
calls that it has not made yet. -/
def unpushed (user : QueueUser α) : List α :=
  (match user.position with
    | .producing data | .pushing data => [data]
    | _ => []) ++
  user.calls.filterMap QueueCall.element

end QueueUser

namespace Queue

variable {ThreadId α : Type} [DecidableEq ThreadId]

/-- What holds of the queue and of what all threads hold together. -/
structure Kept (queueCapacity : Nat) (shared : Queue ThreadId α)
    (held : Nat × Nat × Nat) : Prop where
  slots : shared.canProduce.value + held.1 + shared.queue.length = queueCapacity
  items : shared.canConsume.value + held.2.1 = shared.queue.length
  defined : held.2.2 = 0
  order : shared.popped ++ shared.queue = shared.pushed.map Prod.snd

/-- What holds of one thread: it owns the mutex exactly while it is between
`lock` and `unlock`, and it has pushed what its calls ask for. -/
structure Owns (calls : ThreadId → List (QueueCall α)) (thread : ThreadId)
    (user : QueueUser α) (shared : Queue ThreadId α) : Prop where
  inside : user.Inside ↔ shared.mutex.owner = some thread
  pushed : pushedBy shared.pushed thread ++ user.unpushed =
    (calls thread).filterMap QueueCall.element

section Steps

variable {queueCapacity : Nat} {calls : ThreadId → List (QueueCall α)}
  {thread : ThreadId} {user next : QueueUser α} {shared after : Queue ThreadId α}
  {rest : Nat × Nat × Nat}

omit [DecidableEq ThreadId] in
/-- A thread that holds an element or owns the mutex breaks no rule. -/
theorem Kept.not_breaks (kept : Kept queueCapacity shared (rest + user.held))
    (inside : user.Inside ↔ shared.mutex.owner = some thread) :
    ¬ user.Breaks thread shared := by
  intro breaks
  cases breaks with
  | front empty =>
      have items := kept.items
      simp [QueueUser.held, empty] at items
  | unlockPushed foreign => exact foreign (inside.mp trivial)
  | unlockPopped foreign => exact foreign (inside.mp trivial)

omit [DecidableEq ThreadId] in
theorem Kept.moves (kept : Kept queueCapacity shared (rest + user.held))
    (moves : user.Moves thread shared after next) :
    Kept queueCapacity after (rest + next.held) := by
  obtain ⟨slots, items, defined, order⟩ := kept
  obtain ⟨freeSlots, elements, broken⟩ := rest
  cases moves with
  | waitToProduce waited =>
      have value := Semaphore.value_of_wait waited
      simp only [QueueUser.held, Prod.mk_add_mk, add_zero] at *
      constructor
      · dsimp only
        omega
      · exact items
      · exact defined
      · exact order
  | waitToConsume waited =>
      have value := Semaphore.value_of_wait waited
      simp only [QueueUser.held, Prod.mk_add_mk, add_zero] at *
      constructor
      · exact slots
      · dsimp only
        omega
      · exact defined
      · exact order
  | push =>
      simp only [QueueUser.held, Prod.mk_add_mk, add_zero] at *
      constructor
      · simp only [List.length_append, List.length_singleton]
        omega
      · simp only [List.length_append, List.length_singleton]
        omega
      · exact defined
      · rw [← List.append_assoc, order, List.map_append, List.map_singleton]
  | pop filled =>
      simp only [QueueUser.held, Prod.mk_add_mk, add_zero, filled,
        List.length_cons] at *
      constructor
      · dsimp only
        omega
      · dsimp only
        omega
      · exact defined
      · rw [← order, List.append_assoc, List.singleton_append]
  | signalConsumers =>
      simp only [QueueUser.held, Prod.mk_add_mk, add_zero] at *
      constructor
      · exact slots
      · simp only [Semaphore.signal_value]
        omega
      · exact defined
      · exact order
  | signalProducers =>
      simp only [QueueUser.held, Prod.mk_add_mk, add_zero] at *
      constructor
      · simp only [Semaphore.signal_value]
        omega
      · exact items
      · exact defined
      · exact order
  | lockToProduce | lockToConsume | unlockPushed | unlockPopped =>
      exact ⟨slots, items, defined, order⟩

/-- The thread that steps. -/
theorem Owns.moves (owns : Owns calls thread user shared)
    (moves : user.Moves thread shared after next) :
    Owns calls thread next after := by
  obtain ⟨inside, pushed⟩ := owns
  cases moves with
  | waitToProduce => exact ⟨inside, pushed⟩
  | waitToConsume => exact ⟨inside, pushed⟩
  | lockToProduce locked | lockToConsume locked =>
      exact ⟨iff_of_true trivial (Mutex.owner_of_lock locked).2, pushed⟩
  | unlockPushed | unlockPopped =>
      exact ⟨iff_of_false id (by simp), pushed⟩
  | push =>
      refine ⟨inside, ?_⟩
      rw [← pushed]
      simp [pushedBy, QueueUser.unpushed]
  | pop => exact ⟨inside, pushed⟩
  | signalConsumers | signalProducers => exact ⟨inside, pushed⟩

/-- The other threads. -/
theorem Owns.other {other : ThreadId} {idle : QueueUser α} (ne : other ≠ thread)
    (inside : user.Inside ↔ shared.mutex.owner = some thread)
    (moves : user.Moves thread shared after next)
    (owns : Owns calls other idle shared) : Owns calls other idle after := by
  have ne' : some thread ≠ some other := by simpa using ne.symm
  cases moves with
  | waitToProduce | waitToConsume | signalConsumers | signalProducers | pop =>
      exact ⟨owns.inside, owns.pushed⟩
  | lockToProduce locked | lockToConsume locked =>
      obtain ⟨free, mine⟩ := Mutex.owner_of_lock locked
      refine ⟨owns.inside.trans ?_, owns.pushed⟩
      simp [free, mine, ne']
  | unlockPushed mine | unlockPopped mine =>
      refine ⟨owns.inside.trans ?_, owns.pushed⟩
      simp [mine, ne']
  | push =>
      refine ⟨owns.inside, ?_⟩
      rw [← owns.pushed]
      simp [pushedBy, ne.symm]

/-- A thread that breaks a rule although it owns what it should. -/
theorem Owns.breaks (owns : Owns calls thread user shared)
    (breaks : user.Breaks thread shared) :
    Owns calls thread { user with position := .undefined } shared := by
  obtain ⟨inside, pushed⟩ := owns
  cases breaks with
  | front => exact ⟨inside, pushed⟩
  | unlockPushed foreign => exact (foreign (inside.mp trivial)).elim
  | unlockPopped foreign => exact (foreign (inside.mp trivial)).elim

end Steps

section Runs

variable {queueCapacity : Nat} {calls : ThreadId → List (QueueCall α)}
  {state : Execution ThreadId α}

theorem Reachable.owns (run : Reachable queueCapacity calls state)
    (thread : ThreadId) :
    Owns calls thread (state.thread thread) state.store := by
  refine Reaches.secured run ?_ ?_ thread
  · intro thread
    constructor
    · simp [QueueUser.Inside, start, init]
    · simp [start, init, pushedBy, QueueUser.unpushed]
  · intro thread user choice shared after next result owns
    rcases QueueUser.moves_or_breaks result with moves | ⟨breaks, same, ended⟩
    · exact ⟨owns.moves moves, fun other ne idle =>
        Owns.other ne owns.inside moves⟩
    · subst same ended
      exact ⟨owns.breaks breaks, fun other _ idle known => known⟩

variable [Fintype ThreadId]

/-- What the threads hold. -/
def heldWeights : Weights Empty.elim (fun _ : ThreadId => QueueUser α)
    (Nat × Nat × Nat) where
  item channel := channel.elim
  thread _ user := user.held
  lost _ _ _ := 0

theorem Reachable.kept (run : Reachable queueCapacity calls state) :
    Kept queueCapacity state.store (heldWeights.total state) := by
  have known := Reaches.assuming run fun state run => Reachable.owns run
  refine known.total_invariant (fun shared held _ => Kept queueCapacity shared held)
    (fun link => link.elim) ?_ ?_
  · have none : heldWeights.total (start queueCapacity calls) = 0 := by
      apply Weights.total_eq_zero
      · intro channel
        exact channel.elim
      · intro thread
        rfl
      · intro entry member
        cases member
    rw [none]
    constructor
    · rfl
    · rfl
    · rfl
    · rfl
  · intro thread user state rest choice after next result focus
    have inside := (focus.permitted.2 thread).inside
    rw [focus.acting] at inside
    rcases QueueUser.moves_or_breaks result with moves | ⟨breaks, _⟩
    · exact focus.holds.moves moves
    · exact (focus.holds.not_breaks inside breaks).elim

/-- Before each step of a thread: the rest of the threads, and the thread. -/
theorem Reachable.focus (run : Reachable queueCapacity calls state)
    (thread : ThreadId) :
    Kept queueCapacity state.store
      (heldWeights.others state thread + (state.thread thread).held) := by
  have kept := run.kept
  rwa [heldWeights.total_eq_others state thread] at kept

/-- In every interleaving of any number of threads: no thread calls `front` on
an empty queue or breaks another rule, at most one thread is between `lock` and
`unlock`, the queue does not outgrow its capacity, what was popped and what is
still queued is what was pushed, in this order, and the elements of each thread
are popped in the order of its calls of `enqueue`. -/
theorem Reachable.fifo (run : Reachable queueCapacity calls state) :
    (∀ thread, (state.thread thread).position ≠ .undefined ∧
      ((state.thread thread).position = .popping → state.store.queue ≠ [])) ∧
    (∀ first second, (state.thread first).Inside →
      (state.thread second).Inside → first = second) ∧
    state.store.queue.length ≤ queueCapacity ∧
    state.store.popped ++ state.store.queue = state.store.pushed.map Prod.snd ∧
    ∀ thread,
      pushedBy (state.store.pushed.take state.store.popped.length) thread <+:
        (calls thread).filterMap QueueCall.element := by
  have kept := run.kept
  refine ⟨fun thread => ⟨?_, ?_⟩, ?_, ?_, kept.order, ?_⟩
  · intro broken
    have defined := (run.focus thread).defined
    simp [QueueUser.held, broken] at defined
  · intro popping empty
    have items := (run.focus thread).items
    simp [QueueUser.held, popping, empty] at items
  · intro first second one other
    have same := ((run.owns first).inside.mp one).symm.trans
      ((run.owns second).inside.mp other)
    exact Option.some.inj same
  · have slots := kept.slots
    omega
  · intro thread
    rw [← (run.owns thread).pushed]
    refine List.IsPrefix.trans ?_ (List.prefix_append _ _)
    exact ((List.take_prefix _ _).filter _).map _

end Runs

/-- A producer and a consumer. -/
def sampleCalls : Bool → List (QueueCall Nat)
  | true => [.enqueue 7, .enqueue 8]
  | false => [.dequeue]

/-- The producer has to wait for the consumer before its second element. -/
def sampleState : Option (Execution Bool Nat) :=
  users.exec false (fun _ _ => true)
    ((List.replicate 5 true ++ List.replicate 5 false ++ List.replicate 3 true).map
      fun thread => .step thread () true) (start 1 sampleCalls)

theorem Reachable.fifo_sample :
    ∃ state ∈ sampleState, state.store.popped = [7] ∧
      state.store.queue.length ≤ 1 ∧
      state.store.popped ++ state.store.queue =
        state.store.pushed.map Prod.snd := by
  have works : sampleState.any (fun state => state.store.popped = [7]) = true := by
    decide
  obtain ⟨state, result, run, popped⟩ :=
    Reaches.exists_of_exec False (by decide) (fun _ _ _ => trivial) works
  have fifo := Reachable.fifo run
  exact ⟨state, result, popped, fifo.2.2.1, fifo.2.2.2.1⟩

end Queue

end Concurrente.WebServer
