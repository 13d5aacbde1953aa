import Concurrente.WebServer.ProdCons.Queue

/-!
# The queue as its users see it

To its users a call of the queue is one step: an element appears behind the
others while there is room, or the first element disappears.  The calls of
`enqueue` and `dequeue` take place when they push and when they pop, between
their first and their last statement.
-/

namespace Concurrente.WebServer

open Library Network

/-- The calls a thread still has to make and what its calls returned. -/
structure AtomicUser (α : Type) where
  calls : List (QueueCall α)
  results : List α

/-- A bounded queue whose calls are atomic. -/
structure AtomicQueue (ThreadId α : Type) where
  queue : List α
  user : ThreadId → AtomicUser α

namespace AtomicQueue

variable {ThreadId α : Type} [DecidableEq ThreadId]

/-- A whole call of a thread. -/
inductive Performs (queueCapacity : Nat) (thread : ThreadId)
    (before : AtomicQueue ThreadId α) : AtomicQueue ThreadId α → Prop where
  | enqueue {data : α} {calls : List (QueueCall α)} {results : List α}
      (calling : before.user thread = ⟨.enqueue data :: calls, results⟩)
      (room : before.queue.length < queueCapacity) :
      Performs queueCapacity thread before
        ⟨before.queue ++ [data],
          Function.update before.user thread ⟨calls, results⟩⟩
  | dequeue {result : α} {queue : List α} {calls : List (QueueCall α)}
      {results : List α}
      (calling : before.user thread = ⟨.dequeue :: calls, results⟩)
      (filled : before.queue = result :: queue) :
      Performs queueCapacity thread before
        ⟨queue, Function.update before.user thread ⟨calls, results ++ [result]⟩⟩

def start (calls : ThreadId → List (QueueCall α)) : AtomicQueue ThreadId α :=
  ⟨[], fun thread => ⟨calls thread, []⟩⟩

/-- The runs of the atomic queue. -/
def Reachable (queueCapacity : Nat) (calls : ThreadId → List (QueueCall α)) :
    AtomicQueue ThreadId α → Prop :=
  Relation.ReflTransGen
    (fun before after => ∃ thread, Performs queueCapacity thread before after)
    (start calls)

end AtomicQueue

/-- How many of the calls push an element. -/
def QueueCall.enqueues {α : Type} (calls : List (QueueCall α)) : Nat :=
  (calls.filterMap QueueCall.element).length

/-- How many of the calls pop an element. -/
def QueueCall.dequeues {α : Type} (calls : List (QueueCall α)) : Nat :=
  calls.countP fun call => call.element.isNone

namespace QueueCall

variable {α : Type} {data : α} {calls : List (QueueCall α)}

@[simp] theorem enqueues_nil : enqueues ([] : List (QueueCall α)) = 0 := rfl

@[simp] theorem dequeues_nil : dequeues ([] : List (QueueCall α)) = 0 := rfl

@[simp] theorem enqueues_enqueue :
    enqueues (.enqueue data :: calls) = enqueues calls + 1 := by
  simp [enqueues, element]

@[simp] theorem enqueues_dequeue :
    enqueues (.dequeue :: calls) = enqueues calls := rfl

@[simp] theorem dequeues_enqueue :
    dequeues (.enqueue data :: calls) = dequeues calls := by
  simp [dequeues, element]

@[simp] theorem dequeues_dequeue :
    dequeues (.dequeue :: calls) = dequeues calls + 1 := by
  simp [dequeues, element]

theorem enqueues_le_of_suffix {remaining : List (QueueCall α)}
    (suffix : remaining <:+ calls) : enqueues remaining ≤ enqueues calls :=
  (suffix.sublist.filterMap element).length_le

theorem dequeues_le_of_suffix {remaining : List (QueueCall α)}
    (suffix : remaining <:+ calls) : dequeues remaining ≤ dequeues calls :=
  suffix.sublist.countP_le

end QueueCall

/-! ## Refinement -/

/-- What a user sees of a thread: its call has taken place once the element was
pushed or popped. -/
def QueueUser.seen {α : Type} (user : QueueUser α) : AtomicUser α :=
  match user.position with
  | .producing data | .pushing data =>
      ⟨.enqueue data :: user.calls, user.results⟩
  | .consuming | .popping => ⟨.dequeue :: user.calls, user.results⟩
  | .popped result | .signalingProducers result =>
      ⟨user.calls, user.results ++ [result]⟩
  | .ready | .pushed | .signalingConsumers | .undefined =>
      ⟨user.calls, user.results⟩

namespace Queue

variable {ThreadId α : Type} [DecidableEq ThreadId] {queueCapacity : Nat}
  {calls : ThreadId → List (QueueCall α)} {state after : Execution ThreadId α}

/-- What the users see of a state. -/
def seen (state : Execution ThreadId α) : AtomicQueue ThreadId α :=
  ⟨state.store.queue, fun thread => (state.thread thread).seen⟩

theorem seen_users_update (state : Execution ThreadId α) (thread : ThreadId)
    (next : QueueUser α) :
    (fun other => (Function.update state.thread thread next other).seen) =
      Function.update (seen state).user thread next.seen := by
  funext other
  by_cases same : other = thread
  · subst same
    simp
  · simp [same, seen]

/-- A step of a thread that leaves what its user sees and the elements alone. -/
theorem seen_eq_of_quiet {thread : ThreadId} {user next : QueueUser α}
    {shared : Queue ThreadId α} (acting : state.thread thread = user)
    (same : next.seen = user.seen) (elements : shared.queue = state.store.queue) :
    (⟨shared.queue, fun other =>
        (Function.update state.thread thread next other).seen⟩ :
      AtomicQueue ThreadId α) = seen state := by
  have unchanged : (seen state).user thread = next.seen :=
    (congrArg QueueUser.seen acting).trans same.symm
  rw [seen_users_update, elements, ← unchanged, Function.update_eq_self]
  rfl

/-- The steps of the threads, one constructor for each statement. -/
theorem moves_of_step [Fintype ThreadId]
    (run : Reachable queueCapacity calls state) {thread : ThreadId}
    (step : Step users thread state after) :
    ∃ shared next, QueueUser.Moves thread state.store (state.thread thread)
        shared next ∧
      after = { state with
        store := shared
        thread := Function.update state.thread thread next } := by
  cases step with
  | receive acts | receiveClosed acts | send acts | sendClosed acts => cases acts
  | @work effect choice shared next acts result =>
      cases acts
      refine ⟨shared, next, ?_, rfl⟩
      rcases QueueUser.moves_or_breaks result with moves | ⟨breaks, _⟩
      · exact moves
      · exact ((run.focus thread).not_breaks (run.owns thread).inside breaks).elim

/-- Of the statements of a call only one is seen, and it is the whole call. -/
theorem seen_step [Fintype ThreadId] (run : Reachable queueCapacity calls state)
    {thread : ThreadId} (step : Step users thread state after) :
    seen after = seen state ∨
      AtomicQueue.Performs queueCapacity thread (seen state) (seen after) := by
  obtain ⟨shared, next, moves, rfl⟩ := moves_of_step run step
  have kept := run.focus thread
  generalize acting : state.thread thread = user at moves kept
  have unseen (same : next.seen = user.seen)
      (elements : shared.queue = state.store.queue) :
      seen { state with
        store := shared
        thread := Function.update state.thread thread next } = seen state :=
    seen_eq_of_quiet acting same elements
  cases moves with
  | waitToProduce | lockToProduce | unlockPushed | signalConsumers
  | waitToConsume | lockToConsume | unlockPopped | signalProducers =>
      exact .inl (unseen rfl rfl)
  | @push data remaining results =>
      right
      have calling : (seen state).user thread =
          ⟨.enqueue data :: remaining, results⟩ :=
        congrArg QueueUser.seen acting
      have slots := kept.slots
      simp only [QueueUser.held, Prod.fst_add] at slots
      have room : (seen state).queue.length < queueCapacity := by
        change state.store.queue.length < queueCapacity
        omega
      have performed := AtomicQueue.Performs.enqueue calling room
      simp only [seen, seen_users_update] at performed ⊢
      exact performed
  | @pop result queue remaining results filled =>
      right
      have calling : (seen state).user thread = ⟨.dequeue :: remaining, results⟩ :=
        congrArg QueueUser.seen acting
      have performed : AtomicQueue.Performs queueCapacity thread (seen state) _ :=
        .dequeue calling filled
      simp only [seen, seen_users_update] at performed ⊢
      exact performed

theorem Reachable.atomic [Fintype ThreadId]
    (run : Reachable queueCapacity calls state) :
    AtomicQueue.Reachable queueCapacity calls (seen state) := by
  induction run with
  | refl => exact .refl
  | tail run move ih =>
      cases move with
      | close faulty => exact faulty.elim
      | step _ step =>
          rcases seen_step run step with same | performed
          · rw [same]
            exact ih
          · exact ih.tail ⟨_, performed⟩

/-- In every interleaving of any number of threads, for every capacity: what
the users see is a state of a bounded queue whose calls are atomic, and each
statement of a thread is invisible or is a whole call of this thread, between
the first and the last statement of the call. -/
theorem Reachable.linearizable [Fintype ThreadId]
    (run : Reachable queueCapacity calls state) :
    AtomicQueue.Reachable queueCapacity calls (seen state) ∧
      ∀ thread after, Step users thread state after →
        seen after = seen state ∨
          AtomicQueue.Performs queueCapacity thread (seen state) (seen after) := by
  constructor
  · exact run.atomic
  · intro thread after step
    exact seen_step run step

theorem Reachable.linearizable_sample :
    ∃ state ∈ sampleState, (seen state).queue = [8] ∧
      AtomicQueue.Reachable 1 sampleCalls (seen state) := by
  have works : sampleState.any (fun state => state.store.queue = [8]) = true := by
    decide
  obtain ⟨state, result, run, queue⟩ :=
    Reaches.exists_of_exec False (by decide) (fun _ _ _ => trivial) works
  exact ⟨state, result, queue, (Reachable.linearizable run).1⟩

end Queue

/-! ## Counting calls -/

namespace AtomicQueue

variable {ThreadId α : Type} [DecidableEq ThreadId] [Fintype ThreadId]
  {queueCapacity : Nat} {calls : ThreadId → List (QueueCall α)}
  {state : AtomicQueue ThreadId α}

/-- A sum over the threads after one of them has made a call. -/
theorem sum_user_update (weight : AtomicUser α → Nat)
    (users : ThreadId → AtomicUser α) (thread : ThreadId) (next : AtomicUser α) :
    (∑ other, weight (Function.update users thread next other)) +
        weight (users thread) =
      (∑ other, weight (users other)) + weight next := by
  have changed := sum_update (fun _ : ThreadId => weight) users thread next
  have whole := Finset.add_sum_erase Finset.univ
    (fun other => weight (users other)) (Finset.mem_univ thread)
  omega

omit [Fintype ThreadId] in
theorem Reachable.suffix (run : Reachable queueCapacity calls state)
    (thread : ThreadId) : (state.user thread).calls <:+ calls thread := by
  induction run with
  | refl => exact List.suffix_rfl
  | @tail before after _ performed ih =>
      obtain ⟨caller, performed⟩ := performed
      by_cases same : thread = caller
      · subst same
        cases performed with
        | enqueue calling | dequeue calling =>
            rw [calling] at ih
            simpa using (List.suffix_cons _ _).trans ih
      · cases performed <;> simpa [same] using ih

/-- Elements that were pushed are queued or were popped. -/
theorem Reachable.balance (run : Reachable queueCapacity calls state) :
    state.queue.length + (∑ thread, QueueCall.dequeues (calls thread)) +
        (∑ thread, QueueCall.enqueues (state.user thread).calls) =
      (∑ thread, QueueCall.enqueues (calls thread)) +
        ∑ thread, QueueCall.dequeues (state.user thread).calls := by
  induction run with
  | refl => simp [start, Nat.add_comm]
  | @tail before after _ performed ih =>
      obtain ⟨thread, performed⟩ := performed
      cases performed with
      | @enqueue data remaining results calling =>
          have pushes := sum_user_update (fun user => QueueCall.enqueues user.calls)
            before.user thread ⟨remaining, results⟩
          have pops := sum_user_update (fun user => QueueCall.dequeues user.calls)
            before.user thread ⟨remaining, results⟩
          simp only [calling, QueueCall.enqueues_enqueue,
            QueueCall.dequeues_enqueue] at pushes pops
          simp only [List.length_append, List.length_singleton]
          omega
      | @dequeue result queue remaining results calling filled =>
          have pushes := sum_user_update (fun user => QueueCall.enqueues user.calls)
            before.user thread ⟨remaining, results ++ [result]⟩
          have pops := sum_user_update (fun user => QueueCall.dequeues user.calls)
            before.user thread ⟨remaining, results ++ [result]⟩
          simp only [calling, QueueCall.enqueues_dequeue,
            QueueCall.dequeues_dequeue] at pushes pops
          simp only [filled, List.length_cons] at ih
          dsimp only
          omega

end AtomicQueue

end Concurrente.WebServer
