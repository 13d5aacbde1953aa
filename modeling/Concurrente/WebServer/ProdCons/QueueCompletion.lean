import Concurrente.Library.NetworkBudget
import Concurrente.WebServer.ProdCons.AtomicQueue

/-!
# Calls that return

Every statement of a call lowers the number of statements that are left, so the
threads of a queue always come to rest.  Where they rest, they have made all
their calls, or wait in front of a queue that is full or empty.
-/

namespace Concurrente.WebServer

open Library Network

namespace QueueUser

variable {ThreadId α : Type} [DecidableEq ThreadId] {thread : ThreadId}
  {user next : QueueUser α} {shared after : Queue ThreadId α}

/-- How many statements a thread has still to execute. -/
def remaining (user : QueueUser α) : Nat :=
  (match user.position with
    | .producing _ | .consuming => 4
    | .pushing _ | .popping => 3
    | .pushed | .popped _ => 2
    | .signalingConsumers | .signalingProducers _ => 1
    | .ready | .undefined => 0) + 5 * user.calls.length

theorem remaining_of_step
    (result : user.step thread shared = some (after, next)) :
    next.remaining < user.remaining := by
  rcases moves_or_breaks result with moves | ⟨breaks, _, rfl⟩
  · cases moves <;> simp [remaining] <;> omega
  · cases breaks <;> simp [remaining]

end QueueUser

namespace Queue

variable {ThreadId α : Type} [DecidableEq ThreadId] [Fintype ThreadId]
  {queueCapacity : Nat} {calls : ThreadId → List (QueueCall α)}
  {state last : Execution ThreadId α}

/-- What the threads have still to do. -/
def remainingWeights : Weights Empty.elim (fun _ : ThreadId => QueueUser α) Nat where
  item channel := channel.elim
  thread _ user := user.remaining
  lost _ _ _ := 0

/-- A step of some thread. -/
def Steps (before after : Execution ThreadId α) : Prop :=
  ∃ thread, Step users thread before after

theorem Steps.budget_lt {before after : Execution ThreadId α}
    (step : Steps before after) :
    budget (fun _ => remainingWeights) after <
      budget (fun _ => remainingWeights) before := by
  obtain ⟨thread, step⟩ := step
  have spends : Spends (fun _ => remainingWeights) (fun _ _ => True) before.store
      thread (before.thread thread) (users.act thread (before.thread thread)) := by
    intro choice shared next result _
    constructor
    · exact .refl _
    · exact QueueUser.remaining_of_step result
  exact step.budget_lt spends trivial

omit [Fintype ThreadId] in
theorem Reachable.of_steps
    (run : Relation.ReflTransGen Steps (start queueCapacity calls) state) :
    Reachable queueCapacity calls state := by
  induction run with
  | refl => exact .refl
  | tail _ step ih =>
      obtain ⟨thread, step⟩ := step
      exact ih.tail (.step trivial step)

omit [DecidableEq ThreadId] in
theorem budget_start :
    budget (fun _ => remainingWeights) (start queueCapacity calls) =
      5 * ∑ thread, (calls thread).length := by
  simp [budget, Weights.total, remainingWeights, start, QueueUser.remaining,
    Finset.mul_sum]

omit [Fintype ThreadId] in
theorem Steps.of_step {thread : ThreadId} {shared : Queue ThreadId α}
    {next : QueueUser α}
    (result : (state.thread thread).step thread state.store = some (shared, next)) :
    ∃ after, Steps state after :=
  ⟨_, thread, @Step.work _ _ _ _ _ _ _ _ _ users thread state _ () _ _ rfl result⟩

/-- A thread of a queue in which no thread can take a step has made all its
calls, or waits for room or for an element. -/
inductive Waits (queueCapacity : Nat) (queue : List α) : QueueUser α → Prop where
  | done {results : List α} : Waits queueCapacity queue ⟨.ready, [], results⟩
  | full {data : α} {calls : List (QueueCall α)} {results : List α}
      (full : queue.length = queueCapacity) :
      Waits queueCapacity queue ⟨.ready, .enqueue data :: calls, results⟩
  | empty {calls : List (QueueCall α)} {results : List α} (empty : queue = []) :
      Waits queueCapacity queue ⟨.ready, .dequeue :: calls, results⟩

omit [Fintype ThreadId] in
theorem step_eq_none (stuck : ∀ after, ¬ Steps state after) (thread : ThreadId) :
    (state.thread thread).step thread state.store = none := by
  by_contra moves
  obtain ⟨⟨shared, next⟩, result⟩ := Option.ne_none_iff_exists'.mp moves
  obtain ⟨after, step⟩ := Steps.of_step result
  exact stuck after step

section Stuck

variable (run : Reachable queueCapacity calls state)
  (stuck : ∀ after, ¬ Steps state after)

include run stuck

/-- The owner of the mutex can always take a step. -/
theorem mutex_free : state.store.mutex.owner = none := by
  cases owner : state.store.mutex.owner with
  | none => rfl
  | some thread =>
      have inside := (run.owns thread).inside.mpr owner
      have defined := (run.focus thread).defined
      have none := step_eq_none stuck thread
      generalize state.thread thread = user at inside defined none
      obtain ⟨position, remaining, results⟩ := user
      cases position with
      | ready | producing | signalingConsumers | consuming
      | signalingProducers => exact inside.elim
      | pushing => cases none
      | pushed | popped => simp [QueueUser.step, owner] at none
      | popping => cases elements : state.store.queue <;>
          simp [QueueUser.step, elements] at none
      | undefined => simp [QueueUser.held] at defined

theorem ready_of_stuck (thread : ThreadId) :
    (state.thread thread).position = .ready := by
  have free := mutex_free run stuck
  have outside : ¬ (state.thread thread).Inside := by
    rw [(run.owns thread).inside, free]
    simp
  have none := step_eq_none stuck thread
  generalize state.thread thread = user at outside none
  obtain ⟨position, remaining, results⟩ := user
  cases position with
  | ready => rfl
  | producing | consuming =>
      simp [QueueUser.step, Mutex.lock, free] at none
  | signalingConsumers | signalingProducers => cases none
  | pushing | pushed | popping | popped | undefined =>
      exact (outside trivial).elim

theorem held_of_stuck : heldWeights.total state = 0 := by
  apply Weights.total_eq_zero
  · intro channel
    exact channel.elim
  · intro thread
    change (state.thread thread).held = 0
    unfold QueueUser.held
    rw [ready_of_stuck run stuck thread]
  · intro entry
    exact entry.channel.elim

theorem waits_of_stuck (thread : ThreadId) :
    Waits queueCapacity state.store.queue (state.thread thread) := by
  have kept := run.kept
  rw [held_of_stuck run stuck] at kept
  obtain ⟨slots, items, _, _⟩ := kept
  simp only [Prod.fst_zero, Prod.snd_zero, Nat.add_zero] at slots items
  have ready := ready_of_stuck run stuck thread
  have none := step_eq_none stuck thread
  generalize state.thread thread = user at ready none
  obtain ⟨position, remaining, results⟩ := user
  cases ready
  cases remaining with
  | nil => exact .done
  | cons call remaining =>
      cases call with
      | enqueue data =>
          simp only [QueueUser.step, Semaphore.wait, Option.map_eq_none_iff,
            ite_eq_left_iff, reduceCtorEq, imp_false, not_not] at none
          exact .full (by omega)
      | dequeue =>
          simp only [QueueUser.step, Semaphore.wait, Option.map_eq_none_iff,
            ite_eq_left_iff, reduceCtorEq, imp_false, not_not] at none
          exact .empty (List.length_eq_zero_iff.mp (by omega))

end Stuck

/-- In every interleaving, for every capacity: a run takes at most five steps
for each call, and when no thread can take a step, no thread is in the middle
of a call, no thread holds the mutex, and each thread has made all its calls or
waits for room in a full queue or for an element of an empty one. -/
theorem Reachable.ends {count : Nat}
    (run : CountedRun Steps (start queueCapacity calls) count last) :
    count ≤ 5 * (∑ thread, (calls thread).length) ∧
      ((∀ after, ¬ Steps last after) →
        last.store.mutex.owner = none ∧
        ∀ thread, Waits queueCapacity last.store.queue (last.thread thread)) := by
  constructor
  · have spent := run.measure_add_le (fun _ _ => trivial)
      fun before after (_ : True) step => Steps.budget_lt step
    rw [budget_start] at spent
    omega
  · intro stuck
    have reached := Reachable.of_steps run.reaches
    constructor
    · exact mutex_free reached stuck
    · intro thread
      exact waits_of_stuck reached stuck thread

/-- Every run can be continued until no thread can take a step. -/
theorem exists_last (queueCapacity : Nat) (calls : ThreadId → List (QueueCall α)) :
    ∃ last, Relation.ReflTransGen Steps (start queueCapacity calls) last ∧
      ∀ after, ¬ Steps last after := by
  have lowers (before after : Execution ThreadId α) (_ : True)
      (step : Steps before after) : budget (fun _ => remainingWeights) after <
        budget (fun _ => remainingWeights) before :=
    step.budget_lt
  exact CountedRun.exists_end (fun _ _ => trivial) lowers

theorem Reachable.ends_sample :
    ∃ count last, CountedRun Steps (start 1 sampleCalls) count last ∧ count ≤ 15 ∧
      ∀ thread, Waits 1 last.store.queue (last.thread thread) := by
  obtain ⟨last, reached, stuck⟩ := exists_last 1 sampleCalls
  obtain ⟨count, run⟩ := CountedRun.exists_of_reaches reached
  obtain ⟨bound, rests⟩ := Reachable.ends run
  exact ⟨count, last, run, bound, (rests stuck).2⟩

/-! ## Producers and consumers -/

/-- Every thread is a producer or a consumer. -/
def HasRoles (calls : ThreadId → List (QueueCall α)) : Prop :=
  ∀ thread, QueueCall.dequeues (calls thread) = 0 ∨
    QueueCall.enqueues (calls thread) = 0

/-- The thread has made all its calls. -/
def Done (user : QueueUser α) : Prop :=
  user.position = .ready ∧ user.calls = []

omit [DecidableEq ThreadId] [Fintype ThreadId] in
theorem seen_calls (ready : ∀ thread, (state.thread thread).position = .ready)
    (thread : ThreadId) :
    ((seen state).user thread).calls = (state.thread thread).calls := by
  change (state.thread thread).seen.calls = (state.thread thread).calls
  unfold QueueUser.seen
  rw [ready thread]

/-- Calls that were made and calls that are left, when no thread can step. -/
theorem balance_of_stuck (run : Reachable queueCapacity calls state)
    (stuck : ∀ after, ¬ Steps state after) :
    state.store.queue.length + (∑ thread, QueueCall.dequeues (calls thread)) +
        (∑ thread, QueueCall.enqueues (state.thread thread).calls) =
      (∑ thread, QueueCall.enqueues (calls thread)) +
        ∑ thread, QueueCall.dequeues (state.thread thread).calls := by
  have balance := run.atomic.balance
  simp only [seen_calls (ready_of_stuck run stuck)] at balance
  exact balance

theorem enqueues_of_stuck (run : Reachable queueCapacity calls state)
    (stuck : ∀ after, ¬ Steps state after) (thread : ThreadId) :
    QueueCall.enqueues (state.thread thread).calls ≤
        QueueCall.enqueues (calls thread) ∧
      QueueCall.dequeues (state.thread thread).calls ≤
        QueueCall.dequeues (calls thread) := by
  have suffix := run.atomic.suffix thread
  rw [seen_calls (ready_of_stuck run stuck)] at suffix
  constructor
  · exact QueueCall.enqueues_le_of_suffix suffix
  · exact QueueCall.dequeues_le_of_suffix suffix

/-- Only producers are left in front of a full queue. -/
theorem producers_left (run : Reachable queueCapacity calls state)
    (stuck : ∀ after, ¬ Steps state after) (roles : HasRoles calls)
    (filled : state.store.queue ≠ []) (thread : ThreadId) :
    QueueCall.dequeues (state.thread thread).calls = 0 := by
  have waits := waits_of_stuck run stuck thread
  obtain ⟨pushes, pops⟩ := enqueues_of_stuck run stuck thread
  generalize state.thread thread = user at waits pushes pops ⊢
  cases waits with
  | done => rfl
  | full =>
      rcases roles thread with producer | consumer
      · exact Nat.le_zero.mp (producer ▸ pops)
      · simp [consumer] at pushes
  | empty empty => exact (filled empty).elim

/-- Only consumers are left in front of an empty queue. -/
theorem consumers_left (run : Reachable queueCapacity calls state)
    (stuck : ∀ after, ¬ Steps state after) (roles : HasRoles calls)
    (room : state.store.queue.length < queueCapacity) (thread : ThreadId) :
    QueueCall.enqueues (state.thread thread).calls = 0 := by
  have waits := waits_of_stuck run stuck thread
  obtain ⟨pushes, pops⟩ := enqueues_of_stuck run stuck thread
  generalize state.thread thread = user at waits pushes pops ⊢
  cases waits with
  | done => rfl
  | full full => omega
  | empty =>
      rcases roles thread with producer | consumer
      · simp [producer] at pops
      · exact Nat.le_zero.mp (consumer ▸ pushes)

theorem done_of_stuck (roles : HasRoles calls) (room : 0 < queueCapacity)
    (served : (∑ thread, QueueCall.dequeues (calls thread)) ≤
      ∑ thread, QueueCall.enqueues (calls thread))
    (fits : (∑ thread, QueueCall.enqueues (calls thread)) ≤
      (∑ thread, QueueCall.dequeues (calls thread)) + queueCapacity)
    (run : Reachable queueCapacity calls state)
    (stuck : ∀ after, ¬ Steps state after) (thread : ThreadId) :
    Done (state.thread thread) := by
  have waits := waits_of_stuck run stuck thread
  have balance := balance_of_stuck run stuck
  have pushes := Finset.single_le_sum
    (f := fun thread => QueueCall.enqueues (state.thread thread).calls)
    (fun _ _ => Nat.zero_le _) (Finset.mem_univ thread)
  have pops := Finset.single_le_sum
    (f := fun thread => QueueCall.dequeues (state.thread thread).calls)
    (fun _ _ => Nat.zero_le _) (Finset.mem_univ thread)
  generalize acting : state.thread thread = user at waits
  simp only [acting] at pushes pops
  cases waits with
  | done => exact ⟨rfl, rfl⟩
  | full full =>
      have filled : state.store.queue ≠ [] := by
        intro empty
        rw [empty] at full
        exact room.ne full
      have left := Finset.sum_eq_zero fun thread (_ : thread ∈ Finset.univ) =>
        producers_left run stuck roles filled thread
      simp only [QueueCall.enqueues_enqueue] at pushes
      omega
  | empty empty =>
      have left := Finset.sum_eq_zero fun thread (_ : thread ∈ Finset.univ) =>
        consumers_left run stuck roles (by rw [empty]; exact room) thread
      rw [empty, List.length_nil] at balance
      simp only [QueueCall.dequeues_dequeue] at pops
      omega

/-- When every thread is a producer or a consumer and the queue has room for an
element: all calls return in every run that goes on as long as it can, whatever
the interleaving, exactly if the calls of `dequeue` are no more than those of
`enqueue` and leave no more elements than the queue can hold. -/
theorem Reachable.completes_iff (roles : HasRoles calls)
    (room : 0 < queueCapacity) :
    (∀ state, Reachable queueCapacity calls state →
      (∀ after, ¬ Steps state after) → ∀ thread, Done (state.thread thread)) ↔
    (∑ thread, QueueCall.dequeues (calls thread)) ≤
        (∑ thread, QueueCall.enqueues (calls thread)) ∧
      (∑ thread, QueueCall.enqueues (calls thread)) ≤
        (∑ thread, QueueCall.dequeues (calls thread)) + queueCapacity := by
  constructor
  · intro completes
    obtain ⟨last, steps, stuck⟩ := exists_last queueCapacity calls
    have run := Reachable.of_steps steps
    have balance := balance_of_stuck run stuck
    have none (thread : ThreadId) : (last.thread thread).calls = [] :=
      (completes last run stuck thread).2
    simp only [none, QueueCall.enqueues_nil, QueueCall.dequeues_nil,
      Finset.sum_const_zero] at balance
    have slots := run.kept.slots
    omega
  · rintro ⟨served, fits⟩ state run stuck thread
    exact done_of_stuck roles room served fits run stuck thread

theorem Reachable.completes_sample :
    HasRoles sampleCalls ∧ ∀ state, Reachable 1 sampleCalls state →
      (∀ after, ¬ Steps state after) → ∀ thread, Done (state.thread thread) := by
  have roles : HasRoles sampleCalls := by
    intro thread
    cases thread
    · exact .inr rfl
    · exact .inl rfl
  constructor
  · exact roles
  · exact (Reachable.completes_iff roles Nat.one_pos).mpr (by decide)

end Queue

end Concurrente.WebServer
