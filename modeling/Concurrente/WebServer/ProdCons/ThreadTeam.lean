import Concurrente.Library.Programs

/-!
# Thread teams

A process makes objects for its threads and the queues between them, and keeps
pointers to both.  The program that makes, starts, joins and deletes them is a
list of statements; those that go through a pointer fail when it is null, and
also between `delete` and the statement that clears the pointer.
-/

namespace Concurrente.WebServer

open Library

/-- Why a statement ends the process. -/
inductive TeamFault where
  /-- A call through a null pointer. -/
  | nullPointer
  /-- An object or a queue that was deleted is used or deleted again. -/
  | dangling
  /-- An `assert` fails. -/
  | assertion
  /-- A thread is deleted that was not joined. -/
  | terminate
  deriving DecidableEq, Repr

/-- A `Thread` with its parts as a `Consumer` and as a `Producer`.  `stops` is
the number of stop conditions that its constructor was given. -/
structure ThreadObject where
  consumingQueue : Option Nat
  producingQueue : Option Nat
  ownsQueue : Bool
  stops : Nat
  started : Bool
  deriving DecidableEq, Repr

/-- A pointer to a thread object.  One that is not in a vector is null. -/
inductive ThreadPointer where
  | null
  | object (object : ThreadObject)
  | dangling
  deriving DecidableEq, Repr

/-- The object a pointer leads to. -/
@[simp] def ThreadPointer.object? : ThreadPointer → Option ThreadObject
  | .object found => some found
  | _ => none

/-- The pointers of a process to its thread objects, its members that point to
queues, and the capacities of the queues it has made.  The address of a queue is
its place among them; `none` is left of one that was deleted. -/
structure ThreadTeam (Thread Member : Type) where
  threads : Thread → ThreadPointer
  members : Member → Option Nat
  queues : List (Option Nat)

/-- An expression for a queue: a member, or `getConsumingQueue` of a thread. -/
inductive QueuePointer (Thread Member : Type) where
  | member (queue : Member)
  | consumedBy (thread : Thread)
  deriving DecidableEq, Repr

/-- The statements.  A round of a loop over a vector does nothing for a thread
that is not in it; `clear` is that of a vector, or `= nullptr`. -/
inductive Statement (Thread Member : Type) where
  | assertNone (threads : List Thread)
  | newThread (thread : Thread) (stops : Nat)
  | newQueue (queue : Member) (capacity : Nat)
  | createOwnQueue (thread : Thread) (capacity : Nat)
  | setConsumingQueue (thread : Thread) (queue : QueuePointer Thread Member)
  | setProducingQueue (thread : Thread) (queue : QueuePointer Thread Member)
  | call (thread : Thread)
  | startThread (thread : Thread)
  | enqueue (queue : Member)
  | waitToFinish (thread : Thread)
  | waitToFinishInVector (thread : Thread)
  | deleteThread (thread : Thread)
  | clear (threads : List Thread)
  | deleteQueue (queue : Member)
  deriving DecidableEq, Repr

/-- The constructor. -/
def ThreadObject.new (stops : Nat) : ThreadObject :=
  { consumingQueue := none
    producingQueue := none
    ownsQueue := false
    stops
    started := false }

namespace ThreadTeam

variable {Thread Member : Type}

/-- A process that has no queues yet. -/
def ofThreads (threads : Thread → ThreadPointer) : ThreadTeam Thread Member :=
  { threads, members := fun _ => none, queues := [] }

/-- Before anything was made. -/
def empty : ThreadTeam Thread Member :=
  ofThreads fun _ => .null

/-- A call through the pointer to a thread. -/
def onThread (team : ThreadTeam Thread Member) (thread : Thread)
    (call : ThreadObject → Except TeamFault (ThreadTeam Thread Member)) :
    Except TeamFault (ThreadTeam Thread Member) :=
  match team.threads thread with
  | .object object => call object
  | .null => .error .nullPointer
  | .dangling => .error .dangling

/-- The pointer to a queue. -/
def address (team : ThreadTeam Thread Member) :
    QueuePointer Thread Member → Except TeamFault (Option Nat)
  | .member queue => .ok (team.members queue)
  | .consumedBy thread =>
      match team.threads thread with
      | .object object => .ok object.consumingQueue
      | .null => .error .nullPointer
      | .dangling => .error .dangling

/-- `delete` of a queue; a null pointer can be deleted. -/
def deleteAt (team : ThreadTeam Thread Member) :
    Option Nat → Except TeamFault (ThreadTeam Thread Member)
  | none => .ok team
  | some place =>
      match team.queues[place]? with
      | some (some _) => .ok { team with queues := team.queues.set place none }
      | _ => .error .dangling

variable [DecidableEq Thread]

/-- The pointer to a thread is changed, or the object it leads to. -/
def withThread (team : ThreadTeam Thread Member) (thread : Thread)
    (pointer : ThreadPointer) : ThreadTeam Thread Member :=
  { team with threads := Function.update team.threads thread pointer }

@[simp] theorem withThread_threads_self (team : ThreadTeam Thread Member)
    (thread : Thread) (pointer : ThreadPointer) :
    (team.withThread thread pointer).threads thread = pointer := by
  simp [withThread]

@[simp] theorem withThread_withThread (team : ThreadTeam Thread Member)
    (thread : Thread) (first second : ThreadPointer) :
    (team.withThread thread first).withThread thread second =
      team.withThread thread second := by
  simp [withThread]

theorem address_withThread (team : ThreadTeam Thread Member) {thread other : Thread}
    (different : other ≠ thread) (pointer : ThreadPointer) :
    (team.withThread thread pointer).address (.consumedBy other) =
      team.address (.consumedBy other) := by
  simp [address, withThread, Function.update_of_ne different]

/-- `Thread::waitToFinish`, once the thread has ended. -/
def waitToFinish (team : ThreadTeam Thread Member) (thread : Thread)
    (object : ThreadObject) : Except TeamFault (ThreadTeam Thread Member) :=
  if object.started then
    .ok (team.withThread thread (.object { object with started := false }))
  else .error .assertion

end ThreadTeam

section Step

variable {Thread Member : Type} [DecidableEq Thread] [DecidableEq Member]

/-- What a statement does, once it can: a join waits for its thread, and
`enqueue` for room. -/
def Statement.step (statement : Statement Thread Member)
    (team : ThreadTeam Thread Member) :
    Except TeamFault (ThreadTeam Thread Member) :=
  match statement with
  | .assertNone threads =>
      if ∀ thread ∈ threads, team.threads thread = .null then .ok team
      else .error .assertion
  | .newThread thread stops => .ok (team.withThread thread (.object (.new stops)))
  | .newQueue queue capacity =>
      .ok { team with
        members := Function.update team.members queue (some team.queues.length)
        queues := team.queues ++ [some capacity] }
  | .createOwnQueue thread capacity =>
      team.onThread thread fun object =>
        if object.consumingQueue = none then
          .ok { team.withThread thread (.object { object with
            consumingQueue := some team.queues.length
            ownsQueue := true }) with
            queues := team.queues ++ [some capacity] }
        else .error .assertion
  | .setConsumingQueue thread queue =>
      team.onThread thread fun object =>
        (team.address queue).map fun consumingQueue =>
          team.withThread thread (.object { object with consumingQueue })
  | .setProducingQueue thread queue =>
      team.onThread thread fun object =>
        (team.address queue).map fun producingQueue =>
          team.withThread thread (.object { object with producingQueue })
  | .call thread => team.onThread thread fun _ => .ok team
  | .startThread thread =>
      team.onThread thread fun object =>
        if object.started then .error .assertion
        else .ok (team.withThread thread (.object { object with started := true }))
  | .enqueue queue =>
      match team.members queue with
      | none => .error .nullPointer
      | some place =>
          match team.queues[place]? with
          | some (some _) => .ok team
          | _ => .error .dangling
  | .waitToFinish thread => team.onThread thread (team.waitToFinish thread)
  | .waitToFinishInVector thread =>
      match team.threads thread with
      | .object object => team.waitToFinish thread object
      | .null => .ok team
      | .dangling => .error .dangling
  | .deleteThread thread =>
      match team.threads thread with
      | .null => .ok team
      | .dangling => .error .dangling
      | .object object =>
          -- the queue of a consumer goes before its thread
          if object.started then .error .terminate
          else
            (team.withThread thread .dangling).deleteAt
              (if object.ownsQueue then object.consumingQueue else none)
  | .clear threads =>
      .ok { team with
        threads := fun thread =>
          if thread ∈ threads then .null else team.threads thread }
  | .deleteQueue queue => team.deleteAt (team.members queue)

/-! ## Statements that succeed -/

section Success

variable {team : ThreadTeam Thread Member} {thread : Thread} {object : ThreadObject}
  {queue : QueuePointer Thread Member} {place : Option Nat}

theorem Statement.step_setConsumingQueue (present : team.threads thread = .object object)
    (pointer : team.address queue = .ok place) :
    (setConsumingQueue thread queue).step team =
      .ok (team.withThread thread (.object { object with consumingQueue := place })) := by
  simp [step, ThreadTeam.onThread, present, pointer, Except.map]

theorem Statement.step_setProducingQueue (present : team.threads thread = .object object)
    (pointer : team.address queue = .ok place) :
    (setProducingQueue thread queue).step team =
      .ok (team.withThread thread (.object { object with producingQueue := place })) := by
  simp [step, ThreadTeam.onThread, present, pointer, Except.map]

/-- A thread gets a queue of the process, and the one another thread consumes
from. -/
theorem execute_setQueues {owner : Thread} {source : Member}
    (present : team.threads thread = .object object) (different : owner ≠ thread)
    (pointer : team.address (.consumedBy owner) = .ok place) :
    execute Statement.step
        [.setConsumingQueue thread (.member source),
          .setProducingQueue thread (.consumedBy owner)] team =
      .ok (team.withThread thread (.object { object with
        consumingQueue := team.members source
        producingQueue := place })) := by
  rw [execute_cons (Statement.step_setConsumingQueue present rfl),
    execute_cons (Statement.step_setProducingQueue (team.withThread_threads_self _ _)
      ((team.address_withThread different _).trans pointer)),
    ThreadTeam.withThread_withThread, execute_nil]

theorem Statement.step_call (present : team.threads thread = .object object) :
    (call thread).step team = .ok team := by
  simp [step, ThreadTeam.onThread, present]

theorem Statement.step_startThread (present : team.threads thread = .object object)
    (idle : object.started = false) :
    (startThread thread).step team =
      .ok (team.withThread thread (.object { object with started := true })) := by
  simp [step, ThreadTeam.onThread, present, idle]

theorem Statement.step_waitToFinish (present : team.threads thread = .object object)
    (running : object.started = true) :
    (waitToFinish thread).step team =
      .ok (team.withThread thread (.object { object with started := false })) := by
  simp [step, ThreadTeam.onThread, ThreadTeam.waitToFinish, present, running]

theorem Statement.step_waitToFinishInVector (present : team.threads thread = .object object)
    (running : object.started = true) :
    (waitToFinishInVector thread).step team =
      .ok (team.withThread thread (.object { object with started := false })) := by
  simp [step, ThreadTeam.waitToFinish, present, running]

theorem Statement.step_deleteThread (present : team.threads thread = .object object)
    (idle : object.started = false) :
    (deleteThread thread).step team =
      (team.withThread thread .dangling).deleteAt
        (if object.ownsQueue then object.consumingQueue else none) := by
  simp [step, present, idle]

theorem Statement.step_deleteThread_of_null (absent : team.threads thread = .null) :
    (deleteThread thread).step team = .ok team := by
  simp [step, absent]

end Success

/-- The threads of a vector, or a single one, are deleted, and then the pointers
to them are cleared. -/
theorem execute_deleteAll (write : (Thread → ThreadPointer) → ThreadTeam Thread Member)
    {before gone : Thread → ThreadPointer} {threads : List Thread}
    (distinct : threads.Nodup)
    (delete : ∀ thread ∈ threads, ∀ current, current thread = before thread →
      (Statement.deleteThread thread).step (write current) =
        .ok (write (Function.update current thread (gone thread))))
    (clear : ∀ current, (∀ thread ∈ threads, current thread = gone thread) →
      (Statement.clear threads).step (write current) =
        .ok (write fun thread => if thread ∈ threads then .null else current thread))
    {current : Thread → ThreadPointer}
    (same : ∀ thread ∈ threads, current thread = before thread) :
    execute Statement.step
        (threads.flatMap (fun thread => [.deleteThread thread]) ++ [.clear threads])
        (write current) =
      .ok (write fun thread => if thread ∈ threads then .null else current thread) := by
  have deletions : execute Statement.step
      (threads.flatMap fun thread => [.deleteThread thread]) (write current) =
        .ok (write fun thread => if thread ∈ threads then gone thread else current thread) := by
    apply execute_flatMap write (fun _ => True) distinct trivial
    intro thread member other unchanged _
    rw [execute_cons (delete thread member other (unchanged.trans (same thread member)))]
    exact ⟨rfl, trivial⟩
  rw [execute_append deletions, execute_cons (clear _ fun thread member => if_pos member),
    execute_nil]
  congr 2
  funext thread
  split <;> rfl

/-! ## Pointers to threads -/

/-- What a pointer is, without the object it leads to. -/
inductive PointerStatus where
  | null
  | object
  | dangling
  deriving DecidableEq, Repr

@[simp] def ThreadPointer.status : ThreadPointer → PointerStatus
  | .null => .null
  | .object _ => .object
  | .dangling => .dangling

/-- What the pointer to a thread is after a statement. -/
def Statement.leaves (thread : Thread) (statement : Statement Thread Member)
    (status : PointerStatus) : PointerStatus :=
  match statement with
  | .newThread other _ => if thread = other then .object else status
  | .deleteThread other =>
      if thread = other ∧ status = .object then .dangling else status
  | .clear threads => if thread ∈ threads then .null else status
  | _ => status

omit [DecidableEq Member] in
theorem ThreadTeam.status_withThread (team : ThreadTeam Thread Member)
    (thread other : Thread) (pointer : ThreadPointer) :
    ((team.withThread other pointer).threads thread).status =
      if thread = other then pointer.status else (team.threads thread).status := by
  by_cases same : thread = other
  · subst same
    simp [withThread]
  · simp [withThread, same]

omit [DecidableEq Member] in
/-- A call on a thread leaves the pointer to it where it is. -/
theorem ThreadTeam.status_withThread_object {team : ThreadTeam Thread Member}
    {other : Thread} {before : ThreadObject} (thread : Thread) (after : ThreadObject)
    (present : team.threads other = .object before) :
    ((team.withThread other (.object after)).threads thread).status =
      (team.threads thread).status := by
  rw [status_withThread]
  split
  case isTrue same => rw [same, present, ThreadPointer.status, ThreadPointer.status]
  case isFalse => rfl

omit [DecidableEq Member] in
theorem ThreadTeam.waitToFinish_status {team next : ThreadTeam Thread Member}
    {thread other : Thread} {object : ThreadObject}
    (present : team.threads other = .object object)
    (done : team.waitToFinish other object = .ok next) :
    (next.threads thread).status = (team.threads thread).status := by
  unfold waitToFinish at done
  split at done
  · cases done
    exact status_withThread_object thread _ present
  · cases done

omit [DecidableEq Thread] [DecidableEq Member] in
theorem ThreadTeam.onThread_eq_ok {team next : ThreadTeam Thread Member}
    {thread : Thread} {call : ThreadObject → Except TeamFault (ThreadTeam Thread Member)}
    (done : team.onThread thread call = .ok next) :
    ∃ object, team.threads thread = .object object ∧ call object = .ok next := by
  unfold onThread at done
  cases present : team.threads thread with
  | null => simp [present] at done
  | dangling => simp [present] at done
  | object object =>
      rw [present] at done
      exact ⟨object, rfl, done⟩

omit [DecidableEq Member] in
theorem ThreadTeam.status_of_address {team next : ThreadTeam Thread Member}
    {queue : QueuePointer Thread Member} {other : Thread} {object : ThreadObject}
    {change : Option Nat → ThreadObject} (present : team.threads other = .object object)
    (done : (team.address queue).map
      (fun place => team.withThread other (.object (change place))) = .ok next) :
    (next.threads thread).status = (team.threads thread).status := by
  cases pointer : team.address queue with
  | error fault => simp [pointer, Except.map] at done
  | ok place =>
      rw [pointer] at done
      cases done
      exact status_withThread_object thread _ present

omit [DecidableEq Thread] [DecidableEq Member] in
theorem ThreadTeam.deleteAt_threads {team next : ThreadTeam Thread Member}
    {place : Option Nat} (done : team.deleteAt place = .ok next) :
    next.threads = team.threads := by
  unfold deleteAt at done
  split at done
  · cases done
    rfl
  · split at done <;> cases done
    rfl

/-- Only `new`, `delete` and `clear` change what a pointer is. -/
theorem Statement.step_status {statement : Statement Thread Member}
    {team next : ThreadTeam Thread Member} (thread : Thread)
    (done : statement.step team = .ok next) :
    (next.threads thread).status = statement.leaves thread (team.threads thread).status := by
  cases statement with
  | assertNone threads =>
      simp only [step] at done
      split at done <;> cases done
      rfl
  | newThread other stops =>
      cases done
      exact team.status_withThread thread other _
  | newQueue queue capacity =>
      cases done
      rfl
  | createOwnQueue other capacity =>
      obtain ⟨object, present, done⟩ := ThreadTeam.onThread_eq_ok done
      split at done <;> cases done
      exact ThreadTeam.status_withThread_object thread _ present
  | setConsumingQueue other queue | setProducingQueue other queue =>
      obtain ⟨object, present, done⟩ := ThreadTeam.onThread_eq_ok done
      exact ThreadTeam.status_of_address present done
  | call other =>
      obtain ⟨object, present, done⟩ := ThreadTeam.onThread_eq_ok done
      cases done
      rfl
  | startThread other =>
      obtain ⟨object, present, done⟩ := ThreadTeam.onThread_eq_ok done
      split at done <;> cases done
      exact ThreadTeam.status_withThread_object thread _ present
  | enqueue queue =>
      simp only [step] at done
      split at done
      · cases done
      · split at done <;> cases done
        rfl
  | waitToFinish other =>
      obtain ⟨object, present, done⟩ := ThreadTeam.onThread_eq_ok done
      exact ThreadTeam.waitToFinish_status present done
  | waitToFinishInVector other =>
      simp only [step] at done
      cases present : team.threads other with
      | null =>
          rw [present] at done
          cases done
          rfl
      | dangling => simp [present] at done
      | object object =>
          rw [present] at done
          exact ThreadTeam.waitToFinish_status present done
  | deleteThread other =>
      simp only [step] at done
      cases present : team.threads other with
      | null =>
          rw [present] at done
          cases done
          rw [leaves, if_neg]
          rintro ⟨rfl, object⟩
          rw [present] at object
          cases object
      | dangling => simp [present] at done
      | object object =>
          simp only [present] at done
          split at done
          · cases done
          · rw [ThreadTeam.deleteAt_threads done, ThreadTeam.status_withThread, leaves]
            by_cases same : thread = other
            · subst same
              simp [present]
            · simp [same]
  | clear threads =>
      cases done
      simp only [leaves]
      split <;> rfl
  | deleteQueue queue =>
      rw [ThreadTeam.deleteAt_threads done]
      rfl

/-- What the pointer to a thread is after a program. -/
def statusAfter (thread : Thread) (program : List (Statement Thread Member))
    (status : PointerStatus) : PointerStatus :=
  program.foldl (fun status statement => statement.leaves thread status) status

/-- What can be told from the statements that were executed. -/
theorem status_of_execute {program : List (Statement Thread Member)}
    {team next : ThreadTeam Thread Member} (thread : Thread)
    (done : execute Statement.step program team = .ok next) :
    (next.threads thread).status =
      statusAfter thread program (team.threads thread).status := by
  induction program generalizing team with
  | nil =>
      cases done
      rfl
  | cons statement program ih =>
      cases first : statement.step team with
      | error fault => simp [execute_cons_error first] at done
      | ok middle =>
          rw [execute_cons first] at done
          rw [ih done, statusAfter, statusAfter, List.foldl_cons,
            Statement.step_status thread first]

omit [DecidableEq Member] in
theorem statusAfter_append (thread : Thread)
    (first second : List (Statement Thread Member)) (status : PointerStatus) :
    statusAfter thread (first ++ second) status =
      statusAfter thread second (statusAfter thread first status) :=
  List.foldl_append

/-- The statement does not change what the pointer to a thread is. -/
def Statement.Quiet (thread : Thread) (statement : Statement Thread Member) : Prop :=
  ∀ status, statement.leaves thread status = status

omit [DecidableEq Member] in
theorem statusAfter_of_quiet {thread : Thread}
    {program : List (Statement Thread Member)}
    (quiet : ∀ statement ∈ program, statement.Quiet thread) (status : PointerStatus) :
    statusAfter thread program status = status := by
  induction program with
  | nil => rfl
  | cons statement program ih =>
      rw [List.forall_mem_cons] at quiet
      rw [statusAfter, List.foldl_cons, quiet.1 status]
      exact ih quiet.2

omit [DecidableEq Member] in
theorem not_quiet_newThread (thread : Thread) (stops : Nat) :
    ¬(Statement.newThread thread stops : Statement Thread Member).Quiet thread :=
  fun quiet => by simpa [Statement.leaves] using quiet .null

omit [DecidableEq Member] in
theorem not_quiet_deleteThread (thread : Thread) :
    ¬(Statement.deleteThread thread : Statement Thread Member).Quiet thread :=
  fun quiet => by simpa [Statement.leaves] using quiet .object

omit [DecidableEq Member] in
theorem not_quiet_clear (thread : Thread) :
    ¬(Statement.clear [thread] : Statement Thread Member).Quiet thread :=
  fun quiet => by simpa [Statement.leaves] using quiet .object

omit [DecidableEq Member] in
/-- The pointer to a thread that will be deleted. -/
theorem statusAfter_object_cases {thread : Thread}
    {running last done later : List (Statement Thread Member)}
    (program : done ++ later = running ++ .deleteThread thread :: .clear [thread] :: last)
    (whileRunning : ∀ statement ∈ running, statement.Quiet thread)
    (afterwards : ∀ statement ∈ last, statement.Quiet thread) :
    (statusAfter thread done .object = .object ∧ .deleteThread thread ∈ later) ∨
      (statusAfter thread done .object = .dangling ∧ .deleteThread thread ∉ later ∧
        .clear [thread] ∈ later) ∨
      (statusAfter thread done .object = .null ∧ .deleteThread thread ∉ later ∧
        .clear [thread] ∉ later) := by
  rcases List.append_eq_append_iff.mp program with
    ⟨between, rfl, rfl⟩ | ⟨executed, rfl, fromDelete⟩
  · refine .inl ⟨statusAfter_of_quiet (fun statement member => ?_) _, by simp⟩
    exact whileRunning statement (List.mem_append_left _ member)
  rw [statusAfter_append, statusAfter_of_quiet whileRunning]
  rcases executed with _ | ⟨statement, executed⟩
  · subst fromDelete
    exact .inl ⟨rfl, List.mem_cons_self⟩
  obtain ⟨rfl, fromClear⟩ := List.cons_eq_cons.mp fromDelete
  have noDelete : ∀ left : List (Statement Thread Member), left ⊆ last →
      .deleteThread thread ∉ left :=
    fun left sub member => not_quiet_deleteThread thread (afterwards _ (sub member))
  rcases executed with _ | ⟨statement, executed⟩
  · subst fromClear
    refine .inr (.inl ⟨by simp [statusAfter, Statement.leaves], ?_, List.mem_cons_self⟩)
    simpa using noDelete last (List.Subset.refl last)
  obtain ⟨rfl, rfl⟩ := List.cons_eq_cons.mp fromClear
  have left : later ⊆ executed ++ later := List.subset_append_right executed later
  refine .inr (.inr ⟨?_, noDelete later left, ?_⟩)
  · have quiet : ∀ statement ∈ executed, statement.Quiet thread :=
      fun statement member => afterwards statement (List.mem_append_left _ member)
    simpa [statusAfter, Statement.leaves] using statusAfter_of_quiet quiet .null
  · exact fun member => not_quiet_clear thread (afterwards _ (left member))

omit [DecidableEq Member] in
/-- The pointer to a thread that is made, deleted and cleared once: what it is
can be told from the statements that are left. -/
theorem statusAfter_cases {thread : Thread} {stops : Nat}
    {making running last done later : List (Statement Thread Member)}
    (program : done ++ later =
      making ++ .newThread thread stops ::
        (running ++ .deleteThread thread :: .clear [thread] :: last))
    (beforeMaking : ∀ statement ∈ making, statement.Quiet thread)
    (whileRunning : ∀ statement ∈ running, statement.Quiet thread)
    (afterwards : ∀ statement ∈ last, statement.Quiet thread) :
    (statusAfter thread done .null = .null ∧ .newThread thread stops ∈ later) ∨
      (.newThread thread stops ∉ later ∧
        ((statusAfter thread done .null = .object ∧ .deleteThread thread ∈ later) ∨
          (statusAfter thread done .null = .dangling ∧ .deleteThread thread ∉ later ∧
            .clear [thread] ∈ later) ∨
          (statusAfter thread done .null = .null ∧ .deleteThread thread ∉ later ∧
            .clear [thread] ∉ later))) := by
  rcases List.append_eq_append_iff.mp program with
    ⟨between, rfl, rfl⟩ | ⟨executed, rfl, fromMaking⟩
  · refine .inl ⟨statusAfter_of_quiet (fun statement member => ?_) _, by simp⟩
    exact beforeMaking statement (List.mem_append_left _ member)
  rw [statusAfter_append, statusAfter_of_quiet beforeMaking]
  rcases executed with _ | ⟨statement, executed⟩
  · subst fromMaking
    exact .inl ⟨rfl, List.mem_cons_self⟩
  obtain ⟨rfl, rest⟩ := List.cons_eq_cons.mp fromMaking
  have made : statusAfter thread (.newThread thread stops :: executed) .null =
      statusAfter thread executed .object := by
    simp [statusAfter, Statement.leaves]
  rw [made]
  refine .inr ⟨?_, statusAfter_object_cases rest.symm whileRunning afterwards⟩
  intro member
  have place : .newThread thread stops ∈
      running ++ Statement.deleteThread thread :: .clear [thread] :: last := by
    rw [rest]
    exact List.mem_append_right _ member
  rcases List.mem_append.mp place with member | member
  · exact not_quiet_newThread thread stops (whileRunning _ member)
  · simp only [List.mem_cons, reduceCtorEq, false_or] at member
    exact not_quiet_newThread thread stops (afterwards _ member)

end Step

end Concurrente.WebServer
