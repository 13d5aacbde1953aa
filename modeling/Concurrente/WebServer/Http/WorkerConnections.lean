import Concurrente.Common.Conversions

/-!
# The vector of worker connections

Copies of a socket share one descriptor, which is `-1` once the socket is
closed.  `removeSocket` looks for an entry with the descriptor of its argument,
so a handler may remove the entry of another closed connection in place of its
own.  What the vector keeps is the multiset of the descriptors.
-/

namespace Concurrente.WebServer

/-- How far a connection is: `MasterServer` reads the password, adds it to the
vector and produces it; a handler consumes it, and looks for it in the vector
when it is done. -/
inductive ConnectionPhase (Handler : Type) where
  | unaccepted
  | authenticating
  | refused
  | added
  | queued
  | consumed (handler : Handler)
  | searched (handler : Handler) (index : Nat)
  | removed
  | taken

namespace ConnectionPhase

variable {Handler : Type}

/-- Added to the vector and not yet removed by its handler. -/
def Registered : ConnectionPhase Handler → Prop
  | added | queued | consumed _ | searched _ _ | taken => True
  | _ => False

/-- A handler holds the lock of the vector. -/
def Searching : ConnectionPhase Handler → Prop
  | searched _ _ => True
  | _ => False

/-- The connection a handler is busy with. -/
def HeldBy (handler : Handler) : ConnectionPhase Handler → Prop
  | consumed holder | searched holder _ => holder = handler
  | _ => False

end ConnectionPhase

/-- The descriptors of all sockets, and `WorkerConnections`.  A ghost list has
the registered connections that were not removed. -/
structure WorkerConnections (Connection Handler : Type) where
  socketFileDescriptor : Connection → Int
  connections : List Connection
  registered : List Connection
  phase : Connection → ConnectionPhase Handler

namespace WorkerConnections

variable {Connection Handler : Type} [DecidableEq Connection]

/-- Before anything was accepted. -/
def initial : WorkerConnections Connection Handler :=
  { socketFileDescriptor := fun _ => -1
    connections := []
    registered := []
    phase := fun _ => .unaccepted }

/-- A connection goes on. -/
def enter (state : WorkerConnections Connection Handler) (connection : Connection)
    (phase : ConnectionPhase Handler) : WorkerConnections Connection Handler :=
  { state with phase := Function.update state.phase connection phase }

/-- The lock `canAccessWorkerConnections` is free. -/
def Unlocked (state : WorkerConnections Connection Handler) : Prop :=
  ∀ connection, ¬ (state.phase connection).Searching

/-- `Socket::operator==`. -/
def sameSocket (state : WorkerConnections Connection Handler)
    (first second : Connection) : Bool :=
  state.socketFileDescriptor first = state.socketFileDescriptor second

/-- The steps of `MasterServer`, of the handlers and of whoever closes sockets. -/
inductive Step : WorkerConnections Connection Handler →
    WorkerConnections Connection Handler → Prop
  /-- The operating system gives a descriptor that no socket has. -/
  | accept {state} (connection : Connection) (descriptor : Int)
      (new : state.phase connection = .unaccepted) (valid : 0 ≤ descriptor)
      (distinct : ∀ other, state.phase other ≠ .unaccepted →
        state.socketFileDescriptor other ≠ descriptor) :
      Step state
        { state with
          socketFileDescriptor :=
            Function.update state.socketFileDescriptor connection descriptor
          phase := Function.update state.phase connection .authenticating }
  | refuse {state} (connection : Connection)
      (authenticating : state.phase connection = .authenticating) :
      Step state (state.enter connection .refused)
  /-- `WorkerConnections::addConnection`. -/
  | addConnection {state} (connection : Connection)
      (authenticating : state.phase connection = .authenticating)
      (unlocked : state.Unlocked) :
      Step state
        { state.enter connection .added with
          connections := state.connections ++ [connection]
          registered := state.registered ++ [connection] }
  | produce {state} (connection : Connection)
      (added : state.phase connection = .added) :
      Step state (state.enter connection .queued)
  /-- A handler that is not busy takes a connection from the queue. -/
  | consume {state} (connection : Connection) (handler : Handler)
      (queued : state.phase connection = .queued)
      (idle : ∀ other, ¬ (state.phase other).HeldBy handler) :
      Step state (state.enter connection (.consumed handler))
  /-- A handler takes a closed connection for its stop condition. -/
  | stop {state} (connection : Connection)
      (queued : state.phase connection = .queued)
      (closed : state.socketFileDescriptor connection = -1) :
      Step state (state.enter connection .taken)
  /-- `Socket::close`, at any time. -/
  | close {state} (connection : Connection)
      (accepted : state.phase connection ≠ .unaccepted) :
      Step state
        { state with
          socketFileDescriptor :=
            Function.update state.socketFileDescriptor connection (-1) }
  /-- `WorkerConnections::removeSocket` has the lock. -/
  | lock {state} (connection : Connection) (handler : Handler)
      (consumed : state.phase connection = .consumed handler)
      (unlocked : state.Unlocked) :
      Step state (state.enter connection (.searched handler 0))
  /-- The entry at the index is of another socket. -/
  | next {state} (connection entry : Connection) (handler : Handler) (index : Nat)
      (searched : state.phase connection = .searched handler index)
      (found : state.connections[index]? = some entry)
      (different : state.sameSocket entry connection = false) :
      Step state (state.enter connection (.searched handler (index + 1)))
  /-- The loop of `removeSocket` ends: the entry is erased, also when it is the
  one past the end. -/
  | erase {state} (connection : Connection) (handler : Handler) (index : Nat)
      (searched : state.phase connection = .searched handler index)
      (ended : (state.connections[index]?).all fun entry =>
        state.sameSocket entry connection) :
      Step state
        { state.enter connection .removed with
          connections := state.connections.eraseIdx index
          registered := state.registered.erase connection }

/-- What holds in every reachable state. -/
structure Sound (state : WorkerConnections Connection Handler) : Prop where
  listed : ∀ connection, connection ∈ state.registered ↔
    (state.phase connection).Registered
  nodup : state.registered.Nodup
  accepted : ∀ connection ∈ state.connections,
    state.phase connection ≠ .unaccepted
  distinct : ∀ first second, state.phase first ≠ .unaccepted →
    state.phase second ≠ .unaccepted →
    state.socketFileDescriptor first = state.socketFileDescriptor second →
    state.socketFileDescriptor first ≠ -1 → first = second
  descriptors : (state.connections.map state.socketFileDescriptor).Perm
    (state.registered.map state.socketFileDescriptor)
  locked : ∀ first second, (state.phase first).Searching →
    (state.phase second).Searching → first = second
  ahead : ∀ connection handler index,
    state.phase connection = .searched handler index →
    state.socketFileDescriptor connection ∈
      (state.connections.drop index).map state.socketFileDescriptor

omit [DecidableEq Connection] in
theorem sound_initial :
    Sound (initial : WorkerConnections Connection Handler) := by
  constructor <;> simp [initial, ConnectionPhase.Registered, ConnectionPhase.Searching]

variable {state : WorkerConnections Connection Handler} {connection : Connection}
  {phase : ConnectionPhase Handler}

@[simp] theorem phase_enter_self :
    (state.enter connection phase).phase connection = phase :=
  Function.update_self ..

@[simp] theorem phase_enter_of_ne {other : Connection} (different : other ≠ connection) :
    (state.enter connection phase).phase other = state.phase other :=
  Function.update_of_ne different ..

/-- A connection that goes on was accepted before and is accepted. -/
theorem phase_enter_unaccepted (before : state.phase connection ≠ .unaccepted)
    (after : phase ≠ .unaccepted) (other : Connection) :
    (state.enter connection phase).phase other ≠ .unaccepted ↔
      state.phase other ≠ .unaccepted := by
  by_cases same : other = connection
  · subst same
    simp [before, after]
  · simp [same]

theorem registered_enter
    (same : (state.phase connection).Registered ↔ phase.Registered)
    (other : Connection) :
    ((state.enter connection phase).phase other).Registered ↔
      (state.phase other).Registered := by
  by_cases equal : other = connection
  · subst equal
    simp [same]
  · simp [equal]

namespace Sound

variable (sound : Sound state)

include sound

omit [DecidableEq Connection] in
theorem accepted_of_registered (registered : connection ∈ state.registered) :
    state.phase connection ≠ .unaccepted := by
  intro unaccepted
  have listed := (sound.listed connection).mp registered
  rw [unaccepted] at listed
  exact listed

/-- The descriptors stay distinct when an accepted connection goes on. -/
theorem distinct_enter (before : state.phase connection ≠ .unaccepted)
    (after : phase ≠ .unaccepted) (first second : Connection)
    (accepted : (state.enter connection phase).phase first ≠ .unaccepted)
    (accepted' : (state.enter connection phase).phase second ≠ .unaccepted)
    (equal : state.socketFileDescriptor first = state.socketFileDescriptor second)
    (isOpen : state.socketFileDescriptor first ≠ -1) : first = second := by
  rw [phase_enter_unaccepted before after] at accepted accepted'
  exact sound.distinct first second accepted accepted' equal isOpen

/-- A step outside of the vector. -/
theorem enter (before : state.phase connection ≠ .unaccepted)
    (after : phase ≠ .unaccepted) (quiet : ¬ phase.Searching)
    (same : (state.phase connection).Registered ↔ phase.Registered) :
    Sound (state.enter connection phase) := by
  have searching : ∀ other, ((state.enter connection phase).phase other).Searching →
      (state.phase other).Searching := by
    intro other searched
    by_cases equal : other = connection
    · subst equal
      simp [quiet] at searched
    · simpa [equal] using searched
  constructor
  · intro other
    rw [registered_enter same]
    exact sound.listed other
  · exact sound.nodup
  · intro other member
    rw [phase_enter_unaccepted before after]
    exact sound.accepted other member
  · exact sound.distinct_enter before after
  · exact sound.descriptors
  · intro first second searched searched'
    exact sound.locked first second (searching first searched)
      (searching second searched')
  · intro other handler index searched
    by_cases equal : other = connection
    · subst equal
      rw [phase_enter_self] at searched
      simp [searched, ConnectionPhase.Searching] at quiet
    · rw [phase_enter_of_ne equal] at searched
      exact sound.ahead other handler index searched

theorem accept {descriptor : Int} (new : state.phase connection = .unaccepted)
    (distinct : ∀ other, state.phase other ≠ .unaccepted →
      state.socketFileDescriptor other ≠ descriptor) :
    Sound
      { state with
        socketFileDescriptor :=
          Function.update state.socketFileDescriptor connection descriptor
        phase := Function.update state.phase connection .authenticating } := by
  have elsewhere : ∀ other, state.phase other ≠ .unaccepted → other ≠ connection := by
    rintro other accepted rfl
    exact accepted new
  have absent : ∀ other ∈ state.connections, other ≠ connection := by
    intro other member
    exact elsewhere other (sound.accepted other member)
  have unregistered : ∀ other ∈ state.registered, other ≠ connection := by
    intro other member
    exact elsewhere other (sound.accepted_of_registered member)
  have kept : ∀ entries : List Connection, (∀ other ∈ entries, other ≠ connection) →
      entries.map (Function.update state.socketFileDescriptor connection descriptor) =
        entries.map state.socketFileDescriptor := by
    intro entries others
    exact List.map_congr_left fun other member =>
      Function.update_of_ne (others other member) ..
  have phases : ∀ other, other ≠ connection →
      Function.update state.phase connection .authenticating other =
        state.phase other := fun other different => Function.update_of_ne different ..
  constructor
  · intro other
    by_cases same : other = connection
    · subst same
      rw [sound.listed, new]
      simp [ConnectionPhase.Registered]
    · rw [sound.listed]
      simp [same]
  · exact sound.nodup
  · intro other member
    dsimp only
    rw [phases other (absent other member)]
    exact sound.accepted other member
  · intro first second accepted accepted' equal valid'
    dsimp only at accepted accepted' equal valid'
    by_cases own : first = connection <;> by_cases own' : second = connection
    · rw [own, own']
    · subst own
      rw [phases second own'] at accepted'
      simp only [Function.update_self, Function.update_of_ne own'] at equal
      exact absurd equal.symm (distinct second accepted')
    · subst own'
      rw [phases first own] at accepted
      simp only [Function.update_self, Function.update_of_ne own] at equal
      exact absurd equal (distinct first accepted)
    · rw [phases first own] at accepted
      rw [phases second own'] at accepted'
      simp only [Function.update_of_ne own, Function.update_of_ne own'] at equal valid'
      exact sound.distinct first second accepted accepted' equal valid'
  · dsimp only
    rw [kept _ absent, kept _ unregistered]
    exact sound.descriptors
  · intro first second searched searched'
    have before : ∀ other, (Function.update state.phase connection
        .authenticating other).Searching → (state.phase other).Searching := by
      intro other searched
      by_cases same : other = connection
      · subst same
        simp [ConnectionPhase.Searching] at searched
      · rwa [phases other same] at searched
    exact sound.locked first second (before first searched) (before second searched')
  · intro other handler index searched
    have different : other ≠ connection := by
      rintro rfl
      simp at searched
    dsimp only at searched ⊢
    rw [phases other different] at searched
    rw [kept _ fun entry member => absent entry (List.mem_of_mem_drop member),
      Function.update_of_ne different]
    exact sound.ahead other handler index searched

theorem addConnection (authenticating : state.phase connection = .authenticating)
    (unlocked : state.Unlocked) :
    Sound
      { state.enter connection .added with
        connections := state.connections ++ [connection]
        registered := state.registered ++ [connection] } := by
  have before : state.phase connection ≠ .unaccepted := by simp [authenticating]
  have after : (ConnectionPhase.added : ConnectionPhase Handler) ≠ .unaccepted := by
    simp
  have quiet : ∀ other, ¬ ((state.enter connection .added).phase other).Searching := by
    intro other
    by_cases same : other = connection
    · subst same
      simp [ConnectionPhase.Searching]
    · rw [phase_enter_of_ne same]
      exact unlocked other
  have unregistered : connection ∉ state.registered := by
    rw [sound.listed, authenticating]
    exact id
  constructor
  · intro other
    by_cases same : other = connection
    · subst same
      simp [ConnectionPhase.Registered]
    · have listed := sound.listed other
      simpa [same] using listed
  · exact List.nodup_append.mpr ⟨sound.nodup, List.nodup_singleton _, by
      rintro other member last equal rfl
      rw [List.mem_singleton.mp equal] at member
      exact unregistered member⟩
  · intro other member
    rw [phase_enter_unaccepted before after]
    rcases List.mem_append.mp member with earlier | last
    · exact sound.accepted other earlier
    · rw [List.mem_singleton.mp last]
      exact before
  · exact sound.distinct_enter before after
  · simp only [List.map_append]
    exact sound.descriptors.append_right _
  · intro first second searched
    exact absurd searched (quiet first)
  · intro other handler index searched
    refine absurd ?_ (quiet other)
    dsimp only at searched
    rw [searched]
    trivial

/-- Closing changes descriptors by their value: no other socket has the one that
is closed, unless both are closed. -/
theorem close_descriptor (before : state.phase connection ≠ .unaccepted)
    {other : Connection} (accepted : state.phase other ≠ .unaccepted) :
    Function.update state.socketFileDescriptor connection (-1) other =
      if state.socketFileDescriptor other = state.socketFileDescriptor connection
      then -1 else state.socketFileDescriptor other := by
  by_cases same : other = connection
  · subst same
    simp
  · rw [Function.update_of_ne same]
    split
    next equal =>
      by_contra open'
      exact same (sound.distinct other connection accepted before equal open')
    next => rfl

theorem close (before : state.phase connection ≠ .unaccepted) :
    Sound
      { state with
        socketFileDescriptor :=
          Function.update state.socketFileDescriptor connection (-1) } := by
  have registered : ∀ other ∈ state.registered, state.phase other ≠ .unaccepted := by
    intro other member
    exact sound.accepted_of_registered member
  have changed : ∀ entries : List Connection,
      (∀ other ∈ entries, state.phase other ≠ .unaccepted) →
      entries.map (Function.update state.socketFileDescriptor connection (-1)) =
        (entries.map state.socketFileDescriptor).map fun descriptor =>
          if descriptor = state.socketFileDescriptor connection then -1
          else descriptor := by
    intro entries accepted
    rw [List.map_map]
    exact List.map_congr_left fun other member =>
      sound.close_descriptor before (accepted other member)
  constructor
  · exact sound.listed
  · exact sound.nodup
  · exact sound.accepted
  · intro first second accepted accepted' equal open'
    dsimp only at accepted accepted' equal open'
    have still : ∀ other, Function.update state.socketFileDescriptor connection (-1)
        other ≠ -1 → other ≠ connection := by
      rintro other live rfl
      simp at live
    have own := still first open'
    have own' := still second (equal ▸ open')
    simp only [Function.update_of_ne own, Function.update_of_ne own'] at equal open'
    exact sound.distinct first second accepted accepted' equal open'
  · dsimp only
    rw [changed _ sound.accepted, changed _ registered]
    exact sound.descriptors.map _
  · exact sound.locked
  · intro other handler index searched
    have accepted : state.phase other ≠ .unaccepted := by
      dsimp only at searched
      simp [searched]
    dsimp only at searched ⊢
    rw [changed _ fun entry member =>
      sound.accepted entry (List.mem_of_mem_drop member),
      sound.close_descriptor before accepted]
    exact List.mem_map.mpr ⟨_, sound.ahead other handler index searched, rfl⟩

/-- A step of the search, or its start: the entry looked for is still ahead. -/
theorem enterSearched {handler : Handler} {index : Nat}
    (registered : (state.phase connection).Registered)
    (alone : ∀ other, (state.phase other).Searching → other = connection)
    (ahead : state.socketFileDescriptor connection ∈
      (state.connections.drop index).map state.socketFileDescriptor) :
    Sound (state.enter connection (.searched handler index)) := by
  have before : state.phase connection ≠ .unaccepted := by
    intro unaccepted
    rw [unaccepted] at registered
    exact registered
  have after : (ConnectionPhase.searched handler index) ≠ .unaccepted := by simp
  have alone' : ∀ other, ((state.enter connection
      (.searched handler index)).phase other).Searching → other = connection := by
    intro other searched
    by_contra different
    rw [phase_enter_of_ne different] at searched
    exact different (alone other searched)
  constructor
  · intro other
    have same : (state.phase connection).Registered ↔
        (ConnectionPhase.searched handler index).Registered :=
      iff_of_true registered trivial
    rw [registered_enter same]
    exact sound.listed other
  · exact sound.nodup
  · intro other member
    rw [phase_enter_unaccepted before after]
    exact sound.accepted other member
  · exact sound.distinct_enter before after
  · exact sound.descriptors
  · intro first second searched searched'
    rw [alone' first searched, alone' second searched']
  · intro other holder index' searched
    obtain rfl : other = connection := alone' other (by
      rw [searched]
      trivial)
    rw [phase_enter_self] at searched
    cases searched
    exact ahead

theorem lock {handler : Handler} (consumed : state.phase connection = .consumed handler)
    (unlocked : state.Unlocked) :
    Sound (state.enter connection (.searched handler 0)) := by
  have registered : (state.phase connection).Registered := by
    rw [consumed]
    trivial
  apply sound.enterSearched registered
  · intro other searched
    exact absurd searched (unlocked other)
  · have member := (sound.listed connection).mpr registered
    exact sound.descriptors.mem_iff.mpr (List.mem_map_of_mem member)

theorem next {entry : Connection} {handler : Handler} {index : Nat}
    (searched : state.phase connection = .searched handler index)
    (found : state.connections[index]? = some entry)
    (different : state.sameSocket entry connection = false) :
    Sound (state.enter connection (.searched handler (index + 1))) := by
  apply sound.enterSearched
  · rw [searched]
    trivial
  · intro other searching
    exact sound.locked other connection searching (by
      rw [searched]
      trivial)
  · -- the entry that is passed has another descriptor
    obtain ⟨inside, rfl⟩ := List.getElem?_eq_some_iff.mp found
    have ahead := sound.ahead connection handler index searched
    rw [List.drop_eq_getElem_cons inside, List.map_cons, List.mem_cons] at ahead
    rcases ahead with equal | later
    · simp [sameSocket, equal] at different
    · exact later

omit [DecidableEq Connection] in
/-- The search of `removeSocket` does not come to the end of the vector. -/
theorem search_inside {handler : Handler} {index : Nat}
    (searched : state.phase connection = .searched handler index) :
    index < state.connections.length := by
  by_contra past
  have ahead := sound.ahead connection handler index searched
  rw [List.drop_eq_nil_of_le (not_lt.mp past)] at ahead
  simp at ahead

theorem erase {handler : Handler} {index : Nat}
    (searched : state.phase connection = .searched handler index)
    (ended : (state.connections[index]?).all fun entry =>
      state.sameSocket entry connection) :
    Sound
      { state.enter connection .removed with
        connections := state.connections.eraseIdx index
        registered := state.registered.erase connection } := by
  have before : state.phase connection ≠ .unaccepted := by simp [searched]
  have after : (ConnectionPhase.removed : ConnectionPhase Handler) ≠ .unaccepted := by
    simp
  have holder : (state.phase connection).Searching := by
    rw [searched]
    trivial
  have quiet : ∀ other,
      ¬ ((state.enter connection .removed).phase other).Searching := by
    intro other searching
    by_cases same : other = connection
    · subst same
      simp [ConnectionPhase.Searching] at searching
    · rw [phase_enter_of_ne same] at searching
      exact same (sound.locked other connection searching holder)
  have registered : connection ∈ state.registered := by
    rw [sound.listed, searched]
    trivial
  have inside := sound.search_inside searched
  have equal : state.socketFileDescriptor state.connections[index] =
      state.socketFileDescriptor connection := by
    rw [List.getElem?_eq_getElem inside] at ended
    simpa [sameSocket] using ended
  constructor
  · intro other
    dsimp only
    rw [sound.nodup.mem_erase_iff, sound.listed]
    by_cases same : other = connection
    · subst same
      simp [ConnectionPhase.Registered]
    · simp [same]
  · exact sound.nodup.erase connection
  · intro other member
    rw [phase_enter_unaccepted before after]
    exact sound.accepted other (List.mem_of_mem_eraseIdx member)
  · exact sound.distinct_enter before after
  · have left : (state.connections.map state.socketFileDescriptor).Perm
        (state.socketFileDescriptor connection ::
          (state.connections.eraseIdx index).map state.socketFileDescriptor) := by
      have moved := (List.getElem_cons_eraseIdx_perm inside).map
        state.socketFileDescriptor
      rw [List.map_cons, equal] at moved
      exact moved.symm
    have right := (List.perm_cons_erase registered).map state.socketFileDescriptor
    rw [List.map_cons] at right
    exact (left.symm.trans (sound.descriptors.trans right)).cons_inv
  · intro first second searching
    exact absurd searching (quiet first)
  · intro other handler' index' searching
    refine absurd ?_ (quiet other)
    dsimp only at searching
    rw [searching]
    trivial

end Sound

theorem Sound.step {after : WorkerConnections Connection Handler}
    (sound : Sound state) (step : Step state after) : Sound after := by
  cases step with
  | accept connection descriptor new _ distinct => exact sound.accept new distinct
  | refuse connection authenticating =>
      exact sound.enter (by simp [authenticating]) (by simp)
        (by simp [ConnectionPhase.Searching])
        (by simp [authenticating, ConnectionPhase.Registered])
  | addConnection connection authenticating unlocked =>
      exact sound.addConnection authenticating unlocked
  | produce connection added =>
      exact sound.enter (by simp [added]) (by simp)
        (by simp [ConnectionPhase.Searching])
        (by simp [added, ConnectionPhase.Registered])
  | consume connection handler queued _ =>
      exact sound.enter (by simp [queued]) (by simp)
        (by simp [ConnectionPhase.Searching])
        (by simp [queued, ConnectionPhase.Registered])
  | stop connection queued _ =>
      exact sound.enter (by simp [queued]) (by simp)
        (by simp [ConnectionPhase.Searching])
        (by simp [queued, ConnectionPhase.Registered])
  | close connection accepted => exact sound.close accepted
  | lock connection handler consumed unlocked => exact sound.lock consumed unlocked
  | next connection entry handler index searched found different =>
      exact sound.next searched found different
  | erase connection handler index searched ended => exact sound.erase searched ended

theorem sound_of_reachable
    (reached : Relation.ReflTransGen Step initial state) : Sound state := by
  induction reached with
  | refl => exact sound_initial
  | tail _ step ih => exact ih.step step

omit [DecidableEq Connection] in
/-- An open connection that is registered has an entry. -/
theorem Sound.mem_connections (sound : Sound state)
    (registered : connection ∈ state.registered)
    (isOpen : state.socketFileDescriptor connection ≠ -1) :
    connection ∈ state.connections := by
  have accepted := sound.accepted_of_registered registered
  have member := sound.descriptors.mem_iff.mpr
    (List.mem_map_of_mem (f := state.socketFileDescriptor) registered)
  obtain ⟨entry, inside, equal⟩ := List.mem_map.mp member
  have same := sound.distinct entry connection (sound.accepted entry inside) accepted
    equal (equal ▸ isOpen)
  rwa [← same]

/-- In every run the search of `removeSocket` ends inside the vector, the vector
has the descriptors of the registered connections, and the open ones among
these are in it. -/
theorem pool_integrity (reached : Relation.ReflTransGen Step initial state) :
    (∀ connection handler index,
        state.phase connection = .searched handler index →
          index < state.connections.length) ∧
      (state.connections.map state.socketFileDescriptor).Perm
        (state.registered.map state.socketFileDescriptor) ∧
      ∀ connection ∈ state.registered,
        state.socketFileDescriptor connection ≠ -1 →
          connection ∈ state.connections := by
  have sound := sound_of_reachable reached
  exact ⟨fun _ _ _ => sound.search_inside, sound.descriptors,
    fun _ => sound.mem_connections⟩

/-- Two connections are closed while their handlers are busy with them: the
handler of the second one erases the entry of the first, whose handler finds the
entry of the second. -/
theorem pool_integrity_closed :
    ∃ state : WorkerConnections Bool Bool,
      Relation.ReflTransGen Step initial state ∧
      state.socketFileDescriptor false = -1 ∧ state.socketFileDescriptor true = -1 ∧
      state.connections = [true] ∧ state.registered = [false] ∧
      state.phase false = .searched false 0 ∧
      (∀ connection handler index,
        state.phase connection = .searched handler index →
          index < state.connections.length) ∧
      (state.connections.map state.socketFileDescriptor).Perm
        (state.registered.map state.socketFileDescriptor) ∧
      ∀ connection ∈ state.registered,
        state.socketFileDescriptor connection ≠ -1 →
          connection ∈ state.connections := by
  have first : Relation.ReflTransGen Step
      (initial : WorkerConnections Bool Bool) _ :=
    .single (.accept false 5 rfl (by decide) fun other seen => absurd rfl seen)
  have second := first.tail (.accept true 6 rfl (by decide) fun other seen => by
    cases other
    · decide
    · exact absurd rfl seen)
  have added := second.tail (.addConnection false rfl fun other => by cases other <;> exact id)
  have queued := added.tail (.produce false rfl)
  have bothAdded := queued.tail
    (.addConnection true rfl fun other => by cases other <;> exact id)
  have bothQueued := bothAdded.tail (.produce true rfl)
  have consumed := bothQueued.tail
    (.consume false false rfl fun other => by cases other <;> exact id)
  have bothConsumed := consumed.tail (.consume true true rfl fun other => by
    cases other
    · exact Bool.noConfusion
    · exact id)
  have closed := bothConsumed.tail (.close false (by simp [enter]))
  have bothClosed := closed.tail (.close true (by simp [enter]))
  have locked := bothClosed.tail (.lock true true rfl fun other => by cases other <;> exact id)
  have erased := locked.tail (.erase true true 0 rfl rfl)
  have searched := erased.tail
    (.lock false false rfl fun other => by cases other <;> exact id)
  exact ⟨_, searched, rfl, rfl, rfl, rfl, rfl, pool_integrity searched⟩

end WorkerConnections

end Concurrente.WebServer
