import Mathlib

/-!
# Networks of threads and channels

Threads communicate through first-in first-out channels of bounded or unbounded
capacity, and through a store that a thread changes in one atomic step.  Some
channels belong to a link that can close; a thread that uses a closed channel
learns it, or loses what it sends.

The main tool is a rule about totals.  Every item in a channel and every
thread has a weight in a commutative monoid.  A step of one thread changes the
weights it can see, and the rule asks only that the invariant survives this
change in front of an arbitrary rest.
-/

namespace Concurrente.Library

/-- What a thread does next.  `next` gives the state of the thread after the
action: a receive on a closed channel yields `none`, and a send reports whether
it believes to have succeeded. -/
inductive Act {Chan : Type} (Item : Chan → Type) (Store Choice Thread : Type) where
  | receive (channel : Chan) (next : Option (Item channel) → Thread)
  | send (channel : Chan) (item : Item channel) (next : Bool → Thread)
  | work (effect : Choice → Store → Option (Store × Thread))
  | halt

/-- The program of every thread, the capacity of the channels and the links
they belong to. -/
structure Network {Chan Node : Type} (Link Store Choice : Type)
    (Item : Chan → Type) (Thread : Node → Type) where
  act : (node : Node) → Thread node → Act Item Store Choice (Thread node)
  capacity : Chan → Option Nat
  link : Chan → Option Link

namespace Network

variable {Chan Node Link Store Choice : Type} {Item : Chan → Type}
  {Thread : Node → Type}

/-- An item that was enqueued, with the store at that moment. -/
structure Sent (Store : Type) (Item : Chan → Type) where
  channel : Chan
  item : Item channel
  store : Store

/-- An item that was offered to a closed channel, and what the send reported. -/
structure Lost (Item : Chan → Type) where
  channel : Chan
  item : Item channel
  reported : Bool

/-- A state of the network.  `sent` and `lost` record the past. -/
structure State (Link Store : Type) (Item : Chan → Type)
    (Thread : Node → Type) where
  queue : (channel : Chan) → List (Item channel)
  thread : (node : Node) → Thread node
  store : Store
  closed : Link → Bool
  sent : List (Sent Store Item)
  lost : List (Lost Item)

/-- A channel that belongs to no closed link. -/
def IsOpen (network : Network Link Store Choice Item Thread)
    (state : State Link Store Item Thread) (channel : Chan) : Prop :=
  ∀ link, network.link channel = some link → state.closed link = false

/-- A channel that may be closed in some state of a run. -/
def MayClose (network : Network Link Store Choice Item Thread) (faults : Prop)
    (channel : Chan) : Prop :=
  faults ∧ network.link channel ≠ none

/-- There is room for one more item. -/
def HasRoom (network : Network Link Store Choice Item Thread)
    (state : State Link Store Item Thread) (channel : Chan) : Prop :=
  ∀ capacity, network.capacity channel = some capacity →
    (state.queue channel).length < capacity

section History

variable [DecidableEq Chan]

/-- The items of a channel among those that were enqueued, in order. -/
def enqueued (sent : List (Sent Store Item)) (channel : Chan) :
    List (Item channel) :=
  sent.filterMap fun entry =>
    if same : entry.channel = channel then some (same ▸ entry.item) else none

theorem enqueued_append_self (sent : List (Sent Store Item)) (channel : Chan)
    (item : Item channel) (store : Store) :
    enqueued (sent ++ [⟨channel, item, store⟩]) channel =
      enqueued sent channel ++ [item] := by
  simp [enqueued]

theorem enqueued_append_of_ne (sent : List (Sent Store Item))
    {channel other : Chan} (ne : other ≠ channel) (item : Item other)
    (store : Store) :
    enqueued (sent ++ [⟨other, item, store⟩]) channel = enqueued sent channel := by
  simp [enqueued, ne]

/-- The items that were enqueued in a channel of a state. -/
def State.history (state : State Link Store Item Thread) (channel : Chan) :
    List (Item channel) :=
  enqueued state.sent channel

end History

section Step

variable [DecidableEq Chan] [DecidableEq Node]

/-- One step of a thread. -/
inductive Step (network : Network Link Store Choice Item Thread) (node : Node)
    (state : State Link Store Item Thread) :
    State Link Store Item Thread → Prop where
  | receive {channel : Chan} {next : Option (Item channel) → Thread node}
      {item : Item channel} {rest : List (Item channel)}
      (acts : network.act node (state.thread node) = .receive channel next)
      (isOpen : network.IsOpen state channel)
      (queue : state.queue channel = item :: rest) :
      Step network node state
        { state with
          queue := Function.update state.queue channel rest
          thread := Function.update state.thread node (next (some item)) }
  | receiveClosed {channel : Chan} {next : Option (Item channel) → Thread node}
      (acts : network.act node (state.thread node) = .receive channel next)
      (isClosed : ¬ network.IsOpen state channel) :
      Step network node state
        { state with
          thread := Function.update state.thread node (next none) }
  | send {channel : Chan} {item : Item channel} {next : Bool → Thread node}
      (acts : network.act node (state.thread node) = .send channel item next)
      (isOpen : network.IsOpen state channel)
      (room : network.HasRoom state channel) :
      Step network node state
        { state with
          queue := Function.update state.queue channel
            (state.queue channel ++ [item])
          thread := Function.update state.thread node (next true)
          sent := state.sent ++ [⟨channel, item, state.store⟩] }
  | sendClosed {channel : Chan} {item : Item channel} {next : Bool → Thread node}
      (acts : network.act node (state.thread node) = .send channel item next)
      (isClosed : ¬ network.IsOpen state channel) (reported : Bool) :
      Step network node state
        { state with
          thread := Function.update state.thread node (next reported)
          lost := state.lost ++ [⟨channel, item, reported⟩] }
  | work {effect : Choice → Store → Option (Store × Thread node)}
      {choice : Choice} {store : Store} {thread : Thread node}
      (acts : network.act node (state.thread node) = .work effect)
      (result : effect choice state.store = some (store, thread)) :
      Step network node state
        { state with
          store
          thread := Function.update state.thread node thread }

theorem Step.closed_eq {network : Network Link Store Choice Item Thread}
    {node : Node} {before after : State Link Store Item Thread}
    (step : Step network node before after) : after.closed = before.closed := by
  cases step <;> rfl

/-- A thread can take a step. -/
def CanStep (network : Network Link Store Choice Item Thread) (node : Node)
    (state : State Link Store Item Thread) : Prop :=
  ∃ after, Step network node state after

/-- A move of the whole network: a step of a thread, or, in runs with faults, a
link that closes.  `allowed` restricts the runs that are considered. -/
inductive Move (network : Network Link Store Choice Item Thread)
    [DecidableEq Link] (faults : Prop)
    (allowed : Node → State Link Store Item Thread → Prop)
    (state : State Link Store Item Thread) :
    State Link Store Item Thread → Prop where
  | step {node : Node} {after : State Link Store Item Thread}
      (permitted : allowed node state) (step : Step network node state after) :
      Move network faults allowed state after
  | close (faulty : faults) (link : Link) :
      Move network faults allowed state
        { state with closed := Function.update state.closed link true }

/-- The states of the runs from a given one. -/
def Reaches (network : Network Link Store Choice Item Thread)
    [DecidableEq Link] (faults : Prop)
    (allowed : Node → State Link Store Item Thread → Prop) :
    State Link Store Item Thread → State Link Store Item Thread → Prop :=
  Relation.ReflTransGen (Move network faults allowed)

section Runs

variable [DecidableEq Link] {network : Network Link Store Choice Item Thread}
  {faults : Prop} {allowed : Node → State Link Store Item Thread → Prop}
  {start state : State Link Store Item Thread}

/-- What holds at the start and is preserved by every move holds in every
state of every run. -/
theorem Reaches.invariant (Inv : State Link Store Item Thread → Prop)
    (run : Reaches network faults allowed start state) (initial : Inv start)
    (preserved : ∀ before after, Inv before →
      Move network faults allowed before after → Inv after) :
    Inv state := by
  induction run with
  | refl => exact initial
  | tail _ move ih => exact preserved _ _ ih move

/-- Without faults no link ever closes. -/
theorem Reaches.isOpen (run : Reaches network False allowed start state)
    (initial : ∀ link, start.closed link = false) (channel : Chan) :
    network.IsOpen state channel := by
  have links : ∀ link, state.closed link = false := by
    induction run with
    | refl => exact initial
    | tail _ move ih =>
        cases move with
        | step _ step => cases step <;> exact ih
        | close faulty => exact faulty.elim
  exact fun link _ => links link

/-- A run may be restricted to what is known of all its states. -/
theorem Reaches.assuming {Known : State Link Store Item Thread → Prop}
    (run : Reaches network faults allowed start state)
    (known : ∀ state, Reaches network faults allowed start state →
      Known state) :
    Reaches network faults (fun node state => allowed node state ∧ Known state)
      start state := by
  induction run with
  | refl => exact .refl
  | tail reached move ih =>
      refine ih.tail ?_
      cases move with
      | step permitted step => exact .step ⟨permitted, known _ reached⟩ step
      | close faulty link => exact .close faulty link

/-- While no thread may step, only links change. -/
theorem Reaches.exists_closed {before after : State Link Store Item Thread}
    (run : Reaches network faults (fun _ _ => False) before after) :
    ∃ closed, after = { before with closed } := by
  induction run with
  | refl => exact ⟨before.closed, rfl⟩
  | tail _ move ih =>
      obtain ⟨closed, rfl⟩ := ih
      cases move with
      | step permitted => exact permitted.elim
      | close _ link => exact ⟨Function.update closed link true, rfl⟩

/-- Without faults no item is lost. -/
theorem Reaches.lost_eq_nil (run : Reaches network False allowed start state)
    (initial : ∀ link, start.closed link = false) (none : start.lost = []) :
    state.lost = [] := by
  induction run with
  | refl => exact none
  | tail reached move ih =>
      cases move with
      | step _ step =>
          cases step with
          | sendClosed _ isClosed =>
              exact (isClosed (Reaches.isOpen reached initial _)).elim
          | receive | receiveClosed | send | work => exact ih
      | close faulty => exact faulty.elim

/-- Channels are first-in first-out: what is still queued was enqueued last. -/
theorem Reaches.history_eq (run : Reaches network faults allowed start state)
    (empty : ∀ channel, start.queue channel = []) (unsent : start.sent = [])
    (channel : Chan) :
    ∃ received, state.history channel = received ++ state.queue channel := by
  induction run with
  | refl => exact ⟨[], by simp [State.history, enqueued, empty, unsent]⟩
  | @tail before after _ move ih =>
      obtain ⟨received, split⟩ := ih
      cases move with
      | close => exact ⟨received, split⟩
      | step _ step =>
          cases step with
          | receiveClosed | sendClosed | work => exact ⟨received, split⟩
          | @receive other _ item rest _ _ queue =>
              by_cases same : channel = other
              · subst same
                refine ⟨received ++ [item], split.trans ?_⟩
                simp [queue]
              · refine ⟨received, split.trans ?_⟩
                simp [same]
          | @send other item _ _ _ _ =>
              refine ⟨received, ?_⟩
              by_cases same : channel = other
              · subst same
                calc _ = before.history channel ++ [item] :=
                      enqueued_append_self before.sent channel item before.store
                    _ = received ++ (before.queue channel ++ [item]) := by
                      rw [split, List.append_assoc]
                    _ = _ := by simp
              · calc _ = before.history channel :=
                      enqueued_append_of_ne before.sent (Ne.symm same) item
                        before.store
                    _ = _ := by simp [split, same]

end Runs

/-! ## What a thread may rely on -/

/-- An action secures a property of every thread and the store: the thread that
acts establishes its own, and leaves those of the others alone. -/
def Secures (holds : (node : Node) → Thread node → Store → Prop) (node : Node)
    (thread : Thread node) : Act Item Store Choice (Thread node) → Prop
  | .receive _ next => ∀ store, holds node thread store →
      ∀ item, holds node (next item) store
  | .send _ _ next => ∀ store, holds node thread store →
      ∀ reported, holds node (next reported) store
  | .work effect => ∀ choice store after next,
      effect choice store = some (after, next) → holds node thread store →
      holds node next after ∧
        ∀ other, other ≠ node → ∀ state, holds other state store →
          holds other state after
  | .halt => True

theorem holds_update {holds : (node : Node) → Thread node → Store → Prop}
    {threads : (node : Node) → Thread node} {store : Store} {node : Node}
    {next : Thread node} (own : holds node next store)
    (others : ∀ other, other ≠ node → holds other (threads other) store)
    (other : Node) :
    holds other (Function.update threads node next other) store := by
  by_cases same : other = node
  · subst same
    rwa [Function.update_self]
  · rw [Function.update_of_ne same]
    exact others other same

/-- What every action secures holds of every thread in every state. -/
theorem Reaches.secured [DecidableEq Link]
    {network : Network Link Store Choice Item Thread} {faults : Prop}
    {allowed : Node → State Link Store Item Thread → Prop}
    {start state : State Link Store Item Thread}
    {holds : (node : Node) → Thread node → Store → Prop}
    (run : Reaches network faults allowed start state)
    (initial : ∀ node, holds node (start.thread node) start.store)
    (secures : ∀ node thread,
      Secures holds node thread (network.act node thread)) :
    ∀ node, holds node (state.thread node) state.store := by
  refine run.invariant (fun state => ∀ node,
    holds node (state.thread node) state.store) initial
    fun before after known move => ?_
  cases move with
  | close => exact known
  | @step actor _ _ step =>
      have secured := secures actor (before.thread actor)
      cases step with
      | receive acts | receiveClosed acts | send acts | sendClosed acts =>
          rw [acts] at secured
          exact holds_update (secured _ (known actor) _) fun other _ => known other
      | work acts result =>
          rw [acts] at secured
          obtain ⟨own, others⟩ := secured _ _ _ _ result (known actor)
          exact holds_update own fun other ne => others other ne _ (known other)

/-! ## Enabled steps -/

section Enabled

variable {network : Network Link Store Choice Item Thread} {node : Node}
  {state : State Link Store Item Thread}

theorem CanStep.receive {channel : Chan}
    {next : Option (Item channel) → Thread node}
    (acts : network.act node (state.thread node) = .receive channel next)
    (isOpen : network.IsOpen state channel)
    (filled : state.queue channel ≠ []) : network.CanStep node state := by
  obtain ⟨item, rest, queue⟩ := List.exists_cons_of_ne_nil filled
  exact ⟨_, .receive acts isOpen queue⟩

theorem CanStep.send {channel : Chan} {item : Item channel}
    {next : Bool → Thread node}
    (acts : network.act node (state.thread node) = .send channel item next)
    (isOpen : network.IsOpen state channel)
    (room : network.HasRoom state channel) : network.CanStep node state :=
  ⟨_, .send acts isOpen room⟩

theorem CanStep.work {effect : Choice → Store → Option (Store × Thread node)}
    {choice : Choice} (acts : network.act node (state.thread node) = .work effect)
    (result : (effect choice state.store).isSome) :
    network.CanStep node state := by
  obtain ⟨⟨store, thread⟩, result⟩ := Option.isSome_iff_exists.mp result
  exact ⟨_, .work acts result⟩

end Enabled

end Step

/-! ## Totals -/

/-- A sum over a dependent family with one entry replaced. -/
theorem sum_update {ι M : Type} [Fintype ι] [DecidableEq ι] [AddCommMonoid M]
    {β : ι → Type} (weight : (i : ι) → β i → M) (family : (i : ι) → β i) (i : ι)
    (new : β i) :
    ∑ j, weight j (Function.update family i new j) =
      weight i new + ∑ j ∈ Finset.univ.erase i, weight j (family j) := by
  rw [← Finset.add_sum_erase _ _ (Finset.mem_univ i), Function.update_self]
  congr 1
  refine Finset.sum_congr rfl fun j member => ?_
  rw [Function.update_of_ne (Finset.ne_of_mem_erase member)]

/-- Weights of the items, of the threads and of the items that were lost. -/
structure Weights (Item : Chan → Type) (Thread : Node → Type) (M : Type) where
  item : (channel : Chan) → Item channel → M
  thread : (node : Node) → Thread node → M
  lost : (channel : Chan) → Item channel → Bool → M

section Total

variable {M : Type} [AddCommMonoid M] [Fintype Chan] [Fintype Node]

namespace Weights

variable (weights : Weights Item Thread M)

/-- The weight of a state. -/
def total (state : State Link Store Item Thread) : M :=
  (∑ channel, ((state.queue channel).map (weights.item channel)).sum) +
    (∑ node, weights.thread node (state.thread node)) +
    (state.lost.map fun entry =>
      weights.lost entry.channel entry.item entry.reported).sum

theorem total_eq_zero {state : State Link Store Item Thread}
    (items : ∀ channel, ∀ item ∈ state.queue channel,
      weights.item channel item = 0)
    (threads : ∀ node, weights.thread node (state.thread node) = 0)
    (lost : ∀ entry ∈ state.lost,
      weights.lost entry.channel entry.item entry.reported = 0) :
    weights.total state = 0 := by
  have queues (channel : Chan) :
      ((state.queue channel).map (weights.item channel)).sum = 0 :=
    List.sum_eq_zero fun weight member => by
      obtain ⟨item, inside, rfl⟩ := List.mem_map.mp member
      exact items channel item inside
  have gone : (state.lost.map fun entry =>
      weights.lost entry.channel entry.item entry.reported).sum = 0 :=
    List.sum_eq_zero fun weight member => by
      obtain ⟨entry, inside, rfl⟩ := List.mem_map.mp member
      exact lost entry inside
  simp [total, queues, threads, gone]

/-- Weights seen through a homomorphism. -/
def map {N : Type} [AddCommMonoid N] (f : M →+ N) : Weights Item Thread N where
  item channel item := f (weights.item channel item)
  thread node thread := f (weights.thread node thread)
  lost channel item reported := f (weights.lost channel item reported)

theorem total_map {N : Type} [AddCommMonoid N] (f : M →+ N)
    (state : State Link Store Item Thread) :
    (weights.map f).total state = f (weights.total state) := by
  simp [total, map, map_sum, map_list_sum, Function.comp_def]

/-- Two weights side by side. -/
def prod {N : Type} (other : Weights Item Thread N) :
    Weights Item Thread (M × N) where
  item channel item := (weights.item channel item, other.item channel item)
  thread node thread := (weights.thread node thread, other.thread node thread)
  lost channel item reported :=
    (weights.lost channel item reported, other.lost channel item reported)

theorem total_prod {N : Type} [AddCommMonoid N] (other : Weights Item Thread N)
    (state : State Link Store Item Thread) :
    (weights.prod other).total state =
      (weights.total state, other.total state) :=
  Prod.ext ((weights.prod other).total_map (AddMonoidHom.fst M N) state).symm
    ((weights.prod other).total_map (AddMonoidHom.snd M N) state).symm

section Split

variable [DecidableEq Node]

/-- The weight of the other threads and of all channels. -/
def others (state : State Link Store Item Thread) (node : Node) : M :=
  (∑ channel, ((state.queue channel).map (weights.item channel)).sum) +
    (∑ other ∈ Finset.univ.erase node,
      weights.thread other (state.thread other)) +
    (state.lost.map fun entry =>
      weights.lost entry.channel entry.item entry.reported).sum

theorem total_eq_others (state : State Link Store Item Thread) (node : Node) :
    weights.total state =
      weights.others state node + weights.thread node (state.thread node) := by
  unfold total others
  rw [← Finset.add_sum_erase _ (fun other =>
    weights.thread other (state.thread other)) (Finset.mem_univ node)]
  ac_rfl

/-- A step that replaces a thread and keeps all channels. -/
theorem total_update_thread (state : State Link Store Item Thread) (node : Node)
    (thread : Thread node) (store : Store) (lost : List (Lost Item)) :
    weights.total
        { state with
          thread := Function.update state.thread node thread
          store
          lost := state.lost ++ lost } =
      weights.others state node + weights.thread node thread +
        (lost.map fun entry =>
          weights.lost entry.channel entry.item entry.reported).sum := by
  unfold total others
  dsimp only
  rw [sum_update weights.thread, List.map_append, List.sum_append]
  ac_rfl

variable [DecidableEq Chan]

/-- The weight of the other threads and of the other channels. -/
def rest (state : State Link Store Item Thread) (channel : Chan) (node : Node) :
    M :=
  (∑ other ∈ Finset.univ.erase channel,
      ((state.queue other).map (weights.item other)).sum) +
    (∑ other ∈ Finset.univ.erase node,
      weights.thread other (state.thread other)) +
    (state.lost.map fun entry =>
      weights.lost entry.channel entry.item entry.reported).sum

theorem total_eq_rest (state : State Link Store Item Thread) (channel : Chan)
    (node : Node) :
    weights.total state =
      weights.rest state channel node +
        ((state.queue channel).map (weights.item channel)).sum +
        weights.thread node (state.thread node) := by
  unfold total rest
  rw [← Finset.add_sum_erase _ (fun other =>
      ((state.queue other).map (weights.item other)).sum)
      (Finset.mem_univ channel),
    ← Finset.add_sum_erase _ (fun other =>
      weights.thread other (state.thread other)) (Finset.mem_univ node)]
  ac_rfl

/-- A step that replaces a thread and the contents of a channel. -/
theorem total_update_queue (state : State Link Store Item Thread) (node : Node)
    (thread : Thread node) (channel : Chan) (items : List (Item channel))
    (sent : List (Sent Store Item)) :
    weights.total
        { state with
          queue := Function.update state.queue channel items
          thread := Function.update state.thread node thread
          sent } =
      weights.rest state channel node +
        (items.map (weights.item channel)).sum + weights.thread node thread := by
  unfold total rest
  dsimp only
  rw [sum_update weights.thread,
    sum_update fun channel (items : List (Item channel)) =>
      (items.map (weights.item channel)).sum]
  ac_rfl

/-- The weight of a queued item is part of the whole. -/
theorem exists_total_eq_item {state : State Link Store Item Thread}
    {channel : Chan} {item : Item channel} (member : item ∈ state.queue channel)
    (node : Node) :
    ∃ rest, weights.total state = rest + (weights.item channel item +
      weights.thread node (state.thread node)) := by
  obtain ⟨front, back, split⟩ := List.append_of_mem member
  refine ⟨weights.rest state channel node + ((front ++ back).map
    (weights.item channel)).sum, ?_⟩
  rw [weights.total_eq_rest state channel node, split]
  simp only [List.map_append, List.map_cons, List.sum_append, List.sum_cons]
  ac_rfl

end Split

end Weights

/-- What the rule knows before a step: the thread that acts, and that the
invariant holds of what the step sees together with an unknown rest. -/
structure Focus (weights : Weights Item Thread M)
    (allowed : Node → State Link Store Item Thread → Prop)
    (inv : Store → M → List (Sent Store Item) → Prop) (node : Node)
    (thread : Thread node) (state : State Link Store Item Thread)
    (rest seen : M) : Prop where
  acting : state.thread node = thread
  permitted : allowed node state
  total : weights.total state = rest + seen
  holds : inv state.store (rest + seen) state.sent

/-- An action of a thread respects an invariant of the total: whatever the
rest is, the invariant still holds after the weights the step sees have
changed. -/
def Respects (weights : Weights Item Thread M) (mayClose : Chan → Prop)
    (allowed : Node → State Link Store Item Thread → Prop)
    (inv : Store → M → List (Sent Store Item) → Prop) (node : Node)
    (thread : Thread node) :
    Act Item Store Choice (Thread node) → Prop
  | .receive channel next =>
      (∀ state rest item, item ∈ state.queue channel →
        Focus weights allowed inv node thread state rest
          (weights.item channel item + weights.thread node thread) →
        inv state.store (rest + weights.thread node (next (some item)))
          state.sent) ∧
      (mayClose channel → ∀ state rest,
        Focus weights allowed inv node thread state rest
          (weights.thread node thread) →
        inv state.store (rest + weights.thread node (next none)) state.sent)
  | .send channel item next =>
      (∀ state rest,
        Focus weights allowed inv node thread state rest
          (weights.thread node thread) →
        inv state.store
          (rest + (weights.item channel item + weights.thread node (next true)))
          (state.sent ++ [⟨channel, item, state.store⟩])) ∧
      (mayClose channel → ∀ reported state rest,
        Focus weights allowed inv node thread state rest
          (weights.thread node thread) →
        inv state.store
          (rest + (weights.lost channel item reported +
            weights.thread node (next reported))) state.sent)
  | .work effect =>
      ∀ state rest choice store after,
        effect choice state.store = some (store, after) →
        Focus weights allowed inv node thread state rest
          (weights.thread node thread) →
        inv store (rest + weights.thread node after) state.sent
  | .halt => True

section Quiet

variable {α : Type} {weights : Weights Item Thread M} {mayClose : Chan → Prop}
  {allowed : Node → State Link Store Item Thread → Prop}
  {inv : Store → M → List (Sent Store Item) → Prop} {node : Node}
  {thread : Thread node} {act : Act Item Store Choice (Thread node)}

/-- An invariant that looks at one view of the store only, and not at what is
enqueued if it is quiet. -/
structure Ignores (inv : Store → M → List (Sent Store Item) → Prop)
    (view : Store → α) (quiet : (channel : Chan) → Item channel → Prop) :
    Prop where
  store : ∀ {store after total sent}, view after = view store →
    inv store total sent → inv after total sent
  sent : ∀ {store total sent entry}, quiet entry.channel entry.item →
    inv store total sent → inv store total (sent ++ [entry])

/-- An action that moves weights without changing their sum, and changes
nothing else that an invariant looks at. -/
def Keeps (weights : Weights Item Thread M) (mayClose : Chan → Prop)
    (view : Store → α) (quiet : (channel : Chan) → Item channel → Prop)
    (node : Node) (thread : Thread node) :
    Act Item Store Choice (Thread node) → Prop
  | .receive channel next =>
      (∀ item, weights.thread node (next (some item)) =
        weights.item channel item + weights.thread node thread) ∧
      (mayClose channel →
        weights.thread node (next none) = weights.thread node thread)
  | .send channel item next =>
      quiet channel item ∧
      weights.item channel item + weights.thread node (next true) =
        weights.thread node thread ∧
      (mayClose channel → ∀ reported, weights.lost channel item reported +
        weights.thread node (next reported) = weights.thread node thread)
  | .work effect => ∀ choice store after next,
      effect choice store = some (after, next) →
      view after = view store ∧
        weights.thread node next = weights.thread node thread
  | .halt => True

theorem Keeps.respects {view : Store → α}
    {quiet : (channel : Chan) → Item channel → Prop}
    (ignores : Ignores inv view quiet)
    (keeps : Keeps weights mayClose view quiet node thread act) :
    Respects weights mayClose allowed inv node thread act := by
  cases act with
  | receive channel next =>
      refine ⟨fun state rest item _ focus => ?_, fun closing state rest focus => ?_⟩
      · rw [keeps.1]
        exact focus.holds
      · rw [keeps.2 closing]
        exact focus.holds
  | send channel item next =>
      obtain ⟨silent, sent, lost⟩ := keeps
      refine ⟨fun state rest focus => ?_,
        fun closing reported state rest focus => ?_⟩
      · rw [sent]
        exact ignores.sent silent focus.holds
      · rw [lost closing]
        exact focus.holds
  | work effect =>
      intro state rest choice store after result focus
      obtain ⟨same, weight⟩ := keeps choice _ _ _ result
      rw [weight]
      exact ignores.store same focus.holds
  | halt => trivial

/-- An action that uses only some channels and changes the store only within a
frame. -/
def Within (channels : Chan → Prop) (frame : Store → Store → Prop) :
    Act Item Store Choice (Thread node) → Prop
  | .receive channel _ => channels channel
  | .send channel _ _ => channels channel
  | .work effect => ∀ choice store after next,
      effect choice store = some (after, next) → frame store after
  | .halt => True

omit [Fintype Chan] [Fintype Node] in
/-- A thread without weight, on channels without weight, keeps every weight. -/
theorem Keeps.of_within {channels : Chan → Prop} {frame : Store → Store → Prop}
    {view : Store → α} {quiet : (channel : Chan) → Item channel → Prop}
    (within : Within channels frame act)
    (unchanged : ∀ store after, frame store after → view after = view store)
    (silent : ∀ thread, weights.thread node thread = 0)
    (items : ∀ channel, channels channel → ∀ item,
      quiet channel item ∧ weights.item channel item = 0 ∧
        ∀ reported, weights.lost channel item reported = 0) :
    Keeps weights mayClose view quiet node thread act := by
  cases act with
  | receive channel next =>
      exact ⟨fun item => by simp [silent, (items channel within item).2.1],
        fun _ => by simp [silent]⟩
  | send channel item next =>
      obtain ⟨silence, weight, lost⟩ := items channel within item
      exact ⟨silence, by simp [silent, weight], fun _ reported => by
        simp [silent, lost]⟩
  | work effect =>
      exact fun choice store after next result =>
        ⟨unchanged _ _ (within choice store after next result), by simp [silent]⟩
  | halt => trivial

end Quiet

variable [DecidableEq Chan] [DecidableEq Node]

/-- One step of a thread whose action respects the invariant. -/
theorem Step.preserves {network : Network Link Store Choice Item Thread}
    {weights : Weights Item Thread M} {mayClose : Chan → Prop}
    {allowed : Node → State Link Store Item Thread → Prop}
    {inv : Store → M → List (Sent Store Item) → Prop} {node : Node}
    {before after : State Link Store Item Thread}
    (respects : Respects weights mayClose allowed inv node (before.thread node)
      (network.act node (before.thread node)))
    (isOpen : ∀ channel, ¬ mayClose channel → network.IsOpen before channel)
    (permitted : allowed node before)
    (holds : inv before.store (weights.total before) before.sent)
    (step : Step network node before after) :
    inv after.store (weights.total after) after.sent := by
  cases step with
  | @receive channel next item items acts _ queue =>
      rw [acts] at respects
      have split := weights.total_eq_rest before channel node
      have total : weights.total before =
          (weights.rest before channel node +
            (items.map (weights.item channel)).sum) +
          (weights.item channel item +
            weights.thread node (before.thread node)) := by
        rw [split, queue, List.map_cons, List.sum_cons]
        ac_rfl
      have kept := respects.1 before _ item (queue ▸ List.mem_cons_self)
        { acting := rfl, permitted, total, holds := total ▸ holds }
      rwa [weights.total_update_queue before node _ channel items before.sent]
  | @receiveClosed channel next acts isClosed =>
      rw [acts] at respects
      have closing : mayClose channel := by
        by_contra reliable
        exact isClosed (isOpen _ reliable)
      have total := weights.total_eq_others before node
      have kept := respects.2 closing before _
        { acting := rfl, permitted, total, holds := total ▸ holds }
      have changed := weights.total_update_thread before node (next none)
        before.store []
      rw [List.append_nil, List.map_nil, List.sum_nil, add_zero] at changed
      rwa [changed]
  | @send channel item next acts _ _ =>
      rw [acts] at respects
      have split := weights.total_eq_rest before channel node
      have kept := respects.1 before _
        { acting := rfl, permitted, total := split, holds := split ▸ holds }
      rw [weights.total_update_queue before node _ channel _ _,
        List.map_append, List.sum_append, List.map_singleton, List.sum_singleton]
      convert kept using 1
      ac_rfl
  | @sendClosed channel item next acts isClosed reported =>
      rw [acts] at respects
      have closing : mayClose channel := by
        by_contra reliable
        exact isClosed (isOpen _ reliable)
      have total := weights.total_eq_others before node
      have kept := respects.2 closing reported before _
        { acting := rfl, permitted, total, holds := total ▸ holds }
      have changed := weights.total_update_thread before node (next reported)
        before.store [⟨channel, item, reported⟩]
      rw [List.map_singleton, List.sum_singleton] at changed
      rw [changed]
      convert kept using 1
      ac_rfl
  | @work effect choice store thread acts result =>
      rw [acts] at respects
      have total := weights.total_eq_others before node
      have kept := respects before _ _ _ _ result
        { acting := rfl, permitted, total, holds := total ▸ holds }
      have changed := weights.total_update_thread before node thread store []
      rw [List.append_nil, List.map_nil, List.sum_nil, add_zero] at changed
      rwa [changed]

/-- The invariant of the total holds in every state of every run when the
actions of all threads respect it. -/
theorem Reaches.total_invariant [DecidableEq Link]
    {network : Network Link Store Choice Item Thread}
    {weights : Weights Item Thread M} {faults : Prop}
    {allowed : Node → State Link Store Item Thread → Prop}
    (inv : Store → M → List (Sent Store Item) → Prop)
    {start state : State Link Store Item Thread}
    (run : Reaches network faults allowed start state)
    (closed : ∀ link, start.closed link = false)
    (initial : inv start.store (weights.total start) start.sent)
    (respects : ∀ node thread,
      Respects weights (network.MayClose faults) allowed inv node thread
        (network.act node thread)) :
    inv state.store (weights.total state) state.sent := by
  have both : (¬ faults → ∀ link, state.closed link = false) ∧
      inv state.store (weights.total state) state.sent := by
    induction run with
    | refl => exact ⟨fun _ => closed, initial⟩
    | tail _ move ih =>
        obtain ⟨links, holds⟩ := ih
        cases move with
        | step permitted step =>
            refine ⟨fun reliable => ?_, step.preserves (respects _ _)
              (fun channel unclosable link belongs => ?_) permitted holds⟩
            · cases step <;> exact links reliable
            · refine links (fun faulty => unclosable ⟨faulty, ?_⟩) link
              simp [belongs]
        | close faulty link =>
            exact ⟨fun reliable => (reliable faulty).elim, holds⟩
  exact both.2

end Total

end Network

end Concurrente.Library
