import Concurrente.Library.ThreadNetwork

/-!
# Stop tokens

Threads of a network end one after the other by tokens that they find in their
channels: a thread owes tokens to the channels it writes, and awaits tokens
from the channels it reads.  The duty to read a channel to its end may move
from thread to thread with an item, or be still vacant.

When every step honors these duties, the tokens of every channel add up in
every state of every run, and nothing is enqueued behind the last of them.
-/

namespace Concurrente.Library.Network

variable {Chan Node Link Store Choice : Type} {Item : Chan → Type}
  {Thread : Node → Type}

/-- Which items are tokens, and who owes and awaits them.  `carries` is the
duty that goes with an item, and `vacant` the one that nobody has yet. -/
structure StopProtocol (Store : Type) (Item : Chan → Type)
    (Thread : Node → Type) where
  isStop : (channel : Chan) → Item channel → Bool
  owes : (node : Node) → Thread node → Chan → Nat
  awaits : (node : Node) → Thread node → Chan → Nat
  carries : (channel : Chan) → Item channel → Chan → Nat
  vacant : Store → Chan → Nat

namespace StopProtocol

variable [DecidableEq Chan] (protocol : StopProtocol Store Item Thread)

/-- The tokens that an item is. -/
def token (channel : Chan) (item : Item channel) : Chan → Nat :=
  if protocol.isStop channel item then Pi.single channel 1 else 0

/-- An action that moves duties without losing any: a token is sent by the
thread that owes it and received by the one that awaits it, and whoever
enqueues something still owes a token. -/
def Honors (allowed : Node → State Link Store Item Thread → Prop) (node : Node)
    (thread : Thread node) : Act Item Store Choice (Thread node) → Prop
  | .receive channel next => ∀ state item, allowed node state →
      state.thread node = thread → item ∈ state.queue channel →
      protocol.owes node (next (some item)) = protocol.owes node thread ∧
      protocol.awaits node (next (some item)) + protocol.token channel item =
        protocol.awaits node thread + protocol.carries channel item
  | .send channel item next => ∀ state, allowed node state →
      state.thread node = thread →
      0 < protocol.owes node thread channel ∧
      protocol.owes node (next true) + protocol.token channel item =
        protocol.owes node thread ∧
      protocol.awaits node (next true) + protocol.carries channel item =
        protocol.awaits node thread
  | .work effect => ∀ state choice store next, allowed node state →
      state.thread node = thread →
      effect choice state.store = some (store, next) →
      protocol.owes node next = protocol.owes node thread ∧
      protocol.awaits node next + protocol.vacant store =
        protocol.awaits node thread + protocol.vacant state.store
  | .halt => True

/-- The tokens in a channel. -/
def queued (state : State Link Store Item Thread) (channel : Chan) : Nat :=
  (state.queue channel).countP (protocol.isStop channel)

/-- The tokens that were enqueued in a channel. -/
def stopsIn (sent : List (Sent Store Item)) (channel : Chan) : Nat :=
  (enqueued sent channel).countP (protocol.isStop channel)

variable [Fintype Chan] [Fintype Node]

/-- The tokens that the threads owe to a channel. -/
def owed (state : State Link Store Item Thread) (channel : Chan) : Nat :=
  ∑ node, protocol.owes node (state.thread node) channel

/-- The tokens that are awaited from a channel. -/
def awaited (state : State Link Store Item Thread) (channel : Chan) : Nat :=
  (∑ node, protocol.awaits node (state.thread node) channel) +
    (∑ other, ((state.queue other).map fun item =>
      protocol.carries other item channel).sum) +
    protocol.vacant state.store channel

/-- Tokens that are owed, that are queued, and that are awaited by threads and
items. -/
def weights : Weights Item Thread
    ((Chan → Nat) × (Chan → Nat) × (Chan → Nat)) where
  item channel item :=
    (0, protocol.token channel item, protocol.carries channel item)
  thread node thread :=
    (protocol.owes node thread, 0, protocol.awaits node thread)
  lost _ _ _ := 0

/-- The tokens add up, for the tokens that were owed at the start. -/
structure Balanced (expected : Chan → Nat) (store : Store)
    (duties : (Chan → Nat) × (Chan → Nat) × (Chan → Nat))
    (sent : List (Sent Store Item)) : Prop where
  balance : ∀ channel, duties.2.1 channel + duties.1 channel =
    duties.2.2 channel + protocol.vacant store channel
  count : ∀ channel,
    protocol.stopsIn sent channel + duties.1 channel = expected channel
  order : ∀ channel (front : List (Item channel)) item back,
    enqueued sent channel = front ++ item :: back →
    front.countP (protocol.isStop channel) < expected channel

section Totals

variable {protocol} (state : State Link Store Item Thread) (channel : Chan)

omit [Fintype Chan] [Fintype Node] in
theorem token_self (item : Item channel) :
    protocol.token channel item channel =
      if protocol.isStop channel item then 1 else 0 := by
  unfold token
  split <;> simp

omit [Fintype Chan] [Fintype Node] in
theorem token_of_ne {other : Chan} (ne : channel ≠ other) (item : Item other) :
    protocol.token other item channel = 0 := by
  unfold token
  split <;> simp [ne]

theorem total_owed : (protocol.weights.total state).1 channel =
    protocol.owed state channel := by
  have mapped := protocol.weights.total_map ((Pi.evalAddMonoidHom _ channel).comp
    (AddMonoidHom.fst (Chan → Nat) ((Chan → Nat) × (Chan → Nat)))) state
  refine mapped.symm.trans ?_
  simp [Weights.total, Weights.map, weights, owed]

theorem total_queued : (protocol.weights.total state).2.1 channel =
    protocol.queued state channel := by
  have mapped := protocol.weights.total_map ((Pi.evalAddMonoidHom _ channel).comp
    ((AddMonoidHom.fst _ _).comp
      (AddMonoidHom.snd (Chan → Nat) ((Chan → Nat) × (Chan → Nat))))) state
  refine mapped.symm.trans ?_
  have single : ∀ other ∈ Finset.univ, other ≠ channel →
      ((state.queue other).map fun item =>
        protocol.token other item channel).sum = 0 :=
    fun other _ ne => by simp [token_of_ne channel (Ne.symm ne)]
  have items : ((state.queue channel).map fun item =>
      protocol.token channel item channel).sum =
        (state.queue channel).countP (protocol.isStop channel) := by
    simp only [token_self]
    induction state.queue channel with
    | nil => rfl
    | cons item rest ih =>
        rw [List.map_cons, List.sum_cons, ih, List.countP_cons, Nat.add_comm]
  simp [Weights.total, Weights.map, weights, queued,
    Finset.sum_eq_single_of_mem channel (Finset.mem_univ _) single, items]

theorem total_awaited : (protocol.weights.total state).2.2 channel +
      protocol.vacant state.store channel =
    protocol.awaited state channel := by
  have mapped := protocol.weights.total_map ((Pi.evalAddMonoidHom _ channel).comp
    ((AddMonoidHom.snd _ _).comp
      (AddMonoidHom.snd (Chan → Nat) ((Chan → Nat) × (Chan → Nat))))) state
  rw [awaited, Nat.add_right_cancel_iff]
  refine mapped.symm.trans ?_
  simp [Weights.total, Weights.map, weights, Nat.add_comm, Function.comp_def]

end Totals

section Steps

variable {protocol} {expected : Chan → Nat}
  {allowed : Node → State Link Store Item Thread → Prop} {node : Node}
  {thread : Thread node} {act : Act Item Store Choice (Thread node)}

omit [Fintype Chan] [Fintype Node] in
/-- An item is enqueued by a thread that still owes a token. -/
theorem Balanced.send {channel : Chan} {item : Item channel} {next : Thread node}
    {store : Store} {rest : (Chan → Nat) × (Chan → Nat) × (Chan → Nat)}
    {sent : List (Sent Store Item)}
    (balanced : protocol.Balanced expected store
      (rest + protocol.weights.thread node thread) sent)
    (owing : 0 < protocol.owes node thread channel)
    (owes : protocol.owes node next + protocol.token channel item =
      protocol.owes node thread)
    (awaits : protocol.awaits node next + protocol.carries channel item =
      protocol.awaits node thread) :
    protocol.Balanced expected store
      (rest + (protocol.weights.item channel item +
        protocol.weights.thread node next))
      (sent ++ [⟨channel, item, store⟩]) where
  balance other := by
    have held := balanced.balance other
    have owed := congrFun owes other
    have awaited := congrFun awaits other
    simp only [weights, Prod.fst_add, Prod.snd_add, Pi.add_apply, Pi.zero_apply]
      at held owed awaited ⊢
    omega
  count other := by
    have held := balanced.count other
    have owed := congrFun owes other
    simp only [weights, Prod.fst_add, Pi.add_apply, Pi.zero_apply] at held owed ⊢
    by_cases same : other = channel
    · subst same
      rw [token_self] at owed
      rw [stopsIn, enqueued_append_self, List.countP_append, List.countP_singleton]
      unfold stopsIn at held
      omega
    · rw [token_of_ne other same] at owed
      rw [stopsIn, enqueued_append_of_ne _ (Ne.symm same)]
      unfold stopsIn at held
      omega
  order other front entry back split := by
    by_cases same : other = channel
    · subst same
      rw [enqueued_append_self] at split
      rcases List.eq_nil_or_concat back with rfl | ⟨back, last, rfl⟩
      · obtain ⟨rfl, _⟩ := List.append_inj' split rfl
        have held := balanced.count other
        simp only [weights, Prod.fst_add, Pi.add_apply] at held
        unfold stopsIn at held
        omega
      · have shorter : enqueued sent other = front ++ entry :: back := by
          have same : enqueued sent other ++ [item] =
              (front ++ entry :: back) ++ [last] := by simpa using split
          exact (List.append_inj' same rfl).1
        exact balanced.order other front entry back shorter
    · rw [enqueued_append_of_ne _ (Ne.symm same)] at split
      exact balanced.order other front entry back split

theorem Honors.respects (honors : protocol.Honors allowed node thread act) :
    Respects protocol.weights (fun _ => False) allowed
      (protocol.Balanced expected) node thread act := by
  cases act with
  | receive channel next =>
      refine ⟨fun state rest item member focus => ?_, fun closing => closing.elim⟩
      obtain ⟨owes, awaits⟩ := honors state item focus.permitted focus.acting member
      have held := focus.holds
      refine ⟨fun other => ?_, fun other => ?_, held.order⟩
      · have held := held.balance other
        have owed := congrFun owes other
        have awaited := congrFun awaits other
        simp only [weights, Prod.fst_add, Prod.snd_add, Pi.add_apply,
          Pi.zero_apply] at held owed awaited ⊢
        omega
      · have held := held.count other
        have owed := congrFun owes other
        simp only [weights, Prod.fst_add, Pi.add_apply, Pi.zero_apply]
          at held owed ⊢
        omega
  | send channel item next =>
      refine ⟨fun state rest focus => ?_, fun closing => closing.elim⟩
      obtain ⟨owing, owes, awaits⟩ := honors state focus.permitted focus.acting
      exact focus.holds.send owing owes awaits
  | work effect =>
      intro state rest choice store next result focus
      obtain ⟨owes, awaits⟩ :=
        honors state choice store next focus.permitted focus.acting result
      have held := focus.holds
      refine ⟨fun other => ?_, fun other => ?_, held.order⟩
      · have held := held.balance other
        have owed := congrFun owes other
        have awaited := congrFun awaits other
        simp only [weights, Prod.fst_add, Prod.snd_add, Pi.add_apply,
          Pi.zero_apply] at held owed awaited ⊢
        omega
      · have held := held.count other
        have owed := congrFun owes other
        simp only [weights, Prod.fst_add, Pi.add_apply] at held owed ⊢
        omega
  | halt => trivial

end Steps

section Runs

variable {protocol} [DecidableEq Node] [DecidableEq Link]
  {network : Network Link Store Choice Item Thread}
  {allowed : Node → State Link Store Item Thread → Prop}
  {start state : State Link Store Item Thread}

/-- In every state of every run the tokens add up, when the duties do at the
start and every step honors them. -/
theorem balanced (run : Reaches network False allowed start state)
    (closed : ∀ link, start.closed link = false)
    (empty : ∀ channel, start.queue channel = []) (unsent : start.sent = [])
    (shared : ∀ channel,
      protocol.owed start channel = protocol.awaited start channel)
    (honors : ∀ node thread,
      protocol.Honors allowed node thread (network.act node thread)) :
    protocol.Balanced (protocol.owed start) state.store
      (protocol.weights.total state) state.sent := by
  refine run.total_invariant (protocol.Balanced (protocol.owed start)) closed
    ⟨fun channel => ?_, fun channel => ?_, ?_⟩ fun node thread => ?_
  · rw [total_queued, total_owed, total_awaited, ← shared]
    simp [queued, empty]
  · rw [total_owed, unsent]
    exact Nat.zero_add _
  · intro channel front item back split
    rw [unsent] at split
    cases front <;> cases split
  · have unclosable : network.MayClose False = fun _ => False :=
      funext fun channel => eq_false fun closing => closing.1
    rw [unclosable]
    exact (honors node thread).respects

end Runs

section Consequences

variable {protocol} {expected : Chan → Nat} {state : State Link Store Item Thread}
  (balanced : protocol.Balanced expected state.store
    (protocol.weights.total state) state.sent)
  (channel : Chan)

include balanced

/-- What is queued or owed is awaited. -/
theorem Balanced.queued_add_owed :
    protocol.queued state channel + protocol.owed state channel =
      protocol.awaited state channel := by
  rw [← total_queued, ← total_owed, ← total_awaited]
  exact balanced.balance channel

/-- What was enqueued or is owed is what was owed at the start. -/
theorem Balanced.stopsIn_add_owed :
    protocol.stopsIn state.sent channel + protocol.owed state channel =
      expected channel := by
  rw [← total_owed]
  exact balanced.count channel

/-- A channel from which nobody awaits a token is empty. -/
theorem Balanced.queue_eq_nil
    (fifo : ∃ received, state.history channel = received ++ state.queue channel)
    (none : protocol.awaited state channel = 0) : state.queue channel = [] := by
  have held := balanced.queued_add_owed channel
  have count := balanced.stopsIn_add_owed channel
  obtain ⟨received, split⟩ := fifo
  cases contents : state.queue channel with
  | nil => rfl
  | cons item rest =>
      rw [contents] at split
      have early := balanced.order channel received item rest split
      unfold State.history at split
      unfold stopsIn queued at *
      rw [split, List.countP_append, ← contents] at count
      omega

end Consequences

end StopProtocol

end Concurrente.Library.Network
