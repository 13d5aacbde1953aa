import Concurrente.Library.CountedRuns
import Concurrente.Library.ThreadNetwork

/-!
# Budgets

Threads and items get a weight of what they still cause.  A thread that spends
at each of its actions, whatever it receives, lowers the weight of the whole
network at each of its steps.  The weights may depend on the store; a change of
the store may then raise no weight.
-/

namespace Concurrente.Library.Network

variable {Chan Node Link Store Choice : Type} {Item : Chan → Type}
  {Thread : Node → Type}

/-- No thread and no item weighs more than before. -/
structure Weights.Le (after before : Weights Item Thread Nat) : Prop where
  item : ∀ channel item, after.item channel item ≤ before.item channel item
  thread : ∀ node thread, after.thread node thread ≤ before.thread node thread
  lost : ∀ channel item reported,
    after.lost channel item reported ≤ before.lost channel item reported

@[simp] theorem Weights.Le.refl (weights : Weights Item Thread Nat) :
    weights.Le weights :=
  ⟨fun _ _ => Nat.le_refl _, fun _ _ => Nat.le_refl _, fun _ _ _ => Nat.le_refl _⟩

/-- An action of a thread spends some of the weight of the thread and of the
item it receives.  Only effects that `counts` admits are asked about. -/
def Spends (weights : Store → Weights Item Thread Nat)
    (counts : Store → Store → Prop) (store : Store) (node : Node)
    (thread : Thread node) : Act Item Store Choice (Thread node) → Prop
  | .receive channel next =>
      (weights store).thread node (next none) <
        (weights store).thread node thread ∧
      ∀ item, (weights store).thread node (next (some item)) <
        (weights store).thread node thread + (weights store).item channel item
  | .send channel item next =>
      (weights store).thread node (next true) +
        (weights store).item channel item < (weights store).thread node thread ∧
      ∀ reported, (weights store).thread node (next reported) +
        (weights store).lost channel item reported <
          (weights store).thread node thread
  | .work effect => ∀ choice after next,
      effect choice store = some (after, next) → counts store after →
      (weights after).Le (weights store) ∧
        (weights after).thread node next < (weights store).thread node thread
  | .halt => True

section Total

variable [Fintype Chan] [Fintype Node] {weights : Store → Weights Item Thread Nat}

theorem Weights.Le.others_le [DecidableEq Node]
    {after before : Weights Item Thread Nat} (le : after.Le before)
    (state : State Link Store Item Thread) (node : Node) :
    after.others state node ≤ before.others state node := by
  unfold Weights.others
  have items : (∑ channel, ((state.queue channel).map (after.item channel)).sum) ≤
      ∑ channel, ((state.queue channel).map (before.item channel)).sum :=
    Finset.sum_le_sum fun channel _ =>
      List.sum_le_sum fun item _ => le.item channel item
  have threads : (∑ other ∈ Finset.univ.erase node,
      after.thread other (state.thread other)) ≤
      ∑ other ∈ Finset.univ.erase node, before.thread other (state.thread other) :=
    Finset.sum_le_sum fun other _ => le.thread other _
  have lost : (state.lost.map fun entry =>
      after.lost entry.channel entry.item entry.reported).sum ≤
      (state.lost.map fun entry =>
        before.lost entry.channel entry.item entry.reported).sum :=
    List.sum_le_sum fun entry _ => le.lost entry.channel entry.item entry.reported
  omega

/-- The weight of a state, as its store sees it. -/
def budget (weights : Store → Weights Item Thread Nat)
    (state : State Link Store Item Thread) : Nat :=
  (weights state.store).total state

variable [DecidableEq Chan] [DecidableEq Node]

/-- A step of a thread that spends lowers the budget. -/
theorem Step.budget_lt {network : Network Link Store Choice Item Thread}
    {counts : Store → Store → Prop} {node : Node}
    {before after : State Link Store Item Thread}
    (spends : Spends weights counts before.store node (before.thread node)
      (network.act node (before.thread node)))
    (step : Step network node before after)
    (counted : counts before.store after.store) :
    budget weights after < budget weights before := by
  cases step with
  | @receive channel next item items acts _ queue =>
      rw [acts] at spends
      have less := spends.2 item
      have whole := (weights before.store).total_eq_rest before channel node
      rw [queue, List.map_cons, List.sum_cons] at whole
      have changed := (weights before.store).total_update_queue before node
        (next (some item)) channel items before.sent
      change (weights before.store).total _ < (weights before.store).total before
      rw [whole]
      refine lt_of_eq_of_lt changed ?_
      omega
  | @receiveClosed channel next acts =>
      rw [acts] at spends
      have less := spends.1
      have whole := (weights before.store).total_eq_others before node
      have changed := (weights before.store).total_update_thread before node
        (next none) before.store []
      rw [List.append_nil, List.map_nil, List.sum_nil, add_zero] at changed
      change (weights before.store).total _ < (weights before.store).total before
      rw [whole]
      refine lt_of_eq_of_lt changed ?_
      omega
  | @send channel item next acts =>
      rw [acts] at spends
      have less := spends.1
      have whole := (weights before.store).total_eq_rest before channel node
      have changed := (weights before.store).total_update_queue before node
        (next true) channel (before.queue channel ++ [item])
        (before.sent ++ [⟨channel, item, before.store⟩])
      rw [List.map_append, List.sum_append, List.map_singleton,
        List.sum_singleton] at changed
      change (weights before.store).total _ < (weights before.store).total before
      rw [whole]
      refine lt_of_eq_of_lt changed ?_
      omega
  | @sendClosed channel item next acts _ reported =>
      rw [acts] at spends
      have less := spends.2 reported
      have whole := (weights before.store).total_eq_others before node
      have changed := (weights before.store).total_update_thread before node
        (next reported) before.store [⟨channel, item, reported⟩]
      rw [List.map_singleton, List.sum_singleton] at changed
      change (weights before.store).total _ < (weights before.store).total before
      rw [whole]
      refine lt_of_eq_of_lt changed ?_
      dsimp only
      omega
  | @work effect choice store thread acts result =>
      rw [acts] at spends
      obtain ⟨le, less⟩ := spends choice store thread result counted
      have whole := (weights before.store).total_eq_others before node
      have changed := (weights store).total_update_thread before node thread
        store []
      rw [List.append_nil, List.map_nil, List.sum_nil, add_zero] at changed
      have others := le.others_le before node
      change (weights store).total _ < (weights before.store).total before
      rw [whole]
      refine lt_of_eq_of_lt changed ?_
      omega

end Total

end Concurrente.Library.Network
