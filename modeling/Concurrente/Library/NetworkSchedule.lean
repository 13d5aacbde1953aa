import Concurrente.Library.ThreadNetwork

/-!
# Schedules

A schedule names the thread that steps next, or the link that closes, so that
single runs of a network can be computed.
-/

namespace Concurrente.Library.Network

variable {Chan Node Link Store Choice : Type} {Item : Chan → Type}
  {Thread : Node → Type}

/-- An entry of a schedule: a thread, with what happens outside and what a send
on a closed channel reports, or a link. -/
inductive Turn (Node Link Choice : Type) where
  | step (node : Node) (choice : Choice) (reported : Bool)
  | close (link : Link)

section

variable (network : Network Link Store Choice Item Thread)

/-- `IsOpen`, computed. -/
def openNow (state : State Link Store Item Thread) (channel : Chan) : Bool :=
  match network.link channel with
  | some link => !state.closed link
  | none => true

/-- `HasRoom`, computed. -/
def roomNow (state : State Link Store Item Thread) (channel : Chan) : Bool :=
  match network.capacity channel with
  | some capacity => (state.queue channel).length < capacity
  | none => true

variable [DecidableEq Chan] [DecidableEq Node] [DecidableEq Link]

/-- The state after a step of a thread, if it can take one. -/
def advance (node : Node) (choice : Choice) (reported : Bool)
    (state : State Link Store Item Thread) :
    Option (State Link Store Item Thread) :=
  match network.act node (state.thread node) with
  | .receive channel next =>
      if network.openNow state channel then
        match state.queue channel with
        | [] => none
        | item :: rest => some { state with
            queue := Function.update state.queue channel rest
            thread := Function.update state.thread node (next (some item)) }
      else some { state with
        thread := Function.update state.thread node (next none) }
  | .send channel item next =>
      if network.openNow state channel then
        if network.roomNow state channel then some { state with
          queue := Function.update state.queue channel
            (state.queue channel ++ [item])
          thread := Function.update state.thread node (next true)
          sent := state.sent ++ [⟨channel, item, state.store⟩] }
        else none
      else some { state with
        thread := Function.update state.thread node (next reported)
        lost := state.lost ++ [⟨channel, item, reported⟩] }
  | .work effect =>
      match effect choice state.store with
      | some (store, thread) => some { state with
          store
          thread := Function.update state.thread node thread }
      | none => none
  | .halt => none

/-- The state after a schedule, if every entry is permitted and possible. -/
def exec (faults : Bool)
    (permit : Node → State Link Store Item Thread → Bool) :
    List (Turn Node Link Choice) → State Link Store Item Thread →
      Option (State Link Store Item Thread)
  | [], state => some state
  | .step node choice reported :: turns, state =>
      if permit node state then
        (network.advance node choice reported state).bind
          (exec faults permit turns)
      else none
  | .close link :: turns, state =>
      if faults then
        exec faults permit turns
          { state with closed := Function.update state.closed link true }
      else none

/-- A thread that has come to an end, or uses an open channel that is empty or
full. -/
def waits (node : Node) (state : State Link Store Item Thread) : Bool :=
  match network.act node (state.thread node) with
  | .receive channel _ =>
      network.openNow state channel && (state.queue channel).isEmpty
  | .send channel _ _ =>
      network.openNow state channel && !network.roomNow state channel
  | .work _ => false
  | .halt => true

end

variable {network : Network Link Store Choice Item Thread}

theorem isOpen_iff_openNow {state : State Link Store Item Thread}
    {channel : Chan} :
    network.IsOpen state channel ↔ network.openNow state channel = true := by
  unfold IsOpen openNow
  cases network.link channel <;> simp

theorem hasRoom_iff_roomNow {state : State Link Store Item Thread}
    {channel : Chan} :
    network.HasRoom state channel ↔ network.roomNow state channel = true := by
  unfold HasRoom roomNow
  cases network.capacity channel <;> simp

variable [DecidableEq Chan] [DecidableEq Node]

theorem not_canStep_of_waits {node : Node} {state : State Link Store Item Thread}
    (waits : network.waits node state = true) : ¬ CanStep network node state := by
  rintro ⟨after, step⟩
  unfold Network.waits at waits
  cases step with
  | receive acts _ queue => simp [acts, queue] at waits
  | receiveClosed acts isClosed =>
      simp only [acts, Bool.and_eq_true] at waits
      exact isClosed (isOpen_iff_openNow.mpr waits.1)
  | send acts _ room =>
      simp [acts, hasRoom_iff_roomNow.mp room] at waits
  | sendClosed acts isClosed =>
      simp only [acts, Bool.and_eq_true] at waits
      exact isClosed (isOpen_iff_openNow.mpr waits.1)
  | work acts => simp [acts] at waits

theorem Step.of_advance {node : Node} {choice : Choice} {reported : Bool}
    {state after : State Link Store Item Thread}
    (result : network.advance node choice reported state = some after) :
    Step network node state after := by
  unfold advance at result
  split at result
  · rename_i channel next acts
    split at result
    · rename_i isOpen
      split at result
      · cases result
      · rename_i item rest queue
        cases result
        exact .receive acts (isOpen_iff_openNow.mpr isOpen) queue
    · rename_i isClosed
      cases result
      exact .receiveClosed acts (isOpen_iff_openNow.not.mpr isClosed)
  · rename_i channel item next acts
    split at result
    · rename_i isOpen
      split at result
      · rename_i room
        cases result
        exact .send acts (isOpen_iff_openNow.mpr isOpen)
          (hasRoom_iff_roomNow.mpr room)
      · cases result
    · rename_i isClosed
      cases result
      exact .sendClosed acts (isOpen_iff_openNow.not.mpr isClosed) reported
  · rename_i effect acts
    split at result
    · rename_i store thread outcome
      cases result
      exact .work acts outcome
    · cases result
  · cases result

variable [DecidableEq Link]

/-- What a schedule computes is the state after a run. -/
theorem Reaches.of_exec {faults : Bool}
    {permit : Node → State Link Store Item Thread → Bool}
    {turns : List (Turn Node Link Choice)}
    {start state : State Link Store Item Thread}
    (result : network.exec faults permit turns start = some state) :
    Reaches network (faults = true) (fun node state => permit node state = true)
      start state := by
  induction turns generalizing start with
  | nil =>
      cases result
      exact .refl
  | cons turn turns ih =>
      cases turn with
      | step node choice reported =>
          simp only [exec] at result
          split at result
          · rename_i permitted
            obtain ⟨next, advanced, rest⟩ := Option.bind_eq_some_iff.mp result
            exact .head (.step permitted (.of_advance advanced)) (ih rest)
          · cases result
      | close link =>
          simp only [exec] at result
          split at result
          · rename_i faulty
            exact .head (.close faulty link) (ih result)
          · cases result

/-- A run with fewer restrictions. -/
theorem Reaches.mono {faults : Prop} (weaker : Prop)
    {allowed wider : Node → State Link Store Item Thread → Prop}
    {start state : State Link Store Item Thread}
    (run : Reaches network faults allowed start state)
    (moreFaults : faults → weaker)
    (moreAllowed : ∀ node state, allowed node state → wider node state) :
    Reaches network weaker wider start state := by
  induction run with
  | refl => exact .refl
  | tail _ move ih =>
      refine ih.tail ?_
      cases move with
      | step permitted step => exact .step (moreAllowed _ _ permitted) step
      | close faulty link => exact .close (moreFaults faulty) link

/-- A schedule whose last state passes a check. -/
theorem Reaches.exists_of_exec {faults : Bool}
    {permit : Node → State Link Store Item Thread → Bool}
    {turns : List (Turn Node Link Choice)} {start : State Link Store Item Thread}
    {check : State Link Store Item Thread → Prop} [DecidablePred check]
    (weaker : Prop) {wider : Node → State Link Store Item Thread → Prop}
    (moreFaults : faults = true → weaker)
    (moreAllowed : ∀ node state, permit node state = true → wider node state)
    (checked : (network.exec faults permit turns start).any
      (fun state => decide (check state)) = true) :
    ∃ state, network.exec faults permit turns start = some state ∧
      Reaches network weaker wider start state ∧ check state := by
  obtain ⟨state, result, passed⟩ := (Option.any_eq_true _ _).mp checked
  exact ⟨state, result, (Reaches.of_exec result).mono weaker moreFaults moreAllowed,
    of_decide_eq_true passed⟩

end Concurrente.Library.Network
