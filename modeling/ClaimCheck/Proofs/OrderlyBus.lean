import ClaimCheck.Proofs.Conducts
import ClaimCheck.Proofs.Subscriptions

/-!
Buses as they come about. Whatever handlers do with the bus that calls them, the live subscriptions
stay in the order in which they were made, each of them once.
-/
namespace ClaimCheck.Bus

variable {η ρ τ α β : Type}

/-- The buses that there are: a new one, and what becomes of one by its operations. -/
inductive Made : Bus η → Prop
  | empty : Made empty
  | add {bus : Bus η} (made : Made bus) (handler : η) : Made (bus.add handler)
  | close {bus : Bus η} (made : Made bus) (subscription : Subscription) :
      Made (bus.close subscription)
  | clear {bus : Bus η} (made : Made bus) : Made bus.clear
  | record {bus : Bus η} (made : Made bus) (envelope : Envelope) : Made (bus.record envelope)

namespace Made

variable {bus : Bus η}

theorem closeIssued (made : bus.Made) (subscription : Subscription) :
    (bus.closeIssued subscription).Made := by
  unfold Bus.closeIssued
  split
  · exact made.close subscription
  · exact made

private theorem ascends (made : bus.Made) :
    (∀ entry ∈ bus.live, entry.1 < bus.issued) ∧ (bus.live.map Prod.fst).Pairwise (· < ·) := by
  induction made with
  | empty => simp [Bus.empty]
  | @add bus made handler ih =>
    obtain ⟨issued, sorted⟩ := ih
    constructor
    · intro entry member
      rcases List.mem_append.mp member with old | new
      · exact Nat.lt_succ_of_lt (issued entry old)
      · obtain rfl := List.mem_singleton.mp new
        exact Nat.lt_succ_self _
    · simp only [Bus.add, List.map_append, List.map_cons, List.map_nil]
      refine List.pairwise_append.mpr ⟨sorted, List.pairwise_singleton _ _, ?_⟩
      intro number member last final
      obtain ⟨entry, present, rfl⟩ := List.mem_map.mp member
      obtain rfl := List.mem_singleton.mp final
      exact issued entry present
  | @close bus made subscription ih =>
    unfold Bus.close
    split
    · exact ih
    · obtain ⟨issued, sorted⟩ := ih
      constructor
      · intro entry member
        exact issued entry (List.mem_filter.mp member).1
      · exact sorted.sublist (List.filter_sublist.map Prod.fst)
  | clear => simp [Bus.clear]
  | record made envelope ih => exact ih

theorem sorted (made : bus.Made) : (bus.live.map Prod.fst).Pairwise (· < ·) :=
  made.ascends.2

end Made

/-- Whether an action does nothing to a bus but what can be done to it, even when it fails. -/
def IsOrderly (action : Action (Bus η × ρ) α) : Prop :=
  ∀ scene, scene.rest.1.Made → (action.sceneAfter scene).rest.1.Made

namespace IsOrderly

theorem of_leaves {action : Action (Bus η × ρ) α} (left : Action.Leaves Prod.fst action) :
    IsOrderly action := by
  intro scene made
  rw [left scene]
  exact made

theorem update {change : Bus η → Bus η} (keeps : ∀ bus, bus.Made → (change bus).Made) :
    IsOrderly (Action.update fun state : Bus η × ρ => (change state.1, state.2)) :=
  fun scene made => keeps scene.rest.1 made

theorem bind {action : Action (Bus η × ρ) α} {next : α → Action (Bus η × ρ) β}
    (first : IsOrderly action) (second : ∀ value, IsOrderly (next value)) :
    IsOrderly (action >>= next) := by
  intro scene made
  have middle := first scene made
  rw [Action.sceneAfter_bind]
  cases ran : action scene with
  | ok value after =>
    simp only [Action.sceneAfter, ran] at middle
    exact second value after middle
  | error failure after => simpa only [Action.sceneAfter, ran] using middle

theorem map {action : Action (Bus η × ρ) α} (orderly : IsOrderly action) (change : α → β) :
    IsOrderly (change <$> action) := by
  intro scene made
  have after := orderly scene made
  simp only [Action.sceneAfter, Action.map_run] at after ⊢
  cases ran : action scene <;> simpa [ran] using after

theorem caught {action : Action (Bus η × ρ) α} (orderly : IsOrderly action) :
    IsOrderly action.caught := by
  intro scene made
  have after := orderly scene made
  simp only [Action.sceneAfter, Action.caught] at after ⊢
  cases ran : action scene <;> simpa [ran] using after

theorem aside (action : Action ρ α) :
    IsOrderly (action.on (.second : Part (Bus η × ρ) ρ)) :=
  of_leaves (Action.leaves_on_second action)

end IsOrderly

variable {deliver : Delivery η ρ}

private theorem deliverAll_isOrderly (orderly : ∀ handler message context,
      IsOrderly (deliver handler message context))
    (signal : Option Signal) (message : Value) (entries : List (Subscription × η))
    (context : Context) : IsOrderly (deliverAll deliver signal message entries context) := by
  induction entries generalizing context with
  | nil => exact .of_leaves (Action.leaves_pure ())
  | cons entry rest ih =>
    exact (IsOrderly.of_leaves (Action.leaves_ensureNotCancelled signal)).bind fun _ =>
      (orderly entry.2 message context).bind fun context => ih context

/-- Publishing is orderly if the handlers are. -/
theorem publish_isOrderly (desk : Desk ρ τ) (orderly : ∀ handler message context,
      IsOrderly (deliver handler message context))
    (outgoing : Outgoing) (signal : Option Signal) :
    IsOrderly (publish desk deliver outgoing signal) := by
  have transfers : IsOrderly
      (transfer (desk.passage.on (.second : Part (Bus η × ρ) ρ)) outgoing signal) := by
    refine (IsOrderly.of_leaves (Action.leaves_ensure _ _)).bind fun _ => ?_
    refine (IsOrderly.of_leaves (outgoing.pack_leaves _)).bind fun envelope => ?_
    refine (IsOrderly.aside _).bind fun transmitted => ?_
    refine (IsOrderly.update fun bus made => made.record transmitted).bind fun _ => ?_
    refine (IsOrderly.aside _).bind fun received => ?_
    exact (IsOrderly.of_leaves (Action.leaves_inspect _)).bind fun _ =>
      .of_leaves (Action.leaves_pure _)
  exact transfers.bind fun found => deliverAll_isOrderly orderly signal _ _ _

/-- So is every step of an application. -/
theorem perform_isOrderly (desk : Desk ρ τ) (orderly : ∀ handler message context,
      IsOrderly (deliver handler message context)) (step : Step η) :
    IsOrderly (step.perform desk deliver) := by
  cases step with
  | subscribe handler =>
    refine IsOrderly.map ?_ some
    cases handler with
    | none => exact .of_leaves (Action.leaves_throw _)
    | some handler =>
      refine (IsOrderly.of_leaves (Action.leaves_inspect _)).bind fun state => ?_
      exact (IsOrderly.update fun bus made => made.add handler).bind fun _ =>
        .of_leaves (Action.leaves_pure _)
  | close subscription =>
    exact (IsOrderly.update fun bus made => made.closeIssued subscription).bind fun _ =>
      .of_leaves (Action.leaves_pure _)
  | clear =>
    exact (IsOrderly.update fun bus made => made.clear).bind fun _ =>
      .of_leaves (Action.leaves_pure _)
  | publish id outgoing signal =>
    have published : IsOrderly (publishAs desk deliver id outgoing signal) :=
      fun scene => publish_isOrderly desk orderly outgoing signal (scene.identified id)
    exact published.bind fun _ => .of_leaves (Action.leaves_pure _)
  | pass now => exact fun _ made => made

end ClaimCheck.Bus

namespace ClaimCheck.Conduct

variable {η ω ρ τ : Type}

private theorem run_isOrderly (world : Part ρ (World η ω))
    {perform : Bus.Step η → Action (Bus η × ρ) (Option Subscription)}
    (orderly : ∀ step, Bus.IsOrderly (perform step)) (context : Context)
    (conduct : Conduct η ω) : Bus.IsOrderly (conduct.run world perform context) := by
  induction conduct with
  | leave amendment => exact .of_leaves (Action.leaves_pure _)
  | fail failure => exact .of_leaves (Action.leaves_throw _)
  | act change next ih =>
    have clock : Bus.IsOrderly (Action.now : Action (Bus η × ρ) Instant) := fun _ made => made
    refine clock.bind fun now => ?_
    refine (Bus.IsOrderly.of_leaves (Action.leaves_inspect _)).bind fun state => ?_
    have aside (edit : Bus η × ρ → ρ) : Bus.IsOrderly
        (Action.update fun state => (state.1, edit state)) := .of_leaves fun _ => rfl
    exact (aside _).bind fun _ => ih now _
  | use step next ih => exact (orderly step).caught.bind fun outcome => ih outcome
  | count next ih =>
    exact (Bus.IsOrderly.of_leaves (Action.leaves_inspect _)).bind fun state => ih _

/-- Handlers that act by their conducts are orderly, however deep they call each other. -/
theorem deliver_isOrderly (desk : Desk ρ τ) (world : Part ρ (World η ω))
    (conduct : η → Value → Context.View → Conduct η ω) (depth : Nat) (handler : η)
    (message : Value) (context : Context) :
    Bus.IsOrderly (deliver desk world conduct depth handler message context) := by
  induction depth generalizing handler message context with
  | zero => exact .of_leaves (Action.leaves_throw _)
  | succ depth ih =>
    have noted (edit : Bus η × ρ → ρ) : Bus.IsOrderly
        (Action.update fun state => (state.1, edit state)) := .of_leaves fun _ => rfl
    refine (noted _).bind fun _ => ?_
    exact run_isOrderly world (fun step => Bus.perform_isOrderly desk ih step) context _

end ClaimCheck.Conduct
