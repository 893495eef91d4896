import ClaimCheck.Proofs.BusRuns
import Mathlib.Data.List.Basic
import Mathlib.Data.List.Induction

/-!
Who is subscribed. A subscription lives from the step that makes it until it is closed or all are
cleared; a bus keeps those that live, in the order in which they were made, as long as handlers leave
it alone.
-/
namespace ClaimCheck.Bus

variable {η ρ τ : Type}

namespace Step

/-- Whether a step ends a subscription that lives. -/
def ends (subscription : Subscription) : Step η → Bool
  | .close other => other == subscription
  | .clear => true
  | _ => false

def isClear : Step η → Bool
  | .clear => true
  | _ => false

def message? : Step η → Option Value
  | .publish _ outgoing _ => some outgoing.message
  | _ => none

end Step

/-- The subscriptions that a run makes, in their order: the handler of each, and all that is done
later. -/
def lives : List (Step η) → List (η × List (Step η))
  | [] => []
  | .subscribe (some handler) :: rest => (handler, rest) :: lives rest
  | _ :: rest => lives rest

/-- The messages published before the first of the steps that ends the subscription. -/
def heard (subscription : Subscription) (later : List (Step η)) : List Value :=
  (later.takeWhile fun step => !step.ends subscription).filterMap Step.message?

/-- The subscriptions that live after the steps, and their handlers. -/
def living (steps : List (Step η)) : List (Subscription × η) :=
  (lives steps).zipIdx.filterMap fun made =>
    if made.1.2.any (Step.ends made.2) then none else some (made.2, made.1.1)

/-- The calls that a step makes after earlier ones. -/
def calls (earlier : List (Step η)) (step : Step η) : List (Subscription × η × Value) :=
  step.message?.toList.flatMap fun message =>
    (living earlier).map fun entry => (entry.1, entry.2, message)

/-- The calls that all the steps make after earlier ones. -/
def callsAll (earlier : List (Step η)) : List (Step η) → List (Subscription × η × Value)
  | [] => []
  | step :: rest => calls earlier step ++ callsAll (earlier ++ [step]) rest

private theorem lives_append (first second : List (Step η)) :
    lives (first ++ second) =
      (lives first).map (fun made => (made.1, made.2 ++ second)) ++ lives second := by
  induction first with
  | nil => simp [lives]
  | cons step rest ih =>
    cases step with
    | subscribe handler => cases handler <;> simp [lives, ih]
    | _ => simp [lives, ih]

private theorem callsAll_append (earlier first second : List (Step η)) :
    callsAll earlier (first ++ second) =
      callsAll earlier first ++ callsAll (earlier ++ first) second := by
  induction first generalizing earlier with
  | nil => simp [callsAll]
  | cons step rest ih => simp [callsAll, ih]

/-- A subscription lives if none of the steps since it was made has ended it. -/
theorem mem_living {steps : List (Step η)} {subscription : Subscription} {handler : η} :
    (subscription, handler) ∈ living steps ↔
      ∃ later, (lives steps)[subscription]? = some (handler, later) ∧
        later.any (Step.ends subscription) = false := by
  simp only [living, List.mem_filterMap, Prod.exists, List.mem_zipIdx_iff_getElem?]
  constructor
  · rintro ⟨own, later, n, found, kept⟩
    split at kept
    · cases kept
    · next alive =>
      cases kept
      exact ⟨later, found, by simpa using alive⟩
  · rintro ⟨later, found, alive⟩
    exact ⟨handler, later, subscription, found, by simp [alive]⟩

/-- Those that live stand in the order in which they were made. -/
theorem living_sorted (steps : List (Step η)) :
    ((living steps).map Prod.fst).Pairwise (· < ·) := by
  have numbers : ((lives steps).zipIdx.map Prod.snd).Pairwise (· < ·) := by
    rw [List.zipIdx_map_snd]
    exact List.pairwise_lt_range'
  rw [List.pairwise_map] at numbers
  rw [living, List.pairwise_map, List.pairwise_filterMap]
  refine numbers.imp fun {first second} before => ?_
  intro _ left _ right
  split at left <;> cases left
  split at right <;> cases right
  exact before

private theorem living_append_singleton (steps : List (Step η)) (step : Step η) :
    living (steps ++ [step]) =
      (living steps).filter (fun entry => !step.ends entry.1) ++
        (lives [step]).map fun made => ((lives steps).length, made.1) := by
  have made : (lives [step]).zipIdx (lives steps).length = (lives [step]).map fun made =>
      (made, (lives steps).length) := by
    cases step with
    | subscribe handler => cases handler <;> rfl
    | _ => rfl
  have young : ∀ made ∈ lives [step], made.2 = [] := by
    cases step with
    | subscribe handler => cases handler <;> simp [lives]
    | _ => simp [lives]
  simp only [living, lives_append, List.zipIdx_append, List.zipIdx_map, List.filterMap_append,
    List.filterMap_map, List.filter_filterMap, List.length_map, Nat.zero_add, made]
  congr 1
  · apply List.filterMap_congr
    rintro ⟨⟨handler, later⟩, subscription⟩ -
    change (if (later ++ [step]).any (Step.ends subscription) = true then none
        else some (subscription, handler)) = _
    rw [List.any_append]
    cases later.any (Step.ends subscription) with
    | true => rfl
    | false => cases ending : step.ends subscription <;> simp [Option.filter, ending]
  · rw [← List.filterMap_eq_map]
    apply List.filterMap_congr
    rintro ⟨handler, later⟩ member
    obtain rfl : later = [] := young _ member
    rfl

private theorem filter_of_sorted {α : Type} {entries : List (Subscription × α)}
    (sorted : (entries.map Prod.fst).Pairwise (· < ·)) {entry : Subscription × α}
    (member : entry ∈ entries) : entries.filter (fun other => other.1 == entry.1) = [entry] := by
  induction entries with
  | nil => cases member
  | cons first rest ih =>
    simp only [List.map_cons, List.pairwise_cons, List.forall_mem_map] at sorted
    obtain ⟨before, sorted⟩ := sorted
    rcases List.mem_cons.mp member with rfl | member
    · have none : rest.filter (fun other => other.1 == entry.1) = [] := by
        rw [List.filter_eq_nil_iff]
        intro other later
        simpa using Nat.ne_of_gt (before other later)
      simp [none]
    · have other : (first.1 == entry.1) = false :=
        beq_false_of_ne (Nat.ne_of_lt (before entry member))
      simp [other, ih sorted member]

variable {steps : List (Step η)} {step : Step η} {subscription : Subscription} {handler : η}
  {later : List (Step η)}

private theorem living_of_made (made : (lives steps)[subscription]? = some (handler, later)) :
    (living steps).filter (fun entry => entry.1 == subscription) =
      if later.any (Step.ends subscription) then [] else [(subscription, handler)] := by
  cases ended : later.any (Step.ends subscription) with
  | true =>
    rw [if_pos rfl, List.filter_eq_nil_iff]
    rintro ⟨other, own⟩ member
    obtain ⟨since, found, alive⟩ := mem_living.mp member
    simp only [beq_iff_eq]
    rintro rfl
    cases made.symm.trans found
    cases ended.symm.trans alive
  | false =>
    have member : (subscription, handler) ∈ living steps := mem_living.mpr ⟨later, made, ended⟩
    exact filter_of_sorted (living_sorted steps) member

/-- A publication is heard once by a subscription that lives. -/
theorem calls_of_made (made : (lives steps)[subscription]? = some (handler, later))
    (step : Step η) :
    (calls steps step).filter (fun call => call.1 == subscription) =
      if later.any (Step.ends subscription) then []
      else step.message?.toList.map fun message => (subscription, handler, message) := by
  cases told : step.message? with
  | none => simp [calls, told]
  | some message =>
    have own := living_of_made made
    simp only [calls, told, Option.toList_some, List.flatMap_singleton, List.filter_map,
      Function.comp_def, own]
    split <;> rfl

private theorem heard_cons (subscription : Subscription) (step : Step η) (rest : List (Step η)) :
    heard subscription (step :: rest) =
      if step.ends subscription then [] else step.message?.toList ++ heard subscription rest := by
  cases ended : step.ends subscription with
  | true => simp [heard, ended]
  | false => cases told : step.message? <;> simp [heard, ended, told]

private theorem heard_append_singleton (subscription : Subscription) (later : List (Step η))
    (step : Step η) :
    heard subscription (later ++ [step]) = heard subscription later ++
      if later.any (Step.ends subscription) then [] else step.message?.toList := by
  induction later with
  | nil =>
    rw [List.nil_append, heard_cons]
    cases step with
    | publish => rfl
    | _ => simp [heard, Step.message?]
  | cons first rest ih =>
    rw [List.cons_append, heard_cons, heard_cons, ih, List.any_cons]
    cases first.ends subscription with
    | true => rfl
    | false => simp

private theorem fst_lt_of_mem_callsAll {call : Subscription × η × Value}
    (member : call ∈ callsAll [] steps) : call.1 < (lives steps).length := by
  induction steps using List.reverseRecOn with
  | nil => cases member
  | append_singleton steps step ih =>
    rw [callsAll_append] at member
    rw [lives_append, List.length_append, List.length_map]
    rcases List.mem_append.mp member with early | last
    · exact Nat.lt_add_right _ (ih early)
    · simp only [callsAll, List.nil_append, List.append_nil, calls, List.mem_flatMap,
        List.mem_map] at last
      obtain ⟨message, -, entry, alive, rfl⟩ := last
      obtain ⟨later, found, -⟩ := mem_living.mp alive
      exact Nat.lt_add_right _ (List.getElem?_eq_some_iff.mp found).1

/-- Over all, a subscription hears each message once that is published in its life, in order. -/
theorem callsAll_of_made (made : (lives steps)[subscription]? = some (handler, later)) :
    (callsAll [] steps).filter (fun call => call.1 == subscription) =
      (heard subscription later).map fun message => (subscription, handler, message) := by
  induction steps using List.reverseRecOn generalizing later with
  | nil => cases made
  | append_singleton steps step ih =>
    rw [callsAll_append, List.filter_append]
    simp only [callsAll, List.nil_append, List.append_nil]
    rw [lives_append] at made
    by_cases early : subscription < (lives steps).length
    · rw [List.getElem?_append_left (by simpa using early), List.getElem?_map] at made
      obtain ⟨⟨own, since⟩, found, same⟩ := Option.map_eq_some_iff.mp made
      cases same
      rw [ih found, calls_of_made found, heard_append_singleton, List.map_append]
      cases since.any (Step.ends subscription) <;> rfl
    · -- A subscription that this very step makes has heard nothing yet.
      rw [List.getElem?_append_right (by simpa using early)] at made
      obtain ⟨later_eq, silent⟩ : later = [] ∧ step.message? = none := by
        have last := List.mem_of_getElem? made
        cases step with
        | subscribe given => cases given <;> simp_all [lives, Step.message?]
        | _ => cases last
      have before : (callsAll [] steps).filter (fun call => call.1 == subscription) = [] := by
        rw [List.filter_eq_nil_iff]
        intro call member
        have below := fst_lt_of_mem_callsAll member
        simp only [beq_iff_eq]
        rintro rfl
        exact early below
      simp [before, calls, silent, later_eq, heard]

/-- What a bus keeps of the steps that led to it. -/
structure Tracks (steps : List (Step η)) (bus : Bus η) : Prop where
  issued : bus.issued = (lives steps).length
  live : bus.live = living steps
  closed : ∀ subscription ∈ bus.closed,
    subscription < bus.issued ∧ ∀ entry ∈ bus.live, entry.1 ≠ subscription

namespace Tracks

variable {bus : Bus η}

theorem empty : Tracks [] (empty : Bus η) :=
  ⟨rfl, rfl, by simp [Bus.empty]⟩

/-- Steps that make no subscription and end none leave the bus as it is, but for what it has
published. -/
theorem idle (tracks : Tracks steps bus) (silent : lives [step] = [])
    (harmless : ∀ subscription, step.ends subscription = false) {later : Bus η}
    (same : later.issued = bus.issued ∧ later.live = bus.live ∧ later.closed = bus.closed) :
    Tracks (steps ++ [step]) later := by
  obtain ⟨issued, live, closed⟩ := same
  constructor
  · rw [issued, tracks.issued, lives_append, silent]
    simp
  · rw [live, tracks.live, living_append_singleton, silent]
    simp [harmless]
  · rw [issued, live, closed]
    exact tracks.closed

private theorem lt_issued (tracks : Tracks steps bus) :
    ∀ entry ∈ bus.live, entry.1 < bus.issued := by
  intro entry member
  rw [tracks.live] at member
  obtain ⟨later, found, -⟩ := mem_living.mp member
  rw [tracks.issued]
  exact (List.getElem?_eq_some_iff.mp found).1

theorem add (tracks : Tracks steps bus) (handler : η) :
    Tracks (steps ++ [.subscribe (some handler)]) (bus.add handler) := by
  constructor
  · simp [Bus.add, tracks.issued, lives_append, lives]
  · rw [living_append_singleton, ← tracks.live, ← tracks.issued]
    simp [Bus.add, lives, Step.ends]
  · intro subscription member
    obtain ⟨below, apart⟩ := tracks.closed subscription member
    refine ⟨Nat.lt_succ_of_lt below, ?_⟩
    intro entry present
    rcases List.mem_append.mp present with old | new
    · exact apart entry old
    · obtain rfl := List.mem_singleton.mp new
      exact Nat.ne_of_gt below

/-- Closing removes the one subscription, however often it was closed before. -/
theorem live_closeIssued (tracks : Tracks steps bus) (subscription : Subscription) :
    (bus.closeIssued subscription).live =
      bus.live.filter fun entry => entry.1 != subscription := by
  have kept (apart : ∀ entry ∈ bus.live, entry.1 ≠ subscription) :
      bus.live = bus.live.filter fun entry => entry.1 != subscription := by
    rw [eq_comm, List.filter_eq_self]
    intro entry member
    simpa using apart entry member
  rw [closeIssued, Bus.close]
  split
  · split
    · next before =>
      exact kept (tracks.closed subscription (by simpa [isClosed] using before)).2
    · rfl
  · next beyond =>
    apply kept
    rintro entry member rfl
    exact beyond (tracks.lt_issued entry member)

theorem close (tracks : Tracks steps bus) (subscription : Subscription) :
    Tracks (steps ++ [.close subscription]) (bus.closeIssued subscription) := by
  have live := tracks.live_closeIssued subscription
  have issued : (bus.closeIssued subscription).issued = bus.issued := by
    rw [closeIssued, Bus.close]
    split
    · split <;> rfl
    · rfl
  constructor
  · simp [issued, tracks.issued, lives_append, lives]
  · rw [live, living_append_singleton, tracks.live]
    simp only [Step.ends, lives, List.map_nil, List.append_nil]
    apply List.filter_congr
    intro entry _
    rw [bne_comm]
    rfl
  · intro other member
    rw [issued, live]
    have closed : other ∈ bus.closed ∨ other = subscription ∧ subscription < bus.issued := by
      rw [closeIssued, Bus.close] at member
      split at member
      · next below =>
        split at member
        · exact .inl member
        · rcases List.mem_cons.mp member with same | old
          · exact .inr ⟨same, below⟩
          · exact .inl old
      · exact .inl member
    rcases closed with old | ⟨rfl, below⟩
    · obtain ⟨below, apart⟩ := tracks.closed other old
      exact ⟨below, fun entry present => apart entry (List.mem_of_mem_filter present)⟩
    · refine ⟨below, ?_⟩
      intro entry present
      simpa using (List.mem_filter.mp present).2

theorem clear (tracks : Tracks steps bus) : Tracks (steps ++ [.clear]) bus.clear := by
  constructor
  · simp [Bus.clear, tracks.issued, lives_append, lives]
  · rw [living_append_singleton]
    simp [Bus.clear, lives, Step.ends]
  · intro subscription member
    exact ⟨(tracks.closed subscription member).1, by simp [Bus.clear]⟩

end Tracks

/-- The subscriptions that a bus knows, without what it has published. -/
def roster (state : Bus η × ρ) : Nat × List (Subscription × η) × List Subscription :=
  (state.1.issued, state.1.live, state.1.closed)

/-- Whether handlers leave the bus alone. -/
def IsQuiet (deliver : Delivery η ρ) : Prop :=
  ∀ handler message context, Action.Leaves Prod.fst (deliver handler message context)

theorem deliverAll_leaves {deliver : Delivery η ρ} (quiet : IsQuiet deliver)
    (signal : Option Signal) (message : Value) (entries : List (Subscription × η))
    (context : Context) :
    Action.Leaves Prod.fst (deliverAll deliver signal message entries context) := by
  induction entries generalizing context with
  | nil => exact Action.leaves_pure ()
  | cons entry rest ih =>
    exact (Action.leaves_ensureNotCancelled signal).bind fun _ =>
      (quiet entry.2 message context).bind fun context => ih context

private theorem publish_leaves (desk : Desk ρ τ) {deliver : Delivery η ρ} (quiet : IsQuiet deliver)
    (outgoing : Outgoing) (signal : Option Signal) :
    Action.Leaves roster (publish desk deliver outgoing signal) := by
  have aside {α : Type} (action : Action ρ α) :
      Action.Leaves roster (action.on (.second : Part (Bus η × ρ) ρ)) :=
    (Action.leaves_on_second action).comp fun bus : Bus η => (bus.issued, bus.live, bus.closed)
  have records (transmitted : Envelope) : Action.Leaves roster
      (Action.update fun state : Bus η × ρ => (state.1.record transmitted, state.2)) :=
    fun _ => rfl
  have transfers : Action.Leaves roster
      (transfer (desk.passage.on (.second : Part (Bus η × ρ) ρ)) outgoing signal) :=
    (Action.leaves_ensure _ _).bind fun _ => (outgoing.pack_leaves _).bind fun envelope =>
      (aside _).bind fun transmitted => (records transmitted).bind fun _ =>
        (aside _).bind fun received => (Action.leaves_inspect _).bind fun _ =>
          Action.leaves_pure _
  refine transfers.bind fun found => ?_
  exact (deliverAll_leaves quiet signal _ _ _).comp fun bus => (bus.issued, bus.live, bus.closed)

@[simp] theorem of_before (desk : Desk ρ τ) (deliver : Delivery η ρ) (step : Step η)
    (scene : Scene (Bus η × ρ)) : (Event.of desk deliver step scene).before = scene := by
  cases ran : step.perform desk deliver scene <;> simp [Event.of, ran]

@[simp] theorem of_step (desk : Desk ρ τ) (deliver : Delivery η ρ) (step : Step η)
    (scene : Scene (Bus η × ρ)) : (Event.of desk deliver step scene).step = step := by
  cases ran : step.perform desk deliver scene <;> simp [Event.of, ran]

theorem of_after (desk : Desk ρ τ) (deliver : Delivery η ρ) (step : Step η)
    (scene : Scene (Bus η × ρ)) :
    (Event.of desk deliver step scene).after = (step.perform desk deliver).sceneAfter scene := by
  cases ran : step.perform desk deliver scene <;> simp [Event.of, Action.sceneAfter, ran]

/-- Every step keeps a bus on track, even if it fails. -/
theorem Tracks.after (desk : Desk ρ τ) {deliver : Delivery η ρ} (quiet : IsQuiet deliver)
    {scene : Scene (Bus η × ρ)} (tracks : Tracks steps scene.rest.1) (step : Step η) :
    Tracks (steps ++ [step]) (Event.of desk deliver step scene).after.rest.1 := by
  rw [of_after]
  cases step with
  | subscribe handler =>
    cases handler with
    | none => exact tracks.idle rfl (fun _ => rfl) ⟨rfl, rfl, rfl⟩
    | some handler => exact tracks.add handler
  | close subscription => exact tracks.close subscription
  | clear => exact tracks.clear
  | pass now => exact tracks.idle rfl (fun _ => rfl) ⟨rfl, rfl, rfl⟩
  | publish id outgoing signal =>
    have left : Action.Leaves roster (publishAs desk deliver id outgoing signal) :=
      fun scene => publish_leaves desk quiet outgoing signal _
    have same := (left.bind fun _ => Action.leaves_pure (none : Option Subscription)) scene
    obtain ⟨issued, same⟩ := Prod.mk.inj same
    obtain ⟨live, closed⟩ := Prod.mk.inj same
    exact tracks.idle rfl (fun _ => rfl) ⟨issued, live, closed⟩

theorem Tracks.ending (desk : Desk ρ τ) {deliver : Delivery η ρ} (quiet : IsQuiet deliver)
    {scene : Scene (Bus η × ρ)} (tracks : Tracks steps scene.rest.1) (later : List (Step η)) :
    Tracks (steps ++ later) (ending desk deliver scene later).rest.1 := by
  induction later generalizing steps scene with
  | nil => simpa [Bus.ending] using tracks
  | cons step rest ih =>
    rw [List.append_cons, Bus.ending]
    exact ih (tracks.after desk quiet step)

end ClaimCheck.Bus
