import ClaimCheck.Proofs.ClientContexts

/-!
Callers who ask a connection for its client at the same time. Whoever comes before the first context
is entered makes a context of its own; only the last of these is left when the connection is closed.
-/
namespace ClaimCheck.Connection

variable {κ : Type}

/-- Where a caller stands who asks for the client. -/
inductive Caller
  | fresh
  | entering (context : Nat)
  | given (client : Nat)
  deriving DecidableEq, Repr

/-- Let a caller go on until it waits for its context to be entered, or has the client. -/
def advance (maker : Maker κ) : Caller → Action (Connection × κ) Caller
  | .fresh => do
    let (connection, _) ← Action.inspect id
    match connection.client with
    | some client => return .given client
    | none => .entering <$> begin maker
  | .entering context => .given <$> finish maker context
  | .given client => return .given client

/-- Without anybody in between, a caller who goes on twice asks for the client. -/
theorem getClient_advances (maker : Maker κ) :
    Caller.given <$> getClient maker = advance maker .fresh >>= advance maker := by
  funext scene
  simp only [Action.map_run, Action.bind_run, getClient, advance, Action.inspect_run, id]
  cases used : scene.rest.1.client with
  | some client => rfl
  | none =>
    simp only [Action.map_run, Action.bind_run]
    cases begin maker scene with
    | error failure after => rfl
    | ok context after => simp only [Action.map_run]

/-- Let callers go on in the order of a schedule, by their numbers. -/
def play (maker : Maker κ) : List Nat → (Nat → Caller) → Action (Connection × κ) (Nat → Caller)
  | [], callers => return callers
  | next :: rest, callers => do
    let now ← advance maker (callers next)
    play maker rest fun caller => if caller = next then now else callers caller

private theorem play_cons {maker : Maker κ} {callers : Nat → Caller} {next : Nat}
    {stands now : Caller} {scene after : Scene (Connection × κ)} (before : callers next = stands)
    (advanced : advance maker stands scene = .ok now after) (rest : List Nat) :
    play maker (next :: rest) callers scene =
      play maker rest (fun caller => if caller = next then now else callers caller) after := by
  subst before
  rw [play, Action.bind_of_ok advanced]

/-- Whether nothing fails. -/
structure Maker.Obliges (maker : Maker κ) : Prop where
  create : ∀ settings scene, ∃ after, maker.create settings scene = .ok () after
  enter : ∀ context scene, ∃ after, maker.enter context scene = .ok () after
  exit : ∀ context scene, ∃ after, maker.exit context scene = .ok () after

/-- The callers of a schedule up to the first who goes on for the second time, in their order. -/
def pioneers (seen : List Nat) : List Nat → List Nat
  | [] => seen
  | next :: rest => if next ∈ seen then seen else pioneers (seen ++ [next]) rest

/-- The number of the context that was made last. -/
def newest : Nat → Option Nat
  | 0 => none
  | made + 1 => some made

/-- What is so of the contexts made by a list of callers. -/
structure Made (makers : List Nat) (connection : Connection) (log : List Event) : Prop where
  made : connection.made = makers.length
  created : log.count (.created true) = makers.length
  context : connection.context = newest makers.length
  unleft : ∀ context done, .left context done ∉ log

/-- All who have come still wait for their contexts. -/
structure Waiting (seen : List Nat) (callers : Nat → Caller) (connection : Connection)
    (log : List Event) : Prop extends Made seen connection log where
  unused : connection.client = none
  entering : ∀ caller context, callers caller = .entering context ↔ seen[context]? = some caller
  fresh : ∀ caller, caller ∉ seen → callers caller = .fresh
  unentered : ∀ context done, .entered context done ∉ log

/-- Some context has been entered, so nobody makes another. -/
structure Served (makers : List Nat) (callers : Nat → Caller) (connection : Connection)
    (log : List Event) : Prop extends Made makers connection log where
  used : ∃ client < makers.length, connection.client = some client
  own : ∀ context caller, makers[context]? = some caller →
    callers caller = .entering context ∨ callers caller = .given context
  entering : ∀ caller context, callers caller = .entering context → makers[context]? = some caller
  given : ∀ caller client, callers caller = .given client → client < makers.length
  entered : ∀ context, .entered context true ∈ log ↔
    ∃ caller, makers[context]? = some caller ∧ callers caller = .given context

section

variable {maker : Maker κ} {seen : List Nat} {callers : Nat → Caller} {scene : Scene (Watched κ)}

private theorem begin_run (obliges : maker.Obliges) (scene : Scene (Watched κ)) :
    ∃ after, begin maker.watched scene = .ok scene.rest.1.made after ∧
      after.rest.1 = { scene.rest.1 with
        made := scene.rest.1.made + 1, context := some scene.rest.1.made } ∧
      after.rest.2.1 = scene.rest.2.1 ++ [.created true] := by
  obtain ⟨after, created⟩ := obliges.create scene.rest.1.settings (scene.withRest scene.rest.2.2)
  simp only [begin, Action.bind_run, Action.inspect_run, id, Maker.watched, record_run, created]
  exact ⟨_, rfl, rfl, rfl⟩

private theorem finish_run (obliges : maker.Obliges) (context : Nat) (scene : Scene (Watched κ)) :
    ∃ after, finish maker.watched context scene = .ok context after ∧
      after.rest.1 = { scene.rest.1 with client := some context } ∧
      after.rest.2.1 = scene.rest.2.1 ++ [.entered context true] := by
  obtain ⟨after, entered⟩ := obliges.enter context (scene.withRest scene.rest.2.2)
  simp only [finish, Action.bind_run, Maker.watched, record_run, entered]
  exact ⟨_, rfl, rfl, rfl⟩

theorem close_run (obliges : maker.Obliges) {context : Nat} {scene : Scene (Watched κ)}
    (opened : scene.rest.1.context = some context) :
    ∃ after, close maker.watched scene = .ok () after ∧
      after.rest.2.1 = scene.rest.2.1 ++ [.left context true] := by
  obtain ⟨after, left⟩ := obliges.exit context (scene.withRest scene.rest.2.2)
  simp only [close, Action.bind_run, Action.inspect_run, id, opened, Maker.watched, record_run, left]
  exact ⟨_, rfl, rfl⟩

private theorem Waiting.ungiven (waiting : Waiting seen callers scene.rest.1 scene.rest.2.1)
    (caller client : Nat) : callers caller ≠ .given client := by
  intro has
  by_cases came : caller ∈ seen
  · obtain ⟨context, held⟩ := List.mem_iff_getElem?.mp came
    rw [(waiting.entering caller context).mpr held] at has
    cases has
  · rw [waiting.fresh caller came] at has
    cases has

/-- A caller who comes while all wait makes another context. -/
theorem Waiting.comes (waiting : Waiting seen callers scene.rest.1 scene.rest.2.1)
    (obliges : maker.Obliges) {next : Nat} (new : next ∉ seen) :
    ∃ now after, advance maker.watched (callers next) scene = .ok now after ∧
      Waiting (seen ++ [next]) (fun caller => if caller = next then now else callers caller)
        after.rest.1 after.rest.2.1 := by
  obtain ⟨after, begun, connection, log⟩ := begin_run obliges scene
  have unused := waiting.unused
  refine ⟨.entering scene.rest.1.made, after, ?_, ?_⟩
  · rw [waiting.fresh next new]
    simp [advance, Action.bind_run, unused, begun]
  · rw [connection, log, waiting.made]
    exact {
      made := by simp
      created := by simp [waiting.created]
      context := by simp [newest]
      unleft := fun context done => by simp [waiting.unleft]
      unused := unused
      entering := fun caller context => by
        have before := waiting.entering caller context
        by_cases same : caller = next
        · subst same
          grind
        · grind
      fresh := fun caller absent => by
        have before := waiting.fresh caller
        grind
      unentered := fun context done => by simp [waiting.unentered] }

/-- The first caller who goes on gets the client of its own context. -/
theorem Waiting.goes (waiting : Waiting seen callers scene.rest.1 scene.rest.2.1)
    (obliges : maker.Obliges) {next : Nat} (old : next ∈ seen) :
    ∃ now after, advance maker.watched (callers next) scene = .ok now after ∧
      Served seen (fun caller => if caller = next then now else callers caller)
        after.rest.1 after.rest.2.1 := by
  obtain ⟨context, held⟩ := List.mem_iff_getElem?.mp old
  obtain ⟨after, finished, connection, log⟩ := finish_run obliges context scene
  have inside : context < seen.length := (List.getElem?_eq_some_iff.mp held).1
  have mine := (waiting.entering next context).mpr held
  have ungiven := waiting.ungiven
  refine ⟨.given context, after, ?_, ?_⟩
  · rw [mine]
    simp [advance, finished]
  · rw [connection, log]
    exact {
      made := waiting.made
      created := by simp [waiting.created]
      context := waiting.context
      unleft := fun context done => by simp [waiting.unleft]
      used := ⟨context, inside, rfl⟩
      own := fun other caller position => by
        have before := (waiting.entering caller other).mpr position
        grind
      entering := fun caller other => by
        have before := waiting.entering caller other
        grind
      given := fun caller client => by
        have before := ungiven caller client
        grind
      entered := fun other => by
        have before := waiting.unentered other true
        have none (caller : Nat) := ungiven caller other
        grind }

/-- Whoever goes on later gets the client of its own context, or the one in use. -/
theorem Served.goes (served : Served seen callers scene.rest.1 scene.rest.2.1)
    (obliges : maker.Obliges) (next : Nat) :
    ∃ now after, advance maker.watched (callers next) scene = .ok now after ∧
      Served seen (fun caller => if caller = next then now else callers caller)
        after.rest.1 after.rest.2.1 := by
  have own := served.own
  have entering := served.entering
  have given := served.given
  have entered := served.entered
  cases stands : callers next with
  | fresh =>
    obtain ⟨client, inside, used⟩ := served.used
    refine ⟨.given client, scene, by simp [advance, Action.bind_run, used], ?_⟩
    -- The one who comes now made no context.
    have outside (context : Nat) : seen[context]? ≠ some next := fun made => by
      have before := own context next made
      grind
    exact {
      toMade := served.toMade
      used := served.used
      own := by grind
      entering := by grind
      given := by grind
      entered := by grind }
  | entering context =>
    have mine := entering next context stands
    have inside : context < seen.length := (List.getElem?_eq_some_iff.mp mine).1
    obtain ⟨after, finished, connection, log⟩ := finish_run obliges context scene
    refine ⟨.given context, after, by simp [advance, finished], ?_⟩
    rw [connection, log]
    exact {
      made := served.made
      created := by simp [served.created]
      context := served.context
      unleft := fun context done => by simp [served.unleft]
      used := ⟨context, inside, rfl⟩
      own := by grind
      entering := by grind
      given := by grind
      entered := fun other => by
        rw [List.mem_append, entered other]
        constructor
        · rintro (⟨caller, made, has⟩ | now)
          · have different : caller ≠ next := fun same => by
              rw [same, stands] at has
              cases has
            exact ⟨caller, made, by simp [different, has]⟩
          · cases List.mem_singleton.mp now
            exact ⟨next, mine, by simp⟩
        · rintro ⟨caller, made, has⟩
          by_cases same : caller = next
          · have own : context = other := by simpa [same] using has
            exact .inr (by simp [own])
          · exact .inl ⟨caller, made, by simpa [same] using has⟩ }
  | given client =>
    refine ⟨.given client, scene, rfl, ?_⟩
    have same : (fun caller => if caller = next then Caller.given client else callers caller) =
        callers := by
      funext caller
      grind
    rwa [same]

theorem Served.run (served : Served seen callers scene.rest.1 scene.rest.2.1)
    (obliges : maker.Obliges) (rest : List Nat) :
    ∃ callers' after, play maker.watched rest callers scene = .ok callers' after ∧
      Served seen callers' after.rest.1 after.rest.2.1 := by
  induction rest generalizing callers scene with
  | nil => exact ⟨callers, scene, rfl, served⟩
  | cons next rest ih =>
    obtain ⟨now, after, advanced, served⟩ := served.goes obliges next
    rw [play_cons rfl advanced]
    exact ih served

/-- The contexts of a schedule are made by its pioneers; all wait unless somebody has come again. -/
theorem Waiting.run (waiting : Waiting seen callers scene.rest.1 scene.rest.2.1)
    (obliges : maker.Obliges) (rest : List Nat) :
    ∃ callers' after, play maker.watched rest callers scene = .ok callers' after ∧
      (Waiting (pioneers seen rest) callers' after.rest.1 after.rest.2.1 ∨
        Served (pioneers seen rest) callers' after.rest.1 after.rest.2.1 ∧
          (pioneers seen rest).length < seen.length + rest.length) := by
  induction rest generalizing seen callers scene with
  | nil => exact ⟨callers, scene, rfl, .inl waiting⟩
  | cons next rest ih =>
    by_cases came : next ∈ seen
    · obtain ⟨now, after, advanced, served⟩ := waiting.goes obliges came
      obtain ⟨callers', last, ran, served⟩ := served.run obliges rest
      rw [play_cons rfl advanced, pioneers, if_pos came]
      exact ⟨callers', last, ran, .inr ⟨served, by simp⟩⟩
    · obtain ⟨now, after, advanced, waiting⟩ := waiting.comes obliges came
      rw [play_cons rfl advanced, pioneers, if_neg came]
      obtain ⟨callers', last, ran, stands⟩ := ih waiting
      refine ⟨callers', last, ran, stands.imp_right fun ⟨served, fewer⟩ => ⟨served, ?_⟩⟩
      simp only [List.length_append, List.length_cons, List.length_nil] at fewer ⊢
      omega

end

private theorem length_pioneers (seen rest : List Nat) :
    seen.length ≤ (pioneers seen rest).length := by
  induction rest generalizing seen with
  | nil => exact Nat.le_refl _
  | cons next rest ih =>
    rw [pioneers]
    split
    · exact Nat.le_refl _
    · have longer := ih (seen ++ [next])
      simp only [List.length_append, List.length_singleton] at longer
      omega

private theorem mem_of_mem_pioneers {caller : Nat} {seen rest : List Nat}
    (member : caller ∈ pioneers seen rest) : caller ∈ seen ∨ caller ∈ rest := by
  induction rest generalizing seen with
  | nil => exact .inl member
  | cons next rest ih =>
    rw [pioneers] at member
    split at member
    · exact .inl member
    · have found := ih member
      grind

private theorem length_pioneers_eq_one_iff (first : Nat) (rest : List Nat) :
    (pioneers [] (first :: rest)).length = 1 ↔ rest = [] ∨ ∃ later, rest = first :: later := by
  cases rest with
  | nil => simp [pioneers]
  | cons next later =>
    by_cases same : next = first
    · simp [pioneers, same]
    · have longer := length_pioneers ([first] ++ [next]) later
      simp only [List.length_append, List.length_singleton] at longer
      simp only [pioneers, List.not_mem_nil, if_false, List.nil_append, List.mem_singleton, same,
        List.cons_ne_nil, List.cons.injEq, false_and, exists_false, or_self, iff_false]
      omega

/-- The contexts that are open after closing: all but the one that was made last. -/
theorem Served.closed {makers : List Nat} {callers : Nat → Caller} {connection : Connection}
    {log : List Event} (served : Served makers callers connection log)
    (own : ∀ context caller, makers[context]? = some caller → callers caller = .given context)
    {last : Nat} (length : makers.length = last + 1) (context : Nat) :
    IsOpen (log ++ [.left last true]) context ↔ context + 1 < makers.length := by
  have entered : .entered context true ∈ log ↔ context < makers.length := by
    rw [served.entered]
    constructor
    · rintro ⟨caller, position, -⟩
      exact (List.getElem?_eq_some_iff.mp position).1
    · intro inside
      have position := List.getElem?_eq_getElem inside
      exact ⟨_, position, own context _ position⟩
  have unleft := served.unleft context true
  have left : .left context true ∈ log ++ [Event.left last true] ↔ context = last := by
    simp [unleft]
  rw [IsOpen, left]
  simp only [List.mem_append, entered, List.mem_singleton, reduceCtorEq, or_false]
  omega

private theorem Served.own_of_finished {schedule : List Nat} {callers : Nat → Caller}
    {connection : Connection} {log : List Event}
    (served : Served (pioneers [] schedule) callers connection log)
    (finished : ∀ caller ∈ schedule, ∃ client, callers caller = .given client)
    (context caller : Nat) (position : (pioneers [] schedule)[context]? = some caller) :
    callers caller = .given context := by
  have came := (mem_of_mem_pioneers (List.mem_of_getElem? position)).resolve_left List.not_mem_nil
  obtain ⟨client, has⟩ := finished caller came
  refine (served.own context caller position).resolve_left fun entering => ?_
  rw [entering] at has
  cases has

/-- One context is made, all callers get its client, and no context is left open in the end. -/
structure Shares (schedule : List Nat) (callers : Nat → Caller) (log : List Event) : Prop where
  one : log.count (.created true) = 1
  same : ∃ client, ∀ caller ∈ schedule, callers caller = .given client
  shut : ∀ context, ¬ IsOpen log context

/-- Callers share a context exactly if only one was made. -/
theorem Served.shares_iff {makers schedule : List Nat} {callers : Nat → Caller}
    {connection : Connection} {log last : List Event}
    (served : Served makers callers connection log)
    (finished : ∀ caller ∈ schedule, ∃ client, callers caller = .given client)
    (count : last.count (.created true) = makers.length)
    (isOpen : ∀ context, IsOpen last context ↔ context + 1 < makers.length) :
    Shares schedule callers last ↔ makers.length = 1 := by
  constructor
  · exact fun shares => count.symm.trans shares.one
  · intro single
    refine ⟨count.trans single, ⟨0, fun caller member => ?_⟩, fun context open' => ?_⟩
    · obtain ⟨client, has⟩ := finished caller member
      have least := served.given caller client has
      rw [has, show client = 0 by omega]
    · have more := (isOpen context).mp open'
      omega

/-- To go on twice with nobody in between is to ask for the client. Where nothing fails, everybody
who has come and gone on has a client. As many contexts are made
as callers come before one goes on; each of these has the client of its own, and closing leaves the
context that was made last. So the callers share one context exactly if the first who comes goes on
before anybody else comes. -/
theorem first_uses_share_iff {maker : Maker κ} (obliges : maker.Obliges) (region : String)
    (endpointUrl : Option String) (pathStyle : Bool) (settings : Table Setting)
    {schedule : List Nat} (nonempty : schedule ≠ []) (scene : Scene κ) :
    let connection := ofParts region endpointUrl pathStyle settings
    let makers := pioneers [] schedule
    Caller.given <$> getClient maker.watched =
        advance maker.watched .fresh >>= advance maker.watched ∧
      ∃ callers after, play maker.watched schedule (fun _ => .fresh)
        (scene.withRest (connection, [], scene.rest)) = .ok callers after ∧
      ((∀ caller ∈ schedule, ∃ client, callers caller = .given client) →
        ∃ closed, close maker.watched after = .ok () closed ∧
          closed.rest.2.1.count (.created true) = makers.length ∧
          (∀ context caller, makers[context]? = some caller → callers caller = .given context) ∧
          (∀ context, IsOpen closed.rest.2.1 context ↔ context + 1 < makers.length) ∧
          (Shares schedule callers closed.rest.2.1 ↔
            ∃ first rest, schedule = first :: first :: rest)) := by
  intro connection makers
  let start := scene.withRest (connection, ([] : List Event), scene.rest)
  have waiting : Waiting [] (fun _ => .fresh) start.rest.1 start.rest.2.1 :=
    { made := rfl
      created := rfl
      context := rfl
      unleft := fun _ _ => List.not_mem_nil
      unused := rfl
      entering := by simp
      fresh := fun _ _ => rfl
      unentered := fun _ _ => List.not_mem_nil }
  obtain ⟨callers, after, ran, stands⟩ := waiting.run obliges schedule
  refine ⟨getClient_advances maker.watched, callers, after, ran, fun finished => ?_⟩
  obtain ⟨served, fewer⟩ : Served makers callers after.rest.1 after.rest.2.1 ∧
      makers.length < schedule.length := by
    rcases stands with waiting | ⟨served, fewer⟩
    · obtain ⟨first, member⟩ := List.exists_mem_of_ne_nil schedule nonempty
      obtain ⟨client, has⟩ := finished first member
      exact absurd has (waiting.ungiven first client)
    · exact ⟨served, by simpa using fewer⟩
  have own := served.own_of_finished finished
  obtain ⟨client, inside, -⟩ := served.used
  obtain ⟨last, length⟩ : ∃ last, makers.length = last + 1 := ⟨makers.length - 1, by omega⟩
  obtain ⟨closed, ended, log⟩ :=
    close_run obliges (served.context.trans (congrArg newest length))
  have count : closed.rest.2.1.count (.created true) = makers.length := by
    simp [log, served.created]
  have isOpen : ∀ context, IsOpen closed.rest.2.1 context ↔ context + 1 < makers.length :=
    fun context => log ▸ served.closed own length context
  refine ⟨closed, ended, count, own, isOpen, (served.shares_iff finished count isOpen).trans ?_⟩
  obtain ⟨first, rest, rfl⟩ := List.exists_cons_of_ne_nil nonempty
  rw [length_pioneers_eq_one_iff first rest]
  constructor
  · rintro (rfl | ⟨later, rfl⟩)
    · simp [makers, pioneers] at fewer
    · exact ⟨first, later, rfl⟩
  · rintro ⟨other, later, same⟩
    obtain ⟨rfl, rfl⟩ := List.cons.inj same
    exact .inr ⟨later, rfl⟩

/-- A maker with which nothing fails. -/
def smooth : Maker Unit :=
  ⟨fun _ => pure (), fun _ => pure (), fun _ => pure ()⟩

private theorem smooth_obliges : smooth.Obliges :=
  ⟨fun _ _ => ⟨_, rfl⟩, fun _ _ => ⟨_, rfl⟩, fun _ _ => ⟨_, rfl⟩⟩

/-- A connection with such a maker, and all that happened to its contexts. -/
def smoothScene (made : Nat) (context client : Option Nat) (log : List Event) :
    Scene (Watched Unit) :=
  (Scene.bare ()).withRest
    ({ ofParts defaultRegion none false ∅ with made, context, client }, log, ())

/-- A caller who comes when the first one has the client shares its context. -/
theorem late_caller_shares :
    ∃ callers after closed, play smooth.watched [0, 0, 1] (fun _ => .fresh)
        (smoothScene 0 none none []) = .ok callers after ∧
      close smooth.watched after = .ok () closed ∧ Shares [0, 0, 1] callers closed.rest.2.1 := by
  obtain ⟨-, callers, after, ran, shared⟩ := first_uses_share_iff smooth_obliges defaultRegion none
    false ∅ (show [0, 0, 1] ≠ [] by decide) (.bare ())
  have finished : ∀ caller ∈ [0, 0, 1], ∃ client, callers caller = .given client := by
    cases ran
    simp
  obtain ⟨closed, ended, -, -, -, shares⟩ := shared finished
  exact ⟨callers, after, closed, ran, ended, shares.mpr ⟨0, [1], rfl⟩⟩

/-- Two callers who come before either goes on have a client each, and one context stays open. -/
theorem early_callers_apart :
    ∃ callers after closed, play smooth.watched [0, 1, 0, 1] (fun _ => .fresh)
        (smoothScene 0 none none []) = .ok callers after ∧
      close smooth.watched after = .ok () closed ∧
      callers 0 = .given 0 ∧ callers 1 = .given 1 ∧
      closed.rest.2.1 = [.created true, .created true, .entered 0 true, .entered 1 true,
        .left 1 true] ∧
      ¬ Shares [0, 1, 0, 1] callers closed.rest.2.1 := by
  let made : List Event := [.created true, .created true]
  let entered : List Event := made ++ [.entered 0 true] ++ [.entered 1 true]
  have first : advance smooth.watched .fresh (smoothScene 0 none none []) =
      .ok (.entering 0) (smoothScene 1 (some 0) none [.created true]) := rfl
  have second : advance smooth.watched .fresh (smoothScene 1 (some 0) none [.created true]) =
      .ok (.entering 1) (smoothScene 2 (some 1) none made) := rfl
  have third : advance smooth.watched (.entering 0) (smoothScene 2 (some 1) none made) =
      .ok (.given 0) (smoothScene 2 (some 1) (some 0) (made ++ [.entered 0 true])) := rfl
  have fourth : advance smooth.watched (.entering 1)
        (smoothScene 2 (some 1) (some 0) (made ++ [.entered 0 true])) =
      .ok (.given 1) (smoothScene 2 (some 1) (some 1) entered) := rfl
  have closing : close smooth.watched (smoothScene 2 (some 1) (some 1) entered) =
      .ok () (smoothScene 2 none none (entered ++ [.left 1 true])) := rfl
  obtain ⟨callers, ran, zero, one⟩ : ∃ callers, play smooth.watched [0, 1, 0, 1]
      (fun _ => .fresh) (smoothScene 0 none none []) =
        .ok callers (smoothScene 2 (some 1) (some 1) entered) ∧
      callers 0 = .given 0 ∧ callers 1 = .given 1 := by
    rw [play_cons (by rfl) first, play_cons (by rfl) second, play_cons (by rfl) third,
      play_cons (by rfl) fourth]
    exact ⟨_, rfl, rfl, rfl⟩
  exact ⟨callers, _, _, ran, closing, zero, one, rfl,
    fun shares => shares.shut 0 ⟨by decide, by decide⟩⟩

end ClaimCheck.Connection
