import ElasticOpenTelemetry.BootstrapFailure

/-!
# What a failing bootstrap releases

Every step of `CreateComponents` is reached in one state that the environment decides
(`visits_createComponentsBody`), so that each point of failure is the clean-up run from that
state. `leaksNothing_iff` puts together for which failures everything is released: the clean-up
does its part between the assignment of a local and the hand-over to the components, and the
worker thread of `StartClient` does its part when the client did not start.
-/

namespace ElasticOpenTelemetry.BootstrapFailure

open DotNet Faults

/-! ### The states in which the steps are reached -/

namespace Environment

/-- Both calls of `IsOpAmpEnabled` answer the same. -/
theorem opAmpEnabledAgain_eq (env : Environment) : env.opAmpEnabledAgain = env.opAmpEnabled := by
  rw [opAmpEnabledAgain, opAmpEnabled]
  generalize env.options.resolveOpAmpServiceIdentity = o
  by_cases hcached : o.isOpAmpEnabledCache = some true
  · have henabled : o.isOpAmpEnabled = (true, o) := by
      rw [CompositeElasticOpenTelemetryOptions.isOpAmpEnabled, if_pos hcached]
    rw [henabled, henabled]
  · simp only [CompositeElasticOpenTelemetryOptions.isOpAmpEnabled, if_neg hcached]
    split_ifs <;> simp_all

variable {env : Environment} {s : State}

/-- The calls on a path, each in its state. -/
def visited (env : Environment) (s : State) (path : List Step) : List (Step × State) :=
  path.map fun step => (step, env.stateAt s step)

/-- The constructor of `CentralConfiguration` has returned, and `centralConfig` is not assigned
yet. -/
def constructed (env : Environment) (s : State) : State :=
  { env.stateAt s .waitForFirstConfig with centralConfig := false }

theorem workerBeforeExchange_stateAt (henabled : env.opAmpEnabled = true)
    (hcreates : env.createsClient = true) :
    env.workerBeforeExchange (env.stateAt s .logOpAmpClientCreated) =
      env.stateAt s .logOpAmpClientStartTimeout := by
  cases hstart : env.startUp <;>
    simp [workerBeforeExchange, stateAt, clientAt, ownsCentralConfig, State.disposeClient,
      Resource.dispose, Step.le,
      Step.ctorIdx, hstart, henabled, hcreates]

theorem workerAfterExchange_stateAt (henabled : env.opAmpEnabled = true)
    (hcreates : env.createsClient = true) (hstart : env.startUp ≠ .succeeded) :
    env.workerAfterExchange
        { env.stateAt s .logOpAmpClientStartTimeout with client := .emptyOpAmpClient } =
      env.constructed s := by
  cases hstart' : env.startUp <;>
    simp_all [workerAfterExchange, constructed, stateAt, clientAt, retained, ownsCentralConfig,
      State.disposeClient, Resource.dispose, Step.le, Step.ctorIdx]

/-- A client that starts in time is live from here on. -/
theorem constructed_of_succeeded (hcreates : env.createsClient = true)
    (hstart : env.startUp = .succeeded) :
    env.constructed s = env.stateAt s .logOpAmpClientStarted := by
  simp [constructed, stateAt, clientAt, retained, ownsCentralConfig, Step.le, Step.ctorIdx, hstart,
    hcreates]

theorem visits_startClient (henabled : env.opAmpEnabled = true)
    (hcreates : env.createsClient = true) :
    Visits env.throws env.startClient (env.stateAt s .subscribeToRemoteConfigMessages)
      (env.visited s [.subscribeToRemoteConfigMessages, .logOpAmpClientCreated,
        if env.startUp = .succeeded then .logOpAmpClientStarted else .logOpAmpClientStartTimeout])
      ⟨⟩ (env.constructed s) := by
  refine visits_call_bind (visits_call_bind (visits_modify_bind ?_))
  have hworker : env.workerBeforeExchange (env.stateAt s .subscribeToRemoteConfigMessages) =
      env.stateAt s .logOpAmpClientStartTimeout :=
    workerBeforeExchange_stateAt henabled hcreates
  by_cases hstart : env.startUp = .succeeded
  · rw [if_pos hstart, if_pos hstart, constructed_of_succeeded hcreates hstart]
    rw [workerBeforeExchange, hstart]
    exact visits_call _ _
  · rw [if_neg hstart, if_neg hstart, ← workerAfterExchange_stateAt henabled hcreates hstart]
    rw [hworker]
    exact visits_call_bind (visits_modify_bind (visits_modify _ _))

theorem visits_centralConfiguration (henabled : env.opAmpEnabled = true) :
    Visits env.throws env.centralConfiguration (env.stateAt s .logInitializingCentralConfig)
      (env.visited s env.centralConfigurationPath) ⟨⟩ (env.constructed s) := by
  rw [centralConfiguration, if_pos ((opAmpEnabledAgain_eq env).trans henabled),
    centralConfigurationPath]
  by_cases hcreates : env.createsClient = true
  · rw [if_pos hcreates, if_pos hcreates]
    have hclient : { env.stateAt s .logInitializingCentralConfig with opAmpClient := .live } =
        env.stateAt s .subscribeToRemoteConfigMessages := by
      cases hstart : env.startUp <;>
        simp [stateAt, clientAt, ownsCentralConfig, Step.le, Step.ctorIdx, hstart, henabled,
          hcreates]
    exact visits_call_bind (visits_modify_bind (hclient ▸ visits_startClient henabled hcreates))
  · rw [if_neg hcreates, if_neg hcreates]
    have hempty : { env.stateAt s .logUsingEmptyOpAmpClient with client := .emptyOpAmpClient } =
        env.constructed s := by
      simp [constructed, stateAt, clientAt, retained, ownsCentralConfig, Step.le, Step.ctorIdx,
        henabled, hcreates]
    refine visits_call_bind (visits_call_bind (visits_call_bind ?_))
    exact hempty ▸ visits_modify _ _

theorem visits_applyFirstConfig (config : Option (Option Str)) (u : State) :
    Visits env.throws (env.applyFirstConfig config) u
      ((match config with
        | none => [.logFailedToRetrieveConfig]
        | some none => [.logInitialConfigRetrieved]
        | some (some _) => [.logInitialConfigRetrieved, .setLogLevelFromCentralConfig] :
        List Step).map fun step => (step, u)) ⟨⟩ u := by
  match config with
  | none => exact visits_call _ _
  | some none => exact visits_call _ _
  | some (some _) => exact visits_call_bind (visits_call _ _)

/-- From `WaitForFirstConfig` on, the calls leave the state alone. -/
theorem visits_firstConfig {u : State}
    (hclient : u.client = if env.retained then .original else .emptyOpAmpClient) :
    Visits env.throws (do
        let config ← env.waitForFirstConfig (← get).client
        env.applyFirstConfig config) u
      (env.firstConfigPath.map fun step => (step, u)) ⟨⟩ u := by
  refine visits_get_bind ?_
  rw [firstConfigPath]
  by_cases hretained : env.retained = true
  · rw [if_pos hretained] at hclient ⊢
    rw [hclient, waitForFirstConfig, if_neg (by decide)]
    cases hconfig : env.firstConfig with
    | none =>
      have hwait : Visits env.throws (do
          env.foreign .waitForFirstConfig
          pure none) u [(.waitForFirstConfig, u)] (none : Option (Option Str)) u :=
        visits_call_bind (visits_pure none u)
      exact hwait.bind (visits_applyFirstConfig none u)
    | some config =>
      cases config with
      | none => exact visits_applyFirstConfig (some none) u
      | some level => exact visits_applyFirstConfig (some (some level)) u
  · rw [if_neg hretained] at hclient ⊢
    rw [hclient, waitForFirstConfig, if_pos rfl]
    exact visits_applyFirstConfig none u

/-- From `WaitForFirstConfig` to `Activate`, all steps are reached in one state. -/
theorem visited_firstConfigPath (env : Environment) (s : State) :
    env.visited s env.firstConfigPath =
      env.firstConfigPath.map fun step => (step, env.stateAt s .activate) := by
  rw [firstConfigPath]
  by_cases hretained : env.retained = true
  · rw [if_pos hretained]
    match env.firstConfig with
    | none => rfl
    | some none => rfl
    | some (some _) => rfl
  · rw [if_neg hretained]
    rfl

theorem visits_configureOpAmp :
    Visits env.throws env.configureOpAmp (env.stateAt s .isOpAmpEnabled)
      (env.visited s env.opAmpPath) ⟨⟩ (env.stateAt s .activate) := by
  rw [configureOpAmp, opAmpPath]
  by_cases henabled : env.opAmpEnabled = true
  · rw [if_pos henabled, if_pos henabled]
    have hassigned :
        { env.constructed s with centralConfig := true } = env.stateAt s .activate := by
      simp [constructed, stateAt, clientAt, ownsCentralConfig, Step.le, Step.ctorIdx, henabled]
    refine visits_call_bind ?_
    have h := visited_firstConfigPath env s
    rw [visited] at h
    rw [List.map_append, h]
    refine (visits_centralConfiguration henabled).bind (visits_modify_bind ?_)
    rw [hassigned]
    refine visits_firstConfig ?_
    cases hretained : env.retained <;> simp [stateAt, Step.le, Step.ctorIdx, henabled, hretained]
  · rw [if_neg henabled, if_neg henabled]
    have hskipped : env.stateAt s .isOpAmpEnabled = env.stateAt s .activate := by
      simp [stateAt, clientAt, ownsCentralConfig, Step.le, Step.ctorIdx, henabled]
    rw [hskipped]
    exact visits_call _ _

/-- From `Activate` on, the calls do not depend on how `OpAMP` is configured. -/
theorem visits_activate :
    Visits env.throws (do
        env.foreign .activate
        env.createEventListener
        env.foreign .elasticOpenTelemetryComponents
        modify fun s => { s with centralConfig := false, eventListener := false }
        env.foreign .logDistroPreamble
        env.foreign .logComponentsCreated) (env.stateAt s .activate)
      (env.visited s [.activate, .loggingEventListener, .elasticOpenTelemetryComponents,
        .logDistroPreamble, .logComponentsCreated]) ⟨⟩ (env.stateAt s .logComponentsCreated) := by
  have hlistener : Visits env.throws env.createEventListener (env.stateAt s .activate)
      (env.visited s [.loggingEventListener]) ⟨⟩
      (env.stateAt s .elasticOpenTelemetryComponents) :=
    visits_modify_bind (visits_call_bind (visits_modify _ _))
  have hcomponents : Visits env.throws (do
      env.foreign .elasticOpenTelemetryComponents
      modify fun s => { s with centralConfig := false, eventListener := false }
      env.foreign .logDistroPreamble
      env.foreign .logComponentsCreated) (env.stateAt s .elasticOpenTelemetryComponents)
      (env.visited s [.elasticOpenTelemetryComponents, .logDistroPreamble, .logComponentsCreated])
      ⟨⟩ (env.stateAt s .logComponentsCreated) :=
    visits_call_bind (visits_modify_bind (visits_call_bind (visits_call _ _)))
  exact visits_call_bind (hlistener.bind hcomponents)

/-- **The states of a call.** Every step of the `try` block is reached in the state that
`stateAt` gives for it. -/
theorem visits_createComponentsBody (env : Environment) (registry : Registry)
    (services : Option (List ServiceDescriptor)) :
    Visits env.throws env.createComponentsBody (State.atCall registry services)
      (env.visited (State.atCall registry services) env.bodyPath) ⟨⟩
      (env.stateAt (State.atCall registry services) .logComponentsCreated) := by
  rw [visited, bodyPath, List.append_assoc, List.map_append, List.map_append]
  refine visits_call_bind (visits_call_bind ?_)
  have hopAmp : Visits env.throws env.configureOpAmp
      (env.stateAt (State.atCall registry services) .isOpAmpEnabled)
      (env.visited (State.atCall registry services) env.opAmpPath) ⟨⟩
      (env.stateAt (State.atCall registry services) .activate) :=
    visits_configureOpAmp
  exact hopAmp.bind visits_activate

/-! ### The clean-up -/

/-- `TryWaitForCompletion` of `StopAsync` lets an exception out. -/
def stopAsyncFails (env : Environment) : Bool :=
  match env.stopAsync with
  | .completes => false
  | .timesOut => env.throws .logOperationTimedOut && env.throws .logOperationFaulted
  | .faults => env.throws .logOperationFaulted

/-- `SafeDispose` lets an exception out. -/
def safeDisposeFails (env : Environment) : Bool :=
  !env.disposeReturns && env.throws .logDisposeFaulted

/-- `Dispose` of a `CentralConfiguration` that retained its client lets an exception out. -/
def disposeFails (env : Environment) : Bool :=
  env.throws .logDisposingOpAmpClient || env.stopAsyncFails || env.safeDisposeFails

theorem run_tryStopAsync (u : State) :
    env.tryStopAsync.run u =
      (if env.stopAsyncFails then .error .logOperationFaulted else .ok ⟨⟩, u) := by
  rw [tryStopAsync, stopAsyncFails]
  cases env.stopAsync with
  | completes => rfl
  | timesOut =>
    simp only [run_tryCatch, foreign, call]
    cases env.throws .logOperationTimedOut <;> cases env.throws .logOperationFaulted <;> rfl
  | faults =>
    simp only [foreign, call]
    cases env.throws .logOperationFaulted <;> rfl

/-- The client is disposed even when an exception leaves `SafeDispose`. -/
theorem run_safeDispose (u : State) :
    env.safeDispose.run u =
      (if env.safeDisposeFails then .error .logDisposeFaulted else .ok ⟨⟩,
        u.disposeClient) := by
  rw [safeDispose, safeDisposeFails]
  simp only [foreign, call]
  cases env.disposeReturns <;> cases env.throws .logDisposeFaulted <;> rfl

theorem run_disposeCentralConfiguration_of_empty {u : State} (h : u.client = .emptyOpAmpClient) :
    env.disposeCentralConfiguration.run u = (.ok ⟨⟩, u) := by
  rw [disposeCentralConfiguration]
  change (if u.client = .emptyOpAmpClient then
    (pure ⟨⟩ : Program Step State PUnit) else _).run u = _
  rw [if_pos h]
  rfl

/-- A retained client is disposed, unless an exception of the clean-up itself gets out. -/
theorem run_disposeCentralConfiguration (env : Environment) {u : State} (h : u.client = .original) :
    if env.disposeFails then
      ∃ e v, Step.le e .logComponentsCreated = false ∧
        env.disposeCentralConfiguration.run u = (.error e, v)
    else env.disposeCentralConfiguration.run u =
      (.ok ⟨⟩, u.disposeClient) := by
  have hrun : env.disposeCentralConfiguration.run u =
      (env.foreign .logDisposingOpAmpClient >>= fun _ =>
        tryFinally env.tryStopAsync env.safeDispose : Program Step State PUnit).run u := by
    rw [disposeCentralConfiguration]
    change (if u.client = .emptyOpAmpClient then
      (pure ⟨⟩ : Program Step State PUnit) else _).run u = _
    rw [if_neg (by rw [h]; decide)]
  rw [hrun, run_bind, run_call, disposeFails]
  cases hlog : env.throws .logDisposingOpAmpClient with
  | true => exact ⟨.logDisposingOpAmpClient, u, rfl, rfl⟩
  | false =>
    simp only [Bool.false_eq_true, if_false, Bool.false_or, run_tryFinally, run_tryStopAsync,
      run_safeDispose]
    cases env.stopAsyncFails <;> cases env.safeDisposeFails
    · exact rfl
    · exact ⟨.logDisposeFaulted, _, rfl, rfl⟩
    · exact ⟨.logOperationFaulted, _, rfl, rfl⟩
    · exact ⟨.logDisposeFaulted, _, rfl, rfl⟩

/-- Without a retained client in `centralConfig`, there is nothing to dispose of there. -/
theorem run_cleanUp_of_not_owned (env : Environment) {u : State}
    (h : ¬ (u.centralConfig = true ∧ u.client = .original)) :
    env.cleanUp.run u = (.ok ⟨⟩, u.disposeEventListener) := by
  have hdispose : env.disposeCentralConfig.run u = (.ok ⟨⟩, u) := by
    change (if u.centralConfig then env.disposeCentralConfiguration else pure ⟨⟩).run u = _
    by_cases howned : u.centralConfig = true
    · have hempty : u.client = .emptyOpAmpClient := by
        cases hclient : u.client with
        | original => exact absurd ⟨howned, hclient⟩ h
        | emptyOpAmpClient => rfl
      rw [if_pos howned, run_disposeCentralConfiguration_of_empty hempty]
    · rw [if_neg howned]
      rfl
  rw [cleanUp, run_bind, hdispose]
  rfl

/-- With a retained client there, that client is disposed of as well, or the clean-up throws. -/
theorem run_cleanUp_of_owned (env : Environment) {u : State}
    (howned : u.centralConfig = true) (hclient : u.client = .original) :
    if env.disposeFails then
      ∃ e v, Step.le e .logComponentsCreated = false ∧ env.cleanUp.run u = (.error e, v)
    else env.cleanUp.run u =
      (.ok ⟨⟩, u.disposeClient.disposeEventListener) := by
  have hrun : env.disposeCentralConfig.run u = env.disposeCentralConfiguration.run u := by
    change (if u.centralConfig then env.disposeCentralConfiguration else pure ⟨⟩).run u = _
    rw [if_pos howned]
  have hdispose := run_disposeCentralConfiguration env hclient
  rw [← hrun] at hdispose
  split_ifs at hdispose ⊢ with hfails
  · obtain ⟨e, v, he, hv⟩ := hdispose
    refine ⟨e, v, he, ?_⟩
    rw [cleanUp, run_bind, hv]
  · rw [cleanUp, run_bind, hdispose]
    rfl

end Environment

/-! ### What a failure releases -/

/-- Every resource of the call is released, and what outlives the call is as it was. -/
structure Releases (s t : State) : Prop where
  opAmpClient : t.opAmpClient ≠ .live
  listener : t.listener ≠ .live
  registry : t.registry = s.registry
  services : t.services = s.services

/-- Whenever `Bootstrap` exits with an exception raised in `CreateComponents`, everything is
released. -/
def LeaksNothing (env : Environment) (registry : Registry)
    (services : Option (List ServiceDescriptor)) : Prop :=
  ∀ step t, Step.le step .logComponentsCreated = true →
    (bootstrap env).run (State.atCall registry services) = (.error step, t) →
      Releases (State.atCall registry services) t

/-- Existing components are found, so that none are created. -/
def Reuses (env : Environment) (registry : Registry)
    (services : Option (List ServiceDescriptor)) : Prop :=
  (existingComponents services).isSome = true ∨
    (registry.tryGetSharedComponents env.options).isSome = true

namespace Environment

variable (env : Environment)

/-- When `step` fails, the client is not there, or the worker thread or the clean-up disposes
of it. -/
def ClientReleased (step : Step) : Prop :=
  env.opAmpEnabled = false ∨ env.createsClient = false ∨
    Step.le .subscribeToRemoteConfigMessages step = false ∨
    match env.startUp with
    | .succeeded => Step.le .waitForFirstConfig step = true ∧
        Step.le step .elasticOpenTelemetryComponents = true
    | .failed | .failedLate => Step.le .logOpAmpClientStartTimeout step = true
    | .succeededAfterExchange => Step.le .waitForFirstConfig step = true
    | .pending | .succeededBeforeExchange => False

/-- When `step` fails, the listener is not there, or the clean-up sees it. -/
def ListenerReleased (step : Step) : Prop :=
  Step.le .loggingEventListener step = false ∨ step = .elasticOpenTelemetryComponents

/-- When `step` fails, the clean-up sees a retained client. -/
def OwnedAt (step : Step) : Prop :=
  env.opAmpEnabled = true ∧ env.retained = true ∧ Step.le .waitForFirstConfig step = true ∧
    Step.le step .elasticOpenTelemetryComponents = true

/-- When `step` fails, the clean-up replaces its exception by another one. -/
def ExceptionReplaced (step : Step) : Prop := env.OwnedAt step ∧ env.disposeFails = true

end Environment

theorem Step.le_iff {step step' : Step} :
    Step.le step step' = true ↔ step.ctorIdx ≤ step'.ctorIdx := decide_eq_true_iff

namespace Environment

variable {env : Environment} {s : State} {step : Step}

theorem ownedAt_iff :
    env.OwnedAt step ↔
      (env.stateAt s step).centralConfig = true ∧ (env.stateAt s step).client = .original := by
  simp only [OwnedAt, stateAt, ownsCentralConfig]
  cases Step.le .waitForFirstConfig step <;> cases env.opAmpEnabled <;> cases env.retained <;> simp

theorem clientReleased_iff :
    env.ClientReleased step ↔ env.clientAt step ≠ .live ∨ env.OwnedAt step := by
  have htimeout : Step.le .waitForFirstConfig step = true →
      Step.le .logOpAmpClientStartTimeout step = true := by
    rw [Step.le_iff, Step.le_iff]
    exact le_trans (by decide)
  have hsubscribe : Step.le .logOpAmpClientStartTimeout step = true →
      Step.le .subscribeToRemoteConfigMessages step = true := by
    rw [Step.le_iff, Step.le_iff]
    exact le_trans (by decide)
  simp only [ClientReleased, clientAt, OwnedAt, retained]
  generalize Step.le .waitForFirstConfig step = wait at *
  generalize Step.le .logOpAmpClientStartTimeout step = timeout at *
  generalize Step.le .subscribeToRemoteConfigMessages step = subscribe at *
  cases env.opAmpEnabled
  · simp
  · cases env.createsClient
    · simp
    · cases env.startUp <;> cases subscribe <;> cases timeout <;> cases wait <;> simp_all

theorem listenerReleased_iff {u : State}
    (hlistener : u.listener = (env.stateAt s step).listener)
    (heventListener : u.eventListener = (env.stateAt s step).eventListener) :
    Environment.ListenerReleased step ↔ u.disposeEventListener.listener ≠ .live := by
  rw [ListenerReleased, State.disposeEventListener, heventListener]
  by_cases hstep : step = .elasticOpenTelemetryComponents
  · subst hstep
    have hlive : u.listener = .live := hlistener
    refine iff_of_true (Or.inr rfl) ?_
    change u.listener.dispose ≠ .live
    rw [hlive]
    decide
  · simp only [stateAt] at hlistener ⊢
    simp only [hstep, decide_false, Bool.false_eq_true, if_false, hlistener]
    cases Step.le .loggingEventListener step <;> simp

/-! ### The exits of a call -/

/-- The steps on the path are steps of `CreateComponents`. -/
theorem le_of_firstFailure (h : env.firstFailure = some step) :
    Step.le step .logComponentsCreated = true := by
  have hall : (Step.getOrCreate :: env.bodyPath).all (Step.le · .logComponentsCreated) = true := by
    rw [bodyPath, opAmpPath, centralConfigurationPath, firstConfigPath]
    rcases env.firstConfig with - | - | level <;> split_ifs <;> rfl
  exact List.all_eq_true.mp hall step (List.mem_of_find?_eq_some h)

theorem find?_visited (path : List Step) :
    (env.visited s path).find? (fun c => env.throws c.1) =
      (path.find? env.throws).map fun step => (step, env.stateAt s step) := by
  rw [visited, List.find?_map]
  rfl

variable {registry : Registry} {services : Option (List ServiceDescriptor)}

theorem run_createComponents_of_failure (h : env.firstFailure = some step) :
    env.createComponents.run (State.atCall registry services) =
      match env.cleanUp.run (env.stateAt (State.atCall registry services) step) with
      | (.ok _, t) => (.error step, t)
      | (.error e, t) => (.error e, t) := by
  rw [createComponents, run_bind, run_call]
  by_cases hcreate : env.throws .getOrCreate = true
  · rw [firstFailure, List.find?_cons_of_pos hcreate] at h
    obtain rfl : Step.getOrCreate = step := Option.some.inj h
    have hnull : (env.stateAt (State.atCall registry services)
        .getOrCreate).centralConfig = false := rfl
    rw [if_pos hcreate, run_cleanUp_of_not_owned env (by simp [hnull])]
    rfl
  · rw [firstFailure, List.find?_cons_of_neg hcreate] at h
    have hbody := (visits_createComponentsBody env registry services).run_of_some
      (by rw [find?_visited, h]; rfl)
    rw [if_neg hcreate]
    simp only [run_bind, run_tryCatch, hbody]
    rcases env.cleanUp.run (env.stateAt (State.atCall registry services) step) with
      ⟨r | r, t⟩ <;> rfl

theorem run_createComponents_of_none (h : env.firstFailure = none) :
    env.createComponents.run (State.atCall registry services) =
      (.ok (registry.createComponents env.options env.initialLevel),
        env.stateAt (State.atCall registry services) .logComponentsCreated) := by
  have hcreate : ¬ env.throws .getOrCreate = true :=
    List.find?_eq_none.mp h _ List.mem_cons_self
  rw [firstFailure, List.find?_cons_of_neg hcreate] at h
  have hbody := (visits_createComponentsBody env registry services).run_of_none
    (by rw [find?_visited, h]; rfl)
  rw [createComponents, run_bind, run_call, if_neg hcreate]
  simp only [run_bind, run_tryCatch, hbody]
  rfl

end Environment

/-- What `Bootstrap` does with new components. -/
theorem visits_register (env : Environment) (c : ElasticOpenTelemetryComponents) (s : State) :
    Visits env.throws (do
        env.foreign .logSharedComponentsNotReused
        modify fun s => { s with registry := s.registry.add env.options env.initialLevel }
        env.foreign .logBootstrapInvoked
        modify (addSingleton c)
        pure c) s
      [(.logSharedComponentsNotReused, s), (.logBootstrapInvoked,
        { s with registry := s.registry.add env.options env.initialLevel })] c
      (addSingleton c { s with registry := s.registry.add env.options env.initialLevel }) :=
  visits_call_bind (visits_modify_bind (visits_call_bind (visits_modify_bind (visits_pure c _))))

variable {env : Environment} {registry : Registry} {services : Option (List ServiceDescriptor)}

/-- Components in the service collection are handed out. -/
theorem run_bootstrap_of_existing {c : ElasticOpenTelemetryComponents}
    (h : existingComponents services = some c) :
    (bootstrap env).run (State.atCall registry services) =
      (do
        env.foreign .logServiceCollectionComponentsReused
        env.foreign .logBootstrapInvoked
        pure c : Program Step State _).run (State.atCall registry services) := by
  rw [bootstrap, run_get_bind]
  simp only [State.atCall, h]

/-- Shared components are handed out and registered. -/
theorem run_bootstrap_of_shared (hexisting : existingComponents services = none)
    {c : ElasticOpenTelemetryComponents}
    (h : registry.tryGetSharedComponents env.options = some c) :
    (bootstrap env).run (State.atCall registry services) =
      (do
        env.foreign .logSharedComponentsReused
        env.foreign .logBootstrapInvoked
        modify (addSingleton c)
        pure c : Program Step State _).run (State.atCall registry services) := by
  rw [bootstrap, run_get_bind]
  simp only [State.atCall, hexisting]
  rw [run_get_bind]
  simp only [h]

/-- Otherwise components are created. -/
theorem run_bootstrap_of_none (hexisting : existingComponents services = none)
    (h : registry.tryGetSharedComponents env.options = none) :
    (bootstrap env).run (State.atCall registry services) =
      (env.createComponents >>= fun c => do
        env.foreign .logSharedComponentsNotReused
        modify fun s => { s with registry := s.registry.add env.options env.initialLevel }
        env.foreign .logBootstrapInvoked
        modify (addSingleton c)
        pure c : Program Step State _).run (State.atCall registry services) := by
  rw [bootstrap, run_get_bind]
  simp only [State.atCall, hexisting]
  rw [run_get_bind]
  simp only [h]

/-- No call with a name after `CreateComponents` ends in an exception of `CreateComponents`. -/
theorem not_error_of_visits {m : Program Step State ElasticOpenTelemetryComponents}
    {calls : List (Step × State)} {c : ElasticOpenTelemetryComponents} {s t : State}
    (h : Visits env.throws m s calls c t)
    (hlater : ∀ call ∈ calls, Step.le call.1 .logComponentsCreated = false) {step : Step}
    {u : State} (hstep : Step.le step .logComponentsCreated = true) :
    m.run s ≠ (.error step, u) := by
  intro herror
  have hcall := hlater _ (h.mem_of_error herror)
  exact Bool.false_ne_true (hcall.symm.trans hstep)

/-- Without components to reuse, neither look-up finds any. -/
theorem not_reuses_iff : ¬ Reuses env registry services ↔
    existingComponents services = none ∧ registry.tryGetSharedComponents env.options = none := by
  simp [Reuses]

/-- When components are reused, no step of `CreateComponents` is reached. -/
theorem leaksNothing_of_reuses (h : Reuses env registry services) :
    LeaksNothing env registry services := by
  intro step t hstep hrun
  cases hexisting : existingComponents services with
  | some c =>
    have hvisits : Visits env.throws (do
        env.foreign .logServiceCollectionComponentsReused
        env.foreign .logBootstrapInvoked
        pure c) (State.atCall registry services)
        [(.logServiceCollectionComponentsReused, State.atCall registry services),
          (.logBootstrapInvoked, State.atCall registry services)] c
        (State.atCall registry services) :=
      visits_call_bind (visits_call_bind (visits_pure c _))
    rw [run_bootstrap_of_existing hexisting] at hrun
    refine absurd hrun (not_error_of_visits hvisits ?_ hstep)
    simp [Step.le, Step.ctorIdx]
  | none =>
    cases hshared : registry.tryGetSharedComponents env.options with
    | none => simp [Reuses, hexisting, hshared] at h
    | some c =>
      have hvisits : Visits env.throws (do
          env.foreign .logSharedComponentsReused
          env.foreign .logBootstrapInvoked
          modify (addSingleton c)
          pure c) (State.atCall registry services)
          [(.logSharedComponentsReused, State.atCall registry services),
            (.logBootstrapInvoked, State.atCall registry services)] c
          (addSingleton c (State.atCall registry services)) :=
        visits_call_bind (visits_call_bind (visits_modify_bind (visits_pure c _)))
      rw [run_bootstrap_of_shared hexisting hshared] at hrun
      refine absurd hrun (not_error_of_visits hvisits ?_ hstep)
      simp [Step.le, Step.ctorIdx]

/-- When nothing fails in `CreateComponents`, no exception comes from it. -/
theorem leaksNothing_of_none (hnone : env.firstFailure = none) :
    LeaksNothing env registry services := by
  by_cases hreuse : Reuses env registry services
  · exact leaksNothing_of_reuses hreuse
  · intro step t hstep hrun
    obtain ⟨hexisting, hshared⟩ := not_reuses_iff.1 hreuse
    rw [run_bootstrap_of_none hexisting hshared, run_bind,
      Environment.run_createComponents_of_none hnone] at hrun
    refine absurd hrun (not_error_of_visits (visits_register env _ _) ?_ hstep)
    simp [Step.le, Step.ctorIdx]

/-- The first failure of `CreateComponents` is followed by its clean-up. -/
theorem run_bootstrap_of_failure (hreuse : ¬ Reuses env registry services) {step : Step}
    (hfailure : env.firstFailure = some step) :
    (bootstrap env).run (State.atCall registry services) =
      match env.cleanUp.run (env.stateAt (State.atCall registry services) step) with
      | (.ok _, t) => (.error step, t)
      | (.error e, t) => (.error e, t) := by
  obtain ⟨hexisting, hshared⟩ := not_reuses_iff.1 hreuse
  rw [run_bootstrap_of_none hexisting hshared, run_bind,
    Environment.run_createComponents_of_failure hfailure]
  rcases env.cleanUp.run (env.stateAt (State.atCall registry services) step) with
    ⟨r | r, t⟩ <;> rfl

/-- A call that ends in an exception of `CreateComponents` is judged by the state it leaves. -/
theorem leaksNothing_iff_releases {step : Step} {t : State}
    (hstep : Step.le step .logComponentsCreated = true)
    (hrun : (bootstrap env).run (State.atCall registry services) = (.error step, t)) :
    LeaksNothing env registry services ↔ Releases (State.atCall registry services) t := by
  refine ⟨fun h => h step t hstep hrun, fun h step' t' _ hrun' => ?_⟩
  have hsame : (Except.error step, t) =
      ((Except.error step', t') : Except Step ElasticOpenTelemetryComponents × State) :=
    hrun.symm.trans hrun'
  obtain rfl : t = t' := congrArg Prod.snd hsame
  exact h

/-- What the clean-up leaves untouched, and what it comes to for the two resources. -/
theorem releases_iff (env : Environment) (step : Step) {s u : State}
    (hlistener : u.listener = (env.stateAt s step).listener)
    (heventListener : u.eventListener = (env.stateAt s step).eventListener)
    (hregistry : u.registry = s.registry) (hservices : u.services = s.services) :
    Releases s u.disposeEventListener ↔
      u.opAmpClient ≠ .live ∧ Environment.ListenerReleased step := by
  rw [Environment.listenerReleased_iff hlistener heventListener]
  have hframe : u.disposeEventListener.opAmpClient = u.opAmpClient ∧
      u.disposeEventListener.registry = u.registry ∧
      u.disposeEventListener.services = u.services := by
    rw [State.disposeEventListener]
    split_ifs <;> exact ⟨rfl, rfl, rfl⟩
  constructor
  · intro h
    exact ⟨hframe.1 ▸ h.opAmpClient, h.listener⟩
  · intro h
    exact ⟨hframe.1.symm ▸ h.1, h.2, hframe.2.1.trans hregistry, hframe.2.2.trans hservices⟩

/-- A retained client that the clean-up sees: it is disposed of, unless the clean-up throws. -/
theorem leaksNothing_of_owned (hreuse : ¬ Reuses env registry services) {step : Step}
    (hfailure : env.firstFailure = some step) (howned : env.OwnedAt step) :
    LeaksNothing env registry services ↔
      Environment.ListenerReleased step ∨ env.disposeFails = true := by
  have hstep := Environment.le_of_firstFailure hfailure
  have hrun := run_bootstrap_of_failure hreuse hfailure
  obtain ⟨hcentral, hclient⟩ :=
    (Environment.ownedAt_iff (s := State.atCall registry services)).mp howned
  have hcleanUp := Environment.run_cleanUp_of_owned env hcentral hclient
  by_cases hfails : env.disposeFails = true
  · -- `Bootstrap` exits with the exception of the clean-up
    rw [if_pos hfails] at hcleanUp
    obtain ⟨e, v, he, hv⟩ := hcleanUp
    rw [hv] at hrun
    refine iff_of_true (fun step' t hstep' hrun' => ?_) (Or.inr hfails)
    have hsame : (Except.error e, v) =
        ((Except.error step', t) : Except Step ElasticOpenTelemetryComponents × State) :=
      hrun.symm.trans hrun'
    obtain rfl : e = step' := by simpa using congrArg Prod.fst hsame
    exact absurd (he.symm.trans hstep') (by decide)
  · rw [if_neg hfails] at hcleanUp
    rw [hcleanUp] at hrun
    have hdisposed :
        (env.stateAt (State.atCall registry services) step).disposeClient.opAmpClient ≠ .live := by
      change (env.stateAt (State.atCall registry services) step).opAmpClient.dispose ≠ .live
      cases (env.stateAt (State.atCall registry services) step).opAmpClient <;> decide
    have hreleases := releases_iff env step (s := State.atCall registry services)
      (u := (env.stateAt (State.atCall registry services) step).disposeClient) rfl rfl rfl rfl
    rw [or_iff_left hfails]
    refine (leaksNothing_iff_releases hstep hrun).trans (hreleases.trans ?_)
    exact and_iff_right hdisposed

/-- Otherwise the client is as the failing step found it. -/
theorem leaksNothing_of_not_owned (hreuse : ¬ Reuses env registry services) {step : Step}
    (hfailure : env.firstFailure = some step) (howned : ¬ env.OwnedAt step) :
    LeaksNothing env registry services ↔
      env.clientAt step ≠ .live ∧ Environment.ListenerReleased step := by
  have hstep := Environment.le_of_firstFailure hfailure
  have hrun := run_bootstrap_of_failure hreuse hfailure
  rw [Environment.ownedAt_iff (s := State.atCall registry services)] at howned
  rw [Environment.run_cleanUp_of_not_owned env howned] at hrun
  exact (leaksNothing_iff_releases hstep hrun).trans (releases_iff env step rfl rfl rfl rfl)

/-- **A failing bootstrap.** Everything is released exactly when components are reused, or the
first step that fails comes while the client and the listener are still absent or already in the
hands of the clean-up or the worker thread (or else the clean-up fails itself). -/
theorem leaksNothing_iff (env : Environment) (registry : Registry)
    (services : Option (List ServiceDescriptor)) :
    LeaksNothing env registry services ↔
      Reuses env registry services ∨ ∀ step, env.firstFailure = some step →
        env.ClientReleased step ∧ Environment.ListenerReleased step ∨
          env.ExceptionReplaced step := by
  by_cases hreuse : Reuses env registry services
  · exact iff_of_true (leaksNothing_of_reuses hreuse) (Or.inl hreuse)
  · rw [or_iff_right hreuse]
    cases hfailure : env.firstFailure with
    | none => exact iff_of_true (leaksNothing_of_none hfailure) (by simp)
    | some step =>
      have hone : (∀ step', some step = some step' →
          env.ClientReleased step' ∧ Environment.ListenerReleased step' ∨
            env.ExceptionReplaced step') ↔
          env.ClientReleased step ∧ Environment.ListenerReleased step ∨
            env.ExceptionReplaced step := by simp
      rw [hone, Environment.clientReleased_iff, Environment.ExceptionReplaced]
      by_cases howned : env.OwnedAt step
      · rw [leaksNothing_of_owned hreuse hfailure howned]
        simp [howned]
      · rw [leaksNothing_of_not_owned hreuse hfailure howned]
        simp [howned]

/-- Options with an OpAMP endpoint, in an environment that names the service. -/
def opAmpOptions : CompositeElasticOpenTelemetryOptions :=
  CompositeElasticOpenTelemetryOptions.ofOptions .linux
    { opAmpClientOptions := { endpoint := some "http://localhost:4320".toList } } fun key =>
      if key = EnvironmentVariables.otelServiceName then some (some "checkout".toList) else none

/-- A client is created, and its `SubscribeToRemoteConfigMessages` throws. -/
def failingSubscription : Environment where
  options := opAmpOptions
  createsClient := true
  startUp := .succeeded
  firstConfig := none
  stopAsync := .completes
  disposeReturns := true
  throws := fun step => decide (step = .subscribeToRemoteConfigMessages)

/-- Nobody disposes of that client: the local `centralConfig` is still null. -/
theorem failingSubscription_leaks : ¬ LeaksNothing failingSubscription Registry.empty none := by
  intro h
  have hrun : ((bootstrap failingSubscription).run (State.atCall Registry.empty none)).1 =
      .error .subscribeToRemoteConfigMessages := rfl
  have hclient : ((bootstrap failingSubscription).run
      (State.atCall Registry.empty none)).2.opAmpClient = .live := rfl
  exact (h _ _ (by decide) (Prod.ext hrun rfl)).opAmpClient hclient

end ElasticOpenTelemetry.BootstrapFailure
