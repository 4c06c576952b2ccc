import AriaUnderlay.Api.ShadowUpdate
import AriaUnderlay.Netconf.Scope
import AriaUnderlay.State.Drift
import AriaUnderlay.State.Stores

/-!
# The drift audit of the worker

The worker compares the stored shadows with the store of observed states.  That store is written by
every operation that reads a device: by a refresh and by the audit of the service, which read the
whole device, but also by a dry run and by an apply, which read the objects that they are about, and
the apply reads them before it changes them.

So the audit of the worker finds no drift on a device that nobody has touched if the device was last
read as a whole.  After an apply it reports the change that the apply has just made.
-/

namespace AriaUnderlay

open Collections Effect Storage

/-! ## Reading a device as a whole -/

/-- What the inventory, the adapter and the stores answer while devices are read. -/
structure ReadEnv where
  inventory : DeviceId → Except UnderlayError ManagedDevice
  client : String → Except UnderlayError Unit
  currentState : DeviceId → Except UnderlayError DeviceShadowState
  observedPut : DeviceId → Except UnderlayError Unit
  shadowGet : DeviceId → Except UnderlayError Unit
  setState : DeviceId → DeviceLifecycleState → Except UnderlayError Unit

/-- Ask a device for its state. -/
def fetchDeviceStateFromAdapter (env : ReadEnv) (deviceId : DeviceId) :
    Except UnderlayError DeviceShadowState := do
  let managed ← env.inventory deviceId
  env.client managed.info.adapterEndpoint
  env.currentState deviceId

def getDeviceState (env : ReadEnv) (deviceId : DeviceId) (world : World) :
    Except UnderlayError DeviceShadowState × World :=
  match fetchDeviceStateFromAdapter env deviceId with
  | .error error => (.error error, world)
  | .ok state =>
      match env.observedPut deviceId with
      | .error error => (.error error, world)
      | .ok () => (.ok state, { world with observed := storeState world.observed state })

def refreshState (env : ReadEnv) :
    List DeviceId → World → Except UnderlayError Unit × World
  | [], world => (.ok (), world)
  | deviceId :: rest, world =>
      match getDeviceState env deviceId world with
      | (.error error, world) => (.error error, world)
      | (.ok _, world) => refreshState env rest world

/-- Compare what was read with the shadow and adjust the lifecycle state of the device. -/
def auditObserved (env : ReadEnv) (deviceId : DeviceId) (observed : DeviceShadowState)
    (shadows : BTreeMap DeviceId DeviceShadowState) : Except UnderlayError Bool := do
  env.shadowGet deviceId
  match shadows[deviceId]? with
  | none =>
      if (DriftReport.fromAdapterWarnings deviceId observed.warnings).driftDetected then
        env.setState deviceId .drifted
        return true
      else return false
  | some expected =>
      if (detectDrift expected observed).driftDetected then
        env.setState deviceId .drifted
        return true
      else
        let managed ← env.inventory deviceId
        if managed.info.lifecycleState = .drifted then env.setState deviceId .ready
        return false

def runDriftAudit (env : ReadEnv) :
    List DeviceId → World → Except UnderlayError (List DeviceId) × World
  | [], world => (.ok [], world)
  | deviceId :: rest, world =>
      match getDeviceState env deviceId world with
      | (.error error, world) => (.error error, world)
      | (.ok observed, world) =>
          match auditObserved env deviceId observed world.shadows with
          | .error error => (.error error, world)
          | .ok drifted =>
              let (others, world) := runDriftAudit env rest world
              (others.map fun devices => if drifted then deviceId :: devices else devices, world)

/-! ## The auditor -/

/-- What a run of the worker has found. -/
structure DriftAuditRunSummary where
  auditedDevices : ℕ := 0
  failedDevices : List DeviceId := []
  driftedDevices : List DeviceId := []
  expectedStoreListingError : Option String := none
  reports : List DriftReport := []

def missingShadowState (deviceId : DeviceId) : UnderlayError :=
  .invalidDeviceState ("missing shadow state for device " ++ deviceId)

/-- The observation source of the worker: the store of observed states. -/
def observedStateIn (observed : BTreeMap DeviceId DeviceShadowState) (deviceId : DeviceId) :
    Except UnderlayError DeviceShadowState :=
  match observed[deviceId]? with
  | some state => .ok state
  | none => .error (missingShadowState deviceId)

/-- The reports of drifted devices and the devices that could not be compared. -/
def auditStates (source : DeviceId → Except UnderlayError DeviceShadowState) :
    List DeviceShadowState → List DriftReport × List DeviceId
  | [] => ([], [])
  | expected :: rest =>
      let (reports, failed) := auditStates source rest
      match source expected.deviceId with
      | .error _ => (reports, expected.deviceId :: failed)
      | .ok observed =>
          let report := detectDrift expected observed
          (if report.driftDetected then report :: reports else reports, failed)

/-- One run of the worker. -/
def runOnceWithSummary (expectedStates : Except UnderlayError (List DeviceShadowState))
    (source : DeviceId → Except UnderlayError DeviceShadowState) : DriftAuditRunSummary :=
  match expectedStates with
  | .error error => { expectedStoreListingError := some error.display }
  | .ok states =>
      let (reports, failed) := auditStates source states
      { auditedDevices := states.length
        failedDevices := failed
        driftedDevices := reports.map DriftReport.deviceId
        reports := reports }

/-- The audit of the worker over the two stores. -/
def World.audit (world : World) : DriftAuditRunSummary :=
  runOnceWithSummary (.ok (valuesInOrder world.shadows)) (observedStateIn world.observed)

theorem mem_auditStates {source : DeviceId → Except UnderlayError DeviceShadowState}
    {states : List DeviceShadowState} {report : DriftReport}
    (isReport : report ∈ (auditStates source states).1) :
    ∃ expected ∈ states, ∃ observed, source expected.deviceId = .ok observed ∧
      report = detectDrift expected observed ∧ report.driftDetected = true := by
  induction states with
  | nil => cases isReport
  | cons expected rest ih =>
      have later : report ∈ (auditStates source rest).1 →
          ∃ state ∈ expected :: rest, ∃ observed, source state.deviceId = .ok observed ∧
            report = detectDrift state observed ∧ report.driftDetected = true := by
        intro isLater
        rcases ih isLater with ⟨state, isState, found⟩
        exact ⟨state, List.mem_cons_of_mem _ isState, found⟩
      rw [auditStates] at isReport
      cases read : source expected.deviceId with
      | error error =>
          simp only [read] at isReport
          exact later isReport
      | ok observed =>
          simp only [read] at isReport
          split at isReport
          · rename_i drifted
            rcases List.mem_cons.mp isReport with rfl | isLater
            · exact ⟨expected, List.mem_cons_self, observed, read, rfl, drifted⟩
            · exact later isLater
          · exact later isReport

/-! ## One device and its configuration -/

/-- The real configuration of a device beside the stores of the service. -/
structure DeviceSite where
  config : DeviceShadowState
  world : World

/-- Two states of a device with the same objects. -/
structure DeviceShadowState.SameObjects (left right : DeviceShadowState) : Prop where
  vlans : left.vlans = right.vlans
  interfaces : left.interfaces = right.interfaces
  acls : left.acls = right.acls
  aclBindings : left.aclBindings = right.aclBindings
  bgpProcesses : left.bgpProcesses = right.bgpProcesses
  bgpNeighbors : left.bgpNeighbors = right.bgpNeighbors

/-- Shadows are stored under the name of their device. -/
def World.ShadowsKeyed (world : World) : Prop :=
  ∀ (deviceId : DeviceId) (shadow : DeviceShadowState),
    world.shadows[deviceId]? = some shadow → shadow.deviceId = deviceId

/-- If there is a shadow of the device, it shows the configuration. -/
def DeviceSite.Settled (site : DeviceSite) (deviceId : DeviceId) : Prop :=
  ∀ shadow, site.world.shadows[deviceId]? = some shadow → site.config.SameObjects shadow

/-- The calls that ask a device for its state. -/
inductive DeviceCall where
  | applyDomainIntent
  | dryRunDomain
  | refreshState
  | runDriftAudit
  deriving DecidableEq, Repr

/-- The calls that read the whole device. -/
def DeviceCall.readsAll : DeviceCall → Bool
  | .refreshState | .runDriftAudit => true
  | .applyDomainIntent | .dryRunDomain => false

/-- The adapter reads the device without warnings, and other devices under their own names. -/
structure ReadEnv.Reads (env : ReadEnv) (deviceId : DeviceId) (config : DeviceShadowState) :
    Prop where
  device : env.currentState deviceId = .ok (StateScope.everything.restrict config)
  others : ∀ (other : DeviceId) (state : DeviceShadowState),
    env.currentState other = .ok state → state.deviceId = other

/-- A successful call on a device, for an apply and a dry run the part of it that is about this
device.  Nobody else changes the device, and an apply leaves on it what it leaves in the shadow. -/
inductive Performs (deviceId : DeviceId) : DeviceCall → DeviceSite → DeviceSite → Prop where
  | applyDomainIntent
      {before after : DeviceSite}
      {env : ApplyEnv}
      {timeoutSecs : ℕ}
      {requestId traceId : String}
      {desired : DeviceDesiredState}
      {allowDegradedAtomicity : Bool}
      {driftPolicy : DriftPolicy}
      {result : DeviceApplyResult}
      (isDevice : desired.deviceId = deviceId)
      (reads : env.currentState = .ok ((stateScopeFromDesired desired).restrict before.config))
      (runs : runAlone env.oracle (applySingleEndpointState timeoutSecs requestId traceId desired
        allowDegradedAtomicity driftPolicy) before.world = (result, after.world))
      (succeeds : result.status.isSuccess = true)
      (settled : after.Settled deviceId)
      (sameDevice : after.config.deviceId = deviceId)
      (noWarnings : after.config.warnings = []) :
      Performs deviceId .applyDomainIntent before after
  | dryRunDomain
      {before after : DeviceSite}
      {env : ApplyEnv}
      {desired : DeviceDesiredState}
      {plan : DryRunPlan}
      (isDevice : desired.deviceId = deviceId)
      (reads : env.currentState = .ok ((stateScopeFromDesired desired).restrict before.config))
      (runs : runAlone env.oracle (dryRunDesiredStates [desired]).run before.world =
        (.ok plan, after.world))
      (unchanged : after.config = before.config) :
      Performs deviceId .dryRunDomain before after
  | refreshState
      {before after : DeviceSite}
      {env : ReadEnv}
      {deviceIds : List DeviceId}
      (included : deviceId ∈ deviceIds)
      (reads : env.Reads deviceId before.config)
      (runs : refreshState env deviceIds before.world = (.ok (), after.world))
      (unchanged : after.config = before.config) :
      Performs deviceId .refreshState before after
  | runDriftAudit
      {before after : DeviceSite}
      {env : ReadEnv}
      {deviceIds drifted : List DeviceId}
      (included : deviceId ∈ deviceIds)
      (reads : env.Reads deviceId before.config)
      (runs : runDriftAudit env deviceIds before.world = (.ok drifted, after.world))
      (unchanged : after.config = before.config) :
      Performs deviceId .runDriftAudit before after

/-- A sequence of successful calls on a device. -/
inductive Calls (deviceId : DeviceId) : List DeviceCall → DeviceSite → DeviceSite → Prop where
  | nil (site : DeviceSite) : Calls deviceId [] site site
  | snoc {calls : List DeviceCall} {call : DeviceCall} {first before after : DeviceSite}
      (earlier : Calls deviceId calls first before)
      (last : Performs deviceId call before after) :
      Calls deviceId (calls ++ [call]) first after

/-- The worker does not report the device. -/
def World.NoDriftReported (world : World) (deviceId : DeviceId) : Prop :=
  ∀ report ∈ world.audit.reports, report.deviceId ≠ deviceId

/-! ## What the calls leave in the stores -/

/-- The last observation of the device shows its whole configuration. -/
def DeviceSite.Seen (site : DeviceSite) (deviceId : DeviceId) : Prop :=
  ∃ revision, site.world.observed[deviceId]? = some { site.config with revision := revision }

variable {before after : World} {deviceId : DeviceId}

section Reads

variable {env : ReadEnv} {config : DeviceShadowState}

theorem getDeviceState_ok {other : DeviceId} {state : DeviceShadowState}
    (runs : getDeviceState env other before = (.ok state, after)) :
    env.currentState other = .ok state ∧
      after = { before with observed := storeState before.observed state } := by
  unfold getDeviceState at runs
  cases fetched : fetchDeviceStateFromAdapter env other with
  | error error => simp [fetched] at runs
  | ok read =>
      simp only [fetched] at runs
      cases written : env.observedPut other with
      | error error => simp [written] at runs
      | ok _ =>
          simp only [written, Prod.mk.injEq, Except.ok.injEq] at runs
          rcases runs with ⟨rfl, rfl⟩
          rcases bind_eq_ok.mp fetched with ⟨managed, -, fetched⟩
          rcases bind_eq_ok.mp fetched with ⟨_, -, fetched⟩
          exact ⟨fetched, rfl⟩

/-- Reading devices as a whole leaves the shadows alone and keeps what was seen of the device. -/
structure Rereads (deviceId : DeviceId) (config : DeviceShadowState) (before after : World) :
    Prop where
  shadows : after.shadows = before.shadows
  seen : DeviceSite.Seen ⟨config, before⟩ deviceId → DeviceSite.Seen ⟨config, after⟩ deviceId

theorem Rereads.trans {first second third : World} (earlier : Rereads deviceId config first second)
    (later : Rereads deviceId config second third) :
    Rereads deviceId config first third where
  shadows := later.shadows.trans earlier.shadows
  seen := later.seen ∘ earlier.seen

theorem rereads_getDeviceState (reads : env.Reads deviceId config)
    (isDevice : config.deviceId = deviceId) {other : DeviceId} {state : DeviceShadowState}
    (runs : getDeviceState env other before = (.ok state, after)) :
    Rereads deviceId config before after ∧
      (other = deviceId → DeviceSite.Seen ⟨config, after⟩ deviceId) := by
  rcases getDeviceState_ok runs with ⟨read, rfl⟩
  by_cases same : other = deviceId
  · subst same
    have isConfig : state = config := Except.ok.inj (read.symm.trans reads.device)
    subst isConfig
    have seen : DeviceSite.Seen
        ⟨state, { before with observed := storeState before.observed state }⟩ other := by
      refine ⟨storedRevision before.observed[state.deviceId]? state, ?_⟩
      simp only [storeState, isDevice, Std.ExtTreeMap.getElem?_insert_self]
    exact ⟨⟨rfl, fun _ => seen⟩, fun _ => seen⟩
  · refine ⟨⟨rfl, ?_⟩, fun isSame => absurd isSame same⟩
    rintro ⟨revision, seen⟩
    refine ⟨revision, ?_⟩
    have different : ¬compare state.deviceId deviceId = .eq := by
      rw [reads.others other state read, Std.LawfulEqOrd.compare_eq_iff_eq]
      exact same
    simpa only [storeState, Std.ExtTreeMap.getElem?_insert, if_neg different] using seen

theorem rereads_refreshState (reads : env.Reads deviceId config)
    (isDevice : config.deviceId = deviceId) {deviceIds : List DeviceId}
    (runs : refreshState env deviceIds before = (.ok (), after)) :
    Rereads deviceId config before after ∧
      (deviceId ∈ deviceIds → DeviceSite.Seen ⟨config, after⟩ deviceId) := by
  induction deviceIds generalizing before with
  | nil =>
      obtain rfl : before = after := (Prod.mk.inj runs).2
      exact ⟨⟨rfl, id⟩, fun isMember => nomatch isMember⟩
  | cons other rest ih =>
      rw [refreshState] at runs
      rcases got : getDeviceState env other before with ⟨error | state, middle⟩
      · simp [got] at runs
      · simp only [got] at runs
        rcases rereads_getDeviceState reads isDevice got with ⟨first, seenFirst⟩
        rcases ih runs with ⟨later, seenLater⟩
        refine ⟨first.trans later, fun isMember => ?_⟩
        rcases List.mem_cons.mp isMember with same | isLater
        · exact later.seen (seenFirst same.symm)
        · exact seenLater isLater

theorem rereads_runDriftAudit (reads : env.Reads deviceId config)
    (isDevice : config.deviceId = deviceId) {deviceIds drifted : List DeviceId}
    (runs : runDriftAudit env deviceIds before = (.ok drifted, after)) :
    Rereads deviceId config before after ∧
      (deviceId ∈ deviceIds → DeviceSite.Seen ⟨config, after⟩ deviceId) := by
  induction deviceIds generalizing before drifted with
  | nil =>
      obtain rfl : before = after := (Prod.mk.inj runs).2
      exact ⟨⟨rfl, id⟩, fun isMember => nomatch isMember⟩
  | cons other rest ih =>
      rw [runDriftAudit] at runs
      rcases got : getDeviceState env other before with ⟨error | state, middle⟩
      · simp [got] at runs
      · simp only [got] at runs
        cases audited : auditObserved env other state middle.shadows with
        | error error => simp [audited] at runs
        | ok isDrifted =>
            simp only [audited] at runs
            rcases ran : runDriftAudit env rest middle with ⟨error | others, last⟩
            · simp [ran, Except.map] at runs
            · simp only [ran, Prod.mk.injEq] at runs
              obtain rfl := runs.2
              rcases rereads_getDeviceState reads isDevice got with ⟨first, seenFirst⟩
              rcases ih ran with ⟨later, seenLater⟩
              refine ⟨first.trans later, fun isMember => ?_⟩
              rcases List.mem_cons.mp isMember with same | isLater
              · exact later.seen (seenFirst same.symm)
              · exact seenLater isLater

end Reads

/-! ## Runs of calls -/

/-- What holds between the calls on a device. -/
structure DeviceSite.Ordered (site : DeviceSite) (deviceId : DeviceId) : Prop where
  settled : site.Settled deviceId
  keyed : site.world.ShadowsKeyed
  isDevice : site.config.deviceId = deviceId
  noWarnings : site.config.warnings = []

theorem shadowsKeyed_storeState {world : World} (keyed : world.ShadowsKeyed)
    (state : DeviceShadowState) :
    World.ShadowsKeyed { world with shadows := storeState world.shadows state } := by
  intro deviceId shadow stored
  simp only [storeState, Std.ExtTreeMap.getElem?_insert] at stored
  split at stored
  · rename_i same
    rw [← Option.some.inj stored]
    exact Std.LawfulEqOrd.eq_of_compare same
  · exact keyed deviceId shadow stored

theorem shadowsKeyed_apply {env : ApplyEnv} {timeoutSecs : ℕ} {requestId traceId : String}
    {desired : DeviceDesiredState} {allowDegradedAtomicity : Bool} {driftPolicy : DriftPolicy}
    {result : DeviceApplyResult}
    (runs : runAlone env.oracle (applySingleEndpointState timeoutSecs requestId traceId desired
      allowDegradedAtomicity driftPolicy) before = (result, after))
    (succeeds : result.status.isSuccess = true) (keyed : before.ShadowsKeyed) :
    after.ShadowsKeyed := by
  have leaves : env.Leaves desired before result after := by
    have served : Served env.oracle (applySingleEndpointState timeoutSecs requestId traceId desired
        allowDegradedAtomicity driftPolicy) (env.Leaves desired before) before :=
      leaves_applySingleEndpointState
    have left := served.runAlone
    rwa [runs] at left
  obtain ⟨observed, -, shadows⟩ := leaves succeeds
  unfold World.ShadowsKeyed
  rw [shadows]
  split
  · exact keyed
  · exact shadowsKeyed_storeState keyed _

theorem shadows_dryRun {env : ApplyEnv} {desired : DeviceDesiredState}
    {answer : Except UnderlayError DryRunPlan}
    (runs : runAlone env.oracle (dryRunDesiredStates [desired]).run before = (answer, after)) :
    after.shadows = before.shadows := by
  have served : Served env.oracle (dryRunDesiredStates [desired]).run
      (fun _ later => before.SameShadows later) before :=
    (Discipline.keeps_dryRunDesiredStates [desired]).served.mono fun _ _ holds => holds.2
  have same := served.runAlone
  rw [runs] at same
  exact same

theorem ordered_of_shadows_eq {before after : DeviceSite} (ordered : before.Ordered deviceId)
    (sameShadows : after.world.shadows = before.world.shadows)
    (unchanged : after.config = before.config) :
    after.Ordered deviceId where
  settled := by
    intro shadow stored
    rw [unchanged]
    exact ordered.settled shadow (sameShadows ▸ stored)
  keyed := by
    intro other shadow stored
    exact ordered.keyed other shadow (sameShadows ▸ stored)
  isDevice := unchanged ▸ ordered.isDevice
  noWarnings := unchanged ▸ ordered.noWarnings

theorem ordered_performs {call : DeviceCall} {before after : DeviceSite}
    (ordered : before.Ordered deviceId) (performs : Performs deviceId call before after) :
    after.Ordered deviceId ∧ (call.readsAll = true → after.Seen deviceId) := by
  cases performs with
  | applyDomainIntent isDevice reads runs succeeds settled sameDevice noWarnings =>
      exact ⟨⟨settled, shadowsKeyed_apply runs succeeds ordered.keyed, sameDevice, noWarnings⟩,
        nofun⟩
  | dryRunDomain isDevice reads runs unchanged =>
      exact ⟨ordered_of_shadows_eq ordered (shadows_dryRun runs) unchanged, nofun⟩
  | refreshState included reads runs unchanged =>
      rcases rereads_refreshState reads ordered.isDevice runs with ⟨rereads, seen⟩
      refine ⟨ordered_of_shadows_eq ordered rereads.shadows unchanged, fun _ => ?_⟩
      unfold DeviceSite.Seen
      rw [unchanged]
      exact seen included
  | runDriftAudit included reads runs unchanged =>
      rcases rereads_runDriftAudit reads ordered.isDevice runs with ⟨rereads, seen⟩
      refine ⟨ordered_of_shadows_eq ordered rereads.shadows unchanged, fun _ => ?_⟩
      unfold DeviceSite.Seen
      rw [unchanged]
      exact seen included

theorem ordered_calls {calls : List DeviceCall} {first last : DeviceSite}
    (ordered : first.Ordered deviceId) (run : Calls deviceId calls first last) :
    last.Ordered deviceId := by
  induction run with
  | nil site => exact ordered
  | snoc earlier performs ih => exact (ordered_performs (ih ordered) performs).1

theorem SameObjects.driftDetected_eq_false {expected observed : DeviceShadowState}
    (same : observed.SameObjects expected) (noWarnings : observed.warnings = []) :
    (detectDrift expected observed).driftDetected = false := by
  rw [(detectDrift_covers expected observed).clean_iff]
  refine ⟨?_, ?_, ?_, ?_, noWarnings⟩
  · rw [normalizeShadowState, normalizeShadowState, same.vlans]
  · rw [normalizeShadowState, normalizeShadowState, same.interfaces]
  · rw [normalizeShadowState, normalizeShadowState, same.acls]
  · rw [normalizeShadowState, normalizeShadowState, same.aclBindings]

/-- A report about the device compares its shadow with its last observation. -/
theorem exists_of_mem_audit {world : World} {report : DriftReport} (keyed : world.ShadowsKeyed)
    (isReport : report ∈ world.audit.reports) :
    ∃ expected observed, world.shadows[report.deviceId]? = some expected ∧
      world.observed[report.deviceId]? = some observed ∧
        (detectDrift expected observed).driftDetected = true := by
  rcases mem_auditStates isReport with ⟨expected, isExpected, observed, read, rfl, drifted⟩
  rcases List.mem_map.mp isExpected with ⟨⟨deviceId, _⟩, isEntry, rfl⟩
  rw [Std.ExtTreeMap.mem_toList_iff_getElem?_eq_some] at isEntry
  have sameDevice := keyed deviceId _ isEntry
  refine ⟨_, observed, ?_, ?_, drifted⟩
  · exact (congrArg (world.shadows[·]?) sameDevice).trans isEntry
  · unfold observedStateIn at read
    split at read
    · rename_i state stored
      exact stored.trans (congrArg some (Except.ok.inj read))
    · cases read

theorem noDriftReported_of_seen {site : DeviceSite} (ordered : site.Ordered deviceId)
    (seen : site.Seen deviceId) :
    site.world.NoDriftReported deviceId := by
  rintro report isReport rfl
  rcases exists_of_mem_audit ordered.keyed isReport with
    ⟨expected, observed, stored, wasSeen, drifted⟩
  rcases seen with ⟨revision, isSeen⟩
  obtain rfl : { site.config with revision := revision } = observed :=
    Option.some.inj (isSeen.symm.trans wasSeen)
  have same := ordered.settled expected stored
  have clean : (detectDrift expected { site.config with revision := revision }).driftDetected =
      false :=
    SameObjects.driftDetected_eq_false ⟨same.vlans, same.interfaces, same.acls, same.aclBindings,
      same.bgpProcesses, same.bgpNeighbors⟩ ordered.noWarnings
  rw [clean] at drifted
  cases drifted

theorem noDriftReported_of_unseen {site : DeviceSite} (ordered : site.Ordered deviceId)
    (unseen : site.world.observed[deviceId]? = none) :
    site.world.NoDriftReported deviceId := by
  rintro report isReport rfl
  rcases exists_of_mem_audit ordered.keyed isReport with ⟨_, observed, -, wasSeen, -⟩
  rw [unseen] at wasSeen
  cases wasSeen

/-- No drift is reported if there was no call at all or the last call has read the whole device. -/
theorem noDriftReported_of_last_reads_all (deviceId : DeviceId) (calls : List DeviceCall)
    (first last : DeviceSite) (ordered : first.Ordered deviceId)
    (unseen : first.world.observed[deviceId]? = none) (run : Calls deviceId calls first last)
    (readLast : ∀ call, calls.getLast? = some call → call.readsAll = true) :
    last.world.NoDriftReported deviceId := by
  cases run with
  | nil => exact noDriftReported_of_unseen ordered unseen
  | snoc earlier performs =>
      rcases ordered_performs (ordered_calls ordered earlier) performs with ⟨orderedLast, seen⟩
      exact noDriftReported_of_seen orderedLast (seen (readLast _ (by simp)))

/-- A device without configuration, and a service that has not met it yet. -/
def emptySite : DeviceSite where
  config := { deviceId := "leaf-a", revision := 1 }
  world := World.initial

/-- The device after VLAN 100 was applied to it. -/
def appliedSite : DeviceSite :=
  let final := runAlone (ApplyEnv.oblige fun _ => false).oracle
    (applySingleEndpointState 120 "req-1" "req-1" newVlan false .reportOnly) World.initial
  { config :=
      { (final.2.shadows["leaf-a"]?.getD { deviceId := "leaf-a", revision := 0 }) with
        deviceId := "leaf-a"
        warnings := [] }
    world := final.2 }

/-- The adapter reads this configuration from the only device. -/
def ReadEnv.reading (config : DeviceShadowState) : ReadEnv where
  inventory := fun deviceId => .ok
    { info := { id := deviceId, adapterEndpoint := "http://adapter", lifecycleState := .ready }
      capability := none }
  client := fun _ => .ok ()
  currentState := fun deviceId =>
    if deviceId = config.deviceId then .ok config else .error (.deviceNotFound deviceId)
  observedPut := fun _ => .ok ()
  shadowGet := fun _ => .ok ()
  setState := fun _ _ => .ok ()

theorem ReadEnv.reads_reading (config : DeviceShadowState) :
    (ReadEnv.reading config).Reads config.deviceId config where
  device := if_pos rfl
  others := by
    intro other state read
    unfold ReadEnv.reading at read
    dsimp only at read
    split at read
    · rename_i same
      rw [← Except.ok.inj read, same]
    · cases read

theorem ordered_emptySite : emptySite.Ordered "leaf-a" where
  settled := fun _ stored => by simp [emptySite, World.initial] at stored
  keyed := fun _ _ stored => by simp [emptySite, World.initial] at stored
  isDevice := rfl
  noWarnings := rfl

theorem performs_apply : Performs "leaf-a" .applyDomainIntent emptySite appliedSite := by
  have reads : (ApplyEnv.oblige fun _ => false).currentState =
      .ok ((stateScopeFromDesired newVlan).restrict emptySite.config) := by
    decide +kernel
  have succeeds : (runAlone (ApplyEnv.oblige fun _ => false).oracle (applySingleEndpointState 120
      "req-1" "req-1" newVlan false .reportOnly) World.initial).1.status.isSuccess = true := by
    decide +kernel
  refine .applyDomainIntent rfl reads rfl succeeds ?_ rfl rfl
  intro shadow stored
  have isConfig : appliedSite.config =
      { (appliedSite.world.shadows["leaf-a"]?.getD { deviceId := "leaf-a", revision := 0 }) with
        deviceId := "leaf-a"
        warnings := [] } := rfl
  rw [stored, Option.getD_some] at isConfig
  rw [isConfig]
  exact ⟨rfl, rfl, rfl, rfl, rfl, rfl⟩

theorem noDriftReported_applied_refreshed :
    ∃ last, Calls "leaf-a" [.applyDomainIntent, .refreshState] emptySite last ∧
      last.world.NoDriftReported "leaf-a" := by
  have refreshes : Performs "leaf-a" .refreshState appliedSite
      { config := appliedSite.config
        world := (refreshState (.reading appliedSite.config) ["leaf-a"] appliedSite.world).2 } :=
    .refreshState (List.mem_singleton.mpr rfl) (ReadEnv.reads_reading appliedSite.config) rfl rfl
  have run := ((Calls.nil emptySite).snoc performs_apply).snoc refreshes
  exact ⟨_, run, noDriftReported_of_last_reads_all "leaf-a" _ _ _ ordered_emptySite
    (by simp [emptySite, World.initial]) run (by decide)⟩

/-- The apply of VLAN 100 has read the device before it created the VLAN, so the worker reports the
VLAN as missing. -/
theorem drift_reported_after_apply :
    Calls "leaf-a" [.applyDomainIntent] emptySite appliedSite ∧
      ¬appliedSite.world.NoDriftReported "leaf-a" := by
  refine ⟨(Calls.nil emptySite).snoc performs_apply, fun silent => ?_⟩
  have reported : appliedSite.world.audit.driftedDevices = ["leaf-a"] := by
    decide +kernel
  have isReported : "leaf-a" ∈ appliedSite.world.audit.reports.map DriftReport.deviceId := by
    rw [show appliedSite.world.audit.reports.map DriftReport.deviceId = ["leaf-a"] from reported]
    exact List.mem_singleton.mpr rfl
  rcases List.mem_map.mp isReported with ⟨report, isReport, isDevice⟩
  exact silent report isReport isDevice

end AriaUnderlay
