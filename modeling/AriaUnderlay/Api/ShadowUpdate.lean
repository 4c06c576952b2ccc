import AriaUnderlay.Api.ApplyAgreement
import AriaUnderlay.Api.Discipline
import AriaUnderlay.Engine.Rebase

/-!
# The shadow after a successful apply

An apply computes its change from the state that it observes on the device and replays it on the
shadow that it finds in the store.  An apply that has nothing to change does not touch the store.
This module says for which stored and observed states the shadow is what was asked for in the end.
-/

namespace AriaUnderlay

open Collections Effect

/-! ## Calls that leave the shadows alone -/

/-- The calls that store a shadow. -/
def CoreOp.storesShadow : CoreOp → Bool
  | .shadowPut _ _ => true
  | _ => false

/-- No shadow is stored. -/
def sparingShadows : Discipline where
  may := fun op => op.storesShadow = false
  honest := fun _ _ => True
  keeps := fun _ => True
  free := by
    intro op isFree
    cases op <;> first | rfl | cases isFree
  puts := fun _ _ _ => rfl
  subject := fun _ _ => trivial

section Served

variable {α : Type} {env : ApplyEnv} {world : World} {desired : DeviceDesiredState}

theorem shadows_after {thread : Thread} {op : CoreOp} (spares : op.storesShadow = false)
    (answer : op.Answer) :
    (world.after thread op answer).shadows = world.shadows := by
  cases op with
  | shadowPut txId state => cases spares
  | _ => first | rfl | (cases answer <;> rfl)

/-- No shadow has changed. -/
def World.SameShadows (before after : World) : Prop :=
  after.shadows = before.shadows

theorem World.SameShadows.refl (world : World) : world.SameShadows world :=
  rfl

variable {before middle after : World}

theorem World.SameShadows.trans (first : before.SameShadows middle)
    (second : middle.SameShadows after) :
    before.SameShadows after :=
  Eq.trans second first

theorem Discipline.Keeps.served {oracle : Oracle} {program : Core α} {post : α → Prop}
    (keeps : sparingShadows.Keeps program post) :
    Served oracle program (fun value later => post value ∧ world.SameShadows later) world := by
  refine Confined.ensures World.SameShadows.refl World.SameShadows.trans (fun _ _ => trivial) ?_ ?_
    keeps trivial
  · rintro before op answer _ spares - ⟨position, -, rfl⟩
    exact ⟨trivial, shadows_after spares _⟩
  · rintro before _ rfl
    exact .refl before

/-! ## The end of a transaction -/

/-- If the apply was a success, the change was replayed on the stored shadow. -/
def Updates (desired : DeviceDesiredState) (changeSet : ChangeSet) (before : World)
    (result : DeviceApplyResult) (after : World) : Prop :=
  result.status.isSuccess = true →
    after.shadows = storeState before.shadows
      (changeSet.applyToShadow before.shadows[desired.deviceId]? desired 0)

section Updates

variable {changeSet : ChangeSet} {plan : DryRunPlan} {context : TxContext}
variable {record : TxJournalRecord} {timeoutSecs : ℕ} {requestId traceId : String}
variable {allowDegradedAtomicity : Bool} {driftPolicy : DriftPolicy}

variable {result : DeviceApplyResult}

theorem Updates.of_sameShadows (same : before.SameShadows middle)
    (updates : Updates desired changeSet middle result after) :
    Updates desired changeSet before result after := by
  unfold World.SameShadows at same
  unfold Updates at updates ⊢
  rwa [same] at updates

theorem Updates.of_failure (failed : result.status.isSuccess = false) :
    Updates desired changeSet before result after := by
  intro succeeds
  rw [failed] at succeeds
  cases succeeds

/-- A part of the transaction that leaves the shadows alone. -/
theorem updates_after {first : Core α} {next : α → Core DeviceApplyResult} {post : α → Prop}
    (keeps : sparingShadows.Keeps first post)
    (rest : ∀ value later, post value → Served env.oracle (next value)
      (Updates desired changeSet later) later) :
    Served env.oracle (first >>= next) (Updates desired changeSet world) world := by
  refine keeps.served.bind fun value later ⟨holds, same⟩ => ?_
  exact (rest value later holds).mono fun _ _ updates => updates.of_sameShadows same

theorem updates_of_failing {program : Core DeviceApplyResult}
    (keeps : sparingShadows.Keeps program fun result => result.status.isSuccess = false) :
    Served env.oracle program (Updates desired changeSet world) world :=
  keeps.served.mono fun _ _ ⟨failed, _⟩ => .of_failure failed

section

variable (planned : plan.changeSetFor desired.deviceId = some changeSet)

include planned

theorem updates_updateShadowAfterCommit {strategy : TransactionStrategy}
    {report : DeviceVerifyReport} :
    Served env.oracle (updateShadowAfterCommit desired plan context record strategy report)
      (Updates desired changeSet world) world := by
  simp only [updateShadowAfterCommit, planned, ensures_bind, served_shadowGet]
  cases env.shadowGet with
  | error error => exact updates_of_failing (Discipline.keeps_finishWithShadowFailure trivial)
  | ok _ =>
      simp only [Except.map, ensures_bind, served_shadowPut]
      cases env.shadowPut with
      | error error => exact updates_of_failing (Discipline.keeps_finishWithShadowFailure trivial)
      | ok _ => exact fun _ => rfl

theorem updates_finishSuccessfulApply {strategy : TransactionStrategy}
    {report : DeviceVerifyReport} :
    Served env.oracle (finishSuccessfulApply desired plan context record strategy report)
      (Updates desired changeSet world) world := by
  refine updates_after Discipline.keeps_nowUnixSecs fun now _ _ => ?_
  refine updates_after (Discipline.keeps_transitionPhase trivial .committed) ?_
  intro answer _ _
  cases answer with
  | error error => exact .of_failure rfl
  | ok record =>
      refine updates_after (Discipline.keeps_journalPut .committed trivial) ?_
      intro stored _ _
      cases stored with
      | error error => exact .of_failure rfl
      | ok _ => exact updates_updateShadowAfterCommit planned

theorem updates_applyPrepared :
    Served env.oracle
      (applyPrepared timeoutSecs desired plan context allowDegradedAtomicity record)
      (Updates desired changeSet world) world := by
  refine updates_after
    (Discipline.guides_applyChangedEndpointStates _ _ _ _ record trivial) ?_
  rintro ⟨result, record⟩ _ _
  cases result with
  | error error => exact updates_of_failing (Discipline.keeps_finishFailedApply trivial)
  | ok outcome => exact updates_finishSuccessfulApply planned

theorem updates_applyTransaction :
    Served env.oracle
      (applyTransaction timeoutSecs requestId traceId desired plan allowDegradedAtomicity)
      (Updates desired changeSet world) world := by
  have draws : sparingShadows.Keeps newTxId fun _ => True :=
    Discipline.keeps_free rfl fun _ _ => trivial
  refine updates_after draws fun txId _ _ => ?_
  refine updates_after Discipline.keeps_nowUnixSecs fun startedAt _ _ => ?_
  refine updates_after Discipline.keeps_nowUnixSecs fun desiredAt _ _ => ?_
  refine updates_after Discipline.keeps_nowUnixSecs fun plannedAt _ _ => ?_
  refine updates_after (Discipline.keeps_journalPut .started trivial) fun started _ _ => ?_
  cases started with
  | error error => exact .of_failure Discipline.isSuccess_deviceErrorResult
  | ok _ =>
      refine updates_after (Discipline.keeps_transitionPhase trivial .preparing) ?_
      intro answer _ _
      cases answer with
      | error error => exact .of_failure Discipline.isSuccess_deviceErrorResult
      | ok record =>
          refine updates_after (Discipline.keeps_journalPut .preparing trivial) ?_
          intro stored _ _
          cases stored with
          | error error => exact .of_failure Discipline.isSuccess_deviceErrorResult
          | ok _ => exact updates_applyPrepared planned

end

/-- After a success the change from the observed state was replayed, if there was one. -/
def ApplyEnv.Leaves (env : ApplyEnv) (desired : DeviceDesiredState) (before : World)
    (result : DeviceApplyResult) (after : World) : Prop :=
  result.status.isSuccess = true → ∃ observed, env.currentState = .ok observed ∧
    after.shadows =
      if (computeDiff desired observed).isEmpty then before.shadows
      else storeState before.shadows
        ((computeDiff desired observed).applyToShadow before.shadows[desired.deviceId]? desired 0)

theorem ApplyEnv.Leaves.of_sameShadows {last : World} (same : before.SameShadows middle)
    (leaves : env.Leaves desired middle result after) (sameLast : after.SameShadows last) :
    env.Leaves desired before result last := by
  intro succeeds
  obtain ⟨observed, isObserved, left⟩ := leaves succeeds
  refine ⟨observed, isObserved, ?_⟩
  rw [sameLast, left, same]

theorem ApplyEnv.Leaves.of_failure (failed : result.status.isSuccess = false) :
    env.Leaves desired before result after := by
  intro succeeds
  rw [failed] at succeeds
  cases succeeds

theorem currentState_of_dryRun (planned : env.dryRun desired = .ok plan) :
    ∃ observed, env.currentState = .ok observed ∧
      env.change desired = computeDiff desired observed := by
  simp only [ApplyEnv.dryRun, bind_eq_ok] at planned
  obtain ⟨_, -, _, -, observed, read, _, -, -⟩ := planned
  exact ⟨observed, read, by simp [ApplyEnv.change, read]⟩

theorem leaves_applyUnderLock :
    Served env.oracle
      (applyUnderLock timeoutSecs requestId traceId desired allowDegradedAtomicity driftPolicy)
      (env.Leaves desired world) world := by
  refine (Discipline.keeps_ensureNoInDoubtForDevices _).served.bind ?_
  rintro answer second ⟨-, sameSecond⟩
  cases answer with
  | error error => exact .of_failure Discipline.isSuccess_deviceErrorResult
  | ok _ =>
      refine (Discipline.keeps_ensureDriftPolicyAllowsApply _ _).served.bind ?_
      rintro answer third ⟨-, sameThird⟩
      cases answer with
      | error error => exact .of_failure Discipline.isSuccess_deviceErrorResult
      | ok _ =>
          have plans : Served env.oracle (dryRunDesiredStates [desired]).run
              (fun answer _ => answer = env.dryRun desired) third :=
            served_dryRunDesiredStates fun _ _ => rfl
          refine (plans.and (Discipline.keeps_dryRunDesiredStates _).served).bind ?_
          rintro answer fourth ⟨isPlan, -, sameFourth⟩
          have same := (sameSecond.trans sameThird).trans sameFourth
          cases answer with
          | error error => exact .of_failure Discipline.isSuccess_deviceErrorResult
          | ok plan =>
              obtain ⟨observed, isObserved, change⟩ := currentState_of_dryRun isPlan.symm
              have changeSets := changeSets_of_dryRun isPlan.symm
              rw [change] at changeSets
              have noop : plan.isNoop = (computeDiff desired observed).isEmpty := by
                simp [DryRunPlan.isNoop, changeSets]
              cases empty : (computeDiff desired observed).isEmpty with
              | true =>
                  simp only [noop, empty, if_true]
                  refine fun _ => ⟨observed, isObserved, ?_⟩
                  rw [empty, if_pos rfl]
                  exact same
              | false =>
                  have isPlanned := changeSetFor_of_dryRun isPlan.symm
                  rw [change] at isPlanned
                  simp only [noop, empty, Bool.false_eq_true, if_false]
                  refine (updates_applyTransaction isPlanned).mono fun result last updates => ?_
                  intro succeeds
                  refine ⟨observed, isObserved, ?_⟩
                  rw [empty, if_neg Bool.false_ne_true, updates succeeds, same]

theorem leaves_applySingleEndpointState :
    Served env.oracle
      (applySingleEndpointState timeoutSecs requestId traceId desired allowDegradedAtomicity
        driftPolicy)
      (env.Leaves desired world) world := by
  have locks : sparingShadows.Keeps (acquireWithPolicy [desired.deviceId]) fun _ => True :=
    confined_perform.mpr ⟨rfl, fun _ _ => trivial⟩
  have unlocks : sparingShadows.Keeps (release [desired.deviceId]) fun _ => True :=
    confined_perform.mpr ⟨rfl, fun _ _ => trivial⟩
  refine locks.served.bind ?_
  rintro answer locked ⟨-, sameLocked⟩
  cases answer with
  | error error => exact .of_failure Discipline.isSuccess_deviceErrorResult
  | ok _ =>
      refine leaves_applyUnderLock.bind fun result after leaves => ?_
      refine unlocks.served.bind ?_
      rintro _ last ⟨-, sameLast⟩
      exact leaves.of_sameShadows sameLocked sameLast

end Updates

end Served

/-! ## The shadow that is left -/

/-- A shadow of the device is stored, and nothing is left to do for it. -/
def ShadowShows (desired : DeviceDesiredState) (world : World) : Prop :=
  ∃ shadow, world.shadows[desired.deviceId]? = some shadow ∧ (computeDiff desired shadow).ops = []

/-- The shadow that an apply starts from. -/
def World.shadowOf (world : World) (desired : DeviceDesiredState) : DeviceShadowState :=
  world.shadows[desired.deviceId]?.getD { deviceId := desired.deviceId, revision := 0 }

theorem ops_computeDiff_congr {desired : DeviceDesiredState} {left right : DeviceShadowState}
    (vlans : left.vlans = right.vlans) (interfaces : left.interfaces = right.interfaces)
    (acls : left.acls = right.acls) (aclBindings : left.aclBindings = right.aclBindings)
    (bgpProcesses : left.bgpProcesses = right.bgpProcesses)
    (bgpNeighbors : left.bgpNeighbors = right.bgpNeighbors) :
    (computeDiff desired left).ops = (computeDiff desired right).ops := by
  simp only [computeDiff, normalizedDiffOps, normalizeShadowState, vlans, interfaces, acls,
    aclBindings, bgpProcesses, bgpNeighbors]

theorem ChangeSet.applyToShadow_deviceId (changeSet : ChangeSet) (base : Option DeviceShadowState)
    (desired : DeviceDesiredState) (revision : UInt64) :
    (changeSet.applyToShadow base desired revision).deviceId = desired.deviceId :=
  foldl_applyOp_deviceId _ _

section Shows

variable {desired : DeviceDesiredState} {observed : DeviceShadowState} {before after : World}

theorem shadowShows_of_empty_iff (separate : (normalizeDesiredState desired).Separate)
    (empty : (computeDiff desired observed).isEmpty = true)
    (same : after.shadows = before.shadows) :
    ShadowShows desired after ↔
      before.shadows[desired.deviceId]? ≠ none ∧
        Fits (normalizeDesiredState desired) (normalizeShadowState observed)
          (before.shadowOf desired) := by
  have nothing : (computeDiff desired observed).ops = [] := List.isEmpty_iff.mp empty
  unfold ShadowShows World.shadowOf
  rw [same]
  cases stored : before.shadows[desired.deviceId]? with
  | none => simp
  | some shadow =>
      have fits := computeDiff_applyToShadow_eq_nil_iff desired observed (some shadow) 0 separate
      rw [ChangeSet.applyToShadow, nothing] at fits
      rw [← fits]
      simp only [Option.some.injEq, exists_eq_left', ne_eq, reduceCtorEq, not_false_eq_true,
        true_and, List.foldl_nil, Option.getD_some]
      exact iff_of_eq (congrArg (· = []) (ops_computeDiff_congr rfl rfl rfl rfl rfl rfl))

theorem shadowShows_of_stored_iff (separate : (normalizeDesiredState desired).Separate)
    (stores : after.shadows = storeState before.shadows
      ((computeDiff desired observed).applyToShadow before.shadows[desired.deviceId]? desired 0)) :
    ShadowShows desired after ↔
      Fits (normalizeDesiredState desired) (normalizeShadowState observed)
        (before.shadowOf desired) := by
  have fits := computeDiff_applyToShadow_eq_nil_iff desired observed
    before.shadows[desired.deviceId]? 0 separate
  rw [World.shadowOf, ← fits, ShadowShows, stores, storeState, ChangeSet.applyToShadow_deviceId]
  simp only [Std.ExtTreeMap.getElem?_insert_self, Option.some.injEq, exists_eq_left']
  generalize (computeDiff desired observed).applyToShadow _ desired 0 = replayed
  exact iff_of_eq (congrArg (· = []) (ops_computeDiff_congr rfl rfl rfl rfl rfl rfl))

end Shows

/-- After a successful apply the stored shadow shows what was asked for exactly if a shadow was
stored or there was something to change, and the stored shadow fits: in every object in which the
observed state already was as desired, so was the shadow. -/
theorem shadowShows_after_success_iff (env : ApplyEnv) (world : World) (timeoutSecs : ℕ)
    (requestId traceId : String) (desired : DeviceDesiredState) (allowDegradedAtomicity : Bool)
    (driftPolicy : DriftPolicy) (separate : (normalizeDesiredState desired).Separate)
    (succeeds : (runAlone env.oracle (applySingleEndpointState timeoutSecs requestId traceId desired
      allowDegradedAtomicity driftPolicy) world).1.status.isSuccess = true) :
    ∃ observed, env.currentState = .ok observed ∧
      (ShadowShows desired (runAlone env.oracle (applySingleEndpointState timeoutSecs requestId
          traceId desired allowDegradedAtomicity driftPolicy) world).2 ↔
        ((computeDiff desired observed).ops = [] → world.shadows[desired.deviceId]? ≠ none) ∧
          Fits (normalizeDesiredState desired) (normalizeShadowState observed)
            (world.shadowOf desired)) := by
  obtain ⟨observed, isObserved, left⟩ := leaves_applySingleEndpointState.runAlone succeeds
  refine ⟨observed, isObserved, ?_⟩
  cases empty : (computeDiff desired observed).isEmpty with
  | true =>
      rw [empty, if_pos rfl] at left
      have nothing : (computeDiff desired observed).ops = [] := List.isEmpty_iff.mp empty
      rw [shadowShows_of_empty_iff separate empty left]
      simp [nothing]
  | false =>
      rw [empty, if_neg Bool.false_ne_true] at left
      have something : (computeDiff desired observed).ops ≠ [] := by
        intro nothing
        rw [ChangeSet.isEmpty, nothing] at empty
        cases empty
      rw [shadowShows_of_stored_iff separate left]
      simp [something]

/-- The desired state asks for VLANs 10 and 20. -/
def twoVlans : DeviceDesiredState where
  deviceId := "leaf-a"
  vlans := .ofList [((10 : UInt16), (⟨10, none, none⟩ : VlanConfig)), (20, ⟨20, none, none⟩)]

/-- A device that has VLAN 10 already. -/
def ApplyEnv.halfDone : ApplyEnv :=
  { ApplyEnv.oblige fun _ => false with
    currentState := .ok
      { deviceId := "leaf-a"
        revision := 1
        vlans := .ofList [((10 : UInt16), (⟨10, none, none⟩ : VlanConfig))] } }

theorem shadowShows_after_success_newVlan :
    ShadowShows newVlan (runAlone (ApplyEnv.oblige fun _ => false).oracle
      (applySingleEndpointState 120 "req-1" "trace-1" newVlan false .reportOnly)
        World.initial).2 := by
  have separate : (normalizeDesiredState newVlan).Separate :=
    DeviceDesiredState.Consistent.separate (by decide +kernel)
  obtain ⟨observed, isObserved, shows_iff⟩ := shadowShows_after_success_iff
    (ApplyEnv.oblige fun _ => false) World.initial 120 "req-1" "trace-1" newVlan false .reportOnly
    separate (by decide +kernel)
  obtain rfl := Except.ok.inj isObserved
  exact shows_iff.mpr ⟨fun nothing => absurd nothing (by decide +kernel), by decide +kernel⟩

/-- VLAN 10 is on the device already, so the apply of VLANs 10 and 20 adds VLAN 20 only, and so does
the shadow that is left after its success.  An apply of VLAN 10 alone succeeds without a shadow. -/
theorem shadow_misses_observed_vlan :
    let final := runAlone ApplyEnv.halfDone.oracle
      (applySingleEndpointState 120 "req-1" "trace-1" twoVlans false .reportOnly) World.initial
    final.1.status = .success ∧ ¬ ShadowShows twoVlans final.2 := by
  intro final
  refine ⟨by decide +kernel, ?_⟩
  rintro ⟨shadow, stored, nothing⟩
  have left : final.2.shadows["leaf-a"]?.map (fun shadow => (computeDiff twoVlans shadow).ops) ≠
      some [] := by
    decide +kernel
  exact left (by rw [show final.2.shadows["leaf-a"]? = some shadow from stored, Option.map_some,
    nothing])

end AriaUnderlay
