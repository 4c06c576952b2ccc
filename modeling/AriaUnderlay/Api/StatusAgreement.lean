import AriaUnderlay.Api.ApplyRecords

/-!
# Status, plan and verify report

The status of an apply, its compensation plan and its verify report are computed from the results of
the devices one by one and independently of each other.  They agree: what the status says about the
apply as a whole is what the lists of the plan say about its devices.
-/

namespace AriaUnderlay

open Collections Effect

section Story

variable {results : List DeviceApplyResult}

theorem devicesWith_eq_nil {wanted : ApplyStatus → Bool} :
    devicesWith wanted results = [] ↔ ∀ result ∈ results, wanted result.status = false := by
  simp [devicesWith, List.filter_eq_nil_iff]

variable {status : ApplyStatus} {record : DomainApplyRecord}

theorem ApplyStatus.isRetryable_of_others (whole : status ≠ .partialSuccess)
    (certain : status ≠ .inDoubt) (unsuccessful : status.isSuccess = false) :
    status.isRetryable = true := by
  cases status <;> simp_all [ApplyStatus.isSuccess, ApplyStatus.isRetryable]

/-- How the status of an apply comes about. -/
theorem aggregateApplyStatus_cases (nonempty : results ≠ [])
    (whole : ∀ result ∈ results, result.status ≠ .partialSuccess) :
    (aggregateApplyStatus results = .inDoubt ∧ ∃ result ∈ results, result.status = .inDoubt) ∨
    ((aggregateApplyStatus results).isSuccess = true ∧
      ∀ result ∈ results, result.status.isSuccess = true) ∨
    (aggregateApplyStatus results = .rolledBack ∧
      ∀ result ∈ results, result.status = .rolledBack) ∨
    (aggregateApplyStatus results = .partialSuccess ∧
      (∀ result ∈ results, result.status ≠ .inDoubt) ∧
      (∃ result ∈ results, result.status.isSuccess = true) ∧
        ∃ result ∈ results, result.status.isRetryable = true) ∨
    (aggregateApplyStatus results = .failed ∧
      (∀ result ∈ results, result.status.isRetryable = true) ∧
        ∃ result ∈ results, result.status ≠ .rolledBack) := by
  rcases results with _ | ⟨first, rest⟩
  · exact absurd rfl nonempty
  · rw [aggregateApplyStatus]
    split_ifs with allNoOp someInDoubt allSuccess someWarning allRolledBack single someSuccess
    · refine .inr (.inl ⟨rfl, fun result member => ?_⟩)
      have isNoOp := List.all_eq_true.mp allNoOp result member
      rw [decide_eq_true_eq] at isNoOp
      rw [isNoOp]
      rfl
    · refine .inl ⟨rfl, ?_⟩
      simpa using someInDoubt
    · exact .inr (.inl ⟨rfl, List.all_eq_true.mp allSuccess⟩)
    · exact .inr (.inl ⟨rfl, List.all_eq_true.mp allSuccess⟩)
    · refine .inr (.inr (.inl ⟨rfl, ?_⟩))
      simpa using allRolledBack
    all_goals
      have certain : ∀ result ∈ first :: rest, result.status ≠ .inDoubt := by
        intro result member isInDoubt
        exact someInDoubt (List.any_eq_true.mpr ⟨result, member, by simp [isInDoubt]⟩)
      have someOther : ∃ result ∈ first :: rest, result.status ≠ .rolledBack := by
        rw [Bool.not_eq_true, List.all_eq_false] at allRolledBack
        simpa only [decide_eq_true_eq] using allRolledBack
    · -- a single result that is neither certain to be good nor rolled back
      subst single
      have unsuccessful : first.status.isSuccess = false := by simpa using allSuccess
      have isRetryable := ApplyStatus.isRetryable_of_others (whole first (by simp))
        (certain first (by simp)) unsuccessful
      have notRolledBack : first.status ≠ .rolledBack := by simpa using someOther
      have isFailed : first.status = .failed := by
        cases isStatus : first.status <;> simp_all [ApplyStatus.isRetryable]
      exact .inr (.inr (.inr (.inr ⟨isFailed, by simpa using isRetryable, someOther⟩)))
    · have someUnsuccessful : ∃ result ∈ first :: rest, result.status.isSuccess = false := by
        rw [Bool.not_eq_true, List.all_eq_false] at allSuccess
        simpa only [Bool.not_eq_true] using allSuccess
      rcases someUnsuccessful with ⟨result, member, unsuccessful⟩
      refine .inr (.inr (.inr (.inl ⟨rfl, certain, List.any_eq_true.mp someSuccess, result, member,
        ?_⟩)))
      exact ApplyStatus.isRetryable_of_others (whole result member) (certain result member)
        unsuccessful
    · refine .inr (.inr (.inr (.inr ⟨rfl, fun result member => ?_, someOther⟩)))
      apply ApplyStatus.isRetryable_of_others (whole result member) (certain result member)
      by_contra isSuccess
      exact someSuccess (List.any_eq_true.mpr ⟨result, member, by simpa using isSuccess⟩)

/-- What the status of an apply says about the lists of its plan. -/
structure DomainApplyCompensationPlan.Matches (plan : DomainApplyCompensationPlan)
    (status : ApplyStatus) (results : List DeviceApplyResult) : Prop where
  inDoubt : status = .inDoubt ↔ plan.requiresRecovery ≠ []
  success : status.isSuccess = true ↔ plan.retryableFailed = [] ∧ plan.requiresRecovery = []
  partialSuccess : status = .partialSuccess ↔
    plan.requiresRecovery = [] ∧ plan.retryableFailed ≠ [] ∧ plan.completed ≠ []
  failed : status = .failed ∨ status = .rolledBack ↔
    plan.retryableFailed ≠ [] ∧ plan.requiresRecovery = [] ∧ plan.completed = []
  rolledBack : status = .rolledBack ↔
    (plan.retryableFailed ≠ [] ∧ plan.requiresRecovery = [] ∧ plan.completed = []) ∧
      ∀ result ∈ results, result.status = .rolledBack

theorem devicesWith_ne_nil {wanted : ApplyStatus → Bool} :
    devicesWith wanted results ≠ [] ↔ ∃ result ∈ results, wanted result.status = true := by
  rw [ne_eq, devicesWith_eq_nil]
  simp

/-- No status stands for two of the lists. -/
theorem ApplyStatus.isSuccess_of_isRetryable (isRetryable : status.isRetryable = true) :
    status.isSuccess = false ∧ status ≠ .inDoubt := by
  cases status <;> simp_all [ApplyStatus.isSuccess, ApplyStatus.isRetryable]

theorem ApplyStatus.isRetryable_of_isSuccess (isSuccess : status.isSuccess = true) :
    status.isRetryable = false ∧ status ≠ .inDoubt ∧ status ≠ .partialSuccess := by
  cases status <;> simp_all [ApplyStatus.isSuccess, ApplyStatus.isRetryable]

theorem requiresRecovery_eq_nil :
    (DomainApplyCompensationPlan.fromRecord record).requiresRecovery = [] ↔
      ∀ result ∈ record.response.deviceResults, result.status ≠ .inDoubt := by
  simp [DomainApplyCompensationPlan.fromRecord, devicesWith_eq_nil]

theorem fromRecord_matches (nonempty : record.response.deviceResults ≠ [])
    (whole : ∀ result ∈ record.response.deviceResults, result.status ≠ .partialSuccess) :
    (DomainApplyCompensationPlan.fromRecord record).Matches
      (aggregateApplyStatus record.response.deviceResults) record.response.deviceResults := by
  rcases List.exists_mem_of_ne_nil _ nonempty with ⟨witness, isWitness⟩
  rcases aggregateApplyStatus_cases nonempty whole with
    ⟨isStatus, result, member, isInDoubt⟩ | ⟨isSuccess, allSuccess⟩ | ⟨isStatus, allRolledBack⟩ |
    ⟨isStatus, certain, someSuccess, someRetryable⟩ | ⟨isStatus, allRetryable, someOther⟩
  · have recovery : (DomainApplyCompensationPlan.fromRecord record).requiresRecovery ≠ [] :=
      fun none => requiresRecovery_eq_nil.mp none result member isInDoubt
    constructor <;> simp [isStatus, recovery, ApplyStatus.isSuccess]
  · have noRetry : (DomainApplyCompensationPlan.fromRecord record).retryableFailed = [] :=
      devicesWith_eq_nil.mpr fun result member =>
        (ApplyStatus.isRetryable_of_isSuccess (allSuccess result member)).1
    have noRecovery : (DomainApplyCompensationPlan.fromRecord record).requiresRecovery = [] :=
      requiresRecovery_eq_nil.mpr fun result member =>
        (ApplyStatus.isRetryable_of_isSuccess (allSuccess result member)).2.1
    rcases ApplyStatus.isRetryable_of_isSuccess isSuccess with ⟨notFailed, notInDoubt, notPartial⟩
    constructor
    · simp [notInDoubt, noRecovery]
    · simp [isSuccess, noRetry, noRecovery]
    · simp [notPartial, noRetry]
    · simp only [noRetry, ne_eq, not_true_eq_false, false_and, iff_false]
      rintro (isFailed | isRolledBack)
      · simp [isFailed, ApplyStatus.isRetryable] at notFailed
      · simp [isRolledBack, ApplyStatus.isRetryable] at notFailed
    · simp only [noRetry, ne_eq, not_true_eq_false, false_and, iff_false]
      intro isRolledBack
      simp [isRolledBack, ApplyStatus.isRetryable] at notFailed
  · have retry : (DomainApplyCompensationPlan.fromRecord record).retryableFailed ≠ [] :=
      devicesWith_ne_nil.mpr ⟨witness, isWitness, by rw [allRolledBack witness isWitness]; rfl⟩
    have noRecovery : (DomainApplyCompensationPlan.fromRecord record).requiresRecovery = [] :=
      requiresRecovery_eq_nil.mpr fun result member => by simp [allRolledBack result member]
    have noCompleted : (DomainApplyCompensationPlan.fromRecord record).completed = [] :=
      devicesWith_eq_nil.mpr fun result member => by rw [allRolledBack result member]; rfl
    constructor <;> simp [isStatus, retry, noRecovery, noCompleted, ApplyStatus.isSuccess]
    exact allRolledBack
  · have retry : (DomainApplyCompensationPlan.fromRecord record).retryableFailed ≠ [] :=
      devicesWith_ne_nil.mpr someRetryable
    have noRecovery : (DomainApplyCompensationPlan.fromRecord record).requiresRecovery = [] :=
      requiresRecovery_eq_nil.mpr certain
    have completed : (DomainApplyCompensationPlan.fromRecord record).completed ≠ [] :=
      devicesWith_ne_nil.mpr someSuccess
    constructor <;> simp [isStatus, retry, noRecovery, completed, ApplyStatus.isSuccess]
  · have retry : (DomainApplyCompensationPlan.fromRecord record).retryableFailed ≠ [] :=
      devicesWith_ne_nil.mpr ⟨witness, isWitness, allRetryable witness isWitness⟩
    have noRecovery : (DomainApplyCompensationPlan.fromRecord record).requiresRecovery = [] :=
      requiresRecovery_eq_nil.mpr fun result member =>
        (ApplyStatus.isSuccess_of_isRetryable (allRetryable result member)).2
    have noCompleted : (DomainApplyCompensationPlan.fromRecord record).completed = [] :=
      devicesWith_eq_nil.mpr fun result member =>
        (ApplyStatus.isSuccess_of_isRetryable (allRetryable result member)).1
    constructor <;> simp [isStatus, retry, noRecovery, noCompleted, ApplyStatus.isSuccess]
    simpa using someOther

/-- The lists of the plan divide the devices among them, each in the order of the results. -/
structure DomainApplyCompensationPlan.Divides (plan : DomainApplyCompensationPlan)
    (deviceIds : List DeviceId) : Prop where
  perm : (plan.retryableFailed ++ plan.requiresRecovery ++ plan.completed).Perm deviceIds
  retryableFailed : plan.retryableFailed.Sublist deviceIds
  requiresRecovery : plan.requiresRecovery.Sublist deviceIds
  completed : plan.completed.Sublist deviceIds

theorem devicesWith_sublist (wanted : ApplyStatus → Bool) :
    (devicesWith wanted results).Sublist (results.map DeviceApplyResult.deviceId) :=
  List.filter_sublist.map _

theorem devicesWith_perm (whole : ∀ result ∈ results, result.status ≠ .partialSuccess) :
    (devicesWith ApplyStatus.isRetryable results ++ devicesWith (· = .inDoubt) results ++
      devicesWith ApplyStatus.isSuccess results).Perm (results.map DeviceApplyResult.deviceId) := by
  induction results with
  | nil => exact .nil
  | cons result results ih =>
      rw [List.forall_mem_cons] at whole
      have rest := ih whole.2
      have consWith : ∀ wanted : ApplyStatus → Bool, devicesWith wanted (result :: results) =
          if wanted result.status then result.deviceId :: devicesWith wanted results
          else devicesWith wanted results := by
        intro wanted
        unfold devicesWith
        rw [List.filter_cons]
        split_ifs <;> rfl
      rw [consWith, consWith, consWith, List.map_cons]
      cases isStatus : result.status
      case partialSuccess => exact absurd isStatus whole.1
      case failed => exact rest.cons result.deviceId
      case rolledBack => exact rest.cons result.deviceId
      case inDoubt =>
        simp only [ApplyStatus.isRetryable, ApplyStatus.isSuccess]
        simp only [if_false, if_true, decide_true, Bool.false_eq_true, List.append_assoc,
          List.cons_append] at rest ⊢
        exact List.perm_middle.trans (rest.cons result.deviceId)
      all_goals
        simp only [ApplyStatus.isRetryable, ApplyStatus.isSuccess]
        simp only [if_false, if_true, Bool.false_eq_true, reduceCtorEq, decide_false]
        exact List.perm_middle.trans (rest.cons result.deviceId)

/-- The list of a report for one outcome of the verify step. -/
def ApplyVerifyReport.devices (report : ApplyVerifyReport) : DeviceVerifyStatus → List DeviceId
  | .passed => report.passed
  | .failed => report.failed
  | .skipped => report.skipped
  | .inDoubt => report.inDoubt

theorem mem_devices_fromDeviceResults {status : DeviceVerifyStatus} {deviceId : DeviceId} :
    deviceId ∈ (ApplyVerifyReport.fromDeviceResults results).devices status ↔
      ∃ result ∈ results, ∃ report, result.verifyReport = some report ∧ report.status = status ∧
        report.deviceId = deviceId := by
  have isVerified : (ApplyVerifyReport.fromDeviceResults results).devices status =
      verifiedAs status (results.filterMap DeviceApplyResult.verifyReport) := by
    cases status <;> rfl
  simp only [isVerified, verifiedAs, List.mem_map, List.mem_filter, List.mem_filterMap,
    decide_eq_true_eq]
  constructor
  · rintro ⟨report, ⟨⟨result, member, isReport⟩, isStatus⟩, isDevice⟩
    exact ⟨result, member, report, isReport, isStatus, isDevice⟩
  · rintro ⟨result, member, report, isReport, isStatus, isDevice⟩
    exact ⟨report, ⟨⟨result, member, isReport⟩, isStatus⟩, isDevice⟩

/-- A device is in the list of its own report's status and in no other. -/
theorem mem_devices_iff_status (distinct : (results.map DeviceApplyResult.deviceId).Nodup)
    (own : ∀ result ∈ results, ∀ report, result.verifyReport = some report →
      report.deviceId = result.deviceId)
    {result : DeviceApplyResult} (member : result ∈ results) {report : DeviceVerifyReport}
    (isReport : result.verifyReport = some report) (status : DeviceVerifyStatus) :
    result.deviceId ∈ (ApplyVerifyReport.fromDeviceResults results).devices status ↔
      status = report.status := by
  constructor
  · intro isListed
    rcases mem_devices_fromDeviceResults.mp isListed with
      ⟨other, otherMember, otherReport, isOther, rfl, sameDevice⟩
    rw [own other otherMember otherReport isOther] at sameDevice
    obtain rfl : other = result := List.inj_on_of_nodup_map distinct otherMember member sameDevice
    rw [isReport] at isOther
    rw [Option.some.inj isOther]
  · rintro rfl
    exact mem_devices_fromDeviceResults.mpr
      ⟨result, member, report, isReport, rfl, own result member report isReport⟩

theorem selectRetryableFailedEndpoints_nil_isOk :
    (∃ selected, selectRetryableFailedEndpoints record [] = .ok selected) ↔
      (DomainApplyCompensationPlan.fromRecord record).retryableFailed ≠ [] := by
  constructor
  · rintro ⟨selected, isSelection⟩
    rcases bind_eq_ok.mp isSelection with ⟨chosen, isChosen, isSelection⟩
    rcases bind_eq_ok.mp isSelection with ⟨⟨⟩, nonempty, -⟩
    rw [Except.ok.inj isChosen]
    exact invalidIf_eq_ok.mp nonempty
  · intro nonempty
    exact ⟨_, bind_eq_ok.mpr ⟨_, rfl, bind_eq_ok.mpr ⟨(), invalidIf_eq_ok.mpr nonempty, rfl⟩⟩⟩

end Story

/-- The status of an apply, its compensation plan and its verify report agree on every device. -/
theorem applyRecord_tells_one_story (record : DomainApplyRecord)
    (nonempty : record.response.deviceResults ≠ [])
    (distinct : (record.response.deviceResults.map DeviceApplyResult.deviceId).Nodup)
    (whole : ∀ result ∈ record.response.deviceResults, result.status ≠ .partialSuccess)
    (own : ∀ result ∈ record.response.deviceResults, ∀ report,
      result.verifyReport = some report → report.deviceId = result.deviceId)
    (built : record.response.status = aggregateApplyStatus record.response.deviceResults) :
    (DomainApplyCompensationPlan.fromRecord record).Divides
        (record.response.deviceResults.map DeviceApplyResult.deviceId) ∧
      (DomainApplyCompensationPlan.fromRecord record).Matches record.response.status
        record.response.deviceResults ∧
      ((∃ selected, selectRetryableFailedEndpoints record [] = .ok selected) ↔
        (DomainApplyCompensationPlan.fromRecord record).retryableFailed ≠ []) ∧
      ∀ result ∈ record.response.deviceResults, ∀ report, result.verifyReport = some report →
        ∀ status, result.deviceId ∈
            (ApplyVerifyReport.fromDeviceResults record.response.deviceResults).devices status ↔
          status = report.status := by
  refine ⟨⟨devicesWith_perm whole, devicesWith_sublist _, devicesWith_sublist (· = .inDoubt),
    devicesWith_sublist _⟩, ?_, selectRetryableFailedEndpoints_nil_isOk, ?_⟩
  · rw [built]
    exact fromRecord_matches nonempty whole
  · intro result member report isReport status
    exact mem_devices_iff_status distinct own member isReport status

/-- One device of a pair is as desired, the other one failed to verify. -/
def halfAppliedResults : List DeviceApplyResult :=
  [{ deviceId := "leaf-1", changed := true, status := .success,
     verifyReport := some (.passed "leaf-1" {} []) },
   { deviceId := "leaf-2", changed := true, status := .rolledBack,
     verifyReport := some (.failed "leaf-2" {} "VERIFY_FAILED" "vlan 10 is missing" []) }]

def halfAppliedRecord : DomainApplyRecord :=
  .new
    { requestId := "req-1", traceId := none, idempotencyKey := none, options := {}
      intent := { domainId := "dc-1", topology := .smallFabric, endpoints := [], members := []
                  vlans := [], interfaces := [] } }
    (applyResponse "req-1" "req-1" halfAppliedResults) 0

theorem halfAppliedRecord_tells_one_story :
    halfAppliedRecord.response.status = .partialSuccess ∧
      (DomainApplyCompensationPlan.fromRecord halfAppliedRecord).Matches .partialSuccess
        halfAppliedResults :=
  ⟨by decide, (applyRecord_tells_one_story halfAppliedRecord (by decide) (by decide) (by decide)
    (by simp [halfAppliedRecord, DomainApplyRecord.new, applyResponse, halfAppliedResults,
      DeviceVerifyReport.passed, DeviceVerifyReport.failed]) rfl).2.1⟩

end AriaUnderlay
