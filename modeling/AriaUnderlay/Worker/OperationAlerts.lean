import AriaUnderlay.Collections.Runs
import AriaUnderlay.Model.Config

/-!
# Delivery of operation alerts

Operator events are recorded as summaries.  A summary that requires attention is turned into an
alert by the delivery worker, which skips the alerts whose key is in its checkpoint, hands the
others to the sink and then adds their keys to the checkpoint.

An incident is what a summary is about: its action, result, request, trace, transaction and device.
`alertedOnce_iff` says for which sequences of recorded summaries every incident is alerted exactly
once.  Two things can go wrong.  The checkpoint is read once per run, so an incident that is
recorded twice between two runs is alerted twice.  And the key joins the six parts with a separator
that the parts may contain, so a new incident can have the key of an old one and is then not alerted
at all.
-/

namespace AriaUnderlay

open Collections

/-! ## Events and summaries -/

/-- The kinds of events. -/
inductive UnderlayEventKind where
  | underlayDeviceRegistered
  | underlayDeviceCapabilityDetected
  | underlayDriftDetected
  | underlayDeviceLockTimeout
  | underlayForceUnlockRequested
  | underlayDriftAuditCompleted
  | underlayJournalGcCompleted
  | underlayApplyIdempotencyGcCompleted
  | underlayRecoveryCompleted
  | underlayAuditWriteFailed
  | underlayTransactionStarted
  | underlayTransactionPhaseChanged
  | underlayTransactionCompleted
  | underlayTransactionFailed
  | underlayTransactionInDoubt
  | underlayTransactionForceResolved
  deriving DecidableEq, Repr

/-- An event, without the parts that summaries leave out. -/
structure UnderlayEvent where
  kind : UnderlayEventKind
  requestId : String
  traceId : String
  txId : Option String
  deviceId : Option DeviceId
  result : Option String
  fields : BTreeMap String String

/-- What an operator sees of an event. -/
structure OperationSummary where
  requestId : String
  traceId : String
  action : String
  result : String
  txId : Option String
  deviceId : Option DeviceId
  attentionRequired : Bool
  fields : BTreeMap String String

/-- The name of a kind. -/
def actionName : UnderlayEventKind → String
  | .underlayDeviceRegistered => "device.registered"
  | .underlayDeviceCapabilityDetected => "device.capability_detected"
  | .underlayDriftDetected => "drift.detected"
  | .underlayDriftAuditCompleted => "drift.audit_completed"
  | .underlayDeviceLockTimeout => "device.lock_timeout"
  | .underlayForceUnlockRequested => "device.force_unlock_requested"
  | .underlayJournalGcCompleted => "journal.gc_completed"
  | .underlayApplyIdempotencyGcCompleted => "apply_idempotency.gc_completed"
  | .underlayRecoveryCompleted => "recovery.completed"
  | .underlayAuditWriteFailed => "audit.write_failed"
  | .underlayTransactionStarted => "transaction.started"
  | .underlayTransactionPhaseChanged => "transaction.phase_changed"
  | .underlayTransactionCompleted => "transaction.completed"
  | .underlayTransactionFailed => "transaction.failed"
  | .underlayTransactionInDoubt => "transaction.in_doubt"
  | .underlayTransactionForceResolved => "transaction.force_resolved"

/-- The kinds that operators see. -/
def isOperatorEvent : UnderlayEventKind → Bool
  | .underlayDriftDetected | .underlayDriftAuditCompleted | .underlayJournalGcCompleted
  | .underlayApplyIdempotencyGcCompleted | .underlayRecoveryCompleted | .underlayAuditWriteFailed
  | .underlayTransactionForceResolved | .underlayTransactionInDoubt => true
  | _ => false

/-- `str::parse::<u64>`: decimal digits, with an optional plus sign, that do not overflow. -/
def parseU64 (text : String) : Option ℕ :=
  let digits := match text.toList with
    | '+' :: digits => digits
    | digits => digits
  if digits = [] ∨ digits.any (fun c => !c.isDigit) then none
  else
    let value := digits.foldl (fun total c => total * 10 + (c.toNat - '0'.toNat)) 0
    if value < 2 ^ 64 then some value else none

def fieldValue (event : UnderlayEvent) (name : String) : ℕ :=
  (event.fields[name]?.bind parseU64).getD 0

def attentionRequired (event : UnderlayEvent) : Bool :=
  match event.kind with
  | .underlayDriftDetected => true
  | .underlayDriftAuditCompleted =>
      event.result = some "drift_detected" ∨ event.result = some "partial_failure"
  | .underlayRecoveryCompleted =>
      fieldValue event "in_doubt" > 0 ∨ fieldValue event "pending" > 0
  | .underlayAuditWriteFailed => true
  | .underlayTransactionInDoubt => true
  | _ => false

def OperationSummary.fromEvent (event : UnderlayEvent) : Option OperationSummary :=
  if isOperatorEvent event.kind then
    some
      { requestId := event.requestId
        traceId := event.traceId
        action := actionName event.kind
        result := event.result.getD "observed"
        txId := event.txId
        deviceId := event.deviceId
        attentionRequired := AriaUnderlay.attentionRequired event
        fields := event.fields }
  else none

def listAttentionRequired (summaries : List OperationSummary) : List OperationSummary :=
  summaries.filter (·.attentionRequired)

/-! ## Alerts -/

/-- How urgent an alert is. -/
inductive OperationAlertSeverity where
  | warning
  | critical
  deriving DecidableEq, Repr

/-- An alert about an operation. -/
structure OperationAlert where
  dedupeKey : String
  severity : OperationAlertSeverity
  requestId : String
  traceId : String
  action : String
  result : String
  txId : Option String
  deviceId : Option DeviceId
  fields : BTreeMap String String

def dedupeKey (summary : OperationSummary) : String :=
  summary.action ++ "|" ++ summary.result ++ "|" ++ summary.requestId ++ "|" ++
    summary.traceId ++ "|" ++ summary.txId.getD "-" ++ "|" ++ summary.deviceId.getD "-"

def severityForSummary (summary : OperationSummary) : OperationAlertSeverity :=
  if summary.action = "transaction.in_doubt" ∨ summary.action = "audit.write_failed" ∨
      summary.result = "in_doubt" ∨ summary.result = "failed" then .critical
  else .warning

/-- The alert for a summary. -/
def OperationAlert.fromSummary (summary : OperationSummary) : OperationAlert where
  dedupeKey := AriaUnderlay.dedupeKey summary
  severity := severityForSummary summary
  requestId := summary.requestId
  traceId := summary.traceId
  action := summary.action
  result := summary.result
  txId := summary.txId
  deviceId := summary.deviceId
  fields := summary.fields

/-! ## The worker -/

/-- What a run has delivered. -/
structure OperationAlertDeliveryReport where
  scannedAttentionRequired : ℕ
  alreadyDelivered : ℕ
  newlyDelivered : ℕ
  deriving DecidableEq, Repr

/-- The summary store, the alerts that the sink was given and the checkpoint. -/
structure AlertStores where
  summaries : List OperationSummary := []
  sink : List OperationAlert := []
  checkpoint : BTreeSet String := ∅

/-- The loop over the summaries: how many alerts the checkpoint has, and the others in order. -/
def undeliveredAlerts (deliveredKeys : BTreeSet String) (summaries : List OperationSummary) :
    ℕ × List OperationAlert :=
  summaries.foldl (fun (alreadyDelivered, alerts) summary =>
    let alert := OperationAlert.fromSummary summary
    if alert.dedupeKey ∈ deliveredKeys then (alreadyDelivered + 1, alerts)
    else (alreadyDelivered, alerts ++ [alert])) (0, [])

def runOnce (stores : AlertStores) : OperationAlertDeliveryReport × AlertStores :=
  let summaries := listAttentionRequired stores.summaries
  let (alreadyDelivered, alerts) := undeliveredAlerts stores.checkpoint summaries
  let report :=
    { scannedAttentionRequired := summaries.length
      alreadyDelivered := alreadyDelivered
      newlyDelivered := alerts.length }
  if alerts.length > 0 then
    (report,
      { stores with
        sink := stores.sink ++ alerts
        checkpoint := stores.checkpoint.insertMany (alerts.map (·.dedupeKey)) })
  else (report, stores)

/-- Summaries come in. -/
def AlertStores.record (stores : AlertStores) (batch : List OperationSummary) : AlertStores :=
  { stores with summaries := stores.summaries ++ batch }

/-- Runs of the worker, each after some more summaries were recorded. -/
def runBatches :
    List (List OperationSummary) → AlertStores → List OperationAlertDeliveryReport × AlertStores
  | [], stores => ([], stores)
  | batch :: batches, stores =>
      let (report, stores) := runOnce (stores.record batch)
      let (reports, stores) := runBatches batches stores
      (report :: reports, stores)

/-! ## Incidents -/

/-- What an alert is about. -/
structure Incident where
  action : String
  result : String
  requestId : String
  traceId : String
  txId : Option String
  deviceId : Option DeviceId
  deriving DecidableEq, Repr

/-- What a summary is about. -/
def OperationSummary.incident (summary : OperationSummary) : Incident where
  action := summary.action
  result := summary.result
  requestId := summary.requestId
  traceId := summary.traceId
  txId := summary.txId
  deviceId := summary.deviceId

/-- What an alert is about. -/
def OperationAlert.incident (alert : OperationAlert) : Incident where
  action := alert.action
  result := alert.result
  requestId := alert.requestId
  traceId := alert.traceId
  txId := alert.txId
  deviceId := alert.deviceId

@[simp]
theorem incident_fromSummary (summary : OperationSummary) :
    (OperationAlert.fromSummary summary).incident = summary.incident := rfl

/-- The key of a summary is computed from its incident. -/
theorem dedupeKey_eq_of_incident_eq {first second : OperationSummary}
    (same : first.incident = second.incident) : dedupeKey first = dedupeKey second := by
  simp only [OperationSummary.incident, Incident.mk.injEq] at same
  rcases same with ⟨action, result, request, trace, tx, device⟩
  simp [dedupeKey, action, result, request, trace, tx, device]

/-- The incidents of the recorded summaries that require attention. -/
def incidentsOf (summaries : List OperationSummary) : List Incident :=
  (listAttentionRequired summaries).map (·.incident)

/-- After the runs, every recorded incident was alerted once, and the reports add up to the number
of incidents. -/
def AlertedOnce (batches : List (List OperationSummary)) : Prop :=
  let (reports, stores) := runBatches batches {}
  (∀ incident ∈ incidentsOf stores.summaries,
      (stores.sink.map (·.incident)).count incident = 1) ∧
    (reports.map (·.newlyDelivered)).sum = (incidentsOf stores.summaries).dedup.length

/-! ## What one run does -/

theorem undeliveredAlerts_eq (deliveredKeys : BTreeSet String) (summaries : List OperationSummary) :
    undeliveredAlerts deliveredKeys summaries =
      (summaries.countP (fun summary => dedupeKey summary ∈ deliveredKeys),
        (summaries.filter (fun summary => dedupeKey summary ∉ deliveredKeys)).map
          .fromSummary) := by
  unfold undeliveredAlerts
  induction summaries using List.reverseRecOn with
  | nil => rfl
  | append_singleton summaries last ih =>
      rw [List.foldl_append, ih]
      by_cases known : dedupeKey last ∈ deliveredKeys
      · simp [known, OperationAlert.fromSummary]
      · simp [known, OperationAlert.fromSummary]

/-- The summaries of a list whose alert is not in the checkpoint yet. -/
def newTo (checkpoint : BTreeSet String) (summaries : List OperationSummary) :
    List OperationSummary :=
  (listAttentionRequired summaries).filter fun summary => dedupeKey summary ∉ checkpoint

theorem mem_newTo {checkpoint : BTreeSet String} {summaries : List OperationSummary}
    {summary : OperationSummary} :
    summary ∈ newTo checkpoint summaries ↔
      summary ∈ listAttentionRequired summaries ∧ dedupeKey summary ∉ checkpoint := by
  simp [newTo]

theorem undeliveredAlerts_newTo (checkpoint : BTreeSet String) (summaries : List OperationSummary) :
    (undeliveredAlerts checkpoint (listAttentionRequired summaries)).2 =
      (newTo checkpoint summaries).map .fromSummary := by
  rw [undeliveredAlerts_eq, newTo]

theorem runOnce_stores (stores : AlertStores) :
    (runOnce stores).2 =
      { stores with
        sink := stores.sink ++ (newTo stores.checkpoint stores.summaries).map .fromSummary
        checkpoint := stores.checkpoint.insertMany
          ((newTo stores.checkpoint stores.summaries).map dedupeKey) } := by
  simp only [runOnce, undeliveredAlerts_newTo]
  split
  · simp [OperationAlert.fromSummary, Function.comp_def]
  · rename_i nothing
    have none : newTo stores.checkpoint stores.summaries = [] := by simpa using nothing
    simp [none]

theorem runOnce_newlyDelivered (stores : AlertStores) :
    (runOnce stores).1.newlyDelivered = (newTo stores.checkpoint stores.summaries).length := by
  simp only [runOnce, undeliveredAlerts_newTo]
  split <;> simp

/-! ## What a sequence of runs does -/

theorem runBatches_append (batches : List (List OperationSummary))
    (batch : List OperationSummary) (stores : AlertStores) :
    runBatches (batches ++ [batch]) stores =
      ((runBatches batches stores).1 ++ [(runOnce ((runBatches batches stores).2.record batch)).1],
        (runOnce ((runBatches batches stores).2.record batch)).2) := by
  induction batches generalizing stores with
  | nil => rfl
  | cons first batches ih => simp only [List.cons_append, runBatches, ih]

/-- The keys of the recorded summaries that require attention. -/
def keysOf (summaries : List OperationSummary) : List String :=
  (listAttentionRequired summaries).map dedupeKey

/-- The state of the stores when the worker has run after each of the batches. -/
structure DeliveredUpTo (batches : List (List OperationSummary))
    (reports : List OperationAlertDeliveryReport) (stores : AlertStores) : Prop where
  summaries : stores.summaries = batches.flatten
  checkpoint : ∀ key, key ∈ stores.checkpoint ↔ key ∈ keysOf batches.flatten
  recorded : ∀ alert ∈ stores.sink, alert.incident ∈ incidentsOf batches.flatten
  counted : (reports.map (·.newlyDelivered)).sum = stores.sink.length

theorem keysOf_append (first second : List OperationSummary) :
    keysOf (first ++ second) = keysOf first ++ keysOf second := by
  simp [keysOf, listAttentionRequired]

theorem incidentsOf_append (first second : List OperationSummary) :
    incidentsOf (first ++ second) = incidentsOf first ++ incidentsOf second := by
  simp [incidentsOf, listAttentionRequired]

variable {batches : List (List OperationSummary)} {batch : List OperationSummary}
variable {reports : List OperationAlertDeliveryReport} {stores : AlertStores}

theorem newTo_recorded (upTo : DeliveredUpTo batches reports stores) :
    newTo stores.checkpoint (stores.record batch).summaries = newTo stores.checkpoint batch := by
  have old : newTo stores.checkpoint stores.summaries = [] := by
    rw [newTo, List.filter_eq_nil_iff]
    intro summary member
    rw [upTo.summaries] at member
    simp only [decide_eq_true_eq, not_not, upTo.checkpoint]
    exact List.mem_map_of_mem member
  have split : newTo stores.checkpoint (stores.record batch).summaries =
      newTo stores.checkpoint stores.summaries ++ newTo stores.checkpoint batch := by
    simp [newTo, listAttentionRequired, AlertStores.record]
  rw [split, old, List.nil_append]

/-- A run hands over the alerts of its batch that are new to the checkpoint. -/
theorem runOnce_record (upTo : DeliveredUpTo batches reports stores) :
    (runOnce (stores.record batch)).2 =
      { summaries := stores.summaries ++ batch
        sink := stores.sink ++ (newTo stores.checkpoint batch).map .fromSummary
        checkpoint := stores.checkpoint.insertMany
          ((newTo stores.checkpoint batch).map dedupeKey) } := by
  rw [runOnce_stores]
  change AlertStores.mk (stores.summaries ++ batch)
    (stores.sink ++ (newTo stores.checkpoint (stores.record batch).summaries).map .fromSummary)
    (stores.checkpoint.insertMany
      ((newTo stores.checkpoint (stores.record batch).summaries).map dedupeKey)) = _
  rw [newTo_recorded upTo]

theorem deliveredUpTo_step (upTo : DeliveredUpTo batches reports stores) :
    DeliveredUpTo (batches ++ [batch]) (reports ++ [(runOnce (stores.record batch)).1])
      (runOnce (stores.record batch)).2 := by
  have report : (runOnce (stores.record batch)).1.newlyDelivered =
      (newTo stores.checkpoint batch).length := by
    rw [runOnce_newlyDelivered]
    exact congrArg List.length (newTo_recorded upTo)
  have grown : (batches ++ [batch]).flatten = batches.flatten ++ batch := by simp
  rw [runOnce_record upTo]
  refine ⟨?_, ?_, ?_, ?_⟩
  · rw [grown, ← upTo.summaries]
  · intro key
    simp only [Std.ExtTreeSet.mem_insertMany_list, List.contains_iff_mem, upTo.checkpoint, grown,
      keysOf_append, List.mem_append]
    constructor
    · rintro (old | new)
      · exact .inl old
      · rcases List.mem_map.mp new with ⟨summary, member, rfl⟩
        exact .inr (List.mem_map_of_mem (mem_newTo.mp member).1)
    · rintro (old | fresh)
      · exact .inl old
      · rcases List.mem_map.mp fresh with ⟨summary, member, rfl⟩
        by_cases known : dedupeKey summary ∈ stores.checkpoint
        · exact .inl ((upTo.checkpoint _).mp known)
        · exact .inr (List.mem_map_of_mem (mem_newTo.mpr ⟨member, known⟩))
  · intro alert member
    rw [grown, incidentsOf_append, List.mem_append]
    rcases List.mem_append.mp member with old | new
    · exact .inl (upTo.recorded alert old)
    · rcases List.mem_map.mp new with ⟨summary, isNew, rfl⟩
      exact .inr (List.mem_map_of_mem (mem_newTo.mp isNew).1)
  · simp [report, upTo.counted]

theorem deliveredUpTo_runBatches (batches : List (List OperationSummary)) :
    DeliveredUpTo batches (runBatches batches {}).1 (runBatches batches {}).2 := by
  induction batches using List.reverseRecOn with
  | nil =>
      refine ⟨rfl, ?_, ?_, rfl⟩
      · intro key
        simp [runBatches, keysOf, listAttentionRequired]
      · simp [runBatches]
  | append_singleton batches batch ih =>
      rw [runBatches_append]
      exact deliveredUpTo_step ih

/-! ## Alerting every incident once -/

/-- The incidents that were alerted, in the order of the alerts. -/
def alertedIncidents (batches : List (List OperationSummary)) : List Incident :=
  (runBatches batches {}).2.sink.map (·.incident)

theorem alertedOnce_iff_nodup :
    AlertedOnce batches ↔
      (alertedIncidents batches).Nodup ∧
        incidentsOf batches.flatten ⊆ alertedIncidents batches := by
  have upTo := deliveredUpTo_runBatches batches
  have recorded : alertedIncidents batches ⊆ incidentsOf batches.flatten := by
    intro incident member
    rcases List.mem_map.mp member with ⟨alert, inSink, rfl⟩
    exact upTo.recorded alert inSink
  simp only [AlertedOnce, upTo.summaries, upTo.counted]
  change (∀ incident ∈ incidentsOf batches.flatten,
    (alertedIncidents batches).count incident = 1) ∧ _ ↔ _
  constructor
  · rintro ⟨once, -⟩
    constructor
    · rw [List.nodup_iff_count_eq_one]
      intro incident member
      exact once incident (recorded member)
    · intro incident member
      rw [← List.count_pos_iff, once incident member]
      exact Nat.one_pos
  · rintro ⟨nodup, covered⟩
    constructor
    · intro incident member
      exact List.count_eq_one_of_mem nodup (covered member)
    · have same : (alertedIncidents batches).Perm (incidentsOf batches.flatten).dedup := by
        rw [List.perm_ext_iff_of_nodup nodup (List.nodup_dedup _)]
        intro incident
        rw [List.mem_dedup]
        exact ⟨fun member => recorded member, fun member => covered member⟩
      rw [← same.length_eq, alertedIncidents, List.length_map]

/-- A batch that can be told apart from what was recorded before: a key that was there before stands
for an incident that was there before, and the other incidents of the batch are all different. -/
def ToldApart (earlier : List OperationSummary) (batch : List OperationSummary) : Prop :=
  (∀ summary ∈ listAttentionRequired batch,
      dedupeKey summary ∈ keysOf earlier → summary.incident ∈ incidentsOf earlier) ∧
    (((listAttentionRequired batch).filter fun summary =>
      dedupeKey summary ∉ keysOf earlier).map (·.incident)).Nodup

theorem alertedIncidents_append :
    alertedIncidents (batches ++ [batch]) =
      alertedIncidents batches ++
        ((listAttentionRequired batch).filter fun summary =>
          dedupeKey summary ∉ keysOf batches.flatten).map (·.incident) := by
  have upTo := deliveredUpTo_runBatches batches
  have new : newTo (runBatches batches {}).2.checkpoint batch =
      (listAttentionRequired batch).filter fun summary =>
        dedupeKey summary ∉ keysOf batches.flatten := by
    rw [newTo]
    apply List.filter_congr
    intro summary _
    simp only [upTo.checkpoint]
  rw [alertedIncidents, runBatches_append, runOnce_record upTo, new, List.map_append,
    List.map_map, alertedIncidents]
  rfl

/-- One more run keeps every incident alerted once exactly when its batch can be told apart. -/
theorem alertedOnce_append_iff (before : AlertedOnce batches) :
    AlertedOnce (batches ++ [batch]) ↔ ToldApart batches.flatten batch := by
  rw [alertedOnce_iff_nodup] at before ⊢
  rcases before with ⟨nodup, covered⟩
  have recorded : alertedIncidents batches ⊆ incidentsOf batches.flatten := by
    intro incident member
    rcases List.mem_map.mp member with ⟨alert, inSink, rfl⟩
    exact (deliveredUpTo_runBatches batches).recorded alert inSink
  have separate : List.Disjoint (alertedIncidents batches)
      (((listAttentionRequired batch).filter fun summary =>
        dedupeKey summary ∉ keysOf batches.flatten).map (·.incident)) := by
    intro incident old new
    rcases List.mem_map.mp new with ⟨summary, isNew, rfl⟩
    rcases List.mem_map.mp (recorded old) with ⟨known, wasThere, same⟩
    have newKey : dedupeKey summary ∉ keysOf batches.flatten := by
      simpa using (List.mem_filter.mp isNew).2
    rw [← dedupeKey_eq_of_incident_eq same] at newKey
    exact newKey (List.mem_map_of_mem wasThere)
  have grown : (batches ++ [batch]).flatten = batches.flatten ++ batch := by simp
  rw [alertedIncidents_append, List.nodup_append', ToldApart, grown, incidentsOf_append]
  constructor
  · rintro ⟨⟨-, different, -⟩, all⟩
    refine ⟨?_, different⟩
    intro summary member knownKey
    have alerted := all (List.mem_append_right _ (List.mem_map_of_mem member))
    rcases List.mem_append.mp alerted with old | new
    · exact recorded old
    · rcases List.mem_map.mp new with ⟨other, isNew, same⟩
      have newKey : dedupeKey other ∉ keysOf batches.flatten := by
        simpa using (List.mem_filter.mp isNew).2
      rw [dedupeKey_eq_of_incident_eq same] at newKey
      exact absurd knownKey newKey
  · rintro ⟨known, different⟩
    refine ⟨⟨nodup, different, separate⟩, ?_⟩
    intro incident member
    rw [List.mem_append]
    rcases List.mem_append.mp member with old | fresh
    · exact .inl (covered old)
    · rcases List.mem_map.mp fresh with ⟨summary, inBatch, rfl⟩
      by_cases knownKey : dedupeKey summary ∈ keysOf batches.flatten
      · exact .inl (covered (known summary inBatch knownKey))
      · exact .inr (List.mem_map_of_mem (List.mem_filter.mpr ⟨inBatch, by simpa using knownKey⟩))

/-- Every incident is alerted exactly once after each run, when and only when every batch can be
told apart from what was recorded before it. -/
theorem alertedOnce_iff (batches : List (List OperationSummary)) :
    (∀ earlier, earlier <+: batches → AlertedOnce earlier) ↔
      EachStep (fun earlier batch => ToldApart earlier.flatten batch) batches := by
  induction batches using List.reverseRecOn with
  | nil =>
      have start : AlertedOnce [] := by
        simp [AlertedOnce, runBatches, incidentsOf, listAttentionRequired]
      simp [start]
  | append_singleton batches batch ih =>
      simp only [List.prefix_concat_iff, forall_eq_or_imp, eachStep_append_singleton, ← ih]
      constructor
      · rintro ⟨last, before⟩
        exact ⟨before, (alertedOnce_append_iff (before batches (List.prefix_refl _))).mp last⟩
      · rintro ⟨before, apart⟩
        exact ⟨(alertedOnce_append_iff (before batches (List.prefix_refl _))).mpr apart, before⟩

/-- A transaction that is missing and one that is named by a dash have the same key. -/
example (summary : OperationSummary) :
    dedupeKey { summary with txId := none } = dedupeKey { summary with txId := some "-" } := rfl

/-! ## Two audits before one delivery -/

/-- What the drift audit worker emits for a drifted device; its request and trace are fixed. -/
def leafDriftEvent : UnderlayEvent where
  kind := .underlayDriftDetected
  requestId := "drift-audit"
  traceId := "drift-audit"
  txId := none
  deviceId := some "leaf-a"
  result := some "drift_detected"
  fields := ∅

/-- Two audits that find the same drift before the worker runs make it alert twice. -/
theorem drift_alerted_twice :
    ¬AlertedOnce [[leafDriftEvent, leafDriftEvent].filterMap OperationSummary.fromEvent] := by
  intro once
  have nodup := (alertedOnce_iff_nodup.mp once).1
  have twice : alertedIncidents
      [[leafDriftEvent, leafDriftEvent].filterMap OperationSummary.fromEvent] =
      [⟨"drift.detected", "drift_detected", "drift-audit", "drift-audit", none, some "leaf-a"⟩,
        ⟨"drift.detected", "drift_detected", "drift-audit", "drift-audit", none,
          some "leaf-a"⟩] := by
    decide +kernel
  rw [twice] at nodup
  simp at nodup

end AriaUnderlay
