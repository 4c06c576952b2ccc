import AriaUnderlay.Api.AdminRequests
import AriaUnderlay.Effect.Serialized

/-!
# Concurrent changes of the worker configuration

Several calls change one configuration file.  Each of them reads the file, changes one setting of
what it read and replaces the whole file.  When no call replaces the file between the read and the
replacement of another, every change is in the file at the end and nothing else has changed.  The
calls take no lock, though, and a call that replaces what it read earlier takes back the changes
made meanwhile.
-/

namespace AriaUnderlay

open Collections Effect

/-! ## Settings -/

namespace WorkerSettingChange

variable {change : WorkerSettingChange} {config : UnderlayWorkerDaemonConfig}

theorem get_update_self (present : change.setting.get config ≠ none) :
    change.setting.get (change.update config) = some change := by
  cases change with
  | summaryRetention retention =>
      simpa [setting, update, WorkerSetting.get, Option.map_eq_some_iff, Option.ne_none_iff_exists']
        using present
  | journalGcRetention retention =>
      simpa [setting, update, WorkerSetting.get, Option.map_eq_some_iff, Option.ne_none_iff_exists']
        using present
  | schedule target timing =>
      cases target <;>
        simpa [setting, update, WorkerSetting.get, Option.map_eq_some_iff,
          Option.ne_none_iff_exists'] using present

theorem get_update_other {setting : WorkerSetting} (different : change.setting ≠ setting) :
    setting.get (change.update config) = setting.get config := by
  cases change with
  | summaryRetention retention =>
      rcases setting with _ | _ | ⟨_ | _ | _ | _ | _⟩ <;>
        simp_all [WorkerSettingChange.setting, update, WorkerSetting.get, Function.comp_def]
  | journalGcRetention retention =>
      rcases setting with _ | _ | ⟨_ | _ | _ | _ | _⟩ <;>
        simp_all [WorkerSettingChange.setting, update, WorkerSetting.get, Function.comp_def]
  | schedule target timing =>
      rcases setting with _ | _ | ⟨_ | _ | _ | _ | _⟩ <;> cases target <;>
        simp_all [WorkerSettingChange.setting, update, WorkerSetting.get, Function.comp_def]

end WorkerSettingChange

/-- The configuration with every setting that can be changed at its default. -/
def UnderlayWorkerDaemonConfig.atDefaults (config : UnderlayWorkerDaemonConfig) :
    UnderlayWorkerDaemonConfig :=
  { config with
    operationSummary := config.operationSummary.map
      ({ · with retention := {}, retentionSchedule := {} })
    operationAlert := config.operationAlert.map ({ · with schedule := {} })
    journalGc := config.journalGc.map ({ · with retention := {}, schedule := {} })
    applyIdempotencyGc := config.applyIdempotencyGc.map ({ · with schedule := {} })
    driftAudit := config.driftAudit.map ({ · with schedule := {} }) }

theorem WorkerSettingChange.atDefaults_update (change : WorkerSettingChange)
    (config : UnderlayWorkerDaemonConfig) :
    (change.update config).atDefaults = config.atDefaults := by
  cases change with
  | summaryRetention retention =>
      simp [update, UnderlayWorkerDaemonConfig.atDefaults, Function.comp_def]
  | journalGcRetention retention =>
      simp [update, UnderlayWorkerDaemonConfig.atDefaults, Function.comp_def]
  | schedule target timing =>
      cases target <;> simp [update, UnderlayWorkerDaemonConfig.atDefaults, Function.comp_def]

/-! ## One call -/

section Call

variable {request : WorkerConfigRequest} {change : WorkerSettingChange}

/-- What a call that succeeds does: it read `current` and was authorized and audited. -/
def changeEvents (request : WorkerConfigRequest) (change : WorkerSettingChange)
    (current : UnderlayWorkerDaemonConfig) (decision : AuthorizationDecision)
    (now : ℕ) : List (Event adminSignature) :=
  let traceId := request.traceId.getD request.requestId
  [⟨.inr (.configRead request.configPath),
      (.ok current : Except UnderlayError UnderlayWorkerDaemonConfig)⟩,
    ⟨.inl (.authorize ⟨request.requestId, traceId, request.operator, change.action⟩),
      (.ok decision : Except UnderlayError AuthorizationDecision)⟩,
    ⟨.inl .nowUnixSecs, now⟩,
    ⟨.inl (.productAuditAppend (.workerConfigChangeRequested request traceId change now)),
      (.ok () : Except UnderlayError Unit)⟩,
    ⟨.inr (.configWrite request.configPath (change.update current)),
      (.ok () : Except UnderlayError Unit)⟩]

/-- What is reported of a change. -/
def changeResponse (request : WorkerConfigRequest) (change : WorkerSettingChange) :
    WorkerConfigAdminResponse where
  configPath := request.configPath
  target := change.target
  changed := true
  warnings := []

theorem traces_appendAudit {record : ProductAuditRecord} {events : List (Event coreSignature)} :
    Effect.Traces (appendAudit record) events (.ok ()) ↔
      events = [⟨.productAuditAppend record, (.ok () : Except UnderlayError Unit)⟩] := by
  constructor
  · intro traced
    rcases traces_bind.mp traced with ⟨first, answer, rest, appends, ends, rfl⟩
    rcases traces_done.mp ends with ⟨rfl, succeeded⟩
    rcases (answer : Except UnderlayError Unit) with error | ⟨⟩
    · cases succeeded
    · rw [traces_perform.mp appends]
      rfl
  · rintro rfl
    exact .call _ (.done _)

theorem traces_changeWorkerSetting {events : List (Event adminSignature)}
    {response : WorkerConfigAdminResponse} :
    Effect.Traces (changeWorkerSetting request change).run events (.ok response) ↔
      validateBaseRequest request = .ok () ∧ change.check = .ok () ∧
        response = changeResponse request change ∧
        ∃ current decision now, change.locate current = .ok () ∧
          events = changeEvents request change current decision now := by
  unfold changeWorkerSetting
  constructor
  · intro traced
    rcases traces_bindResult.mp traced with ⟨_, ⟨⟩, _, validates, validRun, rfl⟩
    rcases traces_done.mp validates with ⟨rfl, validated⟩
    rcases traces_bindResult.mp validRun with ⟨_, ⟨⟩, _, checks, checkedRun, rfl⟩
    rcases traces_done.mp checks with ⟨rfl, checked⟩
    rcases traces_bindResult.mp checkedRun with ⟨_, current, _, reads, readRun, rfl⟩
    rcases traces_bindResult.mp readRun with ⟨_, ⟨⟩, _, locates, locatedRun, rfl⟩
    rcases traces_done.mp locates with ⟨rfl, located⟩
    rcases traces_bindResult.mp locatedRun with ⟨_, decision, _, authorizes, authorizedRun, rfl⟩
    rcases traces_inLeft.mp authorizes with ⟨_, authorizesCore, rfl⟩
    rcases traces_bindResult.mp authorizedRun with ⟨_, now, _, times, timedRun, rfl⟩
    rcases traces_inLeft.mp (traces_lift.mp times) with ⟨_, timesCore, rfl⟩
    rcases traces_bindResult.mp timedRun with ⟨_, ⟨⟩, _, audits, auditedRun, rfl⟩
    rcases traces_inLeft.mp audits with ⟨_, auditsCore, rfl⟩
    rcases traces_bindResult.mp auditedRun with ⟨_, ⟨⟩, _, replaces, ends, rfl⟩
    rcases traces_done.mp ends with ⟨rfl, responded⟩
    refine ⟨validated.symm, checked.symm, Except.ok.inj responded, current, decision, now,
      located.symm, ?_⟩
    rw [traces_perform.mp reads, traces_perform.mp authorizesCore, traces_perform.mp timesCore,
      traces_appendAudit.mp auditsCore, traces_perform.mp replaces]
    rfl
  · rintro ⟨validated, checked, rfl, current, decision, now, located, rfl⟩
    refine traces_bindResult.mpr ⟨[], (), _, traces_done.mpr ⟨rfl, validated.symm⟩, ?_, rfl⟩
    refine traces_bindResult.mpr ⟨[], (), _, traces_done.mpr ⟨rfl, checked.symm⟩, ?_, rfl⟩
    refine traces_bindResult.mpr ⟨_, current, _, traces_perform.mpr rfl, ?_, rfl⟩
    refine traces_bindResult.mpr ⟨[], (), _, traces_done.mpr ⟨rfl, located.symm⟩, ?_, rfl⟩
    refine traces_bindResult.mpr ⟨_, decision, _,
      traces_inLeft.mpr ⟨_, traces_perform.mpr rfl, rfl⟩, ?_, rfl⟩
    refine traces_bindResult.mpr ⟨_, now, _,
      traces_lift.mpr (traces_inLeft.mpr ⟨_, traces_perform.mpr rfl, rfl⟩), ?_, rfl⟩
    refine traces_bindResult.mpr ⟨_, (), _,
      traces_inLeft.mpr ⟨_, traces_appendAudit.mpr rfl, rfl⟩, ?_, rfl⟩
    refine traces_bindResult.mpr ⟨_, (), [], traces_perform.mpr rfl, ?_, rfl⟩
    exact .done _

end Call

/-! ## The file -/

section File

variable {Call : Type} {path : String}

/-- The calls that read the file at the path. -/
def readsFile (path : String) : adminSignature.Op → Bool
  | .inr (.configRead asked) => asked = path
  | _ => false

/-- The calls that replace it. -/
def replacesFile (path : String) : adminSignature.Op → Bool
  | .inr (.configWrite asked _) => asked = path
  | _ => false

/-- What a call does to the file at the path.  A read that succeeds finds its content; a replacement
that fails leaves the old file or the new one. -/
def FileStep (path : String) (file after : UnderlayWorkerDaemonConfig) :
    (op : adminSignature.Op) → adminSignature.Answer op → Prop
  | .inr (.configRead asked), (answer : Except UnderlayError UnderlayWorkerDaemonConfig) =>
      after = file ∧ (asked = path → ∀ config, answer = .ok config → config = file)
  | .inr (.configWrite asked config), (answer : Except UnderlayError Unit) =>
      if asked = path then after = config ∨ (answer ≠ .ok () ∧ after = file)
      else after = file
  | _, _ => after = file

/-- The file at the path as all calls share it. -/
def fileEnvironment (Call : Type) (path : String) :
    Environment adminSignature Call UnderlayWorkerDaemonConfig where
  respond := fun _ file op answer after => FileStep path file after op answer
  restart := id

variable {file after : UnderlayWorkerDaemonConfig}

theorem FileStep.unchanged {op : adminSignature.Op} {answer : adminSignature.Answer op}
    (stepped : FileStep path file after op answer) (kept : replacesFile path op = false) :
    after = file := by
  rcases op with op | op
  · exact stepped
  · cases op with
    | configRead asked => exact stepped.1
    | configWrite asked config =>
        have elsewhere : asked ≠ path := of_decide_eq_false kept
        simpa [FileStep, elsewhere] using stepped
    | inventoryGet | adapterClient | forceUnlock | alertTransition => exact stepped

end File

/-! ## All calls -/

section Calls

variable
  {Call : Type}
  {path : String}
  {request : Call → WorkerConfigRequest}
  {change : Call → WorkerSettingChange}
  {response : Call → WorkerConfigAdminResponse}
  {run earlier : List (Call × Event adminSignature)}
  {initial file after final : UnderlayWorkerDaemonConfig}

/-- Every change is in the file, and whatever no call changes is as it was. -/
structure ChangesKept (change : Call → WorkerSettingChange)
    (initial final : UnderlayWorkerDaemonConfig) : Prop where
  inForce : ∀ call, (change call).setting.get final = some (change call)
  otherSettings : ∀ setting, (∀ call, (change call).setting ≠ setting) →
    setting.get final = setting.get initial
  rest : final.atDefaults = initial.atDefaults

/-- A replacement is the last step of its call, which has read the file before. -/
theorem replacement_of_changeEvents {request : WorkerConfigRequest} {change : WorkerSettingChange}
    {current : UnderlayWorkerDaemonConfig} {decision : AuthorizationDecision} {now : ℕ}
    {earlier : List (Event adminSignature)} {event : Event adminSignature}
    (part : earlier ++ [event] <+: changeEvents request change current decision now)
    (replaces : replacesFile path event.1 = true) :
    (⟨.inr (.configRead request.configPath),
      (.ok current : Except UnderlayError UnderlayWorkerDaemonConfig)⟩ : Event adminSignature) ∈
        earlier ∧
      (∀ other ∈ earlier, replacesFile path other.1 = false) ∧
      event = ⟨.inr (.configWrite request.configPath (change.update current)),
        (.ok () : Except UnderlayError Unit)⟩ := by
  have each : EachStep (fun earlier (event : Event adminSignature) =>
      replacesFile path event.1 = true →
        (⟨.inr (.configRead request.configPath),
          (.ok current : Except UnderlayError UnderlayWorkerDaemonConfig)⟩ :
            Event adminSignature) ∈ earlier ∧
          (∀ other ∈ earlier, replacesFile path other.1 = false) ∧
          event = ⟨.inr (.configWrite request.configPath (change.update current)),
            (.ok () : Except UnderlayError Unit)⟩)
      (changeEvents request change current decision now) := by
    simp [changeEvents, eachStep_cons, replacesFile]
  exact each earlier event part replaces

/-- The changes of the calls that have replaced the file are in it. -/
structure SoFar (path : String) (change : Call → WorkerSettingChange)
    (initial file : UnderlayWorkerDaemonConfig)
    (earlier : List (Call × Event adminSignature)) : Prop where
  inForce : ∀ step ∈ earlier, replacesFile path step.2.1 = true →
    (change step.1).setting.get file = some (change step.1)
  otherSettings : ∀ setting,
    (∀ step ∈ earlier, replacesFile path step.2.1 = true → (change step.1).setting ≠ setting) →
      setting.get file = setting.get initial
  rest : file.atDefaults = initial.atDefaults

theorem SoFar.kept {step : Call × Event adminSignature}
    (soFar : SoFar path change initial file earlier) (keeps : replacesFile path step.2.1 = false) :
    SoFar path change initial file (earlier ++ [step]) := by
  rcases soFar with ⟨inForce, otherSettings, rest⟩
  constructor
  · intro other member replaces
    rcases List.mem_append.mp member with before | last
    · exact inForce other before replaces
    · rw [List.mem_singleton.mp last, keeps] at replaces
      cases replaces
  · intro setting unnamed
    exact otherSettings setting fun other member => unnamed other (by simp [member])
  · exact rest

theorem SoFar.replaced {step : Call × Event adminSignature}
    (distinct : ∀ first second, first ≠ second → (change first).setting ≠ (change second).setting)
    (soFar : SoFar path change initial file earlier) (replaces : replacesFile path step.2.1 = true)
    (present : (change step.1).setting.get file ≠ none) :
    SoFar path change initial ((change step.1).update file) (earlier ++ [step]) := by
  rcases soFar with ⟨inForce, otherSettings, rest⟩
  constructor
  · intro other member replacesOther
    by_cases same : other.1 = step.1
    · rw [same]
      exact WorkerSettingChange.get_update_self present
    · have before : other ∈ earlier := by
        rcases List.mem_append.mp member with before | last
        · exact before
        · exact absurd (congrArg Prod.fst (List.mem_singleton.mp last)) same
      rw [WorkerSettingChange.get_update_other (distinct _ _ (Ne.symm same))]
      exact inForce other before replacesOther
  · intro setting unnamed
    rw [WorkerSettingChange.get_update_other (unnamed step (by simp) replaces)]
    exact otherSettings setting fun other member => unnamed other (by simp [member])
  · rw [WorkerSettingChange.atDefaults_update]
    exact rest

variable [DecidableEq Call]

/-- What a call replaces the file with. -/
theorem replacement_content {step : Call × Event adminSignature}
    (samePath : ∀ call, (request call).configPath = path)
    (interleaved : Interleaves (fun call => (changeWorkerSetting (request call) (change call)).run)
      run fun call => .ok (response call))
    (serialized : serializedBy (readsFile path) (replacesFile path) run = true)
    (part : earlier ++ [step] <+: run)
    (ran : AnsweredBy (fileEnvironment Call path) initial earlier file)
    (stepped : FileStep path file after step.2.1 step.2.2)
    (replaces : replacesFile path step.2.1 = true) :
    after = (change step.1).update file ∧ (change step.1).setting.get file ≠ none := by
  rcases step with ⟨call, event⟩
  rcases traces_changeWorkerSetting.mp (interleaved call) with
    ⟨-, -, -, current, decision, now, located, own⟩
  have ownPart := ownEvents_prefix_of_step part
  rw [own] at ownPart
  rcases replacement_of_changeEvents ownPart replaces with ⟨hasRead, onlyLast, rfl⟩
  -- the file is as the call read it
  rcases List.append_of_mem (mem_ownEvents.mp hasRead) with ⟨before, between, rfl⟩
  rcases answeredBy_append.mp ran with ⟨found, ranBefore, next, reads, ranBetween⟩
  rcases part with ⟨later, whole⟩
  simp only [List.append_assoc, List.cons_append, List.nil_append] at whole
  rw [← whole] at serialized
  have undisturbed : ∀ step ∈ between, replacesFile path step.2.1 = false := by
    apply not_replaces_of_serializedBy serialized (by simp [readsFile, samePath]) replaces
    intro event own
    exact onlyLast event (mem_ownEvents.mpr (by simp [mem_ownEvents.mp own]))
  have isFound : current = found := reads.2 (samePath call) current rfl
  have sameFile : file = current := by
    rw [unchanged_of_not_replaces (fun _ _ _ _ _ => FileStep.unchanged) ranBetween undisturbed,
      reads.1, isFound]
  subst sameFile
  constructor
  · simpa [FileStep, samePath] using stepped
  · intro missing
    simp [WorkerSettingChange.locate, refuseIf, missing] at located

theorem soFar_of_serialized (samePath : ∀ call, (request call).configPath = path)
    (distinct : ∀ first second, first ≠ second → (change first).setting ≠ (change second).setting)
    (interleaved : Interleaves (fun call => (changeWorkerSetting (request call) (change call)).run)
      run fun call => .ok (response call))
    (serialized : serializedBy (readsFile path) (replacesFile path) run = true)
    (part : earlier <+: run)
    (ran : AnsweredBy (fileEnvironment Call path) initial earlier file) :
    SoFar path change initial file earlier := by
  induction earlier using List.reverseRecOn generalizing file with
  | nil =>
      rw [show file = initial from ran]
      exact ⟨by simp, fun _ _ => rfl, rfl⟩
  | append_singleton earlier step ih =>
      rcases answeredBy_append.mp ran with ⟨before, ranBefore, next, stepped, rfl⟩
      have soFar := ih ((List.prefix_append _ _).trans part) ranBefore
      cases replaces : replacesFile path step.2.1 with
      | true =>
        rcases replacement_content samePath interleaved serialized part ranBefore stepped replaces
          with ⟨rfl, present⟩
        exact soFar.replaced distinct replaces present
      | false =>
        rw [stepped.unchanged replaces]
        exact soFar.kept replaces

/-- Every call that ended well has replaced the file. -/
theorem exists_replacement (samePath : ∀ call, (request call).configPath = path)
    (interleaved : Interleaves (fun call => (changeWorkerSetting (request call) (change call)).run)
      run fun call => .ok (response call))
    (call : Call) :
    ∃ event, (call, event) ∈ run ∧ replacesFile path event.1 = true := by
  rcases traces_changeWorkerSetting.mp (interleaved call) with
    ⟨-, -, -, current, decision, now, -, own⟩
  have member : (⟨.inr (.configWrite (request call).configPath ((change call).update current)),
      (.ok () : Except UnderlayError Unit)⟩ : Event adminSignature) ∈ ownEvents call run := by
    rw [own]
    simp [changeEvents]
  exact ⟨_, mem_ownEvents.mp member, by simp [replacesFile, samePath]⟩

/-- Calls that change different settings and do not replace the file in between each other's read
and replacement lose no change. -/
theorem changesKept_of_serialized (samePath : ∀ call, (request call).configPath = path)
    (distinct : ∀ first second, first ≠ second → (change first).setting ≠ (change second).setting)
    (interleaved : Interleaves (fun call => (changeWorkerSetting (request call) (change call)).run)
      run fun call => .ok (response call))
    (ran : AnsweredBy (fileEnvironment Call path) initial run final)
    (serialized : serializedBy (readsFile path) (replacesFile path) run = true) :
    ChangesKept change initial final := by
  rcases soFar_of_serialized samePath distinct interleaved serialized (List.prefix_refl _) ran with
    ⟨inForce, otherSettings, rest⟩
  constructor
  · intro call
    rcases exists_replacement samePath interleaved call with ⟨event, member, replaces⟩
    exact inForce _ member replaces
  · intro setting unnamed
    exact otherSettings setting fun step _ _ => unnamed step.1
  · exact rest

end Calls

/-! ## Two calls -/

namespace TwoChanges

def path : String := "/etc/aria/worker.json"

/-- The file before the calls. -/
def initial : UnderlayWorkerDaemonConfig where
  journalGc := some { journalRoot := "/var/lib/aria/journal" }
  driftAudit := some
    { expectedShadowRoot := "/var/lib/aria/expected"
      observedShadowRoot := "/var/lib/aria/observed" }

/-- One call changes the retention of the journal, the other the schedule of the drift audit. -/
def request (call : Bool) : WorkerConfigRequest where
  requestId := if call then "req-2" else "req-1"
  traceId := none
  configPath := path
  operator := "netops"
  reason := "maintenance"

def change : Bool → WorkerSettingChange
  | false => .journalGcRetention { maxArtifactsPerDevice := 5 }
  | true => .schedule .driftAudit { intervalSecs := 60 }

/-- The calls of one request that read `current`. -/
def events (call : Bool) (current : UnderlayWorkerDaemonConfig) :
    List (Bool × Event adminSignature) :=
  (changeEvents (request call) (change call) current ⟨"netops", (change call).action⟩ 0).map
    (call, ·)

/-- The second call starts when the first one has ended. -/
def oneByOne : List (Bool × Event adminSignature) :=
  events false initial ++ events true ((change false).update initial)

/-- Both calls have read the file before either replaces it. -/
def overlapping : List (Bool × Event adminSignature) :=
  (events false initial).take 1 ++ (events true initial).take 1 ++ (events false initial).drop 1 ++
    (events true initial).drop 1

theorem interleaves {run : List (Bool × Event adminSignature)} {seen : UnderlayWorkerDaemonConfig}
    (first : ownEvents false run =
      changeEvents (request false) (change false) initial ⟨"netops", (change false).action⟩ 0)
    (second : ownEvents true run =
      changeEvents (request true) (change true) seen ⟨"netops", (change true).action⟩ 0)
    (located : (change true).locate seen = .ok ()) :
    Interleaves (fun call => (changeWorkerSetting (request call) (change call)).run) run
      fun call => .ok (changeResponse (request call) (change call)) := by
  intro call
  apply traces_changeWorkerSetting.mpr
  cases call with
  | false => exact ⟨rfl, rfl, rfl, initial, _, 0, rfl, first⟩
  | true => exact ⟨rfl, rfl, rfl, seen, _, 0, located, second⟩

variable {call : Bool} {file current : UnderlayWorkerDaemonConfig}

theorem answered_read :
    AnsweredBy (fileEnvironment Bool path) file ((events call file).take 1) file :=
  ⟨file, ⟨rfl, fun _ _ answered => (Except.ok.inj answered).symm⟩, rfl⟩

/-- Whatever the file holds by now is replaced. -/
theorem answered_replace :
    AnsweredBy (fileEnvironment Bool path) file ((events call current).drop 1)
      ((change call).update current) := by
  have replaces : FileStep path file ((change call).update current)
      (.inr (.configWrite path ((change call).update current)))
      (.ok () : Except UnderlayError Unit) := by
    simp [FileStep]
  exact ⟨file, rfl, file, rfl, file, rfl, _, replaces, rfl⟩

theorem answered_oneByOne :
    AnsweredBy (fileEnvironment Bool path) initial oneByOne
      ((change true).update ((change false).update initial)) := by
  apply answeredBy_append.mpr
  refine ⟨_, answeredBy_append.mpr ⟨_, answered_read, answered_replace⟩, ?_⟩
  exact answeredBy_append.mpr ⟨_, answered_read, answered_replace⟩

theorem answered_overlapping :
    AnsweredBy (fileEnvironment Bool path) initial overlapping ((change true).update initial) := by
  have bothRead : AnsweredBy (fileEnvironment Bool path) initial
      ((events false initial).take 1 ++ (events true initial).take 1) initial :=
    answeredBy_append.mpr ⟨initial, answered_read, answered_read⟩
  apply answeredBy_append.mpr
  refine ⟨(change false).update initial, ?_, answered_replace⟩
  exact answeredBy_append.mpr ⟨initial, bothRead, answered_replace⟩

theorem distinct_settings :
    ∀ first second, first ≠ second → (change first).setting ≠ (change second).setting := by
  decide

/-- Both changes are made when the second call waits for the first. -/
theorem changesKept_oneByOne :
    ChangesKept change initial ((change true).update ((change false).update initial)) := by
  have samePath : ∀ call, (request call).configPath = path := fun _ => rfl
  have interleaved : Interleaves
      (fun call => (changeWorkerSetting (request call) (change call)).run) oneByOne
      (fun call => .ok (changeResponse (request call) (change call))) := interleaves rfl rfl rfl
  have serialized : serializedBy (readsFile path) (replacesFile path) oneByOne = true := by
    decide +kernel
  exact changesKept_of_serialized samePath distinct_settings interleaved answered_oneByOne
    serialized

/-- Both calls succeed, but the second puts back the retention that it read before the first
changed it. -/
theorem retention_change_lost :
    Interleaves (fun call => (changeWorkerSetting (request call) (change call)).run) overlapping
        (fun call => .ok (changeResponse (request call) (change call))) ∧
      (∀ first second, first ≠ second → (change first).setting ≠ (change second).setting) ∧
      AnsweredBy (fileEnvironment Bool path) initial overlapping ((change true).update initial) ∧
      ((change true).update initial).journalGc = initial.journalGc ∧
      ¬ChangesKept change initial ((change true).update initial) := by
  refine ⟨interleaves rfl rfl rfl, distinct_settings, answered_overlapping, rfl, ?_⟩
  intro kept
  have inForce := kept.inForce false
  revert inForce
  decide +kernel

end TwoChanges

end AriaUnderlay
