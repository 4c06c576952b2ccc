import AriaUnderlay.Collections.Runs
import AriaUnderlay.Worker.Config

/-!
# Reloading the configuration

A daemon that was started with reloading enabled polls its configuration file.  A content that can
be parsed, checked and built replaces the running workers; anything else is recorded as rejected.
Two fingerprints are remembered: of the content that was adopted last and of the content that was
read last.  Only the second one decides whether a content is new.

The workers always come from the acceptable content that was observed last.  Coming back to the
content that is already running is where the loop fails: after a rejected content it restarts the
workers, and after a read error it leaves the checkpoint rejected.  `reloadFollows_iff` says that
these are the only failures.
-/

namespace AriaUnderlay

open Collections Effect

/-- The bytes of a file. -/
abbrev Payload : Type := List UInt8

/-- The FNV-1a hash of the content in hexadecimal, and its length. -/
def payloadFingerprint (payload : Payload) : String :=
  let hash := payload.foldl
    (fun (hash : UInt64) byte => (hash ^^^ byte.toUInt64) * 0x100000001b3) 0xcbf29ce484222325
  String.ofList ((Nat.toDigits 16 hash.toNat).leftpad 16 '0') ++ ":" ++ toString payload.length

/-- How a reload ends. -/
inductive WorkerConfigReloadStatus where
  | started
  | applied
  | rejected
  | shutdown
  deriving DecidableEq, Repr

/-- What the loop writes about a reload. -/
structure WorkerReloadCheckpoint where
  configPath : String
  generation : UInt64
  fingerprint : String
  status : WorkerConfigReloadStatus
  updatedAtUnixSecs : ℕ
  error : Option String
  deriving DecidableEq, Repr

/-- The path of the configuration file and the JSON parser. -/
structure ReloadEnv where
  configPath : String
  fromSlice : Payload → Except String UnderlayWorkerDaemonConfig

/-- What one tick of the poll finds. -/
structure PollTick where
  read : Except String Payload
  now : ℕ

/-- The variables of the loop, the workers that run, and the checkpoint file.  `spawned` counts the
runtimes that were started. -/
structure ReloadState where
  generation : UInt64
  adoptedFingerprint : String
  lastSeenFingerprint : String
  running : UnderlayWorkerDaemon
  spawned : ℕ
  checkpoint : WorkerReloadCheckpoint
  deriving DecidableEq, Repr

namespace ReloadEnv

variable (env : ReloadEnv)

/-- The configuration in a content. -/
def parseWorkerConfigPayload (payload : Payload) :
    Except UnderlayError UnderlayWorkerDaemonConfig :=
  (env.fromSlice payload).mapError fun text =>
    .invalidIntent ("parse worker daemon config " ++ debugPath env.configPath ++ ": " ++ text)

/-- The workers for a content that can be parsed, checked and built. -/
def candidateDaemon (payload : Payload) : Except UnderlayError UnderlayWorkerDaemon := do
  let config ← env.parseWorkerConfigPayload payload
  validateWorkerConfigForRuntime config
  UnderlayWorkerDaemon.fromConfig config

/-- The checkpoint for the given state of the loop. -/
def reloadCheckpoint (generation : UInt64) (fingerprint : String)
    (status : WorkerConfigReloadStatus) (now : ℕ) (error : Option String) :
    WorkerReloadCheckpoint where
  configPath := env.configPath
  generation := generation
  fingerprint := fingerprint
  status := status
  updatedAtUnixSecs := now
  error := error

/-- The workers run on, and the checkpoint names the content that they come from. -/
def reject (state : ReloadState) (now : ℕ) (message : String) : ReloadState :=
  { state with
    checkpoint := env.reloadCheckpoint state.generation state.adoptedFingerprint .rejected now
      (some message) }

/-- The start of the loop; without an enabled reload section the workers run without it. -/
def startReloadable (initialPayload : Payload) (now : ℕ) :
    Except UnderlayError (Option ReloadState) := do
  let config ← env.parseWorkerConfigPayload initialPayload
  validateWorkerConfigForRuntime config
  match config.reload.filter (·.enabled) with
  | none => return none
  | some reload => do
      refuseIf (reload.checkpointPath = none)
        (.invalidIntent "reload.checkpoint_path is required when enabled")
      let daemon ← UnderlayWorkerDaemon.fromConfig config
      let fingerprint := payloadFingerprint initialPayload
      return some
        { generation := 1
          adoptedFingerprint := fingerprint
          lastSeenFingerprint := fingerprint
          running := daemon
          spawned := 1
          checkpoint := env.reloadCheckpoint 1 fingerprint .started now none }

/-- One tick of the poll.  The generation wraps, as in a release build. -/
def poll (state : ReloadState) (tick : PollTick) : ReloadState :=
  match tick.read with
  | .error text =>
      env.reject state tick.now
        ("read worker daemon config " ++ debugPath env.configPath ++ ": " ++ text)
  | .ok payload =>
      let candidateFingerprint := payloadFingerprint payload
      if candidateFingerprint = state.lastSeenFingerprint then state
      else
        let state := { state with lastSeenFingerprint := candidateFingerprint }
        match env.candidateDaemon payload with
        | .error error => env.reject state tick.now error.display
        | .ok daemon =>
            { generation := state.generation + 1
              adoptedFingerprint := candidateFingerprint
              lastSeenFingerprint := candidateFingerprint
              running := daemon
              spawned := state.spawned + 1
              checkpoint := env.reloadCheckpoint (state.generation + 1) candidateFingerprint
                .applied tick.now none }

/-- The ticks one after the other. -/
def pollAll (state : ReloadState) (ticks : List PollTick) : ReloadState :=
  ticks.foldl env.poll state

/-! ## What was observed -/

/-- The workers can be built from the content. -/
def Accepts (payload : Payload) : Prop :=
  ∃ daemon, env.candidateDaemon payload = .ok daemon

instance (payload : Payload) : Decidable (env.Accepts payload) :=
  match found : env.candidateDaemon payload with
  | .ok daemon => .isTrue ⟨daemon, found⟩
  | .error _ => .isFalse (by simp [Accepts, found])

/-- The acceptable content that was observed last; the initial one was observed first. -/
def latestAccepted (initial : Payload) (ticks : List PollTick) : Payload :=
  ticks.foldl (fun latest tick =>
    match tick.read with
    | .ok payload => if env.Accepts payload then payload else latest
    | .error _ => latest) initial

end ReloadEnv

/-- The content that was read last. -/
def lastRead (initial : Payload) (ticks : List PollTick) : Payload :=
  ticks.foldl (fun last tick =>
    match tick.read with
    | .ok payload => payload
    | .error _ => last) initial

/-- What the last tick found, or else the initial content. -/
def lastObserved (initial : Payload) (ticks : List PollTick) : Except String Payload :=
  (ticks.getLast?.map (·.read)).getD (.ok initial)

/-- The contents that a run has seen. -/
def observedPayloads (initial : Payload) (ticks : List PollTick) : List Payload :=
  initial :: ticks.filterMap fun tick => tick.read.toOption

namespace ReloadEnv

variable (env : ReloadEnv)

/-- After the tick, the workers come from the acceptable content that was observed last; they were
not restarted for the content that was running; and the checkpoint is rejected exactly when the tick
found no acceptable content. -/
structure TickFollows (initial : Payload) (start : ReloadState) (earlier : List PollTick)
    (tick : PollTick) : Prop where
  running : env.candidateDaemon (env.latestAccepted initial (earlier ++ [tick])) =
    .ok (env.pollAll start (earlier ++ [tick])).running
  unchanged : tick.read = .ok (env.latestAccepted initial earlier) →
    (env.pollAll start (earlier ++ [tick])).spawned = (env.pollAll start earlier).spawned ∧
      (env.pollAll start (earlier ++ [tick])).generation = (env.pollAll start earlier).generation
  status : (env.pollAll start (earlier ++ [tick])).checkpoint.status = .rejected ↔
    ∀ payload, tick.read = .ok payload → ¬env.Accepts payload

/-- Every tick of the run does so. -/
def ReloadFollows (initial : Payload) (start : ReloadState) (ticks : List PollTick) : Prop :=
  EachStep (env.TickFollows initial start) ticks

/-- Whenever a tick finds the content that is running, the observation before found it as well. -/
def RunningContentStays (initial : Payload) (ticks : List PollTick) : Prop :=
  EachStep (fun earlier tick =>
    tick.read = .ok (env.latestAccepted initial earlier) →
      lastObserved initial earlier = .ok (env.latestAccepted initial earlier)) ticks

/-! ## One tick -/

/-- What the loop has remembered after some ticks. -/
structure Tracks (initial : Payload) (ticks : List PollTick) (state : ReloadState) : Prop where
  lastSeen : state.lastSeenFingerprint = payloadFingerprint (lastRead initial ticks)
  running : env.candidateDaemon (env.latestAccepted initial ticks) = .ok state.running
  settled : env.Accepts (lastRead initial ticks) →
    lastRead initial ticks = env.latestAccepted initial ticks
  unread : ∀ payload, lastObserved initial ticks = .ok payload → payload = lastRead initial ticks

/-- The checkpoint is rejected exactly when the last observation was no acceptable content. -/
def StatusMatches (initial : Payload) (ticks : List PollTick) (state : ReloadState) : Prop :=
  state.checkpoint.status = .rejected ↔
    ∀ payload, lastObserved initial ticks = .ok payload → ¬env.Accepts payload

variable {env}
variable {initial : Payload} {ticks earlier : List PollTick} {tick : PollTick}
variable {start state : ReloadState}

@[simp]
theorem pollAll_append :
    env.pollAll start (ticks ++ [tick]) = env.poll (env.pollAll start ticks) tick := by
  simp [pollAll]

@[simp]
theorem lastObserved_append : lastObserved initial (ticks ++ [tick]) = tick.read := by
  simp [lastObserved]

theorem lastRead_append_ok {payload : Payload} (read : tick.read = .ok payload) :
    lastRead initial (ticks ++ [tick]) = payload := by
  simp [lastRead, read]

theorem lastRead_append_error {text : String} (failed : tick.read = .error text) :
    lastRead initial (ticks ++ [tick]) = lastRead initial ticks := by
  simp [lastRead, failed]

theorem latestAccepted_append_ok {payload : Payload} (read : tick.read = .ok payload)
    (accepted : env.Accepts payload) :
    env.latestAccepted initial (ticks ++ [tick]) = payload := by
  simp [latestAccepted, read, accepted]

theorem latestAccepted_append_refused {payload : Payload} (read : tick.read = .ok payload)
    (refused : ¬env.Accepts payload) :
    env.latestAccepted initial (ticks ++ [tick]) = env.latestAccepted initial ticks := by
  simp [latestAccepted, read, refused]

theorem latestAccepted_append_error {text : String} (failed : tick.read = .error text) :
    env.latestAccepted initial (ticks ++ [tick]) = env.latestAccepted initial ticks := by
  simp [latestAccepted, failed]

theorem poll_error (env : ReloadEnv) (state : ReloadState) {text : String}
    (failed : tick.read = .error text) :
    ∃ message, env.poll state tick = env.reject state tick.now message := by
  simp only [poll, failed]
  exact ⟨_, rfl⟩

theorem poll_seen {payload : Payload} (read : tick.read = .ok payload)
    (seen : payloadFingerprint payload = state.lastSeenFingerprint) :
    env.poll state tick = state := by
  simp only [poll, read, if_pos seen]

theorem poll_refused {payload : Payload} (read : tick.read = .ok payload)
    (new : payloadFingerprint payload ≠ state.lastSeenFingerprint)
    (refused : ¬env.Accepts payload) :
    ∃ message, env.poll state tick =
      env.reject { state with lastSeenFingerprint := payloadFingerprint payload } tick.now
        message := by
  cases built : env.candidateDaemon payload with
  | ok daemon => exact absurd ⟨daemon, built⟩ refused
  | error error =>
      simp only [poll, read, if_neg new, built]
      exact ⟨_, rfl⟩

theorem poll_accepted {payload : Payload} {daemon : UnderlayWorkerDaemon}
    (read : tick.read = .ok payload) (new : payloadFingerprint payload ≠ state.lastSeenFingerprint)
    (built : env.candidateDaemon payload = .ok daemon) :
    env.poll state tick =
      { generation := state.generation + 1
        adoptedFingerprint := payloadFingerprint payload
        lastSeenFingerprint := payloadFingerprint payload
        running := daemon
        spawned := state.spawned + 1
        checkpoint := env.reloadCheckpoint (state.generation + 1) (payloadFingerprint payload)
          .applied tick.now none } := by
  simp only [poll, read, if_neg new, built]

theorem tracks_start {now : ℕ} (started : env.startReloadable initial now = .ok (some start)) :
    env.Tracks initial [] start ∧ env.StatusMatches initial [] start := by
  simp only [startReloadable, bind_eq_ok] at started
  rcases started with ⟨config, parsed, ⟨⟩, validated, rest⟩
  cases enabled : config.reload.filter (·.enabled) with
  | none => simp [enabled, pure, Except.pure] at rest
  | some reload =>
      simp only [enabled, bind_eq_ok] at rest
      rcases rest with ⟨-, -, daemon, built, made⟩
      have isStart := Option.some.inj (Except.ok.inj made)
      have candidate : env.candidateDaemon initial = .ok daemon := by
        simp only [candidateDaemon, bind_eq_ok]
        exact ⟨config, parsed, (), validated, built⟩
      subst isStart
      refine ⟨⟨rfl, candidate, fun _ => rfl, ?_⟩, ?_⟩
      · intro payload observed
        exact (Except.ok.inj observed).symm
      · have accepted : env.Accepts initial := ⟨daemon, candidate⟩
        simp [StatusMatches, reloadCheckpoint, lastObserved, accepted]

theorem accepts_latestAccepted (tracks : env.Tracks initial ticks state) :
    env.Accepts (env.latestAccepted initial ticks) :=
  ⟨state.running, tracks.running⟩

/-- What is remembered is right after every tick, as long as fingerprints tell contents apart. -/
theorem tracks_poll (tracks : env.Tracks initial ticks state)
    (apart : ∀ payload, tick.read = .ok payload →
      payloadFingerprint payload = payloadFingerprint (lastRead initial ticks) →
        payload = lastRead initial ticks) :
    env.Tracks initial (ticks ++ [tick]) (env.poll state tick) := by
  cases read : tick.read with
  | error text =>
      rcases poll_error env state read with ⟨message, polled⟩
      rw [polled]
      refine ⟨?_, ?_, ?_, ?_⟩
      · rw [lastRead_append_error read]
        exact tracks.lastSeen
      · rw [latestAccepted_append_error read]
        exact tracks.running
      · rw [lastRead_append_error read, latestAccepted_append_error read]
        exact tracks.settled
      · simp [read]
  | ok payload =>
      have observed : ∀ found, lastObserved initial (ticks ++ [tick]) = .ok found →
          found = lastRead initial (ticks ++ [tick]) := by
        intro found isFound
        rw [lastObserved_append, read] at isFound
        rw [lastRead_append_ok read]
        exact (Except.ok.inj isFound).symm
      by_cases accepted : env.Accepts payload
      · have settled : lastRead initial (ticks ++ [tick]) =
            env.latestAccepted initial (ticks ++ [tick]) := by
          rw [lastRead_append_ok read, latestAccepted_append_ok read accepted]
        by_cases seen : payloadFingerprint payload = state.lastSeenFingerprint
        · rw [poll_seen read seen]
          have same := apart payload read (seen.trans tracks.lastSeen)
          refine ⟨?_, ?_, fun _ => settled, observed⟩
          · rw [lastRead_append_ok read, ← seen]
          · rw [latestAccepted_append_ok read accepted, same,
              tracks.settled (same ▸ accepted)]
            exact tracks.running
        · rcases accepted with ⟨daemon, built⟩
          rw [poll_accepted read seen built]
          refine ⟨?_, ?_, fun _ => settled, observed⟩
          · rw [lastRead_append_ok read]
          · rw [latestAccepted_append_ok read ⟨daemon, built⟩]
            exact built
      · have settled : env.Accepts (lastRead initial (ticks ++ [tick])) →
            lastRead initial (ticks ++ [tick]) =
              env.latestAccepted initial (ticks ++ [tick]) := by
          rw [lastRead_append_ok read]
          exact fun isAccepted => absurd isAccepted accepted
        by_cases seen : payloadFingerprint payload = state.lastSeenFingerprint
        · rw [poll_seen read seen]
          refine ⟨?_, ?_, settled, observed⟩
          · rw [lastRead_append_ok read, ← seen]
          · rw [latestAccepted_append_refused read accepted]
            exact tracks.running
        · rcases poll_refused read seen accepted with ⟨message, polled⟩
          rw [polled]
          refine ⟨?_, ?_, settled, observed⟩
          · rw [lastRead_append_ok read]
            rfl
          · rw [latestAccepted_append_refused read accepted]
            exact tracks.running

/-- The two parts of `TickFollows` that can fail. -/
theorem unchanged_and_status_iff (tracks : env.Tracks initial ticks state)
    (statusMatches : env.StatusMatches initial ticks state)
    (apart : ∀ payload, tick.read = .ok payload →
      payloadFingerprint payload = payloadFingerprint (lastRead initial ticks) →
        payload = lastRead initial ticks) :
    ((tick.read = .ok (env.latestAccepted initial ticks) →
        (env.poll state tick).spawned = state.spawned ∧
          (env.poll state tick).generation = state.generation) ∧
      ((env.poll state tick).checkpoint.status = .rejected ↔
        ∀ payload, tick.read = .ok payload → ¬env.Accepts payload)) ↔
      (tick.read = .ok (env.latestAccepted initial ticks) →
        lastObserved initial ticks = .ok (env.latestAccepted initial ticks)) := by
  have latest := accepts_latestAccepted tracks
  cases read : tick.read with
  | error text =>
      rcases poll_error env state read with ⟨message, polled⟩
      simp [polled, reject, reloadCheckpoint]
  | ok payload =>
      by_cases accepted : env.Accepts payload
      · by_cases seen : payloadFingerprint payload = state.lastSeenFingerprint
        · -- nothing happens, so the status has to be right already
          have same : payload = lastRead initial ticks :=
            apart payload read (seen.trans tracks.lastSeen)
          have isLatest : payload = env.latestAccepted initial ticks := by
            rw [same]
            exact tracks.settled (same ▸ accepted)
          have rejected : state.checkpoint.status = .rejected ↔
              lastObserved initial ticks ≠ .ok payload := by
            rw [StatusMatches] at statusMatches
            rw [statusMatches]
            constructor
            · intro none found
              exact none payload found accepted
            · intro other found isFound _
              rw [tracks.unread found isFound, ← same] at isFound
              exact other isFound
          rw [poll_seen read seen]
          simp only [Except.ok.injEq, isLatest, forall_const, true_and, forall_eq',
            latest, not_true_eq_false, iff_false, and_self]
          rw [rejected, isLatest, not_not]
        · -- the workers are replaced, which must not happen for the content that is running
          rcases accepted with ⟨daemon, built⟩
          have accepted : env.Accepts payload := ⟨daemon, built⟩
          have notObserved : lastObserved initial ticks ≠ .ok payload := by
            intro observed
            have isLast := tracks.unread payload observed
            rw [tracks.lastSeen, isLast] at seen
            exact seen rfl
          rw [poll_accepted read seen built]
          simp only [Except.ok.injEq, reloadCheckpoint, forall_eq', accepted, not_true_eq_false,
            reduceCtorEq, and_true, Nat.succ_ne_self, false_and, imp_false]
          constructor
          · intro different isLatest
            exact absurd isLatest different
          · intro stays isLatest
            rw [← isLatest] at stays
            exact notObserved (stays rfl)
      · -- a refused content is not the one that is running, and leaves the status rejected
        have different : payload ≠ env.latestAccepted initial ticks := by
          intro same
          exact accepted (same ▸ latest)
        have isRejected : (env.poll state tick).checkpoint.status = .rejected := by
          by_cases seen : payloadFingerprint payload = state.lastSeenFingerprint
          · have same := apart payload read (seen.trans tracks.lastSeen)
            rw [poll_seen read seen]
            apply statusMatches.mpr
            intro found isFound
            rw [tracks.unread found isFound, ← same]
            exact accepted
          · rcases poll_refused read seen accepted with ⟨message, polled⟩
            rw [polled]
            rfl
        simp [different, isRejected, accepted]

/-! ## A whole run -/

theorem lastRead_mem_observedPayloads (initial : Payload) (ticks : List PollTick) :
    lastRead initial ticks ∈ observedPayloads initial ticks := by
  induction ticks using List.reverseRecOn with
  | nil => simp [lastRead, observedPayloads]
  | append_singleton ticks tick ih =>
      cases read : tick.read with
      | ok payload =>
          rw [lastRead_append_ok read]
          simp [observedPayloads, read, Except.toOption]
      | error text =>
          rw [lastRead_append_error read]
          simpa [observedPayloads, read, Except.toOption] using ih

/-- No two of the contents have the same fingerprint. -/
def CollisionFree (payloads : List Payload) : Prop :=
  ∀ first ∈ payloads, ∀ second ∈ payloads,
    payloadFingerprint first = payloadFingerprint second → first = second

theorem apart_of_collisionFree
    (collisionFree : CollisionFree (observedPayloads initial (ticks ++ [tick]))) :
    CollisionFree (observedPayloads initial ticks) ∧
      ∀ payload, tick.read = .ok payload →
        payloadFingerprint payload = payloadFingerprint (lastRead initial ticks) →
          payload = lastRead initial ticks := by
  have grows : observedPayloads initial ticks ⊆ observedPayloads initial (ticks ++ [tick]) := by
    intro payload member
    simp only [observedPayloads, List.filterMap_append, List.mem_cons, List.mem_append] at member ⊢
    rcases member with first | later
    · exact .inl first
    · exact .inr (.inl later)
  constructor
  · intro first firstMember second secondMember
    exact collisionFree first (grows firstMember) second (grows secondMember)
  · intro payload read
    have member : payload ∈ observedPayloads initial (ticks ++ [tick]) := by
      simp [observedPayloads, read, Except.toOption]
    exact collisionFree payload member _ (grows (lastRead_mem_observedPayloads initial ticks))

theorem tracks_pollAll (tracks : env.Tracks initial [] start)
    (collisionFree : CollisionFree (observedPayloads initial ticks)) :
    env.Tracks initial ticks (env.pollAll start ticks) := by
  induction ticks using List.reverseRecOn with
  | nil => exact tracks
  | append_singleton ticks tick ih =>
      rcases apart_of_collisionFree collisionFree with ⟨before, apart⟩
      rw [pollAll_append]
      exact tracks_poll (ih before) apart

theorem statusMatches_pollAll (atStart : env.StatusMatches initial [] start)
    (follows : env.ReloadFollows initial start ticks) :
    env.StatusMatches initial ticks (env.pollAll start ticks) := by
  induction ticks using List.reverseRecOn with
  | nil => exact atStart
  | append_singleton ticks tick _ =>
      have last := follows ticks tick (List.prefix_refl _)
      rw [StatusMatches, lastObserved_append]
      exact last.status

/-- The reload loop follows its file exactly on the runs in which the content that is running is
not left and found again. -/
theorem reloadFollows_iff {now : ℕ} (started : env.startReloadable initial now = .ok (some start))
    (collisionFree : CollisionFree (observedPayloads initial ticks)) :
    env.ReloadFollows initial start ticks ↔ env.RunningContentStays initial ticks := by
  rcases tracks_start started with ⟨tracksStart, statusStart⟩
  induction ticks using List.reverseRecOn with
  | nil => simp [ReloadFollows, RunningContentStays]
  | append_singleton ticks tick ih =>
      rcases apart_of_collisionFree collisionFree with ⟨before, apart⟩
      have tracks := tracks_pollAll tracksStart before
      rw [ReloadFollows, RunningContentStays, eachStep_append_singleton,
        eachStep_append_singleton, ← ReloadFollows, ← RunningContentStays, ← ih before]
      apply and_congr_right
      intro follows
      rw [← unchanged_and_status_iff tracks (statusMatches_pollAll statusStart follows) apart,
        ← pollAll_append]
      constructor
      · intro tickFollows
        exact ⟨tickFollows.unchanged, tickFollows.status⟩
      · rintro ⟨unchanged, status⟩
        have running := (tracks_poll tracks apart).running
        rw [← pollAll_append] at running
        exact ⟨running, unchanged, status⟩

/-! ## Coming back to the running content -/

/-- A configuration that only collects the journals of a directory. -/
def collectFrom (journalRoot : String) : UnderlayWorkerDaemonConfig where
  reload := some { enabled := true, checkpointPath := some "reload" }
  journalGc := some { journalRoot := journalRoot }

/-- The JSON text of such a configuration, in bytes. -/
def workerJson (journalRoot : String) : Payload :=
  ("\x7b\"reload\":\x7b\"enabled\":true,\"checkpoint_path\":\"reload\"\x7d,\"journal_gc\":" ++
    "\x7b\"journal_root\":\"" ++ journalRoot ++ "\"\x7d\x7d").toList.map (·.toUInt8)

/-- The file with one of two journal directories, or cut off after its first byte. -/
def workerFile : ReloadEnv where
  configPath := "/etc/aria/worker.json"
  fromSlice := fun payload =>
    if payload = workerJson "old" then .ok (collectFrom "old")
    else if payload = workerJson "new" then .ok (collectFrom "new")
    else .error "EOF while parsing an object at line 1 column 1"

def workerStart : ReloadState where
  generation := 1
  adoptedFingerprint := payloadFingerprint (workerJson "old")
  lastSeenFingerprint := payloadFingerprint (workerJson "old")
  running := { journalGc := (collectFrom "old").journalGc }
  spawned := 1
  checkpoint :=
    workerFile.reloadCheckpoint 1 (payloadFingerprint (workerJson "old")) .started 100 none

-- the contents are evaluated by the kernel only
attribute [local irreducible] workerJson

theorem workerFile_started :
    workerFile.startReloadable (workerJson "old") 100 = .ok (some workerStart) := by
  decide +kernel

theorem CollisionFree.mono {payloads contents : List Payload} (free : CollisionFree contents)
    (covered : payloads ⊆ contents) :
    CollisionFree payloads :=
  fun first isFirst second isSecond => free first (covered isFirst) second (covered isSecond)

theorem collisionFree_workerJson :
    CollisionFree [workerJson "old", workerJson "new", [0x7b]] := by
  unfold CollisionFree
  decide +kernel

/-- The workers go on with a content while others are refused, and take over a new one. -/
theorem reloadFollows_workerFile :
    workerFile.ReloadFollows (workerJson "old") workerStart
      [⟨.ok (workerJson "old"), 105⟩, ⟨.ok [0x7b], 110⟩, ⟨.error "not found", 115⟩,
        ⟨.ok (workerJson "new"), 120⟩, ⟨.ok (workerJson "new"), 125⟩] :=
  (reloadFollows_iff workerFile_started (collisionFree_workerJson.mono
    (by simp [observedPayloads, Except.toOption]))).mpr
      (by unfold RunningContentStays; decide +kernel)

/-- After one read error the file is back with the content that is running, and the checkpoint
stays rejected. -/
theorem rejected_after_read_error :
    workerFile.startReloadable (workerJson "old") 100 = .ok (some workerStart) ∧
      CollisionFree (observedPayloads (workerJson "old")
        [⟨.error "not found", 105⟩, ⟨.ok (workerJson "old"), 110⟩]) ∧
      ¬workerFile.ReloadFollows (workerJson "old") workerStart
        [⟨.error "not found", 105⟩, ⟨.ok (workerJson "old"), 110⟩] := by
  refine ⟨workerFile_started, collisionFree_workerJson.mono
    (by simp [observedPayloads, Except.toOption]), ?_⟩
  intro follows
  have status := (follows [⟨.error "not found", 105⟩] ⟨.ok (workerJson "old"), 110⟩
    (List.prefix_refl _)).status
  have rejected : (workerFile.pollAll workerStart
      [⟨.error "not found", 105⟩, ⟨.ok (workerJson "old"), 110⟩]).checkpoint.status =
        .rejected := by
    decide +kernel
  have accepted : workerFile.Accepts (workerJson "old") := by
    decide +kernel
  exact status.mp rejected _ rfl accepted

end ReloadEnv

end AriaUnderlay
