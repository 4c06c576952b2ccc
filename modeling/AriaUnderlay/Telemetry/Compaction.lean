import AriaUnderlay.Collections.Newest
import AriaUnderlay.Worker.Config
import AriaUnderlay.Worker.OperationAlerts

/-!
# Compaction of summaries and audit records

Operation summaries and operation audit records are kept in a file with one JSON object per line.
Compaction drops the oldest records until the file meets the retention limits, after it has moved
the old file into the first of a number of archives.  Both stores run the same code on their own
records; `JsonLinesStore` is this code, and the stores are its two instances.
-/

namespace AriaUnderlay

open Collections

/-! ## Lines -/

/-- `str::lines`: the pieces between line feeds, without a carriage return before the line feed.
What follows the last line feed is a line unless it is empty. -/
def lines (text : String) : List String :=
  let pieces := text.toList.splitOn '\n'
  let terminated := pieces.dropLast.map fun piece =>
    if piece.getLast? = some '\r' then piece.dropLast else piece
  let rest := pieces.getLast?.getD []
  (terminated ++ if rest = [] then [] else [rest]).map String.ofList

/-! ## Stores -/

/-- How a record is written to JSON and read back. -/
structure Serde (Record : Type) where
  encode : Record → String
  decode : String → Except String Record

/-- A record can be read back from its JSON object, which takes no more than one line. -/
structure Serde.RoundTrips {Record : Type} (serde : Serde Record) (record : Record) : Prop where
  decodes : serde.decode (serde.encode record) = .ok record
  object : ∃ body, serde.encode record = "\x7b" ++ body ++ "\x7d"
  oneLine : '\n' ∉ (serde.encode record).toList

/-- The limits of a file and its archives. -/
structure RetentionLimits where
  maxRecords : Option ℕ
  maxBytes : Option ℕ
  maxRotatedFiles : ℕ

/-- What a compaction has done. -/
structure CompactionReport where
  compacted : Bool := false
  recordsBefore : ℕ := 0
  recordsAfter : ℕ := 0
  recordsDropped : ℕ := 0
  bytesBefore : ℕ := 0
  bytesAfter : ℕ := 0
  rotatedFiles : ℕ := 0
  deriving DecidableEq, Repr

/-- The active file and the archives by generation. -/
structure LogFiles where
  active : Option String
  archives : ℕ → Option String

/-- A file with one JSON object per line. -/
structure JsonLinesStore (Record : Type) where
  /-- What the records are called in messages. -/
  noun : String
  path : String
  serde : Serde Record

namespace JsonLinesStore

variable {Record : Type} (store : JsonLinesStore Record)

/-- The line of a record. -/
def encodeLine (record : Record) : String :=
  store.serde.encode record ++ "\n"

/-- The file of some records. -/
def encodeRecords (records : List Record) : String :=
  String.join (records.map store.encodeLine)

/-- The part of `record_event` after the event has become a record. -/
def append (files : LogFiles) (record : Record) : LogFiles :=
  { files with active := some (files.active.getD "" ++ store.encodeLine record) }

def parseNumbered : ℕ → List String → Except UnderlayError (List Record)
  | _, [] => .ok []
  | index, line :: rest =>
      if trim line = "" then parseNumbered (index + 1) rest
      else
        match store.serde.decode line with
        | .error text =>
            .error (.internal ("parse " ++ store.noun ++ " " ++ debugPath store.path ++ " line " ++
              toString (index + 1) ++ ": " ++ text))
        | .ok record => do
            let records ← parseNumbered (index + 1) rest
            return record :: records

/-- The records of a file. -/
def parseLines (payload : String) : Except UnderlayError (List Record) :=
  store.parseNumbered 0 (lines payload)

/-- The length of a line. -/
def lineBytes (record : Record) : ℕ :=
  (store.encodeLine record).utf8ByteSize

def retain (records : List Record) (limits : RetentionLimits) : List Record :=
  let start := match limits.maxRecords with
    | some maxRecords => records.length - maxRecords
    | none => 0
  let candidates := records.drop start
  match limits.maxBytes with
  | none => candidates
  | some maxBytes => (takeWithin store.lineBytes maxBytes 0 candidates.reverse).reverse

end JsonLinesStore

/-- One round of the loop: the oldest archive is removed, and any other takes the place of the next
one. -/
def rotateGeneration (maxRotatedFiles generation : ℕ) (archives : ℕ → Option String) :
    ℕ → Option String :=
  if generation = maxRotatedFiles then Function.update archives generation none
  else
    match archives generation with
    | none => archives
    | some payload =>
        Function.update (Function.update archives (generation + 1) (some payload)) generation none

/-- The loop from a generation down to the first one. -/
def rotateFrom (maxRotatedFiles : ℕ) : ℕ → (ℕ → Option String) → ℕ → Option String
  | 0, archives => archives
  | generation + 1, archives =>
      rotateFrom maxRotatedFiles generation
        (rotateGeneration maxRotatedFiles (generation + 1) archives)

def rotateActivePayload (activePayload : String) (maxRotatedFiles : ℕ) (files : LogFiles) :
    ℕ × LogFiles :=
  if maxRotatedFiles = 0 then (0, files)
  else
    let rotated := rotateFrom maxRotatedFiles maxRotatedFiles files.archives
    (1, { files with archives := Function.update rotated 1 (some activePayload) })

/-- Compaction after the policy has been checked. -/
def JsonLinesStore.compact {Record : Type} (store : JsonLinesStore Record)
    (limits : RetentionLimits) (files : LogFiles) :
    Except UnderlayError CompactionReport × LogFiles :=
  match files.active with
  | none => (.ok {}, files)
  | some activePayload =>
      match store.parseLines activePayload with
      | .error error => (.error error, files)
      | .ok records =>
          let retained := store.retain records limits
          let retainedPayload := store.encodeRecords retained
          let bytesBefore := activePayload.utf8ByteSize
          let bytesAfter := retainedPayload.utf8ByteSize
          let recordsDropped := records.length - retained.length
          let sizeReduced := match limits.maxBytes with
            | some maxBytes => decide (bytesBefore > maxBytes ∧ bytesAfter < bytesBefore)
            | none => false
          let compacted := recordsDropped > 0 || sizeReduced
          let report : CompactionReport :=
            { compacted
              recordsBefore := records.length
              recordsAfter := retained.length
              recordsDropped
              bytesBefore
              bytesAfter
              rotatedFiles := 0 }
          if compacted then
            let (rotatedFiles, rotated) :=
              rotateActivePayload activePayload limits.maxRotatedFiles files
            (.ok { report with rotatedFiles }, { rotated with active := some retainedPayload })
          else (.ok report, files)

/-! ### Summaries -/

/-- The limits of a policy. -/
def OperationSummaryRetentionPolicy.limits (policy : OperationSummaryRetentionPolicy) :
    RetentionLimits where
  maxRecords := policy.maxRecords.map UInt64.toNat
  maxBytes := policy.maxBytes.map UInt64.toNat
  maxRotatedFiles := policy.maxRotatedFiles.toNat

/-- The file of summaries. -/
def jsonFileOperationSummaryStore (path : String) (serde : Serde OperationSummary) :
    JsonLinesStore OperationSummary where
  noun := "operation summary"
  path := path
  serde := serde

/-- Compact the summaries. -/
def compactOperationSummaries (path : String) (serde : Serde OperationSummary)
    (policy : OperationSummaryRetentionPolicy) (files : LogFiles) :
    Except UnderlayError CompactionReport × LogFiles :=
  match policy.validate with
  | .error error => (.error error, files)
  | .ok () => (jsonFileOperationSummaryStore path serde).compact policy.limits files

/-! ### Audit records -/

/-- One audit record. -/
structure OperationAuditRecord where
  appendedAtUnixSecs : ℕ
  requestId : String
  traceId : String
  txId : Option String
  deviceId : Option DeviceId
  action : String
  result : String
  operatorId : Option String
  reason : Option String
  errorCode : Option String
  errorMessage : Option String
  fields : BTreeMap String String

/-- The limits of a policy. -/
def OperationAuditRetentionPolicy.limits (policy : OperationAuditRetentionPolicy) :
    RetentionLimits where
  maxRecords := policy.maxRecords.map UInt64.toNat
  maxBytes := policy.maxBytes.map UInt64.toNat
  maxRotatedFiles := policy.maxRotatedFiles.toNat

/-- The file of audit records. -/
def jsonFileOperationAuditStore (path : String) (serde : Serde OperationAuditRecord) :
    JsonLinesStore OperationAuditRecord where
  noun := "operation audit"
  path := path
  serde := serde

/-- Compact the audit records. -/
def compactOperationAudits (path : String) (serde : Serde OperationAuditRecord)
    (policy : OperationAuditRetentionPolicy) (files : LogFiles) :
    Except UnderlayError CompactionReport × LogFiles :=
  match policy.validate with
  | .error error => (.error error, files)
  | .ok () => (jsonFileOperationAuditStore path serde).compact policy.limits files

/-! ## What compaction is for -/

namespace JsonLinesStore

variable {Record : Type} (store : JsonLinesStore Record)

/-- The file holds these records, one per line. -/
def Holds (files : LogFiles) (records : List Record) : Prop :=
  files.active = some (store.encodeRecords records)

/-- The records are within both limits. -/
def Fits (limits : RetentionLimits) (records : List Record) : Prop :=
  (∀ maxRecords, limits.maxRecords = some maxRecords → records.length ≤ maxRecords) ∧
    ∀ maxBytes, limits.maxBytes = some maxBytes →
      (store.encodeRecords records).utf8ByteSize ≤ maxBytes

end JsonLinesStore

/-- Every archive has moved on by one generation and the old active file is the first archive.
Files beyond the last generation are left alone. -/
structure Rotated (maxRotatedFiles : ℕ) (before after : LogFiles) : Prop where
  newest : after.archives 1 = before.active
  moved : ∀ generation, 1 ≤ generation → generation < maxRotatedFiles →
    after.archives (generation + 1) = before.archives generation
  others : ∀ generation, generation = 0 ∨ maxRotatedFiles < generation →
    after.archives generation = before.archives generation

/-- The file holds the newest records that are within the limits.  If this is not all of them, the
archives have rotated, and otherwise they are as before. -/
def JsonLinesStore.KeepsNewest {Record : Type} (store : JsonLinesStore Record)
    (limits : RetentionLimits) (records : List Record) (before after : LogFiles) : Prop :=
  ∃ retained, LongestSuffix (store.Fits limits) records retained ∧ store.Holds after retained ∧
    (retained ≠ records → 0 < limits.maxRotatedFiles →
      Rotated limits.maxRotatedFiles before after) ∧
    (retained = records ∨ limits.maxRotatedFiles = 0 → after.archives = before.archives)

/-! ## Reading the lines back -/

theorem splitOn_lines {pieces : List (List Char)} (noFeed : ∀ piece ∈ pieces, '\n' ∉ piece) :
    (pieces.flatMap (· ++ ['\n'])).splitOn '\n' = pieces ++ [[]] := by
  induction pieces with
  | nil => rfl
  | cons piece rest ih =>
      have first : '\n' ∉ piece := noFeed piece List.mem_cons_self
      have later := ih fun other member => noFeed other (List.mem_cons_of_mem _ member)
      rw [List.flatMap_cons, List.append_assoc, List.singleton_append,
        List.splitOn_append_cons_self_of_not_mem first, later, List.cons_append]

section Reading

variable {Record : Type} {store : JsonLinesStore Record} {records : List Record} {record : Record}

theorem Serde.RoundTrips.getLast?_encode {serde : Serde Record}
    (written : serde.RoundTrips record) :
    (serde.encode record).toList.getLast? = some '\x7d' := by
  rcases written.object with ⟨body, object⟩
  rw [object, String.toList_append]
  exact List.getLast?_concat

theorem Serde.RoundTrips.trim_encode_ne {serde : Serde Record} (written : serde.RoundTrips record) :
    trim (serde.encode record) ≠ "" := by
  rcases written.object with ⟨body, object⟩
  have trimmed : Trimmed (serde.encode record).toList := by
    constructor
    · intro first isFirst
      rw [object] at isFirst
      simp at isFirst
      rw [← isFirst]
      decide
    · intro last isLast
      rw [written.getLast?_encode, Option.some.injEq] at isLast
      rw [← isLast]
      decide
  rw [trim_eq_self trimmed, object]
  intro empty
  simpa using congrArg String.toList empty

theorem lines_encodeRecords (written : ∀ record ∈ records, store.serde.RoundTrips record) :
    lines (store.encodeRecords records) = records.map store.serde.encode := by
  have pieces : (store.encodeRecords records).toList =
      (records.map fun record => (store.serde.encode record).toList).flatMap (· ++ ['\n']) := by
    simp [JsonLinesStore.encodeRecords, JsonLinesStore.encodeLine, String.toList_join,
      List.flatMap_map]
  have noFeed : ∀ piece ∈ records.map (fun record => (store.serde.encode record).toList),
      '\n' ∉ piece := by
    intro piece member
    rcases List.mem_map.mp member with ⟨record, isRecord, rfl⟩
    exact (written record isRecord).oneLine
  simp only [lines, pieces, splitOn_lines noFeed, List.dropLast_concat, List.getLast?_concat,
    Option.getD_some, if_true, List.append_nil, List.map_map]
  apply List.map_congr_left
  intro record member
  have noReturn : (store.serde.encode record).toList.getLast? ≠ some '\r' := by
    rw [(written record member).getLast?_encode]
    decide
  simp [noReturn]

theorem parseNumbered_map_encode (index : ℕ)
    (written : ∀ record ∈ records, store.serde.RoundTrips record) :
    store.parseNumbered index (records.map store.serde.encode) = .ok records := by
  induction records generalizing index with
  | nil => rfl
  | cons record rest ih =>
      have first := written record List.mem_cons_self
      have later := ih (index + 1) fun other member => written other (List.mem_cons_of_mem _ member)
      rw [List.map_cons, JsonLinesStore.parseNumbered, if_neg first.trim_encode_ne, first.decodes,
        later]
      rfl

theorem parseLines_encodeRecords (written : ∀ record ∈ records, store.serde.RoundTrips record) :
    store.parseLines (store.encodeRecords records) = .ok records := by
  rw [JsonLinesStore.parseLines, lines_encodeRecords written]
  exact parseNumbered_map_encode 0 written

/-- What is appended to the file is held after what was there. -/
theorem JsonLinesStore.Holds.append {files : LogFiles} (held : store.Holds files records)
    (record : Record) :
    store.Holds (store.append files record) (records ++ [record]) := by
  rw [JsonLinesStore.Holds] at held
  simp [JsonLinesStore.Holds, JsonLinesStore.append, held, JsonLinesStore.encodeRecords,
    String.join_append]

end Reading

/-! ## Retention -/

section Retention

variable {Record : Type} {store : JsonLinesStore Record} {records : List Record}
  {limits : RetentionLimits}

theorem utf8ByteSize_encodeRecords (records : List Record) :
    (store.encodeRecords records).utf8ByteSize = totalSize store.lineBytes records := by
  induction records with
  | nil => rfl
  | cons record rest ih =>
      simp only [JsonLinesStore.encodeRecords, List.map_cons, String.join_cons, totalSize,
        List.sum_cons] at ih ⊢
      rw [String.utf8ByteSize_append, ih]
      rfl

theorem fits_iff :
    store.Fits limits records ↔
      (∀ maxRecords, limits.maxRecords = some maxRecords → records.length ≤ maxRecords) ∧
        ∀ maxBytes, limits.maxBytes = some maxBytes →
          totalSize store.lineBytes records ≤ maxBytes := by
  rw [JsonLinesStore.Fits, utf8ByteSize_encodeRecords]

/-- Both limits are applied one after the other: the number of records to all, and the number of
bytes to those that are left. -/
theorem longestSuffix_retain (store : JsonLinesStore Record) (limits : RetentionLimits)
    (records : List Record) :
    LongestSuffix (store.Fits limits) records (store.retain records limits) := by
  have same : store.Fits limits = fun items =>
      (∀ maxRecords, limits.maxRecords = some maxRecords → items.length ≤ maxRecords) ∧
        ∀ maxBytes, limits.maxBytes = some maxBytes →
          totalSize store.lineBytes items ≤ maxBytes :=
    funext fun items => propext fits_iff
  rw [same]
  simp only [JsonLinesStore.retain]
  generalize candidatesAre : records.drop _ = candidates
  refine LongestSuffix.and ?_ (?_ : LongestSuffix _ records candidates) ?_
  · intro items other isSuffix fits maxRecords isMax
    exact isSuffix.length_le.trans (fits maxRecords isMax)
  · rw [← candidatesAre]
    cases isMax : limits.maxRecords with
    | none => simpa using longestSuffix_self records
    | some maxRecords => simpa using longestSuffix_drop maxRecords records
  · cases isMax : limits.maxBytes with
    | none => simpa using longestSuffix_self _
    | some maxBytes => simpa using longestSuffix_takeWithin _

end Retention

/-! ## Rotation -/

section Rotation

variable {maxRotatedFiles : ℕ}

/-- Below the last generation, where the place of the next generation is free, every archive moves
there and frees its own place. -/
theorem rotateFrom_apply {generation : ℕ} {archives : ℕ → Option String}
    (below : generation < maxRotatedFiles) (free : archives (generation + 1) = none) (place : ℕ) :
    rotateFrom maxRotatedFiles generation archives place =
      if place = 0 ∨ generation + 1 < place then archives place
      else if place = 1 then none
      else archives (place - 1) := by
  induction generation generalizing archives with
  | zero =>
      rw [rotateFrom]
      split
      case isTrue => rfl
      case isFalse between =>
        have isFirst : place = 1 := by omega
        rw [if_pos isFirst, isFirst, free]
  | succ generation ih =>
      have moved : rotateGeneration maxRotatedFiles (generation + 1) archives =
          Function.update (Function.update archives (generation + 2) (archives (generation + 1)))
            (generation + 1) none := by
        rw [rotateGeneration, if_neg (by omega)]
        cases isArchive : archives (generation + 1) with
        | none =>
            have unchanged : Function.update archives (generation + 2) none = archives := by
              rw [← free]
              exact Function.update_eq_self _ _
            have kept : Function.update archives (generation + 1) none = archives := by
              rw [← isArchive]
              exact Function.update_eq_self _ _
            rw [unchanged, kept]
        | some payload => rfl
      rw [rotateFrom, moved, ih (by omega) (by simp)]
      grind [Function.update_apply]

theorem rotated_rotateActivePayload {files : LogFiles} {payload : String}
    (isActive : files.active = some payload) (positive : 0 < maxRotatedFiles) :
    Rotated maxRotatedFiles files (rotateActivePayload payload maxRotatedFiles files).2 := by
  rcases Nat.exists_eq_succ_of_ne_zero positive.ne' with ⟨last, rfl⟩
  have moved : ∀ place, rotateFrom (last + 1) (last + 1) files.archives place =
      if place = 0 ∨ last + 1 < place then files.archives place
      else if place = 1 then none
      else files.archives (place - 1) := by
    intro place
    have oldest : rotateGeneration (last + 1) (last + 1) files.archives =
        Function.update files.archives (last + 1) none := if_pos rfl
    rw [rotateFrom, oldest, rotateFrom_apply (Nat.lt_succ_self last) (by simp)]
    grind [Function.update_apply]
  rw [rotateActivePayload, if_neg positive.ne']
  constructor
  · simp [isActive]
  · intro generation first below
    have notFirst : generation + 1 ≠ 1 := by omega
    have inside : ¬(generation + 1 = 0 ∨ last + 1 < generation + 1) := by omega
    simp only [Function.update_of_ne notFirst, moved, if_neg inside, if_neg notFirst,
      Nat.add_sub_cancel]
  · intro generation outside
    have notFirst : generation ≠ 1 := by omega
    simp only [Function.update_of_ne notFirst, moved, if_pos outside]

end Rotation

/-! ## Compaction -/

section Compaction

variable {Record : Type} {store : JsonLinesStore Record} {records : List Record}
  {files : LogFiles}

/-- The files change only if a record is dropped: a file of the same records has the same size. -/
theorem compact_of_holds (limits : RetentionLimits)
    (written : ∀ record ∈ records, store.serde.RoundTrips record)
    (held : store.Holds files records) :
    ∃ report, store.compact limits files =
      (.ok report,
        if (store.retain records limits).length = records.length then files
        else
          { (rotateActivePayload (store.encodeRecords records) limits.maxRotatedFiles files).2 with
            active := some (store.encodeRecords (store.retain records limits)) }) := by
  have isSuffix := (longestSuffix_retain store limits records).suffix
  simp only [JsonLinesStore.compact, show files.active = _ from held,
    parseLines_encodeRecords written]
  generalize store.retain records limits = retained at isSuffix ⊢
  by_cases same : retained.length = records.length
  · have all : retained = records := isSuffix.eq_of_length same
    subst all
    cases limits.maxBytes with
    | none => simp
    | some maxBytes => simp
  · have dropped : 0 < records.length - retained.length := by
      have shorter := isSuffix.length_le
      omega
    simp [dropped, same]

theorem compact_keepsNewest (limits : RetentionLimits)
    (written : ∀ record ∈ records, store.serde.RoundTrips record)
    (held : store.Holds files records) :
    ∃ report after, store.compact limits files = (.ok report, after) ∧
      store.KeepsNewest limits records files after := by
  rcases compact_of_holds limits written held with ⟨report, compacted⟩
  have longest := longestSuffix_retain store limits records
  refine ⟨report, _, compacted, _, longest, ?_⟩
  by_cases same : (store.retain records limits).length = records.length
  · have all := longest.suffix.eq_of_length same
    rw [if_pos same]
    refine ⟨?_, fun dropped => absurd all dropped, fun _ => rfl⟩
    rw [all]
    exact held
  · rw [if_neg same]
    refine ⟨rfl, ?_, ?_⟩
    · intro _ positive
      have rotated := rotated_rotateActivePayload held positive
      exact ⟨rotated.newest, rotated.moved, rotated.others⟩
    · rintro (all | isZero)
      · exact absurd (congrArg List.length all) same
      · simp [rotateActivePayload, isZero]

/-- Compaction of a file within the limits does nothing. -/
theorem compact_of_fits {limits : RetentionLimits}
    (written : ∀ record ∈ records, store.serde.RoundTrips record) (held : store.Holds files records)
    (fits : store.Fits limits records) :
    ∃ report, store.compact limits files = (.ok report, files) := by
  rcases compact_of_holds limits written held with ⟨report, compacted⟩
  have all := (longestSuffix_retain store limits records).eq_of_fits fits
  rw [if_pos (congrArg List.length all)] at compacted
  exact ⟨report, compacted⟩

/-- The file that compaction leaves can be compacted again, and this does nothing. -/
theorem compact_twice (limits : RetentionLimits)
    (written : ∀ record ∈ records, store.serde.RoundTrips record)
    (held : store.Holds files records) :
    ∃ report after, store.compact limits files = (.ok report, after) ∧
      store.KeepsNewest limits records files after ∧
        ∃ again, store.compact limits after = (.ok again, after) := by
  rcases compact_keepsNewest limits written held with
    ⟨report, after, compacted, keeps⟩
  refine ⟨report, after, compacted, keeps, ?_⟩
  rcases keeps with ⟨retained, longest, heldAfter, -⟩
  apply compact_of_fits _ heldAfter longest.meets
  intro record member
  exact written record (longest.suffix.subset member)

end Compaction

/-- Compaction of summaries and of audit records, with a valid policy and a file of records that can
be read back. -/
theorem compaction_keeps_newest (path : String) (files : LogFiles) :
    (∀ (serde : Serde OperationSummary) (policy : OperationSummaryRetentionPolicy)
        (summaries : List OperationSummary),
      policy.validate = .ok () →
      (∀ summary ∈ summaries, serde.RoundTrips summary) →
      (jsonFileOperationSummaryStore path serde).Holds files summaries →
        ∃ report after, compactOperationSummaries path serde policy files = (.ok report, after) ∧
          (jsonFileOperationSummaryStore path serde).KeepsNewest policy.limits summaries files
              after ∧
            ∃ again, compactOperationSummaries path serde policy after = (.ok again, after)) ∧
    ∀ (serde : Serde OperationAuditRecord) (policy : OperationAuditRetentionPolicy)
        (records : List OperationAuditRecord),
      policy.validate = .ok () →
      (∀ record ∈ records, serde.RoundTrips record) →
      (jsonFileOperationAuditStore path serde).Holds files records →
        ∃ report after, compactOperationAudits path serde policy files = (.ok report, after) ∧
          (jsonFileOperationAuditStore path serde).KeepsNewest policy.limits records files after ∧
            ∃ again, compactOperationAudits path serde policy after = (.ok again, after) := by
  constructor
  · intro serde policy summaries valid written held
    simp only [compactOperationSummaries, valid]
    exact compact_twice policy.limits written held
  · intro serde policy records valid written held
    simp only [compactOperationAudits, valid]
    exact compact_twice policy.limits written held

/-- Two records with the members of the JSON objects that they are written as. -/
def sampleSerde {Record : Type} (isSecond : Record → Bool) (record : Bool → Record)
    (members : Bool → String) : Serde Record where
  encode := fun record => "\x7b" ++ members (isSecond record) ++ "\x7d"
  decode := fun line =>
    if line = "\x7b" ++ members false ++ "\x7d" then .ok (record false)
    else if line = "\x7b" ++ members true ++ "\x7d" then .ok (record true)
    else .error "expected value at line 1 column 1"

theorem roundTrips_sampleSerde {Record : Type} {isSecond : Record → Bool} {record : Bool → Record}
    {members : Bool → String} (told : ∀ second, isSecond (record second) = second)
    (distinct : members true ≠ members false) (oneLine : ∀ second, '\n' ∉ (members second).toList)
    (second : Bool) :
    (sampleSerde isSecond record members).RoundTrips (record second) where
  decodes := by
    cases second <;> simp [sampleSerde, told, distinct]
  object := ⟨members second, by simp [sampleSerde, told]⟩
  oneLine := by simp [sampleSerde, told, oneLine]

/-- The summaries of drifts on two leaves. -/
def driftSummary (second : Bool) : OperationSummary where
  requestId := if second then "request-2" else "request-1"
  traceId := "trace-1"
  action := "drift.detected"
  result := "observed"
  txId := none
  deviceId := some (if second then "leaf-2" else "leaf-1")
  attentionRequired := true
  fields := ∅

def driftSummaryMembers (second : Bool) : String :=
  "\"request_id\":\"" ++ (if second then "request-2" else "request-1") ++
    "\",\"trace_id\":\"trace-1\",\"action\":\"drift.detected\",\"result\":\"observed\"" ++
    ",\"tx_id\":null,\"device_id\":\"" ++ (if second then "leaf-2" else "leaf-1") ++
    "\",\"attention_required\":true,\"fields\":\x7b\x7d"

/-- The audit records of the same drifts. -/
def driftAudit (second : Bool) : OperationAuditRecord where
  appendedAtUnixSecs := 0
  requestId := if second then "request-2" else "request-1"
  traceId := "trace-1"
  txId := none
  deviceId := some (if second then "leaf-2" else "leaf-1")
  action := "drift.detected"
  result := "observed"
  operatorId := none
  reason := none
  errorCode := none
  errorMessage := none
  fields := ∅

def driftAuditMembers (second : Bool) : String :=
  "\"appended_at_unix_secs\":0,\"request_id\":\"" ++
    (if second then "request-2" else "request-1") ++
    "\",\"trace_id\":\"trace-1\",\"tx_id\":null,\"device_id\":\"" ++
    (if second then "leaf-2" else "leaf-1") ++
    "\",\"action\":\"drift.detected\",\"result\":\"observed\",\"operator_id\":null" ++
    ",\"reason\":null,\"error_code\":null,\"error_message\":null,\"fields\":\x7b\x7d"

/-- The two summaries in JSON. -/
def driftSummarySerde : Serde OperationSummary :=
  sampleSerde (·.requestId = "request-2") driftSummary driftSummaryMembers

/-- The two audit records in JSON. -/
def driftAuditSerde : Serde OperationAuditRecord :=
  sampleSerde (·.requestId = "request-2") driftAudit driftAuditMembers

theorem roundTrips_driftSummary (second : Bool) :
    driftSummarySerde.RoundTrips (driftSummary second) :=
  roundTrips_sampleSerde (by decide) (by decide +kernel) (by decide +kernel) second

theorem roundTrips_driftAudit (second : Bool) : driftAuditSerde.RoundTrips (driftAudit second) :=
  roundTrips_sampleSerde (by decide) (by decide +kernel) (by decide +kernel) second

/-- The files of a store with two records, and one line in its newest archive. -/
def twoLineFiles {Record : Type} (serde : Serde Record) (record : Bool → Record) : LogFiles where
  active := some (serde.encode (record false) ++ "\n" ++ (serde.encode (record true) ++ "\n"))
  archives := fun generation =>
    if generation = 1 then some (serde.encode (record false) ++ "\n") else none

/-- Two records, of which a policy keeps one. -/
theorem compaction_keeps_newest_of_two :
    (∃ report after,
      compactOperationSummaries "summaries.jsonl" driftSummarySerde { maxRecords := some 1 }
          (twoLineFiles driftSummarySerde driftSummary) = (.ok report, after) ∧
        after.active = some (driftSummarySerde.encode (driftSummary true) ++ "\n") ∧
        after.archives 1 = (twoLineFiles driftSummarySerde driftSummary).active ∧
        after.archives 2 = (twoLineFiles driftSummarySerde driftSummary).archives 1) ∧
    ∃ report after,
      compactOperationAudits "audits.jsonl" driftAuditSerde { maxBytes := some 300 }
        (twoLineFiles driftAuditSerde driftAudit) = (.ok report, after) := by
  constructor
  · rcases (compaction_keeps_newest "summaries.jsonl"
          (twoLineFiles driftSummarySerde driftSummary)).1
        driftSummarySerde { maxRecords := some 1 } [driftSummary false, driftSummary true] rfl
        (by simp [roundTrips_driftSummary]) rfl with
      ⟨report, after, compacted, ⟨retained, longest, held, rotates, -⟩, -⟩
    have atMostOne : retained.length ≤ 1 := longest.meets.1 1 rfl
    have newest : [driftSummary true] <:+ retained := by
      apply longest.longest
      · exact ⟨[driftSummary false], rfl⟩
      · constructor
        · rintro _ ⟨⟩
          exact le_rfl
        · intro _ noLimit
          cases noLimit
    have keepsOne : [driftSummary true] = retained := newest.eq_of_length_le atMostOne
    have dropped : retained ≠ [driftSummary false, driftSummary true] := by
      rw [← keepsOne]
      exact fun same => absurd (congrArg List.length same) (by decide)
    have rotated := rotates dropped (by decide)
    rw [JsonLinesStore.Holds, ← keepsOne] at held
    exact ⟨report, after, compacted, held, rotated.newest, rotated.moved 1 le_rfl (by decide)⟩
  · rcases (compaction_keeps_newest "audits.jsonl" (twoLineFiles driftAuditSerde driftAudit)).2
        driftAuditSerde { maxBytes := some 300 } [driftAudit false, driftAudit true] rfl
        (by simp [roundTrips_driftAudit]) rfl with
      ⟨report, after, compacted, -⟩
    exact ⟨report, after, compacted⟩

end AriaUnderlay
