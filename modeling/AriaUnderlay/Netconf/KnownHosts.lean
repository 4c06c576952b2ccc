import AriaUnderlay.Effect.Serialized
import AriaUnderlay.Model.PythonText
import AriaUnderlay.Netconf.Device

/-!
# Trust on first use

The adapter keeps the host keys that it trusts in a text file, one line each.  To trust a key it
looks the host up, reads the file a second time and replaces it by what it read with one line added.
Trust calls that do not overlap only ever add lines.  The calls take no lock, so a call may write
back a text that is no longer the one in the file, and a line is added to the last line of the file
if that one has no end.
-/

namespace AriaUnderlay

open Collections Effect

/-! ## The file -/

/-- The file is read to look a host up, and for the text that a line is added to. -/
inductive ReadSite where
  | lookup
  | update
  deriving DecidableEq, Repr

/-- The accesses to the file. -/
inductive KnownHostsOp where
  | read (site : ReadSite)
  | replace (payload : String)
  deriving DecidableEq, Repr

/-- Why a replacement failed. -/
inductive WriteFailure where
  | osError (summary : String)
  | other (raised : Raised)
  deriving DecidableEq, Repr

/-- Reading gives the text, or nothing where there is no file. -/
def knownHostsSignature : Signature where
  Op := KnownHostsOp
  Answer
    | .read _ => Except Raised (Option String)
    | .replace _ => Except WriteFailure Unit

/-- The reads of one kind. -/
def KnownHostsOp.isRead (site : ReadSite) : KnownHostsOp → Bool
  | .read asked => asked = site
  | .replace _ => false

/-- The replacements. -/
def KnownHostsOp.isReplace : KnownHostsOp → Bool
  | .read _ => false
  | .replace _ => true

/-- The file that all calls share.  A failed replacement may still have taken place, when only what
follows the renaming failed. -/
def knownHostsFile (Call : Type) : Environment knownHostsSignature Call (Option String) where
  respond := fun _ file op answer after =>
    match op, answer with
    | .read _, .ok content => content = file ∧ after = file
    | .read _, .error _ => after = file
    | .replace payload, .ok _ => after = some payload
    | .replace payload, .error _ => after = file ∨ after = some payload
  restart := id

/-! ## Lines -/

def knownHostsPattern (host : String) (port : ℕ) : String :=
  if port = 22 then host else "[" ++ host ++ "]:" ++ toString port

/-- The text of a line without the blanks around it, if it is an entry for the host. -/
def hostEntry (pattern line : String) : Option String :=
  let stripped := Python.strip line
  if stripped = "" ∨ stripped.toList.head? = some '#' then none
  else
    match Python.split stripped with
    | [] => none
    | field :: _ => if pattern ∈ Python.splitOn ',' field then some stripped else none

/-- The lines of the file. -/
def linesOf (content : Option String) : List String :=
  match content with
  | none => []
  | some text => (Python.splitLines (Python.decodeNewlines text.toList)).map .ofList

/-- The first entry for a host. -/
def findEntry (pattern : String) (content : Option String) : Option String :=
  (linesOf content).findSome? (hostEntry pattern)

/-! ## Trusting a key -/

/-- The key that a host has shown. -/
structure TrustRequest where
  host : String
  port : ℕ
  keyName : String
  keyB64 : String
  deriving DecidableEq, Repr

namespace TrustRequest

variable (request : TrustRequest)

/-- The host and port of a request. -/
def pattern : String :=
  knownHostsPattern request.host request.port

/-- The line that a request adds. -/
def trustedLine : String :=
  request.pattern ++ " " ++ request.keyName ++ " " ++ request.keyB64

/-- The text of the file with the line of the request added. -/
def payload (content : Option String) : String :=
  .join (linesOf content ++ [request.trustedLine ++ "\n"])

def hostKeyChanged : AdapterError where
  code := "HOST_KEY_CHANGED"
  message := "TOFU host key does not match existing trust store entry"
  normalizedError := "tofu host key changed"
  rawErrorSummary := "host=" ++ request.pattern
  retryable := false

end TrustRequest

def trustStoreWriteFailed (summary : String) : AdapterError where
  code := "HOST_KEY_TRUST_STORE_WRITE_FAILED"
  message := "failed to persist TOFU host key"
  normalizedError := "tofu trust store write failed"
  rawErrorSummary := summary
  retryable := false

abbrev KnownHosts : Type → Type :=
  Result knownHostsSignature Raised

def readKnownHosts (site : ReadSite) : KnownHosts (Option String) :=
  ExceptT.mk (@Program.perform knownHostsSignature (.read site))

/-- The line of a host. -/
def findLine (host : String) (port : ℕ) : KnownHosts (Option String) := do
  return findEntry (knownHostsPattern host port) (← readKnownHosts .lookup)

def hasHost (host : String) (port : ℕ) : KnownHosts Bool := do
  return (← findLine host port).isSome

def raisedOfWrite : Except WriteFailure Unit → Except Raised Unit
  | .ok () => .ok ()
  | .error (.osError summary) => .error (.adapter (trustStoreWriteFailed summary))
  | .error (.other raised) => .error raised

def atomicWriteText (payload : String) : KnownHosts Unit :=
  ExceptT.mk do
    return raisedOfWrite (← @Program.perform knownHostsSignature (.replace payload))

def trust (request : TrustRequest) : KnownHosts Unit := do
  match ← findLine request.host request.port with
  | some existing =>
      if Python.strip existing = request.trustedLine then return ()
      else throw (.adapter request.hostKeyChanged)
  | none =>
      let content ← readKnownHosts .update
      atomicWriteText (request.payload content)

/-! ## The calls of one request -/

section Calls

variable {request : TrustRequest} {events : List (Event knownHostsSignature)}

/-- A read that gave a text, or no file. -/
def readEvent (site : ReadSite) (content : Option String) : Event knownHostsSignature :=
  ⟨.read site, (.ok content : Except Raised (Option String))⟩

/-- A replacement with its answer. -/
def replaceEvent (payload : String) (answer : Except WriteFailure Unit) :
    Event knownHostsSignature :=
  ⟨.replace payload, answer⟩

/-- What a request does once it has looked its host up. -/
def trustAfterLookup (request : TrustRequest) :
    Option String → Program knownHostsSignature (Except Raised Unit)
  | some existing =>
      if Python.strip existing = request.trustedLine then .done (.ok ())
      else .done (.error (.adapter request.hostKeyChanged))
  | none => @Program.call knownHostsSignature _ (.read .update) fun
      | .error raised => .done (.error raised)
      | .ok content => @Program.call knownHostsSignature _ (.replace (request.payload content))
          fun answer => .done (raisedOfWrite answer)

theorem trust_run (request : TrustRequest) :
    (trust request).run = @Program.call knownHostsSignature _ (.read .lookup) fun
      | .error raised => .done (.error raised)
      | .ok content => trustAfterLookup request (findEntry request.pattern content) := by
  have continues : ∀ found : Option String, ExceptT.run (match found with
      | some existing =>
          if Python.strip existing = request.trustedLine then (return () : KnownHosts Unit)
          else throw (.adapter request.hostKeyChanged)
      | none => do
          let content ← readKnownHosts .update
          atomicWriteText (request.payload content)) = trustAfterLookup request found := by
    intro found
    cases found with
    | some existing =>
        rw [trustAfterLookup]
        by_cases same : Python.strip existing = request.trustedLine
        · simp only [if_pos same]
          rfl
        · simp only [if_neg same]
          rfl
    | none =>
        refine congrArg (@Program.call knownHostsSignature _ (.read .update))
          (funext fun answer => ?_)
        rcases (answer : Except Raised (Option String)) with raised | content <;> rfl
  refine congrArg (@Program.call knownHostsSignature _ (.read .lookup)) (funext fun answer => ?_)
  rcases (answer : Except Raised (Option String)) with raised | content
  · rfl
  · exact continues (findEntry request.pattern content)

/-- The calls of a request are two reads, of which the first shows no entry for the host, and a
replacement. -/
theorem calls_trust (called : Calls (trust request).run events) :
    (∀ event ∈ events, KnownHostsOp.isReplace event.1 = false) ∨
      ∃ first second answer, findEntry request.pattern first = none ∧
        events = [readEvent .lookup first, readEvent .update second,
          replaceEvent (request.payload second) answer] := by
  rw [trust_run] at called
  rcases called with _ | ⟨answer, called⟩
  · simp
  · rcases (answer : Except Raised (Option String)) with raised | first
    · rcases called with _ | _
      simp [KnownHostsOp.isReplace]
    · change Calls (trustAfterLookup request (findEntry request.pattern first)) _ at called
      cases found : findEntry request.pattern first with
      | some line =>
          rw [found, trustAfterLookup] at called
          split at called
          · rcases called with _ | _
            simp [KnownHostsOp.isReplace]
          · rcases called with _ | _
            simp [KnownHostsOp.isReplace]
      | none =>
          rw [found] at called
          rcases called with _ | ⟨answer, called⟩
          · simp [KnownHostsOp.isReplace]
          · rcases (answer : Except Raised (Option String)) with raised | second
            · rcases called with _ | _
              simp [KnownHostsOp.isReplace]
            · rcases called with _ | ⟨answer, called⟩
              · simp [KnownHostsOp.isReplace]
              · rcases called with _ | _
                exact .inr ⟨first, second, answer, found, rfl⟩

/-- A request that ends well found its line in the file or has added it. -/
theorem traces_trust (traced : Effect.Traces (trust request).run events (.ok ())) :
    (∃ content, events = [readEvent .lookup content] ∧
        ∃ line, findEntry request.pattern content = some line ∧
          Python.strip line = request.trustedLine) ∨
      ∃ first second, findEntry request.pattern first = none ∧
        events = [readEvent .lookup first, readEvent .update second,
          replaceEvent (request.payload second) (.ok ())] := by
  rw [trust_run] at traced
  rcases traced with _ | ⟨answer, traced⟩
  rcases (answer : Except Raised (Option String)) with raised | first
  · rcases traced with _ | _
  · change Effect.Traces (trustAfterLookup request (findEntry request.pattern first)) _ _ at traced
    cases found : findEntry request.pattern first with
    | some line =>
        rw [found, trustAfterLookup] at traced
        split at traced
        case isTrue same =>
          rw [(traces_done.mp traced).1]
          exact .inl ⟨first, rfl, line, found, same⟩
        case isFalse =>
          cases (traces_done.mp traced).2
    | none =>
        rw [found] at traced
        rcases traced with _ | ⟨answer, traced⟩
        rcases (answer : Except Raised (Option String)) with raised | second
        · rcases traced with _ | _
        · rcases traced with _ | ⟨answer, traced⟩
          rcases traces_done.mp traced with ⟨rfl, written⟩
          rcases (answer : Except WriteFailure Unit) with (summary | raised) | ⟨⟩
          · cases written
          · cases written
          · exact .inr ⟨first, second, found, rfl⟩

/-- A host is known just when the file has an entry for it. -/
theorem traces_hasHost (host : String) (port : ℕ) (content : Option String) :
    Effect.Traces (hasHost host port).run [readEvent .lookup content]
      (.ok (findEntry (knownHostsPattern host port) content).isSome) :=
  .call _ (.done _)

end Calls

/-! ## One line more -/

namespace TrustRequest

/-- The host is one word without commas that does not look like a comment, and so is the key without
the last two conditions. -/
def Proper (request : TrustRequest) : Prop :=
  (request.host ≠ "" ∧ request.host.toList.head? ≠ some '#' ∧
    ∀ c ∈ request.host.toList, Python.isSpace c = false ∧ c ≠ ',') ∧
  (∀ c ∈ request.keyName.toList, Python.isSpace c = false) ∧
  request.keyB64 ≠ "" ∧ ∀ c ∈ request.keyB64.toList, Python.isSpace c = false

instance (request : TrustRequest) : Decidable request.Proper :=
  inferInstanceAs (Decidable (_ ∧ _))

variable {request : TrustRequest}

theorem isSpace_of_isDigit {c : Char} (isDigit : c.isDigit = true) :
    Python.isSpace c = false ∧ c ≠ ',' := by
  simp only [Char.isDigit, Bool.and_eq_true, decide_eq_true_eq] at isDigit
  have lower : 48 ≤ c.toNat := UInt32.le_iff_toNat_le.mp isDigit.1
  have upper : c.toNat ≤ 57 := UInt32.le_iff_toNat_le.mp isDigit.2
  constructor
  · simp only [Python.isSpace, decide_eq_false_iff_not]
    omega
  · rintro rfl
    exact absurd lower (by decide)

theorem Proper.pattern_plain (proper : request.Proper) {c : Char}
    (member : c ∈ request.pattern.toList) :
    Python.isSpace c = false ∧ c ≠ ',' := by
  unfold pattern knownHostsPattern at member
  split at member
  · exact proper.1.2.2 c member
  · simp only [String.toList_append, List.mem_append] at member
    rcases member with ((isBracket | inHost) | isColon) | inPort
    · rw [List.mem_singleton.mp isBracket]
      decide
    · exact proper.1.2.2 c inHost
    · have isEither : c = ']' ∨ c = ':' := by simpa using isColon
      rcases isEither with rfl | rfl <;> decide
    · rw [Nat.toString_eq_ofList_toDigits, String.toList_ofList] at inPort
      exact isSpace_of_isDigit (Nat.isDigit_of_mem_toDigits (by decide) (by decide) inPort)

theorem Proper.pattern_head (proper : request.Proper) :
    ∃ first rest, request.pattern.toList = first :: rest ∧ first ≠ '#' := by
  unfold pattern knownHostsPattern
  split
  · cases letters : request.host.toList with
    | nil =>
        have empty : request.host = "" := by rw [← String.toList_inj, letters]; rfl
        exact absurd empty proper.1.1
    | cons first rest =>
        refine ⟨first, rest, rfl, ?_⟩
        rintro rfl
        exact proper.1.2.1 (by rw [letters]; rfl)
  · refine ⟨'[', request.host.toList ++ "]:".toList ++ (toString request.port).toList, ?_,
      by decide⟩
    simp only [String.toList_append, List.append_assoc]
    exact List.singleton_append

theorem trustedLine_toList :
    request.trustedLine.toList = request.pattern.toList ++
      ' ' :: (request.keyName.toList ++ ' ' :: request.keyB64.toList) := by
  simp [trustedLine]

/-- The only blanks of the line are those between its three parts. -/
theorem Proper.trustedLine_plain (proper : request.Proper) {c : Char}
    (member : c ∈ request.trustedLine.toList) :
    Python.isSpace c = false ∨ c = ' ' := by
  rw [trustedLine_toList] at member
  simp only [List.mem_append, List.mem_cons] at member
  rcases member with inPattern | rfl | inName | rfl | inKey
  · exact .inl (proper.pattern_plain inPattern).1
  · exact .inr rfl
  · exact .inl (proper.2.1 c inName)
  · exact .inr rfl
  · exact .inl (proper.2.2.2 c inKey)

theorem Proper.oneLine (proper : request.Proper) {c : Char}
    (member : c ∈ request.trustedLine.toList) :
    Python.isLineBreak c = false := by
  rcases proper.trustedLine_plain member with plain | rfl
  · by_contra isBreak
    have isSpace := Python.isSpace_of_isLineBreak (Bool.eq_true_of_not_eq_false isBreak)
    simp [plain] at isSpace
  · decide

theorem Proper.strip_line (proper : request.Proper) :
    Python.strip (request.trustedLine ++ "\n") = request.trustedLine := by
  rcases proper.pattern_head with ⟨first, rest, letters, -⟩
  have firstPlain : Python.isSpace first = false :=
    (proper.pattern_plain (by rw [letters]; exact List.mem_cons_self)).1
  rw [Python.strip, String.toList_append, ← String.toList_inj, String.toList_ofList]
  rw [show "\n".toList = ['\n'] from rfl, Collections.strip_concat (by decide)]
  apply Collections.strip_eq_self
  · intro c isFirst
    rw [trustedLine_toList, letters] at isFirst
    rw [← Option.some.inj isFirst]
    exact firstPlain
  · intro c isLast
    have nonempty : request.keyB64.toList ≠ [] := by
      intro empty
      exact proper.2.2.1 (by rw [← String.toList_inj, empty]; rfl)
    have inKey : c ∈ request.keyB64.toList := by
      rw [trustedLine_toList] at isLast
      rw [List.getLast?_append_of_ne_nil _ (by simp), List.getLast?_cons_of_ne_nil (by simp),
        List.getLast?_append_of_ne_nil _ (by simp), List.getLast?_cons_of_ne_nil nonempty] at isLast
      exact List.mem_of_getLast? isLast
    exact proper.2.2.2 c inKey

/-- The line of a request is an entry for its host and for no other. -/
theorem Proper.hostEntry_line (proper : request.Proper) (pattern : String) :
    hostEntry pattern (request.trustedLine ++ "\n") =
      if pattern = request.pattern then some request.trustedLine else none := by
  rcases proper.pattern_head with ⟨first, rest, letters, noComment⟩
  have nonempty : request.pattern.toList ≠ [] := by simp [letters]
  have isHost : Python.split request.trustedLine =
      request.pattern :: ((wordsOf (fun c => !Python.isSpace c)
        (request.keyName.toList ++ ' ' :: request.keyB64.toList)).map .ofList) := by
    rw [Python.split, trustedLine_toList, wordsOf_append_cons nonempty]
    · simp
    · intro c member
      simp [(proper.pattern_plain member).1]
    · decide
  have noList : Python.splitOn ',' request.pattern = [request.pattern] := by
    rw [Python.splitOn, List.splitOn, List.splitOnP_eq_singleton]
    · simp
    · intro c member
      simpa using (proper.pattern_plain member).2
  simp only [hostEntry, proper.strip_line]
  rw [if_neg, isHost]
  · simp [noList]
  · rintro (empty | isComment)
    · have none := congrArg String.toList empty
      rw [trustedLine_toList, letters] at none
      cases none
    · rw [trustedLine_toList, letters] at isComment
      exact noComment (Option.some.inj isComment)

end TrustRequest

/-- What the file reads as. -/
def decoded (content : Option String) : List Char :=
  (content.map fun text => Python.decodeNewlines text.toList).getD []

/-- The last line of the file has an end. -/
def TerminatedFile (content : Option String) : Prop :=
  Python.Terminated (decoded content)

theorem linesOf_eq (content : Option String) :
    linesOf content = (Python.splitLines (decoded content)).map .ofList := by
  cases content <;> rfl

section Payload

variable {request : TrustRequest} {content : Option String}

theorem payload_toList :
    (request.payload content).toList =
      decoded content ++ (request.trustedLine.toList ++ ['\n']) := by
  have joined : (linesOf content).flatMap String.toList = decoded content := by
    rw [linesOf_eq, List.flatMap_map]
    simpa [List.flatMap_id'] using Python.flatten_splitLines (decoded content)
  rw [TrustRequest.payload, String.toList_join, List.flatMap_append, joined]
  simp

variable (proper : request.Proper)

include proper

theorem decoded_payload :
    decoded (some (request.payload content)) =
      decoded content ++ (request.trustedLine.toList ++ ['\n']) := by
  change Python.decodeNewlines (request.payload content).toList = _
  rw [payload_toList, Python.decodeNewlines_eq_self]
  simp only [List.mem_append, List.mem_singleton]
  rintro (inFile | inLine | isEnd)
  · cases content with
    | none => cases inFile
    | some text => exact Python.not_mem_decodeNewlines _ inFile
  · have oneLine := proper.oneLine inLine
    exact absurd oneLine (by decide)
  · exact absurd isEnd (by decide)

theorem terminatedFile_payload :
    TerminatedFile (some (request.payload content)) := by
  intro c isLast
  rw [decoded_payload proper, ← List.append_assoc, List.getLast?_concat,
    Option.some.injEq] at isLast
  rw [← isLast]
  decide

theorem linesOf_payload (terminated : TerminatedFile content) :
    linesOf (some (request.payload content)) =
      linesOf content ++ [request.trustedLine ++ "\n"] := by
  rw [linesOf_eq, decoded_payload proper, Python.splitLines_append terminated,
    Python.splitLines_singleton (fun c => proper.oneLine) (by decide), List.map_append, linesOf_eq]
  rw [List.append_right_inj, List.map_singleton, List.singleton_inj, ← String.toList_inj]
  simp

/-- The entries that were there are found as before. -/
theorem findEntry_payload_of_found (terminated : TerminatedFile content) {pattern line : String}
    (found : findEntry pattern content = some line) :
    findEntry pattern (some (request.payload content)) = some line := by
  rw [findEntry, linesOf_payload proper terminated, List.findSome?_append]
  rw [findEntry] at found
  simp [found]

/-- The new entry is found if there was none for the host. -/
theorem findEntry_payload_self (terminated : TerminatedFile content)
    (absent : findEntry request.pattern content = none) :
    findEntry request.pattern (some (request.payload content)) = some request.trustedLine := by
  rw [findEntry, linesOf_payload proper terminated, List.findSome?_append]
  rw [findEntry] at absent
  simp [absent, proper.hostEntry_line]

/-- For another host there is still none. -/
theorem findEntry_payload_of_ne (terminated : TerminatedFile content) {pattern : String}
    (absent : findEntry pattern content = none) (other : pattern ≠ request.pattern) :
    findEntry pattern (some (request.payload content)) = none := by
  rw [findEntry, linesOf_payload proper terminated, List.findSome?_append]
  rw [findEntry] at absent
  simp [absent, proper.hostEntry_line, other]

end Payload

/-- An entry is found without blanks around it. -/
theorem strip_findEntry {pattern line : String} {content : Option String}
    (found : findEntry pattern content = some line) :
    Python.strip line = line := by
  rcases List.exists_of_findSome?_eq_some found with ⟨text, -, isEntry⟩
  unfold hostEntry at isEntry
  dsimp only at isEntry
  split at isEntry
  · cases isEntry
  · split at isEntry
    · cases isEntry
    · split at isEntry
      · rw [← Option.some.inj isEntry, Python.strip, Python.strip, String.toList_ofList,
          Collections.strip_strip]
      · cases isEntry

/-! ## Runs -/

/-- Whatever is found in one file is found in the other. -/
def KeepsEntries (before after : Option String) : Prop :=
  ∀ pattern line, findEntry pattern before = some line → findEntry pattern after = some line

section Run

variable {Call : Type} {request : Call → TrustRequest}
  {run earlier later : List (Call × Event knownHostsSignature)} {initial file after : Option String}

theorem knownHostsFile_keeps (call : Call) (file : Option String) (op : KnownHostsOp)
    (answer : knownHostsSignature.Answer op) (after : Option String)
    (responds : (knownHostsFile Call).respond call file op answer after)
    (kept : op.isReplace = false) :
    after = file := by
  cases op with
  | read =>
      rcases (answer : Except Raised (Option String)) with raised | content
      · exact responds
      · exact responds.2
  | replace payload => cases kept

variable [DecidableEq Call]

/-- The calls keep out of each other's way.  None replaces the file between the read that another
one writes back and its replacement, and of two calls for one host none replaces the file between
the lookup of the other and its replacement. -/
structure KeptApart (request : Call → TrustRequest)
    (run : List (Call × Event knownHostsSignature)) : Prop where
  updates : serializedBy (KnownHostsOp.isRead .update) KnownHostsOp.isReplace run = true
  lookups : ∀ pattern, serializedBy (KnownHostsOp.isRead .lookup) KnownHostsOp.isReplace
    (run.filter fun step => (request step.1).pattern = pattern) = true

/-- A replacement is the last of the calls of a request. -/
theorem replacement_of_trust {request : TrustRequest}
    {events before : List (Event knownHostsSignature)} {event : Event knownHostsSignature}
    (called : Calls (trust request).run events) (part : before ++ [event] <+: events)
    (replaces : KnownHostsOp.isReplace event.1 = true) :
    ∃ first second answer, findEntry request.pattern first = none ∧
      before = [readEvent .lookup first, readEvent .update second] ∧
        event = replaceEvent (request.payload second) answer := by
  rcases calls_trust called with onlyReads | ⟨first, second, answer, absent, rfl⟩
  · have isRead := onlyReads event (part.subset (by simp))
    simp [isRead] at replaces
  · have each : EachStep (fun before (event : Event knownHostsSignature) =>
        KnownHostsOp.isReplace event.1 = true →
          before = [readEvent .lookup first, readEvent .update second] ∧
            event = replaceEvent (request.payload second) answer)
        [readEvent .lookup first, readEvent .update second,
          replaceEvent (request.payload second) answer] := by
      simp [eachStep_cons, readEvent, replaceEvent, KnownHostsOp.isReplace]
    rcases each before event part replaces with ⟨isBefore, isEvent⟩
    exact ⟨first, second, answer, absent, isBefore, isEvent⟩

section

variable (calls : ∀ call, Calls (trust (request call)).run (ownEvents call run))

include calls

/-- A call that replaces the file has looked its host up in vain and read the file again. -/
theorem reads_of_replacement {call : Call} {event : Event knownHostsSignature}
    (whole : run = earlier ++ (call, event) :: later)
    (replaces : KnownHostsOp.isReplace event.1 = true) :
    ∃ first second answer before betweenReads afterReads,
      findEntry (request call).pattern first = none ∧
        event = replaceEvent ((request call).payload second) answer ∧
        earlier = before ++ (call, readEvent .lookup first) ::
          (betweenReads ++ (call, readEvent .update second) :: afterReads) ∧
        ownEvents call (betweenReads ++ (call, readEvent .update second) :: afterReads) =
          [readEvent .update second] ∧
        ownEvents call afterReads = [] := by
  have ownPart : ownEvents call earlier ++ [event] <+: ownEvents call run :=
    ownEvents_prefix_of_step ⟨later, by simp [whole]⟩
  rcases replacement_of_trust (calls call) ownPart replaces with
    ⟨first, second, answer, absent, own, isEvent⟩
  rcases ownEvents_eq_cons own with ⟨before, between, rfl, ownBetween⟩
  rcases ownEvents_eq_cons ownBetween with ⟨betweenReads, afterReads, rfl, ownAfter⟩
  exact ⟨first, second, answer, before, betweenReads, afterReads, absent, isEvent, rfl, ownBetween,
    ownAfter⟩

/-- A call that replaces the file adds its line to the text that is in it. -/
theorem replacement_adds {step : Call × Event knownHostsSignature} (apart : KeptApart request run)
    (whole : run = earlier ++ step :: later)
    (ran : AnsweredBy (knownHostsFile Call) initial earlier file)
    (replaces : KnownHostsOp.isReplace step.2.1 = true) :
    step.2.1 = .replace ((request step.1).payload file) := by
  rcases step with ⟨call, event⟩
  rcases reads_of_replacement calls whole replaces with
    ⟨first, second, answer, before, betweenReads, afterReads, -, rfl, rfl, -, ownAfter⟩
  -- the file is as it was when the call read the text that it writes back
  have inOrder : serializedBy (KnownHostsOp.isRead .update) KnownHostsOp.isReplace
      ((before ++ (call, readEvent .lookup first) :: betweenReads) ++
        (call, readEvent .update second) :: (afterReads ++
          (call, replaceEvent ((request call).payload second) answer) :: later)) = true := by
    simpa [whole] using apart.updates
  have kept : ∀ step ∈ afterReads, KnownHostsOp.isReplace step.2.1 = false :=
    not_replaces_of_serializedBy inOrder rfl replaces (by simp [ownAfter])
  rcases answeredBy_append.mp ran with ⟨_, -, _, -, ranBetween⟩
  rcases answeredBy_append.mp ranBetween with ⟨again, -, last, ⟨isSecond, isLast⟩, ranAfter⟩
  have sameAfter : file = last := unchanged_of_not_replaces knownHostsFile_keeps ranAfter kept
  rw [sameAfter, isLast, ← isSecond]
  rfl

/-- A step leaves the file as it is or adds the line of its call. -/
theorem step_adds {step : Call × Event knownHostsSignature} (apart : KeptApart request run)
    (whole : run = earlier ++ step :: later)
    (ran : AnsweredBy (knownHostsFile Call) initial earlier file)
    (responds : (knownHostsFile Call).respond step.1 file step.2.1 step.2.2 after) :
    after = file ∨ KnownHostsOp.isReplace step.2.1 = true ∧
      after = some ((request step.1).payload file) := by
  cases replaces : KnownHostsOp.isReplace step.2.1 with
  | false => exact Or.inl (knownHostsFile_keeps _ _ _ _ _ responds replaces)
  | true =>
      have isReplacement := replacement_adds calls apart whole ran replaces
      rcases step with ⟨call, op, answer⟩
      obtain rfl : op = .replace ((request call).payload file) := isReplacement
      rcases (answer : Except WriteFailure Unit) with failure | ⟨⟩
      · exact responds.imp_right fun replaced => ⟨rfl, replaced⟩
      · exact Or.inr ⟨rfl, responds⟩

end

/-- What is kept whenever a call adds its line is kept by a part of the run. -/
theorem run_keeps {middle : List (Call × Event knownHostsSignature)} (holds : Option String → Prop)
    (calls : ∀ call, Calls (trust (request call)).run (ownEvents call run))
    (apart : KeptApart request run) (whole : run = earlier ++ middle ++ later)
    (ran : AnsweredBy (knownHostsFile Call) initial earlier file)
    (ranMiddle : AnsweredBy (knownHostsFile Call) file middle after)
    (adds : ∀ step ∈ middle, KnownHostsOp.isReplace step.2.1 = true →
      ∀ content, holds content → holds (some ((request step.1).payload content)))
    (start : holds file) :
    holds after := by
  induction middle generalizing earlier file with
  | nil =>
      rw [show after = file from ranMiddle]
      exact start
  | cons step middle ih =>
      rcases ranMiddle with ⟨next, responds, ranRest⟩
      have wholeStep : run = earlier ++ step :: (middle ++ later) := by simp [whole]
      have ranStep : AnsweredBy (knownHostsFile Call) initial (earlier ++ [step]) next :=
        answeredBy_append.mpr ⟨file, ran, next, responds, rfl⟩
      have stepped : holds next := by
        rcases step_adds calls apart wholeStep ran responds with rfl | ⟨replaces, rfl⟩
        · exact start
        · exact adds step List.mem_cons_self replaces file start
      exact ih (by simp [whole]) ranStep ranRest
        (fun other member => adds other (List.mem_cons_of_mem _ member)) stepped

/-- A part of the run keeps the last line ended and the entries in the file. -/
theorem entries_kept {middle : List (Call × Event knownHostsSignature)}
    (proper : ∀ call, (request call).Proper)
    (calls : ∀ call, Calls (trust (request call)).run (ownEvents call run))
    (apart : KeptApart request run) (whole : run = earlier ++ middle ++ later)
    (ran : AnsweredBy (knownHostsFile Call) initial earlier file) (terminated : TerminatedFile file)
    (ranMiddle : AnsweredBy (knownHostsFile Call) file middle after) :
    TerminatedFile after ∧ KeepsEntries file after := by
  refine run_keeps (fun content => TerminatedFile content ∧ KeepsEntries file content) calls
    apart whole ran ranMiddle ?_ ⟨terminated, fun _ _ found => found⟩
  rintro step - - content ⟨ended, keeps⟩
  exact ⟨terminatedFile_payload (proper step.1), fun pattern line found =>
    findEntry_payload_of_found (proper step.1) ended (keeps pattern line found)⟩

/-- A call that replaces the file finds no entry for its host in it. -/
theorem absent_of_replacement {call : Call} {event : Event knownHostsSignature}
    (proper : ∀ call, (request call).Proper)
    (calls : ∀ call, Calls (trust (request call)).run (ownEvents call run))
    (apart : KeptApart request run) (whole : run = earlier ++ (call, event) :: later)
    (terminated : TerminatedFile initial)
    (ran : AnsweredBy (knownHostsFile Call) initial earlier file)
    (replaces : KnownHostsOp.isReplace event.1 = true) :
    findEntry (request call).pattern file = none := by
  rcases reads_of_replacement calls whole replaces with
    ⟨first, second, answer, before, betweenReads, afterReads, absent, rfl, rfl, ownBetween, -⟩
  generalize isBetween : betweenReads ++ (call, readEvent .update second) :: afterReads = between
    at *
  rcases answeredBy_append.mp ran with ⟨found, ranBefore, next, ⟨isFirst, isNext⟩, ranBetween⟩
  have ranLookup : AnsweredBy (knownHostsFile Call) initial
      (before ++ [(call, readEvent .lookup first)]) next :=
    answeredBy_append.mpr ⟨found, ranBefore, next, ⟨isFirst, isNext⟩, rfl⟩
  have wholeBetween : run = (before ++ [(call, readEvent .lookup first)]) ++ between ++
      (call, replaceEvent ((request call).payload second) answer) :: later := by simp [whole]
  have wholeLookup : run = [] ++ (before ++ [(call, readEvent .lookup first)]) ++ (between ++
      (call, replaceEvent ((request call).payload second) answer) :: later) := by simp [whole]
  have terminatedNext : TerminatedFile next :=
    (entries_kept proper calls apart wholeLookup rfl terminated ranLookup).1
  -- meanwhile only calls for other hosts have added lines
  have others : ∀ step ∈ between, KnownHostsOp.isReplace step.2.1 = true →
      (request call).pattern ≠ (request step.1).pattern := by
    intro step member replacesToo same
    have inOrder := apart.lookups (request call).pattern
    simp only [whole, List.append_assoc, List.cons_append, List.filter_append,
      List.filter_cons, decide_true, if_true] at inOrder
    have kept := not_replaces_of_serializedBy inOrder rfl replaces
      (by
        intro event own
        have inBetween := mem_ownEvents.mpr (List.mem_filter.mp (mem_ownEvents.mp own)).1
        rw [ownBetween, List.mem_singleton] at inBetween
        rw [inBetween]
        rfl)
    have refused := kept step (List.mem_filter.mpr ⟨member, decide_eq_true same.symm⟩)
    simp [refused] at replacesToo
  refine (run_keeps (fun content => TerminatedFile content ∧
    findEntry (request call).pattern content = none) calls apart wholeBetween ranLookup
    ranBetween ?_ ⟨terminatedNext, ?_⟩).2
  · rintro step member replacesToo content ⟨ended, stillAbsent⟩
    exact ⟨terminatedFile_payload (proper step.1), findEntry_payload_of_ne (proper step.1) ended
      stillAbsent (others step member replacesToo)⟩
  · rw [isNext, ← isFirst]
    exact absent

/-- A call that has returned without an error has left its line in the file. -/
theorem trusted_of_returned {call : Call} (proper : ∀ call, (request call).Proper)
    (calls : ∀ call, Calls (trust (request call)).run (ownEvents call run))
    (apart : KeptApart request run)
    (whole : run = earlier ++ later) (terminated : TerminatedFile initial)
    (ran : AnsweredBy (knownHostsFile Call) initial earlier file)
    (returned : Effect.Traces (trust (request call)).run (ownEvents call earlier) (.ok ())) :
    findEntry (request call).pattern file = some (request call).trustedLine := by
  -- the moment at which the line is in the file, and what the rest of the run makes of it
  have persists : ∀ {before after : List (Call × Event knownHostsSignature)}
      {atThen : Option String}, earlier = before ++ after →
      AnsweredBy (knownHostsFile Call) initial before atThen →
      AnsweredBy (knownHostsFile Call) atThen after file →
      findEntry (request call).pattern atThen = some (request call).trustedLine →
        findEntry (request call).pattern file = some (request call).trustedLine := by
    intro before after atThen split ranBefore ranAfter found
    have wholeBefore : run = [] ++ before ++ (after ++ later) := by simp [whole, split]
    have wholeAfter : run = before ++ after ++ later := by rw [whole, split]
    have ended := (entries_kept proper calls apart wholeBefore rfl terminated ranBefore).1
    exact (entries_kept proper calls apart wholeAfter ranBefore ended ranAfter).2 _ _ found
  rcases traces_trust returned with ⟨content, own, line, found, same⟩ | ⟨first, second, -, own⟩
  · rcases ownEvents_eq_cons own with ⟨before, after, split, -⟩
    rw [split] at ran
    rcases answeredBy_append.mp ran with ⟨atThen, ranBefore, next, ⟨isContent, isNext⟩, ranAfter⟩
    apply persists split ranBefore (show AnsweredBy (knownHostsFile Call) atThen
      ((call, readEvent .lookup content) :: after) file from ⟨next, ⟨isContent, isNext⟩, ranAfter⟩)
    rw [← isContent, found, ← same, strip_findEntry found]
  · have member : (call, replaceEvent ((request call).payload second) (.ok ())) ∈ earlier :=
      mem_ownEvents.mp (by simp [own])
    rcases List.append_of_mem member with ⟨before, after, split⟩
    rw [split] at ran
    rcases answeredBy_append.mp ran with ⟨atThen, ranBefore, next, isNext, ranAfter⟩
    have wholeBefore : run = [] ++ before ++ ((call, replaceEvent ((request call).payload second)
        (.ok ())) :: after ++ later) := by simp [whole, split]
    have ended := (entries_kept proper calls apart wholeBefore rfl terminated ranBefore).1
    have wholeStep : run = before ++ (call, replaceEvent ((request call).payload second)
        (.ok ())) :: (after ++ later) := by simp [whole, split]
    have absent := absent_of_replacement proper calls apart wholeStep terminated ranBefore rfl
    have samePayload := replacement_adds calls apart wholeStep ranBefore rfl
    have isPayload : next = some ((request call).payload atThen) := by
      rw [← KnownHostsOp.replace.inj samePayload]
      exact isNext
    have ranStep : AnsweredBy (knownHostsFile Call) initial
        (before ++ [(call, replaceEvent ((request call).payload second) (.ok ()))]) next :=
      answeredBy_append.mpr ⟨atThen, ranBefore, next, isNext, rfl⟩
    apply persists (by simp [split]) ranStep ranAfter
    rw [isPayload]
    exact findEntry_payload_self (proper call) ended absent

end Run

/-- Trust only grows while calls keep out of each other's way and the last line of the file has an
end: entries that are found stay as they are, and a call that has returned without an error has left
its line. -/
theorem trust_only_grows {Call : Type} [DecidableEq Call] (request : Call → TrustRequest)
    (earlier later : List (Call × Event knownHostsSignature)) (initial middle final : Option String)
    (calls : ∀ call, Calls (trust (request call)).run (ownEvents call (earlier ++ later)))
    (ranEarlier : AnsweredBy (knownHostsFile Call) initial earlier middle)
    (ranLater : AnsweredBy (knownHostsFile Call) middle later final)
    (proper : ∀ call, (request call).Proper) (terminated : TerminatedFile initial)
    (apart : KeptApart request (earlier ++ later)) :
    (∀ host port line, findEntry (knownHostsPattern host port) middle = some line →
      findEntry (knownHostsPattern host port) final = some line) ∧
    ∀ call, Effect.Traces (trust (request call)).run (ownEvents call earlier) (.ok ()) →
      findEntry (request call).pattern final = some (request call).trustedLine := by
  have wholeEarlier : earlier ++ later = [] ++ earlier ++ later := rfl
  have wholeLater : earlier ++ later = earlier ++ later ++ [] := by simp
  have terminatedMiddle :=
    (entries_kept proper calls apart wholeEarlier rfl terminated ranEarlier).1
  have keeps :=
    (entries_kept proper calls apart wholeLater ranEarlier terminatedMiddle ranLater).2
  constructor
  · exact fun host port line found => keeps _ _ found
  · intro call returned
    exact keeps _ _
      (trusted_of_returned proper calls apart rfl terminated ranEarlier returned)

/-- The first contacts with the two leaves of a pair. -/
def leafTrust (second : Bool) : TrustRequest where
  host := if second then "10.0.0.2" else "10.0.0.1"
  port := 830
  keyName := "ssh-ed25519"
  keyB64 := if second then "AAAB" else "AAAA"

theorem calls_leafTrust (second : Bool) {first again : Option String}
    (absent : findEntry (leafTrust second).pattern first = none) :
    Effect.Traces (trust (leafTrust second)).run [readEvent .lookup first, readEvent .update again,
      replaceEvent ((leafTrust second).payload again) (.ok ())] (.ok ()) := by
  rw [trust_run]
  refine @Effect.Traces.call knownHostsSignature _ (.read .lookup) _ _ _
    (.ok first : Except Raised _) ?_
  change Effect.Traces (trustAfterLookup _ (findEntry (leafTrust second).pattern first)) _ _
  rw [absent]
  exact .call _ (.call _ (.done _))

/-- The file once the first leaf is trusted. -/
def firstLeafTrusted : Option String :=
  some ((leafTrust false).payload none)

theorem proper_leafTrust (second : Bool) : (leafTrust second).Proper := by
  cases second <;> simp [TrustRequest.Proper, leafTrust] <;> decide

/-- Both calls look their hosts up before either adds its line. -/
theorem trust_only_grows_leaves :
    findEntry (knownHostsPattern "10.0.0.1" 830)
        (some ((leafTrust true).payload firstLeafTrusted)) =
      some "[10.0.0.1]:830 ssh-ed25519 AAAA" := by
  refine (trust_only_grows leafTrust
    [(false, readEvent .lookup none), (true, readEvent .lookup none),
      (false, readEvent .update none),
      (false, replaceEvent ((leafTrust false).payload none) (.ok ()))]
    [(true, readEvent .update firstLeafTrusted),
      (true, replaceEvent ((leafTrust true).payload firstLeafTrusted) (.ok ()))]
    none firstLeafTrusted (some ((leafTrust true).payload firstLeafTrusted)) ?_ ?_ ?_
    proper_leafTrust ?_ ⟨by decide, ?_⟩).2 false (calls_leafTrust false rfl)
  · intro call
    cases call
    · exact (calls_leafTrust false rfl).calls
    · exact (calls_leafTrust true rfl).calls
  · exact ⟨none, ⟨rfl, rfl⟩, none, ⟨rfl, rfl⟩, none, ⟨rfl, rfl⟩, _, rfl, rfl⟩
  · exact ⟨_, ⟨rfl, rfl⟩, _, rfl, rfl⟩
  · intro c isLast
    cases isLast
  · intro pattern
    by_cases isFirst : (leafTrust false).pattern = pattern
    · subst isFirst
      decide
    · by_cases isSecond : (leafTrust true).pattern = pattern
      · subst isSecond
        decide
      · simp [isFirst, isSecond, serializedBy]

/-- Two first contacts that overlap: the second one writes back the text from before the first, and
the first host is not known any more.  And alone, a first contact with a file whose last line has no
end makes one line of the two. -/
theorem trust_forgets :
    (∃ (run : List (Bool × Event knownHostsSignature)) (final : Option String),
      (∀ call, Effect.Traces (trust (leafTrust call)).run (ownEvents call run) (.ok ())) ∧
        AnsweredBy (knownHostsFile Bool) none run final ∧
          findEntry (leafTrust false).pattern final = none ∧
          Effect.Traces (hasHost "10.0.0.1" 830).run [readEvent .lookup final] (.ok false)) ∧
    ∃ (run : List (Unit × Event knownHostsSignature)) (final : Option String),
      Effect.Traces (trust (leafTrust true)).run (ownEvents () run) (.ok ()) ∧
        AnsweredBy (knownHostsFile Unit) (some "[10.0.0.1]:830 ssh-ed25519 AAAA") run final ∧
          findEntry (leafTrust true).pattern final = none := by
  constructor
  · have forgotten : findEntry (leafTrust false).pattern (some ((leafTrust true).payload none)) =
        none := by
      decide +kernel
    have unknown := traces_hasHost "10.0.0.1" 830 (some ((leafTrust true).payload none))
    rw [show knownHostsPattern "10.0.0.1" 830 = (leafTrust false).pattern from rfl, forgotten]
      at unknown
    refine ⟨[(false, readEvent .lookup none), (true, readEvent .lookup none),
      (false, readEvent .update none), (true, readEvent .update none),
      (false, replaceEvent ((leafTrust false).payload none) (.ok ())),
      (true, replaceEvent ((leafTrust true).payload none) (.ok ()))],
      some ((leafTrust true).payload none), ?_, ?_, forgotten, unknown⟩
    · intro call
      cases call
      · exact calls_leafTrust false rfl
      · exact calls_leafTrust true rfl
    · exact ⟨none, ⟨rfl, rfl⟩, none, ⟨rfl, rfl⟩, none, ⟨rfl, rfl⟩, none, ⟨rfl, rfl⟩, _, rfl, _,
        rfl, rfl⟩
  · refine ⟨[((), readEvent .lookup _), ((), readEvent .update _),
      ((), replaceEvent ((leafTrust true).payload _) (.ok ()))], some ((leafTrust true).payload _),
      calls_leafTrust true ?_, ⟨_, ⟨rfl, rfl⟩, _, ⟨rfl, rfl⟩, _, rfl, rfl⟩, ?_⟩
    · decide +kernel
    · decide +kernel

end AriaUnderlay
