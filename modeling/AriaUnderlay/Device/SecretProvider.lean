import AriaUnderlay.Collections.Words
import AriaUnderlay.Device.Bootstrap
import AriaUnderlay.Netconf.Device

/-!
# Local secrets

The adapter turns the name of a secret into credentials.  It looks for environment variables whose
names are made from the name of the secret, and then for the entry of that name in a file.  The
entries of the file are told apart by the whole name.  The variables are told apart only by the
words of the name, without regard to case and to what stands between the words.
-/

namespace AriaUnderlay

open Collections

/-! ## Secrets and where they are kept -/

/-- Credentials for a session. -/
structure NetconfSecret where
  username : String
  password : Option String
  keyPath : Option String
  passphrase : Option String
  deriving DecidableEq, Repr

/-- A JSON document, as far as it is looked at. -/
inductive Json where
  | null
  | text (value : String)
  | object (fields : List (String × Json))
  | other

/-- A field of an object, where a missing one reads as null. -/
def Json.field (fields : List (String × Json)) (name : String) : Json :=
  (fields.lookup name).getD .null

/-- What reading the file gives. -/
inductive SecretFile where
  | missing (summary : String)
  | unreadable (raised : Raised)
  | invalid (summary : String)
  | document (root : Json)

/-- The environment variables and the files. -/
structure SecretSurroundings where
  getenv : String → Option String
  readFile : String → SecretFile

/-- What the provider is configured with. -/
structure LocalSecretProvider where
  secretFile : Option String := none
  envPrefix : String := "ARIA_UNDERLAY_SECRET"
  deriving DecidableEq, Repr

/-! ## Errors -/

def missingSecretError (secretRef reason : String) : AdapterError where
  code := "SECRET_NOT_FOUND"
  message := "secret not found or incomplete: " ++ secretRef
  normalizedError := "secret missing"
  rawErrorSummary := reason
  retryable := false

def invalidSecretError (secretRef reason : String) : AdapterError where
  code := "SECRET_INVALID"
  message := "secret is invalid: " ++ secretRef
  normalizedError := "secret invalid"
  rawErrorSummary := reason
  retryable := false

def secretFileNotFound (path summary : String) : AdapterError where
  code := "SECRET_FILE_NOT_FOUND"
  message := "secret file not found: " ++ path
  normalizedError := "secret file missing"
  rawErrorSummary := summary
  retryable := false

def secretFileInvalid (message summary : String) : AdapterError where
  code := "SECRET_FILE_INVALID"
  message := message
  normalizedError := "secret file invalid"
  rawErrorSummary := summary
  retryable := false

def secretEntryInvalid (secretRef : String) : AdapterError where
  code := "SECRET_ENTRY_INVALID"
  message := "secret entry must be an object: " ++ secretRef
  normalizedError := "secret entry invalid"
  rawErrorSummary := secretRef
  retryable := false

/-! ## Resolving a name -/

/-- A field that may be missing but has to be a text. -/
def optionalText (secretRef name : String) (value : Json) : Except Raised (Option String) :=
  match value with
  | .null => .ok none
  | .text value => .ok (some value)
  | .object _ | .other =>
      .error (.adapter (invalidSecretError secretRef (name ++ " must be a string")))

def requiredUsername (secretRef : String) (value : Json) : Except Raised String :=
  match value with
  | .text username =>
      if username = "" then .error (.adapter (missingSecretError secretRef "missing username"))
      else .ok username
  | .null | .object _ | .other =>
      .error (.adapter (missingSecretError secretRef "missing username"))

/-- The credentials in a mapping. -/
def secretFromMapping (secretRef : String) (mapping : String → Json) :
    Except Raised NetconfSecret := do
  let username ← requiredUsername secretRef (mapping "username")
  let password ← optionalText secretRef "password" (mapping "password")
  let keyPath ← optionalText secretRef "key_path" (mapping "key_path")
  let passphrase ← optionalText secretRef "passphrase" (mapping "passphrase")
  if password.getD "" = "" ∧ keyPath.getD "" = "" then
    .error (.adapter (missingSecretError secretRef "missing password or key_path"))
  else .ok ⟨username, password, keyPath, passphrase⟩

def secretRefEnvKey (secretRef : String) : String :=
  .ofList ((strip (· = '_') (replaceRuns isAsciiAlphanumeric '_' false secretRef.toList)).map
    Char.toUpper)

namespace LocalSecretProvider

variable (provider : LocalSecretProvider) (surroundings : SecretSurroundings)

/-- The variable for one part of the credentials. -/
def variableName (secretRef part : String) : String :=
  provider.envPrefix ++ "_" ++ secretRefEnvKey secretRef ++ "_" ++ part

/-- Read a variable of a secret. -/
def readVariable (secretRef part : String) : Option String :=
  surroundings.getenv (provider.variableName secretRef part)

/-- Some variable names a user, a password or a key. -/
def usesEnvironment (secretRef : String) : Bool :=
  (provider.readVariable surroundings secretRef "USERNAME").isSome ||
    (provider.readVariable surroundings secretRef "PASSWORD").isSome ||
    (provider.readVariable surroundings secretRef "KEY_PATH").isSome

def environmentMapping (secretRef : String) : String → Json
  | "username" => ((provider.readVariable surroundings secretRef "USERNAME").map .text).getD .null
  | "password" => ((provider.readVariable surroundings secretRef "PASSWORD").map .text).getD .null
  | "key_path" => ((provider.readVariable surroundings secretRef "KEY_PATH").map .text).getD .null
  | "passphrase" =>
      ((provider.readVariable surroundings secretRef "PASSPHRASE").map .text).getD .null
  | _ => .null

def resolveFromEnv (secretRef : String) : Except Raised (Option NetconfSecret) :=
  if provider.usesEnvironment surroundings secretRef then
    (secretFromMapping secretRef (provider.environmentMapping surroundings secretRef)).map some
  else .ok none

/-- The object that holds the entries: the field `secrets`, or the whole document without one. -/
def secretEntries (root : List (String × Json)) : Except Raised (List (String × Json)) :=
  match (root.lookup "secrets").getD (.object root) with
  | .object entries => .ok entries
  | .null | .text _ | .other => .error (.adapter (secretFileInvalid
      "secret file secrets field must be a JSON object" "secrets is not object"))

def resolveFromDocument (secretRef : String) (document : Json) :
    Except Raised (Option NetconfSecret) :=
  match document with
  | .object root => do
      let entries ← secretEntries root
      match Json.field entries secretRef with
      | .null => .ok none
      | .object entry => (secretFromMapping secretRef (Json.field entry)).map some
      | .text _ | .other => .error (.adapter (secretEntryInvalid secretRef))
  | .null | .text _ | .other => .error (.adapter (secretFileInvalid
      "secret file root must be a JSON object" "root is not object"))

/-- The credentials in the file. -/
def resolveFromFile (secretRef : String) : Except Raised (Option NetconfSecret) :=
  match provider.secretFile with
  | none => .ok none
  | some path =>
      if path = "" then .ok none
      else
        match surroundings.readFile path with
        | .missing summary => .error (.adapter (secretFileNotFound path summary))
        | .unreadable raised => .error raised
        | .invalid summary => .error (.adapter
            (secretFileInvalid ("secret file is not valid JSON: " ++ path) summary))
        | .document root => resolveFromDocument secretRef root

def resolve (secretRef : String) : Except Raised NetconfSecret :=
  if secretRef = "" then .error (.adapter (missingSecretError secretRef "empty secret_ref"))
  else do
    match ← provider.resolveFromEnv surroundings secretRef with
    | some secret => .ok secret
    | none =>
        match ← provider.resolveFromFile surroundings secretRef with
        | some secret => .ok secret
        | none => .error (.adapter (missingSecretError secretRef
            "no matching environment variables or local secret file entry"))

/-! ## Where credentials come from -/

end LocalSecretProvider

/-- Where a secret is looked for. -/
inductive SecretSource where
  | variable (name : String)
  | entry (secretRef : String)
  deriving DecidableEq, Repr

namespace LocalSecretProvider

variable (provider : LocalSecretProvider) (surroundings : SecretSurroundings)

/-- The parts of the credentials that the environment can hold. -/
def secretParts : List String :=
  ["USERNAME", "PASSWORD", "KEY_PATH", "PASSPHRASE"]

/-- What serves a name: the variables that are set for it, or else the entry of the file. -/
def sources (secretRef : String) : List SecretSource :=
  if provider.usesEnvironment surroundings secretRef then
    (secretParts.filter fun part => (provider.readVariable surroundings secretRef part).isSome).map
      fun part => .variable (provider.variableName secretRef part)
  else [.entry secretRef]

end LocalSecretProvider

/-! ## Names of variables -/

/-- The words of a name in capital letters. -/
def secretWords (secretRef : String) : List (List Char) :=
  (wordsOf isAsciiAlphanumeric secretRef.toList).map fun word => word.map Char.toUpper

/-- Small letters are moved to the capital ones, and the underscore comes after those. -/
theorem toNat_toUpper_lt {c : Char} (isLower : 'a'.val ≤ c.val ∧ c.val ≤ 'z'.val) :
    c.toUpper.toNat < 95 := by
  have lower : 97 ≤ c.toNat := UInt32.le_iff_toNat_le.mp isLower.1
  have upper : c.toNat ≤ 122 := UInt32.le_iff_toNat_le.mp isLower.2
  rw [Char.toUpper, dif_pos isLower]
  change (c.val + ('A'.val - 'a'.val)).toNat < 95
  rw [UInt32.toNat_add]
  change (c.toNat + 4294967264) % 4294967296 < 95
  omega

theorem toUpper_ne_underscore {c : Char} (isWord : isAsciiAlphanumeric c = true) :
    c.toUpper ≠ '_' := by
  intro same
  by_cases isLower : 'a'.val ≤ c.val ∧ c.val ≤ 'z'.val
  · have below := toNat_toUpper_lt isLower
    rw [same] at below
    exact absurd below (by decide)
  · rw [Char.toUpper, dif_neg isLower] at same
    subst same
    revert isWord
    decide

theorem secretWords_proper {secretRef : String} {word : List Char}
    (isWord : word ∈ secretWords secretRef) :
    word ≠ [] ∧ '_' ∉ word := by
  rcases List.mem_map.mp isWord with ⟨plain, isPlain, rfl⟩
  constructor
  · simpa using ne_nil_of_mem_wordsOf isPlain
  · intro member
    rcases List.mem_map.mp member with ⟨c, isLetter, same⟩
    exact toUpper_ne_underscore (keep_of_mem_wordsOf isPlain isLetter) same

/-- Two names have the same variables exactly if they have the same words. -/
theorem secretRefEnvKey_eq_iff {first second : String} :
    secretRefEnvKey first = secretRefEnvKey second ↔ secretWords first = secretWords second := by
  have spelled : ∀ secretRef, secretRefEnvKey secretRef =
      .ofList (['_'].intercalate (secretWords secretRef)) := by
    intro secretRef
    rw [secretRefEnvKey, strip_replaceRuns rfl, map_intercalate]
    rfl
  rw [spelled, spelled, String.ofList_inj]
  exact intercalate_inj (fun _ => secretWords_proper) fun _ => secretWords_proper

theorem part_eq_of_append_eq {front back : List Char} {part other : String}
    (isPart : part ∈ LocalSecretProvider.secretParts)
    (isOther : other ∈ LocalSecretProvider.secretParts)
    (same : front ++ part.toList = back ++ other.toList) :
    part = other := by
  -- the last two letters tell the parts apart
  have lastTwo : ∀ part ∈ LocalSecretProvider.secretParts, ∀ front : List Char,
      (front ++ part.toList).reverse.take 2 = part.toList.reverse.take 2 := by
    intro part isPart front
    simp only [LocalSecretProvider.secretParts, List.mem_cons, List.not_mem_nil, or_false] at isPart
    rcases isPart with rfl | rfl | rfl | rfl <;> simp
  have apart : ∀ part ∈ LocalSecretProvider.secretParts,
      ∀ other ∈ LocalSecretProvider.secretParts,
        part.toList.reverse.take 2 = other.toList.reverse.take 2 → part = other := by
    decide
  apply apart part isPart other isOther
  rw [← lastTwo part isPart front, same, lastTwo other isOther back]

namespace LocalSecretProvider

section Sources

variable {provider : LocalSecretProvider} {surroundings : SecretSurroundings}
  {first second secretRef : String}

theorem variableName_inj {part other : String} (isPart : part ∈ secretParts)
    (isOther : other ∈ secretParts)
    (same : provider.variableName first part = provider.variableName second other) :
    secretWords first = secretWords second := by
  have sameText := congrArg String.toList same
  simp only [variableName, String.toList_append, List.append_assoc, List.append_cancel_left_eq]
    at sameText
  rw [← List.append_assoc, ← List.append_assoc] at sameText
  obtain rfl : part = other := part_eq_of_append_eq isPart isOther sameText
  rw [List.append_left_inj, List.append_left_inj, String.toList_inj] at sameText
  exact secretRefEnvKey_eq_iff.mp sameText

variable {secret : NetconfSecret}

theorem secretFromMapping_username {mapping : String → Json}
    (found : secretFromMapping secretRef mapping = .ok secret) :
    mapping "username" = .text secret.username := by
  rw [secretFromMapping] at found
  cases isUsername : mapping "username" with
  | text username =>
      simp only [isUsername, requiredUsername] at found
      split at found
      · cases found
      · simp only [bind, Except.bind] at found
        split at found
        · cases found
        · split at found
          · cases found
          · split at found
            · cases found
            · split at found
              · cases found
              · rw [← Except.ok.inj found]
  | null => simp [isUsername, requiredUsername, bind, Except.bind] at found
  | object fields => simp [isUsername, requiredUsername, bind, Except.bind] at found
  | other => simp [isUsername, requiredUsername, bind, Except.bind] at found

/-- Credentials are read from the variables if some are set, and from the file entry otherwise. -/
theorem resolve_of_usesEnvironment (uses : provider.usesEnvironment surroundings secretRef = true)
    (resolved : provider.resolve surroundings secretRef = .ok secret) :
    secretFromMapping secretRef (provider.environmentMapping surroundings secretRef) =
      .ok secret := by
  unfold resolve at resolved
  split at resolved
  · cases resolved
  · rw [resolveFromEnv, if_pos uses] at resolved
    cases found : secretFromMapping secretRef
        (provider.environmentMapping surroundings secretRef) with
    | error raised => simp [found, bind, Except.bind, Except.map] at resolved
    | ok other => simpa [found, bind, Except.bind, Except.map] using resolved

/-- Credentials from the environment come with a user. -/
theorem username_of_resolve (uses : provider.usesEnvironment surroundings secretRef = true)
    (resolved : provider.resolve surroundings secretRef = .ok secret) :
    (provider.readVariable surroundings secretRef "USERNAME").isSome := by
  have named := secretFromMapping_username (resolve_of_usesEnvironment uses resolved)
  cases isSet : provider.readVariable surroundings secretRef "USERNAME" with
  | none => simp [environmentMapping, isSet] at named
  | some username => rfl

theorem usesEnvironment_congr (same : secretWords first = secretWords second) :
    provider.usesEnvironment surroundings first = provider.usesEnvironment surroundings second := by
  simp only [usesEnvironment, readVariable, variableName, secretRefEnvKey_eq_iff.mpr same]

/-- Two names that resolve are served by different sources exactly if their words differ or the
environment serves neither. -/
theorem sources_disjoint_iff (distinct : first ≠ second) {firstSecret secondSecret : NetconfSecret}
    (firstResolved : provider.resolve surroundings first = .ok firstSecret)
    (secondResolved : provider.resolve surroundings second = .ok secondSecret) :
    (provider.sources surroundings first).Disjoint (provider.sources surroundings second) ↔
      secretWords first ≠ secretWords second ∨
        provider.usesEnvironment surroundings first = false := by
  constructor
  · intro disjoint
    by_contra refused
    rw [not_or, not_not, Bool.not_eq_false] at refused
    rcases refused with ⟨sameWords, uses⟩
    have usesSecond : provider.usesEnvironment surroundings second = true :=
      usesEnvironment_congr sameWords ▸ uses
    have inSources : ∀ {secretRef secret}, provider.usesEnvironment surroundings secretRef = true →
        provider.resolve surroundings secretRef = .ok secret →
          .variable (provider.variableName secretRef "USERNAME") ∈
            provider.sources surroundings secretRef := by
      intro secretRef secret uses resolved
      rw [sources, if_pos uses]
      refine List.mem_map.mpr ⟨"USERNAME", List.mem_filter.mpr ⟨by decide, ?_⟩, rfl⟩
      exact username_of_resolve uses resolved
    refine disjoint (inSources uses firstResolved) ?_
    have sameName : provider.variableName first "USERNAME" =
        provider.variableName second "USERNAME" := by
      simp only [variableName, secretRefEnvKey_eq_iff.mpr sameWords]
    rw [sameName]
    exact inSources usesSecond secondResolved
  · intro apart source inFirst inSecond
    unfold sources at inFirst inSecond
    split at inFirst
    case isTrue uses =>
      rcases List.mem_map.mp inFirst with ⟨part, isPart, rfl⟩
      split at inSecond
      case isTrue =>
        rcases List.mem_map.mp inSecond with ⟨other, isOther, sameName⟩
        have sameWords := variableName_inj (List.mem_of_mem_filter isPart)
          (List.mem_of_mem_filter isOther) (SecretSource.variable.inj sameName).symm
        rcases apart with differ | unused
        · exact differ sameWords
        · simp [uses] at unused
      case isFalse => simp at inSecond
    case isFalse =>
      rw [List.mem_singleton] at inFirst
      subst inFirst
      split at inSecond
      case isTrue => simp at inSecond
      case isFalse =>
        rw [List.mem_singleton] at inSecond
        exact distinct (SecretSource.entry.inj inSecond)

end Sources

end LocalSecretProvider

/-! ## Names of secrets -/

/-- A switch of an accepted request with the secret that was created for it. -/
structure ProvisionedSwitch where
  env : DeviceEnv
  request : InitializeUnderlaySiteRequest
  switch : SwitchBootstrapRequest
  store : InMemorySecretStore
  secret : SecretProvisioningResult
  accepted : validateSwitchPair env request = .ok ()
  member : switch ∈ request.switches
  provisioned : (store.createForDevice request.tenantId request.siteId switch.deviceId
    switch.credential).1 = .ok secret
  created : secret.cleanupOnRegistrationFailure = true

namespace ProvisionedSwitch

variable (provisioned : ProvisionedSwitch)

/-- What tells switches apart. -/
def identity : String × String × DeviceId :=
  (provisioned.request.tenantId, provisioned.request.siteId, provisioned.switch.deviceId)

theorem secretRef_eq :
    provisioned.secret.secretRef = deviceSecretRef provisioned.request.tenantId
      provisioned.request.siteId provisioned.switch.deviceId := by
  have result := provisioned.provisioned
  cases brought : broughtCredential provisioned.switch.credential with
  | some stored =>
      rw [createForDevice_of_brought brought] at result
      rw [← Except.ok.inj result]
  | none =>
      have kept := (createForDevice_of_not_brought _ _ _ _ brought).2 _ result
      rw [provisioned.created] at kept
      cases kept

theorem slash_not_mem_deviceId : '/' ∉ provisioned.switch.deviceId.toList := by
  have accepted := provisioned.accepted
  simp only [validateSwitchPair, andThen_eq_ok, forM_eq_ok] at accepted
  rcases accepted with ⟨-, -, -, -, -, -, -, switches⟩
  have checked := switches provisioned.switch provisioned.member
  simp only [validateSwitch, andThen_eq_ok, Registration.validateDeviceId, refuseIf_eq_ok,
    Bool.not_eq_false] at checked
  have canonical := checked.1
  simp only [isCanonicalIdentifier, decide_eq_true_eq, List.all_eq_true] at canonical
  intro isSlash
  exact absurd (canonical.2 '/' isSlash) (by decide)

/-- The tenant of the first switch is that of the second one with a slash and a text added, and the
site of the second is that text, a slash and the site of the first. -/
def Overlaps (first second : ProvisionedSwitch) : Prop :=
  ∃ middle, first.request.tenantId = second.request.tenantId ++ "/" ++ middle ∧
    second.request.siteId = middle ++ "/" ++ first.request.siteId

theorem overlaps_iff {first second : ProvisionedSwitch} :
    first.Overlaps second ↔ ∃ middle : List Char,
      first.request.tenantId.toList = second.request.tenantId.toList ++ '/' :: middle ∧
        second.request.siteId.toList = middle ++ '/' :: first.request.siteId.toList := by
  constructor
  · rintro ⟨middle, tenant, site⟩
    exact ⟨middle.toList, by simp [tenant], by simp [site]⟩
  · rintro ⟨middle, tenant, site⟩
    refine ⟨.ofList middle, ?_, ?_⟩
    · simp [← String.toList_inj, tenant]
    · simp [← String.toList_inj, site]

/-- Different switches share the name of their secret exactly if they share the device id, and
tenant and site are the same text cut at another slash. -/
theorem secretRef_eq_iff {first second : ProvisionedSwitch}
    (distinct : first.identity ≠ second.identity) :
    first.secret.secretRef = second.secret.secretRef ↔
      first.switch.deviceId = second.switch.deviceId ∧
        (first.Overlaps second ∨ second.Overlaps first) := by
  have joined : ∀ provisioned : ProvisionedSwitch, provisioned.secret.secretRef.toList =
      "local/".toList ++ ((provisioned.request.tenantId.toList ++
        '/' :: provisioned.request.siteId.toList) ++
          '/' :: provisioned.switch.deviceId.toList) := by
    intro provisioned
    rw [secretRef_eq]
    simp [deviceSecretRef]
  rw [← String.toList_inj, joined, joined, List.append_right_inj, overlaps_iff, overlaps_iff]
  constructor
  · intro same
    rcases append_cons_inj first.slash_not_mem_deviceId second.slash_not_mem_deviceId same with
      ⟨samePath, sameDevice⟩
    rw [String.toList_inj] at sameDevice
    refine ⟨sameDevice, ?_⟩
    rcases append_cons_eq_iff.mp samePath with ⟨sameTenant, sameSite⟩ | overlap
    · rw [String.toList_inj] at sameTenant sameSite
      exact absurd (by rw [identity, identity, sameTenant, sameSite, sameDevice]) distinct
    · exact overlap
  · rintro ⟨sameDevice, overlap⟩
    rw [append_cons_eq_iff.mpr (.inr overlap), sameDevice]

end ProvisionedSwitch

/-- Credentials of different devices are kept apart except where a slash in a tenant or a site makes
two paths the same, and where the environment holds credentials for names with the same words. -/
theorem credentials_isolated_iff (firstSwitch secondSwitch : ProvisionedSwitch)
    (provider : LocalSecretProvider) (surroundings : SecretSurroundings) (first second : String)
    (firstSecret secondSecret : NetconfSecret) :
    (firstSwitch.identity ≠ secondSwitch.identity →
      (firstSwitch.secret.secretRef ≠ secondSwitch.secret.secretRef ↔
        ¬(firstSwitch.switch.deviceId = secondSwitch.switch.deviceId ∧
          (firstSwitch.Overlaps secondSwitch ∨ secondSwitch.Overlaps firstSwitch)))) ∧
    (first ≠ second →
      provider.resolve surroundings first = .ok firstSecret →
      provider.resolve surroundings second = .ok secondSecret →
      ((provider.sources surroundings first).Disjoint (provider.sources surroundings second) ↔
        secretWords first ≠ secretWords second ∨
          provider.usesEnvironment surroundings first = false)) := by
  constructor
  · intro distinct
    exact not_congr (ProvisionedSwitch.secretRef_eq_iff distinct)
  · intro distinct firstResolved secondResolved
    exact LocalSecretProvider.sources_disjoint_iff distinct firstResolved secondResolved

/-- The first switch of the pair in a site. -/
def leafOf (tenantId siteId : String)
    (accepted : validateSwitchPair responsiveDevices
      { leafPair with tenantId := tenantId, siteId := siteId } = .ok ()) : ProvisionedSwitch where
  env := responsiveDevices
  request := { leafPair with tenantId := tenantId, siteId := siteId }
  switch := leafSwitch "leaf-a" .leafA
  store := ∅
  secret := ⟨deviceSecretRef tenantId siteId "leaf-a", true⟩
  accepted := accepted
  member := List.mem_cons_self
  provisioned := by rfl
  created := rfl

/-- Variables for the device `leaf-a` of a site. -/
def leafVariables : SecretSurroundings where
  getenv
    | "ARIA_UNDERLAY_SECRET_LOCAL_TENANT_A_SITE_A_LEAF_A_USERNAME" => some "netconf"
    | "ARIA_UNDERLAY_SECRET_LOCAL_TENANT_A_SITE_A_LEAF_A_PASSWORD" => some "secret"
    | _ => none
  readFile := fun _ => .missing ""

theorem credentials_isolated_iff_leafPair :
    (leafOf "tenant-a" "site-a" (by decide +kernel)).secret.secretRef ≠
        (leafOf "tenant-a" "site-b" (by decide +kernel)).secret.secretRef ∧
      ¬(({} : LocalSecretProvider).sources leafVariables "local/tenant-a/site-a/leaf-a").Disjoint
        (({} : LocalSecretProvider).sources leafVariables "local/tenant-a/site-a/leaf_a") := by
  have sameTenant : ∀ middle : String, "tenant-a" ≠ "tenant-a" ++ "/" ++ middle := by
    intro middle same
    have sameLength := congrArg String.length same
    rw [String.length_append, String.length_append] at sameLength
    have slash : "/".length = 1 := rfl
    omega
  have isolated := credentials_isolated_iff (leafOf "tenant-a" "site-a" (by decide +kernel))
    (leafOf "tenant-a" "site-b" (by decide +kernel)) {} leafVariables
    "local/tenant-a/site-a/leaf-a" "local/tenant-a/site-a/leaf_a"
    ⟨"netconf", some "secret", none, none⟩ ⟨"netconf", some "secret", none, none⟩
  constructor
  · refine (isolated.1 (by decide)).mpr ?_
    rintro ⟨-, ⟨middle, tenant, -⟩ | ⟨middle, tenant, -⟩⟩
    · exact sameTenant middle tenant
    · exact sameTenant middle tenant
  · rw [isolated.2 (by decide) rfl rfl]
    decide +kernel

theorem credentials_shared :
    (∃ first second : ProvisionedSwitch, first.identity ≠ second.identity ∧
      first.secret.secretRef = second.secret.secretRef) ∧
    ∃ secret,
      ({} : LocalSecretProvider).resolve leafVariables "local/tenant-a/site-a/leaf-a" = .ok secret ∧
      ({} : LocalSecretProvider).resolve leafVariables "local/tenant-a/site-a/leaf_a" = .ok secret ∧
      .variable "ARIA_UNDERLAY_SECRET_LOCAL_TENANT_A_SITE_A_LEAF_A_PASSWORD" ∈
        ({} : LocalSecretProvider).sources leafVariables "local/tenant-a/site-a/leaf-a" ∧
      .variable "ARIA_UNDERLAY_SECRET_LOCAL_TENANT_A_SITE_A_LEAF_A_PASSWORD" ∈
        ({} : LocalSecretProvider).sources leafVariables "local/tenant-a/site-a/leaf_a" := by
  refine ⟨⟨leafOf "a/b" "c" (by decide +kernel), leafOf "a" "b/c" (by decide +kernel), ?_, ?_⟩,
    ⟨"netconf", some "secret", none, none⟩, ?_, ?_, ?_, ?_⟩
  · decide
  · decide +kernel
  · rfl
  · rfl
  · decide +kernel
  · decide +kernel

end AriaUnderlay
