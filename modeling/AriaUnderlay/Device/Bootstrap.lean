import AriaUnderlay.Device.Registration

/-!
# Initialization of a site

Initializing a site takes its two switches one after the other: store the credential, register the
device under the name of its secret, and onboard it.  When the registration is refused, a secret
that this request stored is removed again.

The inventory never gives an entry away to a second registration.  Secrets are not protected in the
same way: the name of a secret is computed from the tenant, the site and the device, so initializing
a device again replaces its secret before the registration is refused, and the clean-up then deletes
it.  `registeredDevicesKept_iff` says exactly when the devices that were registered before keep
their secrets.
-/

namespace AriaUnderlay

open Collections

/-! ## Secrets -/

/-- Credentials as they are given. -/
inductive NetconfCredentialInput where
  | password (username password : String)
  | privateKey (username keyPem : String) (passphrase : Option String)
  | existingSecretRef (secretRef : String)
  deriving DecidableEq, Repr

/-- Credentials as they are stored. -/
inductive StoredNetconfCredential where
  | password (username password : String)
  | privateKey (username keyPem : String) (passphrase : Option String)
  deriving DecidableEq, Repr

/-- The name of a secret, and whether it is new. -/
structure SecretProvisioningResult where
  secretRef : String
  cleanupOnRegistrationFailure : Bool
  deriving DecidableEq, Repr

def validateUsername (username : String) : Except UnderlayError Unit :=
  refuseIf (trim username = "") (.invalidDeviceState "NETCONF username cannot be empty")

def deviceSecretRef (tenantId siteId : String) (deviceId : DeviceId) : String :=
  "local/" ++ tenantId ++ "/" ++ siteId ++ "/" ++ deviceId

/-- The stored secrets. -/
abbrev InMemorySecretStore : Type := BTreeMap String StoredNetconfCredential

namespace InMemorySecretStore

def createForDevice (tenantId siteId : String) (deviceId : DeviceId)
    (credential : NetconfCredentialInput) (store : InMemorySecretStore) :
    Except UnderlayError SecretProvisioningResult × InMemorySecretStore :=
  match credential with
  | .existingSecretRef secretRef =>
      if trim secretRef = "" then
        (.error (.invalidDeviceState "secret_ref cannot be empty"), store)
      else (.ok ⟨secretRef, false⟩, store)
  | .password username password =>
      match validateUsername username with
      | .error error => (.error error, store)
      | .ok () =>
          if password = "" then
            (.error (.invalidDeviceState "NETCONF password cannot be empty"), store)
          else
            let secretRef := deviceSecretRef tenantId siteId deviceId
            (.ok ⟨secretRef, true⟩, store.insert secretRef (.password username password))
  | .privateKey username keyPem passphrase =>
      match validateUsername username with
      | .error error => (.error error, store)
      | .ok () =>
          if keyPem = "" then
            (.error (.invalidDeviceState "NETCONF private key cannot be empty"), store)
          else
            let secretRef := deviceSecretRef tenantId siteId deviceId
            (.ok ⟨secretRef, true⟩,
              store.insert secretRef (.privateKey username keyPem passphrase))

def delete (secretRef : String) (store : InMemorySecretStore) :
    Except UnderlayError Unit × InMemorySecretStore :=
  (.ok (), store.erase secretRef)

end InMemorySecretStore

/-- The credential that a request brings along, if it can be stored. -/
def broughtCredential : NetconfCredentialInput → Option StoredNetconfCredential
  | .password username password =>
      if trim username = "" ∨ password = "" then none else some (.password username password)
  | .privateKey username keyPem passphrase =>
      if trim username = "" ∨ keyPem = "" then none
      else some (.privateKey username keyPem passphrase)
  | .existingSecretRef _ => none

variable {stored : StoredNetconfCredential}

section CreateForDevice

variable
  {tenantId siteId : String}
  {deviceId : DeviceId}
  {credential : NetconfCredentialInput}
  {store : InMemorySecretStore}

theorem createForDevice_of_brought (brought : broughtCredential credential = some stored) :
    store.createForDevice tenantId siteId deviceId credential =
      (.ok ⟨deviceSecretRef tenantId siteId deviceId, true⟩,
        store.insert (deviceSecretRef tenantId siteId deviceId) stored) := by
  cases credential with
  | existingSecretRef secretRef => simp [broughtCredential] at brought
  | password username password =>
      simp only [broughtCredential] at brought
      split at brought
      · simp at brought
      · rename_i usable
        rw [not_or] at usable
        rw [← Option.some.inj brought]
        simp [InMemorySecretStore.createForDevice, validateUsername, refuseIf, usable]
  | privateKey username keyPem passphrase =>
      simp only [broughtCredential] at brought
      split at brought
      · simp at brought
      · rename_i usable
        rw [not_or] at usable
        rw [← Option.some.inj brought]
        simp [InMemorySecretStore.createForDevice, validateUsername, refuseIf, usable]

/-- Without a usable credential of its own a request stores nothing, and there is nothing to clean
up. -/
theorem createForDevice_of_not_brought (tenantId siteId : String) (deviceId : DeviceId)
    (store : InMemorySecretStore) (nothing : broughtCredential credential = none) :
    (store.createForDevice tenantId siteId deviceId credential).2 = store ∧
      ∀ secret, (store.createForDevice tenantId siteId deviceId credential).1 = .ok secret →
        secret.cleanupOnRegistrationFailure = false := by
  cases credential with
  | existingSecretRef secretRef =>
      by_cases blank : trim secretRef = ""
      · simp [InMemorySecretStore.createForDevice, blank]
      · simp [InMemorySecretStore.createForDevice, blank]
  | password username password =>
      by_cases unnamed : trim username = ""
      · simp [InMemorySecretStore.createForDevice, validateUsername, refuseIf, unnamed]
      · simp only [broughtCredential, unnamed, false_or] at nothing
        have empty : password = "" := by simpa using nothing
        simp [InMemorySecretStore.createForDevice, validateUsername, refuseIf, unnamed, empty]
  | privateKey username keyPem passphrase =>
      by_cases unnamed : trim username = ""
      · simp [InMemorySecretStore.createForDevice, validateUsername, refuseIf, unnamed]
      · simp only [broughtCredential, unnamed, false_or] at nothing
        have empty : keyPem = "" := by simpa using nothing
        simp [InMemorySecretStore.createForDevice, validateUsername, refuseIf, unnamed, empty]

end CreateForDevice

/-- Within one site the name of a secret tells the device. -/
theorem deviceSecretRef_injective (tenantId siteId : String) :
    Function.Injective (deviceSecretRef tenantId siteId) := by
  intro first second same
  simpa [deviceSecretRef, String.ext_iff] using same

/-! ## Requests -/

/-- One switch of the pair. -/
structure SwitchBootstrapRequest where
  deviceId : DeviceId
  role : DeviceRole
  managementIp : String
  managementPort : UInt16
  vendorHint : Option Vendor
  modelHint : Option String
  hostKeyPolicy : HostKeyPolicy
  credential : NetconfCredentialInput
  deriving DecidableEq, Repr

/-- The request to initialize a site. -/
structure InitializeUnderlaySiteRequest where
  requestId : String
  tenantId : String
  siteId : String
  adapterEndpoint : String
  switches : List SwitchBootstrapRequest
  allowDegraded : Bool
  deriving DecidableEq, Repr

/-- How an initialization ends. -/
inductive SiteInitializationStatus where
  | ready
  | readyWithDegradedDevice
  | failed
  | partiallyRegistered
  deriving DecidableEq, Repr

/-- How it ends for one switch. -/
structure DeviceInitializationResult where
  deviceId : DeviceId
  role : DeviceRole
  secretRef : Option String
  lifecycleState : Option DeviceLifecycleState
  error : Option String
  deriving DecidableEq, Repr

/-- What is reported of the initialization. -/
structure InitializeUnderlaySiteResponse where
  requestId : String
  tenantId : String
  siteId : String
  status : SiteInitializationStatus
  devices : List DeviceInitializationResult
  deriving DecidableEq, Repr

/-- The check of one switch. -/
def validateSwitch (switch : SwitchBootstrapRequest) : Except UnderlayError Unit := do
  Registration.validateDeviceId "switch device_id" switch.deviceId
  Registration.validateRequired "switch management_ip" switch.managementIp
  Registration.validateNonzeroPort "switch management_port" switch.managementPort
  Registration.validateHostKeyPolicy switch.hostKeyPolicy

/-- The check of the request. -/
def validateSwitchPair (env : DeviceEnv) (request : InitializeUnderlaySiteRequest) :
    Except UnderlayError Unit := do
  Registration.validateRequired "request_id" request.requestId
  Registration.validateRequired "tenant_id" request.tenantId
  Registration.validateRequired "site_id" request.siteId
  Registration.validateAdapterEndpoint env request.adapterEndpoint
  refuseIf (request.switches.length ≠ 2)
    (.invalidDeviceState "underlay site initialization requires exactly two switches")
  refuseIf (request.switches.countP (·.role = .leafA) ≠ 1 ∨
      request.switches.countP (·.role = .leafB) ≠ 1)
    (.invalidDeviceState "switch pair must contain exactly one LeafA and one LeafB")
  refuseIf (request.switches[0]?.map (·.deviceId) = request.switches[1]?.map (·.deviceId))
    (.invalidDeviceState "switch pair device_id values must be unique")
  request.switches.forM validateSwitch

def summarizeStatus (devices : List DeviceInitializationResult) (allowDegraded : Bool) :
    SiteInitializationStatus :=
  if devices.any (·.lifecycleState.isNone) then .partiallyRegistered
  else if devices.all (·.lifecycleState = some .ready) then .ready
  else if allowDegraded ∧ devices.all (fun device =>
      device.lifecycleState = some .ready ∨ device.lifecycleState = some .degraded) then
    .readyWithDegradedDevice
  else .failed

/-! ## The initialization -/

/-- What initialization works on: the inventory and the secrets. -/
structure Site where
  inventory : DeviceInventory
  secrets : InMemorySecretStore

/-- The registration of one switch. -/
def registrationRequest (request : InitializeUnderlaySiteRequest) (switch : SwitchBootstrapRequest)
    (secretRef : String) : RegisterDeviceRequest where
  tenantId := request.tenantId
  siteId := request.siteId
  deviceId := switch.deviceId
  managementIp := switch.managementIp
  managementPort := switch.managementPort
  vendorHint := switch.vendorHint
  modelHint := switch.modelHint
  role := switch.role
  secretRef := secretRef
  hostKeyPolicy := switch.hostKeyPolicy
  adapterEndpoint := request.adapterEndpoint

def registrationFailureResultWithSecretCleanup (switch : SwitchBootstrapRequest)
    (secretRef : String) (registrationError : UnderlayError)
    (secrets : InMemorySecretStore) : DeviceInitializationResult × InMemorySecretStore :=
  match secrets.delete secretRef with
  | (.error cleanupError, secrets) =>
      ({ deviceId := switch.deviceId
         role := switch.role
         secretRef := some secretRef
         lifecycleState := none
         error := some (registrationError.display ++
          "; secret cleanup failed for created secret: " ++ cleanupError.display) },
        secrets)
  | (.ok (), secrets) =>
      ({ deviceId := switch.deviceId
         role := switch.role
         secretRef := none
         lifecycleState := none
         error := some registrationError.display },
        secrets)

def initializeSwitch (env : DeviceEnv) (request : InitializeUnderlaySiteRequest)
    (switch : SwitchBootstrapRequest) (site : Site) : DeviceInitializationResult × Site :=
  match site.secrets.createForDevice request.tenantId request.siteId switch.deviceId
      switch.credential with
  | (.error error, secrets) =>
      ({ deviceId := switch.deviceId
         role := switch.role
         secretRef := none
         lifecycleState := none
         error := some error.display },
        ⟨site.inventory, secrets⟩)
  | (.ok secret, secrets) =>
      match Registration.register env (registrationRequest request switch secret.secretRef)
          site.inventory with
      | (.error error, inventory) =>
          if secret.cleanupOnRegistrationFailure then
            let (result, secrets) :=
              registrationFailureResultWithSecretCleanup switch secret.secretRef error secrets
            (result, ⟨inventory, secrets⟩)
          else
            ({ deviceId := switch.deviceId
               role := switch.role
               secretRef := some secret.secretRef
               lifecycleState := none
               error := some error.display },
              ⟨inventory, secrets⟩)
      | (.ok _, inventory) =>
          let (onboarding, inventory) := onboardDevice env switch.deviceId inventory
          ({ deviceId := switch.deviceId
             role := switch.role
             secretRef := some secret.secretRef
             lifecycleState := inventory[switch.deviceId]?.map (·.info.lifecycleState)
             error := match onboarding with
              | .ok _ => none
              | .error error => some error.display },
            ⟨inventory, secrets⟩)

/-- One switch after the other. -/
def initializeSwitches (env : DeviceEnv) (request : InitializeUnderlaySiteRequest) :
    List SwitchBootstrapRequest → Site → List DeviceInitializationResult × Site
  | [], site => ([], site)
  | switch :: switches, site =>
      let (result, site) := initializeSwitch env request switch site
      let (results, site) := initializeSwitches env request switches site
      (result :: results, site)

/-- The initialization of a site. -/
def initializeSite (env : DeviceEnv) (request : InitializeUnderlaySiteRequest) (site : Site) :
    Except UnderlayError InitializeUnderlaySiteResponse × Site :=
  match validateSwitchPair env request with
  | .error error => (.error error, site)
  | .ok () =>
      let (devices, site) := initializeSwitches env request request.switches site
      (.ok
        { requestId := request.requestId
          tenantId := request.tenantId
          siteId := request.siteId
          status := summarizeStatus devices request.allowDegraded
          devices := devices },
        site)

/-! ## What one switch does -/

theorem trim_ne_empty {text : String} {c : Char} (visible : isWhitespace c = false)
    (member : c ∈ text.toList) : trim text ≠ "" := by
  intro blank
  have dropped : (text.toList.dropWhile isWhitespace).rdropWhile isWhitespace = [] := by
    simpa [trim] using congrArg String.toList blank
  rw [List.rdropWhile_eq_nil_iff] at dropped
  have split := List.takeWhile_append_dropWhile (p := isWhitespace) (l := text.toList)
  rw [← split, List.mem_append] at member
  rcases member with early | late
  · have space := List.mem_takeWhile_imp early
    simp [visible] at space
  · have space := dropped c late
    simp [visible] at space

section Accepted

variable {env : DeviceEnv} {request : InitializeUnderlaySiteRequest}

/-- The checks of the whole request cover those of the registration. -/
theorem validateRegisterDeviceRequest_of_accepted {switch : SwitchBootstrapRequest}
    (accepted : validateSwitchPair env request = .ok ()) (member : switch ∈ request.switches) :
    Registration.validateRegisterDeviceRequest env
      (registrationRequest request switch
        (deviceSecretRef request.tenantId request.siteId switch.deviceId)) = .ok () := by
  simp only [validateSwitchPair, andThen_eq_ok, forM_eq_ok] at accepted
  rcases accepted with ⟨-, tenant, site, endpoint, -, -, -, switches⟩
  have checked := switches switch member
  simp only [validateSwitch, andThen_eq_ok] at checked
  rcases checked with ⟨device, address, port, policy⟩
  have named : trim (deviceSecretRef request.tenantId request.siteId switch.deviceId) ≠ "" :=
    trim_ne_empty (c := 'l') rfl (by simp [deviceSecretRef])
  simp only [Registration.validateRegisterDeviceRequest, andThen_eq_ok, registrationRequest]
  refine ⟨tenant, site, ?_, ?_, ?_, ?_, endpoint, policy⟩
  · simpa [Registration.validateDeviceId] using device
  · simpa [Registration.validateRequired] using address
  · simpa [Registration.validateNonzeroPort] using port
  · simpa [Registration.validateRequired] using named

theorem switches_apart (accepted : validateSwitchPair env request = .ok ()) :
    (request.switches.map (·.deviceId)).Nodup := by
  simp only [validateSwitchPair, andThen_eq_ok, refuseIf_eq_ok] at accepted
  rcases accepted with ⟨-, -, -, -, two, -, apart, -⟩
  match switches : request.switches with
  | [] => simp [switches] at two
  | [_] => simp [switches] at two
  | [first, second] => simpa [switches] using apart
  | _ :: _ :: _ :: _ => simp [switches] at two

variable {switch : SwitchBootstrapRequest} {site : Site}

/-- A switch that brings its credential leaves nothing under its name when it was registered
before, because the refused registration is cleaned up after. -/
theorem initializeSwitch_secrets (accepted : validateSwitchPair env request = .ok ())
    (member : switch ∈ request.switches)
    (brought : broughtCredential switch.credential = some stored) (site : Site) (key : String) :
    (initializeSwitch env request switch site).2.secrets[key]? =
      if key = deviceSecretRef request.tenantId request.siteId switch.deviceId then
        if switch.deviceId ∈ site.inventory then none else some stored
      else site.secrets[key]? := by
  have checked := validateRegisterDeviceRequest_of_accepted accepted member
  by_cases present : switch.deviceId ∈ site.inventory
  · simp only [initializeSwitch, createForDevice_of_brought brought,
      Registration.register_of_mem checked present, registrationFailureResultWithSecretCleanup,
      InMemorySecretStore.delete, if_true, if_pos present, Std.ExtTreeMap.getElem?_erase,
      Std.ExtTreeMap.getElem?_insert, Std.LawfulEqCmp.compare_eq_iff_eq]
    by_cases same : key = deviceSecretRef request.tenantId request.siteId switch.deviceId
    · simp [same]
    · simp [same, Ne.symm same]
  · simp only [initializeSwitch, createForDevice_of_brought brought,
      Registration.register_of_new checked present, if_neg present,
      Std.ExtTreeMap.getElem?_insert, Std.LawfulEqCmp.compare_eq_iff_eq]
    by_cases same : key = deviceSecretRef request.tenantId request.siteId switch.deviceId
    · simp [same]
    · simp [same, Ne.symm same]

theorem initializeSwitch_secrets_of_not_brought
    (nothing : broughtCredential switch.credential = none) :
    (initializeSwitch env request switch site).2.secrets = site.secrets := by
  have created := createForDevice_of_not_brought request.tenantId request.siteId switch.deviceId
    site.secrets nothing
  unfold initializeSwitch
  split <;> rename_i provisioned <;> rw [provisioned] at created
  · exact created.1
  · split
    · rw [if_neg (by simp [created.2])]
      exact created.1
    · exact created.1

variable {other : DeviceId}

/-- An entry of the inventory survives the initialization of any switch, its own one included. -/
theorem initializeSwitch_inventory (kept : other ∈ site.inventory ∨ other ≠ switch.deviceId) :
    (initializeSwitch env request switch site).2.inventory[other]? = site.inventory[other]? := by
  unfold initializeSwitch
  split
  · rfl
  · rename_i secret secrets provisioned
    rcases Registration.register_cases env (registrationRequest request switch secret.secretRef)
      site.inventory with ⟨error, refused⟩ | ⟨new, added⟩
    · rw [refused]
      by_cases cleanup : secret.cleanupOnRegistrationFailure = true
      · simp [cleanup, registrationFailureResultWithSecretCleanup, InMemorySecretStore.delete]
      · simp [cleanup]
    · have different : other ≠ switch.deviceId := by
        rcases kept with present | different
        · intro same
          rw [same] at present
          exact new present
        · exact different
      have apart : switch.deviceId ≠ other := Ne.symm different
      rw [added]
      simp only [onboardDevice_other different, registrationRequest]
      simp [Std.ExtTreeMap.getElem?_insert, apart]

/-! ## What a whole initialization does -/

theorem mem_initializeSwitch (different : other ≠ switch.deviceId) :
    other ∈ (initializeSwitch env request switch site).2.inventory ↔ other ∈ site.inventory := by
  rw [Std.ExtTreeMap.mem_iff_isSome_getElem?, Std.ExtTreeMap.mem_iff_isSome_getElem?,
    initializeSwitch_inventory (.inr different)]

theorem initializeSwitches_inventory (switches : List SwitchBootstrapRequest) {site : Site}
    (registered : other ∈ site.inventory) :
    (initializeSwitches env request switches site).2.inventory[other]? =
      site.inventory[other]? := by
  induction switches generalizing site with
  | nil => rfl
  | cons switch switches ih =>
      have step : (initializeSwitch env request switch site).2.inventory[other]? =
          site.inventory[other]? :=
        initializeSwitch_inventory (.inl registered)
      have still : other ∈ (initializeSwitch env request switch site).2.inventory := by
        rw [Std.ExtTreeMap.mem_iff_isSome_getElem?, step,
          ← Std.ExtTreeMap.mem_iff_isSome_getElem?]
        exact registered
      exact (ih still).trans step

/-- A secret that no switch of the request writes is left alone. -/
theorem initializeSwitches_secrets_other (accepted : validateSwitchPair env request = .ok ())
    {switches : List SwitchBootstrapRequest} (part : switches ⊆ request.switches) {site : Site}
    {key : String}
    (unwritten : ∀ switch ∈ switches, ∀ stored, broughtCredential switch.credential = some stored →
      key ≠ deviceSecretRef request.tenantId request.siteId switch.deviceId) :
    (initializeSwitches env request switches site).2.secrets[key]? = site.secrets[key]? := by
  induction switches generalizing site with
  | nil => rfl
  | cons switch switches ih =>
      rw [List.cons_subset] at part
      rw [List.forall_mem_cons] at unwritten
      have step : (initializeSwitch env request switch site).2.secrets[key]? =
          site.secrets[key]? := by
        cases brought : broughtCredential switch.credential with
        | none => rw [initializeSwitch_secrets_of_not_brought brought]
        | some stored =>
            rw [initializeSwitch_secrets accepted part.1 brought,
              if_neg (unwritten.1 stored brought)]
      exact (ih part.2 unwritten.2).trans step

/-- What is left under the name of a switch that brings its credential. -/
theorem initializeSwitches_secrets_own (accepted : validateSwitchPair env request = .ok ())
    {switches : List SwitchBootstrapRequest} (part : switches ⊆ request.switches)
    (apart : (switches.map (·.deviceId)).Nodup) (site : Site) {switch : SwitchBootstrapRequest}
    (member : switch ∈ switches) (brought : broughtCredential switch.credential = some stored) :
    (initializeSwitches env request switches site).2.secrets[
        deviceSecretRef request.tenantId request.siteId switch.deviceId]? =
      if switch.deviceId ∈ site.inventory then none else some stored := by
  induction switches generalizing site with
  | nil => simp at member
  | cons first switches ih =>
      rw [List.cons_subset] at part
      rw [List.map_cons, List.nodup_cons] at apart
      rcases List.mem_cons.mp member with isFirst | later
      · subst isFirst
        have unwritten : ∀ next ∈ switches, ∀ stored,
            broughtCredential next.credential = some stored →
            deviceSecretRef request.tenantId request.siteId switch.deviceId ≠
              deviceSecretRef request.tenantId request.siteId next.deviceId := by
          intro next nextMember _ _ sameName
          have sameDevice := deviceSecretRef_injective _ _ sameName
          exact apart.1 (List.mem_map.mpr ⟨next, nextMember, sameDevice.symm⟩)
        have step := initializeSwitch_secrets accepted part.1 brought site
          (deviceSecretRef request.tenantId request.siteId switch.deviceId)
        rw [if_pos rfl] at step
        exact (initializeSwitches_secrets_other accepted part.2 unwritten).trans step
      · have different : switch.deviceId ≠ first.deviceId := by
          intro same
          exact apart.1 (List.mem_map.mpr ⟨switch, later, same⟩)
        have rest := ih part.2 apart.2 (initializeSwitch env request first site).2 later
        simp only [mem_initializeSwitch different] at rest
        exact rest

end Accepted

/-! ## Devices registered before -/

/-- Every device that was registered still is, as it was, with the same secret stored for it. -/
def RegisteredDevicesKept (before after : Site) : Prop :=
  ∀ (deviceId : DeviceId) (device : RegisteredDevice), before.inventory[deviceId]? = some device →
    after.inventory[deviceId]? = some device ∧
      after.secrets[device.info.secretRef]? = before.secrets[device.info.secretRef]?

/-- No switch with a credential of its own is given the secret name of a registered device, unless
the store already holds under that name what the initialization will leave there. -/
def SecretNamesFree (request : InitializeUnderlaySiteRequest) (site : Site) : Prop :=
  ∀ switch ∈ request.switches, ∀ stored, broughtCredential switch.credential = some stored →
    ∀ (deviceId : DeviceId) (device : RegisteredDevice), site.inventory[deviceId]? = some device →
      device.info.secretRef = deviceSecretRef request.tenantId request.siteId switch.deviceId →
        site.secrets[device.info.secretRef]? =
          if switch.deviceId ∈ site.inventory then none else some stored

theorem registeredDevicesKept_iff (env : DeviceEnv) (request : InitializeUnderlaySiteRequest)
    (site : Site) :
    RegisteredDevicesKept site (initializeSite env request site).2 ↔
      (∃ error, validateSwitchPair env request = .error error) ∨ SecretNamesFree request site := by
  cases accepted : validateSwitchPair env request with
  | error error =>
      simp only [initializeSite, accepted]
      constructor
      · intro _
        exact .inl ⟨error, rfl⟩
      · intro _ deviceId device found
        exact ⟨found, rfl⟩
  | ok done =>
      have apart := switches_apart accepted
      have run : (initializeSite env request site).2 =
          (initializeSwitches env request request.switches site).2 := by
        simp [initializeSite, accepted]
      rw [run]
      constructor
      · intro kept
        right
        intro switch member stored brought deviceId device found named
        have same := (kept deviceId device found).2
        have left := initializeSwitches_secrets_own accepted (List.Subset.refl _) apart
          site member brought
        rw [← named, same] at left
        exact left
      · rintro (⟨error, refused⟩ | free) deviceId device found
        · simp at refused
        have registered : deviceId ∈ site.inventory := by
          rw [Std.ExtTreeMap.mem_iff_isSome_getElem?, found]
          rfl
        refine ⟨(initializeSwitches_inventory _ registered).trans found, ?_⟩
        by_cases written : ∃ switch ∈ request.switches,
            ∃ stored, broughtCredential switch.credential = some stored ∧
              device.info.secretRef =
                deviceSecretRef request.tenantId request.siteId switch.deviceId
        · rcases written with ⟨switch, member, stored, brought, named⟩
          have left := initializeSwitches_secrets_own accepted (List.Subset.refl _) apart
            site member brought
          have holds := free switch member stored brought deviceId device found named
          rw [← named] at left
          exact left.trans holds.symm
        · push Not at written
          exact initializeSwitches_secrets_other accepted (List.Subset.refl _)
            fun switch member stored brought => written switch member stored brought

/-! ## A site initialized twice -/

/-- A leaf of the pair. -/
def leafSwitch (deviceId : DeviceId) (role : DeviceRole) : SwitchBootstrapRequest where
  deviceId := deviceId
  role := role
  managementIp := "127.0.0.1"
  managementPort := 830
  vendorHint := none
  modelHint := none
  hostKeyPolicy := .trustOnFirstUse
  credential := .password "netconf" "secret"

/-- A site with two leaves. -/
def leafPair : InitializeUnderlaySiteRequest where
  requestId := "req-a"
  tenantId := "tenant-a"
  siteId := "site-a"
  adapterEndpoint := "http://127.0.0.1:50051"
  switches := [leafSwitch "leaf-a" .leafA, leafSwitch "leaf-b" .leafB]
  allowDegraded := false

/-- Every endpoint parses and every device supports confirmed commits. -/
def responsiveDevices : DeviceEnv where
  endpointError := fun _ => none
  client := fun _ => .ok ()
  getCapabilities := fun _ => .ok
    { recommendedStrategy := .confirmedCommit
      supportsNetconf := true
      supportedBackends := [.netconf] }

/-- The site after its first initialization. -/
def leafPairSite : Site :=
  (initializeSite responsiveDevices leafPair ⟨∅, ∅⟩).2

/-- Sending the same request again leaves both switches registered and without a secret. -/
theorem secret_deleted_by_second_initialization :
    ¬RegisteredDevicesKept leafPairSite
      (initializeSite responsiveDevices leafPair leafPairSite).2 := by
  intro kept
  have registered : (leafPairSite.inventory["leaf-a"]?).map (·.info.secretRef) =
      some "local/tenant-a/site-a/leaf-a" := by
    decide +kernel
  rw [Option.map_eq_some_iff] at registered
  rcases registered with ⟨device, found, named⟩
  have same := (kept "leaf-a" device found).2
  rw [named] at same
  have lost : (initializeSite responsiveDevices leafPair leafPairSite).2.secrets[
      "local/tenant-a/site-a/leaf-a"]? = none := by
    decide +kernel
  have stored : leafPairSite.secrets["local/tenant-a/site-a/leaf-a"]? =
      some (.password "netconf" "secret") := by
    decide +kernel
  rw [lost, stored] at same
  simp at same

end AriaUnderlay
