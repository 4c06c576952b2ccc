import AriaUnderlay.Core.Effects
import AriaUnderlay.Intent.Validation

/-!
# Registration and onboarding of devices

The inventory holds one entry for every device identifier.  Registration checks a request and adds
an entry, and refuses an identifier that is taken.  Onboarding asks the adapter for the capabilities
of a registered device and moves its entry to the lifecycle state that they allow.

Parsing an adapter endpoint and asking the adapter are left to the environment.
-/

namespace AriaUnderlay

open Collections

/-- How the host key of a device is checked. -/
inductive HostKeyPolicy where
  | trustOnFirstUse
  | knownHostsFile (path : String)
  | pinnedKey (fingerprint : String)
  deriving DecidableEq, Repr

/-- An entry of the inventory as registration writes it. -/
structure RegisteredDeviceInfo extends DeviceInfo where
  tenantId : String
  siteId : String
  managementIp : String
  managementPort : UInt16
  vendorHint : Option Vendor
  modelHint : Option String
  role : DeviceRole
  secretRef : String
  hostKeyPolicy : HostKeyPolicy
  deriving DecidableEq, Repr

/-- The backends of the adapter. -/
inductive BackendKind where
  | netconf
  | napalm
  | netmiko
  | cli
  deriving DecidableEq, Repr

/-- The part of a capability profile that onboarding reads. -/
structure ProbedCapabilityProfile extends DeviceCapabilityProfile where
  supportsNetconf : Bool
  supportedBackends : List BackendKind
  deriving DecidableEq, Repr

/-- A device with what was probed of it. -/
structure RegisteredDevice where
  info : RegisteredDeviceInfo
  capability : Option ProbedCapabilityProfile
  deriving DecidableEq, Repr

/-- How endpoints and adapters answer. -/
structure DeviceEnv where
  endpointError : String → Option String
  client : String → Except UnderlayError Unit
  getCapabilities : RegisteredDeviceInfo → Except UnderlayError ProbedCapabilityProfile

/-! ## Inventory -/

/-- The registered devices. -/
abbrev DeviceInventory : Type := BTreeMap DeviceId RegisteredDevice

variable {inventory : DeviceInventory} {deviceId other : DeviceId} {env : DeviceEnv}

namespace DeviceInventory

def insertNew (inventory : DeviceInventory) (info : RegisteredDeviceInfo) :
    Except UnderlayError Unit × DeviceInventory :=
  if info.id ∈ inventory then (.error (.deviceAlreadyExists info.id), inventory)
  else (.ok (), inventory.insert info.id ⟨info, none⟩)

def lookup (inventory : DeviceInventory) (deviceId : DeviceId) :
    Except UnderlayError RegisteredDevice :=
  match inventory[deviceId]? with
  | some device => .ok device
  | none => .error (.deviceNotFound deviceId)

/-- Change the entry of a device, as through a mutable reference to it. -/
def modifyDevice (inventory : DeviceInventory) (deviceId : DeviceId)
    (change : RegisteredDevice → RegisteredDevice) :
    Except UnderlayError Unit × DeviceInventory :=
  match inventory[deviceId]? with
  | some device => (.ok (), inventory.insert deviceId (change device))
  | none => (.error (.deviceNotFound deviceId), inventory)

/-- Set the state of a device. -/
def setState (inventory : DeviceInventory) (deviceId : DeviceId) (state : DeviceLifecycleState) :
    Except UnderlayError Unit × DeviceInventory :=
  inventory.modifyDevice deviceId fun device =>
    { device with info := { device.info with lifecycleState := state } }

def setCapability (inventory : DeviceInventory) (deviceId : DeviceId)
    (capability : ProbedCapabilityProfile) :
    Except UnderlayError Unit × DeviceInventory :=
  inventory.modifyDevice deviceId fun device => { device with capability := some capability }

theorem modifyDevice_other {change : RegisteredDevice → RegisteredDevice}
    (different : other ≠ deviceId) :
    (inventory.modifyDevice deviceId change).2[other]? = inventory[other]? := by
  unfold modifyDevice
  cases inventory[deviceId]? with
  | none => rfl
  | some device =>
      have apart : deviceId ≠ other := Ne.symm different
      simp [Std.ExtTreeMap.getElem?_insert, apart]

end DeviceInventory

/-! ## Registration -/

/-- The request to register a device. -/
structure RegisterDeviceRequest where
  tenantId : String
  siteId : String
  deviceId : DeviceId
  managementIp : String
  managementPort : UInt16
  vendorHint : Option Vendor
  modelHint : Option String
  role : DeviceRole
  secretRef : String
  hostKeyPolicy : HostKeyPolicy
  adapterEndpoint : String
  deriving DecidableEq, Repr

/-- What is reported of the registration. -/
structure RegisterDeviceResponse where
  deviceId : DeviceId
  lifecycleState : DeviceLifecycleState
  deriving DecidableEq, Repr

namespace Registration

/-- The text is more than blanks. -/
def validateRequired (field value : String) : Except UnderlayError Unit :=
  refuseIf (trim value = "") (.invalidDeviceState (field ++ " is empty"))

/-- The device id is canonical. -/
def validateDeviceId (field : String) (deviceId : DeviceId) : Except UnderlayError Unit :=
  refuseIf (isCanonicalIdentifier deviceId = false)
    (.invalidDeviceState (field ++ " " ++ deviceId ++ " is invalid: " ++ canonicalRule))

/-- The port is not zero. -/
def validateNonzeroPort (field : String) (port : UInt16) : Except UnderlayError Unit :=
  refuseIf (port = 0) (.invalidDeviceState (field ++ " must be non-zero"))

def validateAdapterEndpoint (env : DeviceEnv) (adapterEndpoint : String) :
    Except UnderlayError Unit := do
  validateRequired "adapter_endpoint" adapterEndpoint
  match env.endpointError adapterEndpoint with
  | none => .ok ()
  | some text => .error (.invalidDeviceState ("adapter_endpoint is invalid: " ++ text))

/-- The policy has what it needs. -/
def validateHostKeyPolicy : HostKeyPolicy → Except UnderlayError Unit
  | .trustOnFirstUse => .ok ()
  | .knownHostsFile path => do
      validateRequired "host_key_policy.known_hosts_path" path
      refuseIf ('\n' ∈ path.toList ∨ '\r' ∈ path.toList)
        (.invalidDeviceState "host_key_policy.known_hosts_path must be a single-line path")
  | .pinnedKey fingerprint => validateRequired "host_key_policy.pinned_fingerprint" fingerprint

/-- The check of the request. -/
def validateRegisterDeviceRequest (env : DeviceEnv) (request : RegisterDeviceRequest) :
    Except UnderlayError Unit := do
  validateRequired "tenant_id" request.tenantId
  validateRequired "site_id" request.siteId
  validateDeviceId "device_id" request.deviceId
  validateRequired "management_ip" request.managementIp
  validateNonzeroPort "management_port" request.managementPort
  validateRequired "secret_ref" request.secretRef
  validateAdapterEndpoint env request.adapterEndpoint
  validateHostKeyPolicy request.hostKeyPolicy

/-- The device of a request. -/
def infoOf (request : RegisterDeviceRequest) : RegisteredDeviceInfo where
  id := request.deviceId
  adapterEndpoint := request.adapterEndpoint
  lifecycleState := .pending
  tenantId := request.tenantId
  siteId := request.siteId
  managementIp := request.managementIp
  managementPort := request.managementPort
  vendorHint := request.vendorHint
  modelHint := request.modelHint
  role := request.role
  secretRef := request.secretRef
  hostKeyPolicy := request.hostKeyPolicy

def register (env : DeviceEnv) (request : RegisterDeviceRequest) (inventory : DeviceInventory) :
    Except UnderlayError RegisterDeviceResponse × DeviceInventory :=
  match validateRegisterDeviceRequest env request with
  | .error error => (.error error, inventory)
  | .ok () =>
      match inventory.insertNew (infoOf request) with
      | (.error error, inventory) => (.error error, inventory)
      | (.ok (), inventory) => (.ok ⟨request.deviceId, .pending⟩, inventory)

/-- A checked request for a new device adds its entry. -/
theorem register_of_new {request : RegisterDeviceRequest}
    (accepted : validateRegisterDeviceRequest env request = .ok ())
    (new : request.deviceId ∉ inventory) :
    register env request inventory =
      (.ok ⟨request.deviceId, .pending⟩,
        inventory.insert request.deviceId ⟨infoOf request, none⟩) := by
  have free : (infoOf request).id ∉ inventory := new
  simp only [register, accepted, DeviceInventory.insertNew, if_neg free]
  rfl

/-- A checked request for a device that is there already is refused and changes nothing. -/
theorem register_of_mem {request : RegisterDeviceRequest}
    (accepted : validateRegisterDeviceRequest env request = .ok ())
    (present : request.deviceId ∈ inventory) :
    register env request inventory =
      (.error (.deviceAlreadyExists request.deviceId), inventory) := by
  have taken : (infoOf request).id ∈ inventory := present
  simp only [register, accepted, DeviceInventory.insertNew, if_pos taken]
  rfl

/-- A registration is refused and changes nothing, or adds an entry for a new device. -/
theorem register_cases (env : DeviceEnv) (request : RegisterDeviceRequest)
    (inventory : DeviceInventory) :
    (∃ error, register env request inventory = (.error error, inventory)) ∨
      request.deviceId ∉ inventory ∧
        register env request inventory =
          (.ok ⟨request.deviceId, .pending⟩,
            inventory.insert request.deviceId ⟨infoOf request, none⟩) := by
  cases accepted : validateRegisterDeviceRequest env request with
  | error error => exact .inl ⟨error, by simp [register, accepted]⟩
  | ok done =>
      by_cases present : request.deviceId ∈ inventory
      · exact .inl ⟨_, register_of_mem accepted present⟩
      · exact .inr ⟨present, register_of_new accepted present⟩

end Registration

/-! ## Onboarding -/

/-- The state after a failed probe. -/
def lifecycleStateForOnboardingError : UnderlayError → DeviceLifecycleState
  | .adapterOperation code _ retryable _ =>
      if code = "AUTH_FAILED" then .authFailed
      else if code = "DEVICE_UNREACHABLE" then .unreachable
      else if code = "UNSUPPORTED_DEVICE" then .unsupported
      else if retryable then .unreachable
      else .unsupported
  | .adapterTransport _ => .unreachable
  | _ => .unsupported

/-- The state after a probe. -/
def lifecycleStateForCapability (capability : ProbedCapabilityProfile) : DeviceLifecycleState :=
  if capability.recommendedStrategy.isSupported then
    if capability.recommendedStrategy.isDegraded then .degraded else .ready
  else if capability.supportsNetconf ∨ capability.supportedBackends ≠ [] then .unsupported
  else .unreachable

def DeviceLifecycleState.canOnboard : DeviceLifecycleState → Bool
  | .pending | .probing | .unreachable | .authFailed | .unsupported | .degraded => true
  | .ready | .drifted | .maintenance => false

def DeviceLifecycleState.debugName : DeviceLifecycleState → String
  | .pending => "Pending"
  | .probing => "Probing"
  | .ready => "Ready"
  | .degraded => "Degraded"
  | .unsupported => "Unsupported"
  | .unreachable => "Unreachable"
  | .authFailed => "AuthFailed"
  | .drifted => "Drifted"
  | .maintenance => "Maintenance"

def DeviceEnv.probe (env : DeviceEnv) (info : RegisteredDeviceInfo) :
    Except UnderlayError ProbedCapabilityProfile := do
  env.client info.adapterEndpoint
  env.getCapabilities info

/-- The entry of a device that is being probed, after the adapter has answered. -/
def finishOnboarding (deviceId : DeviceId) (answer : Except UnderlayError ProbedCapabilityProfile)
    (inventory : DeviceInventory) :
    Except UnderlayError DeviceLifecycleState × DeviceInventory :=
  match answer with
  | .error error =>
      match inventory.setState deviceId (lifecycleStateForOnboardingError error) with
      | (.error missing, inventory) => (.error missing, inventory)
      | (.ok (), inventory) => (.error error, inventory)
  | .ok capability =>
      let state := lifecycleStateForCapability capability
      match inventory.setCapability deviceId capability with
      | (.error missing, inventory) => (.error missing, inventory)
      | (.ok (), inventory) =>
          match inventory.setState deviceId state with
          | (.error missing, inventory) => (.error missing, inventory)
          | (.ok (), inventory) => (.ok state, inventory)

def onboardDevice (env : DeviceEnv) (deviceId : DeviceId) (inventory : DeviceInventory) :
    Except UnderlayError DeviceLifecycleState × DeviceInventory :=
  match inventory.lookup deviceId with
  | .error error => (.error error, inventory)
  | .ok managed =>
      if managed.info.lifecycleState.canOnboard = false then
        (.error (.invalidDeviceState ("cannot onboard device from state " ++
          managed.info.lifecycleState.debugName)), inventory)
      else
        match inventory.setState deviceId .probing with
        | (.error missing, inventory) => (.error missing, inventory)
        | (.ok (), inventory) => finishOnboarding deviceId (env.probe managed.info) inventory

theorem finishOnboarding_other {answer : Except UnderlayError ProbedCapabilityProfile}
    (different : other ≠ deviceId) :
    (finishOnboarding deviceId answer inventory).2[other]? = inventory[other]? := by
  cases answer with
  | error error =>
      have moved :
          (inventory.setState deviceId (lifecycleStateForOnboardingError error)).2[other]? =
            inventory[other]? :=
        DeviceInventory.modifyDevice_other different
      simp only [finishOnboarding]
      split <;> rename_i written <;> rw [written] at moved <;> exact moved
  | ok capability =>
      have stored : (inventory.setCapability deviceId capability).2[other]? = inventory[other]? :=
        DeviceInventory.modifyDevice_other different
      simp only [finishOnboarding]
      split <;> rename_i profiled written <;> rw [written] at stored
      · exact stored
      · have moved :
            (profiled.setState deviceId (lifecycleStateForCapability capability)).2[other]? =
              profiled[other]? :=
          DeviceInventory.modifyDevice_other different
        split <;> rename_i ended <;> rw [ended] at moved <;> exact moved.trans stored

/-- Onboarding changes the entry of its device only. -/
theorem onboardDevice_other (different : other ≠ deviceId) :
    (onboardDevice env deviceId inventory).2[other]? = inventory[other]? := by
  unfold onboardDevice
  split
  · rfl
  · split
    · rfl
    · have probing : (inventory.setState deviceId .probing).2[other]? = inventory[other]? :=
        DeviceInventory.modifyDevice_other different
      split <;> rename_i written <;> rw [written] at probing
      · exact probing
      · exact (finishOnboarding_other different).trans probing

end AriaUnderlay
