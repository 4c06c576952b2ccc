import AriaUnderlay.Planner.DomainPlan

/-!
# Switch pair intents

The older form of an intent: VLANs and interfaces for a list of switches, each of which is its own
management endpoint.
-/

namespace AriaUnderlay

open Collections

/-- A switch of the pair. -/
structure SwitchIntent where
  deviceId : DeviceId
  role : DeviceRole
  deriving DecidableEq, Repr

/-- What is wanted of a pair. -/
structure SwitchPairIntent where
  pairId : String
  switches : List SwitchIntent
  vlans : List VlanIntent
  interfaces : List InterfaceIntent
  deriving DecidableEq, Repr

/-- The check of the intent. -/
def validateSwitchPairIntent (intent : SwitchPairIntent) : Except UnderlayError Unit := do
  invalidIf (trim intent.pairId = "") "switch pair intent has empty pair_id"
  invalidIf (intent.switches = []) "intent has no switches"
  eachDistinct
    (fun switch => validateDeviceId "switch device_id" switch.deviceId)
    SwitchIntent.deviceId
    (fun switch => .invalidIntent ("duplicate switch device_id " ++ switch.deviceId))
    (fun _ => .ok ()) [] intent.switches
  let declaredVlans := intent.vlans.map VlanIntent.vlanId
  validateVlans declaredVlans "switch pair"
  validateInterfaces intent.interfaces (intent.switches.map SwitchIntent.deviceId) declaredVlans
    "switch pair" "switch"

/-- The states of the switches. -/
def planSwitchPair (intent : SwitchPairIntent) : List DeviceDesiredState :=
  intent.switches.map fun switch =>
    { deviceId := switch.deviceId
      vlans := .ofList (intent.vlans.map fun vlan => (vlan.vlanId, vlan.config))
      interfaces := .ofList ((intent.interfaces.filter (·.deviceId = switch.deviceId)).map
        fun interface => (interface.name, interface.config)) }

end AriaUnderlay
