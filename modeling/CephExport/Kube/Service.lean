import CephExport.Time.Timestamp

/-!
What a Kubernetes Service declares and reports.
-/

set_option autoImplicit false
set_option relaxedAutoImplicit false

namespace CephExport

inductive PortTarget
  | number (port : Int32)
  | name (name : String)
  deriving DecidableEq

instance : Codec PortTarget where
  encode
    | .number port => encode port
    | .name name => encode name
  decode?
    | .string name => some (.name name)
    | json => (decode? json : Option Int32).map .number

structure ServicePort where
  appProtocol : Option String := none
  name : Option String := none
  nodePort : Option Int32 := none
  port : Int32 := 0
  protocol : Option String := none
  targetPort : Option PortTarget := none
  deriving DecidableEq

instance : Codec ServicePort where
  encode p := .object (memberSome "appProtocol" p.appProtocol ++ memberSome "name" p.name ++
    memberSome "nodePort" p.nodePort ++ member "port" p.port ++ memberSome "protocol" p.protocol ++
    memberSome "targetPort" p.targetPort)
  decode? json := do
    let m ← json.members?
    let appProtocol ← m.optional? "appProtocol"
    let name ← m.optional? "name"
    let nodePort ← m.optional? "nodePort"
    let port ← m.orZero? "port" 0
    let protocol ← m.optional? "protocol"
    let targetPort ← m.optional? "targetPort"
    some { appProtocol, name, nodePort, port, protocol, targetPort }

structure ClientIPConfig where
  timeoutSeconds : Option Int32 := none
  deriving DecidableEq

instance : Codec ClientIPConfig where
  encode c := .object (memberSome "timeoutSeconds" c.timeoutSeconds)
  decode? json := do
    let m ← json.members?
    let timeoutSeconds ← m.optional? "timeoutSeconds"
    some { timeoutSeconds }

structure SessionAffinityConfig where
  clientIP : Option ClientIPConfig := none
  deriving DecidableEq

instance : Codec SessionAffinityConfig where
  encode c := .object (memberSome "clientIP" c.clientIP)
  decode? json := do
    let m ← json.members?
    let clientIP ← m.optional? "clientIP"
    some { clientIP }

structure ServiceSpec where
  allocateLoadBalancerNodePorts : Option Bool := none
  clusterIP : Option String := none
  clusterIPs : Option (List String) := none
  externalIPs : Option (List String) := none
  externalName : Option String := none
  externalTrafficPolicy : Option String := none
  healthCheckNodePort : Option Int32 := none
  internalTrafficPolicy : Option String := none
  ipFamilies : Option (List String) := none
  ipFamilyPolicy : Option String := none
  loadBalancerClass : Option String := none
  loadBalancerIP : Option String := none
  loadBalancerSourceRanges : Option (List String) := none
  ports : Option (List ServicePort) := none
  publishNotReadyAddresses : Option Bool := none
  selector : Option (KeyMap String) := none
  sessionAffinity : Option String := none
  sessionAffinityConfig : Option SessionAffinityConfig := none
  trafficDistribution : Option String := none
  type : Option String := none
  deriving DecidableEq

instance : Codec ServiceSpec where
  encode s := .object (memberSome "allocateLoadBalancerNodePorts" s.allocateLoadBalancerNodePorts ++
    memberSome "clusterIP" s.clusterIP ++ memberSome "clusterIPs" s.clusterIPs ++
    memberSome "externalIPs" s.externalIPs ++ memberSome "externalName" s.externalName ++
    memberSome "externalTrafficPolicy" s.externalTrafficPolicy ++
    memberSome "healthCheckNodePort" s.healthCheckNodePort ++
    memberSome "internalTrafficPolicy" s.internalTrafficPolicy ++
    memberSome "ipFamilies" s.ipFamilies ++ memberSome "ipFamilyPolicy" s.ipFamilyPolicy ++
    memberSome "loadBalancerClass" s.loadBalancerClass ++
    memberSome "loadBalancerIP" s.loadBalancerIP ++
    memberSome "loadBalancerSourceRanges" s.loadBalancerSourceRanges ++
    memberSome "ports" s.ports ++
    memberSome "publishNotReadyAddresses" s.publishNotReadyAddresses ++
    memberSome "selector" s.selector ++ memberSome "sessionAffinity" s.sessionAffinity ++
    memberSome "sessionAffinityConfig" s.sessionAffinityConfig ++
    memberSome "trafficDistribution" s.trafficDistribution ++ memberSome "type" s.type)
  decode? json := do
    let m ← json.members?
    let allocateLoadBalancerNodePorts ← m.optional? "allocateLoadBalancerNodePorts"
    let clusterIP ← m.optional? "clusterIP"
    let clusterIPs ← m.optional? "clusterIPs"
    let externalIPs ← m.optional? "externalIPs"
    let externalName ← m.optional? "externalName"
    let externalTrafficPolicy ← m.optional? "externalTrafficPolicy"
    let healthCheckNodePort ← m.optional? "healthCheckNodePort"
    let internalTrafficPolicy ← m.optional? "internalTrafficPolicy"
    let ipFamilies ← m.optional? "ipFamilies"
    let ipFamilyPolicy ← m.optional? "ipFamilyPolicy"
    let loadBalancerClass ← m.optional? "loadBalancerClass"
    let loadBalancerIP ← m.optional? "loadBalancerIP"
    let loadBalancerSourceRanges ← m.optional? "loadBalancerSourceRanges"
    let ports ← m.optional? "ports"
    let publishNotReadyAddresses ← m.optional? "publishNotReadyAddresses"
    let selector ← m.optional? "selector"
    let sessionAffinity ← m.optional? "sessionAffinity"
    let sessionAffinityConfig ← m.optional? "sessionAffinityConfig"
    let trafficDistribution ← m.optional? "trafficDistribution"
    let type ← m.optional? "type"
    some { allocateLoadBalancerNodePorts, clusterIP, clusterIPs, externalIPs, externalName,
           externalTrafficPolicy, healthCheckNodePort, internalTrafficPolicy, ipFamilies,
           ipFamilyPolicy, loadBalancerClass, loadBalancerIP, loadBalancerSourceRanges, ports,
           publishNotReadyAddresses, selector, sessionAffinity, sessionAffinityConfig,
           trafficDistribution, type }

structure PortStatus where
  error : Option String := none
  port : Int32 := 0
  protocol : String := ""
  deriving DecidableEq

instance : Codec PortStatus where
  encode p :=
    .object (memberSome "error" p.error ++ member "port" p.port ++ member "protocol" p.protocol)
  decode? json := do
    let m ← json.members?
    let error ← m.optional? "error"
    let port ← m.orZero? "port" 0
    let protocol ← m.orZero? "protocol" ""
    some { error, port, protocol }

/-- A point at which a load balancer takes traffic in. -/
structure LoadBalancerIngress where
  hostname : Option String := none
  ip : Option String := none
  ipMode : Option String := none
  ports : Option (List PortStatus) := none
  deriving DecidableEq

instance : Codec LoadBalancerIngress where
  encode i := .object (memberSome "hostname" i.hostname ++ memberSome "ip" i.ip ++
    memberSome "ipMode" i.ipMode ++ memberSome "ports" i.ports)
  decode? json := do
    let m ← json.members?
    let hostname ← m.optional? "hostname"
    let ip ← m.optional? "ip"
    let ipMode ← m.optional? "ipMode"
    let ports ← m.optional? "ports"
    some { hostname, ip, ipMode, ports }

structure LoadBalancerStatus where
  ingress : Option (List LoadBalancerIngress) := none
  deriving DecidableEq

instance : Codec LoadBalancerStatus where
  encode s := .object (memberSome "ingress" s.ingress)
  decode? json := do
    let m ← json.members?
    let ingress ← m.optional? "ingress"
    some { ingress }

/-- What is observed of one aspect of an object. -/
structure Condition where
  lastTransitionTime : MetaTime := ⟨⟨0, 0⟩⟩
  message : String := ""
  observedGeneration : Option Int64 := none
  reason : String := ""
  status : String := ""
  type : String := ""
  deriving DecidableEq

instance : Codec Condition where
  encode c := .object (member "lastTransitionTime" c.lastTransitionTime ++
    member "message" c.message ++ memberSome "observedGeneration" c.observedGeneration ++
    member "reason" c.reason ++ member "status" c.status ++ member "type" c.type)
  decode? json := do
    let m ← json.members?
    let lastTransitionTime ← m.orZero? "lastTransitionTime" ⟨⟨0, 0⟩⟩
    let message ← m.orZero? "message" ""
    let observedGeneration ← m.optional? "observedGeneration"
    let reason ← m.orZero? "reason" ""
    let status ← m.orZero? "status" ""
    let type ← m.orZero? "type" ""
    some { lastTransitionTime, message, observedGeneration, reason, status, type }

structure ServiceStatus where
  conditions : Option (List Condition) := none
  loadBalancer : Option LoadBalancerStatus := none
  deriving DecidableEq

instance : Codec ServiceStatus where
  encode s :=
    .object (memberSome "conditions" s.conditions ++ memberSome "loadBalancer" s.loadBalancer)
  decode? json := do
    let m ← json.members?
    let conditions ← m.optional? "conditions"
    let loadBalancer ← m.optional? "loadBalancer"
    some { conditions, loadBalancer }

end CephExport
