import CephExport.Json.Codec

/-!
The rules by which pods are put on nodes: affinities, tolerations and spreading.
-/

set_option autoImplicit false
set_option relaxedAutoImplicit false

namespace CephExport

structure NodeSelectorRequirement where
  key : String
  operator : String
  values : Option (List String)
  deriving DecidableEq

instance : Codec NodeSelectorRequirement where
  encode r :=
    .object (member "key" r.key ++ member "operator" r.operator ++ memberSome "values" r.values)
  decode? json := do
    let m ← json.members?
    let key ← m.orZero? "key" ""
    let operator ← m.orZero? "operator" ""
    let values ← m.optional? "values"
    some { key, operator, values }

structure NodeSelectorTerm where
  matchExpressions : Option (List NodeSelectorRequirement) := none
  matchFields : Option (List NodeSelectorRequirement) := none
  deriving DecidableEq

instance : Codec NodeSelectorTerm where
  encode t := .object (memberSome "matchExpressions" t.matchExpressions ++
    memberSome "matchFields" t.matchFields)
  decode? json := do
    let m ← json.members?
    let matchExpressions ← m.optional? "matchExpressions"
    let matchFields ← m.optional? "matchFields"
    some { matchExpressions, matchFields }

structure NodeSelector where
  nodeSelectorTerms : List NodeSelectorTerm
  deriving DecidableEq

instance : Codec NodeSelector where
  encode s := .object (member "nodeSelectorTerms" s.nodeSelectorTerms)
  decode? json := do
    let m ← json.members?
    let nodeSelectorTerms ← m.orZero? "nodeSelectorTerms" []
    some { nodeSelectorTerms }

structure PreferredSchedulingTerm where
  preference : NodeSelectorTerm
  weight : Int32
  deriving DecidableEq

instance : Codec PreferredSchedulingTerm where
  encode t := .object (member "preference" t.preference ++ member "weight" t.weight)
  decode? json := do
    let m ← json.members?
    let preference ← m.orZero? "preference" {}
    let weight ← m.orZero? "weight" 0
    some { preference, weight }

structure NodeAffinity where
  preferred : Option (List PreferredSchedulingTerm) := none
  required : Option NodeSelector := none
  deriving DecidableEq

def preferredTerms : String := "preferredDuringSchedulingIgnoredDuringExecution"

/-- The member that holds the terms which a choice must meet. -/
def requiredTerms : String := "requiredDuringSchedulingIgnoredDuringExecution"

instance : Codec NodeAffinity where
  encode a := .object (memberSome preferredTerms a.preferred ++ memberSome requiredTerms a.required)
  decode? json := do
    let m ← json.members?
    let preferred ← m.optional? preferredTerms
    let required ← m.optional? requiredTerms
    some { preferred, required }

structure LabelSelectorRequirement where
  key : String
  operator : String
  values : Option (List String)
  deriving DecidableEq

instance : Codec LabelSelectorRequirement where
  encode r :=
    .object (member "key" r.key ++ member "operator" r.operator ++ memberSome "values" r.values)
  decode? json := do
    let m ← json.members?
    let key ← m.orZero? "key" ""
    let operator ← m.orZero? "operator" ""
    let values ← m.optional? "values"
    some { key, operator, values }

structure LabelSelector where
  matchExpressions : Option (List LabelSelectorRequirement) := none
  matchLabels : Option (KeyMap String) := none
  deriving DecidableEq

instance : Codec LabelSelector where
  encode s := .object (memberSome "matchExpressions" s.matchExpressions ++
    memberSome "matchLabels" s.matchLabels)
  decode? json := do
    let m ← json.members?
    let matchExpressions ← m.optional? "matchExpressions"
    let matchLabels ← m.optional? "matchLabels"
    some { matchExpressions, matchLabels }

structure PodAffinityTerm where
  labelSelector : Option LabelSelector := none
  matchLabelKeys : Option (List String) := none
  mismatchLabelKeys : Option (List String) := none
  namespaceSelector : Option LabelSelector := none
  namespaces : Option (List String) := none
  topologyKey : String := ""
  deriving DecidableEq

instance : Codec PodAffinityTerm where
  encode t := .object (memberSome "labelSelector" t.labelSelector ++
    memberSome "matchLabelKeys" t.matchLabelKeys ++
    memberSome "mismatchLabelKeys" t.mismatchLabelKeys ++
    memberSome "namespaceSelector" t.namespaceSelector ++ memberSome "namespaces" t.namespaces ++
    member "topologyKey" t.topologyKey)
  decode? json := do
    let m ← json.members?
    let labelSelector ← m.optional? "labelSelector"
    let matchLabelKeys ← m.optional? "matchLabelKeys"
    let mismatchLabelKeys ← m.optional? "mismatchLabelKeys"
    let namespaceSelector ← m.optional? "namespaceSelector"
    let namespaces ← m.optional? "namespaces"
    let topologyKey ← m.orZero? "topologyKey" ""
    some { labelSelector, matchLabelKeys, mismatchLabelKeys, namespaceSelector, namespaces,
           topologyKey }

structure WeightedPodAffinityTerm where
  podAffinityTerm : PodAffinityTerm
  weight : Int32
  deriving DecidableEq

instance : Codec WeightedPodAffinityTerm where
  encode t := .object (member "podAffinityTerm" t.podAffinityTerm ++ member "weight" t.weight)
  decode? json := do
    let m ← json.members?
    let podAffinityTerm ← m.orZero? "podAffinityTerm" {}
    let weight ← m.orZero? "weight" 0
    some { podAffinityTerm, weight }

/-- The pods that a pod needs and prefers near it, or away from it. -/
structure PodAffinity where
  preferred : Option (List WeightedPodAffinityTerm) := none
  required : Option (List PodAffinityTerm) := none
  deriving DecidableEq

instance : Codec PodAffinity where
  encode a := .object (memberSome preferredTerms a.preferred ++ memberSome requiredTerms a.required)
  decode? json := do
    let m ← json.members?
    let preferred ← m.optional? preferredTerms
    let required ← m.optional? requiredTerms
    some { preferred, required }

structure Toleration where
  effect : Option String := none
  key : Option String := none
  operator : Option String := none
  tolerationSeconds : Option Int64 := none
  value : Option String := none
  deriving DecidableEq

instance : Codec Toleration where
  encode t := .object (memberSome "effect" t.effect ++ memberSome "key" t.key ++
    memberSome "operator" t.operator ++ memberSome "tolerationSeconds" t.tolerationSeconds ++
    memberSome "value" t.value)
  decode? json := do
    let m ← json.members?
    let effect ← m.optional? "effect"
    let key ← m.optional? "key"
    let operator ← m.optional? "operator"
    let tolerationSeconds ← m.optional? "tolerationSeconds"
    let value ← m.optional? "value"
    some { effect, key, operator, tolerationSeconds, value }

structure TopologySpreadConstraint where
  labelSelector : Option LabelSelector := none
  matchLabelKeys : Option (List String) := none
  maxSkew : Int32 := 0
  minDomains : Option Int32 := none
  nodeAffinityPolicy : Option String := none
  nodeTaintsPolicy : Option String := none
  topologyKey : String := ""
  whenUnsatisfiable : String := ""
  deriving DecidableEq

instance : Codec TopologySpreadConstraint where
  encode c := .object (memberSome "labelSelector" c.labelSelector ++
    memberSome "matchLabelKeys" c.matchLabelKeys ++ member "maxSkew" c.maxSkew ++
    memberSome "minDomains" c.minDomains ++ memberSome "nodeAffinityPolicy" c.nodeAffinityPolicy ++
    memberSome "nodeTaintsPolicy" c.nodeTaintsPolicy ++ member "topologyKey" c.topologyKey ++
    member "whenUnsatisfiable" c.whenUnsatisfiable)
  decode? json := do
    let m ← json.members?
    let labelSelector ← m.optional? "labelSelector"
    let matchLabelKeys ← m.optional? "matchLabelKeys"
    let maxSkew ← m.orZero? "maxSkew" 0
    let minDomains ← m.optional? "minDomains"
    let nodeAffinityPolicy ← m.optional? "nodeAffinityPolicy"
    let nodeTaintsPolicy ← m.optional? "nodeTaintsPolicy"
    let topologyKey ← m.orZero? "topologyKey" ""
    let whenUnsatisfiable ← m.orZero? "whenUnsatisfiable" ""
    some { labelSelector, matchLabelKeys, maxSkew, minDomains, nodeAffinityPolicy, nodeTaintsPolicy,
           topologyKey, whenUnsatisfiable }

end CephExport
