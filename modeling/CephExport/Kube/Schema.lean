import CephExport.Json.Basic

/-!
Schemas of custom resources: the shape of a value, with what is said about it, and the shapes of the
Kubernetes types that a cluster declares.
-/

set_option autoImplicit false
set_option relaxedAutoImplicit false

namespace CephExport

inductive Shape
  | boolean
  | string
  | dateTime
  | int32
  | int64
  /-- An integer of 32 bits without a sign, whose least value is told. -/
  | uint32
  | array (items : Shape)
  | map (values : Shape)
  /-- An object with known members, some of which must be there. -/
  | record (required : List String) (properties : List (String × Shape))
  | described (text : String) (shape : Shape)
  | nullable (shape : Shape)
  /-- A shape with a value that stands where none is given. -/
  | withDefault (value : Json) (shape : Shape)

namespace Shape

/-- The members of the schema of a shape, in key order. -/
def members : Shape → Members
  | boolean => [("type", .string "boolean")]
  | string => [("type", .string "string")]
  | dateTime => [("format", .string "date-time"), ("type", .string "string")]
  | int32 => [("format", .string "int32"), ("type", .string "integer")]
  | int64 => [("format", .string "int64"), ("type", .string "integer")]
  | uint32 =>
    [("format", .string "uint32"), ("minimum", .number (.real .zero)), ("type", .string "integer")]
  | array items => [("items", .object items.members), ("type", .string "array")]
  | map values => [("additionalProperties", .object values.members), ("type", .string "object")]
  | record required properties =>
    let listed := ("properties", Json.ofMembers (propertyMembers properties))
    let type := ("type", Json.string "object")
    if required.isEmpty then [listed, type]
    else [listed, ("required", .array (required.map .string)), type]
  | described text shape => insertMember "description" (.string text) shape.members
  | nullable shape => insertMember "nullable" (.bool true) shape.members
  | withDefault value shape => insertMember "default" value shape.members
where
  propertyMembers : List (String × Shape) → Members
    | [] => []
    | (key, shape) :: rest => (key, .object shape.members) :: propertyMembers rest

def toJson (shape : Shape) : Json := .object shape.members

/-- The shape of a choice by keys, with an operator and values. -/
def requirement : Shape :=
  record ["key", "operator"] [("key", string), ("operator", string), ("values", array string)]

def labelSelector : Shape :=
  record [] [("matchExpressions", array requirement), ("matchLabels", map string)]

def nodeSelectorTerm : Shape :=
  record [] [("matchExpressions", array requirement), ("matchFields", array requirement)]

def nodeAffinity : Shape :=
  record [] [
    ("preferredDuringSchedulingIgnoredDuringExecution",
      array (record ["preference", "weight"] [("preference", nodeSelectorTerm),
        ("weight", int32)])),
    ("requiredDuringSchedulingIgnoredDuringExecution",
      record ["nodeSelectorTerms"] [("nodeSelectorTerms", array nodeSelectorTerm)])]

/-- The shape of the pods beside which pods may run or not. -/
def podAffinityTerm : Shape :=
  record ["topologyKey"] [("labelSelector", labelSelector), ("matchLabelKeys", array string),
    ("mismatchLabelKeys", array string), ("namespaceSelector", labelSelector),
    ("namespaces", array string), ("topologyKey", string)]

/-- The shape of the pods that pods need or prefer near them, or away from them. -/
def podAffinity : Shape :=
  record [] [
    ("preferredDuringSchedulingIgnoredDuringExecution",
      array (record ["podAffinityTerm", "weight"] [("podAffinityTerm", podAffinityTerm),
        ("weight", int32)])),
    ("requiredDuringSchedulingIgnoredDuringExecution", array podAffinityTerm)]

def toleration : Shape :=
  record [] [("effect", string), ("key", string), ("operator", string),
    ("tolerationSeconds", int64), ("value", string)]

def topologySpreadConstraint : Shape :=
  record ["maxSkew", "topologyKey", "whenUnsatisfiable"] [("labelSelector", labelSelector),
    ("matchLabelKeys", array string), ("maxSkew", int32), ("minDomains", int32),
    ("nodeAffinityPolicy", string), ("nodeTaintsPolicy", string), ("topologyKey", string),
    ("whenUnsatisfiable", string)]

def resourceRequirements : Shape :=
  record [] [("claims", array (record ["name"] [("name", string)])), ("limits", map string),
    ("requests", map string)]

end Shape

end CephExport
