import CephExport.Json.Codec

/-!
The compute resources of a container.
-/

set_option autoImplicit false
set_option relaxedAutoImplicit false

namespace CephExport

/-- An amount of a resource, kept as it was written; a whole number stands for its decimal text. -/
structure Quantity where
  text : String
  deriving DecidableEq

instance : Codec Quantity where
  encode q := .string q.text
  decode?
    | .string text => some ⟨text⟩
    | .number (.integer value) => some ⟨toString value⟩
    | _ => none

structure ResourceClaim where
  name : String
  deriving DecidableEq

instance : Codec ResourceClaim where
  encode c := .object (member "name" c.name)
  decode? json := do
    let m ← json.members?
    let name ← m.orZero? "name" ""
    some { name }

/-- The compute resources that a container claims, may use and asks for. -/
structure ResourceRequirements where
  claims : Option (List ResourceClaim) := none
  limits : Option (KeyMap Quantity) := none
  requests : Option (KeyMap Quantity) := none
  deriving DecidableEq

instance : Codec ResourceRequirements where
  encode r := .object (memberSome "claims" r.claims ++ memberSome "limits" r.limits ++
    memberSome "requests" r.requests)
  decode? json := do
    let m ← json.members?
    let claims ← m.optional? "claims"
    let limits ← m.optional? "limits"
    let requests ← m.optional? "requests"
    some { claims, limits, requests }

end CephExport
