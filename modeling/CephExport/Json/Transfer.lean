import CephExport.Json.Number
import CephExport.Json.Printer

/-!
What becomes of a value that is sent as text and read again. Only numbers that are no integers can
change, since reading rounds in steps.
-/

set_option autoImplicit false
set_option relaxedAutoImplicit false

namespace CephExport.Json

def transferredNumber (number : JsonNumber) : Json :=
  match number with
  | .integer _ => .number number
  | .real _ =>
    match numberText (printNumber number).toList with
    | some (some read, _) => .number read
    | _ => .unreadable

def transferred : Json → Json
  | .number value => transferredNumber value
  | .array items => .array (transferredItems items)
  | .object members => .object (transferredMembers members)
  | json => json
where
  transferredItems : List Json → List Json
    | [] => []
    | item :: rest => transferred item :: transferredItems rest
  transferredMembers : Members → Members
    | [] => []
    | (key, item) :: rest => (key, transferred item) :: transferredMembers rest

end CephExport.Json
