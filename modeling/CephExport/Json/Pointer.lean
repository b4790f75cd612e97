import CephExport.Json.Basic

/-!
Pointers into JSON values, and changes to values: merge patches and the operations of JSON patches
that test, add and remove.
-/

set_option autoImplicit false
set_option relaxedAutoImplicit false

namespace CephExport.Json

/-- A reference token with its two escapes undone: `~1` is a slash and `~0` a tilde. -/
def unescapeToken : List Char → List Char
  | '~' :: '1' :: rest => '/' :: unescapeToken rest
  | '~' :: '0' :: rest => '~' :: unescapeToken rest
  | c :: rest => c :: unescapeToken rest
  | [] => []

def escapeToken (token : List Char) : List Char :=
  token.flatMap fun c => if c = '~' then ['~', '0'] else if c = '/' then ['~', '1'] else [c]

theorem unescapeToken_escapeToken (token : List Char) :
    unescapeToken (escapeToken token) = token := by
  induction token with
  | nil => rfl
  | cons c rest ih =>
    by_cases tilde : c = '~'
    · subst tilde
      simpa [escapeToken, unescapeToken] using ih
    · by_cases slash : c = '/'
      · subst slash
        simpa [escapeToken, unescapeToken] using ih
      · have : escapeToken (c :: rest) = c :: escapeToken rest := by
          simp [escapeToken, tilde, slash]
        rw [this, unescapeToken, ih]
        · exact fun _ h => absurd h tilde
        · exact fun _ h => absurd h tilde

/-- A pointer: the empty text is the whole value, any other starts with a slash. -/
def pointer? (text : String) : Option (List String) :=
  match text.toList with
  | [] => some []
  | '/' :: rest =>
    some ((String.ofList rest).splitOn "/" |>.map fun t => String.ofList (unescapeToken t.toList))
  | _ => none

/-- The position that a token names in an array: decimal digits without sign or leading zeros. -/
def index? (token : String) : Option Nat :=
  let digits := token.toList
  if digits.isEmpty || !digits.all Char.isDigit ||
    (digits.length != 1 && digits.head? == some '0') then none
  else some (digits.foldl (fun value c => value * 10 + (c.toNat - 48)) 0)

def child? (json : Json) (token : String) : Option Json :=
  match json with
  | .object members => members.lookup token
  | .array items => (index? token).bind fun i => items[i]?
  | _ => none

def find? (json : Json) (path : List String) : Option Json :=
  path.foldl (fun found token => found.bind (child? · token)) (some json)

def eraseMember (key : String) (members : Members) : Members :=
  members.filter fun member => member.1 != key

/-- Apply a merge patch: the members of an object are merged one by one, null removes a member, and
any other value replaces what was there. -/
def mergePatch (target : Json) : Json → Json
  | .object changes => .object (mergeMembers ((target.members?).getD []) changes)
  | value => value
where
  mergeMembers (members : Members) : Members → Members
    | [] => members
    | (key, change) :: rest =>
      if change.isNull then mergeMembers (eraseMember key members) rest
      else mergeMembers (insertMember key (mergePatch ((members.lookup key).getD .null) change)
        members) rest

inductive PatchOperation
  | test (path : List String) (value : Json)
  | add (path : List String) (value : Json)
  | remove (path : List String)

/-- Change the value that a path leads to; the last token is handed to `change` with its parent. -/
def changeAt (change : Json → String → Option Json) (json : Json) : List String → Option Json
  | [] => none
  | [token] => change json token
  | token :: rest =>
    match json with
    | .object members => do
      let inner ← members.lookup token
      let changed ← changeAt change inner rest
      some (.object (insertMember token changed members))
    | .array items => do
      let i ← index? token
      let inner ← items[i]?
      let changed ← changeAt change inner rest
      some (.array (items.set i changed))
    | _ => none

/-- Add a value under a token: a member is set, and an item is put in before the one of its
position, or at the end for `-`. -/
def addChild (value : Json) (parent : Json) (token : String) : Option Json :=
  match parent with
  | .object members => some (.object (insertMember token value members))
  | .array items =>
    if token = "-" then some (.array (items ++ [value]))
    else do
      let i ← index? token
      if i ≤ items.length then some (.array (items.insertIdx i value)) else none
  | _ => none

def removeChild (parent : Json) (token : String) : Option Json :=
  match parent with
  | .object members =>
    if (members.lookup token).isSome then some (.object (eraseMember token members)) else none
  | .array items => do
    let i ← index? token
    if i < items.length then some (.array (items.eraseIdx i)) else none
  | _ => none

/-- Apply one operation; a test for null also holds where nothing is. -/
def PatchOperation.apply (json : Json) : PatchOperation → Option Json
  | .test path value =>
    match json.find? path with
    | some found => if found.same value then some json else none
    | none => if value.isNull then some json else none
  | .add path value => if path.isEmpty then some value else changeAt (addChild value) json path
  | .remove path => changeAt removeChild json path

/-- Apply the operations of a patch in order, all or none. -/
def applyPatch (json : Json) (patch : List PatchOperation) : Option Json :=
  patch.foldlM PatchOperation.apply json

end CephExport.Json
