import CephExport.Json.Parser
import CephExport.Proofs.Json.Codec
import Mathlib.Data.List.Chain

/-!
Plain values: those that are settled, and that text can hold as they are. The values of most types
are written plainly, whatever is in them, and how deep they nest is known from their type.
-/

set_option autoImplicit false
set_option relaxedAutoImplicit false

namespace CephExport

namespace Json

/-- A value with integers of 64 bits for numbers and with the members of each object in key order,
that nests at most `depth` deep. -/
inductive Plain : Nat → Json → Prop
  | null (depth : Nat) : Plain depth .null
  | bool (depth : Nat) (value : Bool) : Plain depth (.bool value)
  | string (depth : Nat) (value : String) : Plain depth (.string value)
  | integer (depth : Nat) {value : Int} (above : -0x8000000000000000 ≤ value)
      (below : value < 0x10000000000000000) : Plain depth (.number (.integer value))
  | array {depth : Nat} {items : List Json} (plain : ∀ item ∈ items, Plain depth item) :
      Plain (depth + 1) (.array items)
  | object {depth : Nat} {members : Members} (increasing : KeysIncrease members)
      (plain : ∀ entry ∈ members, Plain depth entry.2) : Plain (depth + 1) (.object members)

namespace Plain

variable {depth deeper : Nat} {json : Json}

theorem mono (plain : Plain depth json) (le : depth ≤ deeper) : Plain deeper json := by
  induction plain generalizing deeper with
  | null => exact .null deeper
  | bool _ value => exact .bool deeper value
  | string _ value => exact .string deeper value
  | integer _ above below => exact .integer deeper above below
  | array _ ih =>
    obtain ⟨within, rfl⟩ := Nat.exists_eq_add_of_lt le
    exact .array fun item member => ih item member (by omega)
  | object increasing _ ih =>
    obtain ⟨within, rfl⟩ := Nat.exists_eq_add_of_lt le
    exact .object increasing fun entry member => ih entry member (by omega)

theorem settledItems?_eq {items : List Json}
    (settled : ∀ item ∈ items, settled? depth item = some item) :
    settled?.settledItems? depth items = some items := by
  induction items with
  | nil => rfl
  | cons item later ih =>
    obtain ⟨here, behind⟩ := List.forall_mem_cons.1 settled
    simp only [settled?.settledItems?, here, ih behind]

theorem settledMembers?_eq {before members : Members}
    (increasing : KeysIncrease (before ++ members))
    (settled : ∀ entry ∈ members, settled? depth entry.2 = some entry.2) :
    settled?.settledMembers? depth members before = some (before ++ members) := by
  induction members generalizing before with
  | nil => rw [settled?.settledMembers?, List.append_nil]
  | cons entry later ih =>
    obtain ⟨here, behind⟩ := List.forall_mem_cons.1 settled
    have above : ∀ earlier ∈ before, earlier.1 < entry.1 := fun earlier member =>
      (List.pairwise_append.1 increasing).2.2 earlier member entry List.mem_cons_self
    have regrouped : before ++ entry :: later = before ++ [entry] ++ later := by simp
    rw [regrouped] at increasing ⊢
    simp only [settled?.settledMembers?, here]
    rw [insertMember_of_above above]
    exact ih increasing behind

theorem settled?_eq (plain : Plain depth json) : settled? depth json = some json := by
  induction plain with
  | null | bool | string | integer => rfl
  | array _ ih => rw [settled?, settledItems?_eq ih, Option.map_some]
  | @object depth members increasing _ ih =>
    have whole : settled?.settledMembers? depth members [] = some ([] ++ members) :=
      settledMembers?_eq increasing ih
    rw [settled?, whole, Option.map_some, List.nil_append]

theorem transferredItems_eq {items : List Json} (same : ∀ item ∈ items, item.transferred = item) :
    transferred.transferredItems items = items := by
  induction items with
  | nil => rfl
  | cons item later ih =>
    obtain ⟨here, behind⟩ := List.forall_mem_cons.1 same
    rw [transferred.transferredItems, here, ih behind]

theorem transferredMembers_eq {members : Members}
    (same : ∀ entry ∈ members, entry.2.transferred = entry.2) :
    transferred.transferredMembers members = members := by
  induction members with
  | nil => rfl
  | cons entry later ih =>
    obtain ⟨here, behind⟩ := List.forall_mem_cons.1 same
    rw [transferred.transferredMembers, here, ih behind]

/-- No plain value is changed on its way as text. -/
theorem transferred_eq (plain : Plain depth json) : json.transferred = json := by
  induction plain with
  | null | bool | string | integer => rfl
  | array _ ih => rw [transferred, transferredItems_eq ih]
  | object _ _ ih => rw [transferred, transferredMembers_eq ih]

end Plain

end Json

class PlainCodec (α : Type) [Codec α] (depth : outParam Nat) : Prop where
  plain_encode (value : α) : (encode value : Json).Plain depth

export PlainCodec (plain_encode)

/-! ### Members -/

class Members.Within (depth : outParam Nat) (keys : outParam (List String))
    (members : Members) : Prop where
  keys : (members.map Prod.fst).Sublist keys
  plain : ∀ entry ∈ members, entry.2.Plain depth

namespace Members.Within

section

variable {α : Type} [Codec α] {depth : Nat} [PlainCodec α depth] (key : String)

instance (value : α) : Within depth [key] (member key value) where
  keys := List.Sublist.refl _
  plain entry member := by
    obtain rfl := List.mem_singleton.1 member
    exact plain_encode value

instance (value : Option α) : Within depth [key] (memberSome key value) := by
  cases value with
  | none => exact ⟨List.nil_sublist _, fun _ member => nomatch member⟩
  | some value => exact inferInstanceAs (Within depth [key] (member key value))

end

variable {depth otherDepth total : Nat} {keys otherKeys : List String} {members others : Members}

instance [here : Within depth keys members] [there : Within otherDepth otherKeys others] :
    Within (max depth otherDepth) (keys ++ otherKeys) (members ++ others) where
  keys := by
    rw [List.map_append]
    exact here.keys.append there.keys
  plain entry member := by
    rcases List.mem_append.1 member with first | second
    · exact (here.plain entry first).mono (Nat.le_max_left ..)
    · exact (there.plain entry second).mono (Nat.le_max_right ..)

theorem plain_object [within : Within depth keys members] (increasing : keys.IsChain (· < ·))
    (deeper : depth < total) : (Json.object members).Plain total := by
  have ordered : KeysIncrease members :=
    List.pairwise_map.1 ((List.isChain_iff_pairwise.1 increasing).sublist within.keys)
  exact (Json.Plain.object ordered within.plain).mono deeper

end Members.Within

/-! ### Values of every kind -/

section

variable {α : Type} [Codec α] {depth : Nat}

instance : PlainCodec String 0 := ⟨.string 0⟩

instance : PlainCodec Bool 0 := ⟨.bool 0⟩

instance : PlainCodec UInt32 0 where
  plain_encode value := .integer 0 (by omega) (by have := value.toNat_lt; omega)

instance : PlainCodec UInt64 0 where
  plain_encode value := .integer 0 (by omega) (by have := value.toNat_lt; omega)

instance : PlainCodec Int32 0 where
  plain_encode value :=
    .integer 0 (by have := value.le_toInt; omega) (by have := value.toInt_lt; omega)

instance : PlainCodec Int64 0 where
  plain_encode value :=
    .integer 0 (by have := value.le_toInt; omega) (by have := value.toInt_lt; omega)

instance [PlainCodec α depth] : PlainCodec (List α) (depth + 1) where
  plain_encode values := by
    refine .array ?_
    intro item member
    obtain ⟨value, -, rfl⟩ := List.mem_map.1 member
    exact plain_encode value

instance [PlainCodec α depth] : PlainCodec (KeyMap α) (depth + 1) where
  plain_encode map := by
    refine .object (List.pairwise_map.2 map.increasing) ?_
    intro entry member
    obtain ⟨given, -, rfl⟩ := List.mem_map.1 member
    exact plain_encode given.2

instance [PlainCodec α depth] : SteadyCodec α where
  transferred_encode value := (plain_encode value).transferred_eq

end

end CephExport
