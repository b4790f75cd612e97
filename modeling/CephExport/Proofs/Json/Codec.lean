import CephExport.Json.Codec
import CephExport.Json.Transfer

/-!
Types whose values read back from what is written for them. The members of a record are written
under keys of their own, so that each of them is found again among all that is written, and a record
reads back if its members do.
-/

set_option autoImplicit false
set_option relaxedAutoImplicit false

namespace CephExport

/-- Every value reads back from its JSON form, which is never null. -/
class LawfulCodec (α : Type) [Codec α] : Prop where
  decode?_encode (value : α) : decode? (encode value) = some value
  isNull_encode (value : α) : (encode value).isNull = false

/-- The JSON form of a value is the same after it was sent as text. -/
class SteadyCodec (α : Type) [Codec α] : Prop where
  transferred_encode (value : α) : (encode value).transferred = encode value

export LawfulCodec (decode?_encode isNull_encode)
export SteadyCodec (transferred_encode)

attribute [simp] decode?_encode isNull_encode transferred_encode

variable {α : Type} [Codec α]

/-! ### What stands under a key -/

namespace Json

@[simp] theorem valuesOf_nil (key : String) : valuesOf key [] = [] := rfl

theorem valuesOf_cons (key other : String) (value : Json) (rest : Members) :
    valuesOf key ((other, value) :: rest) =
      if other = key then value :: valuesOf key rest else valuesOf key rest := by
  unfold valuesOf
  by_cases same : other = key <;> simp [same]

@[simp] theorem valuesOf_append (key : String) (first second : Members) :
    valuesOf key (first ++ second) = valuesOf key first ++ valuesOf key second :=
      List.filterMap_append

theorem lookup_eq_head? (key : String) (members : Members) :
    members.lookup key = (valuesOf key members).head? := by
  induction members with
  | nil => rfl
  | cons member rest ih =>
    obtain ⟨other, json⟩ := member
    rw [lookup_member, valuesOf_cons]
    by_cases same : key = other
    · rw [if_pos same, if_pos same.symm]
      rfl
    · rw [if_neg same, if_neg (Ne.symm same), ih]

theorem eq_object_of_members? {json : Json} {members : Members}
    (object : json.members? = some members) :
    json = .object members := by
  cases json with
  | object others => exact congrArg Json.object (Option.some.inj object)
  | _ => cases object

end Json

@[simp] theorem valuesOf_member (key other : String) (value : α) :
    Json.valuesOf key (member other value) = if other = key then [encode value] else [] := by
  rw [member, Json.valuesOf_cons, Json.valuesOf_nil]

@[simp] theorem valuesOf_memberSome (key other : String) (value : Option α) :
    Json.valuesOf key (memberSome other value) =
      if other = key then (value.map encode).toList else [] := by
  cases value with
  | none => simp [memberSome]
  | some value => exact valuesOf_member key other value

@[simp] theorem lookup_append (key : String) (first second : Members) :
    (first ++ second).lookup key = (first.lookup key).or (second.lookup key) := List.lookup_append

@[simp] theorem lookup_member_of (key other : String) (value : α) :
    (member other value).lookup key = if key = other then some (encode value) else none := by
  rw [member, lookup_member]
  rfl

@[simp] theorem lookup_memberSome (key other : String) (value : Option α) :
    (memberSome other value).lookup key = if key = other then value.map encode else none := by
  cases value with
  | none => simp [memberSome]
  | some value => exact lookup_member_of key other value

/-! ### Members of Kubernetes records -/

def readValues (values : List Json) : Option (Option α) :=
  values.foldlM (fun _ json => decodeNullable? json) none

@[simp] theorem Members.optional?_eq (members : Members) (key : String) :
    members.optional? (α := α) key = readValues (Json.valuesOf key members) := rfl

@[simp] theorem Members.orZero?_eq (members : Members) (key : String) (zero : α) :
    members.orZero? key zero = (readValues (Json.valuesOf key members)).map (·.getD zero) := rfl

@[simp] theorem readValues_nil : readValues (α := α) [] = some none := rfl

theorem readValues_singleton_of {json : Json} {value : α} (read : decode? json = some value)
    (given : json.isNull = false) : readValues [json] = some (some value) := by
  simp [readValues, decodeNullable?, read, given]

section

variable [LawfulCodec α]

@[simp] theorem readValues_singleton (value : α) : readValues [encode value] = some (some value) :=
  readValues_singleton_of (decode?_encode value) (isNull_encode value)

@[simp] theorem readValues_toList (value : Option α) :
    readValues (value.map encode).toList = some value := by
  cases value with
  | none => rfl
  | some value => exact readValues_singleton value

theorem read_members {β : Type} {json : Json} {members : Members} {next : Members → Option β}
    {record : β} (written : json = .object members) (rest : next members = some record) :
    (json.members? >>= next) = some record := by
  rw [written]
  exact rest

theorem read_optional {β : Type} {members : Members} {key : String} {next : Option α → Option β}
    {record : β} (value : Option α) (found : Json.valuesOf key members = (value.map encode).toList)
    (rest : next value = some record) : (members.optional? key >>= next) = some record := by
  rw [Members.optional?_eq, found, readValues_toList]
  exact rest

end

/-! ### Members of configuration records -/

namespace Record

def readMember : Option Json → Option (Option α)
  | none => some none
  | some .null => some none
  | some json => (decode? json : Option α).map some

@[simp] theorem written?_named (members : Members) (position : Nat) (key : String) :
    (named members).written? position key = members.lookup key := by
  simp only [written?]

@[simp] theorem optional?_eq (record : Record) (position : Nat) (key : String) :
    record.optional? (α := α) position key = readMember (record.written? position key) := by
  unfold optional? readMember
  rcases record.written? position key with _ | json
  · rfl
  · cases json <;> rfl

def readRequired (written : Option Json) : Option α := written.bind decode?

@[simp] theorem required?_eq (record : Record) (position : Nat) (key : String) :
    record.required? (α := α) position key = readRequired (record.written? position key) := rfl

def readDefault (default : α) (written : Option Json) : Option α :=
  written.elim (some default) decode?

@[simp] theorem withDefault?_eq (record : Record) (position : Nat) (key : String) (default : α) :
    record.withDefault? position key default =
      readDefault default (record.written? position key) := by
  unfold withDefault? readDefault
  cases record.written? position key <;> rfl

theorem readMember_of {json : Json} {value : α} (read : decode? json = some value)
    (given : json.isNull = false) :
    readMember (some json) = some (some value) := by
  cases json <;> simp_all [readMember, Json.isNull]

section

variable [LawfulCodec α]

@[simp] theorem readRequired_some (value : α) :
    readRequired (some (encode value)) = some value := by
  rw [readRequired, Option.bind_some, decode?_encode]

@[simp] theorem readDefault_some (default value : α) :
    readDefault default (some (encode value)) = some value := by
  rw [readDefault, Option.elim_some, decode?_encode]

@[simp] theorem readDefault_map (default : α) (value : Option α) :
    readDefault default (value.map encode) = some (value.getD default) := by
  cases value with
  | none => rfl
  | some value => exact readDefault_some default value

@[simp] theorem readMember_some (value : α) :
    readMember (some (encode value)) = some (some value) :=
  readMember_of (decode?_encode value) (isNull_encode value)

@[simp] theorem readMember_map (value : Option α) : readMember (value.map encode) = some value := by
  cases value with
  | none => rfl
  | some value => exact readMember_some value

end

theorem of?_object_eq_some {keys : List String} {members : Members} {record : Record}
    (read : of? keys (.object members) = some record) :
    record = .named members ∧ ∀ key ∈ keys, (Json.valuesOf key members).length ≤ 1 := by
  rw [of?] at read
  split at read
  · rename_i once
    exact ⟨(Option.some.inj read).symm, by simpa using once⟩
  · cases read

end Record

/-- A record reads back from the members that are written for it, if its keys differ. How a document
reads is said of any document: one that is spelled out would be computed, down to the bounds of the
numbers in it. -/
theorem decode?_encode_record {keys : List String} {next : Record → Option α} {value : α}
    {members : Members} (reads : ∀ json : Json, decode? json = Record.of? keys json >>= next)
    (written : encode value = .object members)
    (once : ∀ key ∈ keys, (Json.valuesOf key members).length ≤ 1)
    (rest : next (.named members) = some value) : decode? (encode value) = some value := by
  have all : (keys.all fun key => decide ((Json.valuesOf key members).length ≤ 1)) = true := by
    simpa using once
  rw [reads, written, Record.of?, if_pos all]
  exact rest

/-! ### Members as text -/

namespace Json

theorem transferredMembers_append (first second : Members) :
    transferred.transferredMembers (first ++ second) =
      transferred.transferredMembers first ++ transferred.transferredMembers second := by
  induction first with
  | nil => rfl
  | cons entry rest ih =>
    obtain ⟨key, item⟩ := entry
    simp only [List.cons_append, transferred.transferredMembers, ih]

@[simp] theorem transferred_object (members : Members) :
    transferred (.object members) = .object (transferred.transferredMembers members) := by
  rw [transferred]

end Json

attribute [simp] Json.transferredMembers_append

theorem transferredMembers_member_of {key : String} {value : α}
    (steady : (encode value : Json).transferred = encode value) :
    Json.transferred.transferredMembers (member key value) = member key value := by
  simp [member, Json.transferred.transferredMembers, steady]

section

variable [SteadyCodec α]

@[simp] theorem transferredMembers_member (key : String) (value : α) :
    Json.transferred.transferredMembers (member key value) = member key value :=
  transferredMembers_member_of (transferred_encode value)

@[simp] theorem transferredMembers_memberSome (key : String) (value : Option α) :
    Json.transferred.transferredMembers (memberSome key value) = memberSome key value := by
  cases value with
  | none => rfl
  | some value => exact transferredMembers_member key value

end

/-! ### Values of every kind -/

instance : LawfulCodec String := ⟨fun _ => rfl, fun _ => rfl⟩

instance : LawfulCodec Bool := ⟨fun _ => rfl, fun _ => rfl⟩

instance : LawfulCodec Double := ⟨fun _ => rfl, fun _ => rfl⟩

theorem Json.intWithin?_integer {low high value : Int} (above : low ≤ value)
    (below : value < high) :
    (Json.number (.integer value)).intWithin? low high = some value := by
  simp [Json.intWithin?, Json.int?, above, below]

theorem Json.intWithin?_ofNat {limit n : Nat} (below : n < limit) :
    (Json.ofNat n).intWithin? 0 limit = some (n : Int) :=
  Json.intWithin?_integer (Int.natCast_nonneg n) (Int.ofNat_lt.2 below)

instance : LawfulCodec UInt32 where
  decode?_encode value := by
    have read : (Json.ofNat value.toNat).intWithin? 0 0x100000000 = some (value.toNat : Int) :=
      Json.intWithin?_ofNat value.toNat_lt
    change ((Json.ofNat value.toNat).intWithin? 0 0x100000000).map _ = some value
    rw [read, Option.map_some, Int.toNat_natCast, UInt32.ofNat_toNat]
  isNull_encode _ := rfl

instance : LawfulCodec UInt64 where
  decode?_encode value := by
    have read : (Json.ofNat value.toNat).intWithin? 0 0x10000000000000000 =
        some (value.toNat : Int) :=
      Json.intWithin?_ofNat value.toNat_lt
    change ((Json.ofNat value.toNat).intWithin? 0 0x10000000000000000).map _ = some value
    rw [read, Option.map_some, Int.toNat_natCast, UInt64.ofNat_toNat]
  isNull_encode _ := rfl

instance : LawfulCodec Int32 where
  decode?_encode value := by
    have above : (-0x80000000 : Int) ≤ value.toInt := by
      have limit := value.le_toInt
      omega
    have below : value.toInt < 0x80000000 := by
      have limit := value.toInt_lt
      omega
    change ((Json.number (.integer value.toInt)).intWithin? (-0x80000000) 0x80000000).map
      _ = some value
    rw [Json.intWithin?_integer above below, Option.map_some, Int32.ofInt_toInt]
  isNull_encode _ := rfl

instance : LawfulCodec Int64 where
  decode?_encode value := by
    have above : (-0x8000000000000000 : Int) ≤ value.toInt := by
      have limit := value.le_toInt
      omega
    have below : value.toInt < 0x8000000000000000 := by
      have limit := value.toInt_lt
      omega
    change ((Json.number (.integer value.toInt)).intWithin? (-0x8000000000000000)
      0x8000000000000000).map _ =
      some value
    rw [Json.intWithin?_integer above below, Option.map_some, Int64.ofInt_toInt]
  isNull_encode _ := rfl

theorem decodeItems?_map_encode [LawfulCodec α] (values : List α) :
    decodeItems? (values.map encode) = some values := by
  induction values with
  | nil => rfl
  | cons value rest ih => simp [decodeItems?, ih]

instance [LawfulCodec α] : LawfulCodec (List α) := ⟨decodeItems?_map_encode, fun _ => rfl⟩

/-! ### Maps -/

theorem insertMember_of_above {β : Type} {key : String} {value : β} {members : List (String × β)}
    (above : ∀ entry ∈ members, entry.1 < key) :
    insertMember key value members = members ++ [(key, value)] := by
  induction members with
  | nil => rfl
  | cons head rest ih =>
    obtain ⟨here, later⟩ := List.forall_mem_cons.1 above
    have notBelow : ¬key < head.1 := fun below => String.lt_irrefl _ (String.lt_trans here below)
    have different : key ≠ head.1 := fun same => String.lt_irrefl key (same ▸ here)
    rw [insertMember, if_neg notBelow, if_neg different, ih later]
    rfl

theorem sortMembers_of_increasing {β : Type} {members : List (String × β)}
    (increasing : KeysIncrease members) :
    sortMembers members = members := by
  suffices ∀ before : List (String × β), KeysIncrease (before ++ members) →
      members.foldl (fun sorted member => insertMember member.1 member.2 sorted) before = before ++
        members from
    this [] increasing
  intro before
  induction members generalizing before with
  | nil => simp
  | cons head rest ih =>
    intro whole
    have above : ∀ entry ∈ before, entry.1 < head.1 := by
      intro entry member
      exact (List.pairwise_append.1 whole).2.2 entry member head List.mem_cons_self
    have regrouped : before ++ head :: rest = before ++ [head] ++ rest := by simp
    rw [regrouped] at whole ⊢
    rw [List.foldl_cons, insertMember_of_above above]
    exact ih (List.pairwise_append.1 (regrouped ▸ whole)).2.1.of_cons _ whole

theorem KeyMap.ofList_entries {β : Type} (map : KeyMap β) : KeyMap.ofList map.entries = map := by
  cases map with
  | mk entries increasing => simp only [ofList, sortMembers_of_increasing increasing]

theorem decodeMembers?_map_encode [LawfulCodec α] (entries : List (String × α)) :
    decodeMembers? (entries.map fun entry => (entry.1, encode entry.2)) = some entries := by
  induction entries with
  | nil => rfl
  | cons entry rest ih => simp [decodeMembers?, ih]

instance [LawfulCodec α] : LawfulCodec (KeyMap α) where
  decode?_encode map := by
    change (decodeMembers? _).map KeyMap.ofList = some map
    rw [decodeMembers?_map_encode, Option.map_some, KeyMap.ofList_entries]
  isNull_encode _ := rfl

end CephExport
