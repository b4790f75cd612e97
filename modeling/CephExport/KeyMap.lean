/-!
Maps from text keys, kept as association lists in strictly increasing key order, so that two maps
with the same members are equal. The same insertion keeps the members of a JSON object in order.
-/

set_option autoImplicit false
set_option relaxedAutoImplicit false

namespace CephExport

universe u v

/-- Put `value` under `key` into a list of members in key order, replacing the member it has. -/
def insertMember {α : Type u} (key : String) (value : α) : List (String × α) → List (String × α)
  | [] => [(key, value)]
  | (k, v) :: rest =>
    if key < k then (key, value) :: (k, v) :: rest
    else if key = k then (key, value) :: rest
    else (k, v) :: insertMember key value rest

/-- The members of a list in key order, a later member winning over an earlier one of its key. -/
def sortMembers {α : Type u} (members : List (String × α)) : List (String × α) :=
  members.foldl (fun sorted member => insertMember member.1 member.2 sorted) []

def KeysIncrease {α : Type u} (members : List (String × α)) : Prop :=
  members.Pairwise (fun a b => a.1 < b.1)

instance {α : Type u} (members : List (String × α)) : Decidable (KeysIncrease members) :=
  inferInstanceAs (Decidable (List.Pairwise _ _))

theorem mem_insertMember {α : Type u} {key : String} {value : α} {members : List (String × α)}
    {entry : String × α} (h : entry ∈ insertMember key value members) :
    entry = (key, value) ∨ entry ∈ members := by
  induction members with
  | nil => simpa [insertMember] using h
  | cons head rest ih =>
    obtain ⟨k, v⟩ := head
    simp only [insertMember] at h
    split at h
    · simpa using h
    · split at h
      · simp only [List.mem_cons] at h ⊢
        exact h.imp_right Or.inr
      · simp only [List.mem_cons] at h ⊢
        rcases h with h | h
        · exact Or.inr (Or.inl h)
        · exact (ih h).imp_right Or.inr

theorem keysIncrease_insertMember {α : Type u} {members : List (String × α)}
    (h : KeysIncrease members) (key : String) (value : α) :
    KeysIncrease (insertMember key value members) := by
  induction members with
  | nil => simp [insertMember, KeysIncrease]
  | cons head rest ih =>
    obtain ⟨k, v⟩ := head
    simp only [KeysIncrease, List.pairwise_cons] at h ih ⊢
    simp only [insertMember]
    split
    · rename_i below
      simp only [List.pairwise_cons, List.mem_cons]
      refine ⟨?_, h⟩
      rintro entry (rfl | member)
      · exact below
      · exact String.lt_trans below (h.1 entry member)
    · rename_i notBelow
      split
      · rename_i same
        subst same
        exact List.pairwise_cons.2 h
      · rename_i different
        refine List.pairwise_cons.2 ⟨?_, ih h.2⟩
        intro entry member
        rcases mem_insertMember member with rfl | member
        · exact Std.lt_of_le_of_ne (String.not_lt.1 notBelow) (fun e => different e.symm)
        · exact h.1 entry member

theorem keysIncrease_sortMembers {α : Type u} (members : List (String × α)) :
    KeysIncrease (sortMembers members) := by
  suffices ∀ sorted : List (String × α), KeysIncrease sorted →
      KeysIncrease (members.foldl (fun sorted member => insertMember member.1 member.2 sorted)
        sorted) from
    this [] List.Pairwise.nil
  induction members with
  | nil => exact fun _ h => h
  | cons head rest ih => exact fun sorted h => ih _ (keysIncrease_insertMember h head.1 head.2)

/-- Looking a key up finds the first member that has it. -/
theorem lookup_member {α : Type u} (key : String) (value : α) (rest : List (String × α))
    (other : String) :
    List.lookup other ((key, value) :: rest) =
      if other = key then some value else rest.lookup other := by
  rw [List.lookup_cons]
  by_cases h : other = key
  · simp [h]
  · simp [h, beq_eq_false_iff_ne.2 h]

/-- Looking a key up after an insertion finds the inserted value, or what was there before. -/
theorem lookup_insertMember {α : Type u} (members : List (String × α)) (key other : String)
    (value : α) :
    (insertMember key value members).lookup other =
      if other = key then some value else members.lookup other := by
  induction members with
  | nil => simp only [insertMember, lookup_member]
  | cons head rest ih =>
    obtain ⟨k, v⟩ := head
    simp only [insertMember]
    split
    · simp only [lookup_member]
    · split
      · rename_i same
        subst same
        by_cases h : other = key <;> simp only [lookup_member, h, if_true, if_false]
      · rename_i different
        simp only [lookup_member, ih]
        by_cases hk : other = k
        · subst hk
          simp only [if_true, if_neg (Ne.symm different)]
        · simp only [if_neg hk]

/-- A key below those of all members is the key of none. -/
theorem lookup_eq_none_of_below {α : Type u} {key : String} {members : List (String × α)}
    (below : ∀ entry ∈ members, key < entry.1) : members.lookup key = none := by
  induction members with
  | nil => rfl
  | cons head rest ih =>
    obtain ⟨k, v⟩ := head
    obtain ⟨first, later⟩ := List.forall_mem_cons.1 below
    have different : key ≠ k := fun same => String.lt_irrefl k (same ▸ first)
    rw [lookup_member, if_neg different, ih later]

/-- In members in key order each is found under its key, since no key comes twice. -/
theorem lookup_eq_some_iff_mem {α : Type u} {members : List (String × α)}
    (increasing : KeysIncrease members) {key : String} {value : α} :
    members.lookup key = some value ↔ (key, value) ∈ members := by
  induction members with
  | nil => simp
  | cons head rest ih =>
    obtain ⟨k, v⟩ := head
    obtain ⟨below, later⟩ := List.pairwise_cons.1 increasing
    rw [lookup_member, List.mem_cons, Prod.mk.injEq]
    by_cases same : key = k
    · subst same
      have absent : (key, value) ∉ rest :=
        fun member => String.lt_irrefl key (below (key, value) member)
      simp [absent, eq_comm]
    · rw [if_neg same, ih later]
      simp [same]

structure KeyMap (α : Type u) where
  entries : List (String × α)
  increasing : KeysIncrease entries
  deriving DecidableEq

namespace KeyMap

variable {α : Type u} {β : Type v}

def empty : KeyMap α := ⟨[], List.Pairwise.nil⟩

instance : Inhabited (KeyMap α) := ⟨empty⟩

def get? (map : KeyMap α) (key : String) : Option α := map.entries.lookup key

def insert (map : KeyMap α) (key : String) (value : α) : KeyMap α :=
  ⟨insertMember key value map.entries, keysIncrease_insertMember map.increasing key value⟩

/-- The map of a list of members, the last of a key winning. -/
def ofList (members : List (String × α)) : KeyMap α :=
  ⟨sortMembers members, keysIncrease_sortMembers members⟩

def isEmpty (map : KeyMap α) : Bool := map.entries.isEmpty

def extend (base extra : KeyMap α) : KeyMap α :=
  extra.entries.foldl (fun map member => map.insert member.1 member.2) base

def any (map : KeyMap α) (condition : String → α → Bool) : Bool :=
  map.entries.any fun member => condition member.1 member.2

@[simp] theorem get?_empty (key : String) : (empty : KeyMap α).get? key = none := rfl

@[simp] theorem get?_insert (map : KeyMap α) (key other : String) (value : α) :
    (map.insert key value).get? other = if other = key then some value else map.get? other :=
  lookup_insertMember map.entries key other value

end KeyMap

end CephExport
