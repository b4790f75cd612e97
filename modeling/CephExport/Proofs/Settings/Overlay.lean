import CephExport.Settings.Value

/-!
Layers laid over one another. As long as no key comes twice in a table, what stands under a key of
the joined table is what the upper table has there, laid over what the lower one has, and otherwise
what the lower one has.
-/

set_option autoImplicit false
set_option relaxedAutoImplicit false

namespace CephExport.Settings.Value

/-- Every table that is reached by keys alone has its members in key order. Tables in lists are left
out: they are never joined with others. -/
inductive InOrder : Value → Prop
  | other {value : Value} (noTable : ∀ members, value ≠ .table members) : InOrder value
  | table {members : List (String × Value)} (increasing : KeysIncrease members)
      (inner : ∀ entry ∈ members, InOrder entry.2) : InOrder (.table members)

variable {lower upper value : Value} {members others : List (String × Value)} {key : String}

theorem inOrder_table_iff :
    (table members).InOrder ↔ KeysIncrease members ∧ ∀ entry ∈ members, entry.2.InOrder := by
  refine ⟨fun ordered => ?_, fun ordered => .table ordered.1 ordered.2⟩
  cases ordered with
  | other noTable => exact absurd rfl (noTable members)
  | table increasing inner => exact ⟨increasing, inner⟩

theorem inOrder_empty : (table []).InOrder := .table .nil nofun

theorem inOrder_singleton (ordered : value.InOrder) : (table [(key, value)]).InOrder :=
  .table (List.pairwise_singleton _ _) fun _ member => (List.mem_singleton.1 member) ▸ ordered

theorem inOrder_insert (whole : (table members).InOrder) (key : String) (ordered : value.InOrder) :
    (table (insertMember key value members)).InOrder := by
  obtain ⟨increasing, inner⟩ := inOrder_table_iff.1 whole
  refine .table (keysIncrease_insertMember increasing key value) fun entry member => ?_
  obtain rfl | member := mem_insertMember member
  · exact ordered
  · exact inner entry member

theorem inOrder_sortMembers (inner : ∀ entry ∈ members, entry.2.InOrder) :
    (table (sortMembers members)).InOrder := by
  suffices ∀ sorted : List (String × Value), (table sorted).InOrder →
      (table (members.foldl (fun sorted member => insertMember member.1 member.2 sorted)
        sorted)).InOrder from
    this [] inOrder_empty
  induction members with
  | nil => exact fun _ whole => whole
  | cons head rest ih =>
    obtain ⟨ordered, innerRest⟩ := List.forall_mem_cons.1 inner
    exact fun sorted whole => ih innerRest _ (inOrder_insert whole head.1 ordered)

theorem inOrder_of_lookup (whole : (table members).InOrder)
    (found : members.lookup key = some value) :
    value.InOrder :=
  have ⟨increasing, inner⟩ := inOrder_table_iff.1 whole
  inner (key, value) ((lookup_eq_some_iff_mem increasing).1 found)

/-! ### Laying one over another -/

theorem table_overlay_table :
    (table members).overlay (table others) = table (overlay.overlayMembers members others) :=
  rfl

theorem overlay_of_noTable (noTable : ∀ members, upper ≠ .table members) :
    lower.overlay upper = upper := by
  cases upper with
  | table members => exact absurd rfl (noTable members)
  | _ => rfl

theorem overlay_table_of_noTable (noTable : ∀ members, lower ≠ .table members) :
    lower.overlay (table others) = table others := by
  cases lower with
  | table members => exact absurd rfl (noTable members)
  | _ => rfl

theorem overlay_eq_or (lower upper : Value) : lower.overlay upper = upper ∨
    (∃ joined, lower.overlay upper = table joined) ∧ ∃ members, upper = table members := by
  cases upper with
  | table others =>
    cases lower with
    | table members => exact .inr ⟨⟨_, rfl⟩, _, rfl⟩
    | _ => exact .inl rfl
  | _ => exact .inl rfl

def laidOver (below : Option Value) (value : Value) : Value := below.elim value (·.overlay value)

theorem overlayMembers_cons (members : List (String × Value)) (key : String) (value : Value)
    (rest : List (String × Value)) : overlay.overlayMembers members ((key, value) :: rest) =
      overlay.overlayMembers (insertMember key (laidOver (members.lookup key) value) members)
        rest := by
  rw [overlay.overlayMembers]
  cases members.lookup key <;> rfl

theorem lookup_overlayMembers (increasing : KeysIncrease others) (members : List (String × Value))
    (key : String) :
    (overlay.overlayMembers members others).lookup key =
      ((others.lookup key).map (laidOver (members.lookup key))).or (members.lookup key) := by
  induction others generalizing members with
  | nil => rfl
  | cons head rest ih =>
    obtain ⟨k, value⟩ := head
    obtain ⟨below, later⟩ := List.pairwise_cons.1 increasing
    rw [overlayMembers_cons, ih later, lookup_insertMember, lookup_member]
    by_cases same : key = k
    · subst same
      rw [if_pos rfl, if_pos rfl, lookup_eq_none_of_below below]
      rfl
    · rw [if_neg same, if_neg same]

theorem inOrder_laidOver {below : Option Value} (lowers : ∀ lower ∈ below, lower.InOrder)
    (ordered : value.InOrder)
    (joins : ∀ {lower : Value}, lower.InOrder → (lower.overlay value).InOrder) :
    (laidOver below value).InOrder := by
  cases below with
  | none => exact ordered
  | some lower => exact joins (lowers lower rfl)

theorem inOrder_overlayMembers (whole : (table members).InOrder)
    (inner : ∀ entry ∈ others, entry.2.InOrder)
    (joins : ∀ entry ∈ others, ∀ {lower : Value}, lower.InOrder → (lower.overlay entry.2).InOrder) :
    (table (overlay.overlayMembers members others)).InOrder := by
  induction others generalizing members with
  | nil => exact whole
  | cons head rest ih =>
    obtain ⟨k, value⟩ := head
    obtain ⟨ordered, innerRest⟩ := List.forall_mem_cons.1 inner
    obtain ⟨join, joinsRest⟩ := List.forall_mem_cons.1 joins
    have joined : (laidOver (members.lookup k) value).InOrder :=
      inOrder_laidOver (fun _ found => inOrder_of_lookup whole found) ordered join
    rw [overlayMembers_cons]
    exact ih (inOrder_insert whole k joined) innerRest joinsRest

theorem InOrder.overlay (above : upper.InOrder) (below : lower.InOrder) :
    (lower.overlay upper).InOrder := by
  -- The recursion of the overlay goes through the tables of the upper value.
  induction above generalizing lower with
  | other noTable =>
    rw [overlay_of_noTable noTable]
    exact .other noTable
  | table increasing inner ih =>
    cases below with
    | other noTable =>
      rw [overlay_table_of_noTable noTable]
      exact .table increasing inner
    | table increasing' inner' =>
      rw [table_overlay_table]
      exact inOrder_overlayMembers (.table increasing' inner') inner fun entry member _ =>
        ih entry member

structure IsLayer (value : Value) : Prop where
  isTable : ∃ members, value = table members
  ordered : value.InOrder

theorem isLayer_table (ordered : (table members).InOrder) : (table members).IsLayer :=
  ⟨⟨members, rfl⟩, ordered⟩

theorem IsLayer.inOrder_of_member? (layer : value.IsLayer) {entry : Value}
    (found : value.member? key = some entry) :
    entry.InOrder := by
  obtain ⟨members, rfl⟩ := layer.isTable
  exact inOrder_of_lookup layer.ordered found

theorem IsLayer.overlay (below : lower.IsLayer) (above : upper.IsLayer) :
    (lower.overlay upper).IsLayer := by
  obtain ⟨members, rfl⟩ := below.isTable
  obtain ⟨others, rfl⟩ := above.isTable
  exact ⟨⟨_, table_overlay_table⟩, above.ordered.overlay below.ordered⟩

theorem member?_overlay (below : lower.IsLayer) (above : upper.IsLayer) (key : String) :
    (lower.overlay upper).member? key =
      ((upper.member? key).map (laidOver (lower.member? key))).or (lower.member? key) := by
  obtain ⟨members, rfl⟩ := below.isTable
  obtain ⟨others, rfl⟩ := above.isTable
  exact lookup_overlayMembers (inOrder_table_iff.1 above.ordered).1 members key

end CephExport.Settings.Value
