import CephExport.Proofs.Resource.Canonical

/-!
Merging and drift: an object that was brought in line with a wanted one does not differ from it, is
not changed by being brought in line again, and loses on the way only what the operator owns.
-/

set_option autoImplicit false
set_option relaxedAutoImplicit false

namespace CephExport

namespace KeyMap

variable {α : Type}

private theorem get?_foldl_insert {entries : List (String × α)} (increasing : KeysIncrease entries)
    (base : KeyMap α) (key : String) :
    (entries.foldl (fun map member => map.insert member.1 member.2) base).get? key =
      (entries.lookup key).or (base.get? key) := by
  induction entries generalizing base with
  | nil => rfl
  | cons head rest ih =>
    obtain ⟨k, v⟩ := head
    obtain ⟨below, later⟩ := List.pairwise_cons.1 increasing
    rw [List.foldl_cons, ih later, get?_insert, lookup_member]
    by_cases same : key = k
    · subst same
      rw [if_pos rfl, if_pos rfl, lookup_eq_none_of_below below]
      rfl
    · rw [if_neg same, if_neg same]

@[simp] theorem get?_extend (base extra : KeyMap α) (key : String) :
    (base.extend extra).get? key = (extra.get? key).or (base.get? key) :=
  get?_foldl_insert extra.increasing base key

theorem mem_entries_iff {map : KeyMap α} {entry : String × α} :
    entry ∈ map.entries ↔ map.get? entry.1 = some entry.2 :=
      (lookup_eq_some_iff_mem map.increasing).symm

theorem get?_of_mem {map : KeyMap α} {key : String} {value : α} (h : (key, value) ∈ map.entries) :
    map.get? key = some value :=
  mem_entries_iff.1 h

theorem mem_of_get? {map : KeyMap α} {key : String} {value : α} (h : map.get? key = some value) :
    (key, value) ∈ map.entries :=
  mem_entries_iff.2 h

theorem nodup_entries (map : KeyMap α) : map.entries.Nodup := by
  refine List.Pairwise.imp ?_ map.increasing
  rintro entry _ below rfl
  exact String.lt_irrefl entry.1 below

theorem eq_of_get?_eq {map other : KeyMap α} (same : ∀ key, map.get? key = other.get? key) :
    map = other := by
  have listed : map.entries.Perm other.entries := by
    refine (List.perm_ext_iff_of_nodup map.nodup_entries other.nodup_entries).2 fun entry => ?_
    rw [mem_entries_iff, mem_entries_iff, same]
  have entries : map.entries = other.entries := by
    refine listed.eq_of_pairwise ?_ map.increasing other.increasing
    intro entry _ _ _ below above
    exact absurd (String.lt_trans below above) (String.lt_irrefl entry.1)
  cases map
  cases other
  simpa using entries

@[simp] theorem extend_extend (base extra : KeyMap α) :
    (base.extend extra).extend extra = base.extend extra := by
  apply eq_of_get?_eq
  intro key
  simp only [get?_extend]
  cases extra.get? key <;> rfl

theorem mem_of_mem_ofList {members : List (String × α)} {entry : String × α}
    (h : entry ∈ (ofList members).entries) : entry ∈ members := by
  suffices ∀ sorted : List (String × α),
      entry ∈ members.foldl (fun sorted member => insertMember member.1 member.2 sorted) sorted →
        entry ∈ members ∨ entry ∈ sorted from
    (this [] h).resolve_right List.not_mem_nil
  clear h
  induction members with
  | nil => exact fun _ h => .inr h
  | cons head rest ih =>
    intro sorted h
    rcases ih _ h with later | inserted
    · exact .inl (List.mem_cons_of_mem _ later)
    · rcases mem_insertMember inserted with rfl | before
      · exact .inl List.mem_cons_self
      · exact .inr before

theorem get?_ofList_of_unlisted {members : List (String × α)} {key : String}
    (unlisted : ∀ member ∈ members, key ≠ member.1) : (ofList members).get? key = none := by
  suffices ∀ sorted : List (String × α), sorted.lookup key = none →
      (members.foldl (fun sorted member => insertMember member.1 member.2 sorted)
        sorted).lookup key = none from
    this [] rfl
  induction members with
  | nil => exact fun _ h => h
  | cons head rest ih =>
    intro sorted missing
    rw [List.foldl_cons]
    apply ih fun member later => unlisted member (List.mem_cons_of_mem _ later)
    rw [lookup_insertMember, if_neg (unlisted head List.mem_cons_self), missing]

end KeyMap

theorem labelsDrifted_extend (live desired : KeyMap String) :
    labelsDrifted (live.extend desired) desired = false := by
  rw [labelsDrifted, KeyMap.any, List.any_eq_false]
  intro entry member
  have wanted : desired.get? entry.1 = some entry.2 := KeyMap.get?_of_mem member
  simp [wanted]

theorem labelsDrifted_self (labels : KeyMap String) : labelsDrifted labels labels = false := by
  rw [labelsDrifted, KeyMap.any, List.any_eq_false]
  intro entry member
  have wanted : labels.get? entry.1 = some entry.2 := KeyMap.get?_of_mem member
  simp [wanted]

namespace ServiceBody

theorem canonical_merge (live desired : ServiceBody) :
    (live.merge desired).canonical = desired.canonical := by
  obtain ⟨liveSpec, _⟩ := live
  obtain ⟨desiredSpec, _⟩ := desired
  cases liveSpec <;> cases desiredSpec <;> rfl

theorem merge_merge (live desired : ServiceBody) :
    (live.merge desired).merge desired = live.merge desired := by
  obtain ⟨liveSpec, _⟩ := live
  obtain ⟨desiredSpec, _⟩ := desired
  cases liveSpec <;> cases desiredSpec <;> rfl

end ServiceBody

namespace Managed

variable {kind : Kind}

theorem drifted_congr {live other : Managed kind} (desired : Managed kind)
    (owners : live.metadata.ownerReferences = other.metadata.ownerReferences)
    (labels : live.metadata.labels = other.metadata.labels) (body : live.body = other.body) :
    live.drifted desired = other.drifted desired := by
  obtain ⟨liveMeta, liveBody⟩ := live
  obtain ⟨otherMeta, otherBody⟩ := other
  subst body
  have identity : identityDrifted ⟨liveMeta, liveBody⟩ desired =
      identityDrifted ⟨otherMeta, liveBody⟩ desired := by
    simp only at owners labels
    simp only [identityDrifted, ObjectMeta.owners, ObjectMeta.labelMap, owners, labels]
  rw [drifted, drifted, identity]
  cases kind <;> rfl

theorem not_drifted_self (desired : Managed kind) : desired.drifted desired = false := by
  have identity : identityDrifted desired desired = false := by
    simp [identityDrifted, labelsDrifted_self]
  rw [drifted, identity, Bool.false_or]
  cases kind with
  | blockPool => exact blockPool_bodyDrifted_eq_false_iff.2 rfl
  | exporter => exact exporter_bodyDrifted_eq_false_iff.2 rfl
  | service => exact bodyDrifted_eq_false_iff.2 rfl

theorem metadata_merge (live desired : Managed kind) :
    (live.merge desired).metadata = { live.metadata with
      ownerReferences := desired.metadata.ownerReferences
      labels := some (live.metadata.labelMap.extend desired.metadata.labelMap) } := by
  cases kind <;> rfl

@[simp] theorem isDeleting_merge (live desired : Managed kind) :
    (live.merge desired).metadata.isDeleting = live.metadata.isDeleting := by
  rw [metadata_merge]
  rfl

theorem owners_merge (live desired : Managed kind) :
    (live.merge desired).metadata.owners = desired.metadata.owners := by
  rw [metadata_merge]
  rfl

theorem labelMap_merge (live desired : Managed kind) :
    (live.merge desired).metadata.labelMap =
      live.metadata.labelMap.extend desired.metadata.labelMap := by
  rw [metadata_merge]
  rfl

theorem not_labelsDrifted_merge (live desired : Managed kind) :
    labelsDrifted (live.merge desired).metadata.labelMap desired.metadata.labelMap = false := by
  rw [labelMap_merge, labelsDrifted_extend]

theorem not_bodyDrifted_merge (live desired : Managed kind) :
    (live.merge desired).bodyDrifted desired = false := by
  cases kind with
  | blockPool => exact blockPool_bodyDrifted_eq_false_iff.2 rfl
  | exporter => exact exporter_bodyDrifted_eq_false_iff.2 rfl
  | service => exact bodyDrifted_eq_false_iff.2 (ServiceBody.canonical_merge live.body desired.body)

theorem not_drifted_merge (live desired : Managed kind) :
    (live.merge desired).drifted desired = false := by
  rw [drifted, identityDrifted, owners_merge, not_labelsDrifted_merge, not_bodyDrifted_merge]
  simp

theorem body_merge_merge (live desired : Managed kind) :
    ((live.merge desired).merge desired).body = (live.merge desired).body := by
  cases kind with
  | blockPool | exporter => rfl
  | service => exact ServiceBody.merge_merge live.body desired.body

theorem merge_merge (live desired : Managed kind) :
    (live.merge desired).merge desired = live.merge desired := by
  have metadata : ((live.merge desired).merge desired).metadata =
      (live.merge desired).metadata := by
    rw [metadata_merge (live.merge desired), labelMap_merge, KeyMap.extend_extend,
      metadata_merge live]
  have body := body_merge_merge live desired
  cases again : (live.merge desired).merge desired
  cases once : live.merge desired
  rw [again, once] at metadata body
  simp only at metadata body
  rw [metadata, body]

theorem owners_eq_of_not_drifted {live desired : Managed kind} (h : live.drifted desired = false) :
    live.metadata.owners = desired.metadata.owners := by
  simp only [drifted, identityDrifted, Bool.or_eq_false_iff, bne_eq_false_iff_eq] at h
  exact h.1.1

end Managed

def IsOperatorLabel (key : String) : Prop :=
  key = managedByLabel ∨ key = partOfLabel ∨ key = componentLabel

theorem get?_managedLabels {key : String} (h : ¬IsOperatorLabel key) (parent component : String) :
    (managedLabels parent component).get? key = none := by
  simp only [IsOperatorLabel, not_or] at h
  apply KeyMap.get?_ofList_of_unlisted
  simpa using h

/-- A Service has kept all that others set on it: its status, and of its declaration, if it had one,
all but ports, selector and affinity. -/
structure ServiceBody.KeepsForeign (old new : ServiceBody) : Prop where
  status : new.status = old.status
  spec : ∀ spec, old.spec = some spec → ∃ ports selector affinity,
    new.spec = some { spec with ports := ports, selector := selector, sessionAffinity := affinity }

namespace Managed

def KeepsForeignBody : (kind : Kind) → kind.Body → kind.Body → Prop
  | .blockPool, _, _ => True
  | .exporter, _, _ => True
  | .service, old, new => ServiceBody.KeepsForeign old new

/-- An object has kept all that others set on it: its metadata differs at most in the owners, the
values of the operator's labels and the version, and its body in what the operator owns of its kind.
-/
structure KeepsForeign {kind : Kind} (old new : Managed kind) : Prop where
  metadata : new.metadata = { old.metadata with
    ownerReferences := new.metadata.ownerReferences
    labels := new.metadata.labels
    resourceVersion := new.metadata.resourceVersion }
  labels : ∀ key, ¬IsOperatorLabel key →
    new.metadata.labelMap.get? key = old.metadata.labelMap.get? key
  body : KeepsForeignBody kind old.body new.body

theorem keepsForeignBody_merge {kind : Kind} (live desired : Managed kind) :
    KeepsForeignBody kind live.body (live.merge desired).body := by
  cases kind with
  | blockPool => trivial
  | exporter => trivial
  | service =>
    obtain ⟨_, ⟨spec, status⟩⟩ := live
    refine ⟨?_, ?_⟩
    · cases spec <;> rfl
    · rintro given ⟨⟩
      exact ⟨_, _, _, rfl⟩

/-- Bringing an object in line keeps all that others set on it. -/
theorem keepsForeign_merge {kind : Kind} (live desired : Managed kind)
    (wanted : ∀ key, ¬IsOperatorLabel key → desired.metadata.labelMap.get? key = none) :
    live.KeepsForeign (live.merge desired) where
  metadata := by rw [metadata_merge]
  labels key foreign := by
    rw [labelMap_merge, KeyMap.get?_extend, wanted key foreign, Option.none_or]
  body := keepsForeignBody_merge live desired

/-- Bringing any live object in line with any wanted one of its kind leaves no drift, neither in the
owners nor in the labels nor in the body; doing so again changes nothing; and of the labels those
that are wanted are set while all others stay as they were. -/
theorem merge_cures_drift {kind : Kind} (live desired : Managed kind) :
    (live.merge desired).metadata.owners = desired.metadata.owners ∧
      labelsDrifted (live.merge desired).metadata.labelMap desired.metadata.labelMap = false ∧
      (live.merge desired).bodyDrifted desired = false ∧
      (live.merge desired).drifted desired = false ∧
      (live.merge desired).merge desired = live.merge desired ∧
      ∀ key, (live.merge desired).metadata.labelMap.get? key =
        (desired.metadata.labelMap.get? key).or (live.metadata.labelMap.get? key) := by
  refine ⟨owners_merge live desired, not_labelsDrifted_merge live desired,
    not_bodyDrifted_merge live desired, not_drifted_merge live desired,
    merge_merge live desired, ?_⟩
  intro key
  rw [labelMap_merge, KeyMap.get?_extend]

end Managed

end CephExport
