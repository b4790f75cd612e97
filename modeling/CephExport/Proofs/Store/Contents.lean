import CephExport.Proofs.Pass.Discipline
import Mathlib.Data.Set.Insert

/-!
What an API server keeps of the managed kinds, and how it changes. Every write gives the object a
version that was never given out at its place before, so an object is told by its place and version
for all time. Which calls a server accepts is fixed here; whether a call reaches it, and whether its
answer comes back, is left to the backends that are built on it.
-/

set_option autoImplicit false
set_option relaxedAutoImplicit false

namespace CephExport

structure Identity where
  uid : Option String := none
  creationTimestamp : Option MetaTime := none
  generation : Option Int64 := none

namespace Managed

variable {kind : Kind}

def atVersion (object : Managed kind) (version : String) : Managed kind :=
  { object with metadata := { object.metadata with resourceVersion := some version } }

def identified (object : Managed kind) (identity : Identity) : Managed kind :=
  { object with
    metadata := { object.metadata with
      uid := identity.uid
      creationTimestamp := identity.creationTimestamp
      generation := identity.generation } }

def marked (object : Managed kind) (time : MetaTime) : Managed kind :=
  { object with metadata := { object.metadata with deletionTimestamp := some time } }

end Managed

/-- The objects that are kept, and the versions that were ever given out at each place. -/
structure Contents where
  object : (place : Place) → Option (Managed place.kind)
  issued : Place → Set String
  /-- Every object has a version, which was given out at its place. -/
  versioned : ∀ place live, object place = some live →
    ∃ version ∈ issued place, live.metadata.resourceVersion = some version

namespace Contents

def empty : Contents where
  object _ := none
  issued _ := ∅
  versioned _ _ h := by cases h

def store (contents : Contents) (place : Place) (object : Managed place.kind) (version : String) :
    Contents where
  object := Function.update contents.object place (some (object.atVersion version))
  issued := Function.update contents.issued place (insert version (contents.issued place))
  versioned := by
    intro other live h
    by_cases same : other = place
    · subst same
      rw [Function.update_self, Option.some.injEq] at h
      subst h
      exact ⟨version, by simp, rfl⟩
    · rw [Function.update_of_ne same] at h
      rw [Function.update_of_ne same]
      exact contents.versioned other live h

def remove (contents : Contents) (place : Place) : Contents where
  object := Function.update contents.object place none
  issued := contents.issued
  versioned := by
    intro other live h
    by_cases same : other = place
    · subst same
      simp at h
    · rw [Function.update_of_ne same] at h
      exact contents.versioned other live h

section

variable (contents : Contents) {place other : Place} (object : Managed place.kind)
  (version : String)

@[simp] theorem store_object_self :
    (contents.store place object version).object place = some (object.atVersion version) := by
  simp only [store, Function.update_self]

theorem store_object_of_ne (h : other ≠ place) :
    (contents.store place object version).object other = contents.object other := by
  simp only [store, Function.update_of_ne h]

@[simp] theorem store_issued_self :
    (contents.store place object version).issued place =
      insert version (contents.issued place) := by
  simp only [store, Function.update_self]

theorem store_issued_of_ne (h : other ≠ place) :
    (contents.store place object version).issued other = contents.issued other := by
  simp only [store, Function.update_of_ne h]

@[simp] theorem remove_object_self : (contents.remove place).object place = none := by
  simp only [remove, Function.update_self]

theorem remove_object_of_ne (h : other ≠ place) :
    (contents.remove place).object other = contents.object other := by
  simp only [remove, Function.update_of_ne h]

@[simp] theorem remove_issued : (contents.remove place).issued other = contents.issued other := rfl

end

/-- A call that a server accepts, with its reply and what is kept afterwards. Creating needs a free
place, and replacing the version that is kept; a deletion removes the object or only marks it, and
leaves alone one that is marked already. -/
inductive Accepts (before : Contents) : (call : Call) → call.Reply → Contents → Prop
  | get (kind : Kind) (key : ObjectKey) :
      Accepts before (.get kind key) (before.object ⟨kind, key⟩) before
  | create {kind : Kind} {«namespace» : String} {object : Managed kind} {version : String}
      (identity : Identity)
      (free : before.object ⟨kind, «namespace», object.metadata.displayName⟩ = none)
      (fresh : version ∉ before.issued ⟨kind, «namespace», object.metadata.displayName⟩) :
      Accepts before (.create kind «namespace» object)
        ((object.identified identity).atVersion version)
        (before.store ⟨kind, «namespace», object.metadata.displayName⟩
          (object.identified identity) version)
  | replace {kind : Kind} {key : ObjectKey} {object live : Managed kind} {version : String}
      (kept : before.object ⟨kind, key⟩ = some live)
      (same : live.metadata.resourceVersion = object.metadata.resourceVersion)
      (fresh : version ∉ before.issued ⟨kind, key⟩) :
      Accepts before (.replace kind key object) (object.atVersion version)
        (before.store ⟨kind, key⟩ object version)
  | remove {kind : Kind} {key : ObjectKey} {live : Managed kind}
      (kept : before.object ⟨kind, key⟩ = some live) :
      Accepts before (.delete kind key) () (before.remove ⟨kind, key⟩)
  | mark {kind : Kind} {key : ObjectKey} {live : Managed kind} {version : String} (time : MetaTime)
      (kept : before.object ⟨kind, key⟩ = some live) (fresh : version ∉ before.issued ⟨kind, key⟩) :
      Accepts before (.delete kind key) () (before.store ⟨kind, key⟩ (live.marked time) version)
  | alreadyMarked {kind : Kind} {key : ObjectKey} {live : Managed kind}
      (kept : before.object ⟨kind, key⟩ = some live) (marked : live.metadata.isDeleting = true) :
      Accepts before (.delete kind key) () before

/-- What another client can do to an object: write it in any form, its deletion mark included, or
make it go away. -/
inductive Change (before : Contents) : Contents → Prop
  | write (place : Place) (object : Managed place.kind) {version : String}
      (fresh : version ∉ before.issued place) : Change before (before.store place object version)
  | remove (place : Place) : Change before (before.remove place)

inductive Release (before : Contents) : Contents → Prop
  | release {place : Place} {live : Managed place.kind} (kept : before.object place = some live)
      (marked : live.metadata.isDeleting = true) : Release before (before.remove place)

/-- What was kept before and is kept later: versions stay given out, and an object whose version was
given out before was kept then. -/
structure Precedes (before after : Contents) : Prop where
  issued : ∀ place, before.issued place ⊆ after.issued place
  kept : ∀ place live version, after.object place = some live →
    live.metadata.resourceVersion = some version → version ∈ before.issued place →
      before.object place = some live

variable {before after : Contents}

theorem Precedes.refl (contents : Contents) : contents.Precedes contents :=
  ⟨fun _ => subset_rfl, fun _ _ _ h _ _ => h⟩

theorem precedes_store {place : Place} (object : Managed place.kind) {version : String}
    (fresh : version ∉ before.issued place) :
    before.Precedes (before.store place object version) where
  issued other := by
    by_cases same : other = place
    · subst same
      rw [store_issued_self]
      exact Set.subset_insert version _
    · rw [store_issued_of_ne _ _ _ same]
  kept other live old h versionOf given := by
    by_cases same : other = place
    · subst same
      rw [store_object_self, Option.some.injEq] at h
      subst h
      obtain rfl : version = old := Option.some.inj versionOf
      exact absurd given fresh
    · rwa [store_object_of_ne _ _ _ same] at h

theorem precedes_remove (place : Place) : before.Precedes (before.remove place) where
  issued other := by rw [remove_issued]
  kept other live _ h _ _ := by
    by_cases same : other = place
    · subst same
      rw [remove_object_self] at h
      cases h
    · rwa [remove_object_of_ne _ same] at h

theorem Accepts.precedes {call : Call} {reply : call.Reply} (h : before.Accepts call reply after) :
    before.Precedes after := by
  cases h with
  | get | alreadyMarked => exact .refl before
  | create _ _ fresh => exact precedes_store _ fresh
  | replace _ _ fresh => exact precedes_store _ fresh
  | remove _ => exact precedes_remove _
  | mark _ _ fresh => exact precedes_store _ fresh

theorem Accepts.object_of_ne {call : Call} {reply : call.Reply} {place : Place}
    (h : before.Accepts call reply after) (elsewhere : call.place? ≠ some place) :
    after.object place = before.object place := by
  cases h with
  | get | alreadyMarked => rfl
  | create | replace | mark =>
    exact store_object_of_ne _ _ _ fun same => elsewhere (congrArg some same.symm)
  | remove => exact remove_object_of_ne _ fun same => elsewhere (congrArg some same.symm)

theorem Change.precedes (h : before.Change after) : before.Precedes after := by
  cases h with
  | write _ object fresh => exact precedes_store object fresh
  | remove place => exact precedes_remove place

def Tracks (contents : Contents) (place : Place) (live : Managed place.kind) : Prop :=
  ∀ version, live.metadata.resourceVersion = some version → version ∈ contents.issued place ∧
    ∀ current, contents.object place = some current →
      current.metadata.resourceVersion = some version → current = live

theorem tracks_of_kept {contents : Contents} {place : Place} {live : Managed place.kind}
    (h : contents.object place = some live) : contents.Tracks place live := by
  intro version versionOf
  obtain ⟨given, member, same⟩ := contents.versioned place live h
  obtain rfl : given = version := Option.some.inj (same.symm.trans versionOf)
  refine ⟨member, fun current kept _ => ?_⟩
  exact Option.some.inj (kept.symm.trans h)

theorem Precedes.tracks (h : before.Precedes after) {place : Place} {live : Managed place.kind}
    (tracked : before.Tracks place live) : after.Tracks place live := by
  intro version versionOf
  obtain ⟨given, only⟩ := tracked version versionOf
  refine ⟨h.issued place given, fun current kept same => ?_⟩
  exact only current (h.kept place current version kept same given) same

end Contents

abbrev Backend (σ : Type) := σ → (call : Call) → call.Answer → σ → Prop

/-- Any call may fail, whether or not it took effect. -/
inductive Unreliable {σ : Type} (accepts : σ → (call : Call) → call.Reply → σ → Prop) : Backend σ
  | accepted {before after : σ} {call : Call} {reply : call.Reply}
      (h : accepts before call reply after) :
      Unreliable accepts before call (.ok reply) after
  | failed {before : σ} {call : Call} (error : OperatorError) :
      Unreliable accepts before call (.error error) before
  | lost {before after : σ} {call : Call} {reply : call.Reply} (error : OperatorError)
      (h : accepts before call reply after) : Unreliable accepts before call (.error error) after

theorem Unreliable.effect {σ : Type} {accepts : σ → (call : Call) → call.Reply → σ → Prop}
    {before after : σ}
    {call : Call} {answer : call.Answer} (served : Unreliable accepts before call answer after) :
    after = before ∨ ∃ reply, accepts before call reply after := by
  cases served with
  | accepted taken => exact .inr ⟨_, taken⟩
  | failed => exact .inl rfl
  | lost _ taken => exact .inr ⟨_, taken⟩

section

variable {before after : Contents} {call : Call} {answer : call.Answer}
  (served : Unreliable Contents.Accepts before call answer after)
include served

theorem Unreliable.precedes : before.Precedes after := by
  rcases served.effect with rfl | ⟨reply, taken⟩
  · exact .refl after
  · exact taken.precedes

theorem Unreliable.object_of_ne {place : Place} (elsewhere : call.place? ≠ some place) :
    after.object place = before.object place := by
  rcases served.effect with rfl | ⟨reply, taken⟩
  · rfl
  · exact taken.object_of_ne elsewhere

end

end CephExport
