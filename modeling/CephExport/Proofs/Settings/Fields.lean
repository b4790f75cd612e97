import CephExport.Proofs.Settings.Readers
import Mathlib.Tactic.Choose

/-!
The fields of the controller settings, the values that they admit, and what a section with members
for some of them sets: exactly these fields, each to its value, and no other.
-/

set_option autoImplicit false
set_option relaxedAutoImplicit false

namespace CephExport.Settings

/-! ### Values for fields -/

namespace Value

/-- An integer that is not negative is one value, whichever kind it was read as. -/
def normal : Value → Value
  | .signed value => if 0 ≤ value then .unsigned value.toNat else .signed value
  | value => value

variable {value : Value} {path : List String}

theorem int?_eq_some_iff {number : Nat} :
    value.int? = some (number : Int) ↔ value.normal = .unsigned number := by
  cases value with
  | signed integer =>
    simp only [int?, normal, Option.some.injEq]
    split
    · rw [Value.unsigned.injEq]
      omega
    · simp only [reduceCtorEq, iff_false]
      omega
  | unsigned natural =>
    simp only [int?, normal, Option.some.injEq, Value.unsigned.injEq]
    omega
  | _ => simp [int?, normal]

theorem normal_eq_text_iff {text : String} : value.normal = .text text ↔ value = .text text := by
  cases value with
  | signed integer =>
    rw [normal]
    split <;> simp
  | _ => rfl

theorem below?_eq_ok_iff {limit number : Nat} {expected : Expectation} :
    value.below? limit expected path = .ok number ↔
      value.normal = .unsigned number ∧ number < limit := by
  rw [← int?_eq_some_iff, below?]
  cases value.int? with
  | none => simp
  | some integer =>
    simp only [Option.some.injEq]
    split
    · rw [Except.ok.injEq]
      omega
    · simp only [reduceCtorEq, false_iff]
      omega

theorem word64?_eq_ok_iff {word : UInt64} :
    value.word64? path = .ok word ↔ value.normal = .unsigned word.toNat := by
  refine ⟨fun done => ?_, fun same => ?_⟩
  · obtain ⟨number, read, rfl⟩ := exists_of_map_eq_ok done
    obtain ⟨same, within⟩ := below?_eq_ok_iff.1 read
    rw [same, UInt64.toNat_ofNat_of_lt' within]
  · have read : value.below? 0x10000000000000000 .word64 path = .ok word.toNat :=
      below?_eq_ok_iff.2 ⟨same, word.toNat_lt⟩
    rw [word64?, read]
    exact congrArg Except.ok UInt64.ofNat_toNat

theorem word32?_eq_ok_iff {word : UInt32} :
    value.word32? path = .ok word ↔ value.normal = .unsigned word.toNat := by
  refine ⟨fun done => ?_, fun same => ?_⟩
  · obtain ⟨number, read, rfl⟩ := exists_of_map_eq_ok done
    obtain ⟨same, within⟩ := below?_eq_ok_iff.1 read
    rw [same, UInt32.toNat_ofNat_of_lt' within]
  · have read : value.below? 0x100000000 .word32 path = .ok word.toNat :=
      below?_eq_ok_iff.2 ⟨same, word.toNat_lt⟩
    rw [word32?, read]
    exact congrArg Except.ok UInt32.ofNat_toNat

theorem text?_eq_ok_iff {text : String} :
    value.text? path = .ok text ↔ value.normal = .text text := by
  rw [normal_eq_text_iff]
  cases value <;> simp [text?]

theorem word64_iff (value : Value) : (∃ number : Nat, number < 0x10000000000000000 ∧
    value.int? = some (number : Int)) ↔ ∃ word : UInt64, .unsigned word.toNat = value.normal := by
  simp only [int?_eq_some_iff]
  refine ⟨fun ⟨number, within, same⟩ => ⟨.ofNat number, ?_⟩, fun ⟨word, same⟩ =>
    ⟨_, word.toNat_lt, same.symm⟩⟩
  rw [same, UInt64.toNat_ofNat_of_lt' within]

theorem word32_iff (value : Value) : (∃ number : Nat, number < 0x100000000 ∧
    value.int? = some (number : Int)) ↔ ∃ word : UInt32, .unsigned word.toNat = value.normal := by
  simp only [int?_eq_some_iff]
  refine ⟨fun ⟨number, within, same⟩ => ⟨.ofNat number, ?_⟩, fun ⟨word, same⟩ =>
    ⟨_, word.toNat_lt, same.symm⟩⟩
  rw [same, UInt32.toNat_ofNat_of_lt' within]

theorem text_iff (value : Value) :
    (∃ text, value = .text text) ↔ ∃ text, .text text = value.normal := by
  simp only [eq_comm, normal_eq_text_iff]

end Value

inductive Field
  | requeueInterval
  | errorRequeue
  | deletionPoll
  | pendingDeletionRequeue
  | priorityClassName
  | storageNodeLabel
  | storageNodeTaint
  | defaultFailureDomain
  | defaultReplicaSize
  deriving DecidableEq

namespace Field

def key : Field → String
  | requeueInterval => "requeue_interval_secs"
  | errorRequeue => "error_requeue_secs"
  | deletionPoll => "deletion_poll_secs"
  | pendingDeletionRequeue => "pending_deletion_requeue_secs"
  | priorityClassName => "priority_class_name"
  | storageNodeLabel => "storage_node_label"
  | storageNodeTaint => "storage_node_taint"
  | defaultFailureDomain => "default_failure_domain"
  | defaultReplicaSize => "default_replica_size"

theorem key_injective : Function.Injective key := by
  intro field other same
  cases field <;> cases other <;> first | rfl | exact absurd same (by decide)

/-- What a field is set to, as the value that a layer would have for it. -/
def valueIn (settings : ControllerSettings) : Field → Value
  | requeueInterval => .unsigned settings.requeueIntervalSecs.toNat
  | errorRequeue => .unsigned settings.errorRequeueSecs.toNat
  | deletionPoll => .unsigned settings.deletionPollSecs.toNat
  | pendingDeletionRequeue => .unsigned settings.pendingDeletionRequeueSecs.toNat
  | priorityClassName => .text settings.priorityClassName
  | storageNodeLabel => .text settings.storageNodeLabel
  | storageNodeTaint => .text settings.storageNodeTaint
  | defaultFailureDomain => .text settings.defaultFailureDomain
  | defaultReplicaSize => .unsigned settings.defaultReplicaSize.toNat

/-- The values that have the type and the range of a field. -/
def Admits : Field → Value → Prop
  | priorityClassName, value | storageNodeLabel, value | storageNodeTaint,
      value | defaultFailureDomain, value =>
    ∃ text, value = .text text
  | defaultReplicaSize, value =>
    ∃ number : Nat, number < 0x100000000 ∧ value.int? = some (number : Int)
  | _, value => ∃ number : Nat, number < 0x10000000000000000 ∧ value.int? = some (number : Int)

variable {field : Field} {value : Value}

theorem valueIn_noTable (settings : ControllerSettings) (field : Field)
    (members : List (String × Value)) :
    field.valueIn settings ≠ .table members := by
  cases field <;> nofun

theorem ext_of_valueIn {settings other : ControllerSettings}
    (same : ∀ field : Field, field.valueIn settings = field.valueIn other) : settings = other := by
  cases settings
  cases other
  rw [ControllerSettings.mk.injEq]
  exact ⟨UInt64.toNat_inj.1 (Value.unsigned.inj (same requeueInterval)),
    UInt64.toNat_inj.1 (Value.unsigned.inj (same errorRequeue)),
    UInt64.toNat_inj.1 (Value.unsigned.inj (same deletionPoll)),
    UInt64.toNat_inj.1 (Value.unsigned.inj (same pendingDeletionRequeue)),
    Value.text.inj (same priorityClassName), Value.text.inj (same storageNodeLabel),
    Value.text.inj (same storageNodeTaint), Value.text.inj (same defaultFailureDomain),
    UInt32.toNat_inj.1 (Value.unsigned.inj (same defaultReplicaSize))⟩

theorem exists_settings {wanted : Field → Value}
    (each : ∀ field, ∃ settings, field.valueIn settings = wanted field) :
    ∃ settings, ∀ field, field.valueIn settings = wanted field := by
  choose pick same using each
  exact ⟨{ requeueIntervalSecs := (pick requeueInterval).requeueIntervalSecs
           errorRequeueSecs := (pick errorRequeue).errorRequeueSecs
           deletionPollSecs := (pick deletionPoll).deletionPollSecs
           pendingDeletionRequeueSecs := (pick pendingDeletionRequeue).pendingDeletionRequeueSecs
           priorityClassName := (pick priorityClassName).priorityClassName
           storageNodeLabel := (pick storageNodeLabel).storageNodeLabel
           storageNodeTaint := (pick storageNodeTaint).storageNodeTaint
           defaultFailureDomain := (pick defaultFailureDomain).defaultFailureDomain
           defaultReplicaSize := (pick defaultReplicaSize).defaultReplicaSize },
    fun field => by
      have chosen := same field
      cases field <;> exact chosen⟩

theorem admits_iff : field.Admits value ↔ ∃ settings, field.valueIn settings = value.normal := by
  cases field with
  | requeueInterval | errorRequeue | deletionPoll | pendingDeletionRequeue =>
    exact value.word64_iff.trans
      ⟨fun ⟨word, same⟩ => ⟨⟨word, word, word, word, "", "", "", "", 0⟩, same⟩,
      fun ⟨_, same⟩ => ⟨_, same⟩⟩
  | priorityClassName | storageNodeLabel | storageNodeTaint | defaultFailureDomain =>
    exact value.text_iff.trans ⟨fun ⟨text, same⟩ => ⟨⟨0, 0, 0, 0, text, text, text, text, 0⟩, same⟩,
      fun ⟨_, same⟩ => ⟨_, same⟩⟩
  | defaultReplicaSize =>
    exact value.word32_iff.trans ⟨fun ⟨word, same⟩ => ⟨⟨0, 0, 0, 0, "", "", "", "", word⟩, same⟩,
      fun ⟨_, same⟩ => ⟨_, same⟩⟩

end Field

/-! ### Setting fields -/

section

variable {place : String} {settings next : ControllerSettings} {field : Field} {value : Value}

/-- A field is set just if its content can be read from the value, and then nothing else changes.
What the contents of a field are, how they are read and where they are put differs from field to
field. -/
theorem map_eq_ok_iff_of_reads {α : Type} {read : Except SettingsError α}
    {put : α → ControllerSettings} {write : α → Value}
    (reads : ∀ content, read = .ok content ↔ value.normal = write content)
    (own : ∀ content, field.valueIn (put content) = write content)
    (others : ∀ content, ∀ other ≠ field, other.valueIn (put content) = other.valueIn settings)
    (covers : ∀ settings, ∃ content, field.valueIn settings = write content) :
    read.map put = .ok next ↔
      ∀ other, other.valueIn next =
        if other = field then value.normal else other.valueIn settings := by
  constructor
  · intro done other
    obtain ⟨content, read, rfl⟩ := exists_of_map_eq_ok done
    split
    · rename_i same
      rw [same, own, (reads content).1 read]
    · rename_i different
      exact others content other different
  · intro set
    obtain ⟨content, held⟩ := covers next
    have written : value.normal = write content := by
      rw [← held, set field, if_pos rfl]
    have same : put content = next := by
      refine Field.ext_of_valueIn fun other => ?_
      rw [set other]
      split
      · rename_i same
        rw [same, own, written]
      · rename_i different
        exact others content other different
    rw [(reads content).2 written, ← same]
    rfl

theorem setField_eq_ok_iff : setField place settings field.key value = .ok next ↔
    ∀ other : Field, other.valueIn next =
      if other = field then value.normal else other.valueIn settings := by
  cases field with
  | requeueInterval | errorRequeue | deletionPoll | pendingDeletionRequeue =>
    exact map_eq_ok_iff_of_reads (fun _ => Value.word64?_eq_ok_iff) (fun _ => rfl)
      (fun _ other different => by cases other <;> simp_all [Field.valueIn]) fun _ => ⟨_, rfl⟩
  | priorityClassName | storageNodeLabel | storageNodeTaint | defaultFailureDomain =>
    exact map_eq_ok_iff_of_reads (fun _ => Value.text?_eq_ok_iff) (fun _ => rfl)
      (fun _ other different => by cases other <;> simp_all [Field.valueIn]) fun _ => ⟨_, rfl⟩
  | defaultReplicaSize =>
    exact map_eq_ok_iff_of_reads (fun _ => Value.word32?_eq_ok_iff) (fun _ => rfl)
      (fun _ other different => by cases other <;> simp_all [Field.valueIn]) fun _ => ⟨_, rfl⟩

theorem setField_of_unknown {key : String} (unknown : ∀ field : Field, field.key ≠ key) :
    setField place settings key value = .ok settings := by
  unfold setField
  simp only
  split
  · exact absurd rfl (unknown .requeueInterval)
  · exact absurd rfl (unknown .errorRequeue)
  · exact absurd rfl (unknown .deletionPoll)
  · exact absurd rfl (unknown .pendingDeletionRequeue)
  · exact absurd rfl (unknown .priorityClassName)
  · exact absurd rfl (unknown .storageNodeLabel)
  · exact absurd rfl (unknown .storageNodeTaint)
  · exact absurd rfl (unknown .defaultFailureDomain)
  · exact absurd rfl (unknown .defaultReplicaSize)
  · rfl

theorem lookup_after_setField {start : ControllerSettings} {rest : List (String × Value)}
    (absent : rest.lookup field.key = none)
    (set : ∀ other : Field,
      other.valueIn next = if other = field then value.normal else other.valueIn start)
    (other : Field) :
    ((rest.lookup other.key).map Value.normal).getD (other.valueIn next) =
      ((((field.key, value) :: rest).lookup other.key).map Value.normal).getD
        (other.valueIn start) := by
  rw [lookup_member, set other]
  by_cases same : other = field
  · subst same
    rw [if_pos rfl, if_pos rfl, absent]
    rfl
  · rw [if_neg same, if_neg (Field.key_injective.ne same)]

/-- Members in key order set the fields whose keys they have, whatever else is among them, and it
takes no more than that each of these fields admits its value. -/
theorem setMembers_eq_ok_iff {start : ControllerSettings} {members : List (String × Value)}
    (increasing : KeysIncrease members) : setMembers start members = .ok settings ↔ ∀ field : Field,
      field.valueIn settings =
        ((members.lookup field.key).map Value.normal).getD (field.valueIn start) := by
  induction members generalizing start with
  | nil =>
    have done : setMembers start [] = .ok start := rfl
    rw [done, Except.ok.injEq]
    exact ⟨fun same _ => same ▸ rfl, fun same => (Field.ext_of_valueIn same).symm⟩
  | cons head rest ih =>
    obtain ⟨key, value⟩ := head
    obtain ⟨below, later⟩ := List.pairwise_cons.1 increasing
    have stepped : setMembers start ((key, value) :: rest) =
        (setField key start key value).bind fun next => setMembers next rest := rfl
    rw [stepped]
    by_cases named : ∃ field : Field, field.key = key
    · obtain ⟨field, rfl⟩ := named
      have absent : rest.lookup field.key = none := lookup_eq_none_of_below below
      constructor
      · intro done other
        cases first : setField field.key start field.key value with
        | error error =>
          rw [first] at done
          cases done
        | ok next =>
          rw [first] at done
          rw [(ih later).1 done other]
          exact lookup_after_setField absent (setField_eq_ok_iff.1 first) other
      · intro set
        -- The settings that the first member leads to: the field as it is in the end, and the
        -- others as before.
        obtain ⟨next, first⟩ : ∃ next : ControllerSettings, ∀ other : Field,
            other.valueIn next = if other = field then value.normal else other.valueIn start := by
          refine Field.exists_settings fun other => ?_
          split
          · rename_i same
            refine ⟨settings, ?_⟩
            rw [same, set field, lookup_member, if_pos rfl]
            rfl
          · exact ⟨start, rfl⟩
        rw [setField_eq_ok_iff.2 first]
        refine (ih later).2 fun other => ?_
        rw [set other, lookup_after_setField absent first other]
    · have unknown : ∀ field : Field, field.key ≠ key := fun field same => named ⟨field, same⟩
      rw [setField_of_unknown unknown]
      refine (ih later).trans (forall_congr' fun field => ?_)
      rw [lookup_member, if_neg (unknown field)]

end

end CephExport.Settings
