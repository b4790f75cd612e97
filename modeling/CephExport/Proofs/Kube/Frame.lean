import CephExport.Resource.Owner
import CephExport.Kube.Service
import CephExport.Proofs.Json.Frame
import CephExport.Proofs.Kube.Codec
import CephExport.Proofs.Resource.Merge
import Mathlib.Data.List.Induction

/-!
What stays of the records of Kubernetes when they are read and written again: each of the fields
that the types know, a time to the second, and a field that must be there with its zero value where
it is not.
-/

set_option autoImplicit false
set_option relaxedAutoImplicit false

namespace CephExport

open CephExport.Frame (Row Rows)
open Json (given?)

/-- A type whose values agree, once they are written again, with what they were read from. -/
class Framed (α : Type) [Codec α] where
  frame : Frame
  firm : frame.Firm
  written (value : α) : (encode value).isNull = false
  agrees {json : Json} {value : α} (read : decode? json = some value) :
    frame.Agrees (some json) (some (encode value))

attribute [simp] Framed.firm Frame.Firm.whole Frame.Firm.time Frame.Firm.orElse

section

variable {α : Type} [Codec α] {members : Members} {key : String}

theorem Members.optional?_eq_some {value : Option α} (read : members.optional? key = some value) :
    (value = none ∧ given? key members = none) ∨
      ∃ json found, given? key members = some json ∧ decode? json = some found ∧
        value = some found := by
  rw [Members.optional?_eq, readValues] at read
  rw [given?]
  rcases List.eq_nil_or_concat (Json.valuesOf key members) with empty | ⟨before, last, split⟩
  · rw [empty] at read ⊢
    exact .inl ⟨(Option.some.inj read).symm, rfl⟩
  · rw [split, List.concat_eq_append] at read ⊢
    rw [List.foldlM_append] at read
    obtain ⟨between, -, lastRead⟩ := Option.bind_eq_some_iff.1 read
    rw [List.getLast?_concat]
    simp only [List.foldlM_cons, List.foldlM_nil, decodeNullable?] at lastRead
    by_cases null : last.isNull = true
    · refine .inl ⟨?_, Option.filter_some_neg (by simp [null])⟩
      simpa [null] using lastRead.symm
    · refine .inr ?_
      rw [Bool.not_eq_true] at null
      simp only [null, Bool.false_eq_true, ↓reduceIte, bind_pure] at lastRead
      obtain ⟨found, decoded, rfl⟩ := Option.map_eq_some_iff.1 lastRead
      exact ⟨last, found, Option.filter_some_pos (by simp [null]), decoded, rfl⟩

theorem given?_of_values [LawfulCodec α] (value : Option α)
    (values : Json.valuesOf key members = (value.map encode).toList) :
    given? key members = value.map encode := by
  rw [given?, values]
  cases value <;> simp

theorem Frame.memberSome_encode (key : String) (value : Option α) :
    memberSome key value = memberSome key (value.map encode) := by
  cases value <;> rfl

theorem Frame.row_becomes [LawfulCodec α] (value : Option α) :
    Row members key (.becomes (value.map encode)) (memberSome key value) := by
  refine ⟨value.map encode, Frame.memberSome_encode key value, Frame.agrees_becomes _ _, ?_⟩
  rintro json found
  obtain ⟨value, -, rfl⟩ := Option.map_eq_some_iff.1 found
  exact isNull_encode value

variable [Framed α]

theorem Frame.row_optional {value : Option α} (read : members.optional? key = some value) :
    Row members key (Framed.frame α) (memberSome key value) := by
  refine ⟨value.map encode, Frame.memberSome_encode key value, ?_, ?_⟩
  · rcases Members.optional?_eq_some read with ⟨rfl, none⟩ | ⟨json, found, given, decoded, rfl⟩
    · rw [none]
      exact Framed.firm.agrees_none
    · rw [given]
      exact Framed.agrees decoded
  · rintro json found
    obtain ⟨value, -, rfl⟩ := Option.map_eq_some_iff.1 found
    exact Framed.written value

def Json.IsBare (json : Json) : Prop := json.hull = json ∧ ∀ token, json.step? token = none

theorem Frame.row_orZero {zero value : α} (bare : (encode zero : Json).IsBare)
    (read : members.orZero? key zero = some value) :
    Row members key (.orElse (encode zero) (Framed.frame α)) (member key value) := by
  refine ⟨some (encode value), rfl, ?_, ?_⟩
  · obtain ⟨found, optional, rfl⟩ := Option.map_eq_some_iff.1 read
    rcases Members.optional?_eq_some optional with ⟨rfl, none⟩ | ⟨json, found, given, decoded, rfl⟩
    · rw [none]
      refine Frame.agrees_orElse_of_none bare.1 ?_
      intro token
      rw [Option.getD_none, bare.2 token]
      split
      · rename_i inner
        exact (Framed.firm.child? inner).agrees_none
      · rfl
    · rw [given]
      exact Frame.agrees_orElse _ (Framed.agrees decoded)
  · rintro json ⟨⟩
    exact Framed.written value

end

/-! ### Plain values -/

theorem Frame.agrees_whole_of_eq {json other : Json} (same : json = other) :
    Frame.whole.Agrees (some json) (some other) := same ▸ Frame.agrees_whole (some json)

instance : Framed String where
  frame := .whole
  firm := .whole
  written _ := rfl
  agrees {json value} read := by
    cases json with
    | string text => exact Frame.agrees_whole_of_eq (congrArg Json.string (Option.some.inj read))
    | _ => cases read

instance : Framed Bool where
  frame := .whole
  firm := .whole
  written _ := rfl
  agrees {json value} read := by
    cases json with
    | bool flag => exact Frame.agrees_whole_of_eq (congrArg Json.bool (Option.some.inj read))
    | _ => cases read

theorem Json.intWithin?_eq_some {low high value : Int} {json : Json}
    (within : json.intWithin? low high = some value) :
    json = .ofInt value ∧ low ≤ value ∧ value < high := by
  obtain ⟨read, bounds⟩ := Option.filter_eq_some_iff.1 within
  simp only [Bool.and_eq_true, decide_eq_true_eq] at bounds
  refine ⟨?_, bounds⟩
  unfold Json.int? at read
  split at read
  · exact congrArg Json.ofInt (Option.some.inj read)
  · cases read

instance : Framed Int32 where
  frame := .whole
  firm := .whole
  written _ := rfl
  agrees {json value} read := by
    obtain ⟨whole, within, rfl⟩ := Option.map_eq_some_iff.1 read
    obtain ⟨rfl, above, below⟩ := Json.intWithin?_eq_some within
    refine Frame.agrees_whole_of_eq (congrArg Json.ofInt ?_)
    exact (Int32.toInt_ofInt_of_le above below).symm

instance : Framed Int64 where
  frame := .whole
  firm := .whole
  written _ := rfl
  agrees {json value} read := by
    obtain ⟨whole, within, rfl⟩ := Option.map_eq_some_iff.1 read
    obtain ⟨rfl, above, below⟩ := Json.intWithin?_eq_some within
    refine Frame.agrees_whole_of_eq (congrArg Json.ofInt ?_)
    exact (Int64.toInt_ofInt_of_le above below).symm

instance : Framed MetaTime where
  frame := .time
  firm := .time
  written _ := rfl
  agrees {json value} read := by
    obtain ⟨time, parsed, rfl⟩ := Option.map_eq_some_iff.1 read
    exact Frame.agrees_time (congrArg (Option.map _) parsed)

instance : Framed FieldSet where
  frame := .settled 123
  firm := .settled 123
  written fields := fields.given
  agrees {json value} read := by
    refine Frame.agrees_settled ?_
    simp only [decode?] at read
    split at read
    · cases read
    · split at read
      · obtain rfl := Option.some.inj read
        assumption
      · cases read

theorem decodeItems?_eq_some {α : Type} [Codec α] {items : List Json} {values : List α}
    (read : decodeItems? items = some values) :
    List.Forall₂ (fun item value => decode? item = some value) items values := by
  induction items generalizing values with
  | nil =>
    obtain rfl := Option.some.inj read
    exact .nil
  | cons item rest ih =>
    rw [decodeItems?] at read
    split at read
    · rename_i first others
      obtain rfl := Option.some.inj read
      exact .cons first (ih others)
    · cases read

instance {α : Type} [Codec α] [Framed α] : Framed (List α) where
  frame := .list (Framed.frame α)
  firm := .list Framed.firm
  written _ := rfl
  agrees {json values} read := by
    cases json with
    | array items =>
      refine Frame.agrees_list Framed.firm ?_
      rw [List.forall₂_map_right_iff]
      exact (decodeItems?_eq_some read).imp fun _ _ => Framed.agrees
    | _ => cases read

/-! ### Maps of texts -/

theorem given?_concat {key other : String} {members : Members} {json : Json}
    (given : json.isNull = false) :
    given? key (members ++ [(other, json)]) =
      if other = key then some json else given? key members := by
  rw [given?, Json.valuesOf_append, Json.valuesOf_cons, Json.valuesOf_nil]
  split
  · rw [List.getLast?_concat]
    exact Option.filter_some_pos (by simp [given])
  · rw [List.append_nil]
    rfl

theorem get?_ofList_encode (entries : List (String × String)) (key : String) :
    ((KeyMap.ofList entries).get? key).map encode =
      given? key (entries.map fun entry => (entry.1, encode entry.2)) := by
  induction entries using List.reverseRecOn with
  | nil => rfl
  | append_singleton before last ih =>
    have sorted :
        (KeyMap.ofList (before ++ [last])) = (KeyMap.ofList before).insert last.1 last.2 := by
      simp only [KeyMap.ofList, KeyMap.insert, sortMembers, List.foldl_append, List.foldl_cons,
        List.foldl_nil]
    rw [sorted, KeyMap.get?_insert, List.map_append, List.map_singleton,
      given?_concat (isNull_encode last.2), ← ih]
    by_cases same : last.1 = key
    · rw [if_pos same, if_pos same.symm]
      rfl
    · rw [if_neg same, if_neg (Ne.symm same)]

theorem given?_entries (map : KeyMap String) (key : String) :
    given? key (map.entries.map fun entry => (entry.1, encode entry.2)) =
      (map.get? key).map encode := by
  rw [← get?_ofList_encode, KeyMap.ofList_entries]

theorem decodeMembers?_eq_some {members : Members} {entries : List (String × String)}
    (read : decodeMembers? members = some entries) :
    members = entries.map fun entry => (entry.1, encode entry.2) := by
  induction members generalizing entries with
  | nil =>
    obtain rfl := Option.some.inj read
    rfl
  | cons member rest ih =>
    obtain ⟨key, json⟩ := member
    rw [decodeMembers?] at read
    split at read
    · rename_i text others decoded later
      obtain rfl := Option.some.inj read
      obtain rfl := ih later
      cases json with
      | string text =>
        obtain rfl := Option.some.inj decoded
        rfl
      | _ => cases decoded
    · cases read

theorem given?_of_decode {members : Members} {map : KeyMap String}
    (read : decode? (Json.object members) = some map) (key : String) :
    given? key members = (map.get? key).map encode := by
  obtain ⟨entries, decoded, rfl⟩ := Option.map_eq_some_iff.1 read
  rw [get?_ofList_encode, ← decodeMembers?_eq_some decoded]

instance : Framed (KeyMap String) where
  frame := .map [] .whole
  firm := .map .whole
  written _ := rfl
  agrees {json map} read := by
    cases json with
    | object members =>
      refine Frame.agrees_map ?_
      intro key
      rw [given?_entries, given?_of_decode read]
      exact Frame.agrees_whole _
    | _ => cases read

/-! ### Records -/

/-- What is written for a record agrees with the object that it was read from. -/
theorem Frame.agrees_of_members {json : Json} {members written : Members}
    {fields : List (String × Frame)} (object : json.members? = some members)
    (rows : Rows members fields written) (distinct : (fields.map Prod.fst).Nodup) :
    (Frame.record fields).Agrees (some json) (some (.object written)) := by
  obtain rfl := Json.eq_object_of_members? object
  exact Frame.agrees_record rows distinct

instance : Framed ManagedFieldsEntry where
  frame := .record [("apiVersion", Framed.frame String), ("fieldsType", Framed.frame String),
    ("fieldsV1", Framed.frame FieldSet), ("manager", Framed.frame String),
    ("operation", Framed.frame String), ("subresource", Framed.frame String),
    ("time", Framed.frame MetaTime)]
  firm := .record (by simp)
  written _ := rfl
  agrees {json value} read := by
    simp only [decode?, Option.bind_eq_bind, Option.bind_eq_some_iff] at read
    obtain ⟨members, object, _, apiVersion, _, fieldsType, _, fieldsV1, _, manager, _, operation, _,
      subresource, _, time, record⟩ := read
    obtain rfl := Option.some.inj record
    simp only [encode, List.append_assoc]
    refine Frame.agrees_of_members object ?_ (by decide)
    exact .next (Frame.row_optional apiVersion) <| .next (Frame.row_optional fieldsType) <|
      .next (Frame.row_optional fieldsV1) <| .next (Frame.row_optional manager) <|
      .next (Frame.row_optional operation) <| .next (Frame.row_optional subresource) <|
      .last (Frame.row_optional time)

instance : Framed ClientIPConfig where
  frame := .record [("timeoutSeconds", Framed.frame Int32)]
  firm := .record (by simp)
  written _ := rfl
  agrees {json value} read := by
    simp only [decode?, Option.bind_eq_bind, Option.bind_eq_some_iff] at read
    obtain ⟨members, object, _, timeoutSeconds, record⟩ := read
    obtain rfl := Option.some.inj record
    exact Frame.agrees_of_members object (.last (Frame.row_optional timeoutSeconds)) (by decide)

instance : Framed SessionAffinityConfig where
  frame := .record [("clientIP", Framed.frame ClientIPConfig)]
  firm := .record (by simp)
  written _ := rfl
  agrees {json value} read := by
    simp only [decode?, Option.bind_eq_bind, Option.bind_eq_some_iff] at read
    obtain ⟨members, object, _, clientIP, record⟩ := read
    obtain rfl := Option.some.inj record
    exact Frame.agrees_of_members object (.last (Frame.row_optional clientIP)) (by decide)

theorem isBare_text (text : String) : (encode text : Json).IsBare := ⟨rfl, fun _ => rfl⟩

theorem isBare_number (number : Int32) : (encode number : Json).IsBare := ⟨rfl, fun _ => rfl⟩

theorem isBare_time (time : MetaTime) : (encode time : Json).IsBare := ⟨rfl, fun _ => rfl⟩

instance : Framed PortStatus where
  frame := .record [("error", Framed.frame String),
    ("port", .orElse (encode (0 : Int32)) (Framed.frame Int32)),
    ("protocol", .orElse (encode "") (Framed.frame String))]
  firm := .record (by simp)
  written _ := rfl
  agrees {json value} read := by
    simp only [decode?, Option.bind_eq_bind, Option.bind_eq_some_iff] at read
    obtain ⟨members, object, _, error, _, port, _, protocol, record⟩ := read
    obtain rfl := Option.some.inj record
    simp only [encode, List.append_assoc]
    refine Frame.agrees_of_members object ?_ (by decide)
    exact .next (Frame.row_optional error) <| .next (Frame.row_orZero (isBare_number 0) port) <|
      .last (Frame.row_orZero (isBare_text "") protocol)

instance : Framed LoadBalancerIngress where
  frame := .record [("hostname", Framed.frame String), ("ip", Framed.frame String),
    ("ipMode", Framed.frame String), ("ports", Framed.frame (List PortStatus))]
  firm := .record (by simp)
  written _ := rfl
  agrees {json value} read := by
    simp only [decode?, Option.bind_eq_bind, Option.bind_eq_some_iff] at read
    obtain ⟨members, object, _, hostname, _, ip, _, ipMode, _, ports, record⟩ := read
    obtain rfl := Option.some.inj record
    simp only [encode, List.append_assoc]
    refine Frame.agrees_of_members object ?_ (by decide)
    exact .next (Frame.row_optional hostname) <| .next (Frame.row_optional ip) <|
      .next (Frame.row_optional ipMode) <| .last (Frame.row_optional ports)

instance : Framed LoadBalancerStatus where
  frame := .record [("ingress", Framed.frame (List LoadBalancerIngress))]
  firm := .record (by simp)
  written _ := rfl
  agrees {json value} read := by
    simp only [decode?, Option.bind_eq_bind, Option.bind_eq_some_iff] at read
    obtain ⟨members, object, _, ingress, record⟩ := read
    obtain rfl := Option.some.inj record
    exact Frame.agrees_of_members object (.last (Frame.row_optional ingress)) (by decide)

instance : Framed Condition where
  frame := .record [
    ("lastTransitionTime", .orElse (encode (⟨⟨0, 0⟩⟩ : MetaTime)) (Framed.frame MetaTime)),
    ("message", .orElse (encode "") (Framed.frame String)),
    ("observedGeneration", Framed.frame Int64),
    ("reason", .orElse (encode "") (Framed.frame String)),
    ("status", .orElse (encode "") (Framed.frame String)),
    ("type", .orElse (encode "") (Framed.frame String))]
  firm := .record (by simp)
  written _ := rfl
  agrees {json value} read := by
    simp only [decode?, Option.bind_eq_bind, Option.bind_eq_some_iff] at read
    obtain ⟨members, object, _, time, _, message, _, observed, _, reason, _, status, _, type,
        record⟩ := read
    obtain rfl := Option.some.inj record
    simp only [encode, List.append_assoc]
    refine Frame.agrees_of_members object ?_ (by decide)
    exact .next (Frame.row_orZero (isBare_time _) time) <|
      .next (Frame.row_orZero (isBare_text "") message) <|
      .next (Frame.row_optional observed) <| .next (Frame.row_orZero (isBare_text "") reason) <|
      .next (Frame.row_orZero (isBare_text "") status) <|
      .last (Frame.row_orZero (isBare_text "") type)

instance : Framed ServiceStatus where
  frame := .record [("conditions", Framed.frame (List Condition)),
    ("loadBalancer", Framed.frame LoadBalancerStatus)]
  firm := .record (by simp)
  written _ := rfl
  agrees {json value} read := by
    simp only [decode?, Option.bind_eq_bind, Option.bind_eq_some_iff] at read
    obtain ⟨members, object, _, conditions, _, loadBalancer, record⟩ := read
    obtain rfl := Option.some.inj record
    exact Frame.agrees_of_members object
      (.next (Frame.row_optional conditions) (.last (Frame.row_optional loadBalancer))) (by decide)

end CephExport
