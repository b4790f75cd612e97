import CephExport.Settings.Load
import CephExport.Proofs.Json.Frame
import CephExport.Proofs.Settings.Overlay

/-!
Whatever is read as a layer of settings is a table whose members are in key order, in each of the
formats and in the environment.
-/

set_option autoImplicit false
set_option relaxedAutoImplicit false

namespace CephExport.Settings

open Value (InOrder inOrder_table_iff inOrder_empty inOrder_singleton inOrder_insert
  inOrder_of_lookup)

theorem keysIncrease_map_iff {α β : Type} {f : α → β} {members : List (String × α)} :
    KeysIncrease (members.map fun member => (member.1, f member.2)) ↔ KeysIncrease members :=
  List.pairwise_map

/-! ### JSON -/

theorem ofMembers_eq_map (members : Members) :
    Value.ofJson.ofMembers members = members.map fun member =>
      (member.1, Value.ofJson member.2) := by
  induction members with
  | nil => rfl
  | cons head rest ih => rw [Value.ofJson.ofMembers, ih, List.map_cons]

theorem ofJson_noTable {json : Json} (noObject : ∀ members, json ≠ .object members)
    (members : List (String × Value)) : Value.ofJson json ≠ .table members := by
  cases json with
  | object others => exact absurd rfl (noObject others)
  | number number =>
    cases number with
    | real value => nofun
    | integer value =>
      rw [Value.ofJson]
      split <;> nofun
  | _ => nofun

theorem inOrder_ofJson {depth : Nat} {json value : Json}
    (settled : json.settled? depth = some value) :
    (Value.ofJson value).InOrder := by
  induction depth generalizing json value with
  | zero =>
    refine .other (ofJson_noTable fun members same => ?_)
    subst same
    cases json <;> cases settled
  | succ depth ih =>
    cases json with
    | null | bool | string | number =>
      obtain rfl := Option.some.inj settled
      exact .other (ofJson_noTable nofun)
    | unreadable => cases settled
    | array items =>
      obtain ⟨_, -, rfl⟩ := Option.map_eq_some_iff.1 settled
      exact .other nofun
    | object members =>
      obtain ⟨values, same, rfl⟩ := Option.map_eq_some_iff.1 settled
      obtain ⟨increasing, found, -⟩ := Json.settledMembers?_eq_some same .nil
      rw [Value.ofJson, ofMembers_eq_map]
      refine .table (keysIncrease_map_iff.2 increasing) fun entry member => ?_
      obtain ⟨⟨key, value⟩, listed, rfl⟩ := List.mem_map.1 member
      have stands := found key
      rw [(lookup_eq_some_iff_mem increasing).2 listed] at stands
      cases last : (Json.valuesOf key members).getLast? with
      | none => simp [last] at stands
      | some json =>
        simp only [last, Option.map_some, Option.getD_some] at stands
        exact ih stands.symm

/-! ### The environment -/

theorem exists_of_map_eq_ok {ε α β : Type} {f : α → β} {attempt : Except ε α} {outcome : β}
    (done : attempt.map f = .ok outcome) : ∃ result, attempt = .ok result ∧ f result = outcome := by
  cases attempt with
  | error => cases done
  | ok result => exact ⟨result, rfl, Except.ok.inj done⟩

theorem foldlM_keeps {α β : Type} {kept : β → Prop} {step : β → α → Option β}
    (keeps : ∀ {before : β} {item : α} {after : β}, kept before →
      step before item = some after → kept after)
    {items : List α} {start outcome : β} (done : items.foldlM step start = some outcome)
    (begun : kept start) :
    kept outcome := by
  induction items generalizing start with
  | nil =>
    cases done
    exact begun
  | cons item rest ih =>
    rw [List.foldlM_cons] at done
    obtain ⟨next, taken, later⟩ := Option.bind_eq_some_iff.1 done
    exact ih later (keeps begun taken)

namespace Variable

theorem bareValue_noTable (raw : List Char) (members : List (String × Value)) :
    bareValue raw ≠ .table members := by
  simp only [bareValue]
  split
  · nofun
  · split
    · nofun
    · split <;> nofun

theorem listBody_eq_list {fuel : Nat} {text rest : List Char} {read : List Value} {value : Value}
    (done : listBody fuel text read = .ok (value, rest)) : ∃ items, value = .list items := by
  induction fuel generalizing text read with
  | zero => cases done
  | succ fuel ih =>
    unfold listBody at done
    split at done
    · cases done
      exact ⟨_, rfl⟩
    · split at done
      · cases done
      · exact ih done
      · cases done
        exact ⟨_, rfl⟩
      · cases done

theorem inOrder_of_value (fuel : Nat) :
    (∀ {text rest : List Char} {read : Value}, value fuel text = .ok (read, rest) → read.InOrder) ∧
      ∀ {text rest : List Char} {members : List (String × Value)} {read : Value},
        tableBody fuel text members = .ok (read, rest) → (Value.table members).InOrder →
          read.InOrder := by
  induction fuel with
  | zero => exact ⟨nofun, nofun⟩
  | succ fuel ih =>
    obtain ⟨values, tables⟩ := ih
    constructor
    · intro text rest read done
      unfold value at done
      obtain ⟨⟨found, behind⟩, begun, same⟩ := exists_of_map_eq_ok done
      cases same
      split at begun
      · cases begun
        exact .other nofun
      · split at begun
        · cases begun
          exact .other nofun
        · split at begun
          · exact tables begun inOrder_empty
          · obtain ⟨items, rfl⟩ := listBody_eq_list begun
            exact .other nofun
          · obtain ⟨_, -, same⟩ := exists_of_map_eq_ok begun
            cases same
            exact .other nofun
          · cases begun
            exact .other nofun
          · cases begun
          · cases begun
            exact .other (bareValue_noTable _)
    · intro text rest members read done ordered
      unfold tableBody at done
      split at done
      · cases done
        exact ordered
      · simp only at done
        split at done
        · cases done
        · split at done
          · split at done
            · cases done
            · rename_i item _ read
              exact tables done (inOrder_insert ordered _ (values read))
            · rename_i item _ read
              cases done
              exact inOrder_insert ordered _ (values read)
            · cases done
          · cases done

theorem inOrder_of_read? {text : String} {read : Value} (done : read? text = some read) :
    read.InOrder := by
  unfold read? at done
  split at done
  · rename_i found
    cases done
    exact (inOrder_of_value _).1 found
  · cases done
    exact .other nofun
  · cases done
    exact .other nofun
  · cases done

theorem nameParts_ne_nil (part text : List Char) : nameParts part text ≠ [] := by
  fun_induction nameParts part text with
  | case3 _ _ _ _ _ ih => exact ih
  | _ => exact List.cons_ne_nil _ _

theorem path?_ne_nil {name : String} {path : List String} (named : path? name = some path) :
    path ≠ [] := by
  simp only [path?] at named
  split at named
  · split at named
    · cases named
    · cases named
      exact nameParts_ne_nil _ _
  · cases named

theorem isLayer_atPath {path : List String} {value : Value} (named : path ≠ [])
    (ordered : value.InOrder) :
    (Value.atPath path value).IsLayer := by
  induction path with
  | nil => exact absurd rfl named
  | cons key rest ih =>
    refine Value.isLayer_table (inOrder_singleton ?_)
    cases rest with
    | nil => exact ordered
    | cons next rest => exact (ih (List.cons_ne_nil _ _)).ordered

theorem isLayer_of_layer? {environment : List (String × String)} {layer : Value}
    (done : layer? environment = some layer) : layer.IsLayer := by
  refine foldlM_keeps (fun {start step next} below taken => ?_) done
    (Value.isLayer_table inOrder_empty)
  obtain ⟨name, text⟩ := step
  simp only at taken
  split at taken
  · rename_i path named
    obtain ⟨value, read, rfl⟩ := Option.map_eq_some_iff.1 taken
    exact below.overlay (isLayer_atPath (path?_ne_nil named) (inOrder_of_read? read))
  · cases taken
    exact below

end Variable

end CephExport.Settings

namespace CephExport.Toml

open Settings Settings.Value

/-! ### TOML -/

theorem bodyValues_eq_map (body : Body) :
    bodyValues body = body.map fun member => (member.1, member.2.toValue) := by
  induction body with
  | nil => rfl
  | cons head rest ih => rw [bodyValues, ih, List.map_cons]

def Body.InOrder (body : Body) : Prop := (Value.table (bodyValues body)).InOrder

namespace Body

variable {body inner : Body} {node : Node} {key : String} {path : List String}

theorem inOrder_iff :
    body.InOrder ↔ KeysIncrease body ∧ ∀ member ∈ body, member.2.toValue.InOrder := by
  rw [InOrder, inOrder_table_iff, bodyValues_eq_map, keysIncrease_map_iff, List.forall_mem_map]

theorem inOrder_nil : InOrder [] := inOrder_empty

theorem InOrder.insert (ordered : body.InOrder) (key : String) (value : node.toValue.InOrder) :
    InOrder (insertMember key node body) := by
  obtain ⟨increasing, values⟩ := inOrder_iff.1 ordered
  refine inOrder_iff.2 ⟨keysIncrease_insertMember increasing key node, fun member listed => ?_⟩
  obtain rfl | listed := mem_insertMember listed
  · exact value
  · exact values member listed

theorem InOrder.of_lookup {origin : Origin} (ordered : body.InOrder)
    (found : body.lookup key = some (.table origin inner)) : inner.InOrder :=
  have ⟨increasing, values⟩ := inOrder_iff.1 ordered
  values (key, .table origin inner) ((lookup_eq_some_iff_mem increasing).1 found)

theorem InOrder.within {change : Body → Option Body}
    (keeps : ∀ {before after : Body}, before.InOrder → change before = some after → after.InOrder)
    (ordered : body.InOrder) (done : body.within change path = some inner) : inner.InOrder := by
  induction path generalizing body inner with
  | nil => exact keeps ordered done
  | cons key rest ih =>
    unfold Body.within at done
    split at done
    · obtain ⟨made, changed, rfl⟩ := Option.map_eq_some_iff.1 done
      exact ordered.insert key (ih inOrder_nil changed)
    · cases done
    · rename_i found
      obtain ⟨made, changed, rfl⟩ := Option.map_eq_some_iff.1 done
      exact ordered.insert key (ih (ordered.of_lookup found) changed)
    · obtain ⟨made, changed, rfl⟩ := Option.map_eq_some_iff.1 done
      exact ordered.insert key (.other nofun)

theorem InOrder.openTable (ordered : body.InOrder) (done : body.openTable key = some inner) :
    inner.InOrder := by
  unfold Body.openTable at done
  split at done
  · cases done
    exact ordered.insert key inOrder_nil
  · rename_i found
    cases done
    exact ordered.insert key (ordered.of_lookup found)
  · cases done

theorem InOrder.openElement (ordered : body.InOrder) (done : body.openElement key = some inner) :
    inner.InOrder := by
  unfold Body.openElement at done
  split at done
  · cases done
    exact ordered.insert key (.other nofun)
  · cases done
    exact ordered.insert key (.other nofun)
  · cases done

theorem InOrder.assign {value : Value} (ordered : body.InOrder) (read : value.InOrder)
    (done : body.assign value path = some inner) : inner.InOrder := by
  induction path generalizing body inner with
  | nil => cases done
  | cons key rest ih =>
    cases rest with
    | nil =>
      unfold Body.assign at done
      split at done
      · cases done
      · cases done
        exact ordered.insert key read
    | cons next rest =>
      unfold Body.assign at done
      split at done
      · obtain ⟨made, changed, rfl⟩ := Option.map_eq_some_iff.1 done
        exact ordered.insert key (ih inOrder_nil changed)
      · rename_i found
        obtain ⟨made, changed, rfl⟩ := Option.map_eq_some_iff.1 done
        exact ordered.insert key (ih (ordered.of_lookup found) changed)
      · rename_i found
        split at done
        · cases done
        · obtain ⟨made, changed, rfl⟩ := Option.map_eq_some_iff.1 done
          exact ordered.insert key (ih (ordered.of_lookup found) changed)
      · split at done
        · cases done
        · obtain ⟨made, changed, rfl⟩ := Option.map_eq_some_iff.1 done
          exact ordered.insert key (.other nofun)
      · cases done

end Body

theorem inOrder_of_openHeader {root body : Body} {path : List String}
    {openLast : String → Body → Option Body}
    (keeps : ∀ {key : String} {before after : Body}, before.InOrder →
      openLast key before = some after → after.InOrder)
    (ordered : root.InOrder) (done : openHeader root path openLast = some body) :
    body.InOrder := by
  unfold openHeader at done
  split at done
  · exact ordered.within keeps done
  · cases done

theorem items?_eq_list {fuel depth : Nat} {text rest : List Char} {read : List Value}
    {value : Value} (done : items? fuel depth text read = some (value, rest)) :
    ∃ items, value = .list items := by
  induction fuel generalizing text read with
  | zero => cases done
  | succ fuel ih =>
    unfold items? at done
    split at done
    · cases done
      exact ⟨_, rfl⟩
    · split at done
      · cases done
      · split at done
        · exact ih done
        · cases done
          exact ⟨_, rfl⟩
        · cases done

theorem inOrder_of_word? {word : List Char} {value : Value} (done : word? word = some value) :
    value.InOrder := by
  unfold word? at done
  split at done
  · cases done
    exact .other nofun
  · split at done
    · cases done
      exact .other nofun
    · split at done
      · cases done
        exact inOrder_singleton (.other nofun)
      · split at done
        · split at done
          · cases done
            exact .other nofun
          · cases done
        · obtain ⟨_, -, rfl⟩ := Option.map_eq_some_iff.1 done
          exact .other nofun

theorem inOrder_of_value? (fuel : Nat) :
    (∀ {depth : Nat} {text rest : List Char} {value : Value},
      value? fuel depth text = some (value, rest) → value.InOrder) ∧
      ∀ {depth : Nat} {text rest : List Char} {read : Body} {value : Value},
        members? fuel depth text read = some (value, rest) → read.InOrder → value.InOrder := by
  induction fuel with
  | zero => exact ⟨nofun, nofun⟩
  | succ fuel ih =>
    obtain ⟨values, tables⟩ := ih
    constructor
    · intro depth text rest value done
      unfold value? at done
      split at done
      · split at done
        · cases done
        · obtain ⟨items, rfl⟩ := items?_eq_list done
          exact .other nofun
      · split at done
        · cases done
        · cases done
          exact inOrder_empty
        · exact tables done Body.inOrder_nil
      · split at done
        · cases done
          exact .other nofun
        · obtain ⟨found, read, same⟩ := Option.map_eq_some_iff.1 done
          cases same
          exact inOrder_of_word? read
    · intro depth text rest read value done ordered
      unfold members? at done
      split at done
      · split at done
        · cases done
        · rename_i found
          split at done
          · rename_i assigned _
            exact tables done (ordered.assign (values found) assigned)
          · rename_i assigned _
            cases done
            exact ordered.assign (values found) assigned
          · cases done
      · cases done

theorem inOrder_of_lines? {fuel : Nat} {text : List Char} {root body : Body} {current : List String}
    (done : lines? fuel text root current = some body) (ordered : root.InOrder) : body.InOrder := by
  induction fuel generalizing text root current with
  | zero => cases done
  | succ fuel ih =>
    unfold lines? at done
    split at done
    · cases done
      exact ordered
    · split at done
      · split at done
        · rename_i opened _
          exact ih done (inOrder_of_openHeader Body.InOrder.openElement ordered opened)
        · cases done
      · cases done
    · split at done
      · split at done
        · rename_i opened _
          exact ih done (inOrder_of_openHeader Body.InOrder.openTable ordered opened)
        · cases done
      · cases done
    · split at done
      · split at done
        · cases done
        · rename_i found
          split at done
          · rename_i assigned _
            exact ih done (ordered.within
              (fun before => before.assign ((inOrder_of_value? _).1 found)) assigned)
          · cases done
      · cases done

theorem isLayer_of_read? {text : String} {layer : Value} (done : read? text = some layer) :
    layer.IsLayer := by
  obtain ⟨body, read, rfl⟩ := Option.map_eq_some_iff.1 done
  exact Value.isLayer_table (inOrder_of_lines? read Body.inOrder_nil)

end CephExport.Toml

namespace CephExport.Yaml

open Settings Settings.Value

/-! ### YAML -/

namespace Resolving

variable {α β : Type}

def Yields (part : Resolving α) (property : α → Prop) : Prop :=
  ∀ (before after : Nat) (outcome : α), part before = some (outcome, after) → property outcome

variable {property : α → Prop} {later : β → Prop}

theorem yields_pure {outcome : α} (holds : property outcome) : Yields (pure outcome) property := by
  intro before after found done
  cases done
  exact holds

theorem Yields.bind {part : Resolving α} {next : α → Resolving β} (first : Yields part property)
    (rests : ∀ outcome, property outcome → Yields (next outcome) later) :
    Yields (part >>= next) later := by
  intro before after found done
  obtain ⟨⟨outcome, between⟩, done, rest⟩ := Option.bind_eq_some_iff.1 done
  exact rests outcome (first before between outcome done) between after found rest

theorem yields_any (part : Resolving α) : Yields part fun _ => True := fun _ _ _ _ => trivial

theorem yields_failure : Yields (failure : Resolving α) property := nofun

theorem yields_liftM {found : Option α}
    (holds : ∀ {outcome}, found = some outcome → property outcome) :
    Yields (liftM found) property := by
  intro before after outcome done
  obtain ⟨_, same, rest⟩ := Option.bind_eq_some_iff.1 done
  cases rest
  exact holds same

theorem yields_foldlM {kept : β → Prop} {step : β → α → Resolving β}
    (keeps : ∀ before item, kept before → Yields (step before item) kept)
    (items : List α) {start : β} (begun : kept start) : Yields (items.foldlM step start) kept := by
  induction items generalizing start with
  | nil => exact yields_pure begun
  | cons item rest ih =>
    rw [List.foldlM_cons]
    exact (keeps start item begun).bind fun _ => ih

end Resolving

open Resolving

theorem integer?_noTable {text : List Char} {value : Value} (done : integer? text = some value)
    (members : List (String × Value)) : value ≠ .table members := by
  unfold integer? at done
  split at done
  · cases done
    nofun
  · split at done
    · cases done
      nofun
    · split at done
      · cases done
        nofun
      · obtain ⟨_, -, rfl⟩ := Option.map_eq_some_iff.1 done
        nofun

theorem plainValue_noTable (text : List Char) (members : List (String × Value)) :
    plainValue text ≠ .table members := by
  unfold plainValue
  split
  · nofun
  · split
    · nofun
    · split
      · rename_i found
        exact integer?_noTable found members
      · split <;> nofun

theorem StandardTag.noTable_of_value? {tag : StandardTag} {text : List Char} {value : Value}
    (done : tag.value? text = some value) (members : List (String × Value)) :
    value ≠ .table members := by
  cases tag with
  | flag | real =>
    simp only [StandardTag.value?] at done
    obtain ⟨_, -, rfl⟩ := Option.map_eq_some_iff.1 done
    nofun
  | integer => exact integer?_noTable done members
  | null =>
    simp only [StandardTag.value?] at done
    split at done
    · cases done
      nofun
    · cases done

theorem inOrder_underTag (tag : Option TagText) {value : Value} (ordered : value.InOrder) :
    (underTag tag value).InOrder := by
  unfold underTag
  split
  · exact inOrder_singleton ordered
  · exact ordered

theorem inOrder_scalarValue (text : List Char) (plain : Bool) :
    (scalarValue text plain).InOrder := by
  cases plain with
  | false => exact .other nofun
  | true => exact .other (plainValue_noTable text)

theorem inOrder_of_taggedScalar? {text : List Char} {plain : Bool} {tag : Option TagText}
    {value : Value} (done : taggedScalar? text plain tag = some value) : value.InOrder := by
  cases tag with
  | none =>
    cases done
    exact inOrder_scalarValue text plain
  | some tag =>
    simp only [taggedScalar?] at done
    split at done
    · cases done
      exact inOrder_underTag (some tag) (inOrder_scalarValue text plain)
    · exact .other (StandardTag.noTable_of_value? done)
    · cases done
      exact .other nofun

namespace Document

theorem value_yields_inOrder (document : Document) (depth : Nat) (node : Node) :
    (document.value depth node).Yields InOrder := by
  induction depth generalizing node with
  | zero =>
    unfold value
    refine (yields_any _).bind fun node _ => ?_
    cases node with
    | scalar => exact yields_liftM inOrder_of_taggedScalar?
    | _ => exact yields_failure
  | succ depth ih =>
    unfold value
    refine (yields_any _).bind fun node _ => ?_
    cases node with
    | scalar => exact yields_liftM inOrder_of_taggedScalar?
    | sequence items tag =>
      refine (yields_any _).bind fun values _ => yields_pure (inOrder_underTag tag ?_)
      exact .other nofun
    | mapping members tag =>
      have keeps (before : List (String × Value)) (member : Node × Node)
          (ordered : (Value.table before).InOrder) :
          Resolving.Yields (do
            let key ← document.key member.1
            pure (insertMember key (← document.value depth member.2) before))
            fun after => (Value.table after).InOrder :=
        (yields_any _).bind fun key _ => (ih member.2).bind fun value read =>
          yields_pure (inOrder_insert ordered key read)
      exact (yields_foldlM keeps members inOrder_empty).bind fun read ordered =>
        yields_pure (inOrder_underTag tag ordered)
    | reference => exact yields_failure

theorem value_mapping_yields_table (document : Document) (depth : Nat)
    (members : List (Node × Node)) :
    (document.value (depth + 1) (.mapping members none)).Yields
      fun value => ∃ read, value = .table read := by
  have followed : document.follow (.mapping members none) = pure (.mapping members none) := rfl
  rw [value, followed, pure_bind]
  exact (yields_any _).bind fun read _ => yields_pure ⟨read, rfl⟩

theorem isLayer_of_table? {document : Document} {layer : Value}
    (done : document.table? = some layer) :
    layer.IsLayer := by
  unfold table? at done
  split at done
  · cases done
    exact Value.isLayer_table inOrder_empty
  · obtain ⟨⟨value, left⟩, read, rfl⟩ := Option.map_eq_some_iff.1 done
    exact ⟨value_mapping_yields_table document 127 _ _ _ _ read,
      value_yields_inOrder document _ _ _ _ _ read⟩
  · cases done

end Document

theorem isLayer_of_read? {text : String} {layer : Value} (done : read? text = some layer) :
    layer.IsLayer := by
  obtain ⟨document, -, stands⟩ := Option.bind_eq_some_iff.1 done
  exact Document.isLayer_of_table? stands

end CephExport.Yaml

namespace CephExport.Settings

/-! ### Files -/

theorem Format.isLayer_of_read? {format : Format} {text : String} {layer : Value}
    (done : format.read? text = some layer) : layer.IsLayer := by
  cases format with
  | yaml => exact Yaml.isLayer_of_read? done
  | toml => exact Toml.isLayer_of_read? done
  | json =>
    simp only [Format.read?] at done
    split at done
    · rename_i members parsed
      obtain ⟨_, -, settled⟩ := Option.bind_eq_some_iff.1 parsed
      cases done
      exact ⟨⟨_, rfl⟩, inOrder_ofJson settled⟩
    · cases done

theorem isLayer_of_fileLayer {file : Option File} {layer : Value}
    (done : fileLayer file = .ok layer) :
    layer.IsLayer := by
  cases file with
  | none =>
    cases done
    exact Value.isLayer_table Value.inOrder_empty
  | some file =>
    simp only [fileLayer, File.layer] at done
    split at done
    · split at done
      · rename_i read
        cases done
        exact Format.isLayer_of_read? read
      · cases done
    · cases done
      exact Value.isLayer_table Value.inOrder_empty

end CephExport.Settings
