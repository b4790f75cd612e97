import CephExport.Proofs.Json.Text
import CephExport.Proofs.Settings.Fields

/-!
The layers of settings are laid over one another field by field. Each field takes the value of the
highest layer that sets it, and no other value is looked at: not one that is hidden, and not the
zero of a field that a layer leaves out.
-/

set_option autoImplicit false
set_option relaxedAutoImplicit false

namespace CephExport.Settings

open Value (InOrder laidOver)

def Field.setting? (field : Field) (layer : Value) : Option Value :=
  (layer.member? controllerKey).bind (Value.member? field.key)

/-- What a layer has for the controller, if anything, is a table, of whatever members. -/
def HasSection (layer : Value) : Prop :=
  ∀ entry, layer.member? controllerKey = some entry → ∃ members, entry = .table members

/-- The value of the highest layer that sets a field, the default if there is none. -/
def winning (lower upper : Value) (field : Field) : Value :=
  ((field.setting? upper).or (field.setting? lower)).getD (field.valueIn {})

structure IsSectioned (layer : Value) : Prop where
  isLayer : layer.IsLayer
  hasSection : HasSection layer

section

variable {lower upper : Value} {settings : Settings}

private theorem section_overlay (below : IsSectioned lower) (above : IsSectioned upper) :
    HasSection (lower.overlay upper) ∧ ∀ field : Field, field.setting? (lower.overlay upper) =
      ((field.setting? upper).map (laidOver (field.setting? lower))).or (field.setting? lower) := by
  have joined := Value.member?_overlay below.isLayer above.isLayer controllerKey
  cases upperHas : upper.member? controllerKey with
  | none =>
    rw [upperHas] at joined
    refine ⟨fun entry found => below.hasSection entry (joined.symm.trans found), fun field => ?_⟩
    simp only [Field.setting?, joined, upperHas, Option.map_none, Option.none_or, Option.bind_none]
  | some entry =>
    obtain ⟨others, rfl⟩ := above.hasSection entry upperHas
    have increasing := (Value.inOrder_table_iff.1 (above.isLayer.inOrder_of_member? upperHas)).1
    cases lowerHas : lower.member? controllerKey with
    | none =>
      rw [upperHas, lowerHas] at joined
      refine ⟨fun entry found => ⟨others, Option.some.inj (found.symm.trans joined)⟩,
        fun field => ?_⟩
      simp only [Field.setting?, joined, upperHas, lowerHas]
      change others.lookup field.key = ((others.lookup field.key).map (laidOver none)).or none
      cases others.lookup field.key <;> rfl
    | some entry =>
      obtain ⟨members, rfl⟩ := below.hasSection entry lowerHas
      rw [upperHas, lowerHas] at joined
      refine ⟨fun entry found => ⟨_, Option.some.inj (found.symm.trans joined)⟩, fun field => ?_⟩
      simp only [Field.setting?, joined, upperHas, lowerHas]
      exact Value.lookup_overlayMembers increasing members field.key

theorem IsSectioned.overlay (below : IsSectioned lower) (above : IsSectioned upper) :
    IsSectioned (lower.overlay upper) :=
  ⟨below.isLayer.overlay above.isLayer, (section_overlay below above).1⟩

theorem setting?_overlay (below : IsSectioned lower) (above : IsSectioned upper) (field : Field) :
    field.setting? (lower.overlay upper) =
      ((field.setting? upper).map (laidOver (field.setting? lower))).or (field.setting? lower) :=
  (section_overlay below above).2 field

/-- A table is no value of a field, so what lies below a value does not matter for the field. -/
theorem valueIn_eq_normal_laidOver_iff {field : Field} {settings : ControllerSettings}
    (below : Option Value) (value : Value) :
    field.valueIn settings = (laidOver below value).normal ↔
      field.valueIn settings = value.normal := by
  cases below with
  | none => rfl
  | some lower =>
    obtain same | ⟨⟨joined, table⟩, members, rfl⟩ := lower.overlay_eq_or value
    · rw [laidOver, Option.elim_some, same]
    · rw [laidOver, Option.elim_some, table]
      exact iff_of_false (field.valueIn_noTable settings joined)
        (field.valueIn_noTable settings members)

theorem isSectioned_defaultLayer : IsSectioned defaultLayer where
  isLayer := by
    refine Value.isLayer_table
      (Value.inOrder_singleton (Value.inOrder_sortMembers fun entry member => ?_))
    simp only [List.mem_cons, List.not_mem_nil, or_false] at member
    rcases member with rfl | rfl | rfl | rfl | rfl | rfl | rfl | rfl | rfl <;> exact .other nofun
  hasSection _ found := ⟨_, (Option.some.inj found).symm⟩

theorem setting?_defaultLayer (field : Field) :
    field.setting? defaultLayer = some (field.valueIn {}) := by
  cases field <;> rfl

theorem exists_setting (below : IsSectioned lower) (above : IsSectioned upper) (field : Field) :
    ∃ value, field.setting? ((defaultLayer.overlay lower).overlay upper) = some value ∧
      ∀ controller, field.valueIn controller = value.normal ↔
        field.valueIn controller = (winning lower upper field).normal := by
  rw [setting?_overlay (isSectioned_defaultLayer.overlay below) above,
    setting?_overlay isSectioned_defaultLayer below, setting?_defaultLayer, winning]
  cases field.setting? upper with
  | some value => exact ⟨_, rfl, fun _ => valueIn_eq_normal_laidOver_iff _ value⟩
  | none =>
    cases field.setting? lower with
    | some value => exact ⟨_, rfl, fun _ => valueIn_eq_normal_laidOver_iff _ value⟩
    | none => exact ⟨_, rfl, fun _ => Iff.rfl⟩

theorem ofValue_eq_ok_iff {layer : Value} {wanted : Field → Value} (sectioned : IsSectioned layer)
    (sets : ∀ field : Field, field.setting? layer = some (wanted field)) :
    ofValue layer = .ok settings ↔
      ∀ field : Field, field.valueIn settings.controller = (wanted field).normal := by
  obtain ⟨entry, found, -⟩ := Option.bind_eq_some_iff.1 (sets .deletionPoll)
  obtain ⟨members, rfl⟩ := sectioned.hasSection entry found
  have increasing := (Value.inOrder_table_iff.1 (sectioned.isLayer.inOrder_of_member? found)).1
  have read : ofValue layer = (setMembers blank members).map fun controller => { controller } := by
    rw [ofValue, found]
    rfl
  have set : setMembers blank members = .ok settings.controller ↔
      ∀ field : Field, field.valueIn settings.controller = (wanted field).normal := by
    refine (setMembers_eq_ok_iff increasing).trans (forall_congr' fun field => ?_)
    have member : members.lookup field.key = some (wanted field) := by
      rw [← sets field, Field.setting?, found]
      rfl
    rw [member]
    rfl
  rw [read, ← set]
  refine ⟨fun done => ?_, fun done => by rw [done]; rfl⟩
  obtain ⟨controller, taken, rfl⟩ := exists_of_map_eq_ok done
  exact taken

theorem load_eq_ok_iff {file : Option File} {environment : List (String × String)}
    (read : fileLayer file = .ok lower) (readEnvironment : Variable.layer? environment = some upper)
    (lowerSection : HasSection lower) (upperSection : HasSection upper) :
    load file environment = .ok settings ↔
      ∀ field : Field, field.valueIn settings.controller = (winning lower upper field).normal := by
  have below : IsSectioned lower := ⟨isLayer_of_fileLayer read, lowerSection⟩
  have above : IsSectioned upper := ⟨Variable.isLayer_of_layer? readEnvironment, upperSection⟩
  have loaded : load file environment = ofValue ((defaultLayer.overlay lower).overlay upper) := by
    rw [load, readEnvironment, read]
  choose value sets same using exists_setting below above
  rw [loaded, ofValue_eq_ok_iff ((isSectioned_defaultLayer.overlay below).overlay above) sets]
  exact forall_congr' fun field => same field settings.controller

/-- A file that is not there, or whose name does not end in that of a format of settings. -/
def File.IsPassedOver (file : File) : Prop :=
  file.content = none ∨
    Format.extension? file.path ∉ [some "json", some "yaml", some "yml", some "toml"]

theorem fileLayer_of_isPassedOver {file : Option File}
    (passedOver : ∀ named ∈ file, named.IsPassedOver) :
    fileLayer file = .ok (.table []) := by
  cases file with
  | none => rfl
  | some named =>
    rw [fileLayer, File.layer]
    obtain missing | unknown := passedOver named rfl
    · rw [missing]
      split
      · contradiction
      · rfl
    · have noFormat : Format.ofPath? named.path = none := by
        rw [Format.ofPath?]
        split <;> simp_all
      rw [noFormat]

theorem hasSection_empty : HasSection (.table []) := nofun

theorem setting?_empty (field : Field) : field.setting? (.table []) = none := rfl

/-- The settings are the winning values of the fields, and they are loaded just if each field admits
its winning value, whatever the layers below have for it. A file that is not there, or of another
format, has no part in it. -/
theorem winning_value_per_field {file : Option File} {environment : List (String × String)}
    (read : fileLayer file = .ok lower) (readEnvironment : Variable.layer? environment = some upper)
    (lowerSection : HasSection lower) (upperSection : HasSection upper) :
    ((∃ settings, load file environment = .ok settings) ↔
      ∀ field : Field, field.Admits (winning lower upper field)) ∧
      (∀ settings, load file environment = .ok settings →
        ∀ field : Field, field.valueIn settings.controller = (winning lower upper field).normal) ∧
      ∀ unread : Option File, (∀ named ∈ unread, named.IsPassedOver) →
        load unread environment = load none environment ∧
        ∀ settings, load unread environment = .ok settings ↔
          ∀ field : Field, field.valueIn settings.controller =
            ((field.setting? upper).getD (field.valueIn {})).normal := by
  have loads (settings : Settings) : load file environment = .ok settings ↔
      ∀ field : Field, field.valueIn settings.controller = (winning lower upper field).normal :=
    load_eq_ok_iff read readEnvironment lowerSection upperSection
  refine ⟨⟨?_, fun admitted => ?_⟩, fun settings => (loads settings).1,
    fun unread passedOver => ⟨?_, fun settings => ?_⟩⟩
  · rintro ⟨settings, loaded⟩ field
    exact Field.admits_iff.2 ⟨settings.controller, (loads settings).1 loaded field⟩
  · obtain ⟨controller, held⟩ := Field.exists_settings fun field =>
      Field.admits_iff.1 (admitted field)
    exact ⟨{ controller }, (loads { controller }).2 held⟩
  · have nothing : fileLayer unread = fileLayer none := fileLayer_of_isPassedOver passedOver
    rw [load, load, nothing]
  · rw [load_eq_ok_iff (fileLayer_of_isPassedOver passedOver) readEnvironment hasSection_empty
      upperSection]
    simp only [winning, setting?_empty, Option.or_none]

end

def sampleDocument : Json :=
  .object [("controller", .object [("colour", .bool true), ("deletion_poll_secs", .string "soon"),
    ("error_requeue_secs", .number (.integer 60))])]

theorem sampleDocument_plain : sampleDocument.Plain 127 := by
  refine .object (by decide)
    (List.forall_mem_singleton.2 (.object (by decide) fun entry member => ?_))
  simp only [List.mem_cons, List.not_mem_nil, or_false] at member
  obtain rfl | rfl | rfl := member
  · exact .bool _ true
  · exact .string _ "soon"
  · exact .integer _ (by decide) (by decide)

def sampleFile : File := { path := "config.json", content := some sampleDocument.print }

def sampleLower : Value :=
  .table [("controller", .table [("colour", .flag true), ("deletion_poll_secs", .text "soon"),
    ("error_requeue_secs", .unsigned 60)])]

theorem fileLayer_sampleFile : fileLayer (some sampleFile) = .ok sampleLower := by
  have format : Format.ofPath? "config.json" = some .json := by decide +kernel
  simp only [fileLayer, File.layer, sampleFile, format, Format.read?,
    Json.parse?_print sampleDocument_plain]
  rfl

def sampleEnvironment : List (String × String) :=
  [("NFS_OPERATOR__CONTROLLER__DELETION_POLL_SECS", "2"), ("HOME", "/root"),
    ("NFS_OPERATOR__CONTROLLER__PRIORITY_CLASS_NAME", "storage-critical")]

def sampleUpper : Value :=
  .table [("controller", .table [("deletion_poll_secs", .unsigned 2),
    ("priority_class_name", .text "storage-critical")])]

theorem layer?_sampleEnvironment : Variable.layer? sampleEnvironment = some sampleUpper := by
  have poll : Variable.path? "NFS_OPERATOR__CONTROLLER__DELETION_POLL_SECS" =
    some ["controller", "deletion_poll_secs"] := by decide +kernel
  have home : Variable.path? "HOME" = none := by decide +kernel
  have priority : Variable.path? "NFS_OPERATOR__CONTROLLER__PRIORITY_CLASS_NAME" =
    some ["controller", "priority_class_name"] := by decide +kernel
  have two : Variable.read? "2" = some (.unsigned 2) := rfl
  have critical : Variable.read? "storage-critical" = some (.text "storage-critical") := rfl
  simp only [Variable.layer?, sampleEnvironment, List.foldlM_cons, List.foldlM_nil, poll, home,
    priority, two, critical]
  rfl

/-- The text of the file lies under a number of the environment and does no harm, and the fields
that neither sets keep their defaults. -/
theorem winning_value_per_field_of_sample :
    fileLayer (some sampleFile) = .ok sampleLower ∧
      Variable.layer? sampleEnvironment = some sampleUpper ∧
      HasSection sampleLower ∧ HasSection sampleUpper ∧
      load (some sampleFile) sampleEnvironment = .ok { controller := {
        deletionPollSecs := 2, errorRequeueSecs := 60,
        priorityClassName := "storage-critical" } } := by
  have lowerSection : HasSection sampleLower := fun _ found => ⟨_, (Option.some.inj found).symm⟩
  have upperSection : HasSection sampleUpper := fun _ found => ⟨_, (Option.some.inj found).symm⟩
  refine ⟨fileLayer_sampleFile, layer?_sampleEnvironment, lowerSection, upperSection, ?_⟩
  obtain ⟨succeeds, wins, -⟩ :=
    winning_value_per_field fileLayer_sampleFile layer?_sampleEnvironment lowerSection upperSection
  obtain ⟨settings, loaded⟩ := succeeds.2 fun field => by
    cases field <;> first | exact ⟨_, rfl⟩ | exact ⟨_, by decide, rfl⟩
  have same : settings.controller =
      { deletionPollSecs := 2, errorRequeueSecs := 60, priorityClassName := "storage-critical" } :=
    Field.ext_of_valueIn fun field => by
      rw [wins settings loaded field]
      cases field <;> rfl
  rw [loaded, ← same]

end CephExport.Settings
