import CephExport.Proofs.Resource.Conformity
import CephExport.Proofs.Resource.Naming
import CephExport.Proofs.Resource.Subdomain
import CephExport.Reconcile.Cluster

/-!
Which names, labels and selectors of the wanted objects an API server admits. All names are short
enough; one that was cut is admitted unless it was cut right behind a dot, since then a segment
begins with the dash in front of the digits. The only label that may be refused is the one that has
the name of the parent uncut.
-/

set_option autoImplicit false
set_option relaxedAutoImplicit false

namespace CephExport

theorem isEnding_of_letters {text : List Char} (letters : ∀ c ∈ text, isNameLetter c = true)
    (given : text ≠ []) :
    IsEnding ('-' :: text) where
  last := by
    rw [List.getLast?_cons, List.getLast?_eq_some_getLast given]
    exact letters _ (List.getLast_mem given)
  within :=
    List.forall_mem_cons.2 ⟨rfl, fun c member => isSegmentCharacter_of_letter (letters c member)⟩

namespace Digest.Blake3

theorem isNameLetter_digitChar {n : Nat} (digit : n < 16) :
    isNameLetter (Nat.digitChar n) = true := by
  interval_cases n <;> decide

theorem isNameLetter_of_mem_byteDigits {byte : Nat} (small : byte < 256) {c : Char}
    (member : c ∈ byteDigits byte) : isNameLetter c = true := by
  have high : byte / 16 < 16 := by omega
  have low : byte % 16 < 16 := by omega
  simp only [byteDigits, List.mem_cons, List.not_mem_nil, or_false] at member
  rcases member with rfl | rfl
  · exact isNameLetter_digitChar high
  · exact isNameLetter_digitChar low

theorem isNameLetter_of_mem_hex {text : String} {c : Char} (member : c ∈ (hex text).toList) :
    isNameLetter c = true := by
  rw [hex, hexOfBytes, String.toList_ofList, List.mem_flatMap] at member
  obtain ⟨w, -, digit⟩ := member
  have small : ∀ n : Nat, n % 256 < 256 := fun n => Nat.mod_lt n (by decide)
  simp only [wordDigits, List.mem_append] at digit
  rcases digit with ((first | second) | third) | fourth
  · exact isNameLetter_of_mem_byteDigits (small _) first
  · exact isNameLetter_of_mem_byteDigits (small _) second
  · exact isNameLetter_of_mem_byteDigits (small _) third
  · exact isNameLetter_of_mem_byteDigits (small _) fourth

end Digest.Blake3

theorem isEnding_shortHash (full : String) :
    IsEnding ('-' :: (shortHash full hashSuffixLength).toList) := by
  apply isEnding_of_letters
  · intro c member
    rw [shortHash, String.toList_ofList] at member
    exact Digest.Blake3.isNameLetter_of_mem_hex (List.mem_of_mem_take member)
  · apply List.ne_nil_of_length_pos
    rw [length_shortHash]
    decide

theorem Kind.isEnding_tag (kind : Kind) : IsEnding ('-' :: kind.tag.toList) where
  last := by cases kind <;> decide
  within := by
    rw [← List.all_eq_true]
    cases kind <;> decide

theorem toList_shortenedName (full : String) :
    (shortenedName full).toList =
      trimDashes (full.toList.take keptLength) ++ '-' ::
        (shortHash full hashSuffixLength).toList := by
  simp [shortenedName]

theorem length_shortenedName_le (full : String) :
    (shortenedName full).toList.length ≤ maxNameLength := by
  have kept : (trimDashes (full.toList.take keptLength)).length ≤ keptLength :=
    (List.rdropWhile_prefix (· == '-') _).length_le.trans (List.length_take_le _ _)
  have room : keptLength + (hashSuffixLength + 1) = maxNameLength := rfl
  rw [toList_shortenedName, List.length_append, List.length_cons, length_shortHash]
  omega

theorem take_keptLength_ne_nil {text : List Char} (given : text ≠ []) :
    text.take keptLength ≠ [] := by
  simpa [List.take_eq_nil_iff, keptLength, maxNameLength, hashSuffixLength] using given

/-- Wherever it is cut, a name that begins with a letter does so still, and it ends with a digit. -/
theorem Enclosed.shortened {full : String} (h : Enclosed isNameLetter isNameCharacter full.toList) :
    Enclosed isNameLetter isNameCharacter (shortenedName full).toList := by
  obtain ⟨c, more, kept⟩ := List.exists_cons_of_ne_nil (take_keptLength_ne_nil h.ne_nil)
  have whole : full.toList = (c :: more) ++ full.toList.drop keptLength := by
    rw [← kept, List.take_append_drop]
  have letter : isNameLetter c = true := by
    have first := h.first
    rw [whole] at first
    exact first
  have trimmed : trimDashes (c :: more) = c :: trimDashes more := trimDashes_cons letter
  have ends := isEnding_shortHash full
  rw [toList_shortenedName, kept]
  refine Enclosed.of_append ?_ ?_ ends.last fun d member =>
    isNameCharacter_of_segment (ends.within d member)
  · rw [trimmed]
    exact letter
  · intro d member
    apply h.within
    rw [whole]
    exact List.mem_append_left _ (mem_of_mem_trimDashes member)

/-- A full name is too long, and the last character that is kept of it is a dot. -/
def CutBehindDot (full : String) : Prop :=
  maxNameLength < full.utf8ByteSize ∧ (full.toList.take keptLength).getLast? = some '.'

instance (full : String) : Decidable (CutBehindDot full) := inferInstanceAs (Decidable (_ ∧ _))

namespace Kind

variable (kind : Kind) {parent : String}

theorem isDotted_fullName (admitted : IsSubdomain parent) :
    IsDotted (fullName parent kind.tag).toList := by
  rw [toList_fullName]
  exact admitted.dotted.append kind.isEnding_tag

theorem isDotted_shortenedName_iff (admitted : IsSubdomain parent) :
    IsDotted (shortenedName (fullName parent kind.tag)).toList ↔
      ((fullName parent kind.tag).toList.take keptLength).getLast? ≠ some '.' := by
  have dotted := kind.isDotted_fullName admitted
  have given := take_keptLength_ne_nil dotted.enclosed.ne_nil
  rw [← List.take_append_drop keptLength (fullName parent kind.tag).toList] at dotted
  rw [toList_shortenedName]
  exact dotted.trimDashes_append_iff given (isEnding_shortHash _)

theorem enclosed_deriveName (admitted : IsSubdomain parent) :
    Enclosed isNameLetter isNameCharacter (deriveName parent kind.tag).toList := by
  have full := (kind.isDotted_fullName admitted).enclosed
  by_cases short : (fullName parent kind.tag).utf8ByteSize ≤ maxNameLength
  · rw [deriveName_of_short short]
    exact full
  · rw [deriveName_of_long short]
    exact full.shortened

theorem utf8ByteSize_deriveName_le (admitted : IsSubdomain parent) :
    (deriveName parent kind.tag).utf8ByteSize ≤ maxNameLength := by
  by_cases short : (fullName parent kind.tag).utf8ByteSize ≤ maxNameLength
  · rwa [deriveName_of_short short]
  · rw [utf8ByteSize_eq_length (kind.enclosed_deriveName admitted).within, deriveName_of_long short]
    exact length_shortenedName_le _

/-- The name of a resource of a parent that is admitted is never too long, and it is admitted itself
unless it was cut right behind a dot. -/
theorem deriveName_isSubdomain_iff (admitted : IsSubdomain parent) :
    (deriveName parent kind.tag).utf8ByteSize ≤ maxNameLength ∧
      (IsSubdomain (deriveName parent kind.tag) ↔ ¬CutBehindDot (fullName parent kind.tag)) := by
  have size := kind.utf8ByteSize_deriveName_le admitted
  have short : (deriveName parent kind.tag).utf8ByteSize ≤ 253 := size.trans (by decide)
  have admits : IsSubdomain (deriveName parent kind.tag) ↔
      IsDotted (deriveName parent kind.tag).toList :=
    ⟨fun h => h.dotted, fun h => ⟨short, h⟩⟩
  refine ⟨size, ?_⟩
  rw [admits]
  by_cases whole : (fullName parent kind.tag).utf8ByteSize ≤ maxNameLength
  · rw [deriveName_of_short whole]
    exact iff_of_true (kind.isDotted_fullName admitted) fun cut => Nat.not_le.2 cut.1 whole
  · rw [deriveName_of_long whole, kind.isDotted_shortenedName_iff admitted, CutBehindDot,
      and_iff_right (Nat.lt_of_not_le whole)]

/-- A long name that is cut elsewhere. -/
theorem cut_name_isSubdomain :
    IsSubdomain "storage-cluster-with-a-really-long-name-that-keeps-going" ∧
      IsSubdomain (deriveName "storage-cluster-with-a-really-long-name-that-keeps-going"
        service.tag) := by
  have admitted : IsSubdomain "storage-cluster-with-a-really-long-name-that-keeps-going" := by
    decide +kernel
  have elsewhere : ¬CutBehindDot
      (fullName "storage-cluster-with-a-really-long-name-that-keeps-going" service.tag) := by
    decide +kernel
  exact ⟨admitted, (service.deriveName_isSubdomain_iff admitted).2.2 elsewhere⟩

/-- The fifty-fourth character of this parent is a dot, so that the name of its Service has a
segment that begins with a dash. -/
theorem name_cut_behind_dot_not_isSubdomain :
    IsSubdomain "storage-cluster-for-the-media-archive-of-eu-north-1-s.corp" ∧
      ¬IsSubdomain
        (deriveName "storage-cluster-for-the-media-archive-of-eu-north-1-s.corp" service.tag) := by
  have admitted : IsSubdomain "storage-cluster-for-the-media-archive-of-eu-north-1-s.corp" := by
    decide +kernel
  have cut : CutBehindDot
      (fullName "storage-cluster-for-the-media-archive-of-eu-north-1-s.corp" service.tag) := by
    decide +kernel
  refine ⟨admitted, fun legal => ?_⟩
  have dotted := legal.dotted
  rw [deriveName_of_long (Nat.not_le.2 cut.1)] at dotted
  exact (service.isDotted_shortenedName_iff admitted).1 dotted cut.2

end Kind

def isLabelLetter (c : Char) : Bool := isNameLetter c || ('A' ≤ c && c ≤ 'Z')

def isLabelCharacter (c : Char) : Bool := isLabelLetter c || c == '-' || c == '_' || c == '.'

/-- The values that an API server admits for labels and in selectors. -/
structure IsLabelValue (value : String) : Prop where
  short : value.utf8ByteSize ≤ 63
  enclosed : Enclosed isLabelLetter isLabelCharacter value.toList

instance (value : String) : Decidable (IsLabelValue value) :=
  decidable_of_iff (value.utf8ByteSize ≤ 63 ∧ Enclosed isLabelLetter isLabelCharacter value.toList)
    ⟨fun h => ⟨h.1, h.2⟩, fun h => ⟨h.short, h.enclosed⟩⟩

theorem IsLabelValue.of_enclosed {value : String} (short : value.utf8ByteSize ≤ 63)
    (h : Enclosed isNameLetter isNameCharacter value.toList) : IsLabelValue value where
  short := short
  enclosed := by
    refine h.mono (fun c letter => ?_) fun c allowed => ?_
    · rw [isLabelLetter, letter, Bool.true_or]
    · simp only [isNameCharacter, isSegmentCharacter, Bool.or_eq_true] at allowed
      simp only [isLabelCharacter, isLabelLetter, Bool.or_eq_true]
      tauto

def Managed.selectors {kind : Kind} (object : Managed kind) : List (String × String) :=
  match kind, object with
  | .service, object => ((ServiceBody.selector object.body).map (·.entries)).getD []
  | _, _ => []

/-- A cluster whose name is one byte longer than the value of a label may be. -/
def Cluster.longNamed : Cluster :=
  { Cluster.sample with
    metadata := { Cluster.sample.metadata with
      name := some "storage-cluster-for-the-media-archive-of-eu-north-1-second-floor" } }

def Cluster.longNamedKey : ObjectKey :=
  ⟨"rook", "storage-cluster-for-the-media-archive-of-eu-north-1-second-floor"⟩

theorem Cluster.longNamed_isAt : Cluster.longNamed.IsAt Cluster.longNamedKey := ⟨rfl, rfl⟩

theorem Cluster.longNamed_admitted : IsSubdomain Cluster.longNamedKey.name := by
  decide +kernel

namespace Kind

variable {kind : Kind} {cluster : Cluster} {scheme : OwnerScheme} {settings : Settings}
  {parent : String} {desired : Managed kind}

theorem isLabelValue_tag (kind : Kind) : IsLabelValue kind.tag := by
  cases kind <;> decide +kernel

theorem isLabelValue_deriveName (kind : Kind) (admitted : IsSubdomain parent) :
    IsLabelValue (deriveName parent kind.tag) :=
  .of_enclosed (kind.utf8ByteSize_deriveName_le admitted) (kind.enclosed_deriveName admitted)

theorem isLabelValue_of_mem_managedLabels {entry : String × String}
    (member : entry ∈ (managedLabels parent kind.tag).entries) (other : entry.1 ≠ partOfLabel) :
    IsLabelValue entry.2 := by
  have listed := KeyMap.mem_of_mem_ofList member
  simp only [List.mem_cons, List.not_mem_nil, or_false] at listed
  rcases listed with rfl | rfl | rfl
  · change IsLabelValue operatorName
    decide +kernel
  · exact absurd rfl other
  · exact kind.isLabelValue_tag

theorem isLabelValue_of_mem_selectors (named : cluster.metadata.name = some parent)
    (admitted : IsSubdomain parent) (built : kind.desired cluster scheme settings = .ok desired)
    {entry : String × String} (member : entry ∈ desired.selectors) : IsLabelValue entry.2 := by
  obtain ⟨place, owner, placed, -, ownerName, rfl⟩ := exists_eq_of_desired built
  have same : owner.name = parent :=
    ownerName.trans (Option.some.inj (placed.name.symm.trans named))
  cases kind with
  | blockPool | exporter => exact absurd member List.not_mem_nil
  | service =>
    have listed := KeyMap.mem_of_mem_ofList member
    simp only [List.mem_cons, List.not_mem_nil, or_false] at listed
    rcases listed with rfl | rfl
    · change IsLabelValue nfsAppLabel
      decide +kernel
    · rw [same]
      exact exporter.isLabelValue_deriveName admitted

/-- Of a wanted object the labels and the selector have values that are admitted, but for the label
with the name of the parent, which is admitted just if that name is no longer than a value may
be. -/
theorem labelValues_legal_iff (named : cluster.metadata.name = some parent)
    (admitted : IsSubdomain parent) (built : kind.desired cluster scheme settings = .ok desired) :
    (∀ entry ∈ desired.metadata.labelMap.entries, entry.1 ≠ partOfLabel → IsLabelValue entry.2) ∧
      (∀ entry ∈ desired.selectors, IsLabelValue entry.2) ∧
      ((∀ entry ∈ desired.metadata.labelMap.entries, IsLabelValue entry.2) ↔
        parent.utf8ByteSize ≤ 63) := by
  obtain ⟨place, owner, placed, -, ownerName, whole⟩ := exists_eq_of_desired built
  have same : owner.name = parent :=
    ownerName.trans (Option.some.inj (placed.name.symm.trans named))
  have labels : desired.metadata.labelMap = managedLabels parent kind.tag := by
    rw [whole, ← same]
    rfl
  refine ⟨?_, fun entry member => isLabelValue_of_mem_selectors named admitted built member, ?_⟩
  · rw [labels]
    exact fun entry member other => isLabelValue_of_mem_managedLabels member other
  · rw [labels]
    constructor
    · intro legal
      exact (legal _ (KeyMap.mem_of_get? (get?_partOf parent kind.tag))).short
    · intro short entry member
      by_cases partOf : entry.1 = partOfLabel
      · have value : (managedLabels parent kind.tag).get? entry.1 = some entry.2 :=
          KeyMap.get?_of_mem member
        rw [partOf, get?_partOf] at value
        rw [← Option.some.inj value]
        exact .of_enclosed short admitted.dotted.enclosed
      · exact isLabelValue_of_mem_managedLabels member partOf

theorem exists_desired_longNamed (kind : Kind) :
    ∃ desired, kind.desired Cluster.longNamed V1alpha1.Cluster.scheme {} = .ok desired ∧
      desired.metadata.labelMap.get? partOfLabel = some Cluster.longNamedKey.name := by
  obtain ⟨owner, owned⟩ : ∃ owner,
      V1alpha1.Cluster.scheme.controllerRef Cluster.longNamed.metadata = .ok owner :=
    V1alpha1.Cluster.scheme.exists_controllerRef rfl rfl
  have ownerName : some Cluster.longNamedKey.name = some owner.name :=
    (OwnerScheme.controllerRef_eq_ok_iff.1 owned).name
  refine ⟨_, desired_of_isAt Cluster.longNamed_isAt owned, ?_⟩
  rw [ownerName]
  exact get?_partOf owner.name kind.tag

theorem service_of_longNamed_labels :
    ∃ desired : Managed .service,
      service.desired Cluster.longNamed V1alpha1.Cluster.scheme {} = .ok desired ∧
      (∀ entry ∈ desired.metadata.labelMap.entries, entry.1 ≠ partOfLabel → IsLabelValue entry.2) ∧
      (∀ entry ∈ desired.selectors, IsLabelValue entry.2) ∧
      ((∀ entry ∈ desired.metadata.labelMap.entries, IsLabelValue entry.2) ↔
        Cluster.longNamedKey.name.utf8ByteSize ≤ 63) := by
  obtain ⟨desired, built, -⟩ := exists_desired_longNamed service
  exact ⟨desired, built, labelValues_legal_iff rfl Cluster.longNamed_admitted built⟩

/-- A server that admits the name of a cluster may still refuse the label with this name on its
pool. -/
theorem pool_of_longNamed_label_not_legal :
    IsSubdomain Cluster.longNamedKey.name ∧
      ∃ desired : Managed .blockPool,
        blockPool.desired Cluster.longNamed V1alpha1.Cluster.scheme {} = .ok desired ∧
          ∃ entry ∈ desired.metadata.labelMap.entries, ¬IsLabelValue entry.2 := by
  obtain ⟨desired, built, partOf⟩ := exists_desired_longNamed blockPool
  have tooLong : ¬IsLabelValue Cluster.longNamedKey.name := by decide +kernel
  exact ⟨Cluster.longNamed_admitted, desired, built, _, KeyMap.mem_of_get? partOf, tooLong⟩

end Kind

end CephExport
