import CephExport.Naming
import CephExport.Proofs.Resource.Parent
import Mathlib.Tactic.IntervalCases

/-!
When the resources of two parents have the same name. A full name can never be mistaken for one that
was cut, as the latter ends in digits where the former has a dash; and two cut names are the same
just if the digits of their hashes are and what is kept before these. Tags are told apart by their
last letters.
-/

set_option autoImplicit false
set_option relaxedAutoImplicit false

namespace CephExport

namespace Digest.Blake3

theorem digitChar_ne_dash (n : Nat) : Nat.digitChar n ≠ '-' := by
  by_cases digit : n < 16
  · interval_cases n <;> decide
  · have beyond : Nat.digitChar n = '*' := by
      simp only [Nat.digitChar]
      repeat rw [if_neg (by omega)]
    rw [beyond]
    decide

theorem dash_notMem_wordDigits (w : UInt32) : '-' ∉ wordDigits w := by
  simp [wordDigits, byteDigits, (digitChar_ne_dash _).symm]

theorem length_wordDigits (w : UInt32) : (wordDigits w).length = 8 := rfl

theorem length_compress (chaining message : Array UInt32) (counter : Nat) (length flags : UInt32) :
    (compress chaining message counter length flags).toList.length = 8 := rfl

theorem dash_notMem_hex (text : String) : '-' ∉ (hex text).toList := by
  intro member
  rw [hex, hexOfBytes, String.toList_ofList, List.mem_flatMap] at member
  obtain ⟨w, -, digit⟩ := member
  exact dash_notMem_wordDigits w digit

theorem length_hex (text : String) : (hex text).toList.length = 64 := by
  rw [hex, hexOfBytes, String.toList_ofList, List.length_flatMap]
  simp only [length_wordDigits, List.map_const', Node.rootValue, length_compress]
  rfl

end Digest.Blake3

theorem length_shortHash (text : String) :
    (shortHash text hashSuffixLength).toList.length = hashSuffixLength := by
  have enough : hashSuffixLength ≤ (Digest.Blake3.hex text).toList.length := by
    rw [Digest.Blake3.length_hex]
    decide
  rw [shortHash, String.toList_ofList, List.length_take, Nat.min_eq_left enough]

theorem dash_notMem_shortHash (text : String) (length : Nat) :
    '-' ∉ (shortHash text length).toList := by
  intro member
  rw [shortHash, String.toList_ofList] at member
  exact Digest.Blake3.dash_notMem_hex text (List.mem_of_mem_take member)

def nameTail (name : String) : List Char := name.toList.reverse.take hashSuffixLength

theorem nameTail_shortenedName (full : String) :
    nameTail (shortenedName full) = (shortHash full hashSuffixLength).toList.reverse := by
  have split : (shortenedName full).toList.reverse =
      (shortHash full hashSuffixLength).toList.reverse ++
        '-' :: (trimDashes (full.toList.take keptLength)).reverse := by
    simp [shortenedName]
  have digits : (shortHash full hashSuffixLength).toList.reverse.length = hashSuffixLength := by
    rw [List.length_reverse, length_shortHash]
  rw [nameTail, split, List.take_left' digits]

/-- A tag that is short, or has a dash near its end: where it ends a full name, the dash shows among
the last characters. -/
def ShowsDash (tag : String) : Prop := '-' ∈ ('-' :: tag.toList).reverse.take hashSuffixLength

theorem Kind.showsDash_tag (kind : Kind) : ShowsDash kind.tag := by
  cases kind <;> unfold ShowsDash <;> decide

theorem dash_mem_nameTail_fullName {tag : String} (shows : ShowsDash tag) (parent : String) :
    '-' ∈ nameTail (fullName parent tag) := by
  have split : (fullName parent tag).toList.reverse =
      ('-' :: tag.toList).reverse ++ parent.toList.reverse := by
    simp [fullName]
  rw [nameTail, split, List.take_append]
  exact List.mem_append_left _ shows

theorem fullName_ne_shortenedName {tag : String} (shows : ShowsDash tag) (parent full : String) :
    fullName parent tag ≠ shortenedName full := by
  intro same
  have shown := dash_mem_nameTail_fullName shows parent
  rw [same, nameTail_shortenedName, List.mem_reverse] at shown
  exact dash_notMem_shortHash full hashSuffixLength shown

def keptStem (full : String) : List Char := trimDashes (full.toList.take keptLength)

theorem shortHash_eq_of_shortenedName_eq {full other : String}
    (h : shortenedName full = shortenedName other) :
    shortHash full hashSuffixLength = shortHash other hashSuffixLength := by
  have tails := congrArg nameTail h
  rw [nameTail_shortenedName, nameTail_shortenedName] at tails
  exact String.toList_inj.1 (List.reverse_inj.1 tails)

theorem shortenedName_eq_iff {full other : String} :
    shortenedName full = shortenedName other ↔
      keptStem full = keptStem other ∧
        shortHash full hashSuffixLength = shortHash other hashSuffixLength := by
  constructor
  · intro same
    have digits := shortHash_eq_of_shortenedName_eq same
    have texts := congrArg String.toList same
    simp only [shortenedName, digits, String.toList_append, String.toList_ofList,
      List.append_assoc] at texts
    exact ⟨List.append_cancel_right texts, digits⟩
  · rintro ⟨stems, digits⟩
    change String.ofList (keptStem full) ++ "-" ++ _ = String.ofList (keptStem other) ++ "-" ++ _
    rw [stems, digits]

theorem toList_fullName (parent tag : String) :
    (fullName parent tag).toList = parent.toList ++ '-' :: tag.toList := by
  simp [fullName]

theorem fullName_injective {tag parent other : String}
    (h : fullName parent tag = fullName other tag) :
    parent = other := by
  have texts := congrArg String.toList h
  rw [toList_fullName, toList_fullName] at texts
  exact String.toList_inj.1 (List.append_cancel_right texts)

theorem getLast?_fullName (parent tag : String) :
    (fullName parent tag).toList.getLast? = ('-' :: tag.toList).getLast? := by
  rw [toList_fullName, List.getLast?_append, List.getLast?_cons, Option.some_or]

/-- No two tags end with the same letter, so that a full name tells its kind and its parent. -/
theorem Kind.fullName_injective {kind kind' : Kind} {parent other : String}
    (h : fullName parent kind.tag = fullName other kind'.tag) : parent = other ∧ kind = kind' := by
  have ends : ('-' :: kind.tag.toList).getLast? = ('-' :: kind'.tag.toList).getLast? := by
    rw [← getLast?_fullName parent, ← getLast?_fullName other, h]
  have same : kind = kind' := by
    revert ends
    cases kind <;> cases kind' <;> decide
  subst same
  exact ⟨CephExport.fullName_injective h, rfl⟩

/-- Two full names are both cut, and the digits by which they are told apart are the same. -/
def DigitsCollide (full other : String) : Prop :=
  maxNameLength < full.utf8ByteSize ∧ maxNameLength < other.utf8ByteSize ∧
    shortHash full hashSuffixLength = shortHash other hashSuffixLength

def NamesCollide (tag parent other : String) : Prop :=
  maxNameLength < (fullName parent tag).utf8ByteSize ∧
    maxNameLength < (fullName other tag).utf8ByteSize ∧
    shortHash (fullName parent tag) hashSuffixLength =
      shortHash (fullName other tag) hashSuffixLength

instance (tag parent other : String) : Decidable (NamesCollide tag parent other) :=
  inferInstanceAs (Decidable (_ ∧ _ ∧ _))

theorem deriveName_of_short {parent tag : String}
    (short : (fullName parent tag).utf8ByteSize ≤ maxNameLength) :
    deriveName parent tag = fullName parent tag :=
  if_pos short

theorem deriveName_of_long {parent tag : String}
    (long : ¬(fullName parent tag).utf8ByteSize ≤ maxNameLength) :
    deriveName parent tag = shortenedName (fullName parent tag) := if_neg long

section

variable {tag tag' : String} (shows : ShowsDash tag) (shows' : ShowsDash tag')
  (parent other : String)
include shows

theorem deriveName_ne_of_short_of_long (short : (fullName parent tag).utf8ByteSize ≤ maxNameLength)
    (long : ¬(fullName other tag').utf8ByteSize ≤ maxNameLength) :
    deriveName parent tag ≠ deriveName other tag' := by
  rw [deriveName_of_short short, deriveName_of_long long]
  exact fullName_ne_shortenedName shows parent _

include shows'

theorem deriveName_eq_iff :
    deriveName parent tag = deriveName other tag' ↔
      fullName parent tag = fullName other tag' ∨
        DigitsCollide (fullName parent tag) (fullName other tag') ∧
          keptStem (fullName parent tag) = keptStem (fullName other tag') := by
  by_cases short : (fullName parent tag).utf8ByteSize ≤ maxNameLength <;>
    by_cases short' : (fullName other tag').utf8ByteSize ≤ maxNameLength
  · rw [deriveName_of_short short, deriveName_of_short short']
    exact ⟨.inl, fun h => h.resolve_right fun collide => absurd short (Nat.not_le.2 collide.1.1)⟩
  · refine iff_of_false (deriveName_ne_of_short_of_long shows parent other short short') ?_
    rintro (same | collide)
    · exact short' (same ▸ short)
    · exact absurd short (Nat.not_le.2 collide.1.1)
  · refine iff_of_false (deriveName_ne_of_short_of_long shows' other parent short' short).symm ?_
    rintro (same | collide)
    · exact short (same ▸ short')
    · exact absurd short' (Nat.not_le.2 collide.1.2.1)
  · rw [deriveName_of_long short, deriveName_of_long short', shortenedName_eq_iff]
    constructor
    · rintro ⟨stems, digits⟩
      exact .inr ⟨⟨Nat.lt_of_not_le short, Nat.lt_of_not_le short', digits⟩, stems⟩
    · rintro (same | ⟨collide, stems⟩)
      · rw [same]
        exact ⟨rfl, rfl⟩
      · exact ⟨stems, collide.2.2⟩

end

theorem eq_or_collide_of_deriveName {tag parent other : String} (shows : ShowsDash tag)
    (h : deriveName parent tag = deriveName other tag) :
    parent = other ∨ NamesCollide tag parent other :=
  ((deriveName_eq_iff shows shows parent other).1 h).imp fullName_injective And.left

/-- Two parents are apart in a kind if they are not in one namespace with colliding names. -/
def ObjectKey.ApartIn (kind : Kind) (parent other : ObjectKey) : Prop :=
  parent.namespace = other.namespace → ¬NamesCollide kind.tag parent.name other.name

theorem Kind.home_ne {kind : Kind} {parent other : ObjectKey} (different : parent ≠ other)
    (apart : parent.ApartIn kind other) : kind.home parent ≠ kind.home other := by
  intro same
  obtain ⟨space, name⟩ := ObjectKey.mk.inj same
  rcases eq_or_collide_of_deriveName kind.showsDash_tag name with equal | collide
  · apply different
    cases parent
    cases other
    simp_all
  · exact apart space collide

/-- Resources of any kinds and any parents have the same name just if parent and kind are the same,
or both full names are cut, with the same digits and the same stem kept before these. So a name that
is short enough to be kept whole is never one that was cut. -/
theorem Kind.deriveName_collides_only_by_digits :
    (∀ (kind kind' : Kind) (parent other : String),
      deriveName parent kind.tag = deriveName other kind'.tag ↔
        parent = other ∧ kind = kind' ∨
          DigitsCollide (fullName parent kind.tag) (fullName other kind'.tag) ∧
            keptStem (fullName parent kind.tag) = keptStem (fullName other kind'.tag)) ∧
      ∀ (kind kind' : Kind) (parent other : String),
        (fullName parent kind.tag).utf8ByteSize ≤ maxNameLength →
          maxNameLength < (fullName other kind'.tag).utf8ByteSize →
            deriveName parent kind.tag ≠ deriveName other kind'.tag := by
  constructor
  · intro kind kind' parent other
    have full : fullName parent kind.tag = fullName other kind'.tag ↔
        parent = other ∧ kind = kind' :=
      ⟨Kind.fullName_injective, fun ⟨sameParent, sameKind⟩ => by rw [sameParent, sameKind]⟩
    rw [deriveName_eq_iff kind.showsDash_tag kind'.showsDash_tag, full]
  · intro kind kind' parent other short long
    exact deriveName_ne_of_short_of_long kind.showsDash_tag parent other short (Nat.not_le.2 long)

theorem Kind.whole_name_ne_cut_name :
    (fullName "ocsinit" exporter.tag).utf8ByteSize ≤ maxNameLength ∧
      maxNameLength <
        (fullName "storage-cluster-with-a-really-long-name-that-keeps-going"
          service.tag).utf8ByteSize ∧
      deriveName "ocsinit" exporter.tag ≠
        deriveName "storage-cluster-with-a-really-long-name-that-keeps-going" service.tag := by
  have short : (fullName "ocsinit" exporter.tag).utf8ByteSize ≤ maxNameLength := by decide +kernel
  have long : maxNameLength <
      (fullName "storage-cluster-with-a-really-long-name-that-keeps-going"
        service.tag).utf8ByteSize := by
    decide +kernel
  exact ⟨short, long, Kind.deriveName_collides_only_by_digits.2 _ _ _ _ short long⟩

end CephExport
