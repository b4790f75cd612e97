import CephExport.Naming
import Mathlib.Data.List.DropRight
import Mathlib.Data.String.Basic

/-!
The texts that an API server admits as names of objects: segments of small letters, digits and
dashes with dots between them, where each segment begins and ends with a letter or digit. Where such
a text is cut and the dashes at its new end are dropped, it is again one of these unless the cut
fell right behind a dot.
-/

set_option autoImplicit false
set_option relaxedAutoImplicit false

namespace CephExport

def isNameLetter (c : Char) : Bool := ('a' ≤ c && c ≤ 'z') || ('0' ≤ c && c ≤ '9')

def isSegmentCharacter (c : Char) : Bool := isNameLetter c || c == '-'

def isNameCharacter (c : Char) : Bool := isSegmentCharacter c || c == '.'

/-- A text that begins and ends with characters of one class and else has those of another one. -/
structure Enclosed (edge inside : Char → Bool) (text : List Char) : Prop where
  first : text.head?.any edge = true
  last : text.getLast?.any edge = true
  within : ∀ c ∈ text, inside c = true

instance (edge inside : Char → Bool) (text : List Char) : Decidable (Enclosed edge inside text) :=
  decidable_of_iff
    (text.head?.any edge = true ∧ text.getLast?.any edge = true ∧ text.all inside = true)
    ⟨fun h => ⟨h.1, h.2.1, List.all_eq_true.1 h.2.2⟩, fun h =>
      ⟨h.first, h.last, List.all_eq_true.2 h.within⟩⟩

abbrev IsSegment (text : List Char) : Prop := Enclosed isNameLetter isSegmentCharacter text

def IsDotted (text : List Char) : Prop := ∀ segment ∈ text.splitOn '.', IsSegment segment

instance (text : List Char) : Decidable (IsDotted text) :=
  inferInstanceAs (Decidable (∀ segment ∈ text.splitOn '.', IsSegment segment))

/-- The names that an API server admits for objects. -/
structure IsSubdomain (name : String) : Prop where
  short : name.utf8ByteSize ≤ 253
  dotted : IsDotted name.toList

instance (name : String) : Decidable (IsSubdomain name) :=
  decidable_of_iff (name.utf8ByteSize ≤ 253 ∧ IsDotted name.toList)
    ⟨fun h => ⟨h.1, h.2⟩, fun h => ⟨h.short, h.dotted⟩⟩

/-- What may be put behind a segment to make it a longer one. -/
structure IsEnding (text : List Char) : Prop where
  last : text.getLast?.any isNameLetter = true
  within : ∀ c ∈ text, isSegmentCharacter c = true

theorem ne_dash_of_isNameLetter {c : Char} (letter : isNameLetter c = true) : c ≠ '-' := by
  rintro rfl
  revert letter
  decide

theorem ne_dot_of_isSegmentCharacter {c : Char} (h : isSegmentCharacter c = true) : c ≠ '.' := by
  rintro rfl
  revert h
  decide

theorem isSegmentCharacter_of_letter {c : Char} (letter : isNameLetter c = true) :
    isSegmentCharacter c = true := by
  rw [isSegmentCharacter, letter, Bool.true_or]

theorem isNameCharacter_of_segment {c : Char} (h : isSegmentCharacter c = true) :
    isNameCharacter c = true := by
  rw [isNameCharacter, h, Bool.true_or]

theorem utf8Size_of_isNameCharacter {c : Char} (h : isNameCharacter c = true) : c.utf8Size = 1 := by
  simp only [isNameCharacter, isSegmentCharacter, isNameLetter, Bool.or_eq_true, Bool.and_eq_true,
    decide_eq_true_eq, beq_iff_eq] at h
  apply Char.utf8Size_eq_one_iff.2
  rcases h with ((⟨-, below⟩ | ⟨-, below⟩) | rfl) | rfl
  · exact UInt32.le_trans (Char.le_def.1 below) (by decide)
  · exact UInt32.le_trans (Char.le_def.1 below) (by decide)
  · decide
  · decide

theorem utf8ByteSize_eq_length {name : String}
    (within : ∀ c ∈ name.toList, isNameCharacter c = true) :
    name.utf8ByteSize = name.toList.length := by
  have count : ∀ text : List Char, (∀ c ∈ text, isNameCharacter c = true) →
      (String.ofList text).utf8ByteSize = text.length := by
    intro text within
    induction text with
    | nil => rfl
    | cons c rest ih =>
      obtain ⟨here, later⟩ := List.forall_mem_cons.1 within
      rw [String.utf8ByteSize_ofList, String.utf8Len_cons, ← String.utf8ByteSize_ofList, ih later,
        utf8Size_of_isNameCharacter here, List.length_cons]
  rw [← count name.toList within, String.ofList_toList]

namespace Enclosed

variable {edge inside edge' inside' : Char → Bool} {text ending : List Char}

theorem mono (edges : ∀ c, edge c = true → edge' c = true)
    (insides : ∀ c, inside c = true → inside' c = true) (h : Enclosed edge inside text) :
    Enclosed edge' inside' text where
  first := by
    obtain ⟨c, head, is⟩ := (Option.any_eq_true _ _).1 h.first
    exact (Option.any_eq_true _ _).2 ⟨c, head, edges c is⟩
  last := by
    obtain ⟨c, last, is⟩ := (Option.any_eq_true _ _).1 h.last
    exact (Option.any_eq_true _ _).2 ⟨c, last, edges c is⟩
  within c member := insides c (h.within c member)

theorem of_append (first : text.head?.any edge = true) (within : ∀ c ∈ text, inside c = true)
    (last : ending.getLast?.any edge = true) (also : ∀ c ∈ ending, inside c = true) :
    Enclosed edge inside (text ++ ending) where
  first := by
    obtain ⟨c, head, is⟩ := (Option.any_eq_true _ _).1 first
    rw [List.head?_append, head]
    exact is
  last := by
    obtain ⟨c, tail, is⟩ := (Option.any_eq_true _ _).1 last
    rw [List.getLast?_append, tail]
    exact is
  within c member := (List.mem_append.1 member).elim (within c) (also c)

theorem ne_nil (h : Enclosed edge inside text) : text ≠ [] := by
  rintro rfl
  exact Bool.false_ne_true h.first

end Enclosed

theorem IsSegment.append {text ending : List Char} (h : IsSegment text) (ends : IsEnding ending) :
    IsSegment (text ++ ending) :=
  Enclosed.of_append h.first h.within ends.last ends.within

theorem IsSegment.dot_notMem {text : List Char} (h : IsSegment text) : '.' ∉ text :=
  fun member => ne_dot_of_isSegmentCharacter (h.within '.' member) rfl

section

variable {before behind text ending : List Char}

theorem isDotted_iff_isSegment (dotless : '.' ∉ text) : IsDotted text ↔ IsSegment text := by
  rw [IsDotted, List.splitOn_eq_singleton dotless]
  exact List.forall_mem_singleton

theorem IsSegment.isDotted (h : IsSegment text) : IsDotted text :=
  (isDotted_iff_isSegment h.dot_notMem).2 h

theorem isDotted_append_dot_iff :
    IsDotted (before ++ '.' :: behind) ↔ IsDotted before ∧ IsDotted behind := by
  rw [IsDotted, List.splitOn_append_cons_self, List.forall_mem_append]
  rfl

@[elab_as_elim]
theorem IsDotted.induction {motive : (text : List Char) → IsDotted text → Prop}
    (segment : ∀ text (h : IsSegment text), motive text h.isDotted)
    (dot : ∀ head rest (first : IsSegment head) (later : IsDotted rest), motive rest later →
      motive (head ++ '.' :: rest) (isDotted_append_dot_iff.2 ⟨first.isDotted, later⟩))
    (h : IsDotted text) : motive text h := by
  generalize size : text.length = n
  induction n using Nat.strong_induction_on generalizing text with
  | _ n ih =>
    by_cases dotted : '.' ∈ text
    · obtain ⟨head, rest, rfl, dotless⟩ := List.eq_append_cons_of_mem dotted
      obtain ⟨first, later⟩ := isDotted_append_dot_iff.1 h
      have shorter : rest.length < n := by
        rw [← size, List.length_append, List.length_cons]
        omega
      exact dot head rest ((isDotted_iff_isSegment dotless).1 first) later (ih _ shorter later rfl)
    · exact segment text ((isDotted_iff_isSegment dotted).1 h)

theorem IsDotted.enclosed (h : IsDotted text) : Enclosed isNameLetter isNameCharacter text := by
  induction h using IsDotted.induction with
  | segment text h => exact h.mono (fun _ => id) fun _ => isNameCharacter_of_segment
  | dot head rest h _ ih =>
    have behind : ∀ c ∈ '.' :: rest, isNameCharacter c = true :=
      List.forall_mem_cons.2 ⟨rfl, ih.within⟩
    have last : ('.' :: rest).getLast?.any isNameLetter = true := by
      obtain ⟨c, last, letter⟩ := (Option.any_eq_true _ _).1 ih.last
      rw [List.getLast?_cons, last]
      exact letter
    exact Enclosed.of_append h.first
      (fun c member => isNameCharacter_of_segment (h.within c member)) last behind

theorem IsDotted.append (h : IsDotted text) (ends : IsEnding ending) :
    IsDotted (text ++ ending) := by
  induction h using IsDotted.induction with
  | segment text h => exact (h.append ends).isDotted
  | dot head rest h _ ih =>
    rw [List.append_assoc, List.cons_append]
    exact isDotted_append_dot_iff.2 ⟨h.isDotted, ih⟩

end

section

variable {before behind text stem rest ending : List Char}

theorem trimDashes_append_cons {c : Char} (other : c ≠ '-') :
    trimDashes (before ++ c :: behind) = before ++ c :: trimDashes behind := by
  have turned : (before ++ c :: behind).reverse = behind.reverse ++ c :: before.reverse := by
    simp
  have stops : (c :: before.reverse).dropWhile (· == '-') = c :: before.reverse :=
    List.dropWhile_cons_of_neg (by simpa using other)
  rw [trimDashes, trimDashes, turned, List.dropWhile_append]
  split
  · rename_i none
    rw [stops, List.isEmpty_iff.1 none]
    simp
  · simp

theorem trimDashes_cons {c : Char} (letter : isNameLetter c = true) :
    trimDashes (c :: behind) = c :: trimDashes behind := by
  have kept : trimDashes ([] ++ c :: behind) = [] ++ c :: trimDashes behind :=
    trimDashes_append_cons (ne_dash_of_isNameLetter letter)
  exact kept

theorem mem_of_mem_trimDashes {c : Char} (h : c ∈ trimDashes text) : c ∈ text :=
  (List.rdropWhile_prefix (· == '-') text).subset h

theorem IsSegment.trimDashes_of_append (h : IsSegment (stem ++ rest)) (given : stem ≠ []) :
    IsSegment (trimDashes stem) := by
  obtain ⟨c, stem, rfl⟩ := List.exists_cons_of_ne_nil given
  have letter : isNameLetter c = true := h.first
  have trimmed : trimDashes (c :: stem) = c :: trimDashes stem := trimDashes_cons letter
  have within : ∀ d ∈ trimDashes (c :: stem), isSegmentCharacter d = true :=
    fun d member => h.within d (List.mem_append_left _ (mem_of_mem_trimDashes member))
  have some : trimDashes (c :: stem) ≠ [] := by
    rw [trimmed]
    exact List.cons_ne_nil _ _
  refine ⟨?_, ?_, within⟩
  · rw [trimmed]
    exact letter
  · have noDash : ¬((trimDashes (c :: stem)).getLast some == '-') = true :=
      List.rdropWhile_last_not _ _ some
    have allowed := within _ (List.getLast_mem some)
    rw [isSegmentCharacter, Bool.or_eq_true] at allowed
    rw [List.getLast?_eq_some_getLast some]
    exact allowed.resolve_right noDash

theorem IsDotted.trimDashes_of_append (h : IsDotted (stem ++ rest)) (given : stem ≠ [])
    (last : stem.getLast? ≠ some '.') : IsDotted (trimDashes stem) := by
  generalize whole : stem ++ rest = text at h
  induction h using IsDotted.induction generalizing stem with
  | segment text h =>
    subst whole
    exact (h.trimDashes_of_append given).isDotted
  | dot head tail h _ ih =>
    rcases List.append_eq_append_iff.1 whole with ⟨more, rfl, -⟩ | ⟨more, rfl, tails⟩
    · exact (h.trimDashes_of_append given).isDotted
    · rcases List.cons_eq_append_iff.1 tails with ⟨rfl, -⟩ | ⟨more, rfl, rfl⟩
      · rw [List.append_nil] at given ⊢
        have unchanged : IsSegment (head ++ []) := by rwa [List.append_nil]
        exact (unchanged.trimDashes_of_append given).isDotted
      · rw [trimDashes_append_cons (by decide)]
        have nonempty : more ≠ [] := by
          rintro rfl
          simp at last
        have laterLast : more.getLast? ≠ some '.' := by
          intro dot
          simp [List.getLast?_append, List.getLast?_cons, dot] at last
        exact isDotted_append_dot_iff.2 ⟨h.isDotted, ih nonempty laterLast rfl⟩

/-- The beginning of a name may be continued with a dash once those at its end are dropped, unless
it ends with a dot. -/
theorem IsDotted.trimDashes_append_iff (h : IsDotted (stem ++ rest)) (given : stem ≠ [])
    (ends : IsEnding ('-' :: ending)) :
    IsDotted (trimDashes stem ++ '-' :: ending) ↔ stem.getLast? ≠ some '.' := by
  constructor
  · intro continued last
    obtain ⟨before, rfl⟩ := List.getLast?_eq_some_iff.1 last
    have kept : trimDashes (before ++ ['.']) = before ++ ['.'] := trimDashes_append_cons (by decide)
    rw [kept, List.append_assoc] at continued
    have behind : IsDotted ('-' :: ending) := (isDotted_append_dot_iff.1 continued).2
    exact ne_dash_of_isNameLetter behind.enclosed.first rfl
  · intro last
    exact (h.trimDashes_of_append given last).append ends

end

end CephExport
