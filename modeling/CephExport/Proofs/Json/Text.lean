import CephExport.Json.Printer
import CephExport.Proofs.Json.Plain

/-!
Text that a plain value is printed as reads back as that value. Each reader is followed over the
text that the printer wrote for it, with any text behind that does not belong to a number.
-/

set_option autoImplicit false
set_option relaxedAutoImplicit false

namespace CephExport

namespace Json

/-! ### Whole numbers -/

/-- A text with which a number that stands before it does not go on. -/
def EndsNumber (rest : List Char) : Prop :=
  ∀ c ∈ rest.head?, c.isDigit = false ∧ c ≠ '.' ∧ c ≠ 'e' ∧ c ≠ 'E'

theorem endsNumber_cons {c : Char} {rest : List Char} (mark : c = ',' ∨ c = ']' ∨ c = '\x7d') :
    EndsNumber (c :: rest) := by
  intro d first
  obtain rfl := Option.some.inj first
  rcases mark with rfl | rfl | rfl <;> decide

theorem EndsNumber.takeWhile_isDigit {rest : List Char} (ends : EndsNumber rest) :
    rest.takeWhile Char.isDigit = [] := by
  cases rest with
  | nil => rfl
  | cons c rest => simp [(ends c rfl).1]

theorem EndsNumber.dropWhile_isDigit {rest : List Char} (ends : EndsNumber rest) :
    rest.dropWhile Char.isDigit = rest := by
  cases rest with
  | nil => rfl
  | cons c rest => simp [(ends c rfl).1]

theorem EndsNumber.fractionPart? {rest : List Char} (ends : EndsNumber rest) (digits : Nat) :
    Json.fractionPart? digits rest = some (digits, 0, rest) := by
  cases rest with
  | nil => rfl
  | cons c rest =>
    rw [Json.fractionPart?]
    intro text point
    exact absurd (List.cons.inj point).1 (ends c rfl).2.1

theorem EndsNumber.exponentPart? {rest : List Char} (ends : EndsNumber rest) :
    Json.exponentPart? rest = some (none, rest) := by
  cases rest with
  | nil => rfl
  | cons c rest =>
    obtain ⟨-, -, lower, upper⟩ := ends c rfl
    simp [Json.exponentPart?, lower, upper]

theorem le_ofDigitChars (digits : List Char) (value : Nat) :
    value ≤ Nat.ofDigitChars 10 digits value := by
  induction digits generalizing value with
  | nil => exact Nat.le_refl value
  | cons c digits ih =>
    rw [Nat.ofDigitChars_cons]
    have later := ih (10 * value + (c.toNat - '0'.toNat))
    omega

theorem takeDigits_append {digits rest : List Char} {value : Nat}
    (all : ∀ c ∈ digits, c.isDigit = true) (ends : EndsNumber rest)
    (small : Nat.ofDigitChars 10 digits value < 0x10000000000000000) :
    takeDigits value (digits ++ rest) = (Nat.ofDigitChars 10 digits value, rest) := by
  induction digits generalizing value with
  | nil =>
    cases rest with
    | nil => rfl
    | cons c rest => simp [takeDigits, (ends c rfl).1]
  | cons c digits ih =>
    obtain ⟨digit, later⟩ := List.forall_mem_cons.1 all
    rw [Nat.ofDigitChars_cons] at small ⊢
    have more : value * 10 + (c.toNat - 48) = 10 * value + (c.toNat - '0'.toNat) := by
      rw [Nat.mul_comm]
      rfl
    have bounded : value * 10 + (c.toNat - 48) < 0x10000000000000000 := by
      rw [more]
      exact Nat.lt_of_le_of_lt (le_ofDigitChars digits _) small
    simp only [List.cons_append, takeDigits, digit, bounded, and_self, if_true]
    rw [more]
    exact ih later small

theorem head?_toDigits {n : Nat} (first : (Nat.toDigits 10 n).head? = some '0') : n = 0 := by
  induction n using Nat.strongRecOn with
  | ind n ih =>
    by_cases single : n < 10
    · rw [Nat.toDigits_of_lt_base single] at first
      have digit : n.digitChar = '0' := Option.some.inj first
      rw [← Nat.digitChar_eq_zero]
      exact digit
    · have several : 10 ≤ n := Nat.le_of_not_lt single
      rw [Nat.toDigits_of_base_le (by decide) several,
        List.head?_append_of_ne_nil _ Nat.toDigits_ne_nil] at first
      have quotient := ih (n / 10) (by omega) first
      omega

theorem exists_digit_of_toDigits (n : Nat) :
    ∃ c digits, c.isDigit = true ∧ Nat.toDigits 10 n = c :: digits := by
  obtain ⟨c, digits, shape⟩ := List.exists_cons_of_ne_nil (Nat.toDigits_ne_nil (n := n) (b := 10))
  have first : c ∈ Nat.toDigits 10 n := by
    rw [shape]
    exact List.mem_cons_self
  exact ⟨c, digits, Nat.isDigit_of_mem_toDigits (by decide) (by decide) first, shape⟩

theorem numberText_whole {negative : Bool} {n : Nat} {text rest : List Char}
    (sign : (text.head? == some '-') = negative)
    (unsigned : (if negative then text.drop 1 else text) = Nat.toDigits 10 n ++ rest)
    (small : n < 0x10000000000000000) (ends : EndsNumber rest) :
    numberText text = some (wholeNumber? negative n, rest) := by
  have digits : ∀ c ∈ Nat.toDigits 10 n, c.isDigit = true :=
    fun c => Nat.isDigit_of_mem_toDigits (by decide) (by decide)
  have whole : (Nat.toDigits 10 n ++ rest).takeWhile Char.isDigit = Nat.toDigits 10 n := by
    rw [List.takeWhile_append_of_pos digits, ends.takeWhile_isDigit, List.append_nil]
  have proper : ((Nat.toDigits 10 n).isEmpty ||
      ((Nat.toDigits 10 n).length != 1 && (Nat.toDigits 10 n).head? == some '0')) = false := by
    by_cases first : (Nat.toDigits 10 n).head? = some '0'
    · obtain rfl := head?_toDigits first
      rfl
    · simp [first, Nat.toDigits_ne_nil]
  have taken : takeDigits 0 (Nat.toDigits 10 n ++ rest) = (n, rest) := by
    rw [takeDigits_append digits ends, Nat.ofDigitChars_ten_toDigits]
    rwa [Nat.ofDigitChars_ten_toDigits]
  have point : rest.head? ≠ some '.' := fun first => (ends '.' first).2.1 rfl
  simp only [numberText, sign, unsigned, whole, proper, taken, ends.takeWhile_isDigit,
    ends.dropWhile_isDigit, ends.fractionPart?, ends.exponentPart?]
  simp [point]

theorem toList_toString_of_nonneg {value : Int} (h : 0 ≤ value) :
    (toString value).toList = Nat.toDigits 10 value.toNat := by
  change value.repr.toList = _
  rw [Int.repr_eq_if, if_pos h, Nat.toList_repr]

theorem toList_toString_of_neg {value : Int} (h : ¬ 0 ≤ value) :
    (toString value).toList = '-' :: Nat.toDigits 10 (-value).toNat := by
  change value.repr.toList = _
  rw [Int.repr_eq_if, if_neg h, String.toList_append, Nat.toList_repr]
  rfl

theorem numberText_toString {value : Int} {rest : List Char} (above : -0x8000000000000000 ≤ value)
    (below : value < 0x10000000000000000) (ends : EndsNumber rest) :
    numberText ((toString value).toList ++ rest) = some (some (.integer value), rest) := by
  by_cases nonneg : 0 ≤ value
  · have small : value.toNat < 0x10000000000000000 := by omega
    obtain ⟨c, digits, digit, shape⟩ := exists_digit_of_toDigits value.toNat
    have sign : ((Nat.toDigits 10 value.toNat ++ rest).head? == some '-') = false := by
      have different : c ≠ '-' := fun same => absurd (same ▸ digit) (by decide)
      simp [shape, different]
    rw [toList_toString_of_nonneg nonneg, numberText_whole sign rfl small ends, wholeNumber?]
    simp [Int.toNat_of_nonneg nonneg]
  · have small : (-value).toNat < 0x10000000000000000 := by omega
    have sign : (('-' :: Nat.toDigits 10 (-value).toNat ++ rest).head? == some '-') = true := rfl
    rw [toList_toString_of_neg nonneg, numberText_whole sign rfl small ends, wholeNumber?]
    have proper : ¬((-value).toNat = 0 ∨ 0x8000000000000000 < (-value).toNat) := by omega
    have magnitude : -((-value).toNat : Int) = value := by omega
    rw [if_pos rfl, if_neg proper, magnitude]

/-! ### Texts -/

theorem escape_cases (c : Char) :
    (∃ letter, escape c = ['\\', letter] ∧ letter ≠ 'u' ∧ stringBody.escaped? letter = some c) ∨
    (c.toNat < 32 ∧
      escape c = ['\\', 'u', '0', '0', Nat.digitChar (c.toNat / 16),
        Nat.digitChar (c.toNat % 16)]) ∨
    (c ≠ '"' ∧ c ≠ '\\' ∧ ¬c.toNat < 32 ∧ escape c = [c]) := by
  unfold escape
  split_ifs with quote backslash newline carriage tab back feed control
  · exact .inl ⟨'"', rfl, by decide, congrArg some quote.symm⟩
  · exact .inl ⟨'\\', rfl, by decide, congrArg some backslash.symm⟩
  · exact .inl ⟨'n', rfl, by decide, congrArg some newline.symm⟩
  · exact .inl ⟨'r', rfl, by decide, congrArg some carriage.symm⟩
  · exact .inl ⟨'t', rfl, by decide, congrArg some tab.symm⟩
  · exact .inl ⟨'b', rfl, by decide, congrArg some back.symm⟩
  · exact .inl ⟨'f', rfl, by decide, congrArg some feed.symm⟩
  · exact .inr (.inl ⟨control, rfl⟩)
  · exact .inr (.inr ⟨quote, backslash, control, rfl⟩)

theorem hexValue?_digitChar : ∀ n < 16, hexValue? (Nat.digitChar n) = some n := by
  decide

theorem stringBody_escape (c : Char) (text read : List Char) :
    stringBody (escape c ++ text) (some read) = stringBody text (some (c :: read)) := by
  obtain ⟨letter, written, named, escaped⟩ | ⟨control, written⟩
      | ⟨quote, backslash, plain, written⟩ :=
    escape_cases c
  · rw [written, List.cons_append, List.singleton_append, stringBody]
    · simp [escaped]
    · intro _ _ _ _ _ unit _
      exact named unit
  · have high := hexValue?_digitChar (c.toNat / 16) (by omega)
    have low := hexValue?_digitChar (c.toNat % 16) (by omega)
    have unit : hexQuad? '0' '0' (Nat.digitChar (c.toNat / 16)) (Nat.digitChar (c.toNat % 16)) =
        some c.toNat := by
      have zero : hexValue? '0' = some 0 := rfl
      simp only [hexQuad?, zero, high, low, Option.bind_eq_bind, Option.bind_some,
        Option.some.injEq]
      omega
    simp only [written, List.cons_append, List.nil_append]
    rw [stringBody, unit]
    have noLead : ¬(0xD800 ≤ c.toNat ∧ c.toNat ≤ 0xDBFF) := by omega
    have noTrail : ¬(0xDC00 ≤ c.toNat ∧ c.toNat ≤ 0xDFFF) := by omega
    simp only [if_neg noLead, if_neg noTrail, Option.map_some, Char.ofNat_toNat]
  · rw [written, List.singleton_append, stringBody]
    · simp [plain]
    · exact quote
    · exact fun _ _ _ _ _ same _ => backslash same
    · exact fun _ _ same _ => backslash same

theorem stringBody_flatMap_escape (chars text read : List Char) :
    stringBody (chars.flatMap escape ++ '"' :: text) (some read) =
      some (some (String.ofList (read.reverse ++ chars)), text) := by
  induction chars generalizing read with
  | nil => simp [stringBody]
  | cons c chars ih =>
    rw [List.flatMap_cons, List.append_assoc, stringBody_escape, ih]
    simp

theorem toList_quoteString (s : String) :
    (quoteString s).toList = '"' :: (s.toList.flatMap escape ++ ['"']) := by
  simp [quoteString]

theorem stringBody_quoteString (s : String) (rest : List Char) :
    stringBody (s.toList.flatMap escape ++ ['"'] ++ rest) (some []) = some (some s, rest) := by
  rw [List.append_assoc, List.singleton_append, stringBody_flatMap_escape, List.reverse_nil,
    List.nil_append, String.ofList_toList]

/-! ### Values -/

theorem printItems_eq_map (items : List Json) : print.printItems items = items.map print := by
  induction items with
  | nil => rfl
  | cons item rest ih => rw [print.printItems, ih, List.map_cons]

def printMember (entry : String × Json) : String := quoteString entry.1 ++ ":" ++ entry.2.print

theorem printMembers_eq_map (members : Members) :
    print.printMembers members = members.map printMember := by
  induction members with
  | nil => rfl
  | cons entry rest ih => rw [print.printMembers, ih, List.map_cons, printMember]

def listed (texts : List String) : List Char := [','].intercalate (texts.map String.toList)

theorem toList_print_array (items : List Json) :
    (Json.array items).print.toList = '[' :: (listed (items.map print) ++ [']']) := by
  simp [print, printItems_eq_map, listed, String.toList_intercalate]

theorem toList_print_object (members : Members) :
    (Json.object members).print.toList = '\x7b' ::
      (listed (members.map printMember) ++ ['\x7d']) := by
  simp [print, printMembers_eq_map, listed, String.toList_intercalate]

theorem listed_singleton (text : String) : listed [text] = text.toList := by
  simp [listed]

theorem listed_cons_cons (text next : String) (later : List String) :
    listed (text :: next :: later) = text.toList ++ ',' :: listed (next :: later) := by
  simp [listed, List.intercalate_cons_cons]

theorem exists_listed_cons (text : String) (later : List String) :
    ∃ more, listed (text :: later) = text.toList ++ more := by
  cases later with
  | nil => exact ⟨[], by simp [listed]⟩
  | cons next later => exact ⟨_, listed_cons_cons text next later⟩

def Starts (c : Char) : Prop := isBlank c = false ∧ c ≠ ']' ∧ c ≠ '\x7d'

instance (c : Char) : Decidable (Starts c) := inferInstanceAs (Decidable (_ ∧ _))

theorem starts_of_isDigit {c : Char} (digit : c.isDigit = true) : Starts c := by
  refine ⟨?_, ?_, ?_⟩
  · by_contra blank
    simp only [isBlank, Bool.not_eq_false, Bool.or_eq_true, beq_iff_eq] at blank
    rcases blank with ((rfl | rfl) | rfl) | rfl <;> exact absurd digit (by decide)
  · rintro rfl
    exact absurd digit (by decide)
  · rintro rfl
    exact absurd digit (by decide)

theorem exists_numeric_of_toString (value : Int) :
    ∃ c text, (c = '-' ∨ c.isDigit = true) ∧ (toString value).toList = c :: text := by
  by_cases nonneg : 0 ≤ value
  · obtain ⟨c, digits, digit, shape⟩ := exists_digit_of_toDigits value.toNat
    exact ⟨c, digits, .inr digit, (toList_toString_of_nonneg nonneg).trans shape⟩
  · exact ⟨'-', _, .inl rfl, toList_toString_of_neg nonneg⟩

theorem starts_of_numeric {c : Char} (numeric : c = '-' ∨ c.isDigit = true) : Starts c := by
  rcases numeric with rfl | digit
  · decide
  · exact starts_of_isDigit digit

theorem skipBlanks_of_starts {c : Char} {text : List Char} (starts : Starts c) :
    skipBlanks (c :: text) = c :: text := by
  simp [skipBlanks, starts.1]

theorem value_array_of_starts {fuel : Nat} {c : Char} {text : List Char} (starts : Starts c) :
    value (fuel + 1) ('[' :: c :: text) = items fuel (c :: text) [] := by
  simp only [value, skipBlanks_of_starts starts]
  split
  · rename_i same
    exact absurd (List.cons.inj same).1 starts.2.1
  · rfl

theorem value_object_of_starts {fuel : Nat} {c : Char} {text : List Char} (starts : Starts c) :
    value (fuel + 1) ('\x7b' :: c :: text) = objectMembers fuel (c :: text) [] := by
  simp only [value, skipBlanks_of_starts starts]
  split
  · rename_i same
    exact absurd (List.cons.inj same).1 starts.2.2
  · rfl

theorem value_of_numeric {fuel : Nat} {c : Char} {text : List Char}
    (numeric : c = '-' ∨ c.isDigit = true) :
    value (fuel + 1) (c :: text) =
      (numberText (c :: text)).map fun (n, rest) => ((n.map .number).getD .unreadable, rest) := by
  have different : ∀ d tail, d ≠ '-' → d.isDigit = false → c :: text = d :: tail → False := by
    intro d tail sign plain same
    obtain ⟨rfl, -⟩ := List.cons.inj same
    rcases numeric with rfl | digit
    · exact sign rfl
    · exact absurd (plain.symm.trans digit) (by decide)
  rw [value]
  · exact fun same => List.cons_ne_nil c text same
  · exact fun tail => different '"' tail (by decide) (by decide)
  · exact fun tail => different '[' tail (by decide) (by decide)
  · exact fun tail => different '\x7b' tail (by decide) (by decide)
  · exact fun tail => different 'n' tail (by decide) (by decide)
  · exact fun tail => different 't' tail (by decide) (by decide)
  · exact fun tail => different 'f' tail (by decide) (by decide)

/-- A value that reads back from its text, whatever stands behind it, with fuel for the length of
the text. -/
structure Readable (json : Json) : Prop where
  starts : ∃ c text, Starts c ∧ json.print.toList = c :: text
  value_print : ∀ (fuel : Nat) (rest : List Char), json.print.toList.length ≤ fuel →
    EndsNumber rest →
    value fuel (json.print.toList ++ rest) = some (json, rest)

theorem Readable.value_skipBlanks {json : Json} (readable : Readable json) {fuel : Nat}
    {rest : List Char} (enough : json.print.toList.length ≤ fuel) (ends : EndsNumber rest) :
    value fuel (skipBlanks (json.print.toList ++ rest)) = some (json, rest) := by
  obtain ⟨c, text, starts, shape⟩ := readable.starts
  have kept : skipBlanks (json.print.toList ++ rest) = json.print.toList ++ rest := by
    rw [shape, List.cons_append, skipBlanks_of_starts starts]
  rw [kept, readable.value_print fuel rest enough ends]

section

variable {fuel : Nat} {rest : List Char}

theorem items_comma {item : Json} (readable : Readable item)
    (enough : item.print.toList.length ≤ fuel) (read : List Json) :
    items (fuel + 1) (item.print.toList ++ ',' :: rest) read = items fuel rest (item :: read) := by
  rw [items, readable.value_skipBlanks enough (endsNumber_cons (.inl rfl))]
  rfl

theorem items_bracket {item : Json} (readable : Readable item)
    (enough : item.print.toList.length ≤ fuel) (read : List Json) :
    items (fuel + 1) (item.print.toList ++ ']' :: rest) read =
      some (.array (item :: read).reverse, rest) := by
  rw [items, readable.value_skipBlanks enough (endsNumber_cons (.inr (.inl rfl)))]
  rfl

theorem items_print {first : Json} {later : List Json}
    (readable : ∀ item ∈ first :: later, Readable item) (rest : List Char) (read : List Json)
    (enough : (listed ((first :: later).map print)).length < fuel) :
    items fuel (listed ((first :: later).map print) ++ ']' :: rest) read =
      some (.array (read.reverse ++ first :: later), rest) := by
  induction later generalizing first fuel read with
  | nil =>
    obtain ⟨fuel, rfl⟩ := Nat.exists_eq_succ_of_ne_zero (Nat.ne_zero_of_lt enough)
    rw [List.map_singleton, listed_singleton] at enough ⊢
    rw [items_bracket (readable first List.mem_cons_self) (Nat.le_of_lt_succ enough),
      List.reverse_cons]
  | cons next later ih =>
    obtain ⟨fuel, rfl⟩ := Nat.exists_eq_succ_of_ne_zero (Nat.ne_zero_of_lt enough)
    obtain ⟨here, behind⟩ := List.forall_mem_cons.1 readable
    rw [List.map_cons, List.map_cons, listed_cons_cons, ← List.map_cons] at enough ⊢
    rw [List.length_append, List.length_cons] at enough
    rw [List.append_assoc, List.cons_append, items_comma here (by omega), ih behind _ (by omega),
      List.reverse_cons, List.append_assoc, List.singleton_append]

theorem skipBlanks_colon (text : List Char) : skipBlanks (':' :: text) = ':' :: text := rfl

theorem toList_printMember (entry : String × Json) (rest : List Char) :
    (printMember entry).toList ++ rest =
      '"' :: (entry.1.toList.flatMap escape ++ ['"'] ++ ':' :: (entry.2.print.toList ++ rest)) := by
  simp [printMember, toList_quoteString]

theorem length_print_le_printMember (entry : String × Json) :
    entry.2.print.toList.length ≤ (printMember entry).toList.length := by
  have whole := congrArg List.length (toList_printMember entry [])
  simp only [List.append_nil, List.length_cons, List.length_append] at whole
  omega

variable {entry : String × Json} (readable : Readable entry.2)
include readable

theorem objectMembers_comma (enough : (printMember entry).toList.length ≤ fuel)
    (read : List (Option String × Json)) :
    objectMembers (fuel + 1) ((printMember entry).toList ++ ',' :: rest) read =
      objectMembers fuel rest ((some entry.1, entry.2) :: read) := by
  have short : entry.2.print.toList.length ≤ fuel :=
    Nat.le_trans (length_print_le_printMember entry) enough
  have item : value fuel (skipBlanks (entry.2.print.toList ++ ',' :: rest)) =
      some (entry.2, ',' :: rest) :=
    readable.value_skipBlanks short (endsNumber_cons (.inl rfl))
  rw [toList_printMember, objectMembers, skipBlanks_of_starts (by decide)]
  simp only [stringBody_quoteString, skipBlanks_colon, item]
  rfl

theorem objectMembers_brace (enough : (printMember entry).toList.length ≤ fuel)
    (read : List (Option String × Json)) :
    objectMembers (fuel + 1) ((printMember entry).toList ++ '\x7d' :: rest) read =
      some (objectOf ((some entry.1, entry.2) :: read), rest) := by
  have short : entry.2.print.toList.length ≤ fuel :=
    Nat.le_trans (length_print_le_printMember entry) enough
  have item : value fuel (skipBlanks (entry.2.print.toList ++ '\x7d' :: rest)) =
      some (entry.2, '\x7d' :: rest) :=
    readable.value_skipBlanks short (endsNumber_cons (.inr (.inr rfl)))
  rw [toList_printMember, objectMembers, skipBlanks_of_starts (by decide)]
  simp only [stringBody_quoteString, skipBlanks_colon, item]
  rfl

end

def keptMembers (members : Members) : List (Option String × Json) :=
  members.map fun entry => (some entry.1, entry.2)

theorem mapM_keptMembers (members : Members) :
    (keptMembers members).mapM (fun entry => entry.1.map (·, entry.2)) = some members := by
  induction members with
  | nil => rfl
  | cons entry later ih =>
    rw [keptMembers] at ih
    simp [keptMembers, List.mapM_cons, ih]

theorem objectOf_reverse_keptMembers (members : Members) :
    objectOf (keptMembers members).reverse = .object members := by
  rw [objectOf, List.reverse_reverse]
  split
  · rename_i found whole
    rw [Option.some.inj (whole.symm.trans (mapM_keptMembers members))]
  · rename_i none
    exact absurd (none.symm.trans (mapM_keptMembers members)) (Option.some_ne_none members).symm

theorem objectMembers_print {first : String × Json} {later : Members}
    (readable : ∀ entry ∈ first :: later, Readable entry.2) {fuel : Nat} (rest : List Char)
    (read : List (Option String × Json))
    (enough : (listed ((first :: later).map printMember)).length < fuel) :
    objectMembers fuel (listed ((first :: later).map printMember) ++ '\x7d' :: rest) read =
      some (objectOf ((keptMembers (first :: later)).reverse ++ read), rest) := by
  induction later generalizing first fuel read with
  | nil =>
    obtain ⟨fuel, rfl⟩ := Nat.exists_eq_succ_of_ne_zero (Nat.ne_zero_of_lt enough)
    rw [List.map_singleton, listed_singleton] at enough ⊢
    exact objectMembers_brace (readable first List.mem_cons_self) (Nat.le_of_lt_succ enough) read
  | cons next later ih =>
    obtain ⟨fuel, rfl⟩ := Nat.exists_eq_succ_of_ne_zero (Nat.ne_zero_of_lt enough)
    obtain ⟨here, behind⟩ := List.forall_mem_cons.1 readable
    rw [List.map_cons, List.map_cons, listed_cons_cons, ← List.map_cons] at enough ⊢
    rw [List.length_append, List.length_cons] at enough
    rw [List.append_assoc, List.cons_append, objectMembers_comma here (by omega),
      ih behind _ (by omega)]
    simp [keptMembers]

theorem Readable.of_succ {json : Json} {c : Char} {text : List Char} (starts : Starts c)
    (shape : json.print.toList = c :: text)
    (read : ∀ (fuel : Nat) (rest : List Char), text.length ≤ fuel → EndsNumber rest →
      value (fuel + 1) (c :: (text ++ rest)) = some (json, rest)) : Readable json := by
  refine ⟨⟨c, text, starts, shape⟩, ?_⟩
  intro fuel rest enough ends
  rw [shape, List.length_cons] at enough
  obtain ⟨fuel, rfl⟩ := Nat.exists_eq_succ_of_ne_zero (Nat.ne_zero_of_lt enough)
  rw [shape, List.cons_append]
  exact read fuel rest (Nat.le_of_succ_le_succ enough) ends

theorem readable_string (s : String) : Readable (.string s) := by
  refine .of_succ (by decide) (toList_quoteString s) ?_
  intro fuel rest _ _
  rw [value, stringBody_quoteString]
  rfl

theorem readable_integer {value : Int} (above : -0x8000000000000000 ≤ value)
    (below : value < 0x10000000000000000) :
    Readable (.number (.integer value)) := by
  obtain ⟨c, text, numeric, shape⟩ := exists_numeric_of_toString value
  refine .of_succ (starts_of_numeric numeric) shape ?_
  intro fuel rest _ ends
  rw [value_of_numeric numeric, ← List.cons_append, ← shape, numberText_toString above below ends]
  rfl

theorem readable_array {items : List Json} (readable : ∀ item ∈ items, Readable item) :
    Readable (.array items) := by
  refine .of_succ (by decide) (toList_print_array items) ?_
  intro fuel rest enough _
  rw [List.length_append, List.length_singleton] at enough
  rw [List.append_assoc, List.singleton_append]
  cases items with
  | nil => rfl
  | cons first later =>
    have whole := items_print readable rest [] (Nat.lt_of_succ_le enough)
    obtain ⟨c, text, starts, shape⟩ :
        ∃ c text, Starts c ∧ listed ((first :: later).map print) = c :: text := by
      obtain ⟨c, text, starts, shape⟩ := (readable first List.mem_cons_self).starts
      obtain ⟨more, whole⟩ := exists_listed_cons first.print (later.map print)
      exact ⟨c, text ++ more, starts, by rw [List.map_cons, whole, shape, List.cons_append]⟩
    rw [shape, List.cons_append] at whole ⊢
    rw [value_array_of_starts starts, whole]
    rfl

theorem readable_object {members : Members} (readable : ∀ entry ∈ members, Readable entry.2) :
    Readable (.object members) := by
  refine .of_succ (by decide) (toList_print_object members) ?_
  intro fuel rest enough _
  rw [List.length_append, List.length_singleton] at enough
  rw [List.append_assoc, List.singleton_append]
  cases members with
  | nil => rfl
  | cons first later =>
    have whole := objectMembers_print readable rest [] (Nat.lt_of_succ_le enough)
    obtain ⟨text, shape⟩ : ∃ text, listed ((first :: later).map printMember) = '"' :: text := by
      obtain ⟨more, whole⟩ := exists_listed_cons (printMember first) (later.map printMember)
      exact ⟨_, by rw [List.map_cons, whole, toList_printMember]⟩
    rw [shape, List.cons_append] at whole ⊢
    rw [value_object_of_starts (by decide), whole, List.append_nil, objectOf_reverse_keptMembers]

theorem Plain.readable {depth : Nat} {json : Json} (plain : Plain depth json) : Readable json := by
  induction plain with
  | null =>
    refine .of_succ (by decide) (show Json.null.print.toList = 'n' :: "ull".toList from rfl) ?_
    exact fun _ _ _ _ => rfl
  | bool depth value =>
    cases value with
    | false =>
      refine .of_succ (by decide)
        (show (Json.bool false).print.toList = 'f' :: "alse".toList from rfl) ?_
      exact fun _ _ _ _ => rfl
    | true =>
      refine .of_succ (by decide)
        (show (Json.bool true).print.toList = 't' :: "rue".toList from rfl) ?_
      exact fun _ _ _ _ => rfl
  | string depth value => exact readable_string value
  | integer depth above below => exact readable_integer above below
  | array plain ih => exact readable_array ih
  | object increasing plain ih => exact readable_object ih

theorem written?_print {depth : Nat} {json : Json} (plain : Plain depth json) :
    written? json.print = some json := by
  obtain ⟨c, text, starts, shape⟩ := plain.readable.starts
  have kept : skipBlanks json.print.toList = json.print.toList := by
    rw [shape, skipBlanks_of_starts starts]
  have whole := plain.readable.value_print (2 * json.print.toList.length + 2) [] (by omega)
    (fun _ first => nomatch first)
  rw [List.append_nil] at whole
  simp only [written?, kept, whole]
  rfl

/-- A plain value that nests no deeper than may be read is what its text reads as. -/
theorem parse?_print {json : Json} (plain : Plain 127 json) : parse? json.print = some json := by
  rw [parse?, written?_print plain, Option.bind_some, plain.settled?_eq]

end Json

/-! ### Formats -/

section

variable {α : Type} [Codec α]

def readText? (text : String) : Option α := (Json.parse? text).bind decode?

def writeText (value : α) : String := (encode value : Json).print

variable (α) in
/-- The document that a document is written as again, once it was read. -/
def rewritten? (document : Json) : Option Json := (decode? document : Option α).map encode

variable (α) in
def rewrittenText? (text : String) : Option String := (readText? text : Option α).map writeText

variable (α) in
/-- A format in which each value reads back, and in which all that reads is written in a way that
reads as the same value and is written so again. -/
structure RoundTrips : Prop where
  reads_back (value : α) : decode? (encode value) = some value
  text_reads_back (value : α) : readText? (writeText value) = some value
  settles {document written : Json} (rewritten : rewritten? α document = some written) :
    (decode? written : Option α) = decode? document ∧ rewritten? α written = some written
  text_settles {text written : String} (rewritten : rewrittenText? α text = some written) :
    (readText? written : Option α) = readText? text ∧ rewrittenText? α written = some written

theorem readText?_writeText {depth : Nat} [LawfulCodec α] [PlainCodec α depth]
    (shallow : depth ≤ 127) (value : α) :
    readText? (writeText value) = some value := by
  have plain : (encode value : Json).Plain 127 := (plain_encode value).mono shallow
  rw [readText?, writeText, Json.parse?_print plain, Option.bind_some, decode?_encode]

theorem roundTrips {depth : Nat} [LawfulCodec α] [PlainCodec α depth] (shallow : depth ≤ 127) :
    RoundTrips α where
  reads_back := decode?_encode
  text_reads_back := readText?_writeText shallow
  settles {document written} rewritten := by
    obtain ⟨value, read, rfl⟩ := Option.map_eq_some_iff.1 rewritten
    have same : (decode? (encode value) : Option α) = some value := decode?_encode value
    exact ⟨same.trans read.symm, by rw [rewritten?, same, Option.map_some]⟩
  text_settles {text written} rewritten := by
    obtain ⟨value, read, rfl⟩ := Option.map_eq_some_iff.1 rewritten
    have same : readText? (writeText value) = some value := readText?_writeText shallow value
    exact ⟨same.trans read.symm, by rw [rewrittenText?, same, Option.map_some]⟩

end

end CephExport
