import CephExport.Json.Parser
import CephExport.Json.Pointer
import CephExport.Time.Timestamp
import CephExport.Proofs.Json.Codec
import Mathlib.Data.List.Forall2

/-!
What stays of a document that is read as a value of some type, changed in parts and written again. A
frame says it place by place, and a document agrees with what is sent instead of it if it does so at
every path, also at those that the type knows nothing of.
-/

set_option autoImplicit false
set_option relaxedAutoImplicit false

namespace CephExport

namespace Json

/-- The value that counts under a key: the last one, unless it is null. -/
def given? (key : String) (members : Members) : Option Json :=
  (valuesOf key members).getLast?.filter fun json => !json.isNull

def step? (token : String) : Json → Option Json
  | .object members => given? token members
  | .array items => (index? token).bind fun position => items[position]?
  | _ => none

def seek (path : List String) (found : Option Json) : Option Json :=
  path.foldl (fun found token => found.bind (step? token)) found

def hull : Json → Json
  | .array _ => .array []
  | .object _ => .object []
  | json => json

def retimed? (json : Json) : Option Json :=
  (json.string?.bind Timestamp.parse?).map fun time => .string (time.printSeconds ++ "Z")

theorem seek_cons (token : String) (path : List String) (found : Option Json) :
    seek (token :: path) found = seek path (found.bind (step? token)) := rfl

@[simp] theorem seek_none (path : List String) : seek path none = none := by
  induction path with
  | nil => rfl
  | cons token path ih =>
    rw [seek_cons, Option.bind_none, ih]

theorem given?_of_lookup {key : String} {members : Members} {json : Json}
    (once : (valuesOf key members).length ≤ 1) (found : members.lookup key = some json)
    (counts : json.isNull = false) : given? key members = some json := by
  rw [lookup_eq_head?] at found
  rw [given?]
  generalize valuesOf key members = values at once found ⊢
  match values with
  | [only] =>
    obtain rfl := Option.some.inj found
    exact Option.filter_some_pos (by simp [counts])

/-! ### Values that were sent as text -/

theorem transferredNumber_cases (number : JsonNumber) :
    (∃ read, transferredNumber number = .number read) ∨ transferredNumber number = .unreadable := by
  unfold transferredNumber
  split
  · exact .inl ⟨_, rfl⟩
  · split
    · exact .inl ⟨_, rfl⟩
    · exact .inr rfl

@[simp] theorem isNull_transferred (json : Json) : json.transferred.isNull = json.isNull := by
  cases json with
  | number number =>
    change (transferredNumber number).isNull = false
    rcases transferredNumber_cases number with ⟨read, same⟩ | same <;> rw [same] <;> rfl
  | _ => rfl

theorem valuesOf_transferredMembers (key : String) (members : Members) :
    valuesOf key (transferred.transferredMembers members) =
      (valuesOf key members).map transferred := by
  induction members with
  | nil => rfl
  | cons member rest ih =>
    obtain ⟨other, json⟩ := member
    rw [transferred.transferredMembers, valuesOf_cons, valuesOf_cons, ih]
    split <;> rfl

theorem getElem?_transferredItems (items : List Json) (position : Nat) :
    (transferred.transferredItems items)[position]? = items[position]?.map transferred := by
  induction items generalizing position with
  | nil => rfl
  | cons item rest ih =>
    cases position with
    | zero => rfl
    | succ position => exact ih position

theorem step?_transferred (token : String) (json : Json) :
    step? token json.transferred = (step? token json).map transferred := by
  cases json with
  | number number =>
    change step? token (transferredNumber number) = none
    rcases transferredNumber_cases number with ⟨read, same⟩ | same <;> rw [same] <;> rfl
  | array items =>
    change ((index? token).bind fun position => (transferred.transferredItems items)[position]?) = _
    simp only [getElem?_transferredItems, step?, Option.map_bind]
    rfl
  | object members =>
    change given? token (transferred.transferredMembers members) = _
    rw [given?, valuesOf_transferredMembers, List.getLast?_map, step?, given?]
    cases (valuesOf token members).getLast? with
    | none => rfl
    | some last => cases counts : last.isNull <;> simp [Option.filter, counts]
  | _ => rfl

/-- A value that was sent as text has at every path what it had there, sent as text. -/
theorem seek_transferred (path : List String) (found : Option Json) :
    seek path (found.map transferred) = (seek path found).map transferred := by
  induction path generalizing found with
  | nil => rfl
  | cons token path ih =>
    have stepped : (found.map transferred).bind (step? token) =
        (found.bind (step? token)).map transferred := by
      cases found with
      | none => rfl
      | some json => exact step?_transferred token json
    rw [seek_cons, seek_cons, stepped, ih]

/-! ### Settled values -/

theorem valuesOf_of_increasing {members : Members} (increasing : KeysIncrease members)
    (key : String) :
    valuesOf key members = (members.lookup key).toList := by
  induction members with
  | nil => rfl
  | cons head rest ih =>
    obtain ⟨other, json⟩ := head
    obtain ⟨below, later⟩ := List.pairwise_cons.1 increasing
    rw [valuesOf_cons, lookup_member, ih later]
    by_cases same : other = key
    · subst same
      rw [if_pos rfl, if_pos rfl, lookup_eq_none_of_below below]
      rfl
    · rw [if_neg same, if_neg (Ne.symm same)]

theorem isNull_of_settled {depth : Nat} {json value : Json}
    (same : json.settled? depth = some value) :
    value.isNull = json.isNull := by
  cases json with
  | null | bool | number | string =>
    obtain rfl := Option.some.inj same
    rfl
  | unreadable => cases same
  | array | object =>
    cases depth with
    | zero => cases same
    | succ depth =>
      obtain ⟨_, -, rfl⟩ := Option.map_eq_some_iff.1 same
      rfl

theorem settledItems?_eq_some {depth : Nat} {items values : List Json}
    (settled : settled?.settledItems? depth items = some values) (position : Nat) :
    values[position]? = items[position]?.bind (settled? depth) ∧
      (items[position]?.isSome → values[position]?.isSome) := by
  induction items generalizing values position with
  | nil =>
    obtain rfl := Option.some.inj settled
    exact ⟨rfl, id⟩
  | cons item rest ih =>
    rw [settled?.settledItems?] at settled
    split at settled
    · rename_i value others first later
      obtain rfl := Option.some.inj settled
      cases position with
      | zero => exact ⟨first.symm, fun _ => rfl⟩
      | succ position => exact ih later position
    · cases settled

theorem settledMembers?_eq_some {depth : Nat} {members before values : Members}
    (settled : settled?.settledMembers? depth members before = some values)
    (increasing : KeysIncrease before) :
    KeysIncrease values ∧ (∀ key, values.lookup key =
      ((valuesOf key members).getLast?.map (settled? depth)).getD (before.lookup key)) ∧
      ∀ member ∈ members, (settled? depth member.2).isSome := by
  induction members generalizing before with
  | nil =>
    obtain rfl := Option.some.inj settled
    exact ⟨increasing, fun _ => rfl, fun _ member => nomatch member⟩
  | cons head rest ih =>
    obtain ⟨other, json⟩ := head
    rw [settled?.settledMembers?] at settled
    split at settled
    · rename_i value first
      obtain ⟨ordered, found, all⟩ := ih settled (keysIncrease_insertMember increasing other value)
      refine ⟨ordered, ?_, ?_⟩
      · intro key
        rw [found, lookup_insertMember, valuesOf_cons]
        by_cases same : other = key
        · rw [if_pos same, if_pos same.symm, List.getLast?_cons]
          cases (valuesOf key rest).getLast? with
          | none => exact first.symm
          | some last => rfl
        · rw [if_neg same, if_neg (Ne.symm same)]
      · rintro member (_ | ⟨_, later⟩)
        · exact Option.isSome_iff_exists.2 ⟨value, first⟩
        · exact all member later
    · cases settled

theorem step?_of_settled {depth : Nat} {json value : Json}
    (settled : json.settled? depth = some value) (token : String) :
    step? token value = (step? token json).bind (settled? (depth - 1)) ∧
      ((step? token json).isSome → (step? token value).isSome) := by
  cases json with
  | null | bool | number | string =>
    obtain rfl := Option.some.inj settled
    exact ⟨rfl, id⟩
  | unreadable => cases settled
  | array items =>
    cases depth with
    | zero => cases settled
    | succ depth =>
      obtain ⟨values, same, rfl⟩ := Option.map_eq_some_iff.1 settled
      simp only [step?]
      cases index? token with
      | none => exact ⟨rfl, id⟩
      | some position => exact settledItems?_eq_some same position
  | object members =>
    cases depth with
    | zero => cases settled
    | succ depth =>
      obtain ⟨values, same, rfl⟩ := Option.map_eq_some_iff.1 settled
      obtain ⟨ordered, found, all⟩ := settledMembers?_eq_some same List.Pairwise.nil
      simp only [step?, given?, valuesOf_of_increasing ordered, found token]
      cases last : (valuesOf token members).getLast? with
      | none => exact ⟨rfl, id⟩
      | some json =>
        have listed : json ∈ valuesOf token members := List.mem_of_getLast? last
        obtain ⟨member, within, named⟩ := List.mem_filterMap.1 listed
        obtain rfl : member.2 = json := by
          split at named
          · exact Option.some.inj named
          · cases named
        obtain ⟨value, settles⟩ := Option.isSome_iff_exists.1 (all member within)
        have null := isNull_of_settled settles
        simp only [Option.map_some, settles, Option.getD_some, Option.toList_some,
          List.getLast?_singleton, Nat.add_sub_cancel]
        cases counts : member.2.isNull <;> simp [Option.filter, null, counts, settles]

end Json

open Json (given? step? seek hull)

/-- What becomes of a value when it is sent again. -/
inductive Frame
  /-- It is replaced, or taken away. -/
  | becomes (value : Option Json)
  /-- All of it stays. -/
  | whole
  /-- It is a time, which stays to the second. -/
  | time
  /-- It stays as its settled form, whatever it is. -/
  | settled (depth : Nat)
  /-- It stays where it is given, and where it is not, a value may be put in. -/
  | orElse (value : Json) (frame : Frame)
  | list (item : Frame)
  /-- All members stay alike but those that are set. -/
  | map (set : List (String × Frame)) (item : Frame)
  /-- No members but those of the listed fields are sent. -/
  | record (fields : List (String × Frame))

namespace Frame

/-- The frame of what a token leads to; none where nothing is sent. -/
def child? : Frame → String → Option Frame
  | becomes value, token => some (becomes (value.bind (step? token)))
  | whole, _ => some whole
  | time, _ => none
  | settled depth, _ => some (settled (depth - 1))
  | orElse _ frame, token => frame.child? token
  | list item, _ => some item
  | map set item, token => some ((set.lookup token).getD item)
  | record fields, token => fields.lookup token

def at? (frame : Frame) : List String → Option Frame
  | [] => some frame
  | token :: path =>
    match frame.child? token with
    | some inner => inner.at? path
    | none => none

/-- What is true of a place itself, the places within it apart. -/
def Holds : Frame → Option Json → Option Json → Prop
  | becomes value, _, sent => sent = value
  | whole, was, sent => sent = was
  | time, was, sent => sent = was.bind Json.retimed?
  | settled depth, was, sent => sent = was.bind (Json.settled? depth)
  | orElse value frame, was, sent => frame.Holds was sent ∨ was = none ∧ sent.map hull = some value
  | list _, was, sent | map _ _, was, sent | record _, was, sent => sent.map hull = was.map hull

/-- What is sent is at every path what the frame makes of what was there. -/
def Agrees (frame : Frame) (was sent : Option Json) : Prop :=
  ∀ path, match frame.at? path with
    | some inner => inner.Holds (seek path was) (seek path sent)
    | none => seek path sent = none

variable {frame item : Frame} {was sent : Option Json}

/-- Nothing within the frame is replaced. -/
inductive Firm : Frame → Prop
  | whole : Firm whole
  | time : Firm time
  | settled (depth : Nat) : Firm (settled depth)
  | orElse (value : Json) {frame : Frame} (firm : Firm frame) : Firm (orElse value frame)
  | list {item : Frame} (firm : Firm item) : Firm (list item)
  | map {item : Frame} (firm : Firm item) : Firm (map [] item)
  | record {fields : List (String × Frame)} (firm : ∀ field ∈ fields, Firm field.2) :
      Firm (record fields)

theorem Firm.child? (firm : frame.Firm) {token : String} {inner : Frame}
    (found : frame.child? token = some inner) : inner.Firm := by
  induction firm with
  | whole =>
    obtain rfl := Option.some.inj found
    exact .whole
  | time => cases found
  | settled depth =>
    obtain rfl := Option.some.inj found
    exact .settled _
  | orElse value _ ih => exact ih found
  | list firm =>
    obtain rfl := Option.some.inj found
    exact firm
  | map firm =>
    obtain rfl := Option.some.inj found
    exact firm
  | record firm =>
    obtain ⟨before, after, rfl, -⟩ := List.lookup_eq_some_iff.1 found
    exact firm _ (List.mem_append_right before List.mem_cons_self)

theorem Firm.at? (firm : frame.Firm) {path : List String} {inner : Frame}
    (found : frame.at? path = some inner) : inner.Firm := by
  induction path generalizing frame with
  | nil =>
    obtain rfl := Option.some.inj found
    exact firm
  | cons token path ih =>
    rw [Frame.at?] at found
    split at found
    · rename_i below
      exact ih (firm.child? below) found
    · cases found

theorem Firm.holds_none (firm : frame.Firm) : frame.Holds none none := by
  induction firm with
  | orElse value _ ih => exact .inl ih
  | whole | time | settled _ | list | map | record => rfl

theorem Firm.agrees_none (firm : frame.Firm) : frame.Agrees none none := by
  intro path
  rw [Json.seek_none]
  split
  · rename_i found
    exact (firm.at? found).holds_none
  · rfl

theorem agrees_of_children (here : frame.Holds was sent)
    (inside : ∀ token, match frame.child? token with
      | some inner => inner.Agrees (was.bind (step? token)) (sent.bind (step? token))
      | none => sent.bind (step? token) = none) : frame.Agrees was sent := by
  intro path
  cases path with
  | nil => exact here
  | cons token path =>
    have below := inside token
    rw [at?]
    cases found : frame.child? token with
    | none =>
      rw [found] at below
      simp only [Json.seek_cons, below, Json.seek_none]
    | some inner =>
      rw [found] at below
      exact below path

theorem at?_becomes (value : Option Json) (path : List String) :
    (becomes value).at? path = some (becomes (seek path value)) := by
  induction path generalizing value with
  | nil => rfl
  | cons token path ih => exact ih (value.bind (step? token))

theorem agrees_becomes (was sent : Option Json) : (becomes sent).Agrees was sent := by
  intro path
  rw [at?_becomes]
  rfl

theorem agrees_whole (was : Option Json) : whole.Agrees was was := by
  have anywhere : ∀ path, whole.at? path = some whole := by
    intro path
    induction path with
    | nil => rfl
    | cons token path ih => exact ih
  intro path
  rw [anywhere]
  rfl

theorem agrees_time {json written : Json} (same : json.retimed? = some written) :
    time.Agrees (some json) (some written) := by
  refine agrees_of_children same.symm ?_
  intro token
  obtain ⟨time, -, rfl⟩ := Option.map_eq_some_iff.1 same
  rfl

theorem agrees_settled {depth : Nat} {json value : Json} (same : json.settled? depth = some value) :
    (settled depth).Agrees (some json) (some value) := by
  intro path
  induction path generalizing depth json value with
  | nil => exact same.symm
  | cons token path ih =>
    obtain ⟨settles, given⟩ := Json.step?_of_settled same token
    simp only [at?, child?, Json.seek_cons, Option.bind_some]
    cases was : step? token json with
    | none =>
      rw [settles, was]
      exact (Firm.settled (depth - 1)).agrees_none path
    | some inner =>
      rw [was] at settles given
      obtain ⟨kept, found⟩ := Option.isSome_iff_exists.1 (given rfl)
      rw [found] at settles ⊢
      exact ih settles.symm

theorem agrees_orElse (value : Json) (agrees : frame.Agrees was sent) :
    (orElse value frame).Agrees was sent := by
  intro path
  cases path with
  | nil => exact .inl (agrees [])
  | cons token path => exact agrees (token :: path)

theorem agrees_orElse_of_none {value put : Json} (alike : put.hull = value)
    (inside : ∀ token, match frame.child? token with
      | some inner => inner.Agrees none (step? token put)
      | none => step? token put = none) : (orElse value frame).Agrees none (some put) :=
  agrees_of_children (.inr ⟨rfl, congrArg some alike⟩) inside

theorem agrees_list {items values : List Json} (firm : item.Firm)
    (each : List.Forall₂ (fun item' value => item.Agrees (some item') (some value)) items values) :
    (list item).Agrees (some (.array items)) (some (.array values)) := by
  have atPosition : ∀ position : Nat, item.Agrees items[position]? values[position]? := by
    induction each with
    | nil => exact fun _ => firm.agrees_none
    | cons first _ ih =>
      rintro (_ | position)
      · exact first
      · exact ih position
  refine agrees_of_children rfl ?_
  intro token
  change item.Agrees ((Json.index? token).bind _) ((Json.index? token).bind _)
  cases Json.index? token with
  | none => exact firm.agrees_none
  | some position => exact atPosition position

theorem agrees_map {set : List (String × Frame)} {members values : Members}
    (each : ∀ token, ((set.lookup token).getD item).Agrees (given? token members)
      (given? token values)) :
    (map set item).Agrees (some (.object members)) (some (.object values)) :=
  agrees_of_children rfl each

/-! ### Records -/

def Row (members : Members) (key : String) (frame : Frame) (written : Members) : Prop :=
  ∃ value : Option Json, written = memberSome key value ∧ frame.Agrees (given? key members) value ∧
    ∀ json ∈ value, json.isNull = false

inductive Rows (members : Members) : List (String × Frame) → Members → Prop
  | last {key : String} {frame : Frame} {written : Members} (row : Row members key frame written) :
      Rows members [(key, frame)] written
  | next {key : String} {frame : Frame} {written : Members} {fields : List (String × Frame)}
    {others : Members}
      (row : Row members key frame written) (rest : Rows members fields others) :
      Rows members ((key, frame) :: fields) (written ++ others)

variable {members written : Members} {fields : List (String × Frame)} {key other : String}

theorem Row.valuesOf_of_ne (row : Row members key frame written) (different : key ≠ other) :
    Json.valuesOf other written = [] := by
  obtain ⟨value, rfl, -, -⟩ := row
  rw [valuesOf_memberSome, if_neg different]

theorem Row.agrees (row : Row members key frame written) :
    frame.Agrees (given? key members) (given? key written) := by
  obtain ⟨value, rfl, agrees, given⟩ := row
  have found : given? key (memberSome key value) = value := by
    cases value with
    | none => rfl
    | some json =>
      rw [given?, valuesOf_memberSome, if_pos rfl]
      have counts : (!(encode json : Json).isNull) = true := congrArg (! ·) (given json rfl)
      exact Option.filter_some_pos counts
  rw [found]
  exact agrees

theorem Rows.valuesOf_of_unlisted (rows : Rows members fields written)
    (unlisted : other ∉ fields.map Prod.fst) :
    Json.valuesOf other written = [] := by
  induction rows with
  | last row => exact row.valuesOf_of_ne fun same => unlisted (same ▸ List.mem_cons_self)
  | next row _ ih =>
    obtain ⟨different, later⟩ := not_or.1 (mt List.mem_cons.2 unlisted)
    rw [Json.valuesOf_append, row.valuesOf_of_ne (Ne.symm different), ih later]
    rfl

theorem Rows.agrees (rows : Rows members fields written) (distinct : (fields.map Prod.fst).Nodup)
    (field : (key, frame) ∈ fields) : frame.Agrees (given? key members) (given? key written) := by
  induction rows with
  | last row =>
    obtain ⟨rfl, rfl⟩ := Prod.mk.inj (List.mem_singleton.1 field)
    exact row.agrees
  | @next head _ written' fields' others row rest ih =>
    obtain ⟨fresh, later⟩ := List.nodup_cons.1 distinct
    rcases List.mem_cons.1 field with same | within
    · obtain ⟨rfl, rfl⟩ := Prod.mk.inj same
      have found : given? key (written' ++ others) = given? key written' := by
        rw [given?, Json.valuesOf_append, rest.valuesOf_of_unlisted fresh, List.append_nil]
        rfl
      rw [found]
      exact row.agrees
    · have listed : key ∈ fields'.map Prod.fst := List.mem_map.2 ⟨_, within, rfl⟩
      have different : head ≠ key := fun same => fresh (same ▸ listed)
      have found : given? key (written' ++ others) = given? key others := by
        rw [given?, Json.valuesOf_append, row.valuesOf_of_ne different, List.nil_append]
        rfl
      rw [found]
      exact ih later within

theorem agrees_record_children (rows : Rows members fields written)
    (distinct : (fields.map Prod.fst).Nodup) (token : String) :
    match (record fields).child? token with
      | some inner => inner.Agrees (given? token members) (given? token written)
      | none => given? token written = none := by
  change match fields.lookup token with | some inner => _ | none => _
  cases found : fields.lookup token with
  | some inner =>
    obtain ⟨before, after, rfl, -⟩ := List.lookup_eq_some_iff.1 found
    exact rows.agrees distinct (List.mem_append_right before List.mem_cons_self)
  | none =>
    have unlisted : token ∉ fields.map Prod.fst := by
      rintro listed
      obtain ⟨field, member, rfl⟩ := List.mem_map.1 listed
      simpa using List.lookup_eq_none_iff.1 found field member
    simp [given?, rows.valuesOf_of_unlisted unlisted]

theorem agrees_record (rows : Rows members fields written)
    (distinct : (fields.map Prod.fst).Nodup) :
    (record fields).Agrees (some (.object members)) (some (.object written)) :=
  agrees_of_children rfl (agrees_record_children rows distinct)

/-! ### Where a value is replaced -/

theorem Firm.at?_ne_becomes (firm : frame.Firm) (path : List String) (value : Option Json) :
    frame.at? path ≠ some (becomes value) := by
  intro replaced
  cases firm.at? replaced

theorem at?_of_orElse {value : Json} {put : Option Json} {path : List String}
    (replaced : (orElse value frame).at? path = some (becomes put)) :
    frame.at? path = some (becomes put) := by
  cases path with
  | nil => cases replaced
  | cons token path => exact replaced

theorem exists_field_of_at? {path : List String} {value : Option Json}
    (replaced : (record fields).at? path = some (becomes value)) :
    ∃ token rest frame, path = token :: rest ∧ (token, frame) ∈ fields ∧
      frame.at? rest = some (becomes value) := by
  cases path with
  | nil => cases replaced
  | cons token rest =>
    rw [at?] at replaced
    cases listed : (record fields).child? token with
    | none =>
      rw [listed] at replaced
      cases replaced
    | some frame =>
      rw [listed] at replaced
      obtain ⟨before, after, rfl, -⟩ :=
        List.lookup_eq_some_iff.1 (listed : fields.lookup token = some frame)
      exact ⟨token, rest, frame, rfl, List.mem_append_right before List.mem_cons_self, replaced⟩

theorem exists_loose_field {loose path : List String} {value : Option Json}
    (replaced : (record fields).at? path = some (becomes value))
    (firm : ∀ field ∈ fields, field.1 ∉ loose → field.2.Firm) :
    ∃ token rest frame, path = token :: rest ∧ token ∈ loose ∧ (token, frame) ∈ fields ∧
      frame.at? rest = some (becomes value) := by
  obtain ⟨token, rest, frame, split, field, within⟩ := exists_field_of_at? replaced
  by_cases listed : token ∈ loose
  · exact ⟨token, rest, frame, split, listed, field, within⟩
  · exact absurd within ((firm _ field listed).at?_ne_becomes rest value)

end Frame

end CephExport
