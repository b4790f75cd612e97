import CephExport.Proofs.Pass.Worker

/-!
What a pass leaves behind when it ends: the calls that it made with their answers, the events that
it reported, and its result. How a pass can end is a matter of the pass alone; a backend only picks
one of the ends by its answers.
-/

set_option autoImplicit false
set_option relaxedAutoImplicit false

namespace CephExport

namespace Exchange

def Concerns (place : Place) (exchange : Exchange) : Prop := exchange.call.place? = some place

instance (place : Place) (exchange : Exchange) : Decidable (exchange.Concerns place) :=
  inferInstanceAs (Decidable (exchange.call.place? = some place))

def About (kind : Kind) (exchange : Exchange) : Prop := ∃ key, exchange.Concerns ⟨kind, key⟩

def writes (kind : Kind) (exchange : Exchange) : Bool :=
  match exchange.call with
  | .create other _ _ | .replace other _ _ | .delete other _ => other == kind
  | _ => false

def deletes (kind : Kind) (exchange : Exchange) : Bool :=
  match exchange.call with
  | .delete other _ => other == kind
  | _ => false

section

variable {kind other : Kind} {key : ObjectKey} {object : Managed other} {«namespace» : String}

@[simp] theorem writes_get (answer : (Call.get other key).Answer) :
    (⟨.get other key, answer⟩ : Exchange).writes kind = false := rfl

@[simp] theorem writes_create (answer : (Call.create other «namespace» object).Answer) :
    (⟨.create other «namespace» object, answer⟩ : Exchange).writes kind = (other == kind) := rfl

@[simp] theorem writes_replace (answer : (Call.replace other key object).Answer) :
    (⟨.replace other key object, answer⟩ : Exchange).writes kind = (other == kind) := rfl

@[simp] theorem writes_delete (answer : (Call.delete other key).Answer) :
    (⟨.delete other key, answer⟩ : Exchange).writes kind = (other == kind) := rfl

@[simp] theorem deletes_get (answer : (Call.get other key).Answer) :
    (⟨.get other key, answer⟩ : Exchange).deletes kind = false := rfl

@[simp] theorem deletes_delete (answer : (Call.delete other key).Answer) :
    (⟨.delete other key, answer⟩ : Exchange).deletes kind = (other == kind) := rfl

end

theorem Concerns.about {exchange : Exchange} {kind : Kind} {key : ObjectKey}
    (h : exchange.Concerns ⟨kind, key⟩) : exchange.About kind := ⟨key, h⟩

theorem About.unique {exchange : Exchange} {kind other : Kind} (h : exchange.About kind)
    (h' : exchange.About other) : kind = other := by
  obtain ⟨_, here⟩ := h
  obtain ⟨_, there⟩ := h'
  exact congrArg Place.kind (Option.some.inj (here.symm.trans there))

theorem about_of_writes {exchange : Exchange} {kind : Kind} (h : exchange.writes kind = true) :
    exchange.About kind := by
  obtain ⟨call, answer⟩ := exchange
  cases call with
  | create | replace | delete =>
    obtain rfl := beq_iff_eq.1 h
    exact ⟨_, rfl⟩
  | get | setPhase | addFinalizer | removeFinalizer => cases h

theorem writes_of_deletes {exchange : Exchange} {kind : Kind} (h : exchange.deletes kind = true) :
    exchange.writes kind = true := by
  obtain ⟨call, answer⟩ := exchange
  cases call with
  | delete => exact h
  | get | create | replace | setPhase | addFinalizer | removeFinalizer => cases h

theorem split_append {first second before after : List Exchange} {exchange : Exchange}
    (h : first ++ second = before ++ exchange :: after) :
    (∃ rest, first = before ++ exchange :: rest ∧ after = rest ++ second) ∨
      ∃ rest, second = rest ++ exchange :: after ∧ before = first ++ rest := by
  rcases List.append_eq_append_iff.1 h with ⟨rest, rfl, late⟩ | ⟨rest, rfl, late⟩
  · exact .inr ⟨rest, late, rfl⟩
  · rcases List.cons_eq_append_iff.1 late with ⟨rfl, late⟩ | ⟨rest, rfl, rfl⟩
    · exact .inr ⟨[], late.symm, by simp⟩
    · exact .inl ⟨rest, rfl, rfl⟩

end Exchange

namespace Pass

variable {α β : Type}

/-- The ways in which a pass can end: with its exchanges, its events and its result. -/
inductive Ends : Pass α → List Exchange → List Event → Except OperatorError α → Prop
  | done (result : Except OperatorError α) : Ends (done result) [] [] result
  | report {event : Event} {rest : Pass α} {exchanges : List Exchange} {events : List Event}
      {result : Except OperatorError α} (later : rest.Ends exchanges events result) :
      Ends (report event rest) exchanges (event :: events) result
  | ask {call : Call} {rest : call.Answer → Pass α} {answer : call.Answer}
      {exchanges : List Exchange} {events : List Event} {result : Except OperatorError α}
      (later : (rest answer).Ends exchanges events result) :
      Ends (ask call rest) (⟨call, answer⟩ :: exchanges) events result

def history {σ : Type} (answer : (call : Call) → σ → call.Answer × σ) : Pass α → σ → List Exchange
  | done _, _ => []
  | report _ rest, state => rest.history answer state
  | ask call rest, state =>
    ⟨call, (answer call state).1⟩ ::
      (rest (answer call state).1).history answer (answer call state).2

theorem ends_run {σ : Type} (answer : (call : Call) → σ → call.Answer × σ) (pass : Pass α)
    (state : σ) :
    pass.Ends (pass.history answer state) (pass.run answer state).events
      (pass.run answer state).result := by
  induction pass generalizing state with
  | done result => exact .done result
  | report event rest ih => exact .report (ih state)
  | ask call rest ih => exact .ask (ih _ _)

theorem exists_of_mem_history {σ : Type} {answer : (call : Call) → σ → call.Answer × σ}
    (pass : Pass α) {state : σ} {exchange : Exchange}
    (member : exchange ∈ pass.history answer state) :
    ∃ served, exchange.answer = (answer exchange.call served).1 := by
  induction pass generalizing state with
  | done => cases member
  | report event rest ih => exact ih member
  | ask call rest ih =>
    rcases List.mem_cons.1 member with rfl | later
    · exact ⟨state, rfl⟩
    · exact ih _ later

section

variable {exchanges : List Exchange} {events : List Event} {result : Except OperatorError α}

@[simp] theorem ends_done_iff {outcome : Except OperatorError α} :
    (Pass.done outcome).Ends exchanges events result ↔
      exchanges = [] ∧ events = [] ∧ result = outcome := by
  constructor
  · rintro ⟨⟩
    exact ⟨rfl, rfl, rfl⟩
  · rintro ⟨rfl, rfl, rfl⟩
    exact .done _

@[simp] theorem ends_pure_iff {value : α} :
    (pure value : Pass α).Ends exchanges events result ↔
      exchanges = [] ∧ events = [] ∧ result = .ok value := ends_done_iff

@[simp] theorem ends_fail_iff {error : OperatorError} :
    (fail error : Pass α).Ends exchanges events result ↔
      exchanges = [] ∧ events = [] ∧ result = .error error := ends_done_iff

theorem ends_report_iff {event : Event} {rest : Pass α} :
    (Pass.report event rest).Ends exchanges events result ↔
      ∃ later, events = event :: later ∧ rest.Ends exchanges later result := by
  constructor
  · intro ended
    cases ended with
    | report later => exact ⟨_, rfl, later⟩
  · rintro ⟨later, rfl, ended⟩
    exact .report ended

theorem ends_ask_iff {call : Call} {rest : call.Answer → Pass α} :
    (Pass.ask call rest).Ends exchanges events result ↔
      ∃ answer later, exchanges = ⟨call, answer⟩ :: later ∧
        (rest answer).Ends later events result := by
  constructor
  · intro ended
    cases ended with
    | ask later => exact ⟨_, _, rfl, later⟩
  · rintro ⟨answer, later, rfl, ended⟩
    exact .ask ended

end

variable {exchanges : List Exchange} {events : List Event} {result : Except OperatorError β}

theorem ends_bind_iff {pass : Pass α} {next : α → Pass β} :
    (pass >>= next).Ends exchanges events result ↔
      (∃ error, pass.Ends exchanges events (.error error) ∧ result = .error error) ∨
      ∃ value first second reported rest, pass.Ends first reported (.ok value) ∧
        (next value).Ends second rest result ∧
        exchanges = first ++ second ∧ events = reported ++ rest := by
  change (pass.bind next).Ends exchanges events result ↔ _
  induction pass generalizing exchanges events with
  | done outcome =>
    cases outcome with
    | error error =>
      simp only [Pass.bind, ends_done_iff, reduceCtorEq, and_false, false_and, exists_false,
        or_false]
      constructor
      · rintro ⟨none, silent, failed⟩
        exact ⟨error, ⟨none, silent, rfl⟩, failed⟩
      · rintro ⟨_, ⟨none, silent, ⟨⟩⟩, failed⟩
        exact ⟨none, silent, failed⟩
    | ok value =>
      simp only [Pass.bind, ends_done_iff, reduceCtorEq, and_false, false_and, exists_false,
        false_or]
      constructor
      · intro ended
        exact ⟨value, [], exchanges, [], events, ⟨rfl, rfl, rfl⟩, ended, rfl, rfl⟩
      · rintro ⟨_, _, _, _, _, ⟨rfl, rfl, ⟨⟩⟩, ended, rfl, rfl⟩
        exact ended
  | report event rest ih =>
    simp only [Pass.bind, ends_report_iff, ih]
    constructor
    · rintro ⟨later, rfl, ⟨error, ended, failed⟩ | ⟨value, _, _, _, _, ended, went, rfl, rfl⟩⟩
      · exact .inl ⟨error, ⟨later, rfl, ended⟩, failed⟩
      · exact .inr ⟨value, _, _, _, _, ⟨_, rfl, ended⟩, went, rfl, rfl⟩
    · rintro (⟨error, ⟨later, rfl, ended⟩, failed⟩ |
        ⟨value, _, _, _, _, ⟨later, rfl, ended⟩, went, rfl, rfl⟩)
      · exact ⟨later, rfl, .inl ⟨error, ended, failed⟩⟩
      · exact ⟨_, rfl, .inr ⟨value, _, _, _, _, ended, went, rfl, rfl⟩⟩
  | ask call rest ih =>
    simp only [Pass.bind, ends_ask_iff, ih]
    constructor
    · rintro ⟨answer, later, rfl, ⟨error, ended, failed⟩ |
        ⟨value, _, _, _, _, ended, went, rfl, rfl⟩⟩
      · exact .inl ⟨error, ⟨answer, later, rfl, ended⟩, failed⟩
      · exact .inr ⟨value, _, _, _, _, ⟨answer, _, rfl, ended⟩, went, rfl, rfl⟩
    · rintro (⟨error, ⟨answer, later, rfl, ended⟩, failed⟩ |
        ⟨value, _, _, _, _, ⟨answer, later, rfl, ended⟩, went, rfl, rfl⟩)
      · exact ⟨answer, later, rfl, .inl ⟨error, ended, failed⟩⟩
      · exact ⟨answer, _, rfl, .inr ⟨value, _, _, _, _, ended, went, rfl, rfl⟩⟩

theorem ends_log_bind_iff {event : Event} {next : Unit → Pass β} :
    (log event >>= next).Ends exchanges events result ↔
      ∃ later, events = event :: later ∧ (next ()).Ends exchanges later result := ends_report_iff

theorem ends_logAll_bind_iff {notices : List Event} {next : Unit → Pass β} :
    (logAll notices >>= next).Ends exchanges events result ↔
      ∃ later, events = notices ++ later ∧ (next ()).Ends exchanges later result := by
  induction notices generalizing events with
  | nil => simp [logAll, Bind.bind, Pass.bind]
  | cons notice rest ih =>
    change (Pass.report notice (logAll rest >>= next)).Ends exchanges events result ↔ _
    rw [ends_report_iff]
    constructor
    · rintro ⟨later, rfl, ended⟩
      obtain ⟨last, rfl, went⟩ := ih.1 ended
      exact ⟨last, rfl, went⟩
    · rintro ⟨later, rfl, ended⟩
      exact ⟨rest ++ later, rfl, ih.2 ⟨later, rfl, ended⟩⟩

theorem ends_attempt_bind_iff {call : Call} {next : call.Answer → Pass β} :
    (attempt call >>= next).Ends exchanges events result ↔
      ∃ answer later, exchanges = ⟨call, answer⟩ :: later ∧
        (next answer).Ends later events result := ends_ask_iff

theorem ends_perform_bind_iff {call : Call} {next : call.Reply → Pass β} :
    (perform call >>= next).Ends exchanges events result ↔
      (∃ error, exchanges = [⟨call, .error error⟩] ∧ events = [] ∧ result = .error error) ∨
      ∃ reply later, exchanges = ⟨call, .ok reply⟩ :: later ∧
        (next reply).Ends later events result := by
  change (Pass.ask call _).Ends exchanges events result ↔ _
  rw [ends_ask_iff]
  constructor
  · rintro ⟨error | reply, later, rfl, ended⟩
    · obtain ⟨rfl, rfl, rfl⟩ := ends_done_iff.1 ended
      exact .inl ⟨error, rfl, rfl, rfl⟩
    · exact .inr ⟨reply, later, rfl, ended⟩
  · rintro (⟨error, rfl, rfl, rfl⟩ | ⟨reply, later, rfl, ended⟩)
    · exact ⟨.error error, [], rfl, .done _⟩
    · exact ⟨.ok reply, later, rfl, ended⟩

end Pass

namespace Backend

variable {σ : Type} {backend other : Backend σ} {before after : σ}

/-- A backend answers calls one after another. -/
inductive Serves (backend : Backend σ) : σ → List Exchange → σ → Prop
  | nil (state : σ) : Serves backend state [] state
  | cons {call : Call} {answer : call.Answer} {before between after : σ} {later : List Exchange}
      (served : backend before call answer between) (rest : Serves backend between later after) :
      Serves backend before (⟨call, answer⟩ :: later) after

@[simp] theorem serves_nil_iff : backend.Serves before [] after ↔ after = before := by
  constructor
  · rintro ⟨⟩
    rfl
  · rintro rfl
    exact .nil _

theorem serves_cons_iff {call : Call} {answer : call.Answer} {later : List Exchange} :
    backend.Serves before (⟨call, answer⟩ :: later) after ↔
      ∃ between, backend before call answer between ∧ backend.Serves between later after := by
  constructor
  · intro served
    cases served with
    | cons first rest => exact ⟨_, first, rest⟩
  · rintro ⟨between, served, rest⟩
    exact .cons served rest

@[simp] theorem serves_singleton_iff {call : Call} {answer : call.Answer} :
    backend.Serves before [⟨call, answer⟩] after ↔ backend before call answer after := by
  simp [serves_cons_iff]

theorem serves_append_iff {first second : List Exchange} :
    backend.Serves before (first ++ second) after ↔
      ∃ between, backend.Serves before first between ∧ backend.Serves between second after := by
  induction first generalizing before with
  | nil => simp
  | cons exchange rest ih =>
    obtain ⟨call, answer⟩ := exchange
    simp only [List.cons_append, serves_cons_iff, ih]
    constructor
    · rintro ⟨next, served, between, early, late⟩
      exact ⟨between, ⟨next, served, early⟩, late⟩
    · rintro ⟨between, ⟨next, served, early⟩, late⟩
      exact ⟨next, served, between, early, late⟩

theorem Serves.mono {exchanges : List Exchange} (served : backend.Serves before exchanges after)
    (weaker : ∀ before call answer after, backend before call answer after →
      other before call answer after) : other.Serves before exchanges after := by
  induction served with
  | nil state => exact .nil state
  | cons served _ ih => exact .cons (weaker _ _ _ _ served) ih

end Backend

end CephExport
