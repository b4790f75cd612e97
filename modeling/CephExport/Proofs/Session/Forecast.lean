import CephExport.Proofs.Session.Withdrawal

/-!
What a pass over the resources of a cluster comes to where no call fails without need. It is settled
before the pass begins, by what is kept at the places of the cluster's resources and by whether a
deleted object lingers there: which calls are made, what is reported and how the pass ends.
-/

set_option autoImplicit false
set_option relaxedAutoImplicit false

namespace CephExport

/-- What a pass is going to do: its calls, its events and its result. -/
structure Forecast where
  calls : List Call
  events : List Event
  result : Except OperatorError RequeueHint

namespace Forecast

def nothing (result : Except OperatorError RequeueHint) : Forecast := ⟨[], [], result⟩

def followedBy (first second : Forecast) : Forecast :=
  match first.result with
  | .error _ => first
  | .ok _ => ⟨first.calls ++ second.calls, first.events ++ second.events, second.result⟩

def ofCourse (exchanges : List Exchange) (events : List Event)
    (result : Except OperatorError RequeueHint) :
    Forecast := ⟨exchanges.map (·.call), events, result⟩

end Forecast

namespace Kind

variable (kind : Kind) (key : ObjectKey) (lingers : Bool)

def removalForecast : Option (Managed kind) → Forecast
  | none => ⟨[.get kind key], [kind.event key .notFound], .ok .done⟩
  | some live =>
    let waiting : Except OperatorError RequeueHint := .error (.stillDeleting kind.name key.name)
    if live.metadata.isDeleting then
      ⟨[.get kind key, .get kind key], [kind.event key .waiting], waiting⟩
    else
      let calls : List Call := [.get kind key, .delete kind key, .get kind key]
      if lingers then ⟨calls, [kind.event key .deleting, kind.event key .waiting], waiting⟩
      else ⟨calls, [kind.event key .deleting, kind.event key .deleted], .ok .done⟩

def provisionForecast (desired : Managed kind) : Option (Managed kind) → Forecast
  | none =>
    ⟨[.get kind key, .create kind key.namespace desired], [kind.event key .creating], .ok .done⟩
  | some live =>
    if live.metadata.isDeleting then
      ⟨[.get kind key], [kind.event key .pendingDeletion],
        .error (.pendingDeletion kind.name key.name)⟩
    else if live.drifted desired then
      ⟨[.get kind key, .replace kind key (live.merge desired)],
        live.driftNotices desired ++ [kind.event key .updating], .ok .done⟩
    else ⟨[.get kind key], live.driftNotices desired ++ [kind.event key .inSync], .ok .done⟩

variable (lingers : Place → Bool) (policy : Policy) (cluster : Cluster) (contents : Contents)

def deletionForecast : Forecast :=
  match kind.keyFor cluster with
  | .error error => .nothing (.error error)
  | .ok key => kind.removalForecast key (lingers ⟨kind, key⟩) (contents.object ⟨kind, key⟩)

def creationForecast : Forecast :=
  match kind.desired cluster policy.scheme policy.settings, kind.keyFor cluster with
  | .error error, _ => .nothing (.error error)
  | .ok _, .error error => .nothing (.error error)
  | .ok desired, .ok key => kind.provisionForecast key desired (contents.object ⟨kind, key⟩)

end Kind

variable {lingers : Place → Bool} {policy : Policy} {cluster : Cluster} {before after : Contents}
  {exchanges : List Exchange} {events : List Event} {result : Except OperatorError RequeueHint}

theorem Reliable.of_lingering {call : Call} {answer : call.Answer}
    (served : Reliable (Contents.AcceptsLingering lingers) before call answer after)
    (other : ∀ kind key, call ≠ .delete kind key) :
    Reliable Contents.Accepts before call answer after := by
  cases served with
  | accepted taken => exact .accepted taken.1
  | refused error impossible =>
    refine .refused error fun reply after taken => impossible reply after ⟨taken, ?_⟩
    exact fun kind key same => absurd same (other kind key)

namespace Kind

variable {kind : Kind} {key : ObjectKey}

private theorem Confirmation.forecast (confirmed : Confirmation kind key exchanges events result)
    (served : (Reliable (Contents.AcceptsLingering lingers)).Serves before exchanges after) :
    exchanges.map (·.call) = [.get kind key] ∧
      ((before.object ⟨kind, key⟩ = none ∧ events = [kind.event key .deleted] ∧
        result = .ok .done) ∨
      (before.object ⟨kind, key⟩ ≠ none ∧ events = [kind.event key .waiting] ∧
        result = .error (.stillDeleting kind.name key.name))) := by
  cases confirmed with
  | failed error =>
    obtain ⟨⟨⟩, -⟩ := Reliable.reading_first (fun _ _ => Contents.acceptsLingering_get) served
  | gone =>
    obtain ⟨gone, -⟩ := Reliable.found_first (fun _ _ => Contents.acceptsLingering_get) served
    exact ⟨rfl, .inl ⟨gone, rfl, rfl⟩⟩
  | present live =>
    obtain ⟨kept, -⟩ := Reliable.found_first (fun _ _ => Contents.acceptsLingering_get) served
    exact ⟨rfl, .inr ⟨by rw [kept]; exact nofun, rfl, rfl⟩⟩

theorem Removal.forecast (renewable : before.Renewable)
    (removal : Removal kind key exchanges events result)
    (served : (Reliable (Contents.AcceptsLingering lingers)).Serves before exchanges after) :
    Forecast.ofCourse exchanges events result =
      kind.removalForecast key (lingers ⟨kind, key⟩) (before.object ⟨kind, key⟩) := by
  cases removal with
  | unread error =>
    obtain ⟨⟨⟩, -⟩ := Reliable.reading_first (fun _ _ => Contents.acceptsLingering_get) served
  | absent =>
    obtain ⟨gone, -⟩ := Reliable.found_first (fun _ _ => Contents.acceptsLingering_get) served
    rw [gone]
    rfl
  | marked marked confirmed =>
    obtain ⟨kept, later⟩ := Reliable.found_first (fun _ _ => Contents.acceptsLingering_get) served
    obtain ⟨calls, ⟨gone, -, -⟩ | ⟨-, rfl, rfl⟩⟩ := confirmed.forecast later
    · cases kept.symm.trans gone
    · simp only [Forecast.ofCourse, List.map_cons, calls, kept, removalForecast, marked, if_true]
  | refused error unmarked other =>
    obtain ⟨kept, later⟩ := Reliable.found_first (fun _ _ => Contents.acceptsLingering_get) served
    obtain ⟨⟨⟩, -⟩ := (Backend.serves_singleton_iff.1 later).deletion renewable kept unmarked
  | deleted unmarked confirmed =>
    obtain ⟨kept, later⟩ := Reliable.found_first (fun _ _ => Contents.acceptsLingering_get) served
    obtain ⟨between, asked, last⟩ := Backend.serves_cons_iff.1 later
    obtain ⟨-, effect⟩ := asked.deletion renewable kept unmarked
    obtain ⟨calls, told⟩ := confirmed.forecast last
    rcases effect with ⟨brief, gone⟩ | ⟨lasting, live, there, -⟩
    · rcases told with ⟨-, rfl, rfl⟩ | ⟨there, -, -⟩
      · simp [Forecast.ofCourse, calls, kept, removalForecast, unmarked, brief]
      · exact absurd gone there
    · rcases told with ⟨gone, -, -⟩ | ⟨-, rfl, rfl⟩
      · cases there.symm.trans gone
      · simp [Forecast.ofCourse, calls, kept, removalForecast, unmarked, lasting]
  | vanished error unmarked missing confirmed =>
    obtain ⟨kept, later⟩ := Reliable.found_first (fun _ _ => Contents.acceptsLingering_get) served
    obtain ⟨between, asked, -⟩ := Backend.serves_cons_iff.1 later
    obtain ⟨⟨⟩, -⟩ := asked.deletion renewable kept unmarked

theorem Provision.forecast {desired : Managed kind}
    (named : desired.metadata.displayName = key.name) (renewable : before.Renewable)
    (provision : Provision kind key desired exchanges events result)
    (served : (Reliable (Contents.AcceptsLingering lingers)).Serves before exchanges after) :
    Forecast.ofCourse exchanges events result =
      kind.provisionForecast key desired (before.object ⟨kind, key⟩) := by
  cases provision with
  | unread error =>
    obtain ⟨⟨⟩, -⟩ := Reliable.reading_first (fun _ _ => Contents.acceptsLingering_get) served
  | pending marked =>
    obtain ⟨kept, -⟩ := Reliable.found_first (fun _ _ => Contents.acceptsLingering_get) served
    simp [Forecast.ofCourse, kept, provisionForecast, marked]
  | inSync unmarked same =>
    obtain ⟨kept, -⟩ := Reliable.found_first (fun _ _ => Contents.acceptsLingering_get) served
    simp [Forecast.ofCourse, kept, provisionForecast, unmarked, same]
  | notCreated error =>
    obtain ⟨free, wrote⟩ := Reliable.found_first (fun _ _ => Contents.acceptsLingering_get) served
    have asked := (Backend.serves_singleton_iff.1 wrote).of_lingering nofun
    obtain ⟨_, _, ⟨⟩, -⟩ := asked.creation named renewable free
  | created reply =>
    obtain ⟨free, -⟩ := Reliable.found_first (fun _ _ => Contents.acceptsLingering_get) served
    rw [free]
    rfl
  | @notReplaced live error _ drifted =>
    obtain ⟨kept, wrote⟩ := Reliable.found_first (fun _ _ => Contents.acceptsLingering_get) served
    have asked := (Backend.serves_singleton_iff.1 wrote).of_lingering nofun
    have same : live.metadata.resourceVersion = (live.merge desired).metadata.resourceVersion := by
      rw [Managed.metadata_merge]
    obtain ⟨_, ⟨⟩, -⟩ := asked.replacement renewable kept same
  | replaced reply unmarked drifted =>
    obtain ⟨kept, -⟩ := Reliable.found_first (fun _ _ => Contents.acceptsLingering_get) served
    simp [Forecast.ofCourse, kept, provisionForecast, unmarked, drifted]

theorem Deletion.forecast (renewable : before.Renewable)
    (deletion : Deletion kind cluster exchanges events result)
    (served : (Reliable (Contents.AcceptsLingering lingers)).Serves before exchanges after) :
    Forecast.ofCourse exchanges events result = kind.deletionForecast lingers cluster before := by
  cases deletion with
  | unplaced unplaced =>
    rw [deletionForecast, unplaced]
    rfl
  | placed placed removal =>
    rw [deletionForecast, keyFor_of_isAt kind placed]
    exact removal.forecast renewable served

theorem Creation.forecast (renewable : before.Renewable)
    (creation : Creation kind policy cluster exchanges events result)
    (served : (Reliable (Contents.AcceptsLingering lingers)).Serves before exchanges after) :
    Forecast.ofCourse exchanges events result = kind.creationForecast policy cluster before := by
  cases creation with
  | unbuilt unbuilt =>
    rw [creationForecast, unbuilt]
    rfl
  | built placed built provision =>
    rw [creationForecast, built, keyFor_of_isAt kind placed]
    exact provision.forecast (displayName_of_desired placed built) renewable served

theorem deletionForecast_congr (same : ∀ key, kind.keyFor cluster = .ok key →
      after.object ⟨kind, key⟩ = before.object ⟨kind, key⟩) :
    kind.deletionForecast lingers cluster after = kind.deletionForecast lingers cluster before := by
  unfold deletionForecast
  cases placed : kind.keyFor cluster with
  | error error => rfl
  | ok key => simp only [same key placed]

theorem creationForecast_congr (same : ∀ key, kind.keyFor cluster = .ok key →
      after.object ⟨kind, key⟩ = before.object ⟨kind, key⟩) :
    kind.creationForecast policy cluster after = kind.creationForecast policy cluster before := by
  unfold creationForecast
  cases kind.desired cluster policy.scheme policy.settings with
  | error error => rfl
  | ok desired =>
    cases placed : kind.keyFor cluster with
    | error error => rfl
    | ok key => simp only [same key placed]

end Kind

namespace Orchestrator

def inTurnForecast (forecast : Kind → Forecast) (kinds : List Kind) : Forecast :=
  kinds.foldr (fun kind rest => (forecast kind).followedBy rest) (.nothing (.ok .done))

theorem inTurnForecast_congr {forecast other : Kind → Forecast} {kinds : List Kind}
    (same : ∀ kind ∈ kinds, forecast kind = other kind) :
    inTurnForecast forecast kinds = inTurnForecast other kinds := by
  induction kinds with
  | nil => rfl
  | cons kind rest ih =>
    obtain ⟨here, later⟩ := List.forall_mem_cons.1 same
    have rests := ih later
    unfold inTurnForecast at rests ⊢
    rw [List.foldr_cons, List.foldr_cons, here, rests]

/-- A pass over all resources of a cluster, which creates them or deletes them. -/
def forecast (policy : Policy) (cluster : Cluster) (lingers : Place → Bool) (contents : Contents) :
    Bool → Forecast
  | false =>
    inTurnForecast (fun kind => kind.deletionForecast lingers cluster contents) deletionOrder
  | true => inTurnForecast (fun kind => kind.creationForecast policy cluster contents) creationOrder

/-- What is foreseen for each resource from the state before the whole pass is still foreseen when
its turn comes, as the turns before it are about other kinds. -/
private theorem InTurn.forecast
    {course : Kind → List Exchange → List Event → Except OperatorError RequeueHint → Prop}
    {foreseen : Contents → Kind → Forecast} {kinds : List Kind}
    (about : ∀ kind exchanges events result, course kind exchanges events result →
      ∀ exchange ∈ exchanges, exchange.About kind)
    (here : ∀ kind exchanges events result before after, before.Renewable →
      course kind exchanges events result →
      (Reliable (Contents.AcceptsLingering lingers)).Serves before exchanges after →
      Forecast.ofCourse exchanges events result = foreseen before kind)
    (congr : ∀ kind (before after : Contents),
      (∀ key, after.object ⟨kind, key⟩ = before.object ⟨kind, key⟩) →
      foreseen after kind = foreseen before kind)
    (distinct : kinds.Nodup) (renewable : before.Renewable)
    (turns : InTurn course kinds exchanges events result)
    (served : (Reliable (Contents.AcceptsLingering lingers)).Serves before exchanges after) :
    Forecast.ofCourse exchanges events result = inTurnForecast (foreseen before) kinds := by
  induction turns generalizing before with
  | finished => rfl
  | failed failing =>
    have told := here _ _ _ _ _ _ renewable failing served
    rw [inTurnForecast, List.foldr_cons, ← told]
    rfl
  | @passed head rest first second reported later result passing next ih =>
    obtain ⟨between, early, late⟩ := Backend.serves_append_iff.1 served
    obtain ⟨notLater, distinct⟩ := List.nodup_cons.1 distinct
    have told := here _ _ _ _ _ _ renewable passing early
    have rests := ih distinct (early.unreliable.renewable renewable) late
    have frame : ∀ kind ∈ rest, foreseen between kind = foreseen before kind := by
      intro kind among
      apply congr
      intro key
      refine early.unreliable.object_eq fun exchange member concerns => notLater ?_
      have same := concerns.about.unique (about _ _ _ _ passing exchange member)
      exact same ▸ among
    have split : inTurnForecast (foreseen before) (head :: rest) =
        (foreseen before head).followedBy (inTurnForecast (foreseen before) rest) := rfl
    rw [split, ← inTurnForecast_congr frame, ← rests, ← told]
    simp [Forecast.ofCourse, Forecast.followedBy]

theorem Course.forecast {creating : Bool} (renewable : before.Renewable)
    (course : Course policy cluster creating exchanges events result)
    (served : (Reliable (Contents.AcceptsLingering lingers)).Serves before exchanges after) :
    Forecast.ofCourse exchanges events result =
      Orchestrator.forecast policy cluster lingers before creating := by
  cases course with
  | deletions turns =>
    exact turns.forecast (fun _ _ _ _ => Kind.Deletion.about)
      (fun _ _ _ _ _ _ renewable deletion served => deletion.forecast renewable served)
      (fun _ _ _ same => Kind.deletionForecast_congr fun key _ => same key) (by decide)
        renewable served
  | creations turns =>
    exact turns.forecast (fun _ _ _ _ => Kind.Creation.about)
      (fun _ _ _ _ _ _ renewable creation served => creation.forecast renewable served)
      (fun _ _ _ same => Kind.creationForecast_congr fun key _ => same key) (by decide)
        renewable served

theorem forecast_congr (creating : Bool)
    (same : ∀ (kind : Kind) key, kind.keyFor cluster = .ok key →
      after.object ⟨kind, key⟩ = before.object ⟨kind, key⟩) :
    forecast policy cluster lingers after creating =
      forecast policy cluster lingers before creating := by
  cases creating with
  | false => simp only [forecast, Kind.deletionForecast_congr (same _)]
  | true => simp only [forecast, Kind.creationForecast_congr (same _)]

end Orchestrator

end CephExport
