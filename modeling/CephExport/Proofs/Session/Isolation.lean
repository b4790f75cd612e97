import CephExport.Proofs.Resource.Naming
import CephExport.Proofs.Session.Forecast
import CephExport.Reconcile.Cluster

/-!
Parents do not meet. The passes over the resources of one cluster call for nothing at the places of
another, so that they leave its objects alone, and what a pass over the other does afterwards is
what it would have done without them.
-/

set_option autoImplicit false
set_option relaxedAutoImplicit false

namespace CephExport

namespace Contents

variable {before after other : Contents} {places : Set Place}

/-- Two stores keep the same objects at some places and gave out the same versions there. -/
structure AgreeAt (places : Set Place) (contents other : Contents) : Prop where
  object : ∀ place ∈ places, contents.object place = other.object place
  issued : ∀ place ∈ places, contents.issued place = other.issued place

namespace AgreeAt

theorem refl (places : Set Place) (contents : Contents) : contents.AgreeAt places contents :=
  ⟨fun _ _ => rfl, fun _ _ => rfl⟩

theorem symm (agree : before.AgreeAt places other) : other.AgreeAt places before :=
  ⟨fun place among => (agree.object place among).symm, fun place among =>
    (agree.issued place among).symm⟩

theorem trans (first : before.AgreeAt places other) (second : other.AgreeAt places after) :
    before.AgreeAt places after :=
  ⟨fun place among => (first.object place among).trans (second.object place among),
    fun place among => (first.issued place among).trans (second.issued place among)⟩

theorem store (agree : before.AgreeAt places other) (place : Place) (object : Managed place.kind)
    (version : String) :
    (before.store place object version).AgreeAt places (other.store place object version) where
  object at? among := by
    by_cases same : at? = place
    · subst same
      rw [store_object_self, store_object_self]
    · rw [store_object_of_ne _ _ _ same, store_object_of_ne _ _ _ same, agree.object at? among]
  issued at? among := by
    by_cases same : at? = place
    · subst same
      rw [store_issued_self, store_issued_self, agree.issued at? among]
    · rw [store_issued_of_ne _ _ _ same, store_issued_of_ne _ _ _ same, agree.issued at? among]

theorem remove (agree : before.AgreeAt places other) (place : Place) :
    (before.remove place).AgreeAt places (other.remove place) where
  object at? among := by
    by_cases same : at? = place
    · subst same
      rw [remove_object_self, remove_object_self]
    · rw [remove_object_of_ne _ same, remove_object_of_ne _ same, agree.object at? among]
  issued at? among := by
    rw [remove_issued, remove_issued, agree.issued at? among]

end AgreeAt

theorem Accepts.transfer {call : Call} {reply : call.Reply} {place : Place}
    (taken : before.Accepts call reply after) (agree : before.AgreeAt places other)
    (concerns : call.place? = some place) (among : place ∈ places) :
    ∃ after', other.Accepts call reply after' ∧ after.AgreeAt places after' := by
  cases taken with
  | get kind key =>
    obtain rfl := Option.some.inj concerns
    exact ⟨other, accepts_get.2 ⟨agree.object _ among, rfl⟩, agree⟩
  | create identity free fresh =>
    obtain rfl := Option.some.inj concerns
    rw [agree.object _ among] at free
    rw [agree.issued _ among] at fresh
    exact ⟨_, .create identity free fresh, agree.store _ _ _⟩
  | replace kept same fresh =>
    obtain rfl := Option.some.inj concerns
    rw [agree.object _ among] at kept
    rw [agree.issued _ among] at fresh
    exact ⟨_, .replace kept same fresh, agree.store _ _ _⟩
  | remove kept =>
    obtain rfl := Option.some.inj concerns
    rw [agree.object _ among] at kept
    exact ⟨_, .remove kept, agree.remove _⟩
  | mark time kept fresh =>
    obtain rfl := Option.some.inj concerns
    rw [agree.object _ among] at kept
    rw [agree.issued _ among] at fresh
    exact ⟨_, .mark time kept fresh, agree.store _ _ _⟩
  | alreadyMarked kept marked =>
    obtain rfl := Option.some.inj concerns
    rw [agree.object _ among] at kept
    exact ⟨_, .alreadyMarked kept marked, agree⟩

theorem Accepts.agreeAt {call : Call} {reply : call.Reply} (taken : before.Accepts call reply after)
    (elsewhere : ∀ place ∈ places, call.place? ≠ some place) : after.AgreeAt places before where
  object place among := taken.object_of_ne (elsewhere place among)
  issued place among := by
    have other := elsewhere place among
    cases taken with
    | get | alreadyMarked | remove => rfl
    | create | replace | mark =>
      exact store_issued_of_ne _ _ _ fun same => other (congrArg some same.symm)

end Contents

section

variable {before after other : Contents} {places : Set Place} {call : Call} {answer : call.Answer}
  {exchanges : List Exchange}

theorem Unreliable.transfer {place : Place}
    (served : Unreliable Contents.Accepts before call answer after)
    (agree : before.AgreeAt places other) (concerns : call.place? = some place)
    (among : place ∈ places) :
    ∃ after', Unreliable Contents.Accepts other call answer after' ∧
      after.AgreeAt places after' := by
  cases served with
  | accepted taken =>
    obtain ⟨after', taken', agree'⟩ := taken.transfer agree concerns among
    exact ⟨after', .accepted taken', agree'⟩
  | failed error => exact ⟨other, .failed error, agree⟩
  | lost error taken =>
    obtain ⟨after', taken', agree'⟩ := taken.transfer agree concerns among
    exact ⟨after', .lost error taken', agree'⟩

/-- What is answered to calls about some places can be answered to them by every store that agrees
there. -/
theorem Backend.Serves.transfer
    (served : (Unreliable Contents.Accepts).Serves before exchanges after)
    (agree : before.AgreeAt places other)
    (within : ∀ exchange ∈ exchanges, ∃ place ∈ places, exchange.Concerns place) :
    ∃ after', (Unreliable Contents.Accepts).Serves other exchanges after' ∧
      after.AgreeAt places after' := by
  induction served generalizing other with
  | nil state => exact ⟨other, .nil other, agree⟩
  | cons served _ ih =>
    obtain ⟨⟨place, among, concerns⟩, later⟩ := List.forall_mem_cons.1 within
    obtain ⟨between, first, agree'⟩ := served.transfer agree concerns among
    obtain ⟨last, rest, agree''⟩ := ih agree' later
    exact ⟨last, .cons first rest, agree''⟩

theorem Backend.Serves.agreeAt
    (served : (Unreliable Contents.Accepts).Serves before exchanges after)
    (elsewhere : ∀ exchange ∈ exchanges, ∀ place ∈ places, ¬exchange.Concerns place) :
    after.AgreeAt places before := by
  induction served with
  | nil state => exact .refl places state
  | cons served _ ih =>
    obtain ⟨here, later⟩ := List.forall_mem_cons.1 elsewhere
    have rest := ih later
    rcases served.effect with rfl | ⟨reply, taken⟩
    · exact rest
    · exact rest.trans (taken.agreeAt here)

end

/-- The places of the resources of a cluster; one without a name or a namespace has none. -/
def Cluster.places (cluster : Cluster) : Set Place :=
  {place | ∃ parent, cluster.IsAt parent ∧ place = place.kind.place parent}

/-- Two clusters differ in namespace or name, and are not in one namespace with colliding names. -/
structure Cluster.Apart (cluster other : Cluster) : Prop where
  differ : cluster.metadata.namespace ≠ other.metadata.namespace ∨
    cluster.metadata.name ≠ other.metadata.name
  uncollided : ∀ (kind : Kind) (parent parent' : ObjectKey), cluster.IsAt parent →
    other.IsAt parent' →
    parent.ApartIn kind parent'

theorem Cluster.mem_places_of_keyFor {cluster : Cluster} {kind : Kind} {key : ObjectKey}
    (placed : kind.keyFor cluster = .ok key) : (⟨kind, key⟩ : Place) ∈ cluster.places := by
  obtain ⟨parent, isAt, rfl⟩ := Kind.exists_parent_of_keyFor placed
  exact ⟨parent, isAt, rfl⟩

theorem Cluster.Apart.disjoint {cluster other : Cluster} (apart : cluster.Apart other)
    {place : Place} (among : place ∈ cluster.places) : place ∉ other.places := by
  rintro ⟨parent', isAt', there⟩
  obtain ⟨parent, isAt, here⟩ := among
  have different : parent ≠ parent' := by
    rintro rfl
    rcases apart.differ with space | name
    · exact space (isAt.namespace.trans isAt'.namespace.symm)
    · exact name (isAt.name.trans isAt'.name.symm)
  have homes : place.kind.home parent = place.kind.home parent' :=
    (congrArg Place.key here).symm.trans (congrArg Place.key there)
  exact Kind.home_ne different (apart.uncollided place.kind parent parent' isAt isAt') homes

variable {policy : Policy} {cluster : Cluster} {exchanges : List Exchange} {events : List Event}
  {result : Except OperatorError RequeueHint}

theorem Kind.Deletion.within {kind : Kind}
    (deletion : Deletion kind cluster exchanges events result) :
    ∀ exchange ∈ exchanges, ∃ place ∈ cluster.places, exchange.Concerns place := by
  cases deletion with
  | unplaced => exact fun _ member => nomatch member
  | @placed parent _ _ _ isAt removal =>
    exact fun exchange member =>
      ⟨kind.place parent, ⟨parent, isAt, rfl⟩, removal.concerns exchange member⟩

theorem Kind.Creation.within {kind : Kind}
    (creation : Creation kind policy cluster exchanges events result) :
    ∀ exchange ∈ exchanges, ∃ place ∈ cluster.places, exchange.Concerns place := by
  cases creation with
  | unbuilt => exact fun _ member => nomatch member
  | @built parent desired _ _ _ isAt built provision =>
    have concerns := provision.concerns (displayName_of_desired isAt built)
    exact fun exchange member => ⟨kind.place parent, ⟨parent, isAt, rfl⟩, concerns exchange member⟩

namespace Orchestrator

theorem Course.within {creating : Bool}
    (course : Course policy cluster creating exchanges events result) :
    ∀ exchange ∈ exchanges, ∃ place ∈ cluster.places, exchange.Concerns place := by
  cases course with
  | deletions turns => exact turns.forall_exchange fun _ _ _ _ => Kind.Deletion.within
  | creations turns => exact turns.forall_exchange fun _ _ _ _ => Kind.Creation.within

def passOver (policy : Policy) (cluster : Cluster) : Bool → Pass RequeueHint
  | true => ensureCreated (nfs policy) cluster
  | false => ensureDeleted (nfs policy) cluster

theorem course_of_passOver {creating : Bool}
    (ended : (passOver policy cluster creating).Ends exchanges events result) :
    Course policy cluster (creating && cluster.nfsEnabled) exchanges events result := by
  cases creating with
  | true => exact course_of_ensureCreated ended
  | false => exact course_of_ensureDeleted ended

variable {lingers : Place → Bool}

theorem forecast_of_run (policy : Policy) (cluster : Cluster) {σ : Type}
    (server : Implementation (Reliable (Contents.AcceptsLingering lingers)) σ) (creating : Bool)
    (state : σ) (renewable : (server.view state).Renewable) :
    Forecast.ofCourse ((passOver policy cluster creating).history server.answer state)
        ((passOver policy cluster creating).run server.answer state).events
        ((passOver policy cluster creating).run server.answer state).result =
      forecast policy cluster lingers (server.view state) (creating && cluster.nfsEnabled) :=
  (course_of_passOver (Pass.ends_run server.answer _ state)).forecast renewable
    (server.serves_history _ state)

/-- However the pass over one cluster ends, it leaves the objects of another that is apart from it
as they were, with their versions. After it the other cluster's passes can meet with the same
answers as without it; and where no call fails without need, they make the same calls, report the
same and end in the same way. -/
theorem passes_isolated {cluster other : Cluster} (apart : cluster.Apart other)
    (policy policy' : Policy) (creating creating' : Bool) {before between : Contents}
    (ended : (passOver policy cluster creating).Ends exchanges events result)
    (served : (Unreliable Contents.Accepts).Serves before exchanges between) :
    (∀ (kind : Kind) (key : ObjectKey), kind.keyFor other = .ok key →
      between.object ⟨kind, key⟩ = before.object ⟨kind, key⟩) ∧
    (∀ exchanges' events' result',
      (passOver policy' other creating').Ends exchanges' events' result' →
      ((∃ after, (Unreliable Contents.Accepts).Serves between exchanges' after) ↔
        ∃ after, (Unreliable Contents.Accepts).Serves before exchanges' after)) ∧
    ∀ (lingers : Place → Bool) (σ : Type)
      (server : Implementation (Reliable (Contents.AcceptsLingering lingers)) σ)
      (passed unpassed : σ),
      server.view passed = between → server.view unpassed = before → before.Renewable →
      ((passOver policy' other creating').history server.answer passed).map (·.call) =
        ((passOver policy' other creating').history server.answer unpassed).map (·.call) ∧
      ((passOver policy' other creating').run server.answer passed).events =
        ((passOver policy' other creating').run server.answer unpassed).events ∧
      ((passOver policy' other creating').run server.answer passed).result =
        ((passOver policy' other creating').run server.answer unpassed).result := by
  have elsewhere : ∀ exchange ∈ exchanges, ∀ place ∈ other.places, ¬exchange.Concerns place := by
    intro exchange member place among concerns
    obtain ⟨own, ownPlace, concernsOwn⟩ := (course_of_passOver ended).within exchange member
    obtain rfl : own = place := Option.some.inj (concernsOwn.symm.trans concerns)
    exact apart.disjoint ownPlace among
  have agree : between.AgreeAt other.places before := served.agreeAt elsewhere
  have same : ∀ (kind : Kind) key, kind.keyFor other = .ok key →
      between.object ⟨kind, key⟩ = before.object ⟨kind, key⟩ :=
    fun kind key placed => agree.object _ (Cluster.mem_places_of_keyFor placed)
  refine ⟨same, ?_, ?_⟩
  · intro exchanges' events' result' ended'
    have within := (course_of_passOver ended').within
    constructor
    · rintro ⟨after, served'⟩
      obtain ⟨after', served'', -⟩ := served'.transfer agree within
      exact ⟨after', served''⟩
    · rintro ⟨after, served'⟩
      obtain ⟨after', served'', -⟩ := served'.transfer agree.symm within
      exact ⟨after', served''⟩
  · intro lingers σ server passed unpassed here there renewable
    have renewed : (server.view passed).Renewable := by
      rw [here]
      exact served.renewable renewable
    have kept : (server.view unpassed).Renewable := by
      rw [there]
      exact renewable
    have first := forecast_of_run policy' other server creating' passed renewed
    have second := forecast_of_run policy' other server creating' unpassed kept
    rw [here, forecast_congr _ same, ← there, ← second] at first
    obtain ⟨calls, reported, ending⟩ := Forecast.mk.inj first
    exact ⟨calls, reported, ending⟩

def neighbour : Cluster :=
  { Cluster.sample with metadata := { Cluster.sample.metadata with name := some "nfs" } }

def neighbourAddress : ObjectKey := Kind.service.home ⟨"rook", "nfs"⟩

theorem sample_apart_neighbour : Cluster.sample.Apart neighbour where
  differ := .inr (by decide)
  uncollided kind parent parent' here there := by
    have isAt : neighbour.IsAt ⟨"rook", "nfs"⟩ := ⟨rfl, rfl⟩
    obtain rfl := here.unique Cluster.sample_isAt
    obtain rfl := there.unique isAt
    intro _ collide
    have short : ¬maxNameLength < (fullName "ceph" kind.tag).utf8ByteSize := by
      cases kind <;> decide
    exact short collide.1

def besideSample : Contents :=
  Contents.empty.store ⟨.service, neighbourAddress⟩ ⟨{}, ({} : ServiceBody)⟩ "7"

noncomputable def steady :
    Implementation (Reliable (Contents.AcceptsLingering fun _ => false)) Contents :=
  .choosing (Reliable.exists_answer _)

def plainPolicy : Policy := ⟨V1alpha1.Cluster.scheme, {}⟩

noncomputable def pastSample : Contents :=
  ((passOver plainPolicy Cluster.sample true).run steady.answer besideSample).state

theorem sample_isolated_from_neighbour :
    Cluster.sample.Apart neighbour ∧ besideSample.Renewable ∧
    pastSample.object ⟨.service, neighbourAddress⟩ =
      besideSample.object ⟨.service, neighbourAddress⟩ ∧
    ((passOver plainPolicy neighbour false).run steady.answer pastSample).result =
      ((passOver plainPolicy neighbour false).run steady.answer besideSample).result := by
  have renewable : besideSample.Renewable := Contents.renewable_empty.store _ _ _
  have isAt : neighbour.IsAt ⟨"rook", "nfs"⟩ := ⟨rfl, rfl⟩
  have ended := Pass.ends_run steady.answer (passOver plainPolicy Cluster.sample true) besideSample
  have served :=
    (steady.serves_history (passOver plainPolicy Cluster.sample true) besideSample).unreliable
  obtain ⟨kept, -, same⟩ :=
    passes_isolated sample_apart_neighbour plainPolicy plainPolicy true false ended served
  refine ⟨sample_apart_neighbour, renewable,
    kept .service neighbourAddress (Kind.keyFor_of_isAt .service isAt), ?_⟩
  exact (same (fun _ => false) Contents steady pastSample besideSample rfl rfl renewable).2.2

end Orchestrator

end CephExport
