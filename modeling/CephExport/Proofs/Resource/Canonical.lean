import CephExport.Resource.Drift
import Mathlib.Data.List.Forall2

/-!
The canonical forms of managed objects: what the operator owns of them, with every default filled
in. Two objects of a kind have drifted apart just if their canonical forms differ, so that neither a
default that a server fills in nor anything that others own is ever taken for drift.
-/

set_option autoImplicit false
set_option relaxedAutoImplicit false

namespace CephExport

/-! ### Canonical forms -/

/-- A number as it is compared: the two zeros are one. -/
def Double.canonical (x : Double) : Double := if x.isZero then .zero else x

def BlockPoolSpec.canonical (spec : BlockPoolSpec) : BlockPoolSpec :=
  { spec with replicated := { spec.replicated with
      targetSizeRatio := spec.replicated.targetSizeRatio.map Double.canonical } }

structure ServicePort.Canonical where
  port : Int32
  name : Option String
  target : PortTarget
  protocol : String
  deriving DecidableEq

/-- Without a target of its own a port leads to the port of the same number, and without a protocol
to TCP. -/
def ServicePort.canonical (port : ServicePort) : ServicePort.Canonical where
  port := port.port
  name := port.name
  target := port.targetPort.getD (.number port.port)
  protocol := port.protocol.getD "TCP"

/-- A Service as it is compared. That there is no selector is not the same as an empty one. -/
structure ServiceBody.Canonical where
  affinity : String := "None"
  selector : Option (KeyMap String) := none
  ports : List ServicePort.Canonical := []
  deriving DecidableEq

def ServiceBody.canonical (body : ServiceBody) : ServiceBody.Canonical :=
  match body.spec with
  | none => {}
  | some spec =>
    { affinity := spec.sessionAffinity.getD "None"
      selector := spec.selector
      ports := (spec.ports.getD []).map ServicePort.canonical }

namespace ServiceBody

theorem affinity_canonical (body : ServiceBody) : body.canonical.affinity = body.affinity := by
  obtain ⟨spec, _⟩ := body
  cases spec <;> rfl

theorem selector_canonical (body : ServiceBody) : body.canonical.selector = body.selector := by
  obtain ⟨spec, _⟩ := body
  cases spec <;> rfl

theorem ports_canonical (body : ServiceBody) :
    body.canonical.ports = body.ports.map ServicePort.canonical := by
  obtain ⟨spec, _⟩ := body
  cases spec <;> rfl

theorem canonical_eq_iff {a b : ServiceBody} :
    a.canonical = b.canonical ↔ a.affinity = b.affinity ∧ a.selector = b.selector ∧
      a.ports.map ServicePort.canonical = b.ports.map ServicePort.canonical := by
  rw [← affinity_canonical a, ← affinity_canonical b, ← selector_canonical a,
    ← selector_canonical b, ← ports_canonical a, ← ports_canonical b]
  cases a.canonical
  cases b.canonical
  simp

end ServiceBody

/-! ### Drift -/

theorem Double.sameValue_iff {x y : Double} : x.sameValue y = true ↔ x.canonical = y.canonical := by
  have zero : Double.zero.isZero = true := rfl
  rw [sameValue, Bool.or_eq_true, beq_iff_eq, Bool.and_eq_true, canonical, canonical]
  constructor
  · rintro (rfl | ⟨first, second⟩)
    · rfl
    · rw [if_pos first, if_pos second]
  · intro same
    split at same
    · rename_i first
      split at same
      · rename_i second
        exact .inr ⟨first, second⟩
      · exact .inr ⟨first, same ▸ zero⟩
    · split at same
      · rename_i second
        exact .inr ⟨same ▸ zero, second⟩
      · exact .inl same

theorem sameRatio_iff {ratio other : Option Double} :
    sameRatio ratio other = true ↔ ratio.map Double.canonical = other.map Double.canonical := by
  cases ratio <;> cases other <;> simp [sameRatio, Double.sameValue_iff]

theorem BlockPoolSpec.agrees_iff {a b : BlockPoolSpec} :
    a.agrees b = true ↔ a.canonical = b.canonical := by
  obtain ⟨name, domain, ⟨size, safe, perDomain, ratio⟩, stats⟩ := a
  obtain ⟨name', domain', ⟨size', safe', perDomain', ratio'⟩, stats'⟩ := b
  simp only [agrees, Bool.and_eq_true, beq_iff_eq, sameRatio_iff, canonical, BlockPoolSpec.mk.injEq,
    ReplicatedSpec.mk.injEq]
  tauto

theorem ServicePort.differs_eq_false_iff {port other : ServicePort} :
    port.differs other = false ↔ port.canonical = other.canonical := by
  simp [differs, canonical, target, transport, and_assoc]

theorem portsDiffer_eq_false_iff {ports others : List ServicePort} :
    (ports.length != others.length ||
      (ports.zip others).any fun (port, other) => port.differs other) = false ↔
      ports.map ServicePort.canonical = others.map ServicePort.canonical := by
  induction ports generalizing others with
  | nil => cases others <;> simp
  | cons port rest ih =>
    cases others with
    | nil => simp
    | cons other others =>
      have later := @ih others
      simp only [Bool.or_eq_false_iff, bne_eq_false_iff_eq] at later
      simp only [List.length_cons, List.zip_cons_cons, List.any_cons, List.map_cons,
        List.cons.injEq, Bool.or_eq_false_iff, bne_eq_false_iff_eq, Nat.add_right_cancel_iff,
        ServicePort.differs_eq_false_iff, ← later]
      tauto

/-- Services have drifted apart just if their canonical forms differ. -/
theorem ServiceBody.drifted_eq_false_iff {live desired : ServiceBody} :
    live.drifted desired = false ↔ live.canonical = desired.canonical := by
  rw [canonical_eq_iff, ← portsDiffer_eq_false_iff, drifted]
  simp only [Bool.or_eq_false_iff, bne_eq_false_iff_eq, and_assoc]

/-! ### Defaults -/

/-- An optional value is the same as before, or its default was filled in where there was none. -/
def Fills {α : Type} (default : α) (before filled : Option α) : Prop :=
  filled = before ∨ before = none ∧ filled = some default

theorem Fills.getD_eq {α : Type} {default : α} {before filled : Option α}
    (fills : Fills default before filled) :
    filled.getD default = before.getD default := by
  rcases fills with rfl | ⟨rfl, rfl⟩ <;> rfl

structure ServicePort.Completes (before completed : ServicePort) : Prop where
  port : completed.port = before.port
  name : completed.name = before.name
  target : Fills (.number before.port) before.targetPort completed.targetPort
  protocol : Fills "TCP" before.protocol completed.protocol

theorem ServicePort.Completes.canonical_eq {before completed : ServicePort}
    (filled : before.Completes completed) :
    completed.canonical = before.canonical := by
  simp only [canonical, filled.port, filled.name, filled.target.getD_eq, filled.protocol.getD_eq]

theorem ServicePort.map_canonical_eq {before completed : List ServicePort}
    (filled : List.Forall₂ Completes before completed) :
    completed.map canonical = before.map canonical := by
  induction filled with
  | nil => rfl
  | cons first _ ih => rw [List.map_cons, List.map_cons, first.canonical_eq, ih]

namespace ServiceBody

/-- A Service in which some of the defaults were filled in, and anything set anew but its selector
and the numbers and names of its ports. -/
structure Completes (before completed : ServiceBody) : Prop where
  affinity :
    Fills "None" (before.spec.bind (·.sessionAffinity)) (completed.spec.bind (·.sessionAffinity))
  selector : completed.selector = before.selector
  ports : List.Forall₂ ServicePort.Completes before.ports completed.ports

theorem Completes.canonical_eq {before completed : ServiceBody}
    (filled : before.Completes completed) :
    completed.canonical = before.canonical :=
  canonical_eq_iff.2 ⟨filled.affinity.getD_eq, filled.selector,
    ServicePort.map_canonical_eq filled.ports⟩

end ServiceBody

namespace Managed

theorem blockPool_bodyDrifted_eq_false_iff {live desired : Managed .blockPool} :
    live.bodyDrifted desired = false ↔
      BlockPoolSpec.canonical live.body = BlockPoolSpec.canonical desired.body := by
  have compared : live.bodyDrifted desired = !BlockPoolSpec.agrees live.body desired.body := rfl
  rw [compared, Bool.not_eq_false']
  exact BlockPoolSpec.agrees_iff

theorem exporter_bodyDrifted_eq_false_iff {live desired : Managed .exporter} :
    live.bodyDrifted desired = false ↔ live.body = desired.body :=
  bne_eq_false_iff_eq (α := ExporterSpec)

theorem bodyDrifted_eq_false_iff {live desired : Managed .service} :
    live.bodyDrifted desired = false ↔
      ServiceBody.canonical live.body = ServiceBody.canonical desired.body :=
  ServiceBody.drifted_eq_false_iff

theorem bodyDrifted_congr {live desired live' desired' : Managed .service}
    (sameLive : ServiceBody.canonical live.body = ServiceBody.canonical live'.body)
    (sameDesired : ServiceBody.canonical desired.body = ServiceBody.canonical desired'.body) :
    live.bodyDrifted desired = live'.bodyDrifted desired' := by
  rw [Bool.eq_iff_iff, ← not_iff_not, Bool.not_eq_true, Bool.not_eq_true, bodyDrifted_eq_false_iff,
    bodyDrifted_eq_false_iff, sameLive, sameDesired]

/-- Services have not drifted apart just if their canonical forms are the same, which is an
equivalence; and the answer stays the same, on either side of the comparison, whatever defaults are
filled in and whatever is set anew of all that is not owned. -/
theorem service_drift_iff_canonical_differs :
    (∀ a b : Managed .service, a.bodyDrifted b = false ↔
      ServiceBody.canonical a.body = ServiceBody.canonical b.body) ∧
      Equivalence (fun a b : Managed .service => a.bodyDrifted b = false) ∧
      ∀ a completed b : Managed .service, ServiceBody.Completes a.body completed.body →
        completed.bodyDrifted b = a.bodyDrifted b ∧ b.bodyDrifted completed = b.bodyDrifted a := by
  refine ⟨fun _ _ => bodyDrifted_eq_false_iff, ?_, ?_⟩
  · constructor
    · intro a
      exact bodyDrifted_eq_false_iff.2 rfl
    · intro a b same
      exact bodyDrifted_eq_false_iff.2 (bodyDrifted_eq_false_iff.1 same).symm
    · intro a b c first second
      exact bodyDrifted_eq_false_iff.2
        ((bodyDrifted_eq_false_iff.1 first).trans (bodyDrifted_eq_false_iff.1 second))
  · intro a completed b filled
    exact ⟨bodyDrifted_congr filled.canonical_eq rfl, bodyDrifted_congr rfl filled.canonical_eq⟩

def sentService : Managed .service where
  metadata := { name := some "ocsinit-cephnfs-service" }
  body :=
    { spec := some
        { ports := some [{ name := some "nfs", port := 2049 },
          { port := 111, protocol := some "UDP" }] } }

def servedService : Managed .service where
  metadata := { name := some "ocsinit-cephnfs-service", resourceVersion := some "7" }
  body :=
    { spec := some
        { clusterIP := some "10.96.14.2"
          type := some "NodePort"
          sessionAffinity := some "None"
          sessionAffinityConfig := some {}
          ports := some
            [{ name := some "nfs", port := 2049, targetPort := some (.number 2049),
               nodePort := some 30049 },
              { port := 111, protocol := some "UDP", appProtocol := some "sunrpc" }] }
      status := some { loadBalancer := some {} } }

theorem servedService_not_drifted :
    ServiceBody.Completes sentService.body servedService.body ∧
      servedService.bodyDrifted sentService = false ∧
      sentService.bodyDrifted servedService = false := by
  have first : ServicePort.Completes { name := some "nfs", port := 2049 }
      { name := some "nfs", port := 2049, targetPort := some (.number 2049),
        nodePort := some 30049 } :=
    ⟨rfl, rfl, .inr ⟨rfl, rfl⟩, .inl rfl⟩
  have second : ServicePort.Completes { port := 111, protocol := some "UDP" }
      { port := 111, protocol := some "UDP", appProtocol := some "sunrpc" } :=
    ⟨rfl, rfl, .inl rfl, .inl rfl⟩
  have filled : ServiceBody.Completes sentService.body servedService.body :=
    ⟨.inr ⟨rfl, rfl⟩, rfl, .cons first (.cons second .nil)⟩
  obtain ⟨-, same, kept⟩ := service_drift_iff_canonical_differs
  obtain ⟨asLive, asDesired⟩ := kept sentService servedService sentService filled
  exact ⟨filled, asLive.trans (same.refl sentService), asDesired.trans (same.refl sentService)⟩

end Managed

end CephExport
