import CephExport.Event
import CephExport.Resource.Basic
import CephExport.Resource.Desired
import CephExport.Resource.Owner

/-!
Where a live object differs from the one that is wanted, and how it is brought in line while all
that others have set on it stays.
-/

set_option autoImplicit false
set_option relaxedAutoImplicit false

namespace CephExport

namespace ServicePort

/-- The port that traffic goes to; without one of its own it is the port that is offered. -/
def target (port : ServicePort) : PortTarget := port.targetPort.getD (.number port.port)

/-- The protocol, which is TCP where none is given. -/
def transport (port : ServicePort) : String := port.protocol.getD "TCP"

/-- Whether two ports differ in number, name, target or protocol. -/
def differs (a b : ServicePort) : Bool :=
  a.port != b.port || a.name != b.name || a.target != b.target || a.transport != b.transport

end ServicePort

namespace ServiceBody

/-- The session affinity, which is `None` where none is given. -/
def affinity (body : ServiceBody) : String := (body.spec.bind (·.sessionAffinity)).getD "None"

def selector (body : ServiceBody) : Option (KeyMap String) := body.spec.bind (·.selector)

def ports (body : ServiceBody) : List ServicePort := (body.spec.bind (·.ports)).getD []

def headless (body : ServiceBody) : Bool := body.spec.bind (·.clusterIP) == some headlessAddress

/-- Whether two Services differ in affinity, selector or ports, which are all that is owned. -/
def drifted (live desired : ServiceBody) : Bool :=
  live.affinity != desired.affinity || live.selector != desired.selector ||
    live.ports.length != desired.ports.length ||
    (live.ports.zip desired.ports).any fun (port, other) => port.differs other

/-- The live Service with the wanted ports, selector and affinity. -/
def merge (live desired : ServiceBody) : ServiceBody :=
  let wanted := desired.spec.getD {}
  match live.spec with
  | some spec =>
    { live with
      spec := some { spec with
        ports := wanted.ports, selector := wanted.selector,
        sessionAffinity := wanted.sessionAffinity } }
  | none => { live with spec := some wanted }

end ServiceBody

namespace Managed

/-- Whether the bodies of two objects differ in what the operator owns. -/
def bodyDrifted {kind : Kind} (live desired : Managed kind) : Bool :=
  match kind, live, desired with
  | .blockPool, live, desired => !BlockPoolSpec.agrees live.body desired.body
  | .exporter, live, desired =>
    let a : ExporterSpec := live.body
    let b : ExporterSpec := desired.body
    a != b
  | .service, live, desired => ServiceBody.drifted live.body desired.body

/-- What is reported when the bodies of two objects are compared: a Service that is headless and
should not be, or the other way round, since its address cannot be changed. -/
def bodyNotices {kind : Kind} (live desired : Managed kind) : List Event :=
  match kind, live, desired with
  | .service, live, desired =>
    let wanted := ServiceBody.headless desired.body
    if ServiceBody.headless live.body == wanted then []
    else [.headlessMismatch live.metadata.displayName (live.metadata.namespace.getD "") wanted]
  | _, _, _ => []

/-- The live body with what the operator owns taken from the wanted one. -/
def mergeBody {kind : Kind} (live desired : Managed kind) : Managed kind :=
  match kind, live, desired with
  | .blockPool, live, desired => { live with body := desired.body }
  | .exporter, live, desired => { live with body := desired.body }
  | .service, live, desired => { live with body := ServiceBody.merge live.body desired.body }

/-- Whether the owners or the operator's labels of two objects differ. -/
def identityDrifted {kind : Kind} (live desired : Managed kind) : Bool :=
  live.metadata.owners != desired.metadata.owners ||
    labelsDrifted live.metadata.labelMap desired.metadata.labelMap

/-- Whether the live object differs from the wanted one in anything that the operator owns. -/
def drifted {kind : Kind} (live desired : Managed kind) : Bool :=
  identityDrifted live desired || bodyDrifted live desired

/-- What is reported while the live object is compared with the wanted one; the bodies are compared
only where owners and labels agree. -/
def driftNotices {kind : Kind} (live desired : Managed kind) : List Event :=
  if identityDrifted live desired then [] else bodyNotices live desired

/-- The live object brought in line: its owners are the wanted ones, the wanted labels are set, and
the rest of its metadata stays. -/
def merge {kind : Kind} (live desired : Managed kind) : Managed kind :=
  mergeBody
    { live with
      metadata := { live.metadata with
        ownerReferences := desired.metadata.ownerReferences
        labels := some (live.metadata.labelMap.extend desired.metadata.labelMap) } }
    desired

end Managed

end CephExport
