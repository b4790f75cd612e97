import CephExport.Kube.Schema

/-!
The definition of the cluster resource, which the API server has to know before it serves clusters.
-/

set_option autoImplicit false
set_option relaxedAutoImplicit false

namespace CephExport.Definition

def group : String := "nfs-operator.io"

def plural : String := "storageclusters"

def name : String := plural ++ "." ++ group

def placement : Shape :=
  .described "Placement rules for Ceph daemon pods" (.record [] [
    ("nodeAffinity", .described "Node affinity rules for the daemon pods"
      (.nullable .nodeAffinity)),
    ("podAffinity", .described "Pod affinity rules for the daemon pods" (.nullable .podAffinity)),
    ("podAntiAffinity", .described "Pod anti-affinity rules for the daemon pods"
      (.nullable .podAffinity)),
    ("tolerations", .described "Tolerations for the daemon pods" (.nullable (.array .toleration))),
    ("topologySpreadConstraints", .described "Topology spread constraints for the daemon pods"
      (.nullable (.array .topologySpreadConstraint)))])

def spec : Shape :=
  .record [] [
    ("failureDomain", .described "Failure domain of the NFS backing pool" (.nullable .string)),
    ("network", .described "Network configuration of the Ceph daemons" (.nullable (.record [] [
      ("hostNetwork", .described "Whether the Ceph daemons run on the host network"
        (.withDefault (.bool false) .boolean))]))),
    ("nfs", .described "NFS feature configuration, NFS is disabled when omitted"
      (.nullable (.record [] [("enable", .described
        "Whether the NFS exporter and its supporting resources should be deployed"
        (.withDefault (.bool false) .boolean))]))),
    ("placement", .described
      "Placement rules keyed by daemon (e.g. `nfs`), `all` applies to every daemon"
      (.map placement)),
    ("replica", .described "Replica count of the NFS backing pool" (.nullable .uint32)),
    ("resources", .described "Compute resource overrides keyed by daemon (e.g. `nfs`)"
      (.map .resourceRequirements))]

def status : Shape :=
  .nullable (.record ["phase"] [("lastUpdated", .nullable .dateTime), ("phase", .string)])

def cluster : Shape :=
  .described
    "StorageCluster declares the NFS export of a Ceph cluster and the resources backing it."
    (.record ["spec"] [("spec", spec), ("status", status)])

structure Column where
  name : String
  type : String
  description : String
  path : String

def columns : List Column :=
  [⟨"Phase", "string", "Current phase of the resource", ".status.phase"⟩,
    ⟨"NFS", "boolean", "Whether NFS is enabled", ".spec.nfs.enable"⟩,
    ⟨"Last Updated", "date", "Last time the resource was updated", ".status.lastUpdated"⟩]

def Column.toJson (column : Column) : Json :=
  .object [("description", .string column.description), ("jsonPath", .string column.path),
    ("name", .string column.name), ("type", .string column.type)]

def names : Json :=
  .object [("categories", .array []), ("kind", .string "StorageCluster"),
    ("plural", .string plural), ("shortNames", .array [.string "nfssc"]),
    ("singular", .string "storagecluster")]

def version : Json :=
  .object [("additionalPrinterColumns", .array (columns.map (·.toJson))),
    ("name", .string "v1alpha1"),
    ("schema", .object
      [("openAPIV3Schema", cluster.toJson.setMember "title" (.string "StorageCluster"))]),
        ("served", .bool true), ("storage", .bool true),
    ("subresources", .object [("status", .object [])])]

def document : Json :=
  .object [("apiVersion", .string "apiextensions.k8s.io/v1"),
    ("kind", .string "CustomResourceDefinition"), ("metadata", .object [("name", .string name)]),
    ("spec", .object [("group", .string group), ("names", names), ("scope", .string "Namespaced"),
      ("versions", .array [version])])]

end CephExport.Definition
