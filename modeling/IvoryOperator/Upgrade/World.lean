import IvoryOperator.Meta.Client
import IvoryOperator.Meta.Conditions

/-!
# The objects the upgrade controller reads and writes

An `IvyUpgrade` with its status conditions, the snapshot `World` that `observeWorld` assembles
for one pass, and the writes (`Call`) a pass can issue together with the answers of the API
server. Only the fields `Reconcile` reads are kept. The functions `observeWorld`, `jobCompleted`,
`jobFailed` and `pgUpgradeJob` and the label constants are declared outside src/: their results
are fields of the snapshot or parameters (`JobNames`).
-/

namespace IvoryOperator.Upgrade

open IvoryOperator.Meta

/-- Modelled from the spec: the condition type `Progressing` of an upgrade's status, declared
outside src/. -/
def ConditionIvyUpgradeProgressing : String := "Progressing"

/-- Modelled from the spec: the condition type `Succeeded` of an upgrade's status, declared
outside src/. -/
def ConditionIvyUpgradeSucceeded : String := "Succeeded"

/-- The annotation a cluster carries to name the upgrade allowed to run on it. -/
def AnnotationAllowUpgrade : String := "ivory-operator.highgo.com/allow-upgrade"

/-- `IvyUpgradeSpec`: the target cluster and the two major versions. -/
structure IvyUpgradeSpec where
  ivoryClusterName : String
  fromIvoryVersion : Int
  toIvoryVersion : Int
  deriving DecidableEq, Repr

/-- `IvyUpgradeStatus`. -/
structure IvyUpgradeStatus where
  conditions : List Condition
  deriving DecidableEq, Repr

/-- An `IvyUpgrade`: its name, `metadata.generation`, spec and status. -/
structure IvyUpgrade where
  name : String
  generation : Int
  spec : IvyUpgradeSpec
  status : IvyUpgradeStatus
  deriving DecidableEq, Repr

/-- `IvoryClusterStatus`: the running version, and the names of the repositories in
`Status.PGBackRest.Repos`. -/
structure IvoryClusterStatus where
  postgresVersion : Int
  repos : List String
  deriving DecidableEq, Repr

/-- An `IvoryCluster`: its annotations, `Spec.PostgresVersion` and status. -/
structure IvoryCluster where
  annotations : List (String × String)
  postgresVersion : Int
  status : IvoryClusterStatus
  deriving DecidableEq, Repr

/-- `GetAnnotations()[key]`: the value of an annotation, or `""` when it is absent. -/
def IvoryCluster.annotationValue (cluster : IvoryCluster) (key : String) : String :=
  (cluster.annotations.lookup key).getD ""

/-- A `batchv1.Job` as `Reconcile` sees it: the values of its role and pgBackRest-backup
labels (`""` when absent), what `jobCompleted` and `jobFailed` say of it, and the identity and
version that a delete with preconditions names. -/
structure Job where
  name : String
  uid : String
  resourceVersion : String
  role : String
  pgbackrestBackup : String
  complete : Bool
  failed : Bool
  deriving DecidableEq, Repr

/-- `world.Jobs`, a Go map from job name to job, listed in the order one `range` loop visits
it. A map holds one entry per name. -/
structure JobMap where
  entries : List Job
  names_nodup : (entries.map Job.name).Nodup

/-- `world.Jobs[name]`. -/
def JobMap.find (jobs : JobMap) (name : String) : Option Job :=
  jobs.entries.find? (·.name == name)

/-- A `corev1.Endpoints` object of Patroni's consensus store. -/
structure Endpoints where
  name : String
  uid : String
  resourceVersion : String
  deriving DecidableEq, Repr

/-- The snapshot `observeWorld` returns. Primary and replicas are named by their
StatefulSets. -/
structure World where
  cluster : IvoryCluster
  clusterNotFound : Option String
  jobs : JobMap
  clusterShutdown : Bool
  clusterPrimary : Option String
  clusterReplicas : List String
  patroniEndpoints : List Endpoints
  replicasExpected : Int

/-- The names `Reconcile` compares jobs with that src/ does not declare: the name
`pgUpgradeJob(upgrade).Name` of the upgrade job and the label values `removeData` and
`ReplicaCreate`. -/
structure JobNames where
  pgUpgradeJob : String
  removeData : String
  replicaCreate : String

/-- The writes a pass can issue: the two kinds of job applied, the two deletes under UID and
resource-version preconditions, and the two status patches. -/
inductive Call where
  | applyUpgradeJob (primary : Option String)
  | applyRemoveDataJob (replica : String)
  | deleteJob (job : Job)
  | deleteEndpoints (endpoints : Endpoints)
  | patchIvoryClusterStatus (status : IvoryClusterStatus)
  | patchIvyUpgradeStatus (status : IvyUpgradeStatus)
  deriving DecidableEq, Repr

/-- The API server: its answer to the `n`-th write of a pass, `none` for success. Any sequence
of answers is a client. -/
abbrev Client := Nat → Option Error

/-- `ctrl.Result`; `Reconcile` only ever sets `Requeue`. -/
structure Result where
  requeue : Bool := false
  deriving DecidableEq, Repr

end IvoryOperator.Upgrade
