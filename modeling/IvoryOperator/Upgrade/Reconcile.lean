import IvoryOperator.Upgrade.World

/-!
# One pass of the upgrade controller

`IvyUpgradeReconciler.Reconcile` as a function of the stored upgrade, the snapshot returned by
`observeWorld`, the clock reading and the answers of the API server. A pass runs a chain of
gates; each gate that blocks writes `Progressing=False` with its own reason and returns, and
each gate passed calls `setStatusToProgressingIfReasonWas` with that reason. Past the gates the
pass either records a failed job, fans out after completion, or drives the upgrade forward. A
deferred function patches the upgrade's status on the way out when it changed.

The mutable locals of the Go function (`upgrade.Status.Conditions`, the named results `result`
and `err`) and the writes issued so far form the `Pass` threaded through the definitions.
-/

namespace IvoryOperator.Upgrade

open IvoryOperator.Meta

/-- The state of one pass: the upgrade's conditions, the writes issued so far each with the
answer it got, and the named results `result` and `err`. -/
structure Pass where
  conditions : List Condition
  writes : List (Call × Option Error)
  result : Result
  err : Option Error
  deriving DecidableEq, Repr

/-- A pass that returns `ctrl.Result{}, nil` with these conditions and no write. -/
def Pass.returned (conditions : List Condition) : Pass :=
  ⟨conditions, [], {}, none⟩

@[simp] theorem Pass.returned_conditions (conditions : List Condition) :
    (Pass.returned conditions).conditions = conditions := rfl
@[simp] theorem Pass.returned_writes (conditions : List Condition) :
    (Pass.returned conditions).writes = [] := rfl
@[simp] theorem Pass.returned_result (conditions : List Condition) :
    (Pass.returned conditions).result = {} := rfl
@[simp] theorem Pass.returned_err (conditions : List Condition) :
    (Pass.returned conditions).err = none := rfl

/-- Issue a write. The client answers it, and `assign` turns the answer into the new `err`
(`err = client.IgnoreNotFound(...)` or `err = r.apply(...)`). -/
def Pass.write (client : Client) (call : Call) (assign : Option Error → Option Error)
    (pass : Pass) : Pass :=
  { pass with
    writes := pass.writes ++ [(call, client pass.writes.length)]
    err := assign (client pass.writes.length) }

@[simp] theorem Pass.write_conditions (client : Client) (call : Call)
    (assign : Option Error → Option Error) (pass : Pass) :
    (pass.write client call assign).conditions = pass.conditions := rfl

@[simp] theorem Pass.write_result (client : Client) (call : Call)
    (assign : Option Error → Option Error) (pass : Pass) :
    (pass.write client call assign).result = pass.result := rfl

@[simp] theorem Pass.write_writes (client : Client) (call : Call)
    (assign : Option Error → Option Error) (pass : Pass) :
    (pass.write client call assign).writes = pass.writes ++ [(call, client pass.writes.length)] :=
  rfl

@[simp] theorem Pass.write_err (client : Client) (call : Call)
    (assign : Option Error → Option Error) (pass : Pass) :
    (pass.write client call assign).err = assign (client pass.writes.length) := rfl

section

variable (names : JobNames) (client : Client) (now : Nat)

/-- The condition `setStatusToProgressingIfReasonWas` writes. -/
def progressingCondition (upgrade : IvyUpgrade) : Condition :=
  { type := ConditionIvyUpgradeProgressing, status := .conditionTrue,
    observedGeneration := upgrade.generation, lastTransitionTime := 0,
    reason := "IvyUpgradeProgressing",
    message := "Upgrade progressing for cluster " ++ upgrade.spec.ivoryClusterName }

/-- `setStatusToProgressingIfReasonWas`: set `Progressing=True` when the condition is absent or
its reason is `reason`. `upgrade` supplies the generation and the spec, `conditions` the
current value of `upgrade.Status.Conditions`. -/
def setStatusToProgressingIfReasonWas (reason : String) (upgrade : IvyUpgrade)
    (conditions : List Condition) : List Condition :=
  match findStatusCondition conditions ConditionIvyUpgradeProgressing with
  | none => setStatusCondition now (progressingCondition upgrade) conditions
  | some progressing =>
      if progressing.reason = reason then
        setStatusCondition now (progressingCondition upgrade) conditions
      else conditions

/-- The `Progressing=False` condition a blocking gate writes. -/
def blockedCondition (upgrade : IvyUpgrade) (reason message : String) : Condition :=
  { type := ConditionIvyUpgradeProgressing, status := .conditionFalse,
    observedGeneration := upgrade.generation, lastTransitionTime := 0, reason, message }

/-- `Succeeded=True`, written once the version changed and every job completed. -/
def succeededCondition (upgrade : IvyUpgrade) : Condition :=
  { type := ConditionIvyUpgradeSucceeded, status := .conditionTrue,
    observedGeneration := upgrade.generation, lastTransitionTime := 0,
    reason := "IvyUpgradeSucceeded",
    message := "IvoryCluster " ++ upgrade.spec.ivoryClusterName ++
      " is ready to complete upgrade to version " ++ toString upgrade.spec.toIvoryVersion }

/-- `Succeeded=False`, written when a job failed. -/
def failedCondition (upgrade : IvyUpgrade) : Condition :=
  { type := ConditionIvyUpgradeSucceeded, status := .conditionFalse,
    observedGeneration := upgrade.generation, lastTransitionTime := 0,
    reason := "IvyUpgradeFailed",
    message := "Upgrade jobs failed, please check individual pod logs" }

/-- The reason of the `Succeeded` condition, if there is one. -/
def succeededReason (conditions : List Condition) : Option String :=
  (findStatusCondition conditions ConditionIvyUpgradeSucceeded).map (·.reason)

/-- The loop over `world.Jobs` that collects the completed remove-data jobs and breaks at the
first failed one: `(removeDataJobsFailed, removeDataJobsCompleted)`. -/
def removeDataJobs (removeData : String) : List Job → Bool × List Job
  | [] => (false, [])
  | job :: jobs =>
      if job.role = removeData then
        if job.complete then ((removeDataJobs removeData jobs).1,
          job :: (removeDataJobs removeData jobs).2)
        else if job.failed then (true, [])
        else removeDataJobs removeData jobs
      else removeDataJobs removeData jobs

/-- The loop over `world.Jobs` that deletes the replica-create jobs. A failed delete leaves
`err` set, and the `err == nil` test then skips every later job. -/
def deleteReplicaCreateJobs (replicaCreate : String) : List Job → Pass → Pass
  | [], pass => pass
  | object :: jobs, pass =>
      deleteReplicaCreateJobs replicaCreate jobs
        (if pass.err = none ∧ object.pgbackrestBackup = replicaCreate then
          pass.write client (.deleteJob object) ignoreNotFound
        else pass)

@[simp] theorem deleteReplicaCreateJobs_conditions (replicaCreate : String) (jobs : List Job)
    (pass : Pass) :
    (deleteReplicaCreateJobs client replicaCreate jobs pass).conditions = pass.conditions := by
  induction jobs generalizing pass with
  | nil => rfl
  | cons job jobs ih => simp only [deleteReplicaCreateJobs, ih]; split <;> rfl

@[simp] theorem deleteReplicaCreateJobs_result (replicaCreate : String) (jobs : List Job)
    (pass : Pass) :
    (deleteReplicaCreateJobs client replicaCreate jobs pass).result = pass.result := by
  induction jobs generalizing pass with
  | nil => rfl
  | cons job jobs ih => simp only [deleteReplicaCreateJobs, ih]; split <;> rfl

/-- After the jobs completed: delete the replica-create jobs, and if no delete failed, patch
the cluster status to the new version with no repository status. -/
def completionFanOut (upgrade : IvyUpgrade) (world : World) (pass : Pass) : Pass :=
  let pass := deleteReplicaCreateJobs client names.replicaCreate world.jobs.entries pass
  if pass.err = none then
    pass.write client (.patchIvoryClusterStatus
      { world.cluster.status with postgresVersion := upgrade.spec.toIvoryVersion, repos := [] })
      id
  else pass

@[simp] theorem completionFanOut_conditions (upgrade : IvyUpgrade) (world : World) (pass : Pass) :
    (completionFanOut names client upgrade world pass).conditions = pass.conditions := by
  simp only [completionFanOut]; split <;> simp

/-- The loop that applies one remove-data job per replica until an apply fails. -/
def applyRemoveDataJobs : List String → Pass → Pass
  | [], pass => pass
  | sts :: replicas, pass =>
      applyRemoveDataJobs replicas
        (if pass.err = none then pass.write client (.applyRemoveDataJob sts) id else pass)

@[simp] theorem applyRemoveDataJobs_conditions (replicas : List String) (pass : Pass) :
    (applyRemoveDataJobs client replicas pass).conditions = pass.conditions := by
  induction replicas generalizing pass with
  | nil => rfl
  | cons sts replicas ih => simp only [applyRemoveDataJobs, ih]; split <;> rfl

@[simp] theorem applyRemoveDataJobs_result (replicas : List String) (pass : Pass) :
    (applyRemoveDataJobs client replicas pass).result = pass.result := by
  induction replicas generalizing pass with
  | nil => rfl
  | cons sts replicas ih => simp only [applyRemoveDataJobs, ih]; split <;> rfl

/-- The loop that deletes Patroni's endpoints; each delete overwrites `err`. -/
def deletePatroniEndpoints : List Endpoints → Pass → Pass
  | [], pass => pass
  | object :: endpoints, pass =>
      deletePatroniEndpoints endpoints (pass.write client (.deleteEndpoints object) ignoreNotFound)

@[simp] theorem deletePatroniEndpoints_conditions (endpoints : List Endpoints) (pass : Pass) :
    (deletePatroniEndpoints client endpoints pass).conditions = pass.conditions := by
  induction endpoints generalizing pass with
  | nil => rfl
  | cons object endpoints ih => simp only [deletePatroniEndpoints, ih, Pass.write_conditions]

/-- Drive the upgrade forward: apply the upgrade job until it completes, then the remove-data
jobs, and while Patroni's endpoints remain, delete them and ask to be requeued. -/
def driveForward (world : World) (upgradeJobComplete removeDataJobsComplete : Bool)
    (pass : Pass) : Pass :=
  let pass :=
    if pass.err = none ∧ !upgradeJobComplete then
      pass.write client (.applyUpgradeJob world.clusterPrimary) id
    else pass
  let pass :=
    if pass.err = none ∧ upgradeJobComplete ∧ !removeDataJobsComplete then
      applyRemoveDataJobs client world.clusterReplicas pass
    else pass
  if world.patroniEndpoints.length > 0 then
    { deletePatroniEndpoints client world.patroniEndpoints pass with result := { requeue := true } }
  else pass

@[simp] theorem driveForward_conditions (world : World) (upgradeJobComplete removeDataJobsComplete : Bool)
    (pass : Pass) :
    (driveForward client world upgradeJobComplete removeDataJobsComplete pass).conditions =
      pass.conditions := by
  simp only [driveForward]; split <;> split <;> split <;> simp

/-- The body of `Reconcile` once `r.Get` found the upgrade, up to its return. `observed` is
what `r.observeWorld` returns. -/
def reconcileBody (upgrade : IvyUpgrade) (observed : Except Error World) : Pass :=
  let conditions := upgrade.status.conditions
  let target := upgrade.spec.toIvoryVersion
  if succeededReason conditions = some "IvyUpgradeSucceeded" then .returned conditions else
  let conditions := setStatusToProgressingIfReasonWas now "" upgrade conditions
  if upgrade.spec.fromIvoryVersion ≥ target then
    .returned (setStatusCondition now (blockedCondition upgrade "IvyUpgradeInvalid"
      ("Cannot upgrade from ivory version " ++ toString upgrade.spec.fromIvoryVersion ++
        " to " ++ toString target)) conditions)
  else
  let conditions := setStatusToProgressingIfReasonWas now "IvyUpgradeInvalid" upgrade conditions
  match observed with
  | .error err =>
      { Pass.returned (setStatusCondition now
          (blockedCondition upgrade "PGClusterErrorWhenObservingWorld" err.text) conditions) with
        err := some err }
  | .ok world =>
  let conditions :=
    setStatusToProgressingIfReasonWas now "PGClusterErrorWhenObservingWorld" upgrade conditions
  match world.clusterNotFound with
  | some notFound =>
      .returned (setStatusCondition now
        (blockedCondition upgrade "PGClusterNotFound" notFound) conditions)
  | none =>
  let conditions := setStatusToProgressingIfReasonWas now "PGClusterNotFound" upgrade conditions
  let version := world.cluster.postgresVersion
  let statusVersion := world.cluster.status.postgresVersion
  let upgradeJobComplete := (world.jobs.find names.pgUpgradeJob).any (·.complete)
  let upgradeJobFailed := (world.jobs.find names.pgUpgradeJob).any (·.failed)
  let removeDataJobsFailed := (removeDataJobs names.removeData world.jobs.entries).1
  let removeDataJobsComplete :=
    decide (((removeDataJobs names.removeData world.jobs.entries).2.length : Int) =
      world.replicasExpected)
  if version = target ∧ !upgradeJobComplete then
    .returned (setStatusCondition now (blockedCondition upgrade "IvyUpgradeResolved"
      ("IvoryCluster " ++ upgrade.spec.ivoryClusterName ++ " is already running version " ++
        toString target)) conditions)
  else
  let conditions := setStatusToProgressingIfReasonWas now "IvyUpgradeResolved" upgrade conditions
  if statusVersion = target then
    let conditions := setStatusCondition now (blockedCondition upgrade "IvyUpgradeCompleted"
      ("IvoryCluster " ++ upgrade.spec.ivoryClusterName ++ " is running version " ++
        toString target)) conditions
    .returned (if upgradeJobComplete ∧ removeDataJobsComplete then
      setStatusCondition now (succeededCondition upgrade) conditions else conditions)
  else
  if !world.clusterShutdown ∨ world.clusterPrimary = none then
    .returned (setStatusCondition now (blockedCondition upgrade "PGClusterNotShutdown"
      "IvoryCluster instances still running") conditions)
  else
  let conditions := setStatusToProgressingIfReasonWas now "PGClusterNotShutdown" upgrade conditions
  if version ≠ upgrade.spec.fromIvoryVersion ∧ statusVersion ≠ target then
    .returned (setStatusCondition now (blockedCondition upgrade "IvyUpgradeInvalidForCluster"
      ("Current ivory version is " ++ toString version ++ ", but upgrade expected " ++
        toString upgrade.spec.fromIvoryVersion)) conditions)
  else
  let conditions :=
    setStatusToProgressingIfReasonWas now "IvyUpgradeInvalidForCluster" upgrade conditions
  if world.cluster.annotationValue AnnotationAllowUpgrade ≠ upgrade.name then
    .returned (setStatusCondition now
      (blockedCondition upgrade "PGClusterMissingRequiredAnnotation"
        ("IvoryCluster " ++ upgrade.spec.ivoryClusterName ++ " lacks annotation for upgrade " ++
          upgrade.name)) conditions)
  else
  let conditions :=
    setStatusToProgressingIfReasonWas now "PGClusterMissingRequiredAnnotation" upgrade conditions
  if upgradeJobFailed ∨ removeDataJobsFailed then
    .returned (setStatusCondition now (failedCondition upgrade) conditions)
  else
  if upgradeJobComplete ∧ removeDataJobsComplete ∧ statusVersion ≠ target then
    completionFanOut names client upgrade world (.returned conditions)
  else
    driveForward client world upgradeJobComplete removeDataJobsComplete (.returned conditions)

/-- The deferred function: when the conditions differ from those read at the start, patch the
status. A failed patch becomes the returned error only when there is no error already. -/
def patchStatusOnExit (before : List Condition) (pass : Pass) : Pass :=
  if before = pass.conditions then pass
  else
    { pass with
      writes := pass.writes ++
        [(.patchIvyUpgradeStatus ⟨pass.conditions⟩, client pass.writes.length)]
      err := if pass.err = none then client pass.writes.length else pass.err }

@[simp] theorem patchStatusOnExit_conditions (before : List Condition) (pass : Pass) :
    (patchStatusOnExit client before pass).conditions = pass.conditions := by
  unfold patchStatusOnExit; split <;> rfl

@[simp] theorem patchStatusOnExit_result (before : List Condition) (pass : Pass) :
    (patchStatusOnExit client before pass).result = pass.result := by
  unfold patchStatusOnExit; split <;> rfl

/-- `IvyUpgradeReconciler.Reconcile`. `fetched` is the error of `r.Get`, if any: a failed `Get`
returns its error unless it is NotFound and touches nothing. -/
def reconcile (fetched : Option Error) (upgrade : IvyUpgrade) (observed : Except Error World) :
    Pass :=
  match fetched with
  | some err => ⟨upgrade.status.conditions, [], {}, ignoreNotFound (some err)⟩
  | none =>
      patchStatusOnExit client upgrade.status.conditions
        (reconcileBody names client now upgrade observed)

end

end IvoryOperator.Upgrade
