import IvoryOperator.Upgrade.Reconcile

/-!
# What a pass decides

Past the `Succeeded` early return, a pass of `Reconcile` does three things in order: it calls
`setStatusToProgressingIfReasonWas` with a run of reasons, it writes up to two conditions, and it
stops or issues writes. None of the three depends on the upgrade's status: the spec's
"transition is a pure function of the request's spec and the world". `gates` computes them as a
`Decision`, and `reconcileBody_eq` shows that the body of `Reconcile` is that decision carried
out on the status read at the start. Every later result about a pass goes through this theorem.
-/

namespace IvoryOperator.Upgrade

open IvoryOperator.Meta

/-- The reasons `Reconcile` passes to `setStatusToProgressingIfReasonWas`, in order. There is no
call for `IvyUpgradeCompleted`, whose branch always returns. -/
def resetReasons : List String :=
  ["", "IvyUpgradeInvalid", "PGClusterErrorWhenObservingWorld", "PGClusterNotFound",
    "IvyUpgradeResolved", "PGClusterNotShutdown", "IvyUpgradeInvalidForCluster",
    "PGClusterMissingRequiredAnnotation"]

/-- What a pass does after the gates: return with this error, or one of the two write phases. -/
inductive Phase where
  | stop (err : Option Error)
  | fanOut (world : World)
  | forward (world : World) (upgradeJobComplete removeDataJobsComplete : Bool)

/-- A pass's decision: the reasons of its `setStatusToProgressingIfReasonWas` calls, the
conditions it then writes with `SetStatusCondition`, and its phase. -/
structure Decision where
  resets : List String
  written : List Condition
  phase : Phase

/-- The state an upgrade is in, as one pass derives it from the upgrade's spec and the
snapshot: the gate that stops the pass, or, past every gate, a failed job, the completion
fan-out, or driving the upgrade forward. -/
inductive Verdict where
  | invalid
  | errorWhenObservingWorld (err : Error)
  | clusterNotFound (notFound : String)
  | resolved
  | completed (succeeded : Bool)
  | notShutdown
  | invalidForCluster (version : Int)
  | annotationMissing
  | failed
  | fanOut (world : World)
  | forward (world : World) (upgradeJobComplete removeDataJobsComplete : Bool)

/-- The states past every gate that writes `Progressing`: a failed job, the completion
fan-out, or driving the upgrade forward. -/
def jobsVerdict (names : JobNames) (upgrade : IvyUpgrade) (world : World) : Verdict :=
  let upgradeJobComplete := (world.jobs.find names.pgUpgradeJob).any (·.complete)
  let removeDataJobsComplete :=
    decide (((removeDataJobs names.removeData world.jobs.entries).2.length : Int) =
      world.replicasExpected)
  if (world.jobs.find names.pgUpgradeJob).any (·.failed) ∨
      (removeDataJobs names.removeData world.jobs.entries).1 then .failed else
  if upgradeJobComplete ∧ removeDataJobsComplete ∧
      world.cluster.status.postgresVersion ≠ upgrade.spec.toIvoryVersion then .fanOut world
  else .forward world upgradeJobComplete removeDataJobsComplete

/-- The gates on a cluster that was found. -/
def clusterVerdict (names : JobNames) (upgrade : IvyUpgrade) (world : World) : Verdict :=
  let version := world.cluster.postgresVersion
  let statusVersion := world.cluster.status.postgresVersion
  let upgradeJobComplete := (world.jobs.find names.pgUpgradeJob).any (·.complete)
  if version = upgrade.spec.toIvoryVersion ∧ !upgradeJobComplete then .resolved else
  if statusVersion = upgrade.spec.toIvoryVersion then
    .completed (upgradeJobComplete ∧ decide (((removeDataJobs names.removeData
      world.jobs.entries).2.length : Int) = world.replicasExpected)) else
  if !world.clusterShutdown ∨ world.clusterPrimary = none then .notShutdown else
  if version ≠ upgrade.spec.fromIvoryVersion ∧ statusVersion ≠ upgrade.spec.toIvoryVersion then
    .invalidForCluster version else
  if world.cluster.annotationValue AnnotationAllowUpgrade ≠ upgrade.name then
    .annotationMissing
  else jobsVerdict names upgrade world

/-- The state of the upgrade in one pass. It reads the upgrade's name and spec, never its
status. -/
def verdict (names : JobNames) (upgrade : IvyUpgrade) (observed : Except Error World) : Verdict :=
  if upgrade.spec.fromIvoryVersion ≥ upgrade.spec.toIvoryVersion then .invalid else
  match observed with
  | .error err => .errorWhenObservingWorld err
  | .ok world =>
      match world.clusterNotFound with
      | some notFound => .clusterNotFound notFound
      | none => clusterVerdict names upgrade world

/-- The decision a state stands for: the resets made before its gate, the conditions its gate
writes with their messages, and its phase. -/
def Verdict.decision (upgrade : IvyUpgrade) : Verdict → Decision
  | .invalid =>
      ⟨resetReasons.take 1, [blockedCondition upgrade "IvyUpgradeInvalid"
        ("Cannot upgrade from ivory version " ++ toString upgrade.spec.fromIvoryVersion ++
          " to " ++ toString upgrade.spec.toIvoryVersion)], .stop none⟩
  | .errorWhenObservingWorld err =>
      ⟨resetReasons.take 2,
        [blockedCondition upgrade "PGClusterErrorWhenObservingWorld" err.text], .stop (some err)⟩
  | .clusterNotFound notFound =>
      ⟨resetReasons.take 3, [blockedCondition upgrade "PGClusterNotFound" notFound], .stop none⟩
  | .resolved =>
      ⟨resetReasons.take 4, [blockedCondition upgrade "IvyUpgradeResolved"
        ("IvoryCluster " ++ upgrade.spec.ivoryClusterName ++ " is already running version " ++
          toString upgrade.spec.toIvoryVersion)], .stop none⟩
  | .completed succeeded =>
      ⟨resetReasons.take 5, blockedCondition upgrade "IvyUpgradeCompleted"
        ("IvoryCluster " ++ upgrade.spec.ivoryClusterName ++ " is running version " ++
          toString upgrade.spec.toIvoryVersion) ::
        (if succeeded then [succeededCondition upgrade] else []), .stop none⟩
  | .notShutdown =>
      ⟨resetReasons.take 5, [blockedCondition upgrade "PGClusterNotShutdown"
        "IvoryCluster instances still running"], .stop none⟩
  | .invalidForCluster version =>
      ⟨resetReasons.take 6, [blockedCondition upgrade "IvyUpgradeInvalidForCluster"
        ("Current ivory version is " ++ toString version ++ ", but upgrade expected " ++
          toString upgrade.spec.fromIvoryVersion)], .stop none⟩
  | .annotationMissing =>
      ⟨resetReasons.take 7, [blockedCondition upgrade "PGClusterMissingRequiredAnnotation"
        ("IvoryCluster " ++ upgrade.spec.ivoryClusterName ++ " lacks annotation for upgrade " ++
          upgrade.name)], .stop none⟩
  | .failed => ⟨resetReasons, [failedCondition upgrade], .stop none⟩
  | .fanOut world => ⟨resetReasons, [], .fanOut world⟩
  | .forward world upgradeJobComplete removeDataJobsComplete =>
      ⟨resetReasons, [], .forward world upgradeJobComplete removeDataJobsComplete⟩

/-- The decision of a pass. -/
def gates (names : JobNames) (upgrade : IvyUpgrade) (observed : Except Error World) : Decision :=
  (verdict names upgrade observed).decision upgrade

/-- The reason of the gate a state stops at, for the states whose gate writes
`Progressing=False`. -/
def Verdict.gateReason : Verdict → Option String
  | .invalid => some "IvyUpgradeInvalid"
  | .errorWhenObservingWorld _ => some "PGClusterErrorWhenObservingWorld"
  | .clusterNotFound _ => some "PGClusterNotFound"
  | .resolved => some "IvyUpgradeResolved"
  | .completed _ => some "IvyUpgradeCompleted"
  | .notShutdown => some "PGClusterNotShutdown"
  | .invalidForCluster _ => some "IvyUpgradeInvalidForCluster"
  | .annotationMissing => some "PGClusterMissingRequiredAnnotation"
  | .failed | .fanOut _ | .forward _ _ _ => none

/-- The shape every decision has: a nonempty run of resets that never names
`IvyUpgradeProgressing`, written conditions of distinct types, and a written `Progressing`
condition whose reason no reset of the same pass names. -/
structure Decision.WellFormed (decision : Decision) : Prop where
  resets_ne_nil : decision.resets ≠ []
  progressing_not_mem : "IvyUpgradeProgressing" ∉ decision.resets
  types_distinct : decision.written.Pairwise (fun a b => a.type ≠ b.type)
  reason_not_mem : ∀ c ∈ decision.written,
    c.type = ConditionIvyUpgradeProgressing → c.reason ∉ decision.resets

/-- Every state's decision has the shape `Decision.WellFormed` asks for. -/
theorem Verdict.decision_wellFormed (upgrade : IvyUpgrade) (verdict : Verdict) :
    (verdict.decision upgrade).WellFormed := by
  cases verdict with
  | completed succeeded =>
      cases succeeded <;> constructor <;>
        simp [Verdict.decision, resetReasons, blockedCondition, succeededCondition,
          ConditionIvyUpgradeProgressing, ConditionIvyUpgradeSucceeded]
  | _ =>
      constructor <;>
        simp [Verdict.decision, resetReasons, blockedCondition, failedCondition,
          ConditionIvyUpgradeProgressing, ConditionIvyUpgradeSucceeded]

/-- A state that stops at a gate writes that gate's `Progressing=False` condition first, and
after it at most conditions of other types. -/
theorem Verdict.written_of_gateReason (upgrade : IvyUpgrade) {verdict : Verdict} {reason : String}
    (h : verdict.gateReason = some reason) :
    ∃ message extra, (verdict.decision upgrade).written =
      blockedCondition upgrade reason message :: extra ∧
        ∀ c ∈ extra, c.type ≠ ConditionIvyUpgradeProgressing := by
  cases verdict with
  | completed succeeded =>
      simp only [Verdict.gateReason, Option.some.injEq] at h
      subst h
      refine ⟨_, _, rfl, ?_⟩
      cases succeeded <;>
        simp [succeededCondition, ConditionIvyUpgradeSucceeded, ConditionIvyUpgradeProgressing]
  | failed | fanOut | forward => simp [Verdict.gateReason] at h
  | _ =>
      simp only [Verdict.gateReason, Option.some.injEq] at h
      subst h
      exact ⟨_, [], rfl, by simp⟩

/-- A state that stops at a gate writes that gate's `Progressing=False` condition. -/
theorem Verdict.blocked_mem_written (upgrade : IvyUpgrade) {verdict : Verdict} {reason : String}
    (h : verdict.gateReason = some reason) :
    ∃ message, blockedCondition upgrade reason message ∈ (verdict.decision upgrade).written := by
  obtain ⟨message, extra, hw, -⟩ := Verdict.written_of_gateReason upgrade h
  exact ⟨message, hw ▸ List.mem_cons_self _ _⟩

/-- A state past every gate makes every reset and writes no `Progressing` condition. -/
theorem Verdict.decision_of_gateReason_none (upgrade : IvyUpgrade) {verdict : Verdict}
    (h : verdict.gateReason = none) :
    (verdict.decision upgrade).resets = resetReasons ∧
      ∀ c ∈ (verdict.decision upgrade).written, c.type ≠ ConditionIvyUpgradeProgressing := by
  cases verdict <;> simp only [Verdict.gateReason, reduceCtorEq] at h <;>
    simp [Verdict.decision, failedCondition, ConditionIvyUpgradeSucceeded,
      ConditionIvyUpgradeProgressing]

section

variable (names : JobNames) (client : Client) (now : Nat)

/-- The conditions after a decision's calls: the resets in order, then the writes in order. -/
def Decision.apply (decision : Decision) (upgrade : IvyUpgrade)
    (conditions : List Condition) : List Condition :=
  decision.written.foldl (fun cs c => setStatusCondition now c cs)
    (decision.resets.foldl (fun cs r => setStatusToProgressingIfReasonWas now r upgrade cs)
      conditions)

/-- Carry out a decision on the upgrade's status. -/
def Decision.run (decision : Decision) (upgrade : IvyUpgrade) : Pass :=
  let conditions := decision.apply now upgrade upgrade.status.conditions
  match decision.phase with
  | .stop err => ⟨conditions, [], {}, err⟩
  | .fanOut world => completionFanOut names client upgrade world (.returned conditions)
  | .forward world upgradeJobComplete removeDataJobsComplete =>
      driveForward client world upgradeJobComplete removeDataJobsComplete (.returned conditions)

/-- The body of `Reconcile` is the early return, or the decision carried out. -/
theorem reconcileBody_eq (upgrade : IvyUpgrade) (observed : Except Error World) :
    reconcileBody names client now upgrade observed =
      if succeededReason upgrade.status.conditions = some "IvyUpgradeSucceeded" then
        .returned upgrade.status.conditions
      else (gates names upgrade observed).run names client now upgrade := by
  unfold reconcileBody gates verdict clusterVerdict jobsVerdict
  simp only []
  by_cases hs : succeededReason upgrade.status.conditions = some "IvyUpgradeSucceeded"
  · rw [if_pos hs, if_pos hs]
  rw [if_neg hs, if_neg hs]
  by_cases h1 : upgrade.spec.fromIvoryVersion ≥ upgrade.spec.toIvoryVersion
  · rw [if_pos h1, if_pos h1]; rfl
  rw [if_neg h1, if_neg h1]
  rcases observed with err | world
  · rfl
  rcases hnf : world.clusterNotFound with _ | notFound
  · simp only [hnf]
    generalize (world.jobs.find names.pgUpgradeJob).any (·.complete) = upgradeJobComplete
    generalize (world.jobs.find names.pgUpgradeJob).any (·.failed) = upgradeJobFailed
    generalize (removeDataJobs names.removeData world.jobs.entries).1 = removeDataJobsFailed
    generalize decide (((removeDataJobs names.removeData world.jobs.entries).2.length : Int) =
      world.replicasExpected) = removeDataJobsComplete
    generalize world.cluster.postgresVersion = version
    generalize world.cluster.status.postgresVersion = statusVersion
    by_cases resolved : version = upgrade.spec.toIvoryVersion ∧ (!upgradeJobComplete) = true
    · rw [if_pos resolved, if_pos resolved]
      simp only [Verdict.decision, Decision.run, Decision.apply, resetReasons, List.take_succ_cons,
        List.take_zero, List.foldl, Pass.returned]
    rw [if_neg resolved, if_neg resolved]
    by_cases completed : statusVersion = upgrade.spec.toIvoryVersion
    · rw [if_pos completed, if_pos completed]
      by_cases succeeded : upgradeJobComplete = true ∧ removeDataJobsComplete = true
      · rw [if_pos succeeded, decide_eq_true succeeded]
        simp only [Verdict.decision, Decision.run, Decision.apply, resetReasons, List.take_succ_cons,
          List.take_zero, List.foldl, Pass.returned]
      · rw [if_neg succeeded, decide_eq_false succeeded]
        simp only [Verdict.decision, Decision.run, Decision.apply, resetReasons, List.take_succ_cons,
          List.take_zero, List.foldl, Pass.returned]
    rw [if_neg completed, if_neg completed]
    by_cases notShutdown : (!world.clusterShutdown) = true ∨ world.clusterPrimary = none
    · rw [if_pos notShutdown, if_pos notShutdown]
      simp only [Verdict.decision, Decision.run, Decision.apply, resetReasons, List.take_succ_cons,
        List.take_zero, List.foldl, Pass.returned]
    rw [if_neg notShutdown, if_neg notShutdown]
    by_cases invalidForCluster :
        version ≠ upgrade.spec.fromIvoryVersion ∧ statusVersion ≠ upgrade.spec.toIvoryVersion
    · rw [if_pos invalidForCluster, if_pos invalidForCluster]
      simp only [Verdict.decision, Decision.run, Decision.apply, resetReasons, List.take_succ_cons,
        List.take_zero, List.foldl, Pass.returned]
    rw [if_neg invalidForCluster, if_neg invalidForCluster]
    by_cases missing : world.cluster.annotationValue AnnotationAllowUpgrade ≠ upgrade.name
    · rw [if_pos missing, if_pos missing]
      simp only [Verdict.decision, Decision.run, Decision.apply, resetReasons, List.take_succ_cons,
        List.take_zero, List.foldl, Pass.returned]
    rw [if_neg missing, if_neg missing]
    by_cases failed : upgradeJobFailed = true ∨ removeDataJobsFailed = true
    · rw [if_pos failed, if_pos failed]
      simp only [Verdict.decision, Decision.run, Decision.apply, resetReasons, List.foldl, Pass.returned]
    rw [if_neg failed, if_neg failed]
    by_cases fanOut : upgradeJobComplete = true ∧ removeDataJobsComplete = true ∧
        statusVersion ≠ upgrade.spec.toIvoryVersion
    · rw [if_pos fanOut, if_pos fanOut]
      simp only [Verdict.decision, Decision.run, Decision.apply, resetReasons, List.foldl]
    · rw [if_neg fanOut, if_neg fanOut]
      simp only [Verdict.decision, Decision.run, Decision.apply, resetReasons, List.foldl]
  · simp only [hnf]; rfl


@[simp] theorem Decision.run_conditions (decision : Decision) (upgrade : IvyUpgrade) :
    (decision.run names client now upgrade).conditions =
      decision.apply now upgrade upgrade.status.conditions := by
  unfold Decision.run; split <;> simp

/-- The conditions one pass leaves: those it read, unless `Get` succeeded and `Succeeded` did
not already carry `IvyUpgradeSucceeded`, in which case the decision carried out on them. -/
theorem reconcile_conditions (fetched : Option Error) (upgrade : IvyUpgrade)
    (observed : Except Error World) :
    (reconcile names client now fetched upgrade observed).conditions =
      if fetched = none ∧ succeededReason upgrade.status.conditions ≠ some "IvyUpgradeSucceeded"
      then (gates names upgrade observed).apply now upgrade upgrade.status.conditions
      else upgrade.status.conditions := by
  cases fetched with
  | some err => simp [reconcile]
  | none =>
      simp only [reconcile, patchStatusOnExit_conditions, reconcileBody_eq, true_and]
      split <;> simp_all [Pass.returned]

end

end IvoryOperator.Upgrade
