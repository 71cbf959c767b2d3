import IvoryOperator.Upgrade.Writes

/-!
# When a pass sets `Succeeded=True`

`Succeeded=True` is written in one place: the branch for a cluster whose status already shows
the new version, when the upgrade job and `ReplicasExpected` remove-data jobs have completed.
That branch comes before the failure gate, and the count it compares is what the remove-data
loop collected before its `break`. `reconcile_sets_succeeded` says what a pass that sets
`Succeeded=True` knows of the world: at least `ReplicasExpected` remove-data jobs completed, and
exactly that many when none failed. `succeeded_with_failed_removeData` is a world in which a
pass sets `Succeeded=True` while a remove-data job failed, though the comment on the failure
gate says that, the jobs running only once, an upgrade with a failed job has failed.
`reconcile_depends_on_job_order` gives two iteration orders of one job map that a pass treats
differently.
-/

namespace IvoryOperator.Upgrade

open IvoryOperator.Meta

/-- The one state whose decision writes `Succeeded=True`. -/
theorem Verdict.written_succeeded_true (upgrade : IvyUpgrade) (verdict : Verdict) :
    ∀ c ∈ (verdict.decision upgrade).written, c.type = ConditionIvyUpgradeSucceeded →
      c.status = .conditionTrue → verdict = .completed true := by
  cases verdict with
  | completed succeeded =>
      cases succeeded <;>
        simp [Verdict.decision, blockedCondition, succeededCondition,
          ConditionIvyUpgradeProgressing, ConditionIvyUpgradeSucceeded]
  | _ =>
      simp [Verdict.decision, blockedCondition, failedCondition,
        ConditionIvyUpgradeProgressing, ConditionIvyUpgradeSucceeded]

section

variable {names : JobNames} {upgrade : IvyUpgrade}

/-- The job gates never reach the completed state. -/
theorem jobsVerdict_ne_completed (world : World) (succeeded : Bool) :
    jobsVerdict names upgrade world ≠ .completed succeeded := by
  simp only [jobsVerdict]
  split_ifs <;> simp

/-- The state that writes `Succeeded=True` comes from a world whose cluster status shows the new
version and in which the upgrade job and `ReplicasExpected` remove-data jobs, as the loop
counts them, have completed. -/
theorem verdict_completed {observed : Except Error World}
    (h : verdict names upgrade observed = .completed true) :
    ∃ world, observed = .ok world ∧
      world.cluster.status.postgresVersion = upgrade.spec.toIvoryVersion ∧
      upgradeJobComplete names world = true ∧
      ((removeDataJobs names.removeData world.jobs.entries).2.length : Int) =
        world.replicasExpected := by
  unfold verdict at h
  split_ifs at h
  rcases observed with err | world
  · cases h
  rcases hfound : world.clusterNotFound with _ | notFound
  · simp only [hfound] at h
    unfold clusterVerdict at h
    by_cases hresolved : world.cluster.postgresVersion = upgrade.spec.toIvoryVersion ∧
        !(world.jobs.find names.pgUpgradeJob).any (·.complete)
    · rw [if_pos hresolved] at h; cases h
    rw [if_neg hresolved] at h
    by_cases hcompleted : world.cluster.status.postgresVersion = upgrade.spec.toIvoryVersion
    · rw [if_pos hcompleted] at h
      simp only [Verdict.completed.injEq, decide_eq_true_eq] at h
      exact ⟨world, rfl, hcompleted, h.1, h.2⟩
    rw [if_neg hcompleted] at h
    split_ifs at h
    all_goals first | cases h | exact absurd h (jobsVerdict_ne_completed _ _)
  · simp [hfound] at h

end

section

variable (names : JobNames) (client : Client) (now : Nat)

/-- A pass that sets `Succeeded=True` saw the cluster's status at the new version, the upgrade
job completed, at least `ReplicasExpected` remove-data jobs completed, and exactly that many
when no remove-data job had failed without completing. -/
theorem reconcile_sets_succeeded (fetched : Option Error) (upgrade : IvyUpgrade)
    (observed : Except Error World)
    (hbefore : ∀ c, findStatusCondition upgrade.status.conditions ConditionIvyUpgradeSucceeded =
      some c → c.status ≠ .conditionTrue)
    (hafter : ∃ c, findStatusCondition (reconcile names client now fetched upgrade observed).conditions
      ConditionIvyUpgradeSucceeded = some c ∧ c.status = .conditionTrue) :
    ∃ world, observed = .ok world ∧
      world.cluster.status.postgresVersion = upgrade.spec.toIvoryVersion ∧
      (∃ job, world.jobs.find names.pgUpgradeJob = some job ∧ job.complete = true) ∧
      world.replicasExpected ≤
        ((world.jobs.entries.filter (completedRemoveData names.removeData)).length : Int) ∧
      ((∀ job ∈ world.jobs.entries, job.role = names.removeData → job.complete = false →
          job.failed = false) →
        ((world.jobs.entries.filter (completedRemoveData names.removeData)).length : Int) =
          world.replicasExpected) := by
  obtain ⟨c, hc, htrue⟩ := hafter
  rw [reconcile_conditions] at hc
  split at hc
  swap
  · exact absurd htrue (hbefore c hc)
  have hcompleted : verdict names upgrade observed = .completed true := by
    by_contra hne
    have hresets := findStatusCondition_foldl_of_status_ne now
      (fun w hw htype hstatus => hne (Verdict.written_succeeded_true upgrade _ w hw htype hstatus))
      hc htrue
    rw [findStatusCondition_resets_ne now upgrade (by decide)] at hresets
    exact hbefore c hresets htrue
  obtain ⟨world, hobserved, hstatus, hjob, hcount⟩ := verdict_completed hcompleted
  refine ⟨world, hobserved, hstatus, ?_, ?_, fun hnotFailed => ?_⟩
  · unfold upgradeJobComplete at hjob
    cases hfind : world.jobs.find names.pgUpgradeJob with
    | none => simp [hfind] at hjob
    | some job => exact ⟨job, rfl, by simpa [hfind] using hjob⟩
  · rw [← hcount]
    exact_mod_cast (removeDataJobs_snd_sublist _ _).length_le
  · rw [← hcount, removeDataJobs_snd_eq_filter _ (removeDataJobs_fst_eq_false _ hnotFailed)]

/-- A pass over a cluster whose status shows the new version, with the upgrade job and no
remove-data job expected, sets `Succeeded=True`. -/
theorem reconcile_sets_succeeded_without_replicas :
    let names : JobNames := ⟨"hippo-pgupgrade", "removedata", "replica-create"⟩
    let upgradeJob : Job := ⟨"hippo-pgupgrade", "uid-0", "1", "pgupgrade", "", true, false⟩
    let world : World := ⟨⟨[(AnnotationAllowUpgrade, "hippo-upgrade")], 14, ⟨15, []⟩⟩, none,
      ⟨[upgradeJob], List.nodup_cons.mpr ⟨List.not_mem_nil _, List.nodup_nil⟩⟩, true,
      some "hippo-instance1", [], [], 0⟩
    let upgrade : IvyUpgrade := ⟨"hippo-upgrade", 1, ⟨"hippo", 14, 15⟩, ⟨[]⟩⟩
    ((∀ c, findStatusCondition upgrade.status.conditions ConditionIvyUpgradeSucceeded =
        some c → c.status ≠ .conditionTrue) ∧
      ∃ c, findStatusCondition (reconcile names (fun _ => none) 1 none upgrade (.ok world)).conditions
        ConditionIvyUpgradeSucceeded = some c ∧ c.status = .conditionTrue) ∧
    ∃ world', (.ok world : Except Error World) = .ok world' ∧
      world'.cluster.status.postgresVersion = upgrade.spec.toIvoryVersion ∧
      (∃ job, world'.jobs.find names.pgUpgradeJob = some job ∧ job.complete = true) ∧
      world'.replicasExpected ≤
        ((world'.jobs.entries.filter (completedRemoveData names.removeData)).length : Int) ∧
      ((∀ job ∈ world'.jobs.entries, job.role = names.removeData → job.complete = false →
          job.failed = false) →
        ((world'.jobs.entries.filter (completedRemoveData names.removeData)).length : Int) =
          world'.replicasExpected) := by
  intro names upgradeJob world upgrade
  have hbefore : ∀ c, findStatusCondition upgrade.status.conditions ConditionIvyUpgradeSucceeded =
      some c → c.status ≠ .conditionTrue := fun _ h => Option.noConfusion h
  have hafter : ∃ c, findStatusCondition
      (reconcile names (fun _ => none) 1 none upgrade (.ok world)).conditions
      ConditionIvyUpgradeSucceeded = some c ∧ c.status = .conditionTrue :=
    Option.map_eq_some'.mp (by decide)
  exact ⟨⟨hbefore, hafter⟩,
    reconcile_sets_succeeded names _ 1 none upgrade (.ok world) hbefore hafter⟩

end

/-- A pass that sets `Succeeded=True` while a remove-data job failed without completing: the
loop collected the completed job, broke at the failed one, and the count it compares with
`ReplicasExpected` matched. -/
theorem succeeded_with_failed_removeData :
    let names : JobNames := ⟨"hippo-pgupgrade", "removedata", "replica-create"⟩
    let jobs : List Job := [⟨"hippo-pgupgrade", "uid-0", "1", "pgupgrade", "", true, false⟩,
      ⟨"hippo-removedata-1", "uid-1", "1", "removedata", "", true, false⟩,
      ⟨"hippo-removedata-2", "uid-2", "1", "removedata", "", false, true⟩]
    let world : World := ⟨⟨[(AnnotationAllowUpgrade, "hippo-upgrade")], 14, ⟨15, []⟩⟩, none,
      ⟨jobs, by decide⟩, true, some "hippo-instance1", ["hippo-instance2"], [], 1⟩
    let upgrade : IvyUpgrade := ⟨"hippo-upgrade", 1, ⟨"hippo", 14, 15⟩, ⟨[]⟩⟩
    succeededReason (reconcile names (fun _ => none) 1 none upgrade (.ok world)).conditions =
        some "IvyUpgradeSucceeded" ∧
      ∃ job ∈ world.jobs.entries, job.role = names.removeData ∧ job.complete = false ∧
        job.failed = true := by
  decide

/-- One job map in two iteration orders: the pass that meets the completed remove-data job
first sets `Succeeded=True`, the pass that meets the failed one first does not. -/
theorem reconcile_depends_on_job_order :
    let names : JobNames := ⟨"hippo-pgupgrade", "removedata", "replica-create"⟩
    let upgradeJob : Job := ⟨"hippo-pgupgrade", "uid-0", "1", "pgupgrade", "", true, false⟩
    let completed : Job := ⟨"hippo-removedata-1", "uid-1", "1", "removedata", "", true, false⟩
    let failed : Job := ⟨"hippo-removedata-2", "uid-2", "1", "removedata", "", false, true⟩
    let world (jobs : JobMap) : World := ⟨⟨[(AnnotationAllowUpgrade, "hippo-upgrade")], 14,
      ⟨15, []⟩⟩, none, jobs, true, some "hippo-instance1", ["hippo-instance2"], [], 1⟩
    let first : JobMap := ⟨[upgradeJob, completed, failed], by decide⟩
    let second : JobMap := ⟨[upgradeJob, failed, completed], by decide⟩
    let upgrade : IvyUpgrade := ⟨"hippo-upgrade", 1, ⟨"hippo", 14, 15⟩, ⟨[]⟩⟩
    first.entries.Perm second.entries ∧
      succeededReason
          (reconcile names (fun _ => none) 1 none upgrade (.ok (world first))).conditions =
        some "IvyUpgradeSucceeded" ∧
      succeededReason
          (reconcile names (fun _ => none) 1 none upgrade (.ok (world second))).conditions =
        none := by
  decide

end IvoryOperator.Upgrade
