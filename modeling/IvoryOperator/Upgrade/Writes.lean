import IvoryOperator.Upgrade.Jobs
import IvoryOperator.Upgrade.Progressing

/-!
# The writes of a pass

A pass writes through the API server only in its two write phases, the completion fan-out and
driving the upgrade forward, and in the deferred patch of the upgrade's own status. `Admitted`
names what a world that passed every gate satisfies, and `reconcile_write_admitted` shows that
a pass issues no write other than the deferred patch unless the world it observed is admitted.
The write phases are reached only when the remove-data loop reported no failure, and then it
counts the same jobs in every order of `world.Jobs` (`removeDataJobs_order_independent`).
Two invariants of the write phases, each stated once and carried through every loop by one
lemma per loop, give the rest. `Pass.IssuesOnly`: the upgrade job is applied only while it has
not completed, remove-data jobs only once it has, and the phases never patch the upgrade's
status. `Pass.Reports`: every write that fails with an error other than NotFound surfaces as
the returned error or as a requeue (`reconcile_reports_failure`). Last,
`reconcile_idempotent`: a second pass over the status a pass left, on the same world, changes
nothing and patches nothing.
-/

namespace IvoryOperator.Upgrade

open IvoryOperator.Meta

/-- Whether the upgrade job exists and completed, as `Reconcile` reads it. -/
def upgradeJobComplete (names : JobNames) (world : World) : Bool :=
  (world.jobs.find names.pgUpgradeJob).any (·.complete)

/-- A world that passes every gate of a pass over this upgrade: valid versions, a cluster that
was found, shut down with a primary, at the spec's from-version and not yet at the to-version
in its status, annotated for this upgrade, and no failed job. -/
structure Admitted (names : JobNames) (upgrade : IvyUpgrade) (world : World) : Prop where
  versions_lt : upgrade.spec.fromIvoryVersion < upgrade.spec.toIvoryVersion
  cluster_found : world.clusterNotFound = none
  version_eq_from : world.cluster.postgresVersion = upgrade.spec.fromIvoryVersion
  statusVersion_ne_to : world.cluster.status.postgresVersion ≠ upgrade.spec.toIvoryVersion
  shutdown : world.clusterShutdown = true
  primary_ne_none : world.clusterPrimary ≠ none
  annotation_eq_name : world.cluster.annotationValue AnnotationAllowUpgrade = upgrade.name
  upgradeJob_not_failed : ∀ job, world.jobs.find names.pgUpgradeJob = some job → job.failed = false
  removeDataJobs_not_failed : ∀ job ∈ world.jobs.entries, job.role = names.removeData →
    job.complete = false → job.failed = false

/-- The world a writing state acts on, and whether it reads the upgrade job as completed. -/
def Verdict.writing : Verdict → Option (World × Bool)
  | .fanOut world => some (world, true)
  | .forward world upgradeJobComplete _ => some (world, upgradeJobComplete)
  | _ => none

section

variable {names : JobNames} {upgrade : IvyUpgrade}

/-- The jobs decide a writing state only when no job failed, and read the upgrade job's
outcome from the world. -/
theorem jobsVerdict_writing {world world' : World} {complete : Bool}
    (h : (jobsVerdict names upgrade world).writing = some (world', complete)) :
    world' = world ∧ complete = upgradeJobComplete names world ∧
      (world.jobs.find names.pgUpgradeJob).any (·.failed) = false ∧
      (removeDataJobs names.removeData world.jobs.entries).1 = false := by
  simp only [jobsVerdict] at h
  split_ifs at h with hfailed hfanOut <;>
    simp only [Verdict.writing, Option.some.injEq, Prod.mk.injEq, reduceCtorEq] at h
  all_goals simp only [not_or, Bool.not_eq_true] at hfailed
  · exact ⟨h.1.symm, h.2 ▸ hfanOut.1.symm, hfailed⟩
  · exact ⟨h.1.symm, h.2.symm, hfailed⟩

/-- A found cluster leads to a writing state only past every gate on the cluster. -/
theorem clusterVerdict_writing {world world' : World} {complete : Bool}
    (h : (clusterVerdict names upgrade world).writing = some (world', complete)) :
    world.cluster.postgresVersion = upgrade.spec.fromIvoryVersion ∧
      world.cluster.status.postgresVersion ≠ upgrade.spec.toIvoryVersion ∧
      world.clusterShutdown = true ∧ world.clusterPrimary ≠ none ∧
      world.cluster.annotationValue AnnotationAllowUpgrade = upgrade.name ∧
      (jobsVerdict names upgrade world).writing = some (world', complete) := by
  unfold clusterVerdict at h
  by_cases hresolved : world.cluster.postgresVersion = upgrade.spec.toIvoryVersion ∧
      !(world.jobs.find names.pgUpgradeJob).any (·.complete)
  · rw [if_pos hresolved] at h; cases h
  rw [if_neg hresolved] at h
  by_cases hcompleted : world.cluster.status.postgresVersion = upgrade.spec.toIvoryVersion
  · rw [if_pos hcompleted] at h; cases h
  rw [if_neg hcompleted] at h
  by_cases hshutdown : !world.clusterShutdown ∨ world.clusterPrimary = none
  · rw [if_pos hshutdown] at h; cases h
  rw [if_neg hshutdown] at h
  by_cases hinvalid : world.cluster.postgresVersion ≠ upgrade.spec.fromIvoryVersion ∧
      world.cluster.status.postgresVersion ≠ upgrade.spec.toIvoryVersion
  · rw [if_pos hinvalid] at h; cases h
  rw [if_neg hinvalid] at h
  by_cases hallowUpgrade : world.cluster.annotationValue AnnotationAllowUpgrade ≠ upgrade.name
  · rw [if_pos hallowUpgrade] at h; cases h
  rw [if_neg hallowUpgrade] at h
  simp only [not_or, not_and, not_not, Bool.not_eq_true', Bool.not_eq_false, ne_eq]
    at hshutdown hinvalid hallowUpgrade
  exact ⟨not_imp_comm.mp hinvalid hcompleted, hcompleted, hshutdown.1, hshutdown.2, hallowUpgrade, h⟩

/-- A writing state comes from a world that was observed and is admitted, and reads the
upgrade job's outcome from it. -/
theorem verdict_writing {observed : Except Error World} {world : World} {complete : Bool}
    (h : (verdict names upgrade observed).writing = some (world, complete)) :
    observed = .ok world ∧ Admitted names upgrade world ∧
      complete = upgradeJobComplete names world := by
  unfold verdict at h
  split_ifs at h with hversions
  · simp [Verdict.writing] at h
  rcases observed with err | observedWorld
  · simp [Verdict.writing] at h
  rcases hfound : observedWorld.clusterNotFound with _ | notFound
  · simp only [hfound] at h
    obtain ⟨hversion, hstatus, hshutdown, hprimary, hallowUpgrade, hjobs⟩ := clusterVerdict_writing h
    obtain ⟨rfl, hcomplete, hupgradeJob, hremoveData⟩ := jobsVerdict_writing hjobs
    refine ⟨rfl, ⟨by omega, hfound, hversion, hstatus, hshutdown, hprimary,
      hallowUpgrade, fun job hjob => by simpa [hjob] using hupgradeJob, ?_⟩, hcomplete⟩
    intro job hmem hrole hcomplete
    cases hfailed : job.failed
    · rfl
    · have := (removeDataJobs_fst_eq_true_iff _ _).2 ⟨job, hmem, hrole, hcomplete, hfailed⟩
      rw [hremoveData] at this
      exact absurd this Bool.false_ne_true
  · simp [hfound, Verdict.writing] at h

/-- The remove-data loop, in any order `range` visits `world.Jobs`: it reports a failure exactly
when a remove-data job failed without completing; when it reports none, it collects exactly the
completed remove-data jobs, so the count compared with `ReplicasExpected` is the same in every
order. The write phases are reached only when it reports none. -/
theorem removeDataJobs_order_independent (names : JobNames) (jobs jobs' : JobMap)
    (horder : jobs.entries.Perm jobs'.entries) :
    ((removeDataJobs names.removeData jobs.entries).1 = true ↔
      ∃ job ∈ jobs.entries, job.role = names.removeData ∧ job.failed = true ∧
        job.complete = false) ∧
    (removeDataJobs names.removeData jobs.entries).1 =
      (removeDataJobs names.removeData jobs'.entries).1 ∧
    ((removeDataJobs names.removeData jobs.entries).1 = false →
      (removeDataJobs names.removeData jobs.entries).2 =
          jobs.entries.filter (completedRemoveData names.removeData) ∧
        (removeDataJobs names.removeData jobs.entries).2.length =
          (removeDataJobs names.removeData jobs'.entries).2.length) ∧
    ∀ (upgrade : IvyUpgrade) (observed : Except Error World) (world : World) (complete : Bool),
      (verdict names upgrade observed).writing = some (world, complete) →
        (removeDataJobs names.removeData world.jobs.entries).1 = false := by
  have hfailed : ∀ entries : List Job, (removeDataJobs names.removeData entries).1 = true ↔
      ∃ job ∈ entries, job.role = names.removeData ∧ job.failed = true ∧ job.complete = false :=
    fun entries => (removeDataJobs_fst_eq_true_iff _ entries).trans (by
      simp only [and_comm, and_left_comm])
  have hsame : (removeDataJobs names.removeData jobs.entries).1 =
      (removeDataJobs names.removeData jobs'.entries).1 :=
    Bool.eq_iff_iff.mpr ((hfailed _).trans (Iff.trans (by simp only [horder.mem_iff])
      (hfailed _).symm))
  refine ⟨hfailed _, hsame, fun hnone => ?_, fun upgrade observed world complete hwriting => ?_⟩
  · rw [removeDataJobs_snd_eq_filter _ hnone, removeDataJobs_snd_eq_filter _ (hsame ▸ hnone)]
    exact ⟨rfl, (horder.filter _).length_eq⟩
  · exact removeDataJobs_fst_eq_false _ (verdict_writing hwriting).2.1.removeDataJobs_not_failed

/-- A completed and a running remove-data job, visited in both orders. -/
theorem removeDataJobs_order_independent_swap :
    let names : JobNames := ⟨"hippo-pgupgrade", "removedata", "replica-create"⟩
    let completed : Job := ⟨"hippo-removedata-1", "uid-1", "1", "removedata", "", true, false⟩
    let running : Job := ⟨"hippo-removedata-2", "uid-2", "1", "removedata", "", false, false⟩
    let jobs : JobMap := ⟨[completed, running], by decide⟩
    let jobs' : JobMap := ⟨[running, completed], by decide⟩
    jobs.entries.Perm jobs'.entries ∧
    ((removeDataJobs names.removeData jobs.entries).1 = true ↔
      ∃ job ∈ jobs.entries, job.role = names.removeData ∧ job.failed = true ∧
        job.complete = false) ∧
    (removeDataJobs names.removeData jobs.entries).1 =
      (removeDataJobs names.removeData jobs'.entries).1 ∧
    ((removeDataJobs names.removeData jobs.entries).1 = false →
      (removeDataJobs names.removeData jobs.entries).2 =
          jobs.entries.filter (completedRemoveData names.removeData) ∧
        (removeDataJobs names.removeData jobs.entries).2.length =
          (removeDataJobs names.removeData jobs'.entries).2.length) ∧
    ∀ (upgrade : IvyUpgrade) (observed : Except Error World) (world : World) (complete : Bool),
      (verdict names upgrade observed).writing = some (world, complete) →
        (removeDataJobs names.removeData world.jobs.entries).1 = false := by
  intro names completed running jobs jobs'
  have horder : jobs.entries.Perm jobs'.entries := by decide
  exact ⟨horder, removeDataJobs_order_independent names jobs jobs' horder⟩

end

/-- The calls a write phase may issue when it reads the upgrade job as completed or not: the
upgrade job only while it has not completed, remove-data jobs only once it has, and never the
patch of the upgrade's own status. -/
def Call.Allowed (upgradeJobComplete : Bool) : Call → Prop
  | .applyUpgradeJob _ => upgradeJobComplete = false
  | .applyRemoveDataJob _ => upgradeJobComplete = true
  | .deleteJob _ | .deleteEndpoints _ | .patchIvoryClusterStatus _ => True
  | .patchIvyUpgradeStatus _ => False

/-- Every write issued from `pass` on to `pass'` satisfies `allowed`. -/
def Pass.IssuesOnly (allowed : Call → Prop) (pass pass' : Pass) : Prop :=
  ∃ new, pass'.writes = pass.writes ++ new ∧ ∀ w ∈ new, allowed w.1

/-- An answer that is an error other than NotFound. -/
def Failing (answer : Option Error) : Prop :=
  ∃ err, answer = some err ∧ err.notFound = false

/-- Every write of the pass that failed with an error other than NotFound shows in its `err`
or in its `Requeue`. -/
def Pass.Reports (pass : Pass) : Prop :=
  (∃ w ∈ pass.writes, Failing w.2) → pass.err ≠ none ∨ pass.result.requeue = true

section

variable {allowed : Call → Prop} (client : Client)

/-- A pass issues nothing from itself on. -/
theorem Pass.IssuesOnly.refl (pass : Pass) : pass.IssuesOnly allowed pass :=
  ⟨[], by simp, by simp⟩

/-- Allowed writes from one pass to a second and from it to a third are allowed from the first to
the third. -/
theorem Pass.IssuesOnly.trans {pass₁ pass₂ pass₃ : Pass} (h₁ : pass₁.IssuesOnly allowed pass₂)
    (h₂ : pass₂.IssuesOnly allowed pass₃) : pass₁.IssuesOnly allowed pass₃ := by
  obtain ⟨new₁, hw₁, ha₁⟩ := h₁
  obtain ⟨new₂, hw₂, ha₂⟩ := h₂
  refine ⟨new₁ ++ new₂, by rw [hw₂, hw₁, List.append_assoc], fun w hw => ?_⟩
  rcases List.mem_append.mp hw with hw | hw
  exacts [ha₁ w hw, ha₂ w hw]

/-- An allowed call issues an allowed write. -/
theorem Pass.IssuesOnly.write {call : Call} (h : allowed call) (assign : Option Error → Option Error)
    (pass : Pass) : pass.IssuesOnly allowed (pass.write client call assign) :=
  ⟨[_], rfl, by simpa using h⟩

/-- A step taken only under a condition. -/
theorem Pass.IssuesOnly.ite {condition : Prop} [Decidable condition] {pass pass' : Pass}
    (h : condition → pass.IssuesOnly allowed pass') :
    pass.IssuesOnly allowed (if condition then pass' else pass) := by
  split
  exacts [h ‹_›, .refl pass]

/-- Setting the result issues nothing. -/
theorem Pass.IssuesOnly.withResult {pass pass' : Pass} (h : pass.IssuesOnly allowed pass')
    (result : Result) : pass.IssuesOnly allowed { pass' with result } :=
  h

/-- A pass that began with no write and issued only allowed ones holds only allowed writes. -/
theorem Pass.IssuesOnly.mem_returned {conditions : List Condition} {pass : Pass}
    (h : (Pass.returned conditions).IssuesOnly allowed pass) {w : Call × Option Error}
    (hw : w ∈ pass.writes) : allowed w.1 := by
  obtain ⟨new, hnew, hallowed⟩ := h
  rw [hnew, Pass.returned_writes, List.nil_append] at hw
  exact hallowed w hw

/-- A pass with no write has nothing to report. -/
theorem Pass.reports_returned (conditions : List Condition) : (Pass.returned conditions).Reports :=
  fun ⟨_, hw, _⟩ => absurd hw (List.not_mem_nil _)

/-- A write issued while `err` is nil keeps every failure reported, when the new `err` keeps
a failing answer. -/
theorem Pass.Reports.write {pass : Pass} (h : pass.Reports) (herr : pass.err = none)
    {assign : Option Error → Option Error} (hassign : ∀ answer, Failing answer → assign answer ≠ none)
    (call : Call) : (pass.write client call assign).Reports := by
  rintro ⟨w, hw, hfailing⟩
  rcases List.mem_append.mp hw with hw | hw
  · exact .inr ((h ⟨w, hw, hfailing⟩).resolve_left (not_not.mpr herr))
  · rw [List.mem_singleton] at hw
    subst hw
    exact .inl (hassign _ hfailing)

/-- `client.IgnoreNotFound` keeps an error other than NotFound. -/
theorem failing_ignoreNotFound {answer : Option Error} (h : Failing answer) :
    ignoreNotFound answer ≠ none := by
  obtain ⟨err, rfl, hnotFound⟩ := h
  simp [ignoreNotFound, hnotFound]

/-- An error other than NotFound kept as it is stays an error. -/
theorem failing_id {answer : Option Error} (h : Failing answer) : id answer ≠ none := by
  obtain ⟨err, rfl, -⟩ := h
  exact Option.some_ne_none err

/-- A write issued only under a condition that requires `err` to be nil. -/
theorem Pass.Reports.ite_write {pass : Pass} (h : pass.Reports) {condition : Prop}
    [Decidable condition] (hguard : condition → pass.err = none)
    {assign : Option Error → Option Error}
    (hassign : ∀ answer, Failing answer → assign answer ≠ none) (call : Call) :
    (if condition then pass.write client call assign else pass).Reports := by
  split
  exacts [h.write client (hguard ‹_›) hassign call, h]

end

section

variable (names : JobNames) (client : Client) (now : Nat)

/-- The replica-create loop issues only job deletes. -/
theorem deleteReplicaCreateJobs_issuesOnly (complete : Bool) (replicaCreate : String)
    (jobs : List Job) (pass : Pass) :
    pass.IssuesOnly (Call.Allowed complete) (deleteReplicaCreateJobs client replicaCreate jobs pass) := by
  induction jobs generalizing pass with
  | nil => exact .refl pass
  | cons job jobs ih =>
      refine Pass.IssuesOnly.trans ?_ (ih _)
      exact Pass.IssuesOnly.ite fun _ => .write client True.intro ignoreNotFound pass

/-- The replica-create loop keeps every failed write reported. -/
theorem deleteReplicaCreateJobs_reports (replicaCreate : String) (jobs : List Job) {pass : Pass}
    (h : pass.Reports) : (deleteReplicaCreateJobs client replicaCreate jobs pass).Reports := by
  induction jobs generalizing pass with
  | nil => exact h
  | cons job jobs ih =>
      exact ih (h.ite_write client And.left (fun _ => failing_ignoreNotFound) (.deleteJob job))

/-- The remove-data loop issues only remove-data applies, which a completed upgrade job allows. -/
theorem applyRemoveDataJobs_issuesOnly (replicas : List String) (pass : Pass) :
    pass.IssuesOnly (Call.Allowed true) (applyRemoveDataJobs client replicas pass) := by
  induction replicas generalizing pass with
  | nil => exact .refl pass
  | cons sts replicas ih =>
      refine Pass.IssuesOnly.trans ?_ (ih _)
      exact Pass.IssuesOnly.ite fun _ =>
        .write client (rfl : Call.Allowed true (.applyRemoveDataJob sts)) id pass

/-- The remove-data loop keeps every failed write reported. -/
theorem applyRemoveDataJobs_reports (replicas : List String) {pass : Pass} (h : pass.Reports) :
    (applyRemoveDataJobs client replicas pass).Reports := by
  induction replicas generalizing pass with
  | nil => exact h
  | cons sts replicas ih =>
      exact ih (h.ite_write client id (fun _ => failing_id) (.applyRemoveDataJob sts))

/-- The endpoints loop issues only endpoint deletes. -/
theorem deletePatroniEndpoints_issuesOnly (complete : Bool) (endpoints : List Endpoints)
    (pass : Pass) :
    pass.IssuesOnly (Call.Allowed complete) (deletePatroniEndpoints client endpoints pass) := by
  induction endpoints generalizing pass with
  | nil => exact .refl pass
  | cons object endpoints ih =>
      exact (Pass.IssuesOnly.write client True.intro ignoreNotFound pass).trans (ih _)

/-- The completion fan-out issues only job deletes and the cluster status patch. -/
theorem completionFanOut_issuesOnly (complete : Bool) (upgrade : IvyUpgrade) (world : World)
    (pass : Pass) :
    pass.IssuesOnly (Call.Allowed complete) (completionFanOut names client upgrade world pass) :=
  (deleteReplicaCreateJobs_issuesOnly client complete _ _ pass).trans
    (Pass.IssuesOnly.ite fun _ => .write client True.intro id _)

/-- The completion fan-out keeps every failed write reported. -/
theorem completionFanOut_reports (upgrade : IvyUpgrade) (world : World) {pass : Pass}
    (h : pass.Reports) : (completionFanOut names client upgrade world pass).Reports :=
  (deleteReplicaCreateJobs_reports client names.replicaCreate world.jobs.entries h).ite_write
    client id (fun _ => failing_id) _

/-- Driving the upgrade forward issues only the calls the upgrade job's outcome allows. -/
theorem driveForward_issuesOnly (world : World) (complete removeDataJobsComplete : Bool)
    (pass : Pass) :
    pass.IssuesOnly (Call.Allowed complete)
      (driveForward client world complete removeDataJobsComplete pass) := by
  simp only [driveForward]
  generalize hstarted : (if pass.err = none ∧ (!complete) = true then
    pass.write client (.applyUpgradeJob world.clusterPrimary) id else pass) = started
  have h₁ : pass.IssuesOnly (Call.Allowed complete) started :=
    hstarted ▸ Pass.IssuesOnly.ite fun h => .write client (by simpa using h.2) id pass
  generalize happlied : (if started.err = none ∧ complete = true ∧ (!removeDataJobsComplete) = true
    then applyRemoveDataJobs client world.clusterReplicas started else started) = applied
  have h₂ : pass.IssuesOnly (Call.Allowed complete) applied :=
    h₁.trans (happlied ▸ Pass.IssuesOnly.ite fun h =>
      h.2.1 ▸ applyRemoveDataJobs_issuesOnly client world.clusterReplicas started)
  split
  exacts [(h₂.trans (deletePatroniEndpoints_issuesOnly client complete _ _)).withResult _, h₂]

/-- Driving the upgrade forward keeps every failed write reported. -/
theorem driveForward_reports (world : World) (complete removeDataJobsComplete : Bool) {pass : Pass}
    (h : pass.Reports) :
    (driveForward client world complete removeDataJobsComplete pass).Reports := by
  simp only [driveForward]
  generalize hstarted : (if pass.err = none ∧ (!complete) = true then
    pass.write client (.applyUpgradeJob world.clusterPrimary) id else pass) = started
  have h₁ : started.Reports := hstarted ▸ h.ite_write client And.left (fun _ => failing_id) _
  split
  · exact fun _ => .inr rfl
  · split
    exacts [applyRemoveDataJobs_reports client _ h₁, h₁]

/-- Carrying out a decision issues writes only in a writing state, and only the calls the
upgrade job's outcome there allows. -/
theorem Verdict.run_writes (upgrade : IvyUpgrade) (verdict : Verdict) {w : Call × Option Error}
    (hw : w ∈ ((verdict.decision upgrade).run names client now upgrade).writes) :
    ∃ world complete, verdict.writing = some (world, complete) ∧ w.1.Allowed complete := by
  cases verdict with
  | fanOut world =>
      exact ⟨world, true, rfl,
        (completionFanOut_issuesOnly names client true upgrade world _).mem_returned hw⟩
  | forward world complete removeDataJobsComplete =>
      exact ⟨world, complete, rfl,
        (driveForward_issuesOnly client world complete removeDataJobsComplete _).mem_returned hw⟩
  | _ => exact absurd hw (List.not_mem_nil _)

/-- Carrying out a decision reports every write that failed. -/
theorem Decision.run_reports (decision : Decision) (upgrade : IvyUpgrade) :
    (decision.run names client now upgrade).Reports := by
  unfold Decision.run
  split
  · exact fun ⟨_, hw, _⟩ => absurd hw (List.not_mem_nil _)
  · exact completionFanOut_reports names client upgrade _ (Pass.reports_returned _)
  · exact driveForward_reports client _ _ _ (Pass.reports_returned _)

/-- Every write of the body of `Reconcile` comes after the early return, from an admitted world,
and is allowed by the upgrade job's outcome there. -/
theorem reconcileBody_write_admitted (upgrade : IvyUpgrade) (observed : Except Error World)
    {w : Call × Option Error} (hw : w ∈ (reconcileBody names client now upgrade observed).writes) :
    succeededReason upgrade.status.conditions ≠ some "IvyUpgradeSucceeded" ∧
      ∃ world, observed = .ok world ∧ Admitted names upgrade world ∧
        w.1.Allowed (upgradeJobComplete names world) := by
  rw [reconcileBody_eq] at hw
  split at hw
  · exact absurd hw (List.not_mem_nil _)
  · obtain ⟨world, complete, hwriting, hallowed⟩ := Verdict.run_writes names client now upgrade _ hw
    obtain ⟨hobserved, hadmitted, rfl⟩ := verdict_writing hwriting
    exact ⟨‹_›, world, hobserved, hadmitted, hallowed⟩

/-- The body of `Reconcile` reports every write that failed. -/
theorem reconcileBody_reports (upgrade : IvyUpgrade) (observed : Except Error World) :
    (reconcileBody names client now upgrade observed).Reports := by
  rw [reconcileBody_eq]
  split
  exacts [Pass.reports_returned _, Decision.run_reports names client now _ upgrade]

/-- The deferred function adds at most the patch that sends the pass's conditions. -/
theorem mem_patchStatusOnExit_writes {before : List Condition} {pass : Pass}
    {w : Call × Option Error} (hw : w ∈ (patchStatusOnExit client before pass).writes) :
    w ∈ pass.writes ∨ w.1 = .patchIvyUpgradeStatus ⟨pass.conditions⟩ := by
  unfold patchStatusOnExit at hw
  split at hw
  · exact .inl hw
  · rcases List.mem_append.mp hw with hw | hw
    · exact .inl hw
    · exact .inr (by rw [List.mem_singleton.mp hw])

/-- With the conditions as they were read, the deferred function does nothing. -/
theorem patchStatusOnExit_of_eq {before : List Condition} {pass : Pass}
    (h : before = pass.conditions) : patchStatusOnExit client before pass = pass :=
  if_pos h

/-- The deferred function keeps an error already returned. -/
theorem patchStatusOnExit_err_ne_none (before : List Condition) {pass : Pass}
    (h : pass.err ≠ none) : (patchStatusOnExit client before pass).err ≠ none := by
  unfold patchStatusOnExit
  split
  · exact h
  · simp [h]

/-- The deferred function reports a failed patch unless an error is already returned. -/
theorem patchStatusOnExit_reports (before : List Condition) {pass : Pass} (h : pass.Reports) :
    (patchStatusOnExit client before pass).Reports := by
  unfold patchStatusOnExit
  split
  · exact h
  · rintro ⟨w, hw, hfailing⟩
    by_cases herr : pass.err = none
    · rcases List.mem_append.mp hw with hw | hw
      · exact .inr ((h ⟨w, hw, hfailing⟩).resolve_left (not_not.mpr herr))
      · rw [List.mem_singleton.mp hw] at hfailing
        exact .inl (by simpa [herr] using failing_id hfailing)
    · exact .inl (by simp [herr])

/-- A pass issues a write other than the deferred patch of the upgrade's status only when `Get`
found the upgrade, `Succeeded` did not already carry `IvyUpgradeSucceeded`, and the world it
observed is admitted. It applies the upgrade job only while that job has not completed, and
remove-data jobs only once it has. -/
theorem reconcile_write_admitted (fetched : Option Error) (upgrade : IvyUpgrade)
    (observed : Except Error World) {call : Call} {answer : Option Error}
    (hw : (call, answer) ∈ (reconcile names client now fetched upgrade observed).writes)
    (hcall : ∀ status, call ≠ .patchIvyUpgradeStatus status) :
    fetched = none ∧ succeededReason upgrade.status.conditions ≠ some "IvyUpgradeSucceeded" ∧
      ∃ world, observed = .ok world ∧ Admitted names upgrade world ∧
        call.Allowed (upgradeJobComplete names world) := by
  cases fetched with
  | some err => exact absurd hw (List.not_mem_nil _)
  | none =>
      rcases mem_patchStatusOnExit_writes client hw with hw | hstatus
      · exact ⟨rfl, reconcileBody_write_admitted names client now upgrade observed hw⟩
      · exact absurd hstatus (hcall _)

/-- A pass over a shut-down cluster at the from-version applies the upgrade job. -/
theorem reconcile_write_admitted_applyUpgradeJob :
    let names : JobNames := ⟨"hippo-pgupgrade", "removedata", "replica-create"⟩
    let upgrade : IvyUpgrade := ⟨"hippo-upgrade", 1, ⟨"hippo", 14, 15⟩, ⟨[]⟩⟩
    let world : World := ⟨⟨[(AnnotationAllowUpgrade, "hippo-upgrade")], 14, ⟨14, []⟩⟩, none,
      ⟨[], List.nodup_nil⟩, true, some "hippo-instance1", [], [], 0⟩
    let call : Call := .applyUpgradeJob (some "hippo-instance1")
    ((call, none) ∈ (reconcile names (fun _ => none) 1 none upgrade (.ok world)).writes ∧
      ∀ status, call ≠ .patchIvyUpgradeStatus status) ∧
    ((none : Option Error) = none ∧
      succeededReason upgrade.status.conditions ≠ some "IvyUpgradeSucceeded" ∧
      ∃ world', (.ok world : Except Error World) = .ok world' ∧ Admitted names upgrade world' ∧
        call.Allowed (upgradeJobComplete names world')) := by
  intro names upgrade world call
  have hw : (call, none) ∈ (reconcile names (fun _ => none) 1 none upgrade (.ok world)).writes := by
    decide
  have hcall : ∀ status, call ≠ .patchIvyUpgradeStatus status := fun _ h => Call.noConfusion h
  exact ⟨⟨hw, hcall⟩, reconcile_write_admitted names _ 1 none upgrade (.ok world) hw hcall⟩

/-- A pass in which a write failed with an error other than NotFound, or in which
`observeWorld` failed, returns an error or asks to be requeued. -/
theorem reconcile_reports_failure (fetched : Option Error) (upgrade : IvyUpgrade)
    (observed : Except Error World)
    (hfailure : (∃ w ∈ (reconcile names client now fetched upgrade observed).writes, Failing w.2) ∨
      (fetched = none ∧ succeededReason upgrade.status.conditions ≠ some "IvyUpgradeSucceeded" ∧
        upgrade.spec.fromIvoryVersion < upgrade.spec.toIvoryVersion ∧
        ∃ err, observed = .error err)) :
    (reconcile names client now fetched upgrade observed).err ≠ none ∨
      (reconcile names client now fetched upgrade observed).result.requeue = true := by
  cases fetched with
  | some err =>
      rcases hfailure with ⟨w, hw, -⟩ | ⟨h, -⟩
      · exact absurd hw (List.not_mem_nil _)
      · exact absurd h (Option.some_ne_none err)
  | none =>
      rcases hfailure with hfailing | ⟨-, hs, hlt, err, rfl⟩
      · exact patchStatusOnExit_reports client _
          (reconcileBody_reports names client now upgrade _) hfailing
      · refine .inl (patchStatusOnExit_err_ne_none client _ ?_)
        have hverdict : verdict names upgrade (.error err) = .errorWhenObservingWorld err := by
          simp [verdict, Int.not_le.mpr hlt]
        rw [reconcileBody_eq, if_neg hs, gates, hverdict]
        exact Option.some_ne_none err

/-- A pass whose `observeWorld` fails returns its error. -/
theorem reconcile_reports_failure_observeWorld :
    let upgrade : IvyUpgrade := ⟨"hippo-upgrade", 1, ⟨"hippo", 14, 15⟩, ⟨[]⟩⟩
    let names : JobNames := ⟨"hippo-pgupgrade", "removedata", "replica-create"⟩
    let observed : Except Error World := .error ⟨false, "connection refused"⟩
    ((∃ w ∈ (reconcile names (fun _ => none) 1 none upgrade observed).writes, Failing w.2) ∨
      ((none : Option Error) = none ∧
        succeededReason upgrade.status.conditions ≠ some "IvyUpgradeSucceeded" ∧
        upgrade.spec.fromIvoryVersion < upgrade.spec.toIvoryVersion ∧
        ∃ err, observed = .error err)) ∧
    ((reconcile names (fun _ => none) 1 none upgrade observed).err ≠ none ∨
      (reconcile names (fun _ => none) 1 none upgrade observed).result.requeue = true) := by
  intro upgrade names observed
  have hfailure : (∃ w ∈ (reconcile names (fun _ => none) 1 none upgrade observed).writes,
      Failing w.2) ∨ ((none : Option Error) = none ∧
        succeededReason upgrade.status.conditions ≠ some "IvyUpgradeSucceeded" ∧
        upgrade.spec.fromIvoryVersion < upgrade.spec.toIvoryVersion ∧
        ∃ err, observed = .error err) :=
    .inr ⟨rfl, by decide, by decide, _, rfl⟩
  exact ⟨hfailure, reconcile_reports_failure names _ 1 none upgrade observed hfailure⟩

/-- A second pass over the status a pass left, on the same world, leaves that status exactly as
it is, transition times included, and does not patch it, whatever the API server answers, the
clock reads or `Get` returns. -/
theorem reconcile_idempotent (upgrade : IvyUpgrade) (observed : Except Error World)
    (client' : Client) (now' : Nat) (fetched' : Option Error) :
    let status := (reconcile names client now none upgrade observed).conditions
    let second := reconcile names client' now' fetched' { upgrade with status := ⟨status⟩ } observed
    second.conditions = status ∧ ∀ w ∈ second.writes, ∀ s, w.1 ≠ .patchIvyUpgradeStatus s := by
  intro status second
  have hgates : gates names { upgrade with status := ⟨status⟩ } observed =
      gates names upgrade observed := rfl
  have happly : ∀ conditions, (gates names upgrade observed).apply now'
      { upgrade with status := ⟨status⟩ } conditions =
        (gates names upgrade observed).apply now' upgrade conditions := fun _ => rfl
  have hconditions : second.conditions = status := by
    simp only [second, reconcile_conditions, hgates, happly]
    by_cases hs : succeededReason upgrade.status.conditions = some "IvyUpgradeSucceeded"
    · have hstatus : status = upgrade.status.conditions := by
        simp [status, reconcile_conditions, hs]
      rw [if_neg fun h => h.2 (hstatus ▸ hs)]
    · have hstatus : status =
          (gates names upgrade observed).apply now upgrade upgrade.status.conditions := by
        simp [status, reconcile_conditions, hs]
      split
      · rw [hstatus]
        exact Decision.apply_idem now upgrade
          ((verdict names upgrade observed).decision_wellFormed upgrade) now' _
      · rfl
  refine ⟨hconditions, ?_⟩
  cases fetched' with
  | some err => exact fun w hw => absurd hw (List.not_mem_nil _)
  | none =>
      intro w hw s hs
      have hbody : status =
          (reconcileBody names client' now' { upgrade with status := ⟨status⟩ } observed).conditions := by
        simpa [second, reconcile] using hconditions.symm
      simp only [second, reconcile] at hw
      rw [patchStatusOnExit_of_eq client' hbody] at hw
      obtain ⟨-, world, -, -, hallowed⟩ := reconcileBody_write_admitted names client' now' _ observed hw
      rw [hs] at hallowed
      exact hallowed

end

end IvoryOperator.Upgrade