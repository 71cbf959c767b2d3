import IvoryOperator.Upgrade.Reconcile

/-!
# The remove-data loop

`Reconcile` walks `world.Jobs` once, collecting the completed remove-data jobs and stopping at
the first one that failed without completing. `removeDataJobs_fst_eq_true_iff` says when the
loop reports a failure, and `removeDataJobs_snd_eq_filter` what it collects when it does not:
then the count it compares with `ReplicasExpected` is the number of completed remove-data jobs,
whatever the order of the map. When it does, the count depends on the jobs visited before the
`break`, and `removeDataJobs_snd_sublist` is all that can be said of it.
-/

namespace IvoryOperator.Upgrade

variable (removeData : String)

/-- A completed remove-data job, the kind the loop collects. -/
def completedRemoveData (job : Job) : Bool :=
  job.role == removeData && job.complete

/-- The loop reports a failure exactly when some remove-data job failed without completing. -/
theorem removeDataJobs_fst_eq_true_iff (jobs : List Job) :
    (removeDataJobs removeData jobs).1 = true ↔
      ∃ job ∈ jobs, job.role = removeData ∧ job.complete = false ∧ job.failed = true := by
  induction jobs with
  | nil => simp [removeDataJobs]
  | cons job jobs ih =>
      by_cases hrole : job.role = removeData <;> cases hc : job.complete <;>
        cases hf : job.failed <;> simp [removeDataJobs, hrole, hc, hf, ih]

/-- With no remove-data job failed without completing, the loop sees no failure. -/
theorem removeDataJobs_fst_eq_false {jobs : List Job}
    (h : ∀ job ∈ jobs, job.role = removeData → job.complete = false → job.failed = false) :
    (removeDataJobs removeData jobs).1 = false := by
  rw [Bool.eq_false_iff]
  intro hfailed
  obtain ⟨job, hmem, hrole, hcomplete, hjob⟩ := (removeDataJobs_fst_eq_true_iff _ _).1 hfailed
  rw [h job hmem hrole hcomplete] at hjob
  exact Bool.false_ne_true hjob

/-- The jobs the loop collects are completed remove-data jobs, in the order of the map. -/
theorem removeDataJobs_snd_sublist (jobs : List Job) :
    (removeDataJobs removeData jobs).2.Sublist (jobs.filter (completedRemoveData removeData)) := by
  induction jobs with
  | nil => exact List.Sublist.slnil
  | cons job jobs ih =>
      unfold removeDataJobs
      by_cases hrole : job.role = removeData <;> cases hc : job.complete <;>
        simp only [hrole, hc, completedRemoveData, List.filter_cons, beq_self_eq_true,
          Bool.and_true, Bool.and_false, if_true, if_false, beq_iff_eq, Bool.false_eq_true]
      · split
        · exact List.nil_sublist _
        · exact ih
      · exact ih.cons₂ job
      · exact ih
      · exact ih

/-- When no remove-data job failed without completing, the loop collects every completed
remove-data job. -/
theorem removeDataJobs_snd_eq_filter {jobs : List Job}
    (h : (removeDataJobs removeData jobs).1 = false) :
    (removeDataJobs removeData jobs).2 = jobs.filter (completedRemoveData removeData) := by
  induction jobs with
  | nil => rfl
  | cons job jobs ih =>
      unfold removeDataJobs at h ⊢
      by_cases hrole : job.role = removeData <;> cases hc : job.complete <;>
        cases hf : job.failed <;>
        simp_all [completedRemoveData]

end IvoryOperator.Upgrade
