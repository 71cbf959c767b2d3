import IvoryOperator.Upgrade.Writes

/-!
# Runs of the upgrade controller

Between passes the controller remembers nothing but the status stored on the API server. A pass
reads it with `Get`, and changes it only through the deferred patch, when the server accepts
it. `run` threads the stored conditions through a sequence of passes, each with its own world,
answers, clock, generation and spec. `SucceededSound` (a `Succeeded=True` condition carries
reason `IvyUpgradeSucceeded`, the reason the early return tests) holds of every stored status
of every run (`run_succeededSound`), and so `succeeded_final`: once `Succeeded=True` is stored,
every later pass returns early, writes nothing, and the stored status stays as it is.
`progressing_generation_stale` is a run in which `Progressing` keeps the generation of an
earlier pass.
-/

namespace IvoryOperator.Upgrade

open IvoryOperator.Meta

/-- What one pass sees: the job names, the server's answers to its writes, the clock, the
result of `Get`, the generation and spec of the stored upgrade, and the snapshot
`observeWorld` returns. -/
structure Event where
  names : JobNames
  client : Client
  now : Nat
  fetched : Option Error
  generation : Int
  spec : IvyUpgradeSpec
  observed : Except Error World

/-- The upgrade `Get` returns in a pass: the stored status under the pass's generation and
spec. -/
def Event.upgrade (event : Event) (name : String) (conditions : List Condition) : IvyUpgrade :=
  ⟨name, event.generation, event.spec, ⟨conditions⟩⟩

/-- The pass of `Reconcile` an event stands for, over the stored conditions. -/
def Event.pass (event : Event) (name : String) (conditions : List Condition) : Pass :=
  reconcile event.names event.client event.now event.fetched (event.upgrade name conditions)
    event.observed

/-- The stored conditions after one write: a status patch the server accepted replaces them. -/
def storeWrite (conditions : List Condition) : Call × Option Error → List Condition
  | (.patchIvyUpgradeStatus status, none) => status.conditions
  | _ => conditions

/-- One pass of the controller: the conditions stored after it. -/
def step (name : String) (conditions : List Condition) (event : Event) : List Condition :=
  (event.pass name conditions).writes.foldl storeWrite conditions

/-- The conditions stored after a sequence of passes. -/
def run (name : String) (conditions : List Condition) (events : List Event) : List Condition :=
  events.foldl (step name) conditions

/-- A `Succeeded=True` condition carries reason `IvyUpgradeSucceeded`. -/
def SucceededSound (conditions : List Condition) : Prop :=
  ∀ c, findStatusCondition conditions ConditionIvyUpgradeSucceeded = some c →
    c.status = .conditionTrue → c.reason = "IvyUpgradeSucceeded"

/-- A condition that keeps `SucceededSound` when written. -/
def SucceededSoundWrite (c : Condition) : Prop :=
  c.type = ConditionIvyUpgradeSucceeded → c.status = .conditionTrue →
    c.reason = "IvyUpgradeSucceeded"

/-- Stored conditions are replaced only by what a status patch sent. -/
theorem foldl_storeWrite {target : List Condition} {writes : List (Call × Option Error)}
    (h : ∀ w ∈ writes, ∀ status, w.1 = .patchIvyUpgradeStatus status →
      status.conditions = target) (conditions : List Condition) :
    writes.foldl storeWrite conditions = conditions ∨
      writes.foldl storeWrite conditions = target := by
  induction writes generalizing conditions with
  | nil => exact .inl rfl
  | cons w writes ih =>
      have hw : storeWrite conditions w = conditions ∨ storeWrite conditions w = target := by
        rcases w with ⟨call, answer⟩
        cases call <;> cases answer <;> simp only [storeWrite, true_or]
        exact .inr (h _ (List.mem_cons_self _ _) _ rfl)
      rcases ih (fun w' hw' => h w' (List.mem_cons_of_mem _ hw')) (storeWrite conditions w)
        with hrest | hrest
      · rw [List.foldl_cons, hrest]
        exact hw
      · exact .inr hrest

section

variable (now : Nat)

/-- Writing a sound condition keeps the conditions sound. -/
theorem succeededSound_setStatusCondition {conditions : List Condition} {c : Condition}
    (h : SucceededSound conditions) (hc : SucceededSoundWrite c) :
    SucceededSound (setStatusCondition now c conditions) := by
  intro d hd hstatus
  rw [findStatusCondition_setStatusCondition] at hd
  split at hd
  · cases hfind : findStatusCondition conditions ConditionIvyUpgradeSucceeded <;>
      simp only [hfind, Option.map_none', Option.map_some', Option.getD_none, Option.getD_some,
        Option.some.injEq] at hd <;>
      subst hd <;> simp only [fresh_status, fresh_reason, updated_status, updated_reason] at hstatus ⊢ <;>
      exact hc ‹_› hstatus
  · exact h d hd hstatus

/-- A reset of `Progressing` keeps the conditions sound. -/
theorem succeededSound_setStatusToProgressingIfReasonWas {conditions : List Condition}
    (h : SucceededSound conditions) (reason : String) (upgrade : IvyUpgrade) :
    SucceededSound (setStatusToProgressingIfReasonWas now reason upgrade conditions) := by
  have hwrite : SucceededSoundWrite (progressingCondition upgrade) := fun h =>
    absurd h (show ConditionIvyUpgradeProgressing ≠ ConditionIvyUpgradeSucceeded by decide)
  unfold setStatusToProgressingIfReasonWas
  split
  · exact succeededSound_setStatusCondition now h hwrite
  · split
    exacts [succeededSound_setStatusCondition now h hwrite, h]

/-- The only `Succeeded` condition written `True` is the one with reason `IvyUpgradeSucceeded`. -/
theorem Verdict.written_succeededSoundWrite (upgrade : IvyUpgrade) (verdict : Verdict) :
    ∀ c ∈ (verdict.decision upgrade).written, SucceededSoundWrite c := by
  cases verdict with
  | completed succeeded =>
      cases succeeded <;>
        simp [Verdict.decision, SucceededSoundWrite, blockedCondition, succeededCondition,
          ConditionIvyUpgradeProgressing, ConditionIvyUpgradeSucceeded]
  | _ =>
      simp [Verdict.decision, SucceededSoundWrite, blockedCondition, failedCondition,
        ConditionIvyUpgradeProgressing, ConditionIvyUpgradeSucceeded]

/-- Every decision keeps the conditions sound. -/
theorem succeededSound_apply (upgrade : IvyUpgrade) (verdict : Verdict)
    {conditions : List Condition} (h : SucceededSound conditions) :
    SucceededSound ((verdict.decision upgrade).apply now upgrade conditions) := by
  unfold Decision.apply
  have hresets : ∀ (reasons : List String) (conditions : List Condition),
      SucceededSound conditions → SucceededSound (reasons.foldl
        (fun cs r => setStatusToProgressingIfReasonWas now r upgrade cs) conditions) := by
    intro reasons
    induction reasons with
    | nil => exact fun _ h => h
    | cons r rest ih =>
        exact fun _ h => ih _ (succeededSound_setStatusToProgressingIfReasonWas now h r upgrade)
  have hwritten : ∀ (written : List Condition) (conditions : List Condition),
      (∀ c ∈ written, SucceededSoundWrite c) → SucceededSound conditions →
        SucceededSound (written.foldl (fun cs c => setStatusCondition now c cs) conditions) := by
    intro written
    induction written with
    | nil => exact fun _ _ h => h
    | cons c rest ih =>
        exact fun _ hw h => ih _ (fun d hd => hw d (List.mem_cons_of_mem _ hd))
          (succeededSound_setStatusCondition now h (hw c (List.mem_cons_self _ _)))
  exact hwritten _ _ (verdict.written_succeededSoundWrite upgrade) (hresets _ _ h)

end

section

variable (names : JobNames) (client : Client) (now : Nat)

/-- A pass keeps the upgrade's conditions sound. -/
theorem reconcile_succeededSound (fetched : Option Error) (upgrade : IvyUpgrade)
    (observed : Except Error World) (h : SucceededSound upgrade.status.conditions) :
    SucceededSound (reconcile names client now fetched upgrade observed).conditions := by
  rw [reconcile_conditions]
  split
  exacts [succeededSound_apply now upgrade _ h, h]

/-- Every status patch of a pass sends the conditions the pass ends with. -/
theorem reconcile_statusPatch (fetched : Option Error) (upgrade : IvyUpgrade)
    (observed : Except Error World) :
    ∀ w ∈ (reconcile names client now fetched upgrade observed).writes, ∀ status,
      w.1 = .patchIvyUpgradeStatus status →
        status.conditions = (reconcile names client now fetched upgrade observed).conditions := by
  intro w hw status hstatus
  cases fetched with
  | some err => exact absurd hw (List.not_mem_nil _)
  | none =>
      rcases mem_patchStatusOnExit_writes client hw with hw | hpatch
      · obtain ⟨-, world, -, -, hallowed⟩ :=
          reconcileBody_write_admitted names client now upgrade observed hw
        rw [hstatus] at hallowed
        exact hallowed.elim
      · rw [hstatus] at hpatch
        cases hpatch
        exact (patchStatusOnExit_conditions client _ _).symm

/-- A pass over a status whose `Succeeded` condition carries `IvyUpgradeSucceeded` returns
early: it writes nothing and leaves the conditions as they were. -/
theorem reconcile_of_succeeded (fetched : Option Error) (upgrade : IvyUpgrade)
    (observed : Except Error World)
    (h : succeededReason upgrade.status.conditions = some "IvyUpgradeSucceeded") :
    (reconcile names client now fetched upgrade observed).conditions =
        upgrade.status.conditions ∧
      (reconcile names client now fetched upgrade observed).writes = [] := by
  cases fetched with
  | some err => exact ⟨rfl, rfl⟩
  | none =>
      have hbody : reconcileBody names client now upgrade observed =
          .returned upgrade.status.conditions := by
        rw [reconcileBody_eq, if_pos h]
      simp only [reconcile, hbody]
      rw [patchStatusOnExit_of_eq client (Pass.returned_conditions _).symm]
      exact ⟨rfl, rfl⟩

end

/-- Storing the writes of one pass keeps the stored conditions sound. -/
theorem step_succeededSound (name : String) {conditions : List Condition}
    (h : SucceededSound conditions) (event : Event) : SucceededSound (step name conditions event) := by
  rcases foldl_storeWrite (reconcile_statusPatch event.names event.client event.now event.fetched
    (event.upgrade name conditions) event.observed) conditions with hstored | hstored
  · rw [step, Event.pass, hstored]
    exact h
  · rw [step, Event.pass, hstored]
    exact reconcile_succeededSound _ _ _ _ _ _ h

/-- Every status a run stores from a sound one is sound. -/
theorem run_succeededSound (name : String) (events : List Event) {conditions : List Condition}
    (h : SucceededSound conditions) : SucceededSound (run name conditions events) := by
  induction events generalizing conditions with
  | nil => exact h
  | cons event events ih => exact ih (step_succeededSound name h event)

/-- A run of two lists of events is the second run from where the first ends. -/
theorem run_append (name : String) (conditions : List Condition) (first second : List Event) :
    run name conditions (first ++ second) = run name (run name conditions first) second :=
  List.foldl_append _ _ _ _

/-- A status no pass changes is the status of every run from it. -/
theorem run_of_step_eq (name : String) {conditions : List Condition}
    (h : ∀ event, step name conditions event = conditions) (events : List Event) :
    run name conditions events = conditions := by
  induction events with
  | nil => rfl
  | cons event events ih => rw [run, List.foldl_cons, h]; exact ih

/-- A status with no condition is sound. -/
theorem succeededSound_nil : SucceededSound [] := fun _ h => absurd h (by simp)

/-- Once a run from an empty status has stored `Succeeded=True`, every later pass leaves the
status as it is and issues no write, so the stored status never changes again. -/
theorem succeeded_final (name : String) (pre post : List Event)
    (hsucceeded : ∃ c, findStatusCondition (run name [] pre) ConditionIvyUpgradeSucceeded = some c ∧
      c.status = .conditionTrue) :
    run name [] (pre ++ post) = run name [] pre ∧
      ∀ event ∈ post, (event.pass name (run name [] pre)).conditions = run name [] pre ∧
        (event.pass name (run name [] pre)).writes = [] := by
  obtain ⟨c, hc, htrue⟩ := hsucceeded
  have hreason : succeededReason (run name [] pre) = some "IvyUpgradeSucceeded" := by
    rw [succeededReason, hc]
    exact congrArg some (run_succeededSound name pre succeededSound_nil c hc htrue)
  have hpass : ∀ event : Event, (event.pass name (run name [] pre)).conditions = run name [] pre ∧
      (event.pass name (run name [] pre)).writes = [] := fun event =>
    reconcile_of_succeeded _ _ _ _ (event.upgrade name _) _ hreason
  refine ⟨?_, fun event _ => hpass event⟩
  rw [run_append]
  exact run_of_step_eq name (fun event => by rw [step, (hpass event).2, List.foldl_nil]) post

/-- A run whose pass finds the upgrade job completed and the cluster's status at the new version
stores `Succeeded=True`, and a second pass leaves it. -/
theorem succeeded_final_after_completion :
    let names : JobNames := ⟨"hippo-pgupgrade", "removedata", "replica-create"⟩
    let upgradeJob : Job := ⟨"hippo-pgupgrade", "uid-1", "1", "pgupgrade", "", true, false⟩
    let world : World := ⟨⟨[(AnnotationAllowUpgrade, "hippo-upgrade")], 15, ⟨15, []⟩⟩, none,
      ⟨[upgradeJob], List.nodup_cons.mpr ⟨List.not_mem_nil _, List.nodup_nil⟩⟩, true, some "hippo-instance1", [], [], 0⟩
    let event : Event := ⟨names, fun _ => none, 1, none, 1, ⟨"hippo", 14, 15⟩, .ok world⟩
    (∃ c, findStatusCondition (run "hippo-upgrade" [] [event]) ConditionIvyUpgradeSucceeded =
      some c ∧ c.status = .conditionTrue) ∧
    (run "hippo-upgrade" [] ([event] ++ [event]) = run "hippo-upgrade" [] [event] ∧
      ∀ e ∈ [event], (e.pass "hippo-upgrade" (run "hippo-upgrade" [] [event])).conditions =
        run "hippo-upgrade" [] [event] ∧
        (e.pass "hippo-upgrade" (run "hippo-upgrade" [] [event])).writes = []) := by
  intro names upgradeJob world event
  have hsucceeded : ∃ c, findStatusCondition (run "hippo-upgrade" [] [event])
      ConditionIvyUpgradeSucceeded = some c ∧ c.status = .conditionTrue :=
    Option.map_eq_some'.mp (by decide)
  exact ⟨hsucceeded, succeeded_final "hippo-upgrade" [event] [event] hsucceeded⟩

/-- Two passes past every gate, the second at a new generation, leave `Progressing=True` with
the first pass's generation, although the second pass did not return early: the reset that
would refresh it does not fire on reason `IvyUpgradeProgressing`. -/
theorem progressing_generation_stale :
    let names : JobNames := ⟨"hippo-pgupgrade", "removedata", "replica-create"⟩
    let world : World := ⟨⟨[(AnnotationAllowUpgrade, "hippo-upgrade")], 14, ⟨14, []⟩⟩, none,
      ⟨[], List.nodup_nil⟩, true, some "hippo-instance1", [], [], 0⟩
    let event (generation : Int) : Event :=
      ⟨names, fun _ => none, 1, none, generation, ⟨"hippo", 14, 15⟩, .ok world⟩
    succeededReason (run "hippo-upgrade" [] [event 1]) = none ∧
      (progressing (run "hippo-upgrade" [] [event 1, event 2])).map
          (fun p => (p.status, p.reason, p.observedGeneration)) =
        some (.conditionTrue, "IvyUpgradeProgressing", 1) := by
  decide

end IvoryOperator.Upgrade
