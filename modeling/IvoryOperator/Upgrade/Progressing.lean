import IvoryOperator.Upgrade.Gates

/-!
# The Progressing condition across a pass

`setStatusToProgressingIfReasonWas` fires when `Progressing` is absent or carries the reason it
is called with, and then writes reason `IvyUpgradeProgressing`, which no call names. So in a run
of resets with distinct reasons at most one fires (`resets_of_fires`, `resets_of_not_mem`).
From this, `Decision.apply_idem` shows that carrying out a decision twice is carrying it out
once, and `progressing_after_pass` says what `Progressing` is after a pass: the gate's reason
when a gate stopped it, and past every gate `IvyUpgradeProgressing` only when a reset fired.
A reset followed by a blocking gate flips the condition twice within one pass, and
`progressing_transition_time` says that this is the only way a pass stamps a new transition
time without changing the status.
-/

namespace IvoryOperator.Upgrade

open IvoryOperator.Meta

/-- The `Progressing` condition of a status. -/
def progressing (conditions : List Condition) : Option Condition :=
  findStatusCondition conditions ConditionIvyUpgradeProgressing

/-- Some reset of the run finds `Progressing` absent or carrying its reason. -/
def Fires (reasons : List String) (conditions : List Condition) : Prop :=
  reasons ≠ [] ∧ ∀ p, progressing conditions = some p → p.reason ∈ reasons

section

variable (now : Nat) (upgrade : IvyUpgrade)

/-- When `Progressing` is absent or has the reason, the reset writes `Progressing=True`. -/
theorem setStatusToProgressingIfReasonWas_of_match {reason : String}
    {conditions : List Condition} (h : ∀ p, progressing conditions = some p → p.reason = reason) :
    setStatusToProgressingIfReasonWas now reason upgrade conditions =
      setStatusCondition now (progressingCondition upgrade) conditions := by
  unfold setStatusToProgressingIfReasonWas
  split
  · rfl
  · next p hp => rw [if_pos (h p hp)]

/-- When `Progressing` has another reason, the reset changes nothing. -/
theorem setStatusToProgressingIfReasonWas_of_ne {reason : String} {conditions : List Condition}
    {p : Condition} (hp : progressing conditions = some p) (hne : p.reason ≠ reason) :
    setStatusToProgressingIfReasonWas now reason upgrade conditions = conditions := by
  unfold setStatusToProgressingIfReasonWas
  rw [show findStatusCondition conditions ConditionIvyUpgradeProgressing = some p from hp]
  exact if_neg hne

/-- A run of resets none of which names the current reason changes nothing. -/
theorem resets_of_not_mem {reasons : List String} {conditions : List Condition} {p : Condition}
    (hp : progressing conditions = some p) (hnot : p.reason ∉ reasons) :
    reasons.foldl (fun cs r => setStatusToProgressingIfReasonWas now r upgrade cs) conditions =
      conditions := by
  induction reasons with
  | nil => rfl
  | cons r rest ih =>
      rw [List.foldl_cons, setStatusToProgressingIfReasonWas_of_ne now upgrade hp
        (fun h => hnot (h ▸ List.mem_cons_self _ _))]
      exact ih (fun h => hnot (List.mem_cons_of_mem _ h))

/-- After a reset fired, `Progressing` agrees with the condition it writes. -/
theorem progressing_setStatusCondition_progressing (conditions : List Condition) :
    ∃ q, progressing (setStatusCondition now (progressingCondition upgrade) conditions) = some q ∧
      Agrees (progressingCondition upgrade) q :=
  findStatusCondition_setStatusCondition_agrees now _ conditions

/-- A run of resets in which one fires writes `Progressing=True` once: every later reset finds
reason `IvyUpgradeProgressing`, which it does not name. -/
theorem resets_of_fires {reasons : List String} (hnot : "IvyUpgradeProgressing" ∉ reasons)
    {conditions : List Condition} (hfires : Fires reasons conditions) :
    reasons.foldl (fun cs r => setStatusToProgressingIfReasonWas now r upgrade cs) conditions =
      setStatusCondition now (progressingCondition upgrade) conditions := by
  induction reasons with
  | nil => exact absurd rfl hfires.1
  | cons r rest ih =>
      rw [List.foldl_cons]
      by_cases hr : ∀ p, progressing conditions = some p → p.reason = r
      · rw [setStatusToProgressingIfReasonWas_of_match now upgrade hr]
        obtain ⟨q, hq, hagrees⟩ := progressing_setStatusCondition_progressing now upgrade conditions
        exact resets_of_not_mem now upgrade hq
          (by rw [hagrees.2.1]; exact fun h => hnot (List.mem_cons_of_mem _ h))
      · push_neg at hr
        obtain ⟨p, hp, hne⟩ := hr
        have hrest : p.reason ∈ rest := (List.mem_cons.mp (hfires.2 p hp)).resolve_left hne
        rw [setStatusToProgressingIfReasonWas_of_ne now upgrade hp hne]
        refine ih (fun h => hnot (List.mem_cons_of_mem _ h))
          ⟨List.ne_nil_of_mem hrest, fun p' hp' => ?_⟩
        rw [hp] at hp'
        exact Option.some.inj hp' ▸ hrest

/-- A run of resets leaves every type other than `Progressing` where it was. -/
theorem findStatusCondition_resets_ne {t : String} (ht : ConditionIvyUpgradeProgressing ≠ t)
    (reasons : List String) (conditions : List Condition) :
    findStatusCondition
        (reasons.foldl (fun cs r => setStatusToProgressingIfReasonWas now r upgrade cs) conditions) t =
      findStatusCondition conditions t := by
  induction reasons generalizing conditions with
  | nil => rfl
  | cons r rest ih =>
      rw [List.foldl_cons, ih]
      unfold setStatusToProgressingIfReasonWas
      split
      · exact findStatusCondition_setStatusCondition_ne now _ _ ht
      · split
        exacts [findStatusCondition_setStatusCondition_ne now _ _ ht, rfl]

/-- Writing a `Progressing` condition updates the one found in place. -/
theorem progressing_setStatusCondition {c : Condition} (hc : c.type = ConditionIvyUpgradeProgressing)
    {conditions : List Condition} {before : Condition}
    (hbefore : progressing conditions = some before) :
    progressing (setStatusCondition now c conditions) = some (updated now c before) := by
  unfold progressing at *
  rw [← hc, findStatusCondition_setStatusCondition_self, hc, hbefore]
  rfl

/-- After a run of resets, `Progressing` is the condition found before, updated to `True` when
its reason is one the run names. -/
theorem progressing_resets {reasons : List String} (hnot : "IvyUpgradeProgressing" ∉ reasons)
    {conditions : List Condition} {before : Condition}
    (hbefore : progressing conditions = some before) :
    progressing
        (reasons.foldl (fun cs r => setStatusToProgressingIfReasonWas now r upgrade cs) conditions) =
      some (if before.reason ∈ reasons then updated now (progressingCondition upgrade) before
        else before) := by
  split
  · next hmem =>
      have hfires : Fires reasons conditions :=
        ⟨List.ne_nil_of_mem hmem, fun p hp => Option.some.inj (hbefore ▸ hp) ▸ hmem⟩
      rw [resets_of_fires now upgrade hnot hfires]
      exact progressing_setStatusCondition now rfl hbefore
  · next hmem => rw [resets_of_not_mem now upgrade hbefore hmem, hbefore]

/-- After a well-formed decision, `Progressing` carries a reason that none of its resets
names. -/
theorem Decision.progressing_apply_not_mem {decision : Decision} (hd : decision.WellFormed)
    (conditions : List Condition) :
    ∃ p, progressing (decision.apply now upgrade conditions) = some p ∧
      p.reason ∉ decision.resets := by
  unfold Decision.apply
  by_cases hw : ∃ w ∈ decision.written, w.type = ConditionIvyUpgradeProgressing
  · obtain ⟨w, hw, htype⟩ := hw
    obtain ⟨q, hq, hagrees⟩ := findStatusCondition_foldl_agrees now hd.types_distinct _ w hw
    refine ⟨q, ?_, hagrees.2.1 ▸ hd.reason_not_mem w hw htype⟩
    unfold progressing
    rw [← htype]
    exact hq
  · push_neg at hw
    unfold progressing
    rw [findStatusCondition_foldl_of_forall_ne now hw]
    by_cases hf : Fires decision.resets conditions
    · rw [resets_of_fires now upgrade hd.progressing_not_mem hf]
      obtain ⟨q, hq, hagrees⟩ := progressing_setStatusCondition_progressing now upgrade conditions
      exact ⟨q, hq, hagrees.2.1 ▸ hd.progressing_not_mem⟩
    · obtain ⟨p, hp, hnot⟩ : ∃ p, progressing conditions = some p ∧ p.reason ∉ decision.resets := by
        by_contra hne
        push_neg at hne
        exact hf ⟨hd.resets_ne_nil, hne⟩
      rw [resets_of_not_mem now upgrade hp hnot]
      exact ⟨p, hp, hnot⟩

/-- Carrying out a well-formed decision a second time, at any clock reading, changes nothing:
no reset fires again and every written condition is already in place. -/
theorem Decision.apply_idem {decision : Decision} (hd : decision.WellFormed) (now' : Nat)
    (conditions : List Condition) :
    decision.apply now' upgrade (decision.apply now upgrade conditions) =
      decision.apply now upgrade conditions := by
  obtain ⟨p, hp, hnot⟩ := decision.progressing_apply_not_mem now upgrade hd conditions
  show decision.written.foldl _ (decision.resets.foldl _ (decision.apply now upgrade conditions)) = _
  rw [resets_of_not_mem now' upgrade hp hnot]
  exact foldl_setStatusCondition_idem now now' hd.types_distinct _

end

section

variable (names : JobNames) (client : Client) (now : Nat)

/-- `Progressing` after a pass that did not return early. When a gate stopped the pass, it is
`False` with that gate's reason and the pass's generation. Past every gate, it is `True` with
reason `IvyUpgradeProgressing` and the pass's generation when a reset fired, that is when it
was absent or carried a reason some reset names; when it already carried
`IvyUpgradeProgressing`, the pass leaves it as it was. -/
theorem progressing_after_pass (upgrade : IvyUpgrade) (observed : Except Error World)
    (hearly : succeededReason upgrade.status.conditions ≠ some "IvyUpgradeSucceeded") :
    let after := progressing (reconcile names client now none upgrade observed).conditions
    (∀ reason, (verdict names upgrade observed).gateReason = some reason →
      ∃ p, after = some p ∧ p.status = .conditionFalse ∧ p.reason = reason ∧
        p.observedGeneration = upgrade.generation) ∧
    ((verdict names upgrade observed).gateReason = none →
      (Fires resetReasons upgrade.status.conditions →
        ∃ p, after = some p ∧ p.status = .conditionTrue ∧ p.reason = "IvyUpgradeProgressing" ∧
          p.observedGeneration = upgrade.generation) ∧
      (∀ p, progressing upgrade.status.conditions = some p →
        p.reason = "IvyUpgradeProgressing" → after = some p)) := by
  simp only [reconcile_conditions, ne_eq, hearly, not_false_eq_true, and_self, ↓reduceIte, gates]
  have hd := (verdict names upgrade observed).decision_wellFormed upgrade
  refine ⟨fun reason hr => ?_, fun hr => ?_⟩
  · obtain ⟨message, hmem⟩ := Verdict.blocked_mem_written upgrade hr
    obtain ⟨q, hq, hagrees⟩ :=
      findStatusCondition_foldl_agrees now hd.types_distinct _ _ hmem
    exact ⟨q, hq, hagrees.1, hagrees.2.1, hagrees.2.2.2⟩
  · obtain ⟨hresets, hwritten⟩ := Verdict.decision_of_gateReason_none upgrade hr
    unfold Decision.apply progressing
    rw [findStatusCondition_foldl_of_forall_ne now hwritten, hresets]
    refine ⟨fun hf => ?_, fun p hp hreason => ?_⟩
    · rw [resets_of_fires now upgrade (by decide) hf]
      obtain ⟨q, hq, hagrees⟩ :=
        progressing_setStatusCondition_progressing now upgrade upgrade.status.conditions
      exact ⟨q, hq, hagrees.1, hagrees.2.1, hagrees.2.2.2⟩
    · rw [resets_of_not_mem now upgrade hp (by rw [hreason]; decide)]
      exact hp

/-- A pass over an invalid upgrade with no status. -/
theorem progressing_after_pass_invalid :
    let names : JobNames := ⟨"hippo-pgupgrade", "removedata", "replica-create"⟩
    let upgrade : IvyUpgrade := ⟨"hippo-upgrade", 1, ⟨"hippo", 15, 14⟩, ⟨[]⟩⟩
    let observed : Except Error World := .error ⟨false, "unused"⟩
    succeededReason upgrade.status.conditions ≠ some "IvyUpgradeSucceeded" ∧
    let after := progressing (reconcile names (fun _ => none) 1 none upgrade observed).conditions
    (∀ reason, (verdict names upgrade observed).gateReason = some reason →
      ∃ p, after = some p ∧ p.status = .conditionFalse ∧ p.reason = reason ∧
        p.observedGeneration = upgrade.generation) ∧
    ((verdict names upgrade observed).gateReason = none →
      (Fires resetReasons upgrade.status.conditions →
        ∃ p, after = some p ∧ p.status = .conditionTrue ∧ p.reason = "IvyUpgradeProgressing" ∧
          p.observedGeneration = upgrade.generation) ∧
      (∀ p, progressing upgrade.status.conditions = some p →
        p.reason = "IvyUpgradeProgressing" → after = some p)) := by
  intro names upgrade observed
  have hearly : succeededReason upgrade.status.conditions ≠ some "IvyUpgradeSucceeded" := by
    decide
  exact ⟨hearly, progressing_after_pass names (fun _ => none) 1 upgrade observed hearly⟩

/-- A pass stamps a new transition time on `Progressing` only when it changes its status, or when
a reset turned a `False` condition `True` and a gate then turned it `False` again. -/
theorem progressing_transition_time (fetched : Option Error) (upgrade : IvyUpgrade)
    (observed : Except Error World) {before after : Condition}
    (hbefore : progressing upgrade.status.conditions = some before)
    (hafter : progressing (reconcile names client now fetched upgrade observed).conditions =
      some after)
    (htime : after.lastTransitionTime ≠ before.lastTransitionTime) :
    after.status ≠ before.status ∨
      (before.status = .conditionFalse ∧ after.status = .conditionFalse ∧
        before.reason ∈ (gates names upgrade observed).resets ∧
        (verdict names upgrade observed).gateReason ≠ none) := by
  rw [reconcile_conditions] at hafter
  split at hafter
  swap
  · exact absurd (Option.some.inj (hbefore.symm.trans hafter) ▸ rfl) htime
  unfold gates Decision.apply at *
  have hd := (verdict names upgrade observed).decision_wellFormed upgrade
  have hresets := progressing_resets now upgrade hd.progressing_not_mem hbefore
  cases hgate : (verdict names upgrade observed).gateReason with
  | none =>
      obtain ⟨-, hwritten⟩ := Verdict.decision_of_gateReason_none upgrade hgate
      rw [progressing, findStatusCondition_foldl_of_forall_ne now hwritten, ← progressing,
        hresets] at hafter
      split at hafter <;> cases hafter
      · exact .inl (updated_status_ne_of_lastTransitionTime_ne htime).symm
      · exact absurd rfl htime
  | some reason =>
      obtain ⟨message, extra, hw, hextra⟩ := Verdict.written_of_gateReason upgrade hgate
      rw [hw, List.foldl_cons, progressing, findStatusCondition_foldl_of_forall_ne now hextra,
        ← progressing, progressing_setStatusCondition now rfl hresets] at hafter
      cases hafter
      split at htime
      · next hmem =>
          by_cases hfalse : before.status = .conditionFalse
          · exact .inr ⟨hfalse, rfl, hmem, Option.some_ne_none _⟩
          · exact .inl (Ne.symm hfalse)
      · exact .inl (updated_status_ne_of_lastTransitionTime_ne htime).symm

/-- A pass over `Progressing=False` with reason `IvyUpgradeInvalid`, for a valid upgrade whose
`observeWorld` fails: the reset flips it and the gate flips it back. -/
theorem progressing_transition_time_reset_then_gate :
    let names : JobNames := ⟨"", "", ""⟩
    let before : Condition :=
      ⟨ConditionIvyUpgradeProgressing, .conditionFalse, 1, 1, "IvyUpgradeInvalid", ""⟩
    let after : Condition := ⟨ConditionIvyUpgradeProgressing, .conditionFalse, 1, 5,
      "PGClusterErrorWhenObservingWorld", "timeout"⟩
    let upgrade : IvyUpgrade := ⟨"upgrade", 1, ⟨"hippo", 14, 15⟩, ⟨[before]⟩⟩
    let observed : Except Error World := .error ⟨false, "timeout"⟩
    (progressing upgrade.status.conditions = some before ∧
      progressing (reconcile names (fun _ => none) 5 none upgrade observed).conditions =
        some after ∧
      after.lastTransitionTime ≠ before.lastTransitionTime) ∧
    (after.status ≠ before.status ∨
      (before.status = .conditionFalse ∧ after.status = .conditionFalse ∧
        before.reason ∈ (gates names upgrade observed).resets ∧
        (verdict names upgrade observed).gateReason ≠ none)) := by
  intro names before after upgrade observed
  have hbefore : progressing upgrade.status.conditions = some before := by decide
  have hafter : progressing (reconcile names (fun _ => none) 5 none upgrade observed).conditions =
      some after := by
    decide
  have htime : after.lastTransitionTime ≠ before.lastTransitionTime := by decide
  exact ⟨⟨hbefore, hafter, htime⟩,
    progressing_transition_time names (fun _ => none) 5 none upgrade observed hbefore hafter htime⟩

/-- A pass over a `False` condition whose reason a reset names, stopped at a later gate, stamps
a new transition time while the status stays `False`. -/
theorem progressing_reset_then_gate_restamps :
    let upgrade : IvyUpgrade := ⟨"upgrade", 1, ⟨"hippo", 14, 15⟩,
      ⟨[⟨ConditionIvyUpgradeProgressing, .conditionFalse, 1, 1, "IvyUpgradeInvalid", ""⟩]⟩⟩
    let after := progressing
      (reconcile ⟨"", "", ""⟩ (fun _ => none) 5 none upgrade (.error ⟨false, "timeout"⟩)).conditions
    after.map (·.status) = some .conditionFalse ∧ after.map (·.lastTransitionTime) = some 5 := by
  decide

end

end IvoryOperator.Upgrade
