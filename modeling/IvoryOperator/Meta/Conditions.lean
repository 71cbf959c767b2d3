import Mathlib.Tactic.Common

/-!
# Status conditions

The two functions of `k8s.io/apimachinery/pkg/api/meta` through which the controllers read and
write the `metav1.Condition` list of a status. `FindStatusCondition` returns the first condition
of a type. `SetStatusCondition` updates that condition in place, or appends the new one when the
type is absent, and stamps a new `LastTransitionTime` only when the status changes. The lemmas
say which condition `findStatusCondition` returns after a write, for the written type and for
every other type, and that writing what is already there leaves the list as it was.
-/

namespace IvoryOperator.Meta

/-- `metav1.ConditionStatus`. -/
inductive ConditionStatus where
  | conditionTrue
  | conditionFalse
  | conditionUnknown
  deriving DecidableEq, Repr

/-- A `metav1.Condition`. Times are readings of the controller's clock; `0` is the zero
`metav1.Time` that a condition literal leaves unset. -/
structure Condition where
  type : String
  status : ConditionStatus
  observedGeneration : Int
  lastTransitionTime : Nat
  reason : String
  message : String
  deriving DecidableEq, Repr

/-- `meta.FindStatusCondition`: the first condition of the given type. -/
def findStatusCondition (conditions : List Condition) (conditionType : String) :
    Option Condition :=
  conditions.find? (·.type == conditionType)

/-- The transition time `SetStatusCondition` records: the new condition's own, or the clock
reading when that is zero. -/
def stampTime (now : Nat) (newCondition : Condition) : Nat :=
  if newCondition.lastTransitionTime = 0 then now else newCondition.lastTransitionTime

/-- The condition `SetStatusCondition` appends when its type is absent. -/
def fresh (now : Nat) (newCondition : Condition) : Condition :=
  { newCondition with lastTransitionTime := stampTime now newCondition }

/-- The condition `SetStatusCondition` leaves in place of `existing`: the new status, reason,
message and generation, and a new transition time only if the status changed. -/
def updated (now : Nat) (newCondition existing : Condition) : Condition :=
  { existing with
    status := newCondition.status
    lastTransitionTime :=
      if existing.status ≠ newCondition.status then stampTime now newCondition
      else existing.lastTransitionTime
    reason := newCondition.reason
    message := newCondition.message
    observedGeneration := newCondition.observedGeneration }

/-- `meta.SetStatusCondition` at clock reading `now`. -/
def setStatusCondition (now : Nat) (newCondition : Condition) :
    List Condition → List Condition
  | [] => [fresh now newCondition]
  | existing :: rest =>
      if existing.type = newCondition.type then updated now newCondition existing :: rest
      else existing :: setStatusCondition now newCondition rest

@[simp] theorem fresh_type (now : Nat) (c : Condition) : (fresh now c).type = c.type := rfl
@[simp] theorem fresh_status (now : Nat) (c : Condition) : (fresh now c).status = c.status := rfl
@[simp] theorem fresh_reason (now : Nat) (c : Condition) : (fresh now c).reason = c.reason := rfl
@[simp] theorem fresh_message (now : Nat) (c : Condition) :
    (fresh now c).message = c.message := rfl
@[simp] theorem fresh_observedGeneration (now : Nat) (c : Condition) :
    (fresh now c).observedGeneration = c.observedGeneration := rfl
@[simp] theorem fresh_lastTransitionTime (now : Nat) (c : Condition) :
    (fresh now c).lastTransitionTime = stampTime now c := rfl

@[simp] theorem updated_type (now : Nat) (c e : Condition) : (updated now c e).type = e.type :=
  rfl
@[simp] theorem updated_status (now : Nat) (c e : Condition) :
    (updated now c e).status = c.status := rfl
@[simp] theorem updated_reason (now : Nat) (c e : Condition) :
    (updated now c e).reason = c.reason := rfl
@[simp] theorem updated_message (now : Nat) (c e : Condition) :
    (updated now c e).message = c.message := rfl
@[simp] theorem updated_observedGeneration (now : Nat) (c e : Condition) :
    (updated now c e).observedGeneration = c.observedGeneration := rfl
@[simp] theorem updated_lastTransitionTime (now : Nat) (c e : Condition) :
    (updated now c e).lastTransitionTime =
      if e.status ≠ c.status then stampTime now c else e.lastTransitionTime := rfl

/-- `updated` stamps a new transition time only when the status changes. -/
theorem updated_status_ne_of_lastTransitionTime_ne {now : Nat} {c e : Condition}
    (h : (updated now c e).lastTransitionTime ≠ e.lastTransitionTime) : e.status ≠ c.status := by
  intro hs
  simp [hs] at h

@[simp] theorem findStatusCondition_nil (conditionType : String) :
    findStatusCondition [] conditionType = none := rfl

/-- `meta.FindStatusCondition` answers with the first condition of the type. -/
theorem findStatusCondition_cons (c : Condition) (rest : List Condition) (t : String) :
    findStatusCondition (c :: rest) t =
      if c.type = t then some c else findStatusCondition rest t := by
  by_cases h : c.type = t <;> simp [findStatusCondition, List.find?_cons, h]

/-- A found condition has the type it was looked up by. -/
theorem findStatusCondition_type {conditions : List Condition} {t : String} {c : Condition}
    (h : findStatusCondition conditions t = some c) : c.type = t := by
  simpa using List.find?_some h

/-- After a write, the written type finds the updated condition, or the appended one. -/
theorem findStatusCondition_setStatusCondition_self (now : Nat) (c : Condition)
    (conditions : List Condition) :
    findStatusCondition (setStatusCondition now c conditions) c.type =
      some (((findStatusCondition conditions c.type).map (updated now c)).getD (fresh now c)) := by
  induction conditions with
  | nil => simp [setStatusCondition, findStatusCondition_cons]
  | cons e rest ih =>
      by_cases h : e.type = c.type <;> simp [setStatusCondition, findStatusCondition_cons, h, ih]

/-- A write leaves every other type's condition where it was. -/
theorem findStatusCondition_setStatusCondition_ne (now : Nat) (c : Condition)
    (conditions : List Condition) {t : String} (ht : c.type ≠ t) :
    findStatusCondition (setStatusCondition now c conditions) t =
      findStatusCondition conditions t := by
  induction conditions with
  | nil => simp [setStatusCondition, findStatusCondition_cons, ht]
  | cons e rest ih =>
      by_cases h : e.type = c.type
      · simp [setStatusCondition, findStatusCondition_cons, h, ht]
      · simp [setStatusCondition, findStatusCondition_cons, h, ih]

/-- What `findStatusCondition` returns for any type after a write. -/
theorem findStatusCondition_setStatusCondition (now : Nat) (c : Condition)
    (conditions : List Condition) (t : String) :
    findStatusCondition (setStatusCondition now c conditions) t =
      if c.type = t then
        some (((findStatusCondition conditions t).map (updated now c)).getD (fresh now c))
      else findStatusCondition conditions t := by
  split
  · subst t; exact findStatusCondition_setStatusCondition_self now c conditions
  · exact findStatusCondition_setStatusCondition_ne now c conditions ‹_›

/-- Writes of conditions of other types leave a type's condition where it was. -/
theorem findStatusCondition_foldl_of_forall_ne (now : Nat) {written : List Condition}
    {t : String} (h : ∀ c ∈ written, c.type ≠ t) (conditions : List Condition) :
    findStatusCondition (written.foldl (fun cs c => setStatusCondition now c cs) conditions) t =
      findStatusCondition conditions t := by
  induction written generalizing conditions with
  | nil => rfl
  | cons c rest ih =>
      simp only [List.foldl_cons]
      rw [ih (fun d hd => h d (List.mem_cons_of_mem _ hd)),
        findStatusCondition_setStatusCondition_ne now c conditions (h c (List.mem_cons_self _ _))]

/-- Writes that never give type `t` the status `s` leave a condition of type `t` and status `s`
where they found it. -/
theorem findStatusCondition_foldl_of_status_ne (now : Nat) {written : List Condition} {t : String}
    {s : ConditionStatus} (h : ∀ c ∈ written, c.type = t → c.status ≠ s)
    {conditions : List Condition} {d : Condition}
    (hd : findStatusCondition (written.foldl (fun cs c => setStatusCondition now c cs) conditions) t =
      some d)
    (hs : d.status = s) : findStatusCondition conditions t = some d := by
  induction written generalizing conditions with
  | nil => exact hd
  | cons c rest ih =>
      have hrest := ih (fun c' hc' => h c' (List.mem_cons_of_mem _ hc')) hd
      rw [findStatusCondition_setStatusCondition] at hrest
      split at hrest
      · next htype =>
          have hstatus : d.status = c.status := by
            rw [← Option.some.inj hrest]
            cases findStatusCondition conditions t <;> rfl
          exact absurd (hstatus ▸ hs) (h c (List.mem_cons_self _ _) htype)
      · exact hrest

/-- The condition found for `c`'s type already carries `c`'s status, reason, message and
generation. -/
def Agrees (c : Condition) (existing : Condition) : Prop :=
  existing.status = c.status ∧ existing.reason = c.reason ∧ existing.message = c.message ∧
    existing.observedGeneration = c.observedGeneration

/-- Writing a condition that is already there changes nothing, its transition time included. -/
theorem setStatusCondition_of_agrees (now : Nat) (c : Condition) {conditions : List Condition}
    {existing : Condition} (hfind : findStatusCondition conditions c.type = some existing)
    (hagrees : Agrees c existing) : setStatusCondition now c conditions = conditions := by
  induction conditions with
  | nil => simp at hfind
  | cons e rest ih =>
      rw [findStatusCondition_cons] at hfind
      by_cases h : e.type = c.type
      · simp only [h, if_true, Option.some.injEq] at hfind
        subst hfind
        obtain ⟨hs, hr, hm, hg⟩ := hagrees
        simp only [setStatusCondition, h, if_true, List.cons.injEq, and_true]
        cases e
        simp_all [updated]
      · simp only [h, if_false] at hfind
        simp [setStatusCondition, h, ih hfind]

/-- After a write, its type finds a condition that agrees with it. -/
theorem findStatusCondition_setStatusCondition_agrees (now : Nat) (c : Condition)
    (conditions : List Condition) :
    ∃ q, findStatusCondition (setStatusCondition now c conditions) c.type = some q ∧ Agrees c q := by
  rw [findStatusCondition_setStatusCondition_self]
  cases findStatusCondition conditions c.type <;> exact ⟨_, rfl, by simp [Agrees]⟩

/-- Conditions of distinct types written in a row each stay in place under their type. -/
theorem findStatusCondition_foldl_agrees (now : Nat) {written : List Condition}
    (hdistinct : written.Pairwise (fun a b => a.type ≠ b.type)) (conditions : List Condition) :
    ∀ c ∈ written, ∃ q, findStatusCondition
      (written.foldl (fun cs c => setStatusCondition now c cs) conditions) c.type = some q ∧
        Agrees c q := by
  induction written generalizing conditions with
  | nil => simp
  | cons w rest ih =>
      rw [List.pairwise_cons] at hdistinct
      intro c hc
      rcases List.mem_cons.mp hc with rfl | hc
      · rw [List.foldl_cons, findStatusCondition_foldl_of_forall_ne now
          (fun d hd => (hdistinct.1 d hd).symm)]
        exact findStatusCondition_setStatusCondition_agrees now c conditions
      · exact ih hdistinct.2 _ c hc

/-- Writing again, at any clock reading, conditions of distinct types that were just written
changes nothing. -/
theorem foldl_setStatusCondition_idem (now now' : Nat) {written : List Condition}
    (hdistinct : written.Pairwise (fun a b => a.type ≠ b.type)) (conditions : List Condition) :
    written.foldl (fun cs c => setStatusCondition now' c cs)
        (written.foldl (fun cs c => setStatusCondition now c cs) conditions) =
      written.foldl (fun cs c => setStatusCondition now c cs) conditions := by
  induction written generalizing conditions with
  | nil => rfl
  | cons w rest ih =>
      obtain ⟨q, hq, hagrees⟩ := findStatusCondition_foldl_agrees now hdistinct conditions w
        (List.mem_cons_self _ _)
      rw [List.pairwise_cons] at hdistinct
      simp only [List.foldl_cons] at hq ⊢
      rw [setStatusCondition_of_agrees now' w hq hagrees]
      exact ih hdistinct.2 _

end IvoryOperator.Meta
