import IvoryOperator.Upgrade.World

/-!
# Waking upgrades when their cluster changes

The upgrade controller watches IvoryClusters. `watchIvoryClusters` handles each create, update
and delete of a cluster by listing the upgrades of the cluster's namespace
(`findUpgradesForIvoryCluster`), and adds a request to the controller's work queue for each one
whose spec names the cluster. `Reconcile` relies on it: on `PGClusterNotFound` it returns
without a requeue, and "will reconcile again when a matching IvoryCluster is created".

Read `runWatch_wakes` first. One event leaves every request that was waiting
(`mem_watchIvoryClusters`). When its List call succeeded, it adds exactly the requests of the
upgrades of the cluster's namespace that name the cluster; when the List call failed, the event
is lost. Over a run, a request is waiting at the end exactly when it was waiting at the start or
some event of the run woke it, and the queue never holds a request twice.

The work queue, `r.List` and `client.ObjectKeyFromObject` are declared outside src/. The queue
is the list of requests waiting, in order. `Add` of a request already waiting adds nothing, as
the queue's dirty set makes it. The workers that take requests off the queue, and the rate
limiting, are left out.
-/

namespace IvoryOperator.Upgrade

open IvoryOperator.Meta

/-- `client.ObjectKey`. -/
structure ObjectKey where
  «namespace» : String
  name : String
  deriving DecidableEq, Repr

/-- A stored `IvyUpgrade`, with its namespace. -/
structure UpgradeObject where
  «namespace» : String
  upgrade : IvyUpgrade
  deriving DecidableEq, Repr

/-- `client.ObjectKeyFromObject(upgrade)`. -/
def UpgradeObject.key (object : UpgradeObject) : ObjectKey :=
  ⟨object.«namespace», object.upgrade.name⟩

/-- `findUpgradesForIvoryCluster`, given the answer of `r.List` for each namespace. Nothing
matches when the List call fails. -/
def findUpgradesForIvoryCluster (list : String → Except Error (List UpgradeObject))
    (cluster : ObjectKey) : List UpgradeObject :=
  match list cluster.«namespace» with
  | .ok items => items.filter (·.upgrade.spec.ivoryClusterName = cluster.name)
  | .error _ => []

/-- `q.Add(request)`: a request already waiting is not added again. -/
def queueAdd (queue : List ObjectKey) (request : ObjectKey) : List ObjectKey :=
  if request ∈ queue then queue else queue ++ [request]

/-- The `handle` closure of `watchIvoryClusters`. -/
def handle (list : String → Except Error (List UpgradeObject)) (cluster : ObjectKey)
    (queue : List ObjectKey) : List ObjectKey :=
  (findUpgradesForIvoryCluster list cluster).foldl
    (fun queue upgrade => queueAdd queue upgrade.key) queue

/-- An event on an IvoryCluster, by the keys of the objects it carries. -/
inductive ClusterEvent
  | create (object : ObjectKey)
  | update (objectOld objectNew : ObjectKey)
  | delete (object : ObjectKey)
  deriving DecidableEq, Repr

/-- `watchIvoryClusters`: its `CreateFunc`, `UpdateFunc` and `DeleteFunc`. -/
def watchIvoryClusters (list : String → Except Error (List UpgradeObject)) (event : ClusterEvent)
    (queue : List ObjectKey) : List ObjectKey :=
  match event with
  | .create object => handle list object queue
  | .update _ objectNew => handle list objectNew queue
  | .delete object => handle list object queue

/-- The cluster the handler is called with: the object of a create or delete, and the new
object of an update. -/
def ClusterEvent.handled : ClusterEvent → ObjectKey
  | .create object => object
  | .update _ objectNew => objectNew
  | .delete object => object

/-- Every event is handled as its cluster: the object, or the new one of an update. -/
theorem watchIvoryClusters_eq (list : String → Except Error (List UpgradeObject))
    (event : ClusterEvent) (queue : List ObjectKey) :
    watchIvoryClusters list event queue = handle list event.handled queue := by
  cases event <;> rfl

/-! ## The work queue -/

/-- After `Add`, a request is waiting when it was, or is the one added. -/
theorem mem_queueAdd {queue : List ObjectKey} {request key : ObjectKey} :
    key ∈ queueAdd queue request ↔ key ∈ queue ∨ key = request := by
  unfold queueAdd
  split
  · next h => exact ⟨.inl, fun hkey => hkey.elim id (· ▸ h)⟩
  · simp

/-- `Add` never puts a request in the queue twice. -/
theorem nodup_queueAdd {queue : List ObjectKey} (h : queue.Nodup) (request : ObjectKey) :
    (queueAdd queue request).Nodup := by
  unfold queueAdd
  split
  · exact h
  · next hnew =>
    exact List.pairwise_append.mpr ⟨h, List.pairwise_singleton _ _, fun _ hold _ hnew' hsame =>
      hnew (List.mem_singleton.mp hnew' ▸ hsame ▸ hold)⟩

/-- Adding the keys of some upgrades, a request is waiting when it was, or is one of them. -/
theorem mem_foldl_queueAdd {key : ObjectKey} (upgrades : List UpgradeObject)
    (queue : List ObjectKey) :
    key ∈ upgrades.foldl (fun queue upgrade => queueAdd queue upgrade.key) queue ↔
      key ∈ queue ∨ ∃ upgrade ∈ upgrades, key = upgrade.key := by
  induction upgrades generalizing queue with
  | nil => simp
  | cons upgrade upgrades ih =>
    rw [List.foldl_cons, ih, mem_queueAdd]
    simp only [List.mem_cons, exists_eq_or_imp, or_assoc]

/-- Adding the keys of some upgrades never puts a request in the queue twice. -/
theorem nodup_foldl_queueAdd (upgrades : List UpgradeObject) {queue : List ObjectKey}
    (h : queue.Nodup) :
    (upgrades.foldl (fun queue upgrade => queueAdd queue upgrade.key) queue).Nodup := by
  induction upgrades generalizing queue with
  | nil => exact h
  | cons upgrade upgrades ih => exact ih (nodup_queueAdd h _)

/-! ## Which upgrades an event wakes -/

/-- `r.List` in a namespace over the stored upgrades: those of the namespace, or the call's
error. -/
def listUpgrades (store : List UpgradeObject) (failure : Option Error) (ns : String) :
    Except Error (List UpgradeObject) :=
  match failure with
  | some err => .error err
  | none => .ok (store.filter (·.«namespace» = ns))

/-- The upgrade names the cluster, in its own namespace. -/
def UpgradeObject.Targets (object : UpgradeObject) (cluster : ObjectKey) : Prop :=
  object.«namespace» = cluster.«namespace» ∧ object.upgrade.spec.ivoryClusterName = cluster.name

instance (object : UpgradeObject) (cluster : ObjectKey) : Decidable (object.Targets cluster) :=
  inferInstanceAs (Decidable (_ ∧ _))

/-- The upgrades found for a cluster are the stored ones that name it, when the List call succeeded.
-/
theorem mem_findUpgradesForIvoryCluster {store : List UpgradeObject} {failure : Option Error}
    {cluster : ObjectKey} {object : UpgradeObject} :
    object ∈ findUpgradesForIvoryCluster (listUpgrades store failure) cluster ↔
      failure = none ∧ object ∈ store ∧ object.Targets cluster := by
  cases failure <;>
    simp [findUpgradesForIvoryCluster, listUpgrades, UpgradeObject.Targets, and_assoc, and_comm]

/-- One event as the controller meets it: the stored upgrades and the error of the List call at
that time, and the event. -/
structure WatchStep where
  store : List UpgradeObject
  failure : Option Error
  event : ClusterEvent

/-- The step's List call succeeded and the request is that of a stored upgrade naming the
event's cluster. -/
def WatchStep.Wakes (step : WatchStep) (request : ObjectKey) : Prop :=
  step.failure = none ∧
    ∃ object ∈ step.store, object.Targets step.event.handled ∧ request = object.key

/-- After an event, a request is waiting exactly when it was waiting before or the event woke
it. -/
theorem mem_watchIvoryClusters (step : WatchStep) (queue : List ObjectKey) (request : ObjectKey) :
    request ∈ watchIvoryClusters (listUpgrades step.store step.failure) step.event queue ↔
      request ∈ queue ∨ step.Wakes request := by
  rw [watchIvoryClusters_eq, handle, mem_foldl_queueAdd]
  refine or_congr_right ⟨fun ⟨object, hfound, hkey⟩ => ?_,
    fun ⟨hok, object, hstored, htargets, hkey⟩ => ?_⟩
  · obtain ⟨hok, hstored, htargets⟩ := mem_findUpgradesForIvoryCluster.mp hfound
    exact ⟨hok, object, hstored, htargets, hkey⟩
  · exact ⟨object, mem_findUpgradesForIvoryCluster.mpr ⟨hok, hstored, htargets⟩, hkey⟩

/-- An event never puts a request in the queue twice. -/
theorem nodup_watchIvoryClusters (step : WatchStep) {queue : List ObjectKey} (h : queue.Nodup) :
    (watchIvoryClusters (listUpgrades step.store step.failure) step.event queue).Nodup := by
  rw [watchIvoryClusters_eq, handle]
  exact nodup_foldl_queueAdd _ h

/-- The queue after a run of events. -/
def runWatch (queue : List ObjectKey) (steps : List WatchStep) : List ObjectKey :=
  steps.foldl (fun queue step =>
    watchIvoryClusters (listUpgrades step.store step.failure) step.event queue) queue

/-- Over any run of events, a request is waiting at the end exactly when it was waiting at the
start or some event of the run woke it: no event whose List call succeeded loses an upgrade
naming its cluster, and no other request is added. A queue with no request twice keeps none
twice. -/
theorem runWatch_wakes (queue : List ObjectKey) (steps : List WatchStep) :
    (∀ request, request ∈ runWatch queue steps ↔
      request ∈ queue ∨ ∃ step ∈ steps, step.Wakes request) ∧
    (queue.Nodup → (runWatch queue steps).Nodup) := by
  induction steps generalizing queue with
  | nil => simp [runWatch]
  | cons step steps ih =>
    refine ⟨fun request => ?_, fun h => (ih _).2 (nodup_watchIvoryClusters step h)⟩
    rw [runWatch, List.foldl_cons, ← runWatch, (ih _).1, mem_watchIvoryClusters]
    simp only [List.mem_cons, exists_eq_or_imp, or_assoc]

end IvoryOperator.Upgrade
