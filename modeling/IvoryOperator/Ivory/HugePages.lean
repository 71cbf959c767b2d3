import Mathlib.Data.List.Basic

/-!
# Huge pages

`SetHugePages` sets the default parameter `huge_pages` to `try` when some instance set limits a
`hugepages-` resource to a positive quantity, and to `off` otherwise. `hugePagesRequested` keeps
the two nested `range` loops, over the instance sets and over each one's resource limits, with
the `return true` that leaves both. `hugePagesRequested_iff`: the loops return `true` exactly
when such a limit exists, so the order in which they visit the sets and the limits does not
matter, and `setHugePages_huge_pages` says what `SetHugePages` writes.
-/

namespace IvoryOperator.Ivory

/-- `corev1.ResourceHugePagesPrefix`, declared outside src/. -/
def ResourceHugePagesPrefix : String := "hugepages-"

/-- `strings.HasPrefix(s, prefix)`, on the characters of the two strings. -/
def hasPrefix (s pre : String) : Bool :=
  pre.data.isPrefixOf s.data

/-- An instance set as `hugePagesRequested` reads it: its resource limits, each a resource name
with the `Value()` of its quantity, in the order one `range` loop visits them. A
`ResourceList` holds each name once, so `Limits.Name(resourceName, ...)` is the quantity of the
entry being visited. -/
structure InstanceSet where
  limits : List (String × Int)
  names_nodup : (limits.map Prod.fst).Nodup

/-- An `IvoryCluster` as `SetHugePages` reads it: its instance sets, in order. -/
structure IvoryCluster where
  instanceSets : List InstanceSet

/-- The inner loop, over one instance set's limits. -/
def limitsRequestHugePages : List (String × Int) → Bool
  | [] => false
  | (resourceName, quantity) :: limits =>
      if hasPrefix resourceName ResourceHugePagesPrefix then
        if 0 < quantity then true else limitsRequestHugePages limits
      else limitsRequestHugePages limits

/-- The outer loop, over the instance sets; `return true` leaves both loops. -/
def instanceSetsRequestHugePages : List InstanceSet → Bool
  | [] => false
  | instanceSet :: instanceSets =>
      if limitsRequestHugePages instanceSet.limits then true
      else instanceSetsRequestHugePages instanceSets

/-- `hugePagesRequested`. -/
def hugePagesRequested (cluster : IvoryCluster) : Bool :=
  instanceSetsRequestHugePages cluster.instanceSets

/-- A `ParameterSet` as `SetHugePages` uses it, declared outside src/: the value of each
parameter, if it has one. -/
structure ParameterSet where
  value : String → Option String

/-- `ParameterSet.Add`: after it, `name` has the value `value`. -/
def ParameterSet.add (parameters : ParameterSet) (name value : String) : ParameterSet :=
  ⟨fun n => if n = name then some value else parameters.value n⟩

/-- `Parameters`, with the one set `SetHugePages` writes. -/
structure Parameters where
  default : ParameterSet

/-- `SetHugePages`. -/
def SetHugePages (cluster : IvoryCluster) (pgParameters : Parameters) : Parameters :=
  if hugePagesRequested cluster then ⟨pgParameters.default.add "huge_pages" "try"⟩
  else ⟨pgParameters.default.add "huge_pages" "off"⟩

/-- A limit that asks for huge pages: a `hugepages-` resource with a positive quantity. -/
def RequestsHugePages (limit : String × Int) : Prop :=
  hasPrefix limit.1 ResourceHugePagesPrefix = true ∧ 0 < limit.2

/-- The inner loop finds huge pages exactly when some limit asks for them. -/
theorem limitsRequestHugePages_iff (limits : List (String × Int)) :
    limitsRequestHugePages limits = true ↔ ∃ limit ∈ limits, RequestsHugePages limit := by
  induction limits with
  | nil => simp [limitsRequestHugePages]
  | cons limit limits ih =>
      obtain ⟨resourceName, quantity⟩ := limit
      simp only [List.mem_cons, exists_eq_or_imp]
      rw [← ih]
      simp only [limitsRequestHugePages, RequestsHugePages]
      split_ifs <;> simp_all

/-- The loops return `true` exactly when some instance set has a limit that asks for huge
pages. -/
theorem hugePagesRequested_iff (cluster : IvoryCluster) :
    hugePagesRequested cluster = true ↔
      ∃ instanceSet ∈ cluster.instanceSets, ∃ limit ∈ instanceSet.limits,
        RequestsHugePages limit := by
  unfold hugePagesRequested
  induction cluster.instanceSets with
  | nil => simp [instanceSetsRequestHugePages]
  | cons instanceSet instanceSets ih =>
      simp only [List.mem_cons, exists_eq_or_imp]
      rw [← ih, ← limitsRequestHugePages_iff]
      simp only [instanceSetsRequestHugePages]
      split_ifs <;> simp_all

example : hugePagesRequested ⟨[⟨[("cpu", 2)], by decide⟩,
    ⟨[("hugepages-1Gi", 0), ("hugepages-2Mi", 16)], by decide⟩]⟩ = true := by decide

/-- `SetHugePages` sets `huge_pages` to `try` exactly when some instance set has a
`hugepages-` limit with a positive quantity, and to `off` otherwise; two clusters with the same
limits, in whatever sets and orders, get the same parameters. -/
theorem setHugePages_huge_pages (cluster : IvoryCluster) (pgParameters : Parameters) :
    ((SetHugePages cluster pgParameters).default.value "huge_pages" = some "try" ↔
      ∃ instanceSet ∈ cluster.instanceSets, ∃ limit ∈ instanceSet.limits,
        hasPrefix limit.1 ResourceHugePagesPrefix = true ∧ 0 < limit.2) ∧
    ((SetHugePages cluster pgParameters).default.value "huge_pages" = some "off" ↔
      ¬∃ instanceSet ∈ cluster.instanceSets, ∃ limit ∈ instanceSet.limits,
        hasPrefix limit.1 ResourceHugePagesPrefix = true ∧ 0 < limit.2) ∧
    ∀ cluster' : IvoryCluster,
      (∀ limit, (∃ instanceSet ∈ cluster'.instanceSets, limit ∈ instanceSet.limits) ↔
        ∃ instanceSet ∈ cluster.instanceSets, limit ∈ instanceSet.limits) →
      SetHugePages cluster' pgParameters = SetHugePages cluster pgParameters := by
  have hrequested := hugePagesRequested_iff cluster
  simp only [RequestsHugePages] at hrequested
  have htry : ("try" : String) ≠ "off" := by decide
  refine ⟨?_, ?_, fun cluster' hlimits => ?_⟩
  · unfold SetHugePages
    split_ifs with h
    · exact iff_of_true (by simp [ParameterSet.add]) (hrequested.mp h)
    · exact iff_of_false (by simp [ParameterSet.add, htry.symm]) (mt hrequested.mpr h)
  · unfold SetHugePages
    split_ifs with h
    · exact iff_of_false (by simp [ParameterSet.add, htry]) (not_not.mpr (hrequested.mp h))
    · exact iff_of_true (by simp [ParameterSet.add]) (mt hrequested.mpr h)
  · have hsame : hugePagesRequested cluster' = hugePagesRequested cluster := by
      refine Bool.eq_iff_iff.mpr ((hugePagesRequested_iff cluster').trans
        (Iff.trans ?_ (hugePagesRequested_iff cluster).symm))
      constructor <;> rintro ⟨instanceSet, hset, limit, hlimit, hrequests⟩
      · obtain ⟨instanceSet', hset', hlimit'⟩ :=
          (hlimits limit).mp ⟨instanceSet, hset, hlimit⟩
        exact ⟨instanceSet', hset', limit, hlimit', hrequests⟩
      · obtain ⟨instanceSet', hset', hlimit'⟩ :=
          (hlimits limit).mpr ⟨instanceSet, hset, hlimit⟩
        exact ⟨instanceSet', hset', limit, hlimit', hrequests⟩
    rw [SetHugePages, SetHugePages, hsame]

end IvoryOperator.Ivory
