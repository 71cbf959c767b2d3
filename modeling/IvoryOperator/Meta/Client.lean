import Mathlib.Tactic.Common

/-!
# Errors of the API client

A Go `error` returned by the controller-runtime client, as the controllers inspect it: whether
it is a NotFound status, and its text. `client.IgnoreNotFound` maps a NotFound error to `nil`,
which the controllers use where a missing object is not a failure.

An object the API stores is kept with whether the cluster controls it, since
`deleteControlled` deletes only such an object: `deleteControlled_cases` says that a call that
reports no error leaves nothing stored, or an object the cluster does not control, and that a
call that reports an error leaves the object in place.
-/

namespace IvoryOperator.Meta

/-- A Go `error` as a controller inspects it: whether it is a NotFound status, and the text
`err.Error()`. -/
structure Error where
  notFound : Bool
  text : String
  deriving DecidableEq, Repr

/-- `client.IgnoreNotFound`. -/
def ignoreNotFound : Option Error → Option Error
  | some err => if err.notFound then none else some err
  | none => none

/-- An object as the API stores it, with whether `metav1.IsControlledBy(object, cluster)`
holds: whether the cluster's controller reference is on it. -/
structure Stored (α : Type) where
  object : α
  controlled : Bool
  deriving DecidableEq, Repr

/-- `deleteControlled(ctx, cluster, object)`, declared outside src/: a `Delete` of the object
just read, under its UID and resource version, when the cluster controls it, and `nil` with no
call otherwise. `deleted` is the error of the `Delete`. The result is the error returned and
what stays stored: nothing once the `Delete` succeeded or found nothing. -/
def deleteControlled {α : Type} (existing : Stored α) (deleted : Option Error) :
    Option Error × Option (Stored α) :=
  if existing.controlled then
    match deleted with
    | none => (none, none)
    | some err => (some err, if err.notFound then none else some existing)
  else (none, some existing)

/-- On an object the cluster does not control, `deleteControlled` calls nothing and keeps it. -/
theorem deleteControlled_of_not_controlled {α : Type} {existing : Stored α}
    (h : existing.controlled = false) (deleted : Option Error) :
    deleteControlled existing deleted = (none, some existing) := by
  unfold deleteControlled
  rw [h]
  rfl

/-- A `deleteControlled` whose error `client.IgnoreNotFound` clears leaves nothing stored, or an
object the cluster does not control; one whose error it keeps leaves the object stored. -/
theorem deleteControlled_cases {α : Type} (existing : Stored α) (deleted : Option Error) :
    ignoreNotFound (deleteControlled existing deleted).1 = none ∧
        ((deleteControlled existing deleted).2 = none ∨
          existing.controlled = false ∧ (deleteControlled existing deleted).2 = some existing) ∨
      ignoreNotFound (deleteControlled existing deleted).1 ≠ none ∧
        (deleteControlled existing deleted).2 = some existing := by
  cases hcontrolled : existing.controlled
  · rw [deleteControlled_of_not_controlled hcontrolled]
    exact .inl ⟨rfl, .inr ⟨rfl, rfl⟩⟩
  · unfold deleteControlled
    rw [hcontrolled, if_pos rfl]
    rcases deleted with _ | ⟨_ | _, text⟩
    · exact .inl ⟨rfl, .inl rfl⟩
    · exact .inr ⟨Option.some_ne_none _, rfl⟩
    · exact .inl ⟨rfl, .inl rfl⟩

end IvoryOperator.Meta
