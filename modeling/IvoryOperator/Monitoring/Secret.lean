import IvoryOperator.Meta.Client

/-!
# The monitoring secret

`reconcileMonitoringSecret` keeps the secret the metrics exporter logs in with. With the
exporter disabled it deletes the secret, when the cluster controls it; enabled, it keeps the
password and verifier already stored when both are non-empty, and otherwise generates a password,
builds its SCRAM verifier and applies the new pair under the cluster's controller reference. The
password generator, the verifier builder, `Get`, `apply` and the `Delete` of `deleteControlled`
are declared outside src/: their outcomes in one call are a `SecretCall`, and `Get` reads the
stored secret, so that it answers NotFound exactly when there is none.

`runSecret` threads the stored secret through a sequence of calls. `runSecret_secretSound`: a
stored secret always holds a non-empty password and a non-empty verifier that some call built
from that password. `reconcileMonitoringSecret_keeps`: a call with the exporter enabled on such
a secret applies exactly that password and verifier once its `Get` and `setControllerReference`
succeed, applies nothing else, and leaves them stored, so (`runSecret_keeps`) the password never
changes while the exporter stays enabled.
-/

namespace IvoryOperator.Monitoring

open IvoryOperator.Meta

/-- The data of the monitoring secret that `reconcileMonitoringSecret` reads and writes: the
values under the keys `password` and `verifier`, `""` where a key is absent. -/
structure Secret where
  password : String
  verifier : String
  deriving DecidableEq, Repr

/-- What one call of `reconcileMonitoringSecret` meets: whether the exporter is enabled, the
text of a failure of `Get` other than NotFound, what
`util.GenerateASCIIPassword(util.DefaultGeneratedPasswordLength)` returns, what
`pgpassword.NewSCRAMPassword(password).Build()` returns for each password, and the errors of
`setControllerReference`, `apply` and the `Delete` of `deleteControlled`. -/
structure SecretCall where
  exporterEnabled : Bool
  getFailure : Option String
  generated : Except Error String
  build : String → Except Error String
  controllerReference : Option Error
  applied : Option Error
  deleted : Option Error

/-- What a call returns (the secret and the error), the secret it sent to `apply`, and the
secret stored after it. -/
structure SecretOutcome where
  returned : Option Secret
  err : Option Error
  applied : Option Secret
  stored : Option (Stored Secret)

/-- The secret a call with the exporter enabled means to apply: a new password and its
verifier when the existing password or verifier is empty, the existing pair otherwise. -/
def intendedSecret (call : SecretCall) (existing : Secret) : Except Error Secret :=
  if existing.password = "" ∨ existing.verifier = "" then
    match call.generated with
    | .error err => .error err
    | .ok password =>
        match call.build password with
        | .error err => .error err
        | .ok verifier => .ok ⟨password, verifier⟩
  else .ok ⟨existing.password, existing.verifier⟩

/-- `reconcileMonitoringSecret` over the stored secret. An applied secret carries the cluster's
controller reference. -/
def reconcileMonitoringSecret (stored : Option (Stored Secret)) (call : SecretCall) :
    SecretOutcome :=
  match call.getFailure with
  | some failure => ⟨none, some ⟨false, failure⟩, none, stored⟩
  | none =>
      if !call.exporterEnabled then
        match stored with
        | none => ⟨none, none, none, none⟩
        | some existing =>
            let deleted := deleteControlled existing call.deleted
            ⟨none, ignoreNotFound deleted.1, none, deleted.2⟩
      else
        match intendedSecret call ((stored.map Stored.object).getD ⟨"", ""⟩) with
        | .error err => ⟨none, some err, none, stored⟩
        | .ok intent =>
            match call.controllerReference, call.applied with
            | some err, _ => ⟨none, some err, none, stored⟩
            | none, some err => ⟨none, some err, some intent, stored⟩
            | none, none => ⟨some intent, none, some intent, some ⟨intent, true⟩⟩

/-- The secret stored after a sequence of calls. -/
def runSecret (stored : Option (Stored Secret)) (calls : List SecretCall) :
    Option (Stored Secret) :=
  calls.foldl (fun stored call => (reconcileMonitoringSecret stored call).stored) stored

/-- A run is its first call, then the rest from the secret that call leaves. -/
theorem runSecret_cons (stored : Option (Stored Secret)) (call : SecretCall)
    (calls : List SecretCall) :
    runSecret stored (call :: calls) =
      runSecret (reconcileMonitoringSecret stored call).stored calls := rfl

/-- The stored secret, if any, holds a non-empty password and a non-empty verifier that one of
`calls` built from that password. -/
def SecretSound (calls : List SecretCall) (stored : Option (Stored Secret)) : Prop :=
  ∀ s : Stored Secret, stored = some s → s.object.password ≠ "" ∧ s.object.verifier ≠ "" ∧
    ∃ call ∈ calls, call.build s.object.password = .ok s.object.verifier

/-- The secret a call means to apply is the existing one, when both its values are non-empty,
or a password the call generated with the verifier the call built from it. -/
theorem intendedSecret_cases {call : SecretCall} {existing intent : Secret}
    (h : intendedSecret call existing = .ok intent) :
    (existing.password ≠ "" ∧ existing.verifier ≠ "" ∧ intent = existing) ∨
      ∃ password verifier, call.generated = .ok password ∧ call.build password = .ok verifier ∧
        intent = ⟨password, verifier⟩ := by
  unfold intendedSecret at h
  split at h
  · right
    split at h
    · cases h
    · next password hgenerated =>
        split at h
        · cases h
        · next verifier hbuild =>
            exact ⟨password, verifier, hgenerated, hbuild, (Except.ok.inj h).symm⟩
  · next hempty =>
      rw [not_or] at hempty
      exact .inl ⟨hempty.1, hempty.2, (Except.ok.inj h).symm⟩

/-- A store with no secret is sound. -/
theorem secretSound_none (calls : List SecretCall) : SecretSound calls none :=
  fun _ h => Option.noConfusion h

/-- After a call the stored secret is the one before, none, the one before now under the
cluster's controller reference, or a pair the call generated. -/
theorem reconcileMonitoringSecret_stored (stored : Option (Stored Secret)) (call : SecretCall) :
    (reconcileMonitoringSecret stored call).stored = stored ∨
      (reconcileMonitoringSecret stored call).stored = none ∨
      (∃ s, stored = some s ∧ (reconcileMonitoringSecret stored call).stored = some ⟨s.object, true⟩) ∨
      ∃ password verifier, call.generated = .ok password ∧ call.build password = .ok verifier ∧
        (reconcileMonitoringSecret stored call).stored = some ⟨⟨password, verifier⟩, true⟩ := by
  unfold reconcileMonitoringSecret
  split
  · exact .inl rfl
  split
  · split
    · exact .inr (.inl rfl)
    · next existing =>
        rcases deleteControlled_cases existing call.deleted with
          ⟨-, hdeleted | ⟨-, hkept⟩⟩ | ⟨-, hkept⟩
        exacts [.inr (.inl hdeleted), .inl hkept, .inl hkept]
  split
  · exact .inl rfl
  · next intent hintent =>
      split
      · exact .inl rfl
      · exact .inl rfl
      · rcases intendedSecret_cases hintent with ⟨hpassword, -, rfl⟩ | ⟨p, v, hp, hv, rfl⟩
        · cases stored with
          | none => exact absurd rfl hpassword
          | some s => exact .inr (.inr (.inl ⟨s, rfl, rfl⟩))
        · exact .inr (.inr (.inr ⟨p, v, hp, hv, rfl⟩))

/-- A call keeps the stored secret sound, provided a password it generates and a verifier it
builds are non-empty; the calls that built the verifier now include this one. -/
theorem reconcileMonitoringSecret_secretSound {calls : List SecretCall}
    {stored : Option (Stored Secret)} (h : SecretSound calls stored) {call : SecretCall}
    (hgenerated : ∀ password, call.generated = .ok password → password ≠ "")
    (hbuilt : ∀ password verifier, call.build password = .ok verifier → verifier ≠ "") :
    SecretSound (calls ++ [call]) (reconcileMonitoringSecret stored call).stored := by
  have hearlier : ∀ s : Stored Secret, stored = some s →
      s.object.password ≠ "" ∧ s.object.verifier ≠ "" ∧
        ∃ c ∈ calls ++ [call], c.build s.object.password = .ok s.object.verifier :=
    fun s hs =>
      let ⟨hpassword, hverifier, c, hc, hbuild⟩ := h s hs
      ⟨hpassword, hverifier, c, List.mem_append_left _ hc, hbuild⟩
  intro s hs
  rcases reconcileMonitoringSecret_stored stored call with
    hafter | hafter | ⟨s', hs', hafter⟩ | ⟨p, v, hp, hv, hafter⟩ <;> rw [hafter] at hs
  · exact hearlier s hs
  · cases hs
  · cases hs
    exact hearlier s' hs'
  · cases hs
    exact ⟨hgenerated p hp, hbuilt p v hv, call, List.mem_append_right _ (List.mem_singleton_self _),
      hv⟩

/-- A call with the exporter enabled, over a secret whose password and verifier are non-empty,
leaves them stored, applies exactly them once its `Get` and `setControllerReference` succeed, and
applies nothing else. -/
theorem reconcileMonitoringSecret_keeps {s : Stored Secret} (hpassword : s.object.password ≠ "")
    (hverifier : s.object.verifier ≠ "") {call : SecretCall}
    (henabled : call.exporterEnabled = true) :
    (reconcileMonitoringSecret (some s) call).stored.map Stored.object = some s.object ∧
      (call.getFailure = none → call.controllerReference = none →
        (reconcileMonitoringSecret (some s) call).applied = some s.object) ∧
      ∀ w, (reconcileMonitoringSecret (some s) call).applied = some w → w = s.object := by
  have hintent : intendedSecret call s.object = .ok s.object := by
    simp [intendedSecret, hpassword, hverifier]
  unfold reconcileMonitoringSecret
  cases call.getFailure with
  | some failure => exact ⟨rfl, fun h => Option.noConfusion h, fun _ h => Option.noConfusion h⟩
  | none =>
      dsimp only
      rw [henabled, Bool.not_true, if_neg Bool.false_ne_true, Option.map_some', Option.getD_some,
        hintent]
      cases call.controllerReference with
      | some err => exact ⟨rfl, fun _ h => Option.noConfusion h, fun _ h => Option.noConfusion h⟩
      | none => cases call.applied <;> exact ⟨rfl, fun _ _ => rfl, fun _ h => (Option.some.inj h).symm⟩

/-- While every call has the exporter enabled, a secret with a non-empty password and verifier
stays stored as it is: its password is never rotated. -/
theorem runSecret_keeps {s : Stored Secret} (hpassword : s.object.password ≠ "")
    (hverifier : s.object.verifier ≠ "") (calls : List SecretCall)
    (henabled : ∀ call ∈ calls, call.exporterEnabled = true) :
    (runSecret (some s) calls).map Stored.object = some s.object := by
  induction calls generalizing s with
  | nil => rfl
  | cons call calls ih =>
      obtain ⟨s', hafter, hsame⟩ := Option.map_eq_some'.mp
        (reconcileMonitoringSecret_keeps hpassword hverifier (henabled call (List.mem_cons_self _ _))).1
      rw [runSecret_cons, hafter, ← hsame]
      exact ih (by rwa [hsame]) (by rwa [hsame]) fun c hc => henabled c (List.mem_cons_of_mem _ hc)

/-- A run keeps the stored secret sound. -/
theorem runSecret_secretSound {calls : List SecretCall} {stored : Option (Stored Secret)}
    (later : List SecretCall) (h : SecretSound calls stored)
    (hgenerated : ∀ call ∈ later, ∀ password, call.generated = .ok password → password ≠ "")
    (hbuilt : ∀ call ∈ later, ∀ password verifier, call.build password = .ok verifier →
      verifier ≠ "") :
    SecretSound (calls ++ later) (runSecret stored later) := by
  induction later generalizing calls stored with
  | nil => simpa using h
  | cons call later ih =>
      rw [runSecret_cons, ← List.singleton_append, ← List.append_assoc]
      exact ih (reconcileMonitoringSecret_secretSound h
          (hgenerated call (List.mem_cons_self _ _)) (hbuilt call (List.mem_cons_self _ _)))
        (fun c hc => hgenerated c (List.mem_cons_of_mem _ hc))
        (fun c hc => hbuilt c (List.mem_cons_of_mem _ hc))

/-- Over every run from no secret, whenever the monitoring secret exists it holds a non-empty
password and a non-empty verifier that a call built from that same password. Every call with the
exporter enabled, on a secret whose password and verifier are non-empty, leaves them stored,
applies exactly them once its `Get` and `setControllerReference` succeed, and applies nothing
else; so the password never changes while the exporter stays enabled. The hypotheses are what
the generators outside src/ promise: a password of `DefaultGeneratedPasswordLength` characters,
a positive length, and a non-empty verifier. -/
theorem monitoringSecret_stable (length : Nat) (hlength : 0 < length) (calls : List SecretCall)
    (hgenerated : ∀ call ∈ calls, ∀ password, call.generated = .ok password →
      password.length = length)
    (hbuilt : ∀ call ∈ calls, ∀ password verifier, call.build password = .ok verifier →
      verifier ≠ "") :
    SecretSound calls (runSecret none calls) ∧
      ∀ s : Stored Secret, s.object.password ≠ "" → s.object.verifier ≠ "" →
        (∀ call, call.exporterEnabled = true →
          (reconcileMonitoringSecret (some s) call).stored.map Stored.object = some s.object ∧
          (call.getFailure = none → call.controllerReference = none →
            (reconcileMonitoringSecret (some s) call).applied = some s.object) ∧
          ∀ w, (reconcileMonitoringSecret (some s) call).applied = some w → w = s.object) ∧
        ∀ later : List SecretCall, (∀ call ∈ later, call.exporterEnabled = true) →
          (runSecret (some s) later).map Stored.object = some s.object := by
  refine ⟨?_, fun s hpassword hverifier =>
    ⟨fun _ henabled => reconcileMonitoringSecret_keeps hpassword hverifier henabled,
      runSecret_keeps hpassword hverifier⟩⟩
  have hnonempty : ∀ call ∈ calls, ∀ password, call.generated = .ok password → password ≠ "" :=
    fun call hcall password hp hempty => by
      have := hgenerated call hcall password hp
      rw [hempty] at this
      exact absurd this.symm (Nat.pos_iff_ne_zero.mp hlength)
  simpa using runSecret_secretSound calls (secretSound_none []) hnonempty hbuilt

/-- A run of two calls with the exporter enabled: the first creates the secret, the second keeps
it. -/
theorem monitoringSecret_stable_create_keep :
    let create : SecretCall := ⟨true, none, .ok "abcdefghijklmnopqrstuvwx",
      fun _ => .ok "SCRAM-SHA-256$4096:c2FsdA==$c3RvcmVk:c2VydmVy", none, none, none⟩
    let calls := [create, create]
    (0 < 24 ∧
      (∀ call ∈ calls, ∀ password, call.generated = .ok password → password.length = 24) ∧
      (∀ call ∈ calls, ∀ password verifier, call.build password = .ok verifier →
        verifier ≠ "")) ∧
    (SecretSound calls (runSecret none calls) ∧
      ∀ s : Stored Secret, s.object.password ≠ "" → s.object.verifier ≠ "" →
        (∀ call, call.exporterEnabled = true →
          (reconcileMonitoringSecret (some s) call).stored.map Stored.object = some s.object ∧
          (call.getFailure = none → call.controllerReference = none →
            (reconcileMonitoringSecret (some s) call).applied = some s.object) ∧
          ∀ w, (reconcileMonitoringSecret (some s) call).applied = some w → w = s.object) ∧
        ∀ later : List SecretCall, (∀ call ∈ later, call.exporterEnabled = true) →
          (runSecret (some s) later).map Stored.object = some s.object) := by
  intro create calls
  have hgenerated : ∀ call ∈ calls, ∀ password, call.generated = .ok password →
      password.length = 24 := by
    intro call hcall password h
    simp only [calls, List.mem_cons, List.mem_singleton, or_self, List.not_mem_nil,
      or_false] at hcall
    subst hcall
    cases h
    rfl
  have hbuilt : ∀ call ∈ calls, ∀ password verifier, call.build password = .ok verifier →
      verifier ≠ "" := by
    intro call hcall password verifier h
    simp only [calls, List.mem_cons, List.mem_singleton, or_self, List.not_mem_nil,
      or_false] at hcall
    subst hcall
    cases h
    decide
  exact ⟨⟨by decide, hgenerated, hbuilt⟩,
    monitoringSecret_stable 24 (by decide) calls hgenerated hbuilt⟩

end IvoryOperator.Monitoring
