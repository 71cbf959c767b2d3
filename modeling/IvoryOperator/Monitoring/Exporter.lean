import IvoryOperator.Meta.Client

/-!
# The exporter's SQL, run when its revision changes

`reconcilePGMonitorExporter` installs the metrics exporter's objects in PostgreSQL, or removes
them when the exporter is disabled, by running an SQL action through `PodExec` in the writable
pod. Before it runs the action, it computes a revision: `safeHash32` over what the action writes
when it runs against a hashing executor, which writes each exec's stdin, then its command and the
image IDs of the database and exporter containers. The action runs only when the revision
differs from `Status.Monitoring.ExporterConfiguration`, and the revision is recorded there only
when the action succeeded.

Read `reconcilePGMonitorExporter_cases` first. A call either changes nothing and issues no
`PodExec`, or it meets a revision that is new and acts on it (`applyExporterRevision_cases`).
A call that returns no error leaves the cluster `Settled` (`settled_of_err_eq_none`). From a
settled cluster every later call with the same inputs is quiet (`runExporter_settled`), so a run
after a call with no error issues nothing more (`runExporter_of_err_eq_none`).

The bytes one exec writes to the hasher determine the two image IDs only through their
concatenation: `fmt.Fprint` puts no space between two strings (`hashedExec_eq_iff`). A pod whose
image IDs change only in where the first one ends keeps its revision, and the setup does not run
again (`hashedExec_image_boundary`).

`safeHash32`, `EnableExporterInPostgreSQL`, `DisableExporterInPostgreSQL`,
`GetExporterSetupSQL`, `writablePod`, `IsRunning` and `ExporterEnabled` are declared outside
src/. The model takes:
- the hash as any function of the bytes written;
- the action as the exec calls it sends, in order, stopping at the first that fails;
- the answers of `PodExec` as given for each exec of a call.
-/

namespace IvoryOperator.Monitoring

open IvoryOperator.Meta

/-- `naming.ContainerDatabase`, declared outside src/. -/
def ContainerDatabase : String := "database"

/-- `naming.ContainerPGMonitorExporter`, declared outside src/. -/
def ContainerPGMonitorExporter : String := "exporter"

/-! ## The hashing executor -/

/-- An operand of `fmt.Fprint` as the hashing executor passes them: a `string` or a `[]string`. -/
inductive Operand
  | string (s : String)
  | strings (ss : List String)

/-- Whether an operand is a string. -/
def Operand.isString : Operand → Bool
  | .string _ => true
  | .strings _ => false

/-- An operand formatted by `%v`: a `[]string` is its elements between brackets, separated by
spaces. -/
def Operand.text : Operand → String
  | .string s => s
  | .strings ss => "[" ++ " ".intercalate ss ++ "]"

/-- `fmt.Fprint` of Go's standard library: the operands formatted by `%v`, with a space between
two operands when neither is a string. -/
def fprint : List Operand → String
  | [] => ""
  | operand :: operands =>
      operand.text ++
        (match operands with
          | next :: _ => if !operand.isString && !next.isString then " " else ""
          | [] => "") ++
        fprint operands

/-- One call of a `postgres.Executor`: what it reads from stdin, and its command. -/
structure ExecCall where
  stdin : String
  command : List String
  deriving DecidableEq, Repr

/-- What the hashing executor writes for one exec: `io.Copy(hasher, stdin)`, then
`fmt.Fprint(hasher, command, pgImageSHA, exporterImageSHA)`. Writes to a hash do not fail, so it
returns no error. -/
def hashedExec (pgImageSHA exporterImageSHA : String) (call : ExecCall) : String :=
  call.stdin ++ fprint [.strings call.command, .string pgImageSHA, .string exporterImageSHA]

/-- What the action writes to the hasher: the bytes of each exec it sends, in order. The hashing
executor never fails, so the action sends all of them. -/
def hashInput (pgImageSHA exporterImageSHA : String) : List ExecCall → String
  | [] => ""
  | call :: calls =>
      hashedExec pgImageSHA exporterImageSHA call ++ hashInput pgImageSHA exporterImageSHA calls

/-- The command is written between brackets and the two image IDs follow it with no separator:
neither they nor the space rule mark where the first ID ends. -/
theorem hashedExec_eq (pgImageSHA exporterImageSHA : String) (call : ExecCall) :
    hashedExec pgImageSHA exporterImageSHA call =
      call.stdin ++ Operand.text (.strings call.command) ++ (pgImageSHA ++ exporterImageSHA) := by
  simp [hashedExec, fprint, Operand.text, Operand.isString, String.append_assoc]

example : fprint [.strings ["psql", "-f", "-"], .string "pg@sha256:1", .string "ex@sha256:2"] =
    "[psql -f -]pg@sha256:1ex@sha256:2" := by decide

/-- For a fixed exec, the bytes written determine the image IDs' concatenation, and nothing
more. -/
theorem hashedExec_eq_iff (call : ExecCall) (pgImageSHA exporterImageSHA pgImageSHA'
    exporterImageSHA' : String) :
    hashedExec pgImageSHA exporterImageSHA call = hashedExec pgImageSHA' exporterImageSHA' call ↔
      pgImageSHA ++ exporterImageSHA = pgImageSHA' ++ exporterImageSHA' := by
  rw [hashedExec_eq, hashedExec_eq]
  exact ⟨fun h => String.ext (List.append_cancel_left (congrArg String.data h)),
    fun h => h ▸ rfl⟩

/-- Two strings cut at one boundary are the same pieces when the pieces agree on the left, on
the right, or in the length of the left piece. -/
theorem append_eq_append_pieces {a b a' b' : String} (h : a ++ b = a' ++ b')
    (hsplit : a = a' ∨ b = b' ∨ a.length = a'.length) : a = a' ∧ b = b' := by
  have hdata : a.data ++ b.data = a'.data ++ b'.data := congrArg String.data h
  rcases hsplit with rfl | rfl | hlength
  · exact ⟨rfl, String.ext (List.append_cancel_left hdata)⟩
  · exact ⟨String.ext (List.append_cancel_right hdata), rfl⟩
  · obtain ⟨ha, hb⟩ := List.append_inj hdata hlength
    exact ⟨String.ext ha, String.ext hb⟩

/-- Image IDs with the same concatenation make an action write the same bytes. -/
theorem hashInput_congr {pgImageSHA exporterImageSHA pgImageSHA' exporterImageSHA' : String}
    (h : pgImageSHA ++ exporterImageSHA = pgImageSHA' ++ exporterImageSHA')
    (calls : List ExecCall) :
    hashInput pgImageSHA exporterImageSHA calls =
      hashInput pgImageSHA' exporterImageSHA' calls := by
  induction calls with
  | nil => rfl
  | cons call calls ih =>
      rw [hashInput, hashInput, ih, (hashedExec_eq_iff call _ _ _ _).mpr h]

/-- Each exec adds the image IDs' length once. -/
theorem length_hashInput (pgImageSHA exporterImageSHA : String) (calls : List ExecCall) :
    (hashInput pgImageSHA exporterImageSHA calls).length =
      (hashInput "" "" calls).length + calls.length * (pgImageSHA ++ exporterImageSHA).length := by
  induction calls with
  | nil => simp [hashInput]
  | cons call calls ih =>
      rw [hashInput, hashInput, String.length_append, String.length_append, ih, hashedExec_eq,
        hashedExec_eq, List.length_cons, Nat.succ_mul]
      simp only [String.length_append, String.length_empty]
      omega

/-- Over an action that sends at least one exec, the bytes written to the hasher determine the
image IDs' concatenation, and nothing more. -/
theorem hashInput_eq_iff {calls : List ExecCall} (hcalls : calls ≠ [])
    (pgImageSHA exporterImageSHA pgImageSHA' exporterImageSHA' : String) :
    hashInput pgImageSHA exporterImageSHA calls = hashInput pgImageSHA' exporterImageSHA' calls ↔
      pgImageSHA ++ exporterImageSHA = pgImageSHA' ++ exporterImageSHA' := by
  refine ⟨fun h => ?_, fun h => hashInput_congr h calls⟩
  have hlength : (pgImageSHA ++ exporterImageSHA).length =
      (pgImageSHA' ++ exporterImageSHA').length := by
    have htotal := congrArg String.length h
    rw [length_hashInput, length_hashInput pgImageSHA'] at htotal
    exact Nat.eq_of_mul_eq_mul_left (List.length_pos.mpr hcalls) (by omega)
  obtain ⟨call, calls, rfl⟩ := List.exists_cons_of_ne_nil hcalls
  have hblock : (hashedExec pgImageSHA exporterImageSHA call).length =
      (hashedExec pgImageSHA' exporterImageSHA' call).length := by
    rw [hashedExec_eq, hashedExec_eq]
    simp only [String.length_append] at hlength ⊢
    omega
  have hdata := congrArg String.data h
  simp only [hashInput, String.data_append] at hdata
  exact (hashedExec_eq_iff call _ _ _ _).mp (String.ext (List.append_inj hdata hblock).1)

/-- With the same stdin and command, two pairs of image IDs write the same bytes exactly when
their concatenations are equal: a change of only one ID, or of IDs of unchanged lengths, changes
the bytes, and so does it change what the whole action writes to `safeHash32`. -/
theorem hashedExec_image_ids (call : ExecCall)
    (pgImageSHA exporterImageSHA pgImageSHA' exporterImageSHA' : String) :
    (hashedExec pgImageSHA exporterImageSHA call = hashedExec pgImageSHA' exporterImageSHA' call ↔
      pgImageSHA ++ exporterImageSHA = pgImageSHA' ++ exporterImageSHA') ∧
    (hashedExec pgImageSHA exporterImageSHA call = hashedExec pgImageSHA' exporterImageSHA' call →
      pgImageSHA = pgImageSHA' ∨ exporterImageSHA = exporterImageSHA' ∨
        pgImageSHA.length = pgImageSHA'.length →
      pgImageSHA = pgImageSHA' ∧ exporterImageSHA = exporterImageSHA') ∧
    ∀ calls : List ExecCall, calls ≠ [] →
      (hashInput pgImageSHA exporterImageSHA calls =
          hashInput pgImageSHA' exporterImageSHA' calls ↔
        pgImageSHA ++ exporterImageSHA = pgImageSHA' ++ exporterImageSHA') :=
  ⟨hashedExec_eq_iff call _ _ _ _,
    fun h => append_eq_append_pieces ((hashedExec_eq_iff call _ _ _ _).mp h),
    fun _ hcalls => hashInput_eq_iff hcalls _ _ _ _⟩

/-! ## One call -/

/-- A `v1beta1.PostgresCluster` as `reconcilePGMonitorExporter` reads it:
`pgmonitor.ExporterEnabled(cluster)`, `Spec.PostgresVersion` and
`Status.Monitoring.ExporterConfiguration`. -/
structure PostgresCluster where
  exporterEnabled : Bool
  postgresVersion : Nat
  exporterConfiguration : String
  deriving DecidableEq, Repr

/-- A container status of the writable pod: its name and image ID. -/
structure ContainerStatus where
  name : String
  imageID : String
  deriving DecidableEq, Repr

/-- The pod and instance `instances.writablePod(naming.ContainerDatabase)` returns, as the
function reads them: `IsRunning(naming.ContainerPGMonitorExporter)`, which answers running and
known, and the pod's container statuses. -/
structure WritablePod where
  exporterRunning : Bool
  exporterKnown : Bool
  containerStatuses : List ContainerStatus
  deriving DecidableEq, Repr

/-- The exec calls of the SQL action: those of `EnableExporterInPostgreSQL` with the monitoring
secret and `exporterDB`, for each setup SQL, and those of `DisableExporterInPostgreSQL`. -/
structure ExporterAction where
  enable : String → List ExecCall
  disable : List ExecCall

/-- What `PodExec` answers in one call: the stdout of `GetExporterSetupSQL`'s exec in the exporter
container, or its error, and the error, if any, of the `n`-th exec the action sends to the
database container. -/
structure PodExecAnswers where
  setupSQL : Except Error String
  database : Nat → Option Error

/-- A `PodExec` into the writable pod: the read of the setup SQL for a PostgreSQL version in the
exporter container, or one exec of the action in the database container. -/
inductive PodExec
  | setupSQL (postgresVersion : Nat)
  | database (call : ExecCall)
  deriving DecidableEq, Repr

/-- What a call returns, the `PodExec`s it issued in order, and
`Status.Monitoring.ExporterConfiguration` after it. -/
structure ExporterOutcome where
  err : Option Error
  podExecs : List PodExec
  exporterConfiguration : String
  deriving DecidableEq, Repr

/-- The loop over the writable pod's container statuses: `(pgImageSHA, exporterImageSHA)`, the
image ID of the last status of each container, `""` when it has none. -/
def containerImageIDs (statuses : List ContainerStatus) : String × String :=
  statuses.foldl (fun ids status =>
    (if status.name = ContainerDatabase then status.imageID else ids.1,
      if status.name = ContainerPGMonitorExporter then status.imageID else ids.2)) ("", "")

/-- Lines 85-119: the image IDs that go into the hash, both `""` with the exporter disabled, or
`none` where the function returns early: no writable pod, an exporter container not known to be
running, or an image ID missing. -/
def hashedImageIDs (exporterEnabled : Bool) : Option WritablePod → Option (String × String)
  | none => none
  | some pod =>
      if exporterEnabled then
        if !pod.exporterRunning || !pod.exporterKnown then none
        else
          let ids := containerImageIDs pod.containerStatuses
          if ids.2 = "" ∨ ids.1 = "" then none else some ids
      else some ("", "")

/-- The exec calls `action` sends for a setup SQL. -/
def actionCalls (exporterEnabled : Bool) (action : ExporterAction) (setup : String) :
    List ExecCall :=
  if exporterEnabled then action.enable setup else action.disable

/-- Lines 134-150: the revision, `safeHash32` over what `action` writes to the hashing executor,
or `none` where the function returns before it. The closure reads `setup` when it runs, and
`setup` is fetched after the hash: the hash sees `""`. -/
def exporterRevision (hash : String → String) (cluster : PostgresCluster)
    (writable : Option WritablePod) (action : ExporterAction) : Option String :=
  (hashedImageIDs cluster.exporterEnabled writable).map fun ids =>
    hash (hashInput ids.1 ids.2 (actionCalls cluster.exporterEnabled action ""))

/-- The action run by `PodExec` in the database container, whose `n`-th exec answers
`answer n`: the execs it sent, in order, and the error it returns. It stops at its first failed
exec. -/
def runAction (answer : Nat → Option Error) : List ExecCall → List ExecCall × Option Error
  | [] => ([], none)
  | call :: calls =>
      match answer 0 with
      | some err => ([call], some err)
      | none =>
          let rest := runAction (fun n => answer (n + 1)) calls
          (call :: rest.1, rest.2)

/-- Lines 159-173, for a revision that differs from the recorded one: with the exporter enabled,
fetch the setup SQL; if that succeeded, run the action with it in the database container; record
the revision when no error is left. -/
def applyExporterRevision (cluster : PostgresCluster) (action : ExporterAction)
    (answers : PodExecAnswers) (revision : String) : ExporterOutcome :=
  match if cluster.exporterEnabled then answers.setupSQL else .ok "" with
  | .error err =>
      ⟨some err, [.setupSQL cluster.postgresVersion], cluster.exporterConfiguration⟩
  | .ok setup =>
      let sent := runAction answers.database (actionCalls cluster.exporterEnabled action setup)
      ⟨sent.2,
        (if cluster.exporterEnabled then [.setupSQL cluster.postgresVersion] else []) ++
          sent.1.map .database,
        if sent.2 = none then revision else cluster.exporterConfiguration⟩

/-- `reconcilePGMonitorExporter`. -/
def reconcilePGMonitorExporter (hash : String → String) (cluster : PostgresCluster)
    (writable : Option WritablePod) (action : ExporterAction) (answers : PodExecAnswers) :
    ExporterOutcome :=
  match exporterRevision hash cluster writable action with
  | none => ⟨none, [], cluster.exporterConfiguration⟩
  | some revision =>
      if revision ≠ cluster.exporterConfiguration then
        applyExporterRevision cluster action answers revision
      else ⟨none, [], cluster.exporterConfiguration⟩

/-- The action returns no error exactly when each exec it sends is answered with none. -/
theorem runAction_snd_eq_none_iff (answer : Nat → Option Error) (calls : List ExecCall) :
    (runAction answer calls).2 = none ↔ ∀ i < calls.length, answer i = none := by
  induction calls generalizing answer with
  | nil => simp [runAction]
  | cons call calls ih =>
      simp only [runAction]
      split
      · next err hfirst =>
          exact iff_of_false (by simp) fun hall => by simp [hall 0 (by simp)] at hfirst
      · next hfirst =>
          rw [ih]
          constructor
          · intro hrest i hi
            cases i with
            | zero => exact hfirst
            | succ i => exact hrest i (by simpa using hi)
          · exact fun hall i hi => hall (i + 1) (by simpa using hi)

/-- A call that acts on a revision either records it, after the setup SQL was fetched (with the
exporter enabled) and every exec of the action succeeded, or returns an error and keeps the
recorded configuration. -/
theorem applyExporterRevision_cases (cluster : PostgresCluster) (action : ExporterAction)
    (answers : PodExecAnswers) (revision : String) :
    ((applyExporterRevision cluster action answers revision).err = none ∧
      (applyExporterRevision cluster action answers revision).exporterConfiguration = revision ∧
      ∃ setup, (cluster.exporterEnabled = true → answers.setupSQL = .ok setup) ∧
        ∀ i < (actionCalls cluster.exporterEnabled action setup).length,
          answers.database i = none) ∨
    ((applyExporterRevision cluster action answers revision).err ≠ none ∧
      (applyExporterRevision cluster action answers revision).exporterConfiguration =
        cluster.exporterConfiguration) := by
  unfold applyExporterRevision
  split
  · exact .inr ⟨by simp, rfl⟩
  · next setup hsetup =>
      by_cases hsent :
          (runAction answers.database (actionCalls cluster.exporterEnabled action setup)).2 = none
      · refine .inl ⟨hsent, if_pos hsent, setup, fun henabled => ?_,
          (runAction_snd_eq_none_iff _ _).mp hsent⟩
        simpa [henabled] using hsetup
      · exact .inr ⟨hsent, if_neg hsent⟩

/-- Nothing is left to do: the function returns before computing a revision, or the revision
it computes is the recorded one. -/
def Settled (hash : String → String) (cluster : PostgresCluster) (writable : Option WritablePod)
    (action : ExporterAction) : Prop :=
  exporterRevision hash cluster writable action = none ∨
    exporterRevision hash cluster writable action = some cluster.exporterConfiguration

section Calls

variable (hash : String → String) (cluster : PostgresCluster) (writable : Option WritablePod)
  (action : ExporterAction)

/-- A call on a settled cluster returns no error, issues no `PodExec` and changes nothing. -/
theorem reconcilePGMonitorExporter_settled (h : Settled hash cluster writable action)
    (answers : PodExecAnswers) :
    reconcilePGMonitorExporter hash cluster writable action answers =
      ⟨none, [], cluster.exporterConfiguration⟩ := by
  unfold reconcilePGMonitorExporter
  rcases h with h | h <;> simp [h]

/-- A call either finds the cluster settled and changes nothing, or acts on a revision that
differs from the recorded one. -/
theorem reconcilePGMonitorExporter_cases (answers : PodExecAnswers) :
    (Settled hash cluster writable action ∧
      reconcilePGMonitorExporter hash cluster writable action answers =
        ⟨none, [], cluster.exporterConfiguration⟩) ∨
    ∃ revision, exporterRevision hash cluster writable action = some revision ∧
      revision ≠ cluster.exporterConfiguration ∧
      reconcilePGMonitorExporter hash cluster writable action answers =
        applyExporterRevision cluster action answers revision := by
  by_cases hsettled : Settled hash cluster writable action
  · exact .inl ⟨hsettled, reconcilePGMonitorExporter_settled hash cluster writable action
      hsettled answers⟩
  · obtain ⟨revision, hrevision⟩ := Option.ne_none_iff_exists'.mp (not_or.mp hsettled).1
    have hne : revision ≠ cluster.exporterConfiguration :=
      fun heq => hsettled (.inr (heq ▸ hrevision))
    refine .inr ⟨revision, hrevision, hne, ?_⟩
    rw [reconcilePGMonitorExporter, hrevision]
    exact if_pos hne

/-- After a call that returns no error, the cluster with the configuration it recorded is
settled. -/
theorem settled_of_err_eq_none (answers : PodExecAnswers)
    (h : (reconcilePGMonitorExporter hash cluster writable action answers).err = none) :
    Settled hash { cluster with
      exporterConfiguration :=
        (reconcilePGMonitorExporter hash cluster writable action answers).exporterConfiguration }
      writable action := by
  rcases reconcilePGMonitorExporter_cases hash cluster writable action answers with
    ⟨hsettled, hout⟩ | ⟨revision, hrevision, -, hout⟩
  · rw [hout]
    exact hsettled
  · rw [hout] at h ⊢
    rcases applyExporterRevision_cases cluster action answers revision with
      ⟨-, hconfig, -⟩ | ⟨herr, -⟩
    · exact .inr (show exporterRevision hash cluster writable action = _ by
        rw [hconfig]; exact hrevision)
    · exact absurd h herr

/-- Successive calls on one cluster with the same writable pod and action, each meeting its own
`PodExec` answers: `ExporterConfiguration` after them, and every `PodExec` they issued. An error
requeues the cluster and leaves nothing the next call reads. -/
def runExporter : PostgresCluster → List PodExecAnswers → String × List PodExec
  | cluster, [] => (cluster.exporterConfiguration, [])
  | cluster, answers :: rest =>
      let out := reconcilePGMonitorExporter hash cluster writable action answers
      let later := runExporter { cluster with exporterConfiguration := out.exporterConfiguration }
        rest
      (later.1, out.podExecs ++ later.2)

/-- From a settled cluster, no call issues a `PodExec` or changes the configuration. -/
theorem runExporter_settled (h : Settled hash cluster writable action)
    (answers : List PodExecAnswers) :
    runExporter hash writable action cluster answers = (cluster.exporterConfiguration, []) := by
  induction answers with
  | nil => rfl
  | cons first rest ih =>
      simp only [runExporter, reconcilePGMonitorExporter_settled hash cluster writable action h,
        List.nil_append]
      rw [show ({ cluster with exporterConfiguration := cluster.exporterConfiguration } :
        PostgresCluster) = cluster from rfl, ih]

/-- After a call that returns no error, every later call with the same inputs is quiet: the run
issues only the first call's `PodExec`s and ends with the configuration it recorded. -/
theorem runExporter_of_err_eq_none (first : PodExecAnswers) (rest : List PodExecAnswers)
    (h : (reconcilePGMonitorExporter hash cluster writable action first).err = none) :
    runExporter hash writable action cluster (first :: rest) =
      ((reconcilePGMonitorExporter hash cluster writable action first).exporterConfiguration,
        (reconcilePGMonitorExporter hash cluster writable action first).podExecs) := by
  simp only [runExporter,
    runExporter_settled hash _ writable action (settled_of_err_eq_none hash cluster writable action
      first h), List.append_nil]

/-- Two calls with the exporter disabled, the first dropping the exporter's objects: the run
issues only the first call's `PodExec`s. -/
theorem runExporter_of_err_eq_none_disabled :
    let action : ExporterAction := ⟨fun _ => [], [⟨"DROP", ["psql"]⟩]⟩
    let cluster : PostgresCluster := ⟨false, 16, ""⟩
    let first : PodExecAnswers := ⟨.ok "", fun _ => none⟩
    (reconcilePGMonitorExporter id cluster (some ⟨true, true, []⟩) action first).err = none ∧
    runExporter id (some ⟨true, true, []⟩) action cluster [first, first] =
      ((reconcilePGMonitorExporter id cluster (some ⟨true, true, []⟩) action first).exporterConfiguration,
        (reconcilePGMonitorExporter id cluster (some ⟨true, true, []⟩) action first).podExecs) :=
  ⟨by decide, runExporter_of_err_eq_none id _ _ _ _ _ (by decide)⟩

example : runExporter id (some ⟨true, true, []⟩) ⟨fun _ => [], [⟨"DROP", ["psql"]⟩]⟩
    ⟨false, 16, ""⟩ [⟨.ok "", fun _ => none⟩, ⟨.ok "", fun _ => none⟩] =
      ("DROP[psql]", [.database ⟨"DROP", ["psql"]⟩]) := by decide

/-- `reconcilePGMonitorExporter` issues `PodExec`s only for a revision that differs from the
recorded one. It records only that revision, and only after the setup SQL (with the exporter
enabled) and every exec of the action succeeded; it keeps the configuration when it returns an
error. After a call with no error, a second call with the same inputs issues nothing and changes
nothing, whatever `PodExec` would answer. -/
theorem exporter_execs_only_on_new_revision (answers : PodExecAnswers) :
    let out := reconcilePGMonitorExporter hash cluster writable action answers
    (out.podExecs ≠ [] → ∃ revision,
      exporterRevision hash cluster writable action = some revision ∧
        revision ≠ cluster.exporterConfiguration) ∧
    (out.exporterConfiguration ≠ cluster.exporterConfiguration →
      exporterRevision hash cluster writable action = some out.exporterConfiguration ∧
      out.err = none ∧
      ∃ setup, (cluster.exporterEnabled = true → answers.setupSQL = .ok setup) ∧
        ∀ i < (actionCalls cluster.exporterEnabled action setup).length,
          answers.database i = none) ∧
    (out.err ≠ none → out.exporterConfiguration = cluster.exporterConfiguration) ∧
    (out.err = none → ∀ answers' : PodExecAnswers,
      reconcilePGMonitorExporter hash
          { cluster with exporterConfiguration := out.exporterConfiguration } writable action
          answers' =
        ⟨none, [], out.exporterConfiguration⟩) := by
  dsimp only
  have hsecond := fun herr answers' => reconcilePGMonitorExporter_settled hash _ writable action
    (settled_of_err_eq_none hash cluster writable action answers herr) answers'
  rcases reconcilePGMonitorExporter_cases hash cluster writable action answers with
    ⟨-, hout⟩ | ⟨revision, hrevision, hne, hout⟩
  · refine ⟨fun h => ?_, fun h => ?_, fun h => ?_, hsecond⟩ <;> simp [hout] at h
  · rw [hout] at hsecond ⊢
    rcases applyExporterRevision_cases cluster action answers revision with
      ⟨herr, hconfig, hsetup⟩ | ⟨herr, hconfig⟩
    · exact ⟨fun _ => ⟨revision, hrevision, hne⟩,
        fun _ => ⟨by rw [hconfig]; exact hrevision, herr, hsetup⟩, fun h => absurd herr h, hsecond⟩
    · exact ⟨fun _ => ⟨revision, hrevision, hne⟩, fun h => absurd hconfig h, fun _ => hconfig,
        hsecond⟩

end Calls

/-- Image IDs that move from `("ab", "c")` to `("a", "bc")`, the boundary between them shifted:
for every hash, cluster, action and `PodExec` answers, after a call on the first pod that
returned no error, a call on the updated pod issues no `PodExec` and changes nothing. The setup
does not run again on that image update. -/
theorem hashedExec_image_boundary :
    let before : WritablePod := ⟨true, true,
      [⟨ContainerDatabase, "ab"⟩, ⟨ContainerPGMonitorExporter, "c"⟩]⟩
    let after : WritablePod := ⟨true, true,
      [⟨ContainerDatabase, "a"⟩, ⟨ContainerPGMonitorExporter, "bc"⟩]⟩
    containerImageIDs before.containerStatuses = ("ab", "c") ∧
    containerImageIDs after.containerStatuses = ("a", "bc") ∧
    ∀ (hash : String → String) (cluster : PostgresCluster) (action : ExporterAction)
      (answers answers' : PodExecAnswers),
      let out := reconcilePGMonitorExporter hash cluster (some before) action answers
      out.err = none →
      reconcilePGMonitorExporter hash { cluster with exporterConfiguration := out.exporterConfiguration }
          (some after) action answers' = ⟨none, [], out.exporterConfiguration⟩ := by
  intro before after
  have hrevision : ∀ hash cluster action, exporterRevision hash cluster (some before) action =
      exporterRevision hash cluster (some after) action := by
    intro hash cluster action
    unfold exporterRevision
    cases cluster.exporterEnabled
    · rfl
    · rw [show hashedImageIDs true (some before) = some ("ab", "c") from rfl,
        show hashedImageIDs true (some after) = some ("a", "bc") from rfl]
      exact congrArg (some ∘ hash) (hashInput_congr (by decide) _)
  refine ⟨rfl, rfl, fun hash cluster action answers answers' herr => ?_⟩
  apply reconcilePGMonitorExporter_settled
  have hsettled := settled_of_err_eq_none hash cluster (some before) action answers herr
  unfold Settled at hsettled ⊢
  rwa [← hrevision]

end IvoryOperator.Monitoring
