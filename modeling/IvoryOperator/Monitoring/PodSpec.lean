import Mathlib.Data.List.Basic
import IvoryOperator.Monitoring.Exporter

/-!
# The exporter container and its TLS web config

`addPGMonitorToInstancePodSpec` adds the metrics exporter to an instance's pod template: a
container, a volume with the exporter's configuration, the discovery label and, with a custom TLS
secret, `configureExporterTLS`'s certificate and web-config volumes, mounted into the exporter
container. The web-config volume names the ConfigMap that `reconcileExporterWebConfig` keeps,
through a pointer that is nil when that function returned none.

Read `addPGMonitorToInstancePodSpec_webConfig` first. The pod-spec builder fed the ConfigMap that
`reconcileExporterWebConfig` returned, after a call with no error, never dereferences a nil
pointer, and it would for a nil ConfigMap exactly when the exporter is enabled with a custom TLS
secret. `addPGMonitorToInstancePodSpec_some` says what the builder adds to every template, and
`addPGMonitorToInstancePodSpec_wellFormed` that mounts keep naming volumes and volume names stay
distinct. `configureExporterTLS_lastExporter`: the loop over the containers ends at the last one
named `exporter`, and only that container gets the TLS mounts. `runWebConfig_converges`: over
any run, the stored ConfigMap is the initial one or the one the cluster asks for, under the
cluster's controller reference. After a call that returns no error it is the one the cluster asks
for, unless the cluster asks for none and the store holds a ConfigMap the cluster does not
control, which `deleteControlled` never deletes.

`ExporterEnabled`, `PGExporterContainerImage`, `MonitoringUserSecret`, `ExporterWebConfigMap`,
`MonitoringUser`, `PortExporter`, `LabelPGMonitorDiscovery`, `Get`, `apply`,
`setControllerReference` and `deleteControlled` are declared outside src/; `deleteControlled` is
`IvoryOperator.Meta.deleteControlled`. Of the corev1 objects
the model keeps the fields these functions set or read. The container's security context,
`initialize.RestrictedSecurityContext()`, and the metadata `naming.Merge` gives the ConfigMap are
left out.
-/

namespace IvoryOperator.Monitoring

open IvoryOperator.Meta

/-! ## Pod templates -/

/-- A container's `corev1.ResourceRequirements`: the limits and requests, each a resource name
with its quantity. -/
structure ResourceRequirements where
  limits : List (String × Int)
  requests : List (String × Int)
  deriving DecidableEq, Repr

/-- A `corev1.SecretProjection`, by the name of its secret; its items are left out. -/
structure SecretProjection where
  name : String
  deriving DecidableEq, Repr

/-- A `corev1.VolumeProjection`: a secret or a ConfigMap, each a pointer that may be nil. -/
structure VolumeProjection where
  secret : Option SecretProjection
  configMap : Option String
  deriving DecidableEq, Repr

/-- The source of a volume: projected sources, or a ConfigMap by name. -/
inductive VolumeSource
  | projected (sources : List VolumeProjection)
  | configMap (name : String)
  deriving DecidableEq, Repr

/-- A `corev1.Volume`. -/
structure Volume where
  name : String
  source : VolumeSource
  deriving DecidableEq, Repr

/-- A `corev1.VolumeMount`. -/
structure VolumeMount where
  name : String
  mountPath : String
  deriving DecidableEq, Repr

/-- The value of a `corev1.EnvVar`: a literal, or a key of a secret. -/
inductive EnvValue
  | value (value : String)
  | secretKeyRef (secretName key : String)
  deriving DecidableEq, Repr

/-- A `corev1.EnvVar`. -/
structure EnvVar where
  name : String
  value : EnvValue
  deriving DecidableEq, Repr

/-- A `corev1.ContainerPort`. -/
structure ContainerPort where
  containerPort : Int
  name : String
  protocol : String
  deriving DecidableEq, Repr

/-- A `corev1.Container`. -/
structure Container where
  name : String
  image : String
  imagePullPolicy : String
  resources : ResourceRequirements
  command : List String
  env : List EnvVar
  ports : List ContainerPort
  volumeMounts : List VolumeMount
  deriving DecidableEq, Repr

/-- A `corev1.PodTemplateSpec`: its labels, containers and volumes. -/
structure PodTemplateSpec where
  labels : List (String × String)
  containers : List Container
  volumes : List Volume
  deriving DecidableEq, Repr

/-- `labels[key] = value` on a label map. -/
def setLabel (labels : List (String × String)) (key value : String) : List (String × String) :=
  (key, value) :: labels.filter (·.1 ≠ key)

/-! ## The exporter container -/

/-- `exporterPort`. -/
def exporterPort : Int := 9187

/-- `exporterHost`. -/
def exporterHost : String := "localhost"

/-- `exporterDB`. -/
def exporterDB : String := "postgres"

/-- `pgmonitor.MonitoringUser`, `naming.PortExporter` and `naming.LabelPGMonitorDiscovery`,
declared outside src/. -/
structure PGMonitorNames where
  monitoringUser : String
  portExporter : String
  labelPGMonitorDiscovery : String

/-- A `v1beta1.PostgresCluster` as the exporter's pod-spec and web-config functions read it:
`pgmonitor.ExporterEnabled(cluster)`, `config.PGExporterContainerImage(cluster)`,
`Spec.ImagePullPolicy`, `Spec.Port`, the exporter's resources, configuration and custom TLS
secret, and the names `naming.MonitoringUserSecret(cluster).Name` and
`naming.ExporterWebConfigMap(cluster).Name`. -/
structure ExporterSpec where
  exporterEnabled : Bool
  image : String
  imagePullPolicy : String
  port : Int
  resources : ResourceRequirements
  configuration : List VolumeProjection
  customTLSSecret : Option SecretProjection
  monitoringUserSecret : String
  webConfigName : String
  deriving DecidableEq, Repr

/-- The exporter container's environment. -/
def exporterEnv (names : PGMonitorNames) (cluster : ExporterSpec) : List EnvVar :=
  [⟨"CONFIG_DIR", .value "/opt/cpm/conf"⟩,
    ⟨"POSTGRES_EXPORTER_PORT", .value (toString exporterPort)⟩,
    ⟨"PGBACKREST_INFO_THROTTLE_MINUTES", .value "10"⟩,
    ⟨"PG_STAT_STATEMENTS_LIMIT", .value "20"⟩,
    ⟨"PG_STAT_STATEMENTS_THROTTLE_MINUTES", .value "-1"⟩,
    ⟨"EXPORTER_PG_HOST", .value exporterHost⟩,
    ⟨"EXPORTER_PG_PORT", .value (toString cluster.port)⟩,
    ⟨"EXPORTER_PG_DATABASE", .value exporterDB⟩,
    ⟨"EXPORTER_PG_USER", .value names.monitoringUser⟩,
    ⟨"EXPORTER_PG_PASSWORD", .secretKeyRef cluster.monitoringUserSecret "password"⟩]

/-- The container `addPGMonitorExporterToInstancePodSpec` appends. -/
def exporterContainer (names : PGMonitorNames) (cluster : ExporterSpec) : Container where
  name := ContainerPGMonitorExporter
  image := cluster.image
  imagePullPolicy := cluster.imagePullPolicy
  resources := cluster.resources
  command := ["/opt/cpm/bin/start.sh"]
  env := exporterEnv names cluster
  ports := [⟨exporterPort, names.portExporter, "TCP"⟩]
  volumeMounts := [⟨"exporter-config", "/conf"⟩]

/-- `getExporterCertSecret`: the custom TLS secret, or nil. -/
def getExporterCertSecret (cluster : ExporterSpec) : Option SecretProjection :=
  cluster.customTLSSecret

/-- A ConfigMap, by its name and data. -/
structure ConfigMap where
  name : String
  data : List (String × String)
  deriving DecidableEq, Repr

/-- The loop of `configureExporterTLS` over the containers: `exporterContainer` ends pointing at
the last container named `exporter`, and `found` says whether there is one. -/
def findExporterContainer (containers : List Container) : Option Nat :=
  containers.enum.foldl (fun found entry =>
    if entry.2.name = ContainerPGMonitorExporter then some entry.1 else found) none

/-- The exporter container with the TLS mounts and `WEB_CONFIG_DIR` appended. -/
def withExporterTLS (container : Container) : Container :=
  { container with
    volumeMounts := container.volumeMounts ++
      [⟨"exporter-certs", "/certs"⟩, ⟨"web-config", "/web-config"⟩]
    env := container.env ++ [⟨"WEB_CONFIG_DIR", .value "web-config/"⟩] }

/-- `configureExporterTLS`, or `none` where it reads `exporterWebConfig.Name` through a nil
pointer. -/
def configureExporterTLS (cluster : ExporterSpec) (template : PodTemplateSpec)
    (exporterWebConfig : Option ConfigMap) : Option PodTemplateSpec :=
  match findExporterContainer template.containers with
  | some i =>
      if cluster.exporterEnabled && cluster.customTLSSecret.isSome then
        match exporterWebConfig with
        | none => none
        | some webConfig =>
            some { template with
              volumes := template.volumes ++
                [⟨"exporter-certs", .projected [⟨getExporterCertSecret cluster, none⟩]⟩,
                  ⟨"web-config", .configMap webConfig.name⟩]
              containers := template.containers.modify withExporterTLS i }
      else some template
  | none => some template

/-- `addPGMonitorExporterToInstancePodSpec`. It returns no error; `none` is a panic. -/
def addPGMonitorExporterToInstancePodSpec (names : PGMonitorNames) (cluster : ExporterSpec)
    (template : PodTemplateSpec) (exporterWebConfig : Option ConfigMap) :
    Option PodTemplateSpec :=
  if !cluster.exporterEnabled then some template
  else
    let template := { template with
      containers := template.containers ++ [exporterContainer names cluster]
      volumes := template.volumes ++ [⟨"exporter-config", .projected cluster.configuration⟩] }
    let configured :=
      if cluster.customTLSSecret.isSome then configureExporterTLS cluster template exporterWebConfig
      else some template
    configured.map fun template =>
      { template with labels := setLabel template.labels names.labelPGMonitorDiscovery "true" }

/-- `addPGMonitorToInstancePodSpec`. -/
def addPGMonitorToInstancePodSpec (names : PGMonitorNames) (cluster : ExporterSpec)
    (template : PodTemplateSpec) (exporterWebConfig : Option ConfigMap) :
    Option PodTemplateSpec :=
  addPGMonitorExporterToInstancePodSpec names cluster template exporterWebConfig

/-! ## The web config -/

/-- The `web-config.yml` the ConfigMap holds. -/
def webConfigData : String :=
  "\n# Generated by postgres-operator. DO NOT EDIT.\n# Your changes will not be saved.\n\n\n" ++
    "# A certificate and a key file are needed to enable TLS.\ntls_server_config:\n" ++
    "  cert_file: /certs/tls.crt\n  key_file: /certs/tls.key"

/-- The ConfigMap `reconcileExporterWebConfig` applies. -/
def webConfigIntent (cluster : ExporterSpec) : ConfigMap :=
  ⟨cluster.webConfigName, [("web-config.yml", webConfigData)]⟩

/-- What one call of `reconcileExporterWebConfig` meets: the text of a failure of `Get` other
than NotFound, and the errors of the `Delete` of `deleteControlled`, of `setControllerReference`
and of `apply`. -/
structure WebConfigCall where
  getFailure : Option String
  deleted : Option Error
  controllerReference : Option Error
  applied : Option Error

/-- What a call returns (the ConfigMap and the error), and the ConfigMap stored after it. -/
structure WebConfigOutcome where
  returned : Option ConfigMap
  err : Option Error
  stored : Option (Stored ConfigMap)

/-- `reconcileExporterWebConfig` over the stored ConfigMap. `Get` answers NotFound exactly when
none is stored. An applied ConfigMap carries the cluster's controller reference. -/
def reconcileExporterWebConfig (cluster : ExporterSpec) (stored : Option (Stored ConfigMap))
    (call : WebConfigCall) : WebConfigOutcome :=
  match call.getFailure with
  | some failure => ⟨none, some ⟨false, failure⟩, stored⟩
  | none =>
      if !cluster.exporterEnabled || cluster.customTLSSecret.isNone then
        match stored with
        | none => ⟨none, none, none⟩
        | some existing =>
            let deleted := deleteControlled existing call.deleted
            ⟨none, ignoreNotFound deleted.1, deleted.2⟩
      else
        match call.controllerReference, call.applied with
        | some err, _ => ⟨none, some err, stored⟩
        | none, some err => ⟨none, some err, stored⟩
        | none, none =>
            ⟨some (webConfigIntent cluster), none, some ⟨webConfigIntent cluster, true⟩⟩

/-- `reconcileExporterWebConfig` call after call, for one cluster. -/
def runWebConfig (cluster : ExporterSpec) (stored : Option (Stored ConfigMap))
    (calls : List WebConfigCall) : Option (Stored ConfigMap) :=
  calls.foldl (fun stored call => (reconcileExporterWebConfig cluster stored call).stored) stored

/-- A run is its first call, then the rest from the store that call leaves. -/
theorem runWebConfig_cons (cluster : ExporterSpec) (stored : Option (Stored ConfigMap))
    (call : WebConfigCall) (calls : List WebConfigCall) :
    runWebConfig cluster stored (call :: calls) =
      runWebConfig cluster (reconcileExporterWebConfig cluster stored call).stored calls := rfl

/-! ## What the builder adds -/

/-- The exporter container is named `exporter`. -/
@[simp]
theorem exporterContainer_name (names : PGMonitorNames) (cluster : ExporterSpec) :
    (exporterContainer names cluster).name = ContainerPGMonitorExporter :=
  rfl

/-- One more container: the loop moves to it when it is named `exporter`. -/
theorem findExporterContainer_append_singleton (containers : List Container) (container : Container) :
    findExporterContainer (containers ++ [container]) =
      if container.name = ContainerPGMonitorExporter then some containers.length
      else findExporterContainer containers := by
  simp only [findExporterContainer, List.enum_append, List.foldl_append, List.enumFrom_singleton,
    List.foldl_cons, List.foldl_nil]

/-- After a container named `exporter` appended last, the loop stops at its index. -/
theorem findExporterContainer_append {container : Container} (containers : List Container)
    (h : container.name = ContainerPGMonitorExporter) :
    findExporterContainer (containers ++ [container]) = some containers.length := by
  rw [findExporterContainer_append_singleton, if_pos h]

/-- The container at `i` is named `exporter` and none after it is. -/
def LastExporter (containers : List Container) (i : Nat) : Prop :=
  containers[i]?.map (·.name) = some ContainerPGMonitorExporter ∧
    ∀ container ∈ containers.drop (i + 1), container.name ≠ ContainerPGMonitorExporter

instance (containers : List Container) (i : Nat) : Decidable (LastExporter containers i) :=
  inferInstanceAs (Decidable (_ ∧ _))

/-- With one more container, the last one named `exporter` is that container when it has the
name, and otherwise the last one before it. -/
theorem lastExporter_append_singleton {containers : List Container} {container : Container}
    {i : Nat} :
    LastExporter (containers ++ [container]) i ↔
      if container.name = ContainerPGMonitorExporter then i = containers.length
      else LastExporter containers i := by
  unfold LastExporter
  rcases Nat.lt_trichotomy i containers.length with hlt | rfl | hgt
  · have hdrop : i + 1 - containers.length = 0 := by omega
    rw [List.getElem?_append_left hlt, List.drop_append_eq_append_drop, hdrop, List.drop_zero,
      List.forall_mem_append, List.forall_mem_singleton]
    split
    · next hname => exact iff_of_false (fun h => h.2.2 hname) (Nat.ne_of_lt hlt)
    · next hname => exact ⟨fun h => ⟨h.1, h.2.1⟩, fun h => ⟨h.1, h.2, hname⟩⟩
  · rw [List.getElem?_concat_length, List.drop_append_eq_append_drop,
      List.drop_eq_nil_of_le (by omega), List.getElem?_eq_none (Nat.le_refl _),
      Nat.add_sub_cancel_left]
    simp
  · have hnone : (containers ++ [container])[i]? = none := List.getElem?_eq_none (by simp; omega)
    rw [hnone, List.getElem?_eq_none (by omega)]
    simp [Nat.ne_of_gt hgt]

/-- The loop of `configureExporterTLS` ends at the last container named `exporter`. -/
theorem findExporterContainer_eq_some_iff (containers : List Container) (i : Nat) :
    findExporterContainer containers = some i ↔ LastExporter containers i := by
  induction containers using List.reverseRecOn with
  | nil => simp [findExporterContainer, LastExporter]
  | append_singleton containers container ih =>
    rw [findExporterContainer_append_singleton, lastExporter_append_singleton]
    split
    · exact ⟨fun h => (Option.some.inj h).symm, fun h => h ▸ rfl⟩
    · exact ih

/-- The loop of `configureExporterTLS` finds nothing exactly when no container is named
`exporter`. -/
theorem findExporterContainer_eq_none_iff (containers : List Container) :
    findExporterContainer containers = none ↔
      ∀ container ∈ containers, container.name ≠ ContainerPGMonitorExporter := by
  induction containers using List.reverseRecOn with
  | nil => simp [findExporterContainer]
  | append_singleton containers container ih =>
    rw [findExporterContainer_append_singleton]
    split
    · next hname => simpa using ⟨container, .inr rfl, hname⟩
    · next hname => rw [ih, List.forall_mem_append, List.forall_mem_singleton, and_iff_left hname]

/-- Given a ConfigMap, `configureExporterTLS` leaves a template with no container named
`exporter` as it is. When the container at `i` is the last one named `exporter`, it appends the
certificate and web-config volumes, and gives that container, and no other, the TLS mounts and
`WEB_CONFIG_DIR`, exactly when the exporter is enabled with a custom TLS secret. -/
theorem configureExporterTLS_lastExporter (cluster : ExporterSpec) (template : PodTemplateSpec)
    (webConfig : ConfigMap) :
    ((∀ container ∈ template.containers, container.name ≠ ContainerPGMonitorExporter) →
      configureExporterTLS cluster template (some webConfig) = some template) ∧
    ∀ i, LastExporter template.containers i →
      configureExporterTLS cluster template (some webConfig) = some
        (if cluster.exporterEnabled && cluster.customTLSSecret.isSome then
          { template with
            volumes := template.volumes ++
              [⟨"exporter-certs", .projected [⟨cluster.customTLSSecret, none⟩]⟩,
                ⟨"web-config", .configMap webConfig.name⟩]
            containers := template.containers.modify withExporterTLS i }
        else template) := by
  refine ⟨fun hnone => ?_, fun i hlast => ?_⟩
  · rw [configureExporterTLS, (findExporterContainer_eq_none_iff _).mpr hnone]
  · rw [configureExporterTLS, (findExporterContainer_eq_some_iff _ i).mpr hlast]
    exact (apply_ite some _ _ _).symm

/-- `modify` at the index of the last element changes that element only. -/
theorem modify_append_length {α : Type} (l : List α) (a : α) (f : α → α) :
    (l ++ [a]).modify f l.length = l ++ [f a] := by
  induction l with
  | nil => rfl
  | cons b l ih => simp only [List.cons_append, List.length_cons, List.modify_succ_cons, ih]

/-- Given a ConfigMap, the builder returns the template unchanged when the exporter is disabled.
Enabled, it keeps every container and volume of the template, even one already named `exporter`,
and appends one exporter container, with the TLS mounts and environment exactly when there is a
custom TLS secret, the configuration volume and, with TLS, the certificate volume and the
web-config volume naming the ConfigMap; and it sets the discovery label. -/
theorem addPGMonitorToInstancePodSpec_some (names : PGMonitorNames) (cluster : ExporterSpec)
    (template : PodTemplateSpec) (webConfig : ConfigMap) :
    addPGMonitorToInstancePodSpec names cluster template (some webConfig) =
      some (if cluster.exporterEnabled then
        { labels := setLabel template.labels names.labelPGMonitorDiscovery "true"
          containers := template.containers ++
            [if cluster.customTLSSecret.isSome then withExporterTLS (exporterContainer names cluster)
              else exporterContainer names cluster]
          volumes := template.volumes ++ ⟨"exporter-config", .projected cluster.configuration⟩ ::
            if cluster.customTLSSecret.isSome then
              [⟨"exporter-certs", .projected [⟨cluster.customTLSSecret, none⟩]⟩,
                ⟨"web-config", .configMap webConfig.name⟩]
            else [] }
        else template) := by
  unfold addPGMonitorToInstancePodSpec addPGMonitorExporterToInstancePodSpec
  cases henabled : cluster.exporterEnabled
  · rfl
  · cases htls : cluster.customTLSSecret
    · simp
    · simp [configureExporterTLS, findExporterContainer_append, henabled, htls,
        modify_append_length, getExporterCertSecret]

/-- Given no ConfigMap, the builder dereferences the nil pointer exactly when the exporter is
enabled with a custom TLS secret. -/
theorem addPGMonitorToInstancePodSpec_none_iff (names : PGMonitorNames) (cluster : ExporterSpec)
    (template : PodTemplateSpec) :
    addPGMonitorToInstancePodSpec names cluster template none = none ↔
      cluster.exporterEnabled = true ∧ cluster.customTLSSecret.isSome = true := by
  unfold addPGMonitorToInstancePodSpec addPGMonitorExporterToInstancePodSpec
  cases henabled : cluster.exporterEnabled
  · simp
  · cases htls : cluster.customTLSSecret
    · simp
    · simp [configureExporterTLS, findExporterContainer_append, henabled, htls]

/-- Given no ConfigMap where no pointer is read, the builder does what it does given any. -/
theorem addPGMonitorToInstancePodSpec_none_eq (names : PGMonitorNames) (cluster : ExporterSpec)
    (template : PodTemplateSpec)
    (h : ¬(cluster.exporterEnabled = true ∧ cluster.customTLSSecret.isSome = true))
    (webConfig : ConfigMap) :
    addPGMonitorToInstancePodSpec names cluster template none =
      addPGMonitorToInstancePodSpec names cluster template (some webConfig) := by
  unfold addPGMonitorToInstancePodSpec addPGMonitorExporterToInstancePodSpec
  cases henabled : cluster.exporterEnabled
  · rfl
  · cases htls : cluster.customTLSSecret
    · rfl
    · simp [henabled, htls] at h

/-! ## Mounts name volumes -/

/-- A pod template whose every volume mount names one of its volumes, and whose volumes have
distinct names. -/
def WellFormed (template : PodTemplateSpec) : Prop :=
  (∀ container ∈ template.containers, ∀ mount ∈ container.volumeMounts,
    mount.name ∈ template.volumes.map (·.name)) ∧
  (template.volumes.map (·.name)).Nodup

instance (template : PodTemplateSpec) : Decidable (WellFormed template) :=
  inferInstanceAs (Decidable (_ ∧ _))

/-- Appending a container whose mounts name appended volumes, with fresh distinct names, keeps a
template well formed. -/
theorem wellFormed_append {template : PodTemplateSpec} (hwf : WellFormed template)
    (labels : List (String × String)) (container : Container) (volumes : List Volume)
    (hmounts : container.volumeMounts.map (·.name) ⊆ volumes.map (·.name))
    (hnodup : (volumes.map (·.name)).Nodup)
    (hfresh : ∀ name ∈ volumes.map (·.name), name ∉ template.volumes.map (·.name)) :
    WellFormed ⟨labels, template.containers ++ [container], template.volumes ++ volumes⟩ := by
  refine ⟨fun c hc mount hmount => ?_, ?_⟩
  · rw [List.map_append, List.mem_append]
    rcases List.mem_append.mp hc with hc | hc
    · exact .inl (hwf.1 c hc mount hmount)
    · rw [List.mem_singleton.mp hc] at hmount
      exact .inr (hmounts (List.mem_map_of_mem _ hmount))
  · rw [List.map_append]
    exact List.pairwise_append.mpr ⟨hwf.2, hnodup, fun _ hold name hnew hsame =>
      hfresh name hnew (hsame ▸ hold)⟩

/-- The builder keeps a template well formed, given that the template has no volume named
`exporter-config`, `exporter-certs` or `web-config`. -/
theorem addPGMonitorToInstancePodSpec_wellFormed (names : PGMonitorNames) (cluster : ExporterSpec)
    (template : PodTemplateSpec) (exporterWebConfig : Option ConfigMap) {template' : PodTemplateSpec}
    (hwf : WellFormed template)
    (hfresh : ∀ name ∈ ["exporter-config", "exporter-certs", "web-config"],
      name ∉ template.volumes.map (·.name))
    (h : addPGMonitorToInstancePodSpec names cluster template exporterWebConfig = some template') :
    WellFormed template' := by
  obtain ⟨webConfig, hsome⟩ : ∃ webConfig : ConfigMap,
      addPGMonitorToInstancePodSpec names cluster template (some webConfig) = some template' := by
    cases exporterWebConfig with
    | some webConfig => exact ⟨webConfig, h⟩
    | none =>
      have hsafe : ¬(cluster.exporterEnabled = true ∧ cluster.customTLSSecret.isSome = true) := by
        rw [← addPGMonitorToInstancePodSpec_none_iff names cluster template, h]
        exact Option.some_ne_none template'
      exact ⟨⟨"", []⟩, by rw [← addPGMonitorToInstancePodSpec_none_eq names cluster template hsafe, h]⟩
  rw [addPGMonitorToInstancePodSpec_some, Option.some.injEq] at hsome
  subst hsome
  cases cluster.exporterEnabled
  · exact hwf
  · cases cluster.customTLSSecret with
    | none =>
      exact wellFormed_append hwf _ _ _ (List.Subset.refl _) (List.pairwise_singleton _ _)
        fun name hname => hfresh name (List.mem_singleton.mp hname ▸ List.mem_cons_self _ _)
    | some _ =>
      exact wellFormed_append hwf _ _ _ (List.Subset.refl _)
        (by decide : ["exporter-config", "exporter-certs", "web-config"].Nodup) hfresh

/-- The builder run on an empty template with TLS keeps it well formed. -/
theorem addPGMonitorToInstancePodSpec_wellFormed_tls :
    ∃ template', addPGMonitorToInstancePodSpec ⟨"monitor", "exporter", "discovery"⟩
      ⟨true, "exporter:latest", "IfNotPresent", 5432, ⟨[], []⟩, [], some ⟨"exporter-tls"⟩,
        "hippo-monitoring", "hippo-exporter-web-config"⟩
      ⟨[], [], []⟩ (some ⟨"hippo-exporter-web-config", []⟩) = some template' ∧
      WellFormed template' :=
  ⟨_, rfl, addPGMonitorToInstancePodSpec_wellFormed ⟨"monitor", "exporter", "discovery"⟩
    ⟨true, "exporter:latest", "IfNotPresent", 5432, ⟨[], []⟩, [], some ⟨"exporter-tls"⟩,
      "hippo-monitoring", "hippo-exporter-web-config"⟩
    ⟨[], [], []⟩ (some ⟨"hippo-exporter-web-config", []⟩) (by decide) (by decide) rfl⟩

/-! ## The web config converges -/

/-- The ConfigMap a cluster asks for: the web config when the exporter is enabled with a custom
TLS secret, none otherwise. -/
def desiredWebConfig (cluster : ExporterSpec) : Option ConfigMap :=
  if cluster.exporterEnabled && cluster.customTLSSecret.isSome then some (webConfigIntent cluster)
  else none

/-- The store once a call has met the cluster's ask: the ConfigMap the cluster asks for, under the
cluster's controller reference. -/
def desiredWebConfigStored (cluster : ExporterSpec) : Option (Stored ConfigMap) :=
  (desiredWebConfig cluster).map fun webConfig => ⟨webConfig, true⟩

/-- The cluster asks for no ConfigMap exactly when `reconcileExporterWebConfig` takes its delete
branch. -/
theorem desiredWebConfig_eq (cluster : ExporterSpec) :
    desiredWebConfig cluster =
      if !cluster.exporterEnabled || cluster.customTLSSecret.isNone then none
      else some (webConfigIntent cluster) := by
  unfold desiredWebConfig
  cases cluster.exporterEnabled <;> cases cluster.customTLSSecret <;> rfl

/-- A call of `reconcileExporterWebConfig` either returns no error and the ConfigMap the cluster
asks for, leaving stored that ConfigMap or, where the cluster asks for none, a ConfigMap the
cluster does not control; or it returns an error and no ConfigMap and leaves the store as it
was. -/
theorem reconcileExporterWebConfig_outcome (cluster : ExporterSpec)
    (stored : Option (Stored ConfigMap)) (call : WebConfigCall) :
    (reconcileExporterWebConfig cluster stored call).err = none ∧
        (reconcileExporterWebConfig cluster stored call).returned = desiredWebConfig cluster ∧
        ((reconcileExporterWebConfig cluster stored call).stored = desiredWebConfigStored cluster ∨
          desiredWebConfig cluster = none ∧ ∃ existing, stored = some existing ∧
            existing.controlled = false ∧ (reconcileExporterWebConfig cluster stored call).stored = stored) ∨
      (reconcileExporterWebConfig cluster stored call).err ≠ none ∧
        (reconcileExporterWebConfig cluster stored call).returned = none ∧
        (reconcileExporterWebConfig cluster stored call).stored = stored := by
  unfold reconcileExporterWebConfig desiredWebConfigStored
  rw [desiredWebConfig_eq]
  cases call.getFailure with
  | some failure => exact .inr ⟨Option.some_ne_none _, rfl, rfl⟩
  | none =>
    dsimp only
    by_cases hunwanted : (!cluster.exporterEnabled || cluster.customTLSSecret.isNone) = true
    · rw [if_pos hunwanted, if_pos hunwanted]
      cases stored with
      | none => exact .inl ⟨rfl, rfl, .inl rfl⟩
      | some existing =>
        rcases deleteControlled_cases existing call.deleted with
          ⟨hignored, hdeleted | ⟨hcontrolled, hkept⟩⟩ | ⟨hfailed, hkept⟩
        · exact .inl ⟨hignored, rfl, .inl hdeleted⟩
        · exact .inl ⟨hignored, rfl, .inr ⟨rfl, existing, rfl, hcontrolled, hkept⟩⟩
        · exact .inr ⟨hfailed, rfl, hkept⟩
    · rw [if_neg hunwanted, if_neg hunwanted]
      cases call.controllerReference <;> cases call.applied
      exacts [.inl ⟨rfl, rfl, .inl rfl⟩, .inr ⟨Option.some_ne_none _, rfl, rfl⟩,
        .inr ⟨Option.some_ne_none _, rfl, rfl⟩, .inr ⟨Option.some_ne_none _, rfl, rfl⟩]

/-- A call leaves stored the ConfigMap the cluster asks for, or the store as it was. -/
theorem reconcileExporterWebConfig_stored (cluster : ExporterSpec)
    (stored : Option (Stored ConfigMap)) (call : WebConfigCall) :
    (reconcileExporterWebConfig cluster stored call).stored = desiredWebConfigStored cluster ∨
      (reconcileExporterWebConfig cluster stored call).stored = stored := by
  rcases reconcileExporterWebConfig_outcome cluster stored call with
    ⟨-, -, hdesired | ⟨-, -, -, -, hkept⟩⟩ | ⟨-, -, hkept⟩
  exacts [.inl hdesired, .inr hkept, .inr hkept]

/-- Where the cluster asks for no ConfigMap, a call keeps one the cluster does not control. -/
theorem reconcileExporterWebConfig_uncontrolled (cluster : ExporterSpec)
    {existing : Stored ConfigMap} (hcontrolled : existing.controlled = false)
    (hnone : desiredWebConfig cluster = none) (call : WebConfigCall) :
    (reconcileExporterWebConfig cluster (some existing) call).stored = some existing := by
  have hunwanted : (!cluster.exporterEnabled || cluster.customTLSSecret.isNone) = true := by
    by_contra hwanted
    rw [desiredWebConfig_eq, if_neg hwanted] at hnone
    cases hnone
  unfold reconcileExporterWebConfig
  cases call.getFailure with
  | some failure => rfl
  | none =>
    dsimp only
    rw [if_pos hunwanted, deleteControlled_of_not_controlled hcontrolled]

/-- The builder fed the ConfigMap that a call of `reconcileExporterWebConfig` returned without an
error never reads through a nil pointer; fed no ConfigMap, it does exactly when the exporter is
enabled with a custom TLS secret. -/
theorem addPGMonitorToInstancePodSpec_webConfig (names : PGMonitorNames) (cluster : ExporterSpec)
    (template : PodTemplateSpec) (stored : Option (Stored ConfigMap)) (call : WebConfigCall) :
    ((reconcileExporterWebConfig cluster stored call).err = none →
      (addPGMonitorToInstancePodSpec names cluster template
        (reconcileExporterWebConfig cluster stored call).returned).isSome) ∧
    (addPGMonitorToInstancePodSpec names cluster template none = none ↔
      cluster.exporterEnabled = true ∧ cluster.customTLSSecret.isSome = true) := by
  refine ⟨fun herr => ?_, addPGMonitorToInstancePodSpec_none_iff names cluster template⟩
  rcases reconcileExporterWebConfig_outcome cluster stored call with
    ⟨-, hreturned, -⟩ | ⟨hfailed, -⟩
  · rw [hreturned, desiredWebConfig]
    split
    · rw [addPGMonitorToInstancePodSpec_some]; rfl
    · next hwanted =>
      rw [addPGMonitorToInstancePodSpec_none_eq names cluster template (by simpa using hwanted)
        ⟨"", []⟩, addPGMonitorToInstancePodSpec_some]
      rfl
  · exact absurd herr hfailed

/-- A run from the ConfigMap the cluster asks for stays there. -/
theorem runWebConfig_desired (cluster : ExporterSpec) (calls : List WebConfigCall) :
    runWebConfig cluster (desiredWebConfigStored cluster) calls = desiredWebConfigStored cluster := by
  induction calls with
  | nil => rfl
  | cons call calls ih =>
    rw [runWebConfig_cons]
    rcases reconcileExporterWebConfig_stored cluster (desiredWebConfigStored cluster) call with h | h <;>
      rw [h, ih]

/-- Where the cluster asks for no ConfigMap, a run keeps one the cluster does not control. -/
theorem runWebConfig_uncontrolled (cluster : ExporterSpec) {existing : Stored ConfigMap}
    (hcontrolled : existing.controlled = false) (hnone : desiredWebConfig cluster = none)
    (calls : List WebConfigCall) :
    runWebConfig cluster (some existing) calls = some existing := by
  induction calls with
  | nil => rfl
  | cons call calls ih =>
    rw [runWebConfig_cons, reconcileExporterWebConfig_uncontrolled cluster hcontrolled hnone, ih]

/-- A run from a store holding the initial or the asked-for ConfigMap ends holding one of them. -/
theorem runWebConfig_initial_or_desired (cluster : ExporterSpec)
    {initial : Option (Stored ConfigMap)} (calls : List WebConfigCall)
    {stored : Option (Stored ConfigMap)}
    (hstored : stored = initial ∨ stored = desiredWebConfigStored cluster) :
    runWebConfig cluster stored calls = initial ∨
      runWebConfig cluster stored calls = desiredWebConfigStored cluster := by
  induction calls generalizing stored with
  | nil => exact hstored
  | cons call calls ih =>
    rw [runWebConfig_cons]
    refine ih ?_
    rcases reconcileExporterWebConfig_stored cluster stored call with h | h
    · exact .inr h
    · rw [h]; exact hstored

/-- A run through a given call goes on from the store that call leaves. -/
theorem runWebConfig_append_cons (cluster : ExporterSpec) (stored : Option (Stored ConfigMap))
    (calls : List WebConfigCall) (call : WebConfigCall) (later : List WebConfigCall) :
    runWebConfig cluster stored (calls ++ call :: later) =
      runWebConfig cluster
        (reconcileExporterWebConfig cluster (runWebConfig cluster stored calls) call).stored later := by
  simp only [runWebConfig, List.foldl_append, List.foldl_cons]

/-- Over any run of calls for one cluster, the store holds either the ConfigMap it started with or
the one the cluster asks for, under the cluster's controller reference. Once a call returns no
error, it holds the one the cluster asks for whatever calls follow, unless the cluster asks for
none and the store started with a ConfigMap the cluster does not control: that one is never
deleted. -/
theorem runWebConfig_converges (cluster : ExporterSpec) (stored : Option (Stored ConfigMap))
    (calls : List WebConfigCall) (call : WebConfigCall) (later : List WebConfigCall) :
    (runWebConfig cluster stored calls = stored ∨
      runWebConfig cluster stored calls = desiredWebConfigStored cluster) ∧
    ((reconcileExporterWebConfig cluster (runWebConfig cluster stored calls) call).err = none →
      runWebConfig cluster stored (calls ++ call :: later) = desiredWebConfigStored cluster ∨
        desiredWebConfig cluster = none ∧ ∃ existing, stored = some existing ∧
          existing.controlled = false ∧ runWebConfig cluster stored (calls ++ call :: later) = stored) ∧
    (desiredWebConfig cluster = none → ∀ existing, stored = some existing →
      existing.controlled = false → runWebConfig cluster stored calls = stored) := by
  have hrun := runWebConfig_initial_or_desired cluster calls (.inl (rfl : stored = stored))
  refine ⟨hrun, fun herr => ?_, fun hnone existing hexisting hcontrolled => ?_⟩
  · rw [runWebConfig_append_cons]
    rcases reconcileExporterWebConfig_outcome cluster (runWebConfig cluster stored calls) call with
      ⟨-, -, hdesired | ⟨hnone, existing, hexisting, hcontrolled, hkept⟩⟩ | ⟨hfailed, -⟩
    · exact .inl (by rw [hdesired, runWebConfig_desired])
    · rw [hkept, hexisting, runWebConfig_uncontrolled cluster hcontrolled hnone]
      rcases hrun with hinitial | hdesired
      · have hstored : stored = some existing := hinitial.symm.trans hexisting
        exact .inr ⟨hnone, existing, hstored, hcontrolled, hstored.symm⟩
      · exact .inl (hexisting.symm.trans hdesired)
    · exact absurd herr hfailed
  · rw [hexisting]
    exact runWebConfig_uncontrolled cluster hcontrolled hnone calls

end IvoryOperator.Monitoring
