import IvoryOperator.PGBackRest.Global

/-!
# The pgBackRest ConfigMap

`CreatePGBackRestConfigMapIntent` writes the ConfigMap every pgBackRest process of a cluster
reads: the configuration of the instances under `pgbackrest_instance.conf`, that of the TLS
server of the repository host under `pgbackrest-server.conf` and that of the repository host
under `pgbackrest_repo.conf`, and the configuration hash.

Read `instance_repoHost_global_agree` first. The `global` sections of an instance and of the
repository host, built by two functions, hold the same values under every key but `log-path` and
the six keys that point a repository with a volume at the repository host. So both sides of a
backup see the same paths, cloud storage and user overrides of every repository.
`CreatePGBackRestConfigMapIntent_data` lists the data. The server configuration is always there,
empty without a repository host, so that instances still mounting it keep a valid volume; the
repository host's configuration is there only with one.

`iniMultiSet.Add`, `iniSectionSet.String`, `DedicatedRepoHostEnabled`, `ivory.DataDirectory`,
`clientCommonName`, `naming.PGBackRestIPVersion` and the server certificate paths are declared
outside src/. The ConfigMap's metadata is left out.
-/

namespace IvoryOperator.PGBackRest

/-! ## The instance and the repository host agree -/

/-- After the same `Set`s, the values at a key depend only on the values at that key before. -/
theorem foldl_setValue_congr_at {key : String} (options : List (String × String)) :
    ∀ {values values' : String → List String}, values key = values' key →
      options.foldl setValue values key = options.foldl setValue values' key := by
  induction options with
  | nil => exact id
  | cons option options ih =>
    refine fun h => ih ?_
    unfold setValue
    split
    · rfl
    · exact h

/-- A run of `Set`s keeps two sections' values of a key equal. -/
theorem IniMultiSet.values_setAll_congr_at {ms ms' : IniMultiSet} {key : String}
    (h : ms.values key = ms'.values key) (options : List (String × String)) :
    (ms.setAll options).values key = (ms'.setAll options).values key := by
  rw [IniMultiSet.values_setAll, IniMultiSet.values_setAll]
  exact foldl_setValue_congr_at options h

section

variable (c : Constants)

/-- The repository-host options of a repository are its name with the six TLS suffixes. -/
theorem map_fst_repoHostTLSOptions (repoHostFQDN repoName : String) :
    (repoHostTLSOptions c repoHostFQDN repoName).map Prod.fst =
      tlsSuffixes.map (repoName ++ ·) :=
  rfl

/-- One iteration of each repository loop, from sections that agree at a key other than
`log-path` and the repository's host keys, leaves sections that agree there. -/
theorem repoStep_values_agree (repoHostName repoHostFQDN : String) {key : String}
    (hlog : key ≠ "log-path") {visit : PGBackRestRepo × List (String × String)}
    (htls : visit.1.volume → ∀ suffix ∈ tlsSuffixes, key ≠ visit.1.name ++ suffix)
    {global : IniMultiSet} {acc : IniMultiSet × Bool} (h : global.values key = acc.1.values key) :
    (global.setAll (instanceRepoSets c repoHostName repoHostFQDN visit.1 visit.2)).values key =
      (repoHostRepoStep c acc visit).1.values key := by
  have hsets := IniMultiSet.values_setAll_congr_at h (repoSets visit.1 visit.2)
  have hinstance : (global.setAll (instanceRepoSets c repoHostName repoHostFQDN visit.1 visit.2)).values
      key = (global.setAll (repoSets visit.1 visit.2)).values key := by
    rw [instanceRepoSets, IniMultiSet.setAll_append]
    split
    · next hhost =>
      refine IniMultiSet.values_setAll_of_not_mem _ fun hmem => ?_
      rw [map_fst_repoHostTLSOptions] at hmem
      obtain ⟨suffix, hsuffix, hkey⟩ := List.mem_map.mp hmem
      exact htls hhost.2 suffix hsuffix hkey.symm
    · rfl
  rw [hinstance, hsets, repoHostRepoStep]
  split
  · rw [IniMultiSet.values_set, setValue, if_neg hlog]
  · rfl

/-- Under a key other than `log-path` and the repository-host keys of the repositories with a
volume, the repository loops of an instance and of a repository host keep equal values. -/
theorem repoLoops_values_agree (repoHostName repoHostFQDN : String) {key : String}
    (hlog : key ≠ "log-path") (visited : List (PGBackRestRepo × List (String × String)))
    (htls : ∀ visit ∈ visited, visit.1.volume → ∀ suffix ∈ tlsSuffixes, key ≠ visit.1.name ++ suffix) :
    ∀ {global : IniMultiSet} {acc : IniMultiSet × Bool}, global.values key = acc.1.values key →
      (visited.foldl (fun global visit =>
          global.setAll (instanceRepoSets c repoHostName repoHostFQDN visit.1 visit.2)) global).values
        key = (visited.foldl (repoHostRepoStep c) acc).1.values key := by
  induction visited with
  | nil => exact id
  | cons visit visited ih =>
    exact fun h => ih (fun v hv => htls v (List.mem_cons_of_mem _ hv))
      (repoStep_values_agree c _ _ hlog (htls visit (List.mem_cons_self _ _)) h)

/-- The `global` sections of an instance and of the repository host hold the same values under
every key but `log-path` and the six keys that point a repository with a volume at the
repository host. -/
theorem instance_repoHost_global_agree
    (serviceName serviceNamespace repoHostName pgdataDir : String) (pgPort : Int)
    (pgHosts : List String) (repos : List PGBackRestRepo) (globalConfig : GoMap) {key : String}
    (hlog : key ≠ "log-path")
    (htls : ∀ repo ∈ repos, repo.volume → ∀ suffix ∈ tlsSuffixes, key ≠ repo.name ++ suffix) :
    ((populatePGInstanceConfigurationMap c serviceName serviceNamespace repoHostName pgdataDir
        pgPort repos globalConfig).section "global").values key =
      ((populateRepoHostConfigurationMap c serviceName serviceNamespace pgdataDir pgPort pgHosts
        repos globalConfig).section "global").values key := by
  simp only [populatePGInstanceConfigurationMap, populatePGInstanceConfigurationMapVisiting,
    populateRepoHostConfigurationMap, populateRepoHostConfigurationMapVisiting,
    section_configurationMap, if_true]
  refine IniMultiSet.values_setAll_congr_at (repoLoops_values_agree c _ _ hlog _ ?_ ?_) _
  · intro visit hvisit
    obtain ⟨repo, hrepo, rfl⟩ := List.mem_map.mp hvisit
    exact htls repo hrepo
  · rw [IniMultiSet.values_set, setValue, if_neg hlog]

end

/-- A volume repository `repo1` and an S3 repository `repo2`, with one override: both sides hold
the same bucket. -/
theorem instance_repoHost_global_agree_s3 :
    let c : Constants := ⟨"cluster.local", "/etc/pgbackrest/conf.d/ca.crt",
      "/etc/pgbackrest/conf.d/client.crt", "/etc/pgbackrest/conf.d/client.key", "/tmp/postgres",
      "/pgdata/pgbackrest/log", fun name => "/pgbackrest/" ++ name ++ "/log"⟩
    let repos : List PGBackRestRepo := [⟨"repo1", true, none, none, none⟩,
      ⟨"repo2", false, none, none, some ⟨"bucket", "s3.example.com", "us-east-1"⟩⟩]
    let globalConfig : GoMap := ⟨[("repo1-retention-full", "2")], by decide⟩
    ("repo2-s3-bucket" ≠ "log-path" ∧
      ∀ repo ∈ repos, repo.volume → ∀ suffix ∈ tlsSuffixes, "repo2-s3-bucket" ≠ repo.name ++ suffix) ∧
    ((populatePGInstanceConfigurationMap c "hippo-pods" "postgres-operator" "hippo-repo-host"
        "/pgdata/pg16" 5432 repos globalConfig).section "global").values "repo2-s3-bucket" =
      ((populateRepoHostConfigurationMap c "hippo-pods" "postgres-operator" "/pgdata/pg16" 5432
        ["hippo-instance1"] repos globalConfig).section "global").values "repo2-s3-bucket" := by
  intro c repos globalConfig
  have hlog : "repo2-s3-bucket" ≠ "log-path" := by decide
  have htls : ∀ repo ∈ repos, repo.volume → ∀ suffix ∈ tlsSuffixes,
      "repo2-s3-bucket" ≠ repo.name ++ suffix := by decide
  exact ⟨⟨hlog, htls⟩, instance_repoHost_global_agree c "hippo-pods" "postgres-operator"
    "hippo-repo-host" "/pgdata/pg16" 5432 ["hippo-instance1"] repos globalConfig hlog htls⟩

/-! ## The TLS server's configuration -/

/-- The entries after appending `value` to the values of `key`, the key appended when the
section lacks it. -/
def addEntry (key value : String) : List (String × List String) → List (String × List String)
  | [] => [(key, [value])]
  | (k, vs) :: rest =>
      if k = key then (key, vs ++ [value]) :: rest else (k, vs) :: addEntry key value rest

/-- Adding a value to a key gives the keys that setting it gives. -/
theorem map_fst_addEntry (key value : String) (entries : List (String × List String)) :
    (addEntry key value entries).map Prod.fst = (setEntry key value entries).map Prod.fst := by
  induction entries with
  | nil => rfl
  | cons entry rest ih =>
    obtain ⟨k, vs⟩ := entry
    simp only [addEntry, setEntry]
    split <;> simp [ih]

/-- `iniMultiSet.Add(key, value)`: `value` appended to the values of `key`. -/
def IniMultiSet.add (ms : IniMultiSet) (key value : String) : IniMultiSet where
  entries := addEntry key value ms.entries
  keys_nodup := by
    rw [map_fst_addEntry]
    exact (ms.set key value).keys_nodup

/-- `strings.EqualFold(s, t)` for a `t` of digits and ASCII letters other than `k` and `s`,
which no other rune folds to: the same runes up to ASCII case. -/
def equalFold (s t : String) : Bool :=
  s.data.map Char.toLower = t.data.map Char.toLower

/-- The names `serverConfig` reads that are declared outside src/: the annotation
`naming.PGBackRestIPVersion` and the paths of the server certificate and key. -/
structure ServerNames where
  pgBackRestIPVersion : String
  certServerAbsolutePath : String
  certServerPrivateKeyAbsolutePath : String

/-- `serverConfig`, for a cluster's annotations and `clientCommonName(cluster)`. -/
def serverConfig (c : Constants) (names : ServerNames) (annotations : List (String × String))
    (clientCommonName : String) : IniSectionSet :=
  let global := IniMultiSet.empty.set "tls-server-address" "0.0.0.0"
  let global :=
    if equalFold ((annotations.lookup names.pgBackRestIPVersion).getD "") "ipv6" then
      global.set "tls-server-address" "::"
    else global
  let global := global.add "tls-server-auth" (clientCommonName ++ "=*")
  let global := global.set "tls-server-ca-file" c.certAuthorityAbsolutePath
  let global := global.set "tls-server-cert-file" names.certServerAbsolutePath
  let global := global.set "tls-server-key-file" names.certServerPrivateKeyAbsolutePath
  let server := IniMultiSet.empty.setAll [("log-level-console", "detail"),
    ("log-level-stderr", "error"), ("log-level-file", "off"), ("log-timestamp", "n")]
  [("global", global), ("global:server", server)]

/-! ## The ConfigMap -/

/-- `CMInstanceKey`. -/
def CMInstanceKey : String := "pgbackrest_instance.conf"

/-- `CMRepoKey`. -/
def CMRepoKey : String := "pgbackrest_repo.conf"

/-- `ConfigHashKey`. -/
def ConfigHashKey : String := "config-hash"

/-- `serverConfigMapKey`. -/
def serverConfigMapKey : String := "pgbackrest-server.conf"

/-- `iniGeneratedWarning`. -/
def iniGeneratedWarning : String :=
  "# Generated by ivory-operator. DO NOT EDIT.\n" ++ "# Your changes will not be saved.\n"

/-- A `v1beta1.IvoryCluster` as `CreatePGBackRestConfigMapIntent` reads it: its annotations,
`Spec.Port`, the repositories and `global` options of `Spec.Backups.PGBackRest`, and what
`DedicatedRepoHostEnabled`, `ivory.DataDirectory` and `clientCommonName` compute from it. -/
structure PGBackRestCluster where
  annotations : List (String × String)
  port : Int
  repos : List PGBackRestRepo
  global : GoMap
  dedicatedRepoHostEnabled : Bool
  dataDirectory : String
  clientCommonName : String

/-- `cm.Data[key] = value`: the key's value replaced, or the key appended. -/
def setData (data : List (String × String)) (key value : String) : List (String × String) :=
  if data.any (·.1 = key) then data.map fun entry => if entry.1 = key then (key, value) else entry
  else data ++ [(key, value)]

/-- The data of `CreatePGBackRestConfigMapIntent`, each section set rendered by
`iniSectionSet.String` (`render`). -/
def CreatePGBackRestConfigMapIntent (c : Constants) (names : ServerNames)
    (render : IniSectionSet → String) (cluster : PGBackRestCluster)
    (repoHostName configHash serviceName serviceNamespace : String) (instanceNames : List String) :
    List (String × String) :=
  let addDedicatedHost := cluster.dedicatedRepoHostEnabled
  let pgdataDir := cluster.dataDirectory
  let pgPort := cluster.port
  let data := setData [] CMInstanceKey (iniGeneratedWarning ++
    render (populatePGInstanceConfigurationMap c serviceName serviceNamespace repoHostName
      pgdataDir pgPort cluster.repos cluster.global))
  let data := setData data serverConfigMapKey ""
  let data :=
    if addDedicatedHost ∧ repoHostName ≠ "" then
      let data := setData data serverConfigMapKey (iniGeneratedWarning ++
        render (serverConfig c names cluster.annotations cluster.clientCommonName))
      setData data CMRepoKey (iniGeneratedWarning ++
        render (populateRepoHostConfigurationMap c serviceName serviceNamespace pgdataDir pgPort
          instanceNames cluster.repos cluster.global))
    else data
  setData data ConfigHashKey configHash

/-- The data holds the instance configuration, the server configuration (empty without a
repository host), the repository host's configuration exactly when there is one, and the hash,
each key once. -/
theorem CreatePGBackRestConfigMapIntent_data (c : Constants) (names : ServerNames)
    (render : IniSectionSet → String) (cluster : PGBackRestCluster)
    (repoHostName configHash serviceName serviceNamespace : String) (instanceNames : List String) :
    CreatePGBackRestConfigMapIntent c names render cluster repoHostName configHash serviceName
        serviceNamespace instanceNames =
      [(CMInstanceKey, iniGeneratedWarning ++
          render (populatePGInstanceConfigurationMap c serviceName serviceNamespace repoHostName
            cluster.dataDirectory cluster.port cluster.repos cluster.global))] ++
      (if cluster.dedicatedRepoHostEnabled ∧ repoHostName ≠ "" then
        [(serverConfigMapKey, iniGeneratedWarning ++
            render (serverConfig c names cluster.annotations cluster.clientCommonName)),
          (CMRepoKey, iniGeneratedWarning ++
            render (populateRepoHostConfigurationMap c serviceName serviceNamespace
              cluster.dataDirectory cluster.port instanceNames cluster.repos cluster.global))]
      else [(serverConfigMapKey, "")]) ++
      [(ConfigHashKey, configHash)] := by
  unfold CreatePGBackRestConfigMapIntent
  by_cases hdedicated : cluster.dedicatedRepoHostEnabled = true ∧ repoHostName ≠ ""
  · simp only [if_pos hdedicated]
    simp [setData, CMInstanceKey, CMRepoKey, ConfigHashKey, serverConfigMapKey]
  · simp only [if_neg hdedicated]
    simp [setData, CMInstanceKey, CMRepoKey, ConfigHashKey, serverConfigMapKey]

end IvoryOperator.PGBackRest
