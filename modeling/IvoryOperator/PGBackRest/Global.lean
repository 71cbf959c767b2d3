import IvoryOperator.PGBackRest.Config

/-!
# The `global` sections of the pgBackRest configuration

Both builders range over Go maps, the cloud options `getExternalRepoConfigs` returns and
`globalConfig`, whose iteration order changes from run to run. The keys of each map are
distinct, and `Set`s of distinct keys leave the same values in any order
(`IniMultiSet.values_setAll_perm`), so `configurationMaps_iteration_order`: every order gives
the same sections, key by key.

Repository names have the form `repo<N>` (`RepoName`). On a repository host the log path is
that of the first repository with a volume, as it is for the directory `MakePGBackrestLogDir`
creates (`repoHost_logPath`): no `repo<N>` repository's `-path` key is `log-path`. A repository
named `log`, which is not of that form, would overwrite it (`repoHost_logPath_repo_named_log`).
On an instance no two `Set`s of the repository loop share a key, and `instance_global_section`
lists what the `global` section holds.
-/

namespace IvoryOperator.PGBackRest

/-- Strings with a common prefix are equal when what follows it is. -/
theorem append_left_cancel_string {a s t : String} (h : a ++ s = a ++ t) : s = t :=
  String.ext (List.append_cancel_left (congrArg String.data h))

/-- The section of a name in the two sections both builders return. -/
theorem section_configurationMap (global stanza : IniMultiSet) (name : String) :
    IniSectionSet.section [("global", global), (DefaultStanzaName, stanza)] name =
      if name = "global" then global else if name = DefaultStanzaName then stanza else .empty := by
  by_cases hglobal : name = "global"
  · subst hglobal
    rfl
  · by_cases hstanza : name = DefaultStanzaName
    · subst hstanza
      rfl
    · simp [IniSectionSet.section, List.lookup_cons, hglobal, hstanza, beq_false_of_ne]

/-- The suffixes of the keys `getExternalRepoConfigs` returns for a repository. -/
def externalSuffixesOf (repo : PGBackRestRepo) : List String :=
  match repo.azure, repo.gcs, repo.s3 with
  | some _, _, _ => ["-type", "-azure-container"]
  | none, some _, _ => ["-type", "-gcs-bucket"]
  | none, none, some _ => ["-type", "-s3-bucket", "-s3-endpoint", "-s3-region"]
  | none, none, none => []

/-- The cloud keys of a repository are its name followed by its suffixes. -/
theorem map_fst_getExternalRepoConfigs (repo : PGBackRestRepo) :
    (getExternalRepoConfigs repo).map Prod.fst = (externalSuffixesOf repo).map (repo.name ++ ·) := by
  rcases repo with ⟨name, volume, _ | azure, _ | gcs, _ | s3⟩ <;> rfl

/-- A cloud repository's options have distinct keys: `getExternalRepoConfigs` fills a map. -/
theorem getExternalRepoConfigs_keys_nodup (repo : PGBackRestRepo) :
    ((getExternalRepoConfigs repo).map Prod.fst).Nodup := by
  rw [map_fst_getExternalRepoConfigs]
  refine List.Nodup.map (fun _ _ h => append_left_cancel_string h) ?_
  unfold externalSuffixesOf
  split <;> decide

/-! ### Iteration orders -/

/-- `visited` lists `repos` in order, each with an order in which `range` may visit the map
`getExternalRepoConfigs(repo)`. -/
def VisitsExternal (repos : List PGBackRestRepo)
    (visited : List (PGBackRestRepo × List (String × String))) : Prop :=
  visited.map Prod.fst = repos ∧ ∀ visit ∈ visited, visit.2.Perm (getExternalRepoConfigs visit.1)

/-- Two visits of the same repository: the same repository, its cloud options in two orders. -/
def SameRepoVisit (visit visit' : PGBackRestRepo × List (String × String)) : Prop :=
  visit.1 = visit'.1 ∧ visit.2.Perm visit'.2 ∧ (visit.2.map Prod.fst).Nodup

/-- Two visits of the same repositories pair each repository with itself. -/
theorem VisitsExternal.forall₂ {repos : List PGBackRestRepo}
    {visited visited' : List (PGBackRestRepo × List (String × String))}
    (h : VisitsExternal repos visited) (h' : VisitsExternal repos visited') :
    List.Forall₂ SameRepoVisit visited visited' := by
  induction repos generalizing visited visited' with
  | nil => rw [List.map_eq_nil_iff.mp h.1, List.map_eq_nil_iff.mp h'.1]; exact .nil
  | cons repo repos ih =>
      obtain ⟨visit, rest, rfl, hvisit, hrest⟩ := List.map_eq_cons_iff.mp h.1
      obtain ⟨visit', rest', rfl, hvisit', hrest'⟩ := List.map_eq_cons_iff.mp h'.1
      have hperm := h.2 visit (List.mem_cons_self _ _)
      have hperm' := h'.2 visit' (List.mem_cons_self _ _)
      refine .cons ⟨hvisit.trans hvisit'.symm, ?_, ?_⟩ (ih ⟨hrest, fun v hv => h.2 v
        (List.mem_cons_of_mem _ hv)⟩ ⟨hrest', fun v hv => h'.2 v (List.mem_cons_of_mem _ hv)⟩)
      · rw [hvisit, ← hvisit'] at hperm
        exact hperm.trans hperm'.symm
      · exact (hperm.map Prod.fst).nodup_iff.mpr (getExternalRepoConfigs_keys_nodup _)

/-- The `Set`s of one repository, its cloud options visited in two orders, on sections with the
same values, leave the same values. -/
theorem repoSets_values {global global' : IniMultiSet} (h : global.values = global'.values)
    {visit visit' : PGBackRestRepo × List (String × String)} (hsame : SameRepoVisit visit visit') :
    (global.setAll (repoSets visit.1 visit.2)).values =
      (global'.setAll (repoSets visit'.1 visit'.2)).values := by
  obtain ⟨hrepo, hperm, hnodup⟩ := hsame
  rw [← hrepo]
  have hpath : (global.set (visit.1.name ++ "-path") (defaultRepo1Path ++ visit.1.name)).values =
      (global'.set (visit.1.name ++ "-path") (defaultRepo1Path ++ visit.1.name)).values := by
    rw [IniMultiSet.values_set, IniMultiSet.values_set, h]
  show ((global.set _ _).setAll _).values = ((global'.set _ _).setAll _).values
  by_cases hcloud : (!visit.1.volume) = true
  · rw [if_pos hcloud, if_pos hcloud]
    exact (IniMultiSet.values_setAll_congr hpath _).trans
      (IniMultiSet.values_setAll_perm _ hperm hnodup)
  · rw [if_neg hcloud, if_neg hcloud]
    exact IniMultiSet.values_setAll_congr hpath _

section

variable (c : Constants)

/-- One repository's `Set`s on an instance leave the same values in either order of its cloud
options. -/
theorem instanceRepoSets_values (repoHostName repoHostFQDN : String) {global global' : IniMultiSet}
    (h : global.values = global'.values) {visit visit' : PGBackRestRepo × List (String × String)}
    (hsame : SameRepoVisit visit visit') :
    (global.setAll (instanceRepoSets c repoHostName repoHostFQDN visit.1 visit.2)).values =
      (global'.setAll (instanceRepoSets c repoHostName repoHostFQDN visit'.1 visit'.2)).values := by
  have hsets := repoSets_values h hsame
  obtain ⟨repo, options⟩ := visit
  obtain ⟨repo', options'⟩ := visit'
  obtain rfl : repo = repo' := hsame.1
  simp only [instanceRepoSets, IniMultiSet.setAll_append]
  exact IniMultiSet.values_setAll_congr hsets _

/-- The repository loop of an instance leaves the same values for any orders of the cloud
options. -/
theorem foldl_instanceRepoSets_values (repoHostName repoHostFQDN : String)
    {visited visited' : List (PGBackRestRepo × List (String × String))}
    (hsame : List.Forall₂ SameRepoVisit visited visited') :
    ∀ {global global' : IniMultiSet}, global.values = global'.values →
      (visited.foldl (fun global visit =>
          global.setAll (instanceRepoSets c repoHostName repoHostFQDN visit.1 visit.2)) global).values =
        (visited'.foldl (fun global visit =>
          global.setAll (instanceRepoSets c repoHostName repoHostFQDN visit.1 visit.2)) global').values := by
  induction hsame with
  | nil => exact id
  | cons hvisit _ ih => exact fun h => ih (instanceRepoSets_values c _ _ h hvisit)

/-- One iteration of the repository loop of a repository host, on states with the same values
and flag, leaves states with the same values and flag. -/
theorem repoHostRepoStep_values {acc acc' : IniMultiSet × Bool}
    (h : acc.1.values = acc'.1.values ∧ acc.2 = acc'.2)
    {visit visit' : PGBackRestRepo × List (String × String)} (hsame : SameRepoVisit visit visit') :
    (repoHostRepoStep c acc visit).1.values = (repoHostRepoStep c acc' visit').1.values ∧
      (repoHostRepoStep c acc visit).2 = (repoHostRepoStep c acc' visit').2 := by
  have hsets := repoSets_values h.1 hsame
  obtain ⟨repo, options⟩ := visit
  obtain ⟨repo', options'⟩ := visit'
  obtain rfl : repo = repo' := hsame.1
  simp only [repoHostRepoStep, ← h.2]
  split
  · exact ⟨by rw [IniMultiSet.values_set, IniMultiSet.values_set, hsets], rfl⟩
  · exact ⟨hsets, rfl⟩

/-- The repository loop of a repository host leaves the same values and flag in every visit order.
-/
theorem foldl_repoHostRepoStep_values {visited visited' : List (PGBackRestRepo × List (String × String))}
    (hsame : List.Forall₂ SameRepoVisit visited visited') :
    ∀ {acc acc' : IniMultiSet × Bool}, acc.1.values = acc'.1.values ∧ acc.2 = acc'.2 →
      (visited.foldl (repoHostRepoStep c) acc).1.values =
        (visited'.foldl (repoHostRepoStep c) acc').1.values := by
  induction hsame with
  | nil => exact fun h => h.1
  | cons hvisit _ ih => exact fun h => ih (repoHostRepoStep_values c h hvisit)

/-- Whatever order `range` visits each repository's cloud options and `globalConfig` in, both
builders return the same sections, holding the same values under every key. -/
theorem configurationMaps_iteration_order
    (serviceName serviceNamespace repoHostName pgdataDir : String) (pgPort : Int)
    (pgHosts : List String) (repos : List PGBackRestRepo)
    (visited visited' : List (PGBackRestRepo × List (String × String)))
    (globalConfig globalConfig' : GoMap) (hvisited : VisitsExternal repos visited)
    (hvisited' : VisitsExternal repos visited')
    (hglobalConfig : globalConfig.entries.Perm globalConfig'.entries) :
    (∀ name key,
      ((populatePGInstanceConfigurationMapVisiting c serviceName serviceNamespace repoHostName
          pgdataDir pgPort visited globalConfig).section name).values key =
        ((populatePGInstanceConfigurationMapVisiting c serviceName serviceNamespace repoHostName
          pgdataDir pgPort visited' globalConfig').section name).values key) ∧
    ∀ name key,
      ((populateRepoHostConfigurationMapVisiting c serviceName serviceNamespace pgdataDir pgPort
          pgHosts visited globalConfig).section name).values key =
        ((populateRepoHostConfigurationMapVisiting c serviceName serviceNamespace pgdataDir pgPort
          pgHosts visited' globalConfig').section name).values key := by
  have hsame := hvisited.forall₂ hvisited'
  have hoverrides : ∀ {global global' : IniMultiSet}, global.values = global'.values →
      (global.setAll globalConfig.entries).values = (global'.setAll globalConfig'.entries).values :=
    fun h => (IniMultiSet.values_setAll_congr h _).trans
      (IniMultiSet.values_setAll_perm _ hglobalConfig globalConfig.keys_nodup)
  refine ⟨fun name key => ?_, fun name key => ?_⟩
  · simp only [populatePGInstanceConfigurationMapVisiting, section_configurationMap]
    split_ifs
    · exact congrFun (hoverrides (foldl_instanceRepoSets_values c _ _ hsame rfl)) key
    all_goals rfl
  · simp only [populateRepoHostConfigurationMapVisiting, section_configurationMap]
    split_ifs
    · exact congrFun (hoverrides (foldl_repoHostRepoStep_values c hsame ⟨rfl, rfl⟩)) key
    all_goals rfl

end

/-- An S3 repository and a volume repository, the S3 options and `globalConfig` visited in the
reverse of the listed order. -/
theorem configurationMaps_iteration_order_reversed :
    let c : Constants := ⟨"cluster.local", "/etc/pgbackrest/conf.d/ca.crt",
      "/etc/pgbackrest/conf.d/client.crt", "/etc/pgbackrest/conf.d/client.key", "/tmp/postgres",
      "/pgdata/pgbackrest/log", fun name => "/pgbackrest/" ++ name ++ "/log"⟩
    let s3 : PGBackRestRepo := ⟨"repo1", false, none, none, some ⟨"bucket", "s3.amazonaws.com",
      "us-east-1"⟩⟩
    let volume : PGBackRestRepo := ⟨"repo2", true, none, none, none⟩
    let visited := [(s3, (getExternalRepoConfigs s3).reverse), (volume, [])]
    let listed := [s3, volume].map fun repo => (repo, getExternalRepoConfigs repo)
    let globalConfig : GoMap := ⟨[("repo1-retention-full", "2"), ("log-level-file", "info")],
      by decide⟩
    let reversed : GoMap := ⟨[("log-level-file", "info"), ("repo1-retention-full", "2")], by decide⟩
    (VisitsExternal [s3, volume] visited ∧ VisitsExternal [s3, volume] listed ∧
      globalConfig.entries.Perm reversed.entries) ∧
    (∀ name key,
      ((populatePGInstanceConfigurationMapVisiting c "hippo-pods" "postgres-operator"
          "hippo-repo-host" "/pgdata/pg16" 5432 visited globalConfig).section name).values key =
        ((populatePGInstanceConfigurationMapVisiting c "hippo-pods" "postgres-operator"
          "hippo-repo-host" "/pgdata/pg16" 5432 listed reversed).section name).values key) ∧
    ∀ name key,
      ((populateRepoHostConfigurationMapVisiting c "hippo-pods" "postgres-operator" "/pgdata/pg16"
          5432 ["hippo-instance1"] visited globalConfig).section name).values key =
        ((populateRepoHostConfigurationMapVisiting c "hippo-pods" "postgres-operator" "/pgdata/pg16"
          5432 ["hippo-instance1"] listed reversed).section name).values key := by
  intro c s3 volume visited listed globalConfig reversed
  have hvisited : VisitsExternal [s3, volume] visited := ⟨rfl, by decide⟩
  have hlisted : VisitsExternal [s3, volume] listed := ⟨rfl, by decide⟩
  have hperm : globalConfig.entries.Perm reversed.entries := by decide
  exact ⟨⟨hvisited, hlisted, hperm⟩, configurationMaps_iteration_order c "hippo-pods"
    "postgres-operator" "hippo-repo-host" "/pgdata/pg16" 5432 ["hippo-instance1"] [s3, volume]
    visited listed globalConfig reversed hvisited hlisted hperm⟩

/-! ### The log path of a repository host -/

/-- The suffixes of the keys `getExternalRepoConfigs` can return, after the repository's
name. -/
def externalSuffixes : List String :=
  ["-type", "-azure-container", "-gcs-bucket", "-s3-bucket", "-s3-endpoint", "-s3-region"]

/-- A repository's cloud suffixes are among `externalSuffixes`. -/
theorem mem_externalSuffixes {repo : PGBackRestRepo} {suffix : String}
    (h : suffix ∈ externalSuffixesOf repo) : suffix ∈ externalSuffixes := by
  revert suffix
  unfold externalSuffixesOf
  split <;> decide

/-- Every cloud key is the repository's name followed by one of `externalSuffixes`. -/
theorem getExternalRepoConfigs_key {repo : PGBackRestRepo} {key : String}
    (h : key ∈ (getExternalRepoConfigs repo).map Prod.fst) :
    ∃ suffix ∈ externalSuffixes, key = repo.name ++ suffix := by
  rw [map_fst_getExternalRepoConfigs] at h
  obtain ⟨suffix, hsuffix, rfl⟩ := List.mem_map.mp h
  exact ⟨suffix, mem_externalSuffixes hsuffix, rfl⟩

/-- A key that does not end with `suffix` is no name followed by it. -/
theorem ne_append_of_not_suffix {name suffix key : String} (h : ¬suffix.data <:+ key.data) :
    key ≠ name ++ suffix :=
  fun heq => h ⟨name.data, by rw [heq]; rfl⟩

/-- A repository name of the form `repo<N>`, the form the API gives repository names. -/
def RepoName (name : String) : Prop := ∃ n : Nat, name = "repo" ++ toString n

/-- No key that starts with a `repo<N>` name is `log-path`. -/
theorem logPath_ne_repoName_append {name : String} (hname : RepoName name) (suffix : String) :
    "log-path" ≠ name ++ suffix := by
  obtain ⟨n, rfl⟩ := hname
  intro h
  have hhead := congrArg (fun key : String => key.data.head?) h
  change some 'l' = some 'r' at hhead
  exact absurd hhead (by decide)

/-- A `repo<N>` name is not `log`. -/
theorem repoName_ne_log {name : String} (hname : RepoName name) : name ≠ "log" :=
  fun h => logPath_ne_repoName_append hname "-path" (by rw [h]; decide)

/-- No key a repository's `Set`s write on a repository host is `log-path`, unless the
repository is named `log`. -/
theorem logPath_not_mem_repoSets {repo : PGBackRestRepo} (hname : repo.name ≠ "log") :
    "log-path" ∉ (repoSets repo (getExternalRepoConfigs repo)).map Prod.fst := by
  have hsuffixes : ∀ suffix ∈ externalSuffixes, ¬suffix.data <:+ "log-path".data := by decide
  intro hmem
  simp only [repoSets, List.map_cons, List.mem_cons] at hmem
  rcases hmem with hpath | hcloud
  · have hdata : repo.name.data ++ "-path".data = "log".data ++ "-path".data :=
      congrArg String.data (hpath.symm.trans (by decide : "log-path" = "log" ++ "-path"))
    exact hname (String.ext (List.append_cancel_right hdata))
  · split at hcloud
    · obtain ⟨suffix, hsuffix, heq⟩ := getExternalRepoConfigs_key hcloud
      exact ne_append_of_not_suffix (hsuffixes suffix hsuffix) heq
    · cases hcloud

section

variable (c : Constants)

/-- The log path the repository loop of a repository host leaves: the one the section had once
the flag is set, and otherwise that of the first repository with a volume. -/
theorem foldl_repoHostRepoStep_logPath {repos : List PGBackRestRepo}
    (hnames : ∀ repo ∈ repos, repo.name ≠ "log") (global : IniMultiSet) (logPathSet : Bool) :
    ((repos.map fun repo => (repo, getExternalRepoConfigs repo)).foldl (repoHostRepoStep c)
        (global, logPathSet)).1.values "log-path" =
      if logPathSet then global.values "log-path"
      else ((repos.find? (·.volume)).map fun repo => [c.pgBackRestRepoLogPath repo.name]).getD
        (global.values "log-path") := by
  induction repos generalizing global logPathSet with
  | nil => cases logPathSet <;> rfl
  | cons repo repos ih =>
      have hkeep := IniMultiSet.values_setAll_of_not_mem global
        (logPath_not_mem_repoSets (hnames repo (List.mem_cons_self _ _)))
      have hrest : ∀ repo ∈ repos, repo.name ≠ "log" := fun r hr =>
        hnames r (List.mem_cons_of_mem _ hr)
      rw [List.map_cons, List.foldl_cons]
      cases logPathSet with
      | true => simp only [repoHostRepoStep, Bool.not_true, Bool.false_eq_true, false_and,
          if_false, ih hrest, if_true, hkeep]
      | false =>
          cases hvolume : repo.volume with
          | true => simp [repoHostRepoStep, hvolume, ih hrest, IniMultiSet.values_set, setValue]
          | false => simp only [repoHostRepoStep, hvolume, Bool.false_eq_true, and_false, if_false,
              ih hrest, List.find?_cons, hkeep]

/-- On a repository host with `repo<N>` repositories and no `log-path` override, the log path is
that of the first repository with a volume, the directory `MakePGBackrestLogDir`'s init
container creates; with no repository with a volume, `log-path` holds only what `globalConfig`
gives it. -/
theorem repoHost_logPath (serviceName serviceNamespace pgdataDir : String) (pgPort : Int)
    (pgHosts : List String) (repos : List PGBackRestRepo) (globalConfig : GoMap)
    (names : ContainerNames) (image imagePullPolicy : String) (template : PodTemplateSpec)
    (hnames : ∀ repo ∈ repos, RepoName repo.name) :
    let global := (populateRepoHostConfigurationMap c serviceName serviceNamespace pgdataDir pgPort
      pgHosts repos globalConfig).section "global"
    ("log-path" ∉ globalConfig.entries.map Prod.fst → ∀ repo, repos.find? (·.volume) = some repo →
      global.values "log-path" = [c.pgBackRestRepoLogPath repo.name] ∧
        ∃ container, (MakePGBackrestLogDir c names repos image imagePullPolicy template).initContainers =
            template.initContainers ++ [container] ∧
          container.command = ["bash", "-c", "mkdir -p " ++ c.pgBackRestRepoLogPath repo.name]) ∧
    ((∀ repo ∈ repos, repo.volume = false) →
      global.values "log-path" = (globalConfig.entries.lookup "log-path").toList) := by
  intro global
  have hglobal : global = ((repos.map fun repo => (repo, getExternalRepoConfigs repo)).foldl
      (repoHostRepoStep c) (IniMultiSet.empty, false)).1.setAll globalConfig.entries := rfl
  have hloop := foldl_repoHostRepoStep_logPath c
    (fun repo hrepo => repoName_ne_log (hnames repo hrepo)) IniMultiSet.empty false
  rw [hglobal]
  refine ⟨fun hlog repo hfind => ⟨?_, _, rfl, ?_⟩, fun hnone => ?_⟩
  · rw [IniMultiSet.values_setAll_of_not_mem _ hlog]
    simpa [hfind] using hloop
  · show ["bash", "-c", "mkdir -p " ++ (match repos.find? (·.volume) with
      | some repo => c.pgBackRestRepoLogPath repo.name | none => "")] = _
    rw [hfind]
  · have hfind : repos.find? (·.volume) = none := List.find?_eq_none.mpr fun repo hrepo => by
      simp [hnone repo hrepo]
    by_cases hlog : "log-path" ∈ globalConfig.entries.map Prod.fst
    · obtain ⟨⟨key, value⟩, hmem, rfl⟩ := List.mem_map.mp hlog
      rw [IniMultiSet.values_setAll_of_mem _ globalConfig.keys_nodup hmem,
        lookup_eq_some_of_mem globalConfig.keys_nodup hmem]
      rfl
    · rw [IniMultiSet.values_setAll_of_not_mem _ hlog, lookup_eq_none_of_not_mem hlog]
      simpa [hfind] using hloop

end

/-- A repository host with a repository with a volume and, after it, an S3 repository named
`log`, a name the API does not give: the log directory is that of `repo1`, while `log-path`
holds the path of `log`. -/
theorem repoHost_logPath_repo_named_log :
    let c : Constants := ⟨"cluster.local", "/etc/pgbackrest/conf.d/ca.crt",
      "/etc/pgbackrest/conf.d/client.crt", "/etc/pgbackrest/conf.d/client.key", "/tmp/postgres",
      "/pgdata/pgbackrest/log", fun name => "/pgbackrest/" ++ name ++ "/log"⟩
    let repos : List PGBackRestRepo := [⟨"repo1", true, none, none, none⟩,
      ⟨"log", false, none, none, some ⟨"bucket", "s3.amazonaws.com", "us-east-1"⟩⟩]
    let global := (populateRepoHostConfigurationMap c "hippo-pods" "postgres-operator"
      "/pgdata/pg16" 5432 ["hippo-instance1"] repos ⟨[], List.nodup_nil⟩).section "global"
    let logDir := MakePGBackrestLogDir c ⟨"pgbackrest-log-dir", "pgbackrest"⟩ repos
      "pgbackrest-image" "IfNotPresent" ⟨[], []⟩
    (repos.find? (·.volume)).map (·.name) = some "repo1" ∧
      global.values "log-path" = ["/pgbackrest/log"] ∧
      logDir.initContainers.map (·.command) = [["bash", "-c", "mkdir -p /pgbackrest/repo1/log"]] := by
  decide

/-- Repositories `[S3(repo1), Volume(repo2), Volume(repo3)]`: the log path and the log
directory are those of `repo2`. -/
theorem repoHost_logPath_first_volume :
    let c : Constants := ⟨"cluster.local", "/etc/pgbackrest/conf.d/ca.crt",
      "/etc/pgbackrest/conf.d/client.crt", "/etc/pgbackrest/conf.d/client.key", "/tmp/postgres",
      "/pgdata/pgbackrest/log", fun name => "/pgbackrest/" ++ name ++ "/log"⟩
    let repos : List PGBackRestRepo := [⟨"repo1", false, none, none, some ⟨"bucket",
      "s3.amazonaws.com", "us-east-1"⟩⟩, ⟨"repo2", true, none, none, none⟩,
      ⟨"repo3", true, none, none, none⟩]
    let global := (populateRepoHostConfigurationMap c "hippo-pods" "postgres-operator"
      "/pgdata/pg16" 5432 ["hippo-instance1"] repos ⟨[], List.nodup_nil⟩).section "global"
    (∀ repo ∈ repos, RepoName repo.name) ∧
    ("log-path" ∉ (⟨[], List.nodup_nil⟩ : GoMap).entries.map Prod.fst →
      ∀ repo, repos.find? (·.volume) = some repo →
        global.values "log-path" = [c.pgBackRestRepoLogPath repo.name] ∧
          ∃ container, (MakePGBackrestLogDir c ⟨"pgbackrest-log-dir", "pgbackrest"⟩ repos
              "pgbackrest-image" "IfNotPresent" ⟨[], []⟩).initContainers = [] ++ [container] ∧
            container.command = ["bash", "-c", "mkdir -p " ++ c.pgBackRestRepoLogPath repo.name]) ∧
    ((∀ repo ∈ repos, repo.volume = false) →
      global.values "log-path" =
        ((⟨[], List.nodup_nil⟩ : GoMap).entries.lookup "log-path").toList) := by
  intro c repos global
  have hnames : ∀ repo ∈ repos, RepoName repo.name := by
    intro repo hrepo
    rcases List.mem_cons.mp hrepo with rfl | hrepo
    · exact ⟨1, by decide⟩
    rcases List.mem_cons.mp hrepo with rfl | hrepo
    · exact ⟨2, by decide⟩
    rcases List.mem_cons.mp hrepo with rfl | hrepo
    · exact ⟨3, by decide⟩
    cases hrepo
  exact ⟨hnames, repoHost_logPath c "hippo-pods" "postgres-operator" "/pgdata/pg16" 5432
    ["hippo-instance1"] repos ⟨[], List.nodup_nil⟩ ⟨"pgbackrest-log-dir", "pgbackrest"⟩
    "pgbackrest-image" "IfNotPresent" ⟨[], []⟩ hnames⟩

/-! ### The global section of an instance -/

/-- A `repo<N>` name followed by a suffix that starts with `-` determines both. -/
theorem repoName_append_inj {name name' suffix suffix' : String} (hname : RepoName name)
    (hname' : RepoName name') (hsuffix : suffix.data.head? = some '-')
    (hsuffix' : suffix'.data.head? = some '-') (h : name ++ suffix = name' ++ suffix') :
    name = name' ∧ suffix = suffix' := by
  obtain ⟨n, rfl⟩ := hname
  obtain ⟨m, rfl⟩ := hname'
  obtain ⟨rest, hrest⟩ : ∃ rest, suffix.data = '-' :: rest :=
    ⟨suffix.data.tail, by cases hs : suffix.data <;> simp_all⟩
  obtain ⟨rest', hrest'⟩ : ∃ rest, suffix'.data = '-' :: rest :=
    ⟨suffix'.data.tail, by cases hs : suffix'.data <;> simp_all⟩
  have hdata := congrArg String.data h
  simp only [String.data_append, List.append_assoc, List.append_cancel_left_eq, hrest, hrest']
    at hdata
  change (Nat.repr n).data ++ '-' :: rest = (Nat.repr m).data ++ '-' :: rest' at hdata
  obtain ⟨hdigits, hrests⟩ := digits_append_inj (by decide) (fun _ => isDigit_of_mem_repr)
    (fun _ => isDigit_of_mem_repr) hdata
  have hnm : n = m := by rw [← ofDigitChars_repr n, hdigits, ofDigitChars_repr]
  exact ⟨by rw [hnm], String.ext (by rw [hrest, hrest', hrests])⟩

/-- The suffixes of the six options that point a repository at the repository host. -/
def tlsSuffixes : List String :=
  ["-host", "-host-type", "-host-ca-file", "-host-cert-file", "-host-key-file", "-host-user"]

/-- The suffixes of the keys the repository loop of an instance sets for one repository. -/
def instanceRepoSuffixes (repoHostName : String) (repo : PGBackRestRepo) : List String :=
  "-path" :: ((if !repo.volume then externalSuffixesOf repo else []) ++
    if repoHostName ≠ "" ∧ repo.volume then tlsSuffixes else [])

/-- The keys an instance sets for a repository are its name with each of its suffixes. -/
theorem map_fst_instanceRepoSets (c : Constants) (repoHostName repoHostFQDN : String)
    (repo : PGBackRestRepo) :
    (instanceRepoSets c repoHostName repoHostFQDN repo (getExternalRepoConfigs repo)).map Prod.fst =
      (instanceRepoSuffixes repoHostName repo).map (repo.name ++ ·) := by
  simp only [instanceRepoSets, repoSets, instanceRepoSuffixes, List.cons_append, List.map_cons,
    List.map_append]
  split_ifs <;> simp [map_fst_getExternalRepoConfigs, repoHostTLSOptions, tlsSuffixes]

/-- An instance sets each suffix of a repository once. -/
theorem instanceRepoSuffixes_nodup (repoHostName : String) (repo : PGBackRestRepo) :
    (instanceRepoSuffixes repoHostName repo).Nodup := by
  unfold instanceRepoSuffixes
  cases repo.volume
  · simp only [Bool.not_false, if_true, Bool.false_eq_true, and_false, if_false, List.append_nil]
    unfold externalSuffixesOf
    split <;> decide
  · simp only [Bool.not_true, Bool.false_eq_true, if_false, List.nil_append, and_true]
    split <;> decide

/-- Every suffix a repository's keys carry starts with `-`. -/
theorem suffixes_head :
    ∀ suffix ∈ "-path" :: (externalSuffixes ++ tlsSuffixes), suffix.data.head? = some '-' := by
  decide

/-- Every suffix an instance sets for a repository starts with `-`. -/
theorem instanceRepoSuffixes_head (repoHostName : String) (repo : PGBackRestRepo) :
    ∀ suffix ∈ instanceRepoSuffixes repoHostName repo, suffix.data.head? = some '-' := by
  intro suffix hsuffix
  refine suffixes_head suffix ?_
  simp only [instanceRepoSuffixes, List.mem_cons, List.mem_append] at hsuffix ⊢
  rcases hsuffix with h | h | h
  · exact Or.inl h
  · split_ifs at h
    exacts [Or.inr (Or.inl (mem_externalSuffixes h)), absurd h (List.not_mem_nil _)]
  · split_ifs at h
    exacts [Or.inr (Or.inr h), absurd h (List.not_mem_nil _)]

/-- A repository's keys carry a repository-host suffix only when a repository host is named and
the repository has a volume. -/
theorem tls_mem_instanceRepoSuffixes {repoHostName suffix : String} {repo : PGBackRestRepo}
    (htls : suffix ∈ tlsSuffixes) (h : suffix ∈ instanceRepoSuffixes repoHostName repo) :
    repoHostName ≠ "" ∧ repo.volume = true := by
  have hdisjoint : ∀ suffix ∈ tlsSuffixes, suffix ≠ "-path" ∧ suffix ∉ externalSuffixes := by
    decide
  simp only [instanceRepoSuffixes, List.mem_cons, List.mem_append] at h
  rcases h with h | h | h
  · exact absurd h (hdisjoint suffix htls).1
  · split_ifs at h
    exacts [absurd (mem_externalSuffixes h) (hdisjoint suffix htls).2, absurd h (List.not_mem_nil _)]
  · split_ifs at h with hhost
    exacts [hhost, absurd h (List.not_mem_nil _)]

/-- A repository's keys carry a cloud suffix only when the repository has no volume. -/
theorem external_mem_instanceRepoSuffixes {repoHostName suffix : String} {repo : PGBackRestRepo}
    (hcloud : suffix ∈ externalSuffixes) (h : suffix ∈ instanceRepoSuffixes repoHostName repo) :
    repo.volume = false := by
  have hdisjoint : ∀ suffix ∈ externalSuffixes, suffix ≠ "-path" ∧ suffix ∉ tlsSuffixes := by
    decide
  simp only [instanceRepoSuffixes, List.mem_cons, List.mem_append] at h
  rcases h with h | h | h
  · exact absurd h (hdisjoint suffix hcloud).1
  · split_ifs at h with hvolume
    exacts [by simpa using hvolume, absurd h (List.not_mem_nil _)]
  · split_ifs at h
    exacts [absurd h (hdisjoint suffix hcloud).2, absurd h (List.not_mem_nil _)]

section

variable (c : Constants) (repoHostName repoHostFQDN : String) {repos : List PGBackRestRepo}

/-- The `Set`s the repository loop of an instance makes, after `log-path`. -/
def instanceRepoLoopSets (repos : List PGBackRestRepo) : List (String × String) :=
  repos.flatMap fun repo => instanceRepoSets c repoHostName repoHostFQDN repo
    (getExternalRepoConfigs repo)

/-- With `repo<N>` names, distinct across repositories, the keys an instance sets before the
overrides are distinct. -/
theorem instanceGlobal_keys_nodup (hnames : ∀ repo ∈ repos, RepoName repo.name)
    (hdistinct : (repos.map (·.name)).Nodup) (logPath : String) :
    ((("log-path", logPath) :: instanceRepoLoopSets c repoHostName repoHostFQDN repos).map
      Prod.fst).Nodup := by
  rw [List.map_cons, instanceRepoLoopSets, List.map_flatMap]
  simp only [map_fst_instanceRepoSets]
  refine List.nodup_cons.mpr ⟨?_, List.nodup_flatMap.mpr ⟨fun repo _ =>
    (instanceRepoSuffixes_nodup _ repo).map fun _ _ h => append_left_cancel_string h, ?_⟩⟩
  · simp only [List.mem_flatMap, List.mem_map, not_exists, not_and]
    exact fun repo hrepo suffix _ h => logPath_ne_repoName_append (hnames repo hrepo) suffix h.symm
  · refine (List.pairwise_map.mp hdistinct).imp_of_mem fun hrepo hrepo' hne =>
      List.disjoint_left.mpr ?_
    intro key hkey hkey'
    obtain ⟨suffix, hsuffix, rfl⟩ := List.mem_map.mp hkey
    obtain ⟨suffix', hsuffix', heq⟩ := List.mem_map.mp hkey'
    exact hne (repoName_append_inj (hnames _ hrepo) (hnames _ hrepo')
      (instanceRepoSuffixes_head _ _ _ hsuffix) (instanceRepoSuffixes_head _ _ _ hsuffix')
      heq.symm).1

/-- A key made of a repository's name and a suffix is set, if at all, by that repository's own
`Set`s. -/
theorem mem_instanceRepoSuffixes (hnames : ∀ repo ∈ repos, RepoName repo.name)
    (hdistinct : (repos.map (·.name)).Nodup) {repo : PGBackRestRepo} (hrepo : repo ∈ repos)
    {suffix logPath : String} (hsuffix : suffix.data.head? = some '-')
    (hkey : repo.name ++ suffix ∈
      (("log-path", logPath) :: instanceRepoLoopSets c repoHostName repoHostFQDN repos).map Prod.fst) :
    suffix ∈ instanceRepoSuffixes repoHostName repo := by
  rw [List.map_cons, List.mem_cons, instanceRepoLoopSets, List.map_flatMap] at hkey
  rcases hkey with hlog | hkey
  · exact absurd hlog.symm (logPath_ne_repoName_append (hnames repo hrepo) suffix)
  simp only [map_fst_instanceRepoSets, List.mem_flatMap, List.mem_map] at hkey
  obtain ⟨repo', hrepo', suffix', hsuffix', heq⟩ := hkey
  obtain ⟨hname, rfl⟩ := repoName_append_inj (hnames _ hrepo') (hnames _ hrepo)
    (instanceRepoSuffixes_head _ _ _ hsuffix') hsuffix heq
  rwa [← List.inj_on_of_nodup_map hdistinct hrepo' hrepo hname]

end

/-- The global section of an instance: `log-path` and the repository loop's `Set`s, then the
overrides. -/
theorem instance_global_eq (c : Constants)
    (serviceName serviceNamespace repoHostName pgdataDir : String) (pgPort : Int)
    (repos : List PGBackRestRepo) (globalConfig : GoMap) :
    (populatePGInstanceConfigurationMap c serviceName serviceNamespace repoHostName pgdataDir pgPort
        repos globalConfig).section "global" =
      (IniMultiSet.empty.setAll (("log-path", c.pgBackRestPGDataLogPath) ::
        instanceRepoLoopSets c repoHostName (repoHostName ++ "-0." ++ serviceName ++ "." ++
          serviceNamespace ++ ".svc." ++ c.kubernetesClusterDomain) repos)).setAll
        globalConfig.entries := by
  show IniMultiSet.setAll (List.foldl _ _ (repos.map _)) _ = _
  rw [List.foldl_map, IniMultiSet.foldl_setAll]
  rfl

/-- With repository names of the form `repo<N>`, distinct, the global section of an instance
holds each override's value; `log-path`, each repository's path, its repository-host options
exactly when it has a volume and a repository host is named, and its cloud options exactly when
it has no volume, for keys not overridden; and no other key. -/
theorem instance_global_section (c : Constants)
    (serviceName serviceNamespace repoHostName pgdataDir : String) (pgPort : Int)
    (repos : List PGBackRestRepo) (globalConfig : GoMap)
    (hnames : ∀ repo ∈ repos, RepoName repo.name) (hdistinct : (repos.map (·.name)).Nodup) :
    let global := (populatePGInstanceConfigurationMap c serviceName serviceNamespace repoHostName
      pgdataDir pgPort repos globalConfig).section "global"
    let repoHostFQDN := repoHostName ++ "-0." ++ serviceName ++ "." ++ serviceNamespace ++ ".svc." ++
      c.kubernetesClusterDomain
    let overridden (key : String) := key ∈ globalConfig.entries.map Prod.fst
    (∀ key value, (key, value) ∈ globalConfig.entries → global.values key = [value]) ∧
    (¬overridden "log-path" → global.values "log-path" = [c.pgBackRestPGDataLogPath]) ∧
    (∀ repo ∈ repos,
      (¬overridden (repo.name ++ "-path") →
        global.values (repo.name ++ "-path") = [defaultRepo1Path ++ repo.name]) ∧
      (∀ option ∈ repoHostTLSOptions c repoHostFQDN repo.name, ¬overridden option.1 →
        global.values option.1 = if repoHostName ≠ "" ∧ repo.volume then [option.2] else []) ∧
      (∀ option ∈ getExternalRepoConfigs repo, ¬overridden option.1 →
        global.values option.1 = if repo.volume then [] else [option.2])) ∧
    ∀ key ∈ global.keys, overridden key ∨ key = "log-path" ∨ ∃ repo ∈ repos,
      key = repo.name ++ "-path" ∨ key ∈ (repoHostTLSOptions c repoHostFQDN repo.name).map Prod.fst ∨
        key ∈ (getExternalRepoConfigs repo).map Prod.fst := by
  intro global repoHostFQDN overridden
  have hglobal : global = (IniMultiSet.empty.setAll (("log-path", c.pgBackRestPGDataLogPath) ::
      instanceRepoLoopSets c repoHostName repoHostFQDN repos)).setAll globalConfig.entries :=
    instance_global_eq c serviceName serviceNamespace repoHostName pgdataDir pgPort repos
      globalConfig
  have hnodup := instanceGlobal_keys_nodup c repoHostName repoHostFQDN hnames hdistinct
    c.pgBackRestPGDataLogPath
  have hset : ∀ key value, (key, value) ∈ ("log-path", c.pgBackRestPGDataLogPath) ::
      instanceRepoLoopSets c repoHostName repoHostFQDN repos → ¬overridden key →
        global.values key = [value] := fun key value hmem hover => by
    rw [hglobal, IniMultiSet.values_setAll_of_not_mem _ hover,
      IniMultiSet.values_setAll_of_mem _ hnodup hmem]
  have hunset : ∀ key, key ∉ (("log-path", c.pgBackRestPGDataLogPath) ::
      instanceRepoLoopSets c repoHostName repoHostFQDN repos).map Prod.fst → ¬overridden key →
        global.values key = [] := fun key hkey hover => by
    rw [hglobal, IniMultiSet.values_setAll_of_not_mem _ hover,
      IniMultiSet.values_setAll_of_not_mem _ hkey]
    rfl
  have hown : ∀ repo ∈ repos, ∀ option ∈ instanceRepoSets c repoHostName repoHostFQDN repo
      (getExternalRepoConfigs repo), option ∈ ("log-path", c.pgBackRestPGDataLogPath) ::
        instanceRepoLoopSets c repoHostName repoHostFQDN repos := fun repo hrepo option hoption =>
    List.mem_cons_of_mem _ (List.mem_flatMap.mpr ⟨repo, hrepo, hoption⟩)
  refine ⟨fun key value hmem => ?_, hset _ _ (List.mem_cons_self _ _),
    fun repo hrepo => ⟨hset _ _ (hown repo hrepo _ (List.mem_cons_self _ _)), ?_, ?_⟩, ?_⟩
  · rw [hglobal, IniMultiSet.values_setAll_of_mem _ globalConfig.keys_nodup hmem]
  · intro option hoption hover
    obtain ⟨suffix, hsuffix, hkey⟩ : ∃ suffix ∈ tlsSuffixes, repo.name ++ suffix = option.1 :=
      List.mem_map.mp (List.mem_map_of_mem Prod.fst hoption)
    split_ifs with hhost
    · exact hset _ _ (hown repo hrepo _ (by simp [instanceRepoSets, hhost, hoption])) hover
    · refine hunset _ (fun hmem => hhost (tls_mem_instanceRepoSuffixes hsuffix ?_)) hover
      rw [← hkey] at hmem
      exact mem_instanceRepoSuffixes c repoHostName repoHostFQDN hnames hdistinct hrepo
        (suffixes_head suffix (List.mem_cons_of_mem _ (List.mem_append_right _ hsuffix))) hmem
  · intro option hoption hover
    obtain ⟨suffix, hsuffix, hkey⟩ : ∃ suffix ∈ externalSuffixesOf repo,
        repo.name ++ suffix = option.1 := by
      have hmem := List.mem_map_of_mem Prod.fst hoption
      rw [map_fst_getExternalRepoConfigs] at hmem
      exact List.mem_map.mp hmem
    have hcloud := mem_externalSuffixes hsuffix
    split_ifs with hvolume
    · refine hunset _ (fun hmem => ?_) hover
      rw [← hkey] at hmem
      have hnoVolume := external_mem_instanceRepoSuffixes hcloud
        (mem_instanceRepoSuffixes c repoHostName repoHostFQDN hnames hdistinct hrepo
          (suffixes_head suffix (List.mem_cons_of_mem _ (List.mem_append_left _ hcloud))) hmem)
      exact Bool.false_ne_true (hnoVolume.symm.trans hvolume)
    · exact hset _ _ (hown repo hrepo _ (by simp [instanceRepoSets, repoSets, hvolume, hoption]))
        hover
  · intro key hkey
    rw [hglobal, IniMultiSet.mem_keys_setAll, IniMultiSet.mem_keys_setAll] at hkey
    rcases hkey with (hempty | hkey) | hover
    · exact absurd hempty (List.not_mem_nil _)
    · rw [List.map_cons, List.mem_cons] at hkey
      rcases hkey with rfl | hkey
      · exact Or.inr (Or.inl rfl)
      obtain ⟨option, hoption, rfl⟩ := List.mem_map.mp hkey
      unfold instanceRepoLoopSets at hoption
      obtain ⟨repo, hrepo, hoption⟩ := List.mem_flatMap.mp hoption
      refine Or.inr (Or.inr ⟨repo, hrepo, ?_⟩)
      simp only [instanceRepoSets, repoSets, List.cons_append, List.mem_cons, List.mem_append]
        at hoption
      rcases hoption with rfl | hoption | hoption
      · exact Or.inl rfl
      · split_ifs at hoption
        · exact Or.inr (Or.inr (List.mem_map_of_mem _ hoption))
        · cases hoption
      · split_ifs at hoption
        · exact Or.inr (Or.inl (List.mem_map_of_mem _ hoption))
        · cases hoption
    · exact Or.inl hover

/-- An instance with a volume repository `repo1` and a GCS repository `repo2`, under a
repository host, with one override. -/
theorem instance_global_section_two_repos :
    let c : Constants := ⟨"cluster.local", "/etc/pgbackrest/conf.d/ca.crt",
      "/etc/pgbackrest/conf.d/client.crt", "/etc/pgbackrest/conf.d/client.key", "/tmp/postgres",
      "/pgdata/pgbackrest/log", fun name => "/pgbackrest/" ++ name ++ "/log"⟩
    let repos : List PGBackRestRepo := [⟨"repo1", true, none, none, none⟩,
      ⟨"repo2", false, none, some ⟨"hippo-backups"⟩, none⟩]
    let globalConfig : GoMap := ⟨[("repo1-retention-full", "2")], by decide⟩
    let global := (populatePGInstanceConfigurationMap c "hippo-pods" "postgres-operator"
      "hippo-repo-host" "/pgdata/pg16" 5432 repos globalConfig).section "global"
    let repoHostFQDN := "hippo-repo-host" ++ "-0." ++ "hippo-pods" ++ "." ++ "postgres-operator" ++
      ".svc." ++ c.kubernetesClusterDomain
    let overridden (key : String) := key ∈ globalConfig.entries.map Prod.fst
    ((∀ repo ∈ repos, RepoName repo.name) ∧ (repos.map (·.name)).Nodup) ∧
    (∀ key value, (key, value) ∈ globalConfig.entries → global.values key = [value]) ∧
    (¬overridden "log-path" → global.values "log-path" = [c.pgBackRestPGDataLogPath]) ∧
    (∀ repo ∈ repos,
      (¬overridden (repo.name ++ "-path") →
        global.values (repo.name ++ "-path") = [defaultRepo1Path ++ repo.name]) ∧
      (∀ option ∈ repoHostTLSOptions c repoHostFQDN repo.name, ¬overridden option.1 →
        global.values option.1 = if "hippo-repo-host" ≠ "" ∧ repo.volume then [option.2] else []) ∧
      (∀ option ∈ getExternalRepoConfigs repo, ¬overridden option.1 →
        global.values option.1 = if repo.volume then [] else [option.2])) ∧
    ∀ key ∈ global.keys, overridden key ∨ key = "log-path" ∨ ∃ repo ∈ repos,
      key = repo.name ++ "-path" ∨ key ∈ (repoHostTLSOptions c repoHostFQDN repo.name).map Prod.fst ∨
        key ∈ (getExternalRepoConfigs repo).map Prod.fst := by
  intro c repos globalConfig global repoHostFQDN overridden
  have hnames : ∀ repo ∈ repos, RepoName repo.name := by
    intro repo hrepo
    rcases List.mem_cons.mp hrepo with rfl | hrepo
    · exact ⟨1, by decide⟩
    rcases List.mem_cons.mp hrepo with rfl | hrepo
    · exact ⟨2, by decide⟩
    cases hrepo
  have hdistinct : (repos.map (·.name)).Nodup := by decide
  exact ⟨⟨hnames, hdistinct⟩, instance_global_section c "hippo-pods" "postgres-operator"
    "hippo-repo-host" "/pgdata/pg16" 5432 repos globalConfig hnames hdistinct⟩

end IvoryOperator.PGBackRest
