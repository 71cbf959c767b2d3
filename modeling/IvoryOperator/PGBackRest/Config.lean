import IvoryOperator.PGBackRest.Ini

/-!
# pgBackRest configuration of an instance and of a repository host

`populatePGInstanceConfigurationMap` and `populateRepoHostConfigurationMap` build the `global`
section and the stanza section of the pgBackRest configuration. On an instance the stanza names
the local database with index 1. On a repository host the loop over `pgHosts` gives host
`i` (from 0) the eight options `pg<i+1>-host`, ..., `pg<i+1>-socket-path`.

Keys built with `fmt.Sprintf("pg%d-...", i+1)` are distinct across indices because the decimal
digits of a number decode back to it (`ofDigitChars_repr`) and a `-` ends them: `pgOption_inj`.
So no `Set` of the loop overwrites another, and `stanza_of_configurationMaps` says what the two
stanza sections hold.
-/

namespace IvoryOperator.PGBackRest

/-- `defaultRepo1Path`. -/
def defaultRepo1Path : String := "/pgbackrest/"

/-- `DefaultStanzaName`. -/
def DefaultStanzaName : String := "db"

/-- The values the two functions read that are declared outside src/: the cluster's DNS
domain `naming.KubernetesClusterDomain`, the paths of the certificate authority and of the
client certificate and key, `ivory.SocketDirectory`, the log path on the data volume and the
log path on a repository volume, by repository name. -/
structure Constants where
  kubernetesClusterDomain : String
  certAuthorityAbsolutePath : String
  certClientAbsolutePath : String
  certClientPrivateKeyAbsolutePath : String
  socketDirectory : String
  pgBackRestPGDataLogPath : String
  pgBackRestRepoLogPath : String → String

/-- The Azure storage of a repository. -/
structure AzureRepo where
  container : String

/-- The GCS storage of a repository. -/
structure GCSRepo where
  bucket : String

/-- The S3 storage of a repository. -/
structure S3Repo where
  bucket : String
  endpoint : String
  region : String

/-- A `v1beta1.PGBackRestRepo` as the functions read it: its name, whether it has a volume, and
its cloud storage. -/
structure PGBackRestRepo where
  name : String
  volume : Bool
  azure : Option AzureRepo
  gcs : Option GCSRepo
  s3 : Option S3Repo

/-- `getExternalRepoConfigs`: the options of a cloud repository, listed in the order the
function assigns them. A `range` over the map may visit them in another order, which changes
only the order of keys in the `global` section. -/
def getExternalRepoConfigs (repo : PGBackRestRepo) : List (String × String) :=
  match repo.azure, repo.gcs, repo.s3 with
  | some azure, _, _ =>
      [(repo.name ++ "-type", "azure"), (repo.name ++ "-azure-container", azure.container)]
  | none, some gcs, _ => [(repo.name ++ "-type", "gcs"), (repo.name ++ "-gcs-bucket", gcs.bucket)]
  | none, none, some s3 =>
      [(repo.name ++ "-type", "s3"), (repo.name ++ "-s3-bucket", s3.bucket),
        (repo.name ++ "-s3-endpoint", s3.endpoint), (repo.name ++ "-s3-region", s3.region)]
  | none, none, none => []

/-- `fmt.Sprintf("pg%d-<option>", index)`. -/
def pgOption (index : Nat) (option : String) : String :=
  "pg" ++ toString index ++ "-" ++ option

example : pgOption 12 "socket-path" = "pg12-socket-path" := by decide

/-- The options the loop over `pgHosts` sets for each host, in order. -/
def pgHostOptionNames : List String :=
  ["host", "host-type", "host-ca-file", "host-cert-file", "host-key-file", "path", "port",
    "socket-path"]

section

variable (c : Constants) (serviceName serviceNamespace pgdataDir : String) (pgPort : Int)

/-- One iteration of the loop over `pgHosts`: the eight `Set` calls for index `index`. -/
def pgHostOptions (index : Nat) (pgHost : String) : List (String × String) :=
  let pgHostFQDN := pgHost ++ "-0." ++ serviceName ++ "." ++ serviceNamespace ++ ".svc." ++
    c.kubernetesClusterDomain
  [(pgOption index "host", pgHostFQDN), (pgOption index "host-type", "tls"),
    (pgOption index "host-ca-file", c.certAuthorityAbsolutePath),
    (pgOption index "host-cert-file", c.certClientAbsolutePath),
    (pgOption index "host-key-file", c.certClientPrivateKeyAbsolutePath),
    (pgOption index "path", pgdataDir), (pgOption index "port", toString pgPort),
    (pgOption index "socket-path", c.socketDirectory)]

/-- The loop over `pgHosts`, from index `index` (`i + 1` for the host at `i`). -/
def setPGHosts : Nat → List String → IniMultiSet → IniMultiSet
  | _, [], stanza => stanza
  | index, pgHost :: pgHosts, stanza =>
      setPGHosts (index + 1) pgHosts (stanza.setAll (pgHostOptions c serviceName serviceNamespace
        pgdataDir pgPort index pgHost))

/-- The options the loop over `pgHosts` sets, in order. -/
def pgHostsOptions : Nat → List String → List (String × String)
  | _, [] => []
  | index, pgHost :: pgHosts =>
      pgHostOptions c serviceName serviceNamespace pgdataDir pgPort index pgHost ++
        pgHostsOptions (index + 1) pgHosts

end

/-- The six options that point a repository with a volume at the repository host. -/
def repoHostTLSOptions (c : Constants) (repoHostFQDN repoName : String) : List (String × String) :=
  [(repoName ++ "-host", repoHostFQDN), (repoName ++ "-host-type", "tls"),
    (repoName ++ "-host-ca-file", c.certAuthorityAbsolutePath),
    (repoName ++ "-host-cert-file", c.certClientAbsolutePath),
    (repoName ++ "-host-key-file", c.certClientPrivateKeyAbsolutePath),
    (repoName ++ "-host-user", "ivory")]

/-- The `Set` calls both builders make for one repository, in order: its path, then, without a
volume, the options of its cloud storage as `range` visits `getExternalRepoConfigs(repo)`
(`options`). -/
def repoSets (repo : PGBackRestRepo) (options : List (String × String)) : List (String × String) :=
  (repo.name ++ "-path", defaultRepo1Path ++ repo.name) :: if !repo.volume then options else []

/-- The `Set` calls of one iteration of the repository loop of an instance. -/
def instanceRepoSets (c : Constants) (repoHostName repoHostFQDN : String) (repo : PGBackRestRepo)
    (options : List (String × String)) : List (String × String) :=
  repoSets repo options ++
    if repoHostName ≠ "" ∧ repo.volume then repoHostTLSOptions c repoHostFQDN repo.name else []

/-- `populatePGInstanceConfigurationMap`, where `visited` lists the repositories in order, each
with the order in which `range` visits `getExternalRepoConfigs(repo)`, and `globalConfig` is
listed in the order `range` visits it. -/
def populatePGInstanceConfigurationMapVisiting (c : Constants)
    (serviceName serviceNamespace repoHostName pgdataDir : String) (pgPort : Int)
    (visited : List (PGBackRestRepo × List (String × String))) (globalConfig : GoMap) :
    IniSectionSet :=
  let repoHostFQDN := repoHostName ++ "-0." ++ serviceName ++ "." ++ serviceNamespace ++ ".svc." ++
    c.kubernetesClusterDomain
  let global := IniMultiSet.empty.set "log-path" c.pgBackRestPGDataLogPath
  let global := visited.foldl (fun global visit =>
    global.setAll (instanceRepoSets c repoHostName repoHostFQDN visit.1 visit.2)) global
  let global := global.setAll globalConfig.entries
  let stanza := IniMultiSet.empty.setAll [("pg1-path", pgdataDir), ("pg1-port", toString pgPort),
    ("pg1-socket-path", c.socketDirectory)]
  [("global", global), (DefaultStanzaName, stanza)]

/-- `populatePGInstanceConfigurationMap`, with each repository's cloud options visited in the
order `getExternalRepoConfigs` lists them. -/
def populatePGInstanceConfigurationMap (c : Constants)
    (serviceName serviceNamespace repoHostName pgdataDir : String) (pgPort : Int)
    (repos : List PGBackRestRepo) (globalConfig : GoMap) : IniSectionSet :=
  populatePGInstanceConfigurationMapVisiting c serviceName serviceNamespace repoHostName pgdataDir
    pgPort (repos.map fun repo => (repo, getExternalRepoConfigs repo)) globalConfig

/-- One iteration of the repository loop of a repository host, on the section and
`pgBackRestLogPathSet`: the log path goes to the first repository with a volume. -/
def repoHostRepoStep (c : Constants) (acc : IniMultiSet × Bool)
    (visit : PGBackRestRepo × List (String × String)) : IniMultiSet × Bool :=
  let global := acc.1.setAll (repoSets visit.1 visit.2)
  if !acc.2 ∧ visit.1.volume then (global.set "log-path" (c.pgBackRestRepoLogPath visit.1.name), true)
  else (global, acc.2)

/-- `populateRepoHostConfigurationMap`, with the orders of `range` given as for
`populatePGInstanceConfigurationMapVisiting`. -/
def populateRepoHostConfigurationMapVisiting (c : Constants)
    (serviceName serviceNamespace pgdataDir : String) (pgPort : Int) (pgHosts : List String)
    (visited : List (PGBackRestRepo × List (String × String))) (globalConfig : GoMap) :
    IniSectionSet :=
  let global := (visited.foldl (repoHostRepoStep c) (IniMultiSet.empty, false)).1
  let global := global.setAll globalConfig.entries
  let stanza := setPGHosts c serviceName serviceNamespace pgdataDir pgPort 1 pgHosts IniMultiSet.empty
  [("global", global), (DefaultStanzaName, stanza)]

/-- `populateRepoHostConfigurationMap`, with each repository's cloud options visited in the
order `getExternalRepoConfigs` lists them. -/
def populateRepoHostConfigurationMap (c : Constants) (serviceName serviceNamespace pgdataDir : String)
    (pgPort : Int) (pgHosts : List String) (repos : List PGBackRestRepo) (globalConfig : GoMap) :
    IniSectionSet :=
  populateRepoHostConfigurationMapVisiting c serviceName serviceNamespace pgdataDir pgPort pgHosts
    (repos.map fun repo => (repo, getExternalRepoConfigs repo)) globalConfig

/-- The requirements of a container that `MakePGBackrestLogDir` copies. -/
structure ResourceRequirements where
  limits : List (String × Int)
  requests : List (String × Int)

/-- A container of a pod template, with the fields `MakePGBackrestLogDir` sets or reads. -/
structure Container where
  name : String
  command : List String
  image : String
  imagePullPolicy : String
  resources : ResourceRequirements

/-- A pod template's containers and init containers. -/
structure PodTemplateSpec where
  containers : List Container
  initContainers : List Container

/-- The container names `naming.ContainerPGBackRestLogDirInit` and
`naming.PGBackRestRepoContainerName`, declared outside src/. -/
structure ContainerNames where
  logDirInit : String
  repoContainer : String

/-- `MakePGBackrestLogDir`: add an init container that creates the log directory of the first
repository with a volume. Of the cluster it reads the repositories,
`config.PGBackRestContainerImage(cluster)` (`image`) and `Spec.ImagePullPolicy`. The
container's security context, `initialize.RestrictedSecurityContext()`, is left out. -/
def MakePGBackrestLogDir (c : Constants) (names : ContainerNames) (repos : List PGBackRestRepo)
    (image imagePullPolicy : String) (template : PodTemplateSpec) : PodTemplateSpec :=
  let pgBackRestLogPath := match repos.find? (·.volume) with
    | some repo => c.pgBackRestRepoLogPath repo.name
    | none => ""
  let container : Container :=
    { name := names.logDirInit, command := ["bash", "-c", "mkdir -p " ++ pgBackRestLogPath],
      image := image, imagePullPolicy := imagePullPolicy,
      resources := ((template.containers.find? (·.name == names.repoContainer)).map
        (·.resources)).getD ⟨[], []⟩ }
  { template with initContainers := template.initContainers ++ [container] }

/-! ### Decimal indices -/

/-- The number a list of decimal digit characters spells. -/
def ofDigitChars (digits : List Char) : Nat :=
  digits.foldl (fun n d => 10 * n + (d.toNat - '0'.toNat)) 0

/-- A decimal digit's character decodes back to the digit. -/
theorem digitChar_toNat : ∀ d < 10, (Nat.digitChar d).toNat - '0'.toNat = d := by decide

/-- A decimal digit's character is a digit. -/
theorem digitChar_isDigit : ∀ d < 10, (Nat.digitChar d).isDigit = true := by decide

/-- One step of `Nat.toDigitsCore` in base 10: the last digit goes in front of `ds`. -/
theorem toDigitsCore_succ (fuel n : Nat) (ds : List Char) :
    Nat.toDigitsCore 10 (fuel + 1) n ds =
      if n / 10 = 0 then Nat.digitChar (n % 10) :: ds
      else Nat.toDigitsCore 10 fuel (n / 10) (Nat.digitChar (n % 10) :: ds) := rfl

/-- `Nat.toDigitsCore` puts its digits in front of the characters it is given. -/
theorem toDigitsCore_append (fuel n : Nat) (ds : List Char) :
    Nat.toDigitsCore 10 fuel n ds = Nat.toDigitsCore 10 fuel n [] ++ ds := by
  induction fuel generalizing n ds with
  | zero => rfl
  | succ fuel ih =>
      simp only [toDigitsCore_succ]
      split
      · rfl
      · rw [ih _ (_ :: ds), ih _ [_], List.append_assoc, List.singleton_append]

/-- Decoding the digits that `toDigits` writes gives the number back. -/
theorem ofDigitChars_toDigitsCore {fuel n : Nat} (h : n < fuel) :
    ofDigitChars (Nat.toDigitsCore 10 fuel n []) = n := by
  induction fuel generalizing n with
  | zero => omega
  | succ fuel ih =>
      have hdigit := digitChar_toNat (n % 10) (Nat.mod_lt _ (by decide))
      rw [toDigitsCore_succ]
      split
      · simp only [ofDigitChars, List.foldl_cons, List.foldl_nil, hdigit]
        omega
      · have hhigh := ih (show n / 10 < fuel by omega)
        rw [toDigitsCore_append]
        simp only [ofDigitChars, List.foldl_append, List.foldl_cons, List.foldl_nil] at hhigh ⊢
        rw [hhigh, hdigit]
        omega

/-- `Nat.toDigitsCore` in base 10 writes only digits. -/
theorem isDigit_of_mem_toDigitsCore {fuel n : Nat} {d : Char}
    (h : d ∈ Nat.toDigitsCore 10 fuel n []) : d.isDigit = true := by
  induction fuel generalizing n with
  | zero => cases h
  | succ fuel ih =>
      have hdigit := digitChar_isDigit (n % 10) (Nat.mod_lt _ (by decide))
      rw [toDigitsCore_succ] at h
      split at h
      · rw [List.mem_singleton.mp h]
        exact hdigit
      · rw [toDigitsCore_append, List.mem_append, List.mem_singleton] at h
        rcases h with h | rfl
        exacts [ih h, hdigit]

/-- `%d` of a natural number decodes back to it. -/
theorem ofDigitChars_repr (n : Nat) : ofDigitChars (Nat.repr n).data = n :=
  ofDigitChars_toDigitsCore (Nat.lt_succ_self n)

/-- `%d` of a natural number writes only digits. -/
theorem isDigit_of_mem_repr {n : Nat} {d : Char} (h : d ∈ (Nat.repr n).data) : d.isDigit = true :=
  isDigit_of_mem_toDigitsCore h

/-- Digits followed by a non-digit split one way only. -/
theorem digits_append_inj {sep : Char} (hsep : sep.isDigit = false) :
    ∀ {d₁ d₂ r₁ r₂ : List Char}, (∀ d ∈ d₁, d.isDigit = true) → (∀ d ∈ d₂, d.isDigit = true) →
      d₁ ++ sep :: r₁ = d₂ ++ sep :: r₂ → d₁ = d₂ ∧ r₁ = r₂
  | [], [], _, _, _, _, h => ⟨rfl, (List.cons.inj h).2⟩
  | [], d :: _, _, _, _, h₂, h => absurd (h₂ d (List.mem_cons_self _ _))
      (by rw [← (List.cons.inj h).1, hsep]; decide)
  | d :: _, [], _, _, h₁, _, h => absurd (h₁ d (List.mem_cons_self _ _))
      (by rw [(List.cons.inj h).1, hsep]; decide)
  | _ :: _, _ :: _, _, _, h₁, h₂, h =>
      have hrest := digits_append_inj hsep (fun d hd => h₁ d (List.mem_cons_of_mem _ hd))
        (fun d hd => h₂ d (List.mem_cons_of_mem _ hd)) (List.cons.inj h).2
      ⟨by rw [(List.cons.inj h).1, hrest.1], hrest.2⟩

/-- Option keys of two indices are equal only for the same index and option. -/
theorem pgOption_inj {i j : Nat} {a b : String} (h : pgOption i a = pgOption j b) :
    i = j ∧ a = b := by
  have hdata := congrArg String.data h
  simp only [pgOption, String.data_append, List.append_assoc, List.append_cancel_left_eq]
    at hdata
  change (Nat.repr i).data ++ '-' :: a.data = (Nat.repr j).data ++ '-' :: b.data at hdata
  obtain ⟨hdigits, hrest⟩ := digits_append_inj (by decide) (fun _ => isDigit_of_mem_repr)
    (fun _ => isDigit_of_mem_repr) hdata
  exact ⟨by rw [← ofDigitChars_repr i, hdigits, ofDigitChars_repr], String.ext hrest⟩

/-! ### The stanza sections -/

/-- The keys of distinct indices, each listing the eight options, are all distinct. -/
theorem pgOptionKeys_nodup (index n : Nat) :
    ((List.range' index n).flatMap fun k => pgHostOptionNames.map (pgOption k)).Nodup := by
  have hnames : pgHostOptionNames.Nodup := by decide
  refine List.nodup_flatMap.mpr ⟨fun k _ => hnames.map fun a b h => (pgOption_inj h).2, ?_⟩
  refine (List.nodup_range' index n).imp fun hne => List.disjoint_left.mpr ?_
  intro key hfirst hsecond
  obtain ⟨a, -, rfl⟩ := List.mem_map.mp hfirst
  obtain ⟨b, -, hb⟩ := List.mem_map.mp hsecond
  exact hne (pgOption_inj hb).1.symm

section

variable (c : Constants) (serviceName serviceNamespace pgdataDir : String) (pgPort : Int)

/-- The loop over the PostgreSQL hosts is one run of `Set`s, eight per host. -/
theorem setPGHosts_eq (index : Nat) (pgHosts : List String) (stanza : IniMultiSet) :
    setPGHosts c serviceName serviceNamespace pgdataDir pgPort index pgHosts stanza =
      stanza.setAll (pgHostsOptions c serviceName serviceNamespace pgdataDir pgPort index pgHosts) := by
  induction pgHosts generalizing index stanza with
  | nil => rfl
  | cons pgHost pgHosts ih => rw [setPGHosts, ih, pgHostsOptions, IniMultiSet.setAll_append]

/-- The keys the host loop sets: the eight options of each index in turn. -/
theorem map_fst_pgHostsOptions (index : Nat) (pgHosts : List String) :
    (pgHostsOptions c serviceName serviceNamespace pgdataDir pgPort index pgHosts).map Prod.fst =
      (List.range' index pgHosts.length).flatMap fun k => pgHostOptionNames.map (pgOption k) := by
  induction pgHosts generalizing index with
  | nil => rfl
  | cons pgHost pgHosts ih =>
      rw [pgHostsOptions, List.map_append, ih, List.length_cons, List.range'_succ,
        List.flatMap_cons]
      rfl

/-- The host loop makes eight `Set`s per host. -/
theorem length_pgHostsOptions (index : Nat) (pgHosts : List String) :
    (pgHostsOptions c serviceName serviceNamespace pgdataDir pgPort index pgHosts).length =
      8 * pgHosts.length := by
  induction pgHosts generalizing index with
  | nil => rfl
  | cons pgHost pgHosts ih =>
      rw [pgHostsOptions, List.length_append, ih, List.length_cons]
      simp only [pgHostOptions, List.length_cons, List.length_nil]
      omega

/-- The options of the host at position `i` are among those the loop sets, under index
`index + i`. -/
theorem mem_pgHostsOptions (index : Nat) (pgHosts : List String) (i : Nat) (hi : i < pgHosts.length)
    {option : String × String}
    (hoption : option ∈ pgHostOptions c serviceName serviceNamespace pgdataDir pgPort (index + i)
      pgHosts[i]) :
    option ∈ pgHostsOptions c serviceName serviceNamespace pgdataDir pgPort index pgHosts := by
  induction pgHosts generalizing index i with
  | nil => cases hi
  | cons pgHost pgHosts ih =>
      rw [pgHostsOptions, List.mem_append]
      cases i with
      | zero => exact Or.inl hoption
      | succ i =>
          refine Or.inr (ih (index + 1) i (by simpa using hi) ?_)
          rwa [Nat.add_right_comm, Nat.add_assoc]

end

/-- The stanza section of the repository host: the loop's options on an empty section. -/
theorem populateRepoHostConfigurationMap_stanza (c : Constants)
    (serviceName serviceNamespace pgdataDir : String) (pgPort : Int) (pgHosts : List String)
    (repos : List PGBackRestRepo) (globalConfig : GoMap) :
    (populateRepoHostConfigurationMap c serviceName serviceNamespace pgdataDir pgPort pgHosts repos
        globalConfig).section DefaultStanzaName =
      IniMultiSet.empty.setAll (pgHostsOptions c serviceName serviceNamespace pgdataDir pgPort 1 pgHosts) :=
  setPGHosts_eq c serviceName serviceNamespace pgdataDir pgPort 1 pgHosts _

/-- On a repository host the stanza section holds the eight options of each index `1..N`,
in input order and each once, with the values the loop sets: `pg<i+1>-host` is the FQDN of
`pgHosts[i]`. On an instance it holds `pg1-path`, `pg1-port` and `pg1-socket-path`, whatever
the repositories. -/
theorem stanza_of_configurationMaps (c : Constants)
    (serviceName serviceNamespace repoHostName pgdataDir : String) (pgPort : Int)
    (pgHosts : List String) (repos : List PGBackRestRepo) (globalConfig : GoMap) :
    let stanza := (populateRepoHostConfigurationMap c serviceName serviceNamespace pgdataDir pgPort
      pgHosts repos globalConfig).section DefaultStanzaName
    (stanza.keys =
        (List.range' 1 pgHosts.length).flatMap (fun k => pgHostOptionNames.map (pgOption k)) ∧
      stanza.keys.Nodup ∧ stanza.keys.length = 8 * pgHosts.length ∧
      (∀ key ∈ stanza.keys, (stanza.values key).length = 1) ∧
      ∀ i (hi : i < pgHosts.length), ∀ option ∈ pgHostOptions c serviceName serviceNamespace
        pgdataDir pgPort (i + 1) pgHosts[i], stanza.values option.1 = [option.2]) ∧
    ((populatePGInstanceConfigurationMap c serviceName serviceNamespace repoHostName pgdataDir
        pgPort repos globalConfig).section DefaultStanzaName).entries =
      [("pg1-path", [pgdataDir]), ("pg1-port", [toString pgPort]),
        ("pg1-socket-path", [c.socketDirectory])] := by
  intro stanza
  have hstanza : stanza = _ := populateRepoHostConfigurationMap_stanza c serviceName
    serviceNamespace pgdataDir pgPort pgHosts repos globalConfig
  have hmap := map_fst_pgHostsOptions c serviceName serviceNamespace pgdataDir pgPort 1 pgHosts
  obtain ⟨hkeys, hvalues⟩ := IniMultiSet.empty_setAll (hmap ▸ pgOptionKeys_nodup 1 pgHosts.length)
  rw [← hstanza] at hkeys hvalues
  refine ⟨⟨hkeys.trans hmap, stanza.keys_nodup, ?_, fun key hkey => ?_, fun i hi option hoption => ?_⟩, rfl⟩
  · rw [hkeys, List.length_map, length_pgHostsOptions]
  · rw [hkeys] at hkey
    obtain ⟨option, hoption, rfl⟩ := List.mem_map.mp hkey
    rw [hvalues option.1 option.2 hoption, List.length_singleton]
  · rw [Nat.add_comm] at hoption
    exact hvalues option.1 option.2 (mem_pgHostsOptions c serviceName serviceNamespace pgdataDir
      pgPort 1 pgHosts i hi hoption)

end IvoryOperator.PGBackRest
