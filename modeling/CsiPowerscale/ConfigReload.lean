import CsiPowerscale.Driver
import CsiPowerscale.Effects.Interleave
import CsiPowerscale.GoLib.Collections

namespace CsiPowerscale
open GoLib Effects Effects.Prog

structure ClusterInput where
  clusterName : Str
  user : Str
  password : Str
  endpoint : Str
  endpointPort : Str := []
  mountEndpoint : Str := []
  skipCertificateValidation : Option Bool := none
  isiPath : Str := []
  isiVolumePathPermissions : Str := []
  isDefault : Option Bool := none
  replicationCertificateID : Str := []
  ignoreUnresolvableHosts : Option Bool := none
  nfsMountFQDN : Str := []
  deriving DecidableEq

/-- `IsilonClusterConfig` as it is read from the secret; `isiSvc` says whether its client could be
set up. -/
structure IsilonClusterConfig where
  clusterName : Str
  user : Str
  password : Str
  endpoint : Str
  endpointPort : Str
  mountEndpoint : Str
  endpointURL : Str
  skipCertificateValidation : Bool
  isiPath : Str
  isiVolumePathPermissions : Str
  isDefault : Bool
  replicationCertificateID : Str
  ignoreUnresolvableHosts : Bool
  nfsMountFQDN : Str
  isiSvc : Bool
  deriving DecidableEq

structure ConfigOptions where
  isilonConfigFile : Str
  port : Str
  skipCertificateValidation : Bool
  path : Str
  isiVolumePathPermissions : Str
  ignoreUnresolvableHosts : Bool
  customTopologyEnabled : Bool
  noProbeOnStart : Bool
  getIsiService : Str → Bool

namespace ConfigOptions

def complete (opts : ConfigOptions) (input : ClusterInput) : IsilonClusterConfig :=
  let endpoint := if startsWith input.endpoint "https://" then input.endpoint.drop 8
    else input.endpoint
  let endpointPort := if input.endpointPort = [] then opts.port else input.endpointPort
  { clusterName := input.clusterName
    user := input.user
    password := input.password
    endpoint := endpoint
    endpointPort := endpointPort
    mountEndpoint := input.mountEndpoint
    endpointURL := sprintf ["https://", endpoint, ":", endpointPort]
    skipCertificateValidation :=
      input.skipCertificateValidation.getD opts.skipCertificateValidation
    isiPath := if input.isiPath = [] then opts.path else input.isiPath
    isiVolumePathPermissions :=
      if input.isiVolumePathPermissions = [] then opts.isiVolumePathPermissions
      else input.isiVolumePathPermissions
    isDefault := input.isDefault.getD false
    replicationCertificateID := input.replicationCertificateID
    ignoreUnresolvableHosts := input.ignoreUnresolvableHosts.getD opts.ignoreUnresolvableHosts
    nfsMountFQDN := input.nfsMountFQDN
    isiSvc := !opts.noProbeOnStart && opts.getIsiService input.clusterName }

def missing (input : ClusterInput) (i : Nat) : Option Err :=
  if input.clusterName = [] then
    some (.plain (sprintf ["clusterName not provided in secret at index [", natToStr i, "]"]))
  else if input.user = [] then
    some (.plain (sprintf ["username not provided for cluster ", input.clusterName, " at index [",
      natToStr i, "]"]))
  else if input.password = [] then
    some (.plain (sprintf ["password not provided for cluster ", input.clusterName, "  at index [",
      natToStr i, "]"]))
  else if input.endpoint = [] then
    some (.plain (sprintf ["endpoint not provided for cluster ", input.clusterName, " at index [",
      natToStr i, "]"]))
  else none

def newConfigs (opts : ConfigOptions) : Nat → List IsilonClusterConfig → Nat → Str →
    List ClusterInput → Except Err (List IsilonClusterConfig × Str)
  | _, configs, _, defaultName, [] => .ok (configs, defaultName)
  | i, configs, noOfDefaultClusters, defaultName, input :: more =>
    match missing input i with
    | some e => .error e
    | none =>
      let config := opts.complete input
      let noOfDefaultClusters :=
        if config.isDefault then noOfDefaultClusters + 1 else noOfDefaultClusters
      if config.isDefault ∧ noOfDefaultClusters > 1 then
        .error (.plain (sprintf ["'IsDefault' attribute set for multiple isilon cluster configs in ",
          "'isilonClusters': ", config.clusterName,
          ". Only one cluster should be marked as default cluster"]))
      else if config.clusterName ∈ configs.map (·.clusterName) then
        .error (.plain (sprintf ["duplicate cluster name [", config.clusterName,
          "] found in input isilonClusters"]))
      else
        opts.newConfigs (i + 1) (configs ++ [config]) noOfDefaultClusters
          (if config.isDefault then config.clusterName else defaultName) more

/-- The configurations and the default name in the content of the secret; `none` is a content that
is not valid YAML. -/
def getNewIsilonConfigs (opts : ConfigOptions) (content : Option (List ClusterInput)) :
    Except Err (List IsilonClusterConfig × Str) :=
  match content with
  | none => .error (.plain "failed to parse isilon clusters' config details as yaml data")
  | some inputs =>
    if inputs = [] then .error (.plain "cluster details are not provided in isilon-creds secret")
    else if inputs.length > 1 ∧ opts.customTopologyEnabled then
      .error (.plain "custom topology is enabled and it expects single cluster config in secret")
    else opts.newConfigs 0 [] 0 [] inputs

end ConfigOptions

/-- What the RPCs read of a configuration; `clients` is the node map's entry for the dummy host. -/
def IsilonClusterConfig.clusterConfig (clients : Str → Option Str) (c : IsilonClusterConfig) :
    ClusterConfig where
  clusterName := c.clusterName
  endpoint := c.endpoint
  mountEndpoint := c.mountEndpoint
  isiPath := c.isiPath
  isiVolumePathPermissions := c.isiVolumePathPermissions
  replicationCertificateID := c.replicationCertificateID
  nfsMountFQDN := c.nfsMountFQDN
  ignoreUnresolvableHosts := c.ignoreUnresolvableHosts
  isiSvc := c.isiSvc
  currentClient := clients c.clusterName

abbrev ConfigContent := List IsilonClusterConfig × Str

inductive ConfigFile
  | unreadable (text : Str)
  | empty
  | yaml (content : Option (List ClusterInput))
  deriving DecidableEq

structure ConfigStore where
  isiClusters : List IsilonClusterConfig
  defaultIsiClusterName : Str
  deriving DecidableEq

inductive ConfigCall
  | keys
  | load (clusterName : Str)
  | store (config : IsilonClusterConfig)
  | delete (clusterName : Str)
  | getDefault
  | setDefault (clusterName : Str)

@[reducible] def ConfigCall.Reply : ConfigCall → Type
  | .keys => List Str
  | .load _ => Option IsilonClusterConfig
  | .store _ | .delete _ | .setDefault _ => Unit
  | .getDefault => Str

def ConfigStore.serve (s : ConfigStore) : (c : ConfigCall) → c.Reply × ConfigStore
  | .keys => (s.isiClusters.map (·.clusterName), s)
  | .load name => (s.isiClusters.find? fun c => c.clusterName = name, s)
  | .store config =>
    ((), { s with
      isiClusters := s.isiClusters.filter (fun c => c.clusterName ≠ config.clusterName) ++
        [config] })
  | .delete name =>
    ((), { s with isiClusters := s.isiClusters.filter fun c => c.clusterName ≠ name })
  | .getDefault => (s.defaultIsiClusterName, s)
  | .setDefault name => ((), { s with defaultIsiClusterName := name })

/-- The service as an RPC finds it that no reload overlaps with. -/
def ConfigStore.service (s : ConfigStore) (clients : Str → Option Str) (svc : Service) : Service :=
  { svc with
    defaultIsiClusterName := s.defaultIsiClusterName
    isilonClusters := s.isiClusters.map (·.clusterConfig clients) }

def configWorld : World ConfigCall ConfigCall.Reply Err ConfigStore where
  act c s := (.ok (s.serve c).1, (s.serve c).2)

abbrev ConfigM := Prog ConfigCall ConfigCall.Reply Err

def onConfig (c : ConfigCall) : ConfigM c.Reply := op c

def deleteClusters : List Str → ConfigM Unit
  | [] => ret ()
  | key :: more => do
    onConfig (.delete key)
    deleteClusters more

def storeClusters : List IsilonClusterConfig → ConfigM Unit
  | [] => ret ()
  | config :: more => do
    onConfig (.store config)
    storeClusters more

def syncIsilonConfigs (opts : ConfigOptions) (file : ConfigFile) (keys : MapOrder Str)
    (configs : MapOrder IsilonClusterConfig) : ConfigM Unit :=
  match file with
  | .unreadable text => fail (.plain (sprintf ["file ('", opts.isilonConfigFile, "') error: ", text]))
  | .empty => fail (.plain "isilon cluster details are not provided in isilon-creds secret")
  | .yaml content => do
    let _ ← onConfig .keys
    match opts.getNewIsilonConfigs content with
    | .error e => fail e
    | .ok (newIsilonConfigs, defaultClusterName) => do
      let present ← onConfig .keys
      deleteClusters (keys.order present)
      storeClusters (configs.order newIsilonConfigs)
      let _ ← onConfig .keys
      onConfig (.setDefault defaultClusterName)
      let _ ← onConfig .getDefault
      ret ()

def lookUpCluster (clusterName : Str) : ConfigM (Str × IsilonClusterConfig) := do
  match ← onConfig (.load clusterName) with
  | none => fail (.plain
      (sprintf ["failed to get cluster config details for clusterName: '", clusterName, "'"]))
  | some config => ret (clusterName, config)

def getIsilonConfig (clusterName : Str) : ConfigM (Str × IsilonClusterConfig) := do
  if clusterName = [] then
    let _ ← onConfig .getDefault
    let name ← onConfig .getDefault
    let checked ← onConfig .getDefault
    if checked = [] then
      fail (.plain "no default cluster config available to continue with request")
    else lookUpCluster name
  else lookUpCluster clusterName

def ConfigFile.accepted (opts : ConfigOptions) : ConfigFile → Option ConfigContent
  | .yaml content =>
    match opts.getNewIsilonConfigs content with
    | .ok found => some found
    | .error _ => none
  | _ => none

def ConfigFile.after (opts : ConfigOptions) (file : ConfigFile) (before : ConfigContent) :
    ConfigContent :=
  (file.accepted opts).getD before

inductive ConfigTask
  | reload (keys : MapOrder Str) (configs : MapOrder IsilonClusterConfig)
  | request (clusterName : Str)

/-- Reloads of a new content of the secret and lookups, on one service. `syncMutex` keeps a second
reload from starting. -/
def reloadSystem (opts : ConfigOptions) (file : ConfigFile) :
    System ConfigTask ConfigCall ConfigCall.Reply Err (Option (Str × IsilonClusterConfig))
      ConfigStore where
  world := configWorld
  code
    | .reload keys configs => do
      syncIsilonConfigs opts file keys configs
      ret none
    | .request clusterName => do
      let found ← getIsilonConfig clusterName
      ret (some found)
  blocks
    | .reload _ _, .reload _ _ => true
    | _, _ => false

abbrev ConfigEvent := Event ConfigTask Err (Option (Str × IsilonClusterConfig))

abbrev ConfigPool :=
  Pool ConfigTask ConfigCall ConfigCall.Reply Err (Option (Str × IsilonClusterConfig)) ConfigStore

def ConfigTask.isRequest : ConfigTask → Prop
  | .reload _ _ => False
  | .request _ => True

/-- A lookup of a cluster that is configured before and after finds it, and one without a name finds
a cluster if there is a default before and after. -/
def Resolved (before after : ConfigContent) (clusterName : Str)
    (r : Except Err (Option (Str × IsilonClusterConfig))) : Prop :=
  (clusterName ≠ [] → clusterName ∈ before.1.map (·.clusterName) →
    clusterName ∈ after.1.map (·.clusterName) →
    ∃ config, r = .ok (some (clusterName, config)) ∧ config.clusterName = clusterName) ∧
  (clusterName = [] → before.2 ≠ [] → after.2 ≠ [] →
    ∃ name config, r = .ok (some (name, config)) ∧ config.clusterName = name)

structure WellFormedConfigs (content : ConfigContent) : Prop where
  nodup : (content.1.map (·.clusterName)).Nodup
  default : content.2 ≠ [] → content.2 ∈ content.1.map (·.clusterName)

theorem ok_of_guard {c : Prop} [Decidable c] {x : Except Err α}
    (h : (if c then .error e else x) = .ok a) : ¬ c ∧ x = .ok a := by
  by_cases hc : c
  · rw [if_pos hc] at h
    cases h
  · rw [if_neg hc] at h
    exact ⟨hc, h⟩

theorem ConfigOptions.newConfigs_cons {opts : ConfigOptions}
    (h : opts.newConfigs i configs n defaultName (input :: more) = .ok content) :
    (opts.complete input).clusterName ∉ configs.map (·.clusterName) ∧
      ∃ n', opts.newConfigs (i + 1) (configs ++ [opts.complete input]) n'
        (if (opts.complete input).isDefault then (opts.complete input).clusterName
          else defaultName) more = .ok content := by
  rw [newConfigs] at h
  cases hmissing : missing input i with
  | some e =>
    rw [hmissing] at h
    cases h
  | none =>
    rw [hmissing] at h
    obtain ⟨hnew, hmore⟩ := ok_of_guard (ok_of_guard h).2
    exact ⟨hnew, _, hmore⟩

theorem ConfigOptions.newConfigs_wellFormed {opts : ConfigOptions}
    (h : opts.newConfigs i configs n defaultName inputs = .ok content)
    (hw : WellFormedConfigs (configs, defaultName)) : WellFormedConfigs content := by
  induction inputs generalizing i configs n defaultName with
  | nil =>
    cases h
    exact hw
  | cons input more ih =>
    obtain ⟨hnew, n', hmore⟩ := ConfigOptions.newConfigs_cons h
    apply ih hmore
    apply WellFormedConfigs.mk
    · rw [List.map_append, List.nodup_append]
      refine ⟨hw.nodup, by simp, ?_⟩
      intro a ha b hb hab
      obtain rfl : b = (opts.complete input).clusterName := by simpa using hb
      exact hnew (hab ▸ ha)
    · intro hne
      rw [List.map_append, List.mem_append]
      by_cases hdef : (opts.complete input).isDefault = true
      · rw [if_pos hdef]
        exact .inr (List.mem_singleton.2 rfl)
      · rw [if_neg hdef] at hne ⊢
        exact .inl (hw.default hne)

theorem ConfigFile.yaml_of_accepted {file : ConfigFile} (h : file.accepted opts = some content) :
    ∃ input, file = .yaml input ∧ opts.getNewIsilonConfigs input = .ok content := by
  unfold ConfigFile.accepted at h
  split at h
  · next input =>
    split at h
    · next hnew =>
      cases h
      exact ⟨input, rfl, hnew⟩
    · cases h
  · cases h

theorem ConfigFile.accepted_wellFormed {file : ConfigFile} (h : file.accepted opts = some content) :
    WellFormedConfigs content := by
  obtain ⟨input, rfl, hfound⟩ := ConfigFile.yaml_of_accepted h
  cases input with
  | none => cases hfound
  | some inputs =>
    have hloop := (ok_of_guard (ok_of_guard hfound).2).2
    exact ConfigOptions.newConfigs_wellFormed hloop ⟨List.nodup_nil, fun hne => absurd rfl hne⟩

structure ConfigStore.Holds (s : ConfigStore) (content : ConfigContent) : Prop where
  clusters : s.isiClusters.Perm content.1
  default : s.defaultIsiClusterName = content.2

theorem ConfigStore.Holds.find {s : ConfigStore} (h : s.Holds content)
    (hname : name ∈ content.1.map (·.clusterName)) :
    ∃ config, s.isiClusters.find? (fun c => c.clusterName = name) = some config ∧
      config.clusterName = name := by
  obtain ⟨c, hc, rfl⟩ := List.mem_map.1 hname
  have hsome : (s.isiClusters.find? fun d => d.clusterName = c.clusterName).isSome = true := by
    rw [List.find?_isSome]
    exact ⟨c, h.clusters.mem_iff.2 hc, by simp⟩
  obtain ⟨config, hfind⟩ := Option.isSome_iff_exists.1 hsome
  exact ⟨config, hfind, by simpa using List.find?_some hfind⟩

section Runs

variable {s : ConfigStore}

theorem run_onConfig (c : ConfigCall) (s : ConfigStore) :
    run configWorld (onConfig c) s = (.ok (s.serve c).1, (s.serve c).2) := rfl

theorem run_onConfig_bind (c : ConfigCall) (f : c.Reply → ConfigM α) (s : ConfigStore) :
    run configWorld (onConfig c >>= f) s = run configWorld (f (s.serve c).1) (s.serve c).2 := rfl

theorem run_deleteClusters (keys : List Str) (s : ConfigStore) :
    run configWorld (deleteClusters keys) s =
      (.ok (), { s with isiClusters := s.isiClusters.filter fun c => c.clusterName ∉ keys }) := by
  induction keys generalizing s with
  | nil => simp [deleteClusters]
  | cons key more ih =>
    rw [deleteClusters, run_bind, run_onConfig]
    dsimp only
    rw [ih]
    simp only [ConfigStore.serve, List.filter_filter, List.mem_cons, not_or]
    simp [Bool.and_comm]

theorem run_storeClusters (configs stored : List IsilonClusterConfig) (defaultName : Str)
    (hnodup : ((stored ++ configs).map (·.clusterName)).Nodup) :
    run configWorld (storeClusters configs) ⟨stored, defaultName⟩ =
      (.ok (), ⟨stored ++ configs, defaultName⟩) := by
  induction configs generalizing stored with
  | nil => simp [storeClusters]
  | cons config more ih =>
    have hfilter : stored.filter (fun c => c.clusterName ≠ config.clusterName) = stored := by
      apply List.filter_eq_self.2
      intro c hc
      rw [List.map_append, List.nodup_append] at hnodup
      have := hnodup.2.2 _ (List.mem_map_of_mem hc) config.clusterName (by simp)
      simpa using this
    rw [storeClusters, run_bind, run_onConfig]
    dsimp only [ConfigStore.serve]
    rw [hfilter, ih (stored ++ [config]) (by simpa using hnodup)]
    simp

theorem run_syncIsilonConfigs_accepted (h : file.accepted opts = some content)
    (keys : MapOrder Str) (configs : MapOrder IsilonClusterConfig) (s : ConfigStore) :
    run configWorld (syncIsilonConfigs opts file keys configs) s =
      (.ok (), ⟨configs.order content.1, content.2⟩) := by
  have hw := ConfigFile.accepted_wellFormed h
  obtain ⟨input, rfl, hnew⟩ := ConfigFile.yaml_of_accepted h
  unfold syncIsilonConfigs
  dsimp only
  rw [hnew]
  have hdelete : run configWorld
      (deleteClusters (keys.order (s.isiClusters.map (·.clusterName)))) s =
        (.ok (), ⟨[], s.defaultIsiClusterName⟩) := by
    rw [run_deleteClusters, List.filter_eq_nil_iff.2]
    intro c hc
    simp only [decide_eq_true_eq, not_not]
    exact (keys.perm _).mem_iff.2 (List.mem_map_of_mem hc)
  have hnodup : (([] ++ configs.order content.1).map IsilonClusterConfig.clusterName).Nodup :=
    ((configs.perm content.1).map _).nodup_iff.2 hw.nodup
  rw [run_onConfig_bind, run_onConfig_bind]
  apply run_bind_ok.2 ⟨(), _, hdelete, _⟩
  exact run_bind_ok.2 ⟨(), _, run_storeClusters _ _ _ hnodup, rfl⟩

theorem run_lookUpCluster (h : s.Holds content) (hname : name ∈ content.1.map (·.clusterName)) :
    ∃ config, run configWorld (lookUpCluster name) s = (.ok (name, config), s) ∧
      config.clusterName = name := by
  obtain ⟨config, hfind, hconfig⟩ := h.find hname
  apply Exists.intro config
  apply And.intro _ hconfig
  rw [lookUpCluster, run_onConfig_bind]
  simp only [ConfigStore.serve, hfind, run_ret]

theorem run_getIsilonConfig (h : s.Holds content) (hw : WellFormedConfigs content) (name : Str)
    (hname : name ≠ [] → name ∈ content.1.map (·.clusterName))
    (hdefault : name = [] → content.2 ≠ []) :
    ∃ config, run configWorld (getIsilonConfig name) s =
        (.ok (if name = [] then content.2 else name, config), s) ∧
      config.clusterName = if name = [] then content.2 else name := by
  by_cases hempty : name = []
  · have hne := hdefault hempty
    obtain ⟨config, hrun, hconfig⟩ := run_lookUpCluster h (hw.default hne)
    rw [if_pos hempty]
    apply Exists.intro config
    apply And.intro _ hconfig
    rw [getIsilonConfig, if_pos hempty, run_onConfig_bind, run_onConfig_bind, run_onConfig_bind]
    simp only [ConfigStore.serve, h.default, if_neg hne, hrun]
  · rw [if_neg hempty, getIsilonConfig, if_neg hempty]
    exact run_lookUpCluster h (hname hempty)

/-- Without an overlap a lookup finds what `Service.getIsilonConfig` finds. -/
theorem getIsilonConfig_service (s : ConfigStore) (clients : Str → Option Str) (svc : Service)
    (name : Str) :
    (run configWorld (getIsilonConfig name) s).1.map (fun x => (x.1, x.2.clusterConfig clients)) =
      (s.service clients svc).getIsilonConfig name := by
  have hlook (key : Str) (hkey : key ≠ []) : (run configWorld (lookUpCluster key) s).1.map
      (fun x => (x.1, x.2.clusterConfig clients)) = (s.service clients svc).getIsilonConfig key := by
    have hfind : (s.service clients svc).isilonClusters.find? (fun c => c.clusterName = key) =
        (s.isiClusters.find? fun c => c.clusterName = key).map (·.clusterConfig clients) :=
      List.find?_map
    rw [lookUpCluster, run_onConfig_bind]
    simp only [Service.getIsilonConfig, if_neg hkey, hfind, ConfigStore.serve]
    cases s.isiClusters.find? fun c => c.clusterName = key with
    | none => rfl
    | some config => rfl
  by_cases hname : name = []
  · have hservice : (s.service clients svc).defaultIsiClusterName = s.defaultIsiClusterName := rfl
    have hcode : run configWorld (getIsilonConfig []) s = run configWorld
        (if s.defaultIsiClusterName = [] then
          fail (.plain "no default cluster config available to continue with request")
        else lookUpCluster s.defaultIsiClusterName) s := rfl
    rw [hname, hcode]
    by_cases hdefault : s.defaultIsiClusterName = []
    · rw [if_pos hdefault]
      simp only [Service.getIsilonConfig, if_true, hservice, if_pos hdefault]
      rfl
    · rw [if_neg hdefault, hlook _ hdefault]
      simp only [Service.getIsilonConfig, if_true, hservice, if_neg hdefault]
  · rw [getIsilonConfig, if_neg hname, hlook name hname]

end Runs

def ConfigCall.Still (c : ConfigCall) : Prop := ∀ s : ConfigStore, (configWorld.act c s).2 = s

theorem uses_onConfig (c : ConfigCall) : uses U (onConfig c) ↔ U c := uses_op c

theorem uses_still_getIsilonConfig (name : Str) : uses ConfigCall.Still (getIsilonConfig name) := by
  have hlook : ∀ n, uses ConfigCall.Still (lookUpCluster n) := by
    intro n
    refine uses_bind ((uses_onConfig (.load n)).2 fun _ => rfl) ?_
    intro r
    cases r <;> trivial
  have hdefault : uses ConfigCall.Still (onConfig .getDefault) :=
    (uses_onConfig .getDefault).2 fun _ => rfl
  unfold getIsilonConfig
  split
  · refine uses_bind hdefault fun _ => uses_bind hdefault fun n => uses_bind hdefault fun d => ?_
    split
    · trivial
    · exact hlook n
  · exact hlook name

theorem uses_still_syncIsilonConfigs {file : ConfigFile} (h : file.accepted opts = none)
    (keys : MapOrder Str) (configs : MapOrder IsilonClusterConfig) :
    uses ConfigCall.Still (syncIsilonConfigs opts file keys configs) := by
  cases file with
  | unreadable text => trivial
  | empty => trivial
  | yaml content =>
    unfold ConfigFile.accepted at h
    refine uses_bind ((uses_onConfig .keys).2 fun _ => rfl) fun _ => ?_
    cases hnew : opts.getNewIsilonConfigs content with
    | error e => trivial
    | ok found => simp [hnew] at h

def ReloadInvariant (before after : ConfigContent) (log : List ConfigEvent) (s : ConfigStore) :
    Prop :=
  (s.Holds before ∨ s.Holds after) ∧
    ∀ name r, .finished (.request name) r ∈ log → Resolved before after name r

section Reload

variable {opts : ConfigOptions} {file : ConfigFile} {before : ConfigContent}

theorem resolved_of_holds (hcontent : content = before ∨ content = after)
    (hw : WellFormedConfigs content) (h : s.Holds content) (name : Str) :
    Resolved before after name
      (run configWorld ((reloadSystem opts file).code (.request name)) s).1 := by
  have hrun : ∀ found, run configWorld (getIsilonConfig name) s = (.ok found, s) →
      run configWorld ((reloadSystem opts file).code (.request name)) s = (.ok (some found), s) :=
    fun found hfound => run_bind_ok.2 ⟨found, s, hfound, rfl⟩
  apply And.intro
  · intro hne hbefore hafter
    have hmem : name ∈ content.1.map (·.clusterName) := by
      rcases hcontent with rfl | rfl
      · exact hbefore
      · exact hafter
    obtain ⟨config, hget, hconfig⟩ :=
      run_getIsilonConfig h hw name (fun _ => hmem) fun hempty => absurd hempty hne
    rw [if_neg hne] at hget hconfig
    rw [hrun _ hget]
    exact ⟨config, rfl, hconfig⟩
  · intro hempty hbefore hafter
    have hdefault : content.2 ≠ [] := by
      rcases hcontent with rfl | rfl
      · exact hbefore
      · exact hafter
    obtain ⟨config, hget, hconfig⟩ :=
      run_getIsilonConfig h hw name (fun hne => absurd hempty hne) fun _ => hdefault
    rw [hrun _ hget]
    exact ⟨_, config, rfl, hconfig⟩

variable (hbefore : WellFormedConfigs before)

theorem ReloadInvariant.append (h : ReloadInvariant before after log s)
    (hmore : ∀ name r, .finished (.request name) r ∈ more → Resolved before after name r)
    (ht : t.Holds before ∨ t.Holds after) : ReloadInvariant before after (log ++ more) t := by
  apply And.intro ht
  intro name r hr
  rcases List.mem_append.1 hr with hr | hr
  · exact h.2 name r hr
  · exact hmore name r hr

include hbefore

theorem ConfigFile.after_wellFormed : WellFormedConfigs (file.after opts before) := by
  unfold ConfigFile.after
  cases h : file.accepted opts with
  | none => exact hbefore
  | some content => exact ConfigFile.accepted_wellFormed h

theorem reload_shared (log : List ConfigEvent) (s : ConfigStore) (task : ConfigTask)
    (htask : task.isRequest) (h : ReloadInvariant before (file.after opts before) log s) :
    ReloadInvariant before (file.after opts before) (log ++ [.started task]) s ∧
      System.Reads (reloadSystem opts file) ConfigTask.isRequest .none
        (ReloadInvariant before (file.after opts before)) s task
        ((reloadSystem opts file).code task) := by
  cases task with
  | reload keys configs => cases htask
  | request name =>
    have hstill : uses ConfigCall.Still ((reloadSystem opts file).code (.request name)) :=
      uses_bind (uses_still_getIsilonConfig name) fun _ => trivial
    have hresolved : Resolved before (file.after opts before) name
        (run configWorld ((reloadSystem opts file).code (.request name)) s).1 := by
      rcases h.1 with hs | hs
      · exact resolved_of_holds (.inl rfl) hbefore hs name
      · exact resolved_of_holds (.inr rfl) (ConfigFile.after_wellFormed hbefore) hs name
    apply And.intro
    · apply h.append _ h.1
      intro n r hr
      cases List.mem_singleton.1 hr
    refine ⟨trivial, hstill, wp_none_iff_run.2 ?_⟩
    intro log hlog
    apply hlog.append _ hlog.1
    intro n r hr
    cases List.mem_singleton.1 hr
    exact hresolved

omit hbefore in
theorem reload_alone (log : List ConfigEvent) (s : ConfigStore) (task : ConfigTask)
    (htask : ¬ task.isRequest) (h : ReloadInvariant before (file.after opts before) log s) :
    wp configWorld .none ((reloadSystem opts file).code task)
      (fun r t => ReloadInvariant before (file.after opts before)
        (log ++ [.started task] ++ [.finished task r]) t) s := by
  cases task with
  | request name => exact absurd trivial htask
  | reload keys configs =>
    rw [wp_none_iff_run, List.append_assoc]
    apply h.append
    · intro n r hr
      simp at hr
    cases hnew : file.accepted opts with
    | none =>
      have hstill : uses ConfigCall.Still ((reloadSystem opts file).code (.reload keys configs)) :=
        uses_bind (uses_still_syncIsilonConfigs hnew keys configs) fun _ => trivial
      rw [run_state_of_uses hstill fun c t hc => hc t]
      exact h.1
    | some content =>
      have hrun : run configWorld ((reloadSystem opts file).code (.reload keys configs)) s =
          (.ok none, ⟨configs.order content.1, content.2⟩) :=
        run_bind_ok.2 ⟨(), _, run_syncIsilonConfigs_accepted hnew keys configs s, rfl⟩
      rw [hrun]
      apply Or.inr
      rw [ConfigFile.after, hnew]
      exact ⟨configs.perm content.1, rfl⟩

end Reload

/-- The reload is transparent for lookups that do not overlap with it, and a content that is
rejected changes nothing, whatever the interleaving. -/
theorem syncIsilonConfigs_transparent (opts : ConfigOptions) (old file : ConfigFile)
    (before : ConfigContent) (hold : old.accepted opts = some before)
    (moves : List (Move ConfigTask Err)) :
    let start : ConfigPool := ⟨[], ⟨before.1, before.2⟩, []⟩
    let last := (reloadSystem opts file).play moves start
    ((reloadSystem opts file).Along (System.Exclusive ConfigTask.isRequest .none) moves start →
      ∀ name r, .finished (.request name) r ∈ last.log →
        Resolved before (file.after opts before) name r) ∧
    (file.accepted opts = none → last.state = start.state) := by
  intro start last
  have hbefore := ConfigFile.accepted_wellFormed hold
  apply And.intro
  · intro halong name r hr
    have hstart : ReloadInvariant before (file.after opts before) [] start.state :=
      ⟨.inl ⟨.refl _, rfl⟩, fun name r hr => by cases hr⟩
    have hadmitted : (reloadSystem opts file).Along (fun p m =>
        System.Exclusive ConfigTask.isRequest .none p m ∧ System.Admitted (fun _ _ => True) p m)
        moves start :=
      halong.mono fun p m hm => ⟨hm, by cases m <;> trivial⟩
    obtain ⟨log, s, hlog, hlast⟩ := (System.Apart.play
      (fun log s task _ => reload_shared hbefore log s task)
      (fun log s task _ => reload_alone log s task) hadmitted hstart).logged
    rcases hlast with hlast | ⟨task, hlast⟩
    · exact hlog.2 name r (hlast ▸ hr)
    · apply hlog.2 name r
      rw [hlast] at hr
      simpa using hr
  · intro hnone
    apply System.play_state_of_uses
    intro task
    cases task with
    | reload keys configs =>
      exact uses_bind (uses_still_syncIsilonConfigs hnone keys configs) fun _ => trivial
    | request name => exact uses_bind (uses_still_getIsilonConfig name) fun _ => trivial

def plainOptions : ConfigOptions where
  isilonConfigFile := "/isilon-configs/config"
  port := "8080"
  skipCertificateValidation := false
  path := "/ifs"
  isiVolumePathPermissions := "0777"
  ignoreUnresolvableHosts := false
  customTopologyEnabled := false
  noProbeOnStart := false
  getIsiService _ := true

def oneClusterSecret : ConfigFile :=
  .yaml (some [{
    clusterName := "c1"
    user := "admin"
    password := "secret"
    endpoint := "https://10.0.0.1"
    isDefault := some true }])

def firstConfig : IsilonClusterConfig where
  clusterName := "c1"
  user := "admin"
  password := "secret"
  endpoint := "10.0.0.1"
  endpointPort := "8080"
  mountEndpoint := []
  endpointURL := "https://10.0.0.1:8080"
  skipCertificateValidation := false
  isiPath := "/ifs"
  isiVolumePathPermissions := "0777"
  isDefault := true
  replicationCertificateID := []
  ignoreUnresolvableHosts := false
  nfsMountFQDN := []
  isiSvc := true

def oneClusterContent : ConfigContent := ([firstConfig], ("c1" : Str))

theorem accepted_oneClusterSecret :
    oneClusterSecret.accepted plainOptions = some oneClusterContent := by
  decide

/-- The cluster `c1` with another password, and `c2` as the default. -/
def twoClusterSecret : ConfigFile :=
  .yaml (some [{
    clusterName := "c1"
    user := "admin"
    password := "changed"
    endpoint := "https://10.0.0.1" }, {
    clusterName := "c2"
    user := "admin"
    password := "secret"
    endpoint := "https://10.0.0.2"
    isDefault := some true }])

def changedConfig : IsilonClusterConfig :=
  { firstConfig with password := "changed", isDefault := false }

def secondConfig : IsilonClusterConfig :=
  { firstConfig with
    clusterName := "c2"
    endpoint := "10.0.0.2"
    endpointURL := "https://10.0.0.2:8080" }

def lookup (name : Str) (steps : Nat) : List (Move ConfigTask Err) :=
  .start (.request name) :: List.replicate steps (.serve 0)

def wholeReload : List (Move ConfigTask Err) :=
  .start (.reload listOrder listOrder) :: List.replicate 9 (.serve 0)

/-- A lookup, then a whole reload, then two lookups. -/
theorem syncIsilonConfigs_transparent_c1 :
    oneClusterSecret.accepted plainOptions = some oneClusterContent ∧
    (∀ config ∈ [firstConfig, changedConfig],
      Resolved oneClusterContent (twoClusterSecret.after plainOptions oneClusterContent) "c1"
        (.ok (some ("c1", config)))) ∧
    Resolved oneClusterContent (twoClusterSecret.after plainOptions oneClusterContent) []
      (.ok (some ("c2", secondConfig))) := by
  have h := (syncIsilonConfigs_transparent plainOptions oneClusterSecret twoClusterSecret
    oneClusterContent accepted_oneClusterSecret
    (lookup "c1" 2 ++ wholeReload ++ lookup "c1" 2 ++ lookup [] 5)).1 ?_
  · refine ⟨accepted_oneClusterSecret, ?_, h [] _ ?_⟩
    · rw [List.forall_mem_cons, List.forall_mem_singleton]
      exact ⟨h "c1" _ (List.mem_of_getElem? (i := 1) rfl),
        h "c1" _ (List.mem_of_getElem? (i := 5) rfl)⟩
    · exact List.mem_of_getElem? (i := 7) rfl
  · refine ⟨?_, trivial, trivial, ?_, trivial, trivial, trivial, trivial, trivial, trivial, trivial,
      trivial, trivial, ?_, trivial, trivial, ?_, trivial, trivial, trivial, trivial, trivial, trivial⟩
    all_goals exact List.forall_mem_nil _

/-- A reload of the content that is already there: a lookup of its only cluster between the deletion
and the store finds nothing. -/
theorem syncIsilonConfigs_gap : ((reloadSystem plainOptions oneClusterSecret).play
      [.start (.reload listOrder listOrder), .serve 0, .serve 0, .serve 0, .start (.request "c1"),
        .serve 1, .serve 1] ⟨[], ⟨oneClusterContent.1, oneClusterContent.2⟩, []⟩).log =
      [.started (.reload listOrder listOrder), .started (.request "c1"), .finished (.request "c1")
          (.error (.plain "failed to get cluster config details for clusterName: 'c1'"))] := by
  rfl

end CsiPowerscale
