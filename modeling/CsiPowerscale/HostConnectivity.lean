import CsiPowerscale.Driver

namespace CsiPowerscale
open GoLib

structure ArrayConnectivityStatus where
  lastSuccess : Int64
  lastAttempt : Int64
  deriving DecidableEq

inductive StatusReply
  | status (s : ArrayConnectivityStatus)
  | failed (text : Str)
  | panicked
  deriving DecidableEq

structure ActiveClient where
  protocol : Str
  remoteAddr : Str
  deriving DecidableEq

structure PodmonView where
  apiPort : Str
  statusAPI : Str → StatusReply
  now : Int64
  pollingFrequency : Int64
  isIOInProgress : Str → Option (List ActiveClient)

def arrayStatus : Str := "/array-status"

variable (env : PodmonView)

/-- Whether a node can reach an array, and the text of the error. A panic is recovered from, with
the zero values as the result. -/
def PodmonView.queryArrayStatus (url : Str) : Bool × Option Str :=
  match env.statusAPI url with
  | .failed text => (false, some text)
  | .panicked => (false, none)
  | .status s =>
    let timeDiff := s.lastAttempt - s.lastSuccess
    let tolerance := env.pollingFrequency
    -- the connectivity test of the node has stopped running
    if env.now - s.lastAttempt > tolerance * 2 then (false, none)
    else if timeDiff ≤ tolerance + 2 then (true, none)
    else (false, none)

structure ValidateVolumeHostConnectivityRequest where
  arrayId : Str
  nodeId : Str
  volumeIds : List Str
  deriving DecidableEq

structure ValidateVolumeHostConnectivityResponse where
  connected : Bool := false
  iosInProgress : Bool := false
  messages : List Str := []
  deriving DecidableEq

def PodmonView.arrayStatusURL (nodeIP arrayID : Str) : Str :=
  sprintf ["http://", nodeIP, env.apiPort, arrayStatus, "/", arrayID]

def checkIfNodeIsConnected (arrayID nodeID : Str)
    (rep : ValidateVolumeHostConnectivityResponse) :
    ValidateVolumeHostConnectivityResponse × Option Err :=
  let rep := { rep with connected := false }
  match parseNodeID nodeID with
  | .error _ => (rep, some (.plain "failed to parse node ID"))
  | .ok node =>
    let (connected, err) := env.queryArrayStatus (env.arrayStatusURL node.ip arrayID)
    let messages := match err with
      | some e => rep.messages ++ [sprintf ["connectivity unknown for array ", arrayID, " to node ",
          nodeID, " due to ", e]]
      | none => rep.messages
    if connected then
      ({ rep with
          connected := true
          messages := messages ++ [sprintf ["array ", arrayID, " is connected to node ", nodeID]] },
        none)
    else
      ({ rep with
          messages := messages ++
            [sprintf ["array ", arrayID, " is not connected to node ", nodeID]] },
        none)

def clusterOfVolume (volumeID : Str) : Str :=
  match parseNormalizedVolumeID volumeID with
  | .ok v => v.clusterName
  | .error _ => []

def getArrayIDsFromVolumes (systemIDs : List Str) : List Str → List Str × Bool
  | [] => (systemIDs, false)
  | volumeID :: more =>
    let systemID := clusterOfVolume volumeID
    if systemID ≠ [] ∧ systemID ∉ systemIDs then
      ((getArrayIDsFromVolumes (systemIDs ++ [systemID]) more).1, true)
    else getArrayIDsFromVolumes systemIDs more

variable (svc : Service)

def Service.systemIDs (req : ValidateVolumeHostConnectivityRequest) : List Str :=
  if req.arrayId = [] then
    let (ids, foundOne) := getArrayIDsFromVolumes [] req.volumeIds
    if foundOne then ids else ids.insert svc.defaultIsiClusterName
  else []

def ActiveClient.busy (nodeID : Str) (c : ActiveClient) : Bool :=
  (c.protocol = ("nfs3" : Str) || c.protocol = ("nfs4" : Str)) && (match parseNodeID nodeID with
      | .ok node => node.ip
      | .error _ => []) = c.remoteAddr

def Service.checkArrays (svc : Service) (env : PodmonView)
    (req : ValidateVolumeHostConnectivityRequest) :
    List Str → ValidateVolumeHostConnectivityResponse →
      Option ValidateVolumeHostConnectivityResponse × Option Err
  | [], rep => (some rep, none)
  | systemID :: more, rep =>
    match checkIfNodeIsConnected env systemID req.nodeId rep with
    | (rep, some e) => (some rep, some e)
    | (rep, none) =>
      if req.volumeIds = [] then svc.checkArrays env req more rep
      else
        match svc.getIsilonConfig systemID with
        | .error e => (none, some e)
        | .ok (name, cfg) =>
          -- the method reads a field of the cluster's client, which is set by a probe only
          if !cfg.isiSvc then (none, some .panic)
          else
            let clients := (env.isIOInProgress name).getD []
            svc.checkArrays env req more
              { rep with iosInProgress := rep.iosInProgress || clients.any (·.busy req.nodeId) }

/-- `order` is the order in which the map of arrays is gone through. -/
def Service.validateVolumeHostConnectivity (env : PodmonView) (order : List Str)
    (req : ValidateVolumeHostConnectivityRequest) :
    Option ValidateVolumeHostConnectivityResponse × Option Err :=
  if req.volumeIds = [] ∧ req.nodeId = [] then
    (some { messages := ["ValidateVolumeHostConnectivity is implemented"] }, none)
  else if req.nodeId = [] then (none, some (.plain "the NodeID is a required field"))
  else svc.checkArrays env req order {}

def Service.arraysOf (req : ValidateVolumeHostConnectivityRequest) : List Str :=
  if req.arrayId ≠ [] then [req.arrayId]
  else
    let named := (req.volumeIds.map clusterOfVolume).filter (· ≠ [])
    if named = [] then [svc.defaultIsiClusterName] else named

def PodmonView.connectedTo (nodeID arrayID : Str) : Bool :=
  match parseNodeID nodeID with
  | .ok node => (env.queryArrayStatus (env.arrayStatusURL node.ip arrayID)).1
  | .error _ => false

def Service.Serves (systemID : Str) : Prop :=
  ∃ name cfg, svc.getIsilonConfig systemID = .ok (name, cfg) ∧ cfg.isiSvc = true

/-- Whatever the order of the map, a reply without an error is about the arrays of the request and
says that the node is connected exactly when it is so to all of them. -/
def Service.AnswersConnectivity (env : PodmonView)
    (req : ValidateVolumeHostConnectivityRequest) : Prop :=
  ∀ order rep, order.Perm (svc.systemIDs req) →
    svc.validateVolumeHostConnectivity env order req = (some rep, none) →
    (∀ a, a ∈ order ↔ a ∈ svc.arraysOf req) ∧
    (rep.connected = true ↔ order ≠ [] ∧ ∀ a ∈ order, env.connectedTo req.nodeId a = true)

/-- The checks run into an error. -/
def Service.ConnectivityRefused (req : ValidateVolumeHostConnectivityRequest) :
    Prop :=
  (∀ node, parseNodeID req.nodeId ≠ .ok node) ∨
    req.volumeIds ≠ [] ∧ ∃ a ∈ svc.arraysOf req, ¬ svc.Serves a

theorem checkIfNodeIsConnected_connected (arrayID nodeID : Str)
    (rep : ValidateVolumeHostConnectivityResponse) :
    (checkIfNodeIsConnected env arrayID nodeID rep).1.connected =
      env.connectedTo nodeID arrayID := by
  unfold checkIfNodeIsConnected PodmonView.connectedTo
  cases parseNodeID nodeID with
  | error e => rfl
  | ok node => cases h : (env.queryArrayStatus (env.arrayStatusURL node.ip arrayID)).1 <;> simp [h]

theorem checkIfNodeIsConnected_none_iff (arrayID nodeID : Str)
    (rep : ValidateVolumeHostConnectivityResponse) :
    (checkIfNodeIsConnected env arrayID nodeID rep).2 = none ↔
      ∃ node, parseNodeID nodeID = .ok node := by
  unfold checkIfNodeIsConnected
  cases parseNodeID nodeID with
  | error e => simp
  | ok node => cases h : (env.queryArrayStatus (env.arrayStatusURL node.ip arrayID)).1 <;> simp [h]

section Loop

variable {svc : Service} {env : PodmonView} {req : ValidateVolumeHostConnectivityRequest}

def Service.Passes (svc : Service) (req : ValidateVolumeHostConnectivityRequest) (a : Str) : Prop :=
  (∃ node, parseNodeID req.nodeId = .ok node) ∧ (req.volumeIds = [] ∨ svc.Serves a)

theorem Service.checkArrays_of_passes (h : svc.Passes req a) (more : List Str)
    (rep : ValidateVolumeHostConnectivityResponse) :
    ∃ rep' : ValidateVolumeHostConnectivityResponse, rep'.connected = env.connectedTo req.nodeId a ∧
        svc.checkArrays env req (a :: more) rep = svc.checkArrays env req more rep' := by
  obtain ⟨hnode, hserves⟩ := h
  have hconn := checkIfNodeIsConnected_connected env a req.nodeId rep
  have hnone := (checkIfNodeIsConnected_none_iff env a req.nodeId rep).2 hnode
  rw [Service.checkArrays]
  cases hc : checkIfNodeIsConnected env a req.nodeId rep with
  | mk rep₁ err =>
    rw [hc] at hconn hnone
    subst hnone
    by_cases hvols : req.volumeIds = []
    · exact ⟨rep₁, hconn, if_pos hvols⟩
    obtain ⟨name, cfg, hcfg, hset⟩ := hserves.resolve_left hvols
    exact ⟨{ rep₁ with
        iosInProgress := rep₁.iosInProgress ||
          ((env.isIOInProgress name).getD []).any (·.busy req.nodeId) },
      hconn, by simp [hvols, hcfg, hset]⟩

theorem Service.passes_of_checkArrays
    (h : svc.checkArrays env req (a :: more) rep = (some rep', none)) : svc.Passes req a := by
  have hnone := checkIfNodeIsConnected_none_iff env a req.nodeId rep
  rw [Service.checkArrays] at h
  cases hc : checkIfNodeIsConnected env a req.nodeId rep with
  | mk rep₁ err =>
    rw [hc] at h hnone
    cases err with
    | some e => cases h
    | none =>
      apply And.intro (hnone.1 rfl)
      by_cases hvols : req.volumeIds = []
      · exact .inl hvols
      simp only [if_neg hvols] at h
      cases hcfg : svc.getIsilonConfig a with
      | error e =>
        rw [hcfg] at h
        cases h
      | ok found =>
        rw [hcfg] at h
        by_cases hset : found.2.isiSvc = true
        · exact .inr ⟨found.1, found.2, hcfg, hset⟩
        · simp [hset] at h

theorem Service.checkArrays_answers_iff :
    (∃ rep', svc.checkArrays env req order rep = (some rep', none)) ↔
      ∀ a ∈ order, svc.Passes req a := by
  induction order generalizing rep with
  | nil => simp [Service.checkArrays]
  | cons a more ih =>
    rw [List.forall_mem_cons]
    apply Iff.intro
    · intro ⟨rep', h⟩
      have hpasses := Service.passes_of_checkArrays h
      obtain ⟨rep₁, _, heq⟩ := Service.checkArrays_of_passes hpasses more rep
      exact ⟨hpasses, ih.1 ⟨rep', heq ▸ h⟩⟩
    intro ⟨hpasses, hmore⟩
    obtain ⟨rep₁, _, heq⟩ := Service.checkArrays_of_passes hpasses more rep
    rw [heq]
    exact ih.2 hmore

theorem Service.checkArrays_connected {order : List Str}
    {rep rep' : ValidateVolumeHostConnectivityResponse}
    (h : svc.checkArrays env req order rep = (some rep', none)) :
    rep'.connected = (order.getLast?.map (env.connectedTo req.nodeId)).getD rep.connected := by
  induction order generalizing rep with
  | nil =>
    cases h
    rfl
  | cons a more ih =>
    obtain ⟨rep₁, hconn, heq⟩ :=
      Service.checkArrays_of_passes (Service.passes_of_checkArrays h) more rep
    rw [ih (heq ▸ h), List.getLast?_cons, hconn]
    cases more.getLast? <;> rfl

end Loop

theorem mem_getArrayIDsFromVolumes {vols : List Str} {a : Str} :
    a ∈ (getArrayIDsFromVolumes systemIDs vols).1 ↔
      a ∈ systemIDs ∨ a ∈ (vols.map clusterOfVolume).filter (· ≠ []) := by
  induction vols generalizing systemIDs with
  | nil => simp [getArrayIDsFromVolumes]
  | cons v more ih =>
    rw [getArrayIDsFromVolumes]
    grind

theorem getArrayIDsFromVolumes_found {vols : List Str} : (getArrayIDsFromVolumes [] vols).2 = true ↔
      (vols.map clusterOfVolume).filter (· ≠ []) ≠ [] := by
  induction vols with
  | nil => simp [getArrayIDsFromVolumes]
  | cons v more ih =>
    rw [getArrayIDsFromVolumes]
    by_cases h : clusterOfVolume v = []
    · simpa [h] using ih
    · simp [h]

theorem Service.mem_systemIDs {svc : Service} {req : ValidateVolumeHostConnectivityRequest}
    (h : req.arrayId = []) : a ∈ svc.systemIDs req ↔ a ∈ svc.arraysOf req := by
  have hmem := @mem_getArrayIDsFromVolumes [] req.volumeIds
  have hfound := @getArrayIDsFromVolumes_found req.volumeIds
  simp only [Service.systemIDs, Service.arraysOf, h, if_true, ne_eq, not_true, if_false]
  grind

theorem Service.arraysOf_ne_nil (svc : Service) (req : ValidateVolumeHostConnectivityRequest) :
    svc.arraysOf req ≠ [] := by
  unfold Service.arraysOf
  grind

/-- The node is connected to all arrays or to none. -/
def Service.ConnectivityUniform (svc : Service) (env : PodmonView)
    (req : ValidateVolumeHostConnectivityRequest) : Prop :=
  (∀ a ∈ svc.arraysOf req, env.connectedTo req.nodeId a = true) ∨
    ∀ a ∈ svc.arraysOf req, env.connectedTo req.nodeId a = false

theorem exists_perm_getLast? (h : a ∈ l) :
    ∃ order : List Str, order.Perm l ∧ order.getLast? = some a :=
  ⟨l.erase a ++ [a], ((List.perm_cons_erase h).trans (List.perm_append_singleton a _).symm).symm,
    by simp⟩

theorem Service.not_refused_iff {svc : Service} :
    ¬ svc.ConnectivityRefused req ↔ ∀ a ∈ svc.arraysOf req, svc.Passes req a := by
  obtain ⟨b, hb⟩ := List.exists_mem_of_ne_nil _ (svc.arraysOf_ne_nil req)
  unfold Service.ConnectivityRefused Service.Passes
  grind

/-- The answer about a node is well defined exactly when the request names no array and the checks
run into an error or agree. -/
theorem validateVolumeHostConnectivity_answers_iff (svc : Service) (env : PodmonView)
    (req : ValidateVolumeHostConnectivityRequest) (hnode : req.nodeId ≠ []) :
    svc.AnswersConnectivity env req ↔
      req.arrayId = [] ∧ (svc.ConnectivityRefused req ∨ svc.ConnectivityUniform env req) := by
  have hloop : ∀ order, svc.validateVolumeHostConnectivity env order req =
      svc.checkArrays env req order {} := by
    intro order
    simp [Service.validateVolumeHostConnectivity, hnode]
  apply Iff.intro
  · intro h
    have harray : req.arrayId = [] := by
      by_contra harray
      -- a request that names its array has nothing checked
      have hnil : svc.systemIDs req = [] := if_neg harray
      have := (h [] {} (by rw [hnil]) (hloop [])).1 req.arrayId
      simp [Service.arraysOf, harray] at this
    apply And.intro harray
    by_contra hnot
    rw [not_or, Service.not_refused_iff, Service.ConnectivityUniform] at hnot
    obtain ⟨hpasses, hmixed⟩ := hnot
    push Not at hmixed
    obtain ⟨⟨b, hb, hbn⟩, a, ha, hac⟩ := hmixed
    obtain ⟨order, hperm, hlast⟩ := exists_perm_getLast? ((Service.mem_systemIDs harray).2 ha)
    have hmem : ∀ x, x ∈ order ↔ x ∈ svc.arraysOf req :=
      fun x => hperm.mem_iff.trans (Service.mem_systemIDs harray)
    obtain ⟨rep, hrep⟩ := (@Service.checkArrays_answers_iff svc env req order {}).2
      fun x hx => hpasses x ((hmem x).1 hx)
    have hconn := Service.checkArrays_connected hrep
    rw [hlast] at hconn
    have hall := ((h order rep hperm ((hloop order).trans hrep)).2.1
      (hconn.trans (by simpa using hac))).2
    exact hbn (hall b ((hmem b).2 hb))
  · intro ⟨harray, h⟩ order rep hperm hrep
    rw [hloop] at hrep
    have hmem : ∀ x, x ∈ order ↔ x ∈ svc.arraysOf req :=
      fun x => hperm.mem_iff.trans (Service.mem_systemIDs harray)
    have hpasses := Service.checkArrays_answers_iff.1 ⟨rep, hrep⟩
    have hconn := Service.checkArrays_connected hrep
    have huniform := h.resolve_left (Service.not_refused_iff.2 fun a ha => hpasses a ((hmem a).2 ha))
    obtain ⟨b, hb⟩ := List.exists_mem_of_ne_nil _ (svc.arraysOf_ne_nil req)
    have hne : order ≠ [] := List.ne_nil_of_mem ((hmem b).2 hb)
    apply And.intro hmem
    rw [List.getLast?_eq_some_getLast hne] at hconn
    have hlast := (hmem _).1 (List.getLast_mem hne)
    apply Iff.intro
    · intro htrue
      apply And.intro hne
      intro x hx
      rcases huniform with hall | hnone
      · exact hall x ((hmem x).1 hx)
      · rw [hconn] at htrue
        simp [hnone _ hlast] at htrue
    · intro hall
      rw [hconn]
      exact hall.2 _ (List.getLast_mem hne)

def clusterPair : Service :=
  { oneCluster with
    isilonClusters := oneCluster.isilonClusters ++
      oneCluster.isilonClusters.map ({ · with clusterName := "c2" }) }

def reachesFirst : PodmonView where
  apiPort := ":8083"
  statusAPI url :=
    if url = ("http://10.0.0.9:8083/array-status/c1" : Str) then .status ⟨100, 100⟩
    else .status ⟨0, 100⟩
  now := 100
  pollingFrequency := 60
  isIOInProgress _ := some []

def volumesOn (clusters : List Str) : ValidateVolumeHostConnectivityRequest where
  arrayId := []
  nodeId := "node1=#=#=node1.lan=#=#=10.0.0.9"
  volumeIds := clusters.map (getNormalizedVolumeID "vol1" 19 "System")

def reachesBoth : PodmonView := { reachesFirst with statusAPI := fun _ => .status ⟨100, 100⟩ }

theorem validateVolumeHostConnectivity_answers_both : (volumesOn ["c1", "c2"]).nodeId ≠ [] ∧
      clusterPair.AnswersConnectivity reachesBoth (volumesOn ["c1", "c2"]) :=
  ⟨by decide, (validateVolumeHostConnectivity_answers_iff _ _ _ (by decide)).2
    ⟨rfl, .inr (.inl (by decide +kernel))⟩⟩

/-- With a volume on each of two clusters the flag depends on the order of the map: in one, the node
is said to be connected although it does not reach the second cluster. -/
theorem validateVolumeHostConnectivity_last_wins :
    clusterPair.systemIDs (volumesOn ["c1", "c2"]) = ["c1", "c2"] ∧
    reachesFirst.connectedTo (volumesOn ["c1", "c2"]).nodeId "c2" = false ∧
    ((clusterPair.validateVolumeHostConnectivity reachesFirst ["c2", "c1"]
      (volumesOn ["c1", "c2"])).1.map (·.connected),
      (clusterPair.validateVolumeHostConnectivity reachesFirst ["c2", "c1"]
      (volumesOn ["c1", "c2"])).2) = (some true, none) ∧
    ((clusterPair.validateVolumeHostConnectivity reachesFirst ["c1", "c2"]
      (volumesOn ["c1", "c2"])).1.map (·.connected),
      (clusterPair.validateVolumeHostConnectivity reachesFirst ["c1", "c2"]
      (volumesOn ["c1", "c2"])).2) = (some false, none) := by
  decide +kernel

end CsiPowerscale
