import CsiPowerscale.PublishAgain

namespace CsiPowerscale
open GoLib Effects Effects.Prog Controller Driver

def Driver.removeClients (d : Driver) (cluster : Str) (i : Int) (z : Str) (names : List Str) : Driver :=
  d.setArray cluster ((d.arrays cluster).removeClients i z names)

theorem Driver.findExport_removeClients {d : Driver} (cluster : Str) (i : Int) (z : Str)
    (names : List Str) : (d.removeClients cluster i z names).findExport cluster i z =
      (d.findExport cluster i z).map fun e => e.without names := by
  simp only [Driver.findExport, Driver.removeClients, Driver.setArray_arrays_self,
    OneFS.exportById_removeClients_self]

namespace Controller

variable {svc : Service} {req : ControllerPublishVolumeRequest} {d t u : Driver} {v : VolumeID}
  {n : NodeID} {name nodeID : Str} {cfg : ClusterConfig} {mode : AccessMode} {i j : Nat} {e : Export}

theorem run_removeExportClients (he : (s.exportById k z).isSome) (names : List Str) (b : Bool) :
    run array (IsiService.removeExportClients k z names b) s =
      (.ok (), s.removeClients k z names) := by
  simp [IsiService.removeExportClients, run_bind, array_act, OneFS.serve, OneFS.change, he]

theorem run_removeOrDelete (h : run array remove (u.arrays name) = (.ok (), s)) :
    run (driver j) (removeOrDelete svc name v volumeID shown remove) u =
      (.ok (), u.setArray name s) := by
  simp only [removeOrDelete, run_bind, run_attempt, run_onCluster, h, run_ret]

theorem run_getIps (nodeID : Str) (select : List Str → List Str) (hnil : select [] = [])
    (noMatch : Str) :
    (select (u.kube.labelsOf nodeID) = [] →
      ∃ e, run (driver j) (getIpsFromLabels nodeID select noMatch) u = (.error e, u)) ∧
    (select (u.kube.labelsOf nodeID) ≠ [] → run (driver j) (getIpsFromLabels nodeID select noMatch) u =
      (.ok (select (u.kube.labelsOf nodeID)), u)) := by
  cases hn : parseNodeID nodeID with
  | error e =>
    refine ⟨fun _ => ⟨e, by rw [getIpsFromLabels, hn]; rfl⟩, fun h => ?_⟩
    rw [Kube.labelsOf, hn] at h
    exact absurd hnil h
  | ok n =>
    rw [run_getIpsFromLabels hn]
    simp only [Driver.labelsOf, Kube.labelsOf, hn]
    cases u.kube.labels.lookup n.name with
    | none => exact ⟨fun _ => ⟨_, rfl⟩, fun h => absurd hnil h⟩
    | some l =>
      simp only [Option.getD_some]
      refine ⟨fun h => ?_, fun h => by rw [if_neg h]⟩
      rw [if_pos h]
      exact ⟨_, rfl⟩

def revokedClients (svc : Service) (k : Kube) (nodeID : Str) (n : NodeID) (azNetwork : Str) :
    List Str :=
  if azNetwork ≠ [] then azNetworkIPs (k.labelsOf nodeID) azNetwork
  else if usesAllowedNetworks svc = true ∧
      allowedNetworkIPs (k.labelsOf nodeID) svc.allowedNetworks ≠ [] then
    allowedNetworkIPs (k.labelsOf nodeID) svc.allowedNetworks
  else [n.ip, n.name, n.fqdn]

theorem run_removeNode {request : ControllerUnpublishVolumeRequest}
    (he : u.findExport name v.exportID v.accessZone = some e)
    (hn : parseNodeID request.nodeID = .ok n) (hne : request.nodeID ≠ [])
    (haz : azNetwork ≠ [] → azNetworkIPs (u.kube.labelsOf request.nodeID) azNetwork ≠ []) :
    run (driver j) (removeNode svc request v name cfg azNetwork) u =
      (.ok (), u.removeClients name v.exportID v.accessZone
        (revokedClients svc u.kube request.nodeID n azNetwork)) := by
  have hsome : ((u.arrays name).exportById v.exportID v.accessZone).isSome := by
    rw [← Driver.findExport, he]
    rfl
  have hremove (names : List Str) (b : Bool) (shown : Str) :
      run (driver j) (removeOrDelete svc name v request.volumeID shown
        (IsiService.removeExportClients v.exportID v.accessZone names b)) u =
        (.ok (), u.removeClients name v.exportID v.accessZone names) :=
    run_removeOrDelete (run_removeExportClients hsome names b)
  have hid (shown : Str) : run (driver j) (removeOrDelete svc name v request.volumeID shown
      (IsiService.removeExportClientByIDWithZone v.exportID v.accessZone request.nodeID
        cfg.ignoreUnresolvableHosts)) u =
      (.ok (), u.removeClients name v.exportID v.accessZone [n.ip, n.name, n.fqdn]) := by
    rw [IsiService.removeExportClientByIDWithZone, hn]
    exact hremove _ _ shown
  unfold removeNode revokedClients
  by_cases haz' : azNetwork = []
  · simp only [haz', ne_eq, not_true_eq_false, if_false, if_neg hne]
    cases huses : usesAllowedNetworks svc with
    | false => simpa using hid _
    | true =>
      obtain ⟨hnone, hsel⟩ := run_getIps (j := j) (u := u) request.nodeID
        (fun labels => allowedNetworkIPs labels svc.allowedNetworks) rfl
        (sprintf ["no IPs in node labels match allowedNetworks ", fmtList svc.allowedNetworks])
      simp only [if_true, true_and, run_bind, run_attempt, getIpsFromAllowedNetworks]
      by_cases hips : allowedNetworkIPs (u.kube.labelsOf request.nodeID) svc.allowedNetworks = []
      · obtain ⟨err, herr⟩ := hnone hips
        rw [herr, if_neg (not_not.2 hips)]
        exact hid _
      · rw [hsel hips, if_pos hips]
        exact hremove _ _ _
  · rw [if_pos haz', if_pos haz']
    obtain ⟨-, hsel⟩ := run_getIps (j := j) (u := u) request.nodeID
      (fun labels => azNetworkIPs labels azNetwork) rfl
      (sprintf ["failed to match AZNetwork to get IPs for export ", azNetwork])
    simp only [run_bind, run_attempt, getIpsFromAZNetworkLabel, hsel (haz haz')]
    exact hremove _ _ _

theorem autoProbe_yields (cfg : ClusterConfig) :
    yields (fun _ => cfg.isiSvc = true ∨ svc.autoProbeEnabled = true) (svc.autoProbe cfg) := by
  unfold Service.autoProbe Service.autoProbeWith
  split
  · next h => exact .inl h
  · split
    · trivial
    · next h => exact yields_of_forall fun _ => .inr (by simpa using h)

theorem checkRequest_reaches (hv : parseNormalizedVolumeID req.volumeID = .ok v)
    (hcfg : svc.getIsilonConfig v.clusterName = .ok (name, cfg)) :
    yields (fun _ => cfg.isiSvc = true ∨ svc.autoProbeEnabled = true) (checkRequest svc req ips) := by
  unfold checkRequest
  split
  · trivial
  rw [hv]
  dsimp only
  rw [hcfg, ofExcept_ok, ret_bind]
  refine yields_bind (onCluster_yields (autoProbe_yields cfg)) fun _ h => ?_
  exact yields_of_forall fun _ => h

theorem Publication.mem_authorized {p : Publication} (hc : c ∈ p.clientNames svc d p.nodeID) :
    ∃ f, c ∈ (p.authorized svc d e).clientList f := by
  unfold authorized
  split
  · exact ⟨_, Export.mem_addTo.2 (.inr ⟨rfl, hc⟩)⟩
  · exact ⟨_, mem_written.2 (.inr (.inr (.inl ⟨rfl, hc⟩)))⟩

theorem run_controllerPublishVolume (hpub : run (driver i) (controllerPublishVolume svc req) d = (.ok (), t))
    (hv : parseNormalizedVolumeID req.volumeID = .ok v)
    (hcfg : svc.getIsilonConfig v.clusterName = .ok (name, cfg))
    (hmode : publishAccessMode svc req = .ok mode) (hn : parseNodeID req.nodeID = .ok n)
    (hdir : NodeService.isDirectoryBackedContext req.volumeID req.volumeContext = false) :
    (cfg.isiSvc = true ∨ svc.autoProbeEnabled = true) ∧
    run (driver i) (resolveExportIPs svc req) d = (.ok (exportIPs svc d.kube req), d) ∧
    t.kube = d.kube ∧ ∃ e, t.findExport name v.exportID v.accessZone =
      some ((publicationFor svc d.kube req v name cfg mode).authorized svc d e) := by
  obtain ⟨p, x, hcheck, hpub⟩ := run_bind_ok.1 hpub
  obtain ⟨ips, y, hips, hrequest⟩ := run_bind_ok.1 hcheck
  obtain ⟨rfl, hresolve⟩ := wp_run (rwp_alone.1 ((Reading.still d).resolveExportIPs (F := .none) rfl)) hips
  obtain rfl := hresolve ips rfl
  obtain ⟨rfl, hp⟩ := wp_run (rwp_alone.1 ((Reading.still _).checkPublish (F := .none) rfl)) hcheck
  obtain ⟨hfor, hpips⟩ := hp p rfl
  obtain rfl := hfor.eq hv hcfg hmode hpips
  have hreaches := run_yields
    (P := fun _ => cfg.isiSvc = true ∨ svc.autoProbeEnabled = true) (checkRequest_reaches hv hcfg)
    hrequest
  refine ⟨hreaches, hips, ?_⟩
  obtain ⟨honly, hend⟩ := publish_leaves (F := .none) (fun _ _ _ _ _ h => h) (.of_run hpub)
  have hslow {b : Prop} :
      ¬((publicationFor svc x.kube req v name cfg mode).directoryBacked = true ∧ b) := by
    rintro ⟨h, -⟩
    rw [publicationFor, hdir] at h
    cases h
  obtain ⟨hsup, hsome⟩ := hend.resolve_left hslow
  obtain ⟨e, he⟩ : ∃ e, x.findExport name v.exportID v.accessZone = some e := by
    have hbare := (honly.arrays name).exportById v.exportID v.accessZone
    have hiff := congrArg Option.isSome hbare
    rw [Option.isSome_map, Option.isSome_map] at hiff
    exact Option.isSome_iff_exists.1 (hiff ▸ hsome)
  obtain ⟨y, hy, hr, hs⟩ := (run_publish (i := i) svc _ x).2 hslow
  rw [hpub] at hr hs
  obtain ⟨hyes, hno⟩ := Publication.run_authorize (i := i) (n := n) svc
    (p := publicationFor svc x.kube req v name cfg mode) ((hy.findExport _ _ _).trans he) hn hsup
  refine ⟨honly.kube, e, ?_⟩
  by_cases href : (publicationFor svc x.kube req v name cfg mode).Refused y
  · obtain ⟨err, herr⟩ := hyes href
    rw [herr] at hr
    cases hr
  obtain ⟨z, hz, hadded⟩ := hno href
  rw [hz] at hs
  rw [hs.findExport, ← Publication.authorized_sameButLocks hy]
  exact hadded.found

theorem labelsOf_perm {k l : Kube} (h : k.SameLabels l) (nodeID : Str) :
    (k.labelsOf nodeID).Perm (l.labelsOf nodeID) := by
  unfold Kube.labelsOf
  cases parseNodeID nodeID with
  | error e => exact .refl _
  | ok n =>
    have hn := h n.name
    dsimp only
    cases hk : k.labels.lookup n.name with
    | none =>
      cases hl : l.labels.lookup n.name with
      | none => exact .refl _
      | some b =>
        rw [hk, hl] at hn
        cases hn
    | some a =>
      cases hl : l.labels.lookup n.name with
      | none =>
        rw [hk, hl] at hn
        cases hn
      | some b =>
        rw [hk, hl] at hn
        obtain ⟨hperm⟩ := hn
        exact hperm

theorem mem_revokedClients_same {k : Kube} (h : k.SameLabels l) (azNetwork : Str) :
    c ∈ revokedClients svc k nodeID n azNetwork ↔ c ∈ revokedClients svc l nodeID n azNetwork := by
  have haz := azNetworkIPs_perm (labelsOf_perm h nodeID) azNetwork
  have hall := allowedNetworkIPs_perm (labelsOf_perm h nodeID) svc.allowedNetworks
  have hnil : allowedNetworkIPs (k.labelsOf nodeID) svc.allowedNetworks = [] ↔
      allowedNetworkIPs (l.labelsOf nodeID) svc.allowedNetworks = [] := by
    constructor
    · intro hk
      rwa [hk, List.nil_perm] at hall
    · intro hl
      rwa [hl, List.perm_nil] at hall
  simp only [revokedClients, ne_eq, hnil]
  split
  · exact haz.mem_iff
  · split
    · exact hall.mem_iff
    · rfl

def readVolume (u : Driver) (name : Str) : Option Err → Except Err PersistentVolume
  | some e => .error e
  | none => (u.lookUp "persistentvolumes" name (u.volumeNamed name)).1

theorem exec_controllerUnpublishVolume {request : ControllerUnpublishVolumeRequest}
    (hne : request.volumeID ≠ []) (hv : parseNormalizedVolumeID request.volumeID = .ok v)
    (f : Option Err) : exec (driver j) (controllerUnpublishVolume svc request) [f] u =
      run (driver j) (unpublish svc request v (readVolume u v.volName f)) u := by
  rw [controllerUnpublishVolume, if_neg hne, hv]
  cases f with
  | some e => exact exec_nil _ _
  | none =>
    have hstate : ((driver j).act (.getPersistentVolume v.volName) u).2 = u := u.lookUp_state _ _ _
    change exec _ (unpublish svc request v ((driver j).act (.getPersistentVolume v.volName) u).1) []
      ((driver j).act (.getPersistentVolume v.volName) u).2 = _
    rw [hstate]
    exact exec_nil _ _

/-- The removal takes all that stands for the node: the labels decide when `AzNetwork` is set, which
only the persistent volume tells; otherwise the node map must not have an address from the labels.
-/
def RevokesAll (svc : Service) (cfg : ClusterConfig) (d : Driver) (name : Str)
    (req : ControllerPublishVolumeRequest) (n : NodeID) (granted : List Str) (pvRead : Bool) : Prop :=
  if req.volumeContext.get "AzNetwork" ≠ [] then
    pvRead = true ∨ ∀ c ∈ granted, c ∈ revokedClients svc d.kube req.nodeID n []
  else usesAllowedNetworks svc = true ∨ cfg.ignoreUnresolvableHosts = true ∨
    ∀ c, d.clients name req.nodeID = some c → c ∈ [n.ip, n.name, n.fqdn]

theorem exportIPs_ne_nil (hrun : run (driver i) (resolveExportIPs svc req) d = (.ok ips, d))
    (h : req.volumeContext.get "AzNetwork" ≠ [] ∨ usesAllowedNetworks svc = true) :
    exportIPs svc d.kube req ≠ [] := by
  intro hnil
  unfold resolveExportIPs at hrun
  unfold exportIPs at hnil
  dsimp only at hrun hnil
  split at hnil
  · next haz =>
    obtain ⟨e, he⟩ := (run_getIps (j := i) (u := d) req.nodeID
      (fun labels => azNetworkIPs labels (req.volumeContext.get "AzNetwork")) rfl
      (sprintf ["failed to match AZNetwork to get IPs for export ",
        req.volumeContext.get "AzNetwork"])).1 hnil
    rw [if_pos haz, run_bind, run_attempt, getIpsFromAZNetworkLabel, he] at hrun
    cases hrun
  · next haz =>
    have huses := h.resolve_left haz
    rw [if_pos huses] at hnil
    obtain ⟨e, he⟩ := (run_getIps (j := i) (u := d) req.nodeID
      (fun labels => allowedNetworkIPs labels svc.allowedNetworks) rfl
      (sprintf ["no IPs in node labels match allowedNetworks ", fmtList svc.allowedNetworks])).1 hnil
    rw [if_neg haz, if_pos huses, run_bind, run_attempt, getIpsFromAllowedNetworks, he] at hrun
    cases hrun

theorem usesAllowedNetworks_multi (h : usesAllowedNetworks svc = true) :
    svc.allowedNetworksMode = .multi := by
  simp only [usesAllowedNetworks, Bool.and_eq_true, decide_eq_true_eq] at h
  exact h.1

theorem clientNames_eq (hn : parseNodeID req.nodeID = .ok n) :
    (publicationFor svc d.kube req v name cfg mode).clientNames svc d req.nodeID =
      if exportIPs svc d.kube req ≠ [] then
        (match svc.allowedNetworksMode with
          | .multi => exportIPs svc d.kube req
          | .single => (exportIPs svc d.kube req).take 1)
      else if cfg.ignoreUnresolvableHosts then [n.ip]
      else [(d.clients name req.nodeID).getD n.fqdn] := by
  simp only [Publication.clientNames, publicationFor, hn]
  rfl

/-- The clients of the node are those that are removed exactly when `RevokesAll` says so. -/
theorem granted_subset_iff (hn : parseNodeID req.nodeID = .ok n)
    (hrun : run (driver i) (resolveExportIPs svc req) d = (.ok ips, d)) :
    let granted := (publicationFor svc d.kube req v name cfg mode).clientNames svc d req.nodeID
    (∀ c ∈ granted, c ∈ revokedClients svc d.kube req.nodeID n
      (if pvRead then req.volumeContext.get "AzNetwork" else [])) ↔
    RevokesAll svc cfg d name req n granted pvRead := by
  intro granted
  have hgranted : granted = _ := clientNames_eq hn
  unfold RevokesAll
  by_cases haz : req.volumeContext.get "AzNetwork" = []
  · rw [if_neg (not_not.2 haz), haz, ite_self]
    cases huses : usesAllowedNetworks svc with
    | true =>
      have hne := exportIPs_ne_nil hrun (.inr huses)
      have hips : exportIPs svc d.kube req =
          allowedNetworkIPs (d.kube.labelsOf req.nodeID) svc.allowedNetworks := by
        simp [exportIPs, haz, huses]
      refine iff_of_true (fun c hc => ?_) (.inl rfl)
      rw [hgranted, if_pos hne, usesAllowedNetworks_multi huses] at hc
      rw [hips] at hne hc
      rw [revokedClients, if_neg (not_not.2 rfl), if_pos ⟨huses, hne⟩]
      exact hc
    | false =>
      have hnil : exportIPs svc d.kube req = [] := by simp [exportIPs, haz, huses]
      have hrevoked : revokedClients svc d.kube req.nodeID n [] = [n.ip, n.name, n.fqdn] := by
        simp [revokedClients, huses]
      rw [hgranted, hrevoked, if_neg (not_not.2 hnil)]
      cases cfg.ignoreUnresolvableHosts with
      | true => simp
      | false => cases d.clients name req.nodeID <;> simp
  · rw [if_pos haz]
    cases pvRead with
    | false => simp
    | true =>
      refine iff_of_true (fun c hc => ?_) (.inl rfl)
      have hips : exportIPs svc d.kube req =
          azNetworkIPs (d.kube.labelsOf req.nodeID) (req.volumeContext.get "AzNetwork") := by
        simp [exportIPs, haz]
      rw [if_pos rfl, revokedClients, if_pos haz, ← hips]
      rw [hgranted, if_pos (exportIPs_ne_nil hrun (.inl haz))] at hc
      cases hmode : svc.allowedNetworksMode with
      | multi => simpa [hmode] using hc
      | single =>
        rw [hmode] at hc
        exact List.mem_of_mem_take hc

/-- After a publication and its revocation, whose read of the persistent volume may fail with `f`,
the revocation has succeeded, and no client that stands for the node is left exactly when
`RevokesAll` holds. -/
theorem controllerUnpublishVolume_revokes_iff
    (hpub : run (driver i) (controllerPublishVolume svc req) d = (.ok (), t))
    (harrays : u.arrays = t.arrays) (hlabels : u.kube.SameLabels t.kube)
    (hpv : ∀ pv, u.volumeNamed v.volName = some pv →
      ∃ csi, pv.csi = some csi ∧ csi.volumeAttributes = req.volumeContext)
    (hv : parseNormalizedVolumeID req.volumeID = .ok v)
    (hcfg : svc.getIsilonConfig v.clusterName = .ok (name, cfg))
    (hmode : publishAccessMode svc req = .ok mode) (hn : parseNodeID req.nodeID = .ok n)
    (hid : NodeService.isDirectoryBackedContext req.volumeID req.volumeContext = false)
    (hctx : req.volumeContext.get "ProvisioningMode" ≠ ("directory" : Str)) (f : Option Err) :
    let granted := (publicationFor svc d.kube req v name cfg mode).clientNames svc d req.nodeID
    let revoked := exec (driver j) (controllerUnpublishVolume svc ⟨req.volumeID, req.nodeID⟩) [f] u
    revoked.1 = .ok () ∧
    ((∀ c ∈ granted, ∀ field, ¬revoked.2.Lists name v.exportID v.accessZone field c) ↔
      RevokesAll svc cfg d name req n granted (f = none ∧ (u.volumeNamed v.volName).isSome)) := by
  obtain ⟨hreaches, hresolve, hkube, e, he⟩ := run_controllerPublishVolume hpub hv hcfg hmode hn hid
  have hsame : u.kube.SameLabels d.kube := hkube ▸ hlabels
  have hfound : u.findExport name v.exportID v.accessZone =
      some ((publicationFor svc d.kube req v name cfg mode).authorized svc d e) := by
    rw [Driver.findExport, harrays]
    exact he
  have hne : req.volumeID ≠ [] := by
    intro h
    rw [h] at hv
    cases hv
  have hnode : req.nodeID ≠ [] := by
    intro h
    rw [publishAccessMode, if_pos h] at hmode
    cases hmode
  intro granted revoked
  have hrun : revoked = (.ok (), u.removeClients name v.exportID v.accessZone
      (revokedClients svc u.kube req.nodeID n (if decide (f = none ∧
        (u.volumeNamed v.volName).isSome) then req.volumeContext.get "AzNetwork" else []))) := by
    have hazIPs (azNetwork : Str) (h : azNetwork = req.volumeContext.get "AzNetwork" ∨ azNetwork = [])
        (haz : azNetwork ≠ []) : azNetworkIPs (u.kube.labelsOf req.nodeID) azNetwork ≠ [] := by
      have hips := exportIPs_ne_nil hresolve (.inl (h.resolve_right haz ▸ haz))
      rw [exportIPs] at hips
      obtain rfl := h.resolve_right haz
      rw [if_pos haz] at hips
      intro hnil
      have hperm := azNetworkIPs_perm (labelsOf_perm hsame req.nodeID)
        (req.volumeContext.get "AzNetwork")
      rw [hnil, List.nil_perm] at hperm
      exact hips hperm
    have hremove {azNetwork : Str}
        (h : azNetwork = req.volumeContext.get "AzNetwork" ∨ azNetwork = []) :
        run (driver j) (removeNode svc ⟨req.volumeID, req.nodeID⟩ v name cfg azNetwork) u =
          (.ok (), u.removeClients name v.exportID v.accessZone
            (revokedClients svc u.kube req.nodeID n azNetwork)) :=
      run_removeNode hfound hn hnode (hazIPs azNetwork h)
    rw [show revoked = _ from exec_controllerUnpublishVolume hne hv f, unpublish, hcfg, ofExcept_ok,
      ret_bind]
    simp only [run_bind, run_attempt, run_onCluster, Service.run_autoProbe hreaches, Driver.setArray_self]
    cases f with
    | some err => simpa [readVolume] using hremove (.inr rfl)
    | none =>
      cases hname : u.volumeNamed v.volName with
      | none => simpa [readVolume, hname, Driver.lookUp] using hremove (.inr rfl)
      | some pv =>
        obtain ⟨csi, hcsi, hattr⟩ := hpv pv hname
        simpa [readVolume, hname, Driver.lookUp, hcsi, hattr, hctx] using hremove (.inl rfl)
  rw [hrun]
  refine ⟨rfl, ?_⟩
  refine Iff.trans (forall₂_congr fun c hc => ?_) (granted_subset_iff hn hresolve)
  obtain ⟨field, hfield⟩ := Publication.mem_authorized (e := e) hc
  have hafter := Driver.findExport_removeClients (d := u) name v.exportID v.accessZone
    (revokedClients svc u.kube req.nodeID n (if decide (f = none ∧
      (u.volumeNamed v.volName).isSome) then req.volumeContext.get "AzNetwork" else []))
  rw [hfound, Option.map_some] at hafter
  simp only [Driver.lists_of_found hafter, Export.mem_without, not_and, not_not,
    mem_revokedClients_same hsame]
  exact ⟨fun h => h field hfield, fun h _ _ => h⟩

def twoVolumes : Driver :=
  let volume (name handle : Str) (ctx : Params) : PersistentVolume :=
    ⟨name, some ⟨pluginName, handle, ctx⟩, true⟩
  { started with
    arrays := fun _ => (run array (do
      let _ ← createVolume oneCluster (newVolume "vol1")
      createVolume oneCluster (newVolume "vol2")) .fresh).2
    kube := { started.kube with
      persistentVolumes := [ volume "vol1" "vol1=_=_=1=_=_=System=_=_=c1"
          [("Path", "/ifs/data/vol1"), ("AzNetwork", "10.1.0.0/16")],
        volume "vol2" "vol2=_=_=2=_=_=System=_=_=c1" [("Path", "/ifs/data/vol2")]] } }

def publishFirst : ControllerPublishVolumeRequest where
  volumeID := "vol1=_=_=1=_=_=System=_=_=c1"
  nodeID := "n1=#=#=n1.lab=#=#=10.0.0.5"
  volumeCapability := some ⟨some .mount, some .multiNodeMultiWriter⟩
  volumeContext := [("Path", "/ifs/data/vol1"), ("AzNetwork", "10.1.0.0/16")]

def publishSecond : ControllerPublishVolumeRequest where
  volumeID := "vol2=_=_=2=_=_=System=_=_=c1"
  nodeID := "n1=#=#=n1.lab=#=#=10.0.0.5"
  volumeCapability := some ⟨some .mount, some .multiNodeMultiWriter⟩
  volumeContext := [("Path", "/ifs/data/vol2")]

theorem controllerUnpublishVolume_revokes_first :
    let t := (run (driver 0) (controllerPublishVolume oneCluster publishFirst) twoVolumes).2
    (t.findExport "c1" 1 "System").map Export.clients = some [("localhost" : Str), ("10.1.2.3" : Str)] ∧
    ∀ field, ¬(exec (driver 0) (controllerUnpublishVolume oneCluster
      ⟨publishFirst.volumeID, publishFirst.nodeID⟩) [none] t).2.Lists "c1" 1 "System" field "10.1.2.3" := by
  intro t
  have hok : run (driver 0) (controllerPublishVolume oneCluster publishFirst) twoVolumes = (.ok (), t) :=
    Prod.ext (by decide) rfl
  refine ⟨by decide, ?_⟩
  refine (controllerUnpublishVolume_revokes_iff (u := t) (j := 0) (v := ⟨"vol1", 1, "System", "c1"⟩)
    (n := ⟨"n1", "n1.lab", "10.0.0.5"⟩) hok rfl (fun name => ?_) (fun pv hpv => ?_) (by decide) rfl rfl
    (by decide) (by decide) (by decide) none).2.2 ?_ "10.1.2.3" (by decide)
  · cases t.kube.labels.lookup name with
    | none => exact .none
    | some l => exact .some (.refl l)
  · have hname : t.volumeNamed "vol1" = twoVolumes.volumeNamed "vol1" := by decide
    rw [hname] at hpv
    cases hpv
    exact ⟨_, rfl, rfl⟩
  · exact .inl (by decide)

/-- The node map has an address from the labels since the first publication. It is added for the
second volume, but not removed. -/
theorem controllerUnpublishVolume_revokes_nothing :
    let d := (run (driver 0) (controllerPublishVolume oneCluster publishFirst) twoVolumes).2
    let published := run (driver 0) (controllerPublishVolume oneCluster publishSecond) d
    let unpublished := run (driver 0) (controllerUnpublishVolume oneCluster
      ⟨publishSecond.volumeID, publishSecond.nodeID⟩) published.2
    let clients (t : Driver) := (t.findExport "c1" 2 "System").map Export.clients
    clients d = some [("localhost" : Str)] ∧ published.1 = .ok () ∧ unpublished.1 = .ok () ∧
    clients unpublished.2 = some [("localhost" : Str), ("10.1.2.3" : Str)] := by
  decide

end Controller

end CsiPowerscale
