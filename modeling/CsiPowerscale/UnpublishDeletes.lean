import CsiPowerscale.DeleteVolumeRetries
import CsiPowerscale.PathContainment
import CsiPowerscale.SharedExports

namespace CsiPowerscale
open GoLib Stores Effects Effects.Prog IsiService Driver

def Call.IsRemoval : Call → Prop
  | removeExportClients .. => True
  | _ => False

def DriverCall.IsRemoval : DriverCall → Prop
  | array _ c => c.IsRemoval
  | _ => False

def removalFails (err : Err) : Faults DriverCall Err Driver := fun _ c e => c.IsRemoval ∧ e = err

theorem Call.IsRead.not_removal {c : Call} (h : c.IsRead) : ¬c.IsRemoval := by
  cases c <;> first | exact id | exact h.elim

theorem DriverCall.IsRead.not_removal {c : DriverCall} (h : c.IsRead) : ¬c.IsRemoval := by
  cases c with
  | array _ c => exact Call.IsRead.not_removal h
  | _ => exact id

theorem Call.IsDeletion.not_removal {c : Call} (h : c.IsDeletion) : ¬c.IsRemoval := by
  cases c <;> first | exact id | exact h.elim

namespace Controller

def removalError (v : VolumeID) (err : Err) : Option Err :=
  if err.jsonStatus = some 404 then none
  else some (.plain (sprintf ["failed to remove clients from export '", itoa v.exportID,
    "' with access zone '", v.accessZone, "' : '", err.text, "'"]))

/-- What is removed for a node: names of clients, or nothing but the error of a node ID that cannot
be read; nothing without an address in `azNetwork` or without a node ID. -/
def removalFor (svc : Service) (k : Kube) (nodeID azNetwork : Str) : Option (Except Err (List Str)) :=
  if azNetwork ≠ [] then
    if azNetworkIPs (k.labelsOf nodeID) azNetwork = [] then none
    else some (.ok (azNetworkIPs (k.labelsOf nodeID) azNetwork))
  else if nodeID = [] then none
  else if usesAllowedNetworks svc = true ∧
      allowedNetworkIPs (k.labelsOf nodeID) svc.allowedNetworks ≠ [] then
    some (.ok (allowedNetworkIPs (k.labelsOf nodeID) svc.allowedNetworks))
  else some ((parseNodeID nodeID).map fun n => [n.ip, n.name, n.fqdn])

def staysOnExport (d : Driver) (nodeID : Str) (v : VolumeID) : Bool :=
  match parseNodeID nodeID with
  | .error _ => true
  | .ok n => (attachedPVs d.kube.volumeAttachments n.name v.volName).any fun x =>
      (d.volumeNamed x).any fun pv => pv.onExport v.exportID v.accessZone

def removalOf (svc : Service) (d : Driver) (nodeID : Str) (v : VolumeID) :
    Option (Except Err (List Str)) :=
  match d.volumeNamed v.volName with
  | none => removalFor svc d.kube nodeID []
  | some pv =>
    match pv.csi with
    | none => none
    | some csi =>
      if csi.volumeAttributes.get "ProvisioningMode" = ("directory" : Str) ∧
          staysOnExport d nodeID v = true then none
      else removalFor svc d.kube nodeID (csi.volumeAttributes.get "AzNetwork")

def removalFailure (v : VolumeID) (err : Err) : Except Err (List Str) → Option Err
  | .error e => some e
  | .ok _ => removalError v err

def saysGone (e : Err) : Bool := contains e.text "No such file or directory"

def takenForGone (svc : Service) (d : Driver) (nodeID : Str) (v : VolumeID) (err : Err) : Bool :=
  ((removalOf svc d nodeID v).bind (removalFailure v err)).any saysGone

section Unpublish

variable {svc : Service} {d u : Driver} {req : ControllerUnpublishVolumeRequest} {v : VolumeID}
  {name azNetwork shown : Str} {cfg : ClusterConfig} {err : Err} {i : Nat} {K : (Str → OneFS) → Prop}

def deleted (svc : Service) (d : Driver) (name volumeID : Str) : Driver :=
  d.setArray name (run array (deleteVolume svc volumeID) (d.arrays name)).2

abbrev Leaves (i : Nat) (err : Err) (p : DriverM Unit) (K : (Str → OneFS) → Prop) (d : Driver) : Prop :=
  wp (driver i) (removalFails err) p (fun _ t => K t.arrays) d

theorem leaves_handled (hK : K u.arrays) (e : Err) :
    Leaves i err (if contains e.text "No such file or directory" then
        onCluster name (deleteVolume svc req.volumeID)
      else fail (NodeService.reqError svc .internal ["error encountered when trying to remove ", shown,
        " from export ", itoa v.exportID, " with access zone ", v.accessZone, " on cluster ", name,
        ", error ", e.text])) K u ↔
      (saysGone e = true → K (deleted svc u name req.volumeID).arrays) := by
  unfold saysGone
  split
  · next h =>
    have huses : uses (fun c : Call => ∀ (t : OneFS) e',
        ¬removalFails err (u.setArray name t) (.array name c) e') (deleteVolume svc req.volumeID) :=
      deleteVolume_uses (fun c hc t e' hf => hc.not_removal hf.1)
        (fun c hc t e' hf => hc.not_removal hf.1) svc req.volumeID
    rw [Leaves, wp_onCluster, wp_iff_run huses, imp_iff_right h]
    rfl
  · next h => exact iff_of_true hK fun hgone => absurd hgone h

theorem leaves_removeOrDelete (hK : K u.arrays)
    (hremove : ∀ names, K (u.removeClients name v.exportID v.accessZone names).arrays) :
    Leaves i err (removeOrDelete svc name v req.volumeID shown
      (IsiService.removeExportClients v.exportID v.accessZone names b)) K u ↔
      ((removalError v err).any saysGone = true → K (deleted svc u name req.volumeID).arrays) := by
  unfold removeOrDelete IsiService.removeExportClients
  rw [Leaves, wp_bind, wp_attempt, wp_onCluster, wp_bind, wp_ask]
  have hserved : K (u.setArray name (array.act
      (.removeExportClients v.exportID v.accessZone names b) (u.arrays name)).2).arrays := by
    simp only [array_act, OneFS.serve, OneFS.change]
    split
    · exact hremove names
    · rw [setArray_self]
      exact hK
  have hanswer : ∃ r, (array.act (.removeExportClients v.exportID v.accessZone names b)
      (u.arrays name)).1 = r ∧ (r = .ok () ∨ r = .error OneFS.notFound) := by
    refine ⟨_, rfl, ?_⟩
    simp only [array_act, OneFS.serve, OneFS.change]
    split
    · exact .inl rfl
    · exact .inr rfl
  rw [and_iff_right]
  · constructor
    · intro h hgone
      have herr := h err ⟨trivial, rfl⟩
      rw [andThen_ok] at herr
      dsimp only at herr
      unfold removalError at hgone
      split at herr
      · next h404 =>
        rw [if_pos h404] at hgone
        cases hgone
      next h404 =>
      rw [if_neg h404, Option.any_some] at hgone
      rw [wp_fail, andThen_ok, setArray_self] at herr
      exact (leaves_handled hK _).1 herr hgone
    · rintro h e ⟨-, rfl⟩
      rw [andThen_ok]
      dsimp only
      unfold removalError at h
      split
      · rw [wp_ret, andThen_ok, setArray_self]
        exact hK
      next h404 =>
      rw [if_neg h404, Option.any_some] at h
      rw [wp_fail, andThen_ok, setArray_self]
      exact (leaves_handled hK _).2 h
  · obtain ⟨r, hr, rfl | rfl⟩ := hanswer
    · rw [hr]
      exact hserved
    · rw [hr]
      exact hserved

theorem leaves_attempt (h : uses (fun c => ¬c.IsRemoval) p) (hrun : run (driver i) p u = (r, u)) :
    Leaves i err (attempt p >>= f) K u ↔ Leaves i err (f r) K u := by
  rw [Leaves, wp_bind, wp_attempt,
    wp_iff_run (uses_mono h fun c hc t e hf => hc hf.1), hrun, andThen_ok]

theorem getIpsFromLabels_uses :
    uses (fun c => ¬c.IsRemoval) (getIpsFromLabels nodeID select noMatch) := by
  refine uses_bind (uses_ofExcept _) fun n => uses_bind ((uses_op _).2 id) fun labels => ?_
  split <;> trivial

theorem leaves_removeNode (hK : K u.arrays)
    (hremove : ∀ names, K (u.removeClients name v.exportID v.accessZone names).arrays) :
    Leaves i err (removeNode svc req v name cfg azNetwork) K u ↔
      (((removalFor svc u.kube req.nodeID azNetwork).bind (removalFailure v err)).any saysGone = true →
        K (deleted svc u name req.volumeID).arrays) := by
  have hid : Leaves i err (removeOrDelete svc name v req.volumeID (sprintf ["client ", req.nodeID])
      (removeExportClientByIDWithZone v.exportID v.accessZone req.nodeID
        cfg.ignoreUnresolvableHosts)) K u ↔
      ((removalFailure v err ((parseNodeID req.nodeID).map fun n => [n.ip, n.name, n.fqdn])).any
        saysGone = true → K (deleted svc u name req.volumeID).arrays) := by
    unfold removeExportClientByIDWithZone
    cases parseNodeID req.nodeID with
    | error e => exact leaves_handled hK e
    | ok n => exact leaves_removeOrDelete hK hremove
  unfold removeNode removalFor
  by_cases haz : azNetwork = []
  · simp only [haz, ne_eq, not_true_eq_false, if_false]
    by_cases hne : req.nodeID = []
    · rw [if_pos hne, if_pos hne]
      exact iff_of_true hK fun h => by cases h
    rw [if_neg hne, if_neg hne]
    cases huses : usesAllowedNetworks svc with
    | false => simpa using hid
    | true =>
      obtain ⟨hnone, hsome⟩ := run_getIps (j := i) (u := u) req.nodeID
        (fun labels => allowedNetworkIPs labels svc.allowedNetworks) rfl
        (sprintf ["no IPs in node labels match allowedNetworks ", fmtList svc.allowedNetworks])
      simp only [if_true, true_and, getIpsFromAllowedNetworks]
      by_cases hips : allowedNetworkIPs (u.kube.labelsOf req.nodeID) svc.allowedNetworks = []
      · obtain ⟨e, he⟩ := hnone hips
        rw [leaves_attempt getIpsFromLabels_uses he, if_neg (not_not.2 hips)]
        exact hid
      · rw [leaves_attempt getIpsFromLabels_uses (hsome hips), if_pos hips]
        exact leaves_removeOrDelete hK hremove
  · rw [if_pos haz, if_pos haz, getIpsFromAZNetworkLabel]
    obtain ⟨hnone, hsome⟩ := run_getIps (j := i) (u := u) req.nodeID
      (fun labels => azNetworkIPs labels azNetwork) rfl
      (sprintf ["failed to match AZNetwork to get IPs for export ", azNetwork])
    by_cases hips : azNetworkIPs (u.kube.labelsOf req.nodeID) azNetwork = []
    · obtain ⟨e, he⟩ := hnone hips
      rw [leaves_attempt getIpsFromLabels_uses he, if_pos hips]
      exact iff_of_true hK fun h => by cases h
    · rw [leaves_attempt getIpsFromLabels_uses (hsome hips), if_neg hips]
      exact leaves_removeOrDelete hK hremove

theorem leaves_removeUnlessShared (hK : K u.arrays) :
    Leaves i err (removeUnlessShared svc req v name cfg azNetwork) K u ↔
      (staysOnExport u req.nodeID v = false →
        Leaves i err (removeNode svc req v name cfg azNetwork) K u) := by
  have huses : uses (fun c => ¬c.IsRemoval) (hasOtherDirectoryBackedVolumesOnExport req.nodeID
      v.exportID v.accessZone v.volName) :=
    uses_mono hasOther_uses fun _ hc => hc.not_removal
  unfold removeUnlessShared staysOnExport
  cases hn : parseNodeID req.nodeID with
  | error e =>
    have hrun : ∃ e', run (driver i) (hasOtherDirectoryBackedVolumesOnExport req.nodeID v.exportID
        v.accessZone v.volName) u = (.error e', u) := by
      rw [hasOtherDirectoryBackedVolumesOnExport, hn]
      exact ⟨_, rfl⟩
    obtain ⟨e', hrun⟩ := hrun
    rw [leaves_attempt huses hrun]
    exact iff_of_true hK fun h => by cases h
  | ok n =>
    have hrun : run (driver i) (hasOtherDirectoryBackedVolumesOnExport req.nodeID v.exportID
        v.accessZone v.volName) u = (.ok ((attachedPVs u.kube.volumeAttachments n.name v.volName).any
          fun x => (u.volumeNamed x).any fun pv => pv.onExport v.exportID v.accessZone), u) := by
      simp only [hasOtherDirectoryBackedVolumesOnExport, hn, run_bind, run_ask, driver_act,
        Driver.serve]
      exact run_anyOnExport
    rw [leaves_attempt huses hrun]
    dsimp only
    cases (attachedPVs u.kube.volumeAttachments n.name v.volName).any
      fun x => (u.volumeNamed x).any fun pv => pv.onExport v.exportID v.accessZone with
    | false => simp
    | true => exact iff_of_true hK fun h => by cases h

theorem leaves_withLock : Leaves i err (withLock key body) K u ↔
    Leaves i err body K (u.setLock key { u.locks key with writer := some i }) := by
  have hunlock (r : Except Err Unit) (t : Driver) :
      Leaves i err (step (.unlock key) >>= fun _ => ofExcept r) K t ↔ K t.arrays := by
    rw [Leaves, wp_bind, step, wp_op, and_iff_left fun e hf => hf.1.elim]
    cases r <;> rfl
  unfold withLock
  rw [Leaves, wp_bind, step, wp_op, and_iff_left fun e hf => hf.1.elim]
  simp only [driver_act, Driver.serve, andThen_ok]
  rw [wp_bind, wp_attempt]
  constructor
  · intro h
    exact wp_mono h fun r t ht => (hunlock r t).1 ht
  · intro h
    exact wp_mono h fun r t ht => (hunlock r t).2 ht

/-- On a cluster that the driver reaches, a call changes the lists of clients, and deletes the
volume exactly when the removal fails with a text taken for a missing directory. -/
theorem leaves_iff (hne : req.volumeID ≠ []) (hv : parseNormalizedVolumeID req.volumeID = .ok v)
    (hcfg : svc.getIsilonConfig v.clusterName = .ok (name, cfg))
    (hready : cfg.isiSvc = true ∨ svc.autoProbeEnabled = true) (hK : K d.arrays)
    (hremove : ∀ names, K (d.removeClients name v.exportID v.accessZone names).arrays) :
    Leaves i err (controllerUnpublishVolume svc req) K d ↔
      (takenForGone svc d req.nodeID v err = true → K (deleted svc d name req.volumeID).arrays) := by
  have hprobe : uses (fun c => ¬c.IsRemoval) (onCluster name (svc.autoProbe cfg)) :=
    onCluster_uses (autoProbe_uses id cfg)
  have hrun : run (driver i) (onCluster name (svc.autoProbe cfg)) d = (.ok (), d) := by
    rw [run_onCluster, Service.run_autoProbe hready, setArray_self]
  unfold controllerUnpublishVolume
  rw [if_neg hne, hv]
  dsimp only
  rw [Leaves, wp_bind, tryStep, wp_ask, and_iff_left fun e hf => hf.1.elim, andThen_ok]
  unfold unpublish takenForGone removalOf
  rw [hcfg, ofExcept_ok, ret_bind]
  simp only [driver_act, Driver.serve, lookUp_state]
  refine (leaves_attempt hprobe hrun).trans ?_
  cases hname : d.volumeNamed v.volName with
  | none => exact leaves_removeNode hK hremove
  | some pv =>
    dsimp only [lookUp]
    cases pv.csi with
    | none => exact iff_of_true hK fun h => by cases h
    | some csi =>
      dsimp only
      by_cases hmode : csi.volumeAttributes.get "ProvisioningMode" = ("directory" : Str)
      · have hnode : Leaves i err (removeNode svc req v name cfg (csi.volumeAttributes.get "AzNetwork")) K
            (d.setLock v.muKey { d.locks v.muKey with writer := some i }) ↔ _ :=
          leaves_removeNode hK hremove
        rw [if_pos hmode, leaves_withLock, leaves_removeUnlessShared (by exact hK), hnode]
        cases hstays : staysOnExport d req.nodeID v with
        | true => exact iff_of_true (fun h => by cases hstays.symm.trans h) (by simp [hmode])
        | false =>
          rw [if_neg fun h => Bool.false_ne_true h.2]
          exact imp_iff_right hstays
      · rw [if_neg hmode, if_neg fun h => hmode h.1]
        exact leaves_removeNode hK hremove

theorem leaves_unreached (h : ∀ v, parseNormalizedVolumeID req.volumeID = .ok v →
    ¬svc.Reaches v.clusterName) (hK : K d.arrays) :
    Leaves i err (controllerUnpublishVolume svc req) K d := by
  unfold controllerUnpublishVolume
  split
  · exact hK
  cases hv : parseNormalizedVolumeID req.volumeID with
  | error e => exact hK
  | ok v =>
    dsimp only
    rw [Leaves, wp_bind, tryStep, wp_ask, and_iff_left fun e hf => hf.1.elim, andThen_ok]
    unfold unpublish
    simp only [driver_act, Driver.serve, lookUp_state]
    cases hcfg : svc.getIsilonConfig v.clusterName with
    | error e => exact hK
    | ok x =>
      obtain ⟨e, he⟩ := Service.autoProbe_unready fun hready => h v hv ⟨x.1, x.2, hcfg, hready⟩
      rw [ofExcept_ok, ret_bind, he]
      exact hK

end Unpublish

/-- Only clients of exports are lost. -/
structure Unharmed (s t : OneFS) : Prop extends t.SameButClients s where
  quotas : t.quotas = s.quotas
  writables : t.writables = s.writables
  snapshots : t.snapshots = s.snapshots

theorem Unharmed.refl (s : OneFS) : Unharmed s s := ⟨.refl s, rfl, rfl, rfl⟩

theorem Unharmed.removeClients (s : OneFS) (k : Int) (z : Str) (names : List Str) :
    Unharmed s (s.removeClients k z names) := by
  refine ⟨⟨rfl, ?_⟩, rfl, rfl, rfl⟩
  simp only [OneFS.removeClients, Registry.update, Table.update, List.map_map]
  refine List.map_congr_left fun e _ => ?_
  dsimp only [Function.comp]
  split
  · exact e.bare_without names
  · rfl

theorem Unharmed.update {d : Driver} (name : Str) (h : Unharmed (d.arrays name) t) (c : Str) :
    Unharmed (d.arrays c) ((d.setArray name t).arrays c) := by
  by_cases hc : c = name
  · subst hc
    rw [setArray_arrays_self]
    exact h
  · have hsame : (d.setArray name t).arrays c = d.arrays c := Function.update_of_ne hc _ _
    rw [hsame]
    exact .refl _

section Volume

variable {svc : Service} {s t : OneFS} {volumeID path isiPath : Str} {v : VolumeID} {e : Export}

/-- What there was of a volume is still there. A volume that shows a snapshot has no directory and
no quota of its own. -/
structure Kept (volumeID : Str) (v : VolumeID) (path isiPath : Str) (s t : OneFS) : Prop where
  exported : (s.exportById v.exportID v.accessZone).isSome = true →
    (t.exportById v.exportID v.accessZone).isSome = true
  snapshots : isROVolumeFromSnapshot path v.accessZone = true → t.snapshots = s.snapshots
  directory : isROVolumeFromSnapshot path v.accessZone = false →
    s.hasDir (namespacePath (removalBase volumeID path isiPath v.volName) v.volName) = true →
      t.hasDir (namespacePath (removalBase volumeID path isiPath v.volName) v.volName) = true
  quota : isROVolumeFromSnapshot path v.accessZone = false →
    (s.quotaAt (getPathForVolume (removalBase volumeID path isiPath v.volName) v.volName)).isSome = true →
      (t.quotaAt (getPathForVolume (removalBase volumeID path isiPath v.volName) v.volName)).isSome = true

theorem Unharmed.kept (h : Unharmed s t) : Kept volumeID v path isiPath s t where
  exported hs := by
    have hbare := congrArg Option.isSome (h.exportById v.exportID v.accessZone)
    rw [Option.isSome_map, Option.isSome_map] at hbare
    rwa [hbare]
  snapshots _ := h.snapshots
  directory _ hs := by
    rw [OneFS.hasDir, h.dirs]
    exact hs
  quota _ hs := by
    rw [OneFS.quotaAt, h.quotas]
    exact hs

/-- The volume shows a snapshot that is marked for deletion, and is the last one that shows it. -/
def lastOfMarked (s : OneFS) (v : VolumeID) (path : Str) : Bool :=
  match s.zone v.accessZone with
  | none => false
  | some zone =>
    match getSnapshotIsiPathComponents path zone.path with
    | none => false
    | some (isiPath, snapshotName) =>
      let trackingDir := getSnapshotTrackingDirName snapshotName
      let t := s.withoutDir (namespacePath isiPath (trackingEntry trackingDir v.volName))
      t.hasDir (namespacePath isiPath trackingDir) &&
        t.hasDir (namespacePath isiPath (trackingMarker trackingDir)) &&
        t.nlink (namespacePath isiPath trackingDir) = 3

/-- `DeleteVolume` leaves a volume whose directory exists: others show the same snapshot; or it is
refused because the volume has more exports of its own, and the export does not name the quota on
the directory, which is cleared before. -/
def Spared (s : OneFS) (volumeID : Str) (v : VolumeID) (e : Export) (path isiPath : Str) : Prop :=
  if isROVolumeFromSnapshot path v.accessZone then lastOfMarked s v path = false
  else isDirectoryBacked volumeID path isiPath v.volName = false ∧
    1 < (s.exportsAt (getPathForVolume isiPath v.volName) v.accessZone).length ∧
    ∀ q, s.quotaById (getQuotaIDFromDescription e) = some q →
      q.path ≠ getPathForVolume isiPath v.volName

theorem hasDir_run_deleteDirectory : (run array (do
      deleteWritableSnapshot p
      deleteDirectory base name) s).2.hasDir (namespacePath base name) = false := by
  rw [run_bind]
  cases hrun : run array (deleteWritableSnapshot p) s with
  | mk r t =>
    obtain ⟨rfl, -⟩ := wp_run deleteWritableSnapshot_removes hrun
    obtain ⟨-, -, hgone, hok⟩ := wp_none_iff_run.1
      (deleteDirectory_removes base name (s := t) fun _ _ h => h.elim)
    exact hgone (hok fun _ _ h => h.elim)

theorem run_unexport (h : (s.exportById k z).isSome = true) :
    run array (unexportByIDWithZone k z) s = (.ok (), s.dropExport k z) := by
  simp [unexportByIDWithZone, rename, run_bind, array_act, OneFS.serve,
    OneFS.change, h]

theorem run_deleteExport_ok (hfew : ¬1 < (s.exportsAt (getPathForVolume isiPath name) z).length) :
    ∃ t, run array (deleteExport isiPath name k z) s = (.ok (), t) := by
  simp only [deleteExport, run_bind, run_getExportsWithParams]
  rcases hx : s.exportsAt (getPathForVolume isiPath name) z with _ | ⟨x, _ | ⟨y, rest⟩⟩
  · exact ⟨s, rfl⟩
  · dsimp only
    split
    · next hid =>
      have hmem : x ∈ s.exportsAt (getPathForVolume isiPath name) z := by simp [hx]
      obtain ⟨hin, hat⟩ := List.mem_filter.1 hmem
      rw [decide_eq_true_eq] at hat
      have hfound : s.exportById k z = some x := hid ▸ hat.2 ▸ OneFS.exportById_of_mem hin
      exact ⟨s.dropExport k z, run_unexport (by rw [hfound]; rfl)⟩
    · exact ⟨s, rfl⟩
  · simp [hx] at hfew

theorem hasDir_deleted_directoryBacked (hl : Located s volumeID v e path isiPath)
    (hlive : isROVolumeFromSnapshot path v.accessZone = false)
    (hb : isDirectoryBacked volumeID path isiPath v.volName = true) :
    (run array (deleteExported volumeID v e) s).2.hasDir (namespacePath path v.volName) = false := by
  obtain ⟨rest, hpaths⟩ := hl.paths
  obtain ⟨t, ht, -⟩ := run_deleteDirectoryQuota s path v.volName
  simp only [deleteExported, hpaths, hl.isiPath, hlive, hb, Bool.false_eq_true, if_false, if_true]
  rw [run_bind, ht]
  exact hasDir_run_deleteDirectory

theorem quotaAt_dropQuota_iff :
    ((s.quotaAt p).isSome = true → ((if (s.quotaById tag).isSome then s.dropQuota tag else s).quotaAt
      p).isSome = true) ↔ ∀ q, s.quotaById tag = some q → q.path ≠ p := by
  constructor
  · intro h q hq hpath
    obtain ⟨hmem, hid⟩ := And.intro (Registry.find?_mem hq) (Registry.find?_sat hq)
    obtain rfl : q.id = tag := by simpa using hid
    have hat : s.quotaAt p = some q := Catalog.at?_eq_some.2 ⟨hmem, hpath⟩
    rw [hq, hat, Option.isSome_some, if_pos rfl, quotaAt_dropQuota hat] at h
    cases h rfl
  · intro h hsome
    split
    · next htag =>
      obtain ⟨q, hq⟩ := Option.isSome_iff_exists.1 hsome
      have hmem := Catalog.at?_mem hq
      have hne : q.id ≠ tag := fun hid =>
        h q (hid ▸ OneFS.quotaById_of_mem hmem) (Catalog.at?_key hq)
      rw [OneFS.quotaAt, Catalog.at?_eq_some.2 ⟨OneFS.mem_dropQuota.2 ⟨hmem, hne⟩,
        Catalog.at?_key hq⟩]
      rfl
    · exact hsome

theorem kept_exportBacked_iff (hl : Located s volumeID v e path isiPath)
    (hb : ExportBacked volumeID v path isiPath)
    (hdir : s.hasDir (namespacePath isiPath v.volName) = true) :
    Kept volumeID v path isiPath s (run array (deleteExported volumeID v e) s).2 ↔
      1 < (s.exportsAt (getPathForVolume isiPath v.volName) v.accessZone).length ∧
      ∀ q, s.quotaById (getQuotaIDFromDescription e) = some q →
        q.path ≠ getPathForVolume isiPath v.volName := by
  have hbase : removalBase volumeID path isiPath v.volName = isiPath := by simp [removalBase, hb.own]
  rw [deleteExported_exportBacked hl hb, run_bind, run_deleteExportQuota hl.found]
  dsimp only
  generalize hu : (if (s.quotaById (getQuotaIDFromDescription e)).isSome then
    s.dropQuota (getQuotaIDFromDescription e) else s) = u
  have hexports : u.exports = s.exports := by
    rw [← hu]
    split <;> rfl
  have hdirs : u.dirs = s.dirs := by
    rw [← hu]
    split <;> rfl
  have hat : u.exportsAt (getPathForVolume isiPath v.volName) v.accessZone =
      s.exportsAt (getPathForVolume isiPath v.volName) v.accessZone := by
    rw [OneFS.exportsAt, hexports]
    rfl
  by_cases hmany : 1 < (s.exportsAt (getPathForVolume isiPath v.volName) v.accessZone).length
  · obtain ⟨err, herr⟩ := run_deleteExport_refused (i := v.exportID) (hat ▸ hmany)
    rw [and_iff_right hmany, run_bind, herr]
    dsimp only
    rw [← quotaAt_dropQuota_iff, hu]
    constructor
    · intro h
      have hquota := h.quota hb.writable
      rwa [hbase] at hquota
    · intro h
      refine ⟨fun hs => ?_, fun hro => ?_, fun _ hs => ?_, fun _ => ?_⟩
      · rw [OneFS.exportById, hexports]
        exact hs
      · rw [hb.writable] at hro
        cases hro
      · rw [OneFS.hasDir, hdirs]
        exact hs
      · rw [hbase]
        exact h
  · refine iff_of_false (fun h => ?_) fun h => hmany h.1
    obtain ⟨t, ht⟩ := run_deleteExport_ok (k := v.exportID) (hat ▸ hmany)
    have hgone := h.directory hb.writable (hbase.symm ▸ hdir)
    rw [hbase, run_bind, ht] at hgone
    exact absurd (hgone.symm.trans hasDir_run_deleteDirectory) (by decide)

def sparesExports (c : Call) : Prop :=
  ∀ t, (array.act c t).2.exports = t.exports ∧ (array.act c t).2.snapshots = t.snapshots

theorem deleteVolume_sparesExports : uses sparesExports (IsiService.deleteVolume base name) := by
  refine IsiService.deleteVolume_uses fun t => ?_
  simp only [array_act, OneFS.serve, OneFS.change]
  split <;> exact ⟨rfl, rfl⟩

theorem exportById_removeTrackedSnapshot (base trackingDir snapshotName : Str)
    (h : (s.exportById k z).isSome = true) :
    (run array (removeTrackedSnapshot base trackingDir snapshotName z k) s).2.exportById k z = none := by
  unfold removeTrackedSnapshot
  rw [run_bind, run_attempt, run_unexport h]
  dsimp only
  refine run_of_uses (U := Call.KeepsExports) (I := fun t : OneFS => t.exportById k z = none) ?_
    (fun c t hc ht => ?_) (OneFS.exportById_dropExport s k z)
  · refine uses_attempt_bind (IsiService.deleteVolume_uses trivial) fun r => ?_
    split
    · trivial
    · exact uses_ask_bind trivial fun _ => trivial
  · rw [OneFS.exportById, hc.serve t]
    exact ht

theorem run_removeMarkedSnapshot (base trackingDir snapshotName z : Str) (k count : Int) :
    run array (removeMarkedSnapshot base trackingDir snapshotName z k count) s =
      if s.hasDir (namespacePath base (trackingMarker trackingDir)) = true ∧ count = 3 then
        run array (removeTrackedSnapshot base trackingDir snapshotName z k) s
      else (.ok (), s) := by
  unfold removeMarkedSnapshot
  rw [run_bind, run_isVolumeExistent]
  dsimp only
  by_cases hmarker : s.hasDir (namespacePath base (trackingMarker trackingDir)) = true
  · rw [if_pos hmarker]
    by_cases hcount : count = 3
    · rw [if_pos hcount, if_pos ⟨hmarker, hcount⟩]
    · rw [if_neg hcount, if_neg fun h => hcount h.2]
      rfl
  · rw [if_neg hmarker, if_neg fun h => hmarker h.1]
    rfl

theorem run_processSnapshotTracking (hpaths : e.paths = path :: rest)
    (hfound : s.exportById v.exportID v.accessZone = some e) :
    let t := (run array (processSnapshotTrackingDirectoryDuringDeleteVolume v.volName v.accessZone e)
      s).2
    (lastOfMarked s v path = true → t.exportById v.exportID v.accessZone = none) ∧
    (lastOfMarked s v path = false → t.exports = s.exports ∧ t.snapshots = s.snapshots) := by
  intro t
  have hid : e.id = v.exportID := (OneFS.exportById_some hfound).2.1
  unfold t processSnapshotTrackingDirectoryDuringDeleteVolume lastOfMarked
  rw [hpaths]
  simp only [run_bind, request, run_op, array_act, OneFS.serve]
  cases s.zone v.accessZone with
  | none => exact ⟨by rintro ⟨⟩, fun _ => ⟨rfl, rfl⟩⟩
  | some zone =>
    dsimp only [OneFS.reply]
    cases getSnapshotIsiPathComponents path zone.path with
    | none => exact ⟨by rintro ⟨⟩, fun _ => ⟨rfl, rfl⟩⟩
    | some x =>
      obtain ⟨base, snapshotName⟩ := x
      dsimp only
      rw [run_bind, run_removeTrackingEntry]
      dsimp only
      generalize hu : s.withoutDir (namespacePath base
        (trackingEntry (getSnapshotTrackingDirName snapshotName) v.volName)) = u
      have hexports : u.exports = s.exports := by
        rw [← hu, OneFS.withoutDir]
        split <;> rfl
      have hsnapshots : u.snapshots = s.snapshots := by
        rw [← hu, OneFS.withoutDir]
        split <;> rfl
      rw [run_bind, run_attempt]
      cases hdir : u.hasDir (namespacePath base (getSnapshotTrackingDirName snapshotName)) with
      | false =>
        have hcount : ∃ err, run array (getSubDirectoryCount base
            (getSnapshotTrackingDirName snapshotName)) u = (.error err, u) := by
          rw [getSubDirectoryCount, run_bind, run_isVolumeExistent, hdir]
          exact ⟨_, rfl⟩
        obtain ⟨err, hcount⟩ := hcount
        rw [hcount]
        exact ⟨by rintro ⟨⟩, fun _ => ⟨hexports, hsnapshots⟩⟩
      | true =>
        rw [run_getSubDirectoryCount hdir]
        dsimp only
        rw [run_bind, run_removeMarkedSnapshot]
        generalize hlinks : u.nlink (namespacePath base (getSnapshotTrackingDirName snapshotName)) = n
        simp only [Bool.true_and, Bool.and_eq_true, decide_eq_true_eq, ← Bool.not_eq_true]
        by_cases hlast : u.hasDir (namespacePath base
            (trackingMarker (getSnapshotTrackingDirName snapshotName))) = true ∧ n = 3
        · refine ⟨fun _ => ?_, fun h => absurd hlast h⟩
          have hsome : (u.exportById v.exportID v.accessZone).isSome = true := by
            rw [OneFS.exportById, hexports]
            exact Option.isSome_iff_exists.2 ⟨e, hfound⟩
          rw [if_pos hlast, hid]
          have hgone := exportById_removeTrackedSnapshot base (getSnapshotTrackingDirName snapshotName)
            snapshotName hsome
          cases hrun : run array (removeTrackedSnapshot base (getSnapshotTrackingDirName snapshotName)
              snapshotName v.accessZone v.exportID) u with
          | mk r t =>
            rw [hrun] at hgone
            cases r with
            | error err => exact hgone
            | ok _ =>
              dsimp only
              rw [if_neg (by rw [hlast.2]; decide)]
              exact hgone
        · refine ⟨fun h => absurd h hlast, fun _ => ?_⟩
          rw [if_neg hlast]
          dsimp only
          refine run_of_uses (U := sparesExports)
            (I := fun t : OneFS => t.exports = s.exports ∧ t.snapshots = s.snapshots) ?_
            (fun c t hc ht => ⟨(hc t).1.trans ht.1, (hc t).2.trans ht.2⟩) ⟨hexports, hsnapshots⟩
          split
          · exact uses_attempt_bind deleteVolume_sparesExports fun _ => trivial
          · trivial

theorem kept_deleted_iff (hl : Located s volumeID v e path isiPath)
    (hreach : svc.Reaches v.clusterName)
    (hdir : isROVolumeFromSnapshot path v.accessZone = false →
      s.hasDir (namespacePath (removalBase volumeID path isiPath v.volName) v.volName) = true) :
    Kept volumeID v path isiPath s (run array (deleteVolume svc volumeID) s).2 ↔
      Spared s volumeID v e path isiPath := by
  rw [run_deleteVolume hl.nonempty hl.parse hreach, hl.found]
  dsimp only
  unfold Spared
  split
  · next hro =>
    obtain ⟨rest, hpaths⟩ := hl.paths
    obtain ⟨hlost, hleft⟩ := run_processSnapshotTracking hpaths hl.found
    have hexported : deleteExported volumeID v e =
        processSnapshotTrackingDirectoryDuringDeleteVolume v.volName v.accessZone e := by
      simp [deleteExported, hpaths, hl.isiPath, hro]
    rw [hexported]
    constructor
    · intro h
      by_contra hlast
      have hsome := h.exported (by rw [hl.found]; rfl)
      rw [hlost (by simpa using hlast)] at hsome
      cases hsome
    · intro h
      obtain ⟨hexports, hsnapshots⟩ := hleft h
      refine ⟨fun hs => ?_, fun _ => hsnapshots, fun hlive => ?_, fun hlive => ?_⟩
      · rw [OneFS.exportById, hexports]
        exact hs
      · rw [hro] at hlive
        cases hlive
      · rw [hro] at hlive
        cases hlive
  · next hro =>
    have hlive : isROVolumeFromSnapshot path v.accessZone = false := by simpa using hro
    by_cases hb : isDirectoryBacked volumeID path isiPath v.volName = true
    · have hbase : removalBase volumeID path isiPath v.volName = path := if_pos hb
      refine iff_of_false (fun h => ?_) fun h => by simp [hb] at h
      have hgone := hasDir_deleted_directoryBacked hl hlive hb
      have hleft := h.directory hlive (hdir hlive)
      rw [hbase, hgone] at hleft
      cases hleft
    · have hown : isDirectoryBacked volumeID path isiPath v.volName = false := by simpa using hb
      have hbase : removalBase volumeID path isiPath v.volName = isiPath := if_neg hb
      rw [and_iff_right hown]
      exact kept_exportBacked_iff hl ⟨hlive, hown⟩ (hbase ▸ hdir hlive)

end Volume

/-- Unless the removal of clients ends with a text that is taken for a missing directory, a call
takes nothing but clients. Otherwise it deletes the volume, which is kept exactly when
`DeleteVolume` spares it. -/
theorem controllerUnpublishVolume_keeps_iff (svc : Service) (d : Driver)
    (req : ControllerUnpublishVolumeRequest) (err : Err) (i : Nat) :
    ((∀ v, parseNormalizedVolumeID req.volumeID = .ok v → svc.Reaches v.clusterName →
        takenForGone svc d req.nodeID v err = false) →
      wp (driver i) (removalFails err) (controllerUnpublishVolume svc req)
        (fun _ t => ∀ c, Unharmed (d.arrays c) (t.arrays c)) d) ∧
    ∀ v name cfg e path isiPath, svc.getIsilonConfig v.clusterName = .ok (name, cfg) →
      Located (d.arrays name) req.volumeID v e path isiPath →
      (isROVolumeFromSnapshot path v.accessZone = false → (d.arrays name).hasDir
        (namespacePath (removalBase req.volumeID path isiPath v.volName) v.volName) = true) →
      (wp (driver i) (removalFails err) (controllerUnpublishVolume svc req)
          (fun _ t => Kept req.volumeID v path isiPath (d.arrays name) (t.arrays name)) d ↔
        (svc.Reaches v.clusterName → takenForGone svc d req.nodeID v err = true →
          Spared (d.arrays name) req.volumeID v e path isiPath)) := by
  have hremoved (name : Str) (k : Int) (z : Str) (names : List Str) (c : Str) :
      Unharmed (d.arrays c) ((d.removeClients name k z names).arrays c) :=
    .update name (.removeClients _ k z names) c
  constructor
  · intro h
    by_cases hreach : ∃ v, parseNormalizedVolumeID req.volumeID = .ok v ∧ svc.Reaches v.clusterName
    · obtain ⟨v, hv, name, cfg, hcfg, hready⟩ := hreach
      refine (leaves_iff (K := fun arrays => ∀ c, Unharmed (d.arrays c) (arrays c)) (parse_nonempty hv)
        hv hcfg hready (fun c => .refl _) fun names => hremoved name _ _ names).2 fun hgone => ?_
      rw [h v hv ⟨name, cfg, hcfg, hready⟩] at hgone
      cases hgone
    · exact leaves_unreached (K := fun arrays => ∀ c, Unharmed (d.arrays c) (arrays c))
        (fun v hv hr => hreach ⟨v, hv, hr⟩) fun c => .refl _
  · intro v name cfg e path isiPath hcfg hl hdir
    by_cases hready : cfg.isiSvc = true ∨ svc.autoProbeEnabled = true
    · have hreach : svc.Reaches v.clusterName := ⟨name, cfg, hcfg, hready⟩
      rw [imp_iff_right hreach, ← kept_deleted_iff hl hreach hdir]
      refine (leaves_iff (K := fun arrays => Kept req.volumeID v path isiPath (d.arrays name)
        (arrays name)) hl.nonempty hl.parse hcfg hready (Unharmed.refl _).kept fun names =>
          (hremoved name _ _ names name).kept).trans ?_
      rw [deleted, setArray_arrays_self]
    · have hno : ¬svc.Reaches v.clusterName := by
        rintro ⟨name', cfg', hcfg', hready'⟩
        rw [hcfg] at hcfg'
        cases hcfg'
        exact hready hready'
      refine iff_of_true ?_ fun hr => absurd hr hno
      refine leaves_unreached (K := fun arrays => Kept req.volumeID v path isiPath (d.arrays name)
        (arrays name)) (fun w hw => ?_) (Unharmed.refl _).kept
      rw [hl.parse] at hw
      cases hw
      exact hno

def unpublishSecond : ControllerUnpublishVolumeRequest :=
  ⟨publishSecond.volumeID, publishSecond.nodeID⟩

theorem twoVolumes_located : ∃ e, Located (twoVolumes.arrays "c1") unpublishSecond.volumeID
    ⟨"vol2", 2, "System", "c1"⟩ e "/ifs/data/vol2" "/ifs/data/" := by
  have hsome : ((twoVolumes.arrays "c1").exportById 2 "System").map Export.paths =
      some [("/ifs/data/vol2" : Str)] := by decide
  obtain ⟨e, he, hpaths⟩ := Option.map_eq_some_iff.1 hsome
  exact ⟨e, by decide, by decide, he, ⟨[], hpaths⟩, by decide⟩

theorem controllerUnpublishVolume_keeps_second :
    takenForGone oneCluster twoVolumes unpublishSecond.nodeID ⟨"vol2", 2, "System", "c1"⟩
      (.json 503 "busy") = false ∧
    wp (driver 0) (removalFails (.json 503 "busy")) (controllerUnpublishVolume oneCluster unpublishSecond)
      (fun _ t => Kept unpublishSecond.volumeID ⟨"vol2", 2, "System", "c1"⟩ "/ifs/data/vol2" "/ifs/data/"
        (twoVolumes.arrays "c1") (t.arrays "c1")) twoVolumes := by
  have hno : takenForGone oneCluster twoVolumes unpublishSecond.nodeID ⟨"vol2", 2, "System", "c1"⟩
      (.json 503 "busy") = false := by decide
  obtain ⟨e, hl⟩ := twoVolumes_located
  refine ⟨hno, ((controllerUnpublishVolume_keeps_iff oneCluster twoVolumes unpublishSecond
    (.json 503 "busy") 0).2 _ "c1" _ e _ _ rfl hl fun _ => by decide).2 fun _ hgone => ?_⟩
  rw [hno] at hgone
  cases hgone

/-- A file that the array does not find, whichever it is, costs the volume: its directory, its quota
and its export. -/
theorem controllerUnpublishVolume_deletes_second :
    let err : Err := .json 500 "cannot read the host cache: No such file or directory"
    let s := twoVolumes.arrays "c1"
    let after := exec (driver 0) (controllerUnpublishVolume oneCluster unpublishSecond) [none, some err]
      twoVolumes
    let t := after.2.arrays "c1"
    (s.hasDir "/ifs/data/vol2" = true ∧ (s.quotaAt "/ifs/data/vol2").isSome = true ∧
      (s.exportById 2 "System").isSome = true) ∧
    after.1 = .ok () ∧ t.hasDir "/ifs/data/vol2" = false ∧ t.quotaAt "/ifs/data/vol2" = none ∧
      t.exportById 2 "System" = none ∧
    ¬wp (driver 0) (removalFails err) (controllerUnpublishVolume oneCluster unpublishSecond)
      (fun _ t => Kept unpublishSecond.volumeID ⟨"vol2", 2, "System", "c1"⟩ "/ifs/data/vol2" "/ifs/data/"
        s (t.arrays "c1")) twoVolumes := by
  intro err s after t
  refine ⟨by decide, by decide +kernel, by decide +kernel, by decide +kernel, by decide +kernel,
    fun h => ?_⟩
  have hkept := (leaves_iff (K := fun arrays => Kept unpublishSecond.volumeID ⟨"vol2", 2, "System", "c1"⟩
    "/ifs/data/vol2" "/ifs/data/" s (arrays "c1")) (v := ⟨"vol2", 2, "System", "c1"⟩) (by decide)
    (by decide) rfl (.inl rfl) (Unharmed.refl _).kept fun names =>
      (Unharmed.update "c1" (.removeClients _ _ _ names) "c1").kept).1 h (by decide +kernel)
  exact absurd (hkept.directory (by decide) (by decide)) (by decide)

end Controller
end CsiPowerscale
