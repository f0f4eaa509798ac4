import Mathlib.Data.List.Dedup
import CsiPowerscale.UnpublishRevokes

namespace CsiPowerscale
open GoLib Effects Effects.Prog Controller Driver

def Service.clusterOf (svc : Service) (clusterName : Str) : Option Str :=
  (svc.getIsilonConfig clusterName).toOption.map Prod.fst

theorem Service.clusterOf_ok {svc : Service} (h : svc.getIsilonConfig x = .ok (name, cfg)) :
    svc.clusterOf x = some name := by
  simp [clusterOf, h, Except.toOption]

theorem VolumeID.muKey_inj {v w : VolumeID} : v.muKey = w.muKey ↔
    v.exportID = w.exportID ∧ v.accessZone = w.accessZone := by
  have hcut (x : VolumeID) : cut ":" x.muKey = some (itoa x.exportID, x.accessZone) := by
    have hsep : Separable ":" (itoa x.exportID) := by
      refine separable_of_not_mem fun h => ?_
      rcases itoa_digits h with h | h
      · exact absurd h (by decide)
      · exact absurd h (by decide)
    simpa [VolumeID.muKey, sprintf] using cut_append ":" x.accessZone _ hsep
  constructor
  · intro h
    have hv := hcut v
    rw [h, hcut w, Option.some.injEq, Prod.mk.injEq] at hv
    exact ⟨itoa_injective hv.1.symm, hv.2.symm⟩
  · rintro ⟨hi, hz⟩
    rw [VolumeID.muKey, VolumeID.muKey, hi, hz]

section Decision

variable {svc : Service} {d : Driver} {nodeName exclude name z : Str} {i : Int} {j : Nat}

theorem mem_attachedPVs :
    pvName ∈ attachedPVs l nodeName exclude ↔ ∃ a ∈ l, a.nodeName = nodeName ∧ a.attached = true ∧
      a.persistentVolumeName = some pvName ∧ pvName ≠ exclude := by
  simp only [attachedPVs, List.mem_dedup, List.mem_filterMap, Option.ite_none_right_eq_some,
    Option.filter_eq_some_iff, decide_eq_true_eq, and_assoc]

def Driver.HasOther (d : Driver) (svc : Service) (nodeName exclude : Str) (i : Int) (z : Str)
    (c : Option Str) : Prop :=
  ∃ pvName ∈ attachedPVs d.kube.volumeAttachments nodeName exclude, ∃ pv w,
    d.volumeNamed pvName = some pv ∧ pv.directoryVolume = some w ∧ pv.bound = true ∧
    w.exportID = i ∧ w.accessZone = z ∧ svc.clusterOf w.clusterName = c

def Driver.within (d : Driver) (svc : Service) (name : Str) (i : Int) (z : Str) : Driver :=
  { d with kube := { d.kube with
      volumeAttachments := d.kube.volumeAttachments.filter fun a =>
        a.persistentVolumeName.any fun pvName => (d.volumeNamed pvName).any fun pv =>
          pv.directoryVolume.any fun w =>
            svc.clusterOf w.clusterName = some name ∧ w.exportID = i ∧ w.accessZone = z } }

theorem onExport_iff {pv : PersistentVolume} : pv.onExport i z = true ↔ ∃ w,
    pv.directoryVolume = some w ∧ pv.bound = true ∧ w.exportID = i ∧ w.accessZone = z := by
  unfold PersistentVolume.onExport
  cases pv.directoryVolume with
  | none => simp
  | some w =>
    simp only [Bool.and_eq_true, decide_eq_true_eq, Option.some.injEq, exists_eq_left']
    tauto

theorem hasOther_within : (d.within svc name i z).HasOther svc nodeName exclude i z c ↔
    d.HasOther svc nodeName exclude i z c ∧ c = some name := by
  simp only [HasOther, Driver.within, mem_attachedPVs, List.mem_filter, Option.any_eq_true,
    decide_eq_true_eq]
  constructor
  · rintro ⟨pvName, ⟨a, ⟨ha, x, hx, pv', hpv', w', hw', hc', -⟩, hn, hatt, hp, hne⟩, pv, w, hpv, hw, h⟩
    rw [hp] at hx
    cases hx
    have heq : pv' = pv := Option.some.inj (hpv'.symm.trans hpv)
    subst heq
    have hww : w' = w := Option.some.inj (hw'.symm.trans hw)
    subst hww
    exact ⟨⟨pvName, ⟨a, ha, hn, hatt, hp, hne⟩, pv', w', hpv, hw, h⟩, h.2.2.2 ▸ hc'⟩
  · rintro ⟨⟨pvName, ⟨a, ha, hn, hatt, hp, hne⟩, pv, w, hpv, hw, hb, hi, hz, hc⟩, rfl⟩
    exact ⟨pvName, ⟨a, ⟨ha, pvName, hp, pv, hpv, w, hw, hc, hi, hz⟩, hn, hatt, hp, hne⟩, pv, w, hpv, hw,
      hb, hi, hz, hc⟩

theorem run_anyOnExport {pvNames : List Str} : run (driver j) (anyOnExport i z pvNames) d =
    (.ok (pvNames.any fun x => (d.volumeNamed x).any fun pv => pv.onExport i z), d) := by
  induction pvNames with
  | nil => rfl
  | cons x xs ih =>
    simp only [anyOnExport, run_bind, run_ask, driver_act, Driver.serve, List.any_cons]
    cases d.volumeNamed x with
    | none => simpa [lookUp] using ih
    | some pv =>
      simp only [lookUp, Option.any_some]
      cases pv.onExport i z with
      | true => rfl
      | false => simpa using ih

theorem run_hasOther (svc : Service) (hn : parseNodeID nodeID = .ok n) :
    ∃ b, run (driver j) (hasOtherDirectoryBackedVolumesOnExport nodeID i z exclude) d =
      (.ok b, d) ∧ (b = true ↔ ∃ c, d.HasOther svc n.name exclude i z c) := by
  refine ⟨(attachedPVs d.kube.volumeAttachments n.name exclude).any fun x =>
    (d.volumeNamed x).any fun pv => pv.onExport i z, ?_, ?_⟩
  · simp only [hasOtherDirectoryBackedVolumesOnExport, hn, run_bind, run_ask, driver_act,
      Driver.serve]
    exact run_anyOnExport
  simp only [List.any_eq_true, Option.any_eq_true, onExport_iff]
  constructor
  · rintro ⟨x, hx, pv, hpv, w, hw, hb, hi, hz⟩
    exact ⟨_, x, hx, pv, w, hpv, hw, hb, hi, hz, rfl⟩
  · rintro ⟨c, x, hx, pv, w, hpv, hw, hb, hi, hz, -⟩
    exact ⟨x, hx, pv, hpv, w, hw, hb, hi, hz⟩

theorem decision_iff (hn : parseNodeID nodeID = .ok n) :
    (run (driver j) (hasOtherDirectoryBackedVolumesOnExport nodeID i z exclude) d).1 =
      (run (driver j) (hasOtherDirectoryBackedVolumesOnExport nodeID i z exclude)
        (d.within svc name i z)).1 ↔
    ((∃ c, d.HasOther svc n.name exclude i z c) → d.HasOther svc n.name exclude i z (some name)) := by
  obtain ⟨b, hb, hall⟩ := run_hasOther (d := d) (j := j) (i := i) (z := z) svc hn
  obtain ⟨b', hb', hone⟩ := run_hasOther (d := d.within svc name i z) (j := j) (i := i) (z := z) svc hn
  rw [hb, hb', Except.ok.injEq, Bool.eq_iff_iff, hall, hone]
  simp only [hasOther_within, exists_eq_right]
  exact ⟨fun h => h.1, fun h => ⟨h, fun hx => ⟨_, hx⟩⟩⟩

end Decision

section Cleanup

variable {svc : Service} {d t : Driver} {ips : List Str} {name z c : Str} {k : Int} {i : Nat}
  {field : ClientField}

def VolumeID.Hits (v : VolumeID) (svc : Service) (name : Str) (k : Int) (z : Str) : Prop :=
  v.exportID = k ∧ v.accessZone = z ∧ svc.clusterOf v.clusterName = some name

theorem lists_removeClients : (d.removeClients cluster m y ips).Lists name k z field c ↔
      d.Lists name k z field c ∧ ¬(cluster = name ∧ m = k ∧ y = z ∧ c ∈ ips) := by
  by_cases hc : name = cluster
  · subst hc
    simp only [Driver.Lists, Driver.findExport, Driver.removeClients, setArray_arrays_self,
      OneFS.exportById_removeClients, Option.map_eq_some_iff]
    constructor
    · rintro ⟨_, ⟨e, he, rfl⟩, hmem⟩
      have hid := (OneFS.exportById_some he).2
      split at hmem
      · obtain ⟨hmem, hips⟩ := Export.mem_without.1 hmem
        exact ⟨⟨e, he, hmem⟩, fun h => hips h.2.2.2⟩
      · next hne => exact ⟨⟨e, he, hmem⟩, fun h => hne ⟨hid.1.trans h.2.1.symm, hid.2.trans h.2.2.1.symm⟩⟩
    · rintro ⟨⟨e, he, hmem⟩, hno⟩
      have hid := (OneFS.exportById_some he).2
      refine ⟨_, ⟨e, he, rfl⟩, ?_⟩
      split
      · next heq =>
        exact Export.mem_without.2 ⟨hmem, fun h =>
          hno ⟨trivial, heq.1.symm.trans hid.1, heq.2.symm.trans hid.2, h⟩⟩
      · exact hmem
  · have hkeep : (d.removeClients cluster m y ips).findExport name k z = d.findExport name k z := by
      simp [Driver.findExport, Driver.removeClients, setArray, Function.update_of_ne hc]
    simp only [Driver.Lists, hkeep]
    exact ⟨fun h => ⟨h, fun hx => hc hx.1.symm⟩, fun h => h.1⟩

theorem Driver.SameButLocks.lists (h : t.SameButLocks d) :
    t.Lists name k z field c ↔ d.Lists name k z field c := by
  simp only [Driver.Lists, h.findExport]

theorem run_removeByIPs (ips : List Str) (cluster : Str) (m : Int) (y : Str) (b : Bool) : ∃ x,
    run (driver i) (onCluster cluster (IsiService.removeExportClientByIPsWithZone m y ips b)) d =
      (.ok (), x) ∧ x.kube = d.kube ∧ ∀ {name k z field c}, x.Lists name k z field c ↔
        d.Lists name k z field c ∧ ¬(cluster = name ∧ m = k ∧ y = z ∧ c ∈ ips) := by
  rw [run_onCluster, IsiService.removeExportClientByIPsWithZone]
  cases hx : ((d.arrays cluster).exportById m y).isSome with
  | true =>
    rw [run_removeExportClients hx]
    exact ⟨_, rfl, rfl, lists_removeClients⟩
  | false =>
    have hrun : run array (IsiService.removeExportClients m y ips b) (d.arrays cluster) =
        (.ok (), d.arrays cluster) := by
      simp [IsiService.removeExportClients, run_bind, array_act, OneFS.serve, OneFS.change, hx,
        OneFS.notFound, Err.jsonStatus]
    rw [hrun, setArray_self]
    refine ⟨d, rfl, rfl, fun {name k z field c} => ⟨fun h => ⟨h, ?_⟩, fun h => h.1⟩⟩
    rintro ⟨rfl, rfl, rfl, -⟩
    obtain ⟨e, he, -⟩ := h
    rw [Driver.findExport] at he
    rw [he] at hx
    cases hx

theorem run_cleanupExport {v : VolumeID}
    (hrun : run (driver i) (withLock v.muKey (cleanupExport svc ips v)) d =
      (.ok (), t)) :
    ∀ {name k z field c}, t.Lists name k z field c ↔
      d.Lists name k z field c ∧ ¬(c ∈ ips ∧ v.Hits svc name k z) := by
  obtain ⟨x, hx, hr, hs⟩ := run_withLock (i := i) (d := d) v.muKey
    (cleanupExport svc ips v)
  rw [hrun] at hr hs
  intro name k z field c
  rw [hs.lists]
  unfold cleanupExport at hr ⊢
  cases hcfg : svc.getIsilonConfig v.clusterName with
  | error e =>
    simp only [run_ret]
    rw [hx.lists]
    refine ⟨fun h => ⟨h, fun hit => ?_⟩, fun h => h.1⟩
    have hcluster := hit.2.2.2
    simp [Service.clusterOf, hcfg, Except.toOption] at hcluster
  | ok conf =>
    obtain ⟨cluster, cfg⟩ := conf
    rw [hcfg] at hr
    dsimp only at hr ⊢
    cases hisi : cfg.isiSvc with
    | false => simp [hisi] at hr
    | true =>
      obtain ⟨y, hy, -, hlists⟩ := run_removeByIPs (i := i) (d := x) ips cluster v.exportID
        v.accessZone false
      simp only [if_true, run_bind, run_attempt, hy, pure_eq, run_ret]
      rw [hlists, hx.lists, VolumeID.Hits, Service.clusterOf_ok hcfg, Option.some.injEq]
      tauto

theorem run_cleanupExports
    (hrun : run (driver i) (cleanupExports svc ips vs) d = (.ok (), t)) :
    t.Lists name k z field c ↔
      d.Lists name k z field c ∧ ¬(c ∈ ips ∧ ∃ v ∈ vs, v.Hits svc name k z) := by
  induction vs generalizing d with
  | nil =>
    obtain ⟨-, rfl⟩ := Prod.mk.inj hrun
    simp
  | cons v vs ih =>
    obtain ⟨_, x, hv, hvs⟩ := run_bind_ok.1 hrun
    rw [ih hvs, run_cleanupExport hv, and_assoc, ← not_or, ← and_or_left]
    simp only [List.mem_cons, exists_eq_or_imp]

theorem mem_addSharedExports {l : List VolumeID} : v ∈ l.foldl addSharedExport [] ↔
      l.reverse.find? (fun x => x.exportID = v.exportID ∧ x.accessZone = v.accessZone) = some v := by
  induction l using List.reverseRecOn with
  | nil => simp
  | append_singleton l w ih =>
    rw [List.foldl_append, List.foldl_cons, List.foldl_nil, addSharedExport, List.reverse_append,
      List.reverse_singleton, List.singleton_append, List.find?_cons]
    simp only [List.mem_append, List.mem_filter, List.mem_singleton, ih, ne_eq, decide_not,
      Bool.not_eq_true', decide_eq_false_iff_not, VolumeID.muKey_inj]
    by_cases hw : w.exportID = v.exportID ∧ w.accessZone = v.accessZone
    · have hne : ¬¬(v.exportID = w.exportID ∧ v.accessZone = w.accessZone) :=
        not_not.2 ⟨hw.1.symm, hw.2.symm⟩
      simp [hw, eq_comm]
    have hwv : v ≠ w := by
      rintro rfl
      exact hw ⟨rfl, rfl⟩
    have hne : ¬(v.exportID = w.exportID ∧ v.accessZone = w.accessZone) :=
      fun h => hw ⟨h.1.symm, h.2.symm⟩
    simp [hw, hwv, hne]

def lastOnExport (pvs : List PersistentVolume) (k : Int) (z : Str) : Option VolumeID :=
  (pvs.filterMap PersistentVolume.directoryVolume).reverse.find? fun x =>
    x.exportID = k ∧ x.accessZone = z

theorem hits_sharedExports : (∃ v ∈ sharedExports pvs, v.Hits svc name k z) ↔
      ∃ v, lastOnExport pvs k z = some v ∧ svc.clusterOf v.clusterName = some name := by
  constructor
  · rintro ⟨v, hv, rfl, rfl, hc⟩
    exact ⟨v, mem_addSharedExports.1 hv, hc⟩
  · rintro ⟨v, hv, hc⟩
    have hid : v.exportID = k ∧ v.accessZone = z := by simpa using List.find?_some hv
    obtain ⟨rfl, rfl⟩ := hid
    exact ⟨v, mem_addSharedExports.2 hv, rfl, rfl, hc⟩

theorem run_cleanup {node : KubeNode}
    (hrun : run (driver i) (cleanupNodeFromSharedExports svc node) d = (.ok (), t)) :
    t.Lists name k z field c ↔ d.Lists name k z field c ∧ ¬(c ∈ node.ips ∧
      ∃ v, lastOnExport d.kube.persistentVolumes k z = some v ∧
        svc.clusterOf v.clusterName = some name) := by
  unfold cleanupNodeFromSharedExports at hrun
  split at hrun
  · next hnil =>
    obtain ⟨-, rfl⟩ := Prod.mk.inj hrun
    simp [hnil]
  · simp only [run_bind, run_ask, driver_act, Driver.serve] at hrun
    rw [run_cleanupExports hrun, hits_sharedExports]

end Cleanup

/-- A node is kept per cluster exactly when a volume on another cluster is not the only one that
counts. The clean-up after a deleted node leaves no client of it exactly when every such client of a
listed shared export is an address of the node, and the last listed volume with the export ID and
access zone is on the same cluster. -/
theorem sharedExports_perCluster_iff (svc : Service) (d : Driver) (i : Nat) :
    (∀ nodeID n (v : VolumeID) name cfg, parseNodeID nodeID = .ok n →
      svc.getIsilonConfig v.clusterName = .ok (name, cfg) →
      let decision (s : Driver) := (run (driver i) (hasOtherDirectoryBackedVolumesOnExport
        nodeID v.exportID v.accessZone v.volName) s).1
      (decision d = decision (d.within svc name v.exportID v.accessZone) ↔
        ((∃ c, d.HasOther svc n.name v.volName v.exportID v.accessZone c) →
          d.HasOther svc n.name v.volName v.exportID v.accessZone (some name)))) ∧
    (∀ node nodeID t,
      run (driver i) (cleanupNodeFromSharedExports svc node) d = (.ok (), t) →
      let listed (v : VolumeID) (name : Str) : Prop :=
        (∃ pv ∈ d.kube.persistentVolumes, pv.directoryVolume = some v) ∧
          svc.clusterOf v.clusterName = some name
      ((∀ v name, listed v name → ∀ c, d.kube.Names nodeID c →
          ∀ field, ¬t.Lists name v.exportID v.accessZone field c) ↔
        ∀ v name, listed v name → ∀ c, d.kube.Names nodeID c →
          ∀ field, d.Lists name v.exportID v.accessZone field c → c ∈ node.ips ∧
            ∃ w, lastOnExport d.kube.persistentVolumes v.exportID v.accessZone = some w ∧
              svc.clusterOf w.clusterName = some name)) := by
  refine ⟨fun nodeID n v name cfg hn _ => decision_iff hn, fun node nodeID t hrun => ?_⟩
  simp only [run_cleanup hrun, not_and_not_right]

def sharedVolumes (volumes : List (Str × Str)) : Driver where
  arrays _ := Controller.sharedArray.addClients .clients 1 "System" ["10.0.0.5"]
  kube := {
    labels := []
    persistentVolumes := volumes.map fun (name, cluster) =>
      ⟨name, some ⟨pluginName, getDirectoryBackedVolumeID name 1 "System" cluster,
        [("ProvisioningMode", "directory")]⟩, true⟩
    volumeAttachments := volumes.map fun (name, _) => ⟨"n1", true, some name⟩ }
  clients _ _ := none
  locks _ := ⟨none, []⟩

def deletedNode : KubeNode := ⟨"n1", [⟨.internalIP, "10.0.0.5"⟩]⟩

theorem sharedExports_perCluster_one : let d := sharedVolumes [("vol1", "c1")]
    let t := (run (driver 0) (cleanupNodeFromSharedExports (twoClusters false) deletedNode) d).2
    (run (driver 0) (hasOtherDirectoryBackedVolumesOnExport "n1=#=#=n1.lab=#=#=10.0.0.5" 1
      "System" "vol2") d).1 =
    (run (driver 0) (hasOtherDirectoryBackedVolumesOnExport "n1=#=#=n1.lab=#=#=10.0.0.5" 1
      "System" "vol2") (d.within (twoClusters false) "c1" 1 "System")).1 ∧
    ∀ field, ¬t.Lists "c1" 1 "System" field "10.0.0.5" := by
  intro d t
  obtain ⟨hkeep, hclean⟩ := sharedExports_perCluster_iff (twoClusters false) d 0
  refine ⟨(hkeep "n1=#=#=n1.lab=#=#=10.0.0.5" ⟨"n1", "n1.lab", "10.0.0.5"⟩
    ⟨"vol2", 1, "System", "c1"⟩ "c1" _ (by decide) rfl).2 fun _ => ?_, ?_⟩
  · exact ⟨"vol1", by decide, _, ⟨"vol1", 1, "System", "c1"⟩, rfl, by decide, rfl, rfl, rfl, by decide⟩
  have hnode : d.kube.Names "n1=#=#=n1.lab=#=#=10.0.0.5" "10.0.0.5" :=
    ⟨⟨"n1", "n1.lab", "10.0.0.5"⟩, by decide, .inr (.inl rfl)⟩
  refine (hclean deletedNode "n1=#=#=n1.lab=#=#=10.0.0.5" t (Prod.ext (by decide) rfl)).2 ?_
    ⟨"vol1", 1, "System", "c1"⟩ "c1" ⟨⟨_, List.mem_singleton_self _, by decide⟩, by decide⟩ _ hnode
  rintro v name ⟨⟨pv, hpv, hv⟩, hname⟩ c - field ⟨e, he, hc⟩
  obtain rfl := List.mem_singleton.1 hpv
  obtain rfl : v = ⟨"vol1", 1, "System", "c1"⟩ := Option.some.inj (hv.symm.trans (by decide))
  obtain rfl : name = "c1" := Option.some.inj (hname.symm.trans (by decide))
  have hlists : (d.findExport "c1" 1 "System").map Export.clientFields =
      some [[("10.0.0.5" : Str)], [], [], []] := by decide
  rw [he, Option.map_some, Option.some.injEq] at hlists
  simp only [Export.clientFields, List.cons.injEq] at hlists
  obtain ⟨hclients, hreadOnly, hreadWrite, hroot, -⟩ := hlists
  have hip : c = "10.0.0.5" := by
    cases field with
    | clients => exact List.mem_singleton.1 (hclients ▸ hc)
    | readOnly => exact absurd hc (List.eq_nil_iff_forall_not_mem.1 hreadOnly c)
    | readWrite => exact absurd hc (List.eq_nil_iff_forall_not_mem.1 hreadWrite c)
    | root => exact absurd hc (List.eq_nil_iff_forall_not_mem.1 hroot c)
  rw [hip]
  exact ⟨by decide, ⟨"vol1", 1, "System", "c1"⟩, by decide, by decide⟩

/-- A volume on the cluster `c2` keeps the node on the export of `c1`, and takes its place in the
clean-up. -/
theorem sharedExports_mixed : let d := sharedVolumes [("vol1", "c1"), ("vol2", "c2")]
    let decision (s : Driver) := (run (driver 0) (hasOtherDirectoryBackedVolumesOnExport
      "n1=#=#=n1.lab=#=#=10.0.0.5" 1 "System" "vol1") s).1
    let cleaned := run (driver 0) (cleanupNodeFromSharedExports (twoClusters false) deletedNode) d
    decision d = .ok true ∧ decision (d.within (twoClusters false) "c1" 1 "System") = .ok false ∧
    cleaned.1 = .ok () ∧
    (cleaned.2.findExport "c1" 1 "System").map Export.clients = some [("10.0.0.5" : Str)] := by
  decide

end CsiPowerscale
