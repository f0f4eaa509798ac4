import CsiPowerscale.DeleteVolumeFrame
import CsiPowerscale.PublishRuns

namespace CsiPowerscale
open GoLib Stores Effects Effects.Prog

def Export.OnlyDummy (e : Export) : Prop := ∀ c, e.hasClient c = true → IsLocalHost c

instance (c : Str) : Decidable (IsLocalHost c) := inferInstanceAs (Decidable (_ ∨ _))

theorem Export.onlyDummy_iff (e : Export) : e.OnlyDummy ↔
    ∀ c ∈ e.clients ++ e.readOnlyClients ++ e.readWriteClients ++ e.rootClients, IsLocalHost c := by
  simp only [OnlyDummy, hasClient, List.mem_append, Bool.or_eq_true, decide_eq_true_eq]

instance (e : Export) : Decidable e.OnlyDummy := decidable_of_iff _ e.onlyDummy_iff.symm

/-- `localhost` is the first client, nodes follow it, and the other lists are empty. -/
structure Export.DummyFirst (e : Export) : Prop where
  path : ∃ exportPath more, e.paths = exportPath :: more ∧ exportPath ≠ []
  clients : ∃ nodes, e.clients = ("localhost" : Str) :: nodes ∧ ∀ c ∈ nodes, ¬IsLocalHost c
  others : e.readOnlyClients = [] ∧ e.readWriteClients = [] ∧ e.rootClients = []

namespace Export.DummyFirst

variable {e : Export} {names : List Str} (h : e.DummyFirst)
include h

theorem addTo (hnames : ∀ c ∈ names, ¬IsLocalHost c) : (e.addTo .clients names).DummyFirst := by
  obtain ⟨nodes, hclients, hnodes⟩ := h.clients
  refine ⟨h.path, ⟨nodes ++ names, by simp [Export.addTo, hclients], fun c hc => ?_⟩, h.others⟩
  rcases List.mem_append.1 hc with hc | hc
  · exact hnodes c hc
  · exact hnames c hc

theorem without (hnames : ∀ c ∈ names, ¬IsLocalHost c) : (e.without names).DummyFirst := by
  obtain ⟨nodes, hclients, hnodes⟩ := h.clients
  obtain ⟨hreadOnly, hreadWrite, hroot⟩ := h.others
  have hlocal : ("localhost" : Str) ∉ names := fun hc => hnames _ hc (.inl rfl)
  refine ⟨h.path, ⟨nodes.filter fun c => c ∉ names, ?_, fun c hc => ?_⟩, ?_⟩
  · simp [Export.without, hclients, hlocal]
  · exact hnodes c (List.mem_of_mem_filter hc)
  · simp [Export.without, hreadOnly, hreadWrite, hroot]

theorem hasHost : e.hasHost ⟨"localhost", "localhost", "127.0.0.1"⟩ = true := by
  obtain ⟨nodes, hclients, -⟩ := h.clients
  exact Export.hasHost_iff.2 (.inl (by simp [hasClient, hclients]))

theorem alone_iff : e.clients = [("localhost" : Str)] ↔ e.OnlyDummy := by
  obtain ⟨nodes, hclients, hnodes⟩ := h.clients
  obtain ⟨hreadOnly, hreadWrite, hroot⟩ := h.others
  rw [e.onlyDummy_iff, hclients, hreadOnly, hreadWrite, hroot]
  simp only [List.append_nil, List.forall_mem_cons, List.cons.injEq, true_and]
  constructor
  · rintro rfl
    exact ⟨.inl rfl, by simp⟩
  · rintro ⟨-, hall⟩
    exact List.eq_nil_iff_forall_not_mem.2 fun c hc => hnodes c hc (hall c hc)

end Export.DummyFirst

/-- The number of the export has been given out, and while the export is there, the dummy host is
its first client. -/
structure OneFS.KeepsDummy (s : OneFS) (i : Int) (z : Str) : Prop where
  used : i ≤ s.exports.next
  first : ∀ e, s.exportById i z = some e → e.DummyFirst

/-- What the call adds to the export or removes from it are clients other than the dummy host. -/
def Call.LeavesDummy (i : Int) (z : Str) : Call → Prop
  | addExportClients field j y names _ =>
    j = i → y = z → field = .clients ∧ ∀ c ∈ names, ¬IsLocalHost c
  | removeExportClients j y names _ => j = i → y = z → ∀ c ∈ names, ¬IsLocalHost c
  | _ => True

namespace OneFS.KeepsDummy

variable {s t : OneFS} {i : Int} {z : Str} (h : s.KeepsDummy i z)
include h

theorem congr (ht : t.exports = s.exports) : t.KeepsDummy i z :=
  ⟨ht ▸ h.used, fun e he => h.first e (by rwa [exportById, ht] at he)⟩

theorem fewer (hnext : s.exports.next ≤ t.exports.next)
    (ht : ∀ e, e ∈ t.exports → e.id = i → e ∈ s.exports) : t.KeepsDummy i z := by
  refine ⟨Int.le_trans h.used (Int.ofNat_le.2 hnext), fun e he => ?_⟩
  obtain ⟨hmem, rfl, rfl⟩ := exportById_some he
  exact h.first e (exportById_of_mem (ht e hmem rfl))

theorem changed {f : Export → Export} (hnext : t.exports.next = s.exports.next)
    (ht : t.exportById i z = (s.exportById i z).map f)
    (hf : ∀ e, e.id = i → e.zone = z → e.DummyFirst → (f e).DummyFirst) : t.KeepsDummy i z := by
  refine ⟨hnext ▸ h.used, fun e he => ?_⟩
  rw [ht, Option.map_eq_some_iff] at he
  obtain ⟨x, hx, rfl⟩ := he
  obtain ⟨-, hi, hz⟩ := exportById_some hx
  exact hf x hi hz (h.first x hx)

theorem addClients (hnames : j = i → y = z → field = .clients ∧ ∀ c ∈ names, ¬IsLocalHost c) :
    (s.addClients field j y names).KeepsDummy i z := by
  refine h.changed rfl (exportById_addClients _ _) fun e hi hz he => ?_
  split
  · next hj =>
    obtain ⟨rfl, hother⟩ := hnames (hj.1.symm.trans hi) (hj.2.symm.trans hz)
    exact he.addTo hother
  · exact he

theorem serve (hc : c.LeavesDummy i z) : (array.act c s).2.KeepsDummy i z := by
  have heff := Call.effect c s
  generalize (array.act c s).2 = t at heff ⊢
  cases heff with
  | copySnapshot tree | copyVolume tree => exact h.congr (s.graft_exports _ _)
  | addWritable tree n =>
    exact h.congr ((OneFS.newQuota_exports _ _ _ _ _ _).trans (s.graft_exports _ _))
  | newQuota => exact h.congr (s.newQuota_exports _ _ _ _ _)
  | addExport =>
    refine h.fewer (Nat.le_succ _) fun e he hid => ?_
    rcases mem_addExport.1 he with he | rfl
    · exact he
    · -- the number of a new export is larger than any that was given out
      have hused := h.used
      simp only [Export.id] at hid
      omega
  | dropExport => exact h.fewer le_rfl fun e he _ => (mem_dropExport.1 he).1
  | addClients => exact h.addClients hc
  | removeClients =>
    refine h.changed rfl (exportById_removeClients _) fun e hi hz he => ?_
    split
    · next hj => exact he.without (hc (hj.1.symm.trans hi) (hj.2.symm.trans hz))
    · exact he
  | _ => exact h.congr rfl

end OneFS.KeepsDummy

/-- The dummy host is the first client of the export, and the node map names its nodes. -/
structure Driver.Guards (cluster : Str) (i : Int) (z : Str) (k : Kube) (d : Driver) : Prop where
  sound : Sound namesRealNode k d
  dummy : (d.arrays cluster).KeepsDummy i z

def DriverCall.LeavesDummy (cluster : Str) (i : Int) (z : Str) : DriverCall → Prop
  | array name c => name = cluster → c.LeavesDummy i z
  | storeClient _ nodeID _ => nodeID = dummyHostNodeID
  | _ => True

section Guards

variable {cluster z : Str} {i : Int} {k : Kube} {d t : Driver} {m : Nat}
  {F : Faults DriverCall Err Driver}

theorem Driver.Guards.setArray (hd : d.Guards cluster i z k)
    (hs : c = cluster → s.KeepsDummy i z) : (d.setArray c s).Guards cluster i z k := by
  refine ⟨⟨hd.sound.1, hd.sound.2.congr rfl rfl⟩, ?_⟩
  by_cases hc : c = cluster
  · subst hc
    rw [Driver.setArray_arrays_self]
    exact hs rfl
  · have hsame : (d.setArray c s).arrays cluster = d.arrays cluster :=
      Function.update_of_ne (Ne.symm hc) _ _
    rw [hsame]
    exact hd.dummy

theorem Driver.Guards.sameButLocks (hd : d.Guards cluster i z k) (ht : t.SameButLocks d) :
    t.Guards cluster i z k :=
  ⟨Controller.sound_sameButLocks hd.sound ht, ht.arrays ▸ hd.dummy⟩

theorem Driver.Guards.setClient (hd : d.Guards cluster i z k) (hc : namesRealNode k nodeID client) :
    (d.setClient c nodeID client).Guards cluster i z k :=
  ⟨⟨hd.sound.1, hd.sound.2.store (hd.sound.1 ▸ hc)⟩, hd.dummy⟩

theorem Driver.Guards.serve (hd : d.Guards cluster i z k) (hc : c.LeavesDummy cluster i z) :
    ((driver m).act c d).2.Guards cluster i z k := by
  cases c with
  | array name c =>
    have hcall : name = cluster → c.LeavesDummy i z := hc
    refine hd.setArray ?_
    rintro rfl
    exact hd.dummy.serve (hcall rfl)
  | getNodeLabels | getPersistentVolume =>
    rw [driver_act, Driver.serve, d.lookUp_state]
    exact hd
  | storeClient c nodeID client =>
    obtain rfl : nodeID = dummyHostNodeID := hc
    exact hd.setClient fun h => absurd rfl h
  | listPersistentVolumes | listVolumeAttachments | loadClient => exact hd
  | rLock | rUnlock | lock | unlock => exact hd.sameButLocks ⟨rfl, rfl, rfl⟩

theorem guards_wp (h : uses (DriverCall.LeavesDummy cluster i z) p) (hd : d.Guards cluster i z k) :
    wp (driver m) F p (fun _ t => t.Guards cluster i z k) d :=
  wp_of_uses h (fun _ _ hc ht => ht.serve hc) hd

theorem Call.KeepsExports.leavesDummy {c : Call} (h : c.KeepsExports) : c.LeavesDummy i z := by
  cases c <;> first | exact h.elim | trivial

theorem guards_onCluster (h : uses (Call.LeavesDummy i z) q) (hd : d.Guards cluster i z k) :
    wp (driver m) F (onCluster c q) (fun _ t => t.Guards cluster i z k) d :=
  guards_wp (onCluster_uses (uses_mono h fun _ hc => fun _ => hc)) hd

theorem guards_quiet (h : uses Call.KeepsExports q) (hd : d.Guards cluster i z k) :
    wp (driver m) F (onCluster c q) (fun _ t => t.Guards cluster i z k) d :=
  guards_onCluster (uses_mono h fun _ hc => hc.leavesDummy) hd

theorem guards_reading : Controller.Reading .alone (fun t => t.Guards cluster i z k) k :=
  ⟨fun h ht => h ▸ ht, fun _ => trivial, fun ht => by rw [ht.sound.1]⟩

theorem guards_adding (c nodeID : Str) (field : ClientField) (j : Int) (y : Str)
    (hown : c = cluster → j = i → y = z →
      field = .clients ∧ ∀ x, namesRealNode k nodeID x → ¬IsLocalHost x) :
    Adding .alone c nodeID field j y (namesRealNode k nodeID) (fun t => t.Guards cluster i z k)
      (fun t => t.Guards cluster i z k) where
  relyI h hs := h ▸ hs
  relyJ h hs := h ▸ hs
  weaken := id
  read _ := trivial
  load hs hc := hs.sound.1 ▸ hs.sound.2 _ _ _ hc
  add hs _ hnames _ := by
    refine ⟨trivial, hs.setArray ?_⟩
    rintro rfl
    refine hs.dummy.addClients fun hj hy => ?_
    obtain ⟨hfield, hother⟩ := hown rfl hj hy
    exact ⟨hfield, fun x hx => hother x (hnames x hx)⟩
  guarStore _ _ := trivial
  storeI hs hc := hs.setClient hc
  storeJ hs hc := hs.setClient hc

end Guards

/-- Nothing that the node is known by is a name of the dummy host. -/
def Kube.NotLocal (k : Kube) (nodeID : Str) : Prop := ∀ c, k.Identity nodeID c → ¬IsLocalHost c

theorem Kube.NotLocal.names {k : Kube} (h : k.NotLocal nodeID) (hc : namesRealNode k nodeID c) :
    ¬IsLocalHost c := by
  have hreal : nodeID ≠ dummyHostNodeID := by
    rintro rfl
    exact h _ ⟨_, parseNodeID_dummyHostNodeID, .inl rfl⟩ (.inl rfl)
  exact h c (hc hreal).identity

namespace Controller

variable {svc : Service} {cluster z : Str} {i : Int} {k : Kube} {d : Driver} {m : Nat}
  {F : Faults DriverCall Err Driver}

theorem networkIdentifier_leavesDummy (ignore : Bool) (h : name = cluster → j ≠ i) :
    uses (DriverCall.LeavesDummy cluster i z) (addExportClientNetworkIdentifier name j y dummyHostNodeID
      ignore IsiService.addExportClientByIDWithZone) := by
  have hadd (client : Str) (b : Bool) : uses (DriverCall.LeavesDummy cluster i z) (onCluster name
      (IsiService.addExportClientByIDWithZone j y client b)) :=
    onCluster_uses (IsiService.rename_uses fun hc hj => absurd hj (h hc))
  unfold addExportClientNetworkIdentifier
  refine uses_bind (uses_ofExcept _) fun n => ?_
  cases ignore with
  | true =>
    refine uses_attempt_bind (hadd _ _) fun r => ?_
    split <;> trivial
  | false =>
    refine uses_bind ((uses_op _).2 trivial) fun current => uses_attempt_bind (hadd _ _) fun r => ?_
    split
    · exact (uses_op _).2 rfl
    refine uses_attempt_bind (hadd _ _) fun r => ?_
    split
    · exact (uses_op _).2 rfl
    · trivial

theorem allowDummyHost_leavesDummy (cfg : ClusterConfig) (h : remote = cluster → j ≠ i) :
    uses (DriverCall.LeavesDummy cluster i z) (allowDummyHost remote cfg j y n) := by
  have hread {α : Type} {q : IsiM α} (hq : uses Call.IsRead q) :
      uses (DriverCall.LeavesDummy cluster i z) (onCluster remote q) :=
    onCluster_uses (uses_mono hq fun c hc => fun _ => (read_keepsExports c hc).leavesDummy)
  induction n with
  | zero => trivial
  | succ n ih =>
    refine uses_attempt_bind (hread ((uses_op _).2 trivial)) fun r => ?_
    rcases r with e | _ | e
    · exact ih
    · exact ih
    refine uses_bind (hread (IsiService.isHostAlreadyAdded_uses (fun _ hc => hc) _)) fun added => ?_
    cases added with
    | true => trivial
    | false => exact uses_attempt_bind (networkIdentifier_leavesDummy _ h) fun _ => trivial

theorem exportVolume_plain (isiPath volName y description : Str) :
    IsiService.exportVolumeWithZoneAndXprtsec isiPath volName y description [] =
      request (.exportVolume (getPathForVolume isiPath volName) y description []) := rfl

theorem createRemoteVolume_guards (req : CreateRemoteVolumeRequest) (hd : d.Guards cluster i z k) :
    wp (driver m) F (createRemoteVolume svc req) (fun _ t => t.Guards cluster i z k) d := by
  refine createRemoteVolume_wp guards_quiet id (fun {_ remote _} _ _ volName isiPath _ y _ _ ht => ?_) hd
  refine remoteExport_wp guards_quiet id (fun {u quotaID} hu => ?_) ht
  rw [exportVolume_plain, wp_onCluster, request, wp_op]
  constructor
  · refine ⟨fun _ h => (by cases h), ?_⟩
    rintro _ ⟨⟩
    have hmade := hu.serve (m := m) (c := .array remote (.exportVolume (getPathForVolume isiPath volName) y
      (getQuotaIDWithCSITag quotaID) [])) fun _ => trivial
    refine ⟨fun _ => hmade, guards_wp (allowDummyHost_leavesDummy _ ?_) hmade⟩
    rintro rfl
    have hused := hu.dummy.used
    omega
  · intro e _
    rw [Driver.setArray_self]
    exact ⟨fun _ _ => hu, fun _ h => by cases h⟩

theorem authorize_guards {p : Publication} (hnode : k.NotLocal p.nodeID)
    (hmode : p.mode ≠ .multiNodeReaderOnly) (hroot : p.rootClientEnabled = false)
    (hips : ∀ ip ∈ p.exportIPs, k.Names p.nodeID ip) (hd : d.Guards cluster i z k) :
    wp (driver m) F (p.authorize svc) (fun _ t => t.Guards cluster i z k) d := by
  have hadding : p.Adds .alone p.nodeID
      (clientField p.rootClientEnabled false p.isROVolumeFromSnapshot) (namesRealNode k p.nodeID)
      (fun t => t.Guards cluster i z k) (fun t => t.Guards cluster i z k) :=
    guards_adding _ _ _ _ _ fun _ _ _ => ⟨by simp [hroot, clientField], fun c hc => hnode.names hc⟩
  refine wp_mono (rwp_alone.1 (Publication.authorize_rwp (I := fun t => t.Guards cluster i z k)
    (J := fun t => t.Guards cluster i z k) (fun h hs => h ▸ hs) (fun _ => trivial) (fun h hs => h ▸ hs)
    (fun _ _ {t} ht => ?_) (fun hreader => absurd hreader hmode) hd)) fun r t ht => by cases r <;> exact ht
  refine Publication.addWriter_rwp ?_ hadding (fun h => by simp [hroot] at h) (fun _ _ hs => hs)
    (fun ip hip _ => hips ip hip)
    (fun _ n hn => ⟨fun _ => ⟨n, hn, .inl rfl⟩, fun _ => ⟨n, hn, .inr (.inl rfl)⟩⟩) ht
  by_cases hown : p.clusterName = cluster ∧ p.exportID = i ∧ p.accessZone = z
  · obtain ⟨rfl, rfl, rfl⟩ := hown
    refine .inl fun t ht => ?_
    unfold Driver.hostAdded
    cases he : t.findExport p.clusterName p.exportID p.accessZone with
    | none => rfl
    | some e =>
      rw [parseNodeID_dummyHostNodeID]
      exact (ht.dummy.first e he).hasHost
  · have hnames : ∀ c, namesRealNode k dummyHostNodeID c := fun c h => absurd rfl h
    exact .inr ⟨_, guards_adding _ _ _ _ _ fun hc hj hy => absurd ⟨hc, hj, hy⟩ hown,
      fun ip _ => hnames ip, fun _ => ⟨hnames _, hnames _⟩⟩

theorem controllerPublishVolume_guards (req : ControllerPublishVolumeRequest)
    (hnode : k.NotLocal req.nodeID) (hmode : publishAccessMode svc req ≠ .ok .multiNodeReaderOnly)
    (hroot : (parseBool (req.volumeContext.get "RootClientEnabled")).getD false = false)
    (hd : d.Guards cluster i z k) :
    wp (driver m) F (controllerPublishVolume svc req) (fun _ t => t.Guards cluster i z k) d := by
  refine controllerPublishVolume_wp (fun ht => ht.sameButLocks ⟨rfl, rfl, rfl⟩) id
    (fun ht => hd.sameButLocks ht) (fun p _ _ _ _ ht _ => hd.sameButLocks ht)
    fun p hfor hips hslow t ht => ?_
  obtain ⟨n, hn⟩ := hfor.parsed
  refine authorize_guards (hfor.node ▸ hnode) (fun hreader => hmode (hreader ▸ hfor.mode))
    (hfor.root.trans hroot) (fun ip hip => ?_) (hd.sameButLocks ht)
  rw [hips, hd.sound.1] at hip
  rw [hfor.node]
  exact ⟨n, hn, .inr (.inr (exportIPs_subset svc k req hip))⟩

theorem removeOrDelete_guards {remove : IsiM Unit} (hremove : uses (Call.LeavesDummy i z) remove)
    (hd : d.Guards cluster i z k) : wp (driver m) F (removeOrDelete svc name v volumeID shown remove)
      (fun _ t => t.Guards cluster i z k) d := by
  have hdelete : uses (Call.LeavesDummy i z) (deleteVolume svc volumeID) :=
    deleteVolume_uses (fun c hc => (read_keepsExports c hc).leavesDummy)
      (fun c hc => by cases c <;> first | exact hc.elim | trivial) svc volumeID
  refine wp_seq (M := fun _ t => t.Guards cluster i z k) ((wp_attempt _).2 (guards_onCluster hremove hd))
    (fun _ _ ht => ht) fun r t ht => ?_
  cases r with
  | ok _ => exact ht
  | error e =>
    dsimp only
    split
    · exact guards_onCluster hdelete ht
    · exact ht

theorem removeExportClients_leavesDummy (hnames : ∀ c ∈ names, ¬IsLocalHost c) (j : Int) (y : Str)
    (ignore : Bool) :
    uses (Call.LeavesDummy i z) (IsiService.removeExportClients j y names ignore) := by
  refine uses_ask_bind (fun _ _ => hnames) fun r => ?_
  split
  · trivial
  · split <;> trivial

theorem removeNode_guards {req : ControllerUnpublishVolumeRequest} (hnode : k.NotLocal req.nodeID)
    (hd : d.Guards cluster i z k) : wp (driver m) F (removeNode svc req v name cfg azNetwork)
      (fun _ t => t.Guards cluster i z k) d := by
  have hlocal {n : NodeID} (hn : parseNodeID req.nodeID = .ok n) :
      ∀ c ∈ [n.ip, n.name, n.fqdn], ¬IsLocalHost c := by
    intro c hc
    refine hnode c ⟨n, hn, ?_⟩
    simp only [List.mem_cons, List.not_mem_nil, or_false] at hc
    tauto
  have hid {t : Driver} (ht : t.Guards cluster i z k) : wp (driver m) F (removeOrDelete svc name v
      req.volumeID (sprintf ["client ", req.nodeID]) (IsiService.removeExportClientByIDWithZone
        v.exportID v.accessZone req.nodeID cfg.ignoreUnresolvableHosts))
      (fun _ t => t.Guards cluster i z k) t :=
    removeOrDelete_guards (uses_bind_of (uses_ofExcept _) (yields_ofExcept _) fun n hn =>
      removeExportClients_leavesDummy (hlocal hn) _ _ _) ht
  -- the addresses are those of the labels, which name the node as well
  have hips {t : Driver} (ht : t.Guards cluster i z k) {select : List Str → List Str}
      (hsub : select (k.labelsOf req.nodeID) ⊆ labelIPs (k.labelsOf req.nodeID)) {noMatch : Str}
      {f : Except Err (List Str) → DriverM Unit} (hfail : ∀ e {u}, u.Guards cluster i z k →
        wp (driver m) F (f (.error e)) (fun _ t => t.Guards cluster i z k) u)
      (hok : ∀ ips, f (.ok ips) = removeOrDelete svc name v req.volumeID
        (sprintf ["clients ", fmtList ips]) (IsiService.removeExportClientByIPsWithZone v.exportID
          v.accessZone ips cfg.ignoreUnresolvableHosts)) :
      wp (driver m) F (attempt (getIpsFromLabels req.nodeID select noMatch) >>= f)
        (fun _ t => t.Guards cluster i z k) t := by
    rw [wp_bind, wp_attempt]
    refine wp_mono (rwp_alone.1 (guards_reading.getIpsFromLabels req.nodeID select noMatch ht))
      fun r u hu => ?_
    rw [andThen_ok]
    cases r with
    | error e => exact hfail e hu.1
    | ok ips =>
      obtain ⟨rfl, hne⟩ := hu.2 ips rfl
      rw [hok]
      refine removeOrDelete_guards (removeExportClients_leavesDummy (fun c hc => ?_) _ _ _) hu.1
      cases hn : parseNodeID req.nodeID with
      | ok n => exact hnode c ⟨n, hn, .inr (.inr (.inr (hsub hc)))⟩
      | error e =>
        have hno := hsub hc
        simp [Kube.labelsOf, hn, labelIPs] at hno
  unfold removeNode
  dsimp only
  split
  · exact hips hd (fun _ h => List.mem_of_mem_filter h) (fun e {u} hu => hu) fun _ => rfl
  split
  · exact hd
  split
  · exact hips hd (fun _ h => List.mem_of_mem_filter h) (fun e {u} hu => hid hu) fun _ => rfl
  · exact hid hd

theorem controllerUnpublishVolume_guards (req : ControllerUnpublishVolumeRequest)
    (hnode : k.NotLocal req.nodeID) (hd : d.Guards cluster i z k) :
    wp (driver m) F (controllerUnpublishVolume svc req) (fun _ t => t.Guards cluster i z k) d := by
  have hreads {t : Driver} (ht : t.Guards cluster i z k) {α : Type} {q : DriverM α}
      (hq : uses DriverCall.IsRead q) :
      wp (driver m) F q (fun _ t => t.Guards cluster i z k) t :=
    rwp_alone.1 (guards_reading.rwp hq ht)
  unfold controllerUnpublishVolume
  split
  · exact hd
  split
  · exact hd
  next v hv =>
  have hpv : uses DriverCall.IsRead (tryStep (.getPersistentVolume v.volName)) :=
    ⟨trivial, fun _ => trivial⟩
  refine wp_seq (M := fun _ t => t.Guards cluster i z k) (hreads hd hpv) (fun _ _ ht => ht)
    fun pv t ht => ?_
  unfold unpublish
  cases svc.getIsilonConfig v.clusterName with
  | error e => exact ht
  | ok x =>
    obtain ⟨name, cfg⟩ := x
    rw [ofExcept_ok, ret_bind]
    refine wp_seq (M := fun _ t => t.Guards cluster i z k) ((wp_attempt _).2
      (guards_quiet (autoProbe_uses trivial cfg) ht)) (fun _ _ hu => hu) fun r u hu => ?_
    cases r with
    | error e => exact hu
    | ok _ =>
      dsimp only
      split
      · exact removeNode_guards hnode hu
      split
      · exact hu
      split
      · refine withLock_wp (fun {l} => ?_) (fun hw => hw.sameButLocks ⟨rfl, rfl, rfl⟩) hu id
        have hlocked := hu.sameButLocks (t := u.setLock v.muKey l) ⟨rfl, rfl, rfl⟩
        refine wp_seq (M := fun _ t => t.Guards cluster i z k) ((wp_attempt _).2
          (hreads hlocked hasOther_uses)) (fun _ _ hw => hw) fun r w hw => ?_
        split
        · exact removeNode_guards hnode hw
        · exact hw
      · exact removeNode_guards hnode hu

structure ExportsKept (d t : Driver) : Prop where
  kube : t.kube = d.kube
  clients : t.clients = d.clients
  exports : ∀ c, (t.arrays c).exports = (d.arrays c).exports

theorem exportsKept_quiet (h : uses Call.KeepsExports q) (ht : ExportsKept d t) :
    wp (driver m) F (onCluster c q) (fun _ u => ExportsKept d u) t := by
  refine wp_onCluster.2 (wp_mono (keepsExports_wp h) fun r s hs => ⟨ht.kube, ht.clients, fun x => ?_⟩)
  by_cases hx : x = c
  · subst hx
    rw [Driver.setArray_arrays_self, hs, ht.exports]
  · have hsame : (t.setArray c s).arrays x = t.arrays x := Function.update_of_ne hx _ _
    rw [hsame, ht.exports]

theorem ExportsKept.find (h : ExportsKept d t) (c : Str) (j : Int) (y : Str) :
    t.findExport c j y = d.findExport c j y := by
  simp only [Driver.findExport, OneFS.exportById, h.exports]

theorem addExport_keepsDummy (s : OneFS) (y description xprtsec : Str) (hne : path ≠ []) :
    ((s.addExport path y description xprtsec).addClients .clients ((s.exports.next : Int) + 1) y
      ["localhost"]).KeepsDummy ((s.exports.next : Int) + 1) y := by
  refine ⟨Int.le_refl _, fun e he => ?_⟩
  rw [OneFS.exportById_addClients_self, exportById_addExport] at he
  cases he
  exact ⟨⟨path, [], rfl, hne⟩, ⟨[], rfl, by simp⟩, rfl, rfl, rfl⟩

theorem addExport_new {s : OneFS} (hnone : s.exportById j y = none)
    (he : (s.addExport path x description xprtsec).exportById j y = some e) :
    j = (s.exports.next : Int) + 1 ∧ y = x := by
  obtain ⟨hmem, rfl, rfl⟩ := OneFS.exportById_some he
  rcases OneFS.mem_addExport.1 hmem with hold | rfl
  · rw [OneFS.exportById_of_mem hold] at hnone
    cases hnone
  · exact ⟨rfl, rfl⟩

theorem run_allowDummyHost (he : d.findExport remote j y = some e)
    (hhost : e.hasHost ⟨"localhost", "localhost", "127.0.0.1"⟩ = false)
    (hmap : d.clients remote dummyHostNodeID = none) (hresolve : cfg.ignoreUnresolvableHosts = false) :
    (run (driver m) (allowDummyHost remote cfg j y (n + 1)) d).2 =
      (d.addClients remote .clients j y ["localhost"]).setClient remote dummyHostNodeID "localhost" := by
  have hread : run (driver m) (onCluster remote (request (.getExportByID j y))) d =
      (.ok (some e), d) := by
    apply run_onCluster_kept
    rw [Driver.findExport] at he
    simp only [request, run_op, array_act, OneFS.serve, OneFS.reply, he, Option.map_some]
  have hadded : d.hostAdded remote j y dummyHostNodeID = false := by
    simp only [Driver.hostAdded, he, parseNodeID_dummyHostNodeID, hhost]
  have hadd : run (driver m) (onCluster remote
      (IsiService.addExportClientByIDWithZone j y "localhost" false)) d =
      (.ok (), d.addClients remote .clients j y ["localhost"]) := Publication.run_addTo he false _
  have hname : (d.clients remote dummyHostNodeID).getD "localhost" = ("localhost" : Str) := by
    rw [hmap]
    rfl
  simp only [allowDummyHost, run_bind, run_attempt, hread, run_isHostAlreadyAdded, hadded,
    addExportClientNetworkIdentifier, parseNodeID_dummyHostNodeID, hresolve, ofExcept_ok, run_ret,
    Bool.not_false, if_true, Bool.false_eq_true, if_false, run_op, driver_act, Driver.serve, hname, hadd]
  rfl

theorem allowDummyHost_new {u : Driver} (hu : ExportsKept d u)
    (hempty : ∀ cluster nodeID, d.clients cluster nodeID = none)
    (hresolve : cfg.ignoreUnresolvableHosts = false) (hne : path ≠ [])
    (hnone : d.findExport remote j y = none)
    (hsome : ((run (driver m) (allowDummyHost remote cfg (((u.arrays remote).exports.next : Int) + 1) x
      (n + 1)) (u.setArray remote ((u.arrays remote).addExport path x description []))).2.findExport
        remote j y).isSome = true) :
    (run (driver m) (allowDummyHost remote cfg (((u.arrays remote).exports.next : Int) + 1) x (n + 1))
      (u.setArray remote ((u.arrays remote).addExport path x description []))).2.Guards
        remote j y d.kube := by
  have hmade : ((u.arrays remote).addExport path x description []).exportById
      (((u.arrays remote).exports.next : Int) + 1) x =
        some ⟨(u.arrays remote).exports.next, [path], x, description, [], [], [], [], []⟩ :=
    exportById_addExport
  rw [← hu.find] at hnone
  rw [run_allowDummyHost (d := u.setArray remote ((u.arrays remote).addExport path x description []))
    (by rwa [Driver.findExport, Driver.setArray_arrays_self]) rfl
    (by rw [Driver.setArray, hu.clients, hempty]) hresolve] at hsome ⊢
  obtain ⟨e, he⟩ := Option.isSome_iff_exists.1 hsome
  have harray : (((u.setArray remote ((u.arrays remote).addExport path x description [])).addClients
      remote .clients (((u.arrays remote).exports.next : Int) + 1) x ["localhost"]).setClient remote
        dummyHostNodeID "localhost").arrays remote = ((u.arrays remote).addExport path x description
          []).addClients .clients (((u.arrays remote).exports.next : Int) + 1) x ["localhost"] := by
    simp [Driver.addClients, Driver.setClient]
  rw [Driver.findExport, harray, OneFS.exportById_addClients, Option.map_eq_some_iff] at he
  obtain ⟨x, hx, -⟩ := he
  obtain ⟨rfl, rfl⟩ := addExport_new hnone hx
  refine ⟨⟨hu.kube, fun c nodeID client hc => ?_⟩, ?_⟩
  · rcases Driver.setClient_clients hc with hold | ⟨-, rfl, rfl⟩
    · have hempty' : u.clients c nodeID = none := by rw [hu.clients, hempty]
      cases hempty'.symm.trans hold
    · exact fun h => absurd rfl h
  · rw [harray]
    exact addExport_keepsDummy _ _ _ _ hne

/-- A remote export that is new after a `CreateRemoteVolume` without failing calls lets in
`localhost`, and nobody else. -/
theorem createRemoteVolume_new {req : CreateRemoteVolumeRequest} {system remote : Str}
    {cfg : ClusterConfig} (hempty : ∀ cluster nodeID, d.clients cluster nodeID = none)
    (hsystem : req.parameters.get? (svc.withRP "remoteSystem") = some system)
    (hremote : svc.getIsilonConfig system = .ok (remote, cfg))
    (hresolve : cfg.ignoreUnresolvableHosts = false) :
    wp (driver m) .none (createRemoteVolume svc req) (fun _ t => ∀ j y,
      d.findExport remote j y = none → (t.findExport remote j y).isSome →
        t.Guards remote j y d.kube) d := by
  have hsame {t : Driver} (ht : ExportsKept d t) (j : Int) (y : Str)
      (hnone : d.findExport remote j y = none) (hsome : (t.findExport remote j y).isSome) :
      t.Guards remote j y d.kube := by
    rw [ht.find, hnone] at hsome
    cases hsome
  refine createRemoteVolume_wp (fun hq => exportsKept_quiet hq) hsame
    (fun {system' remote' cfg'} hsystem' hremote' volName isiPath exportPath z size t ht => ?_)
    ⟨rfl, rfl, fun _ => rfl⟩
  obtain rfl : system' = system := Option.some.inj (hsystem'.symm.trans hsystem)
  obtain ⟨rfl, rfl⟩ := Prod.mk.inj (Except.ok.inj (hremote'.symm.trans hremote))
  refine remoteExport_wp (fun hq => exportsKept_quiet hq) hsame (fun {u quotaID} hu => ?_) ht
  rw [exportVolume_plain, wp_onCluster, request, wp_op]
  refine ⟨⟨fun _ h => (by cases h), ?_⟩, fun _ h => h.elim⟩
  rintro _ ⟨⟩
  refine ⟨fun h => by omega, wp_none_iff_run.2 fun j y hnone hsome => ?_⟩
  exact allowDummyHost_new hu hempty hresolve (getPathForVolume_ne_nil _ _) hnone hsome

inductive ExportRequest
  | createRemoteVolume (req : CreateRemoteVolumeRequest)
  | publishVolume (req : ControllerPublishVolumeRequest)
  | unpublishVolume (req : ControllerUnpublishVolumeRequest)

def ExportRequest.code (svc : Service) : ExportRequest → DriverM Unit
  | createRemoteVolume req => do let _ ← Controller.createRemoteVolume svc req
  | publishVolume req => controllerPublishVolume svc req
  | unpublishVolume req => controllerUnpublishVolume svc req

/-- The volume is published to be written to and without root access, and the names of the node that
is let in or kept out are none of the dummy host. -/
def ExportRequest.Plain (svc : Service) (k : Kube) : ExportRequest → Prop
  | createRemoteVolume _ => True
  | publishVolume req => k.NotLocal req.nodeID ∧
    publishAccessMode svc req ≠ .ok .multiNodeReaderOnly ∧
    (parseBool (req.volumeContext.get "RootClientEnabled")).getD false = false
  | unpublishVolume req => k.NotLocal req.nodeID

/-- Requests one after the other, each with any outcome and failures, of any volumes and under any
settings. -/
def ExportRuns : Driver → Driver → Prop :=
  Relation.ReflTransGen fun d t => ∃ svc i req r, ExportRequest.Plain svc d.kube req ∧
    Outcome (driver i) .any (req.code svc) d r t

theorem ExportRequest.code_guards (req : ExportRequest) (hd : d.Guards cluster i z k)
    (hplain : req.Plain svc k) :
    wp (driver m) F (req.code svc) (fun _ t => t.Guards cluster i z k) d := by
  cases req with
  | createRemoteVolume req =>
    exact wp_seq (createRemoteVolume_guards req hd) (fun _ _ ht => ht) fun _ _ ht => ht
  | publishVolume req => exact controllerPublishVolume_guards req hplain.1 hplain.2.1 hplain.2.2 hd
  | unpublishVolume req => exact controllerUnpublishVolume_guards req hplain hd

theorem ExportRuns.guards (h : ExportRuns d t) (hd : d.Guards cluster i z k) :
    t.Guards cluster i z k := by
  induction h with
  | refl => exact hd
  | tail _ hstep ih =>
    obtain ⟨svc, m, req, r, hplain, ho⟩ := hstep
    rw [ih.sound.1] at hplain
    exact wp_iff_outcome.1 (req.code_guards ih hplain) _ _ ho

theorem run_deleteLocalExport (volName : Str) (hexport : s.exportById i z = some e)
    (hpath : e.paths = exportPath :: more) (hne : exportPath ≠ []) :
    (run array (deleteLocalExport volName i z) s).2 =
      if e.clients = [("localhost" : Str)] then s.dropExport i z else s := by
  have hisi : ∃ isiPath, getIsiPathFromExportPath exportPath = some isiPath := by
    rw [getIsiPathFromExportPath, if_neg hne]
    split
    · exact ⟨_, rfl⟩
    · exact ⟨_, rfl⟩
  obtain ⟨isiPath, hisi⟩ := hisi
  have hexists : ∃ b, run array (IsiService.isVolumeExistent isiPath volName) s = (.ok b, s) := by
    refine ⟨(OneFS.serve (.getVolume isiPath volName) s).1.isOk, ?_⟩
    have hread : (OneFS.serve (.getVolume isiPath volName) s).2 = s :=
      Call.IsRead.serve (c := .getVolume isiPath volName) trivial s
    simp [IsiService.isVolumeExistent, run_bind, array_act, hread]
  obtain ⟨b, hexists⟩ := hexists
  simp only [deleteLocalExport, run_bind, run_ask, array_act, OneFS.serve, OneFS.reply, hexport,
    Option.map_some, hpath, hisi, hexists]
  split
  · next honly =>
    simp [IsiService.unexportByIDWithZone, IsiService.rename, run_bind, array_act, OneFS.serve,
      OneFS.change, hexport]
  · rfl

def replicatedPair : Driver where
  arrays cluster :=
    let s := OneFS.fresh.mkdir "/ifs/data/g/vol1"
    if cluster = ("c1" : Str) then
      { (s.addExport "/ifs/data/g/vol1" "System" [] []) with policies := ["g"] }
    else s
  kube := ⟨[], [], []⟩
  clients _ _ := none
  locks _ := ⟨none, []⟩

def createSecond : CreateRemoteVolumeRequest :=
  ⟨"vol1=_=_=1=_=_=System=_=_=c1", [(oneCluster.withRP "remoteSystem", "c2")]⟩

def remoteCreated (ignoreUnresolvableHosts : Bool) : Driver :=
  (run (driver 0) (createRemoteVolume (twoClusters ignoreUnresolvableHosts) createSecond)
    replicatedPair).2

def publishReader : ControllerPublishVolumeRequest where
  volumeID := "vol1=_=_=1=_=_=System=_=_=c2"
  nodeID := "n1=#=#=n1.lab=#=#=10.0.0.5"
  volumeCapability := some ⟨some .mount, some .multiNodeReaderOnly⟩
  volumeContext := [("Path", "/ifs/data/g/vol1")]

def publishWriter : ControllerPublishVolumeRequest :=
  { publishReader with volumeCapability := some ⟨some .mount, some .multiNodeMultiWriter⟩ }

def unpublishWriter : ControllerUnpublishVolumeRequest := ⟨publishReader.volumeID, publishReader.nodeID⟩

end Controller

end CsiPowerscale
