import CsiPowerscale.RemoteVolume

namespace CsiPowerscale
open GoLib Effects Effects.Prog Kube

def Kube.Names (k : Kube) (nodeID client : Str) : Prop :=
  ∃ n, parseNodeID nodeID = .ok n ∧
    (client = n.fqdn ∨ client = n.ip ∨ client ∈ labelIPs (k.labelsOf nodeID))

def Kube.Identity (k : Kube) (nodeID client : Str) : Prop :=
  ∃ n, parseNodeID nodeID = .ok n ∧ (client = n.name ∨ client = n.fqdn ∨ client = n.ip ∨
    client ∈ labelIPs (k.labelsOf nodeID))

theorem Kube.Names.identity {k : Kube} (h : k.Names nodeID client) : k.Identity nodeID client := by
  obtain ⟨n, hn, h⟩ := h
  exact ⟨n, hn, .inr h⟩

def IsLocalHost (client : Str) : Prop := client = ("localhost" : Str) ∨ client = ("127.0.0.1" : Str)

structure Kube.Suits (k : Kube) (nodeID client : Str) : Prop where
  names : k.Names nodeID client
  dummy : nodeID = dummyHostNodeID → IsLocalHost client

abbrev EntryRule := Kube → Str → Str → Prop

def namesRealNode : EntryRule := fun k nodeID client => nodeID ≠ dummyHostNodeID → k.Names nodeID client

def Driver.MapFollows (S : EntryRule) (d : Driver) : Prop :=
  ∀ cluster nodeID client, d.clients cluster nodeID = some client → S d.kube nodeID client

def Driver.MapSound (d : Driver) : Prop := d.MapFollows Suits

theorem Driver.MapFollows.congr {d t : Driver} (h : d.MapFollows S) (hk : t.kube = d.kube)
    (hc : t.clients = d.clients) : t.MapFollows S := by
  intro cluster nodeID client hx
  rw [hk]
  exact h cluster nodeID client (hc ▸ hx)

theorem Driver.MapFollows.store {d : Driver} (h : d.MapFollows S) (hc : S d.kube nodeID client) :
    (d.setClient cluster nodeID client).MapFollows S := by
  intro c n x hx
  rcases setClient_clients hx with hx | ⟨-, rfl, rfl⟩
  · exact h c n x hx
  · exact hc

namespace Kube

variable {k : Kube}

theorem suits_of_parse (h : parseNodeID nodeID = .ok n) :
    k.Suits nodeID n.fqdn ∧ k.Suits nodeID n.ip := by
  have hd : nodeID = dummyHostNodeID → n = ⟨"localhost", "localhost", "127.0.0.1"⟩ := by
    rintro rfl
    rw [parseNodeID_dummyHostNodeID] at h
    exact (Except.ok.inj h).symm
  refine ⟨⟨⟨n, h, .inl rfl⟩, fun hn => ?_⟩, ⟨⟨n, h, .inr (.inl rfl)⟩, fun hn => ?_⟩⟩
  · rw [hd hn]
    exact .inl rfl
  · rw [hd hn]
    exact .inr rfl

theorem suits_dummy {client : Str} (h : IsLocalHost client) : k.Suits dummyHostNodeID client := by
  obtain ⟨hfqdn, hip⟩ := suits_of_parse (k := k) parseNodeID_dummyHostNodeID
  rcases h with rfl | rfl
  · exact hfqdn
  · exact hip

end Kube

def DriverCall.KeepsMap : DriverCall → Prop
  | storeClient .. => False
  | _ => True

theorem DriverCall.KeepsMap.serve (h : c.KeepsMap) (i : Nat) (d : Driver) :
    ((driver i).act c d).2.kube = d.kube ∧ ((driver i).act c d).2.clients = d.clients := by
  cases c with
  | getNodeLabels | getPersistentVolume =>
    rw [driver_act, Driver.serve, d.lookUp_state]
    exact ⟨rfl, rfl⟩
  | storeClient => exact h.elim
  | _ => exact ⟨rfl, rfl⟩

def Sound (S : EntryRule) (k : Kube) (t : Driver) : Prop := t.kube = k ∧ t.MapFollows S

section Sound

variable {S : EntryRule} {k : Kube} {i : Nat} {F : Faults DriverCall Err Driver} {d : Driver}

theorem keepsMap_wp (h : uses DriverCall.KeepsMap p) (hd : Sound S k d) :
    wp (driver i) F p (fun _ t => Sound S k t) d := by
  refine wp_of_uses h (fun c t hc ht => ?_) hd
  obtain ⟨hk, hm⟩ := hc.serve i t
  exact ⟨hk.trans ht.1, ht.2.congr hk hm⟩

theorem array_keepsMap (cluster : Str) : uses DriverCall.KeepsMap (onCluster cluster p) := by
  apply onCluster_uses
  induction p with
  | ret a => trivial
  | fail e => trivial
  | call c k ih => exact ⟨trivial, ih⟩

theorem sound_adding (cluster nodeID : Str) (field : ClientField) (i : Int) (z : Str) {H : Driver → Prop}
    (hadd : ∀ {t names}, H t → H (t.addClients cluster field i z names))
    (hstore : ∀ {t c}, H t → H (t.setClient cluster nodeID c)) :
    Adding .alone cluster nodeID field i z (S k nodeID) (fun t => Sound S k t ∧ H t)
      (fun t => Sound S k t ∧ H t) where
  relyI h hs := h ▸ hs
  relyJ h hs := h ▸ hs
  weaken := id
  read _ := trivial
  load hs hc := hs.1.1 ▸ hs.1.2 _ _ _ hc
  add hs _ _ _ := ⟨trivial, ⟨hs.1.1, hs.1.2.congr rfl rfl⟩, hadd hs.2⟩
  guarStore _ _ := trivial
  storeI hs hc := ⟨⟨hs.1.1, hs.1.2.store (hs.1.1 ▸ hc)⟩, hstore hs.2⟩
  storeJ hs hc := ⟨⟨hs.1.1, hs.1.2.store (hs.1.1 ▸ hc)⟩, hstore hs.2⟩

theorem addTo_hasHost {e : Export} (h : e.hasHost n = true) (field : ClientField)
    (names : List Str) : (e.addTo field names).hasHost n = true := by
  rw [Export.hasHost_iff] at h ⊢
  simp only [Export.hasClient_addTo]
  tauto

theorem Driver.hostAdded_addClients {i : Int} (h : d.hostAdded cluster i z nodeID = true) :
    (d.addClients cluster field i z names).hostAdded cluster i z nodeID = true := by
  unfold hostAdded findExport addClients at *
  rw [setArray_arrays_self, OneFS.exportById_addClients_self]
  cases hx : (d.arrays cluster).exportById i z with
  | none => rfl
  | some e =>
    cases hn : parseNodeID nodeID with
    | error err => rfl
    | ok n =>
      rw [hx, hn] at h
      exact addTo_hasHost h field names

end Sound

def Call.AddsLocalHost : Call → Prop
  | addExportClients _ _ _ clients _ => ∀ client ∈ clients, IsLocalHost client
  | _ => True

theorem Call.recorded_eq {c : Call} (h : c.recorded b = some client) :
    ∃ field i z, c = .addExportClients field i z [client] false := by
  unfold recorded at h
  split at h
  · cases b with
    | true =>
      cases h
      exact ⟨_, _, _, rfl⟩
    | false => cases h
  · cases h

theorem Service.getIsilonConfig_name {svc : Service} (h : svc.getIsilonConfig x = .ok (n, cfg)) :
    cfg.clusterName = n := by
  simp only [getIsilonConfig] at h
  generalize (if x = [] then svc.defaultIsiClusterName else x) = name at h
  split at h
  · cases h
  split at h
  · next hf =>
    cases h
    simpa using List.find?_some hf
  · cases h

theorem Service.getIsilonConfig_withClient (svc : Service) (cluster x : Str) (client : Option Str) :
    (svc.withClient cluster client).getIsilonConfig x = (svc.getIsilonConfig x).map fun c =>
      (c.1, if c.2.clusterName = cluster then { c.2 with currentClient := client } else c.2) := by
  have hname : ∀ name : Str, ((fun c : ClusterConfig => decide (c.clusterName = name)) ∘ fun cfg =>
      if cfg.clusterName = cluster then { cfg with currentClient := client } else cfg) =
        fun c => decide (c.clusterName = name) := by
    intro name
    funext c
    dsimp only [Function.comp]
    split <;> rfl
  obtain ⟨name, hx⟩ : ∃ name, name = if x = [] then svc.defaultIsiClusterName else x := ⟨_, rfl⟩
  simp only [getIsilonConfig, withClient, ← hx]
  split
  · rfl
  · rw [List.find?_map, hname]
    cases List.find? _ svc.isilonClusters <;> rfl

namespace Controller

variable {svc : Service} {S : EntryRule} {k : Kube} {i : Nat} {F : Faults DriverCall Err Driver}
  {d : Driver}

theorem recordReply_wp {rec : Option Str} (hrec : ∀ client, rec = some client → IsLocalHost client)
    (hq : ∀ {t : Driver}, Sound Suits k t → wp (driver i) F q (fun _ t => Sound Suits k
      t) t) (hd : Sound Suits k d) :
    wp (driver i) F (match rec with
      | some client => .call (.storeClient cluster dummyHostNodeID client) fun _ => q
      | none => q) (fun _ t => Sound Suits k t) d := by
  cases rec with
  | none => exact hq hd
  | some client =>
    have hlocal := hrec client rfl
    exact ⟨hq ⟨hd.1, hd.2.store (suits_dummy hlocal)⟩, fun e _ => hq hd⟩

theorem recordClients_wp (h : uses Call.AddsLocalHost q) (hd : Sound Suits k d) :
    wp (driver i) F (recordClients cluster q) (fun _ t => Sound Suits k t) d := by
  induction q generalizing d with
  | ret a => exact hd
  | fail e => exact hd
  | call c f ih =>
    have hlocal : ∀ b client, c.recorded b = some client → IsLocalHost client := by
      intro b client hc
      obtain ⟨field, j, z, rfl⟩ := Call.recorded_eq hc
      exact h.1 client (by simp)
    exact ⟨recordReply_wp (hlocal _) (ih _ (h.2 _)) ⟨hd.1, hd.2.congr rfl rfl⟩,
      fun e _ => recordReply_wp (hlocal _) (ih _ (h.2 _)) hd⟩

theorem createVolume_addsLocalHost (req : CreateVolumeRequest) (hd : d.MapSound) :
    uses Call.AddsLocalHost (createVolume (svc.withClient ((req.clusterName svc).getD [])
      (d.clients ((req.clusterName svc).getD []) dummyHostNodeID)) req) := by
  refine createVolume_uses ?_ (fun p hp j client b hc => ?_) (fun _ _ _ => trivial)
    fun _ _ _ => ⟨fun _ _ => trivial, fun _ => trivial⟩
  · intro c hc _
    cases c <;> first | exact (hc trivial).elim | trivial
  rintro x hx
  replace hp := hp.1
  obtain rfl := List.mem_singleton.1 hx
  rcases hc with rfl | rfl | hc
  · exact .inl rfl
  · exact .inr rfl
  -- the entry of the node map for the dummy host
  have hconfig := hp.config
  rw [Service.getIsilonConfig_withClient] at hconfig
  cases hg : svc.getIsilonConfig (req.parameters.get "ClusterName") with
  | error e =>
    rw [hg] at hconfig
    cases hconfig
  | ok c =>
    rw [hg] at hconfig
    obtain ⟨n, cfg⟩ := c
    have hname := Service.getIsilonConfig_name hg
    have hcluster : (req.clusterName svc).getD [] = n := by
      simp [CreateVolumeRequest.clusterName, hg, Except.toOption]
    simp only [Except.map, hname, hcluster, if_true, Except.ok.injEq, Prod.mk.injEq] at hconfig
    rw [← hconfig.2] at hc
    exact (hd n dummyHostNodeID x hc).dummy rfl

theorem createVolumeRecorded_wp (req : CreateVolumeRequest) (hd : Sound Suits k d) :
    wp (driver i) F (createVolumeRecorded svc req) (fun _ t => Sound Suits k t) d := by
  unfold createVolumeRecorded
  dsimp only
  rw [wp_bind, wp_op]
  refine ⟨?_, fun e _ => hd⟩
  simp only [driver_act, Driver.serve, andThen_ok]
  exact recordClients_wp (createVolume_addsLocalHost req hd.2) hd

theorem sound_bind (hq : wp (driver i) F q (fun _ t => Sound S k t) d)
    (hf : ∀ a {t}, Sound S k t → wp (driver i) F (f a) (fun _ t => Sound S k t) t) :
    wp (driver i) F (q >>= f) (fun _ t => Sound S k t) d :=
  wp_seq hq (fun _ _ ht => ht) fun a _ ht => hf a ht

theorem sound_attempt (hq : wp (driver i) F q (fun _ t => Sound S k t) d) :
    wp (driver i) F q.attempt (fun _ t => Sound S k t) d :=
  (wp_attempt _).2 hq

theorem sound_onCluster (cluster : Str) (hd : Sound S k d) :
    wp (driver i) F (onCluster cluster q) (fun _ t => Sound S k t) d :=
  keepsMap_wp (array_keepsMap cluster) hd

theorem addsTo_clients : AddsTo ⟨IsiService.addExportClientByIDWithZone,
    IsiService.addExportClientsByIDWithZone⟩ .clients :=
  getExportClientAdders_addsTo false false false

theorem allowDummyHost_wp (remote : Str) (cfg : ClusterConfig) (j : Int) (z : Str)
    (hd : Sound Suits k d) :
    wp (driver i) F (allowDummyHost remote cfg j z n) (fun _ t => Sound Suits k t) d := by
  induction n generalizing d with
  | zero => exact hd
  | succ n ih =>
    refine sound_bind (sound_attempt (sound_onCluster remote hd)) fun r t ht => ?_
    rcases r with e | _ | e
    · exact ih ht
    · exact ih ht
    refine sound_bind (sound_onCluster remote ht) fun added u hu => ?_
    cases added with
    | true => exact hu
    | false =>
      have hadding := sound_adding (S := Suits) (k := k) remote dummyHostNodeID .clients j z
        (H := fun _ => True) (fun _ => trivial) (fun _ => trivial)
      refine sound_bind (sound_attempt ?_) fun _ v hv => hv
      refine wp_mono (rwp_alone.1 (hadding.networkIdentifier_rwp addsTo_clients ?_ _ ⟨hu, trivial⟩))
        fun r v hv => by cases r <;> exact hv.1
      intro m hm
      exact suits_of_parse hm

theorem remoteQuota_keepsExports : uses Call.KeepsExports (remoteQuota svc exportPath size) := by
  refine uses_ask_bind trivial fun r => ?_
  cases r with
  | ok quota => trivial
  | error e =>
    dsimp only
    split
    · refine uses_attempt_bind (IsiService.createQuota_uses fun _ => trivial) fun r => ?_
      split <;> trivial
    · trivial

theorem readRemoteSource_keepsExports :
    uses Call.KeepsExports (readRemoteSource cfg v params) := by
  refine uses_ask_bind trivial fun r => ?_
  rcases r with e | _ | e
  · trivial
  · trivial
  dsimp only
  split
  · trivial
  split
  · trivial
  refine uses_ask_bind trivial fun r => ?_
  split
  · trivial
  refine uses_ask_bind trivial fun r => ?_
  split
  · trivial
  · split <;> trivial

section Remote

variable {I J : Driver → Prop} {req : CreateRemoteVolumeRequest}
  (hquiet : ∀ {α : Type} {cluster : Str} {q : IsiM α} {t : Driver}, uses Call.KeepsExports q → I t →
    wp (driver i) F (onCluster cluster q) (fun _ u => I u) t) (hend : ∀ {t}, I t → J t)
include hquiet hend

/-- `I` holds until the remote export is made, `J` once the dummy host has been let in. -/
theorem remoteExport_wp (hmade : ∀ {t quotaID}, I t → wp (driver i) F (onCluster remote
        (IsiService.exportVolumeWithZoneAndXprtsec isiPath volName z (getQuotaIDWithCSITag quotaID) []))
      (fun r u => (∀ e, r = .error e → J u) ∧ ∀ j, r = .ok j → (j = 0 → J u) ∧
        wp (driver i) F (allowDummyHost remote cfg j z maxRetries) (fun _ v => J v) u) t)
    (hd : I d) : wp (driver i) F (remoteExport svc remote cfg volName isiPath exportPath z size)
      (fun _ t => J t) d := by
  refine wp_seq (M := fun _ t => I t) ((wp_attempt _).2 (hquiet ((uses_op _).2 trivial) hd))
    (fun _ _ ht => hend ht) fun r t ht => ?_
  rcases r with e | _ | e
  · exact hend ht
  · refine wp_seq (hquiet remoteQuota_keepsExports ht) (fun _ _ hu => hend hu) fun quotaID u hu => ?_
    rw [wp_bind, wp_attempt]
    refine wp_mono (hmade hu) fun r v hv => ?_
    rw [andThen_ok]
    cases r with
    | error e => exact hv.1 e rfl
    | ok j =>
      obtain ⟨hzero, hallow⟩ := hv.2 j rfl
      dsimp only
      split
      · next h => exact hzero h
      · exact wp_seq hallow (fun _ _ hx => hx) fun _ _ hx => hx
  · exact hend ht

theorem createRemoteVolume_wp (hexport : ∀ {system remote cfg},
      req.parameters.get? (svc.withRP "remoteSystem") = some system →
      svc.getIsilonConfig system = .ok (remote, cfg) → ∀ volName isiPath exportPath z size {t}, I t →
      wp (driver i) F (remoteExport svc remote cfg volName isiPath exportPath z size)
        (fun _ u => J u) t)
    (hd : I d) : wp (driver i) F (createRemoteVolume svc req) (fun _ t => J t) d := by
  refine wp_seq (remoteSites_wp (fun _ c _ => hquiet (autoProbe_uses trivial c)) hd)
    (fun _ _ ht => hend ht.1) fun x t ht => ?_
  obtain ⟨-, -, system, hsystem, hremote⟩ := ht.2 x rfl
  refine wp_seq (hquiet readRemoteSource_keepsExports ht.1) (fun _ _ hu => hend hu) fun y u hu => ?_
  exact wp_seq (hexport hsystem hremote _ _ _ _ _ hu) (fun _ _ hv => hv) fun _ _ hv => hv

end Remote

theorem createRemoteVolume_sound (req : CreateRemoteVolumeRequest) (hd : Sound Suits k d) :
    wp (driver i) F (createRemoteVolume svc req) (fun _ t => Sound Suits k t) d := by
  refine createRemoteVolume_wp (fun _ => sound_onCluster _) id (fun _ _ _ _ _ _ _ _ ht => ?_) hd
  refine remoteExport_wp (fun _ => sound_onCluster _) id (fun hu => ?_) ht
  refine wp_mono (sound_onCluster _ hu) fun r v hv => ⟨fun _ _ => hv, fun j _ => ⟨fun _ => hv, ?_⟩⟩
  exact allowDummyHost_wp _ _ _ _ hv

/-- The request publishes without addresses from labels; or, for a real node, only to read, for a
volume that shows a snapshot, to an export that has the dummy host already, or without adding
anything. -/
def KeepsNodeMap (svc : Service) (d : Driver) (req : ControllerPublishVolumeRequest) : Prop :=
  exportIPs svc d.kube req = [] ∨ req.nodeID ≠ dummyHostNodeID ∧
    (publishAccessMode svc req = .ok .multiNodeReaderOnly ∨
      ∀ v name cfg, parseNormalizedVolumeID req.volumeID = .ok v →
        svc.getIsilonConfig v.clusterName = .ok (name, cfg) →
        isROVolumeFromSnapshot (req.volumeContext.get "Path") v.accessZone = true ∨
        d.hostAdded name v.exportID v.accessZone dummyHostNodeID = true ∨
        NodeService.isDirectoryBackedContext req.volumeID req.volumeContext = true ∧
          d.hostAdded name v.exportID v.accessZone req.nodeID = true)

theorem authorize_sound {p : Publication} (hd : Sound S k d)
    (hips : ∀ ip ∈ p.exportIPs, S k p.nodeID ip)
    (hid : ∀ n, parseNodeID p.nodeID = .ok n → S k p.nodeID n.fqdn ∧ S k p.nodeID n.ip)
    (hlocal : S k dummyHostNodeID "localhost" ∧ S k dummyHostNodeID "127.0.0.1")
    (hdummy : (∀ ip ∈ p.exportIPs, S k dummyHostNodeID ip) ∨ p.mode = .multiNodeReaderOnly ∨
      p.isROVolumeFromSnapshot = true ∨
      d.hostAdded p.clusterName p.exportID p.accessZone dummyHostNodeID = true) :
    wp (driver i) F (p.authorize svc) (fun _ t => Sound S k t) d := by
  -- `H` keeps the dummy host on the export when that is why it is not added again
  let H : Driver → Prop := fun t =>
    d.hostAdded p.clusterName p.exportID p.accessZone dummyHostNodeID = true →
      t.hostAdded p.clusterName p.exportID p.accessZone dummyHostNodeID = true
  have hadding (nodeID : Str) (field : ClientField) : p.Adds .alone nodeID field (S k nodeID)
      (fun t => Sound S k t ∧ H t) (fun t => Sound S k t ∧ H t) :=
    sound_adding p.clusterName nodeID field p.exportID p.accessZone
      (fun ht hx => Driver.hostAdded_addClients (ht hx)) fun ht hx => ht hx
  refine wp_mono (rwp_alone.1 (Publication.authorize_rwp (I := fun t => Sound S k t ∧ H t)
    (J := fun t => Sound S k t ∧ H t) (fun h hs => h ▸ hs) (fun _ => trivial) (fun h hs => h ▸ hs)
    ?_ ?_ ⟨hd, id⟩)) fun r t ht => by cases r <;> exact ht.1
  · intro hm hro t ht
    refine Publication.addWriter_rwp ?_ (hadding _ _) (fun _ => hadding _ _) (fun _ _ hs => hs) hips
      (fun _ => hid) ht
    rcases hdummy with hall | hmode | hsnapshot | hhost
    · exact .inr ⟨_, hadding _ _, hall, fun _ => hlocal⟩
    · exact absurd hmode hm
    · rw [hro] at hsnapshot
      cases hsnapshot
    · exact .inl fun u hu => hu.2 hhost
  · intro _ t ht
    exact (hadding _ _).addClient_rwp (getExportClientAdders_addsTo _ _ _) hips (fun _ => hid) ht

theorem controllerPublishVolume_wp (hunlock : ∀ {r t key m}, Q r t → Q r (t.setLock key m))
    (hfail : ∀ {r t e}, Q r t → Q (.error e) t)
    (herr : ∀ {t e}, t.SameButLocks d → Q (.error e) t)
    (hfast : ∀ p, Publication.For svc req p → p.exportIPs = exportIPs svc d.kube req →
      p.directoryBacked = true → ∀ {t}, t.SameButLocks d → d.hostAdded p.clusterName p.exportID
      p.accessZone p.nodeID = true ∨ (∃ e, F t (.array p.clusterName (.getExportByID p.exportID
      p.accessZone)) e) → Q (.ok ()) t)
    (hadd : ∀ p, Publication.For svc req p → p.exportIPs = exportIPs svc d.kube req →
      (p.directoryBacked = true → d.hostAdded p.clusterName p.exportID p.accessZone p.nodeID =
      false) → ∀ {t}, t.SameButLocks d → wp (driver i) F (p.authorize svc) Q t) :
    wp (driver i) F (controllerPublishVolume svc req) Q d := by
  refine wp_seq (rwp_alone.1 ((Reading.still d).checkPublish rfl))
    (fun e t ht => herr ⟨by rw [ht.1], by rw [ht.1], by rw [ht.1]⟩) ?_
  rintro p t ⟨rfl, hp⟩
  obtain ⟨hfor, hips⟩ := hp p rfl
  have hhost {u : Driver} (hu : u.SameButLocks t) :
      u.hostAdded p.clusterName p.exportID p.accessZone p.nodeID =
        t.hostAdded p.clusterName p.exportID p.accessZone p.nodeID := by
    simp only [Driver.hostAdded, Driver.findExport, hu.arrays]
  refine publish_wp (I := fun u => u.SameButLocks t) (fun h => ⟨h.arrays, h.kube, h.clients⟩) hunlock
    (fun hdir _ hu hx => hfast p hfor hips hdir hu (by rwa [hhost hu] at hx)) (fun hu hslow => ?_)
    herr hfail ⟨rfl, rfl, rfl⟩
  exact hadd p hfor hips (fun hdir => hhost hu ▸ hslow hdir) hu

theorem sound_sameButLocks (hd : Sound S k d) (ht : t.SameButLocks d) : Sound S k t :=
  ⟨ht.kube.trans hd.1, hd.2.congr ht.kube ht.clients⟩

theorem controllerPublishVolume_sound (hd : Sound Suits k d) (hkeep : KeepsNodeMap svc d req) :
    wp (driver i) F (controllerPublishVolume svc req) (fun _ t => Sound Suits k t) d := by
  refine controllerPublishVolume_wp (fun h => ⟨h.1, h.2.congr rfl rfl⟩) id (sound_sameButLocks hd)
    (fun p _ _ _ _ ht _ => sound_sameButLocks hd ht) fun p hfor hips hslow t ht => ?_
  obtain ⟨v, cfg, hv, hcfg, hi, hz, -⟩ := hfor.volume
  obtain ⟨n, hn⟩ := hfor.parsed
  refine authorize_sound (sound_sameButLocks hd ht) (fun ip hip => ?_) (fun n hn => suits_of_parse hn)
    ⟨suits_dummy (.inl rfl), suits_dummy (.inr rfl)⟩ ?_
  · rw [hips] at hip
    rcases hkeep with hempty | ⟨hreal, -⟩
    · rw [hempty] at hip
      cases hip
    · rw [hfor.node]
      rw [hd.1] at hip
      exact ⟨⟨n, hn, .inr (.inr (exportIPs_subset svc k req hip))⟩, fun h => absurd h hreal⟩
  · have hhost : t.hostAdded p.clusterName p.exportID p.accessZone dummyHostNodeID =
        d.hostAdded p.clusterName v.exportID v.accessZone dummyHostNodeID := by
      simp only [Driver.hostAdded, Driver.findExport, ht.arrays, hi, hz]
    rw [hhost, hfor.snapshot, hz, hips]
    rcases hkeep with hempty | ⟨-, hmode | hrest⟩
    · exact .inl (by simp [hempty])
    · exact .inr (.inl (Except.ok.inj (hfor.mode.symm.trans hmode)))
    rcases hrest v _ cfg hv hcfg with hro | hdummy | ⟨hdir, hlisted⟩
    · exact .inr (.inr (.inl hro))
    · exact .inr (.inr (.inr hdummy))
    · rw [← hfor.node, ← hi, ← hz, hslow (hfor.directory.trans hdir)] at hlisted
      cases hlisted

theorem controllerPublishVolume_named (req : ControllerPublishVolumeRequest)
    (hd : Sound namesRealNode k d) :
    wp (driver i) F (controllerPublishVolume svc req) (fun _ t => Sound namesRealNode k t) d := by
  refine controllerPublishVolume_wp (fun h => ⟨h.1, h.2.congr rfl rfl⟩) id (sound_sameButLocks hd)
    (fun p _ _ _ _ ht _ => sound_sameButLocks hd ht) fun p hfor hips hslow t ht => ?_
  obtain ⟨n, hn⟩ := hfor.parsed
  refine authorize_sound (sound_sameButLocks hd ht) (fun ip hip _ => ?_)
    (fun n hn => ⟨fun _ => ⟨n, hn, .inl rfl⟩, fun _ => ⟨n, hn, .inr (.inl rfl)⟩⟩)
    ⟨fun h => absurd rfl h, fun h => absurd rfl h⟩ (.inl fun ip _ h => absurd rfl h)
  rw [hips, hd.1] at hip
  rw [hfor.node]
  exact ⟨n, hn, .inr (.inr (exportIPs_subset svc k req hip))⟩

inductive MapRequest
  | createVolume (req : CreateVolumeRequest)
  | publishVolume (req : ControllerPublishVolumeRequest)
  | createRemoteVolume (req : CreateRemoteVolumeRequest)

def MapRequest.code (svc : Service) : MapRequest → DriverM Unit
  | createVolume req => do let _ ← createVolumeRecorded svc req
  | publishVolume req => controllerPublishVolume svc req
  | createRemoteVolume req => do let _ ← Controller.createRemoteVolume svc req

def MapRequest.Keeps (svc : Service) (d : Driver) : MapRequest → Prop
  | publishVolume req => KeepsNodeMap svc d req
  | _ => True

/-- Requests one after the other, each with any outcome and failures, that satisfy `ok` in the state
that they find. -/
def MapRuns (svc : Service) (ok : Driver → MapRequest → Prop) : Driver → Driver → Prop :=
  Relation.ReflTransGen fun d t => ∃ i req r, ok d req ∧ Outcome (driver i) .any (req.code svc) d r t

theorem MapRequest.code_sound (req : MapRequest) (hd : Sound Suits k d)
    (h : req.Keeps svc d) : wp (driver i) F (req.code svc) (fun _ t => Sound Suits k t) d := by
  cases req with
  | createVolume req => exact sound_bind (createVolumeRecorded_wp req hd) fun _ _ ht => ht
  | publishVolume req => exact controllerPublishVolume_sound hd h
  | createRemoteVolume req => exact sound_bind (createRemoteVolume_sound req hd) fun _ _ ht => ht

/-- In a run from an empty node map whose publications keep to `KeepsNodeMap`, every entry names its
node, the dummy host is the local host, and `CreateVolume` adds nothing else to a new export. -/
theorem nodeMap_sound {t : Driver} (hempty : ∀ cluster nodeID, d.clients cluster nodeID = none)
    (hrun : MapRuns svc (MapRequest.Keeps svc) d t) : t.MapSound ∧
      ∀ req : CreateVolumeRequest, uses Call.AddsLocalHost (createVolume
        (svc.withClient ((req.clusterName svc).getD [])
          (t.clients ((req.clusterName svc).getD []) dummyHostNodeID)) req) := by
  have hsound : Sound Suits d.kube t := by
    induction hrun with
    | refl =>
      refine ⟨rfl, fun cluster nodeID client hc => ?_⟩
      rw [hempty] at hc
      cases hc
    | tail _ hstep ih =>
      obtain ⟨i, req, r, hok, ho⟩ := hstep
      exact wp_iff_outcome.1 (req.code_sound ih hok) _ _ ho
  exact ⟨hsound.2, fun req => createVolume_addsLocalHost req hsound.2⟩

def sharedArray : OneFS :=
  (OneFS.fresh.mkdir "/ifs/data/shared").addExport "/ifs/data/shared" "System" [] []

def started : Driver where
  arrays _ := sharedArray
  kube := {
    labels := [("n1", [("csi-isilon.dellemc.com/az-10.1.0.0-16-10.1.2.3" : Str)])]
    persistentVolumes := []
    volumeAttachments := [] }
  clients _ _ := none
  locks _ := ⟨none, []⟩

def publishShared : ControllerPublishVolumeRequest where
  volumeID := "vol1=_=_=1=_=_=System=_=_=c1=_=_=directory"
  nodeID := "n1=#=#=n1.lab=#=#=10.0.0.5"
  volumeCapability := some ⟨some .mount, some .multiNodeMultiWriter⟩
  volumeContext := [("Path", "/ifs/data/shared/vol1"), ("AzNetwork", "10.1.0.0/16"),
    ("ProvisioningMode", "directory")]

def createThenPublish : Driver :=
  (run (driver 0) (controllerPublishVolume oneCluster
    { publishShared with
      volumeID := "vol1=_=_=2=_=_=System=_=_=c1"
      volumeCapability := some ⟨some .mount, some .singleNodeWriter⟩
      volumeContext := [("Path", "/ifs/data/vol1"), ("AzNetwork", "10.1.0.0/16")] })
    (run (driver 0) ((MapRequest.createVolume (newVolume "vol1")).code oneCluster) started).2).2

theorem nodeMap_sound_vol1 : createThenPublish.clients "c1" dummyHostNodeID = some "localhost" ∧
    createThenPublish.clients "c1" publishShared.nodeID = some "10.1.2.3" ∧
    createThenPublish.MapSound := by
  have hrun : MapRuns oneCluster (MapRequest.Keeps oneCluster) started createThenPublish := by
    refine .tail (.single ⟨0, .createVolume (newVolume "vol1"), _, trivial, run_outcome _ _⟩)
      ⟨0, .publishVolume _, _, .inr ⟨by decide, .inr ?_⟩, run_outcome _ _⟩
    -- the new export has the dummy host
    rintro v name cfg ⟨⟩ ⟨⟩
    exact .inr (.inl (by decide))
  exact ⟨by decide, by decide, (nodeMap_sound (fun _ _ => rfl) hrun).1⟩

/-- The address of the node is entered for the dummy host, and is what the next new export allows. -/
theorem nodeMap_unsound :
    let t := (run (driver 0) (controllerPublishVolume oneCluster publishShared) started).2
    (run (driver 0) (controllerPublishVolume oneCluster publishShared) started).1 = .ok () ∧
    t.clients "c1" dummyHostNodeID = some "10.1.2.3" ∧ ¬t.MapSound ∧
    ((((run (driver 0) (createVolumeRecorded oneCluster (newVolume "vol2")) t).2.arrays
      "c1").exportById 2 "System").map Export.clients) = some [("10.1.2.3" : Str)] := by
  have hclient : (run (driver 0) (controllerPublishVolume oneCluster publishShared) started).2.clients
      "c1" dummyHostNodeID = some "10.1.2.3" := by decide
  refine ⟨by decide, hclient, fun h => ?_, by decide⟩
  rcases (h _ _ _ hclient).dummy rfl with hx | hx <;> cases hx

end Controller

end CsiPowerscale
