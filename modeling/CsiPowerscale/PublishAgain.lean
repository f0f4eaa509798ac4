import CsiPowerscale.PublishRuns

namespace CsiPowerscale
open GoLib Effects Effects.Prog Driver

def Driver.Lists (d : Driver) (cluster : Str) (i : Int) (z : Str) (field : ClientField) (c : Str) :
    Prop :=
  ∃ e, d.findExport cluster i z = some e ∧ c ∈ e.clientList field

def Driver.SameClients (d t : Driver) (cluster : Str) (i : Int) (z : Str) : Prop :=
  ∀ field c, t.Lists cluster i z field c ↔ d.Lists cluster i z field c

theorem Driver.lists_of_found {d : Driver} (h : d.findExport cluster i z = some e) :
    d.Lists cluster i z field c ↔ c ∈ e.clientList field := by
  constructor
  · rintro ⟨x, hx, hc⟩
    rw [h] at hx
    cases hx
    exact hc
  · intro hc
    exact ⟨e, h, hc⟩

theorem Driver.SameButLocks.findExport {d t : Driver} (h : t.SameButLocks d) (cluster : Str) (i : Int)
    (z : Str) : t.findExport cluster i z = d.findExport cluster i z := by
  rw [Driver.findExport, Driver.findExport, h.arrays]

namespace Controller

variable {svc : Service} {req : ControllerPublishVolumeRequest} {d t u : Driver} {v : VolumeID}
  {n : NodeID} {name : Str} {cfg : ClusterConfig} {mode : AccessMode} {i j : Nat} {p : Publication}

def publicationFor (svc : Service) (k : Kube) (req : ControllerPublishVolumeRequest) (v : VolumeID)
    (name : Str) (cfg : ClusterConfig) (mode : AccessMode) : Publication where
  clusterName := name
  exportID := v.exportID
  accessZone := v.accessZone
  nodeID := req.nodeID
  exportIPs := exportIPs svc k req
  mode := mode
  rootClientEnabled := (parseBool (req.volumeContext.get "RootClientEnabled")).getD false
  isROVolumeFromSnapshot := isROVolumeFromSnapshot (req.volumeContext.get "Path") v.accessZone
  directoryBacked := NodeService.isDirectoryBackedContext req.volumeID req.volumeContext
  ignoreUnresolvableHosts := cfg.ignoreUnresolvableHosts

theorem Publication.For.eq (h : Publication.For svc req p)
    (hv : parseNormalizedVolumeID req.volumeID = .ok v)
    (hcfg : svc.getIsilonConfig v.clusterName = .ok (name, cfg))
    (hmode : publishAccessMode svc req = .ok mode)
    (hips : p.exportIPs = Controller.exportIPs svc k req) :
    p = publicationFor svc k req v name cfg mode := by
  obtain ⟨w, c, hw, hc, hi, hz, hig⟩ := h.volume
  obtain rfl := Except.ok.inj (hv.symm.trans hw)
  obtain ⟨hname, rfl⟩ := Prod.mk.inj (Except.ok.inj (hcfg.symm.trans hc))
  have hm := Except.ok.inj (h.mode.symm.trans hmode)
  have hnode := h.node
  have hroot := h.root
  have hro := h.snapshot
  have hdir := h.directory
  cases p
  simp only at hname hi hz hig hm hnode hroot hro hdir hips
  subst hname hi hz hig hm hnode hroot hro hdir hips
  rfl

namespace Publication

structure AddsNothing (p : Publication) (svc : Service) (d : Driver) : Prop where
  reader : p.mode = .multiNodeReaderOnly → ∀ c ∈ p.clientNames svc d p.nodeID,
    d.Lists p.clusterName p.exportID p.accessZone
      (clientField p.rootClientEnabled true p.isROVolumeFromSnapshot) c
  writer : p.mode ≠ .multiNodeReaderOnly → ∀ c ∈ p.clientNames svc d p.nodeID,
    d.Lists p.clusterName p.exportID p.accessZone
      (clientField p.rootClientEnabled false p.isROVolumeFromSnapshot) c
  root : p.mode ≠ .multiNodeReaderOnly → p.rootClientEnabled = true →
    ∀ c ∈ p.clientNames svc d p.nodeID, d.Lists p.clusterName p.exportID p.accessZone .clients c
  dummy : p.mode ≠ .multiNodeReaderOnly →
    d.hostAdded p.clusterName p.exportID p.accessZone dummyHostNodeID = false →
    ∀ c ∈ p.clientNames svc d dummyHostNodeID,
      d.Lists p.clusterName p.exportID p.accessZone .clients c

theorem mem_written : c ∈ (p.written svc d e).clientList f ↔ c ∈ e.clientList f ∨
    d.hostAdded p.clusterName p.exportID p.accessZone dummyHostNodeID = false ∧ f = .clients ∧
      c ∈ p.clientNames svc d dummyHostNodeID ∨
    f = clientField p.rootClientEnabled false p.isROVolumeFromSnapshot ∧
      c ∈ p.clientNames svc d p.nodeID ∨
    p.rootClientEnabled = true ∧ f = .clients ∧ c ∈ p.clientNames svc d p.nodeID := by
  unfold written
  cases d.hostAdded p.clusterName p.exportID p.accessZone dummyHostNodeID <;>
    cases p.rootClientEnabled <;> simp [Export.mem_addTo, or_assoc]

theorem authorized_same_iff {e : Export}
    (he : d.findExport p.clusterName p.exportID p.accessZone = some e) :
    (∀ f c, c ∈ (p.authorized svc d e).clientList f ↔ c ∈ e.clientList f) ↔ p.AddsNothing svc d := by
  constructor
  · intro h
    have hkeep {f : ClientField} {c : Str} (hc : c ∈ (p.authorized svc d e).clientList f) :
        d.Lists p.clusterName p.exportID p.accessZone f c :=
      (lists_of_found he).2 ((h f c).1 hc)
    refine ⟨fun hm c hc => hkeep ?_, fun hm c hc => hkeep ?_, fun hm hr c hc => hkeep ?_,
      fun hm hd c hc => hkeep ?_⟩
    · rw [authorized, if_pos hm]
      exact Export.mem_addTo.2 (.inr ⟨rfl, hc⟩)
    · rw [authorized, if_neg hm]
      exact mem_written.2 (.inr (.inr (.inl ⟨rfl, hc⟩)))
    · rw [authorized, if_neg hm]
      exact mem_written.2 (.inr (.inr (.inr ⟨hr, rfl, hc⟩)))
    · rw [authorized, if_neg hm]
      exact mem_written.2 (.inr (.inl ⟨hd, rfl, hc⟩))
  · intro h f c
    by_cases hm : p.mode = .multiNodeReaderOnly
    · rw [authorized, if_pos hm, Export.mem_addTo]
      refine ⟨?_, .inl⟩
      rintro (hc | ⟨rfl, hc⟩)
      · exact hc
      · exact (lists_of_found he).1 (h.reader hm c hc)
    · rw [authorized, if_neg hm, mem_written]
      refine ⟨?_, .inl⟩
      rintro (hc | ⟨hd, rfl, hc⟩ | ⟨rfl, hc⟩ | ⟨hr, rfl, hc⟩)
      · exact hc
      · exact (lists_of_found he).1 (h.dummy hm hd c hc)
      · exact (lists_of_found he).1 (h.writer hm c hc)
      · exact (lists_of_found he).1 (h.root hm hr c hc)

/-- A publication that succeeds once more and changes nothing: the node is below its limit, and the
export has the node of a directory-backed volume, or all that the publication adds and no other
clients in the way. -/
def Repeatable (p : Publication) (svc : Service) (d : Driver) (n : NodeID) : Prop :=
  BelowLimit svc (exportsOfNode svc (d.arrays p.clusterName) n.ip p.exportIPs p.accessZone) ∧
    (p.directoryBacked = true ∧ d.hostAdded p.clusterName p.exportID p.accessZone p.nodeID = true ∨
      ¬p.Refused d ∧ p.AddsNothing svc d)

end Publication

structure OnlyClients (t d : Driver) : Prop where
  arrays : ∀ c, (t.arrays c).SameButClients (d.arrays c)
  kube : t.kube = d.kube

theorem onlyClients_adding (nodeID : Str) (field : ClientField) {H : Driver → Prop}
    (hadd : ∀ {s : Driver} {names}, (s.findExport p.clusterName p.exportID p.accessZone).isSome →
      H (s.addClients p.clusterName field p.exportID p.accessZone names))
    (hstore : ∀ {s c}, H s → H (s.setClient p.clusterName nodeID c)) :
    p.Adds .alone nodeID field (fun _ => True) (fun t => OnlyClients t d ∧ True)
      (fun t => OnlyClients t d ∧ H t) where
  relyI h hs := h ▸ hs
  relyJ h hs := h ▸ hs
  weaken hs := ⟨hs.1, trivial⟩
  read _ := trivial
  load _ _ := trivial
  add {s names} hs _ _ hx := by
    refine ⟨trivial, ⟨fun c => ?_, hs.1.kube⟩, hadd hx⟩
    by_cases hc : c = p.clusterName
    · subst hc
      rw [Driver.addClients, setArray_arrays_self]
      exact (hs.1.arrays _).addClients _ _ _ _
    · simp only [Driver.addClients, setArray, Function.update_of_ne hc]
      exact hs.1.arrays c
  guarStore _ _ := trivial
  storeI hs _ := ⟨⟨hs.1.arrays, hs.1.kube⟩, trivial⟩
  storeJ hs _ := ⟨⟨hs.1.arrays, hs.1.kube⟩, hstore hs.2⟩

theorem isSome_addClients (h : (d.findExport cluster k z).isSome) :
    ((d.addClients cluster field k z names).findExport cluster k z).isSome := by
  rw [findExport_addClients, Option.isSome_map]
  exact h

theorem publish_leaves (hF : ∀ s c k z e, ¬F s (.array c (.getExportByID k z)) e)
    (ho : Outcome (driver i) F (publish svc p) d (.ok ()) t) : OnlyClients t d ∧
      (p.directoryBacked = true ∧ t.hostAdded p.clusterName p.exportID p.accessZone p.nodeID = true ∨
        p.Supported ∧ (t.findExport p.clusterName p.exportID p.accessZone).isSome) := by
  refine wp_iff_outcome.1 (publish_wp (I := fun s => OnlyClients s d)
    (Q := fun r s => r = .ok () → OnlyClients s d ∧
      (p.directoryBacked = true ∧ s.hostAdded p.clusterName p.exportID p.accessZone p.nodeID = true ∨
        p.Supported ∧ (s.findExport p.clusterName p.exportID p.accessZone).isSome))
    (fun h => ⟨h.arrays, h.kube⟩) (fun h hr => ?_) ?_ ?_ (fun _ h => by cases h)
    (fun _ h => by cases h) ⟨fun c => .refl _, rfl⟩) _ _ ho rfl
  · obtain ⟨hs, hend⟩ := h hr
    exact ⟨⟨hs.arrays, hs.kube⟩, hend⟩
  · rintro hdir s hs hhost -
    rcases hhost with hhost | ⟨e, he⟩
    · exact ⟨hs, .inl ⟨hdir, hhost⟩⟩
    · exact (hF _ _ _ _ _ he).elim
  intro s hs _
  let H : Driver → Prop := fun s => (s.findExport p.clusterName p.exportID p.accessZone).isSome
  have hone (field : ClientField) : p.Adds .alone p.nodeID field (fun _ => True)
      (fun t => OnlyClients t d ∧ True) (fun t => OnlyClients t d ∧ H t) :=
    onlyClients_adding p.nodeID field isSome_addClients fun h => h
  have hdummy : p.Adds .alone dummyHostNodeID .clients (fun _ => True)
      (fun t => OnlyClients t d ∧ True) (fun t => OnlyClients t d ∧ True) :=
    onlyClients_adding dummyHostNodeID .clients (fun _ => trivial) fun _ => trivial
  have hauth : wp (driver i) F (p.authorize svc)
      (Adding.Added (fun t => OnlyClients t d ∧ True) fun t => OnlyClients t d ∧ H t) s :=
    rwp_alone.1 (Publication.authorize_rwp (fun h hs => h ▸ hs) (fun _ => trivial)
      (fun h hs => h ▸ hs) (fun _ _ _ hx => Publication.addWriter_rwp (.inr ⟨_, hdummy, fun _ _ => trivial,
        fun _ => ⟨trivial, trivial⟩⟩) (hone _) (fun _ => (hone _).later) (fun _ _ h => h)
        (fun _ _ => trivial) (fun _ _ _ => ⟨trivial, trivial⟩) hx)
      (fun _ _ hx => (hone _).addClient_rwp (getExportClientAdders_addsTo _ _ _)
        (fun _ _ => trivial) (fun _ _ _ => ⟨trivial, trivial⟩) hx)
      ⟨hs, trivial⟩)
  refine wp_mono (wp_and hauth (wp_of_yields Publication.authorize_yields)) fun r x hx hr => ?_
  subst hr
  exact ⟨hx.1.1, .inr ⟨hx.2 () rfl, hx.1.2⟩⟩

theorem run_withLock (key : Str) (body : DriverM Unit) : ∃ x, x.SameButLocks d ∧
    (run (driver i) (withLock key body) d).1 = (run (driver i) body x).1 ∧
    (run (driver i) (withLock key body) d).2.SameButLocks (run (driver i) body x).2 := by
  refine ⟨d.setLock key { d.locks key with writer := some i }, ⟨rfl, rfl, rfl⟩, ?_⟩
  simp only [withLock, run_bind, run_op, driver_act, Driver.serve, run_attempt]
  cases (run (driver i) body (d.setLock key { d.locks key with writer := some i })).1 with
  | ok a => exact ⟨rfl, rfl, rfl, rfl⟩
  | error e => exact ⟨rfl, rfl, rfl, rfl⟩

theorem run_publish (svc : Service) (p : Publication) (d : Driver) :
    (p.directoryBacked = true ∧ d.hostAdded p.clusterName p.exportID p.accessZone p.nodeID = true →
      (run (driver i) (publish svc p) d).1 = .ok () ∧
        (run (driver i) (publish svc p) d).2.SameButLocks d) ∧
    (¬(p.directoryBacked = true ∧
        d.hostAdded p.clusterName p.exportID p.accessZone p.nodeID = true) →
      ∃ x, x.SameButLocks d ∧
        (run (driver i) (publish svc p) d).1 = (run (driver i) (p.authorize svc) x).1 ∧
        (run (driver i) (publish svc p) d).2.SameButLocks (run (driver i) (p.authorize svc) x).2) := by
  unfold publish
  cases hdir : p.directoryBacked with
  | false =>
    refine ⟨fun h => ?_, fun _ => ⟨d, ⟨rfl, rfl, rfl⟩, rfl, rfl, rfl, rfl⟩⟩
    cases h.1
  | true =>
    let y := d.setLock p.muKey { d.locks p.muKey with readers := i :: (d.locks p.muKey).readers }
    have hy : y.hostAdded p.clusterName p.exportID p.accessZone p.nodeID =
        d.hostAdded p.clusterName p.exportID p.accessZone p.nodeID := rfl
    simp only [if_true, run_bind, run_op, driver_act, Driver.serve, run_isHostAlreadyAdded, true_and]
    change ((d.hostAdded _ _ _ _ = true) → _) ∧ _
    rw [← hy]
    cases y.hostAdded p.clusterName p.exportID p.accessZone p.nodeID with
    | true => exact ⟨fun _ => ⟨rfl, rfl, rfl, rfl⟩, fun h => absurd rfl h⟩
    | false =>
      refine ⟨fun h => (Bool.false_ne_true h).elim, fun _ => ?_⟩
      obtain ⟨x, hx, hr, hs⟩ := run_withLock (i := i) (d := y.setLock p.muKey
        { y.locks p.muKey with readers := (y.locks p.muKey).readers.erase i }) p.muKey
        (p.authorize svc)
      exact ⟨x, ⟨hx.arrays, hx.kube, hx.clients⟩, hr, hs⟩

namespace Publication

theorem clientNames_sameButLocks (h : t.SameButLocks d) (nodeID : Str) :
    p.clientNames svc t nodeID = p.clientNames svc d nodeID :=
  clientNames_congr (fun _ _ _ _ _ => by rw [h.clients]) nodeID

theorem authorized_sameButLocks (h : t.SameButLocks d) (e : Export) :
    p.authorized svc t e = p.authorized svc d e := by
  have hhost : t.hostAdded p.clusterName p.exportID p.accessZone dummyHostNodeID =
      d.hostAdded p.clusterName p.exportID p.accessZone dummyHostNodeID := by
    simp only [hostAdded, h.findExport]
  simp only [authorized, written, clientNames_sameButLocks h, hhost]

theorem refused_sameButLocks (h : t.SameButLocks d) : p.Refused t ↔ p.Refused d := by
  simp only [Refused, Driver.otherClients, h.findExport]

theorem publish_same_iff (hn : parseNodeID p.nodeID = .ok n) (h : p.directoryBacked = true ∧
        d.hostAdded p.clusterName p.exportID p.accessZone p.nodeID = true ∨
      p.Supported ∧ (d.findExport p.clusterName p.exportID p.accessZone).isSome) :
    ((run (driver i) (publish svc p) d).1 = .ok () ∧
      d.SameClients (run (driver i) (publish svc p) d).2 p.clusterName p.exportID p.accessZone) ↔
    (p.directoryBacked = true ∧ d.hostAdded p.clusterName p.exportID p.accessZone p.nodeID = true ∨
      ¬p.Refused d ∧ p.AddsNothing svc d) := by
  obtain ⟨hfast, hslow⟩ := run_publish (i := i) svc p d
  by_cases hdir : p.directoryBacked = true ∧
      d.hostAdded p.clusterName p.exportID p.accessZone p.nodeID = true
  · obtain ⟨hok, hsame⟩ := hfast hdir
    refine iff_of_true ⟨hok, fun f c => ?_⟩ (.inl hdir)
    simp only [Driver.Lists, hsame.findExport]
  obtain ⟨hsup, hsome⟩ := h.resolve_left hdir
  obtain ⟨x, hx, hr, hs⟩ := hslow hdir
  obtain ⟨e, he⟩ := Option.isSome_iff_exists.1 hsome
  obtain ⟨hyes, hno⟩ := run_authorize (i := i) svc ((hx.findExport _ _ _).trans he) hn hsup
  rw [refused_sameButLocks hx] at hyes hno
  rw [hr, or_iff_right hdir]
  by_cases href : p.Refused d
  · obtain ⟨err, herr⟩ := hyes href
    rw [herr]
    exact iff_of_false (fun h => by cases h.1) fun h => h.1 href
  obtain ⟨y, hy, hadded⟩ := hno href
  have hfound : (run (driver i) (publish svc p) d).2.findExport p.clusterName p.exportID
      p.accessZone = some (p.authorized svc d e) := by
    rw [hs.findExport, hy, hadded.found, authorized_sameButLocks hx]
  rw [hy]
  simp only [true_and, href, not_false_eq_true, ← authorized_same_iff he]
  refine forall₂_congr fun f c => ?_
  rw [lists_of_found hfound, lists_of_found he]

end Publication

/-- A request that has succeeded succeeds again and leaves the client lists alone exactly when its
publication is `Repeatable`. In between, the labels may come in another order and the node map may
change. -/
theorem controllerPublishVolume_again_iff
    (hfirst : Outcome (driver i) exportsReadable (controllerPublishVolume svc req) d (.ok ()) t)
    (harrays : u.arrays = t.arrays) (hlabels : u.kube.SameLabels t.kube)
    (hv : parseNormalizedVolumeID req.volumeID = .ok v)
    (hcfg : svc.getIsilonConfig v.clusterName = .ok (name, cfg))
    (hmode : publishAccessMode svc req = .ok mode) (hn : parseNodeID req.nodeID = .ok n) :
    ((run (driver j) (controllerPublishVolume svc req) u).1 = .ok () ∧
      u.SameClients (run (driver j) (controllerPublishVolume svc req) u).2 name v.exportID
        v.accessZone) ↔
    (publicationFor svc u.kube req v name cfg mode).Repeatable svc u n := by
  obtain ⟨p, x, hcheck, hpub⟩ := hfirst.of_bind
  have hstrict := hcheck.run_of_strict checkPublish_strict fun _ c _ h => h
  obtain ⟨rfl, hp⟩ := wp_run (rwp_alone.1 ((Reading.still d).checkPublish (F := .none) rfl)) hstrict
  obtain ⟨hfor, hips⟩ := hp p rfl
  obtain ⟨honly, hend⟩ := publish_leaves (fun _ c k z _ h => h c k z rfl) hpub
  have hq : { p with exportIPs := exportIPs svc u.kube req } =
      publicationFor svc u.kube req v name cfg mode :=
    Publication.For.eq (p := { p with exportIPs := exportIPs svc u.kube req })
      ⟨hfor.volume, hfor.node, hfor.parsed, hfor.mode, hfor.root, hfor.snapshot, hfor.directory⟩
      hv hcfg hmode rfl
  obtain ⟨hbelow, habove⟩ := run_checkPublish_same (u := u) (j := j)
    (fun c => harrays ▸ honly.arrays c) (honly.kube ▸ hlabels) hn hstrict
  have hfield : p.clusterName = name ∧ p.exportID = v.exportID ∧ p.accessZone = v.accessZone ∧
      p.nodeID = req.nodeID := by
    have h := hq
    exact ⟨congrArg Publication.clusterName h, congrArg Publication.exportID h,
      congrArg Publication.accessZone h, hfor.node⟩
  obtain ⟨hname, hi, hz, hnode⟩ := hfield
  rw [hq] at hbelow
  rw [hname, hz] at hbelow habove
  unfold controllerPublishVolume Publication.Repeatable
  by_cases hlimit : BelowLimit svc (exportsOfNode svc (u.arrays name) n.ip
      (exportIPs svc u.kube req) v.accessZone)
  · rw [run_bind, hbelow hlimit]
    dsimp only
    refine Iff.trans (Publication.publish_same_iff hn ?_) (and_iff_right hlimit).symm
    have hhost : u.hostAdded name v.exportID v.accessZone req.nodeID =
        t.hostAdded name v.exportID v.accessZone req.nodeID := by
      simp only [hostAdded, Driver.findExport, harrays]
    rw [← hq]
    dsimp only
    rw [hname, hi, hz, hnode] at hend ⊢
    rw [hhost, Driver.findExport, harrays]
    exact hend
  · obtain ⟨e, he⟩ := habove hlimit
    rw [run_bind, he]
    exact iff_of_false (fun h => by cases h.1) fun h => hlimit h.1

theorem controllerPublishVolume_again_plain :
    let t := (run (driver 0) (controllerPublishVolume oneCluster (publishPlain .multiNodeMultiWriter))
      started).2
    let again := run (driver 0)
      (controllerPublishVolume oneCluster (publishPlain .multiNodeMultiWriter)) t
    again.1 = .ok () ∧ t.SameClients again.2 "c1" 1 "System" := by
  intro t again
  have hok : (run (driver 0) (controllerPublishVolume oneCluster (publishPlain .multiNodeMultiWriter))
      started).1 = .ok () := by decide
  have hrun := run_outcome (F := exportsReadable) (w := driver 0)
    (controllerPublishVolume oneCluster (publishPlain .multiNodeMultiWriter)) started
  rw [hok] at hrun
  refine (controllerPublishVolume_again_iff (u := t) (v := ⟨"vol2", 1, "System", "c1"⟩)
    (n := ⟨"n1", "n1.lab", "10.0.0.5"⟩) hrun rfl (fun name => ?_) (by decide) rfl rfl (by decide)).2
    ⟨.inl (by decide), .inl ⟨by decide, by decide⟩⟩
  cases t.kube.labels.lookup name with
  | none => exact .none
  | some l => exact .some (.refl l)

def withVolume : Driver :=
  { started with arrays := fun _ => (run array (createVolume oneCluster (newVolume "vol1")) .fresh).2 }

def publishSingle : ControllerPublishVolumeRequest where
  volumeID := "vol1=_=_=1=_=_=System=_=_=c1"
  nodeID := "n1=#=#=n1.lab=#=#=10.0.0.5"
  volumeCapability := some ⟨some .mount, some .singleNodeWriter⟩
  volumeContext := [("Path", "/ifs/data/vol1"), ("AzNetwork", "10.1.0.0/16")]

/-- The address from the labels, which the first call has added, is another client for the second. -/
theorem controllerPublishVolume_again_refused :
    let first := run (driver 0) (controllerPublishVolume oneCluster publishSingle) withVolume
    first.1 = .ok () ∧
    (run (driver 0) (controllerPublishVolume oneCluster publishSingle) first.2).1 =
      .error (NodeService.reqError oneCluster .notFound ["export ", "1", " in access zone ", "System",
        " already has other clients added to it, and the access mode is ", "SINGLE_NODE_WRITER",
        ", thus the request fails"]) := by
  decide

end Controller

end CsiPowerscale
