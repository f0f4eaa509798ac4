import CsiPowerscale.NodeMap

namespace CsiPowerscale
open GoLib Effects Effects.Prog Stores IsiService

/-- The node may write to the export, as root if asked for. A client in the read-only list may only
read, whatever other lists have it. -/
structure Export.Grants (e : Export) (k : Kube) (nodeID : Str) (root : Bool) : Prop where
  write : ∃ c, k.Identity nodeID c ∧ (c ∈ e.clients ∨ c ∈ e.readWriteClients ∨ c ∈ e.rootClients)
  notReadOnly : ∀ c, k.Identity nodeID c → c ∉ e.readOnlyClients
  root : root = true → ∃ c, k.Identity nodeID c ∧ c ∈ e.rootClients

def Driver.Grants (d : Driver) (cluster : Str) (i : Int) (z nodeID : Str) (root : Bool) : Prop :=
  ∃ e, d.findExport cluster i z = some e ∧ e.Grants d.kube nodeID root

def Driver.NotReadOnly (d : Driver) (cluster : Str) (i : Int) (z nodeID : Str) : Prop :=
  ∀ e, d.findExport cluster i z = some e → ∀ c, d.kube.Identity nodeID c → c ∉ e.readOnlyClients

namespace Driver

variable {d t : Driver} {cluster z : Str} {i : Int}

def readOnlyClients (d : Driver) (cluster : Str) (i : Int) (z : Str) : Option (List Str) :=
  (d.findExport cluster i z).map Export.readOnlyClients

theorem findExport_addClients : (d.addClients cluster field i z names).findExport cluster i z =
      (d.findExport cluster i z).map fun e => e.addTo field names := by
  simp only [findExport, addClients, setArray_arrays_self, OneFS.exportById_addClients_self]

theorem readOnlyClients_addClients (h : field ≠ .readOnly) :
    (d.addClients cluster field i z names).readOnlyClients cluster i z =
      d.readOnlyClients cluster i z := by
  simp only [readOnlyClients, findExport_addClients, Option.map_map]
  congr 1
  funext e
  cases field <;> first | exact absurd rfl h | rfl

theorem notReadOnly_congr (h : t.readOnlyClients cluster i z = d.readOnlyClients cluster i z)
    (hk : t.kube = d.kube) :
    t.NotReadOnly cluster i z nodeID ↔ d.NotReadOnly cluster i z nodeID := by
  have hiff (u : Driver) : u.NotReadOnly cluster i z nodeID ↔ ∀ l, u.readOnlyClients cluster i z = some l →
      ∀ c, u.kube.Identity nodeID c → c ∉ l := by
    simp only [NotReadOnly, readOnlyClients, Option.map_eq_some_iff]
    constructor
    · rintro hu l ⟨e, he, rfl⟩
      exact hu e he
    · intro hu e he
      exact hu _ ⟨e, he, rfl⟩
  rw [hiff, hiff, h, hk]

def Listed (d : Driver) (k : Kube) (cluster : Str) (i : Int) (z nodeID : Str) (field : ClientField) :
    Prop :=
  ∃ e c, d.findExport cluster i z = some e ∧ k.Identity nodeID c ∧ c ∈ e.clientList field

theorem Listed.grants_iff (h : t.Listed t.kube cluster i z nodeID (clientField root false ro)) :
    t.Grants cluster i z nodeID root ↔ t.NotReadOnly cluster i z nodeID := by
  obtain ⟨e, c, he, hc, hmem⟩ := h
  constructor
  · rintro ⟨x, hx, hg⟩ y hy
    rw [hy] at hx
    cases hx
    exact hg.notReadOnly
  · intro hro
    refine ⟨e, he, ?_, hro e he, fun hroot => ?_⟩
    · cases root with
      | true => exact ⟨c, hc, .inr (.inr hmem)⟩
      | false => exact ⟨c, hc, .inl hmem⟩
    · subst hroot
      exact ⟨c, hc, hmem⟩

end Driver

def exportsReadable : Faults DriverCall Err Driver := fun _ c _ =>
  ∀ cluster i z, c ≠ .array cluster (.getExportByID i z)

namespace Controller

variable {svc : Service} {req : ControllerPublishVolumeRequest} {d d₀ t : Driver} {v : VolumeID}
  {name : Str} {cfg : ClusterConfig} {mode : AccessMode} {i : Nat} {p : Publication} {k : Kube}

def Publications (svc : Service) : Driver → Driver → Prop :=
  Relation.ReflTransGen fun d t => ∃ i req r,
    Outcome (driver i) .any (controllerPublishVolume svc req) d r t

theorem Publications.named (h : Publications svc d₀ d) (hempty : ∀ c n, d₀.clients c n = none) :
    Sound namesRealNode d₀.kube d := by
  induction h with
  | refl =>
    refine ⟨rfl, fun cluster nodeID client hc => ?_⟩
    rw [hempty] at hc
    cases hc
  | tail _ hstep ih =>
    obtain ⟨i, req, r, ho⟩ := hstep
    exact wp_iff_outcome.1 (controllerPublishVolume_named req ih) _ _ ho

structure AddsWriter (p : Publication) (d t : Driver) : Prop where
  kube : t.kube = d.kube
  named : t.MapFollows namesRealNode
  readOnly : t.readOnlyClients p.clusterName p.exportID p.accessZone =
    d.readOnlyClients p.clusterName p.exportID p.accessZone

theorem addsWriter_adding (hfield : field ≠ .readOnly) {H : Driver → Prop}
    (hadd : ∀ {t names}, H t → H (t.addClients p.clusterName field p.exportID p.accessZone names))
    (hstore : ∀ {t c}, H t → H (t.setClient p.clusterName nodeID c)) :
    p.Adds .alone nodeID field (namesRealNode d.kube nodeID) (fun t => AddsWriter p d t ∧ H t)
      (fun t => AddsWriter p d t ∧ H t) where
  relyI h hs := h ▸ hs
  relyJ h hs := h ▸ hs
  weaken := id
  read _ := trivial
  load hs hc := hs.1.kube ▸ hs.1.named _ _ _ hc
  add hs _ _ _ := ⟨trivial, ⟨hs.1.kube, hs.1.named.congr rfl rfl,
    (Driver.readOnlyClients_addClients hfield).trans hs.1.readOnly⟩, hadd hs.2⟩
  guarStore _ _ := trivial
  storeI hs hc := ⟨⟨hs.1.kube, hs.1.named.store (hs.1.kube ▸ hc), hs.1.readOnly⟩, hstore hs.2⟩
  storeJ hs hc := ⟨⟨hs.1.kube, hs.1.named.store (hs.1.kube ▸ hc), hs.1.readOnly⟩, hstore hs.2⟩

def PutsNode (p : Publication) (k : Kube) (field : ClientField) (t : Driver) : Prop :=
  t.Listed k p.clusterName p.exportID p.accessZone p.nodeID field

theorem PutsNode.addClients (h : PutsNode p k field t) :
    PutsNode p k field (t.addClients p.clusterName f p.exportID p.accessZone names) := by
  obtain ⟨e, c, he, hc, hmem⟩ := h
  refine ⟨e.addTo f names, c, ?_, hc, Export.mem_addTo.2 (.inl hmem)⟩
  rw [Driver.findExport_addClients, he]
  rfl

theorem putsNode_adding (hfield : field ≠ .readOnly) (hreal : p.nodeID ≠ dummyHostNodeID) :
    p.Adds .alone p.nodeID field (namesRealNode d.kube p.nodeID)
      (fun t => AddsWriter p d t ∧ True) (fun t => AddsWriter p d t ∧ PutsNode p d.kube field t) := by
  have hkeep : p.Adds .alone p.nodeID field (namesRealNode d.kube p.nodeID)
      (fun t => AddsWriter p d t ∧ True) _ :=
    addsWriter_adding hfield (fun _ => trivial) fun _ => trivial
  refine { hkeep with
    relyJ := fun h hs => h ▸ hs
    weaken := fun hs => ⟨hs.1, trivial⟩
    add := fun {s names} hs hne hc hx => ⟨trivial, (hkeep.add hs hne hc hx).2.1, ?_⟩
    storeJ := fun hs hc => ⟨(hkeep.storeI ⟨hs.1, trivial⟩ hc).1, hs.2⟩ }
  obtain ⟨e, he⟩ := Option.isSome_iff_exists.1 hx
  obtain ⟨c, hmem⟩ := List.exists_mem_of_ne_nil names hne
  refine ⟨e.addTo field names, c, ?_, (hc c hmem hreal).identity,
    Export.mem_addTo.2 (.inr ⟨rfl, hmem⟩)⟩
  rw [Driver.findExport_addClients, he]
  rfl

theorem authorize_puts (hd : AddsWriter p d t) (hmode : p.mode ≠ .multiNodeReaderOnly)
    (hreal : p.nodeID ≠ dummyHostNodeID) (hips : ∀ ip ∈ p.exportIPs, d.kube.Names p.nodeID ip) :
    wp (driver i) F (p.authorize svc) (fun r u => r = .ok () → AddsWriter p d u ∧
      PutsNode p d.kube (clientField p.rootClientEnabled false p.isROVolumeFromSnapshot) u) t := by
  have hfield : clientField p.rootClientEnabled false p.isROVolumeFromSnapshot ≠ .readOnly := by
    cases p.rootClientEnabled <;> simp [clientField]
  have hclients : ClientField.clients ≠ .readOnly := by simp
  refine wp_mono (rwp_alone.1 (Publication.authorize_rwp (I := fun u => AddsWriter p d u ∧ True)
    (J := fun u => AddsWriter p d u ∧
      PutsNode p d.kube (clientField p.rootClientEnabled false p.isROVolumeFromSnapshot) u)
    (fun h hs => h ▸ hs) (fun _ => trivial) (fun h hs => h ▸ hs) (fun _ _ u hu => ?_)
    (fun h => absurd h hmode) ⟨hd, trivial⟩)) fun r u hu hr => by subst hr; exact hu
  refine Publication.addWriter_rwp ?_ (putsNode_adding hfield hreal)
    (fun _ => addsWriter_adding hclients (fun h => h.addClients) fun h => h) (fun _ _ hs => hs)
    (fun ip hip _ => hips ip hip)
    (fun _ n hn => ⟨fun _ => ⟨n, hn, .inl rfl⟩, fun _ => ⟨n, hn, .inr (.inl rfl)⟩⟩) hu
  exact .inr ⟨_, addsWriter_adding hclients (fun _ => trivial) fun _ => trivial,
    fun ip _ h => absurd rfl h, fun _ => ⟨fun h => absurd rfl h, fun h => absurd rfl h⟩⟩

/-- After any publications, a published writer gets the access that it asks for when its node was
not in the read-only list; a directory-backed volume that finds its node on the export gets what it
has already. -/
theorem controllerPublishVolume_grants_iff (hempty : ∀ c n, d₀.clients c n = none)
    (hbefore : Publications svc d₀ d) (hv : parseNormalizedVolumeID req.volumeID = .ok v)
    (hcfg : svc.getIsilonConfig v.clusterName = .ok (name, cfg))
    (hmode : publishAccessMode svc req = .ok mode) (hwriter : mode ≠ .multiNodeReaderOnly)
    (hreal : req.nodeID ≠ dummyHostNodeID)
    (hrun : Outcome (driver i) exportsReadable (controllerPublishVolume svc req) d (.ok ()) t) :
    t.Grants name v.exportID v.accessZone req.nodeID
        ((parseBool (req.volumeContext.get "RootClientEnabled")).getD false) ↔
      if NodeService.isDirectoryBackedContext req.volumeID req.volumeContext = true ∧
          d.hostAdded name v.exportID v.accessZone req.nodeID = true then
        d.Grants name v.exportID v.accessZone req.nodeID
          ((parseBool (req.volumeContext.get "RootClientEnabled")).getD false)
      else d.NotReadOnly name v.exportID v.accessZone req.nodeID := by
  have hnamed := hbefore.named hempty
  have hpub {p : Publication} (hfor : Publication.For svc req p) : p.clusterName = name ∧
      p.exportID = v.exportID ∧ p.accessZone = v.accessZone ∧ p.mode = mode := by
    obtain ⟨w, cfg', hw, hc, hi, hz, -⟩ := hfor.volume
    obtain rfl := Except.ok.inj (hv.symm.trans hw)
    have hname := congrArg Prod.fst (Except.ok.inj (hcfg.symm.trans hc))
    exact ⟨hname.symm, hi, hz, Except.ok.inj (hfor.mode.symm.trans hmode)⟩
  refine wp_iff_outcome.1 (controllerPublishVolume_wp (Q := fun r u => r = .ok () → (u.Grants name
    v.exportID v.accessZone req.nodeID _ ↔ _)) (fun h => h) (fun _ h => by cases h)
    (fun _ h => by cases h) ?_ ?_) _ _ hrun rfl
  · rintro p hfor - hdir u hu hhost -
    obtain ⟨hname, hi, hz, -⟩ := hpub hfor
    rcases hhost with hhost | ⟨e, he⟩
    · rw [hname, hi, hz, hfor.node] at hhost
      rw [if_pos ⟨hfor.directory ▸ hdir, hhost⟩]
      simp only [Driver.Grants, Driver.findExport, hu.arrays, hu.kube]
    · exact (he _ _ _ rfl).elim
  · intro p hfor hips hslow u hu
    obtain ⟨hname, hi, hz, hm⟩ := hpub hfor
    obtain ⟨n, hn⟩ := hfor.parsed
    have hfast : ¬(NodeService.isDirectoryBackedContext req.volumeID req.volumeContext = true ∧
        d.hostAdded name v.exportID v.accessZone req.nodeID = true) := by
      rintro ⟨hdir, hhost⟩
      rw [← hname, ← hi, ← hz, ← hfor.node, hslow (hfor.directory.trans hdir)] at hhost
      cases hhost
    rw [if_neg hfast]
    have hstart : AddsWriter p d u :=
      ⟨hu.kube, hnamed.2.congr hu.kube hu.clients, by
        simp only [Driver.readOnlyClients, Driver.findExport, hu.arrays]⟩
    refine wp_mono (authorize_puts hstart (hm ▸ hwriter) (hfor.node ▸ hreal) ?_) fun r x hx hr => ?_
    · intro ip hip
      rw [hips] at hip
      rw [hfor.node]
      exact ⟨n, hn, .inr (.inr (exportIPs_subset svc _ req hip))⟩
    obtain ⟨hadd, hputs⟩ := hx hr
    rw [PutsNode, ← hadd.kube] at hputs
    have hiff := hputs.grants_iff
    rw [Driver.notReadOnly_congr hadd.readOnly hadd.kube] at hiff
    rwa [hname, hi, hz, hfor.node, hfor.root] at hiff

theorem controllerPublishVolume_grants_shared :
    (run (driver 0) (controllerPublishVolume oneCluster publishShared) started).2.Grants "c1" 1
      "System" publishShared.nodeID false := by
  have hslow : ¬(NodeService.isDirectoryBackedContext publishShared.volumeID
      publishShared.volumeContext = true ∧
      started.hostAdded "c1" 1 "System" publishShared.nodeID = true) := by decide
  have hok : (run (driver 0) (controllerPublishVolume oneCluster publishShared) started).1 = .ok () :=
    by decide
  have hrun := run_outcome (F := exportsReadable) (w := driver 0)
    (controllerPublishVolume oneCluster publishShared) started
  rw [hok] at hrun
  have hempty : ∀ c n, started.clients c n = none := fun _ _ => rfl
  refine (controllerPublishVolume_grants_iff (v := ⟨"vol1", 1, "System", "c1"⟩) hempty .refl
    (by decide) rfl rfl (by decide) (by decide) hrun).2 ?_
  rw [if_neg hslow]
  intro e he c _ hc
  have hnil : started.readOnlyClients "c1" 1 "System" = some [] := by decide
  rw [Driver.readOnlyClients, he] at hnil
  rw [Option.some.inj hnil] at hc
  cases hc

def publishPlain (mode : AccessMode) : ControllerPublishVolumeRequest where
  volumeID := "vol2=_=_=1=_=_=System=_=_=c1=_=_=directory"
  nodeID := "n1=#=#=n1.lab=#=#=10.0.0.5"
  volumeCapability := some ⟨some .mount, some mode⟩
  volumeContext := [("Path", "/ifs/data/shared/vol2"), ("ProvisioningMode", "directory")]

/-- The reader has put the node into the read-only list, and the writer leaves it there. -/
theorem controllerPublishVolume_grants_nothing :
    let d := (run (driver 0) (controllerPublishVolume oneCluster (publishPlain .multiNodeReaderOnly))
      started).2
    let request := publishPlain .multiNodeMultiWriter
    Publications oneCluster started d ∧
    (run (driver 0) (controllerPublishVolume oneCluster request) d).1 = .ok () ∧
    ¬(run (driver 0) (controllerPublishVolume oneCluster request) d).2.Grants "c1" 1 "System"
      request.nodeID false := by
  intro d request
  refine ⟨.single ⟨0, publishPlain .multiNodeReaderOnly, _, run_outcome _ _⟩, by decide, ?_⟩
  rintro ⟨e, he, hg⟩
  have hro : (run (driver 0) (controllerPublishVolume oneCluster request) d).2.readOnlyClients
      "c1" 1 "System" = some [("n1.lab" : Str)] := by decide
  rw [Driver.readOnlyClients, he] at hro
  refine hg.notReadOnly "n1.lab" ⟨⟨"n1", "n1.lab", "10.0.0.5"⟩, by decide, .inr (.inl rfl)⟩ ?_
  rw [Option.some.inj hro]
  exact List.mem_singleton_self _

end Controller

def DriverCall.MayFail (c : DriverCall) : Prop :=
  ∀ cluster i z, c ≠ .array cluster (.getExportByID i z)

theorem onCluster_strict (h : strict (fun c => U (.array cluster c)) p) :
    strict U (onCluster cluster p) := by
  induction p with
  | ret a => trivial
  | fail e => trivial
  | call c k ih => exact ⟨fun hc e => onCluster_yields (h.1 hc e), fun r => ih r (h.2 r)⟩

namespace Controller

section Strict

variable {svc : Service} {req : ControllerPublishVolumeRequest} {U : Call → Prop}

theorem getIpsFromLabels_strict {U : DriverCall → Prop} :
    strict U (getIpsFromLabels nodeID select noMatch) := by
  refine strict_bind (strict_ofExcept _) fun n => strict_bind (strict_op _) fun labels => ?_
  split <;> trivial

theorem resolveExportIPs_strict {U : DriverCall → Prop} : strict U (resolveExportIPs svc req) := by
  unfold resolveExportIPs
  dsimp only
  split
  · exact strict_settle getIpsFromLabels_strict (fun _ => trivial) (fun _ => trivial)
      fun _ => trivial
  split
  · exact strict_settle getIpsFromLabels_strict (fun _ => trivial) (fun _ => trivial)
      fun _ => trivial
  · trivial

theorem publishExportPath_strict (hU : ∀ i z, ¬U (.getExportByID i z)) :
    strict U (publishExportPath cfg v ctx) := by
  have hask : uses (fun c => ¬U c) (getExportPathFromExportID v.exportID v.accessZone) := by
    refine uses_ask_bind (hU _ _) fun r => ?_
    rcases r with e | _ | e
    · trivial
    · trivial
    · dsimp only
      split <;> trivial
  unfold publishExportPath
  split
  · trivial
  · refine strict_bind (strict_of_uses (uses_attempt.2 hask)) fun r => ?_
    split <;> trivial

theorem checkPublishedVolume_strict : strict U (checkPublishedVolume svc v ctx exportPath) := by
  unfold checkPublishedVolume
  split
  · refine strict_ask_bind (fun _ _ => trivial) fun r => ?_
    split <;> trivial
  split
  · split
    · trivial
    refine strict_ask_bind (fun _ _ => trivial) fun r => ?_
    cases r with
    | error e => trivial
    | ok vol =>
      dsimp only
      split <;> trivial
  · trivial

theorem checkExportCount_strict : strict U (checkExportCount svc nodeID nodeIP ips z) := by
  refine strict_settle ?_ (fun _ => trivial) (fun n => ?_) fun _ => trivial
  · split
    · exact strict_op _
    · exact strict_op _
  · dsimp only
    split <;> trivial

theorem autoProbe_strict (cfg : ClusterConfig) : strict U (svc.autoProbe cfg) := by
  unfold Service.autoProbe Service.autoProbeWith
  split
  · trivial
  · split
    · trivial
    · exact strict_op _

theorem checkPublish_strict : strict DriverCall.MayFail (checkPublish svc req) := by
  refine strict_bind resolveExportIPs_strict fun ips => ?_
  unfold checkRequest
  split
  · trivial
  split
  · trivial
  next v hv =>
  refine strict_bind (strict_ofExcept _) fun x => ?_
  obtain ⟨clusterName, cfg⟩ := x
  refine strict_bind (onCluster_strict (autoProbe_strict cfg)) fun _ => ?_
  split
  · trivial
  refine strict_bind (onCluster_strict (publishExportPath_strict ?_)) fun path => ?_
  · exact fun i z h => h _ i z rfl
  refine strict_bind (onCluster_strict checkPublishedVolume_strict) fun _ => ?_
  refine strict_bind (strict_ofExcept _) fun mode => ?_
  split
  · trivial
  · exact strict_bind (onCluster_strict checkExportCount_strict) fun _ => trivial

end Strict

end Controller

def Export.bare (e : Export) : Export :=
  { e with clients := [], readOnlyClients := [], readWriteClients := [], rootClients := [] }

theorem Export.bare_addTo (e : Export) (field : ClientField) (names : List Str) :
    (e.addTo field names).bare = e.bare := by
  cases field <;> rfl

theorem Export.bare_without (e : Export) (names : List Str) : (e.without names).bare = e.bare := rfl

structure OneFS.SameButClients (s t : OneFS) : Prop where
  dirs : s.dirs = t.dirs
  exports : s.exports.rows.map Export.bare = t.exports.rows.map Export.bare

namespace OneFS.SameButClients

variable {s t : OneFS}

theorem refl (s : OneFS) : s.SameButClients s := ⟨rfl, rfl⟩

theorem addClients (h : s.SameButClients t) (field : ClientField) (i : Int) (z : Str)
    (names : List Str) : (s.addClients field i z names).SameButClients t := by
  refine ⟨h.dirs, Eq.trans ?_ h.exports⟩
  simp only [OneFS.addClients, Registry.update, Table.update, List.map_map]
  refine List.map_congr_left fun e _ => ?_
  dsimp only [Function.comp]
  split
  · exact e.bare_addTo field names
  · rfl

theorem exportById (h : s.SameButClients t) (i : Int) (z : Str) :
    (s.exportById i z).map Export.bare = (t.exportById i z).map Export.bare := by
  have hfind (l : List Export) : (l.find? fun e => e.id = i ∧ e.zone = z).map Export.bare =
      (l.map Export.bare).find? fun e => e.id = i ∧ e.zone = z := by
    rw [List.find?_map]
    rfl
  simp only [OneFS.exportById, Registry.find?, hfind, h.exports]

theorem exportAt (h : s.SameButClients t) (path z : Str) :
    (s.exportAt path z).map Export.bare = (t.exportAt path z).map Export.bare := by
  have hfind (l : List Export) : (l.find? fun e => path ∈ e.paths ∧ e.zone = z).map Export.bare =
      (l.map Export.bare).find? fun e => path ∈ e.paths ∧ e.zone = z := by
    rw [List.find?_map]
    rfl
  simp only [OneFS.exportAt, Registry.find?, hfind, h.exports]

end OneFS.SameButClients

def Kube.SameLabels (k l : Kube) : Prop :=
  ∀ name, Option.Rel List.Perm (k.labels.lookup name) (l.labels.lookup name)

namespace Controller

section Runs

variable {svc : Service} {req : ControllerPublishVolumeRequest} {s t : OneFS} {d u : Driver}
  {p : Publication} {i j : Nat}

theorem run_publishExportPath_same (h : t.SameButClients s) :
    run array (publishExportPath cfg v ctx) t =
      ((run array (publishExportPath cfg v ctx) s).1, t) := by
  have hget : run array (getExportPathFromExportID v.exportID v.accessZone) t =
      ((run array (getExportPathFromExportID v.exportID v.accessZone) s).1, t) := by
    have he := h.exportById v.exportID v.accessZone
    simp only [getExportPathFromExportID, run_bind, run_ask, array_act, OneFS.serve]
    cases hs : s.exportById v.exportID v.accessZone with
    | none =>
      cases ht : t.exportById v.exportID v.accessZone with
      | none => rfl
      | some x => simp [hs, ht] at he
    | some e =>
      cases ht : t.exportById v.exportID v.accessZone with
      | none => simp [hs, ht] at he
      | some x =>
        rw [hs, ht, Option.map_some, Option.map_some, Option.some.injEq] at he
        have hpaths : x.bare.paths = e.bare.paths := congrArg Export.paths he
        dsimp only [Export.bare] at hpaths
        simp only [Option.map_some, OneFS.reply, hpaths]
        cases e.paths <;> rfl
  unfold publishExportPath
  split
  · rfl
  simp only [run_bind, run_attempt, hget]
  cases (run array (getExportPathFromExportID v.exportID v.accessZone) s).1 with
  | ok path => rfl
  | error e => cases e <;> rfl

theorem run_checkPublishedVolume_same (h : t.SameButClients s) :
    run array (checkPublishedVolume svc v ctx path) t =
      ((run array (checkPublishedVolume svc v ctx path) s).1, t) := by
  unfold checkPublishedVolume
  split
  · have he := h.exportAt path v.accessZone
    simp only [run_bind, run_ask, array_act, OneFS.serve]
    cases hs : s.exportAt path v.accessZone with
    | none =>
      cases ht : t.exportAt path v.accessZone with
      | none => rfl
      | some x => simp [hs, ht] at he
    | some e =>
      cases ht : t.exportAt path v.accessZone with
      | none => simp [hs, ht] at he
      | some x => rfl
  · split
    · split
      · rfl
      next isiPath _ =>
      simp only [run_bind, run_ask, array_act, OneFS.serve, OneFS.hasDir, OneFS.nlink, h.dirs]
      by_cases hdir : s.dirs.has (namespacePath isiPath v.volName) = true
      · simp only [hdir, if_true, OneFS.reply]
        split <;> rfl
      · simp only [hdir, OneFS.reply]
        rfl
    · rfl

theorem run_getIpsFromLabels (hn : parseNodeID nodeID = .ok n) (select : List Str → List Str)
    (noMatch : Str) :
    run (driver i) (getIpsFromLabels nodeID select noMatch) d =
      match d.labelsOf n.name with
      | some labels =>
        if select labels = [] then (.error (.plain noMatch), d) else (.ok (select labels), d)
      | none => (.error (.plain (sprintf ["nodes", " \"", n.name, "\" not found"])), d) := by
  simp only [getIpsFromLabels, hn, ofExcept_ok, ret_bind, run_bind, run_op, driver_act, Driver.serve]
  cases d.labelsOf n.name with
  | none => rfl
  | some labels =>
    simp only [Driver.lookUp]
    split <;> rfl

theorem run_getIpsFromLabels_same (h : u.kube.SameLabels d.kube) {select : List Str → List Str}
    (hsel : ∀ {l m}, List.Perm l m → (select l).Perm (select m))
    (hrun : run (driver i) (getIpsFromLabels nodeID select noMatch) d = (.ok ips, d)) :
    run (driver j) (getIpsFromLabels nodeID select noMatch) u =
      (.ok (select (u.kube.labelsOf nodeID)), u) := by
  cases hn : parseNodeID nodeID with
  | error e => simp [getIpsFromLabels, hn] at hrun
  | ok n =>
    rw [run_getIpsFromLabels hn] at hrun ⊢
    have hlabels := h n.name
    simp only [Driver.labelsOf, Kube.labelsOf, hn] at hrun ⊢
    cases hd : d.kube.labels.lookup n.name with
    | none => simp [hd] at hrun
    | some l =>
      cases hu : u.kube.labels.lookup n.name with
      | none =>
        rw [hd, hu] at hlabels
        cases hlabels
      | some m =>
        rw [hd, hu] at hlabels
        obtain ⟨hperm⟩ := hlabels
        have hne : select m ≠ [] := by
          intro hm
          have hl := hsel hperm
          rw [hm, List.nil_perm] at hl
          simp [hd, hl] at hrun
        simp [hne]

theorem azNetworkIPs_perm {l m : List Str} (h : l.Perm m) (azNetwork : Str) :
    (azNetworkIPs l azNetwork).Perm (azNetworkIPs m azNetwork) :=
  (h.filterMap _).filter _

theorem allowedNetworkIPs_perm {l m : List Str} (h : l.Perm m) (networks : List Str) :
    (allowedNetworkIPs l networks).Perm (allowedNetworkIPs m networks) :=
  (h.filterMap _).filter _

theorem run_of_settled {q : DriverM (List Str)} {f : Err → Err} {ips : List Str}
    (hq : run (driver i) (q.attempt >>= fun r => match r with
      | .ok ips => ret ips
      | .error e => fail (f e)) d = (.ok ips, d)) : run (driver i) q d = (.ok ips, d) := by
  obtain ⟨r, t, hr, hf⟩ := run_bind_ok.1 hq
  rw [run_attempt] at hr
  cases hr
  cases hr' : (run (driver i) q d).1 with
  | error e => simp [hr'] at hf
  | ok l =>
    rw [hr'] at hf
    obtain ⟨⟨⟩, ht⟩ := Prod.mk.inj hf
    exact Prod.ext hr' ht

theorem run_resolveExportIPs_same (h : u.kube.SameLabels d.kube) {ips : List Str}
    (hrun : run (driver i) (resolveExportIPs svc req) d = (.ok ips, d)) :
    run (driver j) (resolveExportIPs svc req) u = (.ok (exportIPs svc u.kube req), u) := by
  unfold resolveExportIPs at hrun
  unfold resolveExportIPs exportIPs
  dsimp only at hrun ⊢
  split at hrun
  · next haz =>
    have hips := run_getIpsFromLabels_same (j := j) h (fun hl => azNetworkIPs_perm hl _)
      (run_of_settled hrun)
    rw [if_pos haz, if_pos haz, run_bind, run_attempt]
    simp only [getIpsFromAZNetworkLabel, hips, run_ret]
  · next haz =>
    rw [if_neg haz, if_neg haz]
    split at hrun
    · next hall =>
      have hips := run_getIpsFromLabels_same (j := j) h (fun hl => allowedNetworkIPs_perm hl _)
        (run_of_settled hrun)
      rw [if_pos hall, if_pos hall, run_bind, run_attempt]
      simp only [getIpsFromAllowedNetworks, hips, run_ret]
    · next hall =>
      rw [if_neg hall, if_neg hall]
      rfl

def exportsOfNode (svc : Service) (s : OneFS) (nodeIP : Str) (ips : List Str) (z : Str) : Int :=
  if ips ≠ [] ∧ svc.allowedNetworksMode = .multi then s.exportCount ips fun y => y = z
  else s.exportCount [nodeIP] fun _ => true

def BelowLimit (svc : Service) (count : Int) : Prop :=
  svc.maxVolumesPerNode ≤ 0 ∨ count < svc.maxVolumesPerNode

theorem run_checkExportCount (svc : Service) (s : OneFS) (nodeID nodeIP : Str) (ips : List Str) (z : Str) :
    (BelowLimit svc (exportsOfNode svc s nodeIP ips z) →
      run array (checkExportCount svc nodeID nodeIP ips z) s = (.ok (), s)) ∧
    (¬BelowLimit svc (exportsOfNode svc s nodeIP ips z) →
      ∃ e, run array (checkExportCount svc nodeID nodeIP ips z) s = (.error e, s)) := by
  have hcount : run array (if ips ≠ [] ∧ svc.allowedNetworksMode = .multi then
      request (.getExportsCountAttachedToNodeIPs ips z)
      else request (.getExportsCountAttachedToNode nodeIP)) s =
        (.ok (exportsOfNode svc s nodeIP ips z), s) := by
    unfold exportsOfNode
    split <;> simp only [run_op, array_act, OneFS.serve]
  unfold checkExportCount
  simp only [run_bind, run_attempt, hcount, BelowLimit]
  constructor
  · intro h
    rw [if_neg (by omega)]
    rfl
  · intro h
    rw [if_pos (by omega)]
    exact ⟨_, rfl⟩

theorem run_autoProbe_same (cfg : ClusterConfig) :
    run array (svc.autoProbe cfg) t = ((run array (svc.autoProbe cfg) s).1, t) := by
  unfold Service.autoProbe Service.autoProbeWith
  split
  · rfl
  · split <;> rfl

theorem run_onCluster_same
    (hq : run array q (u.arrays cluster) = ((run array q (d.arrays cluster)).1, u.arrays cluster))
    (hrun : run (driver i) (onCluster cluster q) d = (.ok a, x)) :
    run (driver j) (onCluster cluster q) u = (.ok a, u) := by
  rw [run_onCluster] at hrun ⊢
  rw [hq, (Prod.mk.inj hrun).1, Driver.setArray_self]

theorem run_onCluster_read (hq : uses Call.IsRead q)
    (hrun : run (driver i) (onCluster cluster q) d = (r, x)) : x = d := by
  have hstate := run_state_of_uses (w := driver i) (s := d) (U := DriverCall.IsRead)
    (p := onCluster cluster q) (onCluster_uses hq) fun c t hc => hc.serve i t
  rw [hrun] at hstate
  exact hstate

theorem run_checkRequest_same (harr : ∀ c, (u.arrays c).SameButClients (d.arrays c))
    (hn : parseNodeID req.nodeID = .ok n)
    (hrun : run (driver i) (checkRequest svc req ips) d = (.ok p, d)) :
    let count := exportsOfNode svc (u.arrays p.clusterName) n.ip ips' p.accessZone
    (BelowLimit svc count →
      run (driver j) (checkRequest svc req ips') u = (.ok { p with exportIPs := ips' }, u)) ∧
    (¬BelowLimit svc count → ∃ e, run (driver j) (checkRequest svc req ips') u = (.error e, u)) := by
  unfold checkRequest at hrun ⊢
  split at hrun
  · cases hrun
  next hne =>
  rw [if_neg hne]
  split at hrun
  · cases hrun
  next v hv =>
  cases hcfg : svc.getIsilonConfig v.clusterName with
  | error e =>
    rw [hcfg] at hrun
    cases hrun
  | ok c =>
    obtain ⟨cluster, cfg⟩ := c
    rw [hcfg, ofExcept_ok, ret_bind] at hrun
    rw [ofExcept_ok, ret_bind]
    dsimp only at hrun ⊢
    obtain ⟨_, x, hprobe, hrun⟩ := run_bind_ok.1 hrun
    obtain rfl := run_onCluster_read (autoProbe_uses trivial cfg) hprobe
    rw [run_bind, run_onCluster_same (run_autoProbe_same cfg) hprobe]
    dsimp only
    split at hrun
    · cases hrun
    next hid =>
    rw [if_neg hid]
    obtain ⟨path, x, hpath, hrun⟩ := run_bind_ok.1 hrun
    obtain rfl := run_onCluster_read publishExportPath_uses hpath
    rw [run_bind, run_onCluster_same (run_publishExportPath_same (harr _)) hpath]
    dsimp only
    obtain ⟨_, x, hvol, hrun⟩ := run_bind_ok.1 hrun
    obtain rfl := run_onCluster_read checkPublishedVolume_uses hvol
    rw [run_bind, run_onCluster_same (run_checkPublishedVolume_same (harr _)) hvol]
    dsimp only
    cases hmode : publishAccessMode svc req with
    | error e =>
      rw [hmode] at hrun
      cases hrun
    | ok mode =>
      rw [hmode, ofExcept_ok, ret_bind, hn] at hrun
      rw [ofExcept_ok, ret_bind, hn]
      dsimp only at hrun ⊢
      obtain ⟨_, x, -, hrun⟩ := run_bind_ok.1 hrun
      obtain ⟨⟨⟩, -⟩ := Prod.mk.inj hrun
      obtain ⟨hbelow, habove⟩ := run_checkExportCount svc (u.arrays cluster)
        req.nodeID n.ip ips' v.accessZone
      simp only [run_bind, run_onCluster]
      refine ⟨fun h => ?_, fun h => ?_⟩
      · rw [hbelow h, Driver.setArray_self]
        rfl
      · obtain ⟨e, he⟩ := habove h
        rw [he, Driver.setArray_self]
        exact ⟨e, rfl⟩

theorem run_checkPublish_same (harr : ∀ c, (u.arrays c).SameButClients (d.arrays c))
    (hlabels : u.kube.SameLabels d.kube) (hn : parseNodeID req.nodeID = .ok n)
    (hrun : run (driver i) (checkPublish svc req) d = (.ok p, d)) :
    let ips := exportIPs svc u.kube req
    let count := exportsOfNode svc (u.arrays p.clusterName) n.ip ips p.accessZone
    (BelowLimit svc count →
      run (driver j) (checkPublish svc req) u = (.ok { p with exportIPs := ips }, u)) ∧
    (¬BelowLimit svc count → ∃ e, run (driver j) (checkPublish svc req) u = (.error e, u)) := by
  unfold checkPublish at hrun ⊢
  obtain ⟨ips, x, hips, hrun⟩ := run_bind_ok.1 hrun
  obtain rfl : x = d :=
    (wp_run (rwp_alone.1 ((Reading.still d).resolveExportIPs (F := .none) rfl)) hips).1
  simp only [run_bind, run_resolveExportIPs_same (j := j) hlabels hips]
  exact run_checkRequest_same harr hn hrun

end Runs

end Controller

def Driver.otherClients (d : Driver) (cluster : Str) (i : Int) (z nodeID : Str) : Bool :=
  match d.findExport cluster i z, parseNodeID nodeID with
  | some e, .ok n => e.otherClients n
  | _, _ => true

def AccessMode.isSingleNode : AccessMode → Bool
  | singleNodeWriter | singleNodeSingleWriter | singleNodeMultiWriter => true
  | _ => false

theorem run_onCluster_kept (h : run array q (d.arrays cluster) = (r, d.arrays cluster)) :
    run (driver j) (onCluster cluster q) d = (r, d) := by
  rw [run_onCluster, h, Driver.setArray_self]

theorem run_isHostAlreadyAdded (cluster : Str) (i : Int) (z nodeID : Str) :
    run (driver j) (onCluster cluster (isHostAlreadyAdded i z nodeID)) d =
      (.ok (d.hostAdded cluster i z nodeID), d) := by
  apply run_onCluster_kept
  simp only [isHostAlreadyAdded, Driver.hostAdded, Driver.findExport, run_bind, run_ask, array_act,
    OneFS.serve]
  cases (d.arrays cluster).exportById i z with
  | none => rfl
  | some e => cases parseNodeID nodeID <;> rfl

theorem run_otherClientsAlreadyAdded {d : Driver} (cluster : Str) (i : Int) (z nodeID : Str) :
    run (driver j) (onCluster cluster (otherClientsAlreadyAdded i z nodeID)) d =
      (.ok (d.otherClients cluster i z nodeID), d) := by
  apply run_onCluster_kept
  simp only [otherClientsAlreadyAdded, Driver.otherClients, Driver.findExport, run_bind, run_ask,
    array_act, OneFS.serve]
  cases (d.arrays cluster).exportById i z with
  | none => rfl
  | some e => cases parseNodeID nodeID <;> rfl

namespace Controller.Publication

variable {svc : Service} {p : Publication} {d : Driver} {e : Export} {i : Nat} {n : NodeID}

/-- What a publication adds for a node ID: the addresses from the labels, all or the first one; or
else the IP of the node or its entry in the node map. -/
def clientNames (p : Publication) (svc : Service) (d : Driver) (nodeID : Str) : List Str :=
  match parseNodeID nodeID with
  | .error _ => []
  | .ok n =>
    if p.exportIPs ≠ [] then
      match svc.allowedNetworksMode with
      | .multi => p.exportIPs
      | .single => p.exportIPs.take 1
    else if p.ignoreUnresolvableHosts then [n.ip]
    else [(d.clients p.clusterName nodeID).getD n.fqdn]

structure Added (p : Publication) (svc : Service) (d t : Driver) (e : Export) : Prop where
  found : t.findExport p.clusterName p.exportID p.accessZone = some e
  names : ∀ nodeID, p.clientNames svc t nodeID = p.clientNames svc d nodeID
  kube : t.kube = d.kube

theorem clientNames_congr {t : Driver}
    (h : p.exportIPs = [] → p.ignoreUnresolvableHosts = false → ∀ m n, parseNodeID m = .ok n →
      (t.clients p.clusterName m).getD n.fqdn = (d.clients p.clusterName m).getD n.fqdn)
    (nodeID : Str) : p.clientNames svc t nodeID = p.clientNames svc d nodeID := by
  unfold clientNames
  cases hn : parseNodeID nodeID with
  | error e => rfl
  | ok n =>
    dsimp only
    split
    · rfl
    next hips =>
    split
    · rfl
    · next hig => rw [h (by simpa using hips) (by simpa using hig) nodeID n hn]

theorem run_addTo (he : d.findExport cluster k z = some e) (b : Bool) (f : Err → Err) :
    run (driver i) (onCluster cluster (rename (.addExportClients field k z names b) f)) d =
      (.ok (), d.addClients cluster field k z names) := by
  have hsome : ((d.arrays cluster).exportById k z).isSome := by
    rw [← Driver.findExport, he]
    rfl
  have hserve : array.act (.addExportClients field k z names b) (d.arrays cluster) =
      (.ok (), (d.arrays cluster).addClients field k z names) := by
    simp only [array_act, OneFS.serve, OneFS.change, hsome, if_true]
  have hrun : run array (rename (.addExportClients field k z names b) f)
      (d.arrays cluster) = (.ok (), (d.arrays cluster).addClients field k z names) :=
    run_rename.trans (by rw [hserve]; rfl)
  simp only [run_onCluster, hrun, Driver.addClients]

theorem run_storeClients (cluster nodeID : Str) (ips : List Str) : ∃ t,
    run (driver i) (storeClients cluster nodeID ips) d = (.ok (), t) ∧ t.arrays = d.arrays ∧
      t.kube = d.kube := by
  induction ips generalizing d with
  | nil => exact ⟨d, rfl, rfl, rfl⟩
  | cons ip ips ih =>
    obtain ⟨t, ht, harr, hkube⟩ := ih (d := d.setClient cluster nodeID ip)
    refine ⟨t, ?_, harr, hkube⟩
    simp only [storeClients, run_bind, run_op, driver_act, Driver.serve]
    exact ht

theorem run_addClient (svc : Service)
    (he : d.findExport p.clusterName p.exportID p.accessZone = some e) {nodeID : Str}
    (hn : parseNodeID nodeID = .ok n) (ha : AddsTo adders field) :
    ∃ t, run (driver i) (p.addClient svc nodeID adders) d = (.ok (), t) ∧
      p.Added svc d t (e.addTo field (p.clientNames svc d nodeID)) := by
  have hfound (names : List Str) : (d.addClients p.clusterName field p.exportID p.accessZone
      names).findExport p.clusterName p.exportID p.accessZone = some (e.addTo field names) := by
    rw [Driver.findExport_addClients, he]
    rfl
  have hone (client : Str) (b : Bool) := ha.one p.exportID p.accessZone client b
  unfold addClient
  by_cases hips : p.exportIPs = []
  · rw [if_neg (not_not.2 hips)]
    unfold addExportClientNetworkIdentifier
    rw [hn, ofExcept_ok, ret_bind]
    cases hig : p.ignoreUnresolvableHosts with
    | true =>
      obtain ⟨f, hf⟩ := hone n.ip true
      simp only [if_true, hf, run_bind, run_attempt, run_addTo he]
      refine ⟨_, rfl, ?_, fun m => clientNames_congr (fun _ h => ?_) m, rfl⟩
      · simp [clientNames, hn, hips, hig, hfound]
      · rw [hig] at h
        cases h
    | false =>
      obtain ⟨f, hf⟩ := hone ((d.clients p.clusterName nodeID).getD n.fqdn) false
      simp only [Bool.false_eq_true, if_false, run_bind, run_op, driver_act, Driver.serve, hf,
        run_attempt, run_addTo he]
      refine ⟨_, rfl, ?_, fun m => clientNames_congr (fun _ _ m k hk => ?_) m, rfl⟩
      · simp only [clientNames, hn, hips, hig, ne_eq, not_true_eq_false, if_false,
          Bool.false_eq_true]
        exact hfound _
      by_cases hm : m = nodeID
      · subst hm
        rw [hn] at hk
        cases hk
        rw [Driver.setClient_clients_self]
        rfl
      · simp [Driver.setClient, Function.update_of_ne hm]
  · rw [if_pos hips]
    have hnames (t : Driver) (m : Str) : p.clientNames svc t m = p.clientNames svc d m :=
      clientNames_congr (fun h => absurd h hips) m
    unfold addExportClientByIPWithZone
    cases hmode : svc.allowedNetworksMode with
    | multi =>
      obtain ⟨f, hf⟩ := ha.many p.exportID p.accessZone p.exportIPs false
      obtain ⟨t, ht, harr, hkube⟩ := run_storeClients (i := i)
        (d := d.addClients p.clusterName field p.exportID p.accessZone p.exportIPs)
        p.clusterName nodeID p.exportIPs
      simp only [if_neg hips, hf, run_bind, run_attempt, run_addTo he]
      refine ⟨t, ht, ?_, hnames t, hkube⟩
      have hclients : p.clientNames svc d nodeID = p.exportIPs := by
        simp [clientNames, hn, hips, hmode]
      rw [hclients, ← hfound, Driver.findExport, Driver.findExport, harr]
    | single =>
      obtain ⟨ip, ips, hcons⟩ := List.exists_cons_of_ne_nil hips
      obtain ⟨f, hf⟩ := hone ip false
      rw [hcons]
      simp only [addFirstClient, hf, run_bind, run_attempt, run_addTo he, run_op, driver_act,
        Driver.serve, pure_eq, run_ret, Bool.not_true, Bool.false_eq_true, if_false]
      refine ⟨_, rfl, ?_, hnames _, rfl⟩
      have hclients : p.clientNames svc d nodeID = [ip] := by
        simp [clientNames, hn, hmode, hcons]
      rw [hclients]
      exact hfound [ip]

def written (p : Publication) (svc : Service) (d : Driver) (e : Export) : Export :=
  let withDummy := if d.hostAdded p.clusterName p.exportID p.accessZone dummyHostNodeID then e
    else e.addTo .clients (p.clientNames svc d dummyHostNodeID)
  let withNode := withDummy.addTo (clientField p.rootClientEnabled false p.isROVolumeFromSnapshot)
    (p.clientNames svc d p.nodeID)
  if p.rootClientEnabled then withNode.addTo .clients (p.clientNames svc d p.nodeID) else withNode

theorem run_addWriter (svc : Service)
    (he : d.findExport p.clusterName p.exportID p.accessZone = some e)
    (hn : parseNodeID p.nodeID = .ok n) :
    ∃ t, run (driver i) (p.addWriter svc) d = (.ok (), t) ∧ p.Added svc d t (p.written svc d e) := by
  have hnode {t : Driver} {x : Export} (ht : p.Added svc d t x) {adders : ExportClientAdders}
      {field : ClientField} (ha : AddsTo adders field) :
      ∃ u, run (driver i) (p.addClient svc p.nodeID adders) t = (.ok (), u) ∧
        p.Added svc d u (x.addTo field (p.clientNames svc d p.nodeID)) := by
    obtain ⟨u, hu, hadded⟩ := run_addClient svc ht.found hn ha
    refine ⟨u, hu, ht.names _ ▸ hadded.found, fun m => (hadded.names m).trans (ht.names m), ?_⟩
    exact hadded.kube.trans ht.kube
  have hrest {t : Driver} {x : Export} (ht : p.Added svc d t x) : ∃ u, run (driver i) (do
        p.addClient svc p.nodeID
          (getExportClientAdders p.rootClientEnabled false p.isROVolumeFromSnapshot)
        if p.rootClientEnabled then
          p.addClient svc p.nodeID (getExportClientAdders false false false)) t = (.ok (), u) ∧
      p.Added svc d u
        (let withNode := x.addTo (clientField p.rootClientEnabled false p.isROVolumeFromSnapshot)
          (p.clientNames svc d p.nodeID)
        if p.rootClientEnabled then withNode.addTo .clients (p.clientNames svc d p.nodeID)
        else withNode) := by
    obtain ⟨u, hu, hadded⟩ := hnode ht (getExportClientAdders_addsTo p.rootClientEnabled false
      p.isROVolumeFromSnapshot)
    simp only [run_bind, hu]
    cases hroot : p.rootClientEnabled with
    | false =>
      rw [hroot] at hadded
      exact ⟨u, rfl, hadded⟩
    | true =>
      rw [hroot] at hadded
      exact hnode hadded (getExportClientAdders_addsTo false false false)
  unfold addWriter written
  simp only [run_bind, run_isHostAlreadyAdded]
  cases d.hostAdded p.clusterName p.exportID p.accessZone dummyHostNodeID with
  | true => exact hrest ⟨he, fun _ => rfl, rfl⟩
  | false =>
    obtain ⟨t, ht, hadded⟩ := run_addClient (i := i) svc he parseNodeID_dummyHostNodeID
      (getExportClientAdders_addsTo false false false)
    have hrun := hrest hadded
    simp only [run_bind] at hrun
    simp only [Bool.not_false, if_true, run_bind, run_attempt, ht]
    exact hrun

def Supported (p : Publication) : Prop :=
  p.mode = .multiNodeReaderOnly ∨ p.isROVolumeFromSnapshot = false ∧
    p.mode ∈ [.multiNodeMultiWriter, .singleNodeWriter, .singleNodeSingleWriter, .singleNodeMultiWriter]

theorem authorizeWriter_yields :
    yields (fun _ => p.isROVolumeFromSnapshot = false) (p.authorizeWriter svc) := by
  unfold authorizeWriter
  split
  · trivial
  · next hro => exact yields_of_forall fun _ => by simpa using hro

theorem authorize_yields : yields (fun _ => p.Supported) (p.authorize svc) := by
  have hwriter (hm : p.mode ∈ [.multiNodeMultiWriter, .singleNodeWriter, .singleNodeSingleWriter,
      .singleNodeMultiWriter]) : yields (fun _ => p.Supported) (p.authorizeWriter svc) :=
    yields_mono authorizeWriter_yields fun _ h => .inr ⟨h, hm⟩
  unfold authorize
  cases hm : p.mode with
  | multiNodeMultiWriter => exact hwriter (by simp [hm])
  | multiNodeReaderOnly => exact yields_of_forall fun _ => .inl hm
  | unknown => trivial
  | singleNodeReaderOnly => trivial
  | multiNodeSingleWriter => trivial
  | singleNodeWriter | singleNodeSingleWriter | singleNodeMultiWriter =>
    dsimp only
    split
    · exact hwriter (by simp [hm])
    refine yields_bind_any fun b => ?_
    cases b with
    | true => trivial
    | false => exact hwriter (by simp [hm])

def authorized (p : Publication) (svc : Service) (d : Driver) (e : Export) : Export :=
  if p.mode = .multiNodeReaderOnly then
    e.addTo (clientField p.rootClientEnabled true p.isROVolumeFromSnapshot)
      (p.clientNames svc d p.nodeID)
  else p.written svc d e

def Refused (p : Publication) (d : Driver) : Prop :=
  p.mode.isSingleNode = true ∧ p.directoryBacked = false ∧
    d.otherClients p.clusterName p.exportID p.accessZone p.nodeID = true

theorem run_guardAdd (h : run (driver i) add d = (.ok (), t)) :
    run (driver i) (p.guardAdd svc add) d = (.ok (), t) := by
  simp only [guardAdd, run_bind, run_attempt, h, run_ret]

theorem run_authorize (svc : Service)
    (he : d.findExport p.clusterName p.exportID p.accessZone = some e)
    (hn : parseNodeID p.nodeID = .ok n) (hsup : p.Supported) :
    (p.Refused d → ∃ err, run (driver i) (p.authorize svc) d = (.error err, d)) ∧
    (¬p.Refused d → ∃ t, run (driver i) (p.authorize svc) d = (.ok (), t) ∧
      p.Added svc d t (p.authorized svc d e)) := by
  have hwriter (hm : p.mode ≠ .multiNodeReaderOnly) : ∃ t,
      run (driver i) (p.authorizeWriter svc) d = (.ok (), t) ∧
        p.Added svc d t (p.authorized svc d e) := by
    obtain ⟨t, ht, hadded⟩ := run_addWriter (i := i) svc he hn
    refine ⟨t, ?_, by rwa [authorized, if_neg hm]⟩
    rcases hsup with h | ⟨hro, -⟩
    · exact absurd h hm
    · rw [authorizeWriter, hro]
      exact run_guardAdd ht
  have hmany (hone : p.mode.isSingleNode = false) : ¬p.Refused d := by
    rintro ⟨h, -⟩
    rw [hone] at h
    cases h
  unfold authorize
  cases hm : p.mode with
  | multiNodeMultiWriter =>
    exact ⟨fun h => absurd h (hmany (by rw [hm]; rfl)), fun _ => hwriter (by simp [hm])⟩
  | multiNodeReaderOnly =>
    refine ⟨fun h => absurd h (hmany (by rw [hm]; rfl)), fun _ => ?_⟩
    obtain ⟨t, ht, hadded⟩ := run_addClient (i := i) svc he hn
      (getExportClientAdders_addsTo p.rootClientEnabled true p.isROVolumeFromSnapshot)
    exact ⟨t, run_guardAdd ht, by rwa [authorized, if_pos hm]⟩
  | singleNodeWriter | singleNodeSingleWriter | singleNodeMultiWriter =>
    have hone : p.mode.isSingleNode = true := by rw [hm]; rfl
    have hnot : p.mode ≠ .multiNodeReaderOnly := by simp [hm]
    obtain ⟨hro, -⟩ := hsup.resolve_left hnot
    dsimp only
    rw [hro, Bool.false_or]
    cases hdir : p.directoryBacked with
    | true =>
      refine ⟨fun h => ?_, fun _ => hwriter hnot⟩
      rw [Refused, hdir] at h
      cases h.2.1
    | false =>
      simp only [Bool.false_eq_true, if_false, run_bind, run_otherClientsAlreadyAdded]
      cases hother : d.otherClients p.clusterName p.exportID p.accessZone p.nodeID with
      | true => exact ⟨fun _ => ⟨_, rfl⟩, fun h => absurd ⟨hone, hdir, hother⟩ h⟩
      | false =>
        refine ⟨fun h => ?_, fun _ => hwriter hnot⟩
        rw [Refused, hother] at h
        cases h.2.2
  | unknown | singleNodeReaderOnly | multiNodeSingleWriter => simp [Supported, hm] at hsup

end Controller.Publication

end CsiPowerscale
