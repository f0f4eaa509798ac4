import CsiPowerscale.ClonePlacement
import CsiPowerscale.CreateVolumeAnswers

namespace CsiPowerscale
open GoLib Effects Effects.Prog IsiService OneFS

theorem OneFS.treeSize_mkdir (s : OneFS) (q p : Str) :
    treeSize ((s.mkdir q).subtree p) = treeSize (s.subtree p) := by
  rw [OneFS.mkdir, subtree, subtree, Stores.Table.add]
  split
  · rfl
  rw [List.filter_append, List.map_append]
  simp only [treeSize, List.map_append, List.sum_append]
  by_cases h : under p q = true
  · simp [h]
  · simp [h]

theorem OneFS.snapshotByName_of_identity {s : OneFS} (h : s.snapshotByIdentity i = some x) :
    s.snapshotByName x.name = some x :=
  Stores.Catalog.at?_eq_some.2 ⟨Stores.Registry.find?_mem h, rfl⟩

namespace Controller

/-- The size of a snapshot, as the data of its tree. -/
def snapshotSize (s : OneFS) (normalizedID : Str) : Option Int :=
  match parseNormalizedSnapshotID normalizedID with
  | .ok i => (s.snapshotByIdentity i.snapshotID).map fun x => treeSize x.tree
  | .error _ => none

/-- The size of the directory that a clone is made from. -/
def volumeSize (base : Str) (s : OneFS) (volumeID : Str) : Option Int :=
  match parseVolumeIDWithMode volumeID with
  | .ok (v, mode) =>
    let source := namespacePath (cloneBase base v mode s) v.volName
    if s.hasDir source then some (treeSize (s.subtree source)) else none
  | .error _ => none

variable (src : Option ContentSource)

def sourceSize (base : Str) (s : OneFS) : Option Int :=
  match src with
  | some (.snapshot normalizedID) => snapshotSize s normalizedID
  | some (.volume volumeID) => volumeSize base s volumeID
  | _ => none

def FitsSource (base : Str) (size : Int) (s : OneFS) : Prop :=
  ∀ n, sourceSize src base s = some n → n ≤ size

/-- The reads of a size. -/
def MeasuresSize : Call → Bool
  | .getVolumeSize .. | .getSnapshotFolderSize .. => true
  | _ => false

/-- The reads by which `CreateVolume` finds and measures the source. -/
def MeasuresSource : Call → Prop
  | .getVolumeSize .. => True
  | .getSnapshotFolderSize .. => True
  | .getExportByID i z => ∃ id v mode, src = some (.volume id) ∧
      parseVolumeIDWithMode id = .ok (v, mode) ∧ i = v.exportID ∧ z = v.accessZone
  | _ => False

def sourceReadable : Faults Call Err OneFS :=
  fun _ c _ => ¬ MeasuresSource src c

def sizeUnread : Faults Call Err OneFS := fun _ c _ => MeasuresSize c = true

/-- The array when every read of a size fails. -/
def unmeasured (e : Err) : World Call Call.Reply Err OneFS where
  act c s := if MeasuresSize c then (.error e, s) else array.act c s

/-- The export of a cloned volume is not the stale one that `CreateVolume` removes. -/
def SourceApart (svc : Service) (req : CreateVolumeRequest) (s : OneFS) : Prop :=
  ∀ id v mode, req.volumeContentSource = some (.volume id) →
    parseVolumeIDWithMode id = .ok (v, mode) →
      cloneBase (req.base svc) v mode (req.unstale svc s) = cloneBase (req.base svc) v mode s

section Measured

variable {svc : Service} {req : CreateVolumeRequest} {p : Plan} {src : Option ContentSource}
  {base : Str} {s t u : OneFS}

/-- No data is added or lost. -/
structure SameData (s u : OneFS) : Prop where
  snapshots : u.snapshots = s.snapshots
  dirs : ∀ q, s.hasDir q = true →
    u.hasDir q = true ∧ treeSize (u.subtree q) = treeSize (s.subtree q)

namespace SameData

theorem of_eq (hsnapshots : u.snapshots = s.snapshots) (hdirs : u.dirs = s.dirs) : SameData s u := by
  refine ⟨hsnapshots, fun q hq => ?_⟩
  rw [OneFS.hasDir, hdirs, OneFS.subtree, hdirs]
  exact ⟨hq, rfl⟩

theorem trans (h : SameData s t) (h' : SameData t u) : SameData s u := by
  refine ⟨h'.snapshots.trans h.snapshots, fun q hq => ?_⟩
  obtain ⟨ht, hst⟩ := h.dirs q hq
  obtain ⟨hu, htu⟩ := h'.dirs q ht
  exact ⟨hu, htu.trans hst⟩

theorem create (s : OneFS) (isiPath name : Str) : SameData s (s.create isiPath name).2 := by
  rw [OneFS.create]
  split
  · exact of_eq rfl rfl
  split
  · exact ⟨rfl, fun q hq => ⟨Stores.Table.has_add.2 (.inl hq), treeSize_mkdir s _ q⟩⟩
  · exact of_eq rfl rfl

theorem sourceSize (h : SameData s u)
    (hbase : ∀ id v mode, src = some (.volume id) → parseVolumeIDWithMode id = .ok (v, mode) →
      cloneBase base v mode u = cloneBase base v mode s)
    (hn : Controller.sourceSize src base s = some n) : Controller.sourceSize src base u = some n := by
  unfold Controller.sourceSize at hn ⊢
  split at hn
  · unfold snapshotSize snapshotByIdentity at hn ⊢
    rw [h.snapshots]
    exact hn
  · next id =>
    unfold volumeSize at hn ⊢
    cases hv : parseVolumeIDWithMode id with
    | error e =>
      rw [hv] at hn
      cases hn
    | ok x =>
      obtain ⟨v, mode⟩ := x
      rw [hv] at hn
      dsimp only at hn ⊢
      rw [hbase id v mode rfl hv]
      split at hn
      · next hdir =>
        obtain ⟨hu, hsize⟩ := h.dirs _ hdir
        rw [if_pos hu, hsize]
        exact hn
      · cases hn
  · cases hn

end SameData

theorem cloneBase_congr (h : u.exports = t.exports) (v : VolumeID) (mode : Str) :
    cloneBase base v mode u = cloneBase base v mode t := by
  rw [cloneBase, cloneBase, OneFS.exportById, h]
  rfl

theorem getSnapshotSize_reads :
    wp array (sourceReadable src) (getSnapshotSize isiPath name z) (fun r u => u = s ∧
      r = .ok (((s.snapshotByName name).map fun x => treeSize x.tree).getD 0)) s := by
  apply (wp_iff_run _).2
  · rw [run_getSnapshotSize]
    exact ⟨rfl, rfl⟩
  · apply uses_ask_bind (fun _ _ h => h trivial)
    intro r
    cases r <;> exact trivial

theorem snapshotSize_le (hi : parseNormalizedSnapshotID nid = .ok i)
    (hx : s.snapshotByIdentity i.snapshotID = some x)
    (hsize : ¬ ((s.snapshotByName x.name).map fun x => treeSize x.tree).getD 0 > size)
    (hn : snapshotSize s nid = some n) : n ≤ size := by
  rw [snapshotByName_of_identity hx, Option.map_some, Option.getD_some] at hsize
  simp only [snapshotSize, hi, hx, Option.map_some, Option.some.injEq] at hn
  omega

theorem sizeGuard_fits (hi : parseNormalizedSnapshotID nid = .ok i)
    (hx : s.snapshotByIdentity i.snapshotID = some x) {tooSmall : Int → Err} :
    gives array (sourceReadable src) (do
      let sourceSize ← getSnapshotSize isiPath x.name z
      if sourceSize > size then fail (tooSmall sourceSize) else rest)
      (fun _ _ => ∀ n, snapshotSize s nid = some n → n ≤ size) s := by
  refine gives_bind (gives_of_wp getSnapshotSize_reads fun _ _ h => h) ?_
  rintro size' t ⟨rfl, h⟩
  cases h
  split
  · trivial
  rename_i hsize
  exact gives_of_forall fun _ _ n hn => snapshotSize_le hi hx hsize hn

theorem readSnapshot_fits {f : SnapshotID → Except Err Snapshot → IsiM Unit}
    (hok : ∀ i x, parseNormalizedSnapshotID nid = .ok i → s.snapshotByIdentity i.snapshotID =
      some x → gives array (sourceReadable src) (f i (.ok x)) (fun _ _ => ∀ n,
      snapshotSize s nid = some n → n ≤ size) s)
    (herr : ∀ i e, gives array (sourceReadable src) (f i (.error e)) (fun _ _ => ∀ n,
      snapshotSize s nid = some n → n ≤ size) s) :
    gives array (sourceReadable src) (do
      let i ← ofExcept (parseNormalizedSnapshotID nid)
      let r ← tryRequest (.getSnapshot i.snapshotID)
      f i r) (fun _ _ => ∀ n, snapshotSize s nid = some n → n ≤ size) s := by
  cases hi : parseNormalizedSnapshotID nid with
  | error e => trivial
  | ok i =>
    refine gives_ask_bind ?_ fun e _ => herr i e
    simp only [array_act, OneFS.serve, reply_state]
    cases hx : s.snapshotByIdentity i.snapshotID with
    | none => exact herr i _
    | some x => exact hok i x hi hx

theorem createVolumeFromSnapshot_fits :
    gives array (sourceReadable src) (createVolumeFromSnapshot isiPath nid name size z)
      (fun _ _ => ∀ n, snapshotSize s nid = some n → n ≤ size) s :=
  readSnapshot_fits (fun _ _ hi hx => sizeGuard_fits hi hx) fun _ _ => trivial

theorem createVolumeFromWritableSnapshot_fits :
    gives array (sourceReadable src) (createVolumeFromWritableSnapshot isiPath nid name size z)
      (fun _ _ => ∀ n, snapshotSize s nid = some n → n ≤ size) s :=
  readSnapshot_fits (fun _ _ hi hx => sizeGuard_fits hi hx) fun _ _ => trivial

theorem createVolumeFromVolume_fits :
    gives array (sourceReadable src) (createVolumeFromVolume isiPath srcName dstName size)
      (fun _ _ => treeSize (s.subtree (namespacePath isiPath srcName)) ≤ size) s := by
  refine gives_bind (isVolumeExistent_finds isiPath srcName) ?_
  rintro found t ⟨rfl, hdir⟩
  cases found with
  | false => trivial
  | true =>
    have hread : gives array (sourceReadable src) (IsiService.getVolumeSize isiPath srcName)
        (fun n u => u = t ∧ n = treeSize (t.subtree (namespacePath isiPath srcName))) t := by
      refine gives_ask_bind ?_ fun e h => (h trivial).elim
      simp only [array_act, OneFS.serve, hdir rfl, if_true, OneFS.reply]
      exact ⟨rfl, rfl⟩
    refine gives_bind hread ?_
    rintro n u ⟨rfl, rfl⟩
    split
    · trivial
    · rename_i hsize
      exact gives_of_forall fun _ _ => Int.not_lt.1 hsize

theorem sourceBasePath_reads {id : Str} (hv : parseVolumeIDWithMode id = .ok (v, mode)) :
    gives array (sourceReadable (some (.volume id))) (sourceBasePath base v mode)
      (fun b u => u = s ∧ b = cloneBase base v mode s) s := by
  unfold sourceBasePath cloneBase
  split
  · refine gives_ask_bind ?_ fun e h => (h ⟨id, v, mode, rfl, hv, rfl, rfl⟩).elim
    simp only [array_act, OneFS.serve]
    cases s.exportById v.exportID v.accessZone with
    | none => exact ⟨rfl, rfl⟩
    | some e =>
      obtain ⟨n, paths, _⟩ := e
      cases paths <;> exact ⟨rfl, rfl⟩
  · exact ⟨rfl, rfl⟩

theorem createVolumeFromSource_fits :
    gives array (sourceReadable p.source.request) (createVolumeFromSource p base)
      (fun _ _ => FitsSource p.source.request base p.sizeInBytes s) s := by
  unfold createVolumeFromSource FitsSource
  cases hs : p.source with
  | none => exact fun n hn => by cases hn
  | unset => exact fun n hn => by cases hn
  | snapshot src =>
    refine gives_settle (Q := fun _ _ => ∀ n, snapshotSize s src.normalizedID = some n →
      n ≤ p.sizeInBytes) ?_ (fun _ _ h => h) fun _ _ => trivial
    split
    · exact createVolumeFromWritableSnapshot_fits
    · exact createVolumeFromSnapshot_fits
  | volume i =>
    dsimp only
    cases hv : parseVolumeIDWithMode i with
    | error e =>
      dsimp only
      split <;> trivial
    | ok x =>
      obtain ⟨v, mode⟩ := x
      refine gives_bind (sourceBasePath_reads hv) ?_
      rintro base' t ⟨rfl, rfl⟩
      refine gives_settle createVolumeFromVolume_fits (fun _ _ hr n hn => ?_) fun _ _ => trivial
      simp only [Source.request, sourceSize, volumeSize, hv] at hn
      split at hn
      · cases hn
        exact hr
      · cases hn

theorem populate_fits (hro : p.isROVolumeFromSnapshot = false) :
    gives array (sourceReadable p.source.request) (populate p)
      (fun _ _ => FitsSource p.source.request p.basePath p.sizeInBytes s) s := by
  unfold populate
  split
  · exact gives_settle createVolumeFromSource_fits (fun _ _ h => h) fun _ _ =>
      gives_bind_any fun _ _ => gives_bind_any fun _ _ => trivial
  · rename_i hnone
    have hs : p.source = .none := by simpa [hro, Plan.hasContentSource] using hnone
    intro n hn
    rw [hs] at hn
    cases hn

theorem createDirectory_sameData (target : Target) : wp array F (createDirectory p target)
    (fun _ u => SameData s u ∧ u.exports = s.exports) s := by
  refine wp_of_uses (U := fun c => ∃ permissions metadata,
    c = .createVolume p.basePath p.name permissions metadata)
    (I := fun u => SameData s u ∧ u.exports = s.exports)
    (createDirectory_uses fun permissions metadata => ⟨permissions, metadata, rfl⟩) ?_
    ⟨.of_eq rfl rfl, rfl⟩
  rintro c u ⟨permissions, metadata, rfl⟩ hu
  have hkeeps : (Call.createVolume p.basePath p.name permissions metadata).KeepsExports := trivial
  exact ⟨hu.1.trans (.create u _ _), (hkeeps.serve u).trans hu.2⟩

theorem preparePlan_sameData :
    wp array F (preparePlan svc req) (fun _ u => SameData s u ∧ u.exports = s.exports) s := by
  have hdata : wp array F (preparePlan svc req) (fun _ u => SameData s u) s := by
    refine wp_of_uses (U := fun c => ∀ t, SameData t (array.act c t).2)
      (preparePlan_uses ?_ ?_ ?_ req) (fun c t hc ht => ht.trans (hc t)) (.of_eq rfl rfl)
    · intro c hc t
      rw [hc.serve]
      exact .of_eq rfl rfl
    · exact fun isiPath vg t => .create t isiPath vg
    · exact fun _ _ _ _ _ _ t => .of_eq rfl rfl
  exact wp_and hdata (keepsExports_wp (preparePlan_uses read_keepsExports (fun _ _ => trivial)
    (fun _ _ _ _ _ _ => trivial) req))

/-- A volume that is not there is made, and a stale export at its path is removed before. -/
theorem resolveExport_new (hp : Resolves svc req p) (hro : p.isROVolumeFromSnapshot = false)
    {target : Target} (hfound : target.foundVol = false) (hpath : target.path = targetPath p) :
    gives array F (resolveExport svc p target) (fun r u => (∃ i b, r = .proceed i b) ∧
      SameData s u ∧ u.exports = (req.unstale svc s).exports) s := by
  rw [targetPath, Plan.readOnlySource_none hro] at hpath
  unfold resolveExport
  rw [hro, hfound, Bool.or_false]
  cases hshared : p.shared with
  | some shared =>
    rw [hp.unstale_shared hshared]
    exact ⟨⟨_, _, rfl⟩, .of_eq rfl rfl, rfl⟩
  | none =>
    rw [hshared] at hpath
    rw [hp.unstale_own hshared, hpath, hp.answeredPath_own hshared, dropStale]
    refine gives_op_bind ?_
    simp only [array_act, OneFS.serve, ofExcept_ok, ret_bind, if_neg Bool.false_ne_true]
    cases he : s.exportAt (req.answeredPath svc) p.accessZone with
    | none => exact ⟨⟨_, _, rfl⟩, .of_eq rfl rfl, rfl⟩
    | some e =>
      obtain ⟨hmem, -, hz⟩ := exportAt_some he
      have hid : s.exportById e.id p.accessZone = some e := hz ▸ exportById_of_mem hmem
      have hdrop : gives array F (unexportByIDWithZone e.id p.accessZone)
          (fun _ u => u = s.dropExport e.id p.accessZone) s := by
        refine gives_ask_bind ?_ fun _ _ => trivial
        simp only [array_act, OneFS.serve, OneFS.change, hid, Option.isSome_some, if_true]
        rfl
      refine gives_settle hdrop ?_ fun _ _ => trivial
      rintro _ u rfl
      exact ⟨⟨_, _, rfl⟩, .of_eq rfl rfl, rfl⟩

theorem provision_fits (hp : Resolves svc req p) (hro : p.isROVolumeFromSnapshot = false)
    (hnew : ¬ s.hasDir (volumeDir p) = true) :
    gives array (sourceReadable p.source.request) (provision svc p)
      (fun _ _ => ∃ u, FitsSource p.source.request p.basePath p.sizeInBytes u ∧ SameData s u ∧
        u.exports = (req.unstale svc s).exports) s := by
  refine gives_bind findVolume_finds ?_
  rintro target t ⟨rfl, hpath, hown⟩
  obtain ⟨htracking, hfound⟩ := hown hro
  have hnone : target.foundVol = false := Bool.eq_false_iff.2 (mt hfound hnew)
  rw [createTrackingEntry, htracking, ret_bind]
  refine gives_bind (resolveExport_new hp hro hnone hpath) ?_
  rintro _ u ⟨⟨i, b, rfl⟩, hdata, hexports⟩
  refine gives_bind (gives_state (createDirectory_sameData target)) ?_
  rintro _ v ⟨hdata', hexports'⟩
  refine gives_bind (populate_fits hro) fun _ _ hfits => ?_
  exact gives_of_forall fun _ _ => ⟨v, hfits, hdata.trans hdata', hexports'.trans hexports⟩

end Measured

section Request

variable {svc : Service} {req : CreateVolumeRequest} {s : OneFS}

def RequestFits (svc : Service) (req : CreateVolumeRequest) (s : OneFS) : Prop :=
  ∀ size, validateCreateVolumeRequest req = .ok size →
    FitsSource req.volumeContentSource (req.base svc) size s

theorem createVolume_fits (hro : req.readOnly svc = false) (hnew : ¬ req.DirFound svc s)
    (hapart : SourceApart svc req s)
    (ho : Outcome array (sourceReadable req.volumeContentSource) (createVolume svc req) s
      (.ok (some vol)) t) : RequestFits svc req s := by
  obtain ⟨p, u, hplan, hprovision⟩ := ho.of_bind
  obtain ⟨⟨hp, -, -⟩, hsetUp⟩ := preparePlan_planned.outcome hplan
  obtain ⟨hdata, hexports⟩ := wp_iff_outcome.1 preparePlan_sameData _ _ hplan
  have hdir : ¬ u.hasDir (volumeDir p) = true := by
    rw [hp.volumeDir_eq]
    exact fun h => hnew (hsetUp.dirs _ h)
  rw [← hp.source] at hprovision
  obtain ⟨v, hfits, hdata', hexports'⟩ :=
    (provision_fits hp (hp.readOnly.trans hro) hdir).outcome hprovision
  rw [hp.source, hp.basePath_eq] at hfits
  intro size hsize n hn
  cases hsize.symm.trans hp.accepted
  refine hfits n ((hdata.trans hdata').sourceSize (fun id w mode hs hv => ?_) hn)
  rw [← hapart id w mode hs hv]
  exact cloneBase_congr (hexports'.trans (unstale_exports hexports)) w mode

theorem unmeasured_outcome (e : Err) (q : IsiM α) (s : OneFS) :
    Outcome array sizeUnread q s (run (unmeasured e) q s).1 (run (unmeasured e) q s).2 := by
  induction q generalizing s with
  | ret a => exact .ret
  | fail e => exact .fail
  | call c k ih =>
    rw [run, unmeasured]
    dsimp only
    split
    · next hc => exact .faulted hc (ih _ s)
    · exact .served (ih _ _)

end Request

def twoBytes : OneFS := { OneFS.fresh with
  dirs := ⟨[⟨"/ifs", []⟩, ⟨"/ifs/data", []⟩, ⟨"/ifs/data/vol1", [⟨"a", "12"⟩]⟩], by decide⟩
  exports := ⟨⟨[⟨1, ["/ifs/data/vol1"], "System", [], [], [], [], [], []⟩], by decide⟩, 2, by decide⟩ }

def cloneWith (size : Int) : CreateVolumeRequest where
  name := "vol2"
  requiredBytes := size
  volumeCapabilities := [some ⟨some .mount, some .multiNodeMultiWriter⟩]
  parameters := []
  mutableParameters := []
  volumeContentSource := some (.volume "vol1=_=_=2=_=_=System=_=_=c1")

theorem sourceSize_twoBytes :
    sourceSize (some (.volume "vol1=_=_=2=_=_=System=_=_=c1")) "/ifs/data" twoBytes = some 2 := by
  decide +kernel

theorem base_cloneWith (size : Int) : (cloneWith size).base oneCluster = "/ifs/data" := rfl

theorem not_fits_one : ¬ RequestFits oneCluster (cloneWith 1) twoBytes := by
  intro h
  have hle := h 1 rfl
  rw [base_cloneWith] at hle
  have htwo := hle 2 sourceSize_twoBytes
  omega

end Controller
end CsiPowerscale
