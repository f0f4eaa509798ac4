import CsiPowerscale.CreateVolumeAnswers
import CsiPowerscale.DeleteVolumeFrame
import CsiPowerscale.SnapshotReaders

namespace CsiPowerscale
open GoLib Stores Effects Effects.Prog

def CreateVolumeRequest.sourceSnapshot (req : CreateVolumeRequest) : Option Str :=
  match req.volumeContentSource with
  | some (.snapshot normalizedID) =>
    (parseNormalizedSnapshotID normalizedID).toOption.map SnapshotID.snapshotID
  | _ => none

def Call.Exports : Call → Prop
  | exportVolume .. | unexport .. | addExportClients .. => True
  | _ => False

theorem exports_dirs (c : Call) (t : OneFS) (h : c.IsRead ∨ c.Exports) :
    (array.act c t).2.dirs = t.dirs := by
  rcases h with h | h
  · rw [h.serve]
  have heff := Call.effect c t
  generalize (array.act c t).2 = u at heff ⊢
  cases heff with
  | kept | addExport | dropExport | addClients => rfl
  | _ => exact h.elim

namespace Controller

def IsReader (name : Str) : Prop := Plain name ∧ name ≠ deleteSnapshotMarker

/-- The tracking directory of the snapshot has at most one entry besides the marker. -/
structure Tracks (x : Snapshot) (s : OneFS) : Prop where
  rooted : ∀ n, s.hasDir (trackingPath x ++ slash :: n) = true → s.hasDir (trackingPath x) = true
  single : ∀ a b, IsReader a → IsReader b → s.hasDir (trackingPath x ++ slash :: a) = true →
    s.hasDir (trackingPath x ++ slash :: b) = true → a = b

theorem Tracks.of_dirs (h : Tracks x s) (hdirs : t.dirs = s.dirs) : Tracks x t := by
  have hdir : t.hasDir = s.hasDir := by
    funext q
    rw [OneFS.hasDir, hdirs, OneFS.hasDir]
  exact ⟨hdir ▸ h.rooted, hdir ▸ h.single⟩

/-- The snapshot is exported at a path from which its name and the place of its tracking directory
are read back. -/
structure ReadBack (z : Zone) (x : Snapshot) : Prop where
  base : CleanAbs (dir x.path)
  tracking : Plain (getSnapshotTrackingDirName x.name)
  components : getSnapshotIsiPathComponents (shownPath z x) z.path = some (dir x.path, x.name)
  readOnly : isROVolumeFromSnapshot (shownPath z x) z.name = true
  exported : getPathForVolume (shownPath z x) [] = shownPath z x
  zoneField : IDField z.name

end Controller

/-- The request is for an export-backed read-only volume of the snapshot, with a name that can be
read from an identifier and is an entry of the tracking directory. -/
structure CreateVolumeRequest.ReadsFrom (svc : Service) (i zone : Str) (req : CreateVolumeRequest) :
    Prop where
  readOnly : req.readOnly svc = true
  source : req.sourceSnapshot = some i
  accessZone : req.accessZone svc = zone
  exportBacked : req.sharedPath = none
  unreplicated : isReplicationEnabled svc req.parameters = false
  name : Controller.IsReader req.name
  nameField : IDField req.name
  cluster : ∀ c ∈ req.clusterName svc, contains c volumeIDSeparator = false

instance (svc : Service) (i zone : Str) (req : CreateVolumeRequest) :
    Decidable (req.ReadsFrom svc i zone) :=
  decidable_of_iff (req.readOnly svc = true ∧ req.sourceSnapshot = some i ∧
      req.accessZone svc = zone ∧ req.sharedPath = none ∧
      isReplicationEnabled svc req.parameters = false ∧
      (Plain req.name ∧ req.name ≠ Controller.deleteSnapshotMarker) ∧ IDField req.name ∧
      ∀ c ∈ req.clusterName svc, contains c volumeIDSeparator = false)
    ⟨fun ⟨h₁, h₂, h₃, h₄, h₅, h₆, h₇, h₈⟩ => ⟨h₁, h₂, h₃, h₄, h₅, h₆, h₇, h₈⟩,
      fun h => ⟨h.1, h.2, h.3, h.4, h.5, h.6, h.7, h.8⟩⟩

namespace Controller

variable {svc : Service} {req : CreateVolumeRequest} {z : Zone} {x : Snapshot} {i name : Str}
  {s t u : OneFS} {p : Plan} {F : Faults Call Err OneFS}

theorem Tracks.deleteVolume (h : Tracks x s) (volumeID : Str) :
    wp array F (deleteVolume svc volumeID) (fun _ t => Tracks x t) s := by
  refine wp_of_uses (U := fun c => c.IsRead ∨ c.IsDeletion)
    (deleteVolume_uses (fun _ => .inl) (fun _ => .inr) svc volumeID) ?_ h
  rintro c t (hc | hc) ht
  · rwa [hc.serve]
  have heff := Call.effect c t
  generalize (array.act c t).2 = u at heff ⊢
  cases heff with
  | @rmdir isiPath name =>
    have hdir : ∀ q, (t.rmdir (namespacePath isiPath name)).hasDir q = true ↔
        t.hasDir q = true ∧ under (namespacePath isiPath name) q = false := by
      intro q
      simp only [OneFS.hasDir, Table.has_iff, OneFS.mem_rmdir]
      constructor
      · rintro ⟨d, ⟨hd, hunder⟩, rfl⟩
        exact ⟨⟨d, hd, rfl⟩, hunder⟩
      · rintro ⟨⟨d, hd, rfl⟩, hunder⟩
        exact ⟨d, ⟨hd, hunder⟩, rfl⟩
    refine ⟨fun n hn => ?_, fun a b ha hb hadir hbdir =>
      ht.single a b ha hb ((hdir _).1 hadir).1 ((hdir _).1 hbdir).1⟩
    obtain ⟨hold, hunder⟩ := (hdir _).1 hn
    refine (hdir _).2 ⟨ht.rooted n hold, ?_⟩
    rw [Bool.eq_false_iff] at hunder ⊢
    exact mt OneFS.under_of_parent hunder
  | kept => exact ht
  | dropExport | dropSnapshot | dropQuota | dropWritable => exact ⟨ht.rooted, ht.single⟩
  | _ => exact hc.elim

section Create

/-- The directories of `s`, and perhaps `q`. -/
structure Made (q : Str) (s t : OneFS) : Prop where
  kept : ∀ r, s.hasDir r = true → t.hasDir r = true
  only : ∀ r, t.hasDir r = true → s.hasDir r = true ∨ r = q

theorem createVolume_made (isiPath volName permissions : Str) :
    wp array F (IsiService.createVolume isiPath volName permissions) (fun r t =>
      Made (namespacePath isiPath volName) s t ∧
        (r = .ok () → t.hasDir (namespacePath isiPath volName) = true)) s := by
  have hrefl : Made (namespacePath isiPath volName) s s := ⟨fun _ h => h, fun _ h => .inl h⟩
  refine ⟨?_, fun e _ => ⟨hrefl, fun h => by cases h⟩⟩
  simp only [array_act, OneFS.serve, OneFS.create]
  split
  · next hdir => exact ⟨hrefl, fun _ => hdir⟩
  split
  · refine ⟨⟨fun r hr => Table.has_add.2 (.inl hr), fun r hr => ?_⟩, fun _ => ?_⟩
    · exact (Table.has_add.1 hr).imp_right Eq.symm
    · exact Table.has_add.2 (.inr rfl)
  · exact ⟨hrefl, fun h => by cases h⟩

/-- The count of the tracking directory is not among the requests that fail. -/
def countAnswered (x : Snapshot) : Faults Call Err OneFS :=
  fun _ c _ => c ≠ .getVolume (dir x.path) (getSnapshotTrackingDirName x.name)

theorem getSubDirectoryCount_answered :
    wp array (countAnswered x)
      (IsiService.getSubDirectoryCount (dir x.path) (getSnapshotTrackingDirName x.name))
      (fun r t => t = s ∧ (s.hasDir (trackingPath x) = true → r = .ok (s.nlink (trackingPath x)))) s := by
  have hread : uses (fun c => ∀ t e, ¬ countAnswered x t c e)
      (IsiService.getSubDirectoryCount (dir x.path) (getSnapshotTrackingDirName x.name)) := by
    have hanswer : ∀ (t : OneFS) (e : Err), ¬ countAnswered x t
        (.getVolume (dir x.path) (getSnapshotTrackingDirName x.name)) e := fun _ _ h => h rfl
    refine uses_bind (uses_ask_bind hanswer fun _ => trivial) fun found => ?_
    split
    · exact uses_bind (request_uses hanswer) fun _ => trivial
    · trivial
  rw [wp_iff_run hread]
  unfold IsiService.getSubDirectoryCount
  rw [run_bind, IsiService.run_isVolumeExistent]
  cases hdir : s.hasDir (namespacePath (dir x.path) (getSnapshotTrackingDirName x.name)) with
  | false => exact ⟨rfl, fun h => by simp [trackingPath, hdir] at h⟩
  | true => simp [run_bind, request, array_act, OneFS.serve, hdir, OneFS.reply, trackingPath]

/-- The plan is for a read-only volume of the snapshot. -/
structure PlansToRead (i : Str) (x : Snapshot) (name : Str) (p : Plan) : Prop where
  name : p.name = name
  shared : p.shared = none
  source : ∃ src, p.readOnlySource = some src ∧ src.snapshotID = i ∧ src.volumeIsiPath = dir x.path

/-- The volume has its entry, or no volume has one. -/
def Found (x : Snapshot) (name : Str) (s : OneFS) (t : Target) : Prop :=
  t.tracking = some ⟨dir x.path, getSnapshotTrackingDirName x.name,
    trackingEntry (getSnapshotTrackingDirName x.name) name⟩ ∧
  if t.foundVol then s.hasDir (trackingPath x ++ slash :: name) = true
  else ∀ n, IsReader n → ¬ s.hasDir (trackingPath x ++ slash :: n) = true

variable (hx : ReadBack z x) (hs : Tracks x s) (hname : IsReader name)
include hx hs hname

theorem findVolume_found (hi : s.Identifies i x) (hp : PlansToRead i x name p) :
    wp array (countAnswered x) (findVolume p)
      (fun r t => t = s ∧ ∀ target, r = .ok target → Found x name s target) s := by
  obtain ⟨src, hread, hid, hpath⟩ := hp.source
  unfold findVolume findReadOnlyVolume
  rw [hread]
  dsimp only
  split
  · exact ⟨rfl, fun target h => by cases h⟩
  rw [wp_bind, wp_ask]
  refine ⟨?_, fun e _ => ⟨rfl, fun target h => by cases h⟩⟩
  simp only [array_act, OneFS.serve, hid]
  cases hy : s.snapshotByIdentity i with
  | none => exact ⟨rfl, fun target h => by cases h⟩
  | some y =>
    obtain rfl := hi.found hy
    have hentry := (trackingEntry_path hx.base hx.tracking hname.1).1
    simp only [OneFS.reply, andThen_ok, hpath, hp.name]
    refine isVolumeExistent_wp (fun hfound => ?_) ?_
    · rw [if_pos rfl]
      refine ⟨rfl, fun target h => ?_⟩
      cases h
      exact ⟨rfl, (hentry ▸ hfound : s.hasDir (trackingPath y ++ slash :: name) = true)⟩
    rw [if_neg Bool.false_ne_true, wp_bind, wp_attempt]
    refine wp_mono getSubDirectoryCount_answered ?_
    rintro r t ⟨rfl, hcount⟩
    rw [andThen_ok]
    split
    · exact ⟨rfl, fun target h => by cases h⟩
    · next hfew =>
      refine ⟨rfl, fun target h => ?_⟩
      cases h
      refine ⟨rfl, fun n hn hdir => hfew ?_⟩
      -- an entry is counted
      have hsub : trackingPath y ++ slash :: n ∈ t.subdirs (trackingPath y) :=
        OneFS.mem_subdirs.2 ⟨hdir, by simp, (trackingEntry_path hx.base hx.tracking hn.1).2⟩
      rw [hcount (hs.rooted n hdir)]
      exact OneFS.lt_nlink hsub

theorem createTrackingEntry_tracks {target : Target}
    (hfound : Found x name s target) :
    wp array F (createTrackingEntry p target) (fun r t => Tracks x t ∧
      (∀ q, s.hasDir q = true → t.hasDir q = true) ∧
        (r = .ok () → t.hasDir (trackingPath x ++ slash :: name) = true)) s := by
  obtain ⟨htracking, hentry⟩ := hfound
  have hpath := trackingEntry_path hx.base hx.tracking hname.1
  have hchild : ∀ n, trackingPath x ++ slash :: n ≠ trackingPath x := by simp
  unfold createTrackingEntry
  rw [htracking]
  dsimp only
  cases hvol : target.foundVol with
  | true =>
    rw [hvol, if_pos rfl] at hentry
    exact ⟨hs, fun _ h => h, fun _ => hentry⟩
  | false =>
    rw [hvol, if_neg Bool.false_ne_true] at hentry
    rw [Bool.not_false, if_pos rfl]
    have hdir : ∀ {t}, Made (trackingPath x) s t → Tracks x t := by
      intro t ht
      have hold : ∀ n, t.hasDir (trackingPath x ++ slash :: n) = true →
          s.hasDir (trackingPath x ++ slash :: n) = true :=
        fun n hn => (ht.only _ hn).resolve_right (hchild n)
      exact ⟨fun n hn => ht.kept _ (hs.rooted n (hold n hn)),
        fun a b ha hb hadir hbdir => hs.single a b ha hb (hold a hadir) (hold b hbdir)⟩
    refine wp_seq (createVolume_made _ _ _) (fun e t ht => ?_) ?_
    · exact ⟨hdir ht.1, ht.1.kept, fun h => by cases h⟩
    rintro _ t ⟨ht, hroot⟩
    refine wp_mono (createVolume_made _ _ _) ?_
    rintro r u ⟨hu, hmade⟩
    rw [hpath.1] at hu hmade
    -- the tracking directory is there, and what was made below it is the entry
    refine ⟨⟨fun n _ => hu.kept _ (hroot rfl), ?_⟩, fun q hq => hu.kept q (ht.kept q hq), hmade⟩
    have hown : ∀ n, IsReader n → u.hasDir (trackingPath x ++ slash :: n) = true → n = name := by
      intro n hn hndir
      rcases hu.only _ hndir with hold | hnew
      · exact ((ht.only _ hold).elim (hentry n hn) (hchild n)).elim
      · simpa [trackingPath] using hnew
    exact fun a b ha hb hadir hbdir => (hown a ha hadir).trans (hown b hb hbdir).symm

end Create

theorem build_readOnly (hshared : p.shared = none) (hro : p.isROVolumeFromSnapshot = true)
    (target : Target) (exportID : Int) :
    build svc p target exportID false = exportReadOnly svc p target := by
  simp [build, createDirectory, populate, provisionQuota, exportAndRespond, Plan.directoryBacked,
    hro, hshared]

theorem PlansToRead.export_uses (hp : PlansToRead i x name p) (target : Target) :
    uses (fun c => c.IsRead ∨ c.Exports) (resolveExport svc p target >>= fun r =>
      match r with
      | .respond v => ret (some v)
      | .proceed exportID needsQuota => build svc p target exportID needsQuota) := by
  obtain ⟨src, hread, -, -⟩ := hp.source
  have hro : p.isROVolumeFromSnapshot = true := by simp [Plan.isROVolumeFromSnapshot, hread]
  have hr : ∀ c : Call, c.IsRead → c.IsRead ∨ c.Exports := fun _ => .inl
  unfold resolveExport
  rw [hp.shared]
  dsimp only
  rw [Prog.bind_assoc]
  refine uses_bind (request_uses (hr _ trivial)) fun r => ?_
  split
  · split
    · trivial
    · change uses _ (build svc p target 0 false)
      rw [build_readOnly hp.shared hro]
      exact exportReadOnly_uses hr (fun _ _ _ _ => .inr trivial) fun _ _ _ _ => .inr trivial
  · rw [if_pos (by simp [hro]), resolveExportBacked, Prog.bind_assoc]
    exact uses_bind (checkVolumeQuota_uses hr _) fun _ => trivial

theorem planned_toRead (h : Planned svc req s p) (hi : s.Identifies i x)
    (hreq : req.ReadsFrom svc i z.name) : PlansToRead i x req.name p ∧
      (s.zone z.name = some z → targetPath p = shownPath z x) := by
  have hro : p.isROVolumeFromSnapshot = true := h.resolves.readOnly.trans hreq.readOnly
  have hshared : p.shared = none := by
    have hmap := h.resolves.shared.trans hreq.exportBacked
    simpa using hmap
  obtain ⟨src, hread⟩ := Option.isSome_iff_exists.1 hro
  have hsource : p.source = .snapshot src := by
    unfold Plan.readOnlySource at hread
    split at hread
    · next src' hsrc =>
      split at hread
      · rw [hsrc, Option.some.inj hread]
      · cases hread
    · cases hread
  obtain ⟨n, y, hparse, hid, hy, hpath⟩ := h.consulted.located src hsource
  have hrequest := h.resolves.source
  rw [hsource] at hrequest
  have hn : n.snapshotID = i := by
    have hsrc := hreq.source
    unfold CreateVolumeRequest.sourceSnapshot at hsrc
    rw [← hrequest] at hsrc
    simpa [Source.request, hparse, Except.toOption] using hsrc
  rw [hn] at hid hy
  obtain rfl := hi.found hy
  refine ⟨⟨h.resolves.name, hshared, src, hread, hid, hpath⟩, fun hz => ?_⟩
  have hshown := h.consulted.shown src hsource
  rw [h.resolves.accessZone, hreq.accessZone] at hshown
  simp only [OneFS.shownPath, hparse, hn, hy, hz, Option.bind_some, Option.map_some,
    Option.some.injEq] at hshown
  rw [targetPath, hread]
  exact hshown.symm

theorem preparePlan_toRead (hi : s.Identifies i x) (hreq : req.ReadsFrom svc i z.name) :
    wp array F (preparePlan svc req)
      (fun r t => t = s ∧ ∀ p, r = .ok p → PlansToRead i x req.name p) s := by
  have hread : uses Call.IsRead (preparePlan svc req) := by
    refine uses_bind (uses_mono (resolvePlan_consults req) fun _ hc => hc.isRead) fun p => ?_
    rw [volumeRoot, hreq.unreplicated]
    trivial
  refine wp_and (wp_of_uses (I := fun t => t = s) hread
    (fun c t hc ht => (hc.serve t).trans ht) rfl) ?_
  refine wp_mono (wp_of_gives preparePlan_planned) fun r t ht p hp => ?_
  exact (planned_toRead (ht p hp).1 hi hreq).1

/-- A read-only `CreateVolume` leaves at most one entry, and its own if it succeeds. -/
theorem createVolume_tracks (hx : ReadBack z x) (hs : Tracks x s) (hi : s.Identifies i x)
    (hreq : req.ReadsFrom svc i z.name) :
    wp array (countAnswered x) (createVolume svc req) (fun r t => Tracks x t ∧
      (∀ q, s.hasDir q = true → t.hasDir q = true) ∧
        ∀ v, r = .ok (some v) → t.hasDir (trackingPath x ++ slash :: req.name) = true) s := by
  refine wp_seq (preparePlan_toRead hi hreq) ?_ ?_
  · rintro e t ⟨rfl, -⟩
    exact ⟨hs, fun _ h => h, fun v h => by cases h⟩
  rintro p t ⟨rfl, hp⟩
  replace hp := hp p rfl
  refine wp_seq (findVolume_found hx hs hreq.name hi hp) ?_ ?_
  · rintro e t ⟨rfl, -⟩
    exact ⟨hs, fun _ h => h, fun v h => by cases h⟩
  rintro target t ⟨rfl, hfound⟩
  refine wp_seq (createTrackingEntry_tracks hx hs hreq.name (hfound target rfl)) ?_ ?_
  · rintro e u ⟨hu, hkept, -⟩
    exact ⟨hu, hkept, fun v h => by cases h⟩
  rintro _ u ⟨hu, hkept, hentry⟩
  refine wp_mono (wp_of_uses (I := fun w => w.dirs = u.dirs) (hp.export_uses target)
    (fun c w hc hw => (exports_dirs c w hc).trans hw) rfl) fun r w hw => ?_
  have hdir : ∀ q, w.hasDir q = u.hasDir q := fun q => by rw [OneFS.hasDir, hw, OneFS.hasDir]
  simp only [hdir]
  exact ⟨hu.of_dirs hw, hkept, fun _ _ => hentry rfl⟩

end Controller

end CsiPowerscale
