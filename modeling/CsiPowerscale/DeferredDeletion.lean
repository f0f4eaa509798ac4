import CsiPowerscale.UnpublishDeletes
import CsiPowerscale.SnapshotReaders

namespace CsiPowerscale
open GoLib Stores Effects Effects.Prog OneFS

namespace Controller

/-- The read-only volumes of a snapshot, and whether the snapshot is to be deleted. -/
structure Readers where
  names : List Str
  deleted : Bool

inductive ReaderCall
  | deleteVolume (name : Str)
  | deleteSnapshot
  deriving DecidableEq

namespace Readers

variable {r : Readers} {n : Str}

def after (r : Readers) : ReaderCall → Readers
  | .deleteVolume name => { r with names := r.names.filter (· ≠ name) }
  | .deleteSnapshot => { r with deleted := true }

def Over (r : Readers) : Prop := r.deleted = true ∧ r.names = []

/-- What is in the tracking directory. -/
def entries (r : Readers) : List Str :=
  if r.deleted then deleteSnapshotMarker :: r.names else r.names

theorem length_entries : r.entries.length = r.names.length + if r.deleted then 1 else 0 := by
  cases hd : r.deleted <;> simp [entries, hd]

theorem mem_entries (h : deleteSnapshotMarker ∉ r.names) :
    deleteSnapshotMarker ∈ r.entries ↔ r.deleted = true := by
  cases hd : r.deleted <;> simp [entries, hd, h]

theorem filter_entries (hn : n ≠ deleteSnapshotMarker) :
    r.entries.filter (· ≠ n) = (r.after (.deleteVolume n)).entries := by
  cases hd : r.deleted <;> simp [entries, after, hd, hn.symm]

theorem Over.after (h : r.Over) (k : ReaderCall) : r.after k = r := by
  obtain ⟨names, deleted⟩ := r
  obtain ⟨rfl, rfl⟩ := h
  cases k <;> rfl

theorem over_foldl (calls : List ReaderCall) (r : Readers) : (calls.foldl after r).Over ↔
    (r.deleted = true ∨ .deleteSnapshot ∈ calls) ∧ ∀ n ∈ r.names, .deleteVolume n ∈ calls := by
  induction calls generalizing r with
  | nil => simp [Over, List.eq_nil_iff_forall_not_mem]
  | cons k calls ih =>
    rw [List.foldl_cons, ih]
    cases k with
    | deleteVolume name => simp [after, or_iff_not_imp_left]
    | deleteSnapshot => simp [after]

end Readers

variable (svc : Service) (c : Str) (z : Zone) (x : Snapshot) (e : Export)

namespace ReaderCall

def code : ReaderCall → IsiM Unit
  | deleteVolume name => Controller.deleteVolume svc (getNormalizedVolumeID name e.id z.name c)
  | deleteSnapshot =>
    Controller.deleteSnapshot svc (getNormalizedSnapshotID (natToStr x.num) c z.name)

def Valid : ReaderCall → Prop
  | deleteVolume name => IDField name ∧ Plain name ∧ name ≠ deleteSnapshotMarker
  | deleteSnapshot => True

end ReaderCall

/-- The snapshot is exported at a path from which its name and the place of its tracking directory
are read back. -/
structure Shown : Prop where
  base : CleanAbs (dir x.path)
  tracking : Plain (getSnapshotTrackingDirName x.name)
  components : getSnapshotIsiPathComponents (shownPath z x) z.path = some (dir x.path, x.name)
  readOnly : isROVolumeFromSnapshot (shownPath z x) z.name = true
  paths : ∃ isiPath rest, e.paths = shownPath z x :: rest ∧
    getIsiPathFromExportPath (shownPath z x) = some isiPath
  inZone : e.zone = z.name
  numbers : x.num < 2 ^ 63 ∧ e.id < 2 ^ 63
  zoneField : IDField z.name
  clusterField : IDField c
  reaches : svc.Reaches c

structure Represents (s : OneFS) (r : Readers) : Prop where
  zone : s.zone z.name = some z
  identity : s.Identifies (natToStr x.num) x
  unused : ∀ w ∈ s.writables, w.source ≠ x.num
  names : ∀ n ∈ r.names, Plain n ∧ n ≠ deleteSnapshotMarker
  present : ¬r.Over → s.snapshotByIdentity (natToStr x.num) = some x ∧
    s.exportAt (shownPath z x) z.name = some e
  gone : r.Over → s.snapshotByIdentity (natToStr x.num) = none ∧ s.exportById e.id z.name = none
  tracked : r.names ≠ [] → s.hasDir (trackingPath x) = true ∧ s.Holds (trackingPath x) r.entries
  untracked : r.names = [] → s.hasDir (trackingPath x) = false

variable {svc c z x e} {s : OneFS} {r r' : Readers} {n : Str}

section
variable (h : Shown svc c z x e)
include h

theorem Shown.entry (hn : Plain n) :
    namespacePath (dir x.path) (trackingEntry (getSnapshotTrackingDirName x.name) n) =
      trackingPath x ++ slash :: n ∧ dir (trackingPath x ++ slash :: n) = trackingPath x :=
  trackingEntry_path h.base h.tracking hn

theorem Shown.marker : namespacePath (dir x.path)
      (trackingMarker (getSnapshotTrackingDirName x.name)) =
        trackingPath x ++ slash :: deleteSnapshotMarker ∧
    dir (trackingPath x ++ slash :: deleteSnapshotMarker) = trackingPath x :=
  h.entry (by decide)

theorem Shown.run_deleteVolume (hn : IDField n) :
    run array (ReaderCall.code svc c z x e (.deleteVolume n)) s =
      match s.exportById e.id z.name with
      | none => (.ok (), s)
      | some e' => run array (deleteExported (getNormalizedVolumeID n e.id z.name c)
          ⟨n, e.id, z.name, c⟩ e') s := by
  have hlo : -2 ^ 63 ≤ e.id := by
    unfold Export.id
    omega
  have hparse := parseNormalizedVolumeID_of_withMode (parse_getNormalizedVolumeID hlo h.numbers.2 hn
    h.zoneField (h.clusterField.not_contains (by decide)))
  exact Controller.run_deleteVolume (parse_nonempty hparse) hparse h.reaches

theorem Shown.run_deleteSnapshot :
    ∃ cfg, run array (ReaderCall.code svc c z x e .deleteSnapshot) s =
    match s.snapshotByIdentity (natToStr x.num) with
    | none => (.ok (), s)
    | some _ => run array (deleteExistingSnapshot svc cfg x.num ⟨natToStr x.num, c, z.name⟩) s := by
  have hparse : parseNormalizedSnapshotID (getNormalizedSnapshotID (natToStr x.num) c z.name) =
      .ok ⟨natToStr x.num, c, z.name⟩ := parse_getNormalizedSnapshotID (idField_itoa x.num)
    h.clusterField (h.zoneField.not_contains (by decide))
  have hne : getNormalizedSnapshotID (natToStr x.num) c z.name ≠ [] := by
    obtain ⟨d, ds, hd, -⟩ := natToStr_cons x.num
    simp [getNormalizedSnapshotID, sprintf, hd]
  obtain ⟨name, cfg, hcfg, hready⟩ := h.reaches
  refine ⟨cfg, ?_⟩
  simp only [ReaderCall.code, Controller.deleteSnapshot, if_neg hne, hparse, hcfg, ofExcept_ok,
    ret_bind, run_bind, Service.run_autoProbe hready, parseInt64_natToStr, if_pos h.numbers.1,
    run_ask, array_act, serve]
  cases s.snapshotByIdentity (natToStr x.num) <;> rfl

theorem Shown.deleteExported (volumeID : Str) :
    Controller.deleteExported volumeID ⟨n, e.id, z.name, c⟩ e =
      processSnapshotTrackingDirectoryDuringDeleteVolume n z.name e := by
  obtain ⟨isiPath, rest, hpaths, hisi⟩ := h.paths
  simp [Controller.deleteExported, hpaths, hisi, h.readOnly]

theorem Shown.marked_iff (hs : s.Holds (trackingPath x) r.entries)
    (hnames : ∀ n ∈ r.names, Plain n ∧ n ≠ deleteSnapshotMarker) :
    s.hasDir (trackingPath x ++ slash :: deleteSnapshotMarker) = true ↔ r.deleted = true := by
  rw [hs.hasDir_iff h.marker.2, Readers.mem_entries fun hm => (hnames _ hm).2 rfl]

/-- The test of `DeleteVolume` for the last volume of a marked snapshot. -/
theorem Shown.last_iff (hs : s.Holds (trackingPath x) r.entries)
    (hnames : ∀ n ∈ r.names, Plain n ∧ n ≠ deleteSnapshotMarker) :
    (s.hasDir (trackingPath x ++ slash :: deleteSnapshotMarker) = true ∧
      s.nlink (trackingPath x) = 3) ↔ r.Over := by
  rw [h.marked_iff hs hnames, hs.nlink]
  refine and_congr_right fun hd => ?_
  rw [Readers.length_entries, if_pos hd, ← List.length_eq_zero_iff]
  omega

end

theorem run_count_absent (h : s.hasDir (trackingPath x) = false) : ∃ err, run array
    (IsiService.getSubDirectoryCount (dir x.path) (getSnapshotTrackingDirName x.name)) s =
      (.error err, s) := by
  rw [trackingPath] at h
  rw [IsiService.getSubDirectoryCount, run_bind, IsiService.run_isVolumeExistent, h]
  exact ⟨_, rfl⟩

theorem run_rmdir (h : s.hasDir (namespacePath base name) = true) : run array
    (IsiService.deleteVolume base name) s = (.ok (), s.rmdir (namespacePath base name)) := by
  simp [IsiService.deleteVolume, IsiService.rename, run_bind, array_act, serve, change, h]

theorem dropUnused_some (hw : ∀ w ∈ s.writables, w.source ≠ x.num) :
    s.dropUnused (some x) = (.ok (), s.dropSnapshot x.num) := by
  have hunused : (s.writables.rows.any fun w => w.source = x.num) = false := by
    simpa [Table.mem_def] using hw
  rw [dropUnused, if_neg (Bool.eq_false_iff.1 hunused)]

theorem run_removeTrackedSnapshot (hexport : (s.exportById k y).isSome = true)
    (hdir : s.hasDir (namespacePath base tracking) = true) (hx : x ∈ s.snapshots)
    (hw : ∀ w ∈ s.writables, w.source ≠ x.num) :
    run array (removeTrackedSnapshot base tracking x.name y k) s =
      (.ok (), ((s.dropExport k y).rmdir (namespacePath base tracking)).dropSnapshot x.num) := by
  have hname : ((s.dropExport k y).rmdir (namespacePath base tracking)).snapshotByName x.name =
    some x := Catalog.at?_eq_some.2 ⟨hx, rfl⟩
  unfold removeTrackedSnapshot
  rw [run_bind, run_attempt, run_unexport hexport]
  dsimp only
  rw [run_bind, run_attempt, run_rmdir (s := s.dropExport k y) hdir]
  dsimp only
  rw [run_bind, run_ask, array_act, serve, if_neg (by decide), hname,
    dropUnused_some (s := (s.dropExport k y).rmdir (namespacePath base tracking)) hw]
  rfl

abbrev withDirs (s : OneFS) (d : Table Dir.path) : OneFS := { s with dirs := d }

theorem withoutDir_eq (s : OneFS) (p : Str) : ∃ d, s.withoutDir p = withDirs s d := by
  unfold OneFS.withoutDir
  split <;> exact ⟨_, rfl⟩

namespace Represents

variable (hr : Represents z x e s r) {d : Table Dir.path}
include hr

theorem kept (hnames : r'.names ⊆ r.names) (hover : ¬r.Over) (hover' : ¬r'.Over)
    (htracked : r'.names ≠ [] → (withDirs s d).hasDir (trackingPath x) = true ∧
      (withDirs s d).Holds (trackingPath x) r'.entries)
    (huntracked : r'.names = [] → (withDirs s d).hasDir (trackingPath x) = false) :
    Represents z x e (withDirs s d) r' :=
  ⟨hr.zone, hr.identity, hr.unused, fun n hn => hr.names n (hnames hn), fun _ => hr.present hover,
    fun ho => absurd ho hover', htracked, huntracked⟩

theorem dropped (hover : r'.Over) (hdir : (withDirs s d).hasDir (trackingPath x) = false) :
    Represents z x e (((withDirs s d).dropExport e.id z.name).dropSnapshot x.num) r' where
  zone := hr.zone
  identity := hr.identity.mono fun y hy => (mem_dropSnapshot.1 hy).1
  unused := hr.unused
  names := by simp [hover.2]
  present hno := absurd hover hno
  gone _ := by
    refine ⟨Registry.find?_none.2 fun y hy => ?_, exportById_dropExport s e.id z.name⟩
    obtain ⟨hy, hne⟩ := mem_dropSnapshot.1 hy
    rw [decide_eq_false_iff_not]
    exact fun hid => hne (congrArg _ (hr.identity y hy hid))
  tracked hne := absurd hover.2 hne
  untracked _ := hdir

theorem plain_entries : ∀ n ∈ r.entries, Plain n := by
  have hmarker : Plain deleteSnapshotMarker := by decide
  have hnames := fun n hn => (hr.names n hn).1
  cases hd : r.deleted <;> simpa [Readers.entries, hd, hmarker] using hnames

variable (h : Shown svc c z x e)
include h

theorem exportById (hover : ¬r.Over) : s.exportById e.id z.name = some e :=
  h.inZone ▸ exportById_of_mem (exportAt_some (hr.present hover).2).1

theorem deleteVolume (hn : (ReaderCall.deleteVolume n).Valid) :
    ∃ t, run array (ReaderCall.code svc c z x e (.deleteVolume n)) s = (.ok (), t) ∧
      Represents z x e t (r.after (.deleteVolume n)) := by
  obtain ⟨hid, hn, hmarker⟩ := hn
  rw [h.run_deleteVolume hid]
  by_cases hover : r.Over
  · rw [(hr.gone hover).2, hover.after]
    exact ⟨s, rfl, hr⟩
  rw [hr.exportById h hover]
  dsimp only
  rw [h.deleteExported]
  obtain ⟨-, rest, hpaths, -⟩ := h.paths
  obtain ⟨d, hu⟩ := withoutDir_eq s (trackingPath x ++ slash :: n)
  have hparent : (withDirs s d).hasDir (trackingPath x) = s.hasDir (trackingPath x) := by
    rw [← hu, OneFS.withoutDir]
    split
    · exact hasDir_rmdir_of_not_under (under_parent hn.nonempty)
    · rfl
  have hsub : (r.after (.deleteVolume n)).names ⊆ r.names := List.filter_subset_self _
  unfold processSnapshotTrackingDirectoryDuringDeleteVolume
  rw [hpaths]
  simp only [run_bind, request, run_op, array_act, serve, hr.zone, reply, h.components]
  rw [run_removeTrackingEntry, (h.entry hn).1, hu]
  dsimp only
  rw [run_attempt]
  by_cases hnames : r.names = []
  -- the tracking directory went with the last volume, and a failed count ends the call
  · rw [hr.untracked hnames] at hparent
    obtain ⟨err, hcount⟩ := run_count_absent hparent
    rw [hcount]
    have hnil : (r.after (.deleteVolume n)).names = [] := by simp [Readers.after, hnames]
    exact ⟨_, rfl, hr.kept hsub hover (fun ho => hover ⟨ho.1, hnames⟩) (fun hne => absurd hnil hne)
      fun _ => hparent⟩
  obtain ⟨hdir, hholds⟩ := hr.tracked hnames
  rw [hdir] at hparent
  have hleft : (withDirs s d).Holds (trackingPath x) (r.after (.deleteVolume n)).entries := by
    rw [← Readers.filter_entries hmarker, ← hu]
    exact hholds.without hr.plain_entries hn.nonempty
  have hlast := h.last_iff hleft fun n hn => hr.names n (hsub hn)
  rw [IsiService.run_getSubDirectoryCount hparent, ← trackingPath]
  dsimp only
  rw [run_bind, run_removeMarkedSnapshot, h.marker.1]
  by_cases hgone : (r.after (.deleteVolume n)).Over
  · have hexport : (s.exportById e.id z.name).isSome = true := by rw [hr.exportById h hover]; rfl
    rw [if_pos (hlast.2 hgone), run_removeTrackedSnapshot (s := withDirs s d) hexport hparent
      (Registry.find?_mem (hr.present hover).1) hr.unused]
    simp only [(hlast.2 hgone).2]
    exact ⟨_, rfl, hr.dropped hgone hasDir_rmdir⟩
  rw [if_neg (mt hlast.1 hgone), hleft.nlink, Readers.length_entries]
  dsimp only
  by_cases hnil : (r.after (.deleteVolume n)).names = []
  · have hd : ¬(r.after (.deleteVolume n)).deleted = true := fun hd => hgone ⟨hd, hnil⟩
    rw [if_pos (by simp [hnil, hd]), run_bind, run_attempt, run_rmdir hparent]
    exact ⟨_, rfl, hr.kept hsub hover hgone (fun hne => absurd hnil hne) fun _ => hasDir_rmdir⟩
  · have hpos := List.length_pos_iff.2 hnil
    rw [if_neg (by omega)]
    exact ⟨_, rfl, hr.kept hsub hover hgone (fun _ => ⟨hparent, hleft⟩) fun h => absurd h hnil⟩

theorem deleteSnapshot :
    ∃ t, run array (ReaderCall.code svc c z x e .deleteSnapshot) s = (.ok (), t) ∧
      Represents z x e t (r.after .deleteSnapshot) := by
  obtain ⟨cfg, hrun⟩ := h.run_deleteSnapshot
  rw [hrun]
  by_cases hover : r.Over
  · rw [(hr.gone hover).1, hover.after]
    exact ⟨s, rfl, hr⟩
  obtain ⟨hfound, hexported⟩ := hr.present hover
  have hexisting : run array (deleteExistingSnapshot svc cfg x.num ⟨natToStr x.num, c, z.name⟩) s =
      run array (do
        if ← processSnapshotTrackingDirectoryDuringDeleteSnapshot cfg e (shownPath z x) z.name then
          removeSnapshot svc x.num (natToStr x.num)) s := by
    unfold shownPath at hexported
    simp [deleteExistingSnapshot, run_bind, IsiService.getSnapshotSourceVolumeIsiPath, array_act,
      serve, reply, hfound, hr.zone, Except.toOption, hexported]
    rfl
  rw [hfound]
  dsimp only
  rw [hexisting, run_bind]
  simp only [processSnapshotTrackingDirectoryDuringDeleteSnapshot, run_bind, request, run_op,
    array_act, serve, hr.zone, reply, h.components, run_attempt]
  by_cases hnames : r.names = []
  -- a failed count is zero
  · have hdir := hr.untracked hnames
    obtain ⟨err, hcount⟩ := run_count_absent hdir
    have hsnap : (s.dropExport e.id z.name).snapshotById x.num = some x :=
      Registry.find?_unique (Registry.find?_mem hfound) (by simp) fun y hy => by simpa using hy
    rw [hcount, if_pos (.inr rfl), run_bind, run_unexport (by rw [hr.exportById h hover]; rfl)]
    rw [trackingPath] at hdir
    simp [IsiService.deleteVolume, IsiService.rename, run_bind, array_act, serve, change,
      removeSnapshot, hsnap, show (s.dropExport e.id z.name).hasDir = s.hasDir from rfl, hdir,
      dropUnused_some (s := s.dropExport e.id z.name) hr.unused]
    exact hr.dropped ⟨rfl, hnames⟩ hdir
  obtain ⟨hdir, hholds⟩ := hr.tracked hnames
  have hpos := List.length_pos_iff.2 hnames
  rw [IsiService.run_getSubDirectoryCount hdir, ← trackingPath, hholds.nlink,
    Readers.length_entries,
    if_neg (by simp only [Except.toOption, Option.getD_some, ignoreDotAndDotDotSubDirs]; omega)]
  simp only [IsiService.createVolume, request, run_bind, run_op, array_act, serve, create,
    h.marker.1, h.marker.2, hdir]
  have hmarked := h.marked_iff hholds hr.names
  cases hd : r.deleted with
  | true =>
    rw [if_pos (hmarked.2 hd), show r.after .deleteSnapshot = r by cases r; cases hd; rfl]
    exact ⟨s, rfl, hr⟩
  | false =>
    have hnew := mt hmarked.1 (by simp [hd])
    rw [if_neg hnew, if_pos (by simp)]
    have hmade := hholds.made h.marker.2 hnew
    rw [Readers.entries, if_neg (by simp [hd])] at hmade
    exact ⟨_, rfl, hr.kept (List.Subset.refl _) hover (fun ho => hnames ho.2)
      (fun _ => ⟨Table.has_add.2 (.inl hdir), hmade⟩) fun hnil => absurd hnil hnames⟩

omit hr in
theorem calls (calls : List ReaderCall) (hcalls : ∀ k ∈ calls, k.Valid)
    (hr : Represents z x e s r) :
    ∃ t, run array (forM calls (ReaderCall.code svc c z x e)) s = (.ok (), t) ∧
      Represents z x e t (calls.foldl Readers.after r) := by
  induction calls generalizing s r with
  | nil => exact ⟨s, rfl, hr⟩
  | cons k calls ih =>
    obtain ⟨t, ht, hrt⟩ : ∃ t, run array (k.code svc c z x e) s = (.ok (), t) ∧
        Represents z x e t (r.after k) := by
      cases k with
      | deleteVolume name => exact hr.deleteVolume h (hcalls _ List.mem_cons_self)
      | deleteSnapshot => exact hr.deleteSnapshot h
    rw [List.forM_cons, run_bind, ht]
    exact ih (fun k hk => hcalls k (.tail _ hk)) hrt

end Represents

def readArray : OneFS := (run array (createVolume withoutQuotas (readerOf "vol1")) snappedArray).2

def readExport : Export :=
  ⟨0, ["/ifs/.snapshot/snap/data/src"], "System", "", "", ["localhost"], [], [], []⟩

end Controller
end CsiPowerscale
