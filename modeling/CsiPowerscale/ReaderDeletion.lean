import CsiPowerscale.DeleteVolumeFrame

namespace CsiPowerscale
open GoLib Stores Effects Effects.Prog IsiService

namespace Controller

variable {svc : Service} {s t : OneFS} {volumeID : Str} {v : VolumeID} {base snapshot path : Str}
  {F : Faults Call Err OneFS}

/-- A read-only volume by its identifier and the path of its snapshot. Where the tracking directory
of the snapshot lies is read from that path. -/
structure ReadOnlyAt (s : OneFS) (volumeID : Str) (v : VolumeID) (path base snapshot : Str) : Prop where
  parse : parseNormalizedVolumeID volumeID = .ok v
  shown : isROVolumeFromSnapshot path v.accessZone = true
  components : ∀ z, s.zone v.accessZone = some z →
    getSnapshotIsiPathComponents path z.path = some (base, snapshot)
  base : CleanAbs base
  tracking : Plain (getSnapshotTrackingDirName snapshot)
  name : Plain v.volName
  paths : ∀ e, s.exportById v.exportID v.accessZone = some e → e.paths.head? = some path

abbrev trackingDirOf (base snapshot : Str) : Str :=
  namespacePath base (getSnapshotTrackingDirName snapshot)

/-- Another volume has an entry in the tracking directory. -/
def OthersRead (s : OneFS) (base snapshot name : Str) : Prop :=
  ∃ other, Plain other ∧ other ≠ name ∧ other ≠ deleteSnapshotMarker ∧
    s.hasDir (trackingDirOf base snapshot ++ slash :: other) = true

/-- What is not the read-only volume's: all but its entry while others read the snapshot. The last
one has the tracking directory, and if the snapshot is marked for deletion, that and its export. -/
def notOfReader (s : OneFS) (v : VolumeID) (base snapshot : Str) : Objects where
  dirs d := d ∈ s.dirs ∧ under (trackingDirOf base snapshot ++ slash :: v.volName) d.path = false ∧
    (OthersRead s base snapshot v.volName ∨ under (trackingDirOf base snapshot) d.path = false)
  quotas q := q ∈ s.quotas
  writables x := x ∈ s.writables
  snapshots x := x ∈ s.snapshots ∧ (x.name = snapshot → OthersRead s base snapshot v.volName ∨
    s.hasDir (trackingDirOf base snapshot ++ slash :: deleteSnapshotMarker) = false)
  exports e := e ∈ s.exports ∧ (e.id = v.exportID ∧ e.zone = v.accessZone →
    OthersRead s base snapshot v.volName ∨
      s.hasDir (trackingDirOf base snapshot ++ slash :: deleteSnapshotMarker) = false)

/-- What stands of the array while the volume is deleted, up to the count. -/
structure EntryDropped (s : OneFS) (v : VolumeID) (base snapshot : Str) (t : OneFS) : Prop where
  keeps : (notOfReader s v base snapshot).In t
  fewer : ∀ q, t.hasDir q = true → s.hasDir q = true

theorem EntryDropped.refl (s : OneFS) (v : VolumeID) (base snapshot : Str) :
    EntryDropped s v base snapshot s :=
  ⟨⟨fun _ hd => hd.1, fun _ hq => hq, fun _ hx => hx, fun _ hx => hx.1, fun _ he => he.1⟩,
    fun _ hq => hq⟩

section

variable (h : ReadOnlyAt s volumeID v path base snapshot)
include h

theorem ReadOnlyAt.removeTrackingEntry : wp array F (removeTrackingEntry base
      (trackingEntry (getSnapshotTrackingDirName snapshot) v.volName))
    (fun _ t => EntryDropped s v base snapshot t) s := by
  have hpath := (trackingEntry_path h.base h.tracking h.name).1
  refine wp_of_uses (U := fun c => c.IsRead ∨ c = .deleteVolume base
    (trackingEntry (getSnapshotTrackingDirName snapshot) v.volName)) ?_ ?_ (.refl s v base snapshot)
  · refine uses_bind (isVolumeExistent_uses (fun _ hc => .inl hc) _ _) fun found => ?_
    split
    · exact IsiService.deleteVolume_uses (.inr rfl)
    · trivial
  · rintro c t (hread | rfl) ht
    · rwa [hread.serve]
    · have hspares : (Call.deleteVolume base (trackingEntry (getSnapshotTrackingDirName snapshot)
          v.volName)).Spares (notOfReader s v base snapshot) := fun d hd => hpath ▸ hd.2.1
      refine ⟨hspares.serve ht.keeps, fun q hq => ht.fewer q ?_⟩
      simp only [array_act, OneFS.serve, OneFS.change] at hq
      split at hq
      · obtain ⟨d, hd, hdq⟩ := Table.has_iff.1 hq
        exact Table.has_iff.2 ⟨d, (OneFS.mem_rmdir.1 hd).1, hdq⟩
      · exact hq

theorem ReadOnlyAt.entry_stays (ht : (notOfReader s v base snapshot).In t) (hplain : Plain other)
    (hne : other ≠ v.volName) (hmarker : other ≠ deleteSnapshotMarker)
    (hdir : s.hasDir (trackingDirOf base snapshot ++ slash :: other) = true) :
    t.hasDir (trackingDirOf base snapshot ++ slash :: other) = true := by
  obtain ⟨d, hd, hpath⟩ := Table.has_iff.1 hdir
  refine Table.has_iff.2 ⟨d, ht.dirs d ⟨hd, ?_, .inl ⟨other, hplain, hne, hmarker, hdir⟩⟩, hpath⟩
  rw [hpath, Bool.eq_false_iff]
  exact mt (OneFS.under_child hplain.no_slash h.name.nonempty).1 hne

variable (ht : EntryDropped s v base snapshot t)
include ht

theorem ReadOnlyAt.others_stay (hothers : OthersRead s base snapshot v.volName) :
    OthersRead t base snapshot v.volName := by
  obtain ⟨other, hplain, hne, hmarker, hdir⟩ := hothers
  exact ⟨other, hplain, hne, hmarker, h.entry_stays ht.keeps hplain hne hmarker hdir⟩

/-- The count tells whether another volume reads the snapshot. -/
theorem ReadOnlyAt.others_count (hothers : OthersRead s base snapshot v.volName) :
    2 < t.nlink (trackingDirOf base snapshot) ∧
      (t.hasDir (trackingDirOf base snapshot ++ slash :: deleteSnapshotMarker) = true →
        3 < t.nlink (trackingDirOf base snapshot)) := by
  obtain ⟨other, hplain, -, hmarker, hdir⟩ := h.others_stay ht hothers
  have hsub : ∀ {m : Str}, Plain m → t.hasDir (trackingDirOf base snapshot ++ slash :: m) = true →
      trackingDirOf base snapshot ++ slash :: m ∈ t.subdirs (trackingDirOf base snapshot) := by
    intro m hm hdir
    exact OneFS.mem_subdirs.2 ⟨hdir, by simp, (trackingEntry_path h.base h.tracking hm).2⟩
  refine ⟨OneFS.lt_nlink (hsub hplain hdir), fun hmarked => ?_⟩
  exact OneFS.lt_nlink_of_two (hsub hplain hdir) (hsub (by decide) hmarked) (by simpa using hmarker)

omit h ht in
theorem last_spares (hlast : ¬OthersRead s base snapshot v.volName) :
    (Call.deleteVolume base (getSnapshotTrackingDirName snapshot)).Spares
      (notOfReader s v base snapshot) :=
  fun _ hd => hd.2.2.resolve_left hlast

theorem ReadOnlyAt.removeMarkedSnapshot (hcount : count = t.nlink (trackingDirOf base snapshot)) :
    wp array F (removeMarkedSnapshot base (getSnapshotTrackingDirName snapshot) snapshot
      v.accessZone v.exportID count) (fun _ u => (notOfReader s v base snapshot).In u) t := by
  have hmarker := (trackingEntry_path h.base h.tracking (n := deleteSnapshotMarker) (by decide)).1
  refine isVolumeExistent_wp (fun hfound => ?_) ht.keeps
  rw [if_pos rfl]
  split
  · next hthree =>
    rw [trackingMarker, ← trackingEntry, hmarker] at hfound
    have hlast : ¬OthersRead s base snapshot v.volName := by
      intro hothers
      have hmore := (h.others_count ht hothers).2 hfound
      omega
    have hown : ¬(OthersRead s base snapshot v.volName ∨
        s.hasDir (trackingDirOf base snapshot ++ slash :: deleteSnapshotMarker) = false) := by
      simpa [ht.fewer _ hfound] using hlast
    exact spares_wp (removeTrackedSnapshot_uses (fun e he hid => hown (he.2 hid)) (last_spares hlast)
      fun x hx hname => hown (hx.2 hname)) ht.keeps
  · exact ht.keeps

end

theorem readOnly_keeps (h : ReadOnlyAt s volumeID v path base snapshot) :
    DeletionKeeps svc volumeID s (notOfReader s v base snapshot) := by
  rw [deletionKeeps_iff]
  have hs := (EntryDropped.refl s v base snapshot).keeps
  refine deleteVolume_wp h.parse (fun _ => hs) (fun _ => hs) (fun _ _ _ => hs) fun _ e he => ?_
  obtain ⟨rest, hrest⟩ := List.head?_eq_some_iff.1 (h.paths e he)
  have hid : e.id = v.exportID := by
    have hsat := Registry.find?_sat he
    simpa using (of_decide_eq_true hsat).1
  unfold deleteExported processSnapshotTrackingDirectoryDuringDeleteVolume
  rw [hrest]
  dsimp only
  split
  · exact hs
  rw [if_pos h.shown]
  refine wp_seq (M := fun r t => t = s ∧ ∀ z, r = .ok z → s.zone v.accessZone = some z)
    ((wp_op ..).2 ⟨?_, fun e _ => ⟨rfl, fun z hz => by cases hz⟩⟩) (fun e t ht => ht.1 ▸ hs) ?_
  · simp only [array_act, OneFS.serve]
    cases hz : s.zone v.accessZone with
    | none => exact ⟨rfl, fun z hz => by cases hz⟩
    | some z => exact ⟨rfl, fun z' hz' => by cases hz'; rfl⟩
  rintro z t ⟨rfl, hz⟩
  rw [h.components z (hz z rfl)]
  refine wp_seq h.removeTrackingEntry (fun e u hu => hu.keeps) fun _ u hu => ?_
  rw [wp_bind, wp_attempt]
  refine wp_mono (getSubDirectoryCount_wp _ _) ?_
  rintro r w ⟨rfl, hcount⟩
  cases r with
  | error e => exact hu.keeps
  | ok count =>
    rw [andThen_ok, hid]
    refine wp_seq (h.removeMarkedSnapshot hu (hcount count rfl)) (fun e x hx => hx) fun _ x hx => ?_
    split
    · next htwo =>
      have hlast : ¬OthersRead t base snapshot v.volName := by
        intro hothers
        have hmore := (h.others_count hu hothers).1
        rw [trackingDirOf, ← hcount count rfl] at hmore
        omega
      exact spares_wp (uses_attempt_bind (IsiService.deleteVolume_uses (last_spares hlast))
        fun _ => trivial) hx
    · exact hx

def besideShared : OneFS where
  dirs := ⟨[⟨"/ifs", []⟩, ⟨"/ifs/data", []⟩, ⟨"/ifs/data/shared", []⟩, ⟨"/ifs/data/vol1", []⟩],
    by decide⟩
  quotas := .empty
  exports := ⟨⟨[⟨0, ["/ifs/data/shared"], "System", [], [], [], [], [], []⟩], by decide⟩, 1,
    by decide⟩
  writables := ⟨[⟨"/ifs/data/vol1", 0⟩], by decide⟩
  snapshots := ⟨⟨⟨[⟨0, "snap", "/ifs/data/src", [⟨[], []⟩]⟩], by decide⟩, 1, by decide⟩, by decide⟩
  zones := [⟨"System", "/ifs"⟩]
  policies := []
  nfsTLSMode := none

def shareVolume (name : Str) : CreateVolumeRequest where
  name := name
  requiredBytes := 1024
  volumeCapabilities := [some ⟨some .mount, some .multiNodeMultiWriter⟩]
  parameters := [("DirectoryBacked", "true"), ("SharedExportPath", "/ifs/data/shared")]
  mutableParameters := []
  volumeContentSource := none

def besideSharedWith (name : Str) : OneFS :=
  (run array (createVolume oneCluster (shareVolume name)) besideShared).2

end Controller

end CsiPowerscale
