import CsiPowerscale.TrackingDirectory

namespace CsiPowerscale
open GoLib Stores Effects Effects.Prog IsiService

namespace Controller

variable {svc : Service} {s : OneFS} {volumeID : Str} {v : VolumeID} {e : Export}
  {path isiPath : Str}

structure Located (s : OneFS) (volumeID : Str) (v : VolumeID) (e : Export) (path isiPath : Str) :
    Prop where
  nonempty : volumeID ≠ []
  parse : parseNormalizedVolumeID volumeID = .ok v
  found : s.exportById v.exportID v.accessZone = some e
  paths : ∃ rest, e.paths = path :: rest
  isiPath : getIsiPathFromExportPath path = some isiPath

structure ExportBacked (volumeID : Str) (v : VolumeID) (path isiPath : Str) : Prop where
  writable : isROVolumeFromSnapshot path v.accessZone = false
  own : isDirectoryBacked volumeID path isiPath v.volName = false

/-- An export-backed volume by its identifier and its path. Its export may be gone. -/
structure ExportBackedAt (s : OneFS) (volumeID : Str) (v : VolumeID) (path isiPath : Str) : Prop where
  parse : parseNormalizedVolumeID volumeID = .ok v
  rooted : Rooted isiPath
  parent : getIsiPathFromExportPath path = some isiPath
  name : path = getPathForVolume isiPath v.volName
  backed : ExportBacked volumeID v path isiPath
  paths : ∀ e, s.exportById v.exportID v.accessZone = some e → e.paths.head? = some path

theorem parse_nonempty (h : parseNormalizedVolumeID volumeID = .ok v) : volumeID ≠ [] := by
  rintro rfl
  have herr : parseNormalizedVolumeID [] =
      .error (.plain (sprintf ["volume ID '", [], "' cannot be split into tokens"])) := by decide
  rw [herr] at h
  cases h

theorem ExportBackedAt.located (h : ExportBackedAt s volumeID v path isiPath)
    (he : s.exportById v.exportID v.accessZone = some e) : Located s volumeID v e path isiPath :=
  ⟨parse_nonempty h.parse, h.parse, he, List.head?_eq_some_iff.1 (h.paths e he), h.parent⟩

theorem deleteExported_exportBacked (hl : Located s volumeID v e path isiPath)
    (hb : ExportBacked volumeID v path isiPath) :
    deleteExported volumeID v e = (do
      deleteExportQuota v.volName v.exportID v.accessZone
      deleteExport isiPath v.volName v.exportID v.accessZone
      deleteWritableSnapshot (getPathForVolume isiPath v.volName)
      deleteDirectory isiPath v.volName) := by
  obtain ⟨rest, hpaths⟩ := hl.paths
  simp [deleteExported, hpaths, hl.isiPath, hb.writable, hb.own]

theorem run_deleteExportQuota (hfound : s.exportById v.exportID v.accessZone = some e) :
    run array (deleteExportQuota v.volName v.exportID v.accessZone) s =
      (.ok (), if (s.quotaById (getQuotaIDFromDescription e)).isSome then
        s.dropQuota (getQuotaIDFromDescription e) else s) := by
  simp only [deleteExportQuota, IsiService.deleteQuotaByExportIDWithZone, run_bind, run_attempt,
    run_ask, array_act, OneFS.serve, hfound, Option.map_some, OneFS.reply]
  by_cases htag : getQuotaIDFromDescription e = []
  · simp [htag, s.quotaById_nil]
  simp only [htag, if_false, run_op, array_act, OneFS.serve, OneFS.change]
  by_cases hq : (s.quotaById (getQuotaIDFromDescription e)).isSome = true
  · simp [hq]
  · simp [hq, OneFS.notFound, Err.jsonStatus]

theorem run_deleteExport_refused (hmany : 1 < (s.exportsAt (getPathForVolume isiPath name) z).length) :
    ∃ err, run array (deleteExport isiPath name i z) s = (.error err, s) := by
  simp only [deleteExport, run_bind, IsiService.run_getExportsWithParams]
  match hx : s.exportsAt (getPathForVolume isiPath name) z with
  | [] => simp [hx] at hmany
  | [x] => simp [hx] at hmany
  | x :: y :: rest => exact ⟨_, rfl⟩

end Controller

def OneFS.outside (s : OneFS) (path : Str) (ownQuota : Quota → Prop) (ownExport : Export → Prop) :
    Objects where
  dirs d := d ∈ s.dirs ∧ under path d.path = false
  quotas q := q ∈ s.quotas ∧ ¬ ownQuota q
  writables x := x ∈ s.writables ∧ x.dstPath ≠ path
  snapshots x := x ∈ s.snapshots
  exports e := e ∈ s.exports ∧ ¬ ownExport e

theorem OneFS.outside_in (s : OneFS) (path : Str) (ownQuota : Quota → Prop)
    (ownExport : Export → Prop) : (s.outside path ownQuota ownExport).In s :=
  ⟨fun _ h => h.1, fun _ h => h.1, fun _ h => h.1, fun _ h => h, fun _ h => h.1⟩

def Call.IsDeletion : Call → Prop
  | deleteVolume .. | unexport .. | removeSnapshot .. | clearQuota .. | deleteWritableSnapshot .. => True
  | _ => False

namespace Controller

variable {svc : Service} {p : Plan} {s : OneFS} {volumeID : Str} {v : VolumeID} {e : Export}
  {path isiPath : Str}

/-- No attempt, whatever fails in it, touches `K`. -/
def DeletionKeeps (svc : Service) (volumeID : Str) (s : OneFS) (K : Objects) : Prop :=
  ∀ fs, K.In (exec array (deleteVolume svc volumeID) fs s).2

theorem deletionKeeps_iff {K : Objects} : DeletionKeeps svc volumeID s K ↔
    wp array .any (deleteVolume svc volumeID) (fun _ t => K.In t) s :=
  (wp_any_iff_exec (Q := fun _ t => K.In t)).symm

theorem parse_of_mode (h : parseVolumeIDWithMode volumeID = .ok (v, mode)) :
    parseNormalizedVolumeID volumeID = .ok v := by
  unfold parseVolumeIDWithMode at h
  cases hp : parseNormalizedVolumeID volumeID with
  | error e => simp [hp, Except.map] at h
  | ok w =>
    simp only [hp, Except.map, Except.ok.injEq, Prod.mk.injEq] at h
    rw [h.1]

theorem deleteVolume_wp (hv : parseNormalizedVolumeID volumeID = .ok v)
    (hfail : ∀ e, Q (.error e) s)
    (hgone : s.exportById v.exportID v.accessZone = none → Q (.ok ()) s)
    (hmiss : ∀ e, F s (.getExportByID v.exportID v.accessZone) e → e.jsonStatus = some 404 → Q
      (.ok ()) s)
    (h : svc.Reaches v.clusterName → ∀ e, s.exportById v.exportID v.accessZone = some e → wp
      array F (deleteExported volumeID v e) Q s) :
    wp array F (deleteVolume svc volumeID) Q s := by
  by_cases hreach : svc.Reaches v.clusterName
  · have hcfg := hreach
    obtain ⟨name, cfg, hcfg, hready⟩ := hcfg
    unfold deleteVolume validateDeleteVolumeRequest
    simp only [parse_nonempty hv, if_false, hv, hcfg, ofExcept_ok, ret_bind, wp_bind]
    have hprobe : wp array F (svc.autoProbe cfg) (fun _ t => t = s) s :=
      wp_of_uses (autoProbe_uses (U := Call.IsRead) trivial cfg) (fun _ _ hc ht => (hc.serve _).trans ht) rfl
    refine wp_mono hprobe fun r t ht => ?_
    subst ht
    cases r with
    | error e => exact hfail _
    | ok _ =>
      rw [andThen_ok, wp_bind, wp_ask]
      constructor
      · simp only [array_act, OneFS.serve]
        cases he : t.exportById v.exportID v.accessZone with
        | none => exact hgone he
        | some e => exact h hreach e he
      · intro e hF
        rw [andThen_ok]
        dsimp only
        split
        · rename_i hstatus
          exact hmiss e hF hstatus
        · exact hfail _
  · obtain ⟨e, he⟩ := deleteVolume_unreached (parse_nonempty hv) hv hreach
    rw [he]
    exact hfail _

theorem deleteWritableSnapshot_uses {U : Call → Prop} (hr : ∀ c : Call, c.IsRead → U c)
    (h : U (.deleteWritableSnapshot path)) : uses U (deleteWritableSnapshot path) := by
  have hdelete : uses U (deleteWritableSnapshot.delete path) := by
    refine uses_ask_bind h fun r => ?_
    split
    · trivial
    · split <;> trivial
  refine uses_ask_bind (hr _ trivial) fun r => ?_
  split
  · exact hdelete
  · split
    · trivial
    · exact hdelete

theorem deleteDirectory_uses {U : Call → Prop} (hr : ∀ c : Call, c.IsRead → U c)
    (h : U (.deleteVolume base name)) : uses U (deleteDirectory base name) := by
  refine uses_bind (isVolumeExistent_uses hr _ _) fun found => ?_
  split
  · exact IsiService.deleteVolume_uses h
  · trivial

theorem deleteDirectoryQuota_keeps {K : Objects} (hs : K.In s)
    (hK : ∀ q, K.quotas q → q.path ≠ getPathForVolume path name) :
    wp array F (deleteDirectoryQuota path name) (fun _ t => K.In t) s := by
  unfold deleteDirectoryQuota getQuotaByPath rename
  rw [wp_bind, wp_attempt, wp_bind, wp_ask]
  refine ⟨?_, fun e _ => hs⟩
  simp only [array_act, OneFS.serve]
  cases hq : s.quotaAt (getPathForVolume path name) with
  | none => exact hs
  | some q =>
    refine spares_wp (uses_attempt_bind (clearQuotaByID_uses ?_) fun r => ?_) hs
    · intro r hr hid
      have hrq := Catalog.eq_of_num (hs.quotas r hr) (Catalog.at?_mem hq) (natToStr_injective hid)
      exact hK r hr (hrq ▸ Catalog.at?_key hq)
    split
    · trivial
    · split <;> trivial

theorem wp_ignoreMissing (hok : Q (.ok ()) s) (herr : ∀ e, Q (.error e) s) (r : Except Err Unit) :
    wp array F (match r with
      | .ok _ => ret ()
      | .error e => if e.jsonStatus = some 404 then ret () else fail e : IsiM Unit) Q s := by
  cases r with
  | ok _ => exact hok
  | error e =>
    dsimp only
    split
    · exact hok
    · exact herr e

theorem deleteExportQuota_keeps {K : Objects} (hs : K.In s) (hfound : s.exportById i z = some e)
    (hK : ∀ q, K.quotas q → q.id ≠ getQuotaIDFromDescription e) :
    wp array F (deleteExportQuota name i z) (fun _ t => K.In t ∧ t.exports = s.exports) s := by
  have hquiet := wp_ignoreMissing (F := F) (Q := fun _ t => K.In t ∧ t.exports = s.exports)
    ⟨hs, rfl⟩ fun e => ⟨hs, rfl⟩
  unfold deleteExportQuota deleteQuotaByExportIDWithZone
  rw [wp_bind, wp_attempt, wp_bind, wp_ask]
  refine ⟨?_, fun e _ => hquiet (.error _)⟩
  simp only [array_act, OneFS.serve, hfound, Option.map_some, OneFS.reply, andThen_ok]
  split
  · exact hquiet (.ok ())
  rw [wp_op]
  refine ⟨?_, fun e _ => hquiet (.error e)⟩
  have hin := Call.Spares.serve (c := .clearQuota (getQuotaIDFromDescription e)) hK hs
  simp only [array_act, OneFS.serve, OneFS.change] at hin ⊢
  split
  · rename_i hq
    rw [if_pos hq] at hin
    exact ⟨hin, rfl⟩
  · exact hquiet (.error _)

theorem deleteExport_uses {U : Call → Prop} (hr : ∀ c : Call, c.IsRead → U c)
    (h : U (.unexport i z)) : uses U (deleteExport isiPath name i z) := by
  refine uses_bind (getExportsWithParams_uses hr _) fun r => ?_
  split
  · split
    · exact unexportByIDWithZone_uses h
    · trivial
  · trivial
  · trivial

theorem deleteDirectoryQuota_uses (hr : ∀ c : Call, c.IsRead → U c) (hq : ∀ i, U (.clearQuota i)) :
    uses U (deleteDirectoryQuota exportPath volName) := by
  refine uses_attempt_bind (IsiService.getQuotaByPath_uses hr _) fun r => ?_
  cases r with
  | error e => trivial
  | ok quota =>
    refine uses_attempt_bind (IsiService.clearQuotaByID_uses (hq _)) fun r => ?_
    split
    · trivial
    · split <;> trivial

theorem deleteExportQuota_uses (hr : ∀ c : Call, c.IsRead → U c) (hq : ∀ i, U (.clearQuota i)) :
    uses U (deleteExportQuota volName i z) := by
  refine uses_attempt_bind (uses_ask_bind (hr _ trivial) fun r => ?_)
    fun r => ?_
  · split
    · trivial
    · trivial
    dsimp only
    split
    · trivial
    · exact request_uses (hq _)
  · split
    · trivial
    · split <;> trivial

def removalBase (volumeID exportPath isiPath volName : Str) : Str :=
  if isDirectoryBacked volumeID exportPath isiPath volName then exportPath else isiPath

theorem deleteExported_eq (volumeID : Str) (hpaths : e.paths = path :: rest)
    (hisi : getIsiPathFromExportPath path = some isiPath)
    (hro : isROVolumeFromSnapshot path v.accessZone = false) :
    ∃ first : IsiM Unit, deleteExported volumeID v e = (first >>= fun _ =>
        deleteWritableSnapshot (getPathForVolume isiPath v.volName) >>= fun _ =>
          deleteDirectory (removalBase volumeID path isiPath v.volName) v.volName) ∧
      returns () first ∧ ∀ U : Call → Prop, (∀ c : Call, c.IsRead → U c) →
        (∀ i, U (.clearQuota i)) → (∀ i z, U (.unexport i z)) → uses U first := by
  unfold deleteExported removalBase
  rw [hpaths]
  dsimp only
  rw [hisi]
  dsimp only
  rw [hro]
  cases isDirectoryBacked volumeID path isiPath v.volName with
  | true =>
    refine ⟨deleteDirectoryQuota path v.volName, rfl, ⟨.error .panic, rfl⟩, fun U hr hq _ => ?_⟩
    exact deleteDirectoryQuota_uses hr hq
  | false =>
    refine ⟨deleteExportQuota v.volName v.exportID v.accessZone >>= fun _ =>
      deleteExport isiPath v.volName v.exportID v.accessZone, ?_, ⟨.ok none, .ok [], rfl⟩,
      fun U hr hq hu => ?_⟩
    · exact (Prog.bind_assoc _ _ _).symm
    · exact uses_bind (deleteExportQuota_uses hr hq) fun _ =>
        deleteExport_uses hr (hu _ _)

section Uses

variable {U : Call → Prop}

theorem processSnapshotTracking_uses (hr : ∀ c : Call, c.IsRead → U c)
    (hd : ∀ c : Call, c.IsDeletion → U c) :
    uses U (processSnapshotTrackingDirectoryDuringDeleteVolume volName z e) := by
  have hexists (isiPath name : Str) := isVolumeExistent_uses hr isiPath name
  have hdelete (isiPath name : Str) : uses U (IsiService.deleteVolume isiPath name) :=
    IsiService.deleteVolume_uses (hd _ trivial)
  unfold processSnapshotTrackingDirectoryDuringDeleteVolume
  split
  · trivial
  refine uses_bind (request_uses (hr _ trivial)) fun zone => ?_
  split
  · trivial
  apply uses_bind
  · refine uses_bind (hexists _ _) fun found => ?_
    split
    · exact hdelete _ _
    · trivial
  intro _
  refine uses_attempt_bind (getSubDirectoryCount_uses hr _ _) fun count => ?_
  split
  · trivial
  apply uses_bind
  · refine uses_bind (hexists _ _) fun marked => ?_
    split
    · split
      · exact removeTrackedSnapshot_uses (hd _ trivial) (hd _ trivial) (hd _ trivial)
      · trivial
    · trivial
  · intro _
    split
    · exact uses_attempt_bind (hdelete _ _) fun _ => trivial
    · trivial

theorem deleteExported_uses (hr : ∀ c : Call, c.IsRead → U c)
    (hd : ∀ c : Call, c.IsDeletion → U c) : uses U (deleteExported volumeID v e) := by
  cases hpaths : e.paths with
  | nil => simp [deleteExported, hpaths]
  | cons path rest =>
    cases hisi : getIsiPathFromExportPath path with
    | none => simp [deleteExported, hpaths, hisi]
    | some isiPath =>
      cases hro : isROVolumeFromSnapshot path v.accessZone with
      | true =>
        simp only [deleteExported, hpaths, hisi, hro, if_true]
        exact processSnapshotTracking_uses hr hd
      | false =>
        obtain ⟨first, heq, -, huses⟩ := deleteExported_eq volumeID hpaths hisi hro
        rw [heq]
        refine uses_bind (huses U hr (fun _ => hd _ trivial) fun _ _ => hd _ trivial) fun _ => ?_
        exact uses_bind (deleteWritableSnapshot_uses hr (hd _ trivial)) fun _ =>
          deleteDirectory_uses hr (hd _ trivial)

theorem deleteVolume_uses (hr : ∀ c : Call, c.IsRead → U c) (hd : ∀ c : Call, c.IsDeletion → U c)
    (svc : Service) (volumeID : Str) : uses U (deleteVolume svc volumeID) := by
  unfold deleteVolume
  split
  · refine uses_bind (uses_ofExcept _) fun x => ?_
    refine uses_bind (autoProbe_uses (hr _ trivial) _) fun _ => ?_
    refine uses_ask_bind (hr _ trivial) fun r => ?_
    split
    · split <;> trivial
    · trivial
    · exact deleteExported_uses hr hd
  · trivial
  · trivial

end Uses

structure DirectoryBackedAt (s : OneFS) (volumeID : Str) (v : VolumeID) (shared parent : Str) :
    Prop where
  parse : parseVolumeIDWithMode volumeID = .ok (v, provisioningModeDirectory)
  rooted : Rooted shared
  parent : getIsiPathFromExportPath shared = some parent
  live : isROVolumeFromSnapshot shared v.accessZone = false
  paths : ∀ e, s.exportById v.exportID v.accessZone = some e → e.paths.head? = some shared

def notInShared (s : OneFS) (shared name : Str) : Objects :=
  s.outside (getPathForVolume shared name) (fun q => q.path = getPathForVolume shared name)
    fun _ => False

theorem deleteExported_directoryBacked (h : DirectoryBackedAt s volumeID v shared parent)
    (he : s.exportById v.exportID v.accessZone = some e) :
    deleteExported volumeID v e = (do
      deleteDirectoryQuota shared v.volName
      deleteWritableSnapshot (getPathForVolume parent v.volName)
      deleteDirectory shared v.volName) := by
  obtain ⟨rest, hrest⟩ := List.head?_eq_some_iff.1 (h.paths e he)
  have hmode : isDirectoryBacked volumeID shared parent v.volName = true := by
    simp [isDirectoryBacked, h.parse, show provisioningModeDirectory ≠ [] by decide]
  simp [deleteExported, hrest, h.parent, h.live, hmode]

theorem directoryBacked_keeps (h : DirectoryBackedAt s volumeID v shared parent)
    (hw : svc.Reaches v.clusterName → (s.exportById v.exportID v.accessZone).isSome = true →
      s.writableAt (getPathForVolume parent v.volName) = true →
        getPathForVolume parent v.volName = getPathForVolume shared v.volName) :
    DeletionKeeps svc volumeID s (notInShared s shared v.volName) := by
  rw [deletionKeeps_iff]
  have hs := s.outside_in (getPathForVolume shared v.volName)
    (fun q => q.path = getPathForVolume shared v.volName) fun _ => False
  refine deleteVolume_wp (parse_of_mode h.parse) (fun _ => hs) (fun _ => hs) (fun _ _ _ => hs)
    fun hreach e he => ?_
  rw [deleteExported_directoryBacked h he, wp_bind]
  refine wp_mono (deleteDirectoryQuota_keeps hs fun q hq => hq.2) fun r t ht => ?_
  cases r with
  | error e => exact ht
  | ok _ =>
    refine spares_wp (uses_bind (deleteWritableSnapshot_uses read_spares ?_) fun _ =>
      deleteDirectory_uses read_spares ?_) ht
    · intro x hx hdst
      have hat : s.writableAt (getPathForVolume parent v.volName) = true :=
        Table.has_iff.2 ⟨x, hx.1, hdst⟩
      exact hx.2 (hdst.trans (hw hreach (by simp [he]) hat))
    · intro d hd
      rw [namespacePath_eq_getPathForVolume h.rooted]
      exact hd.2

theorem run_deleteDirectoryQuota (s : OneFS) (path name : Str) :
    ∃ t, run array (deleteDirectoryQuota path name) s = (.ok (), t) ∧ t.writables = s.writables := by
  unfold deleteDirectoryQuota
  rw [run_bind, run_attempt]
  cases hq : s.quotaAt (getPathForVolume path name) with
  | none =>
    refine ⟨s, ?_, rfl⟩
    simp [getQuotaByPath, rename, run_bind, array_act, OneFS.serve, hq,
      OneFS.reply]
  | some q =>
    refine ⟨s.dropQuota q.id, ?_, rfl⟩
    simp [getQuotaByPath, rename, run_bind, array_act, OneFS.serve, hq,
      OneFS.reply, clearQuotaByID, q.id_ne_nil, OneFS.change,
      OneFS.quotaById_of_mem (Catalog.at?_mem hq)]

theorem directoryBacked_loses (h : DirectoryBackedAt s volumeID v shared parent)
    (hreach : svc.Reaches v.clusterName) (he : s.exportById v.exportID v.accessZone = some e)
    (hw : s.writableAt (getPathForVolume parent v.volName) = true) :
    ∀ x ∈ (run array (deleteVolume svc volumeID) s).2.writables,
      x.dstPath ≠ getPathForVolume parent v.volName := by
  have hparse := parse_of_mode h.parse
  rw [run_deleteVolume (parse_nonempty hparse) hparse hreach, he]
  dsimp only
  rw [deleteExported_directoryBacked h he]
  obtain ⟨t, ht, htw⟩ := run_deleteDirectoryQuota s shared v.volName
  have hat : t.writableAt (getPathForVolume parent v.volName) = true := by
    rw [OneFS.writableAt, htw]
    exact hw
  have hdelete : run array (deleteWritableSnapshot (getPathForVolume parent v.volName)) t =
      (.ok (), t.dropWritable (getPathForVolume parent v.volName)) := by
    obtain ⟨x, hx, hdst⟩ := Table.has_iff.1 hat
    have hfind : ∃ y, t.writables.rows.find? (fun y => y.dstPath =
        getPathForVolume parent v.volName) = some y := by
      cases hf : t.writables.rows.find? fun y => y.dstPath = getPathForVolume parent v.volName with
      | none => simpa [hdst] using List.find?_eq_none.1 hf x hx
      | some y => exact ⟨y, rfl⟩
    obtain ⟨y, hy⟩ := hfind
    simp [deleteWritableSnapshot, deleteWritableSnapshot.delete, run_bind, array_act, OneFS.serve, hy,
      OneFS.reply, OneFS.change, hat]
  rw [run_bind, ht]
  dsimp only
  rw [run_bind, hdelete]
  have hdir : ∀ u : OneFS, (run array (deleteDirectory shared v.volName) u).2.writables =
      u.writables := by
    intro u
    unfold deleteDirectory
    simp only [run_bind, run_isVolumeExistent]
    split
    · rename_i hfound
      simp [IsiService.deleteVolume, rename, run_bind, array_act, OneFS.serve,
        OneFS.change, hfound, OneFS.rmdir]
    · rfl
  intro x hx
  rw [hdir] at hx
  exact (OneFS.mem_dropWritable.1 hx).2

/-- What is not the volume's: its quota is the one on its path, whatever its export says. -/
def notOfExport (s : OneFS) (v : VolumeID) (path : Str) : Objects :=
  s.outside path (fun q => q.path = path) fun e => e.id = v.exportID ∧ e.zone = v.accessZone

/-- The quota that the description of the export names is that of the volume. -/
def NamesOwnQuota (s : OneFS) (path : Str) (e : Export) : Prop :=
  ∀ q, s.quotaById (getQuotaIDFromDescription e) = some q → q.path = path

theorem exportBacked_keeps (h : ExportBackedAt s volumeID v path isiPath)
    (hown : svc.Reaches v.clusterName → ∀ e, s.exportById v.exportID v.accessZone = some e →
      NamesOwnQuota s path e) : DeletionKeeps svc volumeID s (notOfExport s v path) := by
  rw [deletionKeeps_iff]
  have hs : (notOfExport s v path).In s := s.outside_in _ _ _
  refine deleteVolume_wp h.parse (fun _ => hs) (fun _ => hs) (fun _ _ _ => hs) fun hreach e he => ?_
  rw [deleteExported_exportBacked (h.located he) h.backed, wp_bind]
  have hquota : ∀ q, (notOfExport s v path).quotas q → q.id ≠ getQuotaIDFromDescription e :=
    fun q hq hid => hq.2 (hown hreach e he q (hid ▸ OneFS.quotaById_of_mem hq.1))
  refine wp_mono (deleteExportQuota_keeps hs he hquota) fun r t ht => ?_
  cases r with
  | error e => exact ht.1
  | ok _ =>
    refine spares_wp (uses_bind (deleteExport_uses read_spares fun x hx => hx.2) fun _ =>
      uses_bind (deleteWritableSnapshot_uses read_spares ?_) fun _ =>
        deleteDirectory_uses read_spares ?_) ht.1
    · intro x hx
      rw [← h.name]
      exact hx.2
    · intro d hd
      rw [namespacePath_eq_getPathForVolume h.rooted, ← h.name]
      exact hd.2

theorem exportBacked_loses (h : ExportBackedAt s volumeID v path isiPath)
    (hreach : svc.Reaches v.clusterName) (he : s.exportById v.exportID v.accessZone = some e)
    (hq : s.quotaById (getQuotaIDFromDescription e) = some q) :
    ∀ r ∈ (run array (deleteVolume svc volumeID) s).2.quotas, r.path ≠ q.path := by
  rw [run_deleteVolume (parse_nonempty h.parse) h.parse hreach, he]
  dsimp only
  rw [deleteExported_exportBacked (h.located he) h.backed, run_bind, run_deleteExportQuota he, hq]
  have hgone : (s.dropQuota (getQuotaIDFromDescription e)).NewQuotas 0 fun _ p => p ≠ q.path := by
    refine ⟨Nat.zero_le _, fun r hr _ hpath => ?_⟩
    obtain ⟨hr, hid⟩ := OneFS.mem_dropQuota.1 hr
    obtain rfl := Catalog.eq_of_key hr (Registry.find?_mem hq) hpath
    exact hid (by simpa using Registry.find?_sat hq)
  have hrest : ∀ next : IsiM Unit, uses (Call.QuotaAt (· ≠ q.path)) next → ∀ r ∈ (run array next
      (s.dropQuota (getQuotaIDFromDescription e))).2.quotas, r.path ≠ q.path :=
    fun next hnext r hr => (wp_none_iff_run.1 (quotaAt_wp hnext hgone)).2 r hr (Nat.zero_le _)
  -- nothing that follows makes a quota
  exact hrest _ (uses_bind (deleteExport_uses read_quotaAt trivial) fun _ =>
    uses_bind (deleteWritableSnapshot_uses read_quotaAt trivial) fun _ =>
      deleteDirectory_uses read_quotaAt trivial)

end Controller

end CsiPowerscale
