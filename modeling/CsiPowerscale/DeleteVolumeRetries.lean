import CsiPowerscale.CreateVolumeAnswers
import CsiPowerscale.DeleteVolumeFrame

namespace CsiPowerscale
open GoLib Stores Effects Effects.Prog IsiService OneFS

namespace Controller

variable {svc : Service} {F : Faults Call Err OneFS} {s t u : OneFS} {volumeID : Str} {v : VolumeID}
  {e : Export} {path isiPath : Str}

/-- Failures that attempts to delete an export-backed volume get over: nothing that exists is said
to be missing, and what is deleted after the export, by which a later attempt finds the volume, is
deleted. -/
def exportBackedTolerates : Faults Call Err OneFS := fun s c err =>
  match c with
  | .getExportByID .. | .clearQuota .. => err.jsonStatus ≠ some 404
  | .getWritableSnapshot p =>
    s.writableAt p = true → isIgnorableWritableSnapshotLookupError err = false
  | .deleteWritableSnapshot _ => False
  | .getVolume base name | .deleteVolume base name => s.hasDir (namespacePath base name) = false
  | _ => True

def directoryBackedTolerates : Faults Call Err OneFS := fun s c err =>
  match c with
  | .getExportByID .. => err.jsonStatus ≠ some 404
  | .getQuotaWithPath p => s.quotaAt p = none
  | .getVolume base name => s.hasDir (namespacePath base name) = false
  | _ => True

theorem quotaById_dropQuota : (s.dropQuota i).quotaById i = none := by
  refine Registry.find?_none.2 fun q hq => ?_
  simpa using (mem_dropQuota.1 hq).2

theorem writableAt_dropWritable : (s.dropWritable p).writableAt p = false := by
  rw [writableAt, Bool.eq_false_iff]
  intro h
  obtain ⟨x, hx, hdst⟩ := Table.has_iff.1 h
  exact (mem_dropWritable.1 hx).2 hdst

theorem under_self (p : Str) : under p p = true := by simp [under]

theorem hasDir_rmdir : (s.rmdir p).hasDir p = false := by
  rw [hasDir, Bool.eq_false_iff]
  intro h
  obtain ⟨d, hd, hpath⟩ := Table.has_iff.1 h
  have hunder := (mem_rmdir.1 hd).2
  rw [hpath, under_self] at hunder
  cases hunder

theorem deleteExportQuota_clears (hfound : s.exportById i z = some e) :
    wp array exportBackedTolerates (deleteExportQuota name i z) (fun r t => t.exports = s.exports ∧
      (r = .ok () → t.quotaById (getQuotaIDFromDescription e) = none)) s := by
  unfold deleteExportQuota deleteQuotaByExportIDWithZone
  rw [wp_bind, wp_attempt, wp_bind, wp_ask]
  constructor
  · simp only [array_act, OneFS.serve, hfound, Option.map_some, OneFS.reply, andThen_ok]
    split
    · rename_i htag
      exact ⟨rfl, fun _ => htag ▸ s.quotaById_nil⟩
    rw [wp_op]
    constructor
    · simp only [array_act, OneFS.serve, OneFS.change]
      split
      · exact ⟨rfl, fun _ => quotaById_dropQuota⟩
      · rename_i hq
        exact ⟨rfl, fun _ => by simpa using hq⟩
    · intro err herr
      rw [andThen_ok]
      dsimp only
      rw [if_neg herr]
      exact ⟨rfl, by rintro ⟨⟩⟩
  · intro err _
    exact ⟨rfl, by rintro ⟨⟩⟩

theorem deleteExport_removes (hfound : s.exportById i z = some e)
    (hpath : getPathForVolume isiPath name ∈ e.paths) :
    wp array exportBackedTolerates (deleteExport isiPath name i z) (fun r t => t.quotas = s.quotas ∧
      (r = .ok () → t.exportById i z = none) ∧ (r ≠ .ok () → t.exports = s.exports)) s := by
  have hsat := Registry.find?_sat hfound
  simp only [decide_eq_true_eq] at hsat
  have hmem : e ∈ s.exportsAt (getPathForVolume isiPath name) z :=
    List.mem_filter.2 ⟨Registry.find?_mem hfound, by simpa using ⟨hpath, hsat.2⟩⟩
  have hstay : ∀ err : Err, s.quotas = s.quotas ∧
      ((.error err : Except Err Unit) = .ok () → s.exportById i z = none) ∧
      ((.error err : Except Err Unit) ≠ .ok () → s.exports = s.exports) :=
    fun err => ⟨rfl, by rintro ⟨⟩, fun _ => rfl⟩
  unfold deleteExport getExportsWithParams rename
  rw [wp_bind, wp_bind, wp_ask]
  refine ⟨?_, fun err _ => hstay _⟩
  simp only [array_act, OneFS.serve, andThen_ok, wp_ret]
  rcases hx : s.exportsAt (getPathForVolume isiPath name) z with _ | ⟨x, _ | ⟨y, rest⟩⟩
  · simp [hx] at hmem
  · obtain rfl : e = x := by simpa [hx] using hmem
    simp only [hsat.1, if_true]
    unfold unexportByIDWithZone rename
    rw [wp_bind, wp_ask]
    refine ⟨?_, fun err _ => hstay _⟩
    simp only [array_act, OneFS.serve, OneFS.change, hfound, Option.isSome_some, if_true]
    exact ⟨rfl, fun _ => exportById_dropExport _ _ _, fun h => absurd rfl h⟩
  · exact hstay _

theorem ignorable_notFound : isIgnorableWritableSnapshotDeleteError OneFS.notFound = true := by decide

structure SameExports (s t : OneFS) : Prop where
  quotas : t.quotas = s.quotas
  exports : t.exports = s.exports

theorem deleteWritableSnapshot_removes : wp array exportBackedTolerates (deleteWritableSnapshot path)
    (fun r t => r = .ok () ∧ t.writableAt path = false ∧ SameExports s t) s := by
  have hdelete : wp array exportBackedTolerates (deleteWritableSnapshot.delete path)
      (fun r t => r = .ok () ∧ t.writableAt path = false ∧ SameExports s t) s := by
    unfold deleteWritableSnapshot.delete
    rw [wp_bind, wp_ask]
    refine ⟨?_, fun err herr => herr.elim⟩
    simp only [array_act, OneFS.serve, OneFS.change]
    split
    · exact ⟨rfl, writableAt_dropWritable, rfl, rfl⟩
    · rename_i hno
      simp only [andThen_ok, ignorable_notFound, if_true]
      exact ⟨rfl, by simpa using hno, rfl, rfl⟩
  unfold deleteWritableSnapshot
  rw [wp_bind, wp_ask]
  constructor
  · simp only [array_act, OneFS.serve]
    cases hx : s.writables.rows.find? fun x => x.dstPath = path with
    | some x => exact hdelete
    | none =>
      have hno : s.writableAt path = false := by
        rw [writableAt, Table.has, List.any_eq_false]
        simpa using hx
      have hquiet : isIgnorableWritableSnapshotLookupError OneFS.notFound = true := by decide
      simp only [OneFS.reply, andThen_ok, hquiet, if_true]
      exact ⟨rfl, hno, rfl, rfl⟩
  · intro err herr
    rw [andThen_ok]
    dsimp only
    split
    · rename_i hignore
      refine ⟨rfl, ?_, rfl, rfl⟩
      by_contra hhas
      rw [herr (by simpa using hhas)] at hignore
      cases hignore
    · exact hdelete

theorem deleteDirectory_removes (base name : Str)
    (hlook : ∀ u err, F u (.getVolume base name) err → u.hasDir (namespacePath base name) = false) :
    wp array F (deleteDirectory base name) (fun r t => SameExports s t ∧ t.writables = s.writables ∧
      (r = .ok () → t.hasDir (namespacePath base name) = false) ∧
      ((∀ u err, F u (.deleteVolume base name) err → u.hasDir (namespacePath base name) = false) →
        r = .ok ())) s := by
  unfold deleteDirectory isVolumeExistent
  rw [wp_bind, wp_bind, wp_ask]
  refine ⟨?_, fun err herr => ⟨⟨rfl, rfl⟩, rfl, fun _ => hlook s err herr, fun _ => rfl⟩⟩
  simp only [array_act, OneFS.serve]
  by_cases hdir : s.hasDir (namespacePath base name) = true
  · simp only [hdir, if_true, OneFS.reply, andThen_ok, pure_eq, wp_ret, Except.isOk, Except.toBool]
    unfold IsiService.deleteVolume rename
    rw [wp_bind, wp_ask]
    refine ⟨?_, fun err herr => ⟨⟨rfl, rfl⟩, rfl, by rintro ⟨⟩, fun hdelete => ?_⟩⟩
    · simp only [array_act, OneFS.serve, OneFS.change, hdir, if_true]
      exact ⟨⟨rfl, rfl⟩, rfl, fun _ => hasDir_rmdir, fun _ => rfl⟩
    · exact absurd (hdir.symm.trans (hdelete s err herr)) (by decide)
  · have hno : s.hasDir (namespacePath base name) = false := by simpa using hdir
    rw [if_neg hdir]
    exact ⟨⟨rfl, rfl⟩, rfl, fun _ => hno, fun _ => rfl⟩

structure ExportBackedGone (v : VolumeID) (path quotaID : Str) (s : OneFS) : Prop where
  directory : s.hasDir path = false
  quota : s.quotaById quotaID = none
  writable : s.writableAt path = false
  exported : s.exportById v.exportID v.accessZone = none

def Attempted (v : VolumeID) (path : Str) (e : Export) (s : OneFS) (r : Except Err Unit)
    (t : OneFS) : Prop :=
  (t.exports = s.exports ∧ r ≠ .ok ()) ∨ ExportBackedGone v path (getQuotaIDFromDescription e) t

theorem exportBacked_attempt (h : ExportBackedAt s volumeID v path isiPath)
    (he : s.exportById v.exportID v.accessZone = some e) (hu : u.exports = s.exports) :
    wp array exportBackedTolerates (deleteVolume svc volumeID) (Attempted v path e s) u := by
  have hstay (err : Err) {t : OneFS} (ht : t.exports = s.exports) :
      Attempted v path e s (.error err) t := .inl ⟨ht, by rintro ⟨⟩⟩
  have hfind {t : OneFS} (ht : t.exports = s.exports) :
      t.exportById v.exportID v.accessZone = some e := by
    rw [OneFS.exportById, ht]
    exact he
  refine deleteVolume_wp h.parse (fun err => hstay err hu) (fun hnone => ?_)
    (fun err herr hstatus => absurd hstatus herr) fun _ e' he' => ?_
  · rw [hfind hu] at hnone
    cases hnone
  obtain rfl : e = e' := Option.some.inj ((hfind hu).symm.trans he')
  obtain ⟨rest, hrest⟩ := List.head?_eq_some_iff.1 (h.paths e he)
  have hl : Located u volumeID v e path isiPath :=
    ⟨parse_nonempty h.parse, h.parse, he', ⟨rest, hrest⟩, h.parent⟩
  rw [deleteExported_exportBacked hl h.backed]
  refine wp_seq (deleteExportQuota_clears he') (fun err t ht => hstay err (ht.1.trans hu)) ?_
  intro _ t ht
  refine wp_seq (deleteExport_removes (hfind (ht.1.trans hu)) (by simp [← h.name, hrest]))
    (fun err x hx => hstay err ((hx.2.2 (by rintro ⟨⟩)).trans (ht.1.trans hu))) ?_
  intro _ x hx
  rw [wp_bind]
  refine wp_mono deleteWritableSnapshot_removes fun r y hy => ?_
  obtain ⟨rfl, hyw, hys⟩ := hy
  refine wp_mono (deleteDirectory_removes _ _ fun _ _ herr => herr) fun r z hz => .inr ?_
  obtain ⟨hzs, hzw, hzd, hzok⟩ := hz
  have hgone := hzd (hzok fun _ _ herr => herr)
  rw [namespacePath_eq_getPathForVolume h.rooted, ← h.name] at hgone
  rw [← h.name] at hyw
  refine ⟨hgone, ?_, ?_, ?_⟩
  · rw [quotaById, hzs.quotas, hys.quotas, hx.1]
    exact ht.2 rfl
  · rw [writableAt, hzw]
    exact hyw
  · rw [OneFS.exportById, hzs.exports, hys.exports]
    exact hx.2.1 rfl

theorem ExportBackedGone.attempt (hparse : parseNormalizedVolumeID volumeID = .ok v)
    (h : ExportBackedGone v path quotaID s) : wp array F (deleteVolume svc volumeID)
      (fun _ t => ExportBackedGone v path quotaID t) s := by
  refine deleteVolume_wp hparse (fun _ => h) (fun _ => h) (fun _ _ _ => h) fun _ e he => ?_
  rw [h.exported] at he
  cases he

theorem exportBacked_complete (h : ExportBackedAt s volumeID v path isiPath)
    (he : s.exportById v.exportID v.accessZone = some e)
    (hattempts : Attempts array exportBackedTolerates (deleteVolume svc volumeID) s t)
    (hok : Outcome array exportBackedTolerates (deleteVolume svc volumeID) t (.ok ()) u) :
    ExportBackedGone v path (getQuotaIDFromDescription e) u := by
  have hinv : t.exports = s.exports ∨ ExportBackedGone v path (getQuotaIDFromDescription e) t := by
    refine hattempts.invariant (I := fun t => t.exports = s.exports ∨
      ExportBackedGone v path (getQuotaIDFromDescription e) t) (fun u hu => ?_) (.inl rfl)
    rcases hu with hu | hu
    · exact wp_mono (exportBacked_attempt h he hu) fun r x hx => hx.imp_left And.left
    · exact wp_mono (hu.attempt h.parse) fun r x hx => .inr hx
  rcases hinv with ht | ht
  · exact (wp_iff_outcome.1 (exportBacked_attempt h he ht) _ _ hok).resolve_left fun hx => hx.2 rfl
  · exact wp_iff_outcome.1 (ht.attempt h.parse) _ _ hok

structure DirectoryBackedGone (path : Str) (s : OneFS) : Prop where
  directory : s.hasDir path = false
  quota : s.quotaAt path = none
  writable : s.writableAt path = false

theorem quotaAt_dropQuota (hq : s.quotaAt path = some q) :
    (s.dropQuota q.id).quotaAt path = none := by
  refine Catalog.at?_none.2 fun r hr hpath => ?_
  obtain ⟨hmem, hid⟩ := mem_dropQuota.1 hr
  rw [Catalog.eq_of_key hmem (Catalog.at?_mem hq) (hpath.trans (Catalog.at?_key hq).symm)] at hid
  exact hid rfl

theorem deleteDirectoryQuota_clears : wp array directoryBackedTolerates
    (deleteDirectoryQuota path name) (fun r t => t.exports = s.exports ∧ t.writables = s.writables ∧
      (r = .ok () → t.quotaAt (getPathForVolume path name) = none)) s := by
  unfold deleteDirectoryQuota getQuotaByPath rename
  rw [wp_bind, wp_attempt, wp_bind, wp_ask]
  refine ⟨?_, fun err herr => ⟨rfl, rfl, fun _ => herr⟩⟩
  simp only [array_act, OneFS.serve]
  cases hq : s.quotaAt (getPathForVolume path name) with
  | none => exact ⟨rfl, rfl, fun _ => hq⟩
  | some q =>
    simp only [OneFS.reply, andThen_ok, wp_ret]
    unfold clearQuotaByID rename
    rw [if_neg q.id_ne_nil, wp_bind, wp_attempt, wp_bind, wp_ask]
    refine ⟨?_, fun err _ => ⟨rfl, rfl, by rintro ⟨⟩⟩⟩
    simp only [array_act, OneFS.serve, OneFS.change, quotaById_of_mem (Catalog.at?_mem hq),
      Option.isSome_some, if_true]
    exact ⟨rfl, rfl, fun _ => quotaAt_dropQuota hq⟩

theorem directoryBacked_deleteWritableSnapshot (hw : s.writableAt path = false) :
    wp array F (deleteWritableSnapshot p)
      (fun _ t => t.quotas = s.quotas ∧ t.exports = s.exports ∧ t.writableAt path = false) s := by
  refine wp_of_uses (U := fun c => c.IsRead ∨ c = .deleteWritableSnapshot p)
    (deleteWritableSnapshot_uses (fun c hc => .inl hc) (.inr rfl)) ?_ ⟨rfl, rfl, hw⟩
  rintro c t (hc | rfl) ht
  · rwa [hc.serve t]
  simp only [array_act, OneFS.serve, OneFS.change]
  split
  · refine ⟨ht.1, ht.2.1, ?_⟩
    rw [writableAt, Bool.eq_false_iff]
    intro hhas
    obtain ⟨x, hx, hdst⟩ := Table.has_iff.1 hhas
    have hstill : t.writableAt path = true :=
      Table.has_iff.2 ⟨x, (mem_dropWritable.1 hx).1, hdst⟩
    rw [ht.2.2] at hstill
    cases hstill
  · exact ht

def Deleting (v : VolumeID) (shared : Str) (s t : OneFS) : Prop :=
  t.exports = s.exports ∧ t.writableAt (getPathForVolume shared v.volName) = false

theorem directoryBacked_attempt (h : DirectoryBackedAt s volumeID v shared parent)
    (hsome : (s.exportById v.exportID v.accessZone).isSome = true) (hu : Deleting v shared s u) :
    wp array directoryBackedTolerates (deleteVolume svc volumeID) (fun r t => Deleting v shared s t ∧
      (r = .ok () → DirectoryBackedGone (getPathForVolume shared v.volName) t)) u := by
  have hstay (err : Err) {t : OneFS} (ht : Deleting v shared s t) : Deleting v shared s t ∧
      ((.error err : Except Err Unit) = .ok () →
        DirectoryBackedGone (getPathForVolume shared v.volName) t) := ⟨ht, by rintro ⟨⟩⟩
  have hfind : u.exportById v.exportID v.accessZone = s.exportById v.exportID v.accessZone := by
    rw [OneFS.exportById, hu.1]
    rfl
  refine deleteVolume_wp (parse_of_mode h.parse) (fun err => hstay err hu) (fun hnone => ?_)
    (fun err herr hstatus => absurd hstatus herr) fun _ e he => ?_
  · rw [← hfind, hnone] at hsome
    cases hsome
  rw [deleteExported_directoryBacked h (hfind ▸ he), wp_bind]
  refine wp_mono deleteDirectoryQuota_clears fun r t ht => ?_
  have hdt : Deleting v shared s t := by
    refine ⟨ht.1.trans hu.1, ?_⟩
    rw [writableAt, ht.2.1]
    exact hu.2
  cases r with
  | error err => exact hstay err hdt
  | ok _ =>
    refine wp_seq (directoryBacked_deleteWritableSnapshot hdt.2)
      (fun err x hx => hstay err ⟨hx.2.1.trans hdt.1, hx.2.2⟩) ?_
    intro _ x hx
    refine wp_mono (deleteDirectory_removes _ _ fun _ _ herr => herr) fun r y hy => ?_
    obtain ⟨hys, hyw, hyd, -⟩ := hy
    have hwy : y.writableAt (getPathForVolume shared v.volName) = false := by
      rw [writableAt, hyw]
      exact hx.2.2
    refine ⟨⟨hys.exports.trans (hx.2.1.trans hdt.1), hwy⟩, fun hr => ⟨?_, ?_, hwy⟩⟩
    · rw [← namespacePath_eq_getPathForVolume h.rooted]
      exact hyd hr
    · rw [quotaAt, hys.quotas, hx.1]
      exact ht.2.2 rfl

theorem directoryBacked_complete (h : DirectoryBackedAt s volumeID v shared parent)
    (hsome : (s.exportById v.exportID v.accessZone).isSome = true)
    (hw : s.writableAt (getPathForVolume shared v.volName) = false)
    (hattempts : Attempts array directoryBackedTolerates (deleteVolume svc volumeID) s t)
    (hok : Outcome array directoryBackedTolerates (deleteVolume svc volumeID) t (.ok ()) u) :
    DirectoryBackedGone (getPathForVolume shared v.volName) u := by
  have hinv := hattempts.invariant (I := Deleting v shared s)
    (fun u hu => wp_mono (directoryBacked_attempt h hsome hu) fun r x hx => hx.1) ⟨rfl, hw⟩
  exact (wp_iff_outcome.1 (directoryBacked_attempt h hsome hinv) _ _ hok).2 rfl

end Controller

namespace CreateVolumeRequest

variable (svc : Service) (req : CreateVolumeRequest)

def path : Str := getPathForVolume (req.base svc) req.name

def exportPath : Str := (req.sharedPath).getD (req.path svc)

/-- The names of the volume are read back from identifiers and paths as they were written: they have
no separators, the exported path is the first one of its export, and export numbers are 64-bit
integers. -/
structure ReadsBack (s : OneFS) : Prop where
  base : Rooted (req.base svc)
  name : Plain req.name
  nameField : IDField req.name
  zone : IDField (req.accessZone svc)
  cluster : ∀ c, req.clusterName svc = some c → IDField c
  live : isROVolumeFromSnapshot (req.exportPath svc) (req.accessZone svc) = false
  first : ∀ e ∈ s.exports, req.exportPath svc ∈ e.paths → e.paths.head? = some (req.exportPath svc)
  number : ∀ e ∈ s.exports, e.id < 2 ^ 63

end CreateVolumeRequest

namespace Controller

variable {svc : Service} {req : CreateVolumeRequest} {s₀ s₁ : OneFS} {vol : Volume}

theorem createVolume_exportBackedAt (hcv : Outcome array .any (createVolume svc req) s₀
      (.ok (some vol)) s₁) (hro : req.readOnly svc = false) (hshared : req.sharedPath = none)
    (h : req.ReadsBack svc s₁) : ∃ v e isiPath,
      ExportBackedAt s₁ vol.volumeID v (req.path svc) isiPath ∧
        s₁.exportById v.exportID v.accessZone = some e := by
  have hbase : req.base svc = req.root svc := by rw [CreateVolumeRequest.base, hshared]; rfl
  have hroot : Rooted (req.root svc) := hbase ▸ h.base
  have hpath : req.path svc = getPathForVolume (req.root svc) req.name := by
    rw [CreateVolumeRequest.path, hbase]
  have hexp : req.exportPath svc = req.path svc := by
    rw [CreateVolumeRequest.exportPath, hshared]
    rfl
  obtain ⟨e, he, hin, hz, c, hc, hid⟩ := createVolume_exportBacked hcv hshared hro hroot h.name
  have hcf := h.cluster c hc
  have hlo : -2 ^ 63 ≤ e.id := by unfold Export.id; omega
  have hparse := parse_getNormalizedVolumeID hlo (h.number e he) h.nameField (hz ▸ h.zone)
    (hcf.not_contains (by decide))
  rw [← hid] at hparse
  have hfound := exportById_of_mem he
  have hparent := getIsiPathFromExportPath_volume hroot h.name
  have hback := getPathForVolume_base hroot h.name
  rw [← hpath] at hin hparent hback
  have hv := parse_of_mode hparse
  refine ⟨⟨req.name, e.id, e.zone, c⟩, e, absBase (resolve true [] (segments (req.root svc))),
    ⟨hv, absBase_rooted _, hparent, hback.symm, ⟨?_, ?_⟩, fun x hx => ?_⟩, hfound⟩
  · change isROVolumeFromSnapshot (req.path svc) e.zone = false
    rw [hz, ← hexp]
    exact h.live
  · simp [isDirectoryBacked, hparse, hback]
  · obtain rfl : e = x := Option.some.inj (hfound.symm.trans hx)
    rw [← hexp] at hin ⊢
    exact h.first e he hin

theorem createVolume_directoryBackedAt (hcv : Outcome array .any (createVolume svc req) s₀
      (.ok (some vol)) s₁) (hshared : req.sharedPath = some shared) (h : req.ReadsBack svc s₁) :
    ∃ v parent, DirectoryBackedAt s₁ vol.volumeID v shared parent ∧ v.volName = req.name ∧
      (s₁.exportById v.exportID v.accessZone).isSome = true := by
  have hbase : req.base svc = shared := by rw [CreateVolumeRequest.base, hshared]; rfl
  have hexp : req.exportPath svc = shared := by
    rw [CreateVolumeRequest.exportPath, hshared]
    rfl
  have hroot : Rooted shared := hbase ▸ h.base
  obtain ⟨e, he, hin, hz, c, hc, hid⟩ := createVolume_directoryBacked hcv hshared
  have hlo : -2 ^ 63 ≤ e.id := by unfold Export.id; omega
  have hparse := parse_getDirectoryBackedVolumeID hlo (h.number e he) h.nameField (hz ▸ h.zone)
    (h.cluster c hc)
  rw [← hid] at hparse
  have hfound := exportById_of_mem he
  obtain ⟨parent, hparent⟩ : ∃ parent, getIsiPathFromExportPath shared = some parent := by
    have hne : shared ≠ [] := by
      rintro rfl
      cases hroot
    unfold getIsiPathFromExportPath
    rw [if_neg hne]
    split <;> exact ⟨_, rfl⟩
  refine ⟨⟨req.name, e.id, e.zone, c⟩, parent, ⟨hparse, hroot, hparent, ?_, fun x hx => ?_⟩, rfl,
    by simp [hfound]⟩
  · change isROVolumeFromSnapshot shared e.zone = false
    rw [hz, ← hexp]
    exact h.live
  · obtain rfl : e = x := Option.some.inj (hfound.symm.trans hx)
    rw [← hexp] at hin ⊢
    exact h.first e he hin

/-- A volume that `CreateVolume` has returned is gone once an attempt to delete it succeeds, after
any failures that the attempts get over. A directory-backed volume may not be a writable snapshot:
its record is never found. -/
theorem deleteVolume_retries_complete
    (hcv : Outcome array .any (createVolume svc req) s₀ (.ok (some vol)) s₁)
    (hro : req.readOnly svc = false) (h : req.ReadsBack svc s₁) :
    (req.sharedPath = none → ∃ v e, parseNormalizedVolumeID vol.volumeID = .ok v ∧
      s₁.exportById v.exportID v.accessZone = some e ∧ ∀ s t,
        Attempts array exportBackedTolerates (deleteVolume svc vol.volumeID) s₁ s →
        Outcome array exportBackedTolerates (deleteVolume svc vol.volumeID) s (.ok ()) t →
          ExportBackedGone v (req.path svc) (getQuotaIDFromDescription e) t) ∧
    (req.sharedPath ≠ none → s₁.writableAt (req.path svc) = false → ∀ s t,
      Attempts array directoryBackedTolerates (deleteVolume svc vol.volumeID) s₁ s →
      Outcome array directoryBackedTolerates (deleteVolume svc vol.volumeID) s (.ok ()) t →
        DirectoryBackedGone (req.path svc) t) := by
  constructor
  · intro hshared
    obtain ⟨v, e, isiPath, hat, he⟩ := createVolume_exportBackedAt hcv hro hshared h
    exact ⟨v, e, hat.parse, he, fun s t hs ht => exportBacked_complete hat he hs ht⟩
  · intro hsome hw s t hs ht
    obtain ⟨shared, hshared⟩ := Option.ne_none_iff_exists'.1 hsome
    obtain ⟨v, parent, hat, hname, he⟩ := createVolume_directoryBackedAt hcv hshared h
    have hpath : req.path svc = getPathForVolume shared v.volName := by
      rw [CreateVolumeRequest.path, CreateVolumeRequest.base, hshared, hname]
      rfl
    rw [hpath] at hw ⊢
    exact directoryBacked_complete hat he hw hs ht

def withVol1 : OneFS := (run array (createVolume oneCluster (newVolume "vol1")) .fresh).2

theorem createVolume_vol1 : ∃ vol, Outcome array .any (createVolume oneCluster (newVolume "vol1"))
    .fresh (.ok (some vol)) withVol1 ∧ vol.volumeID = "vol1=_=_=1=_=_=System=_=_=c1" := by
  obtain ⟨vol, hvol, hid⟩ : ∃ vol, (run array (createVolume oneCluster (newVolume "vol1")) .fresh).1 =
    .ok (some vol) ∧ vol.volumeID = "vol1=_=_=1=_=_=System=_=_=c1" := ⟨_, rfl, by decide⟩
  exact ⟨vol, .of_run (Prod.ext hvol rfl), hid⟩

theorem newVolume_readsBack : (newVolume "vol1").ReadsBack oneCluster withVol1 where
  base := by decide
  name := by decide
  nameField := by decide
  zone := by decide
  cluster := by
    have hc : (newVolume "vol1").clusterName oneCluster = some "c1" := by decide
    rw [hc]
    rintro c ⟨⟩
    decide
  live := by decide
  first := (by decide : ∀ e ∈ withVol1.exports.rows, _)
  number := (by decide : ∀ e ∈ withVol1.exports.rows, _)

/-- A first attempt that fails to remove the export is got over. -/
theorem deleteVolume_retries_vol1 : ∃ (vol : Volume) (v : VolumeID) (e : Export) (err : Err)
    (s t : OneFS), parseNormalizedVolumeID vol.volumeID = .ok v ∧
    withVol1.exportById v.exportID v.accessZone = some e ∧
    Outcome array exportBackedTolerates (deleteVolume oneCluster vol.volumeID) withVol1 (.error err) s ∧
    Outcome array exportBackedTolerates (deleteVolume oneCluster vol.volumeID) s (.ok ()) t ∧
    ExportBackedGone v ((newVolume "vol1").path oneCluster) (getQuotaIDFromDescription e) t := by
  obtain ⟨vol, hcv, hid⟩ := createVolume_vol1
  obtain ⟨v, e, hv, he, h⟩ :=
    (deleteVolume_retries_complete hcv (by decide) newVolume_readsBack).1 (by decide)
  obtain ⟨err, s, hfirst, hrun⟩ : ∃ err s, Outcome array exportBackedTolerates
      (deleteVolume oneCluster "vol1=_=_=1=_=_=System=_=_=c1") withVol1 (.error err) s ∧
      (run array (deleteVolume oneCluster "vol1=_=_=1=_=_=System=_=_=c1") s).1 = .ok () :=
    ⟨_, _, .served (.served (.served (.served (.faulted (e := .deadline) trivial .fail)))), by decide⟩
  rw [← hid] at hfirst hrun
  have hlast := Outcome.of_run (F := exportBackedTolerates) (Prod.ext hrun rfl)
  exact ⟨vol, v, e, err, s, _, hv, he, hfirst, hlast, h _ _ (.single ⟨_, hfirst⟩) hlast⟩

def halfDeleted : OneFS :=
  (exec array (deleteVolume oneCluster "vol1=_=_=1=_=_=System=_=_=c1")
    (List.replicate 7 none ++ [some (.json 500 "busy")]) withVol1).2

theorem deleteVolume_halfDeleted :
    (run array (deleteVolume oneCluster "vol1=_=_=1=_=_=System=_=_=c1") halfDeleted).1 = .ok () := by
  decide

/-- The request to delete the directory fails once: the second attempt finds no export, succeeds and
leaves the directory. -/
theorem deleteVolume_retry_leaves_directory :
    (∃ vol, Outcome array .any (createVolume oneCluster (newVolume "vol1")) .fresh (.ok (some vol))
      withVol1 ∧ vol.volumeID = "vol1=_=_=1=_=_=System=_=_=c1") ∧
    ¬ ∀ s t, Attempts array .any (deleteVolume oneCluster "vol1=_=_=1=_=_=System=_=_=c1") withVol1 s →
      Outcome array .any (deleteVolume oneCluster "vol1=_=_=1=_=_=System=_=_=c1") s (.ok ()) t →
        ExportBackedGone ⟨"vol1", 1, "System", "c1"⟩ "/ifs/data/vol1" "0" t := by
  apply And.intro createVolume_vol1
  intro h
  have hfirst : Attempts array .any (deleteVolume oneCluster "vol1=_=_=1=_=_=System=_=_=c1") withVol1
      halfDeleted := .single ⟨_, exec_outcome _ _ _⟩
  have hsecond := run_outcome (w := array) (F := .any)
    (deleteVolume oneCluster "vol1=_=_=1=_=_=System=_=_=c1") halfDeleted
  rw [deleteVolume_halfDeleted] at hsecond
  exact absurd (h _ _ hfirst hsecond).directory (by decide)

end Controller
end CsiPowerscale
