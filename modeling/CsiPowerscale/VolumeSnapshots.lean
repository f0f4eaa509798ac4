import CsiPowerscale.QuotaThresholds

namespace CsiPowerscale
open GoLib Stores Effects Effects.Prog

theorem OneFS.snapshotByIdentity_of_mem {s : OneFS} (hz : z ∈ s.snapshots) :
    ∃ y, s.snapshotByIdentity z.name = some y := by
  apply Registry.find?_isSome hz
  simp

namespace Controller

def snapshotBase (sourceVolumeID exportPath : Str) : Option Str :=
  if isDirectoryBackedSource sourceVolumeID then some exportPath
  else getIsiPathFromExportPath exportPath

structure SourceVolume where
  id : VolumeID
  clusterName : Str
  isiPath : Str

def SourceVolume.path (x : SourceVolume) : Str := getPathForVolume x.isiPath x.id.volName

structure Resolves (svc : Service) (s : OneFS) (sourceVolumeID : Str) (x : SourceVolume) : Prop where
  parse : parseNormalizedVolumeID sourceVolumeID = .ok x.id
  cluster : ∃ cfg, svc.getIsilonConfig x.id.clusterName = .ok (x.clusterName, cfg) ∧
    (cfg.isiSvc = true ∨ svc.autoProbeEnabled = true)
  base : ∃ e exportPath rest, s.exportById x.id.exportID x.id.accessZone = some e ∧
    e.paths = exportPath :: rest ∧ snapshotBase sourceVolumeID exportPath = some x.isiPath
  dir : s.hasDir (namespacePath x.isiPath x.id.volName) = true

/-- An answer other than an error is for the snapshot `z` of the requested volume, whatever fails on
the way; a snapshot of another volume is refused. -/
structure ReturnsOwn (svc : Service) (s : OneFS) (sourceVolumeID : Str) (z : Snapshot) : Prop where
  own : ∀ fs resp t, exec array (createSnapshot svc sourceVolumeID z.name) fs s = (.ok resp, t) →
    ∃ x, Resolves svc s sourceVolumeID x ∧ z.path = x.path ∧
      resp.snapshotID = getNormalizedSnapshotID (natToStr z.num) x.clusterName x.id.accessZone
  refused : ∀ x, Resolves svc s sourceVolumeID x → z.name ≠ [] → z.path ≠ x.path →
    ∃ m, (run array (createSnapshot svc sourceVolumeID z.name) s).1 =
      .error (.status .alreadyExists m)

def FindsOwn (svc : Service) (s : OneFS) (sourceVolumeID : Str) (z : Snapshot) : Prop :=
  ∀ x, Resolves svc s sourceVolumeID x → z.name ≠ [] → ∀ y, s.snapshotByIdentity z.name = some y →
    baseName y.path = x.id.volName → y = z ∧ z.path = x.path

variable {svc : Service} {s : OneFS} {sourceVolumeID name clusterName isiPath : Str}
  {v : VolumeID} {x : SourceVolume} {y z : Snapshot}

theorem getNormalizedSnapshotID_injective
    (h : getNormalizedSnapshotID i clusterName accessZone = getNormalizedSnapshotID j clusterName
      accessZone) : i = j := by
  simpa [getNormalizedSnapshotID, sprintf] using h

theorem getSnapshotSize_wp (h : ∀ size, Q (.ok size) s) (accessZone : Str) :
    wp array .any (IsiService.getSnapshotSize isiPath name accessZone) Q s := by
  unfold IsiService.getSnapshotSize
  simp only [wp_bind, wp_ask, array_act, OneFS.serve]
  constructor
  · cases s.snapshotByName name with
    | none => exact h 0
    | some y => exact h _
  · intro e _
    exact h 0

theorem newSnapshot_taken (hz : z ∈ s.snapshots) (path : Str) :
    ∃ e, s.newSnapshot path z.name = (.error e, s) := by
  have htaken : s.snapshotByName z.name ≠ none := by
    intro hnone
    exact Catalog.at?_none.1 hnone z hz rfl
  unfold OneFS.newSnapshot
  split
  · exact ⟨_, rfl⟩
  · exact ⟨_, rfl⟩

theorem validateCreateSnapshotRequest_wp (herr : ∀ e, Q (.error e) s)
    (hok : s.hasDir (namespacePath isiPath volName) = true → name ≠ [] → Q (.ok ()) s) :
    wp array .any (validateCreateSnapshotRequest svc isiPath volName name) Q s := by
  unfold validateCreateSnapshotRequest
  apply isVolumeExistent_wp
  · intro hdir
    by_cases hname : name = []
    · rw [if_pos rfl, if_pos hname]
      exact herr _
    · rw [if_pos rfl, if_neg hname]
      exact hok hdir hname
  · exact herr _

theorem snapshotVolume_wp {Q : Except Err CSISnapshot → OneFS → Prop}
    (herr : ∀ e, Q (.error e) s) (hz : z ∈ s.snapshots)
    (hok : s.hasDir (namespacePath isiPath v.volName) = true → z.name ≠ [] →
      ∀ y, s.snapshotByIdentity z.name = some y → baseName y.path = v.volName →
      ∀ size, Q (.ok (getCreateSnapshotResponse y sourceVolumeID clusterName v.accessZone size)) s) :
    wp array .any (snapshotVolume svc sourceVolumeID z.name clusterName isiPath v) Q s := by
  obtain ⟨y, hy⟩ := OneFS.snapshotByIdentity_of_mem hz
  obtain ⟨err, htaken⟩ := newSnapshot_taken hz (getPathForVolume isiPath v.volName)
  unfold snapshotVolume
  rw [wp_bind, wp_attempt]
  apply validateCreateSnapshotRequest_wp
  · intro e
    exact herr _
  intro hdir hname
  simp only [andThen_ok, wp_bind, wp_ask, array_act, OneFS.serve, hy, OneFS.reply]
  constructor
  · by_cases hbase : baseName y.path = v.volName
    · rw [if_pos hbase, wp_bind]
      apply getSnapshotSize_wp
      intro size
      exact hok hdir hname y hy hbase size
    · rw [if_neg hbase]
      exact herr _
  · -- the look-up fails, and the array refuses the name
    intro e _
    simp only [htaken]
    constructor
    · exact herr _
    · intro e' _
      exact herr _

theorem createSnapshot_wp {herr : ∀ e, Q (.error e) s} (hz : z ∈ s.snapshots)
    (hok : ∀ x, Resolves svc s sourceVolumeID x → z.name ≠ [] → ∀ y, s.snapshotByIdentity z.name
      = some y → baseName y.path = x.id.volName → ∀ size, Q (.ok (getCreateSnapshotResponse y
      sourceVolumeID x.clusterName x.id.accessZone size)) s) :
    wp array .any (createSnapshot svc sourceVolumeID z.name) Q s := by
  unfold createSnapshot
  cases hparse : parseNormalizedVolumeID sourceVolumeID with
  | error e => exact herr _
  | ok v =>
    have hstate : wp array .any (readyCluster svc v.clusterName fun e =>
        .status .failedPrecondition (sprintf [" ReqID=", svc.runID, " ", e.text]))
        (fun _ t => t = s) s :=
      wp_of_uses readyCluster_reads (fun c t hc ht => (hc.serve t).trans ht) rfl
    apply wp_seq (wp_and hstate (wp_of_yields readyCluster_yields))
    · rintro e t ⟨rfl, -⟩
      exact herr e
    rintro ⟨clusterName, cfg⟩ t ⟨ht, hcfg⟩
    subst t
    have hcluster : ∃ cfg, svc.getIsilonConfig v.clusterName = .ok (clusterName, cfg) ∧
        (cfg.isiSvc = true ∨ svc.autoProbeEnabled = true) := ⟨cfg, hcfg _ rfl⟩
    have hvolume : ∀ e exportPath rest isiPath, s.exportById v.exportID v.accessZone = some e →
        e.paths = exportPath :: rest → snapshotBase sourceVolumeID exportPath = some isiPath →
        wp array .any (snapshotVolume svc sourceVolumeID z.name clusterName isiPath v) Q s := by
      intro e exportPath rest isiPath he hpaths hbase
      apply snapshotVolume_wp herr hz
      intro hdir
      exact hok ⟨v, clusterName, isiPath⟩
        ⟨hparse, hcluster, ⟨e, exportPath, rest, he, hpaths, hbase⟩, hdir⟩
    simp only [wp_bind, wp_ask, array_act, OneFS.serve]
    constructor
    · cases he : s.exportById v.exportID v.accessZone with
      | none => exact herr _
      | some e =>
        cases hpaths : e.paths with
        | nil =>
          simp only [Option.map_some, OneFS.reply, andThen_ok, hpaths]
          exact herr _
        | cons exportPath rest =>
          simp only [Option.map_some, OneFS.reply, andThen_ok, hpaths]
          by_cases hmode : isDirectoryBackedSource sourceVolumeID = true
          · rw [if_pos hmode]
            exact hvolume e exportPath rest exportPath he hpaths (if_pos hmode)
          rw [if_neg hmode]
          cases hisi : getIsiPathFromExportPath exportPath with
          | none => exact herr _
          | some isiPath =>
            exact hvolume e exportPath rest isiPath he hpaths ((if_neg hmode).trans hisi)
    · intro e _
      exact herr _

theorem run_createSnapshot (hx : Resolves svc s sourceVolumeID x) (hname : name ≠ [])
    (hy : s.snapshotByIdentity name = some y) :
    (baseName y.path = x.id.volName → ∃ size, run array (createSnapshot svc sourceVolumeID name) s =
      (.ok (getCreateSnapshotResponse y sourceVolumeID x.clusterName x.id.accessZone size), s)) ∧
    (baseName y.path ≠ x.id.volName → ∃ m, run array (createSnapshot svc sourceVolumeID name) s =
      (.error (.status .alreadyExists m), s)) := by
  obtain ⟨cfg, hcfg, hready⟩ := hx.cluster
  obtain ⟨e, exportPath, rest, he, hpaths, hbase⟩ := hx.base
  have hrun : run array (createSnapshot svc sourceVolumeID name) s =
      run array (snapshotVolume svc sourceVolumeID name x.clusterName x.isiPath x.id) s := by
    unfold createSnapshot
    simp only [hx.parse, readyCluster, hcfg, ofExcept_ok, ret_bind, run_bind, run_attempt,
      Service.run_autoProbe hready, run_ask, array_act, OneFS.serve, he, Option.map_some,
      OneFS.reply, run_ret, hpaths]
    unfold snapshotBase at hbase
    split at hbase
    · rename_i hmode
      cases hbase
      rw [if_pos hmode]
    · rename_i hmode
      rw [if_neg hmode, hbase]
  rw [hrun]
  unfold snapshotVolume validateCreateSnapshotRequest
  constructor
  · intro hlast
    simp [run_bind, hx.dir, hname, array_act, OneFS.serve, hy, OneFS.reply, hlast]
  · intro hlast
    simp [run_bind, hx.dir, hname, array_act, OneFS.serve, hy, OneFS.reply, hlast]

theorem Resolves.unique (hx : Resolves svc s sourceVolumeID x)
    (hx' : Resolves svc s sourceVolumeID x') : x' = x := by
  obtain ⟨v, clusterName, isiPath⟩ := x
  obtain ⟨v', clusterName', isiPath'⟩ := x'
  obtain ⟨cfg, hcfg, -⟩ := hx.cluster
  obtain ⟨cfg', hcfg', -⟩ := hx'.cluster
  obtain ⟨e, exportPath, rest, he, hpaths, hbase⟩ := hx.base
  obtain ⟨e', exportPath', rest', he', hpaths', hbase'⟩ := hx'.base
  cases hx.parse.symm.trans hx'.parse
  cases hcfg.symm.trans hcfg'
  cases he.symm.trans he'
  cases hpaths.symm.trans hpaths'
  cases hbase.symm.trans hbase'
  rfl

/-- The existing snapshot is returned for its own volume only, and others are refused, exactly when
the last path component tells the volumes apart. -/
theorem createSnapshot_reuse_iff (hz : z ∈ s.snapshots) :
    ReturnsOwn svc s sourceVolumeID z ↔ FindsOwn svc s sourceVolumeID z := by
  constructor
  · intro h x hx hname y hy hlast
    obtain ⟨size, hrun⟩ := (run_createSnapshot hx hname hy).1 hlast
    obtain ⟨x', hx', hpath, hid⟩ := h.own [] _ _ ((exec_nil _ s).trans hrun)
    rw [hx.unique hx'] at hpath hid
    have hnum := natToStr_injective (getNormalizedSnapshotID_injective hid)
    exact ⟨Catalog.eq_of_num (Registry.find?_mem hy) hz hnum, hpath⟩
  · intro h
    constructor
    · intro fs resp t hexec
      have hwp : wp array .any (createSnapshot svc sourceVolumeID z.name) (fun r _ =>
          ∀ resp, r = .ok resp → ∃ x, Resolves svc s sourceVolumeID x ∧ z.path = x.path ∧
            resp.snapshotID = getNormalizedSnapshotID (natToStr z.num) x.clusterName
              x.id.accessZone) s := by
        apply createSnapshot_wp hz
        · intro x hx hname y hy hlast size resp hresp
          obtain ⟨rfl, hpath⟩ := h x hx hname y hy hlast
          cases hresp
          exact ⟨x, hx, hpath, rfl⟩
        · intro e resp hresp
          cases hresp
      have hok := wp_any_iff_exec.1 hwp fs
      rw [hexec] at hok
      exact hok resp rfl
    · intro x hx hname hpath
      obtain ⟨y, hy⟩ := OneFS.snapshotByIdentity_of_mem hz
      by_cases hlast : baseName y.path = x.id.volName
      · exact (hpath (h x hx hname y hy hlast).2).elim
      · obtain ⟨m, hrun⟩ := (run_createSnapshot hx hname hy).2 hlast
        rw [hrun]
        exact ⟨m, rfl⟩

def twoDirectories : OneFS :=
  (((((OneFS.fresh.mkdir "/ifs/data/vol1").mkdir "/ifs/other").mkdir "/ifs/other/vol1").addExport
    "/ifs/data/vol1" "System" [] []).addExport "/ifs/other/vol1" "System" [] []).newSnapshot
      "/ifs/data/vol1" "snap" |>.2

def snapOfFirst : Snapshot := ⟨0, "snap", "/ifs/data/vol1", [⟨[], []⟩]⟩

theorem snapOfFirst_mem : snapOfFirst ∈ twoDirectories.snapshots := List.mem_singleton.2 rfl

theorem resolves_first : Resolves oneCluster twoDirectories "vol1=_=_=1=_=_=System"
    ⟨⟨"vol1", 1, "System", []⟩, "c1", "/ifs/data/"⟩ where
  parse := by decide
  cluster := ⟨_, rfl, Or.inl rfl⟩
  base := ⟨_, _, _, rfl, rfl, by decide⟩
  dir := by decide

theorem resolves_second : Resolves oneCluster twoDirectories "vol1=_=_=2=_=_=System"
    ⟨⟨"vol1", 2, "System", []⟩, "c1", "/ifs/other/"⟩ where
  parse := by decide
  cluster := ⟨_, rfl, Or.inl rfl⟩
  base := ⟨_, _, _, rfl, rfl, by decide⟩
  dir := by decide

theorem createSnapshot_reuse_first : snapOfFirst ∈ twoDirectories.snapshots ∧
    ReturnsOwn oneCluster twoDirectories "vol1=_=_=1=_=_=System" snapOfFirst := by
  refine ⟨snapOfFirst_mem, (createSnapshot_reuse_iff snapOfFirst_mem).2 ?_⟩
  intro x hx _ y hy _
  rw [resolves_first.unique hx]
  have hfound : twoDirectories.snapshotByIdentity snapOfFirst.name = some snapOfFirst := by decide
  cases hfound.symm.trans hy
  exact ⟨rfl, by decide⟩

/-- The snapshot of the first volume is handed out as one of the second. -/
theorem createSnapshot_returns_other : snapOfFirst ∈ twoDirectories.snapshots ∧
    Resolves oneCluster twoDirectories "vol1=_=_=2=_=_=System"
      ⟨⟨"vol1", 2, "System", []⟩, "c1", "/ifs/other/"⟩ ∧
    snapOfFirst.path ≠ getPathForVolume "/ifs/other/" "vol1" ∧
    (run array (createSnapshot oneCluster "vol1=_=_=2=_=_=System" "snap") twoDirectories).1 =
      .ok ⟨0, getNormalizedSnapshotID (natToStr snapOfFirst.num) "c1" "System",
        "vol1=_=_=2=_=_=System"⟩ ∧
    ¬ReturnsOwn oneCluster twoDirectories "vol1=_=_=2=_=_=System" snapOfFirst := by
  refine ⟨snapOfFirst_mem, resolves_second, by decide, by decide, ?_⟩
  intro h
  obtain ⟨m, hm⟩ := h.refused _ resolves_second (by decide) (by decide)
  have hrun : (run array (createSnapshot oneCluster "vol1=_=_=2=_=_=System" snapOfFirst.name)
      twoDirectories).1.isOk = true := by decide
  rw [hm] at hrun
  cases hrun

end Controller
end CsiPowerscale
