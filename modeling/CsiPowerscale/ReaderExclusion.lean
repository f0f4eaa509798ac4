import CsiPowerscale.Effects.Interleave
import CsiPowerscale.ReaderDeletion
import CsiPowerscale.ReaderTracking

namespace CsiPowerscale
open GoLib Stores Effects Effects.Prog

inductive SnapshotCall
  | create (req : CreateVolumeRequest)
  | delete (volumeID : Str)

namespace SnapshotCall

def code (svc : Service) : SnapshotCall → IsiM (Option Volume)
  | create req => Controller.createVolume svc req
  | delete volumeID => do
    Controller.deleteVolume svc volumeID
    return none

/-- The interceptor's lock: two `CreateVolume` calls for one name do not overlap. -/
def blocks : SnapshotCall → SnapshotCall → Bool
  | create req, create req' => req.name = req'.name
  | _, _ => false

end SnapshotCall

def snapshotCalls (svc : Service) :
    System SnapshotCall Call Call.Reply Err (Option Volume) OneFS where
  world := array
  code := SnapshotCall.code svc
  blocks := SnapshotCall.blocks

abbrev SnapshotPool := Pool SnapshotCall Call Call.Reply Err (Option Volume) OneFS

abbrev SnapshotLog := List (Event SnapshotCall Err (Option Volume))

namespace SnapshotLog

/-- The identifiers that `CreateVolume` has returned. -/
def created (log : SnapshotLog) : List Str :=
  log.filterMap fun
    | .finished (.create _) (.ok (some v)) => some v.volumeID
    | _ => none

def note (names : List Str) : Event SnapshotCall Err (Option Volume) → List Str
  | .finished (.create req) (.ok (some _)) => req.name :: names
  | .started (.delete volumeID) =>
    names.filter fun n => (parseNormalizedVolumeID volumeID).toOption.map VolumeID.volName ≠ some n
  | _ => names

/-- The volumes whose `CreateVolume` has succeeded and whose `DeleteVolume` has not started. -/
def active (log : SnapshotLog) : List Str := log.foldl note []

variable {log : SnapshotLog} {name : Str}

theorem created_append (more : SnapshotLog) :
    created (log ++ more) = created log ++ created more := List.filterMap_append

theorem active_append (more : SnapshotLog) : active (log ++ more) = more.foldl note (active log) :=
  List.foldl_append

theorem active_started (h : name ∈ active (log ++ [.started k])) : name ∈ active log := by
  rw [active_append] at h
  cases k with
  | create req => exact h
  | delete volumeID => exact (List.mem_filter.1 h).1

end SnapshotLog

/-- What lasts through every request: the zones, and the paths of an export under its number. A new
export has a new number and one path. -/
structure OneFS.Lasts (s t : OneFS) : Prop where
  zones : t.zones = s.zones
  next : s.exports.next ≤ t.exports.next
  exports : ∀ e ∈ t.exports, (∃ y ∈ s.exports, y.num = e.num ∧ y.paths = e.paths) ∨
    s.exports.next ≤ e.num ∧ ∃ path, e.paths = [path]

namespace OneFS.Lasts

variable {s t u : OneFS}

theorem of_eq (hzones : t.zones = s.zones) (h : t.exports = s.exports) : Lasts s t :=
  ⟨hzones, by rw [h], fun e he => .inl ⟨e, h ▸ he, rfl, rfl⟩⟩

theorem trans (h : Lasts s t) (h' : Lasts t u) : Lasts s u := by
  refine ⟨h'.zones.trans h.zones, Nat.le_trans h.next h'.next, fun e he => ?_⟩
  rcases h'.exports e he with ⟨y, hy, hnum, hpaths⟩ | ⟨hnew, hpath⟩
  · rw [← hnum, ← hpaths]
    exact h.exports y hy
  · exact .inr ⟨Nat.le_trans h.next hnew, hpath⟩

theorem serve (c : Call) (s : OneFS) : Lasts s (array.act c s).2 := by
  have heff := Call.effect c s
  by_cases hg : c.Grow
  · have hzones := (hg.serve s).zones
    by_cases hk : c.KeepsExports
    · exact of_eq hzones (hk.serve s)
    generalize (array.act c s).2 = t at heff hzones ⊢
    cases heff with
    | kept => exact of_eq rfl rfl
    | addExport =>
      refine ⟨rfl, Nat.le_succ _, fun e he => ?_⟩
      rcases mem_addExport.1 he with he | rfl
      · exact .inl ⟨e, he, rfl, rfl⟩
      · exact .inr ⟨Nat.le_refl _, _, rfl⟩
    | dropExport =>
      exact ⟨rfl, Nat.le_refl _, fun e he => .inl ⟨e, (mem_dropExport.1 he).1, rfl, rfl⟩⟩
    | @addClients field i z names b =>
      refine ⟨rfl, Nat.le_refl _, fun e he => .inl ?_⟩
      obtain ⟨y, hy, rfl⟩ := Registry.mem_update.1 he
      refine ⟨y, hy, ?_⟩
      split
      · cases field <;> exact ⟨rfl, rfl⟩
      · exact ⟨rfl, rfl⟩
    | removeClients =>
      refine ⟨rfl, Nat.le_refl _, fun e he => .inl ?_⟩
      obtain ⟨y, hy, rfl⟩ := Registry.mem_update.1 he
      refine ⟨y, hy, ?_⟩
      split <;> exact ⟨rfl, rfl⟩
    | _ => exact (hk trivial).elim
  · generalize (array.act c s).2 = t at heff ⊢
    cases heff with
    | kept | rmdir | addSnapshot | dropSnapshot => exact of_eq rfl rfl
    | _ => exact (hg trivial).elim

theorem of_outcome {q : IsiM α} (h : Outcome array F q s r t) : Lasts s t := by
  induction h with
  | ret | fail => exact of_eq rfl rfl
  | served _ ih => exact (serve _ _).trans ih
  | faulted _ _ ih => exact ih

theorem zone (h : Lasts s t) (name : Str) : t.zone name = s.zone name := by
  rw [OneFS.zone, h.zones]
  rfl

theorem first (h : Lasts s t)
    (hs : ∀ e ∈ s.exports, path ∈ e.paths → e.paths.head? = some path) :
    ∀ e ∈ t.exports, path ∈ e.paths → e.paths.head? = some path := by
  intro e he hmem
  rcases h.exports e he with ⟨y, hy, -, hpaths⟩ | ⟨-, path', hpath⟩
  · rw [← hpaths] at hmem ⊢
    exact hs y hy hmem
  · rw [hpath] at hmem ⊢
    rw [List.mem_singleton.1 hmem]
    rfl

end OneFS.Lasts

namespace Controller

variable {svc : Service} {req : CreateVolumeRequest} {z : Zone} {x : Snapshot} {i name : Str}
  {s t u : OneFS} {F : Faults Call Err OneFS}

/-- The identifier is that of a read-only volume of the snapshot, and the export with its number, if
there is one, has the path of the snapshot. -/
structure NamesReader (z : Zone) (x : Snapshot) (s : OneFS) (volumeID name cluster : Str) (n : Nat) :
    Prop where
  eq : volumeID = getNormalizedVolumeID name ((n : Int) + 1) z.name cluster
  reader : IsReader name
  nameField : IDField name
  clusterField : contains cluster volumeIDSeparator = false
  given : n < s.exports.next
  paths : ∀ e ∈ s.exports, e.num = n → e.paths.head? = some (shownPath z x)

/-- What holds while no call is in progress. -/
structure Settled (i : Str) (z : Zone) (x : Snapshot) (log : SnapshotLog) (s : OneFS) : Prop where
  identifies : s.Identifies i x
  zone : s.zone z.name = some z
  tracks : Tracks x s
  first : ∀ e ∈ s.exports, shownPath z x ∈ e.paths → e.paths.head? = some (shownPath z x)
  created : ∀ volumeID ∈ log.created, ∃ name cluster n, NamesReader z x s volumeID name cluster n
  active : ∀ name ∈ log.active, IsReader name ∧ s.hasDir (trackingPath x ++ slash :: name) = true

theorem NamesReader.lasts (h : NamesReader z x s volumeID name cluster n) (hst : OneFS.Lasts s t) :
    NamesReader z x t volumeID name cluster n := by
  refine ⟨h.eq, h.reader, h.nameField, h.clusterField, Nat.lt_of_lt_of_le h.given hst.next, ?_⟩
  intro e he hnum
  rcases hst.exports e he with ⟨y, hy, hy', hpaths⟩ | ⟨hnew, -⟩
  · rw [← hpaths]
    exact h.paths y hy (hy'.trans hnum)
  · have hlt := h.given
    omega

theorem createVolume_namesReader (hx : ReadBack z x) (hs : Settled i z x log s)
    (hreq : req.ReadsFrom svc i z.name)
    (ho : Outcome array F (createVolume svc req) s (.ok (some vol)) t) :
    ∃ cluster n, NamesReader z x t vol.volumeID req.name cluster n := by
  obtain ⟨p, hp⟩ := createVolume_createdFor.outcome ho vol rfl
  obtain ⟨hread, htarget⟩ := planned_toRead hp.toPlanned hs.identifies hreq
  obtain ⟨src, hsrc, -, -⟩ := hread.source
  have hro : p.isROVolumeFromSnapshot = true := by simp [Plan.isROVolumeFromSnapshot, hsrc]
  obtain ⟨u, hu, e, he, hcase⟩ := hp.own hread.shared
  obtain ⟨name, path, rfl, hshown, -⟩ := he.volume
  obtain ⟨rfl, hpaths⟩ := hshown hro
  rw [htarget hs.zone, hx.exported, or_self] at hpaths
  have hfirst := (OneFS.Lasts.of_outcome ho).first hs.first e he.mem hpaths
  have hzone : e.zone = z.name := he.zone.trans (hp.resolves.accessZone.trans hreq.accessZone)
  refine ⟨p.clusterName, e.num, ?_, hreq.name, hreq.nameField,
    hreq.cluster _ hp.resolves.clusterName, t.exports.fresh e he.mem, fun y hy hnum => ?_⟩
  · rw [getCSIVolume_exportBacked hread.shared, hread.name, hzone]
    rfl
  · rw [Registry.eq_of_num hy he.mem hnum]
    exact hfirst

theorem deleteVolume_unparsed (hparse : parseNormalizedVolumeID volumeID = .error e) :
    wp array F (deleteVolume svc volumeID) (fun _ t => t = s) s := by
  unfold deleteVolume
  rw [hparse]
  cases validateDeleteVolumeRequest volumeID <;> rfl

theorem deleteVolume_keepsOthers (hx : ReadBack z x) (hzone : s.zone z.name = some z)
    (hv : NamesReader z x s volumeID name cluster n) (hother : IsReader other)
    (hne : (parseNormalizedVolumeID volumeID).toOption.map VolumeID.volName ≠ some other)
    (hdir : s.hasDir (trackingPath x ++ slash :: other) = true) :
    wp array F (deleteVolume svc volumeID)
      (fun _ t => t.hasDir (trackingPath x ++ slash :: other) = true) s := by
  cases hparse : parseNormalizedVolumeID volumeID with
  | error e =>
    refine wp_mono (deleteVolume_unparsed hparse) ?_
    rintro r t rfl
    exact hdir
  | ok v =>
    have heq := hparse
    rw [hv.eq] at heq
    obtain rfl := eq_of_parse_getNormalizedVolumeID hv.nameField hx.zoneField hv.clusterField heq
    have hat : ReadOnlyAt s volumeID ⟨name, (n : Int) + 1, z.name, cluster⟩ (shownPath z x)
        (dir x.path) x.name := by
      refine ⟨hparse, hx.readOnly, fun y hy => ?_, hx.base, hx.tracking, hv.reader.1, fun e he => ?_⟩
      · rw [hzone] at hy
        cases hy
        exact hx.components
      · obtain ⟨hmem, hid, -⟩ := OneFS.exportById_some he
        have hnum : (e.num : Int) + 1 = (n : Int) + 1 := hid
        exact hv.paths e hmem (by omega)
    rw [hparse] at hne
    have hne' : other ≠ name := fun h => hne (by rw [h]; rfl)
    rw [wp_iff_outcome]
    intro r t ho
    obtain ⟨fs, hfs⟩ := ho.exists_exec
    have hkeeps : DeletionKeeps svc volumeID s _ := readOnly_keeps hat
    have hin := hkeeps fs
    rw [hfs] at hin
    exact hat.entry_stays hin hother.1 hne' hother.2 hdir

theorem SnapshotCall.code_uses (svc : Service) (k : SnapshotCall) :
    uses (fun c => ¬c.TakesSnapshot) (k.code svc) := by
  cases k with
  | create req =>
    exact createVolume_uses (fun _ _ h => h) (fun _ _ _ _ _ _ => id)
      (fun _ _ _ => id) fun _ _ _ => ⟨fun _ _ => id, fun _ => id⟩
  | delete volumeID =>
    refine uses_bind (deleteVolume_uses ?_ ?_ svc volumeID) fun _ => trivial
    · intro c hc
      cases c <;> first | exact id | exact hc.elim
    · intro c hc
      cases c <;> first | exact id | exact hc.elim

theorem Settled.ends (h : Settled i z x log s) (k : SnapshotCall)
    (ho : Outcome array F (k.code svc) s r t) (htracks : Tracks x t)
    (hnew : ∀ volumeID ∈ SnapshotLog.created [.finished k r],
      ∃ name cluster n, NamesReader z x t volumeID name cluster n)
    (hactive : ∀ name ∈ SnapshotLog.active (log ++ [.started k] ++ [.finished k r]),
      IsReader name ∧ t.hasDir (trackingPath x ++ slash :: name) = true) :
    Settled i z x (log ++ [.started k] ++ [.finished k r]) t := by
  have hlasts := OneFS.Lasts.of_outcome ho
  have hids : t.Identifies i x :=
    wp_iff_outcome.1 (wp_of_uses (I := fun u => u.Identifies i x) (SnapshotCall.code_uses svc k)
      (fun _ _ hc hu => hu.serve hc) h.identifies) r t ho
  refine ⟨hids, (hlasts.zone _).trans h.zone, htracks, hlasts.first h.first, ?_, hactive⟩
  intro volumeID hmem
  rw [SnapshotLog.created_append, SnapshotLog.created_append] at hmem
  rcases List.mem_append.1 hmem with hmem | hmem
  · rcases List.mem_append.1 hmem with hmem | hmem
    · obtain ⟨name, cluster, n, hv⟩ := h.created volumeID hmem
      exact ⟨name, cluster, n, hv.lasts hlasts⟩
    · cases hmem
  · exact hnew volumeID hmem

theorem Settled.create (h : Settled i z x log s) (hx : ReadBack z x)
    (hreq : req.ReadsFrom svc i z.name) :
    wp array (countAnswered x) ((SnapshotCall.create req).code svc) (fun r t => Settled i z x
      (log ++ [.started (.create req)] ++ [.finished (.create req) r]) t) s := by
  have htracks := wp_iff_outcome.1 (createVolume_tracks hx h.tracks h.identifies hreq)
  rw [wp_iff_outcome]
  intro r t ho
  obtain ⟨hst, hkept, hown⟩ := htracks r t ho
  have hold : ∀ name ∈ log.active,
      IsReader name ∧ t.hasDir (trackingPath x ++ slash :: name) = true :=
    fun name hname => ⟨(h.active name hname).1, hkept _ (h.active name hname).2⟩
  refine h.ends _ ho hst ?_ ?_
  · intro volumeID hmem
    match r, hmem with
    | .ok (some v), hmem =>
      obtain rfl := List.mem_singleton.1 hmem
      exact ⟨_, createVolume_namesReader hx h hreq ho⟩
  · intro name hname
    rw [SnapshotLog.active_append, SnapshotLog.active_append] at hname
    match r, hname with
    | .error e, hname | .ok none, hname => exact hold name hname
    | .ok (some v), hname =>
      rcases List.mem_cons.1 hname with rfl | hname
      · exact ⟨hreq.name, hown v rfl⟩
      · exact hold name hname

theorem Settled.delete (h : Settled i z x log s) (hx : ReadBack z x)
    (hmem : volumeID ∈ log.created) :
    wp array F ((SnapshotCall.delete volumeID).code svc) (fun r t => Settled i z x
      (log ++ [.started (.delete volumeID)] ++ [.finished (.delete volumeID) r]) t) s := by
  obtain ⟨own, cluster, n, hv⟩ := h.created volumeID hmem
  rw [wp_iff_outcome]
  intro r t ho
  have hstate : ∀ P : OneFS → Prop,
      wp array F (deleteVolume svc volumeID) (fun _ u => P u) s → P t := by
    intro P hP
    have hcode : wp array F ((SnapshotCall.delete volumeID).code svc) (fun _ u => P u) s :=
      wp_seq hP (fun _ _ hu => hu) fun _ _ hu => hu
    exact wp_iff_outcome.1 hcode r t ho
  refine h.ends _ ho (hstate _ (h.tracks.deleteVolume volumeID)) (fun _ hnew => by cases hnew) ?_
  intro name hname
  rw [SnapshotLog.active_append, SnapshotLog.active_append] at hname
  obtain ⟨hold, hne⟩ := List.mem_filter.1 hname
  obtain ⟨hreader, hdir⟩ := h.active name hold
  exact ⟨hreader, hstate _ (deleteVolume_keepsOthers hx h.zone hv hreader
    (of_decide_eq_true hne) hdir)⟩

end Controller

namespace SnapshotPool

open Controller

/-- The calls that make the read-only volumes of the snapshot in the zone and delete them again. -/
def Admits (svc : Service) (i : Str) (z : Zone) (log : SnapshotLog) : SnapshotCall → Prop
  | .create req => req.ReadsFrom svc i z.name
  | .delete volumeID => volumeID ∈ log.created

/-- Calls do not overlap, and the count of the tracking directory does not fail. -/
def OneAtATime (svc : Service) (i : Str) (z : Zone) (x : Snapshot) (p : SnapshotPool) :
    Move SnapshotCall Err → Prop
  | .start k => p.running.isEmpty = true ∧ Admits svc i z p.log k
  | .serve _ => True
  | .fault n _ =>
    match p.running[n]? with
    | some (_, .call c _) => c ≠ .getVolume (dir x.path) (getSnapshotTrackingDirName x.name)
    | _ => True

variable {svc : Service} {i : Str} {z : Zone} {x : Snapshot}

theorem OneAtATime.exclusive {p : SnapshotPool} {m : Move SnapshotCall Err}
    (h : OneAtATime svc i z x p m) :
    System.Exclusive (fun _ => False) (countAnswered x) p m ∧
      System.Admitted (Admits svc i z) p m := by
  cases m with
  | start k =>
    refine ⟨fun t ht => ?_, h.2⟩
    rw [List.isEmpty_iff.1 h.1] at ht
    cases ht
  | serve n => exact ⟨trivial, trivial⟩
  | fault n e =>
    refine ⟨fun k c f hn => ?_, trivial⟩
    simpa only [OneAtATime, countAnswered, hn] using h

/-- While calls do not overlap and counts do not fail, a snapshot never has two active read-only
volumes. -/
theorem active_unique {s : OneFS} {moves : List (Move SnapshotCall Err)} (hx : ReadBack z x)
    (hs : Settled i z x [] s)
    (h : (snapshotCalls svc).Along (OneAtATime svc i z x) moves ⟨[], s, []⟩) :
    ∀ a ∈ SnapshotLog.active ((snapshotCalls svc).play moves ⟨[], s, []⟩).log,
      ∀ b ∈ SnapshotLog.active ((snapshotCalls svc).play moves ⟨[], s, []⟩).log, a = b := by
  have halone : ∀ log s k, Admits svc i z log k → ¬ False → Settled i z x log s →
      wp array (countAnswered x) (k.code svc)
        (fun r t => Settled i z x (log ++ [.started k] ++ [.finished k r]) t) s := by
    intro log s k hk _ hI
    cases k with
    | create req => exact hI.create hx hk
    | delete volumeID => exact hI.delete hx hk
  obtain ⟨log, t, ht, hlog⟩ := (System.Apart.play (fun _ _ _ _ hk => hk.elim) halone
    (h.mono fun _ _ hm => hm.exclusive) hs).logged
  have hactive : ∀ a ∈ SnapshotLog.active ((snapshotCalls svc).play moves ⟨[], s, []⟩).log,
      a ∈ SnapshotLog.active log := by
    rcases hlog with hlog | ⟨k, hlog⟩
    · rw [hlog]
      exact fun _ ha => ha
    · rw [hlog]
      exact fun _ ha => SnapshotLog.active_started ha
  intro a ha b hb
  obtain ⟨hra, hda⟩ := ht.active a (hactive a ha)
  obtain ⟨hrb, hdb⟩ := ht.active b (hactive b hb)
  exact ht.tracks.single a b hra hrb hda hdb

end SnapshotPool

instance (svc : Service) (i : Str) (z : Zone) (x : Snapshot) (p : SnapshotPool)
    (m : Move SnapshotCall Err) : Decidable (SnapshotPool.OneAtATime svc i z x p m) := by
  cases m with
  | start k =>
    cases k <;> unfold SnapshotPool.OneAtATime SnapshotPool.Admits <;> infer_instance
  | serve n => exact inferInstanceAs (Decidable True)
  | fault n e =>
    unfold SnapshotPool.OneAtATime
    dsimp only
    split <;> infer_instance

/-- `vol1` is made, with a failed request; `vol2` is refused, and made when `vol1` is deleted. -/
def oneAfterAnother : List (Move SnapshotCall Err) :=
  .start (.create (readerOf "vol1")) :: List.replicate 9 (.serve 0) ++
    .fault 0 (.json 503 "AEC_TRANSIENT") :: List.replicate 5 (.serve 0) ++
    .start (.create (readerOf "vol2")) :: List.replicate 7 (.serve 0) ++
    .start (.delete "vol1=_=_=1=_=_=System=_=_=c1") :: List.replicate 9 (.serve 0) ++
    .start (.create (readerOf "vol2")) :: List.replicate 9 (.serve 0)

def sideBySide : List (Move SnapshotCall Err) :=
  [.start (.create (readerOf "vol1")), .start (.create (readerOf "vol2"))] ++
    List.replicate 5 (.serve 0) ++ List.replicate 5 (.serve 1) ++ List.replicate 12 (.serve 0)

def countFails : List (Move SnapshotCall Err) :=
  .start (.create (readerOf "vol1")) :: List.replicate 13 (.serve 0) ++
    .start (.create (readerOf "vol2")) :: List.replicate 4 (.serve 0) ++
    .fault 0 (.json 503 "AEC_TRANSIENT") :: List.replicate 4 (.serve 0)

theorem active_unique_oneAfterAnother :
    SnapshotLog.active ((snapshotCalls withoutQuotas).play (oneAfterAnother.take 24)
      ⟨[], snappedArray, []⟩).log = ["vol1"] ∧
    SnapshotLog.active ((snapshotCalls withoutQuotas).play oneAfterAnother
      ⟨[], snappedArray, []⟩).log = ["vol2"] ∧
    ∀ a ∈ SnapshotLog.active ((snapshotCalls withoutQuotas).play oneAfterAnother
        ⟨[], snappedArray, []⟩).log,
      ∀ b ∈ SnapshotLog.active ((snapshotCalls withoutQuotas).play oneAfterAnother
        ⟨[], snappedArray, []⟩).log, a = b := by
  refine ⟨by decide +kernel, by decide +kernel, ?_⟩
  have hbelow : ∀ n, ¬ snappedArray.hasDir (Controller.trackingPath snapped ++ slash :: n) = true := by
    intro n hn
    obtain ⟨d, hd, hpath⟩ := Table.has_iff.1 hn
    have hnone : ∀ d ∈ snappedArray.dirs.rows,
        startsWith d.path (Controller.trackingPath snapped) = false := by decide +kernel
    have hfalse := hnone d hd
    rw [hpath, Bool.eq_false_iff] at hfalse
    exact hfalse (List.isPrefixOf_iff_prefix.2 (List.prefix_append _ _))
  refine SnapshotPool.active_unique (i := "0") (z := ⟨"System", "/ifs"⟩) (x := snapped) ?_ ?_ ?_
  · exact ⟨⟨["ifs", "data"], by decide, by decide⟩, by decide, by decide +kernel, by decide +kernel,
      by decide +kernel, by decide +kernel⟩
  · refine ⟨fun y hy _ => List.mem_singleton.1 hy, by decide, ⟨?_, ?_⟩, ?_, ?_, ?_⟩
    · exact fun n hn => absurd hn (hbelow n)
    · exact fun a b _ _ ha => absurd ha (hbelow a)
    · exact fun e he => by cases he
    · exact fun v hv => by cases hv
    · exact fun n hn => by cases hn
  · decide +kernel

/-- Two volumes are active when both calls count before either has its entry, and when the second
count fails. -/
theorem active_both :
    SnapshotLog.active ((snapshotCalls withoutQuotas).play sideBySide
      ⟨[], snappedArray, []⟩).log = ["vol2", "vol1"] ∧
    SnapshotLog.active ((snapshotCalls withoutQuotas).play countFails
      ⟨[], snappedArray, []⟩).log = ["vol2", "vol1"] := by
  decide +kernel

end CsiPowerscale
