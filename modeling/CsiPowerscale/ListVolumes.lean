import Mathlib.Data.List.ReduceOption
import CsiPowerscale.Effects.Workers
import CsiPowerscale.GoLib.Collections
import CsiPowerscale.IsiService

namespace CsiPowerscale
open GoLib Effects

structure Filesystem where
  name : Option Str
  path : Option Str
  type : Option Str
  size : Option Int
  owner : Option Str
  group : Option Str
  deriving DecidableEq

structure ListedExport where
  id : Int
  paths : Option (List Str)
  zone : Str
  description : Str
  clients : Option (List Str)
  readOnlyClients : Option (List Str)
  readWriteClients : Option (List Str)
  rootClients : Option (List Str)
  deriving DecidableEq

structure VolumeListing where
  filesystems : List (Option Filesystem)
  exports : List (Option ListedExport)
  containerPath : Str
  clusterName : Str
  endpointURL : Str
  metadata : Str → Except Err (Option Params)

structure ListedVolume where
  volumeID : Str
  volumeContext : Params
  deriving DecidableEq

namespace ListedExport

def record (e : ListedExport) : Export where
  num := 0
  paths := e.paths.getD []
  zone := e.zone
  description := e.description
  xprtsec := []
  clients := e.clients.getD []
  readOnlyClients := e.readOnlyClients.getD []
  readWriteClients := e.readWriteClients.getD []
  rootClients := e.rootClients.getD []

end ListedExport

namespace Controller

def headerPersistentVolumeName : Str := "x-csi-pv-name"

def headerPersistentVolumeClaimName : Str := "x-csi-pv-claimname"

def headerPersistentVolumeClaimNamespace : Str := "x-csi-pv-namespace"

def exportHasDummyHostClient (e : ListedExport) : Bool :=
  match parseNodeID dummyHostNodeID with
  | .error _ => false
  | .ok n =>
    let slices := [e.record.clients, e.record.readOnlyClients, e.record.readWriteClients,
      e.record.rootClients]
    IsiService.isStringInSlices n.name slices || IsiService.isStringInSlices n.fqdn slices ||
      (n.ip ≠ [] && IsiService.isStringInSlices n.ip slices)

def isCSIManagedVolume (metadata : Str → Except Err (Option Params)) (fullPath : Str)
    (e : ListedExport) : Bool :=
  getQuotaIDFromDescription e.record ≠ [] || exportHasDummyHostClient e ||
    match metadata fullPath with
    | .ok (some m) => (m.get? headerPersistentVolumeName).isSome ||
        (m.get? headerPersistentVolumeClaimName).isSome ||
        (m.get? headerPersistentVolumeClaimNamespace).isSome
    | _ => false

structure ListVolumeCandidate where
  index : Nat
  fs : Filesystem
  volName : Str
  fullPath : Str
  exports : List ListedExport
  deriving DecidableEq

def addExportPath (e : ListedExport) (m : List (Str × List ListedExport)) (exportPath : Str) :
    List (Str × List ListedExport) :=
  assign m (clean exportPath) ((m.lookup (clean exportPath)).getD [] ++ [e])

def addExport (m : List (Str × List ListedExport)) : Option ListedExport →
    List (Str × List ListedExport)
  | none => m
  | some e => (e.paths.getD []).foldl (addExportPath e) m

def afterWrites (a : List (Option α)) (writes : List (Nat × Option α)) : List (Option α) :=
  writes.foldl (fun a w => if w.2.isSome then a.set w.1 w.2 else a) a

end Controller

open Controller

namespace VolumeListing

variable (l : VolumeListing)

def exportByPath : List (Str × List ListedExport) := l.exports.foldl addExport []

def fullPath (fs : Filesystem) (volName : Str) : Str :=
  clean (if fs.path.getD [] ≠ [] then join [fs.path.getD [], volName]
    else getPathForVolume (clean l.containerPath) volName)

def candidate (x : Option Filesystem × Nat) : Option ListVolumeCandidate := do
  let fs ← x.1
  let volName ← fs.name
  let exports ← l.exportByPath.lookup (l.fullPath fs volName)
  some ⟨x.2, fs, volName, l.fullPath fs volName, exports⟩

def candidates : List ListVolumeCandidate :=
  l.filesystems.zipIdx.filterMap l.candidate

def entry (fs : Filesystem) (volName fullPath : Str) (e : ListedExport) :
    ListedVolume :=
  let accessZone : Str := if e.zone = [] then "System" else e.zone
  let present (key : Str) (value : Option Str) : Params := value.toList.map fun v => (key, v)
  let context : Params := [("ID", itoa e.id), ("Name", volName), ("Path", fullPath),
    ("AccessZone", accessZone), ("ClusterName", l.clusterName), ("AzServiceIP", l.endpointURL)]
  { volumeID := getNormalizedVolumeID volName e.id accessZone l.clusterName
    volumeContext := context ++ present "Type" fs.type ++ present "Size" (fs.size.map itoa) ++
      present "Owner" fs.owner ++ present "Group" fs.group }

def describe (c : ListVolumeCandidate) : Option ListedVolume :=
  (c.exports.find? (isCSIManagedVolume l.metadata c.fullPath)).map (l.entry c.fs c.volName c.fullPath)

def write (c : ListVolumeCandidate) : Nat × Option ListedVolume :=
  (c.index, l.describe c)

def shape : CrewShape where
  queueSize := 0
  resultsSize := l.candidates.length
  collects := false

def workerCount (listVolumesWorkerCount : Int) : Nat :=
  min (if listVolumesWorkerCount ≤ 0 then 1 else listVolumesWorkerCount.toNat) l.candidates.length

def pool (n : Nat) : Crew n ListVolumeCandidate (Nat × Option ListedVolume) :=
  .start n _ l.candidates

def entries (writes : List (Nat × Option ListedVolume)) : List ListedVolume :=
  (afterWrites (List.replicate l.filesystems.length none) writes).filterMap id

inductive Returns (l : VolumeListing) (listVolumesWorkerCount : Int) : List ListedVolume → Prop
  | none : l.workerCount listVolumesWorkerCount = 0 → Returns l listVolumesWorkerCount []
  | pool (c) : l.workerCount listVolumesWorkerCount ≠ 0 →
    Relation.ReflTransGen (Crew.Step l.shape l.write) (l.pool (l.workerCount listVolumesWorkerCount)) c →
    c.Over l.shape → Returns l listVolumesWorkerCount (l.entries c.results)

def listed (o : Option Filesystem) : Option ListedVolume := do
  let fs ← o
  let volName ← fs.name
  let e ← l.exports.reduceOption.find? fun e =>
    (e.paths.getD []).any (fun p => clean p = l.fullPath fs volName) &&
      isCSIManagedVolume l.metadata (l.fullPath fs volName) e
  some (l.entry fs volName (l.fullPath fs volName) e)

def volumes : List ListedVolume := l.filesystems.filterMap l.listed

variable {l}

def exportsAt (p : Str) (exports : List (Option ListedExport)) : List ListedExport :=
  exports.flatMap fun o => o.toList.flatMap fun e =>
    ((e.paths.getD []).filter fun q => clean q = p).map fun _ => e

theorem lookup_addExportPath (e : ListedExport) (m : List (Str × List ListedExport)) (q p : Str) :
    ((addExportPath e m q).lookup p).getD [] =
      (m.lookup p).getD [] ++ if clean q = p then [e] else [] := by
  rw [addExportPath, lookup_assign]
  by_cases hp : p = clean q
  · simp [hp]
  · simp [hp, Ne.symm hp]

theorem lookup_addExport (m : List (Str × List ListedExport)) (o : Option ListedExport) (p : Str) :
    ((addExport m o).lookup p).getD [] = (m.lookup p).getD [] ++ exportsAt p [o] := by
  cases o with
  | none => simp [addExport, exportsAt]
  | some e =>
    rw [addExport]
    simp only [exportsAt, List.flatMap_cons, List.flatMap_nil, Option.toList_some, List.append_nil]
    induction e.paths.getD [] generalizing m with
    | nil => simp
    | cons q qs ih =>
      rw [List.foldl_cons, ih, lookup_addExportPath, List.append_assoc, List.filter_cons]
      by_cases hq : clean q = p
      · simp [hq]
      · simp [hq]

theorem lookup_exportByPath (p : Str) : (l.exportByPath.lookup p).getD [] = exportsAt p l.exports := by
  have hfold : ∀ (exports : List (Option ListedExport)) m,
      ((exports.foldl addExport m).lookup p).getD [] = (m.lookup p).getD [] ++ exportsAt p exports := by
    intro exports
    induction exports with
    | nil => simp [exportsAt]
    | cons o exports ih =>
      intro m
      rw [List.foldl_cons, ih, lookup_addExport, List.append_assoc]
      simp [exportsAt]
  simpa [exportByPath] using hfold l.exports []

theorem find?_exportsAt_single (p : Str) (accepts : ListedExport → Bool) (e : ListedExport) :
    (exportsAt p [some e]).find? accepts =
      if (e.paths.getD []).any (fun q => clean q = p) && accepts e then some e else none := by
  simp only [exportsAt, List.flatMap_cons, List.flatMap_nil, Option.toList_some, List.append_nil]
  induction e.paths.getD [] with
  | nil => rfl
  | cons q qs ih =>
    rw [List.filter_cons, List.any_cons]
    by_cases hq : clean q = p
    · cases ha : accepts e with
      | true => simp [hq, ha]
      | false => simp [hq, ha]
    · simpa [hq] using ih

theorem find?_exportsAt (p : Str) (accepts : ListedExport → Bool)
    (exports : List (Option ListedExport)) : (exportsAt p exports).find? accepts =
      exports.reduceOption.find? fun e =>
        (e.paths.getD []).any (fun q => clean q = p) && accepts e := by
  induction exports with
  | nil => rfl
  | cons o exports ih =>
    have hcons : exportsAt p (o :: exports) = exportsAt p [o] ++ exportsAt p exports := by
      simp [exportsAt]
    rw [hcons, List.find?_append, ih]
    cases o with
    | none =>
      rw [List.reduceOption_cons_of_none]
      rfl
    | some e =>
      rw [List.reduceOption_cons_of_some, List.find?_cons, find?_exportsAt_single]
      cases (e.paths.getD []).any (fun q => clean q = p) && accepts e with
      | true => rfl
      | false => rfl

theorem describe_candidate (o : Option Filesystem) (i : Nat) :
    (l.candidate (o, i)).bind l.describe = l.listed o := by
  cases o with
  | none => rfl
  | some fs =>
    cases hname : fs.name with
    | none => simp [candidate, listed, hname]
    | some volName =>
      have hfind := find?_exportsAt (l.fullPath fs volName)
        (isCSIManagedVolume l.metadata (l.fullPath fs volName)) l.exports
      rw [← lookup_exportByPath] at hfind
      simp only [candidate, listed, hname, Option.bind_eq_bind, Option.bind_some, ← hfind]
      cases l.exportByPath.lookup (l.fullPath fs volName) with
      | none => rfl
      | some exports =>
        simp only [Option.bind_some, describe, Option.getD_some]
        cases exports.find? (isCSIManagedVolume l.metadata (l.fullPath fs volName)) <;> rfl

theorem candidate_index (h : l.candidate x = some c) : c.index = x.2 := by
  simp only [candidate, Option.bind_eq_bind, Option.bind_eq_some_iff, Option.some.injEq] at h
  obtain ⟨fs, _, volName, _, exports, _, rfl⟩ := h
  rfl

theorem index_candidates : (l.candidates.map ListVolumeCandidate.index).Sublist
    (List.range l.filesystems.length) := by
  have hsub : ∀ xs : List (Option Filesystem × Nat),
      ((xs.filterMap l.candidate).map ListVolumeCandidate.index).Sublist (xs.map Prod.snd) := by
    intro xs
    induction xs with
    | nil => exact .slnil
    | cons x xs ih =>
      cases hx : l.candidate x with
      | none =>
        rw [List.filterMap_cons_none hx]
        exact ih.cons _
      | some c =>
        rw [List.filterMap_cons_some hx, List.map_cons, List.map_cons, candidate_index hx]
        exact ih.cons_cons _
  have h := hsub l.filesystems.zipIdx
  rwa [List.zipIdx_map_snd, ← List.range_eq_range'] at h

theorem getElem?_afterWrites_of_not_mem {writes : List (Nat × Option α)}
    (h : i ∉ writes.map Prod.fst) : (afterWrites a writes)[i]? = a[i]? := by
  induction writes generalizing a with
  | nil => rfl
  | cons w writes ih =>
    rw [List.map_cons, List.mem_cons, not_or] at h
    rw [afterWrites, List.foldl_cons, ← afterWrites, ih h.2]
    split
    · exact List.getElem?_set_ne (Ne.symm h.1)
    · rfl

theorem getElem?_afterWrites {writes : List (Nat × Option α)}
    (hnodup : (writes.map Prod.fst).Nodup) (h : (i, o) ∈ writes) (hi : a[i]? = some none) :
    (afterWrites a writes)[i]? = some o := by
  induction writes generalizing a with
  | nil => cases h
  | cons w writes ih =>
    rw [List.map_cons, List.nodup_cons] at hnodup
    rw [afterWrites, List.foldl_cons, ← afterWrites]
    rcases List.mem_cons.1 h with rfl | h
    · rw [getElem?_afterWrites_of_not_mem hnodup.1]
      cases o with
      | none => exact hi
      | some e =>
        obtain ⟨hlt, -⟩ := List.getElem?_eq_some_iff.1 hi
        exact List.getElem?_set_self hlt
    · refine ih hnodup.2 h ?_
      have hne : w.1 ≠ i := fun heq => hnodup.1 (heq ▸ List.mem_map_of_mem h)
      split
      · rwa [List.getElem?_set_ne hne]
      · exact hi

theorem length_afterWrites (writes : List (Nat × Option α)) (a : List (Option α)) :
    (afterWrites a writes).length = a.length := by
  induction writes generalizing a with
  | nil => rfl
  | cons w writes ih =>
    rw [afterWrites, List.foldl_cons, ← afterWrites, ih]
    split
    · exact List.length_set
    · rfl

theorem afterWrites_eq {writes : List (Nat × Option ListedVolume)}
    (h : writes.Perm (l.candidates.map l.write)) :
    afterWrites (List.replicate l.filesystems.length none) writes = l.filesystems.map l.listed := by
  have hkeys : (writes.map Prod.fst).Perm (l.candidates.map ListVolumeCandidate.index) := by
    have hmap := h.map Prod.fst
    rwa [List.map_map] at hmap
  have hnodup : (writes.map Prod.fst).Nodup :=
    hkeys.nodup_iff.2 (l.index_candidates.nodup List.nodup_range)
  apply List.ext_getElem?
  intro i
  rw [List.getElem?_map]
  cases ho : l.filesystems[i]? with
  | none =>
    rw [List.getElem?_eq_none_iff] at ho
    rw [List.getElem?_eq_none (by rwa [length_afterWrites, List.length_replicate])]
    rfl
  | some o =>
    obtain ⟨hlt, -⟩ := List.getElem?_eq_some_iff.1 ho
    have hstart : (List.replicate l.filesystems.length (none : Option ListedVolume))[i]? =
        some none := by
      rw [List.getElem?_replicate, if_pos hlt]
    rw [Option.map_some, ← l.describe_candidate o i]
    have hmem : (o, i) ∈ l.filesystems.zipIdx := List.mem_zipIdx_iff_getElem?.2 ho
    cases hc : l.candidate (o, i) with
    | some c =>
      have hwrite : (i, l.describe c) ∈ writes := by
        refine h.mem_iff.2 (List.mem_map.2 ⟨c, List.mem_filterMap.2 ⟨_, hmem, hc⟩, ?_⟩)
        rw [write, candidate_index hc]
      exact getElem?_afterWrites hnodup hwrite hstart
    | none =>
      rw [getElem?_afterWrites_of_not_mem, hstart]
      · rfl
      -- a candidate at this place would be one for the same file system
      rw [hkeys.mem_iff, List.mem_map]
      rintro ⟨c, hmemc, hindex⟩
      obtain ⟨⟨o', j⟩, hx, hcand⟩ := List.mem_filterMap.1 hmemc
      have hj : j = i := (candidate_index hcand).symm.trans hindex
      subst hj
      have ho' := List.mem_zipIdx_iff_getElem?.1 hx
      rw [ho, Option.some.injEq] at ho'
      rw [ho', hcand] at hc
      cases hc

theorem entries_eq {writes : List (Nat × Option ListedVolume)}
    (h : writes.Perm (l.candidates.map l.write)) : l.entries writes = l.volumes := by
  rw [entries, afterWrites_eq h, List.filterMap_map]
  rfl

theorem volumes_of_candidates_nil (h : l.candidates = []) : l.volumes = [] := by
  have hentries : l.entries [] = l.volumes := entries_eq (by simp [h])
  rw [← hentries, entries, afterWrites]
  simp

theorem workerCount_eq_zero (h : l.workerCount count = 0) : l.candidates = [] := by
  rw [workerCount] at h
  apply List.length_eq_zero_iff.1
  split at h <;> omega

/-- Whatever the workers do and when, `ListVolumes` returns the sequential list: the pool neither
gets stuck nor runs forever, and ends with those entries. -/
theorem returns_volumes (l : VolumeListing) (count : Int) :
    l.Returns count l.volumes ∧ (∀ entries, l.Returns count entries → entries = l.volumes) ∧
    (0 < l.workerCount count →
      ¬ Endless (Crew.Step l.shape l.write) (l.pool (l.workerCount count)) ∧
      ∀ c, Relation.ReflTransGen (Crew.Step l.shape l.write) (l.pool (l.workerCount count)) c →
        c.Over l.shape ∨ ∃ t, Crew.Step l.shape l.write c t) := by
  have hsize : l.candidates.length ≤ l.shape.resultsSize := Nat.le_refl _
  have hstart : (l.pool (l.workerCount count)).Sound l.shape l.write l.candidates :=
    Crew.sound_start ..
  have hentries : ∀ c, l.workerCount count ≠ 0 →
      Relation.ReflTransGen (Crew.Step l.shape l.write) (l.pool (l.workerCount count)) c → c.Over l.shape →
      l.entries c.results = l.volumes := by
    intro c hn hrun hover
    have hpos := Nat.pos_of_ne_zero hn
    have hsound := (Crew.completes hpos hsize l.write).invariant hstart hrun
    have hresults := (hsound.of_over hpos hover).2
    rw [hsound.collected rfl, List.nil_append] at hresults
    exact entries_eq hresults
  refine ⟨?_, ?_, fun hpos => ?_⟩
  · by_cases hn : l.workerCount count = 0
    · rw [volumes_of_candidates_nil (workerCount_eq_zero hn)]
      exact .none hn
    obtain ⟨c, hrun, hover⟩ :=
      (Crew.completes (Nat.pos_of_ne_zero hn) hsize l.write).reaches_done hstart
    rw [← hentries c hn hrun hover]
    exact .pool c hn hrun hover
  · intro entries hreturns
    cases hreturns with
    | none hn => exact (volumes_of_candidates_nil (workerCount_eq_zero hn)).symm
    | pool c hn hrun hover => exact hentries c hn hrun hover
  · have hcompletes := Crew.completes hpos hsize l.write
    refine ⟨hcompletes.not_endless hstart, fun c hrun => ?_⟩
    by_cases hover : c.Over l.shape
    · exact .inl hover
    · exact .inr (hcompletes.advances (hcompletes.invariant hstart hrun) hover)

end VolumeListing
end CsiPowerscale
