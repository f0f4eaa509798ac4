import CsiPowerscale.Footprint

namespace CsiPowerscale
open GoLib Stores Effects Effects.Prog

structure Objects where
  dirs : Dir → Prop
  quotas : Quota → Prop
  writables : WritableSnapshot → Prop
  snapshots : Snapshot → Prop
  exports : Export → Prop

structure Objects.In (K : Objects) (s : OneFS) : Prop where
  dirs : ∀ d, K.dirs d → d ∈ s.dirs
  quotas : ∀ q, K.quotas q → q ∈ s.quotas
  writables : ∀ x, K.writables x → x ∈ s.writables
  snapshots : ∀ x, K.snapshots x → x ∈ s.snapshots
  exports : ∀ e, K.exports e → e ∈ s.exports

def Objects.NoDirUnder (K : Objects) (p : Str) : Prop := ∀ d, K.dirs d → under p d.path = false

/-- What a request may name without touching an object of `K`. Requests that only read or that make
something new are always fine. -/
def Call.Spares (K : Objects) : Call → Prop
  | deleteVolume isiPath name => K.NoDirUnder (namespacePath isiPath name)
  | copySnapshot isiPath _ _ dstName _ => K.NoDirUnder (namespacePath isiPath dstName)
  | copyVolume isiPath _ dstName => K.NoDirUnder (namespacePath isiPath dstName)
  | createWritableSnapshot dstPath _ => K.NoDirUnder dstPath
  | deleteWritableSnapshot dstPath => ∀ x, K.writables x → x.dstPath ≠ dstPath
  | removeSnapshot i name =>
    ∀ x, K.snapshots x → if 0 ≤ i then (x.num : Int) ≠ i else x.name ≠ name
  | updateQuotaSize i .. => ∀ q, K.quotas q → q.id ≠ i
  | clearQuota i => ∀ q, K.quotas q → q.id ≠ i
  | unexport i z => ∀ e, K.exports e → ¬(e.id = i ∧ e.zone = z)
  | modifyQuota i .. => ∀ q, K.quotas q → q.id ≠ i
  | addExportClients _ i z .. => ∀ e, K.exports e → ¬(e.id = i ∧ e.zone = z)
  | removeExportClients i z .. => ∀ e, K.exports e → ¬(e.id = i ∧ e.zone = z)
  | _ => True

theorem under_below (p rel : Str) : under p (below p rel) = true := by
  unfold under below
  by_cases hrel : rel = []
  · simp [hrel]
  · by_cases hp : p = [slash]
    · simp [hp]
    · simp [hrel, hp, startsWith]

namespace OneFS

variable {K : Objects} {s : OneFS}

theorem mergeDir_keeps (he : e ∈ s.dirs) (hne : e.path ≠ d.path) : e ∈ (s.mergeDir d).dirs := by
  unfold mergeDir
  split
  · rw [Table.mem_update]
    exact ⟨e, he, if_neg hne⟩
  · exact Table.mem_add_of_mem he

theorem graft_keeps (he : e ∈ s.dirs) (hu : under dst e.path = false) :
    e ∈ (s.graft dst tree).dirs := by
  unfold graft
  induction tree generalizing s with
  | nil => exact he
  | cons d tree ih =>
    rw [List.foldl_cons]
    apply ih
    apply mergeDir_keeps he
    intro hp
    rw [hp, under_below] at hu
    cases hu

theorem graft_eq (s : OneFS) (dst : Str) (tree : List Dir) :
    s.graft dst tree = { s with dirs := (s.graft dst tree).dirs } := by
  unfold graft
  induction tree generalizing s with
  | nil => rfl
  | cons d tree ih =>
    rw [List.foldl_cons, ih]
    unfold mergeDir
    split <;> rfl

theorem graft_quotas (s : OneFS) (dst : Str) (tree : List Dir) :
    (s.graft dst tree).quotas = s.quotas := by
  rw [graft_eq]

variable (hk : K.In s)
include hk

theorem In.graft (hu : K.NoDirUnder dst) (tree : List Dir) :
    K.In (s.graft dst tree) := by
  rw [graft_eq]
  exact ⟨fun d hd => graft_keeps (hk.dirs d hd) (hu d hd), hk.quotas, hk.writables, hk.snapshots,
    hk.exports⟩

theorem In.newQuota (path : Str) (hard soft advisory softGrace : Int) :
    K.In (s.newQuota path hard soft advisory softGrace).2 := by
  unfold OneFS.newQuota
  split
  · exact ⟨hk.dirs, fun q hq => mem_addQuota.2 (.inl (hk.quotas q hq)), hk.writables,
      hk.snapshots, hk.exports⟩
  · exact hk

theorem In.updateQuotas (hf : ∀ q, K.quotas q → f q = q) :
    K.In { s with quotas := s.quotas.update f hn hp } := by
  refine ⟨hk.dirs, fun q hq => ?_, hk.writables, hk.snapshots, hk.exports⟩
  rw [Catalog.mem_update]
  exact ⟨q, hk.quotas q hq, hf q hq⟩

theorem In.updateExports (hf : ∀ e, K.exports e → f e = e) :
    K.In { s with exports := s.exports.update f hn } :=
  ⟨hk.dirs, hk.quotas, hk.writables, hk.snapshots, fun e he =>
    Registry.mem_update.2 ⟨e, hk.exports e he, hf e he⟩⟩

theorem In.rmdir (hu : K.NoDirUnder p) : K.In (s.rmdir p) :=
  ⟨fun d hd => mem_rmdir.2 ⟨hk.dirs d hd, hu d hd⟩, hk.quotas, hk.writables, hk.snapshots,
    hk.exports⟩

theorem In.dropQuota (hi : ∀ q, K.quotas q → q.id ≠ i) :
    K.In (s.dropQuota i) :=
  ⟨hk.dirs, fun q hq => mem_dropQuota.2 ⟨hk.quotas q hq, hi q hq⟩, hk.writables, hk.snapshots,
    hk.exports⟩

theorem In.dropWritable (hp : ∀ x, K.writables x → x.dstPath ≠ p) :
    K.In (s.dropWritable p) :=
  ⟨hk.dirs, hk.quotas, fun x hx => mem_dropWritable.2 ⟨hk.writables x hx, hp x hx⟩, hk.snapshots,
    hk.exports⟩

theorem In.dropExport (hi : ∀ e, K.exports e → ¬(e.id = i ∧ e.zone = z)) :
    K.In (s.dropExport i z) :=
  ⟨hk.dirs, hk.quotas, hk.writables, hk.snapshots, fun e he =>
    mem_dropExport.2 ⟨hk.exports e he, hi e he⟩⟩

end OneFS

open OneFS in
theorem Call.Spares.serve {c : Call} (h : c.Spares K) (hk : K.In s) : K.In (array.act c s).2 := by
  have heff := c.effect s
  generalize (array.act c s).2 = t at heff ⊢
  cases heff with
  | kept => exact hk
  | mkdir =>
    exact ⟨fun d hd => mem_mkdir.2 (.inl (hk.dirs d hd)), hk.quotas, hk.writables, hk.snapshots,
      hk.exports⟩
  | rmdir => exact In.rmdir hk h
  | copySnapshot tree | copyVolume tree => exact In.graft hk h tree
  | addSnapshot =>
    exact ⟨hk.dirs, hk.quotas, hk.writables, fun x hx =>
      mem_addSnapshot.2 (.inl (hk.snapshots x hx)), hk.exports⟩
  | @dropSnapshot i name x hx =>
    refine ⟨hk.dirs, hk.quotas, hk.writables, fun y hy => ?_, hk.exports⟩
    refine mem_dropSnapshot.2 ⟨hk.snapshots y hy, fun hnum => ?_⟩
    have hy' := h y hy
    split at hx
    · rename_i hi
      rw [if_pos hi, hnum] at hy'
      exact hy' (by simpa using Registry.find?_sat hx)
    rename_i hi
    rw [if_neg hi] at hy'
    have hyx : y = x := Catalog.eq_of_num (hk.snapshots y hy) (Catalog.at?_mem hx) hnum
    exact hy' (hyx ▸ Catalog.at?_key hx)
  | addWritable tree n =>
    have hg := In.graft hk h tree
    apply In.newQuota
    exact ⟨hg.dirs, hg.quotas, fun y hy => mem_addWritable.2 (.inl (hg.writables y hy)),
      hg.snapshots, hg.exports⟩
  | dropWritable => exact In.dropWritable hk h
  | newQuota => exact In.newQuota hk ..
  | setQuota | modifyQuota => exact In.updateQuotas hk fun q hq => if_neg (h q hq)
  | dropQuota => exact In.dropQuota hk h
  | addExport =>
    exact ⟨hk.dirs, hk.quotas, hk.writables, hk.snapshots, fun e he =>
      mem_addExport.2 (.inl (hk.exports e he))⟩
  | dropExport => exact In.dropExport hk h
  | addClients | removeClients => exact In.updateExports hk fun e he => if_neg (h e he)
  | addPolicy => exact ⟨hk.dirs, hk.quotas, hk.writables, hk.snapshots, hk.exports⟩

theorem read_spares (c : Call) (h : c.IsRead) : c.Spares K := by
  cases c <;> trivial

theorem spares_wp (h : uses (Call.Spares K) p) (hk : K.In s) :
    wp array F p (fun _ t => K.In t) s :=
  wp_of_uses h (fun _ _ hc ht => hc.serve ht) hk

namespace Resolves

variable {svc : Service} {req : CreateVolumeRequest} {p : Plan}

theorem basePath_eq (h : Resolves svc req p) : p.basePath = req.base svc := by
  have hs := h.shared
  unfold Plan.basePath CreateVolumeRequest.base
  cases hp : p.shared with
  | none => simp [← hs, hp, h.isiPath]
  | some shared => simp [← hs, hp]

theorem sharedPath_eq_none (h : Resolves svc req p) : p.shared = none ↔ req.sharedPath = none := by
  rw [← h.shared, Option.map_eq_none_iff]

end Resolves

namespace Controller

def volumeDir (p : Plan) : Str := namespacePath p.basePath p.name

section Uses

variable {U : Call → Prop} (hr : ∀ c : Call, c.IsRead → U c)
include hr

theorem createVolumeFromSnapshot_uses (h : ∀ src i, U (.copySnapshot isiPath src i dstName z)) :
    uses U (createVolumeFromSnapshot isiPath normalizedID dstName size z) := by
  refine uses_bind (uses_ofExcept _) fun i => ?_
  refine uses_ask_bind (hr _ trivial) fun r => ?_
  split
  · trivial
  refine uses_bind (IsiService.getSnapshotSize_uses hr _) fun size => ?_
  split
  · trivial
  refine uses_ask_bind (h _ _) fun r => ?_
  split <;> trivial

theorem createVolumeFromWritableSnapshot_uses
    (h : ∀ source, U (.createWritableSnapshot (getPathForVolume isiPath dstName) source)) :
    uses U (createVolumeFromWritableSnapshot isiPath normalizedID dstName size z) := by
  refine uses_bind (uses_ofExcept _) fun i => ?_
  refine uses_ask_bind (hr _ trivial) fun r => ?_
  split
  · trivial
  refine uses_bind (IsiService.getSnapshotSize_uses hr _) fun size => ?_
  split
  · trivial
  refine uses_ask_bind (hr _ trivial) fun r => ?_
  split
  · trivial
  have hmake : uses U (IsiService.createWritableSnapshot isiPath
      (getPathForVolume isiPath dstName) i.snapshotID dstName) :=
    uses_bind (request_uses (h _)) fun _ =>
      uses_bind (request_uses (hr _ trivial)) fun _ => trivial
  refine uses_attempt_bind hmake fun r => ?_
  split <;> trivial

theorem createVolumeFromVolume_uses (h : U (.copyVolume isiPath srcName dstName)) :
    uses U (createVolumeFromVolume isiPath srcName dstName size) := by
  refine uses_bind (IsiService.isVolumeExistent_uses hr _ _) fun found => ?_
  split
  · refine uses_bind (IsiService.getVolumeSize_uses hr _) fun size => ?_
    split
    · trivial
    refine uses_ask_bind h fun r => ?_
    split <;> trivial
  · trivial

omit hr in
theorem cleanUpWritableSnapshot_uses
    (h : p.writableFromSnapshot = true → U (.deleteWritableSnapshot (getPathForVolume p.isiPath
      p.name))) :
    uses U (cleanUpWritableSnapshot p cause) := by
  unfold cleanUpWritableSnapshot
  split
  · rename_i hw
    refine uses_ask_bind (h hw) fun r => ?_
    split <;> trivial
  · trivial

end Uses

end Controller

end CsiPowerscale
