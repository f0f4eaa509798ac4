import CsiPowerscale.CreateVolumeRuns

namespace CsiPowerscale
open GoLib Stores Effects Effects.Prog

def OneFS.shownPath (s : OneFS) (normalizedID zone : Str) : Option Str :=
  match parseNormalizedSnapshotID normalizedID with
  | .error _ => none
  | .ok i => (s.snapshotByIdentity i.snapshotID).bind fun x =>
      (s.zone zone).map fun y => snapshotPath x (dir x.path) zone y.path

/-- The source names a snapshot of the array and has the directory of its volume. -/
def OneFS.Locates (s : OneFS) (src : SnapshotSource) : Prop :=
  ∃ i x, parseNormalizedSnapshotID src.normalizedID = .ok i ∧ src.snapshotID = i.snapshotID ∧
    s.snapshotByIdentity i.snapshotID = some x ∧ src.volumeIsiPath = dir x.path

/-- What a plan has from the array. -/
structure Consulted (s : OneFS) (p : Plan) : Prop where
  shared : ∀ x, p.shared = some x → s.exportAt x.path p.accessZone = some x.nfs
  shown : ∀ src, p.source = .snapshot src →
    s.shownPath src.normalizedID p.accessZone = some src.isiPath
  located : ∀ src, p.source = .snapshot src → s.Locates src

section Plan

variable {svc : Service} {req : CreateVolumeRequest} {F : Faults Call Err OneFS} {s : OneFS}

theorem validateSharedExport_consults : gives array F (validateSharedExport params z)
    (fun r t => t = s ∧ ∀ x, r = some x → s.exportAt x.path z = some x.nfs) s := by
  unfold validateSharedExport
  dsimp only
  split
  · exact ⟨rfl, by rintro x ⟨⟩⟩
  split
  · trivial
  split
  · trivial
  split
  · trivial
  refine gives_ask_bind ?_ fun e _ => trivial
  simp only [array_act, OneFS.serve]
  cases he : s.exportAt (params.get "SharedExportPath") z with
  | none => trivial
  | some e =>
    refine ⟨rfl, ?_⟩
    rintro x ⟨⟩
    exact he

theorem getSnapshotSourceVolumeIsiPath_finds (i : Str) :
    gives array F (IsiService.getSnapshotSourceVolumeIsiPath i)
      (fun path t => t = s ∧ ∃ x, s.snapshotByIdentity i = some x ∧ path = dir x.path) s := by
  refine gives_ask_bind ?_ fun e _ => trivial
  simp only [array_act, OneFS.serve]
  cases hx : s.snapshotByIdentity i with
  | none => trivial
  | some x => exact ⟨rfl, x, rfl, rfl⟩

theorem resolveSnapshotSource_shown (clusterName z normalizedID : Str) :
    gives array F (resolveSnapshotSource svc req clusterName z normalizedID)
      (fun src t => t = s ∧ s.shownPath src.normalizedID z = some src.isiPath ∧
        s.Locates src) s := by
  unfold resolveSnapshotSource
  split
  · trivial
  next i hi =>
  split
  · trivial
  refine gives_settle (getSnapshotSourceVolumeIsiPath_finds i.snapshotID) ?_ fun _ _ => trivial
  rintro _ t ⟨rfl, x, hx, rfl⟩
  refine gives_ask_bind ?_ fun e _ => trivial
  simp only [array_act, OneFS.serve, hx, Option.bind_some]
  cases hz : t.zone z with
  | none => trivial
  | some y =>
    simp only [Option.map_some, OneFS.reply]
    split
    · trivial
    refine gives_bind_quiet (uses_ofExcept (U := Call.IsRead) _) read_serves fun readOnly => ?_
    refine ⟨rfl, ?_, i, x, hi, rfl, hx, rfl⟩
    simp only [OneFS.shownPath, hi, hx, hz, Option.bind_some, Option.map_some]

theorem resolveSource_shown : gives array F (resolveSource svc req clusterName z writable)
    (fun r t => t = s ∧ ∀ src, r = .snapshot src →
      s.shownPath src.normalizedID z = some src.isiPath ∧ s.Locates src) s := by
  unfold resolveSource
  cases req.volumeContentSource with
  | none =>
    dsimp only
    split
    · trivial
    · exact ⟨rfl, by rintro src ⟨⟩⟩
  | some source =>
    cases source with
    | snapshot i =>
      refine gives_bind (resolveSnapshotSource_shown clusterName z i) ?_
      rintro src t ⟨rfl, hshown⟩
      refine ⟨rfl, ?_⟩
      rintro src ⟨⟩
      exact hshown
    | volume i =>
      dsimp only
      split
      · trivial
      · exact ⟨rfl, by rintro src ⟨⟩⟩
    | unset => exact ⟨rfl, by rintro src ⟨⟩⟩

theorem resolvePlan_consults_array :
    gives array F (resolvePlan svc req) (fun p t => t = s ∧ Consulted s p) s := by
  unfold resolvePlan
  refine gives_bind_quiet (uses_ofExcept (U := Call.IsRead) _) read_serves fun _ => ?_
  refine gives_bind_quiet (uses_ofExcept (U := Call.IsRead) _) read_serves fun x => ?_
  refine gives_bind_quiet (uses_attempt.2 (autoProbe_uses (U := Call.IsRead) trivial _)) read_serves
    fun r => ?_
  split
  · trivial
  split
  · trivial
  refine gives_bind validateSharedExport_consults ?_
  rintro shared t ⟨rfl, hshared⟩
  refine gives_bind_quiet (uses_ofExcept (U := Call.IsRead) _) read_serves fun _ => ?_
  refine gives_bind resolveSource_shown ?_
  rintro source t ⟨rfl, hsource⟩
  exact ⟨rfl, hshared, fun src h => (hsource src h).1, fun src h => (hsource src h).2⟩

def Call.SetsUp (svc : Service) (req : CreateVolumeRequest) (c : Call) : Prop :=
  c.IsRead ∨ (∃ name rpo src dst host cert, c = .createPolicy name rpo src dst host cert) ∨
    c = .createVolume (req.isiPath svc) (req.volumeGroup svc) "0777" []

theorem prepareReplication_setsUp : uses (Call.SetsUp svc req)
    (prepareReplication svc req.parameters (req.isiPath svc)) := by
  have hread : ∀ c : Call, c.IsRead → Call.SetsUp svc req c := fun c hc => .inl hc
  rcases prepareReplication_cases svc req (req.isiPath svc) with ⟨text, h⟩ | ⟨_, _, _, _, _, _, h⟩
  · rw [h]
    trivial
  rw [h]
  apply uses_bind (ensureVolumeGroup_uses hread (.inr (.inr rfl)))
  intro vg
  exact uses_bind (ensurePolicy_uses hread (.inr (.inl ⟨_, _, _, _, _, _, rfl⟩))) fun _ => trivial

structure SetUp (svc : Service) (req : CreateVolumeRequest) (s t : OneFS) : Prop where
  exports : t.exports = s.exports
  quotas : t.quotas = s.quotas
  dirs : ∀ q, t.hasDir q = true → s.hasDir q = true ∨ req.groupDir svc = some q

theorem SetUp.exportAt (h : SetUp svc req s t) (path z : Str) : t.exportAt path z = s.exportAt path z := by
  rw [OneFS.exportAt, OneFS.exportAt, h.exports]

theorem SetUp.serve (hon : isReplicationEnabled svc req.parameters = true) (h : SetUp svc req s t)
    (hc : c.SetsUp svc req) :
    SetUp svc req s (array.act c t).2 := by
  rcases hc with hread | ⟨name, rpo, src, dst, host, cert, rfl⟩ | rfl
  · rwa [hread.serve]
  · exact ⟨h.exports, h.quotas, h.dirs⟩
  simp only [array_act, OneFS.serve, OneFS.create]
  split
  · exact h
  split
  · refine ⟨h.exports, h.quotas, ?_⟩
    intro q hq
    rcases Table.has_add.1 hq with hold | hnew
    · exact h.dirs q hold
    · right
      rw [CreateVolumeRequest.groupDir, if_pos hon]
      exact congrArg some hnew
  · exact h

structure Planned (svc : Service) (req : CreateVolumeRequest) (s : OneFS) (p : Plan) : Prop where
  resolves : Resolves svc req p
  reads : Reads req p
  consulted : Consulted s p

theorem preparePlan_planned : gives array F (preparePlan svc req)
    (fun p t => Planned svc req s p ∧ SetUp svc req s t) s := by
  have hrefl : SetUp svc req s s := ⟨rfl, rfl, fun _ => .inl⟩
  have hsetUp : gives array F (preparePlan svc req)
      (fun p t => Consulted s p ∧ SetUp svc req s t) s := by
    refine gives_bind (gives_and resolvePlan_consults_array (gives_of_yields resolvePlan_yields)) ?_
    rintro p t ⟨⟨rfl, hp⟩, _, hpath⟩
    rw [hpath]
    have hroot : wp array F (volumeRoot svc req.parameters (req.isiPath svc))
        (fun _ u => SetUp svc req t u) t := by
      unfold volumeRoot
      split
      · next hon =>
        exact wp_of_uses prepareReplication_setsUp (fun _ _ hc hu => hu.serve hon hc) hrefl
      · exact hrefl
    exact gives_bind (gives_state hroot) fun path u hu => ⟨⟨hp.shared, hp.shown, hp.located⟩, hu⟩
  refine gives_mono (gives_and hsetUp (gives_of_yields (yields_and preparePlan_yields
    preparePlan_reads))) ?_
  rintro p t ⟨⟨hc, hu⟩, hp, hr⟩
  exact ⟨⟨hp, hr, hc⟩, hu⟩

end Plan

namespace Controller

section Find

variable {svc : Service} {p : Plan} {F : Faults Call Err OneFS} {s : OneFS}

def targetPath (p : Plan) : Str :=
  match p.readOnlySource with
  | some src => src.isiPath
  | none =>
    match p.shared with
    | some shared => join [shared.path, p.name]
    | none => getPathForVolume p.isiPath p.name

theorem targetPath_own (hro : p.isROVolumeFromSnapshot = false) (hshared : p.shared = none) :
    targetPath p = getPathForVolume p.isiPath p.name := by
  rw [targetPath, Plan.readOnlySource_none hro, hshared]

theorem isVolumeExistent_finds (isiPath name : Str) :
    gives array F (IsiService.isVolumeExistent isiPath name)
      (fun found t => t = s ∧ (found = true → s.hasDir (namespacePath isiPath name) = true)) s := by
  refine gives_ask_bind ?_ fun e _ => ⟨rfl, fun h => by cases h⟩
  simp only [array_act, OneFS.serve]
  cases hdir : s.hasDir (namespacePath isiPath name) with
  | false => exact ⟨rfl, fun h => by cases h⟩
  | true => exact ⟨rfl, fun _ => rfl⟩

theorem findVolume_finds : gives array F (findVolume p) (fun t u => u = s ∧
    t.path = targetPath p ∧ (p.isROVolumeFromSnapshot = false → t.tracking = none ∧
      (t.foundVol = true → s.hasDir (volumeDir p) = true))) s := by
  have hstate : wp array F (findVolume p) (fun _ t => t = s) s :=
    wp_of_uses (I := fun t => t = s) (findVolume_uses (U := Call.IsRead) fun _ hc => hc)
      (fun c t hc ht => (hc.serve t).trans ht) rfl
  refine gives_and (gives_state hstate) ?_
  unfold findVolume targetPath
  cases hsrc : p.readOnlySource with
  | some src =>
    have hro : ¬ p.isROVolumeFromSnapshot = false := by simp [Plan.isROVolumeFromSnapshot, hsrc]
    dsimp only
    unfold findReadOnlyVolume
    split
    · trivial
    refine gives_bind_any fun r _ => ?_
    split
    · trivial
    refine gives_bind_any fun found _ => ?_
    split
    · exact ⟨rfl, fun h => absurd h hro⟩
    refine gives_bind_any fun count _ => ?_
    split
    · trivial
    · exact ⟨rfl, fun h => absurd h hro⟩
  | none =>
    unfold volumeDir Plan.basePath
    cases p.shared with
    | some shared =>
      exact gives_bind (isVolumeExistent_finds shared.path p.name) fun _ _ ht => ⟨rfl, fun _ =>
        ⟨rfl, ht.2⟩⟩
    | none =>
      exact gives_bind (isVolumeExistent_finds p.isiPath p.name) fun _ _ ht => ⟨rfl, fun _ =>
        ⟨rfl, ht.2⟩⟩

end Find

section Own

variable {svc : Service} {p : Plan} {F : Faults Call Err OneFS} {s u : OneFS} {t : Target} {n : Nat}

/-- The answer names the export, and its description names the quota that has been made. The volume
is called as the request says, or after the last component of its path. -/
structure NamesExport (p : Plan) (n : Nat) (vol : Volume) (u : OneFS) (e : Export) : Prop where
  mem : e ∈ u.exports
  zone : e.zone = p.accessZone
  quotas : ∀ q ∈ u.quotas, n ≤ q.num → q.id = getQuotaIDFromDescription e
  volume : ∃ name path, vol = getCSIVolume p e.id name path e.zone ∧
    (p.isROVolumeFromSnapshot = true → name = p.name ∧
      (targetPath p ∈ e.paths ∨ getPathForVolume (targetPath p) [] ∈ e.paths)) ∧
    (p.isROVolumeFromSnapshot = false → path = targetPath p ∧ targetPath p ∈ e.paths ∧
      (name = p.name ∨ name = (split (targetPath p) "/").getLastD []))

theorem NamesExport.volume_eq (h : NamesExport p n vol u e) (hres : Resolves svc req p)
    (hshared : p.shared = none) (hroot : Rooted (req.root svc)) (hname : Plain req.name) :
    ∃ path, vol = getCSIVolume p e.id req.name path e.zone ∧
      (p.isROVolumeFromSnapshot = false → path = getPathForVolume (req.root svc) req.name ∧
        path ∈ e.paths) := by
  obtain ⟨name, path, rfl, hshown, hown⟩ := h.volume
  rw [← hres.name]
  cases hro : p.isROVolumeFromSnapshot with
  | true => exact ⟨path, by rw [(hshown hro).1], fun h => by cases h⟩
  | false =>
    obtain ⟨rfl, hin, hcase⟩ := hown hro
    have htarget := targetPath_own hro hshared
    rw [hres.isiPath, hres.name] at htarget
    refine ⟨targetPath p, ?_, fun _ => ⟨by rw [htarget, hres.name], hin⟩⟩
    rcases hcase with rfl | rfl
    · rfl
    · rw [htarget, split_volumePath hroot hname, hres.name]

theorem awaitExport_made (h : s.exportById i p.accessZone = some e) (f : Export → Volume)
    (k : Nat) : gives array F (awaitExport svc p i path f k)
      (fun r u => SameButClients s u ∧ ∀ vol, r = some vol → vol = f e) s := by
  induction k with
  | zero => trivial
  | succ k ih =>
    refine gives_ask_bind ?_ fun _ _ => gives_ask_bind ih fun _ _ => trivial
    simp only [array_act, OneFS.serve, h, Option.map_some, OneFS.reply]
    refine gives_bind (gives_state (addDummyHost_same p i)) fun _ u hu => ?_
    refine ⟨hu, ?_⟩
    rintro vol ⟨⟩
    rfl

theorem exportVolumeWithZoneAndXprtsec_made :
    gives array F (IsiService.exportVolumeWithZoneAndXprtsec isiPath name z description xprtsec)
      (fun i u => i = (s.exports.next : Int) + 1 ∧
        u = s.addExport (getPathForVolume isiPath name) z description xprtsec) s := by
  refine gives_bind_quiet (checkXprtsec_uses (fun _ h => h) _) read_serves fun _ => ?_
  refine gives_op ?_
  rintro i ⟨⟩
  exact ⟨rfl, rfl⟩

def NamesNew (p : Plan) (n : Nat) (vol : Volume) (u : OneFS) : Prop :=
  ∃ e, NamesExport p n vol u e ∧ e.xprtsec = resolveXprtsec p.nfsTransportSecurity

theorem NamesNew.of_addExport (hs : MadeQuota n quotaID s)
    (hsame : SameButClients (s.addExport path p.accessZone (getQuotaIDWithCSITag quotaID)
      (resolveXprtsec p.nfsTransportSecurity)) u)
    (hro : p.isROVolumeFromSnapshot = true → name = p.name ∧
      getPathForVolume (targetPath p) [] = path)
    (hown : p.isROVolumeFromSnapshot = false → path' = targetPath p ∧ targetPath p ∈ [path] ∧
      (name = p.name ∨ name = (split (targetPath p) "/").getLastD [])) :
    NamesNew p n (getCSIVolume p ((s.exports.next : Int) + 1) name path' p.accessZone) u := by
  obtain ⟨e, he, hcore⟩ := hsame.mem (OneFS.mem_addExport.2 (.inr rfl))
  have hnum : e.num = s.exports.next := congrArg Export.num hcore
  have hzone : e.zone = p.accessZone := congrArg Export.zone hcore
  have hpaths : e.paths = [path] := congrArg Export.paths hcore
  have hdesc : e.description = getQuotaIDWithCSITag quotaID := congrArg Export.description hcore
  have hshown : p.isROVolumeFromSnapshot = true → name = p.name ∧
      (targetPath p ∈ e.paths ∨ getPathForVolume (targetPath p) [] ∈ e.paths) := by
    intro h
    rw [hpaths]
    exact ⟨(hro h).1, .inr (List.mem_singleton.2 (hro h).2)⟩
  refine ⟨e, ⟨he, hzone, fun q hq hle => ?_, name, path', ?_, hshown, hpaths ▸ hown⟩,
    congrArg Export.xprtsec hcore⟩
  · have hquotas : u.quotas = s.quotas := hsame.quotas
    have hid := hs.2 q (hquotas ▸ hq) hle
    rw [← hid] at hdesc
    exact (getQuotaIDFromDescription_tag hdesc).symm
  · rw [hzone, Export.id, hnum]

theorem exportVolume_names (hro : p.isROVolumeFromSnapshot = false) (hshared : p.shared = none)
    (hs : MadeQuota n quotaID s) : gives array F (exportVolume svc p t quotaID)
      (fun r u => ∀ vol, r = some vol → NamesNew p n vol u) s := by
  refine gives_settle exportVolumeWithZoneAndXprtsec_made ?_ fun e u =>
    gives_bind_any fun _ _ => trivial
  rintro _ _ ⟨rfl, rfl⟩
  dsimp only
  split
  · exact gives_bind_any fun _ _ => by rintro vol ⟨⟩
  refine gives_mono (awaitExport_made exportById_addExport _ _) ?_
  rintro r u ⟨hsame, hvol⟩ vol hr
  rw [hvol vol hr]
  refine .of_addExport hs hsame (fun h => by simp [hro] at h) fun _ => ?_
  rw [targetPath_own hro hshared]
  exact ⟨rfl, List.mem_singleton.2 rfl, .inr rfl⟩

theorem exportReadOnly_names (hro : p.isROVolumeFromSnapshot = true) (hpath : t.path = targetPath p)
    (hs : NoQuota n s) :
    gives array F (exportReadOnly svc p t) (fun r u => ∀ vol, r = some vol → NamesNew p n vol u)
      s := by
  refine gives_bind exportVolumeWithZoneAndXprtsec_made ?_
  rintro _ _ ⟨rfl, rfl⟩
  split
  · rintro vol ⟨⟩
  refine gives_mono (awaitExport_made exportById_addExport _ _) ?_
  rintro r u ⟨hsame, hvol⟩ vol hr
  rw [hvol vol hr]
  have hmade : MadeQuota n [] s := hs.mono fun _ _ => False.elim
  exact .of_addExport hmade hsame (fun _ => ⟨rfl, by rw [hpath]⟩) fun h => by simp [hro] at h

/-- A volume is returned for the export at its path; or its directory has to be made, and no export
of a snapshot is in the way. -/
def Settles (p : Plan) (t : Target) (n : Nat) (s : OneFS) : Resolution → OneFS → Prop
  | .respond vol, u => u = s ∧ (t.foundVol = true ∨ p.isROVolumeFromSnapshot = true) ∧
      ∃ e, s.exportAt t.path p.accessZone = some e ∧
        vol = getCSIVolume p e.id p.name t.path e.zone
  | .proceed _ b, u => NoQuota n u ∧ t.foundVol = false ∧ b = false ∧
      (p.isROVolumeFromSnapshot = true → s.exportAt t.path p.accessZone = none)

theorem resolveExport_settles (hshared : p.shared = none) (hs : NoQuota n s) :
    gives array F (resolveExport svc p t) (Settles p t n s) s := by
  unfold resolveExport
  rw [hshared]
  refine gives_op_bind ?_
  simp only [array_act, OneFS.serve, ofExcept_ok, ret_bind]
  split
  · next hnone =>
    split
    · trivial
    · next hfound => exact ⟨hs, by simpa using hfound, rfl, fun _ => hnone⟩
  next e he =>
  split
  · next hfound =>
    refine gives_bind_quiet (checkVolumeQuota_uses (fun _ h => h) e) read_serves fun _ => ?_
    exact ⟨rfl, by simpa using hfound, e, he, rfl⟩
  · next hnew =>
    have hnew' : t.foundVol = false ∧ p.isROVolumeFromSnapshot = false := by simpa using hnew
    refine gives_attempt_bind (quotaAt_wp (IsiService.unexportByIDWithZone_uses trivial) hs)
      fun r u hu => ?_
    cases r with
    | error e => trivial
    | ok _ => exact ⟨hu, hnew'.1, rfl, fun hro => by simp [hro] at hnew'⟩

theorem build_names (hshared : p.shared = none) (hfound : t.foundVol = false)
    (hpath : t.path = targetPath p) (hs : NoQuota n s) : gives array F (build svc p t i false)
      (fun r u => ∀ vol, r = some vol → NamesNew p n vol u) s := by
  have hbase : p.basePath = p.isiPath := by simp [Plan.basePath, hshared]
  have hdir : ¬ p.directoryBacked = true := by simp [Plan.directoryBacked, hshared]
  refine gives_bind (gives_state (quotaAt_wp (createDirectory_uses fun _ _ => trivial) hs))
    fun _ u hu => ?_
  refine gives_bind (gives_state (populate_quotas (t := t) (fun hro => ?_) hu)) fun _ u hu => ?_
  · rw [hpath, targetPath_own hro hshared, hbase]
  cases hro : p.isROVolumeFromSnapshot with
  | true =>
    have hquota : provisionQuota svc p t false = ret [] := by simp [provisionQuota, hro]
    rw [hquota, ret_bind, exportAndRespond, if_neg hdir, if_pos hro]
    exact exportReadOnly_names hro hpath (hu.mono fun _ _ h => by simp [hro] at h)
  | false =>
    refine gives_bind (provisionQuota_made hfound hu) fun quotaID u hu => ?_
    rw [exportAndRespond, if_neg hdir, if_neg (by simp [hro])]
    exact exportVolume_names hro hshared hu

def NamesOwn (p : Plan) (s : OneFS) (vol : Volume) (u : OneFS) : Prop :=
  ∃ e, NamesExport p s.quotas.next vol u e ∧
    (s.exportAt (targetPath p) p.accessZone = some e ∧
      (p.isROVolumeFromSnapshot = true ∨ s.hasDir (volumeDir p) = true) ∨
    e.xprtsec = resolveXprtsec p.nfsTransportSecurity ∧
      (p.isROVolumeFromSnapshot = true → s.exportAt (targetPath p) p.accessZone = none))

theorem provision_names (hshared : p.shared = none) : gives array F (provision svc p)
    (fun r u => ∀ vol, r = some vol → NamesOwn p s vol u) s := by
  refine gives_bind findVolume_finds ?_
  rintro t u ⟨rfl, hpath, hown⟩
  have htracking : wp array F (createTrackingEntry p t)
      (fun _ v => v.exports = u.exports ∧ NoQuota u.quotas.next v) u :=
    wp_and (keepsExports_wp (createTrackingEntry_uses fun _ _ => ⟨trivial, trivial⟩))
      (quotaAt_wp (createTrackingEntry_uses fun _ _ => ⟨trivial, trivial⟩) (.start u))
  refine gives_bind (gives_state htracking) ?_
  rintro _ v ⟨hexports, hv⟩
  have hat : v.exportAt t.path p.accessZone = u.exportAt (targetPath p) p.accessZone := by
    rw [OneFS.exportAt, OneFS.exportAt, hexports, hpath]
  refine gives_bind (resolveExport_settles hshared hv) fun r w hw => ?_
  cases r with
  | proceed i b =>
    obtain ⟨hno, hfound, rfl, hnone⟩ := hw
    refine gives_mono (build_names hshared hfound hpath hno) fun r w hr vol hvol => ?_
    obtain ⟨e, he, hnew⟩ := hr vol hvol
    exact ⟨e, he, .inr ⟨hnew, hat ▸ hnone⟩⟩
  | respond vol =>
    obtain ⟨rfl, hfound, e, he, rfl⟩ := hw
    obtain ⟨hmem, hin, hzone⟩ := OneFS.exportAt_some he
    rintro _ ⟨⟩
    refine ⟨e, ⟨hmem, hzone, fun q hq hle => (hv.2 q hq hle).elim, _, _, rfl,
      fun _ => ⟨rfl, .inl (hpath ▸ hin)⟩, fun _ => ⟨hpath, hpath ▸ hin, .inl rfl⟩⟩, .inl ⟨hat ▸ he, ?_⟩⟩
    cases hro : p.isROVolumeFromSnapshot with
    | true => exact .inl rfl
    | false => exact .inr ((hown hro).2 (hfound.resolve_right (by simp [hro])))

theorem provision_shared (hshared : p.shared = some x) (hx : x.nfs ∈ s.exports)
    (hzone : x.nfs.zone = p.accessZone) : gives array F (provision svc p) (fun r u => ∀ vol,
      r = some vol → x.nfs ∈ u.exports ∧
        ∃ path, vol = getCSIVolume p x.nfs.id p.name path x.nfs.zone) s := by
  refine gives_mono (gives_and (gives_state (keepsExports_wp (provision_keepsExports hshared)))
    (gives_of_yields provision_yields)) ?_
  rintro r u ⟨hexports, hanswer⟩ vol hvol
  obtain ⟨i, name, path, z, rfl, hans⟩ := hanswer vol hvol
  obtain ⟨rfl, rfl, hz⟩ := hans x hshared
  have hz' : z = x.nfs.zone := hz.elim (fun h => h.trans hzone.symm) id
  exact ⟨hexports ▸ hx, path, by rw [hz']⟩

end Own

section Request

variable {svc : Service} {req : CreateVolumeRequest} {F : Faults Call Err OneFS} {s : OneFS}

structure CreatedFor (svc : Service) (req : CreateVolumeRequest) (s : OneFS) (vol : Volume) (u : OneFS)
    (p : Plan) : Prop extends Planned svc req s p where
  own : p.shared = none → ∃ t, SetUp svc req s t ∧ NamesOwn p t vol u
  shared : ∀ x, p.shared = some x → x.nfs ∈ u.exports ∧
    ∃ path, vol = getCSIVolume p x.nfs.id p.name path x.nfs.zone

theorem provision_createdFor (hp : Planned svc req s p) (ht : SetUp svc req s t) :
    gives array F (provision svc p) (fun r u => ∀ vol, r = some vol → CreatedFor svc req s vol u p) t := by
  cases hshared : p.shared with
  | none =>
    refine gives_mono (provision_names hshared) fun r u hr vol hvol => ⟨hp, ?_, ?_⟩
    · exact fun _ => ⟨t, ht, hr vol hvol⟩
    · intro x hx
      rw [hshared] at hx
      cases hx
  | some x =>
    obtain ⟨hmem, -, hzone⟩ := OneFS.exportAt_some (hp.consulted.shared x hshared)
    refine gives_mono (provision_shared hshared (ht.exports ▸ hmem) hzone)
      fun r u hr vol hvol => ⟨hp, ?_, ?_⟩
    · intro hnone
      rw [hshared] at hnone
      cases hnone
    · intro y hy
      rw [hshared] at hy
      cases hy
      exact hr vol hvol

theorem createVolume_createdFor : gives array F (createVolume svc req)
    (fun r u => ∀ vol, r = some vol → ∃ p, CreatedFor svc req s vol u p) s :=
  gives_bind preparePlan_planned fun p _ hp => gives_mono (provision_createdFor hp.1 hp.2)
    fun _ _ hr vol hvol => ⟨p, hr vol hvol⟩

theorem createVolume_exportBacked (hcv : Outcome array F (createVolume svc req) s (.ok (some vol)) t)
    (hshared : req.sharedPath = none) (hro : req.readOnly svc = false)
    (hroot : Rooted (req.root svc)) (hname : Plain req.name) :
    ∃ e ∈ t.exports, getPathForVolume (req.root svc) req.name ∈ e.paths ∧
      e.zone = req.accessZone svc ∧ ∃ c, req.clusterName svc = some c ∧
        vol.volumeID = getNormalizedVolumeID req.name e.id e.zone c := by
  obtain ⟨p, hp⟩ := createVolume_createdFor.outcome hcv vol rfl
  have hres := hp.resolves
  have hnone := hres.sharedPath_eq_none.2 hshared
  obtain ⟨u, -, e, he, -⟩ := hp.own hnone
  obtain ⟨path, rfl, hown⟩ := he.volume_eq hres hnone hroot hname
  obtain ⟨rfl, hin⟩ := hown (hres.readOnly.trans hro)
  exact ⟨e, he.mem, hin, he.zone.trans hres.accessZone, p.clusterName, hres.clusterName,
    getCSIVolume_exportBacked hnone⟩

theorem createVolume_directoryBacked
    (hcv : Outcome array F (createVolume svc req) s (.ok (some vol)) t)
    (hshared : req.sharedPath = some shared) :
    ∃ e ∈ t.exports, shared ∈ e.paths ∧ e.zone = req.accessZone svc ∧
      ∃ c, req.clusterName svc = some c ∧
        vol.volumeID = getDirectoryBackedVolumeID req.name e.id e.zone c := by
  obtain ⟨p, hp⟩ := createVolume_createdFor.outcome hcv vol rfl
  have hres := hp.resolves
  have hpath := hres.shared
  rw [hshared, Option.map_eq_some_iff] at hpath
  obtain ⟨x, hx, rfl⟩ := hpath
  obtain ⟨hmem, path, rfl⟩ := hp.shared x hx
  obtain ⟨-, hin, hz⟩ := OneFS.exportAt_some (hp.consulted.shared x hx)
  refine ⟨x.nfs, hmem, hin, hz.trans hres.accessZone, p.clusterName, hres.clusterName, ?_⟩
  simp [getCSIVolume, Plan.directoryBacked, hx, hres.name]

end Request

end Controller
end CsiPowerscale
