import CsiPowerscale.CreateVolumeFrame

namespace CsiPowerscale
open GoLib Stores Effects Effects.Prog

def Call.KeepsExports : Call → Prop
  | exportVolume .. | unexport .. | addExportClients .. | removeExportClients .. => False
  | _ => True

theorem OneFS.graft_exports (s : OneFS) (dst : Str) (tree : List Dir) :
    (s.graft dst tree).exports = s.exports := by
  rw [graft_eq]

theorem OneFS.newQuota_exports (s : OneFS) (path : Str) (hard soft advisory softGrace : Int) :
    (s.newQuota path hard soft advisory softGrace).2.exports = s.exports := by
  unfold newQuota
  split <;> rfl

theorem Call.KeepsExports.serve (h : c.KeepsExports) (s : OneFS) :
    (array.act c s).2.exports = s.exports := by
  have heff := Call.effect c s
  generalize (array.act c s).2 = t at heff ⊢
  cases heff with
  | copySnapshot tree | copyVolume tree => exact s.graft_exports _ _
  | addWritable tree n => exact (OneFS.newQuota_exports _ _ _ _ _ _).trans (s.graft_exports _ _)
  | newQuota => exact s.newQuota_exports _ _ _ _ _
  | addExport | dropExport | addClients | removeClients => exact h.elim
  | _ => rfl

theorem read_keepsExports (c : Call) (h : c.IsRead) : c.KeepsExports := by
  cases c <;> trivial

theorem keepsExports_wp (h : uses Call.KeepsExports q) :
    wp array F q (fun _ t => t.exports = s.exports) s :=
  wp_of_uses h (fun _ t hc ht => (hc.serve t).trans ht) rfl

theorem run_keepsExports (h : uses Call.KeepsExports q) (hrun : run array q s = (r, t)) :
    t.exports = s.exports :=
  wp_run (F := .none) (keepsExports_wp h) hrun

theorem read_serves (c : Call) (t : OneFS) (h : c.IsRead) : (array.act c t).2 = t := h.serve t

namespace Controller

variable {svc : Service} {p : Plan} {F : Faults Call Err OneFS} {s : OneFS}

/-- The volumes that `CreateVolume` can return for a plan; the identifier of a directory-backed one
has its name and the shared export. -/
def Answer (p : Plan) (r : Option Volume) : Prop :=
  ∀ vol, r = some vol → ∃ i name path z, vol = getCSIVolume p i name path z ∧
    ∀ x, p.shared = some x → name = p.name ∧ i = x.nfs.id ∧ (z = p.accessZone ∨ z = x.nfs.zone)

theorem Answer.intro (h : ∀ x, p.shared = some x →
    name = p.name ∧ i = x.nfs.id ∧ (z = p.accessZone ∨ z = x.nfs.zone)) :
    Answer p (some (getCSIVolume p i name path z)) := by
  rintro vol ⟨⟩
  exact ⟨i, name, path, z, rfl, h⟩

theorem awaitExport_yields (hf : ∀ e, Answer p (some (f e))) :
    yields (Answer p) (awaitExport svc p i path f n) := by
  induction n with
  | zero => trivial
  | succ n ih =>
    refine yields_bind_any fun r => ?_
    split
    · exact yields_bind_any fun _ => hf _
    refine yields_bind_any fun r => ?_
    split
    · exact ih
    · trivial

theorem exportAndRespond_yields (hi : ∀ x, p.shared = some x → i = x.nfs.id) :
    yields (Answer p) (exportAndRespond svc p t i quotaID) := by
  have hnone : Answer p none := by
    rintro vol ⟨⟩
  unfold exportAndRespond
  split
  · exact Answer.intro fun x hx => ⟨rfl, hi x hx, .inl rfl⟩
  rename_i hdir
  have hany : ∀ {i name path z}, Answer p (some (getCSIVolume p i name path z)) :=
    Answer.intro fun x hx => absurd (show p.directoryBacked = true by
      simp [Plan.directoryBacked, hx]) hdir
  split
  · refine yields_bind_any fun i => ?_
    split
    · exact hnone
    · exact awaitExport_yields (fun e => hany)
  refine yields_bind_any fun r => ?_
  split
  · exact yields_bind_any fun _ => yields_fail _
  split
  · exact yields_bind_any fun _ => hnone
  · refine awaitExport_yields (fun e => ?_)
    unfold exportResponse
    split <;> exact hany

/-- A resolution answers for the plan or keeps to its shared export. -/
def Decides (p : Plan) : Resolution → Prop
  | .respond vol => Answer p (some vol)
  | .proceed i _ => ∀ x, p.shared = some x → i = x.nfs.id

theorem resolveExport_decides (t : Target) : yields (Decides p) (resolveExport svc p t) := by
  unfold resolveExport
  split
  · rename_i shared hshared
    have hproceed : ∀ b, Decides p (.proceed shared.nfs.id b) := by
      intro b x hx
      rw [Option.some.inj (hshared.symm.trans hx)]
    split
    · refine yields_bind_any fun r => ?_
      split
      · split
        · trivial
        · refine Answer.intro fun x hx => ?_
          rw [Option.some.inj (hshared.symm.trans hx)]
          exact ⟨rfl, rfl, .inr rfl⟩
      · refine yields_bind_any fun r => ?_
        split
        · trivial
        · split
          · trivial
          · exact hproceed _
    · exact hproceed _
  · rename_i hshared
    have hproceed : ∀ i b, Decides p (.proceed i b) := by
      intro i b x hx
      rw [hshared] at hx
      cases hx
    refine yields_bind_any fun r => ?_
    split
    · split
      · trivial
      · exact hproceed _ _
    split
    · refine yields_bind_any fun _ => Answer.intro fun x hx => ?_
      rw [hshared] at hx
      cases hx
    refine yields_bind_any fun r => ?_
    split
    · trivial
    · exact hproceed _ _

theorem provision_yields : yields (Answer p) (provision svc p) := by
  refine yields_bind_any fun t => yields_bind_any fun _ => ?_
  refine yields_bind (resolveExport_decides t) fun r hr => ?_
  cases r with
  | respond vol => exact hr
  | proceed i needsQuota =>
    refine yields_bind_any fun _ => yields_bind_any fun _ => yields_bind_any fun quotaID => ?_
    exact exportAndRespond_yields hr

theorem createVolume_volumeID (svc : Service) (req : CreateVolumeRequest) :
    yields (fun r => ∀ vol, r = some vol → ∃ i z c,
      if req.sharedPath = none then ∃ name, vol.volumeID = getNormalizedVolumeID name i z c
      else vol.volumeID = getDirectoryBackedVolumeID req.name i z c) (createVolume svc req) := by
  refine yields_bind preparePlan_yields fun p hp => ?_
  refine yields_mono provision_yields fun r hr vol hvol => ?_
  obtain ⟨i, name, path, z, rfl, hname⟩ := hr vol hvol
  have hshared := hp.shared
  refine ⟨i, z, p.clusterName, ?_⟩
  cases hps : p.shared with
  | none =>
    rw [if_pos (by rw [← hshared, hps]; rfl)]
    exact ⟨name, by simp [getCSIVolume, Plan.directoryBacked, hps]⟩
  | some shared =>
    rw [if_neg (by rw [← hshared, hps]; simp)]
    simp [getCSIVolume, Plan.directoryBacked, hps, (hname shared hps).1, hp.name]

theorem createVolumeFromSource_uses (hr : ∀ c : Call, c.IsRead → U c)
    (hs : ∀ a b c d e, U (.copySnapshot a b c d e)) (hv : ∀ a b c, U (.copyVolume a b c))
    (hw : p.writableFromSnapshot = true → ∀ b, U (.createWritableSnapshot (getPathForVolume base
      p.name) b)) :
    uses U (createVolumeFromSource p base) := by
  unfold createVolumeFromSource
  split
  · refine uses_attempt_bind ?_ fun r => ?_
    · split
      · rename_i hwritable
        exact createVolumeFromWritableSnapshot_uses hr (hw hwritable)
      · exact createVolumeFromSnapshot_uses hr fun _ _ => hs _ _ _ _ _
    · cases r <;> trivial
  · split
    · split <;> trivial
    refine uses_bind ?_ fun b => uses_attempt_bind
      (createVolumeFromVolume_uses hr (hv _ _ _)) fun r => ?_
    · unfold sourceBasePath
      split
      · refine uses_ask_bind (hr _ trivial) fun r => ?_
        split
        · split <;> trivial
        · trivial
      · trivial
    · cases r <;> trivial
  · trivial

theorem createVolumeFromSource_keepsExports :
    uses Call.KeepsExports (createVolumeFromSource p base) :=
  createVolumeFromSource_uses read_keepsExports (fun _ _ _ _ _ => trivial) (fun _ _ _ => trivial)
    fun _ _ => trivial

theorem populate_uses (hr : ∀ c : Call, c.IsRead → U c)
    (hs : ∀ a b c d e, U (.copySnapshot a b c d e)) (hv : ∀ a b c, U (.copyVolume a b c))
    (hw : p.writableFromSnapshot = true → ∀ b, U (.createWritableSnapshot (getPathForVolume
      p.basePath p.name) b)) (hdw : ∀ path, U (.deleteWritableSnapshot path))
    (hd : ∀ path name, U (.deleteVolume path name)) :
    uses U (populate p) := by
  unfold populate
  split
  · refine uses_attempt_bind (createVolumeFromSource_uses hr hs hv hw) fun r => ?_
    cases r with
    | ok _ => trivial
    | error e =>
      exact uses_bind (cleanUpWritableSnapshot_uses fun _ => hdw _) fun _ =>
        uses_attempt_bind (IsiService.deleteVolume_uses (hd _ _)) fun _ => trivial
  · trivial

theorem populate_keepsExports : uses Call.KeepsExports (populate p) :=
  populate_uses read_keepsExports (fun _ _ _ _ _ => trivial) (fun _ _ _ => trivial)
    (fun _ _ => trivial) (fun _ => trivial) fun _ _ => trivial

theorem createQuotaWithRetry_uses
    (h : U (.createQuota path p.sizeInBytes p.thresholds.1 p.thresholds.2.1 p.thresholds.2.2))
    (hw : U .wait) :
    uses U (createQuotaWithRetry svc p path n) := by
  induction n with
  | zero => exact uses_attempt.2 (IsiService.createQuota_uses fun _ => h)
  | succ n ih =>
    refine uses_attempt_bind (IsiService.createQuota_uses fun _ => h) fun r => ?_
    cases r with
    | ok _ => trivial
    | error e =>
      refine uses_ask_bind hw fun r => ?_
      cases r with
      | ok _ => exact ih
      | error e => trivial

theorem provisionQuota_uses (hr : ∀ c : Call, c.IsRead → U c)
    (hq : U (.createQuota t.path p.sizeInBytes p.thresholds.1 p.thresholds.2.1 p.thresholds.2.2))
    (hd : ∀ path name, U (.deleteVolume path name))
    (hw : ∀ path, U (.deleteWritableSnapshot path))
    (hs : p.writableFromSnapshot = true → ∀ i, U (.updateQuotaSize i p.sizeInBytes 0 0 0)) :
    uses U (provisionQuota svc p t needsQuota) := by
  have hdelete : ∀ base name, uses U (attempt (IsiService.deleteVolume base name)) :=
    fun base name => uses_attempt.2 (IsiService.deleteVolume_uses (hd base name))
  unfold provisionQuota
  split
  · refine uses_bind (createQuotaWithRetry_uses hq (hr _ trivial)) fun r => ?_
    cases r with
    | ok _ => trivial
    | error e =>
      refine uses_bind (hdelete _ _) fun r => ?_
      split <;> split <;> trivial
  · split
    · next hadopt =>
      have hwritable : p.writableFromSnapshot = true := by
        rw [Bool.and_eq_true] at hadopt
        exact hadopt.2
      refine uses_ask_bind (hr _ trivial) fun r => ?_
      split
      · exact uses_bind (cleanUpWritableSnapshot_uses fun _ => hw _) fun _ =>
          uses_bind (hdelete _ _) fun _ => trivial
      · refine uses_attempt_bind (request_uses (hs hwritable _)) fun r => ?_
        cases r <;> trivial
    · trivial

theorem provisionQuota_keepsExports : uses Call.KeepsExports (provisionQuota svc p t needsQuota) :=
  provisionQuota_uses read_keepsExports trivial (fun _ _ => trivial) (fun _ => trivial)
    fun _ _ => trivial

theorem provision_keepsExports (hshared : p.shared = some x) :
    uses Call.KeepsExports (provision svc p) := by
  refine uses_bind (findVolume_uses read_keepsExports) fun t => ?_
  refine uses_bind (createTrackingEntry_uses fun _ _ => ⟨trivial, trivial⟩) fun _ => ?_
  refine uses_bind ?_ fun r => ?_
  · unfold resolveExport
    rw [hshared]
    dsimp only
    split
    · exact resolveDirectoryBacked_uses read_keepsExports _
    · trivial
  · cases r with
    | respond v => trivial
    | proceed i needsQuota =>
      refine uses_bind (createDirectory_uses fun _ _ => trivial) fun _ => ?_
      refine uses_bind populate_keepsExports fun _ => ?_
      refine uses_bind provisionQuota_keepsExports fun quotaID => ?_
      rw [exportAndRespond, if_pos (by simp [Plan.directoryBacked, hshared])]
      trivial

theorem getCSIVolume_exportBacked (hshared : p.shared = none) :
    (getCSIVolume p i name path z).volumeID = getNormalizedVolumeID name i z p.clusterName := by
  simp [getCSIVolume, Plan.directoryBacked, hshared]

end Controller

def Export.core (e : Export) : Export := { e with clients := [] }

/-- The arrays differ at most in the clients of exports. -/
structure SameButClients (s t : OneFS) : Prop where
  dirs : t.dirs = s.dirs
  quotas : t.quotas = s.quotas
  exports : t.exports.rows.map Export.core = s.exports.rows.map Export.core
  next : t.exports.next = s.exports.next
  writables : t.writables = s.writables
  snapshots : t.snapshots = s.snapshots
  zones : t.zones = s.zones
  policies : t.policies = s.policies
  nfsTLSMode : t.nfsTLSMode = s.nfsTLSMode

namespace SameButClients

theorem refl (s : OneFS) : SameButClients s s := ⟨rfl, rfl, rfl, rfl, rfl, rfl, rfl, rfl, rfl⟩

theorem trans (h : SameButClients s t) (h' : SameButClients t u) : SameButClients s u :=
  ⟨h'.dirs.trans h.dirs, h'.quotas.trans h.quotas, h'.exports.trans h.exports, h'.next.trans h.next,
    h'.writables.trans h.writables, h'.snapshots.trans h.snapshots, h'.zones.trans h.zones,
    h'.policies.trans h.policies, h'.nfsTLSMode.trans h.nfsTLSMode⟩

theorem addClients (s : OneFS) (i : Int) (z : Str) (names : List Str) :
    SameButClients s (s.addClients .clients i z names) := by
  refine ⟨rfl, rfl, ?_, rfl, rfl, rfl, rfl, rfl, rfl⟩
  simp only [OneFS.addClients, Registry.update, Table.update, List.map_map]
  refine List.map_congr_left fun e _ => ?_
  simp only [Function.comp_apply]
  split <;> rfl

theorem mem (h : SameButClients s t) (he : e ∈ s.exports) : ∃ x ∈ t.exports, x.core = e.core := by
  have hmem := List.mem_map_of_mem (f := Export.core) he
  rw [← h.exports] at hmem
  exact List.mem_map.1 hmem

end SameButClients

namespace Controller

variable {svc : Service} {p : Plan} {F : Faults Call Err OneFS} {s t u : OneFS}

theorem addDummyHost_same (p : Plan) (i : Int) :
    wp array F (addDummyHost p i) (fun _ u => SameButClients s u) s := by
  refine wp_of_uses
    (U := fun c => c.IsRead ∨ ∃ client b, c = .addExportClients .clients i p.accessZone [client] b)
    (addDummyHost_uses (fun c hc => .inl hc) fun client b _ => .inr ⟨client, b, rfl⟩) ?_ (.refl s)
  rintro c t (hc | ⟨client, b, rfl⟩) ht
  · rwa [hc.serve t]
  simp only [array_act, OneFS.serve, OneFS.change]
  split
  · exact ht.trans (.addClients t i _ [client])
  · exact ht

theorem addDummyHost_sameButClients : SameButClients s (run array (addDummyHost p i) s).2 :=
  wp_none_iff_run.1 (addDummyHost_same p i)

theorem run_addDummyHost (p : Plan) (i : Int) (s : OneFS) : (run array (addDummyHost p i) s).1 = .ok () := by
  unfold addDummyHost
  simp only [run_bind]
  have hhost : ∃ b, run array (IsiService.isHostAlreadyAdded i p.accessZone dummyHostNodeID) s =
      (.ok b, s) := by
    unfold IsiService.isHostAlreadyAdded
    simp only [run_bind, run_ask, array_act, OneFS.serve]
    cases s.exportById i p.accessZone with
    | none => exact ⟨_, rfl⟩
    | some e =>
      simp only [Option.map_some, OneFS.reply]
      split <;> exact ⟨_, rfl⟩
  obtain ⟨b, hb⟩ := hhost
  rw [hb]
  dsimp only
  split
  · simp [run_bind]
  · rfl

theorem run_awaitExport (h : s.exportById i p.accessZone = some e) :
    run array (awaitExport svc p i path f (n + 1)) s =
      (.ok (some (f e)), (run array (addDummyHost p i) s).2) := by
  have hhost := run_addDummyHost p i s
  simp only [awaitExport, run_bind, run_ask, array_act, OneFS.serve, h, Option.map_some, OneFS.reply]
  cases hr : run array (addDummyHost p i) s with
  | mk r t =>
    rw [hr] at hhost
    obtain rfl : r = .ok () := hhost
    rfl

theorem run_checkXprtsec_state (xprtsec : Str) (s : OneFS) :
    (run array (checkXprtsec xprtsec) s).2 = s :=
  run_state_of_uses (checkXprtsec_uses (fun _ h => h) xprtsec) fun _ t hc => hc.serve t

theorem run_exportVolumeWithZoneAndXprtsec (isiPath name z description xprtsec : Str) (s : OneFS) :
    run array (IsiService.exportVolumeWithZoneAndXprtsec isiPath name z description xprtsec) s =
      match (run array (checkXprtsec xprtsec) s).1 with
      | .ok _ => (.ok ((s.exports.next : Int) + 1),
          s.addExport (getPathForVolume isiPath name) z description xprtsec)
      | .error e => (.error e, s) := by
  have hstate := run_checkXprtsec_state xprtsec s
  unfold IsiService.exportVolumeWithZoneAndXprtsec
  rw [run_bind]
  cases hr : run array (checkXprtsec xprtsec) s with
  | mk r t =>
    rw [hr] at hstate
    obtain rfl : t = s := hstate
    cases r <;> rfl

theorem exportById_addExport :
    (s.addExport path z description xprtsec).exportById ((s.exports.next : Int) + 1) z =
      some ⟨s.exports.next, [path], z, description, xprtsec, [], [], [], []⟩ := by
  refine Registry.find?_unique (OneFS.mem_addExport.2 (.inr rfl)) (by simp [Export.id]) fun x hx => ?_
  have hid := (of_decide_eq_true hx).1
  unfold Export.id at hid
  show x.num = s.exports.next
  omega

def madeExport (p : Plan) (quotaID : Str) (s : OneFS) : OneFS :=
  s.addExport (getPathForVolume p.isiPath p.name) p.accessZone (getQuotaIDWithCSITag quotaID)
    (resolveXprtsec p.nfsTransportSecurity)

def madeVolume (p : Plan) (s : OneFS) : Volume :=
  getCSIVolume p ((s.exports.next : Int) + 1)
    ((split (getPathForVolume p.isiPath p.name) "/").getLastD []) (getPathForVolume p.isiPath p.name)
    p.accessZone

theorem run_exportVolume_ok (svc : Service) (t : Target) (quotaID : Str)
    (hx : ∃ a, (run array (checkXprtsec (resolveXprtsec p.nfsTransportSecurity)) s).1 = .ok a) :
    ∃ u, run array (exportVolume svc p t quotaID) s = (.ok (some (madeVolume p s)), u) ∧
      SameButClients (madeExport p quotaID s) u := by
  obtain ⟨a, ha⟩ := hx
  have hne : ¬ (s.exports.next : Int) + 1 = 0 := by omega
  refine ⟨(run array (addDummyHost p (s.exports.next + 1)) (madeExport p quotaID s)).2, ?_,
    addDummyHost_sameButClients⟩
  unfold exportVolume
  simp only [run_bind, run_attempt, run_exportVolumeWithZoneAndXprtsec, ha, hne, if_false]
  exact run_awaitExport exportById_addExport

theorem run_exportVolume_inv {t : Target}
    (h : run array (exportVolume svc p t quotaID) s = (.ok r, u)) :
    r = some (madeVolume p s) ∧ SameButClients (madeExport p quotaID s) u ∧
      ∃ a, (run array (checkXprtsec (resolveXprtsec p.nfsTransportSecurity)) s).1 = .ok a := by
  cases hx : (run array (checkXprtsec (resolveXprtsec p.nfsTransportSecurity)) s).1 with
  | ok a =>
    obtain ⟨v, hv, hsame⟩ := run_exportVolume_ok svc t quotaID ⟨a, hx⟩
    rw [hv] at h
    cases h
    exact ⟨rfl, hsame, a, rfl⟩
  | error e =>
    unfold exportVolume at h
    simp only [run_bind, run_attempt, run_exportVolumeWithZoneAndXprtsec, hx] at h
    split at h <;> simp at h

theorem run_rollbackQuota (p : Plan) (e : Err) (s : OneFS) :
    ∃ e', (run array (rollbackQuota p e) s).1 = .error e' := by
  unfold rollbackQuota
  simp only [run_bind, run_attempt]
  split <;> split <;> exact ⟨_, rfl⟩

/-- Only directories and policies are added. -/
structure Fills (s t : OneFS) : Prop where
  grows : Grows s t
  exports : t.exports = s.exports
  quotas : t.quotas = s.quotas
  writables : t.writables = s.writables

theorem Fills.refl (s : OneFS) : Fills s s := ⟨.refl s, rfl, rfl, rfl⟩

theorem create_fills (isiPath name : Str) (s : OneFS) : Fills s (s.create isiPath name).2 := by
  unfold OneFS.create
  dsimp only
  split
  · exact .refl s
  · split
    · exact ⟨.mkdir s _, rfl, rfl, rfl⟩
    · exact .refl s

theorem create_ok (h : s.create isiPath name = (.ok info, u)) :
    u.hasDir (namespacePath isiPath name) = true := by
  unfold OneFS.create at h
  dsimp only at h
  split at h
  · cases h
    assumption
  split at h
  · cases h
    exact Table.has_add.2 (.inr rfl)
  · cases h

theorem run_createDirectory_inv {t : Target} (h : run array (createDirectory p t) s = (.ok (), u)) :
    Fills s u ∧ (p.isROVolumeFromSnapshot = false → t.foundVol = false →
      p.writableFromSnapshot = false → u.hasDir (volumeDir p) = true) := by
  unfold createDirectory at h
  split at h
  · have hmake : ∀ permissions metadata,
        array.act (.createVolume p.basePath p.name permissions metadata) s =
          s.create p.basePath p.name := fun _ _ => rfl
    have hdone : ∃ info, s.create p.basePath p.name = (.ok info, u) := by
      dsimp only at h
      split at h <;>
      · simp only [IsiService.createVolume, IsiService.createVolumeWithMetaData, run_bind, run_attempt,
          run_op, hmake] at h
        cases hc : s.create p.basePath p.name with
        | mk r v =>
          cases r with
          | ok info =>
            simp only [hc, pure_eq, run_ret, Prod.mk.injEq, true_and] at h
            exact ⟨info, by rw [h]⟩
          | error e => simp [hc] at h
    obtain ⟨info, hinfo⟩ := hdone
    have hfills := create_fills p.basePath p.name s
    rw [hinfo] at hfills
    exact ⟨hfills, fun _ _ _ => create_ok hinfo⟩
  · rename_i hcond
    cases h
    refine ⟨.refl s, fun hro hf hw => absurd ?_ hcond⟩
    simp [hro, hf, hw]

theorem run_populate_inv (h : run array (populate p) s = (.ok (), u)) :
    Grows s u ∧ u.exports = s.exports ∧
      (p.hasContentSource = true → p.isROVolumeFromSnapshot = false →
        run array (createVolumeFromSource p p.basePath) s = (.ok (), u)) ∧
      ((p.hasContentSource && !p.isROVolumeFromSnapshot) = false → u = s) := by
  unfold populate at h
  split at h
  · rename_i hcond
    simp only [run_bind, run_attempt] at h
    cases hsrc : run array (createVolumeFromSource p p.basePath) s with
    | mk r v =>
      cases r with
      | error e =>
        simp only [hsrc] at h
        exact (run_yields (P := fun _ => False)
          (yields_bind_any fun _ => yields_bind_any fun _ => yields_fail _) h).elim
      | ok _ =>
        simp only [hsrc, run_ret, Prod.mk.injEq, true_and] at h
        subst h
        refine ⟨run_grows (createVolumeFromSource_uses read_grow (fun _ _ _ _ _ => trivial)
          (fun _ _ _ => trivial) (fun _ _ => trivial)) hsrc,
          run_keepsExports createVolumeFromSource_keepsExports hsrc, fun _ _ => rfl, fun hno => ?_⟩
        rw [hno] at hcond
        cases hcond
  · rename_i hcond
    cases h
    refine ⟨.refl s, rfl, fun hc hro => absurd ?_ hcond, fun _ => rfl⟩
    simp [hc, hro]

end Controller

namespace Controller

variable {svc : Service} {p : Plan} {s s' t u : OneFS}

@[simp] theorem run_getSnapshotSize (isiPath name z : Str) :
    run array (IsiService.getSnapshotSize isiPath name z) s =
      (.ok (((s.snapshotByName name).map fun x => OneFS.treeSize x.tree).getD 0), s) := by
  simp only [IsiService.getSnapshotSize, run_bind, run_ask, array_act, OneFS.serve]
  cases s.snapshotByName name <;> rfl

/-- The quota named in the export has the requested size. -/
def QuotaMatches (svc : Service) (p : Plan) (s : OneFS) (e : Export) : Prop :=
  svc.quotaEnabled = true → ∃ q, s.quotaById (getQuotaIDFromDescription e) = some q ∧
    q.hard = p.sizeInBytes

theorem run_checkVolumeQuota (svc : Service) (he : s.exportById e.id p.accessZone = some e) :
    (QuotaMatches svc p s e → run array (checkVolumeQuota svc p e) s = (.ok (), s)) ∧
      (¬ QuotaMatches svc p s e → ∃ err, run array (checkVolumeQuota svc p e) s = (.error err, s)) := by
  unfold QuotaMatches checkVolumeQuota
  by_cases hen : svc.quotaEnabled = true
  · simp only [hen, if_true, forall_const, run_bind, run_attempt, IsiService.getVolumeQuota, run_ask,
      array_act, OneFS.serve, he, Option.map_some, OneFS.reply]
    by_cases htag : getQuotaIDFromDescription e = []
    · simp [htag, s.quotaById_nil]
    simp only [htag, if_false, run_op, array_act, OneFS.serve]
    cases hq : s.quotaById (getQuotaIDFromDescription e) with
    | none => simp [OneFS.reply]
    | some q =>
      by_cases hsize : q.hard = p.sizeInBytes
      · simp [OneFS.reply, hsize]
      · simp [OneFS.reply, hsize, Ne.symm hsize]
  · simp [hen]

theorem run_findVolume_exportBacked (hshared : p.shared = none)
    (hro : p.isROVolumeFromSnapshot = false) : run array (findVolume p) s =
      (.ok ⟨getPathForVolume p.isiPath p.name, s.hasDir (volumeDir p), none⟩, s) := by
  have hnone := Plan.readOnlySource_none hro
  have hbase : p.basePath = p.isiPath := by rw [Plan.basePath, hshared]
  simp [findVolume, hnone, hshared, run_bind, volumeDir, hbase]

theorem run_provision_found (hshared : p.shared = none) (hro : p.isROVolumeFromSnapshot = false)
    (hdir : s.hasDir (volumeDir p) = true)
    (he : s.exportAt (getPathForVolume p.isiPath p.name) p.accessZone = some e) :
    (QuotaMatches svc p s e → run array (provision svc p) s =
      (.ok (some (getCSIVolume p e.id p.name (getPathForVolume p.isiPath p.name) e.zone)), s)) ∧
    (¬ QuotaMatches svc p s e → ∃ err, run array (provision svc p) s = (.error err, s)) := by
  obtain ⟨hmem, _, hz⟩ := OneFS.exportAt_some he
  have hid : s.exportById e.id p.accessZone = some e := hz ▸ OneFS.exportById_of_mem hmem
  obtain ⟨hok, hbad⟩ := run_checkVolumeQuota svc hid
  simp only [provision, run_bind, run_findVolume_exportBacked hshared hro, hdir, createTrackingEntry,
    run_ret, resolveExport, hshared, run_op, array_act, OneFS.serve, he, Bool.true_or, if_true,
    resolveExportBacked]
  refine ⟨fun h => ?_, fun h => ?_⟩
  · rw [hok h]
    rfl
  · obtain ⟨err, herr⟩ := hbad h
    exact ⟨err, by rw [herr]⟩

/-- An export of the path is removed. -/
def dropStale (s : OneFS) (path z : Str) : OneFS :=
  match s.exportAt path z with
  | none => s
  | some e => s.dropExport e.id z

end Controller

/-- Every quota made since number `n` satisfies `P`. -/
def OneFS.NewQuotas (n : Nat) (P : Nat → Str → Prop) (t : OneFS) : Prop :=
  n ≤ t.quotas.next ∧ ∀ q ∈ t.quotas, n ≤ q.num → P q.num q.path

def Call.QuotaAt (P : Str → Prop) : Call → Prop
  | createQuota path .. => P path
  | createWritableSnapshot dstPath _ => P dstPath
  | _ => True

namespace OneFS.NewQuotas

variable {n : Nat} {P : Nat → Str → Prop} {s t : OneFS}

theorem start (s : OneFS) : NewQuotas s.quotas.next P s :=
  ⟨Nat.le_refl _, fun _ hq hn => absurd (Catalog.lt_next hq) (Nat.not_lt.2 hn)⟩

variable (h : NewQuotas n P s)
include h

theorem mono (hP : ∀ i p, P i p → P' i p) :
    NewQuotas n P' s := ⟨h.1, fun q hq hn => hP _ _ (h.2 q hq hn)⟩

theorem update {f : Quota → Quota} {hn : ∀ q, (f q).num = q.num}
    {hp : ∀ q, (f q).path = q.path} : NewQuotas n P { s with quotas := s.quotas.update f hn hp } := by
  refine ⟨h.1, fun q hq hle => ?_⟩
  rw [Catalog.mem_update] at hq
  obtain ⟨r, hr, rfl⟩ := hq
  rw [hn] at hle ⊢
  rw [hp]
  exact h.2 r hr hle

theorem newQuota {path : Str} {hard : Int} (hP : P s.quotas.next path) :
    NewQuotas n P (s.newQuota path hard soft advisory softGrace).2 := by
  unfold OneFS.newQuota
  split
  · refine ⟨?_, fun q hq hle => ?_⟩
    · simp only [addQuota]
      exact Nat.le_succ_of_le h.1
    · rcases mem_addQuota.1 hq with hq | rfl
      · exact h.2 q hq hle
      · exact hP
  · exact h

theorem dropQuota (i : Str) : NewQuotas n P (s.dropQuota i) :=
  ⟨h.1, fun q hq hle => h.2 q (mem_dropQuota.1 hq).1 hle⟩

theorem graft (dst : Str) (tree : List Dir) :
    NewQuotas n P (s.graft dst tree) := by
  rw [graft_eq]
  exact h

theorem serve {c : Call} (hc : c.QuotaAt (P s.quotas.next)) :
    NewQuotas n P (array.act c s).2 := by
  have heff := c.effect s
  generalize (array.act c s).2 = t at heff ⊢
  cases heff with
  | copySnapshot tree | copyVolume tree => exact h.graft _ _
  | @addWritable dst source tree k =>
    apply newQuota (s := (s.graft dst tree).addWritable dst k) (h.graft dst tree)
    rw [OneFS.addWritable, s.graft_quotas]
    exact hc
  | newQuota => exact h.newQuota hc
  | setQuota | modifyQuota => exact h.update
  | dropQuota => exact h.dropQuota _
  | _ => exact h

end OneFS.NewQuotas

theorem read_quotaAt (c : Call) (h : c.IsRead) : c.QuotaAt P := by
  cases c <;> trivial

theorem quotaAt_wp (h : uses (Call.QuotaAt P) q) (hs : s.NewQuotas n fun _ => P) :
    wp array F q (fun _ t => t.NewQuotas n fun _ => P) s :=
  wp_of_uses h (fun _ _ hc ht => ht.serve hc) hs

namespace Controller

variable {svc : Service} {p : Plan} {F : Faults Call Err OneFS} {s : OneFS} {t : Target} {n : Nat}

abbrev NoQuota (n : Nat) (s : OneFS) : Prop := s.NewQuotas n fun _ _ => False

abbrev MadeQuota (n : Nat) (i : Str) (s : OneFS) : Prop := s.NewQuotas n fun k _ => natToStr k = i

theorem createQuota_made (hs : NoQuota n s) :
    wp array F (IsiService.createQuota path soft advisory grace size enabled)
      (fun r u => (∀ i, r = .ok i → MadeQuota n i u) ∧ ∀ e, r = .error e → NoQuota n u) s := by
  unfold IsiService.createQuota
  split
  · dsimp only
    unfold IsiService.rename
    rw [wp_bind, wp_ask]
    refine ⟨?_, fun e _ => ⟨by rintro i ⟨⟩, fun _ _ => hs⟩⟩
    simp only [array_act, OneFS.serve, OneFS.newQuota]
    split
    · refine ⟨?_, by rintro e ⟨⟩⟩
      rintro i ⟨⟩
      refine ⟨Nat.le_succ_of_le hs.1, fun q hq hle => ?_⟩
      rcases OneFS.mem_addQuota.1 hq with hq | rfl
      · exact (hs.2 q hq hle).elim
      · rfl
    · exact ⟨by rintro i ⟨⟩, fun _ _ => hs⟩
  · refine ⟨?_, by rintro e ⟨⟩⟩
    rintro i ⟨⟩
    exact hs.mono fun _ _ => False.elim

theorem createQuotaWithRetry_made (hs : NoQuota n s) : gives array F
    (createQuotaWithRetry svc p path k) (fun r u => ∀ i, r = .ok i → MadeQuota n i u) s := by
  induction k generalizing s with
  | zero => exact gives_attempt (wp_mono (createQuota_made hs) fun _ _ hu => hu.1)
  | succ k ih =>
    unfold createQuotaWithRetry
    refine gives_attempt_bind (createQuota_made hs) fun r u hu => ?_
    cases r with
    | ok i =>
      rintro j ⟨⟩
      exact hu.1 i rfl
    | error e => exact gives_ask_bind (ih (hu.2 e rfl)) fun _ _ => trivial

theorem adoptQuota_made {path : Str} (hs : s.NewQuotas n fun _ x => x = path) :
    gives array F (adoptQuota p path) (fun i u => MadeQuota n i u) s := by
  unfold adoptQuota
  refine gives_ask_bind ?_ fun _ _ => gives_bind_any fun _ _ => gives_bind_any fun _ _ => trivial
  simp only [array_act, OneFS.serve]
  cases hq : s.quotaAt path with
  | none => exact gives_bind_any fun _ _ => gives_bind_any fun _ _ => trivial
  | some q =>
    have hadopted : MadeQuota n q.id s := by
      refine ⟨hs.1, fun r hr hle => ?_⟩
      have hkey : r.path = q.path := (hs.2 r hr hle).trans (Catalog.at?_key hq).symm
      exact congrArg Quota.id (Catalog.eq_of_key hr (Catalog.at?_mem hq) hkey)
    refine gives_settle (Q := fun _ u => MadeQuota n q.id u) ?_ (fun _ _ hu => hu) fun _ _ => trivial
    exact gives_op fun _ _ => hadopted.serve trivial

theorem provisionQuota_made (hfound : t.foundVol = false)
    (hs : s.NewQuotas n fun _ x => x = t.path ∧ p.writableFromSnapshot = true ∧
      p.isROVolumeFromSnapshot = false) :
    gives array F (provisionQuota svc p t false) (fun i u => MadeQuota n i u) s := by
  unfold provisionQuota
  split
  · rename_i hcond
    have hwritable : ¬ p.writableFromSnapshot = true := by
      intro hw
      simp [hw] at hcond
    refine gives_bind (createQuotaWithRetry_made (hs.mono fun _ _ h => hwritable h.2.1))
      fun r u hu => ?_
    cases r with
    | ok i => exact hu i rfl
    | error e =>
      refine gives_bind_any fun r _ => ?_
      split <;> split <;> trivial
  split
  · exact adoptQuota_made (hs.mono fun _ _ h => h.1)
  · rename_i hcond
    have hmade : MadeQuota n [] s := hs.mono fun k x hx => by simp [hfound, hx.2] at hcond
    exact hmade

theorem populate_quotas (hpath : p.isROVolumeFromSnapshot = false →
      t.path = getPathForVolume p.basePath p.name) (hs : NoQuota n s) :
    wp array F (populate p) (fun _ u => u.NewQuotas n fun _ x => x = t.path ∧
      p.writableFromSnapshot = true ∧ p.isROVolumeFromSnapshot = false) s := by
  have hs' : s.NewQuotas n fun _ x => x = t.path ∧ p.writableFromSnapshot = true ∧
      p.isROVolumeFromSnapshot = false := hs.mono fun _ _ => False.elim
  by_cases hro : p.isROVolumeFromSnapshot = true
  · unfold populate
    rw [if_neg (by simp [hro])]
    exact hs'
  rw [Bool.not_eq_true] at hro
  refine quotaAt_wp (populate_uses read_quotaAt (fun _ _ _ _ _ => trivial)
    (fun _ _ _ => trivial) (fun hw _ => ?_) (fun _ => trivial) fun _ _ => trivial) hs'
  exact ⟨(hpath hro).symm, hw, hro⟩

theorem provision_quotaAt (hshared : p.shared = some shared) (hro : p.isROVolumeFromSnapshot = false)
    (hroot : Rooted shared.path) :
    uses (Call.QuotaAt fun x => x = getPathForVolume shared.path p.name) (provision svc p) := by
  have hbase : p.basePath = shared.path := by simp [Plan.basePath, hshared]
  have hnone := Plan.readOnlySource_none hro
  have hjoin : join [shared.path, p.name] = getPathForVolume shared.path p.name := by
    rw [getPathForVolume_rooted hroot, join_rooted hroot]
    simp
  have hpath : yields (fun t => t.path = getPathForVolume shared.path p.name) (findVolume p) := by
    unfold findVolume
    rw [hnone, hshared]
    exact yields_bind_any fun found => hjoin
  unfold provision
  refine uses_bind_of (findVolume_uses read_quotaAt) hpath fun t ht => ?_
  refine uses_bind (createTrackingEntry_uses fun _ _ => ⟨trivial, trivial⟩) fun _ => ?_
  refine uses_bind (resolveExport_uses read_quotaAt fun _ _ => trivial) fun r => ?_
  cases r with
  | respond v => trivial
  | proceed i needsQuota =>
    refine uses_bind (createDirectory_uses fun _ _ => trivial) fun _ => ?_
    refine uses_bind (populate_uses read_quotaAt (fun _ _ _ _ _ => trivial)
      (fun _ _ _ => trivial) (fun _ _ => ?_) (fun _ => trivial) fun _ _ => trivial) fun _ => ?_
    · rw [hbase]
      exact rfl
    refine uses_bind ?_ fun quotaID => ?_
    · apply provisionQuota_uses read_quotaAt
      · exact ht
      · exact fun _ _ => trivial
      · exact fun _ => trivial
      · exact fun _ _ => trivial
    rw [exportAndRespond, if_pos (by simp [Plan.directoryBacked, hshared])]
    trivial

end Controller

def Call.Planned : Call → Prop
  | addExportClients .. | createQuota .. | createWritableSnapshot .. | updateQuotaSize ..
  | modifyQuota .. => True
  | _ => False

def Call.TakesSnapshot : Call → Prop
  | createSnapshot .. => True
  | _ => False

namespace Controller

variable {svc : Service} {req : CreateVolumeRequest} {U : Call → Prop} {p : Plan}
  (hU : ∀ c : Call, ¬c.Planned → ¬c.TakesSnapshot → U c)
include hU

theorem read_planned (c : Call)
    (h : c.IsRead) : U c := by
  apply hU
  · cases c <;> first | exact id | exact h.elim
  · cases c <;> first | exact id | exact h.elim

theorem build_uses
    (ha : ∀ i client b, DummyClient p client → U (.addExportClients .clients i p.accessZone
      [client] b))
    (hq : ∀ path, U (.createQuota path p.sizeInBytes p.thresholds.1 p.thresholds.2.1
      p.thresholds.2.2))
    (hw : p.writableFromSnapshot = true → (∀ path source, U (.createWritableSnapshot path
      source)) ∧ ∀ i, U (.updateQuotaSize i p.sizeInBytes 0 0 0)) (exportID : Int)
    (needsQuota : Bool) : uses U (build svc p t exportID needsQuota) := by
  have hr := read_planned hU
  have hdir : ∀ isiPath name permissions metadata,
      U (.createVolume isiPath name permissions metadata) :=
    fun _ _ _ _ => hU _ id id
  refine uses_bind (createDirectory_uses fun _ _ => hdir _ _ _ _) fun _ => ?_
  refine uses_bind (populate_uses hr (fun _ _ _ _ _ => hU _ id id) (fun _ _ _ => hU _ id id)
    (fun h => (hw h).1 _) (fun _ => hU _ id id) fun _ _ => hU _ id id) fun _ => ?_
  refine uses_bind (provisionQuota_uses hr (hq _) (fun _ _ => hU _ id id) (fun _ => hU _ id id)
    fun h => (hw h).2) fun quotaID => ?_
  unfold exportAndRespond
  split
  · trivial
  split
  · exact exportReadOnly_uses hr (fun _ _ _ _ => hU _ id id) ha
  have hundo : uses U (rollbackExport p quotaID) :=
    uses_attempt_bind (IsiService.clearQuotaByID_uses (hU _ id id)) fun _ =>
      uses_bind (cleanUpWritableSnapshot_uses fun _ => hU _ id id) fun _ =>
        uses_attempt_bind (IsiService.deleteVolume_uses (hU _ id id)) fun _ =>
          uses_ret _
  refine uses_attempt_bind
    (exportVolumeWithZoneAndXprtsec_uses hr (hU _ id id)) fun r => ?_
  cases r with
  | error e => exact uses_bind hundo fun _ => trivial
  | ok i =>
    dsimp only
    split
    · exact uses_bind hundo fun _ => trivial
    · exact awaitExport_uses hr (ha i) _

theorem createVolume_uses
    (ha : ∀ p, Resolves svc req p ∧ Reads req p → ∀ i client b, DummyClient p client →
      U (.addExportClients .clients i p.accessZone [client] b))
    (hq : ∀ p, Resolves svc req p ∧ Reads req p → ∀ path,
      U (.createQuota path p.sizeInBytes p.thresholds.1 p.thresholds.2.1 p.thresholds.2.2))
    (hw : ∀ p, Resolves svc req p ∧ Reads req p → p.writableFromSnapshot = true →
      (∀ path source, U (.createWritableSnapshot path source)) ∧
        ∀ i, U (.updateQuotaSize i p.sizeInBytes 0 0 0)) :
    uses U (createVolume svc req) := by
  have hr := read_planned hU
  refine uses_bind_of (preparePlan_uses hr (fun _ _ => hU _ id id)
      (fun _ _ _ _ _ _ => hU _ id id) req)
    (yields_and preparePlan_yields preparePlan_reads) fun p hp => ?_
  refine uses_bind (findVolume_uses hr) fun t => ?_
  refine uses_bind (createTrackingEntry_uses fun _ _ => ⟨hU _ id id, hU _ id id⟩) fun _ => ?_
  refine uses_bind (resolveExport_uses hr fun _ _ => hU _ id id) fun r => ?_
  cases r with
  | respond v => trivial
  | proceed i needsQuota => exact build_uses hU (ha p hp) (hq p hp) (hw p hp) i needsQuota

end Controller

end CsiPowerscale
