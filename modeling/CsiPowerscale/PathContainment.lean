import CsiPowerscale.DeleteVolumeFrame
import CsiPowerscale.Effects.Replies

namespace CsiPowerscale
open GoLib Effects Effects.Prog

def ChildOf (b d : Str) : Prop := ∃ c, Plain c ∧ d = below b c

/-- A name that may climb out of `b` but then comes back down through the same directories, and
goes one element further. -/
def LeadsToChild (b name : Str) : Prop :=
  descent name ≠ [] ∧ (descent name).dropLast = (segments b).drop ((segments b).length - climb name)

instance (b name : Str) : Decidable (LeadsToChild b name) := inferInstanceAs (Decidable (_ ∧ _))

theorem below_absPath (hc : c ≠ []) (bs : List Str) (hbs : ∀ b ∈ bs, Plain b) :
    below (absPath bs) c = absPath (bs ++ [c]) := by
  rw [absPath_concat, below, if_neg hc]
  cases bs with
  | nil => rfl
  | cons b bs =>
    have hne : absPath (b :: bs) ≠ [slash] := by
      intro h
      have hs := congrArg segments h
      rw [segments_absPath _ hbs] at hs
      cases hs
    rw [if_neg hne, absBase, if_neg (by simp), List.append_assoc, List.singleton_append]

theorem namespacePath_climb (hbs : ∀ b ∈ bs, Plain b) (name : Str) :
    namespacePath (absPath bs) name = absPath (bs.take (bs.length - climb name) ++ descent name) ∧
      ∀ x ∈ bs.take (bs.length - climb name) ++ descent name, Plain x := by
  have hdots : ∀ b ∈ bs, b ≠ dotDot := fun b hb => (hbs b hb).not_dotDot
  rw [← resolve_climb hdots]
  constructor
  · rw [namespacePath, join_rooted (by decide)]
    simp [show segments ("/" : Str) = [] by decide, segments_absPath bs hbs]
  · have hplain := resolve_segments_plain (absPath bs ++ slash :: name)
    rwa [segments_append, segments_absPath bs hbs] at hplain

theorem namespacePath_clean (h : Rooted b) (name : Str) :
    namespacePath (clean b) name = namespacePath b name := by
  have hplain := resolve_segments_plain b
  rw [namespacePath, namespacePath, join_rooted (by decide), join_rooted (by decide), clean_rooted h]
  simp only [show segments ("/" : Str) = [] by decide, List.flatMap_cons, List.flatMap_nil,
    List.append_nil, List.nil_append, segments_absPath _ hplain]
  rw [resolve_append true [] (segments b),
    resolve_append_plain fun x hx => (hplain x hx).not_dotDot, List.append_nil]

theorem childOf_namespacePath_iff (hb : CleanAbs b) (name : Str) :
    ChildOf b (namespacePath b name) ↔ LeadsToChild b name := by
  obtain ⟨bs, hbs, rfl⟩ := hb
  obtain ⟨hpath, hplain⟩ := namespacePath_climb hbs name
  rw [LeadsToChild, segments_absPath bs hbs, hpath]
  constructor
  · rintro ⟨c, hc, hd⟩
    rw [below_absPath hc.nonempty bs hbs] at hd
    have hall : ∀ x ∈ bs ++ [c], Plain x := by
      intro x hx
      rcases List.mem_append.1 hx with hx | hx
      · exact hbs x hx
      · rwa [List.mem_singleton.1 hx]
    have heq := absPath_injective hplain hall hd
    have hdrop : descent name = bs.drop (bs.length - climb name) ++ [c] := by
      have hsplit := List.take_append_drop (bs.length - climb name) bs
      rw [← hsplit, List.append_assoc] at heq
      simpa using heq
    rw [hdrop]
    simp
  · rintro ⟨hne, hdrop⟩
    obtain ⟨c, hc, hlast⟩ : ∃ c, Plain c ∧
        descent name = bs.drop (bs.length - climb name) ++ [c] := by
      refine ⟨(descent name).getLast hne, ?_, ?_⟩
      · exact hplain _ (List.mem_append_right _ (List.getLast_mem hne))
      · rw [← hdrop, List.dropLast_append_getLast]
    refine ⟨c, hc, ?_⟩
    rw [hlast, ← List.append_assoc, List.take_append_drop, below_absPath hc.nonempty bs hbs]

/-- The directory that a request makes. A copy makes its target where there is none. -/
def Call.creates : Call → Option Str
  | createVolume isiPath name _ _ => some (namespacePath isiPath name)
  | copySnapshot isiPath _ _ dstName _ => some (namespacePath isiPath dstName)
  | copyVolume isiPath _ dstName => some (namespacePath isiPath dstName)
  | createWritableSnapshot dstPath _ => some dstPath
  | _ => none

def Call.removes : Call → Option Str
  | deleteVolume isiPath name => some (namespacePath isiPath name)
  | _ => none

/-- What the call creates is a child of `b`. -/
def Call.CreatesBelow (b : Str) (c : Call) : Prop := ∀ d, c.creates = some d → ChildOf b d

def Call.RemovesBelow (b : Str) (c : Call) : Prop := ∀ d, c.removes = some d → ChildOf b d

theorem Call.createsBelow_of_none {c : Call} (h : c.creates = none) (b : Str) : c.CreatesBelow b := by
  intro d hd
  rw [h] at hd
  cases hd

theorem Call.removesBelow_of_none {c : Call} (h : c.removes = none) (b : Str) : c.RemovesBelow b := by
  intro d hd
  rw [h] at hd
  cases hd

theorem read_createsBelow (b : Str) (c : Call) (h : c.IsRead) : c.CreatesBelow b := by
  apply Call.createsBelow_of_none
  cases c <;> first | rfl | exact h.elim

theorem read_removesBelow (b : Str) (c : Call) (h : c.IsRead) : c.RemovesBelow b := by
  apply Call.removesBelow_of_none
  cases c <;> first | rfl | exact h.elim

/-- The directory-backed volume that a request clones. -/
def CreateVolumeRequest.clonedShare (req : CreateVolumeRequest) : Option VolumeID :=
  match req.volumeContentSource with
  | some (.volume i) =>
    match parseVolumeIDWithMode i with
    | .ok (v, mode) => if mode = provisioningModeDirectory then some v else none
    | .error _ => none
  | _ => none

/-- If the array has the export of that volume, it is on `path`. -/
def CreateVolumeRequest.SharedOn (req : CreateVolumeRequest) (path : Str) : (c : Call) → c.Reply → Prop
  | .getExportByID i z, r => ∀ v e, req.clonedShare = some v → i = v.exportID → z = v.accessZone →
    r = some e → e.paths.head? = some path
  | _, _ => True

def CreateVolumeRequest.MakesNoDirectory (req : CreateVolumeRequest) : Prop :=
  wantsWritableSnapshot req.parameters = true ∧ req.volumeContentSource = some .unset

namespace Controller

section Creation

variable {svc : Service} {req : CreateVolumeRequest} {p : Plan} {t : Target} {B share : Str}
  {V : (c : Call) → c.Reply → Prop}

theorem findVolume_tracks_nothing (hro : p.isROVolumeFromSnapshot = false) :
    yields (fun t => t.tracking = none) (findVolume p) := by
  have hnone := Plan.readOnlySource_none hro
  unfold findVolume
  rw [hnone]
  dsimp only
  split
  · exact yields_bind_any fun found => rfl
  · exact yields_bind_any fun found => rfl

theorem clonedShare_eq (hsrc : req.volumeContentSource = some (.volume i))
    (hv : parseVolumeIDWithMode i = .ok (v, mode)) :
    req.clonedShare = if mode = provisioningModeDirectory then some v else none := by
  simp only [CreateVolumeRequest.clonedShare, hsrc, hv]

theorem sourceBasePath_reaches (hsrc : req.volumeContentSource = some (.volume i))
    (hv : parseVolumeIDWithMode i = .ok (v, mode))
    (h : reaches (req.SharedOn share) b (sourceBasePath isiPath v mode)) :
    b = isiPath ∨ req.clonedShare = some v ∧ b = clean share := by
  have hcloned := clonedShare_eq hsrc hv
  unfold sourceBasePath at h
  split at h
  · next hmode =>
    rw [if_pos hmode] at hcloned
    obtain ⟨r, hr, h⟩ := h
    cases r with
    | error e => exact .inl (Eq.symm h)
    | ok found =>
      cases found with
      | none => exact .inl (Eq.symm h)
      | some e =>
        have hhead := hr _ rfl v e hcloned rfl rfl rfl
        obtain ⟨rest, hrest⟩ := List.head?_eq_some_iff.1 hhead
        simp only [Prog.bind, hrest] at h
        exact .inr ⟨hcloned, Eq.symm h⟩
  · exact .inl (Eq.symm h)

theorem populate_createsBelow (hp : Resolves svc req p)
    (hdir : p.source ≠ .unset → ChildOf B (namespacePath p.basePath p.name))
    (hpath : p.source ≠ .unset → ChildOf B (getPathForVolume p.basePath p.name))
    (hshare : req.clonedShare ≠ none → ChildOf B (namespacePath (clean share) p.name)) :
    asks (req.SharedOn share) (Call.CreatesBelow B) (populate p) := by
  have hread := read_createsBelow B
  have hfill : asks (req.SharedOn share) (Call.CreatesBelow B) (createVolumeFromSource p p.basePath) := by
    unfold createVolumeFromSource
    split
    · next src hsrc =>
      have hne : p.source ≠ .unset := by simp [hsrc]
      refine asks_of_uses (uses_attempt_bind ?_ fun r => by cases r <;> trivial)
      split
      · apply createVolumeFromWritableSnapshot_uses hread
        intro source d hd
        cases hd
        exact hpath hne
      · apply createVolumeFromSnapshot_uses hread
        intro src i d hd
        cases hd
        exact hdir hne
    · next i hsrc =>
      have hreq : req.volumeContentSource = some (.volume i) := by rw [← hp.source, hsrc]; rfl
      split
      · split <;> trivial
      next v mode hv =>
      refine asks_bind (asks_of_uses ?_) fun base hbase => asks_of_uses (uses_attempt_bind
        (createVolumeFromVolume_uses hread ?_) fun r => by cases r <;> trivial)
      · unfold sourceBasePath
        split
        · refine uses_ask_bind (hread _ trivial) fun r => ?_
          split
          · split <;> trivial
          · trivial
        · trivial
      · intro d hd
        cases hd
        rcases sourceBasePath_reaches hreq hv hbase with rfl | ⟨hcloned, rfl⟩
        · exact hdir (by simp [hsrc])
        · exact hshare (by simp [hcloned])
    · trivial
  unfold populate
  split
  · refine asks_bind (asks_attempt.2 hfill) fun r _ => asks_of_uses ?_
    cases r with
    | ok _ => trivial
    | error e =>
      exact uses_bind (cleanUpWritableSnapshot_uses fun _ => Call.createsBelow_of_none rfl B)
        fun _ => uses_attempt_bind (IsiService.deleteVolume_uses
          (Call.createsBelow_of_none rfl B)) fun _ => trivial
  · trivial

theorem exportAndRespond_createsBelow :
    uses (Call.CreatesBelow B) (exportAndRespond svc p t exportID quotaID) := by
  have hawait : ∀ i f, uses (Call.CreatesBelow B) (awaitExport svc p i t.path f maxRetries) :=
    fun i f => awaitExport_uses (read_createsBelow B) (fun _ _ _ => Call.createsBelow_of_none rfl B) _
  have hundo : uses (Call.CreatesBelow B) (rollbackExport p quotaID) := by
    refine uses_attempt_bind (IsiService.clearQuotaByID_uses
      (Call.createsBelow_of_none rfl B)) fun _ => ?_
    refine uses_bind (cleanUpWritableSnapshot_uses fun _ => Call.createsBelow_of_none rfl B)
      fun _ => ?_
    exact uses_attempt_bind (IsiService.deleteVolume_uses
      (Call.createsBelow_of_none rfl B)) fun _ => trivial
  unfold exportAndRespond
  split
  · trivial
  split
  · exact exportReadOnly_uses (read_createsBelow B)
      (fun _ _ _ _ => Call.createsBelow_of_none rfl B) fun _ _ _ _ => Call.createsBelow_of_none rfl B
  refine uses_attempt_bind (exportVolumeWithZoneAndXprtsec_uses (read_createsBelow B)
    (Call.createsBelow_of_none rfl B)) fun r => ?_
  cases r with
  | error e => exact uses_bind hundo fun _ => trivial
  | ok i =>
    dsimp only
    split
    · exact uses_bind hundo fun _ => trivial
    · exact hawait _ _

theorem provision_createsBelow (hp : Resolves svc req p) (hro : p.isROVolumeFromSnapshot = false)
    (hdir : p.writableFromSnapshot = false ∨ p.source ≠ .unset →
      ChildOf B (namespacePath p.basePath p.name))
    (hpath : p.source ≠ .unset → ChildOf B (getPathForVolume p.basePath p.name))
    (hshare : req.clonedShare ≠ none → ChildOf B (namespacePath (clean share) p.name)) :
    asks (req.SharedOn share) (Call.CreatesBelow B) (provision svc p) := by
  have hread := read_createsBelow B
  refine asks_bind (asks_of_uses (findVolume_uses hread)) fun t ht => ?_
  have htrack : createTrackingEntry p t = ret () := by
    rw [createTrackingEntry, reaches_sat (findVolume_tracks_nothing hro) ht]
  rw [htrack, ret_bind]
  refine asks_of_uses_bind (resolveExport_uses hread fun _ _ => Call.createsBelow_of_none rfl B)
    fun r => ?_
  cases r with
  | respond v => trivial
  | proceed i needsQuota =>
    refine asks_of_uses_bind ?_ fun _ => ?_
    · cases hw : p.writableFromSnapshot with
      | true =>
        unfold createDirectory
        rw [hw, if_neg (by simp)]
        trivial
      | false =>
        apply createDirectory_uses
        intro permissions metadata d hd
        cases hd
        exact hdir (.inl hw)
    · refine asks_bind (populate_createsBelow hp (fun h => hdir (.inr h)) hpath hshare) fun _ _ => ?_
      refine asks_of_uses (uses_bind ?_ fun quotaID => exportAndRespond_createsBelow)
      exact provisionQuota_uses hread (Call.createsBelow_of_none rfl B)
        (fun _ _ => Call.createsBelow_of_none rfl B) (fun _ => Call.createsBelow_of_none rfl B)
        fun _ _ => Call.createsBelow_of_none rfl B

theorem asks_build (hro : p.isROVolumeFromSnapshot = false)
    (h : asks (req.SharedOn share) U (provision svc p)) :
    ∃ path i, asks (req.SharedOn share) U (build svc p ⟨path, false, none⟩ i false) := by
  have hnone := Plan.readOnlySource_none hro
  obtain ⟨path, hfind⟩ : ∃ path, reaches (req.SharedOn share) (⟨path, false, none⟩ : Target)
      (findVolume p) := by
    unfold findVolume
    rw [hnone]
    cases p.shared with
    | none => exact ⟨_, .error .panic, (fun v hv => by cases hv), rfl⟩
    | some shared => exact ⟨_, .error .panic, (fun v hv => by cases hv), rfl⟩
  unfold provision at h
  have hfound := asks_after h hfind
  have hafter := asks_after (a := ()) hfound rfl
  cases hshared : p.shared with
  | none =>
    have hret : reaches (req.SharedOn share) (.proceed 0 false)
        (resolveExport svc p ⟨path, false, none⟩) := by
      unfold resolveExport
      rw [hshared]
      exact ⟨.ok none, (fun v _ => trivial), rfl⟩
    have hbuild := asks_after hafter hret
    exact ⟨path, 0, hbuild⟩
  | some shared =>
    have hret : reaches (req.SharedOn share) (.proceed shared.nfs.id false)
        (resolveExport svc p ⟨path, false, none⟩) := by
      unfold resolveExport
      rw [hshared, hro]
      rfl
    have hbuild := asks_after hafter hret
    exact ⟨path, _, hbuild⟩

theorem asks_createDirectory (hro : p.isROVolumeFromSnapshot = false)
    (hw : p.writableFromSnapshot = false)
    (h : asks V (Call.CreatesBelow B) (createDirectory p ⟨path, false, none⟩)) :
    ChildOf B (namespacePath p.basePath p.name) := by
  unfold createDirectory at h
  rw [hro, hw, if_pos (by simp)] at h
  dsimp only at h
  split at h
  · exact (asks_first (asks_attempt.1 (asks_first h))).1 _ rfl
  · exact (asks_first (asks_attempt.1 (asks_first h))).1 _ rfl

theorem createDirectory_reaches :
    reaches (req.SharedOn share) () (createDirectory p ⟨path, false, none⟩) := by
  unfold createDirectory
  split
  · dsimp only
    split
    · exact ⟨.ok ⟨[], 0⟩, (fun v _ => trivial), rfl⟩
    · exact ⟨.ok ⟨[], 0⟩, (fun v _ => trivial), rfl⟩
  · rfl

theorem asks_createVolumeFromSource (hro : p.isROVolumeFromSnapshot = false)
    (hsrc : p.hasContentSource = true) (h : asks V U (populate p)) :
    asks V U (createVolumeFromSource p p.basePath) := by
  unfold populate at h
  rw [if_pos (by simp [hsrc, hro])] at h
  exact asks_attempt.1 (asks_first h)

theorem asks_createWritable (hw : p.writableFromSnapshot = true) (hsrc : p.source = .snapshot src)
    (hid : parseNormalizedSnapshotID src.normalizedID = .ok i) (hsize : 0 < p.sizeInBytes)
    (h : asks (req.SharedOn share) (Call.CreatesBelow B) (createVolumeFromSource p p.basePath)) :
    ChildOf B (getPathForVolume p.basePath p.name) := by
  unfold createVolumeFromSource at h
  rw [hsrc, hw] at h
  have hclone := asks_attempt.1 (asks_first h)
  rw [if_pos rfl] at hclone
  unfold createVolumeFromWritableSnapshot at hclone
  rw [hid, ofExcept_ok, ret_bind] at hclone
  have hsnap := asks_after (a := .ok ⟨0, [], [], []⟩) hclone ⟨_, (fun v _ => trivial), rfl⟩
  have hfits := asks_after (a := (0 : Int)) hsnap ⟨.ok (0 : Int), (fun v _ => trivial), rfl⟩
  rw [if_neg (by omega)] at hfits
  have hmake := asks_after hfits (reaches_error _ .panic)
  exact (asks_first (asks_attempt.1 (asks_first hmake))).1 _ rfl

theorem clonedShare_source (hp : Resolves svc req p) (hcloned : req.clonedShare = some v) :
    ∃ i, p.source = .volume i ∧ parseVolumeIDWithMode i = .ok (v, provisioningModeDirectory) := by
  obtain ⟨i, hreq, hv⟩ : ∃ i, req.volumeContentSource = some (.volume i) ∧
      parseVolumeIDWithMode i = .ok (v, provisioningModeDirectory) := by
    unfold CreateVolumeRequest.clonedShare at hcloned
    split at hcloned
    · next i hi =>
      split at hcloned
      · next w mode hw =>
        split at hcloned
        · next hmode =>
          cases hcloned
          exact ⟨i, hi, hmode ▸ hw⟩
        · cases hcloned
      · cases hcloned
    · cases hcloned
  refine ⟨i, ?_, hv⟩
  have hsource := hp.source
  rw [hreq] at hsource
  cases hs : p.source <;> simp_all [Source.request]

theorem asks_copyVolume (hsize : 0 < p.sizeInBytes) (hsrc : p.source = .volume i)
    (hv : parseVolumeIDWithMode i = .ok (v, provisioningModeDirectory))
    (h : asks (req.SharedOn share) (Call.CreatesBelow B) (createVolumeFromSource p p.basePath)) :
    ChildOf B (namespacePath (clean share) p.name) := by
  unfold createVolumeFromSource at h
  rw [hsrc] at h
  dsimp only at h
  rw [hv] at h
  have hbase : reaches (req.SharedOn share) (clean share)
      (sourceBasePath p.basePath v provisioningModeDirectory) := by
    unfold sourceBasePath
    rw [if_pos rfl]
    refine ⟨.ok (some ⟨0, [share], [], [], [], [], [], [], []⟩), ?_, rfl⟩
    rintro _ ⟨⟩ w e - - - ⟨⟩
    rfl
  have hafter := asks_after (p := sourceBasePath p.basePath v provisioningModeDirectory) h hbase
  have hcopy := asks_attempt.1 (asks_first hafter)
  unfold createVolumeFromVolume at hcopy
  have hfound := asks_after (a := true) hcopy ⟨.ok ⟨[], 0⟩, (fun v _ => trivial), rfl⟩
  rw [if_pos rfl] at hfound
  have hfits := asks_after (a := (0 : Int)) hfound ⟨.ok (0 : Int), (fun v _ => trivial), rfl⟩
  rw [if_neg (by omega)] at hfits
  exact (asks_first hfits).1 _ rfl

end Creation

variable {svc : Service} {req : CreateVolumeRequest} {p : Plan} {B : Str}

theorem provision_createsBelow_iff (hB : CleanAbs B) (hp : Resolves svc req p)
    (hro : req.readOnly svc = false) (hbase : req.base svc = B) (share : Str) :
    asks (req.SharedOn share) (Call.CreatesBelow B) (provision svc p) ↔
      LeadsToChild B req.name ∧
        (req.clonedShare ≠ none → ChildOf B (namespacePath (clean share) req.name)) ∨
      req.MakesNoDirectory := by
  have hpro : p.isROVolumeFromSnapshot = false := hp.readOnly.trans hro
  have hpath : p.basePath = B := hp.basePath_eq.trans hbase
  have hroot : Rooted B := by
    obtain ⟨bs, _, rfl⟩ := hB
    rfl
  have hchild : ChildOf B (namespacePath p.basePath p.name) ↔ LeadsToChild B req.name := by
    rw [hpath, hp.name, childOf_namespacePath_iff hB]
  have hclone : ChildOf B (getPathForVolume p.basePath p.name) ↔ LeadsToChild B req.name := by
    rw [← hchild, hpath, namespacePath_eq_getPathForVolume hroot]
  constructor
  · intro h
    obtain ⟨path, i, hbuild⟩ := asks_build hpro h
    unfold build at hbuild
    have hfill : p.hasContentSource = true → asks (req.SharedOn share) (Call.CreatesBelow B)
        (createVolumeFromSource p p.basePath) := by
      intro hsrc
      have hafter := asks_after (p := createDirectory p ⟨path, false, none⟩) hbuild
        createDirectory_reaches
      exact asks_createVolumeFromSource hpro hsrc (asks_first hafter)
    cases hw : p.writableFromSnapshot with
    | false =>
      refine .inl ⟨hchild.1 (asks_createDirectory hpro hw (asks_first hbuild)), fun hcloned => ?_⟩
      obtain ⟨v, hcloned⟩ := Option.ne_none_iff_exists'.1 hcloned
      obtain ⟨i, hsrc, hv⟩ := clonedShare_source hp hcloned
      rw [← hp.name]
      exact asks_copyVolume hp.size hsrc hv (hfill (by simp [Plan.hasContentSource, hsrc]))
    | true =>
      have hsome := hp.writableSource hw
      cases hsrc : p.source with
      | none => simp [Plan.hasContentSource, hsrc] at hsome
      | volume i => exact absurd hsrc (hp.writableClone hw i)
      | unset => exact .inr ⟨hp.writable ▸ hw, by rw [← hp.source, hsrc]; rfl⟩
      | snapshot src =>
        obtain ⟨i, hi⟩ := hp.snapshotID src hsrc
        have hreq : req.volumeContentSource = some (.snapshot src.normalizedID) := by
          rw [← hp.source, hsrc]
          rfl
        refine .inl ⟨hclone.1 (asks_createWritable hw hsrc hi hp.size (hfill hsome)), ?_⟩
        simp [CreateVolumeRequest.clonedShare, hreq]
  · rintro (⟨h, hshare⟩ | ⟨hw, hunset⟩)
    · exact provision_createsBelow hp hpro (fun _ => hchild.2 h) (fun _ => hclone.2 h)
        (hp.name ▸ hshare)
    have hsrc : p.source = .unset := by
      have hreq := hp.source
      rw [hunset] at hreq
      cases hs : p.source <;> simp_all [Source.request]
    apply provision_createsBelow hp hpro
    · rintro (hno | hne)
      · rw [hp.writable, hw] at hno
        cases hno
      · exact absurd hsrc hne
    · exact fun hne => absurd hsrc hne
    · simp [CreateVolumeRequest.clonedShare, hunset]

section Deletion

variable {volumeID path isiPath : Str} {v : VolumeID} {e : Export}

theorem deleteExported_removesBelow_iff (hB : CleanAbs B) (hpaths : e.paths = path :: rest)
    (hisi : getIsiPathFromExportPath path = some isiPath)
    (hro : isROVolumeFromSnapshot path v.accessZone = false)
    (hroot : Rooted (removalBase volumeID path isiPath v.volName))
    (hbase : clean (removalBase volumeID path isiPath v.volName) = B) :
    uses (Call.RemovesBelow B) (deleteExported volumeID v e) ↔ LeadsToChild B v.volName := by
  obtain ⟨first, heq, hret, huses⟩ := deleteExported_eq volumeID hpaths hisi hro
  rw [heq, ← childOf_namespacePath_iff hB, ← hbase, namespacePath_clean hroot, hbase]
  constructor
  · intro h
    have hafter := uses_after h hret
    have hwritable : returns () (deleteWritableSnapshot (getPathForVolume isiPath v.volName)) :=
      ⟨.ok ⟨[], 0⟩, .ok (), rfl⟩
    have hdir := uses_after hafter hwritable
    unfold deleteDirectory at hdir
    have hfound : returns true (IsiService.isVolumeExistent
        (removalBase volumeID path isiPath v.volName) v.volName) := ⟨.ok ⟨[], 0⟩, rfl⟩
    have hdelete := uses_after hdir hfound
    exact hdelete.1 _ rfl
  · intro h
    have hrest : ∀ c : Call, c.removes = none → c.RemovesBelow B :=
      fun c hc => Call.removesBelow_of_none hc B
    refine uses_bind (huses _ (read_removesBelow B) (fun i => hrest _ rfl) fun i z => hrest _ rfl)
      fun _ => ?_
    refine uses_bind (deleteWritableSnapshot_uses (read_removesBelow B) (hrest _ rfl)) fun _ => ?_
    apply deleteDirectory_uses (read_removesBelow B)
    intro d hd
    cases hd
    exact h

end Deletion

/-- The directories that `CreateVolume` makes and `DeleteVolume` removes lie right below the base
path exactly when the name of the volume leads there, or the request makes none. -/
theorem volume_directory_contained_iff (svc : Service) {B : Str} (hB : CleanAbs B) :
    (∀ (req : CreateVolumeRequest) (share : Str), req.readOnly svc = false → req.base svc = B →
      yields (fun p => asks (req.SharedOn share) (Call.CreatesBelow B) (provision svc p) ↔
        LeadsToChild B req.name ∧
          (req.clonedShare ≠ none → ChildOf B (namespacePath (clean share) req.name)) ∨
        req.MakesNoDirectory) (preparePlan svc req)) ∧
    (∀ (volumeID : Str) (v : VolumeID) (e : Export) (path isiPath : Str) (rest : List Str),
      validateDeleteVolumeRequest volumeID = .ok () → parseNormalizedVolumeID volumeID = .ok v →
      e.paths = path :: rest → getIsiPathFromExportPath path = some isiPath →
      isROVolumeFromSnapshot path v.accessZone = false →
      Rooted (removalBase volumeID path isiPath v.volName) →
      clean (removalBase volumeID path isiPath v.volName) = B →
      (uses (Call.RemovesBelow B) (deleteExported volumeID v e) ↔ LeadsToChild B v.volName)) := by
  constructor
  · intro req share hro hbase
    exact yields_mono preparePlan_yields fun p hp => provision_createsBelow_iff hB hp hro hbase share
  · intro volumeID v e path isiPath rest _ _ hpaths hisi hro hroot hbase
    exact deleteExported_removesBelow_iff hB hpaths hisi hro hroot hbase

theorem cleanAbs_ifsData : CleanAbs "/ifs/data" := ⟨[("ifs" : Str), ("data" : Str)], by decide, by decide⟩

def cloneOfShared : CreateVolumeRequest :=
  { newVolume "vol2" with
    volumeContentSource := some (.volume "vol1=_=_=1=_=_=System=_=_=c1=_=_=directory") }

/-- The clone of a directory-backed volume whose shared export is on the base path. -/
theorem volume_directory_contained_clone : cloneOfShared.clonedShare ≠ none ∧
    yields (fun p => asks (cloneOfShared.SharedOn "/ifs/data") (Call.CreatesBelow "/ifs/data")
      (provision oneCluster p)) (preparePlan oneCluster cloneOfShared) := by
  refine ⟨by decide, ?_⟩
  have hiff := (volume_directory_contained_iff oneCluster cleanAbs_ifsData).1 cloneOfShared "/ifs/data"
    (by decide) (by decide)
  refine yields_mono hiff fun p hp => hp.2 (.inl ⟨by decide, fun _ => ?_⟩)
  exact ⟨"vol2", by decide, by decide⟩

def vol1Exported : OneFS := OneFS.fresh.addExport "/ifs/data/vol1" "System" [] []

/-- A volume called `../vol1` is made next to the base path, and the deletion of one called `..`
takes the base path itself. -/
theorem volume_directory_escapes : (validateCreateVolumeRequest (newVolume "../vol1") = .ok 1024 ∧
      (run array (createVolume oneCluster (newVolume "../vol1")) OneFS.fresh).1.isOk = true ∧
      (OneFS.fresh.hasDir "/ifs/vol1" = false ∧
        (run array (createVolume oneCluster (newVolume "../vol1")) OneFS.fresh).2.hasDir
          "/ifs/vol1" = true) ∧
      ¬ ChildOf "/ifs/data" "/ifs/vol1") ∧
    (validateDeleteVolumeRequest "..=_=_=1=_=_=System=_=_=c1" = .ok () ∧
      vol1Exported.hasDir "/ifs/data" = true ∧
      run array (deleteVolume oneCluster "..=_=_=1=_=_=System=_=_=c1") vol1Exported =
        (.ok (), vol1Exported.rmdir "/ifs/data") ∧
      ¬ ChildOf "/ifs/data/vol1" "/ifs/data") := by
  have hcreate : ¬ ChildOf "/ifs/data" (namespacePath "/ifs/data" "../vol1") := by
    rw [childOf_namespacePath_iff cleanAbs_ifsData]
    decide
  have hdelete : ¬ ChildOf "/ifs/data/vol1" (namespacePath "/ifs/data/vol1" "..") := by
    rw [childOf_namespacePath_iff
      ⟨[("ifs" : Str), ("data" : Str), ("vol1" : Str)], by decide, by decide⟩]
    decide
  refine ⟨⟨by decide, by decide +kernel, ⟨by decide, by decide +kernel⟩, hcreate⟩,
    by decide, by decide, by decide +kernel, hdelete⟩

end Controller
end CsiPowerscale
