import CsiPowerscale.Node
import CsiPowerscale.CreateVolumeAnswers

namespace CsiPowerscale
open GoLib Effects Effects.Prog Stores

def mountItems (opts : List Str) : List Str := (split (joinWith "," opts) ",").map trimSpace

def xprtsecValue (item : Str) : Option Str :=
  if startsWith (toLower item) "xprtsec=" then some (item.drop 8) else none

def effectiveXprtsec (opts : List Str) : Option Str :=
  ((mountItems opts).filterMap xprtsecValue).getLast?

namespace NodeService

theorem mountItems_concat (opts : List Str) (o : Str) : mountItems (opts ++ [o]) =
      (if opts = [] then [] else mountItems opts) ++ (split o ",").map trimSpace := by
  split
  · next hnil =>
    subst hnil
    rfl
  next hne =>
  have hcomma : (("," : Str) ++ o) = 44 :: o := rfl
  unfold mountItems
  rw [joinWith_concat _ _ hne, hcomma, ← List.map_append]
  exact congrArg _ (split_append_byte 44 _ o)

theorem effectiveXprtsec_concat_other
    (ho : ((split o ",").map trimSpace).filterMap xprtsecValue = []) :
    effectiveXprtsec (opts ++ [o]) = effectiveXprtsec opts := by
  unfold effectiveXprtsec
  rw [mountItems_concat, List.filterMap_append, ho, List.append_nil]
  split
  · next hnil =>
    subst hnil
    rfl
  · rfl

theorem effectiveXprtsec_concat_mtls :
    effectiveXprtsec (opts ++ [("xprtsec=mtls" : Str)]) = some ("mtls" : Str) := by
  have ho : ((split "xprtsec=mtls" ",").map trimSpace).filterMap xprtsecValue = [("mtls" : Str)] := by
    decide
  unfold effectiveXprtsec
  rw [mountItems_concat, List.filterMap_append, ho, List.getLast?_concat]

def hasXprtsecPrefix (flags : List Str) : Bool := flags.any fun o => startsWith (toLower o) "xprtsec="

def publishOptions (p : Publication) (readonly : Bool) : List Str :=
  (if isMTLSEnabled p.nfsTransportSecurity && !hasXprtsecPrefix p.mnt.mountFlags then
    p.mnt.mountFlags ++ [("xprtsec=mtls" : Str)] else p.mnt.mountFlags) ++
    [if readonly then ("ro" : Str) else "rw"]

theorem publishOptions_effective (hmtls : isMTLSEnabled p.nfsTransportSecurity = true) :
    effectiveXprtsec (publishOptions p readonly) = some ("mtls" : Str) ↔
      hasXprtsecPrefix p.mnt.mountFlags = false ∨
        effectiveXprtsec p.mnt.mountFlags = some ("mtls" : Str) := by
  unfold publishOptions
  rw [effectiveXprtsec_concat_other (by cases readonly <;> decide), hmtls, Bool.true_and]
  cases hprefix : hasXprtsecPrefix p.mnt.mountFlags with
  | false => exact iff_of_true effectiveXprtsec_concat_mtls (.inl rfl)
  | true => simp

def MountsWithMTLS : NodeCall → Prop
  | .mount _ _ _ opts => effectiveXprtsec opts = some ("mtls" : Str)
  | _ => True

theorem mountWithRetry_uses (hsleep : U .sleep) (n : Nat) :
    uses U (mountWithRetry url target opts n) ↔ U (.mount url target "nfs" opts) := by
  constructor
  · intro h
    cases n with
    | zero => exact h.1
    | succ n => exact h.1
  · intro h
    induction n with
    | zero => exact (uses_op _).2 h
    | succ n ih =>
      refine uses_ask_bind h fun r => ?_
      cases r with
      | ok _ => trivial
      | error e =>
        dsimp only
        split
        · exact uses_bind ((uses_op _).2 hsleep) fun _ => ih
        · trivial

theorem publishVolume_uses (hmkdir : U (.mkdir req.targetPath)) (hmounts : U .getMounts)
    (hsleep : U .sleep) :
    uses U (publishVolume req p url) ↔ (p.accessMode ≠ none → req.targetPath ≠ [] →
      U (.mount url req.targetPath "nfs" (publishOptions p req.readonly))) := by
  unfold publishVolume
  cases p.accessMode with
  | none => exact iff_of_true trivial fun h => absurd rfl h
  | some mode =>
    dsimp only
    split
    · next hnil => exact iff_of_true trivial fun _ h => absurd hnil h
    next htarget =>
    constructor
    · intro h _ _
      -- the target can be made and nothing is mounted yet
      exact (mountWithRetry_uses hsleep 5).1 ((h.2 (.ok ())).2 (.ok []))
    · intro h
      have hmount := h (Option.some_ne_none mode) htarget
      refine uses_ask_bind hmkdir fun r => ?_
      cases r with
      | error e => trivial
      | ok _ =>
        refine uses_ask_bind hmounts fun r => ?_
        cases r with
        | error e => trivial
        | ok mounts =>
          refine uses_bind (uses_ofExcept _) fun mounted => ?_
          split
          · exact (mountWithRetry_uses hsleep 5).2 hmount
          · trivial

theorem mtlsChecks_returns (svc : Service) {flags : Option Str} :
    returns () (match target with
      | some m => (fail (reqError svc .invalidArgument [m]) : NodeM Unit)
      | none =>
        match flags with
        | some m => fail (reqError svc .invalidArgument [m])
        | none => ret ()) ↔ target = none ∧ flags = none := by
  cases target with
  | some m => simp [returns]
  | none =>
    cases flags with
    | some m => simp [returns]
    | none => simp [returns]

theorem validateMTLSPrerequisites_accepts {target : Str} (hmtls : isMTLSEnabled tls = true) :
    returns () (validateMTLSPrerequisites svc tls target flags) ↔
      validateMTLSMountTarget target = none ∧ validateMountOptionsForMTLS flags = none := by
  unfold validateMTLSPrerequisites
  rw [hmtls, ← mtlsChecks_returns svc]
  constructor
  · rintro ⟨r, hr⟩
    cases r with
    | error e => exact hr.elim
    | ok cap =>
      obtain ⟨kernelTLSSupported, tlshdAvailable⟩ := cap
      cases kernelTLSSupported with
      | false => exact hr.elim
      | true =>
        cases tlshdAvailable with
        | false => exact hr.elim
        | true => exact hr
  · intro h
    exact ⟨.ok ⟨true, true⟩, h⟩

/-- No downgrade: accepted flags are mounted with mutual TLS, exactly when no flag starts with
`xprtsec=`, so that the driver adds its own, or the flags ask for mutual TLS themselves. -/
theorem publishVolume_mtls_iff (svc : Service) {req : NodePublishVolumeRequest} {p : Publication}
    {url : Str} (hmtls : isMTLSEnabled p.nfsTransportSecurity = true) :
    (returns () (validateMTLSPrerequisites svc p.nfsTransportSecurity p.mountTarget
        p.mnt.mountFlags) → uses MountsWithMTLS (publishVolume req p url)) ↔
      (validateMTLSMountTarget p.mountTarget = none → validateMountOptionsForMTLS p.mnt.mountFlags = none →
        p.accessMode ≠ none → req.targetPath ≠ [] →
        hasXprtsecPrefix p.mnt.mountFlags = false ∨
          effectiveXprtsec p.mnt.mountFlags = some ("mtls" : Str)) := by
  rw [validateMTLSPrerequisites_accepts hmtls, publishVolume_uses trivial trivial trivial, and_imp]
  exact imp_congr_right fun _ => imp_congr_right fun _ => imp_congr_right fun _ =>
    imp_congr_right fun _ => publishOptions_effective hmtls

def mtlsPublication (flags : List Str) : Publication where
  ctx := []
  mnt := ⟨"nfs", flags, []⟩
  accessMode := some .multiNodeMultiWriter
  path := "/ifs/data/vol1"
  directoryBacked := false
  mountTarget := "nfs.example.com"
  nfsTransportSecurity := "MTLS"

def publishRequest : NodePublishVolumeRequest where
  volumeID := "vol1=_=_=1=_=_=System=_=_=c1"
  targetPath := "/var/lib/kubelet/pods/p1/mount"
  stagingTargetPath := []
  volumeCapability := none
  volumeContext := none
  readonly := false

theorem publishVolume_mtls_hard : uses MountsWithMTLS
    (publishVolume publishRequest (mtlsPublication ["hard"]) "nfs.example.com:/ifs/data/vol1") := by
  refine (publishVolume_mtls_iff oneCluster (by decide)).2 (fun _ _ _ _ => .inl (by decide)) ?_
  exact (validateMTLSPrerequisites_accepts (by decide)).2 ⟨by decide, by decide⟩

/-- A flag with two options passes the check of whole flags, and its prefix keeps the driver from
adding its own option. -/
theorem publishVolume_downgrade :
    returns () (validateMTLSPrerequisites oneCluster "MTLS" "nfs.example.com"
      [("xprtsec=none,hard" : Str)]) ∧
    effectiveXprtsec (publishOptions (mtlsPublication ["xprtsec=none,hard"]) false) =
      some ("none" : Str) ∧
    ¬ uses MountsWithMTLS (publishVolume publishRequest (mtlsPublication ["xprtsec=none,hard"])
      "nfs.example.com:/ifs/data/vol1") := by
  refine ⟨(validateMTLSPrerequisites_accepts (by decide)).2 ⟨by decide, by decide⟩, by decide, ?_⟩
  intro h
  have hmount : effectiveXprtsec (publishOptions (mtlsPublication ["xprtsec=none,hard"]) false) =
      some ("mtls" : Str) :=
    (publishVolume_uses trivial trivial trivial).1 h (by decide) (by decide)
  exact absurd hmount (by decide)

end NodeService

/-- The export that is there before the volume is made and that the answer names: the shared export,
that of the snapshot shown, or that of a volume that exists. -/
def CreateVolumeRequest.standing (svc : Service) (req : CreateVolumeRequest) (s : OneFS) :
    Option Export :=
  match req.sharedPath with
  | some path => s.exportAt path (req.accessZone svc)
  | none =>
    if req.readOnly svc then
      match req.volumeContentSource with
      | some (.snapshot i) =>
        (s.shownPath i (req.accessZone svc)).bind fun path => s.exportAt path (req.accessZone svc)
      | _ => none
    else if s.hasDir (namespacePath (req.root svc) req.name) = true ∨
        req.groupDir svc = some (namespacePath (req.root svc) req.name) then
      s.exportAt (getPathForVolume (req.root svc) req.name) (req.accessZone svc)
    else none

structure NamedBy (vol : Volume) (e : Export) : Prop where
  identity : ∃ name c, vol.volumeID = getNormalizedVolumeID name e.id e.zone c ∨
    vol.volumeID = getDirectoryBackedVolumeID name e.id e.zone c
  number : vol.volumeContext.get? "ID" = some (itoa e.id)
  accessZone : vol.volumeContext.get? "AccessZone" = some e.zone

/-- The export of the volume demands this transport security. -/
def Enforced (mode : Str) (vol : Volume) (s : OneFS) : Prop :=
  ∃ e ∈ s.exports, NamedBy vol e ∧ e.xprtsec = mode

theorem NamedBy.unique {s : OneFS} (h : NamedBy vol e) (h' : NamedBy vol e') (he : e ∈ s.exports)
    (he' : e' ∈ s.exports) : e = e' := by
  have hid : e.id = e'.id := itoa_injective (Option.some.inj (h.number.symm.trans h'.number))
  exact Registry.eq_of_num he he' (Export.num_of_id hid)

theorem getCSIVolume_namedBy (e : Export) (name path : Str) :
    NamedBy (Controller.getCSIVolume p e.id name path e.zone) e := by
  refine ⟨⟨name, p.clusterName, ?_⟩, rfl, rfl⟩
  cases hdir : p.directoryBacked with
  | false => exact .inl (by simp [Controller.getCSIVolume, hdir])
  | true => exact .inr (by simp [Controller.getCSIVolume, hdir])

namespace Controller

section Standing

variable {svc : Service} {req : CreateVolumeRequest} {p : Plan} {s u : OneFS}

theorem standing_shared (hp : Resolves svc req p) (hc : Consulted s p) (hx : p.shared = some x) :
    req.standing svc s = some x.nfs := by
  have hpath : req.sharedPath = some x.path := by
    rw [← hp.shared, hx]
    rfl
  rw [CreateVolumeRequest.standing, hpath, ← hp.accessZone]
  exact hc.shared x hx

theorem standing_readOnly (hp : Resolves svc req p) (hc : Consulted s p) (hshared : p.shared = none)
    (hro : p.isROVolumeFromSnapshot = true) :
    req.standing svc s = s.exportAt (targetPath p) p.accessZone := by
  obtain ⟨src, hsrc⟩ := Option.isSome_iff_exists.1 hro
  have hsource : p.source = .snapshot src := by
    unfold Plan.readOnlySource at hsrc
    split at hsrc
    · next src' hsource =>
      split at hsrc
      · cases hsrc
        exact hsource
      · cases hsrc
    · cases hsrc
  have hcontent : req.volumeContentSource = some (.snapshot src.normalizedID) := by
    rw [← hp.source, hsource]
    rfl
  have hshown := hc.shown src hsource
  rw [hp.accessZone] at hshown ⊢
  rw [CreateVolumeRequest.standing, hp.sharedPath_eq_none.1 hshared, targetPath, hsrc]
  dsimp only
  rw [if_pos (hp.readOnly.symm.trans hro), hcontent]
  dsimp only
  rw [hshown]
  rfl

theorem standing_own (hp : Resolves svc req p) (hshared : p.shared = none)
    (hro : p.isROVolumeFromSnapshot = false) :
    req.standing svc s = if s.hasDir (volumeDir p) = true ∨ req.groupDir svc = some (volumeDir p) then
      s.exportAt (targetPath p) p.accessZone else none := by
  have hdir : volumeDir p = namespacePath (req.root svc) req.name := by
    rw [volumeDir, Plan.basePath, hshared, hp.isiPath, hp.name]
  have hro' : ¬ req.readOnly svc = true := by
    rw [← hp.readOnly, hro]
    exact Bool.false_ne_true
  rw [CreateVolumeRequest.standing, hp.sharedPath_eq_none.1 hshared, targetPath_own hro hshared, hdir,
    hp.isiPath, hp.name, hp.accessZone]
  exact if_neg hro'

theorem CreatedFor.named (h : CreatedFor svc req s vol u p) : ∃ e ∈ u.exports, NamedBy vol e ∧
    (req.standing svc s = some e ∨ e.xprtsec = resolveXprtsec p.nfsTransportSecurity ∧
      p.shared = none ∧ (p.isROVolumeFromSnapshot = true → req.standing svc s = none)) := by
  have hp := h.resolves
  cases hshared : p.shared with
  | some x =>
    obtain ⟨hmem, path, rfl⟩ := h.shared x hshared
    exact ⟨x.nfs, hmem, getCSIVolume_namedBy _ _ _, .inl (standing_shared hp h.consulted hshared)⟩
  | none =>
    obtain ⟨t, ht, e, he, horigin⟩ := h.own hshared
    obtain ⟨name, path, rfl, -⟩ := he.volume
    refine ⟨e, he.mem, getCSIVolume_namedBy e name path, ?_⟩
    rw [ht.exportAt] at horigin
    cases hro : p.isROVolumeFromSnapshot with
    | true =>
      rw [standing_readOnly hp h.consulted hshared hro]
      rcases horigin with ⟨hat, -⟩ | ⟨hnew, hnone⟩
      · exact .inl hat
      · exact .inr ⟨hnew, rfl, fun _ => hnone hro⟩
    | false =>
      rcases horigin with ⟨hat, hfound⟩ | ⟨hnew, -⟩
      · have hdir := ht.dirs _ (hfound.resolve_left (by simp [hro]))
        exact .inl (by rw [standing_own hp hshared hro, if_pos hdir, hat])
      · exact .inr ⟨hnew, rfl, fun h => by cases h⟩

theorem createVolume_enforced (hmode : resolveXprtsec (req.parameters.get "NFSTransportSecurity") = mode)
    (hstanding : ∀ e, req.standing svc s = some e → e.xprtsec = mode)
    (hcv : Outcome array F (createVolume svc req) s (.ok (some vol)) t) : Enforced mode vol t := by
  obtain ⟨p, hp⟩ := createVolume_createdFor.outcome hcv vol rfl
  obtain ⟨e, hmem, hnamed, hold | ⟨hnew, -⟩⟩ := hp.named
  · exact ⟨e, hmem, hnamed, hstanding e hold⟩
  · exact ⟨e, hmem, hnamed, by rw [hnew, hp.reads.transportSecurity, hmode]⟩

theorem run_createVolume_standing (hrun : run array (createVolume svc req) s = (.ok (some vol), t))
    (he : req.standing svc s = some e) : e ∈ t.exports ∧ NamedBy vol e := by
  obtain ⟨p, u, hplan, hprovision⟩ := run_bind_ok.1 hrun
  obtain ⟨hp, hreplays⟩ := run_preparePlan hplan
  obtain ⟨hplanned, hsetUp⟩ := (preparePlan_planned (F := .none)).run hplan
  have hcreated := (provision_createdFor (F := .none) hplanned hsetUp).run hprovision vol rfl
  obtain ⟨e', hmem, hnamed, hold | ⟨-, hshared, hnone⟩⟩ := hcreated.named
  · cases he.symm.trans hold
    exact ⟨hmem, hnamed⟩
  cases hro : p.isROVolumeFromSnapshot with
  | true =>
    rw [hnone hro] at he
    cases he
  | false =>
    rw [standing_own hp hshared hro] at he
    split at he
    · next hdir =>
      have hat : u.exportAt (targetPath p) p.accessZone = some e := (hsetUp.exportAt _ _).trans he
      rw [targetPath_own hro hshared] at hat
      obtain ⟨hmatch, hmiss⟩ := run_provision_found hshared hro ((hreplays.dirs _).2 hdir) hat
      by_cases hquota : QuotaMatches svc p u e
      · rw [hmatch hquota] at hprovision
        cases hprovision
        exact ⟨(OneFS.exportAt_some hat).1, getCSIVolume_namedBy e _ _⟩
      · obtain ⟨err, herr⟩ := hmiss hquota
        rw [herr] at hprovision
        cases hprovision
    · cases he

end Standing

/-- The mode that a request asks for is set on the export that the answer names, just when the
export that stands there before has it. It is sufficient with failing requests too. -/
theorem createVolume_transport_iff (svc : Service) (req : CreateVolumeRequest) (s : OneFS)
    {mode : Str} (hmode : mode = "tls" ∨ mode = "mtls")
    (hreq : req.parameters.get "NFSTransportSecurity" = mode) :
    ((∀ e, req.standing svc s = some e → e.xprtsec = mode) → ∀ F vol t,
      Outcome array F (createVolume svc req) s (.ok (some vol)) t → Enforced mode vol t) ∧
    ∀ vol t, run array (createVolume svc req) s = (.ok (some vol), t) →
      (Enforced mode vol t ↔ ∀ e, req.standing svc s = some e → e.xprtsec = mode) := by
  have hx : resolveXprtsec (req.parameters.get "NFSTransportSecurity") = mode := by
    rw [hreq]
    rcases hmode with rfl | rfl
    · decide
    · decide
  refine ⟨fun h F vol t hout => ?_, fun vol t hrun => ⟨fun henforced e he => ?_, fun h => ?_⟩⟩
  · exact createVolume_enforced hx h hout
  · obtain ⟨hmem, hnamed⟩ := run_createVolume_standing hrun he
    obtain ⟨e', hmem', hnamed', hmode'⟩ := henforced
    rw [hnamed.unique hnamed' hmem hmem']
    exact hmode'
  · exact createVolume_enforced (F := .none) hx h (.of_run hrun)

def withTLS : OneFS := { OneFS.fresh with nfsTLSMode := some ("none:tls:mtls" : Str) }

def securedRequest (mode : Str) : CreateVolumeRequest :=
  { newVolume "vol1" with parameters := [("NFSTransportSecurity", mode)] }

theorem createVolume_transport_new : ∃ vol t,
    run array (createVolume oneCluster (securedRequest "tls")) withTLS = (.ok (some vol), t) ∧
      Enforced "tls" vol t := by
  obtain ⟨vol, t, hrun⟩ : ∃ vol t, run array (createVolume oneCluster (securedRequest "tls")) withTLS =
      (.ok (some vol), t) := ⟨_, _, rfl⟩
  refine ⟨vol, t, hrun, ?_⟩
  apply ((createVolume_transport_iff oneCluster (securedRequest "tls") withTLS (.inl rfl) (by decide)).2
    vol t hrun).2
  intro e he
  have hnone : (securedRequest "tls").standing oneCluster withTLS = none := by decide
  rw [hnone] at he
  cases he

/-- A volume that was made without transport security is returned for a request that asks for TLS. -/
theorem createVolume_transport_plain : ∃ vol t,
    run array (createVolume oneCluster (securedRequest "tls"))
      (run array (createVolume oneCluster (newVolume "vol1")) withTLS).2 = (.ok (some vol), t) ∧
      ∃ e ∈ t.exports, NamedBy vol e ∧ e.xprtsec = [] := by
  obtain ⟨vol, t, e, hrun, hat⟩ : ∃ vol t e, run array (createVolume oneCluster (securedRequest "tls"))
      (run array (createVolume oneCluster (newVolume "vol1")) withTLS).2 = (.ok (some vol), t) ∧
      (securedRequest "tls").standing oneCluster
        (run array (createVolume oneCluster (newVolume "vol1")) withTLS).2 = some e ∧
      e.xprtsec = [] := ⟨_, _, _, rfl, rfl, rfl⟩
  obtain ⟨hmem, hnamed⟩ := run_createVolume_standing hrun hat.1
  exact ⟨vol, t, hrun, e, hmem, hnamed, hat.2⟩

end Controller

end CsiPowerscale
