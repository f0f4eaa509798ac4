import CsiPowerscale.QuotaThresholds

namespace CsiPowerscale
open GoLib Stores Effects Effects.Prog

def CreateVolumeRequest.OnlyMutableLimits (req : CreateVolumeRequest) : Prop :=
  ∀ key ∈ [("SoftLimit" : Str), "pvcSoftLimit", "AdvisoryLimit", "pvcAdvisoryLimit", "SoftGracePrd",
    "pvcSoftGracePrd"], req.parameters.get key = []

instance (req : CreateVolumeRequest) : Decidable req.OnlyMutableLimits := List.decidableBAll _ _

def Quota.limits (q : Quota) : Int × Int × Int := (q.soft, q.advisory, q.softGrace)

namespace Controller

def givenLimit (params : Params) (key : Str) (size : Int) : Int :=
  ((given params key).map (percentOf · size)).getD 0

def givenGrace (params : Params) : Int := (given params "SoftGracePrd").getD 0

def createdLimits (params : Params) (size : Int) : Int × Int × Int :=
  IsiService.quotaThresholds (params.get "SoftLimit") (params.get "AdvisoryLimit")
    (params.get "SoftGracePrd") size

def modified (q : Quota) (params : Params) : Quota :=
  let new := QuotaParams.overlay ⟨none, none, none⟩ params q
  ⟨q.num, q.path, q.hard, new.soft.getD q.soft, new.advisory.getD q.advisory,
    new.softGrace.getD q.softGrace⟩

def written (s : OneFS) (q : Quota) (params : Params) : OneFS :=
  if modified q params = q then s
  else
    let new := QuotaParams.overlay ⟨none, none, none⟩ params q
    s.modifyQuota q.id new.soft new.advisory new.softGrace

structure Matches (q : Quota) (params : Params) : Prop where
  soft : PercentGiven params q "SoftLimit"
  advisory : PercentGiven params q "AdvisoryLimit"
  same : modified q params = q

/-- `CreateVolume` takes the parameters for a volume of this size as they are: percentages up to 100
below the size, and a grace period for a soft limit. -/
structure TakenAsGiven (params : Params) (size : Int) : Prop where
  softPercent : ∀ n, given params "SoftLimit" = some n → n ≤ 100
  advisoryPercent : ∀ n, given params "AdvisoryLimit" = some n → n ≤ 100
  soft : givenLimit params "SoftLimit" size < size
  advisory : givenLimit params "AdvisoryLimit" size < size
  grace : givenLimit params "SoftLimit" size ≠ 0 → givenGrace params ≠ 0

section Limits

variable {params : Params} {size : Int} {q : Quota}

theorem parse_get (params : Params) (key : Str) : parseInt64 (params.get key) = given params key := by
  unfold Params.get given
  cases params.get? key with
  | none => decide
  | some value => rfl

theorem quotaLimit_get (params : Params) (key : Str) (size : Int) :
    IsiService.quotaLimit (params.get key) size = givenLimit params key size := by
  unfold IsiService.quotaLimit givenLimit
  rw [parse_get]
  cases given params key <;> rfl

theorem createdLimits_eq (params : Params) (size : Int) : createdLimits params size =
    if givenLimit params "SoftLimit" size ≥ size ∨ givenLimit params "AdvisoryLimit" size ≥ size then
      (0, 0, 0)
    else if givenLimit params "SoftLimit" size ≠ 0 ∧ givenGrace params = 0 then
      (0, givenLimit params "AdvisoryLimit" size, 0)
    else (givenLimit params "SoftLimit" size, givenLimit params "AdvisoryLimit" size,
      givenGrace params) := by
  unfold createdLimits IsiService.quotaThresholds
  simp only [quotaLimit_get, parse_get]
  rfl

theorem created_as_given_iff (hsize : 0 < size) : createdLimits params size =
    (givenLimit params "SoftLimit" size, givenLimit params "AdvisoryLimit" size, givenGrace params) ↔
    givenLimit params "SoftLimit" size < size ∧ givenLimit params "AdvisoryLimit" size < size ∧
      (givenLimit params "SoftLimit" size ≠ 0 → givenGrace params ≠ 0) := by
  rw [createdLimits_eq]
  generalize givenLimit params "SoftLimit" size = soft
  generalize givenLimit params "AdvisoryLimit" size = advisory
  generalize givenGrace params = grace
  split
  · next hreach =>
    simp only [Prod.mk.injEq]
    omega
  next hbelow =>
  split
  · next hdrop =>
    simp only [Prod.mk.injEq]
    omega
  · next hkept =>
    simp only [true_iff]
    omega

theorem modified_bare (hsoft : q.soft = 0) (hadvisory : q.advisory = 0) (hgrace : q.softGrace = 0) :
    modified q params = ⟨q.num, q.path, q.hard, givenLimit params "SoftLimit" q.hard,
      givenLimit params "AdvisoryLimit" q.hard, givenGrace params⟩ := by
  simp [modified, QuotaParams.overlay, hsoft, hadvisory, hgrace, givenLimit, givenGrace]

theorem created_none (params : Params) (size : Int) :
    (given params "SoftLimit" = none → (createdLimits params size).1 = 0) ∧
    (given params "AdvisoryLimit" = none → (createdLimits params size).2.1 = 0) ∧
    (given params "SoftGracePrd" = none → (createdLimits params size).2.2 = 0) := by
  rw [createdLimits_eq]
  unfold givenLimit givenGrace
  refine ⟨fun hnone => ?_, fun hnone => ?_, fun hnone => ?_⟩
  all_goals
    rw [hnone]
    split
    · rfl
    · split <;> rfl

theorem getD_eq_iff {o : Option Int} (h : o = none → a = 0) : o.getD a = a ↔ a = o.getD 0 := by
  cases o with
  | none =>
    simp only [Option.getD_none, true_iff]
    exact h rfl
  | some b => exact eq_comm

theorem modified_created_iff (hhard : q.hard = size)
    (hlimits : createdLimits params size = q.limits) :
    modified q params = q ↔ createdLimits params size =
      (givenLimit params "SoftLimit" size, givenLimit params "AdvisoryLimit" size,
        givenGrace params) := by
  obtain ⟨num, path, hard, soft, advisory, grace⟩ := q
  obtain rfl : hard = size := hhard
  obtain ⟨hsoft, hadvisory, hgrace⟩ := created_none params hard
  rw [hlimits, Quota.limits] at hsoft hadvisory hgrace ⊢
  simp only [modified, QuotaParams.overlay, Quota.mk.injEq, true_and, Prod.mk.injEq, Option.or_none]
  rw [getD_eq_iff fun h => hsoft (Option.map_eq_none_iff.1 h),
    getD_eq_iff fun h => hadvisory (Option.map_eq_none_iff.1 h), getD_eq_iff hgrace]
  rfl

theorem percentGiven_iff (hhard : q.hard ≠ 0) :
    PercentGiven params q key ↔ ∀ n, given params key = some n → n ≤ 100 :=
  forall_congr' fun _ => imp_congr_right fun _ => and_iff_left hhard

theorem matches_created_iff (hsize : 0 < size) (hhard : q.hard = size)
    (hlimits : createdLimits params size = q.limits) :
    Matches q params ↔ TakenAsGiven params size := by
  have hpercent : ∀ key, PercentGiven params q key ↔ ∀ n, given params key = some n → n ≤ 100 :=
    fun key => percentGiven_iff (by omega)
  have hsame := (modified_created_iff hhard hlimits).trans (created_as_given_iff hsize)
  constructor
  · intro h
    obtain ⟨hsoft, hadvisory, hgrace⟩ := hsame.1 h.same
    exact ⟨(hpercent _).1 h.soft, (hpercent _).1 h.advisory, hsoft, hadvisory, hgrace⟩
  · intro h
    exact ⟨(hpercent _).2 h.softPercent, (hpercent _).2 h.advisoryPercent,
      hsame.2 ⟨h.soft, h.advisory, h.grace⟩⟩

end Limits

section Modify

variable {svc : Service} {s t : OneFS} {volumeID : Str} {q : Quota} {params : Params}

theorem needsUpdate_iff : (QuotaParams.overlay ⟨none, none, none⟩ params q).needsUpdate q = false ↔
    modified q params = q := by
  obtain ⟨num, path, hard, soft, advisory, grace⟩ := q
  have hany : ∀ (o : Option Int) (a : Int), o.any (· ≠ a) = false ↔ o.getD a = a := by
    intro o a
    cases o <;> simp
  simp only [QuotaParams.needsUpdate, modified, Bool.or_eq_false_iff, hany, Quota.mk.injEq, true_and]
  exact ⟨fun h => ⟨h.1.2, h.1.1, h.2⟩, fun h => ⟨⟨h.2.1, h.1⟩, h.2.2⟩⟩

theorem run_modifyLimits (hq : q ∈ s.quotas) (hvalid : validateMutableParamKeys params = .ok ())
    (hnodup : (params.map Prod.fst).Nodup) :
    run array (modifyLimits volumeID params q) s = (.ok (), t) ↔
      (PercentGiven params q "SoftLimit" ∧ PercentGiven params q "AdvisoryLimit") ∧
      t = written s q params := by
  unfold written
  by_cases hnil : params = []
  · subst hnil
    have hpercent : ∀ key, PercentGiven [] q key := fun key n hn => by cases hn
    have hsame : modified q [] = q := rfl
    simp [modifyLimits, hpercent, hsame, eq_comm]
  have hconvert (new : QuotaParams) : convertMutableParams volumeID q params = .ok new ↔ _ :=
    convertMutableParams_ok hvalid hnodup
  unfold modifyLimits
  rw [if_neg hnil, hvalid, ofExcept_ok, ret_bind]
  cases hnew : convertMutableParams volumeID q params with
  | error e =>
    have hfails : ¬ (PercentGiven params q "SoftLimit" ∧ PercentGiven params q "AdvisoryLimit") := by
      intro hpercent
      have hok := (hconvert _).2 ⟨hpercent.1, hpercent.2, rfl⟩
      rw [hnew] at hok
      cases hok
    simp [hfails]
  | ok new =>
    obtain ⟨hsoft, hadvisory, rfl⟩ := (hconvert _).1 hnew
    rw [ofExcept_ok, ret_bind, and_iff_right ⟨hsoft, hadvisory⟩]
    cases hupdate : (QuotaParams.overlay ⟨none, none, none⟩ params q).needsUpdate q with
    | false => simp [needsUpdate_iff.1 hupdate, eq_comm]
    | true =>
      have hdiffers : modified q params ≠ q := by
        intro hsame
        rw [needsUpdate_iff.2 hsame] at hupdate
        cases hupdate
      simp [hdiffers, IsiService.modifyQuota, IsiService.rename, run_bind, array_act, OneFS.serve,
        OneFS.change, OneFS.quotaById_of_mem hq, eq_comm]

theorem quotaById_modified (hq : q ∈ s.quotas) :
    (written s q params).quotaById q.id = some (modified q params) := by
  unfold written
  split
  · next hsame =>
    rw [hsame]
    exact OneFS.quotaById_of_mem hq
  · apply OneFS.quotaById_of_mem (q := modified q params)
    rw [OneFS.modifyQuota, Catalog.mem_update]
    exact ⟨q, hq, if_pos rfl⟩

theorem modifyLimits_keeps_iff (hq : q ∈ s.quotas)
    (hvalid : validateMutableParamKeys params = .ok ()) (hnodup : (params.map Prod.fst).Nodup) :
    (∃ t, run array (modifyLimits volumeID params q) s = (.ok (), t) ∧ t.quotas = s.quotas) ↔
      Matches q params := by
  simp only [run_modifyLimits hq hvalid hnodup]
  constructor
  · rintro ⟨t, ⟨⟨hsoft, hadvisory⟩, rfl⟩, hquotas⟩
    have hfound : _ = some (modified q params) := quotaById_modified hq
    rw [OneFS.quotaById, hquotas] at hfound
    exact ⟨hsoft, hadvisory, (Option.some.inj ((OneFS.quotaById_of_mem hq).symm.trans hfound)).symm⟩
  · intro h
    refine ⟨s, ⟨⟨h.soft, h.advisory⟩, ?_⟩, rfl⟩
    rw [written, if_pos h.same]

theorem run_reads (h : uses Call.IsRead p) (hrun : run array p s = (r, t)) : t = s :=
  wp_run (wp_of_uses (F := .none) h (fun _ u hc hu => (hc.serve u).trans hu) rfl) hrun

theorem run_readExportPath_ok (hrun : run array (readExportPath v) s = (.ok path, t)) :
    ∃ e, s.exportById v.exportID v.accessZone = some e ∧ e.paths.headD [] = path := by
  unfold readExportPath at hrun
  simp only [run_bind, run_ask, array_act, OneFS.serve] at hrun
  cases hfound : s.exportById v.exportID v.accessZone with
  | none => simp [hfound, OneFS.reply] at hrun
  | some e =>
    simp only [hfound, Option.map_some, OneFS.reply, run_ret, Prod.mk.injEq, Except.ok.injEq] at hrun
    exact ⟨e, rfl, hrun.1⟩

theorem finds_of_modify (hrun : run array (controllerModifyVolume svc volumeID params) s = (.ok (), t)) :
    svc.quotaEnabled = true ∧ volumeID ≠ [] ∧ ∃ v cfg e q, Finds svc s volumeID v cfg e q := by
  unfold controllerModifyVolume at hrun
  split at hrun
  · cases hrun
  next hne =>
  cases hparse : parseNormalizedVolumeID volumeID with
  | error e =>
    rw [hparse] at hrun
    cases hrun
  | ok v =>
    rw [hparse] at hrun
    obtain ⟨⟨name, cfg⟩, s₁, hready, hmodify⟩ := run_bind_ok.1 hrun
    obtain rfl := run_reads readyCluster_reads hready
    obtain ⟨hcfg, hprobe⟩ := run_yields readyCluster_yields hready
    cases henabled : svc.quotaEnabled with
    | false =>
      simp only [henabled] at hmodify
      cases hmodify
    | true =>
      simp only [henabled, Bool.not_true, Bool.false_eq_true, if_false] at hmodify
      obtain ⟨path, s₂, hpath, hlookup⟩ := run_bind_ok.1 hmodify
      obtain rfl := run_reads readExportPath_reads hpath
      obtain ⟨e, hfound, rfl⟩ := run_readExportPath_ok hpath
      obtain ⟨r, s₃, hlocate, hlimits⟩ := run_bind_ok.1 hlookup
      obtain rfl := run_reads (uses_attempt.2 locateQuota_reads) hlocate
      cases r with
      | error err => cases hlimits
      | ok q =>
        rw [run_attempt, Prod.mk.injEq, Except.ok.injEq] at hlocate
        have hquota := (run_locateQuota hfound).1 (Prod.ext hlocate.1 hlocate.2)
        exact ⟨rfl, hne, v, cfg, e, q, hparse, ⟨name, hcfg⟩, hprobe, hfound, hquota⟩

def ModifyKeeps (svc : Service) (volumeID : Str) (params : Params) (s : OneFS) : Prop :=
  ∃ t, run array (controllerModifyVolume svc volumeID params) s = (.ok (), t) ∧ t.quotas = s.quotas

theorem Finds.volumeID_ne_nil (h : Finds svc s volumeID v cfg e q) : volumeID ≠ [] := by
  rintro rfl
  have hparse := h.parse
  revert hparse
  simp [show parseNormalizedVolumeID [] = .error _ from rfl]

theorem modifyKeeps_iff (hvalid : validateMutableParamKeys params = .ok ())
    (hnodup : (params.map Prod.fst).Nodup) : ModifyKeeps svc volumeID params s ↔
      svc.quotaEnabled = true ∧ ∃ v cfg e q, Finds svc s volumeID v cfg e q ∧ Matches q params := by
  constructor
  · rintro ⟨t, hrun, hquotas⟩
    obtain ⟨henabled, hne, v, cfg, e, q, hq⟩ := finds_of_modify hrun
    rw [hq.run_modify henabled hne] at hrun
    exact ⟨henabled, v, cfg, e, q, hq, (modifyLimits_keeps_iff hq.mem hvalid hnodup).1 ⟨t, hrun, hquotas⟩⟩
  · rintro ⟨henabled, v, cfg, e, q, hq, hmatches⟩
    unfold ModifyKeeps
    rw [hq.run_modify henabled hq.volumeID_ne_nil]
    exact (modifyLimits_keeps_iff hq.mem hvalid hnodup).2 hmatches

end Modify

theorem readQuotaLimitParams_only {req : CreateVolumeRequest} (h : req.OnlyMutableLimits) :
    readQuotaLimitParams req.parameters req.mutableParameters =
      (req.mutableParameters.get "SoftLimit", req.mutableParameters.get "AdvisoryLimit",
        req.mutableParameters.get "SoftGracePrd") := by
  have hparam : ∀ key pvcKey, req.parameters.get key = [] → req.parameters.get pvcKey = [] →
      quotaLimitParam req.parameters req.mutableParameters key pvcKey =
        req.mutableParameters.get key := by
    intro key pvcKey hkey hpvcKey
    simp only [quotaLimitParam, hkey, hpvcKey]
    split
    · rfl
    · next hnil => simpa using (not_not.1 hnil).symm
  unfold readQuotaLimitParams
  rw [hparam _ _ (h _ (by simp)) (h _ (by simp)), hparam _ _ (h _ (by simp)) (h _ (by simp)),
    hparam _ _ (h _ (by simp)) (h _ (by simp))]

def Created (params : Params) (size : Int) (q : Quota) : Prop :=
  q.hard = size ∧ createdLimits params size = q.limits

section Create

variable {svc : Service} {req : CreateVolumeRequest} {s₀ s₁ : OneFS} {vol : Volume} {size : Int}

theorem createVolume_created
    (hcv : Outcome array .any (createVolume svc req) s₀ (.ok (some vol)) s₁)
    (honly : req.OnlyMutableLimits) (hsize : validateCreateVolumeRequest req = .ok size)
    (hwritable : wantsWritableSnapshot req.parameters = false) :
    ∀ q ∈ s₁.quotas, s₀.quotas.next ≤ q.num → Created req.mutableParameters size q := by
  have huses : uses (fun c => ∀ (s : OneFS) q, s.Sets q c → Created req.mutableParameters size q)
      (createVolume svc req) := by
    apply createVolume_uses
    · intro c hc _ s q hq
      cases c <;> first | exact hq.elim | exact (hc trivial).elim
    · exact fun _ _ _ _ _ _ _ _ hq => hq.elim
    · rintro p hp path s q rfl
      obtain rfl := Except.ok.inj (hsize.symm.trans hp.1.accepted)
      have hlimits := (readQuotaLimitParams_only honly).symm.trans hp.2.limits
      simp only [Prod.mk.injEq] at hlimits
      obtain ⟨hsoft, hadvisory, hgrace⟩ := hlimits
      refine ⟨rfl, ?_⟩
      rw [createdLimits, hsoft, hadvisory, hgrace]
      rfl
    · intro p hp hw
      rw [hp.1.writable, hwritable] at hw
      cases hw
  refine wp_iff_outcome.1 (wp_of_uses (I := fun t => ∀ q ∈ t.quotas, s₀.quotas.next ≤ q.num →
    Created req.mutableParameters size q) huses (fun c t hc ht q hq hle => ?_) ?_) _ _ hcv
  · rcases OneFS.mem_quotas_serve c hq with hq | hq
    · exact ht q hq hle
    · exact hc t q hq
  · exact fun q hq hle => absurd (Catalog.lt_next hq) (Nat.not_lt.2 hle)

theorem createVolume_accepted
    (hcv : Outcome array .any (createVolume svc req) s₀ (.ok (some vol)) s₁) :
    validateMutableParamKeys req.mutableParameters = .ok () ∧
      ∀ size, validateCreateVolumeRequest req = .ok size → 0 < size := by
  obtain ⟨p, t, hp, _⟩ := hcv.of_bind
  have hplan : yields (fun p => Resolves svc req p ∧ Reads req p) (preparePlan svc req) :=
    yields_and preparePlan_yields preparePlan_reads
  obtain ⟨hfits, hreads⟩ := wp_iff_outcome.1 (wp_of_yields hplan) _ _ hp p rfl
  refine ⟨hreads.accepted, fun size hsize => ?_⟩
  obtain rfl := Except.ok.inj (hfits.accepted.symm.trans hsize)
  exact hfits.size

end Create

def ModifyYields (svc : Service) (volumeID : Str) (params : Params) (s : OneFS) (q q' : Quota) : Prop :=
  ∃ t r, run array (controllerModifyVolume svc volumeID params) s = (.ok (), t) ∧
    t.quotaById q.id = some r ∧ r.limits = q'.limits

theorem modifyYields_iff (h : Finds svc s volumeID v cfg e q)
    (hvalid : validateMutableParamKeys params = .ok ()) (hnodup : (params.map Prod.fst).Nodup) :
    ModifyYields svc volumeID params s q q' ↔
      svc.quotaEnabled = true ∧ PercentGiven params q "SoftLimit" ∧
        PercentGiven params q "AdvisoryLimit" ∧ (modified q params).limits = q'.limits := by
  unfold ModifyYields
  constructor
  · rintro ⟨t, r, hrun, hr, hlimits⟩
    obtain ⟨henabled, hne, _⟩ := finds_of_modify hrun
    rw [h.run_modify henabled hne, run_modifyLimits h.mem hvalid hnodup] at hrun
    obtain ⟨⟨hsoft, hadvisory⟩, rfl⟩ := hrun
    obtain rfl := Option.some.inj ((quotaById_modified h.mem).symm.trans hr)
    exact ⟨henabled, hsoft, hadvisory, hlimits⟩
  · rintro ⟨henabled, hsoft, hadvisory, hlimits⟩
    refine ⟨written s q params, modified q params, ?_, quotaById_modified h.mem, hlimits⟩
    rw [h.run_modify henabled h.volumeID_ne_nil, run_modifyLimits h.mem hvalid hnodup]
    exact ⟨⟨hsoft, hadvisory⟩, rfl⟩

theorem modified_takenAsGiven_iff (hsize : 0 < size) (hq : Created [] size q)
    (hq' : Created params size q') :
    (PercentGiven params q "SoftLimit" ∧ PercentGiven params q "AdvisoryLimit" ∧
      (modified q params).limits = q'.limits) ↔ TakenAsGiven params size := by
  obtain ⟨rfl, hbare⟩ := hq
  have hnone : createdLimits [] q.hard = (0, 0, 0) := by
    rw [createdLimits_eq]
    split
    · rfl
    · split <;> rfl
  rw [hnone, Quota.limits] at hbare
  simp only [Prod.mk.injEq] at hbare
  have hhard : q.hard ≠ 0 := by omega
  rw [modified_bare hbare.1.symm hbare.2.1.symm hbare.2.2.symm, ← hq'.2, eq_comm, Quota.limits,
    created_as_given_iff hsize, percentGiven_iff hhard, percentGiven_iff hhard]
  constructor
  · rintro ⟨hs, ha, hsoft, hadvisory, hgrace⟩
    exact ⟨hs, ha, hsoft, hadvisory, hgrace⟩
  · intro h
    exact ⟨h.softPercent, h.advisoryPercent, h.soft, h.advisory, h.grace⟩

/-- `CreateVolume` and `ControllerModifyVolume` agree on the mutable parameters exactly when the
driver has a quota to look at and `CreateVolume` has dropped no limit. An older quota, or that of a
writable snapshot, must have the limits already. -/
theorem createVolume_modify_agree_iff {svc : Service} {req : CreateVolumeRequest} {s₀ : OneFS}
    (honly : req.OnlyMutableLimits) (hnodup : (req.mutableParameters.map Prod.fst).Nodup)
    (hsize : validateCreateVolumeRequest req = .ok size)
    (hcv : Outcome array .any (createVolume svc req) s₀ (.ok (some vol)) s₁) :
    (ModifyKeeps svc vol.volumeID req.mutableParameters s₁ ↔ svc.quotaEnabled = true ∧
      ∃ v cfg e q, Finds svc s₁ vol.volumeID v cfg e q ∧
        if s₀.quotas.next ≤ q.num ∧ wantsWritableSnapshot req.parameters = false then
          TakenAsGiven req.mutableParameters size
        else Matches q req.mutableParameters) ∧
    ∀ bare t v cfg e q v' cfg' e' q',
      Outcome array .any (createVolume svc { req with mutableParameters := [] }) s₀ (.ok (some bare)) t →
      Finds svc t bare.volumeID v cfg e q → Finds svc s₁ vol.volumeID v' cfg' e' q' →
      (ModifyYields svc bare.volumeID req.mutableParameters t q q' ↔ svc.quotaEnabled = true ∧
        if (s₀.quotas.next ≤ q.num ∧ s₀.quotas.next ≤ q'.num) ∧
            wantsWritableSnapshot req.parameters = false then
          TakenAsGiven req.mutableParameters size
        else PercentGiven req.mutableParameters q "SoftLimit" ∧
          PercentGiven req.mutableParameters q "AdvisoryLimit" ∧
          (modified q req.mutableParameters).limits = q'.limits) := by
  obtain ⟨hvalid, hpos⟩ := createVolume_accepted hcv
  have hcreated := createVolume_created hcv honly hsize
  constructor
  · rw [modifyKeeps_iff hvalid hnodup]
    apply and_congr_right
    intro _
    refine exists_congr fun v => exists_congr fun cfg => exists_congr fun e => exists_congr fun q =>
      and_congr_right fun hq => ?_
    split
    · next hnew =>
      obtain ⟨hhard, hlimits⟩ := hcreated hnew.2 q hq.mem hnew.1
      exact matches_created_iff (hpos size hsize) hhard hlimits
    · exact Iff.rfl
  · intro bare t v cfg e q v' cfg' e' q' hbare hq hq'
    rw [modifyYields_iff hq hvalid hnodup]
    apply and_congr_right
    intro _
    split
    · next hnew =>
      have hq₀ : Created [] size q := createVolume_created hbare honly hsize hnew.2 q hq.mem hnew.1.1
      exact modified_takenAsGiven_iff (hpos size hsize) hq₀ (hcreated hnew.2 q' hq'.mem hnew.1.2)
    · exact Iff.rfl

def mutableRequest (params : Params) : CreateVolumeRequest :=
  { newVolume "vol1" with mutableParameters := params }

def withMutable (params : Params) : OneFS :=
  (run array (createVolume oneCluster (mutableRequest params)) .fresh).2

def eightyPercent : Params := [("SoftLimit", "80"), ("SoftGracePrd", "86400")]

theorem eightyPercent_taken : TakenAsGiven eightyPercent 1024 := by
  have hsoft : given eightyPercent "SoftLimit" = some 80 := by decide
  refine ⟨fun n hn => ?_, fun n hn => ?_, by decide, by decide, fun _ => by decide⟩
  · obtain rfl := Option.some.inj (hsoft.symm.trans hn)
    decide
  · cases hn

theorem createVolume_eightyPercent : ∃ vol : Volume,
    vol.volumeID = "vol1=_=_=1=_=_=System=_=_=c1" ∧ Outcome array .any
      (createVolume oneCluster (mutableRequest eightyPercent)) .fresh (.ok (some vol))
      (withMutable eightyPercent) := by
  obtain ⟨vol, hvol, hid⟩ : ∃ vol : Volume,
      (run array (createVolume oneCluster (mutableRequest eightyPercent)) .fresh).1 =
        .ok (some vol) ∧ vol.volumeID = "vol1=_=_=1=_=_=System=_=_=c1" := ⟨_, rfl, by decide⟩
  exact ⟨vol, hid, .of_run (Prod.ext hvol rfl)⟩

theorem createVolume_modify_agree_eightyPercent :
    ModifyKeeps oneCluster "vol1=_=_=1=_=_=System=_=_=c1" eightyPercent
      (withMutable eightyPercent) := by
  obtain ⟨vol, hid, hcv⟩ := createVolume_eightyPercent
  have hsize : validateCreateVolumeRequest (mutableRequest eightyPercent) = .ok 1024 := by decide
  have hiff := (createVolume_modify_agree_iff (by decide) (by decide) hsize hcv).1
  rw [hid] at hiff
  refine hiff.2 ⟨rfl, ⟨"vol1", 1, "System", "c1"⟩, _, _, ⟨0, "/ifs/data/vol1", 1024, 819, 0, 86400⟩,
    ⟨by decide, ⟨"c1", rfl⟩, .inl rfl, rfl, by decide⟩, ?_⟩
  rw [if_pos (by decide)]
  exact eightyPercent_taken

/-- `CreateVolume` drops a soft limit without a grace period, `ControllerModifyVolume` sets it. -/
theorem controllerModifyVolume_sets_dropped : let t := withMutable [("SoftLimit", "50")]
    (∃ vol, (run array (createVolume oneCluster (mutableRequest [("SoftLimit", "50")])) .fresh).1 =
      .ok (some vol) ∧ vol.volumeID = "vol1=_=_=1=_=_=System=_=_=c1") ∧
    (t.quotaAt "/ifs/data/vol1").map Quota.limits = some (0, 0, 0) ∧
    ((run array (controllerModifyVolume oneCluster "vol1=_=_=1=_=_=System=_=_=c1"
      [("SoftLimit", "50")]) t).2.quotaAt "/ifs/data/vol1").map Quota.limits = some (512, 0, 0) ∧
    ¬ ModifyKeeps oneCluster "vol1=_=_=1=_=_=System=_=_=c1" [("SoftLimit", "50")] t := by
  have hbefore : ((withMutable [("SoftLimit", "50")]).quotaAt "/ifs/data/vol1").map Quota.limits =
    some (0, 0, 0) := by decide
  have hafter : ((run array (controllerModifyVolume oneCluster "vol1=_=_=1=_=_=System=_=_=c1"
      [("SoftLimit", "50")]) (withMutable [("SoftLimit", "50")])).2.quotaAt "/ifs/data/vol1").map
        Quota.limits = some (512, 0, 0) := by decide
  refine ⟨⟨_, rfl, by decide⟩, hbefore, hafter, ?_⟩
  rintro ⟨t, hrun, hquotas⟩
  rw [hrun, OneFS.quotaAt, hquotas] at hafter
  rw [OneFS.quotaAt, hafter] at hbefore
  cases hbefore

end Controller
end CsiPowerscale
