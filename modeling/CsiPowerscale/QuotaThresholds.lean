import Mathlib.Algebra.Order.Ring.Int
import Mathlib.Tactic.Linarith
import Mathlib.Tactic.Positivity
import Mathlib.Tactic.Ring
import CsiPowerscale.ModeAgreement

namespace CsiPowerscale
open GoLib Stores Effects Effects.Prog IsiService OneFS

namespace Controller

structure Finds (svc : Service) (s : OneFS) (volumeID : Str) (v : VolumeID) (cfg : ClusterConfig)
    (e : Export) (q : Quota) : Prop where
  parse : parseNormalizedVolumeID volumeID = .ok v
  config : ∃ name, svc.getIsilonConfig v.clusterName = .ok (name, cfg)
  ready : cfg.isiSvc = true ∨ svc.autoProbeEnabled = true
  found : s.exportById v.exportID v.accessZone = some e
  quota : s.volumeQuota v.volName e (e.paths.headD [])
    (isDirectoryBacked volumeID (e.paths.headD []) cfg.isiPath v.volName) = some q

namespace Finds

variable {svc : Service} {s : OneFS} {volumeID : Str} {v : VolumeID} {cfg : ClusterConfig} {e : Export}
  {q : Quota} (h : Finds svc s volumeID v cfg e q)
include h

theorem mem : q ∈ s.quotas :=
  (OneFS.volumeQuota_some.1 h.quota).1

theorem run_readyCluster (notReady : Err → Err) :
    ∃ name, run array (readyCluster svc v.clusterName notReady) s = (.ok (name, cfg), s) := by
  obtain ⟨name, hname⟩ := h.config
  refine ⟨name, ?_⟩
  simp [readyCluster, hname, run_bind, Service.run_autoProbe h.ready]

theorem run_readExportPath :
    run array (readExportPath v) s = (.ok (e.paths.headD []), s) := by
  simp [readExportPath, run_bind, array_act, OneFS.serve, h.found, OneFS.reply]

theorem run_expand (n : Int) :
    run array (controllerExpandVolume svc volumeID n) s =
      run array (expandQuota svc v.volName n (.ok q)) s := by
  obtain ⟨name, hready⟩ := h.run_readyCluster fun e => .status .failedPrecondition e.text
  unfold controllerExpandVolume
  rw [h.parse]
  simp only [run_bind, hready, h.run_readExportPath, run_attempt, (run_locateQuota h.found).2 h.quota]

theorem run_modify (henabled : svc.quotaEnabled = true)
    (hne : volumeID ≠ []) (params : Params) :
    run array (controllerModifyVolume svc volumeID params) s =
      run array (modifyLimits volumeID params q) s := by
  obtain ⟨name, hready⟩ := h.run_readyCluster fun e => .status .failedPrecondition e.text
  unfold controllerModifyVolume
  rw [if_neg hne, h.parse]
  simp only [run_bind, hready, henabled, Bool.not_true, Bool.false_eq_true, if_false,
    h.run_readExportPath, run_attempt, (run_locateQuota h.found).2 h.quota]

theorem of_quotas (hexports : t.exports = s.exports)
    (hmem : r ∈ t.quotas) (hnum : r.num = q.num) (hpath : r.path = q.path) :
    Finds svc t volumeID v cfg e r where
  parse := h.parse
  config := h.config
  ready := h.ready
  found := by
    rw [← h.found, OneFS.exportById, OneFS.exportById, hexports]
  quota := by
    obtain ⟨_, hplace⟩ := OneFS.volumeQuota_some.1 h.quota
    apply OneFS.volumeQuota_some.2
    refine ⟨hmem, ?_⟩
    rwa [hpath, Quota.id, hnum]

end Finds

def grown (q : Quota) (n : Int) : Quota :=
  ⟨q.num, q.path, n, scaleLimit q.soft n q.hard, scaleLimit q.advisory n q.hard, q.softGrace⟩

def expandAll (svc : Service) (volumeID : Str) : List Int → IsiM Unit
  | [] => ret ()
  | n :: ns => do
    let _ ← controllerExpandVolume svc volumeID n
    expandAll svc volumeID ns

def quotaAfter (svc : Service) (volumeID : Str) (sizes : List Int) (s : OneFS) (q : Quota) :
    Option Quota :=
  match run array (expandAll svc volumeID sizes) s with
  | (.ok _, t) => t.quotaById q.id
  | (.error _, _) => none

section Expand

variable {svc : Service} {s : OneFS} {volumeID : Str} {v : VolumeID} {cfg : ClusterConfig} {e : Export}
  {q : Quota} {n : Int} (h : Finds svc s volumeID v cfg e q)
include h

theorem run_expand_grown (hpos : 0 < q.hard) (hn : q.hard < n) :
    ∃ t, run array (controllerExpandVolume svc volumeID n) s = (.ok n, t) ∧
      Finds svc t volumeID v cfg e (grown q n) := by
  refine ⟨s.setQuota q.id n (scaleLimit q.soft n q.hard) (scaleLimit q.advisory n q.hard)
    q.softGrace, ?_, ?_⟩
  · rw [h.run_expand, expandQuota, if_neg (by omega), if_neg (by omega)]
    simp [IsiService.updateQuotaSize, run_bind, array_act, OneFS.serve, OneFS.change,
      OneFS.quotaById_of_mem h.mem]
  apply h.of_quotas
  · rfl
  · exact OneFS.mem_setQuota.2 ⟨q, h.mem, if_pos rfl⟩
  · rfl
  · rfl

theorem quotaAfter_nil :
    quotaAfter svc volumeID [] s q = some q :=
  OneFS.quotaById_of_mem h.mem

theorem quotaAfter_cons (hpos : 0 < q.hard) (hn : q.hard < n)
    (ns : List Int) : ∃ t, Finds svc t volumeID v cfg e (grown q n) ∧
      quotaAfter svc volumeID (n :: ns) s q = quotaAfter svc volumeID ns t (grown q n) := by
  obtain ⟨t, hrun, ht⟩ := run_expand_grown h hpos hn
  refine ⟨t, ht, ?_⟩
  simp only [quotaAfter, expandAll, run_bind, hrun]
  rfl

theorem quotaAfter_one (hpos : 0 < q.hard) (hn : q.hard < n) :
    quotaAfter svc volumeID [n] s q = some (grown q n) := by
  obtain ⟨t, ht, hafter⟩ := quotaAfter_cons h hpos hn []
  rw [hafter, quotaAfter_nil ht]

theorem quotaAfter_two (hpos : 0 < q.hard) (hm : q.hard < m)
    (hn : m < n) :
    quotaAfter svc volumeID [m, n] s q = some (grown (grown q m) n) := by
  obtain ⟨t, ht, hafter⟩ := quotaAfter_cons h hpos hm [n]
  rw [hafter, quotaAfter_one ht (hpos.trans hm) hn]

end Expand

section Scale

variable {l h m n : Int}

theorem scaleLimit_eq (hn : 0 ≤ n) : scaleLimit l n h = (l * (n / h)).bmod (2 ^ 64) := by
  rw [scaleLimit, Int.tdiv_eq_ediv_of_nonneg hn]

theorem mul_growth_lt (hh : 0 < h) (hl : l < h) (hn : h ≤ n) : l * (n / h) < n := by
  have hone : 1 ≤ n / h := (Int.le_ediv_iff_mul_le hh).2 (by omega)
  calc l * (n / h) < h * (n / h) := Int.mul_lt_mul_of_pos_right hl (by omega)
    _ ≤ n := Int.mul_ediv_self_le (by omega)

theorem exact_eq (hh : 0 < h) : l * n / h = l * (n / h) + l * (n % h) / h := by
  have hsplit : l * n = l * (n % h) + h * (l * (n / h)) := by
    conv_lhs => rw [← Int.emod_add_mul_ediv n h]
    ring
  rw [hsplit, Int.add_mul_ediv_left _ _ (by omega)]
  ring

theorem ediv_eq_zero_iff (hh : 0 < h) : l / h = 0 ↔ 0 ≤ l ∧ l < h := by
  constructor
  · intro hz
    have hmod := Int.emod_add_mul_ediv l h
    have hlo := Int.emod_nonneg l (by omega : h ≠ 0)
    have hhi := Int.emod_lt_of_pos l hh
    rw [hz, mul_zero, add_zero] at hmod
    omega
  · rintro ⟨hlo, hhi⟩
    exact Int.ediv_eq_zero_of_lt hlo hhi

theorem scaleLimit_exact_iff (hh : 0 < h) (hl : l < h) (hmin : -2 ^ 63 ≤ l) (hn : h < n)
    (hmax : n < 2 ^ 63) : scaleLimit l n h = l * n / h ↔
      (0 ≤ l * (n % h) ∧ l * (n % h) < h) ∧ -2 ^ 63 ≤ l * (n / h) := by
  have htop : l * (n / h) < 2 ^ 63 := (mul_growth_lt hh hl (by omega)).trans hmax
  rw [scaleLimit_eq (by omega), exact_eq hh]
  by_cases hfits : -2 ^ 63 ≤ l * (n / h)
  · rw [wrap_eq_iff.2 ⟨hfits, htop⟩, ← ediv_eq_zero_iff hh, and_iff_left hfits]
    omega
  refine iff_of_false (wrap_ne_add (fun hx => hfits hx.1) ?_ ?_) fun hx => hfits hx.2
  · have hmod := Int.emod_nonneg n (by omega : h ≠ 0)
    have hlt := Int.emod_lt_of_pos n hh
    have hrest : -2 ^ 63 ≤ l * (n % h) / h := by
      apply (Int.le_ediv_iff_mul_le hh).2
      nlinarith
    omega
  · have hneg : l * (n / h) < 0 := by omega
    have hgrow : 0 ≤ n / h := Int.ediv_nonneg (by omega) (by omega)
    have hl' : l < 0 := by
      by_contra hpos
      exact absurd (Int.mul_nonneg (by omega : 0 ≤ l) hgrow) (by omega)
    have hmod := Int.emod_nonneg n (by omega : h ≠ 0)
    have hrest : l * (n % h) / h < 2 ^ 64 := by
      apply (Int.ediv_lt_iff_lt_mul hh).2
      nlinarith
    exact hrest

theorem growth_mul_le (hh : 0 < h) (hm : h < m) (hn : m < n) : m / h * (n / m) ≤ n / h := by
  apply (Int.le_ediv_iff_mul_le hh).2
  have hfirst : m / h * h ≤ m := Int.ediv_mul_le m (by omega)
  have hsecond : n / m * m ≤ n := Int.ediv_mul_le n (by omega)
  have hnonneg : 0 ≤ n / m := Int.ediv_nonneg (by omega) (by omega)
  nlinarith

theorem scaleLimit_twice (hh : 0 < h) (hl : l < h) (hm : h < m) (hn : m < n) (hmax : n < 2 ^ 63)
    (hfits : -2 ^ 63 ≤ l * (n / h)) :
    scaleLimit (scaleLimit l m h) n m = l * (m / h * (n / m)) := by
  have hfirst : 1 ≤ m / h := (Int.le_ediv_iff_mul_le hh).2 (by omega)
  have hsecond : 1 ≤ n / m := (Int.le_ediv_iff_mul_le (by omega)).2 (by omega)
  have hle := growth_mul_le hh hm hn
  have hbelow : l * (m / h) < m := mul_growth_lt hh hl (by omega)
  have hbelow' : l * (m / h) * (n / m) < n := mul_growth_lt (by omega) hbelow (by omega)
  -- a limit below zero only grows in size up to that of one expansion
  have hlow : -2 ^ 63 ≤ l * (m / h * (n / m)) := by
    rcases le_total 0 l with hpos | hneg
    · have : 0 ≤ l * (m / h * (n / m)) := by positivity
      omega
    · nlinarith
  have hlow' : -2 ^ 63 ≤ l * (m / h) := by
    rcases le_total 0 l with hpos | hneg
    · have : 0 ≤ l * (m / h) := by positivity
      omega
    · nlinarith
  rw [scaleLimit_eq (by omega), scaleLimit_eq (by omega), wrap_eq_iff.2 ⟨hlow', by omega⟩, mul_assoc,
    wrap_eq_iff.2 ⟨hlow, by rw [← mul_assoc]; omega⟩]

/-- What a limit `l` below a hard limit `h` must satisfy for expansions to `m` and `n` bytes: the
growth that the division drops is worth less than a byte, nothing wraps around, and the growth
factors of two steps multiply to that of one, up to two bytes. -/
structure ScalesExactly (l h m n : Int) : Prop where
  nonneg : 0 ≤ l * (n % h)
  rest : l * (n % h) < h
  fits : -2 ^ 63 ≤ l * (n / h)
  steps : |l * (m / h * (n / m)) - l * (n / h)| ≤ 2

theorem scales_iff (hh : 0 < h) (hl : l < h) (hmin : -2 ^ 63 ≤ l) (hm : h < m) (hn : m < n)
    (hmax : n < 2 ^ 63) :
    (scaleLimit l n h = l * n / h ∧
      |scaleLimit (scaleLimit l m h) n m - scaleLimit l n h| ≤ 2) ↔ ScalesExactly l h m n := by
  have htop : l * (n / h) < 2 ^ 63 := (mul_growth_lt hh hl (by omega)).trans hmax
  rw [scaleLimit_exact_iff hh hl hmin (hm.trans hn) hmax]
  constructor
  · rintro ⟨⟨⟨hnonneg, hrest⟩, hfits⟩, hsteps⟩
    rw [scaleLimit_twice hh hl hm hn hmax hfits, scaleLimit_eq (by omega),
      wrap_eq_iff.2 ⟨hfits, htop⟩] at hsteps
    exact ⟨hnonneg, hrest, hfits, hsteps⟩
  · intro hx
    refine ⟨⟨⟨hx.nonneg, hx.rest⟩, hx.fits⟩, ?_⟩
    rw [scaleLimit_twice hh hl hm hn hmax hx.fits, scaleLimit_eq (by omega),
      wrap_eq_iff.2 ⟨hx.fits, htop⟩]
    exact hx.steps

end Scale

/-- The soft and the advisory limit keep their proportion to the hard limit, rounded down, in one
expansion to `n` bytes, and expanding to `m` bytes first differs by one byte per step at most. -/
def KeepsProportions (svc : Service) (volumeID : Str) (s : OneFS) (q : Quota) (m n : Int) : Prop :=
  ∃ x y, quotaAfter svc volumeID [n] s q = some x ∧ quotaAfter svc volumeID [m, n] s q = some y ∧
    (x.soft = q.soft * n / q.hard ∧ |y.soft - x.soft| ≤ 2) ∧
    (x.advisory = q.advisory * n / q.hard ∧ |y.advisory - x.advisory| ≤ 2)

/-- The driver divides before it multiplies: an expansion keeps the proportions exactly when the
division drops too little to count. -/
theorem controllerExpandVolume_proportions_iff (h : Finds svc s volumeID v cfg e q) {m n : Int}
    (hhard : 0 < q.hard) (hsoft : q.soft < q.hard) (hadvisory : q.advisory < q.hard)
    (hsoftMin : -2 ^ 63 ≤ q.soft) (hadvisoryMin : -2 ^ 63 ≤ q.advisory) (hm : q.hard < m)
    (hn : m < n) (hmax : n < 2 ^ 63) :
    KeepsProportions svc volumeID s q m n ↔
      ScalesExactly q.soft q.hard m n ∧ ScalesExactly q.advisory q.hard m n := by
  rw [← scales_iff hhard hsoft hsoftMin hm hn hmax,
    ← scales_iff hhard hadvisory hadvisoryMin hm hn hmax]
  have hone := quotaAfter_one h hhard (hm.trans hn)
  have htwo := quotaAfter_two h hhard hm hn
  constructor
  · rintro ⟨x, y, hx, hy, hlimits⟩
    obtain rfl := Option.some.inj (hone.symm.trans hx)
    obtain rfl := Option.some.inj (htwo.symm.trans hy)
    exact hlimits
  · intro hlimits
    exact ⟨_, _, hone, htwo, hlimits⟩

def limitedVolume : OneFS := exportedVolume.setQuota "0" 1000 500 250 0

theorem limitedVolume_finds : ∃ cfg e, Finds oneCluster limitedVolume
    "vol1=_=_=1=_=_=System=_=_=c1" ⟨"vol1", 1, "System", "c1"⟩ cfg e
    ⟨0, "/ifs/data/vol1", 1000, 500, 250, 0⟩ :=
  ⟨_, _, by decide, ⟨"c1", rfl⟩, .inl rfl, rfl, by decide⟩

theorem controllerExpandVolume_proportions_fourfold :
    KeepsProportions oneCluster "vol1=_=_=1=_=_=System=_=_=c1" limitedVolume
      ⟨0, "/ifs/data/vol1", 1000, 500, 250, 0⟩ 2000 4000 := by
  obtain ⟨cfg, e, h⟩ := limitedVolume_finds
  apply (controllerExpandVolume_proportions_iff h (by decide) (by decide) (by decide) (by decide)
    (by decide) (by decide) (by decide) (by decide)).2
  constructor
  · constructor <;> decide
  · constructor <;> decide

/-- Half as much again leaves the limits where they were. -/
theorem controllerExpandVolume_loses_proportions :
    ¬ KeepsProportions oneCluster "vol1=_=_=1=_=_=System=_=_=c1" limitedVolume
      ⟨0, "/ifs/data/vol1", 1000, 500, 250, 0⟩ 1200 1500 := by
  rintro ⟨x, y, hx, _, ⟨hsoft, _⟩, _⟩
  obtain ⟨cfg, e, h⟩ := limitedVolume_finds
  rw [quotaAfter_one h (by decide) (by decide)] at hx
  obtain rfl := Option.some.inj hx
  exact absurd hsoft (by decide)

end Controller

structure SaneThresholds (hard soft advisory softGrace : Int) : Prop where
  soft_nonneg : 0 ≤ soft
  soft_lt : soft < hard
  advisory_nonneg : 0 ≤ advisory
  advisory_lt : advisory < hard
  grace : soft ≠ 0 → 0 < softGrace

def Quota.Settled (q : Quota) : Prop :=
  SaneThresholds q.hard q.soft q.advisory q.softGrace ∨
    (q.hard = 0 ∧ q.soft = 0 ∧ q.advisory = 0 ∧ q.softGrace = 0)

def OneFS.SendsSane (s : OneFS) : Call → Prop
  | .createQuota _ hard soft advisory softGrace => SaneThresholds hard soft advisory softGrace
  | .updateQuotaSize _ hard soft advisory softGrace => SaneThresholds hard soft advisory softGrace
  | .modifyQuota i soft advisory softGrace => ∀ q, s.quotaById i = some q →
      SaneThresholds q.hard (soft.getD q.soft) (advisory.getD q.advisory) (softGrace.getD q.softGrace)
  | _ => True

namespace OneFS

def Sets (s : OneFS) (q : Quota) : Call → Prop
  | .createQuota path hard soft advisory softGrace =>
    q = ⟨s.quotas.next, path, hard, soft, advisory, softGrace⟩
  | .createWritableSnapshot dstPath _ => q = ⟨s.quotas.next, dstPath, 0, 0, 0, 0⟩
  | .updateQuotaSize i hard soft advisory softGrace => ∃ r ∈ s.quotas, r.id = i ∧
      q = ⟨r.num, r.path, hard, soft, advisory, softGrace⟩
  | .modifyQuota i soft advisory softGrace => ∃ r ∈ s.quotas, r.id = i ∧
      q = ⟨r.num, r.path, r.hard, soft.getD r.soft, advisory.getD r.advisory,
        softGrace.getD r.softGrace⟩
  | _ => False

variable {s t : OneFS} {q : Quota}

theorem mem_newQuota (h : q ∈ (s.newQuota path hard soft advisory softGrace).2.quotas) :
    q ∈ s.quotas ∨ q = ⟨s.quotas.next, path, hard, soft, advisory, softGrace⟩ := by
  unfold newQuota at h
  split at h
  · exact mem_addQuota.1 h
  · exact .inl h

theorem mem_quotas_serve (c : Call) (h : q ∈ (array.act c s).2.quotas) :
    q ∈ s.quotas ∨ s.Sets q c := by
  have heff := c.effect s
  generalize (array.act c s).2 = t at heff h
  cases heff with
  | copySnapshot tree | copyVolume tree => exact .inl (s.graft_quotas _ tree ▸ h)
  | addWritable tree n =>
    have hq := mem_newQuota h
    simp only [addWritable, graft_quotas] at hq
    exact hq
  | newQuota => exact mem_newQuota h
  | setQuota =>
    obtain ⟨r, hmem, rfl⟩ := mem_setQuota.1 h
    split
    · next hid => exact .inr ⟨r, hmem, hid, rfl⟩
    · exact .inl hmem
  | modifyQuota =>
    rw [OneFS.modifyQuota, Catalog.mem_update] at h
    obtain ⟨r, hmem, rfl⟩ := h
    split
    · next hid => exact .inr ⟨r, hmem, hid, rfl⟩
    · exact .inl hmem
  | dropQuota => exact .inl (mem_dropQuota.1 h).1
  | _ => exact .inl h

def SettledFrom (n : Nat) (s : OneFS) : Prop := ∀ q ∈ s.quotas, n ≤ q.num → q.Settled

theorem settledFrom_start (s : OneFS) : s.SettledFrom s.quotas.next :=
  fun _ hq hn => absurd (Catalog.lt_next hq) (Nat.not_lt.2 hn)

theorem SettledFrom.serve (h : s.SettledFrom n) (hc : s.SendsSane c) :
    SettledFrom n (array.act c s).2 := by
  intro q hq hn
  rcases mem_quotas_serve c hq with hq | hq
  · exact h q hq hn
  cases c with
  | createQuota path hard soft advisory softGrace =>
    obtain rfl := hq
    exact .inl hc
  | createWritableSnapshot dstPath source =>
    obtain rfl := hq
    exact .inr ⟨rfl, rfl, rfl, rfl⟩
  | updateQuotaSize i hard soft advisory softGrace =>
    obtain ⟨r, _, _, rfl⟩ := hq
    exact .inl hc
  | modifyQuota i soft advisory softGrace =>
    obtain ⟨r, hr, rfl, rfl⟩ := hq
    exact .inl (hc r (quotaById_of_mem hr))
  | _ => exact hq.elim

end OneFS

def percentOf (percent size : Int) : Int := ((percent * size).bmod (2 ^ 64)).tdiv 100

theorem percentOf_eq (hn : 0 ≤ n) (hsize : 0 ≤ size) (hmax : n * size < 2 ^ 63) :
    percentOf n size = n * size / 100 := by
  have hnonneg : 0 ≤ n * size := Int.mul_nonneg hn hsize
  rw [percentOf, wrap_eq_iff.2 ⟨by omega, hmax⟩, Int.tdiv_eq_ediv_of_nonneg hnonneg]

theorem percentOf_nonneg (hn : 0 ≤ n) (hsize : 0 ≤ size) (hmax : n * size < 2 ^ 63) :
    0 ≤ percentOf n size := by
  rw [percentOf_eq hn hsize hmax]
  have hnonneg : 0 ≤ n * size := Int.mul_nonneg hn hsize
  omega

theorem percentOf_lt (hn : 0 ≤ n) (hlt : n < 100) (hsize : 0 < size) (hmax : n * size < 2 ^ 63) :
    percentOf n size < size := by
  rw [percentOf_eq hn hsize.le hmax]
  apply (Int.ediv_lt_iff_lt_mul (by decide)).2
  nlinarith

def SoundPercent (percent : Str) (size : Int) : Prop :=
  ∀ n, parseInt64 percent = some n → 0 ≤ n ∧ n * size < 2 ^ 63

theorem quotaLimit_nonneg (h : SoundPercent percent size) (hsize : 0 < size) :
    0 ≤ quotaLimit percent size := by
  unfold quotaLimit
  cases hn : parseInt64 percent with
  | none => exact Int.le_refl 0
  | some n => exact percentOf_nonneg (h n hn).1 hsize.le (h n hn).2

theorem quotaThresholds_sane (hsize : 0 < size) (hsoft : SoundPercent soft size)
    (hadvisory : SoundPercent advisory size) (hgrace : ∀ n, parseInt64 grace = some n → 0 ≤ n) :
    SaneThresholds size (quotaThresholds soft advisory grace size).1
      (quotaThresholds soft advisory grace size).2.1
      (quotaThresholds soft advisory grace size).2.2 := by
  have hsoft' := quotaLimit_nonneg hsoft hsize
  have hadvisory' := quotaLimit_nonneg hadvisory hsize
  have hgrace' : 0 ≤ (parseInt64 grace).getD 0 := by
    cases hn : parseInt64 grace with
    | none => exact Int.le_refl 0
    | some n => exact hgrace n hn
  unfold quotaThresholds
  dsimp only
  split
  · exact ⟨Int.le_refl 0, hsize, Int.le_refl 0, hsize, fun h => absurd rfl h⟩
  next hbelow =>
  rw [not_or, ge_iff_le, ge_iff_le, not_le, not_le] at hbelow
  split
  · exact ⟨Int.le_refl 0, hsize, hadvisory', hbelow.2, fun h => absurd rfl h⟩
  next hkept =>
  refine ⟨hsoft', hbelow.1, hadvisory', hbelow.2, fun hne => ?_⟩
  have hne' : (parseInt64 grace).getD 0 ≠ 0 := fun hz => hkept ⟨hne, hz⟩
  exact lt_of_le_of_ne hgrace' hne'.symm

def CreateVolumeRequest.SoundLimits (req : CreateVolumeRequest) : Prop :=
  ∀ size soft advisory grace, validateCreateVolumeRequest req = .ok size →
    readQuotaLimitParams req.parameters req.mutableParameters = (soft, advisory, grace) →
      SoundPercent soft size ∧ SoundPercent advisory size ∧ ∀ n, parseInt64 grace = some n → 0 ≤ n

namespace Controller

theorem createVolume_sends (h : req.SoundLimits) :
    sends array F SendsSane (createVolume svc req) s := by
  have huses : uses (fun c => ∀ t : OneFS, t.SendsSane c) (createVolume svc req) := by
    apply createVolume_uses
    · intro c hc _ t
      cases c <;> first | exact (hc trivial).elim | trivial
    · exact fun _ _ _ _ _ _ _ => trivial
    · intro p hp path t
      obtain ⟨hsoft, hadvisory, hgrace⟩ := h _ _ _ _ hp.1.accepted hp.2.limits
      exact quotaThresholds_sane hp.1.size hsoft hadvisory hgrace
    intro p hp _
    refine ⟨fun _ _ _ => trivial, fun i t => ?_⟩
    have hsize := hp.1.size
    exact ⟨Int.le_refl 0, hsize, Int.le_refl 0, hsize, fun hne => absurd rfl hne⟩
  exact sends_of_uses huses fun c t hc => hc t

def given (params : Params) (key : Str) : Option Int := (params.get? key).bind parseInt64

theorem given_cons_self (key value : Str) (rest : Params) :
    given ((key, value) :: rest) key = parseInt64 value := by
  simp [given, Params.get?]

theorem given_cons_ne (h : other ≠ key) (rest : Params) :
    given ((key, value) :: rest) other = given rest other := by
  have hbeq : (other == key) = false := beq_eq_false_iff_ne.2 h
  simp [given, Params.get?, List.lookup_cons, hbeq]

theorem given_none (h : key ∉ params.map Prod.fst) : given params key = none := by
  have hnone : params.lookup key = none := by
    rw [List.lookup_eq_none_iff]
    intro x hx
    rw [bne_iff_ne]
    rintro rfl
    exact h (List.mem_map_of_mem hx)
  simp [given, Params.get?, hnone]

theorem validateMutableParamKeys_cons : validateMutableParamKeys ((key, value) :: rest) = .ok () ↔
      (key = "SoftLimit" ∨ key = "AdvisoryLimit" ∨ key = "SoftGracePrd") ∧
      (∃ n, parseInt64 value = some n ∧ 0 ≤ n) ∧ validateMutableParamKeys rest = .ok () := by
  have hkeys : key ∈ supportedMutableParams ↔
      key = "SoftLimit" ∨ key = "AdvisoryLimit" ∨ key = "SoftGracePrd" := by
    simp only [supportedMutableParams, List.mem_cons, List.not_mem_nil, or_false]
    exact or_left_comm
  rw [← hkeys, validateMutableParamKeys]
  by_cases hkey : key ∈ supportedMutableParams
  · rw [if_neg (not_not.2 hkey)]
    cases parseInt64 value with
    | none => simp
    | some n =>
      by_cases hn : n < 0
      · simp [hn]
      · simp [hn, hkey, not_lt.1 hn]
  · simp [hkey]

theorem given_nonneg (h : validateMutableParamKeys params = .ok ())
    (hn : given params key = some n) : 0 ≤ n := by
  induction params with
  | nil => cases hn
  | cons x rest ih =>
    obtain ⟨_, ⟨m, hm, hnonneg⟩, hrest⟩ := validateMutableParamKeys_cons.1 h
    by_cases hkey : key = x.1
    · subst hkey
      rw [given_cons_self, hm] at hn
      cases hn
      exact hnonneg
    · rw [given_cons_ne hkey] at hn
      exact ih hrest hn

def PercentGiven (params : Params) (q : Quota) (key : Str) : Prop :=
  ∀ n, given params key = some n → n ≤ 100 ∧ q.hard ≠ 0

def QuotaParams.overlay (old : QuotaParams) (params : Params) (q : Quota) : QuotaParams where
  soft := ((given params "SoftLimit").map (percentOf · q.hard)).or old.soft
  advisory := ((given params "AdvisoryLimit").map (percentOf · q.hard)).or old.advisory
  softGrace := (given params "SoftGracePrd").or old.softGrace

theorem convert_limit {key : Str} (hkey : key = "SoftLimit" ∨ key = "AdvisoryLimit")
    (hn : parseInt64 value = some n) :
    convertMutableParam volumeID q old key value = .ok new ↔ (n ≤ 100 ∧ q.hard ≠ 0) ∧
      new = if key = "SoftLimit" then { old with soft := some (percentOf n q.hard) }
        else { old with advisory := some (percentOf n q.hard) } := by
  unfold convertMutableParam
  simp only [hn, Option.getD_some, if_pos hkey, gt_iff_lt]
  by_cases hmax : 100 < n
  · simp [hmax]
  by_cases hhard : q.hard = 0
  · simp [hmax, hhard]
  · rw [if_neg hmax, if_neg hhard, and_iff_right ⟨not_lt.1 hmax, hhard⟩]
    split <;> simp only [Except.ok.injEq, percentOf, eq_comm]

theorem convert_grace (hn : parseInt64 value = some n) :
    convertMutableParam volumeID q old "SoftGracePrd" value = .ok new ↔
      new = { old with softGrace := some n } := by
  have hkey : ¬ (("SoftGracePrd" : Str) = "SoftLimit" ∨ ("SoftGracePrd" : Str) = "AdvisoryLimit") := by
    decide
  unfold convertMutableParam
  simp only [hn, Option.getD_some, if_neg hkey, Except.ok.injEq]
  exact eq_comm

theorem bind_eq_ok {f : α → Except Err β} : (x >>= f) = .ok b ↔ ∃ a, x = .ok a ∧ f a = .ok b := by
  cases x with
  | error e => simp [Bind.bind, Except.bind]
  | ok a => simp [Bind.bind, Except.bind]

theorem foldlM_convert (hvalid : validateMutableParamKeys params = .ok ())
    (hnodup : (params.map Prod.fst).Nodup) :
    params.foldlM (fun acc x => convertMutableParam volumeID q acc x.1 x.2) old = .ok new ↔
      PercentGiven params q "SoftLimit" ∧ PercentGiven params q "AdvisoryLimit" ∧
        new = old.overlay params q := by
  induction params generalizing old with
  | nil =>
    have hsoft : PercentGiven [] q "SoftLimit" := by rintro n ⟨⟩
    have hadvisory : PercentGiven [] q "AdvisoryLimit" := by rintro n ⟨⟩
    simp only [hsoft, hadvisory, true_and]
    exact ⟨fun h => (Except.ok.inj h).symm, fun h => congrArg Except.ok h.symm⟩
  | cons x rest ih =>
    obtain ⟨key, value⟩ := x
    obtain ⟨hkey, ⟨n, hn, _⟩, hrest⟩ := validateMutableParamKeys_cons.1 hvalid
    obtain ⟨hfresh, hnodup'⟩ := List.nodup_cons.1 hnodup
    have hnone := given_none hfresh
    have hother : ∀ other, other ≠ key → given ((key, value) :: rest) other = given rest other :=
      fun other hne => given_cons_ne hne rest
    rw [List.foldlM_cons, bind_eq_ok]
    simp only [ih hrest hnodup']
    rcases hkey with rfl | rfl | rfl
    · have hadvisory := hother "AdvisoryLimit" (by decide)
      have hgrace := hother "SoftGracePrd" (by decide)
      simp only [convert_limit (.inl rfl) hn, if_true, PercentGiven, hadvisory, hnone,
        QuotaParams.overlay, hgrace, given_cons_self, hn]
      simp [and_assoc]
    · have hsoft := hother "SoftLimit" (by decide)
      have hgrace := hother "SoftGracePrd" (by decide)
      have hne : ("AdvisoryLimit" : Str) ≠ "SoftLimit" := by decide
      simp only [convert_limit (.inr rfl) hn, if_neg hne, PercentGiven, hsoft, hnone,
        QuotaParams.overlay, hgrace, given_cons_self, hn]
      simp [and_assoc, and_left_comm]
    · have hsoft := hother "SoftLimit" (by decide)
      have hadvisory := hother "AdvisoryLimit" (by decide)
      simp only [convert_grace hn, PercentGiven, hsoft, hadvisory, hnone, QuotaParams.overlay,
        given_cons_self, hn]
      simp

theorem convertMutableParams_ok (hvalid : validateMutableParamKeys params = .ok ())
    (hnodup : (params.map Prod.fst).Nodup) :
    convertMutableParams volumeID q params = .ok new ↔
      PercentGiven params q "SoftLimit" ∧ PercentGiven params q "AdvisoryLimit" ∧
        new = QuotaParams.overlay ⟨none, none, none⟩ params q :=
  foldlM_convert hvalid hnodup

/-- The mutable parameters keep the thresholds of the quota in order: the limits are below 100
percent and fit in 64 bits, and a soft limit that is given or stays has a grace period. -/
structure KeepsOrder (q : Quota) (params : Params) : Prop where
  hard : params ≠ [] → 0 < q.hard
  soft : ∀ n, given params "SoftLimit" = some n → n < 100 ∧ n * q.hard < 2 ^ 63
  advisory : ∀ n, given params "AdvisoryLimit" = some n → n < 100 ∧ n * q.hard < 2 ^ 63
  grace : (given params "SoftLimit").getD q.soft ≠ 0 →
    0 < (given params "SoftGracePrd").getD q.softGrace

theorem overlay_sane (hsettled : q.Settled) (h : KeepsOrder q params) (hne : params ≠ [])
    (hvalid : validateMutableParamKeys params = .ok ()) :
    let new := QuotaParams.overlay ⟨none, none, none⟩ params q
    SaneThresholds q.hard (new.soft.getD q.soft) (new.advisory.getD q.advisory)
      (new.softGrace.getD q.softGrace) := by
  have hhard := h.hard hne
  obtain ⟨hsoft0, hsoft, hadvisory0, hadvisory, _⟩ := hsettled.resolve_right fun hx => by omega
  have hlimit : ∀ key (old : Int), (∀ n, given params key = some n → n < 100 ∧ n * q.hard < 2 ^ 63) →
      0 ≤ old → old < q.hard →
      0 ≤ (((given params key).map (percentOf · q.hard)).or none).getD old ∧
        (((given params key).map (percentOf · q.hard)).or none).getD old < q.hard := by
    intro key old hkey hold0 hold
    cases hn : given params key with
    | none => exact ⟨hold0, hold⟩
    | some n =>
      have hnonneg := given_nonneg hvalid hn
      obtain ⟨hlt, hmax⟩ := hkey n hn
      exact ⟨percentOf_nonneg hnonneg hhard.le hmax, percentOf_lt hnonneg hlt hhard hmax⟩
  obtain ⟨hs0, hs⟩ := hlimit "SoftLimit" q.soft h.soft hsoft0 hsoft
  obtain ⟨ha0, ha⟩ := hlimit "AdvisoryLimit" q.advisory h.advisory hadvisory0 hadvisory
  refine ⟨hs0, hs, ha0, ha, fun hsoft' => ?_⟩
  have hgrace : 0 < (given params "SoftGracePrd").getD q.softGrace := by
    apply h.grace
    intro hzero
    apply hsoft'
    cases hn : given params "SoftLimit" with
    | none => simpa [QuotaParams.overlay, hn] using hzero
    | some n =>
      obtain rfl : n = 0 := by simpa [hn] using hzero
      simp [QuotaParams.overlay, hn, percentOf]
  simpa [QuotaParams.overlay] using hgrace

theorem sends_rename (h : U s c) : sends array F U (rename c f) s := by
  refine sends_bind_any (sends_ask h) fun r t => ?_
  cases r <;> trivial

theorem modifyLimits_sends (hq : q ∈ s.quotas) (hsettled : q.Settled) (h : KeepsOrder q params)
    (hnodup : (params.map Prod.fst).Nodup) :
    sends array F SendsSane (modifyLimits volumeID params q) s := by
  unfold modifyLimits
  split
  · trivial
  next hne =>
  cases hvalid : validateMutableParamKeys params with
  | error e => trivial
  | ok _ =>
    rw [ofExcept_ok, ret_bind]
    cases hnew : convertMutableParams volumeID q params with
    | error e => trivial
    | ok new =>
      rw [ofExcept_ok, ret_bind]
      obtain ⟨_, _, rfl⟩ := (convertMutableParams_ok hvalid hnodup).1 hnew
      split
      · refine sends_bind_any (sends_attempt.2 (sends_rename fun r hr => ?_)) fun r t => ?_
        · obtain rfl := Option.some.inj ((quotaById_of_mem hq).symm.trans hr)
          exact overlay_sane hsettled h hne hvalid
        · cases r <;> trivial
      · trivial

theorem grown_sane {q : Quota} (h : SaneThresholds q.hard q.soft q.advisory q.softGrace) (hn : q.hard < n)
    (hmax : n < 2 ^ 63) :
    SaneThresholds n (scaleLimit q.soft n q.hard) (scaleLimit q.advisory n q.hard) q.softGrace := by
  have hhard : 0 < q.hard := h.soft_nonneg.trans_lt h.soft_lt
  have hscale : ∀ l, 0 ≤ l → l < q.hard →
      scaleLimit l n q.hard = l * (n / q.hard) ∧ 0 ≤ scaleLimit l n q.hard ∧
        scaleLimit l n q.hard < n := by
    intro l hl0 hl
    have hgrow : 0 ≤ n / q.hard := Int.ediv_nonneg (by omega) hhard.le
    have hnonneg : 0 ≤ l * (n / q.hard) := Int.mul_nonneg hl0 hgrow
    have hlt := mul_growth_lt hhard hl hn.le
    rw [scaleLimit_eq (by omega), wrap_eq_iff.2 ⟨by omega, by omega⟩]
    exact ⟨rfl, hnonneg, hlt⟩
  obtain ⟨hsoft, hs0, hs⟩ := hscale _ h.soft_nonneg h.soft_lt
  obtain ⟨_, ha0, ha⟩ := hscale _ h.advisory_nonneg h.advisory_lt
  refine ⟨hs0, hs, ha0, ha, fun hne => h.grace ?_⟩
  rintro hzero
  apply hne
  rw [hsoft, hzero, zero_mul]

theorem expandQuota_sends (h : q.Settled) (hmax : n < 2 ^ 63) :
    sends array F SendsSane (expandQuota svc volName n (.ok q)) s := by
  unfold expandQuota
  dsimp only
  split
  · trivial
  next hn =>
  split
  · trivial
  next hzero =>
  have hsane := h.resolve_right fun hx => hzero hx.1
  refine sends_bind_any (sends_attempt.2 (sends_op ?_)) fun r t => ?_
  · exact grown_sane hsane (not_le.1 hn) hmax
  · cases r <;> trivial

section Lookup

variable {svc : Service} {s : OneFS} {volumeID : Str} {v : VolumeID} {F : Faults Call Err OneFS}

theorem readyCluster_yields : yields (fun x => svc.getIsilonConfig clusterName = .ok x ∧
      (x.2.isiSvc = true ∨ svc.autoProbeEnabled = true)) (readyCluster svc clusterName notReady) := by
  refine yields_bind (yields_ofExcept _) fun x hx => ?_
  by_cases hready : x.2.isiSvc = true ∨ svc.autoProbeEnabled = true
  · refine yields_bind_any fun r => ?_
    cases r with
    | ok _ => exact ⟨hx, hready⟩
    | error e => trivial
  · obtain ⟨e, he⟩ := Service.autoProbe_unready hready
    simp [he]

theorem readyCluster_reads : uses Call.IsRead (readyCluster svc clusterName notReady) := by
  refine uses_bind (uses_ofExcept _) fun x => ?_
  refine uses_attempt_bind (autoProbe_uses trivial _) fun r => ?_
  cases r <;> trivial

theorem readExportPath_reads : uses Call.IsRead (readExportPath v) := by
  refine uses_ask_bind trivial fun r => ?_
  split <;> trivial

theorem locateQuota_reads : uses Call.IsRead (locateQuota v exportPath b) := by
  unfold locateQuota
  split
  · exact getQuotaByPath_uses (fun _ => id) _
  · exact getVolumeQuota_uses (fun _ => id) _

theorem sends_reads (h : uses Call.IsRead q) : sends array F SendsSane q s :=
  sends_of_uses h fun c t hc => by cases c <;> first | exact hc.elim | trivial

theorem locateQuota_finds (hfound : s.exportById v.exportID v.accessZone = some e) :
    wp array F (locateQuota v exportPath b) (fun r t => t = s ∧
      ∀ q, r = .ok q → s.volumeQuota v.volName e exportPath b = some q) s := by
  cases b with
  | true =>
    simp only [locateQuota, if_true, getQuotaByPath, rename, wp_bind, wp_ask,
      array_act, OneFS.serve, volumeQuota]
    cases s.quotaAt (getPathForVolume exportPath v.volName) <;> simp [OneFS.reply]
  | false =>
    simp only [locateQuota, Bool.false_eq_true, if_false, getVolumeQuota, wp_bind, wp_ask,
      array_act, OneFS.serve, hfound, Option.map_some, OneFS.reply, volumeQuota]
    by_cases htag : getQuotaIDFromDescription e = []
    · simp [htag]
    · cases hq : s.quotaById (getQuotaIDFromDescription e) <;>
        simp [htag, hq, wp_op, array_act, OneFS.serve, OneFS.reply]

theorem sends_lookup {f : Except Err Quota → IsiM α}
    (hparse : parseNormalizedVolumeID volumeID = .ok v)
    (hcfg : svc.getIsilonConfig v.clusterName = .ok (name, cfg))
    (hready : cfg.isiSvc = true ∨ svc.autoProbeEnabled = true)
    (hok : ∀ e q, Finds svc s volumeID v cfg e q → sends array F SendsSane (f (.ok q)) s)
    (herr : ∀ e, sends array F SendsSane (f (.error e)) s) :
    sends array F SendsSane (do
      let exportPath ← readExportPath v
      let r ← attempt (locateQuota v exportPath
        (isDirectoryBacked volumeID exportPath cfg.isiPath v.volName))
      f r) s := by
  refine sends_bind (sends_reads readExportPath_reads) ?_
  unfold readExportPath
  simp only [wp_bind, wp_ask, array_act, OneFS.serve]
  cases hfound : s.exportById v.exportID v.accessZone with
  | none => simp [OneFS.reply]
  | some e =>
    simp only [Option.map_some, OneFS.reply, andThen_ok, wp_ret]
    refine ⟨?_, fun err _ => by rintro a ⟨⟩⟩
    rintro path ⟨⟩
    refine sends_bind (sends_attempt.2 (sends_reads locateQuota_reads)) ?_
    rw [wp_attempt]
    refine wp_mono (locateQuota_finds hfound) ?_
    rintro r t ⟨rfl, hr⟩ a ⟨⟩
    cases r with
    | error err => exact herr err
    | ok q => exact hok e q ⟨hparse, ⟨name, hcfg⟩, hready, hfound, hr q rfl⟩

theorem sends_ready
    (hf : ∀ x, svc.getIsilonConfig clusterName = .ok x → x.2.isiSvc = true ∨ svc.autoProbeEnabled
      = true → sends array F SendsSane (f x) s) :
    sends array F SendsSane (readyCluster svc clusterName notReady >>= f) s := by
  have hstate : wp array F (readyCluster svc clusterName notReady) (fun _ t => t = s) s :=
    wp_of_uses readyCluster_reads (fun c t hc ht => (hc.serve t).trans ht) rfl
  refine sends_bind (sends_reads readyCluster_reads) ?_
  refine wp_mono (wp_and hstate (wp_of_yields readyCluster_yields)) ?_
  rintro r t ⟨rfl, hr⟩ x rfl
  exact hf x (hr x rfl).1 (hr x rfl).2

end Lookup

inductive Change
  | expand (requiredBytes : Int)
  | modify (mutableParams : Params)

def Change.request (svc : Service) (volumeID : Str) : Change → IsiM Unit
  | expand requiredBytes => do
    let _ ← controllerExpandVolume svc volumeID requiredBytes
  | modify mutableParams => controllerModifyVolume svc volumeID mutableParams

/-- When a change keeps the thresholds in order. A quota older than the volume, with a number below
`n`, must have its thresholds in order already; the mutable parameters must suit the quota. -/
def Change.Sound (svc : Service) (n : Nat) (volumeID : Str) (s : OneFS) : Change → Prop
  | expand requiredBytes => requiredBytes < 2 ^ 63 ∧
      ∀ v cfg e q, Finds svc s volumeID v cfg e q → q.num < n → q.Settled
  | modify mutableParams => (mutableParams.map Prod.fst).Nodup ∧
      ∀ v cfg e q, Finds svc s volumeID v cfg e q →
        (q.num < n → q.Settled) ∧ KeepsOrder q mutableParams

theorem Change.sends {c : Change} (hs : s.SettledFrom n) (h : c.Sound svc n volumeID s) :
    sends array F SendsSane (c.request svc volumeID) s := by
  have hsettled : ∀ q ∈ s.quotas, (q.num < n → q.Settled) → q.Settled := by
    intro q hq hold
    rcases Nat.lt_or_ge q.num n with hlt | hge
    · exact hold hlt
    · exact hs q hq hge
  cases c with
  | expand requiredBytes =>
    refine sends_bind_any ?_ fun _ _ => trivial
    unfold controllerExpandVolume
    cases hparse : parseNormalizedVolumeID volumeID with
    | error e => trivial
    | ok v =>
      refine sends_ready fun x hcfg hready => ?_
      refine sends_lookup hparse hcfg hready (fun e q hq => ?_) fun e => ?_
      · exact expandQuota_sends (hsettled q hq.mem (h.2 v _ e q hq)) h.1
      · unfold expandQuota
        dsimp only
        split <;> trivial
  | modify mutableParams =>
    unfold Change.request controllerModifyVolume
    dsimp only
    split
    · trivial
    cases hparse : parseNormalizedVolumeID volumeID with
    | error e => trivial
    | ok v =>
      refine sends_ready fun x hcfg hready => ?_
      split
      · trivial
      · refine sends_lookup hparse hcfg hready (fun e q hq => ?_) fun e => trivial
        obtain ⟨hold, hkeeps⟩ := h.2 v _ e q hq
        exact modifyLimits_sends hq.mem (hsettled q hq.mem hold) hkeeps h.1

/-- The states after `CreateVolume` has returned a volume and any number of its changes have
succeeded, each of them sound in the state that it found. -/
inductive ReachedFrom (svc : Service) (req : CreateVolumeRequest) (s : OneFS) : Volume → OneFS → Prop
  | created : Outcome array .any (createVolume svc req) s (.ok (some vol)) t →
      ReachedFrom svc req s vol t
  | changed {c : Change} : ReachedFrom svc req s vol t → c.Sound svc s.quotas.next vol.volumeID t →
      Outcome array .any (c.request svc vol.volumeID) t (.ok ()) u → ReachedFrom svc req s vol u

theorem ReachedFrom.settled (hreq : req.SoundLimits) (h : ReachedFrom svc req s vol t) :
    t.SettledFrom s.quotas.next := by
  induction h with
  | created hrun =>
    exact wp_iff_outcome.1 (wp_of_sends (createVolume_sends hreq) (fun c t hc ht => ht.serve hc)
      s.settledFrom_start) _ _ hrun
  | changed _ hc hrun ih =>
    exact wp_iff_outcome.1 (wp_of_sends (Change.sends ih hc) (fun c t hc ht => ht.serve hc) ih) _ _
      hrun

/-- Whichever requests fail, all thresholds that the driver sends for a volume are in order, in
every run in which its creation and the later changes are sound. -/
theorem thresholds_sane {svc : Service} {req : CreateVolumeRequest} (hreq : req.SoundLimits)
    (s : OneFS) : sends array .any SendsSane (createVolume svc req) s ∧
      ∀ vol t, ReachedFrom svc req s vol t → ∀ c : Change, c.Sound svc s.quotas.next vol.volumeID t →
        sends array .any SendsSane (c.request svc vol.volumeID) t := by
  refine ⟨createVolume_sends hreq, fun vol t ht c hc => ?_⟩
  exact Change.sends (ht.settled hreq) hc

def limitedRequest : CreateVolumeRequest :=
  { newVolume "vol1" with parameters := [("SoftLimit", "80"), ("SoftGracePrd", "86400")] }

def withLimits : OneFS := (run array (createVolume oneCluster limitedRequest) .fresh).2

theorem limitedRequest_sound : limitedRequest.SoundLimits := by
  intro size soft advisory grace hsize hlimits
  have hvalid : validateCreateVolumeRequest limitedRequest = .ok 1024 := by decide
  obtain rfl := Except.ok.inj (hvalid.symm.trans hsize)
  have hread : readQuotaLimitParams limitedRequest.parameters limitedRequest.mutableParameters =
      (("80" : Str), ([] : Str), ("86400" : Str)) := by decide
  obtain ⟨rfl, rfl, rfl⟩ : ("80" : Str) = soft ∧ ([] : Str) = advisory ∧ ("86400" : Str) = grace := by
    simpa only [Prod.mk.injEq] using hread.symm.trans hlimits
  have hsoft : parseInt64 "80" = some 80 := by decide
  have hgrace : parseInt64 "86400" = some 86400 := by decide
  refine ⟨fun n hn => ?_, fun n hn => ?_, fun n hn => ?_⟩
  · obtain rfl := Option.some.inj (hsoft.symm.trans hn)
    exact ⟨by decide, by decide⟩
  · cases hn
  · obtain rfl := Option.some.inj (hgrace.symm.trans hn)
    decide

theorem createVolume_limited : ∃ vol : Volume, vol.volumeID = "vol1=_=_=1=_=_=System=_=_=c1" ∧
    Outcome array .any (createVolume oneCluster limitedRequest) .fresh (.ok (some vol)) withLimits := by
  obtain ⟨vol, hvol, hid⟩ : ∃ vol : Volume,
      (run array (createVolume oneCluster limitedRequest) .fresh).1 = .ok (some vol) ∧
        vol.volumeID = "vol1=_=_=1=_=_=System=_=_=c1" := ⟨_, rfl, by decide⟩
  exact ⟨vol, hid, .of_run (Prod.ext hvol rfl)⟩

theorem thresholds_sane_lowered : sends array .any SendsSane
      (controllerModifyVolume oneCluster "vol1=_=_=1=_=_=System=_=_=c1" [("SoftLimit", "50")])
      withLimits := by
  obtain ⟨vol, hid, hrun⟩ := createVolume_limited
  rw [← hid]
  refine (thresholds_sane limitedRequest_sound _).2 vol _ (.created hrun)
    (.modify [("SoftLimit", "50")]) ⟨by decide, ?_⟩
  intro v cfg e q hq
  have hmem : q ∈ withLimits.quotas.rows := hq.mem
  obtain rfl : q = ⟨0, "/ifs/data/vol1", 1024, 819, 0, 86400⟩ := by
    have hrows : withLimits.quotas.rows = [⟨0, "/ifs/data/vol1", 1024, 819, 0, 86400⟩] := by decide
    rw [hrows] at hmem
    exact List.mem_singleton.1 hmem
  have hgiven : given [("SoftLimit", "50")] "SoftLimit" = some 50 := by decide
  refine ⟨fun hn => absurd hn (Nat.not_lt_zero _), fun _ => by decide, fun n hn => ?_, ?_, ?_⟩
  · obtain rfl := Option.some.inj (hgiven.symm.trans hn)
    exact ⟨by decide, by decide⟩
  · rintro n ⟨⟩
  · decide

/-- A soft limit of 100 percent is accepted and sent: it reaches the hard limit. -/
theorem controllerModifyVolume_soft_reaches_hard :
    (∃ vol : Volume, vol.volumeID = "vol1=_=_=1=_=_=System=_=_=c1" ∧
      Outcome array .any (createVolume oneCluster limitedRequest) .fresh (.ok (some vol)) withLimits) ∧
    (run array (controllerModifyVolume oneCluster "vol1=_=_=1=_=_=System=_=_=c1"
      [("SoftLimit", "100")]) withLimits).1 = .ok () ∧
    ¬ sends array .any SendsSane (controllerModifyVolume oneCluster
      "vol1=_=_=1=_=_=System=_=_=c1" [("SoftLimit", "100")]) withLimits := by
  refine ⟨createVolume_limited, by decide, fun h => ?_⟩
  have hsent := calls_of_sends h (withLimits, .modifyQuota "0" (some 1024) none none) (by decide)
  exact absurd (hsent _ rfl).soft_lt (by decide)

end Controller

end CsiPowerscale
