import Mathlib.Data.Rat.Defs
import CsiPowerscale.DriverQuotas
import CsiPowerscale.Effects.Interleave

namespace CsiPowerscale.Collectors
open GoLib Effects

abbrev GaugeVec := List (List Str × ℚ)

namespace GaugeVec

def labels (v : GaugeVec) : List (List Str) := v.map Prod.fst

def setAll (v : GaugeVec) (series : List (List Str × ℚ)) : GaugeVec :=
  series.foldl (fun v x => assign v x.1 x.2) v

def deleteLabelValues (v : GaugeVec) (l : List Str) : GaugeVec := v.filter fun x => x.1 ≠ l

def deletePartialMatch (v : GaugeVec) (clusterName : Str) : GaugeVec :=
  v.filter fun x => x.1.head? ≠ some clusterName

def Shows (v : GaugeVec) (clusterName : Str) (items : List (List Str)) : Prop :=
  ∀ l, l.head? = some clusterName → (l ∈ v.labels ↔ l ∈ items)

theorem mem_setAll : l ∈ (setAll v series).labels ↔ l ∈ v.labels ∨ l ∈ series.map Prod.fst := by
  induction series generalizing v with
  | nil => simp [setAll]
  | cons x xs ih =>
    have hrest := ih (v := assign v x.1 x.2)
    rw [setAll, List.foldl_cons]
    refine hrest.trans ?_
    rw [labels, mem_keys_assign, List.map_cons, List.mem_cons, or_assoc]
    rfl

theorem shows_setAll_iff (v : GaugeVec) (clusterName : Str) (series : List (List Str × ℚ)) :
    (setAll v series).Shows clusterName (series.map Prod.fst) ↔
      ∀ l ∈ v.labels, l.head? = some clusterName → l ∈ series.map Prod.fst := by
  constructor
  · intro h l hl hhead
    exact (h l hhead).1 (mem_setAll.2 (.inl hl))
  · intro h l hhead
    rw [mem_setAll]
    exact ⟨fun hl => hl.elim (fun hl => h l hl hhead) fun hl => hl, .inr⟩

theorem shows_deletePartialMatch (v : GaugeVec) (clusterName : Str) :
    (v.deletePartialMatch clusterName).Shows clusterName [] := by
  intro l hhead
  refine iff_of_false (fun hl => ?_) List.not_mem_nil
  obtain ⟨x, hx, rfl⟩ := List.mem_map.1 hl
  exact of_decide_eq_true (List.mem_filter.1 hx).2 hhead

end GaugeVec

/-- A call of a collector; `Collect` comes with what it fetches. -/
inductive CollectorCall (φ : Type)
  | collect (fetched : φ)
  | cleanup

inductive QuotaMetric
  | volumeSizeBytes
  | quotaUsedBytes
  | quotaHardBytes
  | quotaRemaining
  | quotaUtilization

def QuotaMetric.value (q : QuotaInfo) : QuotaMetric → ℚ
  | volumeSizeBytes => q.hardBytes
  | quotaUsedBytes => q.usedBytes
  | quotaHardBytes => q.hardBytes
  | quotaRemaining => (q.hardBytes - q.usedBytes).bmod (2 ^ 64)
  | quotaUtilization => if 0 < q.hardBytes then q.usedBytes / q.hardBytes else 0

structure QuotaCollector where
  clusterName : Str
  volumeTotal : GaugeVec
  quotaBreachTotal : GaugeVec
  volumes : QuotaMetric → GaugeVec
  previousVolumeIDs : List (Str × Str)

namespace QuotaCollector

def itemLabels (clusterName : Str) (q : QuotaInfo) : List Str :=
  [clusterName, q.volumeID, q.accessZone]

/-- The zones of the volumes; of a volume with several, the last one. -/
def volumeIDs (quotas : List QuotaInfo) : List (Str × Str) :=
  quotas.foldl (fun m q => assign m q.volumeID q.accessZone) []

def deleteGone (clusterName : Str) (current : List (Str × Str)) (v : GaugeVec)
    (previous : List (Str × Str)) : GaugeVec :=
  previous.foldl (fun v x => if x.1 ∈ current.map Prod.fst then v
    else v.deleteLabelValues [clusterName, x.1, x.2]) v

def collect (c : QuotaCollector) (fetched : Option (Except Err (List QuotaInfo))) :
    Except Err Unit × QuotaCollector :=
  match fetched with
  | none => (.error (.plain "QuotaCollector: client is nil"), c)
  | some (.error e) =>
    (.error (.wrapped (sprintf ["QuotaCollector: failed to get quotas: ", e.text]) e), c)
  | some (.ok quotas) =>
    let current := volumeIDs quotas
    (.ok (), { c with
      volumeTotal := assign c.volumeTotal [c.clusterName] quotas.length
      volumes := fun m =>
        (deleteGone c.clusterName current (c.volumes m) c.previousVolumeIDs).setAll
          (quotas.map fun q => (itemLabels c.clusterName q, m.value q))
      quotaBreachTotal := assign c.quotaBreachTotal [c.clusterName]
        (quotas.filter QuotaInfo.hardExceeded).length
      previousVolumeIDs := current })

def cleanup (c : QuotaCollector) : QuotaCollector :=
  { c with
    volumeTotal := c.volumeTotal.deletePartialMatch c.clusterName
    quotaBreachTotal := c.quotaBreachTotal.deletePartialMatch c.clusterName
    volumes := fun m => (c.volumes m).deletePartialMatch c.clusterName }

theorem mem_deleteGone {clusterName : Str} {v : GaugeVec} :
    l ∈ (deleteGone clusterName current v previous).labels ↔ l ∈ v.labels ∧
      ∀ x ∈ previous, x.1 ∉ current.map Prod.fst → l ≠ [clusterName, x.1, x.2] := by
  induction previous generalizing v with
  | nil => simp [deleteGone]
  | cons x xs ih =>
    rw [deleteGone, List.foldl_cons]
    split
    · next h =>
      refine ih.trans ?_
      simp only [List.forall_mem_cons, h, not_true_eq_false, false_implies, true_and]
    next h =>
    refine ih.trans ?_
    rw [List.forall_mem_cons, GaugeVec.labels, GaugeVec.labels, GaugeVec.deleteLabelValues,
      List.mem_map, List.mem_map]
    simp only [List.mem_filter, decide_eq_true_eq]
    constructor
    · rintro ⟨⟨y, ⟨hy, hne⟩, rfl⟩, hxs⟩
      exact ⟨⟨y, hy, rfl⟩, fun _ => hne, hxs⟩
    · rintro ⟨⟨y, hy, rfl⟩, hne, hxs⟩
      exact ⟨⟨y, ⟨hy, hne h⟩, rfl⟩, hxs⟩

theorem mem_volumeIDs {quotas : List QuotaInfo} :
    vol ∈ (volumeIDs quotas).map Prod.fst ↔ ∃ q ∈ quotas, q.volumeID = vol := by
  have hfold (m : List (Str × Str)) :
      vol ∈ (quotas.foldl (fun m q => assign m q.volumeID q.accessZone) m).map Prod.fst ↔
        vol ∈ m.map Prod.fst ∨ ∃ q ∈ quotas, q.volumeID = vol := by
    induction quotas generalizing m with
    | nil => simp
    | cons q qs ih =>
      rw [List.foldl_cons, ih, mem_keys_assign, or_assoc]
      simp [eq_comm]
  simpa [volumeIDs] using hfold []

theorem collect_shows_iff (c : QuotaCollector) (quotas : List QuotaInfo) (m : QuotaMetric) :
    ((c.collect (some (.ok quotas))).2.volumes m).Shows c.clusterName
        (quotas.map (itemLabels c.clusterName)) ↔
      ∀ l ∈ (c.volumes m).labels, l.head? = some c.clusterName →
        l ∈ quotas.map (itemLabels c.clusterName) ∨
        ∃ x ∈ c.previousVolumeIDs, (∀ q ∈ quotas, q.volumeID ≠ x.1) ∧
          l = [c.clusterName, x.1, x.2] := by
  have hseries : quotas.map (itemLabels c.clusterName) =
      (quotas.map fun q => (itemLabels c.clusterName q, m.value q)).map Prod.fst := by
    rw [List.map_map]
    rfl
  rw [hseries]
  refine (GaugeVec.shows_setAll_iff _ _ _).trans ?_
  simp only [mem_deleteGone, mem_volumeIDs]
  refine forall_congr' fun l => ?_
  constructor
  · intro h hl hhead
    by_contra hno
    rw [not_or] at hno
    refine hno.1 (h ⟨hl, fun x hx hgone heq => hno.2 ⟨x, hx, fun q hq hvol => ?_, heq⟩⟩ hhead)
    exact hgone ⟨q, hq, hvol⟩
  · rintro h ⟨hl, hkept⟩ hhead
    rcases h hl hhead with hmem | ⟨x, hx, hgone, heq⟩
    · exact hmem
    · refine absurd heq (hkept x hx ?_)
      rintro ⟨q, hq, hvol⟩
      exact hgone q hq hvol

def after (c : QuotaCollector) :
    CollectorCall (Option (Except Err (List QuotaInfo))) → QuotaCollector
  | .collect fetched => (c.collect fetched).2
  | .cleanup => c.cleanup

/-- A collection that succeeds leaves the series of the quotas fetched, a clean-up leaves none. -/
def Matches (m : QuotaMetric) (c : QuotaCollector) :
    CollectorCall (Option (Except Err (List QuotaInfo))) → Prop
  | .collect (some (.ok quotas)) => ((c.collect (some (.ok quotas))).2.volumes m).Shows
      c.clusterName (quotas.map (itemLabels c.clusterName))
  | .collect _ => True
  | .cleanup => (c.cleanup.volumes m).Shows c.clusterName []

def lastFetch (quotas : List QuotaInfo) :
    CollectorCall (Option (Except Err (List QuotaInfo))) → List QuotaInfo
  | .collect (some (.ok fetched)) => fetched
  | .collect _ => quotas
  | .cleanup => []

/-- Each quota of the last fetch is fetched again in its zone, or its volume is gone, and then it
was the only zone the last fetch had for the volume, or the last one. -/
def Follows (quotas : List QuotaInfo) :
    CollectorCall (Option (Except Err (List QuotaInfo))) → Prop
  | .collect (some (.ok fetched)) => ∀ q ∈ quotas,
      (∃ q' ∈ fetched, q'.volumeID = q.volumeID ∧ q'.accessZone = q.accessZone) ∨
      (∀ q' ∈ fetched, q'.volumeID ≠ q.volumeID) ∧
        (q.volumeID, q.accessZone) ∈ volumeIDs quotas
  | _ => True

instance (quotas : List QuotaInfo) : DecidablePred (Follows quotas)
  | .collect (some (.ok fetched)) => inferInstanceAs (Decidable (∀ q ∈ quotas,
      (∃ q' ∈ fetched, q'.volumeID = q.volumeID ∧ q'.accessZone = q.accessZone) ∨
      (∀ q' ∈ fetched, q'.volumeID ≠ q.volumeID) ∧ (q.volumeID, q.accessZone) ∈ volumeIDs quotas))
  | .collect (some (.error _)) | .collect none | .cleanup => .isTrue trivial

structure Tracks (clusterName : Str) (m : QuotaMetric) (c : QuotaCollector)
    (quotas : List QuotaInfo) : Prop where
  name : c.clusterName = clusterName
  shows : (c.volumes m).Shows clusterName (quotas.map (itemLabels clusterName))
  previous : quotas ≠ [] → c.previousVolumeIDs = volumeIDs quotas

variable {clusterName : Str} {m : QuotaMetric} {c : QuotaCollector} {quotas : List QuotaInfo}

theorem Tracks.collect_iff (h : Tracks clusterName m c quotas) (fetched : List QuotaInfo) :
    c.Matches m (.collect (some (.ok fetched))) ↔ Follows quotas (.collect (some (.ok fetched))) := by
  obtain ⟨rfl, hshows, hprev⟩ := h
  refine (c.collect_shows_iff fetched m).trans ?_
  constructor
  · intro hall q hq
    have hl : itemLabels c.clusterName q ∈ (c.volumes m).labels :=
      (hshows _ rfl).2 (List.mem_map_of_mem hq)
    rcases hall _ hl rfl with hmem | ⟨x, hx, hgone, heq⟩
    · obtain ⟨q', hq', heq⟩ := List.mem_map.1 hmem
      injection heq with _ heq
      injection heq with hvol heq
      injection heq with hzone _
      exact .inl ⟨q', hq', hvol, hzone⟩
    · injection heq with _ heq
      injection heq with hvol heq
      injection heq with hzone _
      rw [hprev (List.ne_nil_of_mem hq)] at hx
      rw [hvol, hzone]
      exact .inr ⟨hgone, hx⟩
  · intro hall l hl hhead
    obtain ⟨q, hq, rfl⟩ := List.mem_map.1 ((hshows l hhead).1 hl)
    rcases hall q hq with ⟨q', hq', hvol, hzone⟩ | ⟨hgone, hlast⟩
    · refine .inl (List.mem_map.2 ⟨q', hq', ?_⟩)
      rw [itemLabels, itemLabels, hvol, hzone]
    · rw [← hprev (List.ne_nil_of_mem hq)] at hlast
      exact .inr ⟨_, hlast, hgone, rfl⟩

theorem Tracks.step (h : Tracks clusterName m c quotas)
    (call : CollectorCall (Option (Except Err (List QuotaInfo)))) :
    (c.Matches m call ↔ Follows quotas call) ∧
      (Follows quotas call → Tracks clusterName m (c.after call) (lastFetch quotas call)) := by
  match call with
  | .collect none | .collect (some (.error _)) => exact ⟨Iff.rfl, fun _ => h⟩
  | .collect (some (.ok fetched)) =>
    refine ⟨h.collect_iff fetched, fun hfollows => ?_⟩
    have hshows := (h.collect_iff fetched).2 hfollows
    obtain ⟨rfl, -, -⟩ := h
    exact ⟨rfl, hshows, fun _ => rfl⟩
  | .cleanup =>
    have hnone := GaugeVec.shows_deletePartialMatch (c.volumes m) c.clusterName
    refine ⟨iff_of_true hnone trivial, fun _ => ?_⟩
    obtain ⟨rfl, -, -⟩ := h
    exact ⟨rfl, hnone, fun hne => absurd rfl hne⟩

end QuotaCollector

structure NodePoolInfo where
  id : Int
  name : Str
  total : Int
  used : Int
  avail : Int
  usable : Int
  protectionPolicy : Str
  tier : Str

inductive NodePoolMetric
  | capacity
  | utilization
  | protection
  | tier

def NodePoolMetric.series (clusterName : Str) (np : NodePoolInfo) :
    NodePoolMetric → List (List Str × ℚ)
  | capacity => [([clusterName, itoa np.id, np.name, "total"], np.total),
      ([clusterName, itoa np.id, np.name, "used"], np.used),
      ([clusterName, itoa np.id, np.name, "avail"], np.avail),
      ([clusterName, itoa np.id, np.name, "usable"], np.usable)]
  | utilization =>
    [([clusterName, itoa np.id, np.name], if 0 < np.total then np.used / np.total * 100 else 0)]
  | protection => [([clusterName, itoa np.id, np.name, np.protectionPolicy], 1)]
  | tier => [([clusterName, itoa np.id, np.name, np.tier], 1)]

structure NodePoolCollector where
  clusterName : Str
  pools : NodePoolMetric → GaugeVec

namespace NodePoolCollector

def collect (c : NodePoolCollector) (fetched : Option (Except Err (List NodePoolInfo))) :
    Except Err Unit × NodePoolCollector :=
  match fetched with
  | none => (.error (.plain "NodePoolCollector: client is nil"), c)
  | some (.error e) =>
    (.error (.wrapped (sprintf ["NodePoolCollector: failed to get node pools: ", e.text]) e), c)
  | some (.ok nodePools) =>
    (.ok (), { c with pools := fun m => (c.pools m).setAll (nodePools.flatMap fun np =>
      m.series c.clusterName np) })

def cleanup (c : NodePoolCollector) : NodePoolCollector :=
  { c with pools := fun m => (c.pools m).deletePartialMatch c.clusterName }

def after (c : NodePoolCollector) :
    CollectorCall (Option (Except Err (List NodePoolInfo))) → NodePoolCollector
  | .collect fetched => (c.collect fetched).2
  | .cleanup => c.cleanup

def itemLabels (clusterName : Str) (k : NodePoolMetric) (pools : List NodePoolInfo) :
    List (List Str) :=
  (pools.flatMap fun np => k.series clusterName np).map Prod.fst

def Matches (k : NodePoolMetric) (c : NodePoolCollector) :
    CollectorCall (Option (Except Err (List NodePoolInfo))) → Prop
  | .collect (some (.ok pools)) => ((c.collect (some (.ok pools))).2.pools k).Shows c.clusterName
      (itemLabels c.clusterName k pools)
  | .collect _ => True
  | .cleanup => (c.cleanup.pools k).Shows c.clusterName []

def lastFetch (pools : List NodePoolInfo) :
    CollectorCall (Option (Except Err (List NodePoolInfo))) → List NodePoolInfo
  | .collect (some (.ok fetched)) => fetched
  | .collect _ => pools
  | .cleanup => []

/-- Nothing the last fetch has labels for is missing or has other labels in the next one. -/
def Follows (clusterName : Str) (k : NodePoolMetric) (pools : List NodePoolInfo) :
    CollectorCall (Option (Except Err (List NodePoolInfo))) → Prop
  | .collect (some (.ok fetched)) => itemLabels clusterName k pools ⊆ itemLabels clusterName k fetched
  | _ => True

instance (clusterName : Str) (k : NodePoolMetric) (pools : List NodePoolInfo) :
    DecidablePred (Follows clusterName k pools)
  | .collect (some (.ok fetched)) => inferInstanceAs
      (Decidable (itemLabels clusterName k pools ⊆ itemLabels clusterName k fetched))
  | .collect (some (.error _)) | .collect none | .cleanup => .isTrue trivial

structure Tracks (clusterName : Str) (k : NodePoolMetric) (c : NodePoolCollector)
    (pools : List NodePoolInfo) : Prop where
  name : c.clusterName = clusterName
  shows : (c.pools k).Shows clusterName (itemLabels clusterName k pools)

theorem head_itemLabels {clusterName : Str} {pools : List NodePoolInfo}
    (h : l ∈ itemLabels clusterName k pools) : l.head? = some clusterName := by
  obtain ⟨x, hx, rfl⟩ := List.mem_map.1 h
  obtain ⟨np, -, hx⟩ := List.mem_flatMap.1 hx
  cases k <;> simp only [NodePoolMetric.series, List.mem_cons, List.not_mem_nil, or_false] at hx
  case capacity => rcases hx with rfl | rfl | rfl | rfl <;> rfl
  all_goals
    subst hx
    rfl

theorem Tracks.step {clusterName : Str} {k : NodePoolMetric} {c : NodePoolCollector}
    {pools : List NodePoolInfo} (h : Tracks clusterName k c pools)
    (call : CollectorCall (Option (Except Err (List NodePoolInfo)))) :
    (c.Matches k call ↔ Follows clusterName k pools call) ∧
      (Follows clusterName k pools call →
        Tracks clusterName k (c.after call) (lastFetch pools call)) := by
  obtain ⟨rfl, hshows⟩ := h
  match call with
  | .collect none | .collect (some (.error _)) => exact ⟨Iff.rfl, fun _ => ⟨rfl, hshows⟩⟩
  | .collect (some (.ok fetched)) =>
    have hiff : c.Matches k (.collect (some (.ok fetched))) ↔
        Follows c.clusterName k pools (.collect (some (.ok fetched))) := by
      refine (GaugeVec.shows_setAll_iff _ _ _).trans ?_
      constructor
      · intro hall l hl
        exact hall l ((hshows l (head_itemLabels hl)).2 hl) (head_itemLabels hl)
      · intro hall l hl hhead
        exact hall ((hshows l hhead).1 hl)
    exact ⟨hiff, fun hfollows => ⟨rfl, hiff.2 hfollows⟩⟩
  | .cleanup =>
    have hnone := GaugeVec.shows_deletePartialMatch (c.pools k) c.clusterName
    exact ⟨iff_of_true hnone trivial, fun _ => ⟨rfl, hnone⟩⟩

end NodePoolCollector

structure AccessControlCollector where
  clusterName : Str
  zoneTotal : GaugeVec
  exportTotal : GaugeVec
  authFailureTotal : GaugeVec
  permissionDenialTotal : GaugeVec

namespace AccessControlCollector

def countExports (clusterName : Str) :
    GaugeVec → List (Str × Except Err Int) → Except Err Unit × GaugeVec
  | v, [] => (.ok (), v)
  | v, (z, .ok count) :: zs => countExports clusterName (assign v [clusterName, z] count) zs
  | v, (z, .error e) :: _ =>
    (.error (.wrapped (sprintf
      ["AccessControlCollector: failed to get exports for zone \"", z, "\": ", e.text]) e), v)

variable (c : AccessControlCollector)

def collect (fetched : Except Err (List (Str × Except Err Int))) :
    Except Err Unit × AccessControlCollector :=
  match fetched with
  | .error e =>
    (.error (.wrapped (sprintf ["AccessControlCollector: failed to get zones: ", e.text]) e), c)
  | .ok zones =>
    let r := countExports c.clusterName c.exportTotal zones
    (r.1, { c with
      zoneTotal := assign c.zoneTotal [c.clusterName] zones.length
      exportTotal := r.2 })

def cleanup : AccessControlCollector :=
  { c with
    zoneTotal := c.zoneTotal.deletePartialMatch c.clusterName
    exportTotal := c.exportTotal.deletePartialMatch c.clusterName
    authFailureTotal := c.authFailureTotal.deletePartialMatch c.clusterName
    permissionDenialTotal := c.permissionDenialTotal.deletePartialMatch c.clusterName }

def after :
    CollectorCall (Except Err (List (Str × Except Err Int))) → AccessControlCollector
  | .collect fetched => (c.collect fetched).2
  | .cleanup => c.cleanup

/-- The zones that are counted before the first that fails. -/
def counted (zones : List (Str × Except Err Int)) : List Str :=
  (zones.takeWhile fun z => z.2.isOk).map Prod.fst

def itemLabels (clusterName : Str) (zones : List Str) : List (List Str) :=
  zones.map fun z => [clusterName, z]

def Matches :
    CollectorCall (Except Err (List (Str × Except Err Int))) → Prop
  | .collect (.ok zones) => (c.collect (.ok zones)).1 = .ok () →
      (c.collect (.ok zones)).2.exportTotal.Shows c.clusterName
        (itemLabels c.clusterName (zones.map Prod.fst))
  | .collect (.error _) => True
  | .cleanup => c.cleanup.exportTotal.Shows c.clusterName []

/-- The zones that are shown: a collection that fails on the way adds those it has counted. -/
def shownAfter (shown : List Str) :
    CollectorCall (Except Err (List (Str × Except Err Int))) → List Str
  | .collect (.ok zones) =>
    if ∀ z ∈ zones, z.2.isOk = true then zones.map Prod.fst else shown ++ counted zones
  | .collect (.error _) => shown
  | .cleanup => []

/-- A fetch of which every zone is counted has all zones that are shown. -/
def Follows (shown : List Str) : CollectorCall (Except Err (List (Str × Except Err Int))) → Prop
  | .collect (.ok zones) => (∀ z ∈ zones, z.2.isOk = true) → shown ⊆ zones.map Prod.fst
  | _ => True

instance (shown : List Str) : DecidablePred (Follows shown)
  | .collect (.ok zones) => inferInstanceAs
      (Decidable ((∀ z ∈ zones, z.2.isOk = true) → shown ⊆ zones.map Prod.fst))
  | .collect (.error _) | .cleanup => .isTrue trivial

structure Tracks (clusterName : Str) (c : AccessControlCollector) (shown : List Str) : Prop where
  name : c.clusterName = clusterName
  shows : c.exportTotal.Shows clusterName (itemLabels clusterName shown)

variable {clusterName : Str} {zones : List (Str × Except Err Int)}

theorem countExports_ok_iff :
    (countExports clusterName v zones).1 = .ok () ↔ ∀ z ∈ zones, z.2.isOk = true := by
  induction zones generalizing v with
  | nil => exact iff_of_true rfl (List.forall_mem_nil _)
  | cons z zs ih =>
    rw [List.forall_mem_cons]
    obtain ⟨z, e | n⟩ := z
    · exact iff_of_false (fun h => by cases h) fun h => by cases h.1
    · exact ih.trans (and_iff_right rfl).symm

theorem mem_countExports : l ∈ (countExports clusterName v zones).2.labels ↔
    l ∈ v.labels ∨ l ∈ itemLabels clusterName (counted zones) := by
  induction zones generalizing v with
  | nil => simp [countExports, counted, itemLabels]
  | cons z zs ih =>
    obtain ⟨z, e | n⟩ := z
    · simp [countExports, counted, itemLabels, Except.isOk, Except.toBool]
    · refine ih.trans ?_
      rw [GaugeVec.labels, mem_keys_assign, or_assoc]
      simp [GaugeVec.labels, counted, itemLabels, Except.isOk, Except.toBool]

theorem counted_of_ok (h : ∀ z ∈ zones, z.2.isOk = true) : counted zones = zones.map Prod.fst := by
  rw [counted, List.takeWhile_eq_self_iff.2 h]

theorem mem_itemLabels : [clusterName, z] ∈ itemLabels clusterName shown ↔ z ∈ shown := by
  simp [itemLabels]

variable {c : AccessControlCollector} {shown : List Str}

theorem Tracks.collect_ok_iff (h : Tracks clusterName c shown)
    (hok : ∀ z ∈ zones, z.2.isOk = true) :
    (c.collect (.ok zones)).2.exportTotal.Shows clusterName
      (itemLabels clusterName (zones.map Prod.fst)) ↔ shown ⊆ zones.map Prod.fst := by
  obtain ⟨rfl, hshows⟩ := h
  have hlabels (l : List Str) : l ∈ (c.collect (.ok zones)).2.exportTotal.labels ↔
      l ∈ c.exportTotal.labels ∨ l ∈ itemLabels c.clusterName (zones.map Prod.fst) := by
    rw [← counted_of_ok hok]
    exact mem_countExports
  constructor
  · intro hall z hz
    have hold := (hshows [c.clusterName, z] rfl).2 (mem_itemLabels.2 hz)
    exact mem_itemLabels.1 ((hall _ rfl).1 ((hlabels _).2 (.inl hold)))
  · intro hsub l hhead
    rw [hlabels, hshows l hhead]
    exact or_iff_right_of_imp fun hl => List.map_subset _ hsub hl

theorem Tracks.step (h : Tracks clusterName c shown)
    (call : CollectorCall (Except Err (List (Str × Except Err Int)))) :
    (c.Matches call ↔ Follows shown call) ∧
      (Follows shown call → Tracks clusterName (c.after call) (shownAfter shown call)) := by
  obtain ⟨rfl, hshows⟩ := h
  match call with
  | .collect (.error _) => exact ⟨Iff.rfl, fun _ => ⟨rfl, hshows⟩⟩
  | .collect (.ok zones) =>
    have hok (hall : ∀ z ∈ zones, z.2.isOk = true) :=
      Tracks.collect_ok_iff ⟨rfl, hshows⟩ hall
    refine ⟨imp_congr_ctx countExports_ok_iff hok, fun hfollows => ⟨rfl, ?_⟩⟩
    rw [shownAfter]
    split
    · next hall => exact (hok hall).2 (hfollows hall)
    · intro l hhead
      rw [itemLabels, List.map_append, List.mem_append]
      exact mem_countExports.trans (or_congr_left (hshows l hhead))
  | .cleanup =>
    have hnone := GaugeVec.shows_deletePartialMatch c.exportTotal c.clusterName
    exact ⟨iff_of_true hnone trivial, fun _ => ⟨rfl, hnone⟩⟩

end AccessControlCollector

/-- Collectors that begin with no series of their cluster show after each collection the series of
the items fetched exactly if each fetch follows the one before: a quota keeps its zone or its volume
is gone, no pool loses labels and no zone is gone. -/
theorem series_match_iff (c : QuotaCollector) (m : QuotaMetric) (n : NodePoolCollector)
    (k : NodePoolMetric) (a : AccessControlCollector)
    (hc : (c.volumes m).Shows c.clusterName []) (hn : (n.pools k).Shows n.clusterName [])
    (ha : a.exportTotal.Shows a.clusterName []) :
    (∀ calls, Always QuotaCollector.after (QuotaCollector.Matches m) calls c ↔
      Always QuotaCollector.lastFetch QuotaCollector.Follows calls []) ∧
    (∀ calls, Always NodePoolCollector.after (NodePoolCollector.Matches k) calls n ↔
      Always NodePoolCollector.lastFetch (NodePoolCollector.Follows n.clusterName k) calls []) ∧
    (∀ calls, Always AccessControlCollector.after AccessControlCollector.Matches calls a ↔
      Always AccessControlCollector.shownAfter AccessControlCollector.Follows calls []) := by
  have hquotas : QuotaCollector.Tracks c.clusterName m c [] := ⟨rfl, hc, fun h => absurd rfl h⟩
  have hpools : NodePoolCollector.Tracks n.clusterName k n [] := ⟨rfl, hn⟩
  have hzones : AccessControlCollector.Tracks a.clusterName a [] := ⟨rfl, ha⟩
  exact ⟨always_iff (fun _ _ call h => h.step call) hquotas,
    always_iff (fun _ _ call h => h.step call) hpools,
    always_iff (fun _ _ call h => h.step call) hzones⟩

/-- The volume `vol2` goes, a fetch fails, and after a clean-up a pool comes back in another tier;
the second zone is counted only by the second collection. -/
theorem series_match_followed :
    Always QuotaCollector.after (QuotaCollector.Matches .quotaUsedBytes)
      [.collect (some (.ok [⟨"vol1", "zone1", 1, 2, false⟩, ⟨"vol2", "zone1", 1, 2, false⟩])),
        .collect (some (.error .deadline)),
        .collect (some (.ok [⟨"vol1", "zone1", 2, 2, true⟩, ⟨"vol3", "zone2", 0, 2, false⟩]))]
      ⟨"c1", [], [], fun _ => [], []⟩ ∧
    Always NodePoolCollector.after (NodePoolCollector.Matches .tier)
      [.collect (some (.ok [⟨1, "pool1", 4, 1, 3, 3, "+2d:1n", "tier1"⟩])), .cleanup,
        .collect (some (.ok [⟨1, "pool1", 4, 1, 3, 3, "+2d:1n", "tier2"⟩]))]
      ⟨"c1", fun _ => []⟩ ∧
    Always AccessControlCollector.after AccessControlCollector.Matches
      [.collect (.ok [("zone1", .ok 1), ("zone2", .error .deadline)]),
        .collect (.ok [("zone1", .ok 1), ("zone2", .ok 2)])]
      ⟨"c1", [], [], [], []⟩ := by
  have h := series_match_iff ⟨"c1", [], [], fun _ => [], []⟩ .quotaUsedBytes ⟨"c1", fun _ => []⟩
    .tier ⟨"c1", [], [], [], []⟩ (fun _ _ => Iff.rfl) (fun _ _ => Iff.rfl) (fun _ _ => Iff.rfl)
  exact ⟨(h.1 _).2 (by decide), (h.2.1 _).2 (by decide), (h.2.2 _).2 (by decide)⟩

/-- A volume that moves to another zone, a pool that moves to another tier and a zone that is
deleted keep their old series. -/
theorem series_match_changed : let q0 : QuotaCollector := ⟨"c1", [], [], fun _ => [], []⟩
    let q1 := (q0.collect (some (.ok [⟨"vol1", "zone1", 1, 2, false⟩]))).2
    let q2 := (q1.collect (some (.ok [⟨"vol1", "zone2", 1, 2, false⟩]))).2
    let p0 : NodePoolCollector := ⟨"c1", fun _ => []⟩
    let p1 := (p0.collect (some (.ok [⟨1, "pool1", 4, 1, 3, 3, "+2d:1n", "tier1"⟩]))).2
    let p2 := (p1.collect (some (.ok [⟨1, "pool1", 4, 1, 3, 3, "+2d:1n", "tier2"⟩]))).2
    let a0 : AccessControlCollector := ⟨"c1", [], [], [], []⟩
    let a1 := (a0.collect (.ok [("zone1", .ok 1), ("zone2", .ok 2)])).2
    let a2 := a1.collect (.ok [("zone2", .ok 2)])
    ¬ (q2.volumes .quotaUsedBytes).Shows "c1" [["c1", "vol1", "zone2"]] ∧
    ¬ (p2.pools .tier).Shows "c1" [["c1", "1", "pool1", "tier2"]] ∧
    a2.1 = .ok () ∧ ¬ a2.2.exportTotal.Shows "c1" [["c1", "zone2"]] := by
  refine ⟨fun h => ?_, fun h => ?_, rfl, fun h => ?_⟩
  · exact absurd ((h ["c1", "vol1", "zone1"] rfl).1 (by decide)) (by decide)
  · exact absurd ((h ["c1", "1", "pool1", "tier1"] rfl).1 (by decide)) (by decide)
  · exact absurd ((h ["c1", "zone1"] rfl).1 (by decide)) (by decide)

end CsiPowerscale.Collectors
