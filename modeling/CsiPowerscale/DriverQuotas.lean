import CsiPowerscale.Driver
import CsiPowerscale.GoLib.Collections

namespace CsiPowerscale.Collectors
open GoLib

structure AccessZone where
  name : Str
  path : Str

abbrev ZoneCache := List (Str × Str)

def populateZoneCache (zones : List (Option AccessZone)) (cache : ZoneCache) : ZoneCache :=
  (zones.filterMap fun z => z).foldl (fun m z => assign m z.path z.name) cache

/-- The cache that a path is looked up in; `none` when it is empty and the zones are not known. -/
def zonesFor (zones : Except Err (List (Option AccessZone))) (cache : ZoneCache) : Option ZoneCache :=
  if cache = [] then
    match zones with
    | .ok zs => some (populateZoneCache zs cache)
    | .error _ => none
  else some cache

def longestMatch (path : Str) (cache : ZoneCache) (best : Str × Str) : Str × Str :=
  cache.foldl (fun best e => if startsWith path e.1 ∧ best.1.length < e.1.length then e else best) best

def getZoneFromPath (order : MapOrder (Str × Str)) (zones : Except Err (List (Option AccessZone)))
    (cache : ZoneCache) (path : Str) : Str :=
  match zonesFor zones cache with
  | some c => (longestMatch path (order.order c) ([], [])).2
  | none => []

structure K8sMetadataChecker where
  hasClient : Bool
  driverName : Str
  pvCache : List Str

def extractVolumeNameFromPath (path : Str) : Str :=
  if slash ∉ path ∨ path.getLast? = some slash then [] else afterLastSlash path

def extractVolumeKeyFromHandle (volumeHandle : Str) : Str :=
  if volumeHandle = [] then [] else trimSpace ((split volumeHandle volumeIDSeparator).headD [])

def volumeKeys (driverName : Str) (pv : PersistentVolume) : List Str :=
  match pv.csi with
  | none => []
  | some csi =>
    if csi.driver = driverName then
      let key := extractVolumeKeyFromHandle csi.volumeHandle
      pv.name :: if key ≠ [] then [key] else []
    else []

namespace K8sMetadataChecker

def isDriverManaged (c : K8sMetadataChecker) (path : Str) : Except Err Bool :=
  if !c.hasClient then .error (.plain "K8sMetadataChecker: kubernetes client not initialized")
  else
    let volumeName := extractVolumeNameFromPath path
    .ok (volumeName ≠ [] && volumeName ∈ c.pvCache)

/-- `fetchAndCachePVs`, which panics without a client. -/
def refreshCache (c : K8sMetadataChecker) (pvs : Except Err (List PersistentVolume)) :
    Except Err K8sMetadataChecker :=
  if !c.hasClient then .error .panic
  else
    match pvs with
    | .ok pvs => .ok { c with pvCache := pvs.flatMap (volumeKeys c.driverName) }
    | .error e => .error (.wrapped (sprintf ["K8sMetadataChecker: failed to list PVs: ", e.text]) e)

end K8sMetadataChecker

structure HybridVolumeValidator where
  isiPath : Str
  k8sValidator : Option K8sMetadataChecker
  enableK8sValidation : Bool

namespace HybridVolumeValidator

def isDriverManaged (v : HybridVolumeValidator) (path : Str) : Bool :=
  if !startsWith path v.isiPath then false
  else
    match v.enableK8sValidation, v.k8sValidator with
    | true, some c => match c.isDriverManaged path with
      | .ok managed => managed
      | .error _ => true
    | _, _ => true

def refreshCache (v : HybridVolumeValidator) (pvs : Except Err (List PersistentVolume)) :
    Except Err HybridVolumeValidator :=
  match v.enableK8sValidation, v.k8sValidator with
  | true, some c => (c.refreshCache pvs).map fun c => { v with k8sValidator := some c }
  | _, _ => .ok v

end HybridVolumeValidator

structure QuotaRecord where
  path : Str
  physical : Int
  hard : Int
  hardExceeded : Bool

structure QuotaInfo where
  volumeID : Str
  accessZone : Str
  usedBytes : Int
  hardBytes : Int
  hardExceeded : Bool
  deriving DecidableEq

structure QuotaAdapter where
  validator : HybridVolumeValidator
  zoneCache : ZoneCache

def includeQuotas (order : MapOrder (Str × Str)) (zones : Except Err (List (Option AccessZone)))
    (v : HybridVolumeValidator) : ZoneCache → List (Option QuotaRecord) → List QuotaInfo × ZoneCache
  | cache, [] => ([], cache)
  | cache, none :: qs => includeQuotas order zones v cache qs
  | cache, some q :: qs =>
    if v.isDriverManaged q.path then
      let rest := includeQuotas order zones v ((zonesFor zones cache).getD cache) qs
      (⟨q.path, getZoneFromPath order zones cache q.path, q.physical, q.hard, q.hardExceeded⟩ :: rest.1,
        rest.2)
    else includeQuotas order zones v cache qs

def filterQuotas (order : MapOrder (Str × Str)) (quotas : Except Err (List (Option QuotaRecord)))
    (zones : Except Err (List (Option AccessZone))) (cache : ZoneCache) (v : HybridVolumeValidator) :
    Except Err (List QuotaInfo) × QuotaAdapter :=
  match quotas with
  | .error e =>
    (.error (.wrapped (sprintf ["QuotaAdapter: failed to get quotas: ", e.text]) e), ⟨v, cache⟩)
  | .ok qs =>
    let r := includeQuotas order zones v cache qs
    (.ok r.1, ⟨v, r.2⟩)

/-- The fetch goes on when the refresh fails, with what is cached; a panic ends it. -/
def fetchAllQuotas (order : MapOrder (Str × Str)) (pvs : Except Err (List PersistentVolume))
    (quotas : Except Err (List (Option QuotaRecord)))
    (zones : Except Err (List (Option AccessZone))) (a : QuotaAdapter) :
    Except Err (List QuotaInfo) × QuotaAdapter :=
  match a.validator.refreshCache pvs with
  | .ok v => filterQuotas order quotas zones a.zoneCache v
  | .error .panic => (.error .panic, a)
  | .error _ => filterQuotas order quotas zones a.zoneCache a.validator

def under (base path : Str) : Bool := (segments base).isPrefixOf (segments path)

theorem under_iff (hbase : CleanAbs base) (hp : CleanAbs p) :
    under base p = true ↔ p = base ∨ base = [slash] ∨ startsWith p (base ++ [slash]) = true := by
  obtain ⟨xs, hxs, rfl⟩ := hbase
  obtain ⟨ys, hys, rfl⟩ := hp
  rw [under, segments_absPath xs hxs, segments_absPath ys hys, List.isPrefixOf_iff_prefix, startsWith,
    List.isPrefixOf_iff_prefix]
  constructor
  · rintro ⟨zs, rfl⟩
    by_cases hne : xs = []
    · rw [hne]
      exact .inr (.inl rfl)
    by_cases hz : zs = []
    · rw [hz, List.append_nil]
      exact .inl rfl
    · refine .inr (.inr ⟨joinWith [slash] zs, ?_⟩)
      rw [absPath_append hne hz, List.append_assoc]
      rfl
  · rintro (h | h | ⟨rest, h⟩)
    · rw [absPath_injective hys hxs h]
    · rw [absPath_injective hxs (List.forall_mem_nil _) h]
      exact List.nil_prefix
    have hsegments := congrArg segments h
    rw [List.append_assoc, List.singleton_append, segments_append, segments_absPath xs hxs,
      segments_absPath ys hys] at hsegments
    exact ⟨_, hsegments⟩

theorem startsWith_of_under (hbase : CleanAbs base) (hp : CleanAbs p) (h : under base p = true) :
    startsWith p base = true := by
  rw [startsWith, List.isPrefixOf_iff_prefix]
  rcases (under_iff hbase hp).1 h with rfl | rfl | h
  · exact List.prefix_rfl
  · obtain ⟨ys, -, rfl⟩ := hp
    exact ⟨_, rfl⟩
  · rw [startsWith, List.isPrefixOf_iff_prefix] at h
    exact (List.prefix_append _ _).trans h

section Zones

/-- The name of the zone with the longest path that `p` is under; empty if there is none. -/
def IsZoneOf (cache : ZoneCache) (p name : Str) : Prop :=
  (∃ e ∈ cache, under e.1 p = true ∧ (∀ e' ∈ cache, under e'.1 p = true → e'.1.length ≤ e.1.length) ∧
    name = e.2) ∨ (∀ e ∈ cache, under e.1 p = false) ∧ name = []

/-- The longest path with which `p` begins, as a text. -/
structure LongestStart (cache : ZoneCache) (p : Str) (e : Str × Str) : Prop where
  mem : e ∈ cache
  start : startsWith p e.1 = true
  longest : ∀ e' ∈ cache, startsWith p e'.1 = true → e'.1.length ≤ e.1.length

/-- Every zone whose path `p` starts with only as a text is shorter than one that `p` is under. -/
def Outdone (cache : ZoneCache) (p : Str) : Prop :=
  ∀ e ∈ cache, startsWith p e.1 = true → under e.1 p = false →
    ∃ e' ∈ cache, under e'.1 p = true ∧ e.1.length < e'.1.length

instance (cache : ZoneCache) (p : Str) : Decidable (Outdone cache p) :=
  inferInstanceAs (Decidable (∀ e ∈ cache, _ → _ → ∃ e' ∈ cache, _))

theorem longestMatch_spec (path : Str) (cache : ZoneCache) (best : Str × Str) :
    let r := longestMatch path cache best
    (r = best ∨ r ∈ cache ∧ startsWith path r.1 = true) ∧ best.1.length ≤ r.1.length ∧
      ∀ e ∈ cache, startsWith path e.1 = true → e.1.length ≤ r.1.length := by
  induction cache generalizing best with
  | nil => exact ⟨.inl rfl, le_rfl, by simp⟩
  | cons e es ih =>
    by_cases h : startsWith path e.1 = true ∧ best.1.length < e.1.length
    · have hnext : longestMatch path (e :: es) best = longestMatch path es e := by
        rw [longestMatch, List.foldl_cons, if_pos h]
        rfl
      rw [hnext]
      obtain ⟨hfrom, hle, hall⟩ := ih e
      refine ⟨.inr ?_, h.2.le.trans hle, List.forall_mem_cons.2 ⟨fun _ => hle, hall⟩⟩
      rcases hfrom with hfrom | ⟨hmem, hstart⟩
      · rw [hfrom]
        exact ⟨List.mem_cons_self, h.1⟩
      · exact ⟨List.mem_cons_of_mem _ hmem, hstart⟩
    · have hnext : longestMatch path (e :: es) best = longestMatch path es best := by
        rw [longestMatch, List.foldl_cons, if_neg h]
        rfl
      rw [hnext]
      obtain ⟨hfrom, hle, hall⟩ := ih best
      refine ⟨hfrom.imp_right fun hr => ⟨List.mem_cons_of_mem _ hr.1, hr.2⟩, hle,
        List.forall_mem_cons.2 ⟨fun hstart => ?_, hall⟩⟩
      exact (not_lt.1 fun hlt => h ⟨hstart, hlt⟩).trans hle

variable {c : ZoneCache} (hkeys : (c.map Prod.fst).Nodup) (hclean : ∀ e ∈ c, CleanAbs e.1)
include hclean

theorem longestMatch_cases (order : MapOrder (Str × Str)) (p : Str) :
    LongestStart c p (longestMatch p (order.order c) ([], [])) ∨
      (∀ e ∈ c, startsWith p e.1 = false) ∧ longestMatch p (order.order c) ([], []) = ([], []) := by
  obtain ⟨hfrom, -, hall⟩ := longestMatch_spec p (order.order c) ([], [])
  rcases hfrom with hfrom | ⟨hmem, hstart⟩
  · refine .inr ⟨fun e he => Bool.eq_false_iff.2 fun hstart => ?_, hfrom⟩
    have hlen := hall e (order.mem_order.2 he) hstart
    obtain ⟨xs, -, hxs⟩ := hclean e he
    rw [hfrom, hxs] at hlen
    simp [absPath] at hlen
  · exact .inl ⟨order.mem_order.1 hmem, hstart, fun e he => hall e (order.mem_order.2 he)⟩

include hkeys

omit hclean in
theorem LongestStart.unique (h : LongestStart c p e) (h' : LongestStart c p e') : e = e' := by
  have hlen := le_antisymm (h'.longest e h.mem h.start) (h.longest e' h'.mem h'.start)
  have hs := List.isPrefixOf_iff_prefix.1 h.start
  have hs' := List.isPrefixOf_iff_prefix.1 h'.start
  have hkey : e.1 = e'.1 :=
    (List.prefix_of_prefix_length_le hs hs' hlen.le).eq_of_length hlen
  exact List.inj_on_of_nodup_map hkeys h.mem h'.mem hkey

theorem longestMatch_isZoneOf_iff (hnames : (c.map Prod.snd).Nodup) (hne : ∀ e ∈ c, e.2 ≠ [])
    (hp : CleanAbs p) (order : MapOrder (Str × Str)) :
    IsZoneOf c p (longestMatch p (order.order c) ([], [])).2 ↔ Outdone c p := by
  have hstart : ∀ e ∈ c, under e.1 p = true → startsWith p e.1 = true :=
    fun e he hu => startsWith_of_under (hclean e he) hp hu
  rcases longestMatch_cases hclean order p with h | ⟨hnone, h⟩
  · generalize longestMatch p (order.order c) ([], []) = r at h
    constructor
    · rintro (⟨e', he', hu, -, hname⟩ | ⟨-, hname⟩) e he htext hno
      · obtain rfl := List.inj_on_of_nodup_map hnames h.mem he' hname
        refine ⟨r, he', hu, lt_of_le_of_ne (h.longest e he htext) fun hlen => ?_⟩
        have heq : e = r := LongestStart.unique hkeys ⟨he, htext, hlen ▸ h.longest⟩ h
        rw [heq, hu] at hno
        cases hno
      · exact absurd hname (hne r h.mem)
    · intro hout
      refine .inl ⟨r, h.mem, ?_, fun e' he' hu => h.longest e' he' (hstart e' he' hu), rfl⟩
      by_contra hno
      obtain ⟨e', he', hu, hlt⟩ := hout r h.mem h.start (Bool.eq_false_iff.2 hno)
      exact absurd (h.longest e' he' (hstart e' he' hu)) (not_le.2 hlt)
  · refine iff_of_true (.inr ⟨fun e he => Bool.eq_false_iff.2 fun hu => ?_, by rw [h]⟩) ?_
    · exact Bool.false_ne_true ((hnone e he).symm.trans (hstart e he hu))
    · exact fun e he htext => absurd ((hnone e he).symm.trans htext) Bool.false_ne_true

end Zones

/-- Zones are matched by components exactly where each neighbour whose path the text happens to start
with is outdone by a directory above; base paths exactly where the text goes on with a slash. -/
theorem paths_by_components_iff {p : Str} (hp : CleanAbs p) :
    (∀ zones cache c order, zonesFor zones cache = some c → (c.map Prod.fst).Nodup →
      (∀ e ∈ c, CleanAbs e.1) → (c.map Prod.snd).Nodup → (∀ e ∈ c, e.2 ≠ []) →
      (IsZoneOf c p (getZoneFromPath order zones cache p) ↔ Outdone c p)) ∧
    ∀ v : HybridVolumeValidator, v.enableK8sValidation = false → CleanAbs v.isiPath →
      ((v.isDriverManaged p = true ↔ under v.isiPath p = true) ↔
        (startsWith p v.isiPath = true → p = v.isiPath ∨ v.isiPath = [slash] ∨
          startsWith p (v.isiPath ++ [slash]) = true)) := by
  constructor
  · intro zones cache c order hc hkeys hclean hnames hne
    rw [getZoneFromPath, hc]
    exact longestMatch_isZoneOf_iff hkeys hclean hnames hne hp order
  · intro v hoff hbase
    have hmanaged : v.isDriverManaged p = startsWith p v.isiPath := by
      rw [HybridVolumeValidator.isDriverManaged, hoff]
      cases startsWith p v.isiPath <;> rfl
    rw [hmanaged, ← under_iff hbase hp]
    constructor
    · exact fun h => h.1
    · exact fun h => ⟨h, startsWith_of_under hbase hp⟩

theorem cleanAbs_ifs_data : CleanAbs "/ifs/data" := ⟨["ifs", "data"], by decide, by decide⟩

def threeZones : ZoneCache := [("/ifs", "System"), ("/ifs/dat", "neighbour"), ("/ifs/data", "zone")]

theorem paths_by_components_vol1 :
    IsZoneOf threeZones "/ifs/data/vol1" (getZoneFromPath listOrder (.ok []) threeZones
      "/ifs/data/vol1") ∧
    (HybridVolumeValidator.isDriverManaged ⟨"/ifs/data", none, false⟩ "/ifs/data/vol1" = true ↔
      under "/ifs/data" "/ifs/data/vol1" = true) := by
  have hp : CleanAbs "/ifs/data/vol1" := ⟨["ifs", "data", "vol1"], by decide, by decide⟩
  have hclean : ∀ e ∈ threeZones, CleanAbs e.1 := by
    intro e he
    simp only [threeZones, List.mem_cons, List.not_mem_nil, or_false] at he
    rcases he with rfl | rfl | rfl
    · exact ⟨["ifs"], by decide, by decide⟩
    · exact ⟨["ifs", "dat"], by decide, by decide⟩
    · exact cleanAbs_ifs_data
  obtain ⟨hzones, hbase⟩ := paths_by_components_iff hp
  constructor
  · exact (hzones (.ok []) threeZones threeZones listOrder rfl (by decide) hclean (by decide)
      (by decide)).2 (by decide)
  · exact (hbase ⟨"/ifs/data", none, false⟩ rfl cleanAbs_ifs_data).2 fun _ => .inr (.inr (by decide))

/-- A neighbour whose name goes on is taken for something below. -/
theorem paths_by_components_neighbour :
    getZoneFromPath listOrder (.ok [some ⟨"zone", "/ifs/data"⟩]) [] "/ifs/database" = "zone" ∧
    HybridVolumeValidator.isDriverManaged ⟨"/ifs/data", none, false⟩ "/ifs/database" = true ∧
    under "/ifs/data" "/ifs/database" = false := by
  decide

theorem includeQuotas_paths (order : MapOrder (Str × Str))
    (zones : Except Err (List (Option AccessZone))) (v : HybridVolumeValidator) (cache : ZoneCache)
    (qs : List (Option QuotaRecord)) :
    (includeQuotas order zones v cache qs).1.map QuotaInfo.volumeID =
      ((qs.filterMap fun q => q).map QuotaRecord.path).filter v.isDriverManaged := by
  induction qs generalizing cache with
  | nil => rfl
  | cons q qs ih =>
    cases q with
    | none => exact ih cache
    | some q =>
      simp only [includeQuotas, List.filterMap_cons, List.map_cons, List.filter_cons]
      split
      · rw [List.map_cons, ih]
      · exact ih cache

theorem filter_eq_filter_iff {l : List α} {f g : α → Bool} :
    l.filter f = l.filter g ↔ ∀ x ∈ l, f x = g x := by
  constructor
  · intro h x hx
    have hmem : x ∈ l.filter f ↔ x ∈ l.filter g := by rw [h]
    rw [List.mem_filter, List.mem_filter, and_iff_right hx, and_iff_right hx] at hmem
    exact Bool.eq_iff_iff.2 hmem
  · exact List.filter_congr

def quotaPaths (qs : List (Option QuotaRecord)) : List Str :=
  (qs.filterMap fun q => q).map QuotaRecord.path

def K8sMetadataChecker.caches (c : K8sMetadataChecker) (p : Str) : Bool :=
  extractVolumeNameFromPath p ≠ [] && extractVolumeNameFromPath p ∈ c.pvCache

def belongs (driverName : Str) (pvs : List PersistentVolume) (p : Str) : Bool :=
  extractVolumeNameFromPath p ≠ [] &&
    pvs.any fun pv => extractVolumeNameFromPath p ∈ volumeKeys driverName pv

theorem hybrid_isDriverManaged (hclient : c.hasClient = true) (p : Str) :
    HybridVolumeValidator.isDriverManaged ⟨base, some c, true⟩ p =
      (startsWith p base && c.caches p) := by
  simp only [HybridVolumeValidator.isDriverManaged, K8sMetadataChecker.isDriverManaged, hclient]
  cases startsWith p base <;> rfl

/-- With volumes cached by earlier refreshes, a fetch whose refresh fails gives the quotas under the
base path exactly if these are the cached ones whose path starts with it; a fetch with a refresh
gives those of volumes exactly if no path of a volume only starts like the base path. -/
theorem fetchAllQuotas_paths_iff (order : MapOrder (Str × Str)) (base : Str) (c : K8sMetadataChecker)
    (cache : ZoneCache) (zones : Except Err (List (Option AccessZone)))
    (qs : List (Option QuotaRecord)) (hclient : c.hasClient = true) :
    (∀ e, ((fetchAllQuotas order (.error e) (.ok qs) zones ⟨⟨base, some c, true⟩, cache⟩).1.map
        (·.map QuotaInfo.volumeID) = .ok ((quotaPaths qs).filter (under base))) ↔
      ∀ p ∈ quotaPaths qs, (startsWith p base && c.caches p) = under base p) ∧
    ∀ pvs, ((fetchAllQuotas order (.ok pvs) (.ok qs) zones ⟨⟨base, some c, true⟩, cache⟩).1.map
        (·.map QuotaInfo.volumeID) =
          .ok ((quotaPaths qs).filter fun p => under base p && belongs c.driverName pvs p)) ↔
      ∀ p ∈ quotaPaths qs, belongs c.driverName pvs p = true → startsWith p base = under base p := by
  constructor
  · intro e
    have hrefresh : HybridVolumeValidator.refreshCache ⟨base, some c, true⟩ (.error e) =
        .error (.wrapped (sprintf ["K8sMetadataChecker: failed to list PVs: ", e.text]) e) := by
      simp [HybridVolumeValidator.refreshCache, K8sMetadataChecker.refreshCache, hclient, Except.map]
    rw [fetchAllQuotas, hrefresh]
    simp only [filterQuotas, Except.map, includeQuotas_paths, Except.ok.injEq]
    rw [quotaPaths, filter_eq_filter_iff]
    simp only [hybrid_isDriverManaged hclient]
  · intro pvs
    have hrefresh : HybridVolumeValidator.refreshCache ⟨base, some c, true⟩ (.ok pvs) =
        .ok ⟨base, some { c with pvCache := pvs.flatMap (volumeKeys c.driverName) }, true⟩ := by
      simp [HybridVolumeValidator.refreshCache, K8sMetadataChecker.refreshCache, hclient, Except.map]
    have hcaches (p : Str) : K8sMetadataChecker.caches
        { c with pvCache := pvs.flatMap (volumeKeys c.driverName) } p = belongs c.driverName pvs p := by
      simp [K8sMetadataChecker.caches, belongs, List.any_eq, List.mem_flatMap]
    rw [fetchAllQuotas, hrefresh]
    simp only [filterQuotas, Except.map, includeQuotas_paths, Except.ok.injEq]
    rw [quotaPaths, filter_eq_filter_iff]
    refine forall₂_congr fun p _ => ?_
    rw [hybrid_isDriverManaged (by exact hclient), hcaches]
    cases belongs c.driverName pvs p <;> simp

def driverChecker (pvCache : List Str) : K8sMetadataChecker := ⟨true, pluginName, pvCache⟩

theorem fetchAllQuotas_paths_vol1 :
    (fetchAllQuotas listOrder (.error (.plain "down")) (.ok [some ⟨"/ifs/data/vol1", 1, 2, false⟩])
      (.ok []) ⟨⟨"/ifs/data", some (driverChecker ["vol1"]), true⟩, []⟩).1.map
      (·.map QuotaInfo.volumeID) = .ok [("/ifs/data/vol1" : Str)] :=
  ((fetchAllQuotas_paths_iff listOrder "/ifs/data" (driverChecker ["vol1"]) [] (.ok [])
    [some ⟨"/ifs/data/vol1", 1, 2, false⟩] rfl).1 (.plain "down")).2 (by decide)

/-- Before the first refresh that succeeds, no quota is taken for one of the driver. -/
theorem fetchAllQuotas_paths_none :
    (fetchAllQuotas listOrder (.error (.plain "down")) (.ok [some ⟨"/ifs/data/vol1", 1, 2, false⟩])
      (.ok []) ⟨⟨"/ifs/data", some (driverChecker []), true⟩, []⟩).1 = .ok [] ∧
    under "/ifs/data" "/ifs/data/vol1" = true := by
  decide

end CsiPowerscale.Collectors
