import CsiPowerscale.Driver
import CsiPowerscale.Effects.Interleave

namespace CsiPowerscale.Collectors
open GoLib Effects Relation

inductive Level
  | pod
  | array
  deriving DecidableEq

inductive Request
  | zones
  | exports (zone : Str)
  | quotas
  | nodePools
  | nfsStats

namespace Request

def level : Request → Level
  | zones | exports _ => .pod
  | quotas | nodePools | nfsStats => .array

def endpoint : Request → Str
  | zones => "zones"
  | exports _ => "exports"
  | quotas => "quotas"
  | nodePools => "node_pools"
  | nfsStats => "nfs_stats"

def cacheKey : Request → Str
  | zones => "all_zones"
  | exports zone => "exports/" ++ zone
  | quotas => "all_quotas"
  | nodePools => "all_node_pools"
  | nfsStats => "nfs_stats"

theorem level_eq_of_cacheKey {r q : Request} (h : r.cacheKey = q.cacheKey) : r.level = q.level := by
  have hfirst := congrArg (List.take 5) h
  cases r <;> cases q <;> first | rfl | exact absurd hfirst (by decide) | cases hfirst

end Request

inductive Failure
  | rateLimiter (err : Err)
  | circuitBreaker (err : Err)

def Failure.err (clusterName : Str) (r : Request) : Failure → Err
  | rateLimiter e => .wrapped (sprintf
      ["rate limiter cancelled for ", clusterName, "/", r.endpoint, ": ", e.text]) e
  | circuitBreaker e => .wrapped (sprintf [clusterName, "/", r.endpoint, ": ", e.text]) e

inductive Phase (V : Type)
  | working
  | stored (v : V)
  | cleared (v : V)
  | marked (err : Err)
  | served (r : Except Err V)

def Phase.reported : Phase V → Option Bool
  | working | stored _ => none
  | cleared _ => some false
  | marked _ | served _ => some true

structure MetricsState (V : Type) where
  clusterName : Str
  cache : Level → Str → Option V
  stale : Bool
  running : Nat → Option (Request × Phase V)
  lastFailed : Str → Bool
  latest : Str → Option V

inductive Move (V : Type)
  | start (r : Request)
  | succeed (v : V)
  | clear
  | fail (f : Failure)
  | get (kept : Bool)
  | ret

namespace MetricsState

def new (clusterName : Str) : MetricsState V where
  clusterName := clusterName
  cache _ _ := none
  stale := false
  running _ := none
  lastFailed _ := false
  latest _ := none

variable (s : MetricsState V)

def put (id : Nat) (r : Request) (p : Phase V) : MetricsState V :=
  { s with running := fun i => if i = id then some (r, p) else s.running i }

def finish (id : Nat) (r : Request) (failed : Bool) : MetricsState V :=
  { s with
    running := fun i => if i = id then none else s.running i
    lastFailed := fun ep => if ep = r.endpoint then failed else s.lastFailed ep }

/-- The next effect of the call `id` of `Do`. A cache may have dropped what it had stored. -/
def step (id : Nat) (m : Move V) : Option (MetricsState V) :=
  match s.running id, m with
  | none, .start r => some (s.put id r .working)
  | some (r, .working), .succeed v => some { s.put id r (.stored v) with
      cache := fun l k => if l = r.level ∧ k = r.cacheKey then some v else s.cache l k
      latest := fun k => if k = r.cacheKey then some v else s.latest k }
  | some (r, .stored v), .clear => some { s.put id r (.cleared v) with stale := false }
  | some (r, .working), .fail f =>
    some { s.put id r (.marked (f.err s.clusterName r)) with stale := true }
  | some (r, .marked err), .get kept =>
    let cached := if kept then s.cache r.level r.cacheKey else none
    some (s.put id r (.served (cached.elim (.error err) .ok)))
  | some (r, .cleared _), .ret => some (s.finish id r false)
  | some (r, .served _), .ret => some (s.finish id r true)
  | _, _ => none

def Reached (cond : MetricsState V → Nat → Move V → Prop) (clusterName : Str) :
    MetricsState V → Prop :=
  ReflTransGen (fun s t => ∃ id m, cond s id m ∧ s.step id m = some t) (new clusterName)

def Reports (id : Nat) (r : Request) (b : Bool) : Prop :=
  ∃ p, s.running id = some (r, p) ∧ p.reported = some b

def Quiet : Prop := ∀ i r b, ¬ s.Reports i r b

/-- Calls report one by one, and success only when no other endpoint has failed last. -/
def Undisturbed (id : Nat) : Move V → Prop
  | .fail _ => s.Quiet
  | .clear => s.Quiet ∧ ∀ r p, s.running id = some (r, p) →
      ∀ ep, s.lastFailed ep = true → ep = r.endpoint
  | _ => True

section
variable {s t : MetricsState V} {id : Nat} {m : Move V} {r : Request}

theorem reports_put : (s.put id r p).Reports i q b ↔
    if i = id then r = q ∧ p.reported = some b else s.Reports i q b := by
  unfold Reports put
  split
  · next h =>
    subst h
    simp only [if_true, Option.some.injEq, Prod.mk.injEq]
    constructor
    · rintro ⟨_, ⟨hr, rfl⟩, hb⟩
      exact ⟨hr, hb⟩
    · rintro ⟨hr, hb⟩
      exact ⟨p, ⟨hr, rfl⟩, hb⟩
  · next h => simp only [if_neg h]

theorem Reports.of_finish (h : (s.finish id r failed).Reports i q b) :
    i ≠ id ∧ s.Reports i q b := by
  obtain ⟨p, hrun, hb⟩ := h
  obtain ⟨hne, hrun⟩ := Option.ite_none_left_eq_some.1 hrun
  exact ⟨hne, p, hrun, hb⟩

/-- At most one call is between its report and its return; the flag is what it reported, and after
a success only its own endpoint may have failed last. -/
def OneReport (s : MetricsState V) : Prop :=
  ∀ i r b, s.Reports i r b → (∀ j q c, s.Reports j q c → j = i) ∧ s.stale = b ∧
    (b = false → ∀ ep, s.lastFailed ep = true → ep = r.endpoint)

theorem OneReport.put (h : s.OneReport) (hp : ∀ b, p.reported = some b → s.Reports id r b)
    (hrun : ∀ j q c, t.Reports j q c → (s.put id r p).Reports j q c)
    (hstale : t.stale = s.stale) (hlast : t.lastFailed = s.lastFailed) : t.OneReport := by
  have hback {j q c} (hj : t.Reports j q c) : s.Reports j q c := by
    have hj := reports_put.1 (hrun j q c hj)
    split at hj
    · next heq =>
      obtain ⟨rfl, hb⟩ := hj
      exact heq ▸ hp c hb
    · exact hj
  intro i q b hi
  obtain ⟨hone, hflag, hothers⟩ := h i q b (hback hi)
  rw [hstale, hlast]
  exact ⟨fun j _ _ hj => hone j _ _ (hback hj), hflag, hothers⟩

theorem OneReport.report (h : s.Quiet) (hp : p.reported = some b)
    (hrun : ∀ j q c, t.Reports j q c → (s.put id r p).Reports j q c) (hstale : t.stale = b)
    (hothers : b = false → ∀ ep, t.lastFailed ep = true → ep = r.endpoint) : t.OneReport := by
  have hback {j q c} (hj : t.Reports j q c) : j = id ∧ r = q ∧ b = c := by
    have hj := reports_put.1 (hrun j q c hj)
    split at hj
    · next heq => exact ⟨heq, hj.1, Option.some.inj (hp.symm.trans hj.2)⟩
    · exact absurd hj (h j q c)
  intro i q c hi
  obtain ⟨rfl, rfl, rfl⟩ := hback hi
  exact ⟨fun j _ _ hj => (hback hj).1, hstale, hothers⟩

theorem OneReport.finish (h : s.OneReport) (hid : s.Reports id r b) :
    (s.finish id r failed).OneReport := by
  intro i q c hi
  obtain ⟨hne, hi⟩ := hi.of_finish
  exact absurd ((h id r b hid).1 i q c hi) hne

theorem OneReport.step (h : s.OneReport) (hcond : s.Undisturbed id m)
    (hstep : s.step id m = some t) : t.OneReport := by
  unfold MetricsState.step at hstep
  split at hstep
  · cases hstep
    exact h.put (p := .working) (fun _ hb => by cases hb) (fun _ _ _ hj => hj) rfl rfl
  · cases hstep
    exact h.put (p := .stored _) (fun _ hb => by cases hb) (fun _ _ _ hj => hj) rfl rfl
  · next hrun =>
    cases hstep
    exact .report hcond.1 rfl (fun _ _ _ hj => hj) rfl fun _ => hcond.2 _ _ hrun
  · cases hstep
    exact .report hcond rfl (fun _ _ _ hj => hj) rfl fun hb => by cases hb
  · next hrun =>
    cases hstep
    exact h.put (p := .served _) (fun _ hb => ⟨_, hrun, hb⟩) (fun _ _ _ hj => hj) rfl rfl
  · next hrun =>
    cases hstep
    exact h.finish ⟨_, hrun, rfl⟩
  · next hrun =>
    cases hstep
    exact h.finish ⟨_, hrun, rfl⟩
  · cases hstep

/-- What a cache keeps under a key is the latest result with this key. -/
def CachesLatest (s : MetricsState V) : Prop :=
  ∀ r : Request, s.cache r.level r.cacheKey = s.latest r.cacheKey

theorem CachesLatest.step (h : s.CachesLatest) (hstep : s.step id m = some t) : t.CachesLatest := by
  unfold MetricsState.step at hstep
  split at hstep
  case h_2 r _ _ =>
    cases hstep
    intro q
    by_cases hkey : q.cacheKey = r.cacheKey
    · simp only [hkey, Request.level_eq_of_cacheKey hkey, and_self, if_true]
    · simp only [hkey, and_false, if_false]
      exact h q
  all_goals
    cases hstep
    try exact h

theorem Reached.invariant {clusterName : Str} {cond : MetricsState V → Nat → Move V → Prop}
    {I : MetricsState V → Prop} (h : Reached cond clusterName s) (hnew : I (new clusterName))
    (hstep : ∀ s id m t, I s → cond s id m → s.step id m = some t → I t) : I s := by
  induction h with
  | refl => exact hnew
  | tail _ hlast ih =>
    obtain ⟨id, m, hcond, hmove⟩ := hlast
    exact hstep _ id m _ ih hcond hmove

theorem stale_iff_of_finish (h : s.OneReport) (hid : s.Reports id r b) :
    (s.finish id r b).stale = true ↔ ∃ ep, (s.finish id r b).lastFailed ep = true := by
  obtain ⟨_, hflag, hothers⟩ := h id r b hid
  show s.stale = true ↔ ∃ ep, (if ep = r.endpoint then b else s.lastFailed ep) = true
  rw [hflag]
  constructor
  · intro hb
    exact ⟨r.endpoint, (if_pos rfl).trans hb⟩
  · rintro ⟨ep, hep⟩
    split at hep
    · exact hep
    next hne =>
    cases b with
    | true => rfl
    | false => exact absurd (hothers rfl ep hep) hne

end

/-- When calls report one by one, and success only when no other endpoint has failed last, the flag
is faithful after every return. A failed call gets from the cache the result of the latest call with
its key that succeeded. -/
theorem stale_faithful (clusterName : Str) (s : MetricsState V) :
    (Reached Undisturbed clusterName s → ∀ id t, s.step id .ret = some t →
      (t.stale = true ↔ ∃ ep, t.lastFailed ep = true)) ∧
    (Reached (fun _ _ _ => True) clusterName s → ∀ id kept r err t v,
      s.running id = some (r, .marked err) → s.step id (.get kept) = some t →
        t.running id = some (r, .served (.ok v)) → s.latest r.cacheKey = some v) := by
  constructor
  · intro hs id t hret
    have hone := hs.invariant (I := OneReport) (fun _ _ _ hi => by cases hi.choose_spec.1)
      fun _ _ _ _ h hcond hstep => h.step hcond hstep
    unfold step at hret
    split at hret
    case h_6 hrun _ =>
      cases hret
      exact stale_iff_of_finish hone ⟨_, hrun, rfl⟩
    case h_7 hrun _ =>
      cases hret
      exact stale_iff_of_finish hone ⟨_, hrun, rfl⟩
    all_goals contradiction
  · intro hs id kept r err t v hrun hget hserved
    have hlatest := hs.invariant (I := CachesLatest) (fun _ => rfl)
      fun _ _ _ _ h _ hstep => h.step hstep
    unfold step at hget
    rw [hrun] at hget
    cases hget
    have hv : (if kept then s.cache r.level r.cacheKey else none).elim (.error err) .ok =
        (.ok v : Except Err V) := by simpa [put] using hserved
    rw [← hlatest r]
    cases kept with
    | false => cases hv
    | true =>
      rw [if_pos rfl] at hv
      cases hcache : s.cache r.level r.cacheKey with
      | none =>
        rw [hcache] at hv
        cases hv
      | some w =>
        rw [hcache] at hv
        cases hv
        rfl

def next (s : MetricsState V) (x : Nat × Move V) : MetricsState V := (s.step x.1 x.2).getD s

theorem Reached.run {cond : MetricsState V → Nat → Move V → Prop} {clusterName : Str}
    {s : MetricsState V} (hs : Reached cond clusterName s) {moves : List (Nat × Move V)}
    (h : Always next (fun s x => (s.step x.1 x.2).isSome = true ∧ cond s x.1 x.2) moves s) :
    Reached cond clusterName (moves.foldl next s) := by
  induction moves generalizing s with
  | nil => exact hs
  | cons x moves ih =>
    obtain ⟨⟨hsome, hcond⟩, hrest⟩ := h
    refine ih (hs.tail ⟨x.1, x.2, hcond, ?_⟩) hrest
    obtain ⟨t, ht⟩ := Option.isSome_iff_exists.1 hsome
    rw [next, ht]
    rfl

theorem quiet_of_one {s : MetricsState V} {id : Nat} (h : ∀ i, i ≠ id → s.running i = none)
    (hid : s.running id = some (r, p)) (hp : p.reported = none) : s.Quiet := by
  rintro i q b ⟨p', hrun, hb⟩
  by_cases hi : i = id
  · rw [hi, hid] at hrun
    cases hrun
    rw [hp] at hb
    cases hb
  · rw [h i hi] at hrun
    cases hrun

/-- The zones are fetched once and then cannot be. -/
def zonesFail : List (Nat × Move Nat) :=
  [(0, .start .zones), (0, .succeed 7), (0, .clear), (0, .ret), (0, .start .zones),
    (0, .fail (.rateLimiter .deadline))]

theorem stale_faithful_zones :
    let s := zonesFail.foldl next (new "c1")
    let t := s.next (0, .get true)
    let u := t.next (0, .ret)
    t.running 0 = some (.zones, .served (.ok 7)) ∧ s.latest "all_zones" = some 7 ∧
      u.stale = true ∧ (u.stale = true ↔ ∃ ep, u.lastFailed ep = true) := by
  have hs : Reached Undisturbed "c1" (zonesFail.foldl next (new "c1")) := by
    refine Reached.run .refl ⟨⟨rfl, trivial⟩, ⟨rfl, trivial⟩, ⟨rfl, ?_, ?_⟩, ⟨rfl, trivial⟩,
      ⟨rfl, trivial⟩, ⟨rfl, ?_⟩, trivial⟩
    · exact quiet_of_one (fun i (hi : i ≠ 0) => by simp [next, step, put, new, hi]) rfl rfl
    · intro r p _ ep hep
      cases hep
    · exact quiet_of_one (fun i (hi : i ≠ 0) => by simp [next, step, put, finish, new, hi]) rfl rfl
  have hany : Reached (fun _ _ _ => True) "c1" (zonesFail.foldl next (new "c1")) := by
    refine ReflTransGen.mono ?_ _ _ hs
    rintro _ _ ⟨id, m, -, hstep⟩
    exact ⟨id, m, trivial, hstep⟩
  refine ⟨rfl, (stale_faithful "c1" _).2 hany 0 true .zones _ _ 7 rfl rfl rfl, rfl, ?_⟩
  exact (stale_faithful "c1" _).1 (hs.tail ⟨0, .get true, trivial, rfl⟩) 0 _ rfl

/-- The quotas are fetched after the zones could not be: nothing is reported stale. -/
theorem stale_faithful_cleared :
    let moves : List (Nat × Move Nat) := [(0, .start .zones), (0, .fail (.rateLimiter .deadline)),
      (0, .get true), (0, .ret), (0, .start .quotas), (0, .succeed 7), (0, .clear), (0, .ret)]
    (moves.foldlM (fun s x => step s x.1 x.2) (new "c1")).map
      (fun s => (s.stale, s.lastFailed "zones")) = some (false, true) := by
  decide

end MetricsState

end CsiPowerscale.Collectors
