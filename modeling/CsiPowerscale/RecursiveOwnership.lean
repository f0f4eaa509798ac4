import Mathlib.Data.List.ReduceOption
import CsiPowerscale.Effects.Workers
import CsiPowerscale.FileOwnership

namespace CsiPowerscale
open GoLib Effects Effects.Prog

structure ChildPages where
  token : Str
  rest : List ContainerChildList
  puts : List AclCall

inductive Paged : List ContainerChildList → Prop
  | last (page) : page.resume = [] → Paged [page]
  | more (page pages) : page.resume ≠ [] → Paged pages → Paged (page :: pages)

/-- Every page is returned once. The updates are recorded and fail for the paths that `put` has an
error for. -/
def ChildPages.serve (put : Str → Str → Option Err) :
    (c : AclCall) → ChildPages → Except Err c.Reply × ChildPages
  | .getACL .., s => (.ok none, s)
  | .putACL base relativePath gid mode, s =>
    ((put base relativePath).elim (.ok ()) .error,
      { s with puts := s.puts ++ [.putACL base relativePath gid mode] })
  | .queryChildren _ _ resume, s =>
    match s.rest with
    | [] => (.error OneFS.notFound, s)
    | page :: rest =>
      if resume = s.token then (.ok page, ⟨page.resume, rest, s.puts⟩) else (.error OneFS.notFound, s)

def childPages (put : Str → Str → Option Err) : World AclCall AclCall.Reply Err ChildPages :=
  ⟨ChildPages.serve put⟩

structure RecursiveOwnership where
  gid : Int
  workerCount : Nat
  order : MapOrder (Str × Bool)
  put : Str → Str → Option Err

namespace RecursiveOwnership

open IsiService

variable (pages : List ContainerChildList)

def allChildren : List ContainerChild :=
  pages.flatMap ContainerChildList.children

variable (o : RecursiveOwnership)

def work : List (Str × Bool) :=
  o.order.order (childrenByPath (allChildren pages) [])

def update (x : Str × Bool) : Option Err :=
  match (run (childPages o.put) (setPathGroupOwnership x.1 o.gid x.2) ⟨[], [], []⟩).1 with
  | .ok _ => none
  | .error e => some (.wrapped (sprintf ["failed to set group ownership on ", x.1, ": ", e.text]) e)

/-- The requests that an update sends. -/
def requests (x : Str × Bool) : List AclCall :=
  (run (childPages o.put) (setPathGroupOwnership x.1 o.gid x.2) ⟨[], [], []⟩).2.puts

def shape : CrewShape where
  queueSize := (o.work pages).length
  resultsSize := (o.work pages).length
  collects := true

abbrev Step (o : RecursiveOwnership) (pages : List ContainerChildList) :
    Crew o.workerCount (Str × Bool) (Option Err) → Crew o.workerCount (Str × Bool) (Option Err) → Prop :=
  Crew.Step (o.shape pages) o.update

def pool :
    Crew o.workerCount (Str × Bool) (Option Err) :=
  .start _ _ (o.work pages)

structure Collected (o : RecursiveOwnership) (pages : List ContainerChildList)
    (c : Crew o.workerCount (Str × Bool) (Option Err)) : Prop where
  closed : c.closed = true
  results : c.collected.length = (o.work pages).length

def result (results : List (Option Err)) :
    Except Err Unit :=
  match results.reduceOption with
  | [] => .ok ()
  | e :: errors => .error (.plain (sprintf ["recursive ownership failed for ",
      natToStr (e :: errors).length, "/", natToStr (o.work pages).length, " files: ", e.text]))

/-- The updates requested by the time that the function returns, and what it returns; without
children there is no worker. -/
inductive Returns (o : RecursiveOwnership) (pages : List ContainerChildList) :
    List AclCall → Except Err Unit → Prop
  | none : o.work pages = [] → Returns o pages [] (.ok ())
  | pool (c) : o.work pages ≠ [] → Relation.ReflTransGen (o.Step pages) (o.pool pages) c →
    o.Collected pages c → Returns o pages (c.treated.flatMap o.requests) (o.result pages c.collected)

def isContainer (c : ContainerChild) : Bool := c.type = some ("container" : Str)

/-- The child that stands for a path that several of them have. -/
def lastChild (children : List ContainerChild) (p : Str) : Option ContainerChild :=
  (children.filter fun c => childPath c = some p).getLast?

def childPaths : List Str :=
  ((allChildren pages).filterMap childPath).dedup

/-- The part of a path that names its namespace, and the rest. -/
def target (p : Str) : Str × Str := ((splitN3 p).map Prod.snd).getD ([], [])

def ownershipPut (p : Str) : AclCall :=
  .putACL (target p).1 (target p).2 o.gid
    (if (lastChild (allChildren pages) p).any isContainer then directoryMode else fileMode)

variable {o pages}

theorem run_queryAllChildren_pages (h : Paged pages) {put : Str → Str → Option Err}
    (hn : pages.length ≤ n) (token : Str) (found : List ContainerChild) :
    run (childPages put) (queryAllChildren base relativePath n token found) ⟨token, pages, puts⟩ =
      (.ok (found ++ allChildren pages), ⟨[], [], puts⟩) := by
  induction h generalizing n token found with
  | last page hlast =>
    obtain ⟨n, rfl⟩ : ∃ m, n = m + 1 := ⟨n - 1, by simp at hn; omega⟩
    rw [queryAllChildren, tryAcl, run_ask_bind]
    simp [childPages, ChildPages.serve, hlast, allChildren]
  | more page pages hmore _ ih =>
    obtain ⟨n, rfl⟩ : ∃ m, n = m + 1 := ⟨n - 1, by simp at hn; omega⟩
    rw [queryAllChildren, tryAcl, run_ask_bind]
    simp only [childPages, ChildPages.serve, if_true, hmore, if_false]
    have hrest := ih (by simpa using hn) page.resume (found ++ page.children)
    rw [childPages] at hrest
    rw [hrest]
    simp [allChildren]

theorem lastChild_cons (child : ContainerChild) (children : List ContainerChild) (p : Str) :
    lastChild (child :: children) p =
      (lastChild children p).or (if childPath child = some p then some child else none) := by
  unfold lastChild
  by_cases hp : childPath child = some p
  · rw [List.filter_cons_of_pos (by simp [hp]), List.getLast?_cons, if_pos hp]
    cases (children.filter fun c => childPath c = some p).getLast? <;> rfl
  · rw [List.filter_cons_of_neg (by simp [hp]), if_neg hp, Option.or_none]

theorem lookup_childrenByPath (children : List ContainerChild) (found : List (Str × Bool)) (p : Str) :
    (childrenByPath children found).lookup p =
      ((lastChild children p).map isContainer).or (found.lookup p) := by
  induction children generalizing found with
  | nil => rfl
  | cons child children ih =>
    rw [lastChild_cons]
    obtain ⟨path, name, type⟩ := child
    cases path with
    | none => simp [childrenByPath, ih, childPath]
    | some q =>
      cases name with
      | none => simp [childrenByPath, ih, childPath]
      | some n =>
        rw [childrenByPath, ih, lookup_assign]
        cases lastChild children p with
        | some c => simp
        | none =>
          by_cases hp : p = join [q, n]
          · subst hp
            simp only [childPath, if_true]
            rfl
          · simp [hp, childPath, Ne.symm hp]

theorem nodup_childrenByPath (children : List ContainerChild) (h : (found.map Prod.fst).Nodup) :
    ((childrenByPath children found).map Prod.fst).Nodup := by
  induction children generalizing found with
  | nil => exact h
  | cons child children ih =>
    obtain ⟨path, name, type⟩ := child
    cases path with
    | none => exact ih h
    | some q =>
      cases name with
      | none => exact ih h
      | some n => exact ih (nodup_keys_assign h)

theorem nodup_work : ((o.work pages).map Prod.fst).Nodup :=
  ((o.order.perm _).map Prod.fst).nodup_iff.2 (nodup_childrenByPath _ List.nodup_nil)

theorem mem_work : (p, d) ∈ o.work pages ↔
    ∃ c, lastChild (allChildren pages) p = some c ∧ d = isContainer c := by
  have hnodup := nodup_childrenByPath (allChildren pages) (show ([].map Prod.fst).Nodup from
    List.nodup_nil)
  rw [work, o.order.mem_order, ← lookup_eq_some_iff hnodup, lookup_childrenByPath]
  simp [eq_comm]

theorem result_eq_ok : o.result pages results = .ok () ↔ ∀ r ∈ results, r = none := by
  rw [result]
  cases h : results.reduceOption with
  | nil =>
    refine ⟨fun _ r hr => ?_, fun _ => rfl⟩
    cases r with
    | none => rfl
    | some e =>
      have hmem := List.reduceOption_mem_iff.2 hr
      rw [h] at hmem
      cases hmem
  | cons e errors =>
    refine ⟨fun hok => absurd hok (by simp), fun hall => ?_⟩
    have hmem : some e ∈ results := List.reduceOption_mem_iff.1 (h ▸ List.mem_cons_self)
    cases hall _ hmem

theorem run_setPathGroupOwnership_eq (x : Str × Bool) (s : ChildPages) :
    run (childPages o.put) (setPathGroupOwnership x.1 o.gid x.2) s =
      ((run (childPages o.put) (setPathGroupOwnership x.1 o.gid x.2) ⟨[], [], []⟩).1,
        { s with puts := s.puts ++ o.requests x }) := by
  unfold requests setPathGroupOwnership
  cases splitN3 x.1 with
  | none => simp [run]
  | some parts =>
    obtain ⟨a, base, relativePath⟩ := parts
    dsimp only
    rw [run_ask_bind, run_ask_bind]
    simp only [childPages, ChildPages.serve]
    cases o.put base relativePath <;> simp

/-- An update of a path with its three parts is one request, and fails if this does. -/
theorem update_of_parts (hp : (splitN3 p).isSome = true) (d : Bool) :
    o.requests (p, d) = [.putACL (target p).1 (target p).2 o.gid (modeOf d)] ∧
      (o.update (p, d) = none ↔ o.put (target p).1 (target p).2 = none) := by
  obtain ⟨⟨a, base, relativePath⟩, hsplit⟩ := Option.isSome_iff_exists.1 hp
  unfold requests update setPathGroupOwnership target
  rw [hsplit]
  dsimp only [Option.map_some, Option.getD_some]
  rw [run_ask_bind]
  simp only [childPages, ChildPages.serve]
  cases o.put base relativePath <;> simp [modeOf]

theorem mem_childPaths : p ∈ childPaths pages ↔
    ∃ c, lastChild (allChildren pages) p = some c := by
  rw [childPaths, List.mem_dedup, List.mem_filterMap, ← Option.isSome_iff_exists, lastChild,
    List.getLast?_isSome]
  simp [List.filter_eq_nil_iff]

theorem work_paths : ((o.work pages).map Prod.fst).Perm (childPaths pages) := by
  have hnodup : (childPaths pages).Nodup := List.nodup_dedup _
  refine (List.perm_ext_iff_of_nodup nodup_work hnodup).2 fun p => ?_
  rw [mem_childPaths, List.mem_map]
  constructor
  · rintro ⟨⟨p, d⟩, hx, rfl⟩
    obtain ⟨c, hc, -⟩ := mem_work.1 hx
    exact ⟨c, hc⟩
  · rintro ⟨c, hc⟩
    exact ⟨(p, isContainer c), mem_work.2 ⟨c, hc, rfl⟩, rfl⟩

theorem work_requests (hparts : ∀ p ∈ childPaths pages, (splitN3 p).isSome = true) :
    ((o.work pages).flatMap o.requests).Perm ((childPaths pages).map (o.ownershipPut pages)) := by
  have hone : ∀ x ∈ o.work pages, o.requests x = [o.ownershipPut pages x.1] := by
    rintro ⟨p, d⟩ hx
    obtain ⟨c, hc, rfl⟩ := mem_work.1 hx
    rw [(update_of_parts (hparts p (mem_childPaths.2 ⟨c, hc⟩)) _).1, ownershipPut, hc]
    rfl
  have hpaths : ((o.work pages).map Prod.fst).Perm (childPaths pages) := work_paths
  replace hpaths := hpaths.map (o.ownershipPut pages)
  rw [List.map_map] at hpaths
  rw [List.flatMap_congr hone, ← List.map_eq_flatMap]
  exact hpaths

/-- Recursive ownership, for any pages, workers, schedule and failing updates: one update for each
path, with the mode of its kind, and success exactly if all of them succeed. -/
theorem returns_covers (hpages : Paged pages) (hn : 0 < o.workerCount)
    (hparts : ∀ p ∈ childPaths pages, (splitN3 p).isSome = true) :
    (∀ base relativePath n, pages.length ≤ n →
      (run (childPages o.put) (queryAllChildren base relativePath n [] []) ⟨[], pages, []⟩).1 =
        .ok (allChildren pages)) ∧
    (∃ puts r, o.Returns pages puts r) ∧
    (∀ puts r, o.Returns pages puts r →
      puts.Perm ((childPaths pages).map (o.ownershipPut pages)) ∧
      (r = .ok () ↔ ∀ p ∈ childPaths pages, o.put (target p).1 (target p).2 = none)) ∧
    ¬ Endless (o.Step pages) (o.pool pages) ∧
    (∀ c, Relation.ReflTransGen (o.Step pages) (o.pool pages) c →
      (c.Over (o.shape pages) ∨ ∃ t, o.Step pages c t) ∧
      (o.Collected pages c →
        ∀ w, c.hands w = .stopped ∨ ∃ t, o.Step pages c t ∧ t.hands w ≠ c.hands w)) := by
  have hsize : (o.work pages).length ≤ (o.shape pages).resultsSize := Nat.le_refl _
  have hstart : (o.pool pages).Sound (o.shape pages) o.update (o.work pages) := Crew.sound_start ..
  have hcompletes := Crew.completes hn hsize o.update
  refine ⟨fun base relativePath n hle => ?_, ?_, ?_, hcompletes.not_endless hstart, ?_⟩
  · rw [run_queryAllChildren_pages hpages hle]
    rfl
  · by_cases hwork : o.work pages = []
    · exact ⟨_, _, .none hwork⟩
    obtain ⟨c, hrun, hover⟩ := hcompletes.reaches_done hstart
    refine ⟨_, _, .pool c hwork hrun ⟨hover.closed, ?_⟩⟩
    have hperm := ((hcompletes.invariant hstart hrun).of_over hn hover).2.length_eq
    simpa [hover.collected rfl] using hperm
  · intro puts r hreturns
    have hperm : puts.Perm ((o.work pages).flatMap o.requests) ∧
        (r = .ok () ↔ ∀ x ∈ o.work pages, o.update x = none) := by
      cases hreturns with
      | none hwork => exact ⟨by simp [hwork], by simp [hwork]⟩
      | pool c _ hrun hcollected =>
        obtain ⟨htreated, hresults⟩ :=
          (hcompletes.invariant hstart hrun).of_collected hcollected.results
        refine ⟨htreated.flatMap_right _, result_eq_ok.trans ?_⟩
        simp only [hresults.mem_iff, List.forall_mem_map]
    refine ⟨hperm.1.trans (work_requests hparts), hperm.2.trans ?_⟩
    have hpaths : (∀ x ∈ o.work pages, o.put (target x.1).1 (target x.1).2 = none) ↔
        ∀ p ∈ childPaths pages, o.put (target p).1 (target p).2 = none := by
      simp only [← work_paths (o := o).mem_iff, List.forall_mem_map]
    refine Iff.trans (forall₂_congr fun x hx => ?_) hpaths
    have hx' := work_paths.mem_iff.1 (List.mem_map_of_mem hx)
    exact (update_of_parts (hparts _ hx') x.2).2
  · intro c hrun
    have hsound := hcompletes.invariant hstart hrun
    refine ⟨?_, fun hcollected w => ?_⟩
    · by_cases hover : c.Over (o.shape pages)
      · exact .inl hover
      · exact .inr (hcompletes.advances hsound hover)
    rcases hsound.hand_moves hsize w with hw | ⟨_, _, hopen⟩ | hmove
    · exact .inl hw
    · simp [hcollected.closed] at hopen
    · exact .inr hmove

def twoPages : List ContainerChildList :=
  [⟨[⟨some "/ifs/data/v", some "d", some "container"⟩], "next"⟩,
    ⟨[⟨some "/ifs/data/v/d", some "f", some "object"⟩,
      ⟨some "/ifs/data/v", some "d", some "container"⟩], []⟩]

/-- The update of the file fails. -/
def twoWorkers : RecursiveOwnership :=
  ⟨1000, 2, listOrder, fun _ path => if path = "data/v/d/f" then some .deadline else none⟩

theorem returns_covers_twoPages : ∃ puts r, twoWorkers.Returns twoPages puts r ∧
    puts.Perm [.putACL "ifs" "data/v/d" 1000 0o2770, .putACL "ifs" "data/v/d/f" 1000 0o660] ∧
    r ≠ .ok () := by
  have hpages : Paged twoPages := .more _ _ (by decide) (.last _ rfl)
  obtain ⟨_, ⟨puts, r, hr⟩, hreturns, _⟩ :=
    returns_covers (o := twoWorkers) hpages (by decide) (by decide)
  obtain ⟨hputs, hok⟩ := hreturns puts r hr
  refine ⟨puts, r, hr, ?_, fun h => ?_⟩
  · exact hputs.trans (by decide)
  · exact absurd (hok.1 h "/ifs/data/v/d/f" (by decide)) (by decide)

theorem run_chownChildren_pages (work : List (Str × Bool)) (s : ChildPages) :
    run (childPages o.put) (chownChildren o.gid work) s =
      (.ok (work.map o.update).reduceOption,
        { s with puts := s.puts ++ work.flatMap o.requests }) := by
  induction work generalizing s with
  | nil => simp [chownChildren]
  | cons x work ih =>
    rw [chownChildren, run_bind, run_attempt, run_setPathGroupOwnership_eq]
    dsimp only
    rw [run_bind, ih]
    simp only [List.map_cons, List.flatMap_cons, ← List.append_assoc, update]
    cases (run (childPages o.put) (setPathGroupOwnership x.1 o.gid x.2) ⟨[], [], []⟩).1 with
    | ok _ => rfl
    | error e => rfl

/-- The loop that does the work in one order is one of the ways in which the pool may do it. -/
theorem setVolumeGroupOwnershipRecursive_returns (hpages : Paged pages) (hn : 0 < o.workerCount)
    (hsplit : (splitN3 (sprintf [isiPath, "/", name])).isSome = true) (hle : pages.length ≤ n) :
    let s := run (childPages o.put)
      (setVolumeGroupOwnershipRecursive n o.order isiPath name o.gid) ⟨[], pages, []⟩
    o.Returns pages s.2.puts s.1 := by
  intro s
  obtain ⟨⟨a, base, relativePath⟩, hparts⟩ := Option.isSome_iff_exists.1 hsplit
  have hs : s = run (childPages o.put)
      (if childrenByPath (allChildren pages) [] = [] then ret ()
      else do
        match ← chownChildren o.gid (o.work pages) with
        | [] => ret ()
        | e :: errors => fail (.plain (sprintf ["recursive ownership failed for ",
            natToStr (e :: errors).length, "/",
            natToStr (childrenByPath (allChildren pages) []).length, " files: ", e.text])))
      ⟨[], [], []⟩ := by
    simp only [s, setVolumeGroupOwnershipRecursive]
    rw [hparts]
    dsimp only
    rw [run_bind, run_queryAllChildren_pages hpages hle]
    rfl
  have hlength : (o.work pages).length = (childrenByPath (allChildren pages) []).length :=
    (o.order.perm _).length_eq
  by_cases hwork : o.work pages = []
  · have hnone : childrenByPath (allChildren pages) [] = [] := by
      rw [hwork] at hlength
      exact List.length_eq_zero_iff.1 hlength.symm
    rw [hs, if_pos hnone]
    exact .none hwork
  · have hsome : childrenByPath (allChildren pages) [] ≠ [] := by
      intro hnone
      rw [hnone] at hlength
      exact hwork (List.length_eq_zero_iff.1 hlength)
    have hsize : (o.work pages).length ≤ (o.shape pages).resultsSize := Nat.le_refl _
    obtain ⟨c, hrun, hclosed, htreated, hcollected⟩ := Crew.one_by_one hn hsize rfl o.update
    have hreturns := Returns.pool c hwork hrun ⟨hclosed, by rw [hcollected, List.length_map]⟩
    rw [htreated, hcollected, result, hlength] at hreturns
    rw [hs, if_neg hsome, run_bind, run_chownChildren_pages]
    dsimp only
    revert hreturns
    cases ((o.work pages).map o.update).reduceOption with
    | nil => exact id
    | cons e errors => exact id

end RecursiveOwnership

end CsiPowerscale
