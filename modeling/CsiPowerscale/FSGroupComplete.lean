import Mathlib.Data.List.Flatten
import CsiPowerscale.FSGroupRuns

namespace CsiPowerscale
open GoLib Effects

variable (tree : StagedTree)

def StagedTree.all : List Entry := ⟨[], .dir⟩ :: tree.listing.entries []

def StagedTree.nameOf (path : List Str) : Str := path.getLast?.getD tree.name

structure FSGroupRequest.Wants (req : FSGroupRequest) (gid : Int) : Prop where
  group : parseInt64 req.fsGroup = some gid
  positive : 0 < gid
  rootClient : req.rootClientEnabled = ("true" : Str)
  fsType : req.fsType ≠ []
  mode : req.accessMode = .singleNodeWriter ∨ req.accessMode = .singleNodeMultiWriter

namespace NodeService

/-- Every entry but state files has the group. -/
def Complete (gid : Int) (v : ChownVolume) : Prop :=
  ∀ e ∈ tree.all, isStateName (tree.nameOf e.path) = false → (v.attrs e.path).gid = gid

def WalkedAround (done : List Str) (path : List Str) : Prop :=
  ∃ q, q <+: path ∧ q ≠ [] ∧ skips done q = true

/-- The call does not change the entry at this path: the root makes it believe that all is done, the
entry or a directory above it is recorded or named as a state file, or the staging path is. -/
def PassedBy (a : ChownAttempt) (gid : Int) (v : ChownVolume) (path : List Str) :
    Prop :=
  if alreadyApplied a gid v then True
  else if a.opts.enableDriverFSGroupChown then WalkedAround (completedBefore a v) path
  else isStateName tree.name = true ∨ WalkedAround [] path

/-- What the call passes by has the group already. -/
def Covered (a : ChownAttempt) (gid : Int) (v : ChownVolume) : Prop :=
  ∀ e ∈ tree.all, isStateName (tree.nameOf e.path) = false → PassedBy tree a gid v e.path →
    (v.attrs e.path).gid = gid

theorem wantedGroup_eq (h : req.Wants gid) : wantedGroup req = .ok (some gid) := by
  have hne : req.fsGroup ≠ [] := by
    intro hnil
    have hgroup := h.group
    rw [hnil] at hgroup
    cases hgroup
  have hmode : ¬(req.accessMode ≠ .singleNodeWriter ∧ req.accessMode ≠ .singleNodeMultiWriter) := by
    rcases h.mode with hmode | hmode <;> simp [hmode]
  have hpos : ¬gid ≤ 0 := by
    have := h.positive
    omega
  simp [wantedGroup, hne, h.group, hpos, h.rootClient, h.fsType, hmode]

theorem startsWith_tmp (name : Str) : startsWith name (name ++ ".tmp.") = false := by
  rw [startsWith, Bool.eq_false_iff]
  intro h
  have hle := (List.isPrefixOf_iff_prefix.1 h).length_le
  rw [List.length_append] at hle
  have hpos : 0 < (".tmp." : Str).length := by decide
  omega

theorem states_removeTemps (v : ChownVolume) (name : Str) :
    (v.removeTemps name).states name = v.states name := by
  simp [ChownVolume.removeTemps, startsWith_tmp]

theorem alreadyApplied_removeTemps (a : ChownAttempt) (gid : Int) (v : ChownVolume) :
    alreadyApplied a gid (v.removeTemps (stateFileName a.opts.nodeID)) = alreadyApplied a gid v := by
  rw [alreadyApplied, alreadyApplied, states_removeTemps]
  rfl

theorem completedBefore_removeTemps (a : ChownAttempt) (v : ChownVolume) :
    completedBefore a (v.removeTemps (stateFileName a.opts.nodeID)) = completedBefore a v := by
  rw [completedBefore, completedBefore, states_removeTemps]

variable {tree : StagedTree} {opts : ChownOptions} {fsGroup : Str} {gid : Int} {done : List Str}
  {a : ChownAttempt} {v u : ChownVolume} {start : ChownStart}

theorem startChown_cases (h : a.req.Wants gid) (hstart : startChown a v = (start, u)) :
    u.attrs = v.attrs ∧ (alreadyApplied a gid v = true ∧ start = .returned (.ok ()) ∨
        alreadyApplied a gid v = false ∧ ((∃ e, start = .returned (.error e)) ∨
          a.opts.enableDriverFSGroupChown = true ∧ start = .parallel gid (completedBefore a v) ∨
          a.opts.enableDriverFSGroupChown = false ∧ start = .sequential gid)) := by
  simp only [startChown, wantedGroup_eq h, alreadyApplied_removeTemps, completedBefore_removeTemps]
    at hstart
  cases happ : alreadyApplied a gid v with
  | true =>
    rw [happ, if_pos rfl] at hstart
    cases hstart
    exact ⟨rfl, .inl ⟨rfl, rfl⟩⟩
  | false =>
    rw [happ, if_neg Bool.false_ne_true] at hstart
    cases hdriver : a.opts.enableDriverFSGroupChown with
    | true =>
      rw [hdriver, if_pos rfl] at hstart
      cases hroot : a.reads.openRoot with
      | none =>
        rw [hroot] at hstart
        cases hstart
        exact ⟨rfl, .inr ⟨rfl, .inr (.inl ⟨rfl, rfl⟩)⟩⟩
      | some e =>
        rw [hroot] at hstart
        cases hstart
        exact ⟨rfl, .inr ⟨rfl, .inl ⟨_, rfl⟩⟩⟩
    | false =>
      rw [hdriver, if_neg Bool.false_ne_true] at hstart
      cases hroot : a.reads.openRoot with
      | none =>
        rw [hroot] at hstart
        cases hstart
        exact ⟨rfl, .inr ⟨rfl, .inr (.inr ⟨rfl, rfl⟩)⟩⟩
      | some e =>
        rw [hroot] at hstart
        cases hstart
        exact ⟨rfl, .inr ⟨rfl, .inl ⟨_, rfl⟩⟩⟩

theorem mem_walked_iff (tree : StagedTree) (done : List Str) (he : e ∈ tree.all) :
    e.path ∈ (StagedTree.walked tree done).map Entry.path ↔ ¬WalkedAround done e.path := by
  have haround : ¬WalkedAround done e.path ↔
      ∀ q, q <+: e.path → ([] : List Str).length < q.length → skips done q = false := by
    simp only [WalkedAround, not_exists, not_and, Bool.not_eq_true, List.length_nil,
      List.length_pos_iff]
  rw [haround]
  rcases List.mem_cons.1 he with rfl | he
  · refine iff_of_true List.mem_cons_self fun q hq hlt => ?_
    have := hq.length_le
    simp only [List.length_nil] at this hlt
    omega
  have hne : e.path ≠ [] := by
    obtain ⟨name, -, q, hq⟩ := Listing.path_of_mem he
    simp [hq]
  have hwalk : WalkStack.walk (skips done) [([], tree.listing)] = tree.listing.walk (skips done) [] := by
    simp [WalkStack.walk]
  rw [StagedTree.walked, List.map_cons, List.mem_cons, or_iff_right hne, hwalk, List.mem_map]
  constructor
  · rintro ⟨e', he', hpath⟩
    rw [← hpath]
    exact (Listing.mem_walk.1 he').2
  · intro hall
    exact ⟨e, Listing.mem_walk.2 ⟨he, hall⟩, rfl⟩

@[simp] theorem gid_chmod {job : ChownJob} : (job.chmod x).gid = x.gid := by
  unfold ChownJob.chmod
  split <;> rfl

theorem gid_appliedAttrs (tree : StagedTree) (gid : Int) (attrs : List Str → FileAttr)
    (he : e ∈ tree.all) :
    (¬WalkedAround done e.path → (appliedAttrs tree gid done attrs e.path).gid = gid) ∧
      (WalkedAround done e.path → appliedAttrs tree gid done attrs e.path = attrs e.path) := by
  have hmem := mem_walked_iff tree done he
  unfold appliedAttrs
  split
  · next x hfind =>
    have hpath : x.path = e.path := by simpa using List.find?_some hfind
    have hwalked := hmem.1 (hpath ▸ List.mem_map_of_mem (List.mem_of_find?_eq_some hfind))
    exact ⟨fun _ => gid_chmod, fun haround => absurd haround hwalked⟩
  next hfind =>
  refine ⟨fun haround => ?_, fun _ => rfl⟩
  obtain ⟨x, hx, hpath⟩ := List.mem_map.1 (hmem.2 haround)
  exact absurd (decide_eq_true hpath) (List.find?_eq_none.1 hfind x hx)

theorem complete_iff_of_attrs
    (hended : ∀ e ∈ tree.all, ¬PassedBy tree a gid v e.path → (t.attrs e.path).gid = gid)
    (hother : ∀ e ∈ tree.all, PassedBy tree a gid v e.path → t.attrs e.path = v.attrs e.path) :
    Complete tree gid t ↔ Covered tree a gid v := by
  constructor
  · intro hcomplete e he hname hpassed
    rw [← hother e he hpassed]
    exact hcomplete e he hname
  · intro hcovered e he hname
    by_cases hpassed : PassedBy tree a gid v e.path
    · rw [hother e he hpassed]
      exact hcovered e he hname hpassed
    · exact hended e he hpassed

theorem parallel_attrs
    (hrun : Logged (ChownStep tree opts fsGroup gid) Chown.Ends (.init opts.chownWorkers done u)
      log c) (hjoined : c.Joined) (hlive : c.ctx = .live) :
    c.volume.attrs = appliedAttrs tree gid done u.attrs :=
  attrs_of_finished (finished_of_joined hrun hjoined hlive) (left_init tree gid done _ u)

theorem sequential_attrs
    (hrun : Logged (SequentialStep tree gid) SequentialChown.Ends ⟨u, .root⟩ log s)
    (hreturned : s.walker = .returned (.ok ())) : s.volume.attrs =
      if isStateName tree.name then u.attrs else appliedAttrs tree gid [] u.attrs := by
  have hfinished := finished_of_returned hrun hreturned
  split
  · next hname =>
    funext q
    apply hfinished.other
    simp [oneWalk, SequentialWalker.left, hname]
  · next hname =>
    apply attrs_of_finished hfinished
    simp [SequentialWalker.left, hname]

/-- A call without an error leaves every entry with the group if and only if the entries that it
passes by had it before, whatever earlier calls have left. -/
theorem applyFSGroupToExportBackedVolume_complete_iff (tree : StagedTree) (a : ChownAttempt) (gid : Int)
    (v t : ChownVolume) (h : a.req.Wants gid) (hok : AppliesFSGroup tree a v (.returned (.ok ())) t) :
    Complete tree gid t ↔ Covered tree a gid v := by
  cases hok with
  | early r t hstart =>
    obtain ⟨hattrs, ⟨happ, -⟩ | ⟨-, ⟨e, he⟩ | ⟨-, he⟩ | ⟨-, he⟩⟩⟩ := startChown_cases h hstart
    · simp [Complete, Covered, PassedBy, happ, hattrs]
    · cases he
    · cases he
    · cases he
  | parallel gid' completed u c r t hstart hrun hreturns =>
    obtain ⟨hattrs, ⟨-, he⟩ | ⟨happ, ⟨e, he⟩ | ⟨hdriver, he⟩ | ⟨-, he⟩⟩⟩ := startChown_cases h hstart
    · cases he
    · cases he
    · cases he
      obtain ⟨log, hlog⟩ := Logged.of_run Chown.Ends hrun
      cases hreturns with
      | applied w hjoined _ _ _ hlive hw =>
        have hsame : (w.removeTemps (stateFileName a.opts.nodeID)).attrs =
            appliedAttrs tree gid (completedBefore a v) v.attrs := by
          rw [← hattrs, ← parallel_attrs hlog hjoined hlive]
          rcases hw with rfl | rfl <;> rfl
        have hpassed (path : List Str) : PassedBy tree a gid v path ↔
            WalkedAround (completedBefore a v) path := by
          rw [PassedBy, happ, if_neg Bool.false_ne_true, hdriver, if_pos rfl]
        apply complete_iff_of_attrs
        · intro e he hno
          rw [hsame]
          exact (gid_appliedAttrs tree gid v.attrs he).1 (mt (hpassed _).2 hno)
        · intro e he hyes
          rw [hsame]
          exact (gid_appliedAttrs tree gid v.attrs he).2 ((hpassed _).1 hyes)
    · cases he
  | sequential gid' u c r hstart hrun hreturned =>
    obtain ⟨hattrs, ⟨-, he⟩ | ⟨happ, ⟨e, he⟩ | ⟨-, he⟩ | ⟨hdriver, he⟩⟩⟩ := startChown_cases h hstart
    · cases he
    · cases he
    · cases he
    cases he
    obtain ⟨log, hlog⟩ := Logged.of_run SequentialChown.Ends hrun
    have hsame := sequential_attrs hlog hreturned
    rw [hattrs] at hsame
    have hpassed (path : List Str) : PassedBy tree a gid v path ↔
        isStateName tree.name = true ∨ WalkedAround [] path := by
      rw [PassedBy, happ, if_neg Bool.false_ne_true, hdriver, if_neg Bool.false_ne_true]
    apply complete_iff_of_attrs
    · intro e he hno
      obtain ⟨hname, haround⟩ := not_or.1 (mt (hpassed _).2 hno)
      rw [hsame, if_neg hname]
      exact (gid_appliedAttrs tree gid v.attrs he).1 haround
    intro e he hyes
    rw [hsame]
    split
    · rfl
    · next hname =>
      exact (gid_appliedAttrs tree gid v.attrs he).2 (((hpassed _).1 hyes).resolve_left hname)

theorem plain_data : Plain "data" := by decide

def oneFile : StagedTree := ⟨"mount", .file "data" false .nil, ⟨plain_data, List.not_mem_nil, trivial⟩⟩

def groupCall (driver : Bool) : ChownAttempt where
  opts := ⟨"node", driver, 1, 1, Nat.one_pos, Nat.one_pos⟩
  req := ⟨"1000", "true", "nfs", .singleNodeWriter⟩
  reads := ⟨true, true, true, none, 0⟩

def rootOwned : ChownVolume := ⟨fun _ => ⟨0, false, 0o755⟩, fun _ => none⟩

theorem groupCall_wants (driver : Bool) : (groupCall driver).req.Wants 1000 := by
  have hgroup : parseInt64 "1000" = some 1000 := by decide
  have htype : ("nfs" : Str) ≠ [] := by decide
  exact ⟨hgroup, by decide, rfl, htype, .inl rfl⟩

theorem not_passedBy_oneFile (he : e ∈ oneFile.all) :
    ¬PassedBy oneFile (groupCall false) 1000 rootOwned e.path := by
  have happ : alreadyApplied (groupCall false) 1000 rootOwned = false := by decide
  have hname : ¬isStateName oneFile.name = true := by decide
  have hdata : skips [] ["data"] = false := by decide
  rw [PassedBy, happ, if_neg Bool.false_ne_true]
  rintro (h | ⟨q, hq, hne, hskip⟩)
  · exact hname h
  rcases List.mem_cons.1 he with rfl | he
  · exact hne (List.prefix_nil.1 hq)
  rw [List.mem_singleton.1 he] at hq
  rcases List.prefix_cons_iff.1 hq with rfl | ⟨r, rfl, hr⟩
  · exact hne rfl
  · rw [List.prefix_nil.1 hr, hdata] at hskip
    cases hskip

theorem oneFile_sequential (gid : Int) (v : ChownVolume) : ∃ t,
    Relation.ReflTransGen (SequentialStep oneFile gid) ⟨v, .root⟩ ⟨t, .returned (.ok ())⟩ := by
  constructor
  refine .head (.rootLchown _ rfl (by decide)) ?_
  refine .head (.rootChmod _ _ rfl) ?_
  refine .head (.lchown _ _ ⟨["data"], .file⟩ [([], .nil)] rfl (by decide)) ?_
  refine .head (.chmod _ _ _ rfl) ?_
  refine .head (.pass _ _ [] rfl rfl) ?_
  exact .single (.walkEnds _ rfl)

theorem applyFSGroupToExportBackedVolume_complete_oneFile :
    ∃ t, AppliesFSGroup oneFile (groupCall false) rootOwned (.returned (.ok ())) t ∧
      Complete oneFile 1000 t := by
  obtain ⟨t, hrun⟩ := oneFile_sequential 1000 (startChown (groupCall false) rootOwned).2
  have hok : AppliesFSGroup oneFile (groupCall false) rootOwned (.returned (.ok ())) t :=
    .sequential 1000 _ ⟨t, _⟩ (.ok ()) rfl hrun rfl
  refine ⟨t, hok, ?_⟩
  apply (applyFSGroupToExportBackedVolume_complete_iff _ _ 1000 _ _ (groupCall_wants false) hok).2
  intro e he _ hpassed
  exact absurd hpassed (not_passedBy_oneFile he)

/-- The process ends after the root has the group: the next call takes the volume for done, and the
file keeps its group. -/
theorem applyFSGroupToExportBackedVolume_skips_file :
    ∃ u t, AppliesFSGroup oneFile (groupCall true) rootOwned .crashed u ∧
      AppliesFSGroup oneFile (groupCall true) u (.returned (.ok ())) t ∧ ¬Complete oneFile 1000 t := by
  let v₀ := rootOwned.removeTemps (stateFileName "node")
  let v₁ := v₀.lchown [] 1000
  let v₂ := v₁.chmod ⟨[], .dir, v₀.attrs []⟩
  let start (v : ChownVolume) : Chown (groupCall true).opts.chownWorkers := .init _ [] v
  have hrun : Relation.ReflTransGen (ChownStep oneFile (groupCall true).opts "1000" 1000) (start v₀)
      { start v₂ with walker := .walking [([], oneFile.listing)] } := by
    refine .head (.rootLchown (start v₀) rfl rfl) ?_
    exact .single (.rootChmod { start v₁ with walker := .rootChowned (v₀.attrs []) } _ rfl)
  have happ : alreadyApplied (groupCall true) 1000 v₂ = true := by decide
  have hstart : startChown (groupCall true) v₂ =
      (.returned (.ok ()), v₂.removeTemps (stateFileName "node")) := by
    simp only [startChown, wantedGroup_eq (groupCall_wants true), alreadyApplied_removeTemps, happ, if_true]
    rfl
  refine ⟨v₂, v₂.removeTemps (stateFileName "node"), .crashParallel 1000 [] v₀ _ rfl hrun,
    .early (.ok ()) _ hstart, ?_⟩
  intro hcomplete
  have hgid := hcomplete ⟨["data"], .file⟩ (by decide) (by decide)
  revert hgid
  decide

end NodeService

namespace NodeService

variable {tree : StagedTree} {opts : ChownOptions} {fsGroup : Str} {gid : Int} {name : Str}
  {c t : Chown opts.chownWorkers} {s : SequentialChown} {u v : ChownVolume} {done : List Str}
  {log : List ChownJob}

@[simp] theorem states_chmod (v : ChownVolume) (job : ChownJob) : (v.chmod job).states = v.states := by
  unfold ChownVolume.chmod
  split <;> rfl

theorem states_of_step (hname : name ≠ stateFileName opts.nodeID)
    (hstep : ChownStep tree opts fsGroup gid c t) : t.volume.states name = c.volume.states name := by
  have hwritten {completed : List Str} {x y : ChownVolume} (h : StateWritten opts fsGroup completed x y) :
      y.states name = x.states name := by
    rcases h with rfl | ⟨now, rfl⟩
    · rfl
    · exact Function.update_of_ne hname _ _
  cases hstep with
  | rootChmod mode hroot => exact congrFun (states_chmod c.volume ⟨[], .dir, mode⟩) name
  | chmod i job hw => exact congrFun (states_chmod c.volume job) name
  | receive path records v hrec hv =>
    split at hv
    · rw [hv]
    · exact hwritten hv
  | flush v hjoined hrec hpend hv => exact hwritten hv
  | _ => rfl

theorem states_of_run (hname : name ≠ stateFileName opts.nodeID)
    (hrun : Logged (ChownStep tree opts fsGroup gid) Chown.Ends c log t) :
    t.volume.states name = c.volume.states name := by
  induction hrun with
  | refl => rfl
  | quiet _ hstep _ ih => exact (states_of_step hname hstep).trans ih
  | ends _ hstep _ ih => exact (states_of_step hname hstep).trans ih

theorem sequential_states (hrun : Logged (SequentialStep tree gid) SequentialChown.Ends s log s') :
    s'.volume.states = s.volume.states := by
  have hstep {x y : SequentialChown} (h : SequentialStep tree gid x y) :
      y.volume.states = x.volume.states := by
    cases h with
    | rootChmod | chmod => exact states_chmod _ _
    | _ => rfl
  induction hrun with
  | refl => rfl
  | quiet _ h _ ih => exact (hstep h).trans ih
  | ends _ h _ ih => exact (hstep h).trans ih

variable {a b : ChownAttempt}

theorem startChown_parallel (h : startChown a v = (.parallel gid done, u)) :
    done = completedBefore a v ∧ u = v.removeTemps (stateFileName a.opts.nodeID) := by
  unfold startChown at h
  split at h
  · cases h
  · cases h
  dsimp only at h
  split at h
  · cases h
  split at h
  · split at h
    · cases h
    · cases h
      exact ⟨completedBefore_removeTemps a v, rfl⟩
  · split at h <;> cases h

theorem startChown_sequential (h : startChown b v = (.sequential gid, u)) :
    u = ((v.removeTemps (stateFileName b.opts.nodeID)).setState (stateFileName b.opts.nodeID)
      none).removeTemps (stateFileName b.opts.nodeID) := by
  unfold startChown at h
  split at h
  · cases h
  · cases h
  dsimp only at h
  split at h
  · cases h
  split at h
  · split at h <;> cases h
  · split at h <;> cases h
    rfl

theorem completedBefore_none (h : v.states (stateFileName a.opts.nodeID) = none) :
    completedBefore a v = [] := by
  unfold completedBefore
  rw [h]
  cases a.reads.stateRead <;> rfl

theorem parallel_log
    (hrun : Logged (ChownStep tree opts fsGroup gid) Chown.Ends (.init opts.chownWorkers done u)
      log c) (hjoined : c.Joined) (hlive : c.ctx = .live) :
    log.Perm ((StagedTree.walked tree done).map (jobAt u.attrs)) := by
  rw [← Multiset.coe_eq_coe, (finished_of_joined hrun hjoined hlive).once, left_init]

theorem sequential_log (hroot : isStateName tree.name = false)
    (hrun : Logged (SequentialStep tree gid) SequentialChown.Ends ⟨u, .root⟩ log s)
    (hreturned : s.walker = .returned (.ok ())) :
    log.Perm ((StagedTree.walked tree []).map (jobAt u.attrs)) := by
  rw [← Multiset.coe_eq_coe, (finished_of_returned hrun hreturned).once]
  simp [oneWalk, SequentialWalker.left, hroot]

/-- A call with the pipeline and one with the one walk, on a volume without a state file of this
node: when neither fails and the pipeline removes its state file, they leave the same volume. -/
theorem parallel_eq_sequential (tree : StagedTree) (a b : ChownAttempt) (gid : Int)
    (v u w t : ChownVolume) (done : List Str) (c : Chown a.opts.chownWorkers) (s : SequentialChown)
    (log log' : List ChownJob) (hroot : isStateName tree.name = false)
    (hnode : b.opts.nodeID = a.opts.nodeID) (hnone : v.states (stateFileName a.opts.nodeID) = none)
    (hpar : startChown a v = (.parallel gid done, u)) (hseq : startChown b v = (.sequential gid, w))
    (hrun : Logged (ChownStep tree a.opts a.req.fsGroup gid) Chown.Ends
      (.init a.opts.chownWorkers done u) log c)
    (hreturns : ChownReturns a.opts c (.ok ()) t)
    (hremoved : t = (c.volume.setState (stateFileName a.opts.nodeID) none).removeTemps
      (stateFileName a.opts.nodeID))
    (hrun' : Logged (SequentialStep tree gid) SequentialChown.Ends ⟨w, .root⟩ log' s)
    (hreturned : s.walker = .returned (.ok ())) :
    t = s.volume ∧ log.Perm log' ∧ (log.map ChownJob.path).Nodup ∧
      (∀ e ∈ tree.all, e.path ∈ log.map ChownJob.path ↔ ¬WalkedAround [] e.path) ∧
      ∀ name, name = stateFileName a.opts.nodeID ∨
        startsWith name (stateFileName a.opts.nodeID ++ ".tmp.") = true ∨ v.states name = none →
          t.states name = none := by
  obtain ⟨rfl, rfl⟩ := startChown_parallel hpar
  obtain rfl := startChown_sequential hseq
  rw [completedBefore_none hnone] at hrun
  obtain ⟨hjoined, hlive⟩ : c.Joined ∧ c.ctx = .live := by
    cases hreturns with
    | applied _ hjoined _ _ _ hlive _ => exact ⟨hjoined, hlive⟩
  have hlog := parallel_log hrun hjoined hlive
  have hlog' := sequential_log hroot hrun' hreturned
  have hpaths : (log.map ChownJob.path).Perm ((StagedTree.walked tree []).map Entry.path) := by
    have hmap := hlog.map ChownJob.path
    rwa [List.map_map] at hmap
  have hattrs : t.attrs = s.volume.attrs := by
    have hseq := sequential_attrs hrun' hreturned
    rw [hroot, if_neg Bool.false_ne_true] at hseq
    have hpar := parallel_attrs hrun hjoined hlive
    rw [hremoved, hseq]
    exact hpar
  have hstates (name : Str) : t.states name = s.volume.states name ∧
      (name = stateFileName a.opts.nodeID ∨
        startsWith name (stateFileName a.opts.nodeID ++ ".tmp.") = true ∨ v.states name = none →
          t.states name = none) := by
    rw [sequential_states hrun', hnode, hremoved]
    by_cases hname : name = stateFileName a.opts.nodeID
    · simp [ChownVolume.removeTemps, ChownVolume.setState, hname]
    have hsame := states_of_run hname hrun
    have hstart : (Chown.init a.opts.chownWorkers []
        (v.removeTemps (stateFileName a.opts.nodeID))).volume.states name = if startsWith name
          (stateFileName a.opts.nodeID ++ ".tmp.") then none else v.states name := rfl
    simp only [ChownVolume.removeTemps, ChownVolume.setState, Function.update_of_ne hname,
      hsame.trans hstart, hname, false_or, true_and]
    split
    · exact fun _ => rfl
    · next htemp => exact fun h => h.resolve_left htemp
  refine ⟨?_, hlog.trans hlog'.symm, hpaths.nodup_iff.2 (nodup_walked tree []), fun e he => ?_,
    fun name => (hstates name).2⟩
  · have hall : t.states = s.volume.states := funext fun name => (hstates name).1
    calc t = ⟨t.attrs, t.states⟩ := rfl
      _ = s.volume := by rw [hattrs, hall]
  · rw [hpaths.mem_iff]
    exact mem_walked_iff tree [] he

theorem oneFile_parallel (fsGroup : Str) (gid : Int) (v : ChownVolume) :
    ∃ c : Chown (groupCall true).opts.chownWorkers,
      Relation.ReflTransGen (ChownStep oneFile (groupCall true).opts fsGroup gid) (.init _ [] v) c ∧
      ChownReturns (groupCall true).opts c (.ok ())
        ((c.volume.setState (stateFileName "node") none).removeTemps (stateFileName "node")) := by
  let step := ChownStep oneFile (groupCall true).opts fsGroup gid
  let at' (v : ChownVolume) (walker : ChownWalker) (jobs : List ChownJob) (workers : Fin 1 → ChownWorker)
    (records : List (List Str)) (completed : List Str) : Chown (groupCall true).opts.chownWorkers :=
    ⟨v, walker, jobs, workers, records, completed, 0, .live, none⟩
  let v₁ := v.lchown [] gid
  let v₂ := v₁.chmod ⟨[], .dir, v.attrs []⟩
  let job : ChownJob := ⟨["data"], .file, v₂.attrs ["data"]⟩
  let v₃ := v₂.lchown ["data"] gid
  let v₄ := v₃.chmod job
  let w₀ : Fin 1 → ChownWorker := fun _ => .idle
  let w₁ := Function.update w₀ 0 (.took job)
  let w₂ := Function.update w₁ 0 (.applying job)
  let w₃ := Function.update w₂ 0 (.chowned job)
  let w₄ := Function.update w₃ 0 (.recording ["data"])
  let w₅ := Function.update w₄ 0 .idle
  let w₆ := Function.update w₅ 0 .exited
  have hnext : WalkStack.next (skips []) [([], oneFile.listing)] =
      some (some ⟨["data"], .file⟩, [([], .nil)]) := by decide
  have hwalk : Relation.ReflTransGen step (at' v .root [] w₀ [] []) (at' v₂ .finished [job] w₀ [] []) := by
    refine .head (.rootLchown (at' v .root [] w₀ [] []) rfl rfl) ?_
    refine .head (.rootChmod (at' v₁ (.rootChowned (v.attrs [])) [] w₀ [] []) _ rfl) ?_
    refine .head (.visit (at' v₂ _ [] w₀ [] []) _ _ _ rfl rfl hnext) ?_
    refine .head (.send (at' v₂ (.sending job _) [] w₀ [] []) _ _ rfl (Nat.zero_lt_succ 99)) ?_
    refine .head (.pass (at' v₂ (.walking [([], .nil)]) [job] w₀ [] []) _ [] rfl rfl rfl) ?_
    exact .single (.walkEnds (at' v₂ (.walking []) [job] w₀ [] []) rfl)
  have hwork : Relation.ReflTransGen step (at' v₂ .finished [job] w₀ [] [])
      (at' v₄ .finished [] w₆ [] [joinWith "/" ["data"]]) := by
    refine .head (.take (at' v₂ .finished [job] w₀ [] []) (0 : Fin 1) job [] rfl rfl) ?_
    refine .head (.check (at' v₂ .finished [] w₁ [] []) (0 : Fin 1) job rfl rfl) ?_
    refine .head (.lchown (at' v₂ .finished [] w₂ [] []) (0 : Fin 1) job rfl) ?_
    refine .head (.chmod (at' v₃ .finished [] w₃ [] []) (0 : Fin 1) job rfl) ?_
    refine .head (.record (at' v₄ .finished [] w₄ [] []) (0 : Fin 1) ["data"] rfl (Nat.zero_le _)) ?_
    refine .head (.receive (at' v₄ .finished [] w₅ [["data"]] []) ["data"] [] v₄ rfl (.inl rfl)) ?_
    exact .single (.leave (at' v₄ .finished [] w₅ [] _) (0 : Fin 1) rfl rfl rfl)
  refine ⟨_, hwalk.trans hwork, .applied _ _ ⟨rfl, fun i => ?_⟩ rfl rfl rfl rfl (.inr rfl)⟩
  obtain rfl : i = (0 : Fin 1) := Subsingleton.elim (α := Fin 1) i 0
  rfl

theorem parallel_eq_sequential_oneFile :
    ∃ (c : Chown (groupCall true).opts.chownWorkers) (t : ChownVolume) (log log' : List ChownJob),
      Logged (ChownStep oneFile (groupCall true).opts "1000" 1000) Chown.Ends
        (.init _ [] (startChown (groupCall true) rootOwned).2) log c ∧
      Logged (SequentialStep oneFile 1000) SequentialChown.Ends
        ⟨(startChown (groupCall false) rootOwned).2, .root⟩ log' ⟨t, .returned (.ok ())⟩ ∧
      (c.volume.setState (stateFileName "node") none).removeTemps (stateFileName "node") = t ∧
      log.Perm log' ∧ (log.map ChownJob.path).Nodup := by
  obtain ⟨c, hrun, hreturns⟩ := oneFile_parallel "1000" 1000 (startChown (groupCall true) rootOwned).2
  obtain ⟨t, hrun'⟩ := oneFile_sequential 1000 (startChown (groupCall false) rootOwned).2
  obtain ⟨log, hlog⟩ := Logged.of_run Chown.Ends hrun
  obtain ⟨log', hlog'⟩ := Logged.of_run SequentialChown.Ends hrun'
  obtain ⟨hsame, hperm, hnodup, -⟩ := parallel_eq_sequential oneFile (groupCall true) (groupCall false)
    1000 rootOwned _ _ _ [] c ⟨t, _⟩ log log' (by decide) rfl rfl rfl rfl hlog hreturns rfl hlog' rfl
  exact ⟨c, t, log, log', hlog, hlog', hsame, hperm, hnodup⟩

end NodeService

namespace NodeService

def stateKeys (completed : List Str) : List Str := completed.dedup.insertionSort fun a b => a ≤ b

def EndsInSpace (s : Str) : Prop := ∃ x ∈ spaces, x <:+ s

instance (s : Str) : Decidable (EndsInSpace s) := inferInstanceAs (Decidable (∃ x ∈ spaces, _))

def fileText (first : Str) (keys : List Str) : Str := first ++ keys.flatMap fun k => 10 :: k

theorem mem_stateKeys : k ∈ stateKeys completed ↔ k ∈ completed := by
  rw [stateKeys, List.mem_insertionSort, List.mem_dedup]

theorem nodup_stateKeys (completed : List Str) : (stateKeys completed).Nodup :=
  (List.perm_insertionSort _ _).nodup_iff.2 (List.nodup_dedup completed)

theorem stateBody_eq (marker : Str) (completed : List Str) :
    stateBody marker completed = fileText marker (stateKeys completed) ++ [10] := by
  have hlines (keys : List Str) : 10 :: (keys.flatMap fun k => [k, ([10] : Str)]).flatten =
      (keys.flatMap fun k => 10 :: k) ++ [10] := by
    induction keys with
    | nil => rfl
    | cons k ks ih => simp [← ih]
  rw [fileText, List.append_assoc, ← hlines]
  rfl

section Lines

theorem split_fileText (hfirst : 10 ∉ first) (hkeys : ∀ k ∈ keys, 10 ∉ k) :
    split (fileText first keys) "\n" = first :: keys := by
  induction keys generalizing first with
  | nil =>
    rw [fileText, List.flatMap_nil, List.append_nil]
    exact split_last (separable_of_not_mem hfirst) (List.cons_ne_nil 10 [])
  | cons k ks ih =>
    have hrest := ih (hkeys k List.mem_cons_self) fun x hx => hkeys x (List.mem_cons_of_mem _ hx)
    rw [fileText, List.flatMap_cons, List.cons_append]
    refine (split_append_byte 10 first _).trans ?_
    rw [split_last (separable_of_not_mem hfirst) (List.cons_ne_nil 10 [])]
    exact congrArg (first :: ·) hrest

theorem exists_split (s : Str) : ∃ first keys, split s "\n" = first :: keys ∧
    s = fileText first keys ∧ 10 ∉ first ∧ ∀ k ∈ keys, 10 ∉ k := by
  induction hn : s.length using Nat.strong_induction_on generalizing s with
  | _ n ih =>
    have hone {x : Str} (hx : 10 ∉ x) : split x "\n" = [x] :=
      split_last (separable_of_not_mem hx) (List.cons_ne_nil 10 [])
    by_cases hmem : 10 ∈ s
    · obtain ⟨x, rest, rfl, hx⟩ := List.eq_append_cons_of_mem hmem
      obtain ⟨first, keys, hsplit, htext, hfirst, hkeys⟩ := ih rest.length (by simp [← hn]; omega) rest rfl
      refine ⟨x, first :: keys, ?_, ?_, hx, ?_⟩
      · rw [← hsplit]
        exact (split_append_byte 10 x rest).trans (congrArg (· ++ split rest "\n") (hone hx))
      · rw [htext]
        simp [fileText]
      · exact List.forall_mem_cons.2 ⟨hfirst, hkeys⟩
    · exact ⟨s, [], hone hmem, by simp [fileText], hmem, by simp⟩

theorem length_fileText_le (first : Str) (hnodup : keys.Nodup) (h : ∀ k ∈ keys, k ∈ lines) :
    (fileText first keys).length ≤ (fileText first lines).length := by
  obtain ⟨l, hperm, hsub⟩ := List.subperm_of_subset hnodup h
  rw [fileText, fileText, List.length_append, List.length_append,
    ← (hperm.flatMap_right _).length_eq]
  exact Nat.add_le_add_left (hsub.flatMap _).length_le _

end Lines

section Trim

theorem dropSpaces_suffix (n : Nat) (s : Str) : dropSpaces n s <:+ s := by
  induction n generalizing s with
  | zero => exact List.suffix_rfl
  | succ n ih =>
    rw [dropSpaces]
    split
    · exact (ih _).trans (List.drop_suffix _ _)
    · exact List.suffix_rfl

theorem trimSpaceRight_prefix_of (s : Str) : trimSpaceRight s <+: s := by
  rw [trimSpaceRight, ← List.reverse_suffix, List.reverse_reverse]
  exact dropSpaces_suffix _ _

theorem spaces_ne_nil : ∀ x ∈ spaces, x ≠ [] := by decide

theorem trimSpaceRight_newline (s : Str) : trimSpaceRight (s ++ [10]) = trimSpaceRight s := by
  rw [trimSpaceRight, trimSpaceRight, List.reverse_append, List.length_append]
  rfl

theorem trimSpaceRight_eq (h : ¬EndsInSpace s) : trimSpaceRight s = s := by
  have hnone : spaces.find? (fun x => startsWith s.reverse x.reverse) = none := by
    rw [List.find?_eq_none]
    intro x hx hstart
    refine h ⟨x, hx, List.reverse_prefix.1 ?_⟩
    simpa [startsWith] using hstart
  rw [trimSpaceRight]
  cases s.length with
  | zero => exact List.reverse_reverse s
  | succ n => rw [dropSpaces, hnone, List.reverse_reverse]

theorem trimSpaceRight_length (h : EndsInSpace s) : (trimSpaceRight s).length < s.length := by
  obtain ⟨x, hx, hsuffix⟩ := h
  have hpos : 0 < s.length :=
    (List.length_pos_iff.2 (spaces_ne_nil x hx)).trans_le hsuffix.length_le
  have hsome : (spaces.find? fun y => startsWith s.reverse y.reverse).isSome = true := by
    rw [List.find?_isSome]
    exact ⟨x, hx, by simpa [startsWith] using List.reverse_prefix.2 hsuffix⟩
  obtain ⟨y, hy⟩ := Option.isSome_iff_exists.1 hsome
  have hypos := List.length_pos_iff.2 (spaces_ne_nil y (List.mem_of_find?_eq_some hy))
  obtain ⟨n, hn⟩ := Nat.exists_eq_add_of_lt hpos
  have hle := (dropSpaces_suffix n (s.reverse.drop y.length)).length_le
  rw [List.length_drop, List.length_reverse] at hle
  rw [trimSpaceRight, List.length_reverse, hn, zero_add, dropSpaces, hy]
  dsimp only
  omega

theorem endsInSpace_of_line (hp : p ≠ []) (h : EndsInSpace (u ++ 10 :: p)) : EndsInSpace p := by
  have hnewline : ∀ x ∈ spaces, 10 ∈ x → x = [10] := by decide
  obtain ⟨x, hx, hsuffix⟩ := h
  rcases List.suffix_or_suffix_of_suffix hsuffix (List.suffix_append u (10 :: p)) with h | h
  · rcases List.suffix_cons_iff.1 h with rfl | h
    · cases hnewline _ hx List.mem_cons_self
      exact absurd rfl hp
    · exact ⟨x, hx, h⟩
  have hten := hnewline x hx (h.subset List.mem_cons_self)
  have hlen := h.length_le
  rw [hten] at hlen
  exact absurd (List.length_pos_iff.2 hp) (by simpa using hlen)

end Trim

theorem newline_not_mem_of_parse (h : parseInt64 s = some n) : 10 ∉ s := by
  have hdigits {x : Str} {m : Nat} (hx : parseDigits x = some m) : 10 ∉ x := by
    intro hmem
    rw [parseDigits] at hx
    split at hx
    · next hall => exact absurd (List.all_eq_true.1 hall.2 10 hmem) (by decide)
    · cases hx
  cases s with
  | nil => cases h
  | cons c cs =>
    rw [parseInt64] at h
    split at h
    · next hc =>
      obtain ⟨m, hm, -⟩ := Option.bind_eq_some_iff.1 h
      simp [hc, hdigits hm]
    split at h
    · next hc =>
      obtain ⟨m, hm, -⟩ := Option.bind_eq_some_iff.1 h
      simp [hc, hdigits hm]
    · obtain ⟨m, hm, -⟩ := Option.bind_eq_some_iff.1 h
      exact hdigits hm

section Read

variable {a : ChownAttempt} {fsGroup : Str} {completed : List Str}

theorem marker_no_newline (h : parseInt64 fsGroup = some gid) : 10 ∉ stateMarker fsGroup := by
  rw [stateMarker, List.mem_append, not_or]
  exact ⟨newline_not_mem_of_parse h, by decide⟩

theorem marker_no_space (fsGroup : Str) : ¬EndsInSpace (stateMarker fsGroup) := by
  rintro ⟨x, hx, hsuffix⟩
  have hlast : ∀ x ∈ spaces, x.getLast? ≠ some 50 := by decide
  obtain ⟨u, hu⟩ := hsuffix
  apply hlast x hx
  rw [← List.getLast?_append_of_ne_nil u (spaces_ne_nil x hx), hu, stateMarker,
    List.getLast?_append_of_ne_nil _ (by decide)]
  rfl

theorem fileText_getLast (first : Str) (h : keys.getLast? = some p) :
    ∃ u, fileText first keys = u ++ 10 :: p := by
  obtain ⟨init, rfl⟩ := List.getLast?_eq_some_iff.1 h
  exact ⟨fileText first init, by simp [fileText]⟩

theorem fileText_no_space (hne : [] ∉ keys) (h : ∀ p, keys.getLast? = some p → ¬EndsInSpace p) :
    ¬EndsInSpace (fileText (stateMarker fsGroup) keys) := by
  cases hlast : keys.getLast? with
  | none =>
    rw [List.getLast?_eq_none_iff.1 hlast]
    simpa [fileText] using marker_no_space fsGroup
  | some p =>
    obtain ⟨u, hu⟩ := fileText_getLast (stateMarker fsGroup) hlast
    rw [hu]
    intro hspace
    refine h p hlast (endsInSpace_of_line ?_ hspace)
    rintro rfl
    exact hne (List.mem_of_getLast? hlast)

theorem trimmed_body (fsGroup : Str) (completed : List Str) :
    trimSpaceRight (stateBody (stateMarker fsGroup) completed) =
      trimSpaceRight (fileText (stateMarker fsGroup) (stateKeys completed)) := by
  rw [stateBody_eq, trimSpaceRight_newline]

theorem first_eq_of_append {w : Str} (hx : 10 ∉ x) (hy : 10 ∉ y) (h : x ++ 10 :: u = y ++ 10 :: w) :
    x = y := by
  have htake (z r : Str) (hz : 10 ∉ z) : (z ++ 10 :: r).takeWhile (fun c => c ≠ 10) = z := by
    have hpos : ∀ c ∈ z, decide (c ≠ 10) = true := by
      intro c hc
      exact decide_eq_true fun heq => hz (heq ▸ hc)
    rw [List.takeWhile_append_of_pos hpos]
    simp
  rw [← htake x u hx, h, htake y w hy]

theorem read_whole (hgid : parseInt64 fsGroup = some gid) (hne : [] ∉ completed)
    (hlines : ∀ p ∈ completed, 10 ∉ p)
    (hlast : ∀ p, (stateKeys completed).getLast? = some p → ¬EndsInSpace p) :
    split (trimSpaceRight (stateBody (stateMarker fsGroup) completed)) "\n" =
      stateMarker fsGroup :: stateKeys completed := by
  have hempty : [] ∉ stateKeys completed := by rwa [mem_stateKeys]
  rw [trimmed_body, trimSpaceRight_eq (fileText_no_space hempty hlast)]
  exact split_fileText (marker_no_newline hgid) fun k hk => hlines k (mem_stateKeys.1 hk)

theorem lines_of_read (hgid : parseInt64 fsGroup = some gid)
    (h : split (trimSpaceRight (stateBody (stateMarker fsGroup) completed)) "\n" = m :: lines)
    (hcompleted : completed ≠ []) (hall : ∀ k ∈ completed, k ∈ lines) :
    m = stateMarker fsGroup ∧ (∀ p ∈ completed, 10 ∉ p) ∧
      ∀ p, (stateKeys completed).getLast? = some p → ¬EndsInSpace p := by
  rw [trimmed_body] at h
  obtain ⟨m', lines', hsplit, htext, hm, hlines⟩ :=
    exists_split (trimSpaceRight (fileText (stateMarker fsGroup) (stateKeys completed)))
  obtain ⟨rfl, rfl⟩ := List.cons.inj (h.symm.trans hsplit)
  have hfirst : m = stateMarker fsGroup := by
    obtain ⟨k, hk⟩ := List.exists_mem_of_ne_nil _ hcompleted
    obtain ⟨l, ls, rfl⟩ := List.exists_cons_of_ne_nil (List.ne_nil_of_mem (hall k hk))
    obtain ⟨k, ks, hkeys⟩ := List.exists_cons_of_ne_nil (List.ne_nil_of_mem (mem_stateKeys.2 hk))
    obtain ⟨r, hr⟩ := trimSpaceRight_prefix_of (fileText (stateMarker fsGroup) (stateKeys completed))
    rw [htext, hkeys] at hr
    simp only [fileText, List.flatMap_cons, List.cons_append, List.append_assoc] at hr
    exact first_eq_of_append hm (marker_no_newline hgid) hr
  refine ⟨hfirst, fun k hk => hlines k (hall k hk), fun p hp hspace => ?_⟩
  obtain ⟨u, hu⟩ := fileText_getLast (stateMarker fsGroup) hp
  have hshort : (fileText m lines).length <
      (fileText (stateMarker fsGroup) (stateKeys completed)).length := by
    rw [← htext]
    refine trimSpaceRight_length ?_
    obtain ⟨x, hx, hsuffix⟩ := hspace
    exact ⟨x, hx, hu ▸ hsuffix.trans (List.suffix_append_of_suffix (List.suffix_cons 10 p))⟩
  have hlong := length_fileText_le m (nodup_stateKeys completed)
    fun k hk => hall k (mem_stateKeys.1 hk)
  rw [hfirst] at hshort hlong
  omega

end Read

/-- What is read back is what was written exactly if the file is not too old by its whole seconds
and names the group in the same way, no path has a newline, and the last one does not end in white
space. -/
theorem completedBefore_writeState_iff (a : ChownAttempt) (v : ChownVolume) (fsGroup : Str)
    (completed : List Str) (written gid : Int) (hread : a.reads.stateRead = true)
    (hgid : parseInt64 fsGroup = some gid) (hne : [] ∉ completed) :
    (∀ p, p ∈ completedBefore a (writeState a.opts fsGroup completed written v) ↔ p ∈ completed) ↔
      completed = [] ∨ (a.req.fsGroup = fsGroup ∧
        a.reads.now - (written - written % 10 ^ 9) ≤ stateValidity ∧ (∀ p ∈ completed, 10 ∉ p) ∧
        ∀ p, (stateKeys completed).getLast? = some p → ¬EndsInSpace p) := by
  have hbefore : completedBefore a (writeState a.opts fsGroup completed written v) =
      ChownState.completed ⟨some (written - written % 10 ^ 9),
        stateBody (stateMarker fsGroup) completed⟩ a.reads.now (stateMarker a.req.fsGroup) := by
    simp [completedBefore, hread, writeState, ChownVolume.setState]
  rw [hbefore, ChownState.completed]
  dsimp only
  constructor
  · intro h
    by_cases hempty : completed = []
    · exact .inl hempty
    obtain ⟨k, hk⟩ := List.exists_mem_of_ne_nil _ hempty
    have hmem := (h k).2 hk
    right
    split at h
    · next htime =>
      split at h
      · next m lines hsplit =>
        split at h
        · next hm =>
          have hall (x : Str) (hx : x ∈ completed) : x ∈ lines := (List.mem_filter.1 ((h x).2 hx)).1
          obtain ⟨hfirst, hlines, hlast⟩ := lines_of_read hgid hsplit hempty hall
          exact ⟨List.append_cancel_right (hm.symm.trans hfirst), htime, hlines, hlast⟩
        · cases (h k).2 hk
      · cases (h k).2 hk
    · cases (h k).2 hk
  · rintro (rfl | ⟨hgroup, htime, hlines, hlast⟩)
    · have hwhole := read_whole hgid List.not_mem_nil (List.forall_mem_nil _) (by simp [stateKeys])
      have hnone : stateKeys [] = [] := rfl
      rw [hwhole, hnone]
      intro p
      simp
    · rw [if_pos htime, read_whole hgid hne hlines hlast]
      dsimp only
      rw [if_pos (by rw [hgroup])]
      intro p
      rw [List.mem_filter, mem_stateKeys]
      constructor
      · exact fun hp => hp.1
      · intro hp
        refine ⟨hp, decide_eq_true ?_⟩
        rintro rfl
        exact hne hp

theorem completedBefore_writeState_file : ("a" : Str) ∈ completedBefore (groupCall true)
      (writeState (groupCall true).opts "1000" ["dir/b", "a"] 0 rootOwned) :=
  ((completedBefore_writeState_iff (groupCall true) rootOwned "1000" ["dir/b", "a"] 0 1000 rfl
    (by decide) (by decide)).2 (.inr ⟨rfl, by decide, by decide, by decide +kernel⟩) "a").2 (by decide)

/-- A name with a newline comes back as two, and the blank at the end of the last name is lost. -/
theorem completedBefore_writeState_names : completedBefore (groupCall true)
      (writeState (groupCall true).opts "1000" ["a\nb"] 0 rootOwned) = ["a", "b"] ∧
    completedBefore (groupCall true)
      (writeState (groupCall true).opts "1000" ["a", "b "] 0 rootOwned) = ["a", "b"] := by
  decide +kernel

end NodeService

end CsiPowerscale
