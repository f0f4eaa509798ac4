import Mathlib.Data.List.Dedup
import Mathlib.Data.List.Sort
import CsiPowerscale.Driver
import CsiPowerscale.Effects.Workers

namespace CsiPowerscale
open GoLib Effects

structure FileAttr where
  gid : Int
  setgid : Bool
  perm : Nat
  deriving DecidableEq

structure ChownState where
  time : Option Int
  body : Str
  deriving DecidableEq

structure ChownVolume where
  attrs : List Str → FileAttr
  states : Str → Option ChownState

structure StagedTree where
  name : Str
  listing : Listing
  sound : listing.Sound

structure ChownJob where
  path : List Str
  kind : EntryKind
  mode : FileAttr
  deriving DecidableEq

namespace ChownVolume

def lchown (v : ChownVolume) (path : List Str) (gid : Int) : ChownVolume :=
  { v with attrs := Function.update v.attrs path { v.attrs path with gid := gid } }

/-- Files get `mode | 0660`, directories `mode | 0770` and the setgid bit, a symbolic link nothing. -/
def chmod (v : ChownVolume) (job : ChownJob) : ChownVolume :=
  if job.kind = .link then v
  else
    { v with
      attrs := Function.update v.attrs job.path { v.attrs job.path with
        setgid := job.mode.setgid || job.kind = .dir
        perm := job.mode.perm ||| if job.kind = .dir then 0o770 else 0o660 } }

def setState (v : ChownVolume) (name : Str) (state : Option ChownState) : ChownVolume :=
  { v with states := Function.update v.states name state }

def removeTemps (v : ChownVolume) (name : Str) : ChownVolume :=
  { v with states := fun n => if startsWith n (name ++ ".tmp.") then none else v.states n }

end ChownVolume

structure ChownOptions where
  nodeID : Str
  enableDriverFSGroupChown : Bool
  chownWorkers : Nat
  chownWriteBatch : Nat
  workers_pos : 0 < chownWorkers
  batch_pos : 0 < chownWriteBatch

structure FSGroupRequest where
  fsGroup : Str
  rootClientEnabled : Str
  fsType : Str
  accessMode : AccessMode
  deriving DecidableEq

structure ChownReads where
  rootStat : Bool
  stateStat : Bool
  stateRead : Bool
  openRoot : Option Err
  now : Int
  deriving DecidableEq

structure ChownAttempt where
  opts : ChownOptions
  req : FSGroupRequest
  reads : ChownReads

namespace NodeService

def chownStateName : Str := ".csi-powerscale-chown-state"

def isStateName (name : Str) : Bool := startsWith name chownStateName

def stateFileName (nodeID : Str) : Str :=
  if nodeID ≠ [] then chownStateName ++ "." ++ nodeID else chownStateName

def stateMarker (fsGroup : Str) : Str := fsGroup ++ ",m2"

/-- The encodings of the characters that `strings.TrimSpace` removes. -/
def spaces : List Str :=
  [[9], [10], [11], [12], [13], [32], [0xC2, 0x85], [0xC2, 0xA0], [0xE1, 0x9A, 0x80], [0xE2, 0x80, 0xA8],
    [0xE2, 0x80, 0xA9], [0xE2, 0x80, 0xAF], [0xE2, 0x81, 0x9F], [0xE3, 0x80, 0x80]] ++
    (List.range 11).map fun i => [0xE2, 0x80, 0x80 + UInt8.ofNat i]

def dropSpaces : Nat → Str → Str
  | 0, s => s
  | n + 1, s =>
    match spaces.find? fun x => startsWith s x.reverse with
    | some x => dropSpaces n (s.drop x.length)
    | none => s

def trimSpaceRight (s : Str) : Str := (dropSpaces s.length s.reverse).reverse

def stateValidity : Int := 30 * 60 * 10 ^ 9

def ChownState.completed (f : ChownState) (now : Int) (marker : Str) : List Str :=
  match f.time with
  | none => []
  | some ts =>
    if now - ts ≤ stateValidity then
      match split (trimSpaceRight f.body) "\n" with
      | m :: lines => if m = marker then lines.filter fun line => line ≠ [] else []
      | [] => []
    else []

def stateBody (marker : Str) (completed : List Str) : Str :=
  let keys := completed.dedup.insertionSort fun a b => a ≤ b
  sprintf (marker :: "\n" :: keys.flatMap fun k => [k, "\n"])

/-- `writeState` at some time, to the second; the rename replaces the whole file. -/
def writeState (opts : ChownOptions) (fsGroup : Str) (completed : List Str) (now : Int)
    (v : ChownVolume) : ChownVolume :=
  v.setState (stateFileName opts.nodeID)
    (some ⟨some (now - now % 10 ^ 9), stateBody (stateMarker fsGroup) completed⟩)

def wantedGroup (req : FSGroupRequest) : Except Err (Option Int) :=
  if req.fsGroup = [] then .ok none
  else
    match parseInt64 req.fsGroup with
    | none => .error (.wrapped (sprintf ["invalid fsGroup value '", req.fsGroup, "': ",
        atoiError req.fsGroup]) (.plain (atoiError req.fsGroup)))
    | some gid =>
      if gid ≤ 0 then
        .error (.plain (sprintf ["invalid fsGroup value '", req.fsGroup, "': must be positive"]))
      else if req.rootClientEnabled ≠ ("true" : Str) then .ok none
      else if req.fsType = [] then .ok none
      else if req.accessMode ≠ .singleNodeWriter ∧ req.accessMode ≠ .singleNodeMultiWriter then .ok none
      else .ok (some gid)

def alreadyApplied (a : ChownAttempt) (gid : Int) (v : ChownVolume) : Bool :=
  a.reads.rootStat && (v.attrs []).gid = gid && (v.attrs []).setgid &&
    (v.attrs []).perm &&& 0o770 = 0o770 &&
    (a.reads.stateStat && (v.states (stateFileName a.opts.nodeID)).isNone)

def completedBefore (a : ChownAttempt) (v : ChownVolume) : List Str :=
  match a.reads.stateRead, v.states (stateFileName a.opts.nodeID) with
  | true, some f => ChownState.completed f a.reads.now (stateMarker a.req.fsGroup)
  | _, _ => []

inductive ChownStart
  | returned (r : Except Err Unit)
  | sequential (gid : Int)
  | parallel (gid : Int) (completed : List Str)

def startChown (a : ChownAttempt) (v : ChownVolume) : ChownStart × ChownVolume :=
  match wantedGroup a.req with
  | .error e => (.returned (.error e), v)
  | .ok none => (.returned (.ok ()), v)
  | .ok (some gid) =>
    let name := stateFileName a.opts.nodeID
    let v := v.removeTemps name
    if alreadyApplied a gid v then (.returned (.ok ()), v)
    else
      let failed (e : Err) : ChownStart :=
        .returned (.error (.wrapped (sprintf ["failed to open root for chown: ", e.text]) e))
      if a.opts.enableDriverFSGroupChown then
        (match a.reads.openRoot with
          | some e => failed e
          | none => .parallel gid (completedBefore a v), v)
      else
        (match a.reads.openRoot with
          | some e => failed e
          | none => .sequential gid, (v.setState name none).removeTemps name)

def skips (completed : List Str) (path : List Str) : Bool :=
  isStateName (path.getLast?.getD []) || joinWith "/" path ∈ completed

inductive Context
  | live
  | canceled
  | expired
  deriving DecidableEq

def Context.cancel : Context → Context
  | live => canceled
  | c => c

inductive ChownWalker
  | root
  | rootChowned (mode : FileAttr)
  | walking (stack : WalkStack)
  | sending (job : ChownJob) (stack : WalkStack)
  | finished

inductive ChownWorker
  | idle
  | took (job : ChownJob)
  | applying (job : ChownJob)
  | chowned (job : ChownJob)
  | recording (path : List Str)
  | exited

def ChownWorker.applied (job : ChownJob) : ChownWorker :=
  if job.kind = .dir then .idle else .recording job.path

structure Chown (n : Nat) where
  volume : ChownVolume
  walker : ChownWalker
  jobs : List ChownJob
  workers : Fin n → ChownWorker
  records : List (List Str)
  completed : List Str
  pendingWrites : Nat
  ctx : Context
  err : Option Err

namespace Chown

def init (n : Nat) (completed : List Str) (v : ChownVolume) : Chown n where
  volume := v
  walker := .root
  jobs := []
  workers := fun _ => .idle
  records := []
  completed := completed
  pendingWrites := 0
  ctx := .live
  err := none

variable {n : Nat}

def setWorker (c : Chown n) (i : Fin n) (w : ChownWorker) : Chown n :=
  { c with workers := Function.update c.workers i w }

def fails (c : Chown n) (e : Err) : Chown n :=
  { c with ctx := c.ctx.cancel, err := some (c.err.getD e) }

def Joined (c : Chown n) : Prop := c.walker = .finished ∧ ∀ i, c.workers i = .exited

end Chown

def StateWritten (opts : ChownOptions) (fsGroup : Str) (completed : List Str) (v t : ChownVolume) : Prop :=
  t = v ∨ ∃ now, t = writeState opts fsGroup completed now v

variable (tree : StagedTree) (opts : ChownOptions) (fsGroup : Str) (gid : Int) in
inductive ChownStep : Chown opts.chownWorkers → Chown opts.chownWorkers → Prop
  | expire (c) (ctx : Context) : c.ctx = .live → ctx ≠ .live →
    ChownStep c { c with ctx := ctx }
  | rootLchown (c) : c.walker = .root → c.ctx = .live →
    ChownStep c
      { c with walker := .rootChowned (c.volume.attrs []), volume := c.volume.lchown [] gid }
  | rootChmod (c mode) : c.walker = .rootChowned mode →
    ChownStep c
      { c with walker := .walking [([], tree.listing)], volume := c.volume.chmod ⟨[], .dir, mode⟩ }
  -- a read of the root or of an entry, or the change of the root, fails
  | walkFails (c) (e : Err) : c.walker ≠ .finished → (∀ job st, c.walker ≠ .sending job st) →
    ChownStep c { c.fails e with walker := .finished }
  | walkStops (c) : c.ctx ≠ .live → (∀ mode, c.walker ≠ .rootChowned mode) →
    ChownStep c { c with walker := .finished }
  | visit (c st e st') : c.walker = .walking st → c.ctx = .live →
    st.next (skips c.completed) = some (some e, st') →
    ChownStep c
      { c with walker := .sending ⟨e.path, e.kind, c.volume.attrs e.path⟩ st' }
  | pass (c st st') : c.walker = .walking st → c.ctx = .live →
    st.next (skips c.completed) = some (none, st') →
    ChownStep c { c with walker := .walking st' }
  | send (c job st) : c.walker = .sending job st → c.jobs.length < 100 →
    ChownStep c { c with walker := .walking st, jobs := c.jobs ++ [job] }
  | walkEnds (c) : c.walker = .walking [] →
    ChownStep c { c with walker := .finished }
  | take (c i job jobs) : c.workers i = .idle → c.jobs = job :: jobs →
    ChownStep c ({ c with jobs := jobs }.setWorker i (.took job))
  | leave (c i) : c.workers i = .idle → c.jobs = [] → c.walker = .finished →
    ChownStep c (c.setWorker i .exited)
  | drop (c i job) : c.workers i = .took job → c.ctx ≠ .live →
    ChownStep c (c.setWorker i .exited)
  | check (c i job) : c.workers i = .took job → c.ctx = .live →
    ChownStep c (c.setWorker i (.applying job))
  | lchown (c i job) : c.workers i = .applying job →
    ChownStep c
      ({ c with volume := c.volume.lchown job.path gid }.setWorker i (.chowned job))
  | applyFails (c i job) (e : Err) : c.workers i = .applying job ∨ c.workers i = .chowned job →
    ChownStep c ((c.fails e).setWorker i .exited)
  | chmod (c i job) : c.workers i = .chowned job →
    ChownStep c ({ c with volume := c.volume.chmod job }.setWorker i (.applied job))
  -- the channel has room for a batch, and the writer may have one path more in hand
  | record (c i path) : c.workers i = .recording path → c.records.length ≤ opts.chownWriteBatch →
    ChownStep c ({ c with records := c.records ++ [path] }.setWorker i .idle)
  | forget (c i path) : c.workers i = .recording path → c.ctx ≠ .live →
    ChownStep c (c.setWorker i .idle)
  | receive (c path records v) : c.records = path :: records →
    (if c.pendingWrites + 1 < opts.chownWriteBatch then v = c.volume
      else StateWritten opts fsGroup (joinWith "/" path :: c.completed) c.volume v) →
    ChownStep c { c with
        records := records
        completed := joinWith "/" path :: c.completed
        pendingWrites := if c.pendingWrites + 1 < opts.chownWriteBatch then c.pendingWrites + 1 else 0
        volume := v }
  | flush (c v) : c.Joined → c.records = [] → 0 < c.pendingWrites →
    StateWritten opts fsGroup c.completed c.volume v →
    ChownStep c { c with pendingWrites := 0, volume := v }

/-- What a call returns when walker, workers and writer are done. The state file is removed after a
success, if that works. -/
inductive ChownReturns (opts : ChownOptions) :
    Chown opts.chownWorkers → Except Err Unit → ChownVolume → Prop
  | failed (c e) : c.Joined → c.records = [] → c.pendingWrites = 0 → c.err = some e →
    ChownReturns opts c
      (.error (.wrapped (sprintf ["recursive chown for fsGroup failed: ", e.text]) e)) c.volume
  | expired (c) : c.Joined → c.records = [] → c.pendingWrites = 0 → c.err = none → c.ctx = .expired →
    ChownReturns opts c (.error .deadline) c.volume
  | canceled (c) : c.Joined → c.records = [] → c.pendingWrites = 0 → c.err = none → c.ctx = .canceled →
    ChownReturns opts c (.error (.wrapped "recursive chown for fsGroup canceled: context canceled"
      (.plain "context canceled"))) c.volume
  | applied (c v) : c.Joined → c.records = [] → c.pendingWrites = 0 → c.err = none → c.ctx = .live →
    v = c.volume ∨ v = c.volume.setState (stateFileName opts.nodeID) none →
    ChownReturns opts c (.ok ()) (v.removeTemps (stateFileName opts.nodeID))

inductive SequentialWalker
  | root
  | rootChowned (mode : FileAttr)
  | walking (stack : WalkStack)
  | chowned (job : ChownJob) (stack : WalkStack)
  | returned (r : Except Err Unit)

structure SequentialChown where
  volume : ChownVolume
  walker : SequentialWalker

/-- The steps of `applySequentialFSGroupChown`. The end of the context or an error of a read or a
change may end it at each of them. -/
inductive SequentialStep (tree : StagedTree) (gid : Int) : SequentialChown → SequentialChown → Prop
  | fails (c) (e : Err) : (∀ r, c.walker ≠ .returned r) →
    SequentialStep tree gid c { c with walker := .returned (.error (if e = .deadline then .deadline
      else .wrapped (sprintf ["recursive chown for fsGroup failed: ", e.text]) e)) }
  | passRoot (c) : c.walker = .root → isStateName tree.name = true →
    SequentialStep tree gid c { c with walker := .returned (.ok ()) }
  | rootLchown (c) : c.walker = .root → isStateName tree.name = false →
    SequentialStep tree gid c ⟨c.volume.lchown [] gid, .rootChowned (c.volume.attrs [])⟩
  | rootChmod (c mode) : c.walker = .rootChowned mode →
    SequentialStep tree gid c ⟨c.volume.chmod ⟨[], .dir, mode⟩, .walking [([], tree.listing)]⟩
  | lchown (c st e st') : c.walker = .walking st → st.next (skips []) = some (some e, st') →
    SequentialStep tree gid c
      ⟨c.volume.lchown e.path gid, .chowned ⟨e.path, e.kind, c.volume.attrs e.path⟩ st'⟩
  | chmod (c job st) : c.walker = .chowned job st →
    SequentialStep tree gid c ⟨c.volume.chmod job, .walking st⟩
  | pass (c st st') : c.walker = .walking st → st.next (skips []) = some (none, st') →
    SequentialStep tree gid c { c with walker := .walking st' }
  | walkEnds (c) : c.walker = .walking [] →
    SequentialStep tree gid c { c with walker := .returned (.ok ()) }

inductive ChownEnd
  | returned (r : Except Err Unit)
  | crashed

/-- A call of `applyFSGroupToExportBackedVolume` on a volume and the volume that it leaves. The
process may crash at any point. -/
inductive AppliesFSGroup (tree : StagedTree) (a : ChownAttempt) (v : ChownVolume) :
    ChownEnd → ChownVolume → Prop
  | early (r t) : startChown a v = (.returned r, t) → AppliesFSGroup tree a v (.returned r) t
  | parallel (gid completed u c r t) : startChown a v = (.parallel gid completed, u) →
    Relation.ReflTransGen (ChownStep tree a.opts a.req.fsGroup gid)
      (.init a.opts.chownWorkers completed u) c →
    ChownReturns a.opts c r t → AppliesFSGroup tree a v (.returned r) t
  | sequential (gid u c r) : startChown a v = (.sequential gid, u) →
    Relation.ReflTransGen (SequentialStep tree gid) ⟨u, .root⟩ c →
    c.walker = .returned r → AppliesFSGroup tree a v (.returned r) c.volume
  | crashEarly (t) : t = v ∨ t = (startChown a v).2 → AppliesFSGroup tree a v .crashed t
  | crashParallel (gid completed u c) : startChown a v = (.parallel gid completed, u) →
    Relation.ReflTransGen (ChownStep tree a.opts a.req.fsGroup gid)
      (.init a.opts.chownWorkers completed u) c → AppliesFSGroup tree a v .crashed c.volume
  | crashSequential (gid u c) : startChown a v = (.sequential gid, u) →
    Relation.ReflTransGen (SequentialStep tree gid) ⟨u, .root⟩ c →
    AppliesFSGroup tree a v .crashed c.volume

end NodeService

def jobAt (attrs : List Str → FileAttr) (e : Entry) : ChownJob := ⟨e.path, e.kind, attrs e.path⟩

def ChownJob.chmod (job : ChownJob) (x : FileAttr) : FileAttr :=
  if job.kind = .link then x
  else
    { x with
      setgid := job.mode.setgid || job.kind = .dir
      perm := job.mode.perm ||| if job.kind = .dir then 0o770 else 0o660 }

theorem ChownVolume.attrs_chmod {v : ChownVolume} :
    (v.chmod job).attrs = Function.update v.attrs job.path (job.chmod (v.attrs job.path)) := by
  unfold ChownVolume.chmod ChownJob.chmod
  split
  · rw [Function.update_eq_self]
  · rfl

namespace NodeService

variable (tree : StagedTree)

def StagedTree.walked (done : List Str) : List Entry :=
  ⟨[], .dir⟩ :: WalkStack.walk (skips done) [([], tree.listing)]

theorem nodup_walked (done : List Str) :
    ((StagedTree.walked tree done).map Entry.path).Nodup := by
  have hsub : (WalkStack.walk (skips done) [([], tree.listing)]).Sublist (tree.listing.entries []) := by
    simpa [WalkStack.walk] using Listing.walk_sublist (skips done) [] tree.listing
  refine List.nodup_cons.2 ⟨fun hmem => ?_, (hsub.map _).nodup (Listing.nodup_paths tree.sound [])⟩
  obtain ⟨e, he, hpath⟩ := List.mem_map.1 hmem
  obtain ⟨name, -, q, hq⟩ := Listing.path_of_mem (hsub.subset he)
  rw [hpath] at hq
  cases hq

theorem nodup_jobs (done : List Str) (attrs : List Str → FileAttr) :
    (((StagedTree.walked tree done).map (jobAt attrs) : Multiset ChownJob).map ChownJob.path).Nodup := by
  rw [Multiset.map_coe, List.map_map, Multiset.coe_nodup]
  exact nodup_walked tree done

theorem plain_walked (done : List Str) (attrs : List Str → FileAttr) :
    ∀ job ∈ ((StagedTree.walked tree done).map (jobAt attrs) : Multiset ChownJob), ∀ x ∈ job.path, Plain x := by
  intro job hjob
  obtain ⟨e, he, rfl⟩ := List.mem_map.1 (Multiset.mem_coe.1 hjob)
  rcases List.mem_cons.1 he with rfl | he
  · exact fun x hx => absurd hx List.not_mem_nil
  · have hmem : e ∈ tree.listing.walk (skips done) [] := by simpa [WalkStack.walk] using he
    exact Listing.plain_of_mem tree.sound (fun x hx => absurd hx List.not_mem_nil) (Listing.mem_walk.1 hmem).1

def appliedAttrs (gid : Int) (done : List Str) (attrs : List Str → FileAttr)
    (path : List Str) : FileAttr :=
  match (StagedTree.walked tree done).find? fun e => e.path = path with
  | some e => (jobAt attrs e).chmod { attrs path with gid := gid }
  | none => attrs path

variable {tree : StagedTree} {opts : ChownOptions} {fsGroup : Str} {gid : Int} {done : List Str}
  {c t : Chown opts.chownWorkers}

theorem StateWritten.attrs_eq (h : StateWritten opts fsGroup completed v u) :
    u.attrs = v.attrs := by
  rcases h with rfl | ⟨now, rfl⟩ <;> rfl

theorem cancel_ne_live (ctx : Context) : ctx.cancel ≠ .live := by
  cases ctx <;> decide

def ChownWalker.left (tree : StagedTree) (done : List Str) (u : ChownVolume) :
    ChownWalker → List ChownJob
  | root => jobAt u.attrs ⟨[], .dir⟩ :: (WalkStack.walk (skips done) [([], tree.listing)]).map (jobAt u.attrs)
  | rootChowned _ => (WalkStack.walk (skips done) [([], tree.listing)]).map (jobAt u.attrs)
  | walking st => (st.walk (skips done)).map (jobAt u.attrs)
  | sending job st => job :: (st.walk (skips done)).map (jobAt u.attrs)
  | finished => []

def ChownWalker.begun : ChownWalker → Multiset ChownJob
  | rootChowned mode => {⟨[], .dir, mode⟩}
  | _ => 0

def ChownWorker.left : ChownWorker → Multiset ChownJob
  | took job | applying job => {job}
  | _ => 0

def ChownWorker.begun : ChownWorker → Multiset ChownJob
  | chowned job => {job}
  | _ => 0

def Chown.left (tree : StagedTree) (done : List Str) (u : ChownVolume) (c : Chown n) :
    Multiset ChownJob :=
  c.walker.left tree done u + c.jobs + ∑ i, (c.workers i).left

def Chown.begun (c : Chown n) : Multiset ChownJob := c.walker.begun + ∑ i, (c.workers i).begun

def Chown.Ends (c t : Chown n) (job : ChownJob) : Prop :=
  (∃ i, c.workers i = .chowned job ∧ t.workers i = .applied job) ∨
    ∃ mode st, c.walker = .rootChowned mode ∧ t.walker = .walking st ∧ job = ⟨[], .dir, mode⟩

abbrev chowns (gid : Int) (left begun : S → Multiset ChownJob) (volume : S → ChownVolume)
    (stopped : S → Prop) (ends : S → S → ChownJob → Prop) :
    WorkPool S ChownJob (List Str) FileAttr where
  left := left
  begun := begun
  value s := (volume s).attrs
  key := ChownJob.path
  atBegin _ x := { x with gid := gid }
  atEnd := ChownJob.chmod
  stopped := stopped
  ends := ends

theorem attrs_of_finished {left begun : S → Multiset ChownJob} {volume : S → ChownVolume}
    {ends : S → S → ChownJob → Prop} {t : S}
    (h : (chowns gid left begun volume stopped ends).Finished s log t)
    (hleft : left s = (StagedTree.walked tree done).map (jobAt (volume s).attrs)) :
    (volume t).attrs = appliedAttrs tree gid done (volume s).attrs := by
  obtain ⟨-, hended, hother⟩ := h
  simp only [hleft, Multiset.map_coe, List.map_map] at hended hother
  funext q
  unfold appliedAttrs
  split
  · next e hfind =>
    obtain rfl : e.path = q := by simpa using List.find?_some hfind
    exact hended _ (List.mem_map_of_mem (List.mem_of_find?_eq_some hfind))
  next hfind =>
  refine hother q fun hmem => ?_
  obtain ⟨e, he, rfl⟩ := List.mem_map.1 hmem
  exact List.find?_eq_none.1 hfind e he (decide_eq_true rfl)

def pipeline (tree : StagedTree) (gid : Int) (done : List Str) (u : ChownVolume) (n : Nat) :
    WorkPool (Chown n) ChownJob (List Str) FileAttr :=
  chowns gid (Chown.left tree done u) Chown.begun Chown.volume (fun c => c.ctx ≠ .live) Chown.Ends

theorem applied_ne_chowned : ChownWorker.applied job ≠ .chowned job' := by
  unfold ChownWorker.applied
  split <;> simp

theorem applied_left (job : ChownJob) : (ChownWorker.applied job).left = 0 := by
  unfold ChownWorker.applied
  split <;> rfl

theorem applied_begun (job : ChownJob) : (ChownWorker.applied job).begun = 0 := by
  unfold ChownWorker.applied
  split <;> rfl

theorem not_ends (hworkers : t.workers = c.workers)
    (hwalker : ∀ mode st, c.walker = .rootChowned mode → t.walker ≠ .walking st) (job : ChownJob) :
    ¬c.Ends t job := by
  rintro (⟨j, hj, hj'⟩ | ⟨mode, st, hroot, hwalk, -⟩)
  · rw [hworkers, hj] at hj'
    exact applied_ne_chowned hj'.symm
  · exact hwalker mode st hroot hwalk

structure WorkerStep (c t : Chown n) (i : Fin n) (w : ChownWorker) : Prop where
  workers : t.workers = Function.update c.workers i w
  walker : t.walker = c.walker

variable {u : ChownVolume} {i : Fin opts.chownWorkers} {w : ChownWorker} {job : ChownJob}

theorem WorkerStep.ends (h : WorkerStep c t i w) :
    c.Ends t job ↔ c.workers i = .chowned job ∧ w = .applied job := by
  constructor
  · rintro (⟨j, hj, hj'⟩ | ⟨mode, st, hroot, hwalk, -⟩)
    · rw [h.workers] at hj'
      by_cases heq : j = i
      · subst heq
        rw [Function.update_self] at hj'
        exact ⟨hj, hj'⟩
      · rw [Function.update_of_ne heq, hj] at hj'
        exact absurd hj'.symm applied_ne_chowned
    · rw [h.walker, hroot] at hwalk
      cases hwalk
  · rintro ⟨hi, hw⟩
    exact .inl ⟨i, hi, by rw [h.workers, Function.update_self, hw]⟩

theorem WorkerStep.left (h : WorkerStep c t i w) (tree : StagedTree) (done : List Str) (u : ChownVolume) :
    t.left tree done u + c.jobs + (c.workers i).left = c.left tree done u + t.jobs + w.left := by
  have hsum := sum_update ChownWorker.left c.workers i w
  rw [Chown.left, Chown.left, h.workers, h.walker]
  calc _ = (c.walker.left tree done u : Multiset ChownJob) + c.jobs + t.jobs +
        (∑ j, (Function.update c.workers i w j).left + (c.workers i).left) := by ac_rfl
    _ = _ := by
      rw [hsum]
      ac_rfl

theorem WorkerStep.begun (h : WorkerStep c t i w) :
    t.begun + (c.workers i).begun = c.begun + w.begun := by
  have hsum := sum_update ChownWorker.begun c.workers i w
  simp only [Chown.begun, h.workers, h.walker, add_assoc, hsum]

theorem WorkerStep.left_of_jobs (h : WorkerStep c t i w) (hjobs : t.jobs = c.jobs) (tree : StagedTree)
    (done : List Str) (u : ChownVolume) :
    t.left tree done u + (c.workers i).left = c.left tree done u + w.left := by
  have hleft := h.left tree done u
  rw [hjobs, add_right_comm, add_right_comm _ (c.jobs : Multiset ChownJob)] at hleft
  exact add_right_cancel hleft

structure Chown.Tidy (done : List Str) (log : List ChownJob) (c : Chown n) : Prop where
  recorded : ∀ q, q ∈ c.records ∨ (∃ i, c.workers i = .recording q) → q ∈ log.map ChownJob.path
  start : ∀ x ∈ done, x ∈ c.completed
  completed : ∀ x ∈ c.completed, x ∈ done ∨ ∃ q ∈ log.map ChownJob.path, x = joinWith "/" q
  exited : ∀ i, c.workers i = .exited → c.ctx ≠ .live ∨ c.jobs = [] ∧ c.walker = .finished

theorem workers_setWorker (h : (c.setWorker i w).workers j = x) :
    i = j ∧ w = x ∨ c.workers j = x := by
  by_cases hj : i = j
  · subst hj
    exact .inl ⟨rfl, by simpa [Chown.setWorker] using h⟩
  · exact .inr (by simpa [Chown.setWorker, Ne.symm hj] using h)

theorem recording_of_step (hstep : ChownStep tree opts fsGroup gid c t)
    (hi : t.workers i = .recording q) :
    c.workers i = .recording q ∨ ∃ job, c.Ends t job ∧ job.path = q := by
  cases hstep with
  | take | leave | drop | check | lchown | applyFails | record | forget =>
    rcases workers_setWorker hi with ⟨-, h⟩ | h
    · cases h
    · exact .inl h
  | chmod j job hw =>
    rcases workers_setWorker hi with ⟨rfl, h⟩ | h
    · refine .inr ⟨job, .inl ⟨j, hw, hi.trans h.symm⟩, ?_⟩
      rw [ChownWorker.applied] at h
      split at h <;> cases h
      rfl
    · exact .inl h
  | _ => exact .inl hi

theorem records_of_step (hstep : ChownStep tree opts fsGroup gid c t) :
    (∀ q ∈ t.records, q ∈ c.records ∨ ∃ i, c.workers i = .recording q) ∧
      (t.completed = c.completed ∨ ∃ q ∈ c.records, t.completed = joinWith "/" q :: c.completed) := by
  cases hstep with
  | record i path hw hroom =>
    refine ⟨fun q hq => ?_, .inl rfl⟩
    rcases List.mem_append.1 hq with hq | hq
    · exact .inl hq
    · exact .inr ⟨i, List.mem_singleton.1 hq ▸ hw⟩
  | receive path records v hrec hv =>
    rw [hrec]
    exact ⟨fun q hq => .inl (List.mem_cons_of_mem _ hq), .inr ⟨path, List.mem_cons_self, rfl⟩⟩
  | _ => exact ⟨fun q hq => .inl hq, .inl rfl⟩

theorem drained_of_step (hjobs : c.jobs = []) (hwalk : c.walker = .finished)
    (hstep : ChownStep tree opts fsGroup gid c t) : t.jobs = [] ∧ t.walker = .finished := by
  cases hstep with
  | rootLchown h | rootChmod _ h | visit _ _ _ h | pass _ _ h | send _ _ h | walkEnds h =>
    rw [hwalk] at h
    cases h
  | take i job jobs hidle h =>
    rw [hjobs] at h
    cases h
  | walkFails | walkStops => exact ⟨hjobs, rfl⟩
  | _ => exact ⟨hjobs, hwalk⟩

theorem exited_of_step (hstep : ChownStep tree opts fsGroup gid c t) (hi : t.workers i = .exited) :
    c.workers i = .exited ∨ t.ctx ≠ .live ∨ t.jobs = [] ∧ t.walker = .finished := by
  cases hstep with
  | take | check | lchown | record | forget =>
    rcases workers_setWorker hi with ⟨-, h⟩ | h
    · cases h
    · exact .inl h
  | chmod j job hw =>
    rcases workers_setWorker hi with ⟨-, h⟩ | h
    · rw [ChownWorker.applied] at h
      split at h <;> cases h
    · exact .inl h
  | leave j hidle hjobs hdone => exact .inr (.inr ⟨hjobs, hdone⟩)
  | drop j job htook hend => exact .inr (.inl hend)
  | applyFails j job e hw => exact .inr (.inl (cancel_ne_live c.ctx))
  | _ => exact .inl hi

theorem ended_of_step (hend : c.ctx ≠ .live) (hstep : ChownStep tree opts fsGroup gid c t) :
    t.ctx ≠ .live := by
  cases hstep with
  | expire ctx _ hctx => exact hctx
  | walkFails | applyFails => exact cancel_ne_live c.ctx
  | _ => exact hend

theorem Chown.Tidy.step (h : c.Tidy done log) (hstep : ChownStep tree opts fsGroup gid c t)
    (hlog : ∀ job ∈ log, job ∈ log') (hends : ∀ job, c.Ends t job → job ∈ log') :
    t.Tidy done log' := by
  have hmore {q : List Str} (hq : q ∈ log.map ChownJob.path) : q ∈ log'.map ChownJob.path :=
    List.map_subset _ hlog hq
  obtain ⟨hrecords, hcompleted⟩ := records_of_step hstep
  exact {
    recorded := by
      rintro q (hq | ⟨i, hi⟩)
      · exact hmore (h.recorded q (hrecords q hq))
      · rcases recording_of_step hstep hi with hi | ⟨job, hjob, rfl⟩
        · exact hmore (h.recorded q (.inr ⟨i, hi⟩))
        · exact List.mem_map_of_mem (hends job hjob)
    start := by
      intro x hx
      rcases hcompleted with hsame | ⟨q, -, hsame⟩
      · exact hsame ▸ h.start x hx
      · exact hsame ▸ List.mem_cons_of_mem _ (h.start x hx)
    completed := by
      have hold {x : Str} (hx : x ∈ c.completed) :
          x ∈ done ∨ ∃ q ∈ log'.map ChownJob.path, x = joinWith "/" q :=
        (h.completed x hx).imp_right fun ⟨q, hq, hjoin⟩ => ⟨q, hmore hq, hjoin⟩
      intro x hx
      rcases hcompleted with hsame | ⟨q, hq, hsame⟩
      · exact hold (hsame ▸ hx)
      rw [hsame] at hx
      rcases List.mem_cons.1 hx with rfl | hx
      · exact .inr ⟨q, hmore (h.recorded q (.inl hq)), rfl⟩
      · exact hold hx
    exited := by
      intro i hi
      rcases exited_of_step hstep hi with hi | hi
      · rcases h.exited i hi with hend | ⟨hjobs, hwalk⟩
        · exact .inl (ended_of_step hend hstep)
        · exact .inr (drained_of_step hjobs hwalk hstep)
      · exact hi }

theorem tidy_init (done : List Str) (v : ChownVolume) : (Chown.init n done v).Tidy done [] where
  recorded := by
    rintro q (h | ⟨i, h⟩) <;> cases h
  start := fun x hx => hx
  completed := fun x hx => .inl hx
  exited := by
    intro i hi
    cases hi

theorem walk_next_of_even (h : c.Tidy done log)
    (heven : (pipeline tree gid done u _).Even u.attrs ((StagedTree.walked tree done).map (jobAt
      u.attrs)) log c) (hwalk : c.walker = .walking st)
    (hnext : st.next (skips c.completed) = some (o, st')) :
    st.walk (skips done) = o.toList ++ st'.walk (skips done) := by
  apply WalkStack.walk_next
  rw [← hnext]
  refine (WalkStack.next_congr (fun q hq => ?_) fun e he => ?_).symm
  · simp only [skips, Bool.or_eq_true, decide_eq_true_eq] at hq ⊢
    exact hq.imp_right (h.start _)
  have hleft : jobAt u.attrs e ∈ c.left tree done u := by
    simp only [Chown.left, hwalk, ChownWalker.left, Multiset.mem_add, Multiset.mem_coe]
    exact .inl (.inl (List.mem_map_of_mem he))
  have hskip := WalkStack.skip_of_mem_walk he
  simp only [skips, Bool.or_eq_false_iff, decide_eq_false_iff_not] at hskip ⊢
  refine ⟨hskip.1, fun hmem => ?_⟩
  rcases h.completed _ hmem with hdone | ⟨q, hq, hjoin⟩
  · exact hskip.2 hdone
  obtain ⟨job, hjob, rfl⟩ := List.mem_map.1 hq
  have hplain := plain_walked tree done u.attrs
  have hsame := joinWith_injective (hplain _ (heven.mem_items.2 _ hleft))
    (hplain _ (heven.mem_items.1 _ hjob)) hjoin
  exact heven.left_ne (nodup_jobs tree done u.attrs) hleft hjob hsame.symm

theorem WorkerStep.exits (h : WorkerStep c t i .exited) (hjobs : t.jobs = c.jobs)
    (hv : t.volume = c.volume) (hend : t.ctx ≠ .live) : (pipeline tree gid done u _).Turn c t := by
  have hleft : t.left tree done u ≤ c.left tree done u := by
    rw [← add_zero (c.left tree done u)]
    exact (Multiset.le_add_right _ _).trans (h.left_of_jobs hjobs tree done u).le
  have hbegun : t.begun ≤ c.begun := by
    rw [← add_zero c.begun]
    exact (Multiset.le_add_right _ _).trans h.begun.le
  refine .stop hleft hbegun (congrArg ChownVolume.attrs hv) hend fun job hends => ?_
  have hw := (h.ends.1 hends).2
  unfold ChownWorker.applied at hw
  split at hw <;> cases hw

theorem WorkerStep.idle (hw : c.workers i = w₀) (h : WorkerStep c t i w) (hjobs : t.jobs = c.jobs)
    (hv : t.volume.attrs = c.volume.attrs) (hctx : t.ctx = c.ctx) (hleft : w₀.left = w.left)
    (hbegun : w₀.begun = w.begun) (hno : ∀ job, w₀ ≠ .chowned job) :
    (pipeline tree gid done u _).Turn c t := by
  subst hw
  refine .idle ?_ ?_ hv (fun hend => ?_) fun job hends => ?_
  · exact add_right_cancel (hleft ▸ h.left_of_jobs hjobs tree done u)
  · exact add_right_cancel (hbegun ▸ h.begun)
  · exact hctx.trans_ne hend
  · exact hno job (h.ends.1 hends).1

theorem WorkerStep.takes (hw : c.workers i = .idle) (h : WorkerStep c t i (.took job))
    (hjobs : c.jobs = job :: t.jobs) (hv : t.volume = c.volume) (hctx : t.ctx = c.ctx) :
    (pipeline tree gid done u _).Turn c t := by
  have hleft := h.left tree done u
  have hbegun := h.begun
  rw [hw] at hleft hbegun
  refine .idle ?_ (add_right_cancel hbegun) (congrArg ChownVolume.attrs hv) hctx.trans_ne
    fun job hends => ?_
  · have hsplit : (c.jobs : Multiset ChownJob) = t.jobs + {job} := by
      rw [hjobs, ← Multiset.cons_coe, ← Multiset.singleton_add, add_comm]
    rw [hsplit, ← add_assoc] at hleft
    exact add_right_cancel (add_right_cancel ((add_zero _).symm.trans hleft))
  · cases hw.symm.trans (h.ends.1 hends).1

theorem WorkerStep.starts (hw : c.workers i = .applying job) (h : WorkerStep c t i (.chowned job))
    (hjobs : t.jobs = c.jobs) (hv : t.volume = c.volume.lchown job.path gid) (hctx : t.ctx = c.ctx) :
    (pipeline tree gid done u _).Turn c t := by
  have hleft := h.left_of_jobs hjobs tree done u
  have hbegun := h.begun
  rw [hw] at hleft hbegun
  refine .start job ?_ ?_ (congrArg ChownVolume.attrs hv) hctx.trans_ne fun job' hends => ?_
  · rw [← Multiset.singleton_add, add_comm]
    exact (add_zero _).symm.trans hleft.symm
  · rw [← Multiset.singleton_add, add_comm]
    exact (add_zero _).symm.trans hbegun
  · cases hw.symm.trans (h.ends.1 hends).1

theorem WorkerStep.finishes (hw : c.workers i = .chowned job) (h : WorkerStep c t i (.applied job))
    (hjobs : t.jobs = c.jobs) (hv : t.volume = c.volume.chmod job) (hctx : t.ctx = c.ctx) :
    (pipeline tree gid done u _).Turn c t := by
  have hleft := h.left_of_jobs hjobs tree done u
  have hbegun := h.begun
  rw [hw, applied_left] at hleft
  rw [hw, applied_begun] at hbegun
  refine .finish job (add_right_cancel hleft) ?_ ?_ hctx.trans_ne fun job' => ?_
  · rw [← Multiset.singleton_add, add_comm]
    exact (add_zero _).symm.trans hbegun.symm
  · exact (congrArg ChownVolume.attrs hv).trans ChownVolume.attrs_chmod
  · refine h.ends.trans ?_
    rw [hw, ChownWorker.chowned.injEq]
    exact ⟨fun h => h.1.symm, fun h => ⟨h.symm, by rw [h]⟩⟩

theorem turn_walkStops (hworkers : t.workers = c.workers) (hwalker : t.walker = .finished)
    (hjobs : t.jobs = c.jobs) (hv : t.volume = c.volume) (hend : t.ctx ≠ .live) :
    (pipeline tree gid done u _).Turn c t := by
  have hleft : t.left tree done u ≤ c.left tree done u := by
    rw [Chown.left, Chown.left, hworkers, hwalker, hjobs]
    exact add_le_add_left (add_le_add_left (Multiset.zero_le _) _) _
  have hbegun : t.begun ≤ c.begun := by
    rw [Chown.begun, Chown.begun, hworkers, hwalker]
    exact add_le_add_left (Multiset.zero_le _) _
  exact .stop hleft hbegun (congrArg ChownVolume.attrs hv) hend (not_ends hworkers (by simp [hwalker]))

theorem turn_of_step (h : c.Tidy done log)
    (heven : (pipeline tree gid done u _).Even u.attrs ((StagedTree.walked tree done).map (jobAt
      u.attrs)) log c) (hstep : ChownStep tree opts fsGroup gid c t) :
    (pipeline tree gid done u _).Turn c t := by
  have hseen {e : Entry} (he : jobAt u.attrs e ∈ c.walker.left tree done u) : jobAt c.volume.attrs e = jobAt u.attrs e := by
    have := heven.ofLeft (jobAt u.attrs e) (Multiset.mem_add.2 (.inl (Multiset.mem_add.2 (.inl he))))
    exact congrArg (ChownJob.mk e.path e.kind) this
  cases hstep with
  | expire ctx hlive hend =>
    exact .stop le_rfl le_rfl rfl hend (not_ends rfl (by rintro mode st h h'; cases h.symm.trans h'))
  | rootLchown hroot hlive =>
    refine .start (jobAt u.attrs ⟨[], .dir⟩) ?_ ?_ rfl (fun h => h) (not_ends rfl (by simp [hroot]))
    · simp only [pipeline, Chown.left, hroot, ChownWalker.left, ← Multiset.cons_coe, Multiset.cons_add]
    have hjob := hseen (e := ⟨[], .dir⟩) (by rw [hroot]; exact List.mem_cons_self)
    simp only [pipeline, Chown.begun, hroot, ChownWalker.begun, zero_add]
    rw [← hjob]
    rfl
  | rootChmod mode hroot =>
    refine .finish ⟨[], .dir, mode⟩ ?_ ?_ ChownVolume.attrs_chmod (fun h => h) fun job => ?_
    · simp [pipeline, Chown.left, hroot, ChownWalker.left]
    · simp [pipeline, Chown.begun, hroot, ChownWalker.begun]
    constructor
    · rintro (⟨j, hj, hj'⟩ | ⟨mode', st, hroot', -, hjob⟩)
      · exact absurd (hj'.symm.trans hj) applied_ne_chowned
      · cases hroot.symm.trans hroot'
        exact hjob
    · rintro rfl
      exact .inr ⟨mode, _, hroot, rfl, rfl⟩
  | walkFails e _ _ => exact turn_walkStops rfl rfl rfl rfl (cancel_ne_live c.ctx)
  | walkStops hend _ => exact turn_walkStops rfl rfl rfl rfl hend
  | visit st e st' hwalk hlive hnext =>
    have hnow := walk_next_of_even h heven hwalk hnext
    have hjob := hseen (e := e) (by simp [hwalk, ChownWalker.left, hnow])
    refine .idle ?_ ?_ rfl (fun h => h) (not_ends rfl (by simp))
    · simp only [pipeline, Chown.left, hwalk, ChownWalker.left, hnow, Option.toList_some,
        List.singleton_append, List.map_cons, ← hjob]
      rfl
    · simp [pipeline, Chown.begun, hwalk, ChownWalker.begun]
  | pass st st' hwalk hlive hnext =>
    refine .idle ?_ ?_ rfl (fun h => h) (not_ends rfl (by simp [hwalk]))
    · simp only [pipeline, Chown.left, hwalk, ChownWalker.left, walk_next_of_even h heven hwalk hnext,
        Option.toList_none, List.nil_append]
    · simp [pipeline, Chown.begun, hwalk, ChownWalker.begun]
  | send job st hsend hroom =>
    refine .idle ?_ ?_ rfl (fun h => h) (not_ends rfl (by simp [hsend]))
    · simp only [pipeline, Chown.left, hsend, ChownWalker.left, ← Multiset.coe_add, ← Multiset.cons_coe,
        ← Multiset.singleton_add]
      ac_rfl
    · simp [pipeline, Chown.begun, hsend, ChownWalker.begun]
  | walkEnds hwalk =>
    refine .idle ?_ ?_ rfl (fun h => h) (not_ends rfl (by simp))
    · simp [pipeline, Chown.left, hwalk, ChownWalker.left, WalkStack.walk]
    · simp [pipeline, Chown.begun, hwalk, ChownWalker.begun]
  | take i job jobs hidle hjobs => exact WorkerStep.takes hidle ⟨rfl, rfl⟩ hjobs rfl rfl
  | leave i hidle hjobs hdone =>
    exact WorkerStep.idle (w := .exited) hidle ⟨rfl, rfl⟩ rfl rfl rfl rfl rfl fun _ h => by cases h
  | drop i job htook hend =>
    exact WorkerStep.exits (i := i) ⟨rfl, rfl⟩ rfl rfl hend
  | check i job htook hlive =>
    exact WorkerStep.idle (w := .applying job) htook ⟨rfl, rfl⟩ rfl rfl rfl rfl rfl fun _ h => by cases h
  | lchown i job hw => exact WorkerStep.starts hw ⟨rfl, rfl⟩ rfl rfl rfl
  | applyFails i job e hw =>
    exact WorkerStep.exits (i := i) ⟨rfl, rfl⟩ rfl rfl (cancel_ne_live c.ctx)
  | chmod i job hw => exact WorkerStep.finishes hw ⟨rfl, rfl⟩ rfl rfl rfl
  | record i path hw hroom =>
    exact WorkerStep.idle (w := .idle) hw ⟨rfl, rfl⟩ rfl rfl rfl rfl rfl fun _ h => by cases h
  | forget i path hw hend =>
    exact WorkerStep.idle (w := .idle) hw ⟨rfl, rfl⟩ rfl rfl rfl rfl rfl fun _ h => by cases h
  | receive path records v hrec hv =>
    have hattrs : v.attrs = c.volume.attrs := by
      split at hv
      · rw [hv]
      · exact hv.attrs_eq
    exact .idle rfl rfl hattrs (fun h => h)
      (not_ends rfl (by rintro mode st h h'; cases h.symm.trans h'))
  | flush v hjoined hrec hpend hv =>
    exact .idle rfl rfl hv.attrs_eq (fun h => h)
      (not_ends rfl (by rintro mode st h h'; cases h.symm.trans h'))

variable (tree opts fsGroup gid done u) in
theorem parallel_treats : (pipeline tree gid done u opts.chownWorkers).Treats
    (ChownStep tree opts fsGroup gid) (Chown.Tidy done) u.attrs
    ((StagedTree.walked tree done).map (jobAt u.attrs)) where
  keys := nodup_jobs tree done u.attrs
  keeps := Chown.Tidy.step
  turn := turn_of_step

variable (tree done gid) in
theorem left_init (n : Nat) (u : ChownVolume) :
    (pipeline tree gid done u n).left (.init n done u) = (StagedTree.walked tree done).map (jobAt u.attrs) := by
  simp [pipeline, Chown.left, Chown.init, ChownWalker.left, ChownWorker.left, StagedTree.walked]

theorem begun_init (done : List Str) (u : ChownVolume) : (Chown.init n done u).begun = 0 := by
  simp [Chown.begun, Chown.init, ChownWalker.begun, ChownWorker.begun]

theorem finished_of_joined (hrun : Logged (ChownStep tree opts fsGroup gid) Chown.Ends
      (.init opts.chownWorkers done u) log c) (hjoined : c.Joined) (hlive : c.ctx = .live) :
    (pipeline tree gid done u _).Finished (.init _ done u) log c := by
  have htreats := parallel_treats tree opts fsGroup gid done u
  rw [← left_init tree gid done] at htreats
  obtain ⟨htidy, heven⟩ := htreats.even (tidy_init done u) (begun_init done u) hrun
  obtain ⟨hwalk, hworkers⟩ := hjoined
  have hjobs : c.jobs = [] :=
    ((htidy.exited ⟨0, opts.workers_pos⟩ (hworkers _)).resolve_left (fun hend => hend hlive)).1
  apply heven.finished (fun hend => hend hlive)
  · simp [pipeline, Chown.left, hwalk, hworkers, hjobs, ChownWalker.left, ChownWorker.left]
  · simp [pipeline, Chown.begun, hwalk, hworkers, ChownWalker.begun, ChownWorker.begun]

def SequentialWalker.left (tree : StagedTree) (u : ChownVolume) : SequentialWalker → List ChownJob
  | root => if isStateName tree.name then [] else (StagedTree.walked tree []).map (jobAt u.attrs)
  | rootChowned _ => (WalkStack.walk (skips []) [([], tree.listing)]).map (jobAt u.attrs)
  | walking st | chowned _ st => (st.walk (skips [])).map (jobAt u.attrs)
  | returned _ => []

def SequentialWalker.begun : SequentialWalker → Multiset ChownJob
  | rootChowned mode => {⟨[], .dir, mode⟩}
  | chowned job _ => {job}
  | _ => 0

def SequentialChown.Ends (c t : SequentialChown) (job : ChownJob) : Prop :=
  ∃ st, t.walker = .walking st ∧ job ∈ c.walker.begun

def SequentialWalker.Failed (w : SequentialWalker) : Prop := ∃ e, w = .returned (.error e)

def oneWalk (tree : StagedTree) (gid : Int) (u : ChownVolume) :
    WorkPool SequentialChown ChownJob (List Str) FileAttr :=
  chowns gid (fun c => c.walker.left tree u) (fun c => c.walker.begun) SequentialChown.volume
    (fun c => c.walker.Failed) SequentialChown.Ends

variable (tree gid u) in
theorem sequential_treats : (oneWalk tree gid u).Treats (SequentialStep tree gid) (fun _ _ => True) u.attrs
    (SequentialWalker.root.left tree u) where
  keys := by
    simp only [SequentialWalker.left]
    split
    · exact Multiset.nodup_zero
    · exact nodup_jobs tree [] u.attrs
  keeps := fun _ _ _ _ => trivial
  turn := by
    intro log c t _ heven hstep
    have hseen {e : Entry} (he : jobAt u.attrs e ∈ c.walker.left tree u) : jobAt c.volume.attrs e = jobAt u.attrs e :=
      congrArg (ChownJob.mk e.path e.kind) (heven.ofLeft (jobAt u.attrs e) he)
    have hgoes {w : SequentialWalker} {P : Prop} (hw : c.walker = w) (hgo : ∀ r, w ≠ .returned r)
        (hfailed : c.walker.Failed) : P := by
      obtain ⟨e, he⟩ := hfailed
      exact absurd (hw.symm.trans he) (hgo _)
    cases hstep with
    | fails e hgo =>
      exact .stop (Multiset.zero_le _) (Multiset.zero_le _) rfl ⟨_, rfl⟩ (by simp [oneWalk, SequentialChown.Ends])
    | passRoot hroot hname =>
      refine .idle ?_ ?_ rfl (hgoes hroot (by simp)) (by simp [oneWalk, SequentialChown.Ends])
      · simp [oneWalk, hroot, SequentialWalker.left, hname]
      · simp [oneWalk, hroot, SequentialWalker.begun]
    | rootLchown hroot hname =>
      have hjob := hseen (e := ⟨[], .dir⟩) (by simp [hroot, SequentialWalker.left, hname, StagedTree.walked])
      refine .start (jobAt u.attrs ⟨[], .dir⟩) ?_ ?_ rfl (hgoes hroot (by simp))
        (by simp [oneWalk, SequentialChown.Ends])
      · simp [oneWalk, hroot, SequentialWalker.left, hname, StagedTree.walked]
      · rw [← hjob]
        simp [oneWalk, hroot, SequentialWalker.begun, jobAt]
    | rootChmod mode hroot =>
      refine .finish ⟨[], .dir, mode⟩ ?_ ?_ ChownVolume.attrs_chmod (hgoes hroot (by simp))
        (by simp [oneWalk, SequentialChown.Ends, hroot, SequentialWalker.begun])
      · simp [oneWalk, hroot, SequentialWalker.left]
      · simp [oneWalk, hroot, SequentialWalker.begun]
    | lchown st e st' hwalk hnext =>
      have hnow := WalkStack.walk_next hnext
      have hjob := hseen (e := e) (by simp [hwalk, SequentialWalker.left, hnow])
      refine .start (jobAt u.attrs e) ?_ ?_ rfl (hgoes hwalk (by simp)) (by simp [oneWalk, SequentialChown.Ends])
      · simp [oneWalk, hwalk, SequentialWalker.left, hnow]
      · rw [← hjob]
        simp [oneWalk, hwalk, SequentialWalker.begun, jobAt]
    | chmod job st hwalk =>
      refine .finish job ?_ ?_ ChownVolume.attrs_chmod (hgoes hwalk (by simp))
        (by simp [oneWalk, SequentialChown.Ends, hwalk, SequentialWalker.begun])
      · simp [oneWalk, hwalk, SequentialWalker.left]
      · simp [oneWalk, hwalk, SequentialWalker.begun]
    | pass st st' hwalk hnext =>
      refine .idle ?_ ?_ rfl (hgoes hwalk (by simp))
        (by simp [oneWalk, SequentialChown.Ends, hwalk, SequentialWalker.begun])
      · simp [oneWalk, hwalk, SequentialWalker.left, WalkStack.walk_next hnext]
      · simp [oneWalk, hwalk, SequentialWalker.begun]
    | walkEnds hwalk =>
      refine .idle ?_ ?_ rfl (hgoes hwalk (by simp)) (by simp [oneWalk, SequentialChown.Ends])
      · simp [oneWalk, hwalk, SequentialWalker.left, WalkStack.walk]
      · simp [oneWalk, hwalk, SequentialWalker.begun]

theorem finished_of_returned
    (hrun : Logged (SequentialStep tree gid) SequentialChown.Ends ⟨u, .root⟩ log s)
    (hreturned : s.walker = .returned (.ok ())) :
    (oneWalk tree gid u).Finished ⟨u, .root⟩ log s := by
  have htreats : (oneWalk tree gid u).Treats (SequentialStep tree gid) (fun _ _ => True)
      ((oneWalk tree gid u).value ⟨u, .root⟩) ((oneWalk tree gid u).left ⟨u, .root⟩) :=
    sequential_treats tree gid u
  obtain ⟨-, heven⟩ := htreats.even trivial rfl hrun
  refine heven.finished ?_ ?_ ?_
  · rintro ⟨e, hfailed⟩
    cases hreturned.symm.trans hfailed
  · simp [oneWalk, hreturned, SequentialWalker.left]
  · simp [oneWalk, hreturned, SequentialWalker.begun]

end NodeService

end CsiPowerscale
