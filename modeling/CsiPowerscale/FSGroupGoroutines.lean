import CsiPowerscale.FSGroupRuns

namespace CsiPowerscale
open GoLib Effects

namespace NodeService

inductive WalkerAt
  | root
  | walking (stack : WalkStack)
  -- at `chownMu.RLock()` and at `chownMu.RUnlock()`
  | looking (stack : WalkStack)
  | reading (stack : WalkStack)
  | looked (entry : Entry) (stack : WalkStack)
  | sending (entry : Entry) (stack : WalkStack)
  | failing (e : Err)
  -- at the deferred `close(jobs)`
  | closing
  | finished

inductive WorkerAt
  | idle
  | took (entry : Entry)
  | applying (entry : Entry)
  | failing (e : Err)
  | recording (path : List Str)
  | exited

inductive SavingAt
  | locking
  | locked
  | storing

inductive WriterAt
  | receiving
  | locking (path : List Str)
  | locked (path : List Str)
  | saving (stage : SavingAt) (last : Bool)
  | lastLocking
  | lastLocked
  | exited

/-- Where the call itself is: at `wg.Wait()`, at `close(recordCh)`, at `writerWg.Wait()`, or after
them. -/
inductive MainAt
  | joining
  | closing
  | awaiting
  | returned

structure Goroutines (n : Nat) where
  walker : WalkerAt
  workers : Fin n → WorkerAt
  writer : WriterAt
  main : MainAt
  jobs : List Entry
  jobsClosed : Bool
  records : List (List Str)
  recordsClosed : Bool
  errors : List Err
  completed : List Str
  pendingWrites : Nat
  ended : Bool

def WriterAt.Locks : WriterAt → Prop
  | locking _ | locked _ | saving .locking _ | saving .locked _ | lastLocking | lastLocked => True
  | _ => False

def WalkerAt.Reads : WalkerAt → Prop
  | reading _ => True
  | _ => False

namespace Goroutines

def start (n : Nat) (completed : List Str) : Goroutines n where
  walker := .root
  workers := fun _ => .idle
  writer := .receiving
  main := .joining
  jobs := []
  jobsClosed := false
  records := []
  recordsClosed := false
  errors := []
  completed := completed
  pendingWrites := 0
  ended := false

variable {n : Nat}

def setWorker (g : Goroutines n) (i : Fin n) (w : WorkerAt) : Goroutines n :=
  { g with workers := Function.update g.workers i w }

def fails (g : Goroutines n) (e : Err) : Goroutines n :=
  { g with ended := true, errors := if g.errors.length < 1 then g.errors ++ [e] else g.errors }

end Goroutines

section Steps

variable {n : Nat} (tree : StagedTree) (batch : Nat)

inductive WalkerMoves : Goroutines n → Goroutines n → Prop
  | rootApplied (g) : g.walker = .root → g.ended = false →
    WalkerMoves g { g with walker := .walking [([], tree.listing)] }
  | rootFails (g) (e : Err) : g.walker = .root → g.ended = false →
    WalkerMoves g { g with walker := .failing e }
  | rootStops (g) : g.walker = .root → g.ended = true → WalkerMoves g { g with walker := .closing }
  | stops (g st) : g.walker = .walking st → g.ended = true → WalkerMoves g { g with walker := .closing }
  | leaveDir (g p st) : g.walker = .walking ((p, .nil) :: st) →
    WalkerMoves g { g with walker := .walking st }
  | pass (g st st') : g.walker = .walking st → g.ended = false →
    st.next (skips []) = some (none, st') → WalkerMoves g { g with walker := .walking st' }
  | look (g st e st') : g.walker = .walking st → g.ended = false →
    st.next (skips []) = some (some e, st') → WalkerMoves g { g with walker := .looking st }
  | rlock (g st) : g.walker = .looking st → ¬g.writer.Locks →
    WalkerMoves g { g with walker := .reading st }
  | recorded (g st st') : g.walker = .reading st → st.next (skips g.completed) = some (none, st') →
    WalkerMoves g { g with walker := .walking st' }
  | missing (g st e st') : g.walker = .reading st →
    st.next (skips g.completed) = some (some e, st') → WalkerMoves g { g with walker := .looked e st' }
  | info (g e st) : g.walker = .looked e st → WalkerMoves g { g with walker := .sending e st }
  | infoFails (g e st) (err : Err) : g.walker = .looked e st →
    WalkerMoves g { g with walker := .failing err }
  | send (g e st) : g.walker = .sending e st → g.jobs.length < 100 →
    WalkerMoves g { g with walker := .walking st, jobs := g.jobs ++ [e] }
  | sendStops (g e st) : g.walker = .sending e st → g.ended = true →
    WalkerMoves g { g with walker := .closing }
  | ends (g) : g.walker = .walking [] → WalkerMoves g { g with walker := .closing }
  | fails (g e) : g.walker = .failing e → WalkerMoves g { g.fails e with walker := .closing }
  | close (g) : g.walker = .closing → WalkerMoves g { g with walker := .finished, jobsClosed := true }

inductive WorkerMoves (i : Fin n) : Goroutines n → Goroutines n → Prop
  | take (g e jobs) : g.workers i = .idle → g.jobs = e :: jobs →
    WorkerMoves i g ({ g with jobs := jobs }.setWorker i (.took e))
  | leave (g) : g.workers i = .idle → g.jobs = [] → g.jobsClosed = true →
    WorkerMoves i g (g.setWorker i .exited)
  | drop (g e) : g.workers i = .took e → g.ended = true → WorkerMoves i g (g.setWorker i .exited)
  | check (g e) : g.workers i = .took e → g.ended = false → WorkerMoves i g (g.setWorker i (.applying e))
  | applied (g e) : g.workers i = .applying e →
    WorkerMoves i g (g.setWorker i (if e.kind = .dir then .idle else .recording e.path))
  | applyFails (g e) (err : Err) : g.workers i = .applying e →
    WorkerMoves i g (g.setWorker i (.failing err))
  | fails (g err) : g.workers i = .failing err → WorkerMoves i g ((g.fails err).setWorker i .exited)
  | record (g path) : g.workers i = .recording path → g.records.length < batch →
    WorkerMoves i g ({ g with records := g.records ++ [path] }.setWorker i .idle)
  | forget (g path) : g.workers i = .recording path → g.ended = true →
    WorkerMoves i g (g.setWorker i .idle)

inductive WriterMoves : Goroutines n → Goroutines n → Prop
  | receive (g path records) : g.writer = .receiving → g.records = path :: records →
    WriterMoves g { g with writer := .locking path, records := records }
  | lock (g path) : g.writer = .locking path → ¬g.walker.Reads →
    WriterMoves g { g with writer := .locked path }
  | mark (g path) : g.writer = .locked path → g.pendingWrites + 1 < batch →
    WriterMoves g { g with
      writer := .receiving
      completed := joinWith "/" path :: g.completed
      pendingWrites := g.pendingWrites + 1 }
  | markLast (g path) : g.writer = .locked path → batch ≤ g.pendingWrites + 1 →
    WriterMoves g { g with
      writer := .saving .locking false
      completed := joinWith "/" path :: g.completed
      pendingWrites := 0 }
  | saveLock (g last) : g.writer = .saving .locking last → ¬g.walker.Reads →
    WriterMoves g { g with writer := .saving .locked last }
  | saveUnlock (g last) : g.writer = .saving .locked last →
    WriterMoves g { g with writer := .saving .storing last }
  | stored (g last) : g.writer = .saving .storing last →
    WriterMoves g { g with writer := if last then .exited else .receiving }
  | ends (g) : g.writer = .receiving → g.records = [] → g.recordsClosed = true →
    WriterMoves g { g with writer := .lastLocking }
  | lastLock (g) : g.writer = .lastLocking → ¬g.walker.Reads →
    WriterMoves g { g with writer := .lastLocked }
  | lastUnlock (g) : g.writer = .lastLocked →
    WriterMoves g { g with
      writer := if 0 < g.pendingWrites then .saving .locking true else .exited
      pendingWrites := 0 }

inductive MainMoves : Goroutines n → Goroutines n → Prop
  | joins (g) : g.main = .joining → g.walker = .finished → (∀ i, g.workers i = .exited) →
    MainMoves g { g with main := .closing }
  | close (g) : g.main = .closing → MainMoves g { g with main := .awaiting, recordsClosed := true }
  | returns (g) : g.main = .awaiting → g.writer = .exited → MainMoves g { g with main := .returned }

inductive GoMoves (g t : Goroutines n) : Prop
  | walker : WalkerMoves tree g t → GoMoves g t
  | worker (i) : WorkerMoves batch i g t → GoMoves g t
  | writer : WriterMoves batch g t → GoMoves g t
  | main : MainMoves g t → GoMoves g t

inductive GoStep : Goroutines n → Goroutines n → Prop
  | move (g t) : GoMoves tree batch g t → GoStep g t
  | expire (g) : g.ended = false → GoStep g { g with ended := true }

end Steps

def WriterAt.Last : WriterAt → Prop
  | saving _ last => last = true
  | lastLocking | lastLocked | exited => True
  | _ => False

structure Goroutines.Sound (g : Goroutines n) : Prop where
  jobs : g.jobsClosed = true ↔ g.walker = .finished
  records : g.recordsClosed = true ↔ g.main = .awaiting ∨ g.main = .returned
  joined : g.main ≠ .joining → g.walker = .finished ∧ ∀ i, g.workers i = .exited
  exited : ∀ i, g.workers i = .exited → g.ended = true ∨ g.jobs = [] ∧ g.jobsClosed = true
  last : g.writer.Last → g.recordsClosed = true ∧ g.records = []
  looking : ∀ st, g.walker = .looking st ∨ g.walker = .reading st → st ≠ []

variable {n batch : Nat} {tree : StagedTree} {g t : Goroutines n}

structure WalkerFrame (g t : Goroutines n) : Prop where
  workers : t.workers = g.workers
  writer : t.writer = g.writer
  main : t.main = g.main
  records : t.records = g.records
  recordsClosed : t.recordsClosed = g.recordsClosed
  ended : g.ended = true → t.ended = true
  runs : g.walker ≠ .finished
  closes : t.walker = .finished ∧ t.jobsClosed = true ∨
    t.walker ≠ .finished ∧ t.jobsClosed = g.jobsClosed

theorem WalkerMoves.frame (hm : WalkerMoves tree g t) : WalkerFrame g t := by
  cases hm with
  | close h => exact ⟨rfl, rfl, rfl, rfl, rfl, fun h => h, by simp [h], .inl ⟨rfl, rfl⟩⟩
  | fails e h => exact ⟨rfl, rfl, rfl, rfl, rfl, fun _ => rfl, by simp [h], .inr ⟨by simp, rfl⟩⟩
  | rootApplied h | rootFails _ h | rootStops h | stops _ h | leaveDir _ _ h | pass _ _ h
  | look _ _ _ h | rlock _ h | recorded _ _ h | missing _ _ _ h | info _ _ h | infoFails _ _ _ h
  | send _ _ h | sendStops _ _ h | ends h =>
    exact ⟨rfl, rfl, rfl, rfl, rfl, fun h => h, by simp [h], .inr ⟨by simp, rfl⟩⟩

theorem WalkerMoves.looking (h : g.Sound) (hm : WalkerMoves tree g t)
    (hst : t.walker = .looking st ∨ t.walker = .reading st) : st ≠ [] := by
  cases hm with
  | look st' e st'' hwalk hlive hnext =>
    rintro rfl
    obtain hst | hst := hst
    · cases hst
      cases hnext
    · cases hst
  | rlock st' hwalk hfree =>
    obtain hst | hst := hst
    · cases hst
    · cases hst
      exact h.looking _ (.inl hwalk)
  | _ => obtain hst | hst := hst <;> cases hst

theorem WalkerMoves.sound (h : g.Sound) (hm : WalkerMoves tree g t) : t.Sound := by
  have hframe := hm.frame
  have hopen : g.jobsClosed = false := by simpa using mt h.jobs.1 hframe.runs
  have hjoining : g.main = .joining := by
    by_contra hmain
    exact hframe.runs (h.joined hmain).1
  exact {
    jobs := by
      obtain ⟨hwalk, hclosed⟩ | ⟨hwalk, hclosed⟩ := hframe.closes
      · simp [hwalk, hclosed]
      · simp [hwalk, hclosed, hopen]
    records := by rw [hframe.recordsClosed, hframe.main, h.records]
    joined := fun hmain => absurd (hframe.main.trans hjoining) hmain
    exited := by
      intro i hi
      rw [hframe.workers] at hi
      obtain hend | ⟨-, hclosed⟩ := h.exited i hi
      · exact .inl (hframe.ended hend)
      · rw [hopen] at hclosed
        cases hclosed
    last := by
      rw [hframe.writer, hframe.recordsClosed, hframe.records]
      exact h.last
    looking := fun _ hst => hm.looking h hst }

structure WorkerFrame (i : Fin n) (g t : Goroutines n) : Prop where
  walker : t.walker = g.walker
  writer : t.writer = g.writer
  main : t.main = g.main
  jobsClosed : t.jobsClosed = g.jobsClosed
  recordsClosed : t.recordsClosed = g.recordsClosed
  ended : g.ended = true → t.ended = true
  jobs : g.jobs = [] → t.jobs = []
  runs : g.workers i ≠ .exited
  others : ∀ j, j ≠ i → t.workers j = g.workers j
  exits : t.workers i = .exited → t.ended = true ∨ t.jobs = [] ∧ t.jobsClosed = true

theorem WorkerMoves.frame (hm : WorkerMoves batch i g t) : WorkerFrame i g t := by
  have hothers {c : Goroutines n} {w : WorkerAt} (j : Fin n) (hj : j ≠ i) :
      (c.setWorker i w).workers j = c.workers j := Function.update_of_ne hj _ _
  have hself {c : Goroutines n} {w : WorkerAt} : (c.setWorker i w).workers i = w :=
    Function.update_self _ _ _
  cases hm with
  | take e jobs h hjobs =>
    exact ⟨rfl, rfl, rfl, rfl, rfl, fun h => h, by simp [hjobs], by simp [h], hothers, by simp [hself]⟩
  | leave h hjobs hclosed =>
    exact ⟨rfl, rfl, rfl, rfl, rfl, fun h => h, fun h => h, by simp [h], hothers,
      fun _ => .inr ⟨hjobs, hclosed⟩⟩
  | drop e h hend =>
    exact ⟨rfl, rfl, rfl, rfl, rfl, fun h => h, fun h => h, by simp [h], hothers, fun _ => .inl hend⟩
  | applied e h =>
    refine ⟨rfl, rfl, rfl, rfl, rfl, fun h => h, fun h => h, by simp [h], hothers, ?_⟩
    rw [hself]
    split <;> simp
  | fails err h =>
    exact ⟨rfl, rfl, rfl, rfl, rfl, fun _ => rfl, fun h => h, by simp [h], hothers, fun _ => .inl rfl⟩
  | check _ h | applyFails _ _ h | record _ h | forget _ h =>
    exact ⟨rfl, rfl, rfl, rfl, rfl, fun h => h, fun h => h, by simp [h], hothers, by simp [hself]⟩

theorem WorkerMoves.sound (h : g.Sound) (hm : WorkerMoves batch i g t) : t.Sound := by
  have hframe := hm.frame
  have hjoining : g.main = .joining := by
    by_contra hmain
    exact hframe.runs ((h.joined hmain).2 i)
  have hopen : ¬g.recordsClosed = true := by simp [h.records, hjoining]
  exact {
    jobs := by rw [hframe.jobsClosed, hframe.walker, h.jobs]
    records := by rw [hframe.recordsClosed, hframe.main, h.records]
    joined := fun hmain => absurd (hframe.main.trans hjoining) hmain
    exited := by
      intro j hj
      by_cases heq : j = i
      · exact hframe.exits (heq ▸ hj)
      rw [hframe.others j heq] at hj
      obtain hend | ⟨hjobs, hclosed⟩ := h.exited j hj
      · exact .inl (hframe.ended hend)
      · exact .inr ⟨hframe.jobs hjobs, hframe.jobsClosed.trans hclosed⟩
    last := by
      rw [hframe.writer]
      exact fun hlast => absurd (h.last hlast).1 hopen
    looking := by
      rw [hframe.walker]
      exact h.looking }

theorem WriterMoves.sound (h : g.Sound) (hm : WriterMoves batch g t) : t.Sound := by
  cases hm with
  | receive | lock | mark => exact ⟨h.jobs, h.records, h.joined, h.exited, fun hlast => hlast.elim, h.looking⟩
  | markLast => exact ⟨h.jobs, h.records, h.joined, h.exited, by simp [WriterAt.Last], h.looking⟩
  | saveLock last hw | saveUnlock last hw =>
    refine ⟨h.jobs, h.records, h.joined, h.exited, fun hlast => h.last ?_, h.looking⟩
    rw [hw]
    exact hlast
  | stored last hw =>
    refine ⟨h.jobs, h.records, h.joined, h.exited, fun hlast => h.last ?_, h.looking⟩
    rw [hw]
    cases last with
    | true => rfl
    | false => exact hlast.elim
  | ends hw hrec hclosed => exact ⟨h.jobs, h.records, h.joined, h.exited, fun _ => ⟨hclosed, hrec⟩, h.looking⟩
  | lastLock hw | lastUnlock hw =>
    refine ⟨h.jobs, h.records, h.joined, h.exited, fun _ => h.last ?_, h.looking⟩
    rw [hw]
    trivial

theorem MainMoves.sound (h : g.Sound) (hm : MainMoves g t) : t.Sound := by
  cases hm with
  | joins hmain hwalk hworkers =>
    exact ⟨h.jobs, by simp [h.records, hmain], fun _ => ⟨hwalk, hworkers⟩, h.exited, h.last, h.looking⟩
  | close hmain =>
    exact ⟨h.jobs, by simp, fun _ => h.joined (by simp [hmain]), h.exited, fun hlast => ⟨rfl, (h.last hlast).2⟩,
      h.looking⟩
  | returns hmain hw =>
    exact ⟨h.jobs, by simp [h.records, hmain], fun _ => h.joined (by simp [hmain]), h.exited, h.last, h.looking⟩

theorem Goroutines.Sound.step (h : g.Sound) (hstep : GoStep tree batch g t) : t.Sound := by
  cases hstep with
  | move _ hmove =>
    cases hmove with
    | walker hm => exact hm.sound h
    | worker i hm => exact hm.sound h
    | writer hm => exact hm.sound h
    | main hm => exact hm.sound h
  | expire hlive => exact ⟨h.jobs, h.records, h.joined, fun _ _ => .inl rfl, h.last, h.looking⟩

theorem sound_start (n : Nat) (completed : List Str) : (Goroutines.start n completed).Sound where
  jobs := by simp [Goroutines.start]
  records := by simp [Goroutines.start]
  joined := fun hmain => absurd rfl hmain
  exited := fun _ hi => by cases hi
  last := fun hlast => hlast.elim
  looking := fun _ hst => by obtain hst | hst := hst <;> cases hst

theorem writer_moves (hfree : ¬g.walker.Reads) (hgo : g.writer ≠ .exited)
    (hin : g.writer = .receiving → g.records ≠ [] ∨ g.recordsClosed = true) :
    ∃ t, WriterMoves batch g t := by
  cases hw : g.writer with
  | receiving =>
    cases hrec : g.records with
    | nil => exact ⟨_, .ends g hw hrec ((hin hw).resolve_left (fun hne => hne hrec))⟩
    | cons path records => exact ⟨_, .receive g path records hw hrec⟩
  | locking path => exact ⟨_, .lock g path hw hfree⟩
  | locked path =>
    by_cases hroom : g.pendingWrites + 1 < batch
    · exact ⟨_, .mark g path hw hroom⟩
    · exact ⟨_, .markLast g path hw (Nat.le_of_not_lt hroom)⟩
  | saving stage last =>
    cases stage with
    | locking => exact ⟨_, .saveLock g last hw hfree⟩
    | locked => exact ⟨_, .saveUnlock g last hw⟩
    | storing => exact ⟨_, .stored g last hw⟩
  | lastLocking => exact ⟨_, .lastLock g hw hfree⟩
  | lastLocked => exact ⟨_, .lastUnlock g hw⟩
  | exited => exact absurd hw hgo

theorem worker_moves (h : g.Sound) (hbatch : 0 < batch) (hfree : ¬g.walker.Reads)
    (hgo : g.workers i ≠ .exited) (hin : g.workers i = .idle → g.jobs ≠ [] ∨ g.jobsClosed = true) :
    ∃ t, GoMoves tree batch g t := by
  cases hw : g.workers i with
  | idle =>
    cases hjobs : g.jobs with
    | nil => exact ⟨_, .worker i (.leave g hw hjobs ((hin hw).resolve_left (fun hne => hne hjobs)))⟩
    | cons e jobs => exact ⟨_, .worker i (.take g e jobs hw hjobs)⟩
  | took e =>
    cases hend : g.ended with
    | true => exact ⟨_, .worker i (.drop g e hw hend)⟩
    | false => exact ⟨_, .worker i (.check g e hw hend)⟩
  | applying e => exact ⟨_, .worker i (.applied g e hw)⟩
  | failing err => exact ⟨_, .worker i (.fails g err hw)⟩
  | recording path =>
    by_cases hroom : g.records.length < batch
    · exact ⟨_, .worker i (.record g path hw hroom)⟩
    have hfull : g.records ≠ [] := by
      intro hnil
      rw [hnil] at hroom
      exact hroom hbatch
    have hwriter : g.writer ≠ .exited := by
      intro hexited
      exact hfull (h.last (by rw [hexited]; trivial)).2
    obtain ⟨t, ht⟩ := writer_moves hfree hwriter fun _ => .inl hfull
    exact ⟨t, .writer ht⟩
  | exited => exact absurd hw hgo

theorem main_moves (h : g.Sound) (hwalk : g.walker = .finished) (hworkers : ∀ i, g.workers i = .exited)
    (hmain : g.main ≠ .returned) : ∃ t, GoMoves tree batch g t := by
  cases hm : g.main with
  | joining => exact ⟨_, .main (.joins g hm hwalk hworkers)⟩
  | closing => exact ⟨_, .main (.close g hm)⟩
  | awaiting =>
    by_cases hwriter : g.writer = .exited
    · exact ⟨_, .main (.returns g hm hwriter)⟩
    · have hfree : ¬g.walker.Reads := by simp [hwalk, WalkerAt.Reads]
      obtain ⟨t, ht⟩ := writer_moves hfree hwriter fun _ => .inr (h.records.2 (.inl hm))
      exact ⟨t, .writer ht⟩
  | returned => exact absurd hm hmain

theorem Goroutines.Sound.advances (h : g.Sound) (hn : 0 < n) (hbatch : 0 < batch)
    (hmain : g.main ≠ .returned) : ∃ t, GoMoves tree batch g t := by
  cases hw : g.walker with
  | root =>
    cases hend : g.ended with
    | true => exact ⟨_, .walker (.rootStops g hw hend)⟩
    | false => exact ⟨_, .walker (.rootApplied g hw hend)⟩
  | walking st =>
    cases hend : g.ended with
    | true => exact ⟨_, .walker (.stops g st hw hend)⟩
    | false =>
      by_cases hst : st = []
      · exact ⟨_, .walker (.ends g (hst ▸ hw))⟩
      obtain ⟨o, st', hnext⟩ := WalkStack.exists_next (skips []) hst
      cases o with
      | none => exact ⟨_, .walker (.pass g st st' hw hend hnext)⟩
      | some e => exact ⟨_, .walker (.look g st e st' hw hend hnext)⟩
  | looking st =>
    by_cases hlocks : g.writer.Locks
    · have hfree : ¬g.walker.Reads := by simp [hw, WalkerAt.Reads]
      have hgo : g.writer ≠ .exited := fun hexited => by rw [hexited] at hlocks; exact hlocks
      obtain ⟨t, ht⟩ := writer_moves hfree hgo fun hwait => by rw [hwait] at hlocks; exact hlocks.elim
      exact ⟨t, .writer ht⟩
    · exact ⟨_, .walker (.rlock g st hw hlocks)⟩
  | reading st =>
    obtain ⟨o, st', hnext⟩ := WalkStack.exists_next (skips g.completed) (h.looking st (.inr hw))
    cases o with
    | none => exact ⟨_, .walker (.recorded g st st' hw hnext)⟩
    | some e => exact ⟨_, .walker (.missing g st e st' hw hnext)⟩
  | looked e st => exact ⟨_, .walker (.info g e st hw)⟩
  | sending e st =>
    cases hend : g.ended with
    | true => exact ⟨_, .walker (.sendStops g e st hw hend)⟩
    | false =>
      by_cases hroom : g.jobs.length < 100
      · exact ⟨_, .walker (.send g e st hw hroom)⟩
      -- the channel is full, so no worker has returned
      have hfull : g.jobs ≠ [] := fun hnil => hroom (by rw [hnil]; decide)
      refine worker_moves h hbatch (by simp [hw, WalkerAt.Reads]) (i := ⟨0, hn⟩) (fun hexited => ?_)
        fun _ => .inl hfull
      obtain hended | ⟨hnil, -⟩ := h.exited _ hexited
      · rw [hend] at hended
        cases hended
      · exact hfull hnil
  | failing e => exact ⟨_, .walker (.fails g e hw)⟩
  | closing => exact ⟨_, .walker (.close g hw)⟩
  | finished =>
    by_cases hall : ∀ i, g.workers i = .exited
    · exact main_moves h hw hall hmain
    · obtain ⟨i, hi⟩ := not_forall.1 hall
      exact worker_moves h hbatch (by simp [hw, WalkerAt.Reads]) hi fun _ => .inr (h.jobs.2 hw)

def WalkerAt.weight (tree : StagedTree) : WalkerAt → Nat
  | root => 20 * WalkStack.moves [([], tree.listing)] + 5
  | walking st => 20 * st.moves + 4
  | looking st => 20 * st.moves + 3
  | reading st => 20 * st.moves + 2
  | looked _ st => 20 * st.moves + 21
  | sending _ st => 20 * st.moves + 20
  | failing _ => 3
  | closing => 2
  | finished => 1

def WorkerAt.weight : WorkerAt → Nat
  | idle => 1
  | took _ => 14
  | applying _ => 13
  | recording _ => 12
  | failing _ => 2
  | exited => 0

def WriterAt.weight : WriterAt → Nat
  | locking _ => 16
  | locked _ => 15
  | saving .locking last => if last then 7 else 14
  | saving .locked last => if last then 6 else 13
  | saving .storing last => if last then 5 else 12
  | receiving => 10
  | lastLocking => 9
  | lastLocked => 8
  | exited => 0

def MainAt.weight : MainAt → Nat
  | joining => 3
  | closing => 2
  | awaiting => 1
  | returned => 0

def Goroutines.size (tree : StagedTree) (g : Goroutines n) : Nat :=
  g.walker.weight tree + ∑ i, (g.workers i).weight + 14 * g.jobs.length + 7 * g.records.length +
    g.writer.weight + g.main.weight + (!g.ended).toNat

theorem size_fails (tree : StagedTree) (g : Goroutines n) (e : Err) :
    (g.fails e).size tree ≤ g.size tree := by
  simp [Goroutines.size, Goroutines.fails]

theorem size_setWorker (tree : StagedTree) (g : Goroutines n) (i : Fin n) (w : WorkerAt) :
    (g.setWorker i w).size tree + (g.workers i).weight = g.size tree + w.weight := by
  have hsum := sum_update WorkerAt.weight g.workers i w
  simp only [Goroutines.size, Goroutines.setWorker]
  omega

theorem size_setWorker_lt (h : w.weight < (g.workers i).weight) :
    (g.setWorker i w).size tree < g.size tree := by
  have hsize := size_setWorker tree g i w
  omega

theorem WalkerMoves.size_lt (hm : WalkerMoves tree g t) : t.size tree < g.size tree := by
  cases hm with
  | pass st st' hw _ hnext | recorded st st' hw hnext | missing st e st' hw hnext =>
    have hless := WalkStack.moves_next hnext
    simp only [Goroutines.size, hw, WalkerAt.weight]
    omega
  | leaveDir p st hw =>
    have hnext : WalkStack.next (skips []) ((p, .nil) :: st) = some (none, st) := rfl
    have hless := WalkStack.moves_next hnext
    simp only [Goroutines.size, hw, WalkerAt.weight]
    omega
  | send e st hw hroom =>
    simp only [Goroutines.size, hw, WalkerAt.weight, List.length_append, List.length_singleton]
    omega
  | fails e hw =>
    have hless := size_fails tree g e
    simp only [Goroutines.size, Goroutines.fails, hw, WalkerAt.weight] at hless ⊢
    omega
  | rootApplied hw | rootFails _ hw | rootStops hw | stops _ hw | look _ _ _ hw | rlock _ hw | info _ _ hw
  | infoFails _ _ _ hw | sendStops _ _ hw | ends hw | close hw =>
    simp only [Goroutines.size, hw, WalkerAt.weight]
    omega

theorem WorkerMoves.size_lt (hm : WorkerMoves batch i g t) : t.size tree < g.size tree := by
  cases hm with
  | take e jobs hw hjobs =>
    have hsize := size_setWorker tree { g with jobs := jobs } i (.took e)
    simp only [Goroutines.size, hw, hjobs, WorkerAt.weight, List.length_cons] at hsize ⊢
    omega
  | applied e hw =>
    apply size_setWorker_lt
    rw [hw]
    split <;> simp [WorkerAt.weight]
  | fails err hw =>
    have hless := size_fails tree g err
    have hsize := size_setWorker tree (g.fails err) i .exited
    have hsame : (g.fails err).workers i = .failing err := hw
    simp only [hsame, WorkerAt.weight] at hsize
    omega
  | record path hw hroom =>
    have hsize := size_setWorker tree { g with records := g.records ++ [path] } i .idle
    simp only [Goroutines.size, hw, WorkerAt.weight, List.length_append, List.length_singleton] at hsize ⊢
    omega
  | leave hw | drop _ hw | check _ hw | applyFails _ _ hw | forget _ hw =>
    apply size_setWorker_lt
    simp [hw, WorkerAt.weight]

theorem WriterMoves.size_lt (hm : WriterMoves batch g t) : t.size tree < g.size tree := by
  cases hm with
  | receive path records hw hrec =>
    simp only [Goroutines.size, hw, hrec, WriterAt.weight, List.length_cons]
    omega
  | saveLock last hw | saveUnlock last hw | stored last hw =>
    cases last <;> simp only [Goroutines.size, hw, WriterAt.weight] <;> simp
  | lastUnlock hw =>
    simp only [Goroutines.size, hw]
    split <;> simp [WriterAt.weight]
  | lock _ hw | mark _ hw | markLast _ hw | ends hw | lastLock hw =>
    simp only [Goroutines.size, hw, WriterAt.weight]
    simp

theorem MainMoves.size_lt (hm : MainMoves g t) : t.size tree < g.size tree := by
  cases hm with
  | joins hmain | close hmain | returns hmain =>
    simp only [Goroutines.size, hmain, MainAt.weight]
    omega

theorem GoStep.size_lt (hstep : GoStep tree batch g t) : t.size tree < g.size tree := by
  cases hstep with
  | move _ hmove =>
    cases hmove with
    | walker hm => exact hm.size_lt
    | worker i hm => exact hm.size_lt
    | writer hm => exact hm.size_lt
    | main hm => exact hm.size_lt
  | expire hlive => simp [Goroutines.size, hlive]

theorem goroutines_complete (tree : StagedTree) (hn : 0 < n) (hbatch : 0 < batch) :
    Completes (GoStep tree batch) (Goroutines.Sound (n := n)) (fun g => g.main = .returned)
      (Goroutines.size tree) where
  keeps := Goroutines.Sound.step
  shrinks := fun _ hstep => hstep.size_lt
  advances := by
    intro g h hmain
    obtain ⟨t, ht⟩ := h.advances hn hbatch hmain
    exact ⟨t, .move g t ht⟩

/-- In every state that the pipeline can come to, some goroutine has a step until the call has
returned, and nothing is sent or closed that is closed. No run goes on forever. -/
theorem chown_goroutines_complete (tree : StagedTree) (opts : ChownOptions) (completed : List Str)
    (g : Goroutines opts.chownWorkers)
    (hrun : Relation.ReflTransGen (GoStep tree opts.chownWriteBatch) (.start _ completed) g) :
    (g.main ≠ .returned → ∃ t, GoMoves tree opts.chownWriteBatch g t) ∧
      ¬Endless (GoStep tree opts.chownWriteBatch) g ∧
      (g.walker ≠ .finished → g.jobsClosed = false) ∧
      ((∃ i, g.workers i ≠ .exited) ∨ g.main = .closing → g.recordsClosed = false) := by
  have hcomplete := goroutines_complete (n := opts.chownWorkers) tree opts.workers_pos opts.batch_pos
  have h := hcomplete.invariant (sound_start _ completed) hrun
  refine ⟨h.advances opts.workers_pos opts.batch_pos, hcomplete.not_endless h, fun hwalk => ?_, fun hgo => ?_⟩
  · simpa using mt h.jobs.1 hwalk
  have hopen : ¬(g.main = .awaiting ∨ g.main = .returned) := by
    rintro hmain
    obtain ⟨i, hi⟩ | hclosing := hgo
    · exact hi ((h.joined (by rcases hmain with hmain | hmain <;> simp [hmain])).2 i)
    · simp [hclosing] at hmain
  simpa using mt h.records.1 hopen

def twoFiles : StagedTree where
  name := "mount"
  listing := .file "data" false (.file "log" false .nil)
  sound := ⟨by decide, by decide, by decide, List.not_mem_nil, trivial⟩

/-- The first file is changed and about to be recorded, the walk goes on to the second one. -/
theorem chown_goroutines_complete_recording : ∃ g : Goroutines 2,
    Relation.ReflTransGen (GoStep twoFiles 2) (.start 2 []) g ∧
      g.workers 0 = .recording ["data"] ∧ (∃ t, GoMoves twoFiles 2 g t) ∧
      ¬Endless (GoStep twoFiles 2) g ∧ g.jobsClosed = false ∧ g.recordsClosed = false := by
  have hnext : WalkStack.next (skips []) [([], twoFiles.listing)] =
      some (some ⟨["data"], .file⟩, [([], .file "log" false .nil)]) := by decide
  have walks {g t u : Goroutines 2} (hrun : Relation.ReflTransGen (GoStep twoFiles 2) g t)
      (hm : WalkerMoves twoFiles t u) : Relation.ReflTransGen (GoStep twoFiles 2) g u :=
    hrun.tail (.move _ _ (.walker hm))
  have works {g t u : Goroutines 2} (hrun : Relation.ReflTransGen (GoStep twoFiles 2) g t)
      (hm : WorkerMoves 2 0 t u) : Relation.ReflTransGen (GoStep twoFiles 2) g u :=
    hrun.tail (.move _ _ (.worker 0 hm))
  have hroot := walks .refl (.rootApplied (.start 2 []) rfl rfl)
  have hlook := walks hroot (.look _ _ _ _ rfl rfl hnext)
  have hread := walks hlook (.rlock _ _ rfl id)
  have hfound := walks hread (.missing _ _ _ _ rfl hnext)
  have hsent := walks (walks hfound (.info _ _ _ rfl)) (.send _ _ _ rfl (Nat.zero_lt_succ 99))
  have htook := works hsent (.take _ _ _ rfl rfl)
  have hdone := works (works htook (.check _ _ rfl rfl)) (.applied _ _ rfl)
  have h := chown_goroutines_complete twoFiles ⟨"node", true, 2, 2, Nat.two_pos, Nat.two_pos⟩ [] _ hdone
  refine ⟨_, hdone, rfl, h.1 (fun hmain => by cases hmain), h.2.1, h.2.2.1 (fun hwalk => by cases hwalk),
    h.2.2.2 (.inl ⟨0, fun hworker => by cases hworker⟩)⟩

end NodeService
end CsiPowerscale
