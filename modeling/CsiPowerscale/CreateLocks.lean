import Mathlib.Logic.Function.Basic
import CsiPowerscale.GoLib.Strings

namespace CsiPowerscale.Interceptor
open GoLib

structure RefCountedLock where
  refCount : Int := 0
  held : Bool := false
  deriving DecidableEq

structure LockProvider where
  volIDLocks : Str → Option Nat := fun _ => none
  locks : Nat → RefCountedLock := fun _ => {}
  fresh : Nat := 0

/-- `lockHandle`: the lock it points to, the name that its `releaseFunc` closes over, and whether
its `once` is done. -/
structure LockHandle where
  entry : Nat
  id : Str
  once : Bool := false
  deriving DecidableEq

namespace LockProvider

variable (p : LockProvider)

def onLock (entry : Nat) (f : RefCountedLock → RefCountedLock) : LockProvider :=
  { p with locks := Function.update p.locks entry (f (p.locks entry)) }

def entryOf (id : Str) : LockProvider × Nat :=
  match p.volIDLocks id with
  | some entry => (p, entry)
  | none =>
    ({ volIDLocks := Function.update p.volIDLocks id (some p.fresh)
       locks := Function.update p.locks p.fresh {}
       fresh := p.fresh + 1 }, p.fresh)

def getLockWithID (id : Str) : LockProvider × LockHandle :=
  let (p, entry) := p.entryOf id
  (p.onLock entry fun l => { l with refCount := l.refCount + 1 }, { entry := entry, id := id })

def release (h : LockHandle) : LockProvider :=
  let p := p.onLock h.entry fun l => { l with refCount := l.refCount - 1 }
  if (p.locks h.entry).refCount = 0 then
    { p with volIDLocks := Function.update p.volIDLocks h.id none }
  else p

def close (h : LockHandle) : LockProvider × LockHandle :=
  if h.once then (p, h) else (p.release h, { h with once := true })

def setHeld (h : LockHandle) (held : Bool) : LockProvider :=
  p.onLock h.entry fun l => { l with held := held }

end LockProvider

inductive Phase
  /-- before `GetLockWithID` -/
  | called
  /-- before `TryLock` -/
  | obtained (h : LockHandle)
  /-- the handler runs, up to the deferred `Unlock` -/
  | running (h : LockHandle)
  /-- `TryLock` has failed or `Unlock` is done: before the deferred `Close`, and after it -/
  | leaving (h : LockHandle)
  deriving DecidableEq

structure Call where
  name : Str
  phase : Phase
  deriving DecidableEq

/-- The next step of a call. `TryLock` waits while the lock is held and may time out at any moment;
a closed handle can be closed again. -/
def Call.step (p : LockProvider) (c : Call) (timeout : Bool) : Option (LockProvider × Call) :=
  match c.phase with
  | .called =>
    let (p, h) := p.getLockWithID c.name
    some (p, { c with phase := .obtained h })
  | .obtained h =>
    if timeout then some (p, { c with phase := .leaving h })
    else if (p.locks h.entry).held then none
    else some (p.setHeld h true, { c with phase := .running h })
  | .running h => some (p.setHeld h false, { c with phase := .leaving h })
  | .leaving h =>
    let (p, h) := p.close h
    some (p, { c with phase := .leaving h })

structure State where
  provider : LockProvider := {}
  calls : List Call := []

inductive Move
  | call (name : Str)
  | step (k : Nat) (timeout : Bool)
  deriving DecidableEq

def State.move (s : State) : Move → State
  | .call name => { s with calls := ⟨name, .called⟩ :: s.calls }
  | .step k timeout =>
    match s.calls[k]? with
    | none => s
    | some c =>
      match c.step s.provider timeout with
      | none => s
      | some (p, c) => { provider := p, calls := s.calls.set k c }

def State.play (s : State) (moves : List Move) : State := moves.foldl State.move s

def Call.isOpen (c : Call) : Bool :=
  match c.phase with
  | .called => false
  | .obtained h | .running h | .leaving h => !h.once

def Call.entry? (c : Call) : Option Nat :=
  match c.phase with
  | .called => none
  | .obtained h | .running h | .leaving h => some h.entry

def Call.isRunning (c : Call) : Bool :=
  match c.phase with
  | .running _ => true
  | _ => false

def openHandles (calls : List Call) (name : Str) : Nat :=
  calls.countP fun c => c.isOpen && c.name = name

def handlers (calls : List Call) (entry : Nat) : Nat :=
  calls.countP fun c => c.isRunning && c.entry? = some entry

def Call.WellFormed (c : Call) : Prop :=
  match c.phase with
  | .called => True
  | .obtained h | .running h => h.id = c.name ∧ h.once = false
  | .leaving h => h.id = c.name

structure Counted (p : LockProvider) (calls : List Call) : Prop where
  mapped : ∀ c ∈ calls, c.isOpen = true → p.volIDLocks c.name = c.entry?
  counted : ∀ name entry, p.volIDLocks name = some entry →
    (p.locks entry).refCount = openHandles calls name ∧ 0 < openHandles calls name
  single : ∀ name name' entry, p.volIDLocks name = some entry →
    p.volIDLocks name' = some entry → name = name'
  made : ∀ name entry, p.volIDLocks name = some entry → entry < p.fresh

def Guarded (p : LockProvider) (calls : List Call) : Prop :=
  ∀ entry, handlers calls entry = if (p.locks entry).held then 1 else 0

structure Invariant (p : LockProvider) (calls : List Call) : Prop where
  wellFormed : ∀ c ∈ calls, c.WellFormed
  counted : Counted p calls
  guarded : Guarded p calls

theorem openHandles_cons (c : Call) (calls : List Call) (name : Str) :
    openHandles (c :: calls) name =
      openHandles calls name + if c.isOpen = true ∧ c.name = name then 1 else 0 := by
  simp [openHandles, List.countP_cons]

theorem handlers_cons (c : Call) (calls : List Call) (entry : Nat) :
    handlers (c :: calls) entry =
      handlers calls entry + if c.isRunning = true ∧ c.entry? = some entry then 1 else 0 := by
  simp [handlers, List.countP_cons]

theorem openHandles_pos (hc : c ∈ calls) (ho : c.isOpen = true) : 0 < openHandles calls c.name := by
  apply List.countP_pos_iff.2
  exact ⟨c, hc, by simp [ho]⟩

theorem Invariant.perm (h : Invariant p calls) (hp : calls.Perm calls') : Invariant p calls' := by
  have hopen : openHandles calls' = openHandles calls := funext fun _ => hp.symm.countP_eq _
  apply Invariant.mk
  · exact fun c hc => h.wellFormed c (hp.mem_iff.2 hc)
  · apply Counted.mk
    · exact fun c hc => h.counted.mapped c (hp.mem_iff.2 hc)
    · rw [hopen]
      exact h.counted.counted
    · exact h.counted.single
    · exact h.counted.made
  · exact fun entry => (hp.symm.countP_eq _).trans (h.guarded entry)

theorem Call.WellFormed.isOpen {c : Call} (h : c.WellFormed) (hr : c.isRunning = true) :
    c.isOpen = true := by
  obtain ⟨name, phase⟩ := c
  cases phase with
  | running l => simp_all [Call.WellFormed, Call.isOpen]
  | _ => cases hr

theorem Call.entry_of_isOpen {c : Call} (h : c.isOpen = true) : ∃ entry, c.entry? = some entry := by
  obtain ⟨name, phase⟩ := c
  cases phase with
  | called => cases h
  | obtained l => exact ⟨l.entry, rfl⟩
  | running l => exact ⟨l.entry, rfl⟩
  | leaving l => exact ⟨l.entry, rfl⟩

inductive Steps (p : LockProvider) (name : Str) : Phase → LockProvider → Phase → Prop
  | getLock : Steps p name .called (p.getLockWithID name).1 (.obtained (p.getLockWithID name).2)
  | timeout : Steps p name (.obtained l) p (.leaving l)
  | lock : (p.locks l.entry).held = false →
      Steps p name (.obtained l) (p.setHeld l true) (.running l)
  | unlock : Steps p name (.running l) (p.setHeld l false) (.leaving l)
  | close : l.once = false →
      Steps p name (.leaving l) (p.release l) (.leaving { l with once := true })
  | closeAgain : l.once = true → Steps p name (.leaving l) p (.leaving l)

theorem Call.step_steps {c c' : Call} (h : c.step p timeout = some (p', c')) :
    c'.name = c.name ∧ Steps p c.name c.phase p' c'.phase := by
  obtain ⟨name, phase⟩ := c
  cases phase with
  | called =>
    cases h
    exact ⟨rfl, .getLock⟩
  | obtained l =>
    simp only [Call.step] at h
    split at h
    · cases h
      exact ⟨rfl, .timeout⟩
    split at h
    · cases h
    · cases h
      exact ⟨rfl, .lock (by simp_all)⟩
  | running l =>
    cases h
    exact ⟨rfl, .unlock⟩
  | leaving l =>
    simp only [Call.step, LockProvider.close] at h
    split at h
    · cases h
      exact ⟨rfl, .closeAgain (by assumption)⟩
    · cases h
      exact ⟨rfl, .close (by simp_all)⟩

theorem Steps.wellFormed (h : Steps p name phase p' phase')
    (hc : Call.WellFormed ⟨name, phase⟩) : Call.WellFormed ⟨name, phase'⟩ := by
  cases h with
  | getLock => exact ⟨rfl, rfl⟩
  | timeout => exact hc.1
  | lock => exact hc
  | unlock => exact hc.1
  | close => exact hc
  | closeAgain => exact hc

theorem Invariant.handlers_eq_zero (h : Invariant p calls)
    (hentry : ∀ name, p.volIDLocks name ≠ some entry) : handlers calls entry = 0 := by
  apply List.countP_eq_zero.2
  intro c hc hrun
  simp only [Bool.and_eq_true, decide_eq_true_eq] at hrun
  have hmapped := h.counted.mapped c hc ((h.wellFormed c hc).isOpen hrun.1)
  exact hentry c.name (hmapped.trans hrun.2)

theorem LockProvider.refCount_setHeld {p : LockProvider} (e : Nat) :
    ((p.setHeld l held).locks e).refCount = (p.locks e).refCount := by
  by_cases he : e = l.entry
  · subst he
    simp [setHeld, onLock]
  · simp [setHeld, onLock, Function.update_of_ne he]

theorem LockProvider.held_onLock (p : LockProvider) (entry : Nat) (hf : ∀ l, (f l).held = l.held)
    (e : Nat) :
    ((p.onLock entry f).locks e).held = (p.locks e).held := by
  by_cases he : e = entry
  · subst he
    simp [onLock, hf]
  · simp [onLock, Function.update_of_ne he]

theorem LockProvider.held_release {p : LockProvider} (e : Nat) :
    ((p.release l).locks e).held = (p.locks e).held := by
  have hheld := p.held_onLock l.entry (f := fun k => { k with refCount := k.refCount - 1 })
    (fun _ => rfl) e
  unfold release
  dsimp only
  split
  · exact hheld
  · exact hheld

theorem Invariant.held_new (h : Invariant p calls) (e : Nat) :
    (Function.update p.locks p.fresh { refCount := 1 } e).held = (p.locks e).held := by
  by_cases he : e = p.fresh
  · have hzero : handlers calls p.fresh = 0 :=
      h.handlers_eq_zero fun name hname => (h.counted.made name _ hname).ne rfl
    have hfree := h.guarded p.fresh
    rw [hzero] at hfree
    subst he
    cases hheld : (p.locks p.fresh).held with
    | false => simp
    | true => simp [hheld] at hfree
  · simp [Function.update_of_ne he]

section Steps

variable {p p' : LockProvider} {c c' : Call} {rest : List Call}

theorem Counted.congr (h : Counted p (c :: rest)) (hmap : p'.volIDLocks = p.volIDLocks)
    (hfresh : p'.fresh = p.fresh) (hcount : ∀ e, (p'.locks e).refCount = (p.locks e).refCount)
    (hname : c'.name = c.name) (hopen : c'.isOpen = c.isOpen) (hentry : c'.entry? = c.entry?) :
    Counted p' (c' :: rest) := by
  have hopens : openHandles (c' :: rest) = openHandles (c :: rest) := by
    funext name
    rw [openHandles_cons, openHandles_cons, hopen, hname]
  apply Counted.mk
  · intro d hd ho
    rw [hmap]
    rcases List.mem_cons.1 hd with rfl | hd
    · rw [hname, hentry]
      exact h.mapped c List.mem_cons_self (hopen ▸ ho)
    · exact h.mapped d (List.mem_cons_of_mem c hd) ho
  · rw [hmap, hopens]
    intro name e he
    rw [hcount]
    exact h.counted name e he
  · rw [hmap]
    exact h.single
  · rw [hmap, hfresh]
    exact h.made

theorem Guarded.congr (h : Guarded p (c :: rest))
    (hheld : ∀ e, (p'.locks e).held = (p.locks e).held) (hidle : c.isRunning = false)
    (hidle' : c'.isRunning = false) : Guarded p' (c' :: rest) := by
  intro e
  have he := h e
  rw [handlers_cons, hidle] at he
  rw [handlers_cons, hidle', hheld]
  exact he

theorem Guarded.setHeld (h : Guarded p (c :: rest)) (l : LockHandle) (held : Bool)
    (hentry : c.entry? = some l.entry) (hentry' : c'.entry? = some l.entry)
    (hrun' : c'.isRunning = held) (hfree : (p.locks l.entry).held = c.isRunning) :
    Guarded (p.setHeld l held) (c' :: rest) := by
  intro e
  have he := h e
  rw [handlers_cons, hentry] at he
  rw [handlers_cons, hentry', hrun']
  by_cases hl : l.entry = e
  · subst hl
    rw [hfree] at he
    cases hc : c.isRunning <;> cases held <;> simp_all [LockProvider.setHeld, LockProvider.onLock]
  · have hlock : (p.setHeld l held).locks e = p.locks e := Function.update_of_ne (Ne.symm hl) ..
    simpa [hl, hlock] using he

theorem Guarded.held_of_running (h : Guarded p (c :: rest)) (hrun : c.isRunning = true)
    (hentry : c.entry? = some entry) : (p.locks entry).held = true := by
  have hone := h entry
  rw [handlers_cons, if_pos ⟨hrun, hentry⟩] at hone
  cases hheld : (p.locks entry).held with
  | true => rfl
  | false => simp [hheld] at hone

theorem LockProvider.getLockWithID_mapped {id : Str} (h : p.volIDLocks id = some entry) :
    p.getLockWithID id = (p.onLock entry fun l => { l with refCount := l.refCount + 1 },
      { entry := entry, id := id }) := by
  simp [getLockWithID, entryOf, h]

theorem LockProvider.getLockWithID_new {id : Str} (h : p.volIDLocks id = none) :
    p.getLockWithID id =
      ({ volIDLocks := Function.update p.volIDLocks id (some p.fresh)
         locks := Function.update p.locks p.fresh { refCount := 1 }
         fresh := p.fresh + 1 }, { entry := p.fresh, id := id }) := by
  simp [getLockWithID, entryOf, h, onLock]

theorem Counted.openHandles_eq_zero (h : Counted p calls) (hname : p.volIDLocks name = none) :
    openHandles calls name = 0 := by
  apply List.countP_eq_zero.2
  intro c hc ho
  simp only [Bool.and_eq_true, decide_eq_true_eq] at ho
  have hmapped := h.mapped c hc ho.1
  rw [ho.2, hname] at hmapped
  obtain ⟨entry, hentry⟩ := Call.entry_of_isOpen ho.1
  rw [hentry] at hmapped
  cases hmapped

theorem Counted.getLock_mapped (h : Counted p (⟨name, .called⟩ :: rest))
    (hmap : p.volIDLocks name = some entry) :
    Counted (p.onLock entry fun l => { l with refCount := l.refCount + 1 })
      (⟨name, .obtained { entry := entry, id := name }⟩ :: rest) := by
  apply Counted.mk
  · intro d hd ho
    rcases List.mem_cons.1 hd with rfl | hd
    · exact hmap
    · exact h.mapped d (List.mem_cons_of_mem _ hd) ho
  · intro id e he
    have hcount := h.counted id e he
    rw [openHandles_cons] at hcount ⊢
    by_cases hid : name = id
    · subst hid
      obtain rfl : entry = e := Option.some.inj (hmap.symm.trans he)
      simp_all [LockProvider.onLock, Call.isOpen]
    have hne : e ≠ entry := by
      rintro rfl
      exact hid (h.single _ _ _ hmap he)
    simpa [LockProvider.onLock, Function.update_of_ne hne, hid] using hcount
  · exact h.single
  · exact h.made

theorem Counted.getLock_new (h : Counted p (⟨name, .called⟩ :: rest))
    (hmap : p.volIDLocks name = none) :
    Counted
      { volIDLocks := Function.update p.volIDLocks name (some p.fresh)
        locks := Function.update p.locks p.fresh { refCount := 1 }
        fresh := p.fresh + 1 }
      (⟨name, .obtained { entry := p.fresh, id := name }⟩ :: rest) := by
  have hzero : openHandles rest name = 0 := by
    have := h.openHandles_eq_zero hmap
    simpa [openHandles_cons, Call.isOpen] using this
  have hother : ∀ id e, id ≠ name →
      Function.update p.volIDLocks name (some p.fresh) id = some e →
      p.volIDLocks id = some e ∧ e ≠ p.fresh := by
    intro id e hid he
    rw [Function.update_of_ne hid] at he
    exact ⟨he, (h.made id e he).ne⟩
  apply Counted.mk
  · intro d hd ho
    rcases List.mem_cons.1 hd with rfl | hd
    · simp [Call.entry?]
    have hd' := h.mapped d (List.mem_cons_of_mem _ hd) ho
    have hne : d.name ≠ name := by
      intro hname
      have hpos := openHandles_pos hd ho
      rw [hname, hzero] at hpos
      exact absurd hpos (Nat.lt_irrefl 0)
    simpa [Function.update_of_ne hne] using hd'
  · intro id e he
    by_cases hid : id = name
    · subst hid
      obtain rfl : p.fresh = e := by simpa using he
      simp [openHandles_cons, hzero, Call.isOpen]
    · obtain ⟨hold, hne⟩ := hother id e hid he
      have hcount := h.counted id e hold
      simpa [openHandles_cons, Ne.symm hid, Function.update_of_ne hne] using hcount
  · intro id id' e he he'
    by_cases hid : id = name <;> by_cases hid' : id' = name
    · rw [hid, hid']
    · subst hid
      exact absurd (by simpa using he) (hother id' e hid' he').2.symm
    · subst hid'
      exact absurd (by simpa using he') (hother id e hid he).2.symm
    · exact h.single id id' e (hother id e hid he).1 (hother id' e hid' he').1
  · intro id e he
    by_cases hid : id = name
    · subst hid
      obtain rfl : p.fresh = e := by simpa using he
      exact Nat.lt_succ_self _
    · exact (h.made id e (hother id e hid he).1).trans (Nat.lt_succ_self _)

theorem LockProvider.release_eq {n : Nat} (hcount : (p.locks l.entry).refCount = n + 1) :
    p.release l =
      { volIDLocks := if n = 0 then Function.update p.volIDLocks l.id none else p.volIDLocks
        locks := Function.update p.locks l.entry { p.locks l.entry with refCount := n }
        fresh := p.fresh } := by
  by_cases hn : n = 0 <;> simp [release, onLock, hcount, hn]

theorem Counted.refCount_leaving {l : LockHandle} (h : Counted p (⟨l.id, .leaving l⟩ :: rest))
    (honce : l.once = false) :
    p.volIDLocks l.id = some l.entry ∧
      (p.locks l.entry).refCount = (openHandles rest l.id : Int) + 1 := by
  have hmap : p.volIDLocks l.id = some l.entry := by
    apply h.mapped _ List.mem_cons_self
    simp [Call.isOpen, honce]
  obtain ⟨hcount, -⟩ := h.counted l.id l.entry hmap
  apply And.intro hmap
  simpa [openHandles_cons, Call.isOpen, honce] using hcount

theorem Counted.close {l : LockHandle} (h : Counted p (⟨l.id, .leaving l⟩ :: rest))
    (honce : l.once = false) :
    Counted (p.release l) (⟨l.id, .leaving { l with once := true }⟩ :: rest) := by
  obtain ⟨hmap, hcount⟩ := h.refCount_leaving honce
  rw [LockProvider.release_eq hcount]
  have hold : ∀ id e, (if openHandles rest l.id = 0 then Function.update p.volIDLocks l.id none
      else p.volIDLocks) id = some e →
      p.volIDLocks id = some e ∧ (id = l.id → 0 < openHandles rest l.id) := by
    intro id e he
    split at he
    · by_cases hid : id = l.id
      · simp [hid] at he
      · exact ⟨by simpa [Function.update_of_ne hid] using he, fun hid' => absurd hid' hid⟩
    · exact ⟨he, fun _ => by omega⟩
  apply Counted.mk
  · intro d hd ho
    rcases List.mem_cons.1 hd with rfl | hd
    · cases ho
    have hd' := h.mapped d (List.mem_cons_of_mem _ hd) ho
    by_cases hname : d.name = l.id
    · have hpos := openHandles_pos hd ho
      rw [hname] at hpos
      simpa [hpos.ne'] using hd'
    · split
      · simpa [Function.update_of_ne hname] using hd'
      · exact hd'
  · intro id e he
    obtain ⟨he', hpos⟩ := hold id e he
    rw [openHandles_cons]
    by_cases hid : id = l.id
    · subst hid
      obtain rfl : l.entry = e := Option.some.inj (hmap.symm.trans he')
      simpa [Call.isOpen] using hpos rfl
    have hne : e ≠ l.entry := by
      rintro rfl
      exact hid (h.single _ _ _ he' hmap)
    have hc := h.counted id e he'
    simpa [openHandles_cons, Ne.symm hid, Function.update_of_ne hne] using hc
  · intro id id' e he he'
    exact h.single id id' e (hold id e he).1 (hold id' e he').1
  · intro id e he
    exact h.made id e (hold id e he).1

theorem Invariant.steps (h : Invariant p (⟨name, phase⟩ :: rest))
    (hs : Steps p name phase p' phase') : Invariant p' (⟨name, phase'⟩ :: rest) := by
  have hwf : ∀ c ∈ Call.mk name phase' :: rest, c.WellFormed := by
    intro c hc
    rcases List.mem_cons.1 hc with rfl | hc
    · exact hs.wellFormed (h.wellFormed _ List.mem_cons_self)
    · exact h.wellFormed c (List.mem_cons_of_mem _ hc)
  apply Invariant.mk hwf
  · cases hs with
    | getLock =>
      cases hmap : p.volIDLocks name with
      | none =>
        rw [LockProvider.getLockWithID_new hmap]
        exact h.counted.getLock_new hmap
      | some entry =>
        rw [LockProvider.getLockWithID_mapped hmap]
        exact h.counted.getLock_mapped hmap
    | timeout => exact h.counted.congr rfl rfl (fun _ => rfl) rfl rfl rfl
    | lock => exact h.counted.congr rfl rfl LockProvider.refCount_setHeld rfl rfl rfl
    | unlock => exact h.counted.congr rfl rfl LockProvider.refCount_setHeld rfl rfl rfl
    | close honce =>
      obtain rfl := h.wellFormed _ List.mem_cons_self
      exact h.counted.close honce
    | closeAgain => exact h.counted
  · cases hs with
    | getLock =>
      cases hmap : p.volIDLocks name with
      | none =>
        rw [LockProvider.getLockWithID_new hmap]
        exact h.guarded.congr h.held_new rfl rfl
      | some entry =>
        rw [LockProvider.getLockWithID_mapped hmap]
        exact h.guarded.congr (LockProvider.held_onLock p entry
          (f := fun l => { l with refCount := l.refCount + 1 }) (fun _ => rfl)) rfl rfl
    | timeout => exact h.guarded.congr (fun _ => rfl) rfl rfl
    | lock hfree => exact h.guarded.setHeld _ _ rfl rfl rfl hfree
    | unlock => exact h.guarded.setHeld _ _ rfl rfl rfl (h.guarded.held_of_running rfl rfl)
    | close =>
      exact h.guarded.congr LockProvider.held_release rfl rfl
    | closeAgain => exact h.guarded

end Steps

theorem invariant_start : Invariant {} [] := by
  apply Invariant.mk
  · simp
  · apply Counted.mk <;> simp
  · simp [Guarded, handlers]

theorem Invariant.call (h : Invariant p calls) (name : Str) :
    Invariant p (⟨name, .called⟩ :: calls) := by
  have hopen : openHandles (⟨name, .called⟩ :: calls) = openHandles calls := by
    funext id
    simp [openHandles_cons, Call.isOpen]
  apply Invariant.mk
  · intro c hc
    rcases List.mem_cons.1 hc with rfl | hc
    · trivial
    · exact h.wellFormed c hc
  · apply Counted.mk
    · intro c hc ho
      rcases List.mem_cons.1 hc with rfl | hc
      · cases ho
      · exact h.counted.mapped c hc ho
    · rw [hopen]
      exact h.counted.counted
    · exact h.counted.single
    · exact h.counted.made
  · intro entry
    rw [handlers_cons]
    exact h.guarded entry

theorem State.move_cases (s : State) (m : Move) :
    s.move m = s ∨ (∃ name, s.move m = ⟨s.provider, ⟨name, .called⟩ :: s.calls⟩) ∨
      ∃ l₁ l₂ name phase p' phase', s.calls = l₁ ++ ⟨name, phase⟩ :: l₂ ∧
        Steps s.provider name phase p' phase' ∧ s.move m = ⟨p', l₁ ++ ⟨name, phase'⟩ :: l₂⟩ := by
  cases m with
  | call name => exact .inr (.inl ⟨name, rfl⟩)
  | step k timeout =>
    unfold State.move
    dsimp only
    cases hk : s.calls[k]? with
    | none => exact .inl rfl
    | some c =>
      dsimp only
      cases hs : c.step s.provider timeout with
      | none => exact .inl rfl
      | some r =>
        obtain ⟨hlt, rfl⟩ := List.getElem?_eq_some_iff.1 hk
        obtain ⟨l₁, l₂, hcalls, -, hset⟩ := @List.exists_of_set _ k r.2 s.calls hlt
        obtain ⟨hname, hstep⟩ := Call.step_steps hs
        apply Or.inr
        apply Or.inr
        refine ⟨l₁, l₂, s.calls[k].name, s.calls[k].phase, r.1, r.2.phase, hcalls, hstep, ?_⟩
        rw [← hname]
        exact congrArg (State.mk r.1) hset

theorem State.move_invariant {s : State} (h : Invariant s.provider s.calls) (m : Move) :
    Invariant (s.move m).provider (s.move m).calls := by
  rcases s.move_cases m with heq | ⟨name, heq⟩ | ⟨l₁, l₂, name, phase, p', phase', hcalls, hs, heq⟩
  · rw [heq]
    exact h
  · rw [heq]
    exact h.call name
  · rw [heq]
    rw [hcalls] at h
    exact ((h.perm List.perm_middle).steps hs).perm List.perm_middle.symm

theorem State.play_invariant (moves : List Move) :
    ∀ {s : State}, Invariant s.provider s.calls →
      Invariant (s.play moves).provider (s.play moves).calls := by
  induction moves with
  | nil => exact fun h => h
  | cons m more ih => exact fun h => ih (State.move_invariant h m)

theorem Invariant.openHandles_pos_of_held (h : Invariant p (⟨name, .leaving l⟩ :: rest))
    (hmap : p.volIDLocks name = some entry) (hheld : (p.locks entry).held = true) :
    0 < openHandles rest name := by
  have hone := h.guarded entry
  rw [handlers_cons, hheld] at hone
  have hpos : 0 < handlers rest entry := by
    simp only [Call.isRunning, Bool.false_eq_true, false_and, if_false, if_true] at hone
    omega
  obtain ⟨c, hc, hrun⟩ := List.countP_pos_iff.1 hpos
  simp only [Bool.and_eq_true, decide_eq_true_eq] at hrun
  have hc' := List.mem_cons_of_mem (⟨name, .leaving l⟩ : Call) hc
  have hopen := (h.wellFormed c hc').isOpen hrun.1
  have hname := h.counted.single _ _ _ hmap ((h.counted.mapped c hc' hopen).trans hrun.2)
  rw [hname]
  exact openHandles_pos hc hopen

theorem Invariant.evicts (h : Invariant p (⟨name, phase⟩ :: rest))
    (hs : Steps p name phase p' phase') (hbefore : p.volIDLocks id' = some entry)
    (hafter : p'.volIDLocks id' ≠ some entry) : (p.locks entry).held = false := by
  cases hs with
  | getLock =>
    apply absurd _ hafter
    cases hmap : p.volIDLocks name with
    | none =>
      have hne : id' ≠ name := by
        rintro rfl
        rw [hmap] at hbefore
        cases hbefore
      rw [LockProvider.getLockWithID_new hmap]
      exact (Function.update_of_ne hne ..).trans hbefore
    | some e =>
      rw [LockProvider.getLockWithID_mapped hmap]
      exact hbefore
  | close honce =>
    rename_i l
    obtain rfl := h.wellFormed _ List.mem_cons_self
    obtain ⟨hmap, hcount⟩ := h.counted.refCount_leaving honce
    rw [LockProvider.release_eq hcount] at hafter
    by_contra hheld
    rw [Bool.not_eq_false] at hheld
    apply hafter
    by_cases hid : id' = l.id
    · subst hid
      have hpos := h.openHandles_pos_of_held hbefore hheld
      simpa [hpos.ne'] using hbefore
    · split
      · exact (Function.update_of_ne hid ..).trans hbefore
      · exact hbefore
  | _ => exact absurd hbefore hafter

theorem State.move_evicts {s : State} (h : Invariant s.provider s.calls) (m : Move)
    (hbefore : s.provider.volIDLocks name = some entry)
    (hafter : (s.move m).provider.volIDLocks name ≠ some entry) :
    (s.provider.locks entry).held = false := by
  rcases s.move_cases m with heq | ⟨_, heq⟩ | ⟨l₁, l₂, _, _, p', _, hcalls, hs, heq⟩
  · rw [heq] at hafter
    exact absurd hbefore hafter
  · rw [heq] at hafter
    exact absurd hbefore hafter
  · rw [heq] at hafter
    rw [hcalls] at h
    exact (h.perm List.perm_middle).evicts hs hbefore hafter

theorem index_eq_of_handlers_le_one {k : Nat} (hle : handlers calls entry ≤ 1)
    (hj : calls[j]? = some c) (hk : calls[k]? = some d)
    (hc : c.isRunning = true ∧ c.entry? = some entry)
    (hd : d.isRunning = true ∧ d.entry? = some entry) : j = k := by
  have hpos : ∀ {calls : List Call} {c : Call}, c ∈ calls →
      c.isRunning = true ∧ c.entry? = some entry → 0 < handlers calls entry := by
    intro calls c hmem hc
    exact List.countP_pos_iff.2 ⟨c, hmem, by simp [hc]⟩
  induction calls generalizing j k with
  | nil => simp at hj
  | cons a rest ih =>
    rw [handlers_cons] at hle
    cases j with
    | zero =>
      obtain rfl : a = c := by simpa using hj
      rw [if_pos hc] at hle
      cases k with
      | zero => rfl
      | succ k =>
        have := hpos (List.mem_of_getElem? (l := rest) hk) hd
        omega
    | succ j =>
      cases k with
      | zero =>
        obtain rfl : a = d := by simpa using hk
        rw [if_pos hd] at hle
        have := hpos (List.mem_of_getElem? (l := rest) hj) hc
        omega
      | succ k => exact congrArg Nat.succ (ih (by omega) hj hk)

/-- The locks of `CreateVolume`, in every state that an interleaving of any number of calls leads
to. -/
theorem createVolume_locks (moves : List Move) :
    let s := State.play {} moves
    -- a name has a map entry exactly when it has open handles, and the entry counts them
    (∀ name, (∃ entry, s.provider.volIDLocks name = some entry) ↔ 0 < openHandles s.calls name) ∧
    (∀ name entry, s.provider.volIDLocks name = some entry →
      (s.provider.locks entry).refCount = openHandles s.calls name) ∧
    -- the open handles of a name share one lock, the one in the map
    (∀ c ∈ s.calls, ∀ d ∈ s.calls, c.isOpen = true → d.isOpen = true → c.name = d.name →
      c.entry? = d.entry?) ∧
    -- no step evicts an entry whose lock is held
    (∀ m name entry, s.provider.volIDLocks name = some entry →
      (s.move m).provider.volIDLocks name ≠ some entry →
      (s.provider.locks entry).held = false) ∧
    -- the handlers of two calls with one name do not run at the same time
    (∀ (j k : Nat) (c d : Call), s.calls[j]? = some c → s.calls[k]? = some d → c.name = d.name →
      c.isRunning = true → d.isRunning = true → j = k) := by
  intro s
  have h : Invariant s.provider s.calls := State.play_invariant moves invariant_start
  refine ⟨?_, ?_, ?_, ?_, ?_⟩
  · intro name
    apply Iff.intro
    · intro ⟨entry, hentry⟩
      exact (h.counted.counted name entry hentry).2
    intro hpos
    by_contra hnone
    have hmap : s.provider.volIDLocks name = none :=
      Option.eq_none_iff_forall_ne_some.2 fun entry he => hnone ⟨entry, he⟩
    rw [h.counted.openHandles_eq_zero hmap] at hpos
    exact absurd hpos (Nat.lt_irrefl 0)
  · exact fun name entry hentry => (h.counted.counted name entry hentry).1
  · intro c hc d hd hco hdo hname
    rw [← h.counted.mapped c hc hco, ← h.counted.mapped d hd hdo, hname]
  · exact fun m name entry => State.move_evicts h m
  · intro j k c d hj hk hname hcr hdr
    have hc := List.mem_of_getElem? hj
    have hd := List.mem_of_getElem? hk
    have hco := (h.wellFormed c hc).isOpen hcr
    have hdo := (h.wellFormed d hd).isOpen hdr
    obtain ⟨entry, hce⟩ := Call.entry_of_isOpen hco
    have hde : d.entry? = some entry := by
      rw [← h.counted.mapped d hd hdo, ← hname, h.counted.mapped c hc hco, hce]
    apply index_eq_of_handlers_le_one _ hj hk ⟨hcr, hce⟩ ⟨hdr, hde⟩
    rw [h.guarded entry]
    split <;> omega

end CsiPowerscale.Interceptor
