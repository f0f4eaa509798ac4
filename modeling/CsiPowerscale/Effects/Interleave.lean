import Mathlib.Data.List.Nodup
import Mathlib.Logic.Function.Basic
import CsiPowerscale.Effects.Prog

namespace Effects

section

inductive Event (K E α : Type)
  | started (k : K)
  | finished (k : K) (r : Except E α)

structure Pool (K C : Type) (R : C → Type) (E α S : Type) where
  running : List (K × Prog C R E α)
  state : S
  log : List (Event K E α)

/-- One step: a call starts, the `i`-th call in progress makes its next request or ends, or its next
request fails. -/
inductive Move (K E : Type)
  | start (k : K)
  | serve (i : Nat)
  | fault (i : Nat) (e : E)

structure System (K C : Type) (R : C → Type) (E α S : Type) where
  world : World C R E S
  code : K → Prog C R E α
  blocks : K → K → Bool

variable {K C : Type} {R : C → Type} {E α S : Type}

namespace Pool

def resume (p : Pool K C R E α S) (i : Nat) (k : K) (q : Prog C R E α) (s : S) : Pool K C R E α S :=
  ⟨p.running.set i (k, q), s, p.log⟩

def finish (p : Pool K C R E α S) (i : Nat) (k : K) (r : Except E α) : Pool K C R E α S :=
  ⟨p.running.eraseIdx i, p.state, p.log ++ [.finished k r]⟩

end Pool

namespace System

def move (sys : System K C R E α S) (p : Pool K C R E α S) : Move K E → Pool K C R E α S
  | .start k =>
    if p.running.any fun t => sys.blocks t.1 k then p
    else ⟨p.running ++ [(k, sys.code k)], p.state, p.log ++ [.started k]⟩
  | .serve i =>
    match p.running[i]? with
    | none => p
    | some (k, .ret a) => p.finish i k (.ok a)
    | some (k, .fail e) => p.finish i k (.error e)
    | some (k, .call c f) =>
      p.resume i k (f (sys.world.act c p.state).1) (sys.world.act c p.state).2
  | .fault i e =>
    match p.running[i]? with
    | some (k, .call _ f) => p.resume i k (f (.error e)) p.state
    | _ => p

def play (sys : System K C R E α S) (moves : List (Move K E)) (p : Pool K C R E α S) :
    Pool K C R E α S :=
  moves.foldl sys.move p

def Along (sys : System K C R E α S) (cond : Pool K C R E α S → Move K E → Prop) :
    List (Move K E) → Pool K C R E α S → Prop
  | [], _ => True
  | m :: moves, p => cond p m ∧ sys.Along cond moves (sys.move p m)

instance decidableAlong (sys : System K C R E α S) (cond : Pool K C R E α S → Move K E → Prop)
    [∀ p m, Decidable (cond p m)] : ∀ moves p, Decidable (sys.Along cond moves p)
  | [], _ => inferInstanceAs (Decidable True)
  | m :: moves, p =>
    have := decidableAlong sys cond moves (sys.move p m)
    inferInstanceAs (Decidable (cond p m ∧ sys.Along cond moves (sys.move p m)))

variable {sys : System K C R E α S} {cond : Pool K C R E α S → Move K E → Prop}
  {p : Pool K C R E α S} {moves : List (Move K E)}

theorem play_invariant {I : Pool K C R E α S → Prop}
    (hstep : ∀ p m, I p → cond p m → I (sys.move p m)) (h : sys.Along cond moves p) (hp : I p) :
    I (sys.play moves p) := by
  induction moves generalizing p with
  | nil => exact hp
  | cons m moves ih => exact ih h.2 (hstep p m hp h.1)

theorem Along.mono {cond' : Pool K C R E α S → Move K E → Prop}
    (hcond : ∀ p m, cond p m → cond' p m) (h : sys.Along cond moves p) : sys.Along cond' moves p := by
  induction moves generalizing p with
  | nil => trivial
  | cons m moves ih => exact ⟨hcond p m h.1, ih h.2⟩

theorem Along.of_forall (hcond : ∀ p m, cond p m) : sys.Along cond moves p := by
  induction moves generalizing p with
  | nil => trivial
  | cons m moves ih => exact ⟨hcond p m, ih⟩

section Exclusive

variable (shared : K → Prop) (F : Faults C E S)

/-- Calls overlap only when both are shared ones, and requests fail only as `F` allows. -/
def Exclusive (p : Pool K C R E α S) : Move K E → Prop
  | .start k => ∀ t ∈ p.running, shared t.1 ∧ shared k
  | .serve _ => True
  | .fault i e => ∀ k c f, p.running[i]? = some (k, .call c f) → F p.state c e

/-- Calls start only as the record so far allows. -/
def Admitted (ok : List (Event K E α) → K → Prop) (p : Pool K C R E α S) : Move K E → Prop
  | .start k => ok p.log k
  | .serve _ | .fault _ _ => True

variable (sys) (I : List (Event K E α) → S → Prop)

/-- A shared call in progress: it only reads, and what it has to do ends in an event that keeps
`I`. -/
structure Reads (s : S) (k : K) (q : Prog C R E α) : Prop where
  shared : shared k
  still : Prog.uses (fun c => ∀ t, (sys.world.act c t).2 = t) q
  ends : Prog.wp sys.world F q (fun r t => ∀ log, I log t → I (log ++ [.finished k r]) t) s

/-- The pools of such runs: `I` holds and the calls in progress are shared ones, or one call leads
back to `I` when it ends. -/
inductive Apart : Pool K C R E α S → Prop
  | shared (h : I log s) (hrun : ∀ t ∈ running, Reads sys shared F I s t.1 t.2) :
      Apart ⟨running, s, log⟩
  | alone (h : I log s₀) (hk : ¬ shared k)
      (hwp : Prog.wp sys.world F q (fun r t => I (log ++ [.started k] ++ [.finished k r]) t) s) :
      Apart ⟨[(k, q)], s, log ++ [.started k]⟩

variable {sys shared F I}

theorem Reads.call {c : C} {f : Except E (R c) → Prog C R E α}
    (h : Reads sys shared F I s k (.call c f)) :
    (sys.world.act c s).2 = s ∧ Reads sys shared F I s k (f (sys.world.act c s).1) := by
  have hstill := h.still.1 s
  have hends := h.ends.1
  rw [hstill] at hends
  exact ⟨hstill, h.shared, h.still.2 _, hends⟩

theorem Reads.fault {c : C} {f : Except E (R c) → Prog C R E α}
    (h : Reads sys shared F I s k (.call c f)) (he : F s c e) :
    Reads sys shared F I s k (f (.error e)) :=
  ⟨h.shared, h.still.2 _, h.ends.2 e he⟩

theorem Apart.resume (h : I log s) (hrun : ∀ t ∈ running, Reads sys shared F I s t.1 t.2)
    (hq : Reads sys shared F I s k q) :
    Apart sys shared F I (Pool.resume ⟨running, s, log⟩ i k q s) := by
  apply Apart.shared h
  intro t ht
  rcases List.mem_or_eq_of_mem_set ht with ht | rfl
  · exact hrun t ht
  · exact hq

theorem Apart.finish (h : I log s) (hrun : ∀ t ∈ running, Reads sys shared F I s t.1 t.2)
    (hr : ∀ log, I log s → I (log ++ [.finished k r]) s) :
    Apart sys shared F I (Pool.finish ⟨running, s, log⟩ i k r) := by
  apply Apart.shared (hr log h)
  intro t ht
  exact hrun t (List.mem_of_mem_eraseIdx ht)

variable {ok : List (Event K E α) → K → Prop}
  (hshared : ∀ log s k, ok log k → shared k → I log s →
    I (log ++ [.started k]) s ∧ Reads sys shared F I s k (sys.code k))
  (halone : ∀ log s k, ok log k → ¬ shared k → I log s →
    Prog.wp sys.world F (sys.code k) (fun r t => I (log ++ [.started k] ++ [.finished k r]) t) s)
include hshared halone

theorem Apart.step_shared {running : List (K × Prog C R E α)} (h : I log s)
    (hrun : ∀ t ∈ running, Reads sys shared F I s t.1 t.2) (m : Move K E)
    (hm : Exclusive shared F ⟨running, s, log⟩ m) (hok : Admitted ok ⟨running, s, log⟩ m) :
    Apart sys shared F I (sys.move ⟨running, s, log⟩ m) := by
  cases m with
  | start k =>
    unfold System.move
    dsimp only
    split
    · exact .shared h hrun
    by_cases hk : shared k
    · obtain ⟨hlog, hreads⟩ := hshared log s k hok hk h
      apply Apart.shared hlog
      intro t ht
      rcases List.mem_append.1 ht with ht | ht
      · exact hrun t ht
      · obtain rfl := List.mem_singleton.1 ht
        exact hreads
    · -- an exclusive call starts in an empty pool
      cases running with
      | nil => exact .alone h hk (halone log s k hok hk h)
      | cons t rest => exact absurd (hm t List.mem_cons_self).2 hk
  | serve i =>
    unfold System.move
    dsimp only
    cases hi : running[i]? with
    | none => exact .shared h hrun
    | some t =>
      obtain ⟨k, q⟩ := t
      have ht := hrun (k, q) (List.mem_of_getElem? hi)
      cases q with
      | ret a => exact .finish h hrun ht.ends
      | fail e => exact .finish h hrun ht.ends
      | call c f =>
        obtain ⟨hstill, hnext⟩ := ht.call
        dsimp only
        rw [hstill]
        exact .resume h hrun hnext
  | fault i e =>
    unfold System.move
    dsimp only
    cases hi : running[i]? with
    | none => exact .shared h hrun
    | some t =>
      obtain ⟨k, q⟩ := t
      have ht := hrun (k, q) (List.mem_of_getElem? hi)
      cases q with
      | ret a => exact .shared h hrun
      | fail e => exact .shared h hrun
      | call c f => exact .resume h hrun (ht.fault (hm k c f hi))

omit hshared halone in
theorem Apart.step_alone (h : I log s₀) (hk : ¬ shared k)
    (hwp : Prog.wp sys.world F q (fun r t => I (log ++ [.started k] ++ [.finished k r]) t) s)
    (m : Move K E) (hm : Exclusive shared F ⟨[(k, q)], s, log ++ [.started k]⟩ m) :
    Apart sys shared F I (sys.move ⟨[(k, q)], s, log ++ [.started k]⟩ m) := by
  cases m with
  | start k' => exact absurd (hm (k, q) List.mem_cons_self).1 hk
  | serve i =>
    cases i with
    | zero =>
      cases q with
      | ret a => exact .shared hwp (fun t ht => by cases ht)
      | fail e => exact .shared hwp (fun t ht => by cases ht)
      | call c f => exact .alone h hk hwp.1
    | succ i => exact .alone h hk hwp
  | fault i e =>
    cases i with
    | zero =>
      cases q with
      | ret a => exact .alone h hk hwp
      | fail e => exact .alone h hk hwp
      | call c f => exact .alone h hk (hwp.2 e (hm k c f rfl))
    | succ i => exact .alone h hk hwp

/-- What every call keeps on its own is kept by the runs in which only shared calls overlap. -/
theorem Apart.play (h : sys.Along (fun p m => Exclusive shared F p m ∧ Admitted ok p m) moves
    ⟨[], s, log⟩) (hI : I log s) :
    Apart sys shared F I (sys.play moves ⟨[], s, log⟩) := by
  have hstart : Apart sys shared F I ⟨[], s, log⟩ := .shared hI (fun t ht => by cases ht)
  refine play_invariant ?_ h hstart
  intro p m hp hm
  cases hp with
  | shared h hrun => exact Apart.step_shared hshared halone h hrun m hm.1 hm.2
  | alone h hk hwp => exact Apart.step_alone h hk hwp m hm.1

omit hshared halone in
theorem Apart.logged (hp : Apart sys shared F I p) :
    ∃ log s, I log s ∧ (p.log = log ∨ ∃ k, p.log = log ++ [.started k]) := by
  cases hp with
  | shared h hrun => exact ⟨_, _, h, .inl rfl⟩
  | alone h hk hwp => exact ⟨_, _, h, .inr ⟨_, rfl⟩⟩

end Exclusive

/-- Calls that only read leave the state alone, however they interleave and fail. -/
theorem play_state_of_uses
    (hcode : ∀ k, Prog.uses (fun c => ∀ t, (sys.world.act c t).2 = t) (sys.code k)) :
    (sys.play moves ⟨[], s, log⟩).state = s := by
  have halong : sys.Along (fun p m => Exclusive (fun _ => True) .any p m ∧
      Admitted (fun _ _ => True) p m) moves ⟨[], s, log⟩ :=
    .of_forall fun p m => by cases m <;> simp [Exclusive, Admitted, Faults.any]
  have h := Apart.play (I := fun _ t => t = s) (fun log t k _ _ ht => ⟨ht, trivial, hcode k,
    Prog.wp_mono (Prog.wp_trivial _ _) fun _ _ _ _ => id⟩) (fun _ _ _ _ hk => absurd trivial hk)
    halong rfl
  generalize sys.play moves ⟨[], s, log⟩ = p at h
  cases h with
  | shared h _ => exact h
  | alone _ hk _ => exact absurd trivial hk

end System

end

/-- How a program shares its state: when a call can be made at all, what others may do between two
calls, and what each call of the program does in return. -/
structure Sharing (C S : Type) where
  enabled : S → C → Prop
  rely : S → S → Prop
  guar : S → S → Prop
  refl : ∀ s, rely s s
  trans : ∀ {s t u}, rely s t → rely t u → rely s u

def Sharing.alone : Sharing C S where
  enabled _ _ := True
  rely := Eq
  guar _ _ := True
  refl _ := rfl
  trans := Eq.trans

namespace Prog

variable {C : Type} {R : C → Type} {E S α β : Type}
variable (w : World C R E S) (F : Faults C E S) (sh : Sharing C S)

/-- Every outcome from `s` satisfies `Q` while others change the state as `sh` allows, before every
call and before the end. -/
def rwp : Prog C R E α → (Except E α → S → Prop) → S → Prop
  | ret a, Q, s => ∀ t, sh.rely s t → Q (.ok a) t
  | fail e, Q, s => ∀ t, sh.rely s t → Q (.error e) t
  | call c k, Q, s => ∀ t, sh.rely s t →
    (sh.enabled t c → sh.guar t (w.act c t).2 ∧ rwp (k (w.act c t).1) Q (w.act c t).2) ∧
      ∀ e, F t c e → rwp (k (.error e)) Q t

variable {w F sh} {p : Prog C R E α} {Q Q' : Except E α → S → Prop} {s t : S}

theorem rwp_mono (h : rwp w F sh p Q s) (hq : ∀ r t, Q r t → Q' r t) : rwp w F sh p Q' s := by
  induction p generalizing s with
  | ret a => exact fun t ht => hq _ _ (h t ht)
  | fail e => exact fun t ht => hq _ _ (h t ht)
  | call c k ih =>
    intro t ht
    obtain ⟨hserved, hfault⟩ := h t ht
    exact ⟨fun hen => ⟨(hserved hen).1, ih _ (hserved hen).2⟩, fun e he => ih _ (hfault e he)⟩

theorem rwp_seq {f : α → Prog C R E β} {M : Except E α → S → Prop} {Q : Except E β → S → Prop}
    (hp : rwp w F sh p M s) (herr : ∀ e t, M (.error e) t → ∀ u, sh.rely t u → Q (.error e) u)
    (hok : ∀ a t, M (.ok a) t → rwp w F sh (f a) Q t) : rwp w F sh (p >>= f) Q s := by
  induction p generalizing s with
  | ret a => exact hok a s (hp s (sh.refl s))
  | fail e => exact herr e s (hp s (sh.refl s))
  | call c k ih =>
    intro t ht
    obtain ⟨hserved, hfault⟩ := hp t ht
    exact ⟨fun hen => ⟨(hserved hen).1, ih _ (hserved hen).2⟩, fun e he => ih _ (hfault e he)⟩

theorem rwp_settle {f : Except E α → Prog C R E β} {M : Except E α → S → Prop}
    {Q : Except E β → S → Prop} (hp : rwp w F sh p M s)
    (hf : ∀ r t, M r t → rwp w F sh (f r) Q t) :
    rwp w F sh (p.attempt >>= f) Q s := by
  induction p generalizing s with
  | ret a => exact hf _ s (hp s (sh.refl s))
  | fail e => exact hf _ s (hp s (sh.refl s))
  | call c k ih =>
    intro t ht
    obtain ⟨hserved, hfault⟩ := hp t ht
    exact ⟨fun hen => ⟨(hserved hen).1, ih _ (hserved hen).2⟩, fun e he => ih _ (hfault e he)⟩

theorem rwp_yields {P : α → Prop} (h : rwp w F sh p Q s) (hp : yields P p) :
    rwp w F sh p (fun r t => Q r t ∧ ∀ a, r = .ok a → P a) s := by
  induction p generalizing s with
  | ret a =>
    refine fun t ht => ⟨h t ht, ?_⟩
    rintro b ⟨⟩
    exact hp
  | fail e => exact fun t ht => ⟨h t ht, by simp⟩
  | call c k ih =>
    intro t ht
    obtain ⟨hserved, hfault⟩ := h t ht
    exact ⟨fun hen => ⟨(hserved hen).1, ih _ (hserved hen).2 (hp _)⟩,
      fun e he => ih _ (hfault e he) (hp _)⟩

theorem rwp_of_uses {U : C → Prop} {I : S → Prop} (h : uses U p)
    (hrely : ∀ {s t}, sh.rely s t → I s → I t)
    (hU : ∀ c t, U c → I t → sh.guar t (w.act c t).2 ∧ I (w.act c t).2) (hs : I s) :
    rwp w F sh p (fun _ t => I t) s := by
  induction p generalizing s with
  | ret a => exact fun t ht => hrely ht hs
  | fail e => exact fun t ht => hrely ht hs
  | call c k ih =>
    intro t ht
    have hI := hrely ht hs
    exact ⟨fun _ => ⟨(hU c t h.1 hI).1, ih _ (h.2 _) (hU c t h.1 hI).2⟩, fun e _ => ih _ (h.2 _) hI⟩

theorem rwp_alone : rwp w F .alone p Q s ↔ wp w F p Q s := by
  induction p generalizing s with
  | ret a => exact ⟨fun h => h s rfl, fun h t ht => ht ▸ h⟩
  | fail e => exact ⟨fun h => h s rfl, fun h t ht => ht ▸ h⟩
  | call c k ih =>
    constructor
    · intro h
      obtain ⟨hserved, hfault⟩ := h s rfl
      exact ⟨(ih _).1 (hserved trivial).2, fun e he => (ih _).1 (hfault e he)⟩
    · rintro ⟨hserved, hfault⟩ t rfl
      exact ⟨fun _ => ⟨trivial, (ih _).2 hserved⟩, fun e he => (ih _).2 (hfault e he)⟩

end Prog

variable {K L C : Type} {R : C → Type} {E α V : Type} [DecidableEq L]

def World.lanes (w : World C R E V) (laneOf : C → L) : World C R E (L → V) where
  act c s := ((w.act c (s (laneOf c))).1, Function.update s (laneOf c) (w.act c (s (laneOf c))).2)

theorem Prog.run_lanes {w : World C R E V} {laneOf : C → L} {l : L} {q : Prog C R E α}
    (h : Prog.uses (fun c => laneOf c = l) q) (s : L → V) :
    Prog.run (w.lanes laneOf) q s =
      ((Prog.run w q (s l)).1, Function.update s l (Prog.run w q (s l)).2) := by
  induction q generalizing s with
  | ret a => simp
  | fail e => simp
  | call c f ih =>
    obtain ⟨rfl, hf⟩ := h
    rw [Prog.run, Prog.run, ih _ (hf _)]
    simp [World.lanes]

def Event.endedIn (lane : K → L) (l : L) : Event K E α → Option K
  | .started _ => none
  | .finished k _ => if lane k = l then some k else none

namespace System

def ended (lane : K → L) (l : L) (log : List (Event K E α)) : List K :=
  log.filterMap (Event.endedIn lane l)

theorem mem_ended {lane : K → L} {l : L} {log : List (Event K E α)} {k : K} :
    k ∈ ended lane l log ↔ lane k = l ∧ ∃ r, Event.finished k r ∈ log := by
  rw [ended, List.mem_filterMap]
  constructor
  · rintro ⟨e, he, hk⟩
    cases e with
    | started k' => cases hk
    | finished k' r =>
      rw [Event.endedIn] at hk
      split at hk
      · cases hk
        exact ⟨by assumption, r, he⟩
      · cases hk
  · rintro ⟨rfl, r, he⟩
    exact ⟨_, he, if_pos rfl⟩

theorem ended_started {lane : K → L} {l : L} {log : List (Event K E α)} (k : K) :
    ended lane l (log ++ [.started k]) = ended lane l log := by
  rw [ended, List.filterMap_append]
  exact List.append_nil _

theorem ended_finished {lane : K → L} {log : List (Event K E α)} (k : K) (r : Except E α) (l : L) :
    ended lane l (log ++ [.finished k r]) =
      if lane k = l then ended lane l log ++ [k] else ended lane l log := by
  rw [ended, List.filterMap_append]
  by_cases h : lane k = l
  · simp [Event.endedIn, h, ended]
  · simp [Event.endedIn, h, ended]

def serial (w : World C R E V) (code : K → Prog C R E α) (ks : List K) (v : V) : V :=
  ks.foldl (fun v k => (Prog.run w (code k) v).2) v

/-- Calls of one lane do not overlap, and no request fails. -/
def OneByOne (lane : K → L) (p : Pool K C R E α (L → V)) : Move K E → Prop
  | .start k => ∀ t ∈ p.running, lane t.1 ≠ lane k
  | .serve _ => True
  | .fault _ _ => False

instance decidableOneByOne (lane : K → L) (p : Pool K C R E α (L → V)) (m : Move K E) :
    Decidable (OneByOne lane p m) :=
  match m with
  | .start k => inferInstanceAs (Decidable (∀ t ∈ p.running, lane t.1 ≠ lane k))
  | .serve _ => inferInstanceAs (Decidable True)
  | .fault _ _ => inferInstanceAs (Decidable False)

/-- What is so in such runs: a lane without a call in progress is as its calls one after the other
leave it, and a call in progress goes on as on its own. -/
structure Lanes (w : World C R E V) (code : K → Prog C R E α) (lane : K → L) (laneOf : C → L)
    (s₀ : L → V) (p : Pool K C R E α (L → V)) : Prop where
  apart : (p.running.map fun t => lane t.1).Nodup
  own : ∀ t ∈ p.running, Prog.uses (fun c => laneOf c = lane t.1) t.2
  idle : ∀ l, (∀ t ∈ p.running, lane t.1 ≠ l) →
    p.state l = serial w code (ended lane l p.log) (s₀ l)
  busy : ∀ t ∈ p.running, Prog.run w t.2 (p.state (lane t.1)) = Prog.run w (code t.1)
    (serial w code (ended lane (lane t.1) p.log) (s₀ (lane t.1)))

variable {w : World C R E V} {code : K → Prog C R E α} {lane : K → L} {laneOf : C → L}
  {s₀ : L → V} {p : Pool K C R E α (L → V)} (h : Lanes w code lane laneOf s₀ p)
include h

theorem Lanes.start {k : K}
    (hcode : Prog.uses (fun c => laneOf c = lane k) (code k))
    (hk : ∀ t ∈ p.running, lane t.1 ≠ lane k) :
    Lanes w code lane laneOf s₀ ⟨p.running ++ [(k, code k)], p.state, p.log ++ [.started k]⟩ := by
  constructor
  · rw [List.map_append, List.nodup_append]
    refine ⟨h.apart, List.nodup_singleton _, ?_⟩
    intro l hl m hm
    obtain ⟨t, ht, rfl⟩ := List.mem_map.1 hl
    rw [List.map_singleton, List.mem_singleton] at hm
    rw [hm]
    exact hk t ht
  · intro t ht
    rcases List.mem_append.1 ht with ht | ht
    · exact h.own t ht
    · obtain rfl := List.mem_singleton.1 ht
      exact hcode
  · intro l hl
    rw [ended_started]
    exact h.idle l fun t ht => hl t (List.mem_append_left _ ht)
  · intro t ht
    rw [ended_started]
    rcases List.mem_append.1 ht with ht | ht
    · exact h.busy t ht
    · obtain rfl := List.mem_singleton.1 ht
      rw [h.idle (lane k) hk]

theorem Lanes.ne_of_ne {i j : Nat} {t u : K × Prog C R E α}
    (hi : p.running[i]? = some t) (hj : p.running[j]? = some u) (hne : j ≠ i) :
    lane u.1 ≠ lane t.1 := by
  intro heq
  have hi' : (p.running.map fun t => lane t.1)[i]? = some (lane t.1) := by
    rw [List.getElem?_map, hi]
    rfl
  have hj' : (p.running.map fun t => lane t.1)[j]? = some (lane u.1) := by
    rw [List.getElem?_map, hj]
    rfl
  obtain ⟨hlt, -⟩ := List.getElem?_eq_some_iff.1 hj'
  apply hne
  apply (List.getElem?_inj hlt h.apart).1
  rw [hi', hj', heq]

theorem Lanes.mem_set {i : Nat} {t u x : K × Prog C R E α}
    (hi : p.running[i]? = some t) (hu : u ∈ p.running.set i x) :
    u = x ∨ u ∈ p.running ∧ lane u.1 ≠ lane t.1 := by
  obtain ⟨j, hj⟩ := List.mem_iff_getElem?.1 hu
  by_cases hne : i = j
  · subst hne
    obtain ⟨hlt, -⟩ := List.getElem?_eq_some_iff.1 hi
    rw [List.getElem?_set_self hlt] at hj
    exact .inl (Option.some.inj hj).symm
  · rw [List.getElem?_set_ne hne] at hj
    exact .inr ⟨List.mem_of_getElem? hj, h.ne_of_ne hi hj (Ne.symm hne)⟩

theorem Lanes.mem_eraseIdx {i : Nat} {t u : K × Prog C R E α}
    (hi : p.running[i]? = some t) (hu : u ∈ p.running.eraseIdx i) :
    u ∈ p.running ∧ lane u.1 ≠ lane t.1 := by
  obtain ⟨j, hne, hj⟩ := List.mem_eraseIdx_iff_getElem?.1 hu
  exact ⟨List.mem_of_getElem? hj, h.ne_of_ne hi hj hne⟩

theorem Lanes.call {i : Nat} {k : K} {c : C}
    {f : Except E (R c) → Prog C R E α} (hi : p.running[i]? = some (k, .call c f)) :
    Lanes w code lane laneOf s₀ (p.resume i k (f ((w.lanes laneOf).act c p.state).1)
      ((w.lanes laneOf).act c p.state).2) := by
  have hmem := List.mem_of_getElem? hi
  have hown := h.own _ hmem
  have hlane : laneOf c = lane k := hown.1
  have hlanes : (p.running.set i (k, f ((w.lanes laneOf).act c p.state).1)).map
      (fun t => lane t.1) = p.running.map fun t => lane t.1 := by
    rw [List.map_set]
    apply List.ext_getElem?
    intro j
    rw [List.getElem?_set]
    split
    · rename_i hj
      subst hj
      obtain ⟨hlt, hget⟩ := List.getElem?_eq_some_iff.1 hi
      simp [hlt, hget]
    · rfl
  have hother : ∀ l, l ≠ lane k → ((w.lanes laneOf).act c p.state).2 l = p.state l := by
    intro l hl
    rw [← hlane] at hl
    exact Function.update_of_ne hl _ _
  constructor
  · rw [Pool.resume, hlanes]
    exact h.apart
  · intro t ht
    rcases h.mem_set hi ht with rfl | ⟨ht, -⟩
    · exact hown.2 _
    · exact h.own t ht
  · intro l hl
    have hfree : ∀ t ∈ p.running, lane t.1 ≠ l := by
      intro t ht heq
      have hmem' : l ∈ (p.running.set i (k, f ((w.lanes laneOf).act c p.state).1)).map
          fun t => lane t.1 := by
        rw [hlanes, ← heq]
        exact List.mem_map_of_mem ht
      obtain ⟨u, hu, hul⟩ := List.mem_map.1 hmem'
      exact hl u hu hul
    exact (hother l fun heq => hfree _ hmem heq.symm).trans (h.idle l hfree)
  · intro t ht
    rcases h.mem_set hi ht with rfl | ⟨ht, hne⟩
    · have hpart : ((w.lanes laneOf).act c p.state).2 (lane k) =
          (w.act c (p.state (lane k))).2 := by
        rw [← hlane]
        exact Function.update_self _ _ _
      have hreply : ((w.lanes laneOf).act c p.state).1 = (w.act c (p.state (lane k))).1 := by
        rw [← hlane]
        rfl
      dsimp only [Pool.resume]
      rw [hpart, hreply]
      exact h.busy _ hmem
    · have hbusy := h.busy t ht
      dsimp only [Pool.resume]
      rw [hother _ hne]
      exact hbusy

theorem Lanes.finish {i : Nat} {k : K} {q : Prog C R E α}
    {r : Except E α} (hi : p.running[i]? = some (k, q))
    (hq : Prog.run w q (p.state (lane k)) = (r, p.state (lane k))) :
    Lanes w code lane laneOf s₀ (p.finish i k r) := by
  have hmem := List.mem_of_getElem? hi
  constructor
  · exact h.apart.sublist ((List.eraseIdx_sublist _ _).map _)
  · intro t ht
    exact h.own t (h.mem_eraseIdx hi ht).1
  · intro l hl
    dsimp only [Pool.finish] at hl ⊢
    rw [ended_finished]
    by_cases hk : lane k = l
    · subst hk
      have hbusy := h.busy _ hmem
      rw [hq] at hbusy
      rw [if_pos rfl, serial, List.foldl_append]
      exact congrArg Prod.snd hbusy
    · rw [if_neg hk]
      apply h.idle l
      intro t ht heq
      obtain ⟨j, hj⟩ := List.mem_iff_getElem?.1 ht
      by_cases hij : j = i
      · subst hij
        rw [hi] at hj
        cases hj
        exact hk heq
      · exact hl t (List.mem_eraseIdx_iff_getElem?.2 ⟨j, hij, hj⟩) heq
  · intro t ht
    obtain ⟨ht, hne⟩ := h.mem_eraseIdx hi ht
    dsimp only [Pool.finish]
    rw [ended_finished, if_neg fun heq => hne heq.symm]
    exact h.busy t ht

omit h in
/-- Runs in which the calls of one lane do not overlap are serial in every lane. -/
theorem Lanes.play {blocks : K → K → Bool} {moves : List (Move K E)}
    (hcode : ∀ k, Prog.uses (fun c => laneOf c = lane k) (code k))
    (h : System.Along ⟨w.lanes laneOf, code, blocks⟩ (OneByOne lane) moves ⟨[], s₀, []⟩) :
    Lanes w code lane laneOf s₀ (System.play ⟨w.lanes laneOf, code, blocks⟩ moves ⟨[], s₀, []⟩) := by
  have hstart : Lanes w code lane laneOf s₀ (⟨[], s₀, []⟩ : Pool K C R E α (L → V)) := by
    constructor
    · exact List.nodup_nil
    · exact List.forall_mem_nil _
    · intro l _
      rfl
    · exact List.forall_mem_nil _
  refine play_invariant ?_ h hstart
  intro p m hp hm
  cases m with
  | start k =>
    unfold System.move
    dsimp only
    split
    · exact hp
    · exact hp.start (hcode k) hm
  | fault i e => exact hm.elim
  | serve i =>
    unfold System.move
    dsimp only
    cases hi : p.running[i]? with
    | none => exact hp
    | some t =>
      obtain ⟨k, q⟩ := t
      cases q with
      | ret a => exact hp.finish hi rfl
      | fail e => exact hp.finish hi rfl
      | call c f => exact hp.call hi

end System

/-- In a run of a machine over a list of inputs, each input meets a condition on the state it is
taken in. -/
def Always (step : σ → ι → σ) (good : σ → ι → Prop) : List ι → σ → Prop
  | [], _ => True
  | i :: is, s => good s i ∧ Always step good is (step s i)

instance instDecidableAlways {step : σ → ι → σ} {good : σ → ι → Prop} [∀ s, DecidablePred (good s)] :
    (is : List ι) → (s : σ) → Decidable (Always step good is s)
  | [], _ => .isTrue trivial
  | i :: is, s => @instDecidableAnd _ _ _ (instDecidableAlways is (step s i))

/-- Where a relation of two machines makes their conditions agree and lasts while they hold, they
hold along the runs of one machine exactly if they hold along those of the other. -/
theorem always_iff {step : σ → ι → σ} {good : σ → ι → Prop} {step' : τ → ι → τ}
    {good' : τ → ι → Prop} {Rep : σ → τ → Prop}
    (hstep : ∀ s t i, Rep s t → (good s i ↔ good' t i) ∧ (good' t i → Rep (step s i) (step' t i)))
    (h : Rep s t) (is : List ι) : Always step good is s ↔ Always step' good' is t := by
  induction is generalizing s t with
  | nil => exact Iff.rfl
  | cons i is ih =>
    obtain ⟨hgood, hnext⟩ := hstep s t i h
    rw [Always, Always, hgood]
    exact and_congr_right fun hi => ih (hnext hi)

end Effects
