import Mathlib.Logic.Relation

namespace Effects

/-- A program that issues calls `c : C` and reads their replies. Every call may come back with an
error, so the continuation takes an `Except`. -/
inductive Prog (C : Type) (R : C → Type) (E α : Type) : Type
  | ret (a : α)
  | fail (e : E)
  | call (c : C) (k : Except E (R c) → Prog C R E α)

structure World (C : Type) (R : C → Type) (E S : Type) where
  act : (c : C) → S → Except E (R c) × S

/-- `allow s c e`: in state `s` the call `c` may fail with `e` instead of being served. -/
abbrev Faults (C E S : Type) := S → C → E → Prop

def Faults.any : Faults C E S := fun _ _ _ => True

def Faults.none : Faults C E S := fun _ _ _ => False

namespace Prog

variable {C : Type} {R : C → Type} {E S α β : Type} {f : α → Prog C R E β}

def bind : Prog C R E α → (α → Prog C R E β) → Prog C R E β
  | ret a, f => f a
  | fail e, _ => fail e
  | call c k, f => call c fun r => (k r).bind f

instance : Monad (Prog C R E) where
  pure := ret
  bind := bind

@[simp] theorem pure_eq (a : α) : (pure a : Prog C R E α) = ret a := rfl

@[simp] theorem ret_bind (a : α) (f : α → Prog C R E β) : (ret a >>= f) = f a := rfl

@[simp] theorem fail_bind (e : E) (f : α → Prog C R E β) : (fail e >>= f) = fail e := rfl

@[simp] theorem call_bind (c : C) (k : Except E (R c) → Prog C R E α) (f : α → Prog C R E β) :
    (call c k >>= f) = call c fun r => k r >>= f := rfl

theorem bind_assoc (p : Prog C R E α) (f : α → Prog C R E β) (g : β → Prog C R E γ) :
    (p >>= f >>= g) = (p >>= fun a => f a >>= g) := by
  induction p with
  | ret a => rfl
  | fail e => rfl
  | call c k ih => exact congrArg (call c) (funext ih)

def ask (c : C) : Prog C R E (Except E (R c)) := call c ret

def ofExcept : Except E α → Prog C R E α
  | .ok a => ret a
  | .error e => fail e

@[simp] theorem ofExcept_ok (a : α) : (ofExcept (.ok a) : Prog C R E α) = ret a := rfl

@[simp] theorem ofExcept_error (e : E) : (ofExcept (.error e) : Prog C R E α) = fail e := rfl

def op (c : C) : Prog C R E (R c) := call c ofExcept

def attempt : Prog C R E α → Prog C R E (Except E α)
  | ret a => ret (.ok a)
  | fail e => ret (.error e)
  | call c k => call c fun r => (k r).attempt

@[simp] theorem attempt_ret (a : α) : (ret a : Prog C R E α).attempt = ret (.ok a) := rfl

@[simp] theorem attempt_fail (e : E) : (fail e : Prog C R E α).attempt = ret (.error e) := rfl

section Semantics

variable (w : World C R E S)

/-- Every outcome from `s` satisfies `Q`: each call is served by the world, or fails as `F` allows
and leaves the state alone. -/
def wp (F : Faults C E S) : Prog C R E α → (Except E α → S → Prop) → S → Prop
  | ret a, Q, s => Q (.ok a) s
  | fail e, Q, s => Q (.error e) s
  | call c k, Q, s =>
    wp F (k (w.act c s).1) Q (w.act c s).2 ∧ ∀ e, F s c e → wp F (k (.error e)) Q s

/-- One outcome of the program, with the calls that fail chosen by `F`. -/
inductive Outcome (F : Faults C E S) : Prog C R E α → S → Except E α → S → Prop
  | ret : Outcome F (ret a) s (.ok a) s
  | fail : Outcome F (fail e) s (.error e) s
  | served {c : C} {k : Except E (R c) → Prog C R E α} :
      Outcome F (k (w.act c s).1) (w.act c s).2 r s' → Outcome F (call c k) s r s'
  | faulted {c : C} {k : Except E (R c) → Prog C R E α} :
      F s c e → Outcome F (k (.error e)) s r s' → Outcome F (call c k) s r s'

def exec : Prog C R E α → List (Option E) → S → Except E α × S
  | ret a, _, s => (.ok a, s)
  | fail e, _, s => (.error e, s)
  | call c k, [], s => exec (k (w.act c s).1) [] (w.act c s).2
  | call c k, .none :: fs, s => exec (k (w.act c s).1) fs (w.act c s).2
  | call _ k, .some e :: fs, s => exec (k (.error e)) fs s

def requests : Prog C R E α → List (Option E) → S → List C
  | ret _, _, _ => []
  | fail _, _, _ => []
  | call c k, [], s => c :: requests (k (w.act c s).1) [] (w.act c s).2
  | call c k, .none :: fs, s => c :: requests (k (w.act c s).1) fs (w.act c s).2
  | call c k, .some e :: fs, s => c :: requests (k (.error e)) fs s

def Alike (p : Prog C R E α) (s : S) (q : Prog C R E α) (t : S) : Prop :=
  ∀ fs, (exec w p fs s).1 = (exec w q fs t).1 ∧ requests w p fs s = requests w q fs t

/-- The run in which no call fails. -/
def run : Prog C R E α → S → Except E α × S
  | ret a, s => (.ok a, s)
  | fail e, s => (.error e, s)
  | call c k, s => run (k (w.act c s).1) (w.act c s).2

def calls : Prog C R E α → S → List (S × C)
  | ret _, _ => []
  | fail _, _ => []
  | call c k, s => (s, c) :: calls (k (w.act c s).1) (w.act c s).2

variable {w} {F G : Faults C E S} {p : Prog C R E α} {Q Q' : Except E α → S → Prop} {s s' : S}

@[simp] theorem wp_ret (a : α) : wp w F (ret a) Q s ↔ Q (.ok a) s := Iff.rfl

@[simp] theorem wp_fail (e : E) : wp w F (fail e) Q s ↔ Q (.error e) s := Iff.rfl

theorem wp_call (c : C) (k : Except E (R c) → Prog C R E α) : wp w F (call c k) Q s ↔
    wp w F (k (w.act c s).1) Q (w.act c s).2 ∧ ∀ e, F s c e → wp w F (k (.error e)) Q s := Iff.rfl

theorem wp_mono (h : wp w F p Q s) (hq : ∀ r t, Q r t → Q' r t) : wp w F p Q' s := by
  induction p generalizing s with
  | ret a => exact hq _ _ h
  | fail e => exact hq _ _ h
  | call c k ih => exact ⟨ih _ h.1, fun e he => ih _ (h.2 e he)⟩

theorem wp_trivial (p : Prog C R E α) (s : S) : wp w F p (fun _ _ => True) s := by
  induction p generalizing s with
  | ret a => trivial
  | fail e => trivial
  | call c k ih => exact ⟨ih _ _, fun e _ => ih _ _⟩

theorem wp_and (h : wp w F p Q s) (h' : wp w F p Q' s) :
    wp w F p (fun r t => Q r t ∧ Q' r t) s := by
  induction p generalizing s with
  | ret a => exact ⟨h, h'⟩
  | fail e => exact ⟨h, h'⟩
  | call c k ih => exact ⟨ih _ h.1 h'.1, fun e he => ih _ (h.2 e he) (h'.2 e he)⟩

def andThen (w : World C R E S) (F : Faults C E S) (f : α → Prog C R E β)
    (Q : Except E β → S → Prop) : Except E α → S → Prop
  | .ok a, t => wp w F (f a) Q t
  | .error e, t => Q (.error e) t

@[simp] theorem andThen_ok (f : α → Prog C R E β) (Q : Except E β → S → Prop) (a : α) (t : S) :
    andThen w F f Q (.ok a) t = wp w F (f a) Q t := rfl

@[simp] theorem andThen_error (f : α → Prog C R E β) (Q : Except E β → S → Prop) (e : E) (t : S) :
    andThen w F f Q (.error e) t = Q (.error e) t := rfl

theorem wp_bind (f : α → Prog C R E β) (Q : Except E β → S → Prop) :
    wp w F (p >>= f) Q s ↔ wp w F p (andThen w F f Q) s := by
  induction p generalizing s with
  | ret a => rfl
  | fail e => rfl
  | call c k ih => simp only [call_bind, wp_call, ih]

theorem wp_seq {M : Except E α → S → Prop} {Q : Except E β → S → Prop}
    (hp : wp w F p M s) (herr : ∀ e t, M (.error e) t → Q (.error e) t)
    (hok : ∀ a t, M (.ok a) t → wp w F (f a) Q t) :
    wp w F (p >>= f) Q s := by
  rw [wp_bind]
  refine wp_mono hp fun r t ht => ?_
  cases r with
  | ok a => exact hok a t ht
  | error e => exact herr e t ht

theorem wp_bind_trivial {Q : Except E β → S → Prop}
    (herr : ∀ e t, Q (.error e) t) (hf : ∀ a t, wp w F (f a) Q t) : wp w F (p >>= f) Q s :=
  wp_seq (wp_trivial p s) (fun e t _ => herr e t) fun a t _ => hf a t

theorem wp_attempt (Q : Except E (Except E α) → S → Prop) :
    wp w F p.attempt Q s ↔ wp w F p (fun r => Q (.ok r)) s := by
  induction p generalizing s with
  | ret a => rfl
  | fail e => rfl
  | call c k ih => simp only [attempt, wp_call, ih]

theorem wp_ask (c : C) (Q : Except E (Except E (R c)) → S → Prop) : wp w F (ask c) Q s ↔
    Q (.ok (w.act c s).1) (w.act c s).2 ∧ ∀ e, F s c e → Q (.ok (.error e)) s := Iff.rfl

theorem wp_op (c : C) (Q : Except E (R c) → S → Prop) :
    wp w F (op c) Q s ↔ Q (w.act c s).1 (w.act c s).2 ∧ ∀ e, F s c e → Q (.error e) s := by
  simp only [op, wp_call, ofExcept_error, wp_fail]
  cases (w.act c s).1 <;> rfl

theorem wp_iff_outcome : wp w F p Q s ↔ ∀ r s', Outcome w F p s r s' → Q r s' := by
  constructor
  · intro h r s' ho
    induction ho with
    | ret => exact h
    | fail => exact h
    | served _ ih => exact ih h.1
    | faulted he _ ih => exact ih (h.2 _ he)
  · intro h
    induction p generalizing s with
    | ret a => exact h _ _ .ret
    | fail e => exact h _ _ .fail
    | call c k ih =>
      exact ⟨ih _ fun r s' ho => h r s' (.served ho),
        fun e he => ih _ fun r s' ho => h r s' (.faulted he ho)⟩

theorem Outcome.of_bind (h : Outcome w F (p >>= f) s (.ok b) u) :
    ∃ a t, Outcome w F p s (.ok a) t ∧ Outcome w F (f a) t (.ok b) u := by
  induction p generalizing s with
  | ret a => exact ⟨a, s, .ret, h⟩
  | fail e => cases h
  | call c k ih =>
    cases h with
    | served h =>
      obtain ⟨a, t, hp, hf⟩ := ih _ h
      exact ⟨a, t, .served hp, hf⟩
    | faulted he h =>
      obtain ⟨a, t, hp, hf⟩ := ih _ h
      exact ⟨a, t, .faulted he hp, hf⟩

theorem run_outcome (p : Prog C R E α) (s : S) : Outcome w F p s (run w p s).1 (run w p s).2 := by
  induction p generalizing s with
  | ret a => exact .ret
  | fail e => exact .fail
  | call c k ih => exact .served (ih _ _)

theorem Outcome.of_run (h : run w p s = (r, t)) : Outcome w F p s r t := by
  have ho := run_outcome (w := w) (F := F) p s
  rwa [h] at ho

theorem wp_run (h : wp w F p Q s) (hrun : run w p s = (r, t)) : Q r t :=
  wp_iff_outcome.1 h _ _ (.of_run hrun)

theorem exec_outcome (p : Prog C R E α) (fs : List (Option E)) (s : S) :
    Outcome w .any p s (exec w p fs s).1 (exec w p fs s).2 := by
  induction p generalizing fs s with
  | ret a => exact .ret
  | fail e => exact .fail
  | call c k ih =>
    match fs with
    | [] => exact .served (ih _ [] _)
    | .none :: fs => exact .served (ih _ fs _)
    | .some e :: fs => exact .faulted trivial (ih _ fs _)

theorem Outcome.exists_exec (h : Outcome w F p s r s') : ∃ fs, exec w p fs s = (r, s') := by
  induction h with
  | ret => exact ⟨[], rfl⟩
  | fail => exact ⟨[], rfl⟩
  | served _ ih =>
    obtain ⟨fs, hfs⟩ := ih
    exact ⟨.none :: fs, hfs⟩
  | faulted _ _ ih =>
    obtain ⟨fs, hfs⟩ := ih
    exact ⟨.some _ :: fs, hfs⟩

theorem wp_any_iff_exec : wp w .any p Q s ↔ ∀ fs, Q (exec w p fs s).1 (exec w p fs s).2 := by
  rw [wp_iff_outcome]
  refine ⟨fun h fs => h _ _ (exec_outcome p fs s), fun h r s' ho => ?_⟩
  obtain ⟨fs, hfs⟩ := ho.exists_exec
  simpa only [hfs] using h fs

theorem exec_nil (p : Prog C R E α) (s : S) : exec w p [] s = run w p s := by
  induction p generalizing s with
  | ret a => rfl
  | fail e => rfl
  | call c k ih => exact ih _ _

theorem exec_map {g : α → β} {k : α → Prog C R E β}
    (hk : ∀ a, k a = ret (g a)) (fs : List (Option E)) (s : S) :
    exec w (p >>= k) fs s = ((exec w p fs s).1.map g, (exec w p fs s).2) := by
  induction p generalizing fs s with
  | ret a =>
    rw [ret_bind, hk]
    rfl
  | fail e => rfl
  | call c f ih =>
    cases fs with
    | nil => exact ih _ _ _
    | cons fault fs =>
      cases fault with
      | none => exact ih _ _ _
      | some e => exact ih _ _ _

theorem wp_none_iff_run : wp w .none p Q s ↔ Q (run w p s).1 (run w p s).2 := by
  induction p generalizing s with
  | ret a => rfl
  | fail e => rfl
  | call c k ih =>
    rw [wp_call, ih]
    exact and_iff_left fun e he => he.elim

@[simp] theorem run_ret (a : α) : run w (ret a) s = (.ok a, s) := rfl

@[simp] theorem run_fail (e : E) : run w (fail e : Prog C R E α) s = (.error e, s) := rfl

theorem run_bind (f : α → Prog C R E β) : run w (p >>= f) s =
    match run w p s with
    | (.ok a, t) => run w (f a) t
    | (.error e, t) => (.error e, t) := by
  induction p generalizing s with
  | ret a => rfl
  | fail e => rfl
  | call c k ih => exact ih _

theorem run_bind_ok {b : β} {u : S} : run w (p >>= f) s = (.ok b, u) ↔
      ∃ a t, run w p s = (.ok a, t) ∧ run w (f a) t = (.ok b, u) := by
  rw [run_bind]
  cases h : run w p s with
  | mk r t =>
    cases r with
    | error e => simp
    | ok a =>
      constructor
      · intro hf
        exact ⟨a, t, rfl, hf⟩
      · rintro ⟨a', t', he, hf⟩
        cases he
        exact hf

@[simp] theorem run_attempt : run w p.attempt s = (.ok (run w p s).1, (run w p s).2) := by
  induction p generalizing s with
  | ret a => rfl
  | fail e => rfl
  | call c k ih => exact ih _

@[simp] theorem run_ask (c : C) : run w (ask c) s = (.ok (w.act c s).1, (w.act c s).2) := rfl

theorem run_ask_bind (c : C) (f : Except E (R c) → Prog C R E β) :
    run w (ask c >>= f) s = run w (f (w.act c s).1) (w.act c s).2 := rfl

@[simp] theorem run_op (c : C) : run w (op c) s = w.act c s := by
  simp only [op, run]
  cases h : w.act c s with
  | mk r t => cases r <;> rfl

@[simp] theorem calls_ret (a : α) : calls w (ret a : Prog C R E α) s = [] := rfl

@[simp] theorem calls_fail (e : E) : calls w (fail e : Prog C R E α) s = [] := rfl

theorem calls_bind (f : α → Prog C R E β) : calls w (p >>= f) s = calls w p s ++
    match run w p s with
    | (.ok a, t) => calls w (f a) t
    | (.error _, _) => [] := by
  induction p generalizing s with
  | ret a => rfl
  | fail e => rfl
  | call c k ih => exact congrArg _ (ih _)

@[simp] theorem calls_attempt : calls w p.attempt s = calls w p s := by
  induction p generalizing s with
  | ret a => rfl
  | fail e => rfl
  | call c k ih => exact congrArg _ (ih _)

@[simp] theorem calls_ask (c : C) : calls w (ask c) s = [(s, c)] := rfl

theorem calls_ask_bind (c : C) (f : Except E (R c) → Prog C R E β) :
    calls w (ask c >>= f) s = (s, c) :: calls w (f (w.act c s).1) (w.act c s).2 := rfl

@[simp] theorem calls_op (c : C) : calls w (op c) s = [(s, c)] := by
  simp only [op, calls]
  cases (w.act c s).1 <;> rfl

end Semantics

section Uses

variable {U V : C → Prop} {p : Prog C R E α}

/-- Every call that the program can make, whatever the replies, satisfies `U`. -/
def uses (U : C → Prop) : Prog C R E α → Prop
  | ret _ => True
  | fail _ => True
  | call c k => U c ∧ ∀ r, uses U (k r)

@[simp] theorem uses_ret (a : α) : uses U (ret a : Prog C R E α) := trivial

@[simp] theorem uses_fail (e : E) : uses U (fail e : Prog C R E α) := trivial

@[simp] theorem uses_ask (c : C) : uses U (ask c : Prog C R E _) ↔ U c :=
  ⟨fun h => h.1, fun h => ⟨h, fun _ => trivial⟩⟩

@[simp] theorem uses_ofExcept (r : Except E α) : uses U (ofExcept r : Prog C R E α) := by
  cases r <;> exact trivial

@[simp] theorem uses_op (c : C) : uses U (op c : Prog C R E _) ↔ U c :=
  ⟨fun h => h.1, fun h => ⟨h, uses_ofExcept⟩⟩

theorem uses_bind (hp : uses U p) (hf : ∀ a, uses U (f a)) :
    uses U (p >>= f) := by
  induction p with
  | ret a => exact hf a
  | fail e => exact trivial
  | call c k ih => exact ⟨hp.1, fun r => ih r (hp.2 r)⟩

@[simp] theorem uses_attempt : uses U p.attempt ↔ uses U p := by
  induction p with
  | ret a => exact Iff.rfl
  | fail e => exact Iff.rfl
  | call c k ih => exact and_congr_right fun _ => forall_congr' ih

theorem uses_ask_bind {f : Except E (R c) → Prog C R E β} (hc : U c) (hf : ∀ r, uses U (f r)) :
    uses U (ask c >>= f) := uses_bind ((uses_ask c).2 hc) hf

theorem uses_attempt_bind {f : Except E α → Prog C R E β} (hp : uses U p) (hf : ∀ r, uses U (f r)) :
    uses U (p.attempt >>= f) := uses_bind (uses_attempt.2 hp) hf

theorem uses_mono (h : uses U p) (huv : ∀ c, U c → V c) : uses V p := by
  induction p with
  | ret a => exact trivial
  | fail e => exact trivial
  | call c k ih => exact ⟨huv c h.1, fun r => ih r (h.2 r)⟩

variable {w : World C R E S} {F : Faults C E S} {s : S}

theorem wp_of_uses {I : S → Prop} (h : uses U p) (hU : ∀ c t, U c → I t → I (w.act c t).2)
    (hs : I s) : wp w F p (fun _ t => I t) s := by
  induction p generalizing s with
  | ret a => exact hs
  | fail e => exact hs
  | call c k ih =>
    exact ⟨ih _ (h.2 _) (hU c s h.1 hs), fun e _ => ih _ (h.2 _) hs⟩

theorem wp_iff_run (h : uses (fun c => ∀ t e, ¬F t c e) p) {Q : Except E α → S → Prop} :
    wp w F p Q s ↔ Q (run w p s).1 (run w p s).2 := by
  induction p generalizing s with
  | ret a => rfl
  | fail e => rfl
  | call c k ih =>
    rw [wp_call, ih _ (h.2 _)]
    exact and_iff_left fun e he => absurd he (h.1 s e)

theorem run_of_uses {I : S → Prop} (h : uses U p) (hU : ∀ c t, U c → I t → I (w.act c t).2)
    (hs : I s) : I (run w p s).2 :=
  wp_none_iff_run.1 (wp_of_uses h hU hs)

theorem run_state_of_uses (h : uses U p) (hU : ∀ c t, U c → (w.act c t).2 = t) :
    (run w p s).2 = s :=
  run_of_uses (I := fun t => t = s) h (fun c t hc ht => (hU c t hc).trans ht) rfl

theorem Alike.fail (e : E) (s t : S) : Alike w (fail e : Prog C R E α) s (fail e) t :=
  fun _ => ⟨rfl, rfl⟩

theorem Alike.ret (a : α) (s t : S) : Alike w (ret a : Prog C R E α) s (ret a) t :=
  fun _ => ⟨rfl, rfl⟩

theorem Alike.call {c : C} {k l : Except E (R c) → Prog C R E α} {s t : S}
    (hserved : Alike w (k (w.act c s).1) (w.act c s).2 (l (w.act c t).1) (w.act c t).2)
    (hfault : ∀ e, Alike w (k (.error e)) s (l (.error e)) t) :
    Alike w (call c k) s (call c l) t := by
  intro fs
  cases fs with
  | nil => exact ⟨(hserved []).1, congrArg (c :: ·) (hserved []).2⟩
  | cons fault fs =>
    cases fault with
    | none => exact ⟨(hserved fs).1, congrArg (c :: ·) (hserved fs).2⟩
    | some e => exact ⟨(hfault e fs).1, congrArg (c :: ·) (hfault e fs).2⟩

theorem alike_of_uses (h : uses U p) (hU : ∀ c s t, U c → (w.act c s).1 = (w.act c t).1) (s t : S) :
    Alike w p s p t := by
  induction p generalizing s t with
  | ret a => exact .ret a s t
  | fail e => exact .fail e s t
  | call c k ih =>
    apply Alike.call
    · rw [hU c s t h.1]
      exact ih _ (h.2 _) _ _
    · exact fun e => ih _ (h.2 _) s t

theorem run_congr {t : S} (h : uses U p) (hs : ∀ c, U c → (w.act c s).2 = s)
    (ht : ∀ c, U c → w.act c t = ((w.act c s).1, t)) : run w p t = ((run w p s).1, t) := by
  induction p with
  | ret a => rfl
  | fail e => rfl
  | call c k ih =>
    have hk := ih (w.act c s).1 (h.2 _)
    simp only [run, ht c h.1, hs c h.1, hk]

theorem wp_bind_quiet {Q : Except E β → S → Prop} (h : uses U p)
    (hU : ∀ c t, U c → (w.act c t).2 = t) (hok : ∀ a, wp w F (f a) Q s)
    (herr : ∀ e, Q (.error e) s) : wp w F (p >>= f) Q s := by
  refine wp_seq (wp_of_uses (I := fun t => t = s) h (fun c t hc ht => (hU c t hc).trans ht) rfl) ?_ ?_
  · rintro e t rfl
    exact herr e
  · rintro a t rfl
    exact hok a

end Uses

section Sends

variable (w : World C R E S)

/-- Every call that the program can make from `s` satisfies `U` in the state that it finds. -/
def sends (F : Faults C E S) (U : S → C → Prop) : Prog C R E α → S → Prop
  | ret _, _ => True
  | fail _, _ => True
  | call c k, s => U s c ∧ sends F U (k (w.act c s).1) (w.act c s).2 ∧
      ∀ e, F s c e → sends F U (k (.error e)) s

variable {w} {F : Faults C E S} {U : S → C → Prop} {p : Prog C R E α} {s : S}

theorem sends_of_uses {V : C → Prop} (h : uses V p) (hV : ∀ c t, V c → U t c) : sends w F U p s := by
  induction p generalizing s with
  | ret a => trivial
  | fail e => trivial
  | call c k ih => exact ⟨hV c s h.1, ih _ (h.2 _), fun e _ => ih _ (h.2 _)⟩

theorem sends_bind (hp : sends w F U p s)
    (hf : wp w F p (fun r t => ∀ a, r = .ok a → sends w F U (f a) t) s) :
    sends w F U (p >>= f) s := by
  induction p generalizing s with
  | ret a => exact hf a rfl
  | fail e => trivial
  | call c k ih =>
    exact ⟨hp.1, ih _ hp.2.1 hf.1, fun e he => ih _ (hp.2.2 e he) (hf.2 e he)⟩

theorem sends_bind_any (hp : sends w F U p s)
    (hf : ∀ a t, sends w F U (f a) t) : sends w F U (p >>= f) s :=
  sends_bind hp (wp_mono (wp_trivial p s) fun _ t _ a _ => hf a t)

theorem sends_ask {c : C} (h : U s c) : sends w F U (ask c) s :=
  ⟨h, trivial, fun _ _ => trivial⟩

theorem sends_op {c : C} (h : U s c) : sends w F U (op c) s := by
  refine ⟨h, ?_, fun _ _ => trivial⟩
  cases (w.act c s).1 <;> trivial

theorem sends_attempt : sends w F U p.attempt s ↔ sends w F U p s := by
  induction p generalizing s with
  | ret a => exact Iff.rfl
  | fail e => exact Iff.rfl
  | call c k ih =>
    exact and_congr_right fun _ => and_congr (ih _) (forall_congr' fun e => imp_congr_right fun _ => ih _)

theorem wp_of_sends {I : S → Prop} (h : sends w F U p s)
    (hU : ∀ c t, U t c → I t → I (w.act c t).2) (hs : I s) : wp w F p (fun _ t => I t) s := by
  induction p generalizing s with
  | ret a => exact hs
  | fail e => exact hs
  | call c k ih =>
    exact ⟨ih _ h.2.1 (hU c s h.1 hs), fun e he => ih _ (h.2.2 e he) hs⟩

theorem calls_of_sends (h : sends w F U p s) : ∀ x ∈ calls w p s, U x.1 x.2 := by
  induction p generalizing s with
  | ret a => simp
  | fail e => simp
  | call c k ih =>
    intro x hx
    rcases List.mem_cons.1 hx with rfl | hx
    · exact h.1
    · exact ih _ h.2.1 x hx

theorem calls_of_uses {V : C → Prop} (h : uses V p) : ∀ x ∈ calls w p s, V x.2 :=
  calls_of_sends (F := .none) (sends_of_uses h fun _ _ hc => hc)

end Sends

section Yields

variable {P : α → Prop} {p : Prog C R E α}

/-- Every value that the program can return, whatever the replies, satisfies `P`. -/
def yields (P : α → Prop) : Prog C R E α → Prop
  | ret a => P a
  | fail _ => True
  | call _ k => ∀ r, yields P (k r)

@[simp] theorem yields_ret (a : α) : yields P (ret a : Prog C R E α) ↔ P a := Iff.rfl

@[simp] theorem yields_fail (e : E) : yields P (fail e : Prog C R E α) := trivial

theorem yields_and {P' : α → Prop} (h : yields P p) (h' : yields P' p) :
    yields (fun a => P a ∧ P' a) p := by
  induction p with
  | ret a => exact ⟨h, h'⟩
  | fail e => exact trivial
  | call c k ih => exact fun r => ih r (h r) (h' r)

theorem yields_bind {P' : β → Prop} (hp : yields P p)
    (hf : ∀ a, P a → yields P' (f a)) : yields P' (p >>= f) := by
  induction p with
  | ret a => exact hf a hp
  | fail e => exact trivial
  | call c k ih => exact fun r => ih r (hp r)

theorem yields_mono {P' : α → Prop} (h : yields P p) (hP : ∀ a, P a → P' a) : yields P' p := by
  induction p with
  | ret a => exact hP a h
  | fail e => exact trivial
  | call c k ih => exact fun r => ih r (h r)

theorem uses_bind_of {U : C → Prop} (hu : uses U p) (hp : yields P p)
    (hf : ∀ a, P a → uses U (f a)) : uses U (p >>= f) := by
  induction p with
  | ret a => exact hf a hp
  | fail e => exact trivial
  | call c k ih => exact ⟨hu.1, fun r => ih r (hu.2 r) (hp r)⟩

theorem yields_of_forall (h : ∀ a, P a) : yields P p := by
  induction p with
  | ret a => exact h a
  | fail e => exact trivial
  | call c k ih => exact ih

theorem yields_bind_any {P' : β → Prop} (hf : ∀ a, yields P' (f a)) : yields P' (p >>= f) :=
  yields_bind (P := fun _ => True) (yields_of_forall fun _ => trivial) fun a _ => hf a

theorem yields_ofExcept (r : Except E α) :
    yields (fun a => r = .ok a) (ofExcept r : Prog C R E α) := by
  cases r with
  | ok a => exact rfl
  | error e => exact trivial

theorem wp_of_yields {w : World C R E S} {F : Faults C E S} {s : S} (h : yields P p) :
    wp w F p (fun r _ => ∀ a, r = .ok a → P a) s := by
  induction p generalizing s with
  | ret a =>
    rintro b ⟨⟩
    exact h
  | fail e => rintro b ⟨⟩
  | call c k ih => exact ⟨ih _ (h _), fun e _ => ih _ (h _)⟩

theorem run_yields {w : World C R E S} {s t : S} (h : yields P p) (hrun : run w p s = (.ok a, t)) :
    P a := by
  have hw : ∀ b, (.ok a : Except E α) = .ok b → P b := wp_run (wp_of_yields (F := .none) h) hrun
  exact hw a rfl

end Yields

section Gives

variable {w : World C R E S} {F : Faults C E S} {p : Prog C R E α} {Q Q' : α → S → Prop} {s t : S}

/-- Every value that the program returns from `s` satisfies `Q` in the state that it leaves; calls
fail as `F` allows, and a program that ends with an error may do anything. -/
def gives (w : World C R E S) (F : Faults C E S) : Prog C R E α → (α → S → Prop) → S → Prop
  | ret a, Q, s => Q a s
  | fail _, _, _ => True
  | call c k, Q, s =>
    gives w F (k (w.act c s).1) Q (w.act c s).2 ∧ ∀ e, F s c e → gives w F (k (.error e)) Q s

theorem gives_of_wp {M : Except E α → S → Prop} (h : wp w F p M s)
    (hQ : ∀ a t, M (.ok a) t → Q a t) : gives w F p Q s := by
  induction p generalizing s with
  | ret a => exact hQ a s h
  | fail e => exact trivial
  | call c k ih => exact ⟨ih _ h.1, fun e he => ih _ (h.2 e he)⟩

theorem gives_state {I : S → Prop} (h : wp w F p (fun _ t => I t) s) :
    gives w F p (fun _ t => I t) s :=
  gives_of_wp h fun _ _ ht => ht

theorem gives.outcome (h : gives w F p Q s) (ho : Outcome w F p s (.ok a) t) : Q a t := by
  generalize hr : (Except.ok a : Except E α) = r at ho
  induction ho with
  | ret => cases hr; exact h
  | fail => cases hr
  | served _ ih => exact ih h.1 hr
  | faulted he _ ih => exact ih (h.2 _ he) hr

theorem wp_of_gives (h : gives w F p Q s) : wp w F p (fun r t => ∀ a, r = .ok a → Q a t) s := by
  rw [wp_iff_outcome]
  rintro r t ho a rfl
  exact h.outcome ho

theorem gives.run (h : gives w F p Q s) (hrun : run w p s = (.ok a, t)) : Q a t :=
  h.outcome (.of_run hrun)

theorem gives_bind {Q' : β → S → Prop} (hp : gives w F p Q s)
    (hf : ∀ a t, Q a t → gives w F (f a) Q' t) : gives w F (p >>= f) Q' s := by
  induction p generalizing s with
  | ret a => exact hf a s hp
  | fail e => exact trivial
  | call c k ih => exact ⟨ih _ hp.1, fun e he => ih _ (hp.2 e he)⟩

theorem gives_of_forall (h : ∀ a t, Q a t) : gives w F p Q s :=
  gives_of_wp (wp_trivial p s) fun a t _ => h a t

theorem gives_bind_any {Q' : β → S → Prop}
    (hf : ∀ a t, gives w F (f a) Q' t) : gives w F (p >>= f) Q' s :=
  gives_bind (gives_of_forall (Q := fun _ _ => True) fun _ _ => trivial) fun a t _ => hf a t

theorem gives_mono (h : gives w F p Q s) (hQ : ∀ a t, Q a t → Q' a t) : gives w F p Q' s :=
  gives_of_wp (wp_of_gives h) fun a t ht => hQ a t (ht a rfl)

theorem gives_and (h : gives w F p Q s) (h' : gives w F p Q' s) :
    gives w F p (fun a t => Q a t ∧ Q' a t) s :=
  gives_of_wp (wp_and (wp_of_gives h) (wp_of_gives h')) fun a _ ht => ⟨ht.1 a rfl, ht.2 a rfl⟩

theorem gives_of_yields {P : α → Prop} (h : yields P p) : gives w F p (fun a _ => P a) s :=
  gives_of_wp (wp_of_yields h) fun a _ ha => ha a rfl

theorem gives_ask_bind {c : C} {f : Except E (R c) → Prog C R E β} {Q : β → S → Prop}
    (hf : gives w F (f (w.act c s).1) Q (w.act c s).2)
    (herr : ∀ e, F s c e → gives w F (f (.error e)) Q s) : gives w F (ask c >>= f) Q s :=
  ⟨hf, herr⟩

theorem gives_op {c : C} {Q : R c → S → Prop} (h : ∀ v, (w.act c s).1 = .ok v → Q v (w.act c s).2) :
    gives w F (op c) Q s := by
  refine ⟨?_, fun _ _ => trivial⟩
  cases hr : (w.act c s).1 with
  | ok v => exact h v hr
  | error e => exact trivial

theorem gives_op_bind {c : C} {f : R c → Prog C R E β} {Q : β → S → Prop}
    (hf : gives w F (ofExcept (w.act c s).1 >>= f) Q (w.act c s).2) : gives w F (op c >>= f) Q s :=
  ⟨hf, fun _ _ => trivial⟩

theorem gives_bind_quiet {U : C → Prop} {Q : β → S → Prop} (h : uses U p)
    (hU : ∀ c t, U c → (w.act c t).2 = t) (hf : ∀ a, gives w F (f a) Q s) :
    gives w F (p >>= f) Q s := by
  refine gives_bind (gives_state (wp_of_uses (I := fun t => t = s) h
    (fun c t hc ht => (hU c t hc).trans ht) rfl)) ?_
  rintro a t rfl
  exact hf a

theorem gives_attempt {Q : Except E α → S → Prop} (h : wp w F p Q s) : gives w F p.attempt Q s := by
  induction p generalizing s with
  | ret a => exact h
  | fail e => exact h
  | call c k ih => exact ⟨ih _ h.1, fun e he => ih _ (h.2 e he)⟩

theorem gives_attempt_bind {M : Except E α → S → Prop} {f : Except E α → Prog C R E β}
    {Q : β → S → Prop} (hp : wp w F p M s) (hf : ∀ r t, M r t → gives w F (f r) Q t) :
    gives w F (p.attempt >>= f) Q s :=
  gives_bind (gives_attempt hp) hf

theorem gives_settle {f : Except E α → Prog C R E β} {Q' : β → S → Prop} (hp : gives w F p Q s)
    (hok : ∀ a t, Q a t → gives w F (f (.ok a)) Q' t)
    (herr : ∀ e t, gives w F (f (.error e)) Q' t) : gives w F (p.attempt >>= f) Q' s := by
  induction p generalizing s with
  | ret a => exact hok a s hp
  | fail e => exact herr e s
  | call c k ih => exact ⟨ih _ hp.1, fun e he => ih _ (hp.2 e he)⟩

end Gives

section Strict

variable {U : C → Prop} {p : Prog C R E α}

/-- A call that satisfies `U` and fails ends the program with an error. -/
def strict (U : C → Prop) : Prog C R E α → Prop
  | ret _ => True
  | fail _ => True
  | call c k => (U c → ∀ e, yields (fun _ => False) (k (.error e))) ∧ ∀ r, strict U (k r)

@[simp] theorem strict_ofExcept (r : Except E α) : strict U (ofExcept r : Prog C R E α) := by
  cases r <;> exact trivial

@[simp] theorem strict_op (c : C) : strict U (op c : Prog C R E _) :=
  ⟨fun _ _ => trivial, fun _ => strict_ofExcept _⟩

theorem strict_bind (hp : strict U p) (hf : ∀ a, strict U (f a)) :
    strict U (p >>= f) := by
  induction p with
  | ret a => exact hf a
  | fail e => trivial
  | call c k ih =>
    exact ⟨fun hc e => yields_bind (hp.1 hc e) fun _ h => h.elim, fun r => ih r (hp.2 r)⟩

theorem strict_ask_bind {c : C} {f : Except E (R c) → Prog C R E β}
    (herr : U c → ∀ e, yields (fun _ => False) (f (.error e))) (hf : ∀ r, strict U (f r)) :
    strict U (ask c >>= f) :=
  ⟨herr, hf⟩

theorem strict_of_uses (h : uses (fun c => ¬U c) p) : strict U p := by
  induction p with
  | ret a => trivial
  | fail e => trivial
  | call c k ih => exact ⟨fun hc => absurd hc h.1, fun r => ih r (h.2 r)⟩

theorem strict_settle {f : Except E α → Prog C R E β} (hp : strict U p)
    (herr : ∀ e, yields (fun _ => False) (f (.error e))) (hok : ∀ a, strict U (f (.ok a)))
    (hfail : ∀ e, strict U (f (.error e))) : strict U (p.attempt >>= f) := by
  have hnever (q : Prog C R E α) (hq : yields (fun _ => False) q) :
      yields (fun _ => False) (q.attempt >>= f) := by
    induction q with
    | ret a => exact hq.elim
    | fail e => exact herr e
    | call c k ih => exact fun r => ih r (hq r)
  induction p with
  | ret a => exact hok a
  | fail e => exact hfail e
  | call c k ih => exact ⟨fun hc e => hnever _ (hp.1 hc e), fun r => ih r (hp.2 r)⟩

theorem Outcome.run_of_strict {w : World C R E S} {F : Faults C E S} {s t : S} (h : strict U p)
    (hF : ∀ s c e, F s c e → U c) (ho : Outcome w F p s (.ok a) t) : run w p s = (.ok a, t) := by
  generalize hr : (Except.ok a : Except E α) = r at ho
  induction ho with
  | ret => rfl
  | fail => cases hr
  | served _ ih => exact ih (h.2 _) hr
  | faulted he ho _ =>
    subst hr
    exact (wp_iff_outcome.1 (wp_of_yields (h.1 (hF _ _ _ he) _)) _ _ ho _ rfl).elim

end Strict

section Returns

variable {U : C → Prop} {p : Prog C R E α}

def returns (a : α) : Prog C R E α → Prop
  | ret b => b = a
  | fail _ => False
  | call _ k => ∃ r, returns a (k r)

theorem uses_after (h : uses U (p >>= f)) (hp : returns a p) :
    uses U (f a) := by
  induction p with
  | ret c =>
    obtain rfl : c = a := hp
    exact h
  | fail e => exact hp.elim
  | call c k ih =>
    obtain ⟨r, hr⟩ := hp
    exact ih r (h.2 r) hr

end Returns

section Observe

variable {w : World C R E S} {O : Type} {f : S → C → Option O} {U : C → Prop} {p : Prog C R E α}
  {s t : S}

def observe (w : World C R E S) (f : S → C → Option O) (p : Prog C R E α) (s : S) : List O :=
  (calls w p s).filterMap fun x => f x.1 x.2

@[simp] theorem observe_ask (c : C) : observe w f (ask c) s = (f s c).toList := by
  cases h : f s c <;> simp [observe, h]

@[simp] theorem observe_op (c : C) : observe w f (op c) s = (f s c).toList := by
  cases h : f s c <;> simp [observe, h]

@[simp] theorem observe_attempt : observe w f p.attempt s = observe w f p s := by
  rw [observe, calls_attempt]
  rfl

theorem observe_bind {g : α → Prog C R E β} (h : run w p s = (.ok a, t)) :
    observe w f (p >>= g) s = observe w f p s ++ observe w f (g a) t := by
  simp [observe, calls_bind, h, List.filterMap_append]

theorem observe_of_uses (h : uses U p) (hU : ∀ c s, U c → f s c = none) : observe w f p s = [] := by
  rw [observe, List.filterMap_eq_nil_iff]
  intro x hx
  exact hU _ _ (calls_of_uses h x hx)

theorem observe_bind_of_uses {g : α → Prog C R E β} (h : ∀ a, uses U (g a))
    (hU : ∀ c s, U c → f s c = none) : observe w f (p >>= g) s = observe w f p s := by
  cases hr : run w p s with
  | mk r t =>
    cases r with
    | ok a => rw [observe_bind hr, observe_of_uses (h a) hU, List.append_nil]
    | error e => simp [observe, calls_bind, hr]

end Observe

section Attempts

variable {w : World C R E S} {F : Faults C E S} {p : Prog C R E α} {s t : S}

def Attempts (w : World C R E S) (F : Faults C E S) (p : Prog C R E α) : S → S → Prop :=
  Relation.ReflTransGen fun s t => ∃ r, Outcome w F p s r t

theorem Attempts.invariant {I : S → Prop} (h : Attempts w F p s t)
    (hI : ∀ u, I u → wp w F p (fun _ u' => I u') u) (hs : I s) : I t := by
  induction h with
  | refl => exact hs
  | tail _ hstep ih =>
    obtain ⟨r, ho⟩ := hstep
    exact wp_iff_outcome.1 (hI _ ih) _ _ ho

end Attempts

end Prog

namespace Prog

variable {C D : Type} {R : C → Type} {T : D → Type} {E S S' α β : Type}

def handle (h : (c : C) → Prog D T E (R c)) : Prog C R E α → Prog D T E α
  | ret a => ret a
  | fail e => fail e
  | call c k => (h c).attempt >>= fun r => handle h (k r)

variable {h : (c : C) → Prog D T E (R c)} {p : Prog C R E α}

theorem handle_call (c : C) (k : Except E (R c) → Prog C R E α) :
    handle h (call c k) = (h c).attempt >>= fun r => handle h (k r) := rfl

theorem handle_bind (f : α → Prog C R E β) :
    handle h (p >>= f) = handle h p >>= fun a => handle h (f a) := by
  induction p with
  | ret a => rfl
  | fail e => rfl
  | call c k ih =>
    rw [call_bind, handle_call, handle_call, bind_assoc]
    apply congrArg (Bind.bind (h c).attempt)
    funext r
    exact ih r

theorem handle_ask_bind (c : C) (f : Except E (R c) → Prog C R E α) :
    handle h (ask c >>= f) = (h c).attempt >>= fun r => handle h (f r) := rfl

theorem uses_handle {U : C → Prop} {V : D → Prop} (hp : uses U p)
    (hh : ∀ c, U c → uses V (h c)) : uses V (handle h p) := by
  induction p with
  | ret a => exact trivial
  | fail e => exact trivial
  | call c k ih =>
    obtain ⟨hc, hk⟩ := hp
    apply uses_bind
    · exact uses_attempt.2 (hh c hc)
    · intro r
      exact ih r (hk r)

theorem run_handle {w : World C R E S} {v : World D T E S'} {I : S → S' → Prop}
    (hsim : ∀ c s s', I s s' →
      (run v (h c) s').1 = (w.act c s).1 ∧ I (w.act c s).2 (run v (h c) s').2)
    {s : S} {s' : S'} (hs : I s s') :
    (run v (handle h p) s').1 = (run w p s).1 ∧ I (run w p s).2 (run v (handle h p) s').2 := by
  induction p generalizing s s' with
  | ret a => exact ⟨rfl, hs⟩
  | fail e => exact ⟨rfl, hs⟩
  | call c k ih =>
    obtain ⟨hr, hrel⟩ := hsim c s s' hs
    rw [handle_call, run_bind, run_attempt, run]
    dsimp only
    rw [hr]
    exact ih _ hrel

end Prog

namespace Prog

variable {C : Type} {R : C → Type} {E S α β : Type} {w : World C R E S} {p : Prog C R E α}
  {f : α → Prog C R E β} {s t : S} {k : Nat} {e : E}

def failAt (w : World C R E S) (p : Prog C R E α) (k : Nat) (e : E) (s : S) : Except E α × S :=
  exec w p (List.replicate k .none ++ [.some e]) s

theorem failAt_zero (c : C) (g : Except E (R c) → Prog C R E α) :
    failAt w (call c g) 0 e s = run w (g (.error e)) s := exec_nil _ _

theorem failAt_succ (c : C) (g : Except E (R c) → Prog C R E α) :
    failAt w (call c g) (k + 1) e s = failAt w (g (w.act c s).1) k e (w.act c s).2 := rfl

theorem failAt_bind_of_lt (h : k < (calls w p s).length) : failAt w (p >>= f) k e s =
    match failAt w p k e s with
    | (.ok a, t) => run w (f a) t
    | (.error e', t) => (.error e', t) := by
  induction p generalizing s k with
  | ret a => cases h
  | fail e' => cases h
  | call c g ih =>
    cases k with
    | zero =>
      rw [call_bind, failAt_zero, failAt_zero]
      exact run_bind f
    | succ k => exact ih _ (Nat.lt_of_succ_lt_succ h)

theorem failAt_of_mem {U : C → Prop} {I : S → Prop} (hu : uses U p)
    (hU : ∀ c t, U c → I t → I (w.act c t).2) {x : S × C} (hx : x ∈ (calls w p s).take k)
    (hI : I (w.act x.2 x.1).2) : I (failAt w p k e s).2 := by
  induction p generalizing s k with
  | ret a => simp at hx
  | fail e' => simp at hx
  | call c g ih =>
    cases k with
    | zero => simp at hx
    | succ k =>
      rw [failAt_succ]
      rcases List.mem_cons.1 hx with rfl | hx
      · exact wp_any_iff_exec.1 (wp_of_uses (hu.2 _) hU hI) _
      · exact ih _ (hu.2 _) hx

def halts : Prog C R E α → Prop
  | ret _ => True
  | fail _ => True
  | call _ g => (∀ e, ∃ e', g (.error e) = fail e') ∧ ∀ r, halts (g r)

theorem halts_bind (hp : halts p) (hf : ∀ a, halts (f a)) : halts (p >>= f) := by
  induction p with
  | ret a => exact hf a
  | fail e => trivial
  | call c g ih =>
    refine ⟨fun e => ?_, fun r => ih r (hp.2 r)⟩
    obtain ⟨e', he⟩ := hp.1 e
    refine ⟨e', ?_⟩
    show (g (.error e)).bind f = _
    rw [he]
    rfl

theorem halts_ask_bind {c : C} {g : Except E (R c) → Prog C R E α}
    (herr : ∀ e, ∃ e', g (.error e) = fail e') (hok : ∀ a, halts (g (.ok a))) : halts (ask c >>= g) := by
  refine ⟨herr, fun r => ?_⟩
  cases r with
  | ok a => exact hok a
  | error e =>
    obtain ⟨e', he⟩ := herr e
    show halts (g (.error e))
    rw [he]
    trivial

theorem halts_settle {g : Except E α → Prog C R E β} (hp : halts p)
    (herr : ∀ e, ∃ e', g (.error e) = fail e') (hok : ∀ a, halts (g (.ok a))) :
    halts (p.attempt >>= g) := by
  induction p with
  | ret a => exact hok a
  | fail e =>
    obtain ⟨e', he⟩ := herr e
    show halts (g (.error e))
    rw [he]
    trivial
  | call c h ih =>
    refine ⟨fun e => ?_, fun r => ih r (hp.2 r)⟩
    obtain ⟨e', he⟩ := hp.1 e
    obtain ⟨e'', he'⟩ := herr e'
    refine ⟨e'', ?_⟩
    show ((h (.error e)).attempt >>= g) = _
    rw [he]
    exact he'

theorem failAt_of_halts (hp : halts p) (hk : k < (calls w p s).length)
    (hread : ∀ x ∈ (calls w p s).take k, (w.act x.2 x.1).2 = x.1) :
    ∃ e', failAt w p k e s = (.error e', s) := by
  induction p generalizing s k with
  | ret a => cases hk
  | fail e' => cases hk
  | call c g ih =>
    cases k with
    | zero =>
      obtain ⟨e', he⟩ := hp.1 e
      exact ⟨e', by rw [failAt_zero, he]; rfl⟩
    | succ k =>
      have hc : (w.act c s).2 = s := hread (s, c) List.mem_cons_self
      have hrest := ih (w.act c s).1 (s := (w.act c s).2) (hp.2 _) (Nat.lt_of_succ_lt_succ hk)
        fun x hx => hread x (List.mem_cons_of_mem _ hx)
      rw [failAt_succ]
      rw [hc] at hrest ⊢
      exact hrest

variable {l r : List (S × C)} {d : S × C}

theorem mem_take_append_cons (h : l.length < k) : d ∈ (l ++ d :: r).take k := by
  rw [List.take_append, List.mem_append]
  right
  obtain ⟨j, hj⟩ : ∃ j, k - l.length = j + 1 := ⟨k - l.length - 1, by omega⟩
  rw [hj]
  exact List.mem_cons_self

theorem failAt_bind_upTo (hp : halts p) (hcalls : calls w p s = l ++ d :: r)
    (hread : ∀ x ∈ l, (w.act x.2 x.1).2 = x.1) (hk : k ≤ l.length) :
    ∃ e', failAt w (p >>= f) k e s = (.error e', s) := by
  have hlt : k < (calls w p s).length := by
    rw [hcalls, List.length_append, List.length_cons]
    omega
  have hquiet : ∀ x ∈ (calls w p s).take k, (w.act x.2 x.1).2 = x.1 := by
    intro x hx
    rw [hcalls, List.take_append_of_le_length hk] at hx
    exact hread x (List.mem_of_mem_take hx)
  obtain ⟨e', he⟩ := failAt_of_halts (e := e) hp hlt hquiet
  exact ⟨e', by rw [failAt_bind_of_lt hlt, he]⟩

theorem failAt_past {U : C → Prop} {I : S → Prop} (hu : uses U p)
    (hU : ∀ c t, U c → I t → I (w.act c t).2) (hcalls : calls w p s = l ++ d :: r)
    (hI : I (w.act d.2 d.1).2) (hk : l.length < k) : I (failAt w p k e s).2 := by
  refine failAt_of_mem hu hU ?_ hI
  rw [hcalls]
  exact mem_take_append_cons hk

theorem forall_take_calls {P : S × C → Prop} (hcalls : calls w p s = l ++ d :: r)
    (hl : ∀ x ∈ l, ¬P x) (hd : P d) : (∀ x ∈ (calls w p s).take k, ¬P x) ↔ k ≤ l.length := by
  rw [hcalls]
  constructor
  · intro h
    apply Nat.le_of_not_lt
    intro hk
    exact h d (mem_take_append_cons hk) hd
  · intro hk x hx
    rw [List.take_append_of_le_length hk] at hx
    exact hl x (List.mem_of_mem_take hx)

end Prog

end Effects
