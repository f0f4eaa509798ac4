import CsiPowerscale.Effects.Prog

namespace Effects.Prog

variable {C : Type} {R : C → Type} {E α β : Type}

/-- When each call ends with a value that `V` admits or any error, the program makes calls in `U`
only. -/
def asks (V : (c : C) → R c → Prop) (U : C → Prop) : Prog C R E α → Prop
  | ret _ => True
  | fail _ => True
  | call c k => U c ∧ ∀ r, (∀ v, r = .ok v → V c v) → asks V U (k r)

/-- Some answers that `V` admits, or errors, make the program return `a`. -/
def reaches (V : (c : C) → R c → Prop) (a : α) : Prog C R E α → Prop
  | ret b => b = a
  | fail _ => False
  | call c k => ∃ r, (∀ v, r = .ok v → V c v) ∧ reaches V a (k r)

variable {V : (c : C) → R c → Prop} {U : C → Prop} {p : Prog C R E α} {f : α → Prog C R E β} {a : α}

theorem asks_of_uses (h : uses U p) : asks V U p := by
  induction p with
  | ret a => trivial
  | fail e => trivial
  | call c k ih => exact ⟨h.1, fun r _ => ih r (h.2 r)⟩

theorem asks_bind (hp : asks V U p) (hf : ∀ a, reaches V a p → asks V U (f a)) :
    asks V U (p >>= f) := by
  induction p with
  | ret a => exact hf a rfl
  | fail e => trivial
  | call c k ih =>
    exact ⟨hp.1, fun r hr => ih r (hp.2 r hr) fun a ha => hf a ⟨r, hr, ha⟩⟩

theorem asks_of_uses_bind (hp : uses U p) (hf : ∀ a, asks V U (f a)) : asks V U (p >>= f) :=
  asks_bind (asks_of_uses hp) fun a _ => hf a

theorem asks_attempt : asks V U p.attempt ↔ asks V U p := by
  induction p with
  | ret a => rfl
  | fail e => rfl
  | call c k ih => exact and_congr_right fun _ => forall_congr' fun r => imp_congr_right fun _ => ih r

theorem asks_first (h : asks V U (p >>= f)) : asks V U p := by
  induction p with
  | ret a => trivial
  | fail e => trivial
  | call c k ih => exact ⟨h.1, fun r hr => ih r (h.2 r hr)⟩

theorem asks_after (h : asks V U (p >>= f)) (hp : reaches V a p) : asks V U (f a) := by
  induction p with
  | ret b =>
    obtain rfl : b = a := hp
    exact h
  | fail e => exact hp.elim
  | call c k ih =>
    obtain ⟨r, hr, ha⟩ := hp
    exact ih r (h.2 r hr) ha

theorem reaches_sat {P : α → Prop} (h : yields P p) (ha : reaches V a p) : P a := by
  induction p with
  | ret b =>
    obtain rfl : b = a := ha
    exact h
  | fail e => exact ha.elim
  | call c k ih =>
    obtain ⟨r, -, ha⟩ := ha
    exact ih r (h r) ha

theorem reaches_error {c : C} (V : (c : C) → R c → Prop) (e : E) :
    reaches V (.error e) (ask c : Prog C R E (Except E (R c))) :=
  ⟨.error e, (fun v hv => by cases hv), rfl⟩

end Effects.Prog
