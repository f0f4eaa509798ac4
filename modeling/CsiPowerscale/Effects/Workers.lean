import Mathlib.Logic.Relation
import Mathlib.Tactic.ByContra
import Mathlib.Algebra.BigOperators.Fin
import Mathlib.Algebra.Order.BigOperators.Group.Finset
import Mathlib.Data.Multiset.Basic
import Mathlib.Algebra.Order.Group.Multiset
import Mathlib.Data.Multiset.MapFold
import Mathlib.Data.Multiset.UnionInter

namespace Effects

section

open Relation

variable {S : Type} {step : S → S → Prop} {I done : S → Prop} {size : S → Nat} {s t : S}

/-- Under the invariant `I`, every step makes the state smaller, and there is a step until the
system is done. -/
structure Completes (step : S → S → Prop) (I done : S → Prop) (size : S → Nat) : Prop where
  keeps : ∀ {s t}, I s → step s t → I t
  shrinks : ∀ {s t}, I s → step s t → size t < size s
  advances : ∀ {s}, I s → ¬ done s → ∃ t, step s t

def Endless (step : S → S → Prop) (s : S) : Prop :=
  ∃ f : Nat → S, f 0 = s ∧ ∀ n, step (f n) (f (n + 1))

namespace Completes

theorem invariant (h : Completes step I done size) (hs : I s) (hrun : ReflTransGen step s t) :
    I t := by
  induction hrun with
  | refl => exact hs
  | tail _ hstep ih => exact h.keeps ih hstep

theorem not_endless (h : Completes step I done size) (hs : I s) : ¬ Endless step s := by
  rintro ⟨f, rfl, hf⟩
  have hI : ∀ n, I (f n) := by
    intro n
    induction n with
    | zero => exact hs
    | succ n ih => exact h.keeps ih (hf n)
  -- after `n` steps the state is smaller by `n`
  have hsize : ∀ n, size (f n) + n ≤ size (f 0) := by
    intro n
    induction n with
    | zero => exact Nat.le_refl _
    | succ n ih =>
      have hlt := h.shrinks (hI n) (hf n)
      omega
  have hlast := hsize (size (f 0) + 1)
  omega

theorem reaches_done (h : Completes step I done size) (hs : I s) :
    ∃ t, ReflTransGen step s t ∧ done t := by
  induction hn : size s using Nat.strongRecOn generalizing s with
  | ind n ih =>
    by_cases hdone : done s
    · exact ⟨s, .refl, hdone⟩
    · obtain ⟨u, hu⟩ := h.advances hs hdone
      obtain ⟨t, hrun, ht⟩ := ih (size u) (hn ▸ h.shrinks hs hu) (h.keeps hs hu) rfl
      exact ⟨t, .head hu hrun, ht⟩

end Completes

end

inductive Hand (ι ρ : Type)
  | ready
  | holding (i : ι)
  | reporting (r : ρ)
  | stopped
  deriving DecidableEq

/-- The items not sent, those in the channel and whether it is closed, the workers, the items
treated, and the results before and after they were collected. -/
structure Crew (n : Nat) (ι ρ : Type) where
  unsent : List ι
  queue : List ι
  closed : Bool
  hands : Fin n → Hand ι ρ
  treated : List ι
  results : List ρ
  collected : List ρ

/-- How many items the channel holds and how many results may wait, and whether the sender collects
the results after closing the channel. -/
structure CrewShape where
  queueSize : Nat
  resultsSize : Nat
  collects : Bool

namespace Crew

variable {n : Nat} {ι ρ : Type}

def start (n : Nat) (ρ : Type) (items : List ι) : Crew n ι ρ where
  unsent := items
  queue := []
  closed := false
  hands := fun _ => .ready
  treated := []
  results := []
  collected := []

def setHand (c : Crew n ι ρ) (w : Fin n) (h : Hand ι ρ) : Crew n ι ρ :=
  { c with hands := Function.update c.hands w h }

@[simp] theorem setHand_self (c : Crew n ι ρ) (w : Fin n) (h : Hand ι ρ) :
    (c.setHand w h).hands w = h := Function.update_self ..

theorem setHand_of_ne {w j : Fin n} (hj : j ≠ w) (c : Crew n ι ρ) (h : Hand ι ρ) :
    (c.setHand w h).hands j = c.hands j := Function.update_of_ne hj ..

/-- The steps of the sender and of the workers, which treat an item with `f`. An item may go from
the sender to a ready worker without a place in the channel. -/
inductive Step (shape : CrewShape) (f : ι → ρ) : Crew n ι ρ → Crew n ι ρ → Prop
  | send (c i unsent) : c.unsent = i :: unsent → c.queue.length < shape.queueSize →
    Step shape f c { c with unsent := unsent, queue := c.queue ++ [i] }
  | hand (c i unsent w) : c.unsent = i :: unsent → c.queue = [] → c.hands w = .ready →
    Step shape f c ({ c with unsent := unsent }.setHand w (.holding i))
  | close (c) : c.unsent = [] → c.closed = false → Step shape f c { c with closed := true }
  | take (c i queue w) : c.queue = i :: queue → c.hands w = .ready →
    Step shape f c ({ c with queue := queue }.setHand w (.holding i))
  | treat (c i w) : c.hands w = .holding i →
    Step shape f c ({ c with treated := c.treated ++ [i] }.setHand w (.reporting (f i)))
  | report (c r w) : c.hands w = .reporting r → c.results.length < shape.resultsSize →
    Step shape f c ({ c with results := c.results ++ [r] }.setHand w .ready)
  | stop (c w) : c.hands w = .ready → c.queue = [] → c.closed = true →
    Step shape f c (c.setHand w .stopped)
  | collect (c r results) : shape.collects = true → c.closed = true → c.results = r :: results →
    Step shape f c { c with results := results, collected := c.collected ++ [r] }

end Crew

namespace Hand

variable {ι ρ : Type}

def held : Hand ι ρ → Multiset ι
  | holding i => {i}
  | _ => 0

def reported : Hand ι ρ → Multiset ρ
  | reporting r => {r}
  | _ => 0

def weight : Hand ι ρ → Nat
  | ready => 1
  | holding _ => 4
  | reporting _ => 3
  | stopped => 0

end Hand

theorem sum_update [AddCommMonoid M] (g : α → M) (x : Fin n → α) (w : Fin n) (a : α) :
    ∑ j, g (Function.update x w a j) + g (x w) = ∑ j, g (x j) + g a := by
  rw [← Finset.add_sum_erase _ _ (Finset.mem_univ w),
    ← Finset.add_sum_erase _ (fun j => g (x j)) (Finset.mem_univ w), Function.update_self]
  have hrest : ∑ j ∈ Finset.univ.erase w, g (Function.update x w a j) =
      ∑ j ∈ Finset.univ.erase w, g (x j) := by
    apply Finset.sum_congr rfl
    intro j hj
    rw [Function.update_of_ne (Finset.ne_of_mem_erase hj)]
  rw [hrest]
  ac_rfl

namespace Crew

variable {n : Nat} {ι ρ : Type} {shape : CrewShape} {f : ι → ρ} {items : List ι} {c t : Crew n ι ρ}

def places (c : Crew n ι ρ) : Multiset ι :=
  c.treated + ∑ w, (c.hands w).held + c.queue + c.unsent

def outcomes (c : Crew n ι ρ) : Multiset ρ :=
  c.collected + c.results + ∑ w, (c.hands w).reported

/-- Every item is in one place, and so is the result of every item that was treated. -/
structure Sound (shape : CrewShape) (f : ι → ρ) (items : List ι) (c : Crew n ι ρ) : Prop where
  everyItem : c.places = items
  everyResult : c.outcomes = (c.treated : Multiset ι).map f
  closed : c.closed = true → c.unsent = []
  stopped : ∀ w, c.hands w = .stopped → c.closed = true ∧ c.queue = []
  collected : shape.collects = false → c.collected = []

def size (c : Crew n ι ρ) : Nat :=
  6 * c.unsent.length + 5 * c.queue.length + ∑ w, (c.hands w).weight + c.results.length +
    (!c.closed).toNat

structure Over (shape : CrewShape) (c : Crew n ι ρ) : Prop where
  closed : c.closed = true
  stopped : ∀ w, c.hands w = .stopped
  collected : shape.collects = true → c.results = []

theorem sound_start (n : Nat) (shape : CrewShape) (f : ι → ρ) (items : List ι) :
    (start n ρ items).Sound shape f items where
  everyItem := by simp [places, start, Hand.held]
  everyResult := by simp [outcomes, start, Hand.reported]
  closed := by simp [start]
  stopped := by simp [start]
  collected := by simp [start]

theorem places_setHand (c : Crew n ι ρ) (w : Fin n) (h : Hand ι ρ) :
    (c.setHand w h).places + (c.hands w).held = c.places + h.held := by
  have hsum := sum_update Hand.held c.hands w h
  calc (c.setHand w h).places + (c.hands w).held
      = c.treated + (∑ j, (Function.update c.hands w h j).held + (c.hands w).held) + c.queue +
          c.unsent := by
        simp only [places, setHand]
        ac_rfl
    _ = c.places + h.held := by
        rw [hsum, places]
        ac_rfl

theorem outcomes_setHand (c : Crew n ι ρ) (w : Fin n) (h : Hand ι ρ) :
    (c.setHand w h).outcomes + (c.hands w).reported = c.outcomes + h.reported := by
  have hsum := sum_update Hand.reported c.hands w h
  calc (c.setHand w h).outcomes + (c.hands w).reported
      = c.collected + c.results +
          (∑ j, (Function.update c.hands w h j).reported + (c.hands w).reported) := by
        simp only [outcomes, setHand]
        ac_rfl
    _ = c.outcomes + h.reported := by
        rw [hsum, outcomes]
        ac_rfl

theorem size_setHand (c : Crew n ι ρ) (w : Fin n) (h : Hand ι ρ) :
    (c.setHand w h).size + (c.hands w).weight = c.size + h.weight := by
  have hsum := sum_update Hand.weight c.hands w h
  simp only [size, setHand]
  omega

theorem Step.size_lt (h : Step shape f c t) : t.size < c.size := by
  cases h with
  | send i unsent hunsent =>
    simp [size, hunsent]
    omega
  | hand i unsent w hunsent _ hw =>
    have hsize := size_setHand { c with unsent := unsent } w (.holding i)
    rw [hw] at hsize
    have hrest : Crew.size { c with unsent := unsent } + 6 = c.size := by
      simp only [size, hunsent, List.length_cons]
      omega
    simp only [Hand.weight] at hsize
    omega
  | close _ hclosed => simp [size, hclosed]
  | take i queue w hqueue hw =>
    have hsize := size_setHand { c with queue := queue } w (.holding i)
    rw [hw] at hsize
    have hrest : Crew.size { c with queue := queue } + 5 = c.size := by
      simp only [size, hqueue, List.length_cons]
      omega
    simp only [Hand.weight] at hsize
    omega
  | treat i w hw =>
    have hsize := size_setHand { c with treated := c.treated ++ [i] } w (.reporting (f i))
    rw [hw] at hsize
    have hrest : Crew.size { c with treated := c.treated ++ [i] } = c.size := rfl
    simp only [Hand.weight] at hsize
    omega
  | report r w hw =>
    have hsize := size_setHand { c with results := c.results ++ [r] } w .ready
    rw [hw] at hsize
    have hrest : Crew.size { c with results := c.results ++ [r] } = c.size + 1 := by
      simp only [size, List.length_append, List.length_singleton]
      omega
    simp only [Hand.weight] at hsize
    omega
  | stop w hw =>
    have hsize := size_setHand c w .stopped
    rw [hw] at hsize
    simp only [Hand.weight] at hsize
    omega
  | collect r results _ _ hresults => simp [size, hresults]

theorem Step.places_eq (h : Step shape f c t) : t.places = c.places := by
  cases h with
  | send i unsent hunsent =>
    simp only [places, hunsent, ← Multiset.coe_add, ← Multiset.cons_coe, ← Multiset.singleton_add]
    ac_rfl
  | hand i unsent w hunsent _ hw =>
    have hmove := places_setHand { c with unsent := unsent } w (.holding i)
    rw [hw] at hmove
    simp only [Hand.held, add_zero] at hmove
    rw [hmove]
    simp only [places, hunsent, ← Multiset.cons_coe, ← Multiset.singleton_add]
    ac_rfl
  | close => rfl
  | take i queue w hqueue hw =>
    have hmove := places_setHand { c with queue := queue } w (.holding i)
    rw [hw] at hmove
    simp only [Hand.held, add_zero] at hmove
    rw [hmove]
    simp only [places, hqueue, ← Multiset.cons_coe, ← Multiset.singleton_add]
    ac_rfl
  | treat i w hw =>
    have hmove := places_setHand { c with treated := c.treated ++ [i] } w (.reporting (f i))
    rw [hw] at hmove
    simp only [Hand.held, add_zero] at hmove
    rw [← add_left_inj, hmove]
    simp only [places, ← Multiset.coe_add, Multiset.coe_singleton]
    ac_rfl
  | report r w hw =>
    have hmove := places_setHand { c with results := c.results ++ [r] } w .ready
    rw [hw] at hmove
    simp only [Hand.held, add_zero] at hmove
    exact hmove
  | stop w hw =>
    have hmove := places_setHand c w .stopped
    rw [hw] at hmove
    simp only [Hand.held, add_zero] at hmove
    exact hmove
  | collect => rfl

theorem Step.outcomes_eq (h : Step shape f c t) (hc : c.outcomes = (c.treated : Multiset ι).map f) :
    t.outcomes = (t.treated : Multiset ι).map f := by
  cases h with
  | send | close => exact hc
  | hand i unsent w _ _ hw =>
    have hmove := outcomes_setHand { c with unsent := unsent } w (.holding i)
    rw [hw] at hmove
    exact (add_right_cancel hmove).trans hc
  | take i queue w _ hw =>
    have hmove := outcomes_setHand { c with queue := queue } w (.holding i)
    rw [hw] at hmove
    exact (add_right_cancel hmove).trans hc
  | treat i w hw =>
    have hmove := outcomes_setHand { c with treated := c.treated ++ [i] } w (.reporting (f i))
    rw [hw] at hmove
    simp only [Hand.reported, add_zero] at hmove
    have hsame : outcomes { c with treated := c.treated ++ [i] } = c.outcomes := rfl
    rw [hmove, hsame, hc]
    simp [setHand, ← Multiset.coe_add]
  | report r w hw =>
    have hmove := outcomes_setHand { c with results := c.results ++ [r] } w .ready
    rw [hw] at hmove
    have hmore : outcomes { c with results := c.results ++ [r] } = c.outcomes + {r} := by
      simp only [outcomes, ← Multiset.coe_add, Multiset.coe_singleton]
      ac_rfl
    rw [hmore] at hmove
    simp only [Hand.reported, add_zero, add_left_inj] at hmove
    exact hmove.trans hc
  | stop w hw =>
    have hmove := outcomes_setHand c w .stopped
    rw [hw] at hmove
    exact (add_right_cancel hmove).trans hc
  | collect r results _ _ hr =>
    rw [← hc]
    simp only [outcomes, hr, ← Multiset.coe_add, ← Multiset.cons_coe, ← Multiset.singleton_add]
    ac_rfl

theorem stopped_setHand {w j : Fin n} {h : Hand ι ρ} (hh : h ≠ .stopped)
    (hj : (c.setHand w h).hands j = .stopped) : c.hands j = .stopped := by
  by_cases hjw : j = w
  · subst hjw
    rw [setHand_self] at hj
    exact absurd hj hh
  · rwa [setHand_of_ne hjw] at hj

theorem Step.sound (h : Step shape f c t) (hc : c.Sound shape f items) : t.Sound shape f items := by
  have hplaces : t.places = items := h.places_eq.trans hc.everyItem
  have houtcomes := h.outcomes_eq hc.everyResult
  cases h with
  | send i unsent hunsent =>
    -- the channel is not closed before the last item is sent
    have hopen : c.closed ≠ true := fun h => by simp [hc.closed h] at hunsent
    exact ⟨hplaces, houtcomes, fun h => absurd h hopen,
      fun w hw => absurd (hc.stopped w hw).1 hopen, hc.collected⟩
  | hand i unsent w hunsent =>
    have hopen : c.closed ≠ true := fun h => by simp [hc.closed h] at hunsent
    exact ⟨hplaces, houtcomes, fun h => absurd h hopen,
      fun j hj => absurd (hc.stopped j (stopped_setHand (by simp) hj)).1 hopen, hc.collected⟩
  | close hunsent =>
    exact ⟨hplaces, houtcomes, fun _ => hunsent, fun w hw => ⟨rfl, (hc.stopped w hw).2⟩,
      hc.collected⟩
  | take i queue w hqueue =>
    refine ⟨hplaces, houtcomes, hc.closed, fun j hj => ?_, hc.collected⟩
    have hempty := (hc.stopped j (stopped_setHand (by simp) hj)).2
    simp [hempty] at hqueue
  | treat | report =>
    exact ⟨hplaces, houtcomes, hc.closed, fun j hj => hc.stopped j (stopped_setHand (by simp) hj),
      hc.collected⟩
  | stop w _ hqueue hclosed =>
    exact ⟨hplaces, houtcomes, hc.closed, fun _ _ => ⟨hclosed, hqueue⟩, hc.collected⟩
  | collect r results hcollects =>
    exact ⟨hplaces, houtcomes, hc.closed, hc.stopped, fun h => by simp [hcollects] at h⟩

theorem Sound.of_over (h : c.Sound shape f items) (hn : 0 < n) (hover : c.Over shape) :
    c.treated.Perm items ∧ (c.collected ++ c.results).Perm (items.map f) := by
  have hheld : ∑ w, (c.hands w).held = 0 := by simp [hover.stopped, Hand.held]
  have hreported : ∑ w, (c.hands w).reported = 0 := by simp [hover.stopped, Hand.reported]
  have hqueue := (h.stopped ⟨0, hn⟩ (hover.stopped _)).2
  have htreated : (c.treated : Multiset ι) = items := by
    simpa [places, hheld, hqueue, h.closed hover.closed] using h.everyItem
  have hresults : ((c.collected ++ c.results : List ρ) : Multiset ρ) = (items : Multiset ι).map f := by
    rw [← htreated, ← h.everyResult, outcomes, hreported, add_zero, Multiset.coe_add]
  exact ⟨Multiset.coe_eq_coe.1 htreated, Multiset.coe_eq_coe.1 hresults⟩

theorem Sound.of_collected (h : c.Sound shape f items) (hlen : c.collected.length = items.length) :
    c.treated.Perm items ∧ c.collected.Perm (items.map f) := by
  have hcount := congrArg Multiset.card h.everyItem
  have houtcomes := congrArg Multiset.card h.everyResult
  simp only [places, outcomes, Multiset.card_add, Multiset.coe_card, Multiset.card_map]
    at hcount houtcomes
  have hheld : ∑ w, (c.hands w).held = 0 := Multiset.card_eq_zero.1 (by omega)
  have hreported : ∑ w, (c.hands w).reported = 0 := Multiset.card_eq_zero.1 (by omega)
  have hqueue : c.queue = [] := List.length_eq_zero_iff.1 (by omega)
  have hunsent : c.unsent = [] := List.length_eq_zero_iff.1 (by omega)
  have hresults : c.results = [] := List.length_eq_zero_iff.1 (by omega)
  have htreated : (c.treated : Multiset ι) = items := by
    simpa [places, hheld, hqueue, hunsent] using h.everyItem
  have hcollected : (c.collected : Multiset ρ) = (items : Multiset ι).map f := by
    simpa [outcomes, hreported, hresults, htreated] using h.everyResult
  exact ⟨Multiset.coe_eq_coe.1 htreated, Multiset.coe_eq_coe.1 hcollected⟩

theorem Sound.results_le (h : c.Sound shape f items) :
    c.collected.length + c.results.length + ∑ w, (c.hands w).reported.card ≤ items.length := by
  have htreated := congrArg Multiset.card h.everyItem
  have houtcomes := congrArg Multiset.card h.everyResult
  simp only [places, outcomes, Multiset.card_add, Multiset.coe_card, Multiset.card_map,
    Multiset.card_sum] at htreated houtcomes
  omega

theorem Sound.hand_moves (h : c.Sound shape f items) (hsize : items.length ≤ shape.resultsSize) (w : Fin n) :
    c.hands w = .stopped ∨ (c.hands w = .ready ∧ c.queue = [] ∧ c.closed = false) ∨
      ∃ t, Step shape f c t ∧ t.hands w ≠ c.hands w := by
  have hne (c : Crew n ι ρ) (a : Hand ι ρ) (ha : a ≠ c.hands w) :
      (c.setHand w a).hands w ≠ c.hands w := by
    rwa [setHand_self]
  cases hw : c.hands w with
  | stopped => exact .inl rfl
  | holding i => exact .inr (.inr ⟨_, .treat c i w hw, hw ▸ hne _ _ (by simp [hw])⟩)
  | reporting r =>
    have hone : 1 ≤ ∑ j, (c.hands j).reported.card := by
      have hle := Finset.single_le_sum (f := fun j => (c.hands j).reported.card)
        (fun _ _ => Nat.zero_le _) (Finset.mem_univ w)
      simpa [hw, Hand.reported] using hle
    have hle := h.results_le
    exact .inr (.inr ⟨_, .report c r w hw (by omega), hw ▸ hne _ _ (by simp [hw])⟩)
  | ready =>
    cases hqueue : c.queue with
    | cons i queue => exact .inr (.inr ⟨_, .take c i queue w hqueue hw, hw ▸ hne _ _ (by simp [hw])⟩)
    | nil =>
      cases hclosed : c.closed with
      | false => exact .inr (.inl ⟨rfl, rfl, rfl⟩)
      | true => exact .inr (.inr ⟨_, .stop c w hw hqueue hclosed, hw ▸ hne _ _ (by simp [hw])⟩)

/-- With a worker and room for all results, no run gets stuck before all workers have stopped, and
every run comes to an end. -/
theorem completes (hn : 0 < n) (hsize : items.length ≤ shape.resultsSize) (f : ι → ρ) :
    Completes (Step (n := n) shape f) (Sound shape f items) (Over shape) size where
  keeps hc hstep := hstep.sound hc
  shrinks _ hstep := hstep.size_lt
  advances := by
    intro c hc hover
    by_cases hmoves : ∃ w t, Step shape f c t ∧ t.hands w ≠ c.hands w
    · obtain ⟨w, t, hstep, _⟩ := hmoves
      exact ⟨t, hstep⟩
    have hwaits : ∀ w, c.hands w = .stopped ∨ (c.hands w = .ready ∧ c.queue = [] ∧
        c.closed = false) := by
      intro w
      rcases hc.hand_moves hsize w with hw | hw | ⟨t, ht⟩
      · exact .inl hw
      · exact .inr hw
      · exact absurd ⟨w, t, ht⟩ hmoves
    cases hclosed : c.closed with
    | true =>
      have hstopped : ∀ w, c.hands w = .stopped := by
        intro w
        rcases hwaits w with hw | ⟨_, _, hopen⟩
        · exact hw
        · simp [hclosed] at hopen
      -- only results can be left
      cases hresults : c.results with
      | nil => exact absurd ⟨hclosed, hstopped, fun _ => hresults⟩ hover
      | cons r results =>
        cases hcollects : shape.collects with
        | false => exact absurd ⟨hclosed, hstopped, fun h => by simp [hcollects] at h⟩ hover
        | true => exact ⟨_, .collect c r results hcollects hclosed hresults⟩
    | false =>
      cases hunsent : c.unsent with
      | nil => exact ⟨_, .close c hunsent hclosed⟩
      | cons i unsent =>
        rcases hwaits ⟨0, hn⟩ with hw | ⟨hw, hqueue, _⟩
        · simp [(hc.stopped _ hw).1] at hclosed
        · exact ⟨_, .hand c i unsent ⟨0, hn⟩ hunsent hqueue hw⟩

/-- The pool between two items, when its first worker alone has done the work. -/
def between (n : Nat) (f : ι → ρ) (done rest : List ι) : Crew n ι ρ :=
  { start n ρ rest with treated := done, results := done.map f }

theorem between_next (w : Fin n) (hroom : done.length < shape.resultsSize) :
    Relation.ReflTransGen (Step shape f) (between n f done (i :: rest))
      (between n f (done ++ [i]) rest) := by
  have hfit : (done.map f).length < shape.resultsSize := by rwa [List.length_map]
  refine .head (.hand _ i rest w rfl rfl rfl) (.head (.treat _ i w (setHand_self ..)) ?_)
  have hlast : between n f (done ++ [i]) rest =
      Crew.setHand { Crew.setHand { Crew.setHand { between n f done rest with unsent := rest } w
        (.holding i) with treated := done ++ [i] } w (.reporting (f i)) with
          results := done.map f ++ [f i] } w .ready := by
    simp [between, setHand, start]
  rw [hlast]
  exact .single (.report _ (f i) w (setHand_self ..) hfit)

theorem between_run (w : Fin n) (done rest : List ι)
    (hroom : (done ++ rest).length ≤ shape.resultsSize) :
    Relation.ReflTransGen (Step shape f) (between n f done rest) (between n f (done ++ rest) []) := by
  induction rest generalizing done with
  | nil => rw [List.append_nil]
  | cons i rest ih =>
    rw [List.length_append, List.length_cons] at hroom
    have hrest := ih (done ++ [i]) (by simp; omega)
    rw [List.append_assoc] at hrest
    exact (between_next w (by omega)).trans hrest

theorem collects_all (hcollects : shape.collects = true) (hclosed : c.closed = true) :
    Relation.ReflTransGen (Step shape f) c
      { c with results := [], collected := c.collected ++ c.results } := by
  obtain ⟨unsent, queue, closed, hands, treated, results, collected⟩ := c
  induction results generalizing collected with
  | nil => simpa using .refl
  | cons r results ih =>
    have hrest := ih (collected ++ [r]) hclosed
    simp only [List.append_assoc, List.singleton_append] at hrest
    exact .head (.collect _ r results hcollects hclosed rfl) hrest

/-- One worker may do all the work, in the order of the items. -/
theorem one_by_one (hn : 0 < n) (hsize : items.length ≤ shape.resultsSize)
    (hcollects : shape.collects = true) (f : ι → ρ) :
    ∃ c, Relation.ReflTransGen (Step shape f) (start n ρ items) c ∧ c.closed = true ∧
      c.treated = items ∧ c.collected = items.map f := by
  have hwork : Relation.ReflTransGen (Step shape f) (start n ρ items) (between n f items []) :=
    between_run ⟨0, hn⟩ [] items hsize
  have hclosed := hwork.tail (.close _ rfl rfl)
  exact ⟨_, hclosed.trans (collects_all hcollects rfl), rfl, rfl, rfl⟩

end Crew

/-- A run with the items that it has ended, in the order in which it did. -/
inductive Logged (step : S → S → Prop) (ends : S → S → J → Prop) (s : S) : List J → S → Prop
  | refl : Logged step ends s [] s
  | quiet : Logged step ends s log t → step t u → (∀ j, ¬ends t u j) → Logged step ends s log u
  | ends : Logged step ends s log t → step t u → ends t u j → Logged step ends s (log ++ [j]) u

theorem Logged.of_run {step : S → S → Prop} (ends : S → S → J → Prop)
    (h : Relation.ReflTransGen step s t) : ∃ log, Logged step ends s log t := by
  induction h with
  | refl => exact ⟨[], .refl⟩
  | @tail u t _ hstep ih =>
    obtain ⟨log, hlog⟩ := ih
    by_cases hends : ∃ j, ends u t j
    · obtain ⟨j, hj⟩ := hends
      exact ⟨_, .ends hlog hstep hj⟩
    · exact ⟨_, .quiet hlog hstep fun j hj => hends ⟨j, hj⟩⟩

/-- The items of a system: those left and those begun, the values under their keys, what begin and
end of an item make of its value, and whether the work was stopped. -/
structure WorkPool (S J Q V : Type) where
  left : S → Multiset J
  begun : S → Multiset J
  value : S → Q → V
  key : J → Q
  atBegin : J → V → V
  atEnd : J → V → V
  stopped : S → Prop
  ends : S → S → J → Prop

namespace WorkPool

variable {S J Q V : Type} {P : WorkPool S J Q V} {v : Q → V} {items rest : Multiset J} {log : List J}
  {s t : S} {j : J}

/-- What a step may do: leave all items as they are, stop the work, begin an item or end one. -/
inductive Turn [DecidableEq Q] (P : WorkPool S J Q V) (s t : S) : Prop
  | idle : P.left t = P.left s → P.begun t = P.begun s → P.value t = P.value s →
    (P.stopped s → P.stopped t) → (∀ i, ¬P.ends s t i) → Turn P s t
  | stop : P.left t ≤ P.left s → P.begun t ≤ P.begun s → P.value t = P.value s → P.stopped t →
    (∀ i, ¬P.ends s t i) → Turn P s t
  | start (j : J) : P.left s = j ::ₘ P.left t → P.begun t = j ::ₘ P.begun s →
    P.value t = Function.update (P.value s) (P.key j) (P.atBegin j (P.value s (P.key j))) →
    (P.stopped s → P.stopped t) → (∀ i, ¬P.ends s t i) → Turn P s t
  | finish (j : J) : P.left t = P.left s → P.begun s = j ::ₘ P.begun t →
    P.value t = Function.update (P.value s) (P.key j) (P.atEnd j (P.value s (P.key j))) →
    (P.stopped s → P.stopped t) → (∀ i, P.ends s t i ↔ i = j) → Turn P s t

/-- Every item is left, begun or ended, unless the work was stopped, and its value is as far. -/
structure Even (P : WorkPool S J Q V) (v : Q → V) (items : Multiset J) (log : List J) (s : S) :
    Prop where
  account : ∃ lost, (log : Multiset J) + P.begun s + P.left s + lost = items ∧
    (¬P.stopped s → lost = 0)
  ofLeft : ∀ i ∈ P.left s, P.value s (P.key i) = v (P.key i)
  ofBegun : ∀ i ∈ P.begun s, P.value s (P.key i) = P.atBegin i (v (P.key i))
  ofEnded : ∀ i ∈ log, P.value s (P.key i) = P.atEnd i (P.atBegin i (v (P.key i)))
  ofOther : ∀ q, q ∉ items.map P.key → P.value s q = v q

theorem even_start (h : P.begun s = 0) : P.Even (P.value s) (P.left s) [] s where
  account := ⟨0, by simp [h], fun _ => rfl⟩
  ofLeft := fun _ _ => rfl
  ofBegun := by simp [h]
  ofEnded := by simp
  ofOther := fun _ _ => rfl

theorem Even.key_ne (h : P.Even v items log s) (hitems : (items.map P.key).Nodup)
    (hall : (log : Multiset J) + P.begun s + P.left s = j ::ₘ rest) :
    P.key j ∈ items.map P.key ∧ ∀ i ∈ rest, P.key i ≠ P.key j := by
  obtain ⟨lost, hsum, -⟩ := h.account
  rw [hall, Multiset.cons_add] at hsum
  rw [← hsum, Multiset.map_cons] at hitems ⊢
  refine ⟨Multiset.mem_cons_self _ _, fun i hi heq => ?_⟩
  exact (Multiset.nodup_cons.1 hitems).1 (heq ▸ Multiset.mem_map_of_mem _ (Multiset.mem_add.2 (.inl hi)))

variable [DecidableEq Q]

theorem Turn.stops (h : P.Turn s t) (hs : P.stopped s) : P.stopped t := by
  cases h with
  | idle _ _ _ hstop => exact hstop hs
  | stop _ _ _ hstop => exact hstop
  | start _ _ _ _ hstop => exact hstop hs
  | finish _ _ _ _ hstop => exact hstop hs

theorem Turn.ends_unique {i : J} (h : P.Turn s t) (hi : P.ends s t i) (hj : P.ends s t j) : i = j := by
  cases h with
  | idle _ _ _ _ hquiet => exact absurd hi (hquiet i)
  | stop _ _ _ _ hquiet => exact absurd hi (hquiet i)
  | start _ _ _ _ _ hquiet => exact absurd hi (hquiet i)
  | finish _ _ _ _ _ hends => exact ((hends i).1 hi).trans ((hends j).1 hj).symm

theorem Even.quiet (h : P.Even v items log s) (hitems : (items.map P.key).Nodup) (hturn : P.Turn s t)
    (hquiet : ∀ i, ¬P.ends s t i) : P.Even v items log t := by
  obtain ⟨lost, hsum, hlost⟩ := h.account
  have hgoes : ¬P.stopped t → lost = 0 := fun hgo => hlost fun hs => hgo (hturn.stops hs)
  cases hturn with
  | idle hleft hbegun hvalue _ _ =>
    obtain ⟨_, h₁, h₂, h₃, h₄⟩ := h
    rw [← hvalue] at h₁ h₂ h₃ h₄
    exact ⟨⟨lost, by rw [hleft, hbegun]; exact hsum, hgoes⟩, hleft ▸ h₁, hbegun ▸ h₂, h₃, h₄⟩
  | stop hleft hbegun hvalue hstop _ =>
    obtain ⟨x, hx⟩ := Multiset.le_iff_exists_add.1 hleft
    obtain ⟨y, hy⟩ := Multiset.le_iff_exists_add.1 hbegun
    refine ⟨⟨y + x + lost, ?_, fun hgo => absurd hstop hgo⟩, ?_, ?_, ?_, ?_⟩
    · rw [← hsum, hx, hy]
      ac_rfl
    · exact fun i hi => hvalue ▸ h.ofLeft i (Multiset.mem_of_le hleft hi)
    · exact fun i hi => hvalue ▸ h.ofBegun i (Multiset.mem_of_le hbegun hi)
    · exact hvalue ▸ h.ofEnded
    · exact hvalue ▸ h.ofOther
  | start j hleft hbegun hvalue _ _ =>
    obtain ⟨hmem, hne⟩ := h.key_ne hitems (by rw [hleft, Multiset.add_cons])
    have hsame {i : J} (hi : i ∈ (log : Multiset J) + P.begun s + P.left t) :
        P.value t (P.key i) = P.value s (P.key i) := by
      rw [hvalue, Function.update_of_ne (hne i hi)]
    simp only [Multiset.mem_add] at hsame
    refine ⟨⟨lost, ?_, hgoes⟩, fun i hi => ?_, fun i hi => ?_, fun i hi => ?_, fun q hq => ?_⟩
    · rw [← hsum, hleft, hbegun, Multiset.add_cons, Multiset.add_cons, Multiset.cons_add]
    · rw [hsame (.inr hi)]
      exact h.ofLeft i (hleft ▸ Multiset.mem_cons_of_mem hi)
    · rw [hbegun] at hi
      rcases Multiset.mem_cons.1 hi with rfl | hi
      · rw [hvalue, Function.update_self, h.ofLeft i (hleft ▸ Multiset.mem_cons_self _ _)]
      · rw [hsame (.inl (.inr hi)), h.ofBegun i hi]
    · rw [hsame (.inl (.inl hi)), h.ofEnded i hi]
    · have hother : q ≠ P.key j := fun heq => hq (heq ▸ hmem)
      rw [hvalue, Function.update_of_ne hother, h.ofOther q hq]
  | finish j _ _ _ _ hends => exact absurd ((hends j).2 rfl) (hquiet j)

theorem Even.ends (h : P.Even v items log s) (hitems : (items.map P.key).Nodup) (hturn : P.Turn s t)
    (hj : P.ends s t j) : P.Even v items (log ++ [j]) t := by
  obtain ⟨lost, hsum, hlost⟩ := h.account
  have hgoes : ¬P.stopped t → lost = 0 := fun hgo => hlost fun hs => hgo (hturn.stops hs)
  cases hturn with
  | idle _ _ _ _ hquiet => exact absurd hj (hquiet j)
  | stop _ _ _ _ hquiet => exact absurd hj (hquiet j)
  | start _ _ _ _ _ hquiet => exact absurd hj (hquiet j)
  | finish i hleft hbegun hvalue _ hends =>
    obtain rfl := (hends j).1 hj
    obtain ⟨hmem, hne⟩ := h.key_ne hitems (by rw [hbegun, Multiset.add_cons, Multiset.cons_add])
    have hsame {i : J} (hi : i ∈ (log : Multiset J) + P.begun t + P.left s) :
        P.value t (P.key i) = P.value s (P.key i) := by
      rw [hvalue, Function.update_of_ne (hne i hi)]
    simp only [Multiset.mem_add] at hsame
    refine ⟨⟨lost, ?_, hgoes⟩, fun i hi => ?_, fun i hi => ?_, fun i hi => ?_, fun q hq => ?_⟩
    · rw [← hsum, hleft, hbegun, ← Multiset.coe_add, Multiset.coe_singleton, ← Multiset.singleton_add]
      ac_rfl
    · rw [hsame (.inr (hleft ▸ hi)), h.ofLeft i (hleft ▸ hi)]
    · rw [hsame (.inl (.inr hi))]
      exact h.ofBegun i (hbegun ▸ Multiset.mem_cons_of_mem hi)
    · rcases List.mem_append.1 hi with hi | hi
      · rw [hsame (.inl (.inl hi)), h.ofEnded i hi]
      · rw [List.mem_singleton.1 hi, hvalue, Function.update_self,
          h.ofBegun j (hbegun ▸ Multiset.mem_cons_self _ _)]
    · have hother : q ≠ P.key j := fun heq => hq (heq ▸ hmem)
      rw [hvalue, Function.update_of_ne hother, h.ofOther q hq]

omit [DecidableEq Q] in
theorem Even.mem_items (h : P.Even v items log s) : (∀ i ∈ log, i ∈ items) ∧ ∀ i ∈ P.left s, i ∈ items := by
  obtain ⟨lost, rfl, -⟩ := h.account
  simp only [Multiset.mem_add, Multiset.mem_coe]
  exact ⟨fun i hi => .inl (.inl (.inl hi)), fun i hi => .inl (.inr hi)⟩

omit [DecidableEq Q] in
theorem Even.left_ne (h : P.Even v items log s) (hitems : (items.map P.key).Nodup) {i : J}
    (hi : i ∈ P.left s) (hj : j ∈ log) : P.key j ≠ P.key i := by
  obtain ⟨rest, hrest⟩ := Multiset.exists_cons_of_mem hi
  refine (h.key_ne hitems (by rw [hrest, Multiset.add_cons])).2 j ?_
  exact Multiset.mem_add.2 (.inl (Multiset.mem_add.2 (.inl hj)))

/-- Under an invariant `I` of the ended items and the state, every step is such a turn. -/
structure Treats (P : WorkPool S J Q V) (step : S → S → Prop) (I : List J → S → Prop) (v : Q → V)
    (items : Multiset J) : Prop where
  keys : (items.map P.key).Nodup
  keeps : ∀ {log log' s t}, I log s → step s t → (∀ i ∈ log, i ∈ log') →
    (∀ i, P.ends s t i → i ∈ log') → I log' t
  turn : ∀ {log s t}, I log s → P.Even v items log s → step s t → P.Turn s t

variable {step : S → S → Prop} {I : List J → S → Prop}

theorem Treats.even (h : P.Treats step I (P.value s) (P.left s)) (hs : I [] s) (hbegun : P.begun s = 0)
    (hrun : Logged step P.ends s log t) : I log t ∧ P.Even (P.value s) (P.left s) log t := by
  induction hrun with
  | refl => exact ⟨hs, even_start hbegun⟩
  | quiet _ hstep hquiet ih =>
    obtain ⟨hI, heven⟩ := ih
    exact ⟨h.keeps hI hstep (fun _ hi => hi) fun i hi => absurd hi (hquiet i),
      heven.quiet h.keys (h.turn hI heven hstep) hquiet⟩
  | ends _ hstep hends ih =>
    obtain ⟨hI, heven⟩ := ih
    have hturn := h.turn hI heven hstep
    refine ⟨h.keeps hI hstep (fun _ hi => List.mem_append.2 (.inl hi)) fun i hi => ?_,
      heven.ends h.keys hturn hends⟩
    exact List.mem_append.2 (.inr (List.mem_singleton.2 (hturn.ends_unique hi hends)))

/-- What a run has come to that has nothing more to do: each item was ended once, and the values
are those of its end. -/
structure Finished (P : WorkPool S J Q V) (s : S) (log : List J) (t : S) : Prop where
  once : (log : Multiset J) = P.left s
  ended : ∀ i ∈ P.left s, P.value t (P.key i) = P.atEnd i (P.atBegin i (P.value s (P.key i)))
  other : ∀ q, q ∉ (P.left s).map P.key → P.value t q = P.value s q

omit [DecidableEq Q] in
theorem Even.finished (h : P.Even (P.value s) (P.left s) log t) (hstop : ¬P.stopped t)
    (hleft : P.left t = 0) (hbegun : P.begun t = 0) : P.Finished s log t := by
  obtain ⟨lost, hsum, hlost⟩ := h.account
  rw [hlost hstop, hleft, hbegun, Multiset.add_zero, Multiset.add_zero, Multiset.add_zero] at hsum
  exact ⟨hsum, fun i hi => h.ofEnded i (Multiset.mem_coe.1 (hsum ▸ hi)), h.ofOther⟩

end WorkPool

end Effects
