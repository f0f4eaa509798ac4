import CsiPowerscale.VolumeRequests

namespace CsiPowerscale
open GoLib

namespace Paging

structure ClusterView (α : Type) where
  total : Nat
  items : List α
  le : items.length ≤ total

variable {α : Type} {start max room : Nat} {g : ClusterView α} {gs : List (ClusterView α)}

def items (gs : List (ClusterView α)) : List α := gs.flatMap ClusterView.items

def population (gs : List (ClusterView α)) : Nat := (gs.map ClusterView.total).sum

def takeRoom (room : Nat) (items : List α) : List α := if room = 0 then items else items.take room

def gather (start max : Nat) : List (ClusterView α) → List α → Nat → List α × Nat
  | [], found, total => (found, total)
  | g :: gs, found, total =>
    if start < total + g.total then
      let found := found ++ takeRoom (max - found.length) g.items
      if start + max ≤ found.length then (found, total + g.total)
      else gather start max gs found (total + g.total)
    else gather start max gs found (total + g.total)

def page (max : Nat) (gs : List (ClusterView α)) (start : Nat) : Option (List α × Option Nat) :=
  let (found, total) := gather start max gs [] 0
  if start ≤ found.length then
    some (found.drop start, if found.drop start ≠ [] ∧ max ≠ 0 ∧ start + max < total then
      some (start + found.length) else none)
  else none

def behind (start : Nat) : List (ClusterView α) → List (ClusterView α)
  | [] => []
  | g :: gs => if start < g.total then g :: gs else behind (start - g.total) gs

def reached (room : Nat) : List (ClusterView α) → List α
  | [] => []
  | g :: gs => takeRoom room g.items ++ reached (room - g.items.length) gs

def totalUntil (n : Nat) : List (ClusterView α) → Nat
  | [] => 0
  | g :: gs => g.total + if n ≤ g.items.length then 0 else totalUntil (n - g.items.length) gs

@[simp] theorem items_nil : items ([] : List (ClusterView α)) = [] := rfl

@[simp] theorem items_cons : items (g :: gs) = g.items ++ items gs := rfl

@[simp] theorem population_nil : population ([] : List (ClusterView α)) = 0 := rfl

@[simp] theorem population_cons : population (g :: gs) = g.total + population gs := rfl

theorem takeRoom_initial (room : Nat) (l : List α) : takeRoom room l <+: l := by
  unfold takeRoom
  split
  · exact List.prefix_rfl
  · exact List.take_prefix _ _

theorem length_takeRoom_le (room : Nat) (l : List α) : (takeRoom room l).length ≤ l.length :=
  (takeRoom_initial room l).length_le

theorem room_left (room : Nat) (l : List α) :
    room - (takeRoom room l).length = room - l.length := by
  unfold takeRoom
  split
  · rfl
  · rw [List.length_take]
    omega

theorem gather_first (found : List α) (hroom : found.length < max) (total : Nat)
    (htotal : total = 0 → found = []) : gather 0 max gs found total =
      (found ++ (items gs).take (max - found.length),
        total + totalUntil (max - found.length) gs) := by
  induction gs generalizing found total with
  | nil => simp [gather, totalUntil]
  | cons g gs ih =>
    have hle := g.le
    simp only [gather, Nat.zero_add, items_cons, totalUntil]
    have hroom' : max - found.length ≠ 0 := by omega
    split
    · rw [takeRoom, if_neg hroom', List.length_append, List.length_take]
      split
      · next hfull =>
        have hmany : max - found.length ≤ g.items.length := by omega
        rw [if_pos hmany, List.take_append_of_le_length hmany]
        simp
      next hspace =>
      have hfew : g.items.length < max - found.length := by omega
      have hall : g.items.take (max - found.length) = g.items := List.take_of_length_le hfew.le
      rw [if_neg (by omega), hall, ih _ (by rw [List.length_append]; omega) _ (by omega),
        List.length_append, List.take_append, hall, ← Nat.sub_sub, List.append_assoc]
      simp only [Prod.mk.injEq, true_and]
      omega
    · next hzero =>
      have hnone : g.items = [] := List.eq_nil_of_length_eq_zero (by omega)
      obtain rfl := htotal (by omega)
      rw [ih [] hroom _ fun _ => rfl]
      simp only [hnone, List.length_nil, List.nil_append, Nat.sub_zero] at hroom' ⊢
      rw [if_neg (by omega)]
      simp only [Prod.mk.injEq, true_and]
      omega

def process (stop max : Nat) : List (ClusterView α) → List α → Nat → List α × Nat
  | [], found, total => (found, total)
  | g :: gs, found, total =>
    let found := found ++ takeRoom (max - found.length) g.items
    if stop ≤ found.length then (found, total + g.total)
    else process stop max gs found (total + g.total)

def passed (start : Nat) : List (ClusterView α) → Nat
  | [] => 0
  | g :: gs => if start < g.total then 0 else g.total + passed (start - g.total) gs

theorem gather_started (found : List α) (total : Nat) (h : start < total) :
    gather start max gs found total = process (start + max) max gs found total := by
  induction gs generalizing found total with
  | nil => rfl
  | cons g gs ih =>
    simp only [gather, process, if_pos (show start < total + g.total by omega)]
    rw [ih _ _ (by omega)]

theorem gather_behind (found : List α) (total : Nat) (h : total ≤ start) :
    gather start max gs found total = process (start + max) max (behind (start - total) gs) found
        (total + passed (start - total) gs) := by
  induction gs generalizing total with
  | nil => rfl
  | cons g gs ih =>
    by_cases hg : start < total + g.total
    · have hg' : start - total < g.total := by omega
      rw [behind, passed, if_pos hg', if_pos hg', Nat.add_zero]
      simp only [gather, process, if_pos hg]
      rw [gather_started _ _ hg]
    have hg' : ¬ start - total < g.total := by omega
    rw [behind, passed, if_neg hg', if_neg hg']
    simp only [gather, if_neg hg]
    rw [ih _ (by omega), Nat.sub_sub, Nat.add_assoc]

theorem gather_eq : gather start max gs [] 0 =
    process (start + max) max (behind start gs) [] (passed start gs) := by
  rw [gather_behind _ _ (Nat.zero_le _), Nat.sub_zero, Nat.zero_add]

theorem process_reached (stop max : Nat) (gs : List (ClusterView α)) (found : List α) (total : Nat) :
    ∃ l, (process stop max gs found total).1 = found ++ l ∧ l <+: reached (max - found.length) gs ∧
      (l = reached (max - found.length) gs ∨ stop ≤ (process stop max gs found total).1.length) := by
  induction gs generalizing found total with
  | nil => exact ⟨[], (List.append_nil _).symm, List.prefix_rfl, .inl rfl⟩
  | cons g gs ih =>
    simp only [process, reached]
    split
    · next hstop =>
      exact ⟨_, rfl, List.prefix_append _ _, .inr hstop⟩
    obtain ⟨l, hl, hinitial, hcases⟩ := ih (found ++ takeRoom (max - found.length) g.items)
      (total + g.total)
    rw [List.length_append, ← Nat.sub_sub, room_left] at hinitial hcases
    refine ⟨takeRoom (max - found.length) g.items ++ l, ?_, ?_, ?_⟩
    · rw [hl, List.append_assoc]
    · exact (List.prefix_append_right_inj _).2 hinitial
    · rcases hcases with rfl | hstop
      · exact .inl rfl
      · exact .inr hstop

theorem process_length_le (stop max : Nat) (gs : List (ClusterView α)) (found : List α) (total : Nat) :
    (process stop max gs found total).1.length + total ≤
      (process stop max gs found total).2 + found.length := by
  induction gs generalizing found total with
  | nil => exact (Nat.add_comm _ _).le
  | cons g gs ih =>
    have hle := (length_takeRoom_le (max - found.length) g.items).trans g.le
    simp only [process]
    split
    · rw [List.length_append]
      omega
    · have hrest := ih (found ++ takeRoom (max - found.length) g.items) (total + g.total)
      rw [List.length_append] at hrest
      omega

theorem process_total_le (stop max : Nat) (gs : List (ClusterView α)) (found : List α) (total : Nat) :
    total + (gs.head?.map ClusterView.total).getD 0 ≤ (process stop max gs found total).2 := by
  induction gs generalizing found total with
  | nil => exact Nat.le_refl _
  | cons g gs ih =>
    simp only [process, List.head?_cons, Option.map_some, Option.getD_some]
    split
    · exact Nat.le_refl _
    · exact (Nat.le_add_right _ _).trans (ih _ _)

theorem gather_total_lt_iff : (gather start max gs [] 0).2 < start ↔ population gs < start := by
  have hbehind : (behind start gs = [] ∧ passed start gs = population gs) ∨
      (start < passed start gs + ((behind start gs).head?.map ClusterView.total).getD 0 ∧
        start < population gs) := by
    induction gs generalizing start with
    | nil => exact .inl ⟨rfl, rfl⟩
    | cons g gs ih =>
      simp only [behind, passed, population_cons]
      split
      · next hstart =>
        simp only [List.head?_cons, Option.map_some, Option.getD_some]
        exact .inr ⟨by omega, by omega⟩
      next hstart =>
      rcases @ih (start - g.total) with ⟨hnil, hpassed⟩ | ⟨hhead, hlt⟩
      · exact .inl ⟨hnil, by omega⟩
      · exact .inr ⟨by omega, by omega⟩
  rw [gather_eq]
  rcases hbehind with ⟨hnil, hpassed⟩ | ⟨hhead, hlt⟩
  · rw [hnil, hpassed]
    exact Iff.rfl
  · have hle := process_total_le (start + max) max (behind start gs) [] (passed start gs)
    exact iff_of_false (by omega) (by omega)

def Whole (room : Nat) : List (ClusterView α) → Prop
  | [] => True
  | g :: gs => (room = 0 ∨ g.items.length ≤ room) ∧ Whole (room - g.items.length) gs

theorem takeRoom_eq_iff : (takeRoom room l).length = l.length ↔ room = 0 ∨ l.length ≤ room := by
  unfold takeRoom
  split
  · next hzero => simp [hzero]
  · next hpos =>
    rw [List.length_take, or_iff_right hpos]
    omega

theorem reached_sublist (room : Nat) (gs : List (ClusterView α)) : (reached room gs).Sublist (items gs) := by
  induction gs generalizing room with
  | nil => exact List.Sublist.refl _
  | cons g gs ih => exact (takeRoom_initial room g.items).sublist.append (ih _)

theorem whole_iff_length : Whole room gs ↔ (reached room gs).length = (items gs).length := by
  induction gs generalizing room with
  | nil => exact iff_of_true trivial rfl
  | cons g gs ih =>
    have hle := length_takeRoom_le room g.items
    have hrest := (reached_sublist (room - g.items.length) gs).length_le
    rw [Whole, ih, ← takeRoom_eq_iff]
    simp only [reached, items_cons, List.length_append]
    omega

theorem whole_zero (gs : List (ClusterView α)) : Whole 0 gs := by
  induction gs with
  | nil => trivial
  | cons g gs ih =>
    rw [Whole, Nat.zero_sub]
    exact ⟨.inl rfl, ih⟩

def EndsAt (n : Nat) (gs : List (ClusterView α)) : Prop :=
  ∃ pre suf, gs = pre ++ suf ∧ (items pre).length = n

theorem endsAt_cons_iff (hroom : 0 < room) :
    EndsAt room (g :: gs) ↔ g.items.length ≤ room ∧ EndsAt (room - g.items.length) gs := by
  constructor
  · rintro ⟨pre, suf, heq, hlen⟩
    cases pre with
    | nil => exact absurd hlen (Nat.ne_of_lt hroom)
    | cons g' pre =>
      obtain ⟨rfl, rfl⟩ := List.cons.inj heq
      rw [items_cons, List.length_append] at hlen
      exact ⟨by omega, pre, suf, rfl, by omega⟩
  · rintro ⟨hle, pre, suf, rfl, hlen⟩
    refine ⟨g :: pre, suf, rfl, ?_⟩
    rw [items_cons, List.length_append]
    omega

theorem whole_iff (hroom : 0 < room) :
    Whole room gs ↔ (items gs).length ≤ room ∨ EndsAt room gs := by
  induction gs generalizing room with
  | nil => exact iff_of_true trivial (.inl (Nat.zero_le _))
  | cons g gs ih =>
    rw [Whole, or_iff_right (by omega), endsAt_cons_iff hroom, items_cons, List.length_append]
    rcases Nat.eq_zero_or_pos (room - g.items.length) with hfull | hspace
    · have hends : EndsAt 0 gs := ⟨[], gs, rfl, rfl⟩
      rw [hfull]
      simp only [whole_zero, hends, and_true]
      omega
    rw [ih hspace]
    constructor
    · rintro ⟨hle, hall | hends⟩
      · exact .inl (by omega)
      · exact .inr ⟨hle, hends⟩
    · rintro (hall | ⟨hle, hends⟩)
      · exact ⟨by omega, .inl (by omega)⟩
      · exact ⟨hle, .inr hends⟩

theorem process_whole (stop : Nat) (found : List α) (total : Nat)
    (hwhole : Whole (max - found.length) gs) (hstop : found.length < stop) :
    (process stop max gs found total).2 = total + totalUntil (stop - found.length) gs := by
  induction gs generalizing found total with
  | nil => rfl
  | cons g gs ih =>
    obtain ⟨hg, hgs⟩ := hwhole
    have hall : takeRoom (max - found.length) g.items = g.items :=
      (takeRoom_initial _ _).eq_of_length (takeRoom_eq_iff.2 hg)
    simp only [process, totalUntil, hall]
    split
    · next hfull =>
      rw [List.length_append] at hfull
      rw [if_pos (by omega), Nat.add_zero]
    next hspace =>
    rw [List.length_append] at hspace
    rw [ih _ _ (by rwa [List.length_append, ← Nat.sub_sub]) (by rw [List.length_append]; omega),
      if_neg (by omega), List.length_append, Nat.add_assoc, Nat.sub_sub]

theorem items_behind_suffix (start : Nat) (gs : List (ClusterView α)) :
    items (behind start gs) <:+ items gs := by
  induction gs generalizing start with
  | nil => exact List.suffix_rfl
  | cons g gs ih =>
    unfold behind
    split
    · exact List.suffix_rfl
    · exact (ih _).trans (List.suffix_append _ _)

def Skips (start : Nat) (gs : List (ClusterView α)) : Prop :=
  (items (behind start gs)).length = (items gs).length

theorem Skips.of_cons (h : Skips start (g :: gs)) (hstart : ¬ start < g.total) :
    g.items = [] ∧ Skips (start - g.total) gs := by
  have hle := (items_behind_suffix (start - g.total) gs).length_le
  unfold Skips at h ⊢
  rw [behind, if_neg hstart, items_cons, List.length_append] at h
  exact ⟨List.eq_nil_of_length_eq_zero (by omega), by omega⟩

theorem Skips.totalUntil_eq (h : Skips start gs) (hn : 0 < n) :
    passed start gs + totalUntil n (behind start gs) = totalUntil n gs := by
  induction gs generalizing start with
  | nil => rfl
  | cons g gs ih =>
    by_cases hstart : start < g.total
    · rw [passed, behind, if_pos hstart, if_pos hstart, Nat.zero_add]
    obtain ⟨hnil, hrest⟩ := h.of_cons hstart
    rw [passed, behind, if_neg hstart, if_neg hstart, Nat.add_assoc, ih hrest, totalUntil, hnil,
      if_neg (by simp; omega)]
    rfl

theorem Skips.whole_iff (h : Skips start gs) : Whole room (behind start gs) ↔ Whole room gs := by
  induction gs generalizing start with
  | nil => exact Iff.rfl
  | cons g gs ih =>
    by_cases hstart : start < g.total
    · rw [behind, if_pos hstart]
    · obtain ⟨hnil, hrest⟩ := h.of_cons hstart
      rw [behind, if_neg hstart, ih hrest, Whole, hnil]
      simp

section Gather

variable (start max : Nat) (gs : List (ClusterView α))

theorem gather_reached : (gather start max gs [] 0).1 <+: reached max (behind start gs) ∧
    ((gather start max gs [] 0).1 = reached max (behind start gs) ∨
      start + max ≤ (gather start max gs [] 0).1.length) := by
  rw [gather_eq]
  obtain ⟨l, hl, hinitial, hcases⟩ := process_reached (start + max) max (behind start gs) []
    (passed start gs)
  rw [List.length_nil, Nat.sub_zero] at hinitial hcases
  rw [List.nil_append] at hl
  rw [← hl] at hinitial hcases
  exact ⟨hinitial, hcases⟩

theorem start_le_gather_iff : start ≤ (gather start max gs [] 0).1.length ↔
    start ≤ (reached max (behind start gs)).length := by
  obtain ⟨hinitial, heq | hmany⟩ := gather_reached start max gs
  · rw [heq]
  · have hle := hinitial.length_le
    omega

theorem gather_sublist : (gather start max gs [] 0).1.Sublist (items gs) :=
  (gather_reached start max gs).1.sublist.trans
    ((reached_sublist _ _).trans (items_behind_suffix start gs).sublist)

theorem gather_length_le_total :
    (gather start max gs [] 0).1.length ≤ (gather start max gs [] 0).2 := by
  rw [gather_eq]
  have hle := process_length_le (start + max) max (behind start gs) [] (passed start gs)
  rw [List.length_nil] at hle
  omega

end Gather

theorem gather_complete_iff (h : (items gs).length ≤ start + max) :
    (gather start max gs [] 0).1.length = (items gs).length ↔ Skips start gs ∧ Whole max gs := by
  obtain ⟨hinitial, hcases⟩ := gather_reached start max gs
  have hle := hinitial.length_le
  have hreached := (reached_sublist max (behind start gs)).length_le
  have hbehind := (items_behind_suffix start gs).length_le
  constructor
  · intro hall
    have hskips : Skips start gs := by
      unfold Skips
      omega
    refine ⟨hskips, hskips.whole_iff.1 (whole_iff_length.2 ?_)⟩
    omega
  · rintro ⟨hskips, hwhole⟩
    have hlen := whole_iff_length.1 (hskips.whole_iff.2 hwhole)
    unfold Skips at hskips
    rcases hcases with heq | hmany
    · rw [heq]
      omega
    · omega

theorem gather_total (hskips : Skips start gs) (hwhole : Whole max gs) (h : 0 < start + max) :
    (gather start max gs [] 0).2 = totalUntil (start + max) gs := by
  have hbehind : Whole (max - ([] : List α).length) (behind start gs) := hskips.whole_iff.2 hwhole
  rw [gather_eq, process_whole _ _ _ hbehind h]
  exact hskips.totalUntil_eq h

def Starts (token : Str) (start : Nat) : Prop :=
  (token = [] ∧ start = 0) ∨ parseInt64 token = some (start : Int)

def encode : Option Nat → Str
  | none => []
  | some n => natToStr n

theorem natToStr_ne_nil (n : Nat) : natToStr n ≠ [] := by
  obtain ⟨c, cs, hc, _⟩ := natToStr_cons n
  rw [hc]
  exact List.cons_ne_nil c cs

theorem starts_natToStr (h : n < 2 ^ 63) : Starts (natToStr n) n := by
  refine .inr ?_
  rw [parseInt64_natToStr, if_pos h]

structure Serves (list : Str → Except Err (List α × Str)) (max : Nat) (gs : List (ClusterView α)) :
    Prop where
  answers : ∀ token start, Starts token start → ∀ entries next, list token = .ok (entries, next) ↔
      ∃ later, page max gs start = some (entries, later) ∧ next = encode later
  parsed : ∀ token r, list token = .ok r → token = [] ∨ parseInt64 token ≠ none

inductive Pages (list : Str → Except Err (List α × Str)) : Str → List (List α) → Prop
  | last : list token = .ok (entries, []) → Pages list token [entries]
  | next : list token = .ok (entries, nextToken) → nextToken ≠ [] → Pages list nextToken rest →
      Pages list token (entries :: rest)

theorem Pages.ne_nil {list : Str → Except Err (List α × Str)} (h : Pages list token pages) :
    pages ≠ [] := by
  cases h <;> exact List.cons_ne_nil _ _

def Paginates (list : Str → Except Err (List α × Str)) (max : Nat) (matching : List α) : Prop :=
  ∃ pages, Pages list [] pages ∧ (∀ entries ∈ pages, entries.length ≤ max) ∧
    pages.flatten.Perm matching

theorem page_eq {later : Option Nat} : page max gs start = some (entries, later) ↔
    start ≤ (gather start max gs [] 0).1.length ∧ entries = (gather start max gs [] 0).1.drop start ∧
      later = if entries ≠ [] ∧ max ≠ 0 ∧ start + max < (gather start max gs [] 0).2 then
        some (start + (gather start max gs [] 0).1.length) else none := by
  unfold page
  dsimp only
  split
  · next hle =>
    rw [Option.some.injEq, Prod.mk.injEq, and_iff_right hle]
    constructor
    · rintro ⟨rfl, rfl⟩
      exact ⟨rfl, rfl⟩
    · rintro ⟨rfl, rfl⟩
      exact ⟨rfl, rfl⟩
  · next hlt => exact iff_of_false (by rintro ⟨⟩) fun h => hlt h.1

theorem page_first (hmax : 0 < max) : page max gs 0 = some ((items gs).take max,
    if (items gs).take max ≠ [] ∧ max < totalUntil max gs then some ((items gs).take max).length
    else none) := by
  have hgather : gather 0 max gs [] 0 = ((items gs).take max, totalUntil max gs) := by
    rw [gather_first [] hmax 0 fun _ => rfl]
    simp
  rw [page_eq, hgather]
  have hne : max ≠ 0 := by omega
  simp [hne]

section Follow

variable {list : Str → Except Err (List α × Str)} {pages : List (List α)} (h : Serves list max gs)
include h

theorem Serves.starts (hr : list (natToStr start) = .ok r) :
    Starts (natToStr start) start := by
  have hparsed := (h.parsed _ _ hr).resolve_left (natToStr_ne_nil start)
  rw [parseInt64_natToStr] at hparsed
  apply starts_natToStr
  by_contra hbig
  exact hparsed (if_neg hbig)

theorem Serves.pages_length (hp : Pages list token pages)
    (htoken : token = natToStr start) : pages.flatten.length + start ≤ (items gs).length ∧
      (pages.length ≠ 1 → pages.flatten.length + 2 * start ≤ (items gs).length) := by
  induction hp generalizing start with
  | last hlist =>
    subst htoken
    obtain ⟨later, hpage, _⟩ := (h.answers _ _ (h.starts hlist) _ _).1 hlist
    obtain ⟨hle, rfl, _⟩ := page_eq.1 hpage
    have hlen := (gather_sublist start max gs).length_le
    simp only [List.flatten_cons, List.flatten_nil, List.append_nil, List.length_drop]
    exact ⟨by omega, fun hne => absurd rfl hne⟩
  | next hlist hne _ ih =>
    subst htoken
    obtain ⟨later, hpage, rfl⟩ := (h.answers _ _ (h.starts hlist) _ _).1 hlist
    obtain ⟨hle, rfl, rfl⟩ := page_eq.1 hpage
    split at ih
    · obtain ⟨hrest, _⟩ := ih rfl
      simp only [List.flatten_cons, List.length_append, List.length_drop]
      exact ⟨by omega, fun _ => by omega⟩
    · next hlast =>
      rw [if_neg hlast] at hne
      exact absurd rfl hne

/-- Nothing matches; or all matches fit on one page, and there is no token, or the second call
starts over and finds just what it cuts off; or it finds the matches of the first page again, all
matches after it, and ends. -/
inductive Listable (max : Nat) (gs : List (ClusterView α)) : Prop
  | nothing : items gs = [] → Listable max gs
  | once : (items gs).length ≤ max → totalUntil max gs ≤ max → Listable max gs
  | again : (items gs).length ≤ max → Skips (items gs).length gs → Listable max gs
  | twice : max < (items gs).length → (items gs).length ≤ max + max → max < totalUntil max gs →
      EndsAt max gs → Skips max gs → totalUntil (max + max) gs ≤ max + max → Listable max gs

theorem Serves.listable_of_second
    (hsecond : list (natToStr ((items gs).take max).length) = .ok (entries, []))
    (hlen : ((items gs).take max).length + entries.length = (items gs).length)
    (hshort : entries.length ≤ max) (hmax : 0 < max) (htotal : max < totalUntil max gs) :
    Listable max gs := by
  obtain ⟨later, hpage, hnone⟩ := (h.answers _ _ (h.starts hsecond) _ _).1 hsecond
  obtain ⟨hle, hdrop, rfl⟩ := page_eq.1 hpage
  have hgathered := congrArg List.length hdrop
  rw [List.length_drop] at hgathered
  rw [List.length_take] at *
  have hcomplete := (gather_complete_iff (by omega)).1
    (show (gather (min max (items gs).length) max gs [] 0).1.length = _ by omega)
  rcases Nat.lt_or_ge max (items gs).length with hmany | hfew
  · rw [Nat.min_eq_left hmany.le] at *
    obtain ⟨hskips, hwhole⟩ := hcomplete
    have hends := ((whole_iff hmax).1 hwhole).resolve_left (by omega)
    have hnonempty : entries ≠ [] := by
      rintro rfl
      rw [List.length_nil] at hlen
      omega
    refine .twice hmany (by omega) htotal hends hskips ?_
    by_contra hbig
    rw [gather_total hskips hwhole (by omega), if_pos ⟨hnonempty, by omega, by omega⟩] at hnone
    exact natToStr_ne_nil _ hnone.symm
  · rw [Nat.min_eq_right hfew] at hcomplete
    exact .again hfew hcomplete.1

theorem Serves.listable (hmax : 0 < max)
    (hp : Paginates list max (items gs)) : Listable max gs := by
  obtain ⟨pages, hpages, hshort, hperm⟩ := hp
  have hlen := hperm.length_eq
  have hfirst := h.answers [] 0 (.inl ⟨rfl, rfl⟩)
  simp only [page_first hmax] at hfirst
  cases hpages with
  | last hlist =>
    obtain ⟨later, hpage, hnone⟩ := (hfirst _ _).1 hlist
    obtain ⟨rfl, rfl⟩ := Prod.mk.inj (Option.some.inj hpage)
    simp only [List.flatten_cons, List.flatten_nil, List.append_nil, List.length_take] at hlen
    have hfits : (items gs).length ≤ max := by omega
    split at hnone
    · exact absurd hnone.symm (natToStr_ne_nil _)
    next hlast =>
    rw [not_and_or, not_not, Nat.not_lt] at hlast
    rcases hlast with hnil | htotal
    · refine .nothing (List.eq_nil_of_length_eq_zero ?_)
      have hzero := congrArg List.length hnil
      rw [List.length_take, List.length_nil] at hzero
      omega
    · exact .once hfits htotal
  | next hlist hne hrest =>
    obtain ⟨later, hpage, rfl⟩ := (hfirst _ _).1 hlist
    obtain ⟨rfl, rfl⟩ := Prod.mk.inj (Option.some.inj hpage)
    split at hrest
    · next hmore =>
      obtain ⟨hnonempty, htotal⟩ := hmore
      have hpos : 0 < ((items gs).take max).length := List.length_pos_iff.2 hnonempty
      simp only [List.flatten_cons, List.length_append] at hlen
      cases hrest with
      | next hsecond hne' hrest' =>
        -- the third call cannot succeed without leaving something out
        have hlong := (h.pages_length (.next hsecond hne' hrest') rfl).2 fun hone =>
          hrest'.ne_nil (List.eq_nil_of_length_eq_zero (Nat.succ.inj hone))
        omega
      | last hsecond =>
        rw [List.flatten_cons, List.flatten_nil, List.append_nil] at hlen
        exact h.listable_of_second hsecond hlen (hshort _ (by simp)) hmax htotal
    · next hlast =>
      rw [if_neg hlast] at hne
      exact absurd rfl hne

theorem Serves.paginates_once (hmax : 0 < max)
    (hfits : (items gs).length ≤ max) (hlast : items gs = [] ∨ totalUntil max gs ≤ max) :
    Paginates list max (items gs) := by
  have hall : (items gs).take max = items gs := List.take_of_length_le hfits
  have hlist : list [] = .ok (items gs, []) := by
    refine (h.answers [] 0 (.inl ⟨rfl, rfl⟩) _ _).2 ⟨none, ?_, rfl⟩
    rw [page_first hmax, hall, if_neg]
    rintro ⟨hne, hlt⟩
    rcases hlast with hnil | htotal
    · exact hne hnil
    · omega
  refine ⟨[items gs], .last hlist, ?_, ?_⟩
  · rintro entries hentries
    obtain rfl := List.mem_singleton.1 hentries
    exact hfits
  · rw [List.flatten_cons, List.flatten_nil, List.append_nil]

theorem Serves.paginates_twice (hmax : 0 < max) (hmax' : max < 2 ^ 63)
    (hne : items gs ≠ []) (htotal : max < totalUntil max gs)
    (hfits : (items gs).length ≤ max + max) (hskips : Skips (min max (items gs).length) gs)
    (hwhole : Whole max gs) (hlast : (items gs).length ≤ max ∨ totalUntil (max + max) gs ≤ max + max) :
    Paginates list max (items gs) := by
  have hpos : 0 < (items gs).length := List.length_pos_iff.2 hne
  have hfirst : list [] = .ok ((items gs).take max, natToStr ((items gs).take max).length) := by
    have hnonempty : (items gs).take max ≠ [] := by
      apply List.ne_nil_of_length_pos
      rw [List.length_take]
      omega
    refine (h.answers [] 0 (.inl ⟨rfl, rfl⟩) _ _).2 ⟨some _, ?_, rfl⟩
    rw [page_first hmax, if_pos ⟨hnonempty, htotal⟩]
  have hgathered : (gather (min max (items gs).length) max gs [] 0).1 = items gs :=
    (gather_sublist _ _ _).eq_of_length ((gather_complete_iff (by omega)).2 ⟨hskips, hwhole⟩)
  have hsecond : list (natToStr ((items gs).take max).length) = .ok ((items gs).drop max, []) := by
    rw [List.length_take]
    refine (h.answers _ _ (starts_natToStr (by omega)) _ _).2 ⟨none, page_eq.2 ⟨?_, ?_, ?_⟩, rfl⟩
    · rw [hgathered]
      omega
    · rw [hgathered]
      rcases Nat.lt_or_ge max (items gs).length with hmany | hfew
      · rw [Nat.min_eq_left hmany.le]
      · rw [Nat.min_eq_right hfew, List.drop_length, List.drop_of_length_le hfew]
    rw [if_neg]
    rintro ⟨hrest, _, hmore⟩
    have hmany : max < (items gs).length := by
      by_contra hfew
      exact hrest (List.drop_of_length_le (by omega))
    rw [Nat.min_eq_left hmany.le] at hmore hskips
    rw [gather_total hskips hwhole (by omega)] at hmore
    omega
  refine ⟨[(items gs).take max, (items gs).drop max], .next hfirst (natToStr_ne_nil _) (.last hsecond),
    ?_, ?_⟩
  · simp only [List.mem_cons, List.not_mem_nil, or_false]
    rintro entries (rfl | rfl)
    · exact List.length_take_le _ _
    · rw [List.length_drop]
      omega
  · rw [List.flatten_cons, List.flatten_cons, List.flatten_nil, List.append_nil, List.take_append_drop]

theorem Serves.paginates_iff (hmax : 0 < max) (hmax' : max < 2 ^ 63) :
    Paginates list max (items gs) ↔ Listable max gs := by
  refine ⟨h.listable hmax, fun hl => ?_⟩
  cases hl with
  | nothing hnil =>
    refine h.paginates_once hmax ?_ (.inl hnil)
    simp [hnil]
  | once hfits htotal => exact h.paginates_once hmax hfits (.inr htotal)
  | again hfits hskips =>
    by_cases hnil : items gs = []
    · exact h.paginates_once hmax hfits (.inl hnil)
    rcases Nat.lt_or_ge max (totalUntil max gs) with hmore | htotal
    · apply h.paginates_twice hmax hmax' hnil hmore (by omega)
      · rwa [Nat.min_eq_right hfits]
      · exact (whole_iff hmax).2 (.inl hfits)
      · exact .inl hfits
    · exact h.paginates_once hmax hfits (.inr htotal)
  | twice hmany hfits hmore hends hskips htotal =>
    have hne : items gs ≠ [] := List.ne_nil_of_length_pos (by omega)
    apply h.paginates_twice hmax hmax' hne hmore hfits
    · rwa [Nat.min_eq_left hmany.le]
    · exact (whole_iff hmax).2 (.inr hends)
    · exact .inr htotal

end Follow

end Paging

namespace Controller
open Paging

def views (accessZone : Str) (want : SnapshotInfo → Bool) (clusters : List SnapshotCluster) :
    List (ClusterView CSISnapshot) :=
  clusters.filterMap fun c =>
    match c.getSnapshots with
    | .error _ => none
    | .ok snapshots => some ⟨snapshots.length,
        (snapshots.filter want).map (normalizeSnapshot accessZone c),
        (List.length_map _).trans_le (List.length_filter_le _ _)⟩

theorem includeSnapshots_eq (want : SnapshotInfo → Bool) (n k : Int) (l : List SnapshotInfo) :
    includeSnapshots want n k l =
      if k < n then (l.filter want).take (n - k).toNat else l.filter want := by
  induction l generalizing k with
  | nil => simp [includeSnapshots]
  | cons snap rest ih =>
    rw [includeSnapshots]
    cases hwant : want snap with
    | false => simp only [Bool.false_eq_true, if_false, ih, List.filter_cons, hwant]
    | true =>
      simp only [if_true, List.filter_cons, hwant]
      split
      · next hlast =>
        have hone : (n - k).toNat = 1 := by omega
        rw [if_pos (by omega), hone]
        rfl
      next hmore =>
      rw [ih]
      rcases Int.lt_or_le k n with hlt | hge
      · obtain ⟨r, hr⟩ : ∃ r, (n - k).toNat = r + 1 := ⟨(n - k).toNat - 1, by omega⟩
        have hr' : (n - (k + 1)).toNat = r := by omega
        rw [if_pos hlt, if_pos (by omega), hr, hr', List.take_succ_cons]
      · rw [if_neg (by omega), if_neg (by omega)]

theorem includeSnapshots_room (want : SnapshotInfo → Bool) (max : Nat) (found : List CSISnapshot)
    (l : List SnapshotInfo) :
    includeSnapshots want (if (max : Int) = 0 then (l.length : Int) else max - found.length) 0 l =
      takeRoom (max - found.length) (l.filter want) := by
  rw [includeSnapshots_eq, Int.sub_zero]
  rcases Nat.eq_zero_or_pos max with rfl | hpos
  · have hall : (l.filter want).take (l.length : Int).toNat = l.filter want :=
      List.take_of_length_le (List.length_filter_le want l)
    have hzero : ((0 : Nat) : Int) = 0 := rfl
    rw [if_pos hzero, hall, ite_self, Nat.zero_sub, takeRoom, if_pos rfl]
  have hne : (max : Int) ≠ 0 := by omega
  rw [if_neg hne, takeRoom]
  rcases Nat.lt_or_ge found.length max with hroom | hfull
  · have hr : ((max : Int) - found.length).toNat = max - found.length := by omega
    rw [if_pos (by omega), if_neg (by omega), hr]
  · rw [if_neg (by omega), if_pos (by omega)]

theorem includeClusters_eq (accessZone : Str) (want : SnapshotInfo → Bool) (start max : Nat)
    (clusters : List SnapshotCluster) (found : List CSISnapshot) (total : Nat) :
    includeClusters accessZone want start max clusters found total =
      let r := gather start max (views accessZone want clusters) found total
      (r.1, (r.2 : Int)) := by
  induction clusters generalizing found total with
  | nil => rfl
  | cons c cs ih =>
    unfold includeClusters
    cases hc : c.getSnapshots with
    | error e =>
      have hviews : views accessZone want (c :: cs) = views accessZone want cs := by
        simp [views, hc]
      rw [hviews]
      exact ih found total
    | ok l =>
      have hviews : views accessZone want (c :: cs) = ⟨l.length,
          (l.filter want).map (normalizeSnapshot accessZone c),
          (List.length_map _).trans_le (List.length_filter_le _ _)⟩ :: views accessZone want cs := by
        simp [views, hc]
      have hcast : (total : Int) + l.length = ((total + l.length : Nat) : Int) := rfl
      have hroom : (takeRoom (max - found.length) (l.filter want)).map (normalizeSnapshot accessZone c)
          = takeRoom (max - found.length)
            ((l.filter want).map (normalizeSnapshot accessZone c)) := by
        unfold takeRoom
        split
        · rfl
        · exact List.map_take
      rw [hviews]
      simp only [gather, includeSnapshots_room, hcast, hroom, ih]
      by_cases hstart : start < total + l.length
      · rw [if_pos hstart, if_pos (by omega)]
        split
        · next hfull => rw [if_pos (by omega)]
        · next hspace => rw [if_neg (by omega)]
      · rw [if_neg hstart, if_neg (by omega)]

section Serve

variable (equalFold : Str → Str → Bool) (svc : Service) (clusters : List SnapshotCluster)
  (req : ListSnapshotsRequest)

abbrev requested : List (ClusterView CSISnapshot) :=
  views svc.accessZone (shouldIncludeSnapshot equalFold req.snapshotID req.sourceVolumeID) clusters

theorem listPowerScaleSnapshots_eq (start max : Nat) :
    listPowerScaleSnapshots equalFold svc.accessZone clusters start max req.snapshotID
      req.sourceVolumeID =
    let r := gather start max (requested equalFold svc clusters req) [] 0
    if r.2 < start then .error (.status .aborted (sprintf [
      "invalid starting token, error: startingToken=", itoa start, " > totalSnapshots=", itoa r.2]))
    else if start ≤ r.1.length then .ok (r.1.drop start,
      if max ≠ 0 ∧ start + max < r.2 then natToStr (start + r.1.length) else [])
    else .error .panic := by
  have hloop := includeClusters_eq svc.accessZone
    (shouldIncludeSnapshot equalFold req.snapshotID req.sourceVolumeID) start max clusters [] 0
  rw [Nat.cast_zero] at hloop
  unfold listPowerScaleSnapshots
  rw [hloop]
  generalize gather start max _ [] 0 = r
  obtain ⟨found, total⟩ := r
  have htoken : (start : Int) +
      (if (max : Int) = 0 ∨ (max : Int) > total - start then (total : Int) - start else max) < total ↔
        max ≠ 0 ∧ start + max < total := by
    split <;> omega
  have hcut : (0 ≤ (start : Int) ∧ (start : Int) ≤ found.length) ↔ start ≤ found.length := by omega
  simp only [gt_iff_lt, Int.ofNat_lt, htoken, hcut, Int.toNat_natCast]
  rfl

theorem listSnapshots_eq {max : Nat} (hmax : req.maxEntries = max) (hstart : Starts token start) :
    listSnapshots equalFold svc clusters req token =
    match listPowerScaleSnapshots equalFold svc.accessZone clusters start max req.snapshotID
      req.sourceVolumeID with
    | .error .panic => .error .panic
    | .error e => .error (.status .internal (getMessageWithReqID svc.runID [
        "failed to list snapshots: ", e.text]))
    | .ok ([], _) => .ok ([], [])
    | .ok (snapshots, nextToken) => .ok (snapshots, nextToken) := by
  unfold listSnapshots
  rw [hmax]
  rcases hstart with ⟨rfl, rfl⟩ | hparse
  · rfl
  have hne : token ≠ [] := by
    rintro rfl
    cases hparse
  rw [if_pos hne, hparse]
  rfl

theorem listSnapshots_serves {max : Nat} (hmax : req.maxEntries = max) :
    Serves (listSnapshots equalFold svc clusters req) max (requested equalFold svc clusters req) where
  answers token start hstart entries next := by
    rw [listSnapshots_eq equalFold svc clusters req hmax hstart,
      listPowerScaleSnapshots_eq equalFold svc clusters req]
    have hle := gather_length_le_total start max (requested equalFold svc clusters req)
    simp only [page_eq]
    generalize gather start max (requested equalFold svc clusters req) [] 0 = r at hle ⊢
    by_cases hcut : start ≤ r.1.length
    · rw [if_neg (by omega), if_pos hcut]
      cases hentries : r.1.drop start with
      | nil =>
        simp only [Except.ok.injEq, Prod.mk.injEq]
        constructor
        · rintro ⟨rfl, rfl⟩
          exact ⟨none, ⟨hcut, rfl, by simp⟩, rfl⟩
        · rintro ⟨later, ⟨_, rfl, rfl⟩, rfl⟩
          simp [encode]
      | cons x xs =>
        simp only [Except.ok.injEq, Prod.mk.injEq]
        have hnext : ∀ later, (later = if x :: xs ≠ [] ∧ max ≠ 0 ∧ start + max < r.2 then
            some (start + r.1.length) else none) → encode later =
              if max ≠ 0 ∧ start + max < r.2 then natToStr (start + r.1.length) else [] := by
          rintro later rfl
          simp only [ne_eq, reduceCtorEq, not_false_eq_true, true_and]
          split <;> rfl
        constructor
        · rintro ⟨rfl, rfl⟩
          exact ⟨_, ⟨hcut, rfl, rfl⟩, (hnext _ rfl).symm⟩
        · rintro ⟨later, ⟨_, rfl, hlater⟩, rfl⟩
          exact ⟨rfl, (hnext later hlater).symm⟩
    · rw [if_neg hcut]
      apply iff_of_false
      · by_cases hbehind : r.2 < start
        · rw [if_pos hbehind]
          rintro ⟨⟩
        · rw [if_neg hbehind]
          rintro ⟨⟩
      · rintro ⟨_, h, _⟩
        exact hcut h.1
  parsed token r hr := by
    by_cases hnil : token = []
    · exact .inl hnil
    · refine .inr fun hnone => ?_
      rw [listSnapshots, if_pos hnil, hnone] at hr
      cases hr

theorem includeClusters_total (accessZone : Str) (want : SnapshotInfo → Bool) (start max : Int)
    (clusters : List SnapshotCluster) (found : List CSISnapshot) (total : Int) :
    total ≤ (includeClusters accessZone want start max clusters found total).2 := by
  induction clusters generalizing found total with
  | nil => exact Int.le_refl _
  | cons c cs ih =>
    unfold includeClusters
    cases c.getSnapshots with
    | error e => exact ih _ _
    | ok l =>
      have hmore : total ≤ total + l.length := by omega
      dsimp only
      generalize found ++ List.map _ _ = found'
      split
      · split
        · exact hmore
        · exact Int.le_trans hmore (ih _ _)
      · exact Int.le_trans hmore (ih _ _)

theorem listSnapshots_negative {token : Str} (hparse : parseInt64 token = some n) (hneg : n < 0) :
    listSnapshots equalFold svc clusters req token = .error .panic := by
  have hne : token ≠ [] := by
    rintro rfl
    cases hparse
  have hpanic : listPowerScaleSnapshots equalFold svc.accessZone clusters n req.maxEntries
      req.snapshotID req.sourceVolumeID = .error .panic := by
    have htotal := includeClusters_total svc.accessZone
      (shouldIncludeSnapshot equalFold req.snapshotID req.sourceVolumeID) n req.maxEntries clusters
      [] 0
    unfold listPowerScaleSnapshots
    dsimp only
    rw [if_neg (by omega), if_neg (by omega)]
  unfold listSnapshots
  rw [if_pos hne, hparse]
  simp only [Bind.bind, Except.bind, hpanic]

theorem listSnapshots_panic_iff {max : Nat} (hmax : req.maxEntries = max)
    (hparse : parseInt64 token = some n) :
    listSnapshots equalFold svc clusters req token ≠ .error .panic ↔
      0 ≤ n ∧ (population (requested equalFold svc clusters req) < n ∨
        n ≤ (reached max (behind n.toNat (requested equalFold svc clusters req))).length) := by
  rcases Int.lt_or_le n 0 with hneg | hnonneg
  · rw [listSnapshots_negative equalFold svc clusters req hparse hneg]
    exact iff_of_false (fun h => h rfl) fun h => by omega
  obtain ⟨start, rfl⟩ := Int.eq_ofNat_of_zero_le hnonneg
  rw [listSnapshots_eq equalFold svc clusters req hmax (.inr hparse),
    listPowerScaleSnapshots_eq equalFold svc clusters req, and_iff_right hnonneg, Int.toNat_natCast,
    Int.ofNat_lt, Int.ofNat_le, ← @gather_total_lt_iff _ start max,
    ← start_le_gather_iff]
  generalize gather start max (requested equalFold svc clusters req) [] 0 = r
  dsimp only
  by_cases hbehind : r.2 < start
  · rw [if_pos hbehind]
    exact iff_of_true (by rintro ⟨⟩) (.inl hbehind)
  rw [if_neg hbehind, or_iff_right hbehind]
  by_cases hcut : start ≤ r.1.length
  · rw [if_pos hcut]
    refine iff_of_true ?_ hcut
    cases r.1.drop start <;> rintro ⟨⟩
  · rw [if_neg hcut]
    exact iff_of_false (fun h => h rfl) hcut

/-- The pages are right exactly when the first page or the first two hold all matches; and a token
that is a number makes the call panic exactly when it is negative, or that of a snapshot further on
than what the call collects. -/
theorem listSnapshots_pagination_iff {max : Nat} (hreq : req.maxEntries = max) (hmax : 0 < max)
    (hmax' : max < 2 ^ 31) :
    (Paginates (listSnapshots equalFold svc clusters req) max
      (items (requested equalFold svc clusters req)) ↔
        Listable max (requested equalFold svc clusters req)) ∧
    ∀ token n, parseInt64 token = some n →
      (listSnapshots equalFold svc clusters req token ≠ .error .panic ↔
        0 ≤ n ∧ (population (requested equalFold svc clusters req) < n ∨
          n ≤ (reached max (behind n.toNat (requested equalFold svc clusters req))).length)) := by
  constructor
  · have hserves := listSnapshots_serves equalFold svc clusters req hreq
    exact hserves.paginates_iff hmax (hmax'.trans (by decide))
  · intro token n hparse
    exact listSnapshots_panic_iff equalFold svc clusters req hreq hparse

end Serve

theorem vol1_path_ne : ("/ifs/data/vol1" : Str) ≠ [] := by decide

def twoSnapshots : SnapshotCluster where
  clusterName := "c1"
  getSnapshots := .ok [⟨1, "/ifs/data/vol1", 0, vol1_path_ne⟩, ⟨2, "/ifs/data/vol1", 0, vol1_path_ne⟩]
  getExportWithPath := fun _ => none

theorem listSnapshots_one_page :
    Paginates (listSnapshots equalFold oneCluster [twoSnapshots] ⟨2, [], []⟩) 2
      (items (requested equalFold oneCluster [twoSnapshots] ⟨2, [], []⟩)) ∧
    listSnapshots equalFold oneCluster [twoSnapshots] ⟨2, [], []⟩ "3" ≠ .error .panic := by
  have hiff := listSnapshots_pagination_iff equalFold oneCluster [twoSnapshots] ⟨2, [], []⟩
    (show (2 : Int) = (2 : Nat) from rfl) (by decide) (by decide)
  constructor
  · exact hiff.1.2 (.once (by decide) (by decide))
  · exact (hiff.2 "3" 3 (by decide)).2 ⟨by decide, .inl (by decide)⟩

/-- With one entry a page, the second call collects the first snapshot again and cuts it off; the
second one is never listed. Other tokens make the call panic. -/
theorem listSnapshots_loses_snapshot :
    listSnapshots equalFold oneCluster [twoSnapshots] ⟨1, [], []⟩ [] =
      .ok ([⟨0, "1=_=_=c1=_=_=System", "/ifs/data/vol1"⟩], "1") ∧
    listSnapshots equalFold oneCluster [twoSnapshots] ⟨1, [], []⟩ "1" = .ok ([], []) ∧
    ¬ Paginates (listSnapshots equalFold oneCluster [twoSnapshots] ⟨1, [], []⟩) 1
      (items (requested equalFold oneCluster [twoSnapshots] ⟨1, [], []⟩)) ∧
    listSnapshots equalFold oneCluster [twoSnapshots] ⟨1, [], []⟩ "2" = .error .panic ∧
    listSnapshots equalFold oneCluster [twoSnapshots] ⟨1, [], []⟩ "-1" = .error .panic := by
  have hfirst : listSnapshots equalFold oneCluster [twoSnapshots] ⟨1, [], []⟩ [] =
    .ok ([⟨0, "1=_=_=c1=_=_=System", "/ifs/data/vol1"⟩], "1") := rfl
  have hsecond : listSnapshots equalFold oneCluster [twoSnapshots] ⟨1, [], []⟩ "1" = .ok ([], []) :=
    rfl
  refine ⟨hfirst, hsecond, ?_, rfl, rfl⟩
  rintro ⟨pages, hpages, _, hperm⟩
  cases hpages with
  | last hlist =>
    obtain ⟨_, htoken⟩ := Prod.mk.inj (Except.ok.inj (hfirst.symm.trans hlist))
    cases htoken
  | next hlist _ hrest =>
    obtain ⟨rfl, rfl⟩ := Prod.mk.inj (Except.ok.inj (hfirst.symm.trans hlist))
    cases hrest with
    | last hlist' =>
      obtain ⟨rfl, _⟩ := Prod.mk.inj (Except.ok.inj (hsecond.symm.trans hlist'))
      exact absurd hperm.length_eq (by decide)
    | next hlist' hne' _ =>
      obtain ⟨_, rfl⟩ := Prod.mk.inj (Except.ok.inj (hsecond.symm.trans hlist'))
      exact hne' rfl

end Controller
end CsiPowerscale
