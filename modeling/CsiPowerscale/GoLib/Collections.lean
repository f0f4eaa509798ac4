import Mathlib.Data.List.Nodup
import Mathlib.Data.List.Basic

namespace GoLib

section

/-- The order in which a map is gone through. -/
structure MapOrder (α : Type) where
  order : List α → List α
  perm : ∀ l, (order l).Perm l

def listOrder : MapOrder α := ⟨fun l => l, fun l => .refl l⟩

theorem MapOrder.mem_order (o : MapOrder α) : a ∈ o.order l ↔ a ∈ l := (o.perm l).mem_iff

section Lookup

variable {K V : Type} [BEq K] [LawfulBEq K]

theorem lookup_cons_ne {m : List (K × V)} (h : a ≠ i) : ((i, v) :: m).lookup a = m.lookup a := by
  rw [List.lookup_cons, beq_eq_false_iff_ne.2 h]

theorem lookup_isSome {m : List (K × V)} : (m.lookup a).isSome = true ↔ a ∈ m.map Prod.fst := by
  rw [List.lookup_isSome_iff, List.mem_map]
  simp only [beq_iff_eq, eq_comm (a := a)]

theorem lookup_eq_some_iff {m : List (K × V)} (h : (m.map Prod.fst).Nodup) :
    m.lookup a = some v ↔ (a, v) ∈ m := by
  induction m with
  | nil => simp
  | cons x m ih =>
    obtain ⟨i, w⟩ := x
    rw [List.map_cons, List.nodup_cons] at h
    by_cases hai : a = i
    · subst hai
      have hnot : (a, v) ∉ m := fun hmem => h.1 (List.mem_map.2 ⟨_, hmem, rfl⟩)
      simp [hnot, eq_comm]
    · rw [lookup_cons_ne hai, ih h.2]
      simp [hai]

end Lookup

variable {K V : Type} [DecidableEq K]

/-- `m[k] = v`, for a map that is a list of its pairs. -/
def assign (m : List (K × V)) (k : K) (v : V) : List (K × V) :=
  if k ∈ m.map Prod.fst then m.map fun x => if x.1 = k then (k, v) else x else m ++ [(k, v)]

theorem keys_assign {m : List (K × V)} : (assign m k v).map Prod.fst =
    if k ∈ m.map Prod.fst then m.map Prod.fst else m.map Prod.fst ++ [k] := by
  rw [assign]
  split
  · rw [List.map_map]
    apply List.map_congr_left
    intro x _
    rw [Function.comp_apply]
    split
    · rename_i hx
      exact hx.symm
    · rfl
  · rw [List.map_append]
    rfl

theorem mem_of_mem_assign {x : K × V} (h : x ∈ assign m k v) : x ∈ m ∨ x = (k, v) := by
  rw [assign] at h
  split at h
  · obtain ⟨y, hy, rfl⟩ := List.mem_map.1 h
    split
    · exact .inr rfl
    · exact .inl hy
  · rcases List.mem_append.1 h with hx | hx
    · exact .inl hx
    · exact .inr (List.mem_singleton.1 hx)

theorem mem_keys_assign {m : List (K × V)} :
    a ∈ (assign m k v).map Prod.fst ↔ a ∈ m.map Prod.fst ∨ a = k := by
  rw [keys_assign]
  split
  · rename_i hk
    apply Iff.intro
    · exact .inl
    · rintro (ha | rfl)
      · exact ha
      · exact hk
  · simp

theorem nodup_keys_assign {m : List (K × V)} (h : (m.map Prod.fst).Nodup) :
    ((assign m k v).map Prod.fst).Nodup := by
  rw [keys_assign]
  split
  · exact h
  · rename_i hk
    exact List.nodup_append_comm.1 (List.nodup_cons.2 ⟨hk, h⟩)

theorem assign_of_getElem? {m : List (K × V)} (h : (m.map Prod.fst).Nodup)
    (hi : m[i]? = some (k, w)) : assign m k v = m.set i (k, v) := by
  have hkey : (m.map Prod.fst)[i]? = some k := by
    rw [List.getElem?_map, hi]
    rfl
  rw [assign, if_pos (List.mem_of_getElem? hkey)]
  apply List.ext_getElem?
  intro j
  rw [List.getElem?_map, List.getElem?_set]
  by_cases hij : i = j
  · subst hij
    obtain ⟨hlt, hget⟩ := List.getElem?_eq_some_iff.1 hi
    simp [hlt, hget]
  rw [if_neg hij]
  cases hj : m[j]? with
  | none => rfl
  | some x =>
    have hne : x.1 ≠ k := by
      intro hx
      obtain ⟨hlt, -⟩ := List.getElem?_eq_some_iff.1 hkey
      apply hij
      apply (List.getElem?_inj hlt h).1
      rw [hkey, List.getElem?_map, hj, Option.map_some, hx]
    rw [Option.map_some, if_neg hne]

variable [BEq K] [LawfulBEq K]

theorem lookup_map_assign {m : List (K × V)} :
    (m.map fun x => if x.1 = k then (k, v) else x).lookup a =
      if a = k ∧ k ∈ m.map Prod.fst then some v else m.lookup a := by
  induction m with
  | nil => simp
  | cons x m ih =>
    obtain ⟨i, w⟩ := x
    rw [List.map_cons]
    by_cases hik : i = k
    · subst hik
      by_cases hai : a = i
      · simp [hai]
      · simp [lookup_cons_ne hai, hai, ih]
    by_cases hai : a = i
    · simp [hai, hik]
    · have hmem : k ∈ ((i, w) :: m).map Prod.fst ↔ k ∈ m.map Prod.fst := by
        simp [Ne.symm hik]
      simp only [hik, if_false, lookup_cons_ne hai, ih, hmem]

theorem lookup_assign {m : List (K × V)} :
    (assign m k v).lookup a = if a = k then some v else m.lookup a := by
  rw [assign]
  by_cases hk : k ∈ m.map Prod.fst
  · rw [if_pos hk, lookup_map_assign]
    simp only [hk, and_true]
  rw [if_neg hk, List.lookup_append]
  by_cases hak : a = k
  · have hnone : m.lookup k = none := by
      rw [← Option.not_isSome_iff_eq_none, lookup_isSome]
      exact hk
    simp [hak, hnone]
  · simp [lookup_cons_ne hak, hak]

theorem lookup_filter {m : List (K × V)} {p : K → Bool} :
    (m.filter fun x => p x.1).lookup a = if p a = true then m.lookup a else none := by
  induction m with
  | nil => simp
  | cons x m ih =>
    obtain ⟨i, w⟩ := x
    rw [List.filter_cons]
    by_cases hai : a = i
    · subst hai
      by_cases ha : p a = true
      · simp [ha]
      · simp [ha, ih]
    · by_cases hi : p i = true
      · simp [hi, lookup_cons_ne hai, ih]
      · simp [hi, lookup_cons_ne hai, ih]

end

/-- The arrays, by number; a cell that was never written holds nothing. -/
abbrev Arrays (α : Type) := List (List (Option α))

structure Slice where
  array : Nat
  len : Nat
  cap : Nat
  deriving DecidableEq

namespace Slice

def get (h : Arrays α) (s : Slice) (i : Nat) : Option α := ((h.getD s.array []).getD i none)

/-- `s[i] = a`. -/
def set (h : Arrays α) (s : Slice) (i : Nat) (a : α) : Arrays α :=
  h.modify s.array fun cells => cells.set i (some a)

/-- `[]T{a}`. -/
def make (h : Arrays α) (a : α) : Slice × Arrays α := (⟨h.length, 1, 1⟩, h ++ [[some a]])

/-- `append(s, a)`: in place if there is room, otherwise in a new array, of which `grow` says how
much larger it is than needed. -/
def append (grow : Nat → Nat) (h : Arrays α) (s : Slice) (a : α) : Slice × Arrays α :=
  if s.len < s.cap then ({ s with len := s.len + 1 }, s.set h s.len a)
  else (⟨h.length, s.len + 1, s.len + 1 + grow s.len⟩,
    h ++ [(h.getD s.array []).take s.len ++ some a :: List.replicate (grow s.len) none])

structure Holds (h : Arrays α) (s : Slice) (xs : List α) : Prop where
  cells : ∃ rest, h[s.array]? = some (xs.map some ++ rest) ∧ xs.length + rest.length = s.cap
  len : s.len = xs.length

variable {h : Arrays α} {s : Slice} {xs : List α}

theorem Holds.get (hs : s.Holds h xs) (hi : i < s.len) : s.get h i = xs[i]? := by
  obtain ⟨rest, hcells, -⟩ := hs.cells
  rw [hs.len] at hi
  rw [Slice.get, List.getD_eq_getElem?_getD, List.getD_eq_getElem?_getD, hcells, Option.getD_some,
    List.getElem?_append_left (by rwa [List.length_map]), List.getElem?_map]
  cases xs[i]? with
  | none => rfl
  | some x => rfl

theorem Holds.exists_get (hs : s.Holds h xs) (hi : i < s.len) :
    ∃ x, xs[i]? = some x ∧ s.get h i = some x := by
  have hlt := hs.len ▸ hi
  exact ⟨xs[i], List.getElem?_eq_getElem hlt, (hs.get hi).trans (List.getElem?_eq_getElem hlt)⟩

theorem Holds.set (hs : s.Holds h xs) (hi : i < s.len) (a : α) :
    s.Holds (s.set h i a) (xs.set i a) := by
  obtain ⟨rest, hcells, hcap⟩ := hs.cells
  rw [hs.len] at hi
  refine ⟨⟨rest, ?_, ?_⟩, ?_⟩
  · rw [Slice.set, List.getElem?_modify_eq, hcells, Option.map_eq_map, Option.map_some,
      List.set_append_left _ _ (by rwa [List.length_map]), List.map_set]
  · rw [List.length_set]
    exact hcap
  · rw [List.length_set]
    exact hs.len

theorem holds_make (h : Arrays α) (a : α) : (make h a).1.Holds (make h a).2 [a] := by
  refine ⟨⟨[], ?_, rfl⟩, rfl⟩
  rw [make, List.getElem?_append_right (Nat.le_refl _), Nat.sub_self]
  rfl

theorem Holds.append (hs : s.Holds h xs) (grow : Nat → Nat) (a : α) :
    (s.append grow h a).1.Holds (s.append grow h a).2 (xs ++ [a]) := by
  obtain ⟨rest, hcells, hcap⟩ := hs.cells
  rw [Slice.append]
  split
  · rename_i hroom
    cases rest with
    | nil =>
      rw [List.length_nil, ← hs.len] at hcap
      omega
    | cons cell rest =>
      refine ⟨⟨rest, ?_, ?_⟩, ?_⟩
      · rw [Slice.set, List.getElem?_modify_eq, hcells, Option.map_eq_map, Option.map_some, hs.len,
          List.set_append_right _ _ (Nat.le_of_eq (List.length_map _)), List.length_map, Nat.sub_self,
          List.set_cons_zero, List.map_append, List.append_assoc]
        rfl
      · simp only [List.length_append, List.length_cons, List.length_nil] at hcap ⊢
        omega
      · rw [List.length_append, List.length_singleton, hs.len]
  · refine ⟨⟨List.replicate (grow s.len) none, ?_, ?_⟩, ?_⟩
    · have htake : (xs.map some ++ rest).take s.len = xs.map some := by
        rw [hs.len]
        exact List.take_left' (List.length_map _)
      rw [List.getElem?_append_right (Nat.le_refl _), Nat.sub_self, List.getD_eq_getElem?_getD,
        hcells, Option.getD_some, htake, List.map_append, List.append_assoc]
      rfl
    · rw [List.length_append, List.length_singleton, List.length_replicate, hs.len]
    · rw [List.length_append, List.length_singleton, hs.len]

end Slice

end GoLib
