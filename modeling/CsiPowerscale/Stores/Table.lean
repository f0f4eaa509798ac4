import Mathlib.Data.List.Nodup

namespace Stores

/-- Rows with different keys, in the order of their insertion. -/
structure Table {α κ : Type} (key : α → κ) where
  rows : List α
  nodup : (rows.map key).Nodup

namespace Table

variable {α κ : Type} {key : α → κ} {t : Table key}

instance [DecidableEq α] : DecidableEq (Table key) := fun s t =>
  decidable_of_iff (s.rows = t.rows) ⟨fun h => by cases s; cases t; cases h; rfl, fun h => h ▸ rfl⟩

instance : Membership α (Table key) := ⟨fun t a => a ∈ t.rows⟩

theorem mem_def : a ∈ t ↔ a ∈ t.rows := Iff.rfl

def empty : Table key := ⟨[], List.nodup_nil⟩

theorem eq_of_key (ha : a ∈ t) (hb : b ∈ t) (h : key a = key b) : a = b :=
  List.inj_on_of_nodup_map t.nodup ha hb h

def has [DecidableEq κ] (t : Table key) (k : κ) : Bool := t.rows.any fun a => key a = k

theorem has_iff [DecidableEq κ] : t.has k = true ↔ ∃ a ∈ t, key a = k := by
  simp [has, mem_def]

/-- A row whose key is taken is not added. -/
def add [DecidableEq κ] (t : Table key) (a : α) : Table key :=
  if h : t.has (key a) = true then t
  else
    { rows := t.rows ++ [a]
      nodup := by
        rw [has_iff] at h
        rw [List.map_append, List.nodup_append]
        refine ⟨t.nodup, List.nodup_singleton _, ?_⟩
        intro k hk k' hk' he
        obtain ⟨b, hb, rfl⟩ := List.mem_map.1 hk
        obtain rfl : k' = key a := by simpa using hk'
        exact h ⟨b, hb, he⟩ }

theorem add_of_has [DecidableEq κ] (h : t.has (key a) = true) : t.add a = t := by
  simp [add, h]

theorem mem_add [DecidableEq κ] : b ∈ t.add a ↔ b ∈ t ∨ t.has (key a) = false ∧ b = a := by
  by_cases h : t.has (key a) = true
  · simp [add, h]
  · simp [add, h, mem_def]

theorem mem_add_of_mem [DecidableEq κ] (h : b ∈ t) : b ∈ t.add a :=
  mem_add.2 (.inl h)

theorem has_add [DecidableEq κ] : (t.add a).has k = true ↔ t.has k = true ∨ key a = k := by
  by_cases h : t.has (key a) = true
  · rw [add_of_has h]
    exact ⟨.inl, fun hk => hk.elim id fun he => he ▸ h⟩
  have hf : t.has (key a) = false := by simpa using h
  simp only [has_iff, mem_add, hf, true_and]
  constructor
  · rintro ⟨b, hb | rfl, hk⟩
    · exact .inl ⟨b, hb, hk⟩
    · exact .inr hk
  · rintro (⟨b, hb, hk⟩ | hk)
    · exact ⟨b, .inl hb, hk⟩
    · exact ⟨a, .inr rfl, hk⟩

def keep (t : Table key) (p : α → Bool) : Table key where
  rows := t.rows.filter p
  nodup := t.nodup.sublist (List.filter_sublist.map _)

@[simp] theorem mem_keep : a ∈ t.keep p ↔ a ∈ t ∧ p a = true := by
  simp [keep, mem_def]

def update (t : Table key) (f : α → α) (hf : ∀ a, key (f a) = key a) : Table key where
  rows := t.rows.map f
  nodup := by
    have hm : t.rows.map (key ∘ f) = t.rows.map key := List.map_congr_left fun a _ => hf a
    rw [List.map_map, hm]
    exact t.nodup

theorem mem_update : b ∈ t.update f hf ↔ ∃ a ∈ t, f a = b := by
  simp [update, mem_def]

theorem has_update [DecidableEq κ] : (t.update f hf).has k = t.has k := by
  simp [has, update, List.any_map, Function.comp_def, hf]

end Table

/-- A table of numbered rows with the next number. -/
structure Registry {α : Type} (num : α → Nat) extends Table num where
  next : Nat
  fresh : ∀ a ∈ rows, num a < next

namespace Registry

variable {α : Type} {num : α → Nat} {t : Registry num}

instance [DecidableEq α] : DecidableEq (Registry num) := fun s t =>
  decidable_of_iff (s.toTable = t.toTable ∧ s.next = t.next)
    ⟨fun ⟨h, h'⟩ => by cases s; cases t; cases h; cases h'; rfl, fun h => h ▸ ⟨rfl, rfl⟩⟩

instance : Membership α (Registry num) := ⟨fun t a => a ∈ t.toTable⟩

def empty : Registry num where
  toTable := .empty
  next := 0
  fresh := by rintro a ⟨⟩

theorem mem_def : a ∈ t ↔ a ∈ t.rows := Iff.rfl

theorem eq_of_num (ha : a ∈ t) (hb : b ∈ t) (h : num a = num b) : a = b :=
  t.toTable.eq_of_key ha hb h

def add (t : Registry num) (f : Nat → α) (hf : ∀ n, num (f n) = n) : Registry num where
  rows := t.rows ++ [f t.next]
  nodup := by
    rw [List.map_append, List.nodup_append]
    refine ⟨t.nodup, List.nodup_singleton _, ?_⟩
    intro k hk k' hk' he
    obtain ⟨b, hb, rfl⟩ := List.mem_map.1 hk
    obtain rfl : k' = num (f t.next) := by simpa using hk'
    have hlt := t.fresh b hb
    rw [hf] at he
    omega
  next := t.next + 1
  fresh := by
    intro a ha
    rcases List.mem_append.1 ha with ha | ha
    · exact Nat.lt_succ_of_lt (t.fresh a ha)
    · obtain rfl : a = f t.next := by simpa using ha
      rw [hf]
      exact Nat.lt_succ_self _

@[simp] theorem mem_add : a ∈ t.add f hf ↔ a ∈ t ∨ a = f t.next := by
  simp [add, mem_def]

def keep (t : Registry num) (p : α → Bool) : Registry num where
  toTable := t.toTable.keep p
  next := t.next
  fresh := fun a ha => t.fresh a (List.mem_filter.1 ha).1

@[simp] theorem mem_keep : a ∈ t.keep p ↔ a ∈ t ∧ p a = true := t.toTable.mem_keep

def update (t : Registry num) (f : α → α) (hf : ∀ a, num (f a) = num a) : Registry num where
  toTable := t.toTable.update f hf
  next := t.next
  fresh := by
    intro a ha
    obtain ⟨b, hb, rfl⟩ := List.mem_map.1 ha
    rw [hf]
    exact t.fresh b hb

theorem mem_update : b ∈ t.update f hf ↔ ∃ a ∈ t, f a = b := by
  simp [update, mem_def, Table.update]

def find? (t : Registry num) (p : α → Bool) : Option α := t.rows.find? p

theorem find?_mem (h : t.find? p = some a) : a ∈ t :=
  List.mem_of_find?_eq_some h

theorem find?_sat (h : t.find? p = some a) : p a = true :=
  List.find?_some h

theorem find?_none : t.find? p = none ↔ ∀ a ∈ t, p a = false := by
  simp [find?, mem_def]

theorem find?_isSome (ha : a ∈ t) (hp : p a = true) :
    ∃ b, t.find? p = some b := by
  cases h : t.find? p with
  | none => simp [find?_none.1 h a ha] at hp
  | some b => exact ⟨b, rfl⟩

theorem find?_update (h : ∀ a, p (f a) = p a) :
    (t.update f hf).find? p = (t.find? p).map f := by
  have hp : p ∘ f = p := funext h
  simp only [find?, update, Table.update, List.find?_map, hp]

theorem find?_unique (ha : a ∈ t) (hp : p a = true)
    (hu : ∀ b, p b = true → num b = num a) : t.find? p = some a := by
  obtain ⟨b, hb⟩ := find?_isSome ha hp
  rw [hb, eq_of_num (find?_mem hb) ha (hu b (find?_sat hb))]

end Registry

structure Catalog {α κ : Type} (num : α → Nat) (key : α → κ) extends Registry num where
  keys : (rows.map key).Nodup

namespace Catalog

variable {α κ : Type} {num : α → Nat} {key : α → κ} {t : Catalog num key}

instance [DecidableEq α] : DecidableEq (Catalog num key) := fun s t =>
  decidable_of_iff (s.toRegistry = t.toRegistry)
    ⟨fun h => by cases s; cases t; cases h; rfl, fun h => h ▸ rfl⟩

instance : Membership α (Catalog num key) := ⟨fun t a => a ∈ t.toRegistry⟩

def empty : Catalog num key := ⟨.empty, List.nodup_nil⟩

theorem mem_def : a ∈ t ↔ a ∈ t.rows := Iff.rfl

theorem eq_of_num (ha : a ∈ t) (hb : b ∈ t) (h : num a = num b) : a = b :=
  t.toRegistry.eq_of_num ha hb h

theorem eq_of_key (ha : a ∈ t) (hb : b ∈ t) (h : key a = key b) : a = b :=
  List.inj_on_of_nodup_map t.keys ha hb h

theorem lt_next (h : a ∈ t) : num a < t.next := t.fresh a h

def at? [DecidableEq κ] (t : Catalog num key) (k : κ) : Option α := t.find? fun a => key a = k

theorem at?_mem [DecidableEq κ] (h : t.at? k = some a) : a ∈ t :=
  t.toRegistry.find?_mem h

theorem at?_key [DecidableEq κ] (h : t.at? k = some a) : key a = k := by
  simpa using t.toRegistry.find?_sat h

theorem at?_none [DecidableEq κ] : t.at? k = none ↔ ∀ a ∈ t, key a ≠ k := by
  rw [at?, Registry.find?_none]
  simp only [decide_eq_false_iff_not]
  rfl

theorem at?_eq_some [DecidableEq κ] : t.at? k = some a ↔ a ∈ t ∧ key a = k := by
  refine ⟨fun h => ⟨at?_mem h, at?_key h⟩, ?_⟩
  rintro ⟨ha, rfl⟩
  obtain ⟨b, hb⟩ := Registry.find?_isSome (t := t.toRegistry) (p := fun b => key b = key a) ha
    (by simp)
  rw [show t.at? (key a) = some b from hb, eq_of_key (at?_mem hb) ha (at?_key hb)]

def add [DecidableEq κ] (t : Catalog num key) (f : Nat → α) (hf : ∀ n, num (f n) = n)
    (hk : t.at? (key (f t.next)) = none) : Catalog num key where
  toRegistry := t.toRegistry.add f hf
  keys := by
    simp only [Registry.add, List.map_append, List.map_cons, List.map_nil]
    rw [List.nodup_append]
    refine ⟨t.keys, List.nodup_singleton _, ?_⟩
    intro k hk₁ k' hk₂ he
    obtain ⟨b, hb, rfl⟩ := List.mem_map.1 hk₁
    obtain rfl : k' = key (f t.next) := by simpa using hk₂
    exact at?_none.1 hk b hb he

@[simp] theorem mem_add [DecidableEq κ] (f : Nat → α)
    (hf : ∀ n, num (f n) = n) (hk : t.at? (key (f t.next)) = none) :
    a ∈ t.add f hf hk ↔ a ∈ t ∨ a = f t.next := by
  simp [add, mem_def, Registry.add]

def keep (t : Catalog num key) (p : α → Bool) : Catalog num key where
  toRegistry := t.toRegistry.keep p
  keys := t.keys.sublist (List.filter_sublist.map _)

@[simp] theorem mem_keep : a ∈ t.keep p ↔ a ∈ t ∧ p a = true := Registry.mem_keep

def update (t : Catalog num key) (f : α → α) (hf : ∀ a, num (f a) = num a)
    (hk : ∀ a, key (f a) = key a) : Catalog num key where
  toRegistry := t.toRegistry.update f hf
  keys := by
    have hm : t.rows.map (key ∘ f) = t.rows.map key := List.map_congr_left fun a _ => hk a
    simp only [Registry.update, Table.update, List.map_map, hm]
    exact t.keys

theorem mem_update : b ∈ t.update f hf hk ↔ ∃ a ∈ t, f a = b := by
  simp [update, mem_def, Registry.update, Table.update]

end Catalog
end Stores
