import Mathlib.Algebra.Ring.Int.Defs
import Mathlib.Algebra.Ring.Nat
import Mathlib.Data.List.Basic
import Mathlib.Data.List.Infix

namespace GoLib

/-- A Go string: a sequence of bytes, not necessarily valid UTF-8. -/
abbrev Str := List UInt8

instance : LawfulBEq Str := inferInstance

/-- String literals stand for their UTF-8 bytes. -/
instance : Coe String Str := ⟨fun s => s.toByteArray.data.toList⟩

/-- `fmt.Sprintf`, with the format already cut at its verbs. -/
def sprintf (parts : List Str) : Str := parts.flatten

/-- `strings.Cut`: the text before and after the first occurrence of the separator. -/
def cut (sep : Str) : Str → Option (Str × Str)
  | [] => if sep = [] then some ([], []) else none
  | c :: cs =>
    if sep.isPrefixOf (c :: cs) then some ([], (c :: cs).drop sep.length)
    else (cut sep cs).map fun p => (c :: p.1, p.2)

/-- `strings.Contains`. -/
def contains (s sub : Str) : Bool := (cut sub s).isSome

/-- `strings.HasPrefix`. -/
def startsWith (s pre : Str) : Bool := pre.isPrefixOf s

/-- `strings.HasSuffix`. -/
def endsWith (s suf : Str) : Bool := suf.isSuffixOf s

/-- `strings.TrimSuffix`. -/
def trimSuffix (s suf : Str) : Str := if endsWith s suf then s.take (s.length - suf.length) else s

def splitFuel (sep : Str) : Nat → Str → List Str
  | 0, s => [s]
  | n + 1, s =>
    match cut sep s with
    | none => [s]
    | some (a, b) => a :: splitFuel sep n b

/-- `strings.Split` for a non-empty separator. Every cut consumes a byte, so the length of the text
bounds the number of cuts. -/
def split (s sep : Str) : List Str := splitFuel sep s.length s

/-- `strings.Join`. -/
def joinWith (sep : Str) : List Str → Str
  | [] => []
  | [s] => s
  | s :: t :: ts => s ++ sep ++ joinWith sep (t :: ts)

/-- ASCII part of `strings.ToLower`. -/
def toLower (s : Str) : Str := s.map fun c => if 65 ≤ c ∧ c ≤ 90 then c + 32 else c

/-- `strings.EqualFold` against ASCII text. -/
def equalFold (s t : Str) : Bool := toLower s == toLower t

/-- `strings.ReplaceAll` of one byte by another. -/
def replaceByte (s : Str) (old new : UInt8) : Str := s.map fun c => if c = old then new else c

def isSpace (c : UInt8) : Bool := c == 32 || (9 ≤ c && c ≤ 13)

/-- ASCII part of `strings.TrimSpace`. -/
def trimSpace (s : Str) : Str := ((s.dropWhile isSpace).reverse.dropWhile isSpace).reverse

/-- `strconv.ParseBool`; `none` is its error. -/
def parseBool (s : Str) : Option Bool :=
  if s ∈ [("1" : Str), ("t" : Str), ("T" : Str), ("TRUE" : Str), ("true" : Str), ("True" : Str)]
  then some true
  else if s ∈ [("0" : Str), ("f" : Str), ("F" : Str), ("FALSE" : Str), ("false" : Str),
      ("False" : Str)]
  then some false
  else none

def digitByte (c : Char) : UInt8 := UInt8.ofNat c.toNat

def natToStr (n : Nat) : Str := (Nat.toDigits 10 n).map digitByte

/-- `strconv.Itoa`. -/
def itoa : Int → Str
  | .ofNat n => natToStr n
  | .negSucc n => 45 :: natToStr (n + 1)

def isDigit (c : UInt8) : Bool := 48 ≤ c && c ≤ 57

/-- Decimal digits to a number; `none` for an empty text or another byte. -/
def parseDigits (s : Str) : Option Nat :=
  if s ≠ [] ∧ s.all isDigit then some (s.foldl (fun n c => 10 * n + (c.toNat - 48)) 0) else none

/-- `strconv.ParseInt(s, 10, 64)`, which is also `strconv.Atoi`; `none` is its error. -/
def parseInt64 : Str → Option Int
  | [] => none
  | c :: cs =>
    if c = 45 then
      (parseDigits cs).bind fun n => if n ≤ 2 ^ 63 then some (-(n : Int)) else none
    else if c = 43 then
      (parseDigits cs).bind fun n => if n < 2 ^ 63 then some (n : Int) else none
    else (parseDigits (c :: cs)).bind fun n => if n < 2 ^ 63 then some (n : Int) else none

/-- The text of the error of `strconv.Atoi` on a text that it rejects. -/
def atoiError (s : Str) : Str :=
  let digits := if s.head? = some 45 ∨ s.head? = some 43 then s.tail else s
  sprintf ["strconv.Atoi: parsing \"", s, "\": ",
    if (parseDigits digits).isSome then "value out of range" else "invalid syntax"]

/-- The first occurrence of the separator in `t` followed by the separator is the one
after `t`. -/
def Separable (sep t : Str) : Prop := cut sep (t ++ sep) = some (t, [])

instance (sep t : Str) : Decidable (Separable sep t) :=
  inferInstanceAs (Decidable (_ = _))

theorem separable_of_not_mem (h : c ∉ t) : Separable (c :: cs) t := by
  induction t with
  | nil => simp [Separable, cut]
  | cons d ds ih =>
    simp only [List.mem_cons, not_or] at h
    have hds := ih h.2
    unfold Separable at hds ⊢
    rw [List.cons_append, cut, if_neg (by simp [h.1]), hds]
    rfl

theorem Separable.of_cons (h : Separable sep (c :: cs)) :
    ¬ sep.isPrefixOf (c :: (cs ++ sep)) = true ∧ Separable sep cs := by
  have h' : cut sep (c :: (cs ++ sep)) = some (c :: cs, []) := h
  rw [cut] at h'
  split at h'
  · simp at h'
  rename_i hp
  refine ⟨hp, ?_⟩
  unfold Separable
  cases hc : cut sep (cs ++ sep) with
  | none => simp [hc] at h'
  | some p =>
    obtain ⟨a, b⟩ := p
    simp only [hc, Option.map_some, Option.some.injEq, Prod.mk.injEq, List.cons.injEq] at h'
    obtain ⟨⟨_, ha⟩, hb⟩ := h'
    rw [ha, hb]

theorem cut_append (sep rest : Str) (t : Str) (h : Separable sep t) :
    cut sep (t ++ (sep ++ rest)) = some (t, rest) := by
  induction t with
  | nil =>
    cases sep with
    | nil => cases rest <;> simp [cut]
    | cons c cs => simp [cut]
  | cons c cs ih =>
    obtain ⟨hp, hcs⟩ := h.of_cons
    -- the separator cannot start inside `t` now that more text follows it
    have hp' : ¬ sep.isPrefixOf (c :: (cs ++ (sep ++ rest))) = true := by
      intro hq
      apply hp
      rw [ List.isPrefixOf_iff_prefix] at hq ⊢
      apply List.prefix_of_prefix_length_le hq
      · exact ⟨rest, by simp⟩
      · simp only [List.length_cons, List.length_append]
        omega
    rw [List.cons_append, cut, if_neg hp', ih hcs]
    rfl

theorem cut_eq_append (h : cut sep s = some (a, b)) : s = a ++ (sep ++ b) := by
  induction s generalizing a with
  | nil =>
    rw [cut] at h
    split at h
    · rename_i he
      simp only [Option.some.injEq, Prod.mk.injEq] at h
      rw [he, ← h.1, ← h.2]
      rfl
    · cases h
  | cons c cs ih =>
    rw [cut] at h
    split at h
    · rename_i hp
      simp only [Option.some.injEq, Prod.mk.injEq] at h
      rw [ List.isPrefixOf_iff_prefix] at hp
      obtain ⟨t, ht⟩ := hp
      rw [← h.1, ← h.2, ← ht]
      simp
    · cases hc : cut sep cs with
      | none => simp [hc] at h
      | some p =>
        obtain ⟨a', b'⟩ := p
        simp only [hc, Option.map_some, Option.some.injEq, Prod.mk.injEq] at h
        obtain ⟨ha, hb⟩ := h
        subst ha hb
        rw [List.cons_append, ih hc]

theorem cut_isSome_append (sep a b : Str) : (cut sep (a ++ (sep ++ b))).isSome = true := by
  induction a with
  | nil =>
    cases sep with
    | nil => cases b <;> simp [cut]
    | cons c cs => simp [cut]
  | cons c cs ih =>
    rw [List.cons_append, cut]
    split
    · rfl
    · rw [Option.isSome_map]
      exact ih

theorem contains_iff : contains s sub = true ↔ ∃ a b, s = a ++ (sub ++ b) := by
  constructor
  · intro h
    obtain ⟨⟨a, b⟩, hp⟩ := Option.isSome_iff_exists.1 h
    exact ⟨a, b, cut_eq_append hp⟩
  · rintro ⟨a, b, rfl⟩
    exact cut_isSome_append sub a b

theorem contains_trans (h : contains s t = true) (h' : contains t u = true) :
    contains s u = true := by
  obtain ⟨a, b, rfl⟩ := contains_iff.1 h
  obtain ⟨c, d, rfl⟩ := contains_iff.1 h'
  exact contains_iff.2 ⟨a ++ c, d ++ b, by simp⟩

theorem contains_of_startsWith (h : startsWith s t = true) : contains s t = true := by
  obtain ⟨b, rfl⟩ := List.isPrefixOf_iff_prefix.1 h
  exact contains_iff.2 ⟨[], b, rfl⟩

theorem cut_shorter (hs : sep ≠ []) (h : cut sep s = some (a, b)) :
    ∃ m, s.length = m + 1 ∧ b.length ≤ m := by
  have he := congrArg List.length (cut_eq_append h)
  simp only [List.length_append] at he
  have hpos : 0 < sep.length := List.length_pos_iff.mpr hs
  exact ⟨s.length - 1, by omega, by omega⟩

theorem splitFuel_length (hs : sep ≠ []) (n : Nat) (s : Str) (hn : s.length ≤ n) :
    splitFuel sep n s = splitFuel sep s.length s := by
  induction n using Nat.strong_induction_on generalizing s with
  | _ n ih =>
    cases n with
    | zero => rw [Nat.le_zero.mp hn]
    | succ n =>
      cases hc : cut sep s with
      | none => cases hl : s.length <;> simp [splitFuel, hc]
      | some p =>
        obtain ⟨m, hm, hb⟩ := cut_shorter hs hc
        rw [hm, splitFuel, splitFuel, hc]
        simp only [List.cons.injEq, true_and]
        rw [ih n (by omega) p.2 (by omega), ih m (by omega) p.2 hb]

theorem split_eq (hs : sep ≠ []) (s : Str) : split s sep = match cut sep s with
      | none => [s]
      | some p => p.1 :: split p.2 sep := by
  cases hc : cut sep s with
  | none => cases hl : s.length <;> simp [split, splitFuel, hc, hl]
  | some p =>
    obtain ⟨m, hm, hb⟩ := cut_shorter hs hc
    simp only [split, hm, splitFuel, hc, List.cons.injEq, true_and]
    exact splitFuel_length hs m p.2 hb

theorem split_separable (h : Separable sep t) (hs : sep ≠ []) (rest : Str) :
    split (t ++ (sep ++ rest)) sep = t :: split rest sep := by
  rw [split_eq hs, cut_append sep rest t h]

theorem Separable.cut_eq_none (h : Separable sep t) (hs : sep ≠ []) : cut sep t = none := by
  induction t with
  | nil => simp [cut, hs]
  | cons c cs ih =>
    obtain ⟨hp, hcs⟩ := h.of_cons
    have hshort : ¬ sep.isPrefixOf (c :: cs) = true := by
      intro hq
      apply hp
      rw [ List.isPrefixOf_iff_prefix] at hq ⊢
      exact hq.trans ⟨sep, rfl⟩
    rw [cut, if_neg hshort, ih hcs]
    rfl

theorem split_of_not_contains (h : contains t sep = false) (hs : sep ≠ []) : split t sep = [t] := by
  have hcut : cut sep t = none := Option.isSome_eq_false_iff.1 h |> Option.isNone_iff_eq_none.1
  rw [split_eq hs, hcut]

theorem Separable.not_contains (h : Separable sep t) (hs : sep ≠ []) : contains t sep = false := by
  rw [contains, h.cut_eq_none hs]
  rfl

theorem split_last (h : Separable sep t) (hs : sep ≠ []) : split t sep = [t] :=
  split_of_not_contains (h.not_contains hs) hs

theorem split_append_byte (c : UInt8) (a b : Str) :
    split (a ++ c :: b) [c] = split a [c] ++ split b [c] := by
  have hfirst : ∀ x rest : Str, c ∉ x → split (x ++ c :: rest) [c] = x :: split rest [c] :=
    fun x rest hx => split_separable (separable_of_not_mem hx) (List.cons_ne_nil c []) rest
  induction hn : a.length using Nat.strong_induction_on generalizing a with
  | _ n ih =>
    by_cases hmem : c ∈ a
    · obtain ⟨x, rest, rfl, hx⟩ := List.eq_append_cons_of_mem hmem
      have hshort : rest.length < n := by
        rw [← hn, List.length_append, List.length_cons]
        omega
      rw [List.append_assoc, List.cons_append, hfirst x _ hx, hfirst x _ hx, ih _ hshort rest rfl]
      rfl
    · rw [hfirst a b hmem, split_last (separable_of_not_mem hmem) (List.cons_ne_nil c [])]
      rfl

theorem split_getLastD_eq_iff (c : UInt8) (s t : Str) :
    (split s [c]).getLastD [] = t ↔ c ∉ t ∧ (s = t ∨ c :: t <:+ s) := by
  have hone {x : Str} (hx : c ∉ x) : split x [c] = [x] :=
    split_last (separable_of_not_mem hx) (List.cons_ne_nil c [])
  by_cases hmem : c ∈ s
  · obtain ⟨b, a, hrev, hb⟩ := List.eq_append_cons_of_mem (List.mem_reverse.2 hmem)
    have hs : s = a.reverse ++ c :: b.reverse := by
      rw [← List.reverse_reverse s, hrev]
      simp
    have hlast : (split s [c]).getLastD [] = b.reverse := by
      have hpiece : split b.reverse [c] = [b.reverse] := hone (by simpa using hb)
      rw [hs, split_append_byte, hpiece]
      simp
    rw [hlast]
    constructor
    · rintro rfl
      exact ⟨by simpa using hb, .inr ⟨a.reverse, hs.symm⟩⟩
    · rintro ⟨ht, rfl | ⟨x, hx⟩⟩
      · exact absurd hmem ht
      -- neither of the two texts behind a separator has one in it
      rw [hs] at hx
      have hr := congrArg List.reverse hx
      simp only [List.reverse_append, List.reverse_cons, List.reverse_reverse, List.append_assoc,
        List.singleton_append] at hr
      have hpieces {u v : Str} (hu : c ∉ u) (w : Str) (hv : c ∉ v) (z : Str)
          (h : u ++ c :: w = v ++ c :: z) : u = v := by
        have htake {y : Str} (hy : c ∉ y) (w : Str) : (y ++ c :: w).takeWhile (· != c) = y := by
          rw [List.takeWhile_append_of_pos]
          · simp
          intro d hd
          simp only [bne_iff_ne]
          rintro rfl
          exact hy hd
        rw [← htake hu w, h, htake hv z]
      have heq := hpieces (by simpa using ht) _ hb _ hr
      rw [← List.reverse_reverse t, heq]
  · rw [hone hmem]
    constructor
    · rintro rfl
      exact ⟨hmem, .inl rfl⟩
    · rintro ⟨-, rfl | ⟨x, rfl⟩⟩
      · rfl
      · simp at hmem

theorem joinWith_concat (sep s : Str) (h : ts ≠ []) :
    joinWith sep (ts ++ [s]) = joinWith sep ts ++ (sep ++ s) := by
  induction ts with
  | nil => exact absurd rfl h
  | cons t ts ih =>
    cases ts with
    | nil => simp [joinWith]
    | cons u us =>
      have hrest := ih (List.cons_ne_nil u us)
      rw [List.cons_append] at hrest
      simp [joinWith, hrest]

theorem digitByte_toNat (h : c.isDigit) : (digitByte c).toNat = c.toNat := by
  have hc : c.toNat ≤ 57 := by
    simp only [Char.isDigit, ge_iff_le, Bool.and_eq_true, decide_eq_true_eq] at h
    exact h.2
  simp only [digitByte, UInt8.toNat_ofNat']
  omega

theorem isDigit_digitByte (h : c.isDigit) : isDigit (digitByte c) = true := by
  have hn := digitByte_toNat h
  simp only [Char.isDigit, ge_iff_le, Bool.and_eq_true, decide_eq_true_eq] at h
  have h₁ : 48 ≤ c.toNat := h.1
  have h₂ : c.toNat ≤ 57 := h.2
  simp only [isDigit, Bool.and_eq_true, decide_eq_true_eq, UInt8.le_iff_toNat_le, hn]
  exact ⟨h₁, h₂⟩

theorem parseDigits_natToStr (n : Nat) : parseDigits (natToStr n) = some n := by
  have hd : ∀ c ∈ Nat.toDigits 10 n, c.isDigit := fun c hc =>
    Nat.isDigit_of_mem_toDigits (by decide) (by decide) hc
  have hne : natToStr n ≠ [] := by simp [natToStr]
  have hall : (natToStr n).all isDigit = true := by
    simp only [natToStr, List.all_map, List.all_eq_true, Function.comp_apply]
    exact fun c hc => isDigit_digitByte (hd c hc)
  have hfold : ∀ (cs : List Char) (k : Nat), (∀ c ∈ cs, c.isDigit) →
      (cs.map digitByte).foldl (fun n c => 10 * n + (c.toNat - 48)) k = Nat.ofDigitChars 10 cs k := by
    intro cs
    induction cs with
    | nil => intro k _; simp
    | cons c cs ih =>
      intro k h
      rw [Nat.ofDigitChars_cons, ← ih _ fun c' hc' => h c' (List.mem_cons_of_mem _ hc'),
        List.map_cons, List.foldl_cons, digitByte_toNat (h c List.mem_cons_self)]
      rfl
  rw [parseDigits, if_pos ⟨hne, hall⟩, natToStr, hfold _ 0 hd,
    Nat.ofDigitChars_toDigits (by decide) (by decide)]

theorem natToStr_injective (h : natToStr m = natToStr n) : m = n := by
  have hm := parseDigits_natToStr m
  rw [h, parseDigits_natToStr, Option.some.injEq] at hm
  exact hm.symm

theorem natToStr_digits (h : c ∈ natToStr n) : isDigit c = true := by
  simp only [natToStr, List.mem_map] at h
  obtain ⟨d, hd, rfl⟩ := h
  exact isDigit_digitByte (Nat.isDigit_of_mem_toDigits (by decide) (by decide) hd)

theorem natToStr_cons (n : Nat) : ∃ c cs, natToStr n = c :: cs ∧ isDigit c = true := by
  cases h : natToStr n with
  | nil => simp [natToStr] at h
  | cons c cs => exact ⟨c, cs, rfl, natToStr_digits (h ▸ List.mem_cons_self)⟩

theorem parseInt64_natToStr (n : Nat) :
    parseInt64 (natToStr n) = if n < 2 ^ 63 then some (n : Int) else none := by
  obtain ⟨c, cs, hc, hd⟩ := natToStr_cons n
  have h45 : c ≠ 45 := by rintro rfl; simp [isDigit] at hd
  have h43 : c ≠ 43 := by rintro rfl; simp [isDigit] at hd
  rw [hc, parseInt64, if_neg h45, if_neg h43, ← hc, parseDigits_natToStr]
  rfl

theorem parseInt64_itoa (n : Int) (hlo : -2 ^ 63 ≤ n) (hhi : n < 2 ^ 63) :
    parseInt64 (itoa n) = some n := by
  cases n with
  | ofNat n =>
    have hn : n < 2 ^ 63 := by
      change (n : Int) < 2 ^ 63 at hhi
      omega
    rw [itoa, parseInt64_natToStr, if_pos hn]
    rfl
  | negSucc n =>
    have hn : n + 1 ≤ 2 ^ 63 := by omega
    rw [itoa, parseInt64, if_pos rfl, parseDigits_natToStr]
    simp only [Option.bind_some, if_pos hn, Option.some.injEq]
    rfl

theorem eq_of_parseInt64_itoa (h : parseInt64 (itoa n) = some m) : m = n := by
  cases n with
  | ofNat n =>
    rw [itoa, parseInt64_natToStr] at h
    split at h
    · exact (Option.some.inj h).symm
    · cases h
  | negSucc n =>
    rw [itoa, parseInt64, if_pos rfl, parseDigits_natToStr, Option.bind_some] at h
    split at h
    · exact (Option.some.inj h).symm
    · cases h

theorem itoa_digits (h : c ∈ itoa n) : c = 45 ∨ isDigit c = true := by
  cases n with
  | ofNat n => exact .inr (natToStr_digits h)
  | negSucc n =>
    rcases List.mem_cons.mp h with h | h
    · exact .inl h
    · exact .inr (natToStr_digits h)

theorem itoa_injective (h : itoa m = itoa n) : m = n := by
  have hsign (a b : Nat) : natToStr a ≠ 45 :: natToStr (b + 1) := by
    intro heq
    have hdigit := natToStr_digits (heq ▸ List.mem_cons_self)
    exact absurd hdigit (by decide)
  cases m with
  | ofNat m =>
    cases n with
    | ofNat n => exact congrArg Int.ofNat (natToStr_injective h)
    | negSucc n => exact (hsign m n h).elim
  | negSucc m =>
    cases n with
    | ofNat n => exact (hsign n m h.symm).elim
    | negSucc n =>
      have hmn := natToStr_injective (List.cons.inj h).2
      rw [Nat.succ_injective hmn]

theorem wrap_bounds (x : Int) : -2 ^ 63 ≤ x.bmod (2 ^ 64) ∧ x.bmod (2 ^ 64) < 2 ^ 63 := by
  have hlo := Int.le_bmod (x := x) (m := 2 ^ 64) (by decide)
  have hhi := Int.bmod_lt (x := x) (m := 2 ^ 64) (by decide)
  constructor
  · exact hlo
  · exact hhi

theorem wrap_eq_iff : x.bmod (2 ^ 64) = x ↔ -2 ^ 63 ≤ x ∧ x < 2 ^ 63 := by
  constructor
  · intro h
    rw [← h]
    exact wrap_bounds x
  · rintro ⟨hlo, hhi⟩
    apply Int.bmod_eq_of_le
    · exact hlo
    · exact hhi

theorem wrap_ne_add (hx : ¬ (-2 ^ 63 ≤ x ∧ x < 2 ^ 63)) (hlo : -2 ^ 64 < y) (hhi : y < 2 ^ 64) :
    x.bmod (2 ^ 64) ≠ x + y := by
  intro h
  have hdvd : ((2 ^ 64 : Nat) : Int) ∣ y := by
    have := Int.dvd_bmod_sub_self (x := x) (m := 2 ^ 64)
    rwa [h, add_sub_cancel_left] at this
  obtain rfl : y = 0 := by
    obtain ⟨k, rfl⟩ := hdvd
    omega
  rw [add_zero] at h
  exact hx (wrap_eq_iff.1 h)

end GoLib
