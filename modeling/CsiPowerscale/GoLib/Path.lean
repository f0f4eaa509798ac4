import CsiPowerscale.GoLib.Strings

namespace GoLib

def slash : UInt8 := 47
def dot : Str := [46]
def dotDot : Str := [46, 46]

/-- The elements of a path: `strings.Split(p, "/")`. -/
def pathSplit : Str → List Str
  | [] => [[]]
  | c :: cs =>
    if c = slash then [] :: pathSplit cs
    else match pathSplit cs with
      | [] => [[c]]
      | w :: ws => (c :: w) :: ws

/-- Resolve the `..` elements from left to right over a stack of kept elements. -/
def resolve (rooted : Bool) : List Str → List Str → List Str
  | stack, [] => stack.reverse
  | stack, x :: xs =>
    if x = dotDot then
      match stack with
      | [] => if rooted then resolve rooted [] xs else resolve rooted [dotDot] xs
      | y :: ys =>
        if y = dotDot then resolve rooted (dotDot :: y :: ys) xs else resolve rooted ys xs
    else resolve rooted (x :: stack) xs

def segments (p : Str) : List Str := (pathSplit p).filter fun x => x ≠ [] ∧ x ≠ dot

/-- `path.Clean`. -/
def clean (p : Str) : Str :=
  match p with
  | [] => dot
  | c :: cs =>
    if c = slash then slash :: joinWith [slash] (resolve true [] (segments (c :: cs)))
    else match resolve false [] (segments (c :: cs)) with
      | [] => dot
      | x :: xs => joinWith [slash] (x :: xs)

/-- `path.Join`: empty elements are ignored. -/
def join (elems : List Str) : Str :=
  match elems.filter fun e => e ≠ [] with
  | [] => []
  | x :: xs => clean (joinWith [slash] (x :: xs))

def upToLastSlash (p : Str) : Str := (p.reverse.dropWhile fun c => c != slash).reverse

def afterLastSlash (p : Str) : Str := (p.reverse.takeWhile fun c => c != slash).reverse

/-- `path.Dir`. -/
def dir (p : Str) : Str := clean (upToLastSlash p)

/-- `path.Base`. -/
def baseName (p : Str) : Str :=
  let last := afterLastSlash (p.reverse.dropWhile fun c => c == slash).reverse
  if p = [] then dot else if last = [] then [slash] else last

/-- A path element that survives `path.Clean` as it is. -/
structure Plain (x : Str) : Prop where
  nonempty : x ≠ []
  no_slash : slash ∉ x
  not_dot : x ≠ dot
  not_dotDot : x ≠ dotDot

instance (x : Str) : Decidable (Plain x) :=
  decidable_of_iff (x ≠ [] ∧ slash ∉ x ∧ x ≠ dot ∧ x ≠ dotDot)
    ⟨fun h => ⟨h.1, h.2.1, h.2.2.1, h.2.2.2⟩,
      fun h => ⟨h.nonempty, h.no_slash, h.not_dot, h.not_dotDot⟩⟩

def absPath (xs : List Str) : Str := slash :: joinWith [slash] xs

def CleanAbs (p : Str) : Prop := ∃ xs, (∀ x ∈ xs, Plain x) ∧ p = absPath xs

theorem pathSplit_ne_nil (s : Str) : pathSplit s ≠ [] := by
  cases s with
  | nil => simp [pathSplit]
  | cons c cs =>
    rw [pathSplit]
    split
    · simp
    · split <;> simp

theorem pathSplit_no_slash (h : slash ∉ x) : pathSplit x = [x] := by
  induction x with
  | nil => rfl
  | cons c cs ih =>
    have hc : c ≠ slash := fun he => h (he ▸ List.mem_cons_self)
    have hcs : slash ∉ cs := fun hm => h (List.mem_cons_of_mem _ hm)
    rw [pathSplit, if_neg hc, ih hcs]

theorem pathSplit_append (s t : Str) :
    pathSplit (s ++ slash :: t) = pathSplit s ++ pathSplit t := by
  induction s with
  | nil => simp [pathSplit]
  | cons c cs ih =>
    by_cases hc : c = slash
    · simp [pathSplit, hc, ih]
    simp only [List.cons_append, pathSplit, if_neg hc, ih]
    cases hp : pathSplit cs with
    | nil => exact (pathSplit_ne_nil cs hp).elim
    | cons w ws => rfl

theorem joinWith_cons (x : Str) (xs : List Str) (h : xs ≠ []) :
    joinWith [slash] (x :: xs) = x ++ slash :: joinWith [slash] xs := by
  cases xs with
  | nil => exact (h rfl).elim
  | cons y ys => simp [joinWith]

theorem pathSplit_joinWith (xs : List Str) (hxs : ∀ x ∈ xs, slash ∉ x) (hne : xs ≠ []) :
    pathSplit (joinWith [slash] xs) = xs := by
  induction xs with
  | nil => exact (hne rfl).elim
  | cons x xs ih =>
    have hx := hxs x List.mem_cons_self
    cases xs with
    | nil => simpa [joinWith] using pathSplit_no_slash hx
    | cons y ys =>
      rw [joinWith_cons _ _ (by simp), pathSplit_append, pathSplit_no_slash hx,
        List.singleton_append, ih (fun z hz => hxs z (List.mem_cons_of_mem _ hz)) (by simp)]

theorem filter_plain (xs : List Str) (h : ∀ x ∈ xs, Plain x) :
    xs.filter (fun x => x ≠ [] ∧ x ≠ dot) = xs := by
  rw [List.filter_eq_self]
  intro x hx
  simpa using ⟨(h x hx).nonempty, (h x hx).not_dot⟩

theorem segments_absPath (xs : List Str) (h : ∀ x ∈ xs, Plain x) : segments (absPath xs) = xs := by
  cases xs with
  | nil => decide
  | cons x xs =>
    rw [segments, absPath, pathSplit, if_pos rfl,
      pathSplit_joinWith _ (fun y hy => (h y hy).no_slash) (by simp)]
    exact filter_plain _ h

theorem resolve_cons_of_ne {x : Str} (h : x ≠ dotDot) (r : Bool) (stack xs : List Str) :
    resolve r stack (x :: xs) = resolve r (x :: stack) xs := by
  cases stack <;> simp [resolve, h]

theorem resolve_plain (r : Bool) (stack xs : List Str) (h : ∀ x ∈ xs, Plain x) :
    resolve r stack xs = stack.reverse ++ xs := by
  induction xs generalizing stack with
  | nil => simp [resolve]
  | cons x xs ih =>
    rw [resolve_cons_of_ne (h x List.mem_cons_self).not_dotDot,
      ih _ fun y hy => h y (List.mem_cons_of_mem _ hy)]
    simp

theorem clean_absPath (xs : List Str) (h : ∀ x ∈ xs, Plain x) : clean (absPath xs) = absPath xs := by
  have hs := segments_absPath xs h
  rw [absPath] at hs ⊢
  rw [clean, if_pos rfl, hs, resolve_plain true [] xs h]
  rfl

/-- The directory part of a clean absolute path, closed by a slash. -/
def absBase (xs : List Str) : Str := if xs = [] then [slash] else absPath xs ++ [slash]

theorem absPath_concat (xs : List Str) (x : Str) : absPath (xs ++ [x]) = absBase xs ++ x := by
  by_cases h : xs = []
  · subst h
    simp [absBase, absPath, joinWith]
  · simp [absBase, h, absPath, joinWith_concat [slash] x h]

theorem segments_append (s t : Str) : segments (s ++ slash :: t) = segments s ++ segments t := by
  rw [segments, pathSplit_append, List.filter_append]
  rfl

theorem takeWhile_ne_slash (h : slash ∉ u) :
    (u ++ slash :: v).takeWhile (fun c => c != slash) = u := by
  induction u with
  | nil => simp
  | cons c cs ih =>
    simp only [List.mem_cons, not_or] at h
    simp [Ne.symm h.1, ih h.2]

theorem dropWhile_ne_slash (h : slash ∉ u) :
    (u ++ slash :: v).dropWhile (fun c => c != slash) = slash :: v := by
  induction u with
  | nil => simp
  | cons c cs ih =>
    simp only [List.mem_cons, not_or] at h
    simp [Ne.symm h.1, ih h.2]

theorem upToLastSlash_append (h : slash ∉ v) (u : Str) :
    upToLastSlash (u ++ slash :: v) = u ++ [slash] := by
  have hr : (u ++ slash :: v).reverse = v.reverse ++ slash :: u.reverse := by simp
  rw [upToLastSlash, hr, dropWhile_ne_slash (by simpa using h)]
  simp

theorem afterLastSlash_append (h : slash ∉ v) (u : Str) : afterLastSlash (u ++ slash :: v) = v := by
  have hr : (u ++ slash :: v).reverse = v.reverse ++ slash :: u.reverse := by simp
  rw [afterLastSlash, hr, takeWhile_ne_slash (by simpa using h)]
  simp

theorem upToLastSlash_afterLastSlash (s : Str) : upToLastSlash s ++ afterLastSlash s = s := by
  rw [upToLastSlash, afterLastSlash, ← List.reverse_append, List.takeWhile_append_dropWhile,
    List.reverse_reverse]

theorem slash_not_mem_afterLastSlash (s : Str) : slash ∉ afterLastSlash s := by
  intro h
  have hall := List.all_eq_true.1 (List.all_takeWhile ..) slash (List.mem_reverse.1 h)
  simp at hall

theorem upToLastSlash_end (s : Str) :
    upToLastSlash s = [] ∨ (upToLastSlash s).getLast? = some slash := by
  rw [upToLastSlash, List.reverse_eq_nil_iff, List.getLast?_reverse]
  cases hdrop : s.reverse.dropWhile fun c => c != slash with
  | nil => exact .inl rfl
  | cons c cs =>
    right
    have hhead := List.head?_dropWhile_not (fun c => c != slash) s.reverse
    rw [hdrop] at hhead
    simpa using hhead

/-- A path that starts at the root. -/
def Rooted (p : Str) : Prop := p.head? = some slash

instance (p : Str) : Decidable (Rooted p) := inferInstanceAs (Decidable (_ = _))

theorem Rooted.append (h : Rooted p) (q : Str) : Rooted (p ++ q) := by
  cases p with
  | nil => cases h
  | cons c cs => exact h

theorem clean_rooted (h : Rooted p) : clean p = absPath (resolve true [] (segments p)) := by
  cases p with
  | nil => cases h
  | cons c cs =>
    obtain rfl : c = slash := by simpa [Rooted] using h
    rw [clean, if_pos rfl, absPath]

theorem segments_joinWith (x : Str) (xs : List Str) :
    segments (joinWith [slash] (x :: xs)) = segments x ++ xs.flatMap segments := by
  induction xs generalizing x with
  | nil => simp [joinWith]
  | cons y ys ih => rw [joinWith_cons _ _ (by simp), segments_append, ih, List.flatMap_cons]

theorem flatMap_segments_filter (xs : List Str) :
    (xs.filter fun e => e ≠ []).flatMap segments = xs.flatMap segments := by
  induction xs with
  | nil => rfl
  | cons x xs ih =>
    by_cases h : x = []
    · subst h
      rw [List.filter_cons_of_neg (by simp), ih, List.flatMap_cons]
      rfl
    · rw [List.filter_cons_of_pos (by simpa using h), List.flatMap_cons, ih, List.flatMap_cons]

theorem join_rooted {x : Str} (h : Rooted x) (xs : List Str) :
    join (x :: xs) = absPath (resolve true [] (segments x ++ xs.flatMap segments)) := by
  obtain ⟨cs, rfl⟩ : ∃ cs, x = slash :: cs := by
    cases x with
    | nil => cases h
    | cons c cs => exact ⟨cs, by simpa [Rooted] using h⟩
  have hroot : ∀ ys, Rooted (joinWith [slash] ((slash :: cs) :: ys)) := by
    intro ys
    cases ys <;> rfl
  rw [join, List.filter_cons_of_pos (by simp)]
  dsimp only
  rw [clean_rooted (hroot _), segments_joinWith, flatMap_segments_filter]

theorem split_slash (s : Str) : split s [slash] = pathSplit s := by
  have hs : [slash] ≠ [] := by simp
  induction s with
  | nil => rfl
  | cons c cs ih =>
    rw [split_eq hs] at ih ⊢
    by_cases hc : c = slash
    · subst hc
      have hcut : cut [slash] (slash :: cs) = some ([], cs) := by simp [cut]
      rw [hcut, pathSplit, if_pos rfl, ← ih, ← split_eq hs]
    have hcut : cut [slash] (c :: cs) = (cut [slash] cs).map fun p => (c :: p.1, p.2) := by
      rw [cut, if_neg (by simp [Ne.symm hc])]
    rw [hcut, pathSplit, if_neg hc, ← ih]
    cases cut [slash] cs <;> rfl

theorem pathSplit_pieces (h : x ∈ pathSplit s) : slash ∉ x := by
  induction s generalizing x with
  | nil =>
    obtain rfl : x = [] := by simpa [pathSplit] using h
    simp
  | cons c cs ih =>
    rw [pathSplit] at h
    split at h
    · rcases List.mem_cons.1 h with rfl | h
      · simp
      · exact ih h
    rename_i hc
    split at h
    · obtain rfl : x = [c] := by simpa using h
      simpa using Ne.symm hc
    rename_i w ws hw
    rcases List.mem_cons.1 h with rfl | h
    · have := ih (hw ▸ List.mem_cons_self)
      simp [Ne.symm hc, this]
    · exact ih (hw ▸ List.mem_cons_of_mem _ h)

theorem resolve_concat (h : x ≠ dotDot) (r : Bool) (stack xs : List Str) :
    resolve r stack (xs ++ [x]) = resolve r stack xs ++ [x] := by
  induction xs generalizing stack with
  | nil => rw [List.nil_append, resolve_cons_of_ne h]; simp [resolve]
  | cons y ys ih =>
    rw [List.cons_append]
    cases stack with
    | nil =>
      rw [resolve, resolve]
      split
      · split <;> exact ih _
      · exact ih _
    | cons z zs =>
      rw [resolve, resolve]
      split
      · split <;> exact ih _
      · exact ih _

theorem resolve_segments_plain (p : Str) : ∀ x ∈ resolve true [] (segments p), Plain x := by
  have hstack : ∀ (xs stack : List Str), (∀ x ∈ xs, x ≠ [] ∧ slash ∉ x ∧ x ≠ dot) →
      (∀ x ∈ stack, Plain x) → ∀ x ∈ resolve true stack xs, Plain x := by
    intro xs
    induction xs with
    | nil => intro stack _ hst x hx; exact hst x (by simpa [resolve] using hx)
    | cons y ys ih =>
      intro stack hxs hst
      have hys := fun z hz => hxs z (List.mem_cons_of_mem _ hz)
      by_cases hy : y = dotDot
      · subst hy
        cases stack with
        | nil => simpa [resolve] using ih [] hys hst
        | cons z zs =>
          have hz := (hst z List.mem_cons_self).not_dotDot
          rw [resolve, if_pos rfl, if_neg hz]
          exact ih zs hys fun x hx => hst x (List.mem_cons_of_mem _ hx)
      · rw [resolve_cons_of_ne hy]
        refine ih _ hys fun x hx => ?_
        rcases List.mem_cons.1 hx with rfl | hx
        · obtain ⟨hne, hsl, hdot⟩ := hxs x List.mem_cons_self
          exact ⟨hne, hsl, hdot, hy⟩
        · exact hst x hx
  refine hstack _ _ (fun x hx => ?_) (by simp)
  rw [segments, List.mem_filter] at hx
  have hne := hx.2
  simp only [decide_eq_true_eq] at hne
  exact ⟨hne.1, pathSplit_pieces hx.1, hne.2⟩

theorem Plain.segments {x : Str} (h : Plain x) : segments x = [x] := by
  rw [GoLib.segments, pathSplit_no_slash h.no_slash]
  exact filter_plain _ (by simpa using h)

theorem segments_absBase (xs : List Str) (h : ∀ x ∈ xs, Plain x) : segments (absBase xs) = xs := by
  unfold absBase
  split
  · rename_i hxs
    rw [hxs]
    decide
  · rw [segments_append, segments_absPath xs h]
    simp [segments, pathSplit]

theorem absBase_rooted (xs : List Str) : Rooted (absBase xs) := by
  unfold absBase
  split <;> rfl

theorem absBase_slash (xs : List Str) : ∃ u, absBase xs = u ++ [slash] := by
  unfold absBase
  split
  · exact ⟨[], rfl⟩
  · exact ⟨_, rfl⟩

theorem resolve_append_plain (h : ∀ b ∈ bs, b ≠ dotDot) (r : Bool) (stack xs : List Str) :
    resolve r stack (bs ++ xs) = resolve r (bs.reverse ++ stack) xs := by
  induction bs generalizing stack with
  | nil => rfl
  | cons b bs ih =>
    have hb := h b List.mem_cons_self
    rw [List.cons_append, resolve_cons_of_ne hb, ih fun c hc => h c (List.mem_cons_of_mem _ hc)]
    simp

theorem resolve_append (r : Bool) (stack xs ys : List Str) :
    resolve r stack (xs ++ ys) = resolve r (resolve r stack xs).reverse ys := by
  induction xs generalizing stack with
  | nil => simp [resolve]
  | cons x xs ih =>
    cases stack with
    | nil =>
      rw [List.cons_append, resolve, resolve]
      split
      · split <;> exact ih _
      · exact ih _
    | cons z zs =>
      rw [List.cons_append, resolve, resolve]
      split
      · split <;> exact ih _
      · exact ih _

def climb (p : Str) : Nat := ((resolve false [] (segments p)).takeWhile fun x => x = dotDot).length

def descent (p : Str) : List Str := (resolve false [] (segments p)).dropWhile fun x => x = dotDot

theorem take_reverse_cons (bs : List Str) (k : Nat) :
    bs.take (bs.length - k) = [] ∧ bs.take (bs.length - (k + 1)) = [] ∨
      ∃ b ∈ bs, (bs.take (bs.length - k)).reverse = b :: (bs.take (bs.length - (k + 1))).reverse := by
  by_cases hk : bs.length ≤ k
  · left
    have h₁ : bs.length - k = 0 := by omega
    have h₂ : bs.length - (k + 1) = 0 := by omega
    simp [h₁, h₂]
  right
  have hlt : bs.length - (k + 1) < bs.length := by omega
  have hsucc : bs.length - k = bs.length - (k + 1) + 1 := by omega
  refine ⟨bs[bs.length - (k + 1)], List.getElem_mem hlt, ?_⟩
  rw [hsucc, List.take_succ_eq_append_getElem hlt]
  simp

theorem resolve_below {bs : List Str} (hbs : ∀ b ∈ bs, b ≠ dotDot) (xs : List Str) (k : Nat)
    (ds : List Str) (hds : ∀ d ∈ ds, d ≠ dotDot) : ∃ k' ds', (∀ d ∈ ds', d ≠ dotDot) ∧
      resolve false (ds.reverse ++ List.replicate k dotDot) xs = List.replicate k' dotDot ++ ds' ∧
      resolve true (ds.reverse ++ (bs.take (bs.length - k)).reverse) xs =
        bs.take (bs.length - k') ++ ds' := by
  induction xs generalizing k ds with
  | nil => exact ⟨k, ds, hds, by simp [resolve], by simp [resolve]⟩
  | cons x xs ih =>
    by_cases hx : x = dotDot
    · subst hx
      rcases List.eq_nil_or_concat' ds with rfl | ⟨init, d, rfl⟩
      · have hfalse : resolve false ([].reverse ++ List.replicate k dotDot) (dotDot :: xs) =
            resolve false ([].reverse ++ List.replicate (k + 1) dotDot) xs := by
          cases k <;> simp [resolve, List.replicate_succ]
        have htrue : resolve true ([].reverse ++ (bs.take (bs.length - k)).reverse) (dotDot :: xs) =
            resolve true ([].reverse ++ (bs.take (bs.length - (k + 1))).reverse) xs := by
          rcases take_reverse_cons bs k with ⟨h₁, h₂⟩ | ⟨b, hb, hcons⟩
          · simp [h₁, h₂, resolve]
          · rw [List.reverse_nil, List.nil_append, List.nil_append, hcons, resolve, if_pos rfl,
              if_neg (hbs b hb)]
        rw [hfalse, htrue]
        exact ih (k + 1) [] (by simp)
      · have hd : d ≠ dotDot := hds d (by simp)
        have hpop : ∀ (r : Bool) (st : List Str), resolve r ((init ++ [d]).reverse ++ st)
            (dotDot :: xs) = resolve r (init.reverse ++ st) xs := by
          intro r st
          rw [List.reverse_append, List.reverse_singleton, List.singleton_append, List.cons_append,
            resolve, if_pos rfl, if_neg hd]
        rw [hpop, hpop]
        exact ih k init fun y hy => hds y (List.mem_append_left _ hy)
    · have hpush : ∀ (r : Bool) (st : List Str), resolve r (ds.reverse ++ st) (x :: xs) =
          resolve r ((ds ++ [x]).reverse ++ st) xs := by
        intro r st
        rw [resolve_cons_of_ne hx, List.reverse_append]
        rfl
      rw [hpush, hpush]
      refine ih k (ds ++ [x]) fun y hy => ?_
      rcases List.mem_append.1 hy with hy | hy
      · exact hds y hy
      · rw [List.mem_singleton.1 hy]
        exact hx

theorem resolve_climb {bs : List Str} (hbs : ∀ b ∈ bs, b ≠ dotDot) (p : Str) :
    resolve true [] (bs ++ segments p) = bs.take (bs.length - climb p) ++ descent p := by
  obtain ⟨k, ds, hds, hrel, habs⟩ := resolve_below hbs (segments p) 0 [] (by simp)
  simp only [List.reverse_nil, List.nil_append, List.replicate_zero, Nat.sub_zero,
    List.take_length] at hrel habs
  have hup : (List.replicate k dotDot ++ ds).takeWhile (fun x => x = dotDot) =
      List.replicate k dotDot := by
    rw [List.takeWhile_append_of_pos (by simp)]
    cases ds with
    | nil => simp
    | cons d ds => simp [hds d List.mem_cons_self]
  have hdown : (List.replicate k dotDot ++ ds).dropWhile (fun x => x = dotDot) = ds := by
    rw [List.dropWhile_append_of_pos (by simp)]
    cases ds with
    | nil => rfl
    | cons d ds => simp [hds d List.mem_cons_self]
  rw [resolve_append_plain hbs, List.append_nil, habs, climb, descent, hrel, hup, hdown,
    List.length_replicate]

theorem pathSplit_absPath (hxs : ∀ x ∈ xs, slash ∉ x) (hne : xs ≠ []) :
    pathSplit (absPath xs) = [] :: xs := by
  rw [absPath, pathSplit, if_pos rfl, pathSplit_joinWith xs hxs hne]

theorem joinWith_append (hxs : xs ≠ []) (hys : ys ≠ []) :
    joinWith [slash] (xs ++ ys) = joinWith [slash] xs ++ slash :: joinWith [slash] ys := by
  induction xs with
  | nil => exact absurd rfl hxs
  | cons x xs ih =>
    cases xs with
    | nil => exact joinWith_cons x ys hys
    | cons x' xs =>
      have hne : x' :: xs ≠ [] := List.cons_ne_nil x' xs
      rw [List.cons_append, joinWith_cons x _ (by simp), ih hne, joinWith_cons x _ hne]
      simp

theorem absPath_append (hxs : xs ≠ []) (hys : ys ≠ []) :
    absPath (xs ++ ys) = absPath xs ++ absPath ys := by
  rw [absPath, joinWith_append hxs hys]
  rfl

theorem absPath_injective (hxs : ∀ x ∈ xs, Plain x) (hys : ∀ y ∈ ys, Plain y)
    (h : absPath xs = absPath ys) : xs = ys := by
  rw [← segments_absPath xs hxs, h, segments_absPath ys hys]

theorem plain_append {xs ys : List Str} (hxs : ∀ x ∈ xs, Plain x) (hys : ∀ y ∈ ys, Plain y) :
    ∀ z ∈ xs ++ ys, Plain z := by
  intro z hz
  rcases List.mem_append.1 hz with hz | hz
  · exact hxs z hz
  · exact hys z hz

theorem join_segments (hp : segments p = xs) (hxs : ∀ x ∈ xs, Plain x) (hys : ∀ y ∈ ys, Plain y) :
    join ["/", p, joinWith "/" ys] = absPath (xs ++ ys) := by
  have hsegments : segments (joinWith [slash] ys) = ys := by
    cases ys with
    | nil => rfl
    | cons y ys =>
      rw [segments, pathSplit_joinWith _ (fun z hz => (hys z hz).no_slash) (by simp)]
      exact filter_plain _ hys
  rw [join_rooted (by decide)]
  simp only [List.flatMap_cons, List.flatMap_nil, List.append_nil, hp]
  rw [show segments ("/" : Str) = [] by decide, show ("/" : Str) = [slash] by decide, hsegments,
    List.nil_append, resolve_plain _ _ _ (plain_append hxs hys)]
  rfl

theorem join_absPath (hxs : ∀ x ∈ xs, Plain x) (hys : ∀ y ∈ ys, Plain y) :
    join ["/", absPath xs, joinWith "/" ys] = absPath (xs ++ ys) :=
  join_segments (segments_absPath xs hxs) hxs hys

theorem join_plain (hx : Plain x) (hys : ∀ y ∈ ys, Plain y) :
    join ["/", x, joinWith "/" ys] = absPath (x :: ys) :=
  join_segments hx.segments (List.forall_mem_singleton.2 hx) hys

theorem dir_absPath (hxs : ∀ x ∈ xs, Plain x) (hv : slash ∉ v) :
    dir (absPath (xs ++ [v])) = absPath xs := by
  rw [absPath_concat, dir]
  obtain ⟨u, hu⟩ := absBase_slash xs
  rw [hu, List.append_assoc, List.singleton_append, upToLastSlash_append hv, ← hu,
    clean_rooted (absBase_rooted _), segments_absBase _ hxs, resolve_plain _ _ _ hxs]
  rfl

theorem join_pair (hx : Plain x) (hy : Plain y) : join [x, y] = joinWith [slash] [x, y] := by
  have hpair := joinWith_cons x [y] (List.cons_ne_nil y [])
  have hsegments : segments (x ++ slash :: y) = [x, y] := by
    rw [segments_append, hx.segments, hy.segments]
    rfl
  rw [join, List.filter_eq_self.2 (by simp [hx.nonempty, hy.nonempty])]
  dsimp only
  obtain ⟨b, bs, rfl⟩ := List.exists_cons_of_ne_nil hx.nonempty
  have hb : b ≠ slash := fun hb => hx.no_slash (hb ▸ List.mem_cons_self)
  rw [hpair]
  change clean (b :: (bs ++ slash :: y)) = _
  rw [clean, if_neg hb, ← List.cons_append, hsegments, resolve_plain _ _ _ (by simp [hx, hy])]
  exact hpair

/-- `strings.SplitN(p, "/", 3)`, when it has three parts. -/
def splitN3 (p : Str) : Option (Str × Str × Str) :=
  match cut [slash] p with
  | none => none
  | some (a, rest) => (cut [slash] rest).map fun q => (a, q.1, q.2)

theorem splitN3_slash (u : Str) :
    splitN3 (slash :: u) = (cut [slash] u).map fun q => ([], q.1, q.2) := by
  simp [splitN3, cut, slash]

theorem splitN3_isSome : (splitN3 (slash :: (u ++ slash :: v))).isSome = true := by
  rw [splitN3_slash, Option.isSome_map]
  exact cut_isSome_append [slash] u v

theorem join_splitN3 (hp : Rooted p) (h : splitN3 p = some (a, b, c)) :
    join ["/", b, c] = clean p := by
  cases p with
  | nil => cases hp
  | cons x u =>
    obtain rfl : x = slash := by simpa [Rooted] using hp
    rw [splitN3_slash] at h
    obtain ⟨⟨y, z⟩, hcut, rfl, rfl, rfl⟩ : ∃ q : Str × Str, cut [slash] u = some q ∧
        [] = a ∧ q.1 = b ∧ q.2 = c := by simpa using h
    obtain rfl := cut_eq_append hcut
    rw [join_rooted (by decide), clean_rooted hp]
    have hsegments : segments (slash :: (y ++ ([slash] ++ z))) = segments y ++ segments z := by
      rw [← segments_append y z]
      exact segments_append [] (y ++ slash :: z)
    rw [hsegments]
    simp only [List.flatMap_cons, List.flatMap_nil, List.append_nil]
    rfl

theorem mem_resolve (h : x ∈ resolve r stack xs) : x ∈ stack ∨ x ∈ xs ∨ x = dotDot := by
  induction xs generalizing stack with
  | nil =>
    left
    simpa [resolve] using h
  | cons y ys ih =>
    -- the kept elements are those of the stack, less one or with `y` or `..` on top
    rw [resolve.eq_def] at h
    grind

theorem clean_ne_nil (p : Str) : clean p ≠ [] := by
  unfold clean
  split
  · exact List.cons_ne_nil _ _
  next c cs =>
  split
  · exact List.cons_ne_nil _ _
  split
  · exact List.cons_ne_nil _ _
  next x xs hr =>
  have hx : x ≠ [] := by
    rcases mem_resolve (hr ▸ List.mem_cons_self : x ∈ _) with h | h | h
    · cases h
    · exact (of_decide_eq_true (List.mem_filter.1 h).2).1
    · rw [h]
      exact List.cons_ne_nil _ _
  cases xs with
  | nil => exact hx
  | cons y ys =>
    rw [joinWith_cons x _ (List.cons_ne_nil y ys)]
    exact List.append_ne_nil_of_left_ne_nil hx _

theorem join_ne_nil (hx : x ∈ elems) (hne : x ≠ []) : join elems ≠ [] := by
  unfold join
  split
  · next hnil =>
    have hmem : x ∈ elems.filter fun e => e ≠ [] := List.mem_filter.2 ⟨hx, decide_eq_true hne⟩
    rw [hnil] at hmem
    cases hmem
  · exact clean_ne_nil _

inductive Listing
  | nil
  | file (name : Str) (link : Bool) (rest : Listing)
  | dir (name : Str) (held rest : Listing)
  deriving DecidableEq

inductive EntryKind
  | file
  | link
  | dir
  deriving DecidableEq

structure Entry where
  path : List Str
  kind : EntryKind
  deriving DecidableEq

theorem joinWith_injective (hp : ∀ x ∈ p, Plain x) (hq : ∀ x ∈ q, Plain x)
    (h : joinWith [slash] p = joinWith [slash] q) : p = q := by
  have hjoined {r : List Str} (hr : ∀ x ∈ r, Plain x) (hne : r ≠ []) : joinWith [slash] r ≠ [] := by
    cases r with
    | nil => exact absurd rfl hne
    | cons x rest =>
      have hx := (hr x List.mem_cons_self).nonempty
      cases rest <;> simp [joinWith, hx]
  by_cases hne : p = []
  · by_contra hne'
    exact hjoined hq (fun hnil => hne' (hne.trans hnil.symm)) (by rw [← h, hne]; rfl)
  · have hne' : q ≠ [] := fun hnil => hjoined hp hne (by rw [h, hnil]; rfl)
    rw [← pathSplit_joinWith p (fun x hx => (hp x hx).no_slash) hne, h,
      pathSplit_joinWith q (fun x hx => (hq x hx).no_slash) hne']

namespace Listing

def names : Listing → List Str
  | nil => []
  | file name _ rest => name :: rest.names
  | dir name _ rest => name :: rest.names

def Sound : Listing → Prop
  | nil => True
  | file name _ rest => Plain name ∧ name ∉ rest.names ∧ rest.Sound
  | dir name held rest => Plain name ∧ name ∉ rest.names ∧ held.Sound ∧ rest.Sound

def entries (p : List Str) : Listing → List Entry
  | nil => []
  | file name link rest => ⟨p ++ [name], if link then .link else .file⟩ :: rest.entries p
  | dir name held rest =>
    ⟨p ++ [name], .dir⟩ :: (held.entries (p ++ [name]) ++ rest.entries p)

/-- The entries that a walk comes to when it passes by some of them, and with a directory by all
that it holds. -/
def walk (skip : List Str → Bool) (p : List Str) : Listing → List Entry
  | nil => []
  | file name link rest =>
    (if skip (p ++ [name]) then [] else [⟨p ++ [name], if link then .link else .file⟩]) ++
      rest.walk skip p
  | dir name held rest =>
    (if skip (p ++ [name]) then [] else ⟨p ++ [name], .dir⟩ :: held.walk skip (p ++ [name])) ++
      rest.walk skip p

variable {l : Listing} {p q : List Str} {skip skip' : List Str → Bool} {e : Entry}

theorem path_of_mem (h : e ∈ l.entries p) : ∃ n ∈ l.names, ∃ q, e.path = p ++ n :: q := by
  induction l generalizing p with
  | nil => cases h
  | file name link rest ih =>
    rcases List.mem_cons.1 h with rfl | h
    · exact ⟨name, List.mem_cons_self, [], rfl⟩
    · obtain ⟨n, hn, q, hq⟩ := ih h
      exact ⟨n, List.mem_cons_of_mem _ hn, q, hq⟩
  | dir name held rest ihHeld ihRest =>
    rcases List.mem_cons.1 h with rfl | h
    · exact ⟨name, List.mem_cons_self, [], rfl⟩
    rcases List.mem_append.1 h with h | h
    · obtain ⟨n, -, q, hq⟩ := ihHeld h
      exact ⟨name, List.mem_cons_self, n :: q, by rw [hq, List.append_assoc]; rfl⟩
    · obtain ⟨n, hn, q, hq⟩ := ihRest h
      exact ⟨n, List.mem_cons_of_mem _ hn, q, hq⟩

theorem plain_concat (hn : Plain name) (hp : ∀ x ∈ p, Plain x) : ∀ x ∈ p ++ [name], Plain x := by
  intro x hx
  rcases List.mem_append.1 hx with hx | hx
  · exact hp x hx
  · exact List.mem_singleton.1 hx ▸ hn

theorem plain_of_mem (hl : l.Sound) (hp : ∀ x ∈ p, Plain x) (h : e ∈ l.entries p) :
    ∀ x ∈ e.path, Plain x := by
  induction l generalizing p with
  | nil => cases h
  | file name link rest ih =>
    rcases List.mem_cons.1 h with rfl | h
    · exact plain_concat hl.1 hp
    · exact ih hl.2.2 hp h
  | dir name held rest ihHeld ihRest =>
    rcases List.mem_cons.1 h with rfl | h
    · exact plain_concat hl.1 hp
    · rcases List.mem_append.1 h with h | h
      · exact ihHeld hl.2.2.1 (plain_concat hl.1 hp) h
      · exact ihRest hl.2.2.2 hp h

theorem not_mem_of_name (h : name ∉ l.names) (hq : e.path = p ++ name :: q) : e ∉ l.entries p := by
  intro he
  obtain ⟨n, hn, r, hr⟩ := path_of_mem he
  rw [hq, List.append_cancel_left_eq, List.cons.injEq] at hr
  exact h (hr.1 ▸ hn)

theorem nodup_paths (hl : l.Sound) (p : List Str) : ((l.entries p).map Entry.path).Nodup := by
  have hnew {p : List Str} {rest : Listing} {name : Str} (hn : name ∉ rest.names) (q : List Str) :
      p ++ name :: q ∉ (rest.entries p).map Entry.path := by
    intro h
    obtain ⟨e, he, hpath⟩ := List.mem_map.1 h
    exact not_mem_of_name hn hpath he
  induction l generalizing p with
  | nil => exact List.nodup_nil
  | file name link rest ih => exact List.nodup_cons.2 ⟨hnew hl.2.1 [], ih hl.2.2 p⟩
  | dir name held rest ihHeld ihRest =>
    have hbelow {x : List Str} (hx : x ∈ (held.entries (p ++ [name])).map Entry.path) :
        ∃ n q, x = p ++ name :: n :: q := by
      obtain ⟨e, he, rfl⟩ := List.mem_map.1 hx
      obtain ⟨n, -, q, hq⟩ := path_of_mem he
      exact ⟨n, q, by rw [hq, List.append_assoc]; rfl⟩
    rw [entries, List.map_cons, List.map_append, List.nodup_cons, List.nodup_append]
    refine ⟨fun h => ?_, ihHeld hl.2.2.1 _, ihRest hl.2.2.2 p, fun x hx y hy hxy => ?_⟩
    · rcases List.mem_append.1 h with h | h
      · obtain ⟨n, q, hq⟩ := hbelow h
        simp at hq
      · exact hnew hl.2.1 [] h
    · obtain ⟨n, q, rfl⟩ := hbelow hx
      exact hnew hl.2.1 (n :: q) (hxy ▸ hy)

theorem forall_above {P : List Str → Prop} :
    (∀ q, q <+: p ++ name :: r → p.length < q.length → P q) ↔
      P (p ++ [name]) ∧ ∀ q, q <+: p ++ name :: r → (p ++ [name]).length < q.length → P q := by
  have hfirst : p ++ [name] <+: p ++ name :: r := ⟨r, by simp⟩
  constructor
  · intro h
    refine ⟨h _ hfirst (by simp), fun q hq hlt => h q hq ?_⟩
    rw [List.length_append] at hlt
    omega
  · rintro ⟨hname, h⟩ q hq hlt
    by_cases hlen : q.length = (p ++ [name]).length
    · have hsame := (List.prefix_of_prefix_length_le hq hfirst hlen.le).eq_of_length hlen
      exact hsame ▸ hname
    · refine h q hq ?_
      rw [List.length_append, List.length_singleton] at hlen ⊢
      omega

theorem mem_walk : e ∈ l.walk skip p ↔ e ∈ l.entries p ∧
    ∀ q, q <+: e.path → p.length < q.length → skip q = false := by
  have hown {p : List Str} {name : Str} : (∀ q, q <+: p ++ [name] → p.length < q.length →
      skip q = false) ↔ skip (p ++ [name]) = false := by
    rw [forall_above, and_iff_left_iff_imp]
    intro _ q hq hlt
    exact absurd hq.length_le (by omega)
  induction l generalizing p with
  | nil => simp [walk, entries]
  | file name link rest ih =>
    rw [walk, entries, List.mem_append, List.mem_cons, or_and_right]
    refine or_congr ?_ ih
    by_cases hskip : skip (p ++ [name]) = true
    · rw [if_pos hskip]
      refine iff_of_false List.not_mem_nil ?_
      rintro ⟨rfl, h⟩
      exact absurd (hown.1 h) (by simp [hskip])
    · rw [if_neg hskip, List.mem_singleton, iff_self_and]
      rintro rfl
      exact hown.2 (by simpa using hskip)
  | dir name held rest ihHeld ihRest =>
    have hbelow (h : e ∈ held.entries (p ++ [name])) : (∀ q, q <+: e.path → p.length < q.length →
        skip q = false) ↔ skip (p ++ [name]) = false ∧
          ∀ q, q <+: e.path → (p ++ [name]).length < q.length → skip q = false := by
      obtain ⟨n, -, r, hr⟩ := path_of_mem h
      rw [List.append_assoc, List.singleton_append] at hr
      rw [hr]
      exact forall_above
    rw [walk, entries, List.mem_append, List.mem_cons, List.mem_append, or_and_right, or_and_right,
      ← or_assoc]
    refine or_congr ?_ ihRest
    by_cases hskip : skip (p ++ [name]) = true
    · rw [if_pos hskip]
      refine iff_of_false List.not_mem_nil ?_
      rintro (⟨rfl, h⟩ | ⟨he, h⟩)
      · exact absurd (hown.1 h) (by simp [hskip])
      · exact absurd ((hbelow he).1 h).1 (by simp [hskip])
    · have hno : skip (p ++ [name]) = false := by simpa using hskip
      rw [if_neg hskip, List.mem_cons]
      refine or_congr ?_ (ihHeld.trans (and_congr_right fun he => ?_))
      · rw [iff_self_and]
        rintro rfl
        exact hown.2 hno
      · rw [hbelow he, and_iff_right hno]

theorem walk_sublist (skip : List Str → Bool) (p : List Str) (l : Listing) :
    (l.walk skip p).Sublist (l.entries p) := by
  induction l generalizing p with
  | nil => exact .refl _
  | file name link rest ih =>
    rw [walk]
    split
    · exact (ih p).cons _
    · exact (ih p).cons_cons _
  | dir name held rest ihHeld ihRest =>
    rw [walk]
    split
    · exact ((ihRest p).trans (List.sublist_append_right _ _)).cons _
    · exact ((ihHeld _).append (ihRest p)).cons_cons _

end Listing

/-- The directories that a walk is in, each with what is left of it. -/
abbrev WalkStack := List (List Str × Listing)

namespace WalkStack

def entries (st : WalkStack) : List Entry := st.flatMap fun f => f.2.entries f.1

def walk (skip : List Str → Bool) (st : WalkStack) : List Entry := st.flatMap fun f => f.2.walk skip f.1

/-- The next move of a walk: the entry that it comes to, if it does not pass by it, and what is
left. -/
def next (skip : List Str → Bool) : WalkStack → Option (Option Entry × WalkStack)
  | [] => none
  | (_, .nil) :: st => some (none, st)
  | (p, .file name link rest) :: st =>
    some (if skip (p ++ [name]) then none else some ⟨p ++ [name], if link then .link else .file⟩,
      (p, rest) :: st)
  | (p, .dir name held rest) :: st =>
    if skip (p ++ [name]) then some (none, (p, rest) :: st)
    else some (some ⟨p ++ [name], .dir⟩, (p ++ [name], held) :: (p, rest) :: st)

variable {st st' : WalkStack} {skip skip' : List Str → Bool} {o : Option Entry}

theorem walk_next (h : next skip st = some (o, st')) : walk skip st = o.toList ++ walk skip st' := by
  cases st with
  | nil => cases h
  | cons f st =>
    obtain ⟨p, l⟩ := f
    cases l with
    | nil =>
      cases h
      rfl
    | file name link rest =>
      cases h
      simp only [walk, List.flatMap_cons, Listing.walk, List.append_assoc]
      split <;> rfl
    | dir name held rest =>
      simp only [next] at h
      split at h
      · next hskip =>
        cases h
        simp [walk, Listing.walk, hskip]
      · next hskip =>
        cases h
        simp [walk, Listing.walk, hskip]

theorem skip_of_mem_walk (h : e ∈ walk skip st) : skip e.path = false := by
  obtain ⟨f, -, he⟩ := List.mem_flatMap.1 h
  obtain ⟨hmem, hall⟩ := Listing.mem_walk.1 he
  obtain ⟨name, -, q, hq⟩ := Listing.path_of_mem hmem
  exact hall e.path List.prefix_rfl (by simp [hq])

theorem next_congr (hmore : ∀ q, skip q = true → skip' q = true)
    (hsame : ∀ e ∈ walk skip st, skip' e.path = false) : next skip' st = next skip st := by
  cases st with
  | nil => rfl
  | cons f st =>
    obtain ⟨p, l⟩ := f
    have hname (e : Entry) (h : skip e.path = false → e ∈ walk skip ((p, l) :: st)) :
        skip' e.path = skip e.path := by
      cases hskip : skip e.path with
      | true => exact hmore _ hskip
      | false => exact hsame _ (h hskip)
    cases l with
    | nil => rfl
    | file name link rest =>
      have hfile := hname ⟨p ++ [name], if link then .link else .file⟩ fun h => by
        simp [walk, Listing.walk, h]
      simp only [next, hfile]
    | dir name held rest =>
      have hdir := hname ⟨p ++ [name], .dir⟩ fun h => by simp [walk, Listing.walk, h]
      simp only [next, hdir]

def moves (st : WalkStack) : Nat := 2 * (entries st).length + st.length

theorem moves_next (h : next skip st = some (o, st')) : moves st' < moves st := by
  cases st with
  | nil => cases h
  | cons f st =>
    obtain ⟨p, l⟩ := f
    cases l with
    | nil =>
      cases h
      simp [moves, entries, Listing.entries]
    | file name link rest =>
      cases h
      simp [moves, entries, Listing.entries]
    | dir name held rest =>
      simp only [next] at h
      split at h
      · cases h
        simp only [moves, entries, List.flatMap_cons, Listing.entries, List.length_append, List.length_cons]
        omega
      · cases h
        simp only [moves, entries, List.flatMap_cons, Listing.entries, List.length_append, List.length_cons]
        omega

theorem exists_next (skip : List Str → Bool) (h : st ≠ []) : ∃ o st', next skip st = some (o, st') := by
  cases st with
  | nil => exact absurd rfl h
  | cons f st =>
    obtain ⟨p, l⟩ := f
    cases l with
    | nil => exact ⟨_, _, rfl⟩
    | file name link rest => exact ⟨_, _, rfl⟩
    | dir name held rest =>
      simp only [next]
      split <;> exact ⟨_, _, rfl⟩

end WalkStack

end GoLib
