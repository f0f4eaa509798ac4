import CsiPowerscale.CreateVolumeRuns

namespace CsiPowerscale
open GoLib Stores Effects Effects.Prog

def dotSnapshot : Str := ".snapshot"

/-- The elements of the path of a volume in a snapshot, below the zone path: `.snapshot`, the
snapshot, and those of the volume's path, which is `vol` in the base path `below`. -/
def belowZone (snapshot : Str) (below : List Str) (vol : Str) : List Str :=
  dotSnapshot :: snapshot :: (below ++ [vol])

/-- `<zone path>/.snapshot/<snapshot>/<path of the volume below the zone path>`, with the zone path
as the list of its elements. -/
def documentedSnapshotPath (zone : List Str) (snapshot : Str) (below : List Str) (vol : Str) :
    Str :=
  absPath (zone ++ belowZone snapshot below vol)

def decodeBelowZone (zonePath : Str) (pieces : List Str) : Option (Str × Str) :=
  match pieces with
  | _ :: _ :: snapshotName :: more =>
    if more ≠ [] then some (join ["/", zonePath, joinWith "/" more.dropLast], snapshotName)
    else some (zonePath, snapshotName)
  | _ => none

theorem getSnapshotIsiPathComponents_system
    (h : pathSplit p = d₀ :: d₁ :: dotSnapshot :: snapshot :: (more ++ [vol])) (zonePath : Str) :
    getSnapshotIsiPathComponents p zonePath =
      some (join ["/", d₁, joinWith "/" more], snapshot) := by
  have hsplit : split p "/" = d₀ :: d₁ :: dotSnapshot :: snapshot :: (more ++ [vol]) :=
    (split_slash p).trans h
  simp only [getSnapshotIsiPathComponents, hsplit]
  simp [dotSnapshot]

theorem getSnapshotIsiPathComponents_zone (h : pathSplit p = d₀ :: d₁ :: d₂ :: rest)
    (hd : d₂ ≠ dotSnapshot) (hzone : split p zonePath = head :: tail :: others) :
    getSnapshotIsiPathComponents p zonePath = decodeBelowZone zonePath (pathSplit tail) := by
  have hsplit : split p "/" = d₀ :: d₁ :: d₂ :: rest := (split_slash p).trans h
  have htail : split tail "/" = pathSplit tail := split_slash tail
  simp only [getSnapshotIsiPathComponents, hsplit, hzone, htail, decodeBelowZone]
  apply (if_pos (show d₂ ≠ (".snapshot" : Str) from hd)).trans
  cases pathSplit tail with
  | nil => rfl
  | cons x xs =>
    cases xs with
    | nil => rfl
    | cons y ys =>
      cases ys <;> rfl

section ReadBack

variable {zone below : List Str} {snapshot vol : Str} (hzone : ∀ x ∈ zone, Plain x)
  (hbelow : ∀ x ∈ below, Plain x) (hsnapshot : slash ∉ snapshot) (hvol : slash ∉ vol)

include hbelow hsnapshot hvol in
theorem belowZone_no_slash : ∀ x ∈ belowZone snapshot below vol, slash ∉ x := by
  intro x hx
  simp only [belowZone, List.mem_append, List.mem_cons, List.not_mem_nil, or_false] at hx
  rcases hx with rfl | rfl | hx | rfl
  · decide
  · exact hsnapshot
  · exact (hbelow x hx).no_slash
  · exact hvol

include hzone hbelow hsnapshot hvol in
theorem pathSplit_documentedSnapshotPath :
    pathSplit (documentedSnapshotPath zone snapshot below vol) =
      [] :: (zone ++ belowZone snapshot below vol) := by
  apply pathSplit_absPath
  · intro x hx
    rcases List.mem_append.1 hx with hx | hx
    · exact (hzone x hx).no_slash
    · exact belowZone_no_slash hbelow hsnapshot hvol x hx
  · simp [belowZone]

theorem split_documentedSnapshotPath (hne : zone ≠ []) :
    split (documentedSnapshotPath zone snapshot below vol) (absPath zone) =
      [] :: split (absPath (belowZone snapshot below vol)) (absPath zone) := by
  have hpath : documentedSnapshotPath zone snapshot below vol =
      [] ++ (absPath zone ++ absPath (belowZone snapshot below vol)) :=
    absPath_append hne (List.cons_ne_nil _ _)
  have hsep : absPath zone ≠ [] := List.cons_ne_nil _ _
  have hempty : Separable (absPath zone) [] := by simp [Separable, absPath, cut]
  rw [hpath, split_eq hsep, cut_append _ _ _ hempty]

theorem decodeBelowZone_belowZone (hzone : ∀ x ∈ zone, Plain x) (hbelow : ∀ x ∈ below, Plain x) :
    decodeBelowZone (absPath zone) ([] :: belowZone snapshot below vol) =
      some (absPath (zone ++ below), snapshot) := by
  simp [decodeBelowZone, belowZone, join_absPath hzone hbelow]

theorem decodeBelowZone_ne (hzone : ∀ x ∈ zone, Plain x) (hbelow : ∀ x ∈ below, Plain x)
    (happend : pieces ++ others = [] :: belowZone snapshot below vol) (hlen : 2 ≤ others.length) :
    decodeBelowZone (absPath zone) pieces ≠ some (absPath (zone ++ below), snapshot) := by
  intro hdecode
  unfold decodeBelowZone at hdecode
  split at hdecode
  · rename_i d₀ d₁ name more
    have hmore : more ++ others = below ++ [vol] := by
      simp only [belowZone, List.cons_append, List.cons.injEq] at happend
      exact happend.2.2.2
    have hcount : more.length + others.length = below.length + 1 := by
      simpa using congrArg List.length hmore
    split at hdecode
    · -- a base path with fewer elements
      have hplain : ∀ x ∈ more.dropLast, Plain x := by
        intro x hx
        have hfront : more <+: below := by
          apply List.prefix_of_prefix_length_le (hmore ▸ List.prefix_append more others)
            (List.prefix_append below [vol])
          omega
        exact hbelow x (hfront.subset (List.dropLast_subset more hx))
      rw [join_absPath hzone hplain] at hdecode
      simp only [Option.some.injEq, Prod.mk.injEq] at hdecode
      have heq :=
        absPath_injective (plain_append hzone hplain) (plain_append hzone hbelow) hdecode.1
      have hlast := congrArg List.length (List.append_cancel_left heq)
      rw [List.length_dropLast] at hlast
      omega
    · -- the zone path itself
      rename_i hnil
      simp only [Option.some.injEq, Prod.mk.injEq] at hdecode
      have heq := absPath_injective hzone (plain_append hzone hbelow) hdecode.1
      have hlast := congrArg List.length heq
      rw [List.length_append] at hlast
      obtain rfl : more = [] := by simpa using hnil
      simp only [List.length_nil] at hcount
      omega
  · cases hdecode

/-- The parts of the path of a volume in a snapshot are read back, and the base path is where the
tracking directory is: in the directory of the snapshot's source path. -/
def SnapshotPathReadBack (zone : List Str) (snapshot : Str) (below : List Str) (vol : Str) : Prop :=
  getSnapshotIsiPathComponents (documentedSnapshotPath zone snapshot below vol) (absPath zone) =
      some (absPath (zone ++ below), snapshot) ∧
    getSnapshotSrcVolName (documentedSnapshotPath zone snapshot below vol) = vol ∧
    dir (absPath (zone ++ below ++ [vol])) = absPath (zone ++ below)

/-- The zone path has one element, or its second one is not `.snapshot` and it does not occur a
second time. A zone path through a directory `.snapshot` is read back only when its elements happen
to repeat. -/
def ZoneReadable (zone : List Str) (snapshot : Str) (below : List Str) (vol : Str) : Prop :=
  match zone with
  | [] => snapshot = dotSnapshot ∧ below.head? = some dotSnapshot
  | [_] => True
  | _ :: second :: more =>
    if second = dotSnapshot then more ++ [dotSnapshot, snapshot] = snapshot :: dotSnapshot :: more
    else contains (absPath (belowZone snapshot below vol)) (absPath zone) = false

include hzone hbelow hsnapshot hvol

theorem getSnapshotSrcVolName_documented :
    getSnapshotSrcVolName (documentedSnapshotPath zone snapshot below vol) = vol := by
  have hsplit : split (documentedSnapshotPath zone snapshot below vol) "/" =
      [] :: (zone ++ belowZone snapshot below vol) :=
    (split_slash _).trans (pathSplit_documentedSnapshotPath hzone hbelow hsnapshot hvol)
  have hlast : [] :: (zone ++ belowZone snapshot below vol) =
      ([] :: (zone ++ dotSnapshot :: snapshot :: below)) ++ [vol] := by
    simp [belowZone]
  rw [getSnapshotSrcVolName, hsplit, hlast, List.getLastD_concat]

omit hzone in
theorem components_rootZone :
    getSnapshotIsiPathComponents (documentedSnapshotPath [] snapshot below vol) (absPath []) =
        some (absPath below, snapshot) ↔
      snapshot = dotSnapshot ∧ below.head? = some dotSnapshot := by
  have hpieces : pathSplit (documentedSnapshotPath [] snapshot below vol) =
      [] :: dotSnapshot :: snapshot :: (below ++ [vol]) :=
    pathSplit_documentedSnapshotPath (fun x hx => by cases hx) hbelow hsnapshot hvol
  by_cases hs : snapshot = dotSnapshot
  · subst hs
    cases below with
    | nil =>
      have hsplit : split (documentedSnapshotPath [] dotSnapshot [] vol) "/" =
          [[], dotSnapshot, dotSnapshot, vol] := (split_slash _).trans hpieces
      simp only [getSnapshotIsiPathComponents, hsplit]
      simp [dotSnapshot]
    | cons b bs =>
      have hbs : ∀ x ∈ bs, Plain x := fun x hx => hbelow x (List.mem_cons_of_mem b hx)
      have hcons : pathSplit (documentedSnapshotPath [] dotSnapshot (b :: bs) vol) =
          [] :: dotSnapshot :: dotSnapshot :: b :: (bs ++ [vol]) := hpieces
      rw [getSnapshotIsiPathComponents_system hcons, join_plain (by decide) hbs]
      simp only [Option.some.injEq, Prod.mk.injEq, List.head?_cons, true_and]
      apply Iff.intro
      · exact fun h => h.2
      · rintro rfl
        exact ⟨rfl, rfl⟩
  · have hzoneSplit : split (documentedSnapshotPath [] snapshot below vol) (absPath []) =
        [] :: dotSnapshot :: snapshot :: (below ++ [vol]) := (split_slash _).trans hpieces
    rw [getSnapshotIsiPathComponents_zone hpieces hs hzoneSplit]
    simp [hs, decodeBelowZone, pathSplit_no_slash (show slash ∉ dotSnapshot by decide)]

theorem components_zone (hz : zone = first :: second :: more) (hsecond : second ≠ dotSnapshot) :
    getSnapshotIsiPathComponents (documentedSnapshotPath zone snapshot below vol) (absPath zone) =
        some (absPath (zone ++ below), snapshot) ↔
      contains (absPath (belowZone snapshot below vol)) (absPath zone) = false := by
  have hpieces := pathSplit_documentedSnapshotPath hzone hbelow hsnapshot hvol
  have hrest : pathSplit (absPath (belowZone snapshot below vol)) =
      [] :: belowZone snapshot below vol :=
    pathSplit_absPath (belowZone_no_slash hbelow hsnapshot hvol) (List.cons_ne_nil _ _)
  have hsep : absPath zone ≠ [] := List.cons_ne_nil _ _
  have hsplit := @split_documentedSnapshotPath zone below snapshot vol (by simp [hz])
  rw [hz, List.cons_append, List.cons_append, ← hz] at hpieces
  rw [split_eq hsep (absPath (belowZone snapshot below vol))] at hsplit
  unfold contains
  cases hcut : cut (absPath zone) (absPath (belowZone snapshot below vol)) with
  | none =>
    rw [hcut] at hsplit
    rw [getSnapshotIsiPathComponents_zone hpieces hsecond hsplit, hrest,
      decodeBelowZone_belowZone hzone hbelow]
    simp
  | some cutAt =>
    obtain ⟨front, back⟩ := cutAt
    rw [hcut] at hsplit
    rw [getSnapshotIsiPathComponents_zone hpieces hsecond hsplit]
    -- the zone path starts with a slash, so the front ends with an element
    have hback : pathSplit front ++ pathSplit (joinWith [slash] zone ++ back) =
        [] :: belowZone snapshot below vol := by
      rw [← pathSplit_append, ← hrest, cut_eq_append hcut]
      rfl
    have hlen : 2 ≤ (pathSplit (joinWith [slash] zone ++ back)).length := by
      rw [hz, joinWith_cons _ _ (List.cons_ne_nil _ _), List.append_assoc, List.cons_append,
        pathSplit_append, List.length_append]
      have hone := List.length_pos_iff.2 (pathSplit_ne_nil first)
      have htwo := List.length_pos_iff.2
        (pathSplit_ne_nil (joinWith [slash] (second :: more) ++ back))
      omega
    simp [decodeBelowZone_ne hzone hbelow hback hlen]

theorem components_reserved (hz : zone = first :: dotSnapshot :: more) :
    getSnapshotIsiPathComponents (documentedSnapshotPath zone snapshot below vol) (absPath zone) =
        some (absPath (zone ++ below), snapshot) ↔
      more ++ [dotSnapshot, snapshot] = snapshot :: dotSnapshot :: more := by
  subst hz
  have hpieces := pathSplit_documentedSnapshotPath hzone hbelow hsnapshot hvol
  have hfirst := hzone first List.mem_cons_self
  cases more with
  | nil =>
    have hcons : pathSplit (documentedSnapshotPath [first, dotSnapshot] snapshot below vol) =
        [] :: first :: dotSnapshot :: dotSnapshot :: ((snapshot :: below) ++ [vol]) := hpieces
    rw [getSnapshotIsiPathComponents_system hcons]
    apply Iff.intro
    · intro h
      simp only [Option.some.injEq, Prod.mk.injEq] at h
      rw [h.2]
      rfl
    intro h
    obtain rfl : dotSnapshot = snapshot := (List.cons.inj h).1
    rw [join_plain hfirst (List.forall_mem_cons.2 ⟨by decide, hbelow⟩)]
    rfl
  | cons c more =>
    have hcons : pathSplit (documentedSnapshotPath (first :: dotSnapshot :: c :: more) snapshot
        below vol) = [] :: first :: dotSnapshot :: c ::
          ((more ++ dotSnapshot :: snapshot :: below) ++ [vol]) := by
      rw [hpieces]
      simp [belowZone]
    have hc : Plain c := hzone c (by simp)
    have hmore : ∀ x ∈ more, Plain x := fun x hx => hzone x (by simp [hx])
    rw [getSnapshotIsiPathComponents_system hcons]
    by_cases hname : c = snapshot
    · subst hname
      have htail : ∀ x ∈ more ++ dotSnapshot :: c :: below, Plain x :=
        plain_append hmore (List.forall_mem_cons.2 ⟨by decide, List.forall_mem_cons.2 ⟨hc, hbelow⟩⟩)
      have hpath : ∀ x ∈ first :: (more ++ dotSnapshot :: c :: below), Plain x :=
        List.forall_mem_cons.2 ⟨hfirst, htail⟩
      rw [join_plain hfirst htail]
      apply Iff.intro
      · intro h
        simp only [Option.some.injEq, Prod.mk.injEq] at h
        have heq := absPath_injective hpath (plain_append hzone hbelow) h.1
        have hcancel :
            (more ++ [dotSnapshot, c]) ++ below = (dotSnapshot :: c :: more) ++ below := by
          simpa using heq
        rw [List.cons_append, List.append_cancel_right hcancel]
      · intro h
        have htails : more ++ [dotSnapshot, c] = dotSnapshot :: c :: more := (List.cons.inj h).2
        have heq : more ++ dotSnapshot :: c :: below = (dotSnapshot :: c :: more) ++ below := by
          rw [← htails]
          simp
        rw [heq]
        rfl
    · simp [hname]

/-- The path of a volume in a snapshot is read back exactly when its zone path is readable. -/
theorem snapshotPath_readBack_iff :
    SnapshotPathReadBack zone snapshot below vol ↔ ZoneReadable zone snapshot below vol := by
  have hname := getSnapshotSrcVolName_documented hzone hbelow hsnapshot hvol
  have hdir := dir_absPath (plain_append hzone hbelow) hvol
  have hparts : SnapshotPathReadBack zone snapshot below vol ↔
      getSnapshotIsiPathComponents (documentedSnapshotPath zone snapshot below vol)
        (absPath zone) = some (absPath (zone ++ below), snapshot) :=
    ⟨fun h => h.1, fun h => ⟨h, hname, hdir⟩⟩
  rw [hparts]
  cases zone with
  | nil => exact components_rootZone hbelow hsnapshot hvol
  | cons first rest =>
    cases rest with
    | nil =>
      have hcons : pathSplit (documentedSnapshotPath [first] snapshot below vol) =
          [] :: first :: dotSnapshot :: snapshot :: (below ++ [vol]) :=
        pathSplit_documentedSnapshotPath hzone hbelow hsnapshot hvol
      rw [getSnapshotIsiPathComponents_system hcons, join_plain (hzone first (by simp)) hbelow]
      exact iff_of_true rfl trivial
    | cons second more =>
      unfold ZoneReadable
      dsimp only
      split
      · rename_i hreserved
        subst hreserved
        exact components_reserved hzone hbelow hsnapshot hvol rfl
      · rename_i hsecond
        exact components_zone hzone hbelow hsnapshot hvol rfl hsecond

end ReadBack

theorem snapshotPath_readBack_vol1 :
    (∀ x ∈ [("ifs" : Str), ("data" : Str), ("csi" : Str)], Plain x) ∧
    SnapshotPathReadBack ["ifs", "data", "csi"] "snap1" ["base"] "vol1" := by
  apply And.intro (by decide)
  apply (snapshotPath_readBack_iff (by decide) (by decide) (by decide) (by decide)).2
  rw [ZoneReadable, if_neg (by decide)]
  decide +kernel

/-- The source path is below a copy of the zone path: the base path is cut at the second
occurrence. -/
theorem snapshotPath_cut : documentedSnapshotPath ["ifs", "z"] "snap1" ["ifs", "z", "base"] "vol1" =
      "/ifs/z/.snapshot/snap1/ifs/z/base/vol1" ∧
    getSnapshotIsiPathComponents "/ifs/z/.snapshot/snap1/ifs/z/base/vol1" "/ifs/z" =
      some (("/ifs/z" : Str), ("snap1" : Str)) ∧
    dir "/ifs/z/ifs/z/base/vol1" = "/ifs/z/ifs/z/base" := by
  decide +kernel

/-- The identity stands for at most one snapshot of the array, `x`. -/
def OneFS.Identifies (s : OneFS) (i : Str) (x : Snapshot) : Prop :=
  ∀ y ∈ s.snapshots, natToStr y.num = i ∨ y.name = i → y = x

namespace OneFS.Identifies

variable {s t : OneFS} {i : Str} {x : Snapshot}

theorem found (h : s.Identifies i x) (hy : s.snapshotByIdentity i = some y) : y = x :=
  h y (Registry.find?_mem hy) (by simpa using Registry.find?_sat hy)

theorem mono (h : s.Identifies i x) (hsub : ∀ y ∈ t.snapshots, y ∈ s.snapshots) :
    t.Identifies i x := fun y hy => h y (hsub y hy)

theorem serve (h : s.Identifies i x) (hc : ¬c.TakesSnapshot) :
    (array.act c s).2.Identifies i x := by
  by_cases hg : c.Grow
  · exact h.mono fun y hy => (hg.serve s).snapshots ▸ hy
  have heff := Call.effect c s
  generalize (array.act c s).2 = t at heff ⊢
  cases heff with
  | kept | rmdir => exact h
  | addSnapshot => exact (hc trivial).elim
  | dropSnapshot => exact h.mono fun z hz => (mem_dropSnapshot.1 hz).1
  | _ => exact (hg trivial).elim

end OneFS.Identifies

namespace Controller

def trackingPath (x : Snapshot) : Str :=
  namespacePath (dir x.path) (getSnapshotTrackingDirName x.name)

def shownPath (z : Zone) (x : Snapshot) : Str := OneFS.snapshotPath x (dir x.path) z.name z.path

end Controller

def snapped : Snapshot where
  num := 0
  name := "snap"
  path := "/ifs/data/src"
  tree := [⟨[], []⟩]

def snappedArray : OneFS where
  dirs := ⟨[⟨"/ifs", []⟩, ⟨"/ifs/data", []⟩, ⟨"/ifs/data/src", []⟩], by decide⟩
  quotas := .empty
  exports := .empty
  writables := .empty
  snapshots := ⟨⟨⟨[snapped], by decide⟩, 1, by decide⟩, by decide⟩
  zones := [⟨"System", "/ifs"⟩]
  policies := []
  nfsTLSMode := none

def readerOf (name : Str) : CreateVolumeRequest where
  name := name
  requiredBytes := 1024
  volumeCapabilities := [some ⟨some .mount, some .multiNodeReaderOnly⟩]
  parameters := []
  mutableParameters := []
  volumeContentSource := some (.snapshot "0=_=_=c1=_=_=System")

def withoutQuotas : Service := { oneCluster with quotaEnabled := false }

end CsiPowerscale
