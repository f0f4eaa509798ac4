import CsiPowerscale.CreateVolumeRuns

namespace CsiPowerscale
open GoLib Stores Effects Effects.Prog

namespace OneFS

variable {s : OneFS} {p q n v : Str} {names : List Str}

def subdirs (s : OneFS) (p : Str) : List Str :=
  (s.dirs.rows.map Dir.path).filter fun q => q ≠ p ∧ dir q = p

theorem mem_subdirs : q ∈ s.subdirs p ↔ s.hasDir q = true ∧ q ≠ p ∧ dir q = p := by
  simp [subdirs, hasDir, Table.has_iff, Table.mem_def]

theorem nlink_eq (s : OneFS) (p : Str) : s.nlink p = 2 + ((s.subdirs p).length : Int) := by
  rw [nlink, subdirs, ← List.countP_eq_length_filter, List.countP_map]
  rfl

theorem lt_nlink (hq : q ∈ s.subdirs p) : 2 < s.nlink p := by
  have hpos := List.length_pos_of_mem hq
  rw [nlink_eq]
  omega

theorem lt_nlink_of_two (hq : q ∈ s.subdirs p) (hr : r ∈ s.subdirs p) (hne : q ≠ r) :
    3 < s.nlink p := by
  have htwo : 1 < (s.subdirs p).length := by
    by_contra hle
    obtain ⟨x, hx⟩ | hnil : (∃ x, s.subdirs p = [x]) ∨ s.subdirs p = [] := by
      cases hs : s.subdirs p with
      | nil => exact .inr rfl
      | cons x xs =>
        cases xs with
        | nil => exact .inl ⟨x, rfl⟩
        | cons y ys => simp [hs] at hle
    · rw [hx, List.mem_singleton] at hq hr
      exact hne (hq.trans hr.symm)
    · rw [hnil] at hq
      cases hq
  rw [nlink_eq]
  omega

theorem subdirs_rmdir (s : OneFS) (p q : Str) :
    (s.rmdir q).subdirs p = (s.subdirs p).filter fun d => !under q d := by
  simp only [subdirs, rmdir, Table.keep, List.filter_map, List.filter_filter, Function.comp_def,
    Bool.and_comm]

theorem hasDir_rmdir_of_not_under (h : under q p = false) : (s.rmdir q).hasDir p = s.hasDir p := by
  rw [Bool.eq_iff_iff]
  simp only [hasDir, Table.has_iff, mem_rmdir]
  refine exists_congr fun d => and_congr_left fun hp => and_iff_left ?_
  rw [hp, h]

/-- A removal that does nothing when there is no such directory. -/
def withoutDir (s : OneFS) (p : Str) : OneFS := if s.hasDir p then s.rmdir p else s

theorem child_ne_root (hv : v ≠ []) : p ++ slash :: v ≠ [slash] := by
  intro h
  have hlen : p.length + (v.length + 1) = 1 := by simpa using congrArg List.length h
  exact hv (List.length_eq_zero_iff.1 (by omega))

theorem under_child (hn : slash ∉ n) (hv : v ≠ []) :
    under (p ++ slash :: v) (p ++ slash :: n) = true ↔ n = v := by
  have hbelow : startsWith (p ++ slash :: n) (p ++ slash :: (v ++ [slash])) = false := by
    rw [Bool.eq_false_iff]
    intro h
    obtain ⟨rest, hrest⟩ := List.isPrefixOf_iff_prefix.1 h
    have hmem : n = v ++ slash :: rest := by simpa using hrest.symm
    exact hn (by simp [hmem])
  simp [under, hbelow, child_ne_root hv]

theorem under_of_parent (h : under q p = true) : under q (p ++ slash :: n) = true := by
  simp only [under, Bool.or_eq_true, decide_eq_true_eq] at h ⊢
  rcases h with (rfl | h) | h
  · exact .inl (.inr (List.isPrefixOf_iff_prefix.2 ⟨n, by simp⟩))
  · have hle := (List.isPrefixOf_iff_prefix.1 h).trans (List.prefix_append p (slash :: n))
    exact .inl (.inr (List.isPrefixOf_iff_prefix.2 hle))
  · exact .inr h

theorem under_parent (hv : v ≠ []) : under (p ++ slash :: v) p = false := by
  have hbelow : startsWith p (p ++ slash :: (v ++ [slash])) = false := by
    rw [Bool.eq_false_iff]
    intro h
    have hlen := (List.isPrefixOf_iff_prefix.1 h).length_le
    simp only [List.length_append, List.length_cons] at hlen
    omega
  simp [under, hbelow, child_ne_root hv]

/-- The directories right below `p` are those called `names`. -/
def Holds (s : OneFS) (p : Str) (names : List Str) : Prop :=
  (s.subdirs p).Perm (names.map (p ++ slash :: ·))

namespace Holds

variable (h : s.Holds p names)
include h

theorem nlink : s.nlink p = 2 + (names.length : Int) := by
  rw [nlink_eq, h.length_eq, List.length_map]

theorem hasDir_iff (hn : dir (p ++ slash :: n) = p) :
    s.hasDir (p ++ slash :: n) = true ↔ n ∈ names := by
  have hmem := h.mem_iff (a := p ++ slash :: n)
  simpa [mem_subdirs, hn] using hmem

theorem without (hplain : ∀ n ∈ names, Plain n) (hv : v ≠ []) :
    (s.withoutDir (p ++ slash :: v)).Holds p (names.filter (· ≠ v)) := by
  unfold withoutDir
  split
  · have hleft := h.filter fun d => !under (p ++ slash :: v) d
    rw [← subdirs_rmdir, List.filter_map] at hleft
    rw [Holds, List.filter_congr fun n hn => ?_]
    · exact hleft
    · rw [Bool.eq_iff_iff]
      simp [← under_child (p := p) (hplain n hn).no_slash hv]
  · next hdir =>
    rw [List.filter_eq_self.2 fun n hn => ?_]
    · exact h
    · have hmem := (mem_subdirs.1 (h.mem_iff.2 (List.mem_map_of_mem hn))).1
      have hne : n ≠ v := fun hnv => hdir (hnv ▸ hmem)
      simpa using hne

theorem made (hn : dir (p ++ slash :: n) = p) (hnew : ¬s.hasDir (p ++ slash :: n) = true) :
    (s.mkdir (p ++ slash :: n)).Holds p (n :: names) := by
  have hadd : (s.mkdir (p ++ slash :: n)).subdirs p = s.subdirs p ++ [p ++ slash :: n] := by
    rw [hasDir] at hnew
    simp [subdirs, mkdir, Table.add, hnew, hn]
  rw [Holds, hadd]
  exact List.perm_append_comm.trans (h.cons _)

end Holds
end OneFS

namespace Controller

variable {base tracking n : Str} {s : OneFS} {F : Faults Call Err OneFS}

theorem trackingEntry_path (hbase : CleanAbs base) (htracking : Plain tracking) (hn : Plain n) :
    namespacePath base (trackingEntry tracking n) = namespacePath base tracking ++ slash :: n ∧
      dir (namespacePath base tracking ++ slash :: n) = namespacePath base tracking := by
  obtain ⟨bs, hbs, rfl⟩ := hbase
  have hdir : ∀ y ∈ [tracking], Plain y := by simp [htracking]
  have hT : namespacePath (absPath bs) tracking = absPath (bs ++ [tracking]) :=
    join_absPath hbs hdir
  have hchild : absPath (bs ++ [tracking] ++ [n]) = namespacePath (absPath bs) tracking ++ slash :: n := by
    rw [absPath_append (by simp) (by simp), hT]
    rfl
  rw [← hchild, dir_absPath (plain_append hbs hdir) hn.no_slash, hT, trackingEntry,
    join_pair htracking hn, List.append_assoc]
  exact ⟨join_absPath hbs (by simp [htracking, hn]), rfl⟩

theorem run_removeTrackingEntry (base entry : Str) :
    run array (removeTrackingEntry base entry) s =
      (.ok (), s.withoutDir (namespacePath base entry)) := by
  unfold removeTrackingEntry OneFS.withoutDir
  rw [run_bind, IsiService.run_isVolumeExistent]
  dsimp only
  split
  · next h =>
    simp [IsiService.deleteVolume, IsiService.rename, run_bind, array_act, OneFS.serve, OneFS.change, h]
  · rfl

theorem removeTrackedSnapshot_uses {U : Call → Prop} (hexport : U (.unexport i z))
    (hdir : U (.deleteVolume base tracking)) (hsnapshot : U (.removeSnapshot (-1) snapshot)) :
    uses U (removeTrackedSnapshot base tracking snapshot z i) := by
  refine uses_attempt_bind (IsiService.unexportByIDWithZone_uses hexport) fun r => ?_
  split
  · trivial
  refine uses_attempt_bind (IsiService.deleteVolume_uses hdir) fun r => ?_
  split
  · trivial
  · exact uses_ask_bind hsnapshot fun _ => trivial

/-- A look-up that fails reads as a missing directory, so only a positive answer can be trusted. -/
theorem isVolumeExistent_wp {Q : Except Err α → OneFS → Prop}
    (hyes : s.hasDir (namespacePath base n) = true → wp array F (f true) Q s)
    (hno : wp array F (f false) Q s) :
    wp array F (IsiService.isVolumeExistent base n >>= f) Q s := by
  unfold IsiService.isVolumeExistent
  simp only [wp_bind, wp_ask, array_act, OneFS.serve]
  constructor
  · by_cases hdir : s.hasDir (namespacePath base n) = true
    · rw [if_pos hdir]
      exact hyes hdir
    · rw [if_neg hdir]
      exact hno
  · intro e _
    exact hno

theorem getSubDirectoryCount_wp (base n : Str) :
    wp array F (IsiService.getSubDirectoryCount base n)
      (fun r t => t = s ∧ ∀ count, r = .ok count → count = s.nlink (namespacePath base n)) s := by
  refine isVolumeExistent_wp (fun hdir => ?_) ⟨rfl, fun count hcount => by cases hcount⟩
  rw [if_pos rfl, request, wp_bind, wp_op]
  refine ⟨?_, fun e _ => ⟨rfl, fun count hcount => by cases hcount⟩⟩
  simp only [array_act, OneFS.serve, hdir, if_true, OneFS.reply]
  exact ⟨rfl, fun count hcount => (Except.ok.inj hcount).symm⟩

end Controller
end CsiPowerscale
