import CsiPowerscale.CloneOwnership
import CsiPowerscale.FSGroupRuns

namespace CsiPowerscale
open GoLib Effects Effects.Prog

namespace FileEntry

def attr (e : FileEntry) : FileAttr := ⟨e.group, e.mode.testBit 10, e.mode &&& 0o777⟩

def kind (e : FileEntry) : EntryKind := if e.isDirectory then .dir else .file

theorem kind_ne_link (e : FileEntry) : e.kind ≠ .link := by
  rw [kind]
  split
  · exact EntryKind.noConfusion
  · exact EntryKind.noConfusion

theorem kind_eq_dir {e : FileEntry} : e.kind = .dir ↔ e.isDirectory = true := by
  rw [kind]
  split
  · rename_i h
    exact iff_of_true rfl h
  · rename_i h
    exact iff_of_false EntryKind.noConfusion h

def mask (e : FileEntry) : Nat := if e.isDirectory then 0o770 else 0o660

def nodeAttr (gid : Int) (e : FileEntry) : FileAttr :=
  ⟨gid, e.attr.setgid || e.isDirectory, e.attr.perm ||| e.mask⟩

end FileEntry

def ChownVolume.applyFSGroupPermissions (v : ChownVolume) (gid : Int) (job : ChownJob) :
    ChownVolume := (v.lchown job.path gid).chmod job

namespace FileTree

def view (t : FileTree) (loc : Str) (rel : List Str) : Option FileAttr :=
  (t.entries.find? fun e => e.path = segments loc ++ rel).map FileEntry.attr

def mounted (t : FileTree) (loc : Str) : ChownVolume where
  attrs rel := (t.view loc rel).getD ⟨0, false, 0⟩
  states _ := none

def jobs (t : FileTree) (loc : Str) : List ChownJob :=
  (t.entries.filter (FileEntry.inside loc)).map fun e =>
    ⟨e.path.drop (segments loc).length, e.kind, e.attr⟩

def nodeView (t : FileTree) (loc : Str) (gid : Int) (walk : MapOrder ChownJob) (rel : List Str) :
    Option FileAttr :=
  (t.view loc rel).map fun _ => ((walk.order (t.jobs loc)).foldl
    (fun v job => v.applyFSGroupPermissions gid job) (t.mounted loc)).attrs rel

end FileTree

namespace IsiService

def setCloneOwnership (pages : Nat) (work : MapOrder (Str × Bool)) (isiPath name : Str)
    (gid : Int) : AclM Unit := do
  let _ ← setVolumeGroupOwnershipByPath isiPath name gid true
  setVolumeGroupOwnershipRecursive pages work isiPath name gid

variable {size pages : Nat} {isiPath name : Str} {t : FileTree} {gid : Int}

theorem attrs_applyFSGroupPermissions_self (v : ChownVolume) (gid : Int)
    (hkind : job.kind ≠ .link) : (v.applyFSGroupPermissions gid job).attrs job.path =
      ⟨gid, job.mode.setgid || job.kind = .dir,
        job.mode.perm ||| if job.kind = .dir then 0o770 else 0o660⟩ := by
  rw [ChownVolume.applyFSGroupPermissions, ChownVolume.chmod, if_neg hkind]
  simp [ChownVolume.lchown]

theorem attrs_applyFSGroupPermissions_ne (v : ChownVolume) (gid : Int) (hp : p ≠ job.path) :
    (v.applyFSGroupPermissions gid job).attrs p = v.attrs p := by
  rw [ChownVolume.applyFSGroupPermissions, ChownVolume.chmod]
  split
  · simp [ChownVolume.lchown, hp]
  · simp [ChownVolume.lchown, hp]

theorem attrs_foldl_ne {jobs : List ChownJob} (hp : p ∉ jobs.map ChownJob.path) (v : ChownVolume) :
    (jobs.foldl (fun v job => v.applyFSGroupPermissions gid job) v).attrs p = v.attrs p := by
  induction jobs generalizing v with
  | nil => rfl
  | cons job jobs ih =>
    rw [List.map_cons, List.mem_cons, not_or] at hp
    rw [List.foldl_cons, ih hp.2, attrs_applyFSGroupPermissions_ne v gid hp.1]

theorem attrs_foldl {jobs : List ChownJob} (hnodup : (jobs.map ChownJob.path).Nodup)
    {job : ChownJob} (hjob : job ∈ jobs) (hkind : job.kind ≠ .link) (v : ChownVolume) :
    (jobs.foldl (fun v job => v.applyFSGroupPermissions gid job) v).attrs job.path =
      ⟨gid, job.mode.setgid || job.kind = .dir,
        job.mode.perm ||| if job.kind = .dir then 0o770 else 0o660⟩ := by
  induction jobs generalizing v with
  | nil => cases hjob
  | cons first jobs ih =>
    rw [List.map_cons, List.nodup_cons] at hnodup
    rw [List.foldl_cons]
    rcases List.mem_cons.1 hjob with rfl | hjob
    · rw [attrs_foldl_ne hnodup.1, attrs_applyFSGroupPermissions_self v gid hkind]
    · exact ih hnodup.2 hjob _

theorem inside_iff {e : FileEntry} : e.inside loc = true ↔ ∃ rel, e.path = segments loc ++ rel := by
  rw [FileEntry.inside, List.isPrefixOf_iff_prefix]
  exact exists_congr fun rel => eq_comm

theorem eq_of_path {d e : FileEntry} (hd : d ∈ t.entries) (he : e ∈ t.entries)
    (h : d.path = e.path) : d = e := List.inj_on_of_nodup_map t.nodup hd he h

theorem view_of_mem (he : e ∈ t.entries) (hrel : e.path = segments loc ++ rel) :
    t.view loc rel = some e.attr := by
  rw [FileTree.view]
  cases hfind : t.entries.find? fun e => e.path = segments loc ++ rel with
  | none =>
    have hno := List.find?_eq_none.1 hfind e he
    exact (hno (decide_eq_true hrel)).elim
  | some d =>
    have hsome := List.find?_some hfind
    have hpath : d.path = segments loc ++ rel := of_decide_eq_true hsome
    rw [eq_of_path (List.mem_of_find?_eq_some hfind) he (hpath.trans hrel.symm)]
    rfl

theorem mem_of_view (h : t.view loc rel = some a) :
    ∃ e ∈ t.entries, e.path = segments loc ++ rel ∧ e.attr = a := by
  obtain ⟨e, hfind, rfl⟩ := Option.map_eq_some_iff.1 h
  have hsome := List.find?_some hfind
  exact ⟨e, List.mem_of_find?_eq_some hfind, of_decide_eq_true hsome, rfl⟩

theorem jobs_nodup (t : FileTree) (loc : Str) : ((t.jobs loc).map ChownJob.path).Nodup := by
  rw [FileTree.jobs, List.map_map]
  have hentries : (t.entries.filter (FileEntry.inside loc)).Nodup :=
    (List.Nodup.of_map _ t.nodup).filter _
  apply hentries.map_on
  intro d hd e he hpath
  obtain ⟨hd, hdin⟩ := List.mem_filter.1 hd
  obtain ⟨he, hein⟩ := List.mem_filter.1 he
  obtain ⟨rel, hrel⟩ := inside_iff.1 hdin
  obtain ⟨rel', hrel'⟩ := inside_iff.1 hein
  apply eq_of_path hd he
  simp only [Function.comp_apply, hrel, hrel', List.drop_left] at hpath
  rw [hrel, hrel', hpath]

theorem nodeView_of_mem (walk : MapOrder ChownJob) (he : e ∈ t.entries)
    (hrel : e.path = segments loc ++ rel) :
    t.nodeView loc gid walk rel = some (e.nodeAttr gid) := by
  have hnodup : ((walk.order (t.jobs loc)).map ChownJob.path).Nodup :=
    ((walk.perm _).map _).nodup_iff.2 (jobs_nodup t loc)
  have hjob : (⟨rel, e.kind, e.attr⟩ : ChownJob) ∈ walk.order (t.jobs loc) := by
    apply walk.mem_order.2
    apply List.mem_map.2
    refine ⟨e, List.mem_filter.2 ⟨he, inside_iff.2 ⟨rel, hrel⟩⟩, ?_⟩
    rw [hrel, List.drop_left]
  rw [FileTree.nodeView, view_of_mem he hrel, Option.map_some,
    attrs_foldl hnodup hjob (FileEntry.kind_ne_link e), FileEntry.nodeAttr, FileEntry.mask]
  simp only [FileEntry.kind_eq_dir, Bool.decide_eq_true]

theorem view_eq_nodeView_iff {t' : FileTree} (walk : MapOrder ChownJob)
    (hf : ∀ e, (f e).path = e.path) (ht : t'.entries = t.entries.map f) :
    (∀ rel, t'.view loc rel = t.nodeView loc gid walk rel) ↔
      ∀ e ∈ t.entries, e.inside loc = true → (f e).attr = e.nodeAttr gid := by
  have hview : ∀ e ∈ t.entries, ∀ rel, e.path = segments loc ++ rel →
      t'.view loc rel = some (f e).attr := by
    intro e he rel hrel
    apply view_of_mem
    · rw [ht]
      exact List.mem_map_of_mem he
    · rw [hf, hrel]
  constructor
  · intro h e he hin
    obtain ⟨rel, hrel⟩ := inside_iff.1 hin
    have heq := h rel
    rw [hview e he rel hrel, nodeView_of_mem walk he hrel] at heq
    exact Option.some.inj heq
  · intro h rel
    cases hold : t.view loc rel with
    | some a =>
      obtain ⟨e, he, hrel, -⟩ := mem_of_view hold
      rw [hview e he rel hrel, nodeView_of_mem walk he hrel, h e he (inside_iff.2 ⟨rel, hrel⟩)]
    | none =>
      rw [FileTree.nodeView, hold, Option.map_none]
      cases hnew : t'.view loc rel with
      | none => rfl
      | some a =>
        obtain ⟨e', he', hrel, -⟩ := mem_of_view hnew
        rw [ht] at he'
        obtain ⟨e, he, rfl⟩ := List.mem_map.1 he'
        rw [hf] at hrel
        rw [view_of_mem he hrel] at hold
        cases hold

theorem chown_isDirectory (loc : Str) (gid : Int) (mode : Nat) (e : FileEntry) :
    (e.chown loc gid mode).isDirectory = e.isDirectory := by
  rw [FileEntry.chown]
  split
  · rfl
  · rfl

def settle (gid : Int) (e : FileEntry) : FileEntry :=
  { e with group := gid, mode := modeOf e.isDirectory }

theorem chownAll_entries {work : List (Str × Bool)}
    (hwork : ∀ x ∈ work, ∃ e ∈ t.entries, x = (absPath e.path, e.isDirectory)) :
    (chownAll gid work t).entries = t.entries.map fun e =>
      if absPath e.path ∈ work.map Prod.fst then settle gid e else e := by
  induction work generalizing t with
  | nil =>
    rw [chownAll, List.foldl_nil]
    simp
  | cons x more ih =>
    obtain ⟨d, hd, rfl⟩ := hwork x List.mem_cons_self
    have hsettle : ∀ e ∈ t.entries, e.chown (absPath d.path) gid (modeOf d.isDirectory) =
        if absPath e.path = absPath d.path then settle gid e else e := by
      intro e he
      rw [FileEntry.chown]
      split
      · rename_i hpath
        rw [eq_of_path he hd (absPath_injective (t.plain e he) (t.plain d hd) hpath), settle]
      · rfl
    have hmore := ih (t := t.chown (absPath d.path) gid (modeOf d.isDirectory)) ?_
    · rw [chownAll, List.foldl_cons]
      rw [chownAll] at hmore
      rw [hmore, FileTree.chown, List.map_map]
      apply List.map_congr_left
      intro e he
      rw [Function.comp_apply, FileEntry.chown_path, hsettle e he, List.map_cons]
      by_cases hd' : absPath e.path = absPath d.path
      · rw [if_pos hd', if_pos (List.mem_cons.2 (.inl hd'))]
        split
        · rfl
        · rfl
      rw [if_neg hd']
      by_cases hmem : absPath e.path ∈ more.map Prod.fst
      · rw [if_pos hmem, if_pos (List.mem_cons_of_mem _ hmem)]
      rw [if_neg hmem, if_neg]
      intro h
      rcases List.mem_cons.1 h with h | h
      · exact hd' h
      · exact hmem h
    · intro x hx
      obtain ⟨e, he, rfl⟩ := hwork x (List.mem_cons_of_mem _ hx)
      refine ⟨e.chown (absPath d.path) gid (modeOf d.isDirectory), List.mem_map_of_mem he, ?_⟩
      rw [FileEntry.chown_path, chown_isDirectory]

def settled (loc : Str) (gid : Int) (e : FileEntry) : FileEntry :=
  if e.strictlyInside loc then settle gid e
  else if e.path = segments loc ∧ e.group ≠ gid then
    { e with group := gid, mode := directoryMode }
  else e

theorem settled_path (gid : Int) (e : FileEntry) :
    (settled loc gid e).path = e.path := by
  rw [settled]
  split
  · rfl
  · split
    · rfl
    · rfl

theorem strictlyInside_chown (loc loc' : Str) (gid : Int) (mode : Nat) (e : FileEntry) :
    (e.chown loc' gid mode).strictlyInside loc = e.strictlyInside loc := by
  rw [FileEntry.strictlyInside, FileEntry.strictlyInside, FileEntry.inside, FileEntry.inside,
    FileEntry.chown_path]

theorem path_eq_iff {e : FileEntry} (he : e ∈ t.entries) :
    absPath e.path = namespacePath isiPath name ↔ e.path = segments (namespacePath isiPath name) := by
  constructor
  · intro h
    rw [← h, segments_absPath _ (t.plain e he)]
  · intro h
    rw [h, absPath_segments_namespacePath]

theorem not_strictlyInside {e : FileEntry} (h : e.path = segments loc) :
    e.strictlyInside loc = false := by
  rw [FileEntry.strictlyInside, h, bne_self_eq_false, Bool.and_false]

theorem run_recursive_entries (size : Nat) (work : MapOrder (Str × Bool)) (gid : Int)
    (hroot : Rooted isiPath) (hd : t.find (namespacePath isiPath name) = some d)
    (hpages : t.entries.length < pages) :
    ∃ t', run (fileTree size) (setVolumeGroupOwnershipRecursive pages work isiPath name gid) t =
        (.ok (), t') ∧
      t'.entries = t.entries.map fun e =>
        if e.strictlyInside (namespacePath isiPath name) then settle gid e else e := by
  obtain ⟨l, hrun, hkeys, htypes⟩ :=
    run_setVolumeGroupOwnershipRecursive size work gid hroot hd hpages
  refine ⟨_, hrun, ?_⟩
  rw [chownAll_entries htypes]
  apply List.map_congr_left
  intro e he
  have hiff : absPath e.path ∈ l.map Prod.fst ↔
      e.strictlyInside (namespacePath isiPath name) = true := by
    rw [hkeys]
    constructor
    · rintro ⟨e', he', hin, hpath⟩
      rw [eq_of_path he he' (absPath_injective (t.plain e he) (t.plain e' he') hpath.symm)]
      exact hin
    · intro hin
      exact ⟨e, he, hin, rfl⟩
  simp only [hiff]

theorem run_setCloneOwnership (size : Nat) (work : MapOrder (Str × Bool)) (gid : Int)
    (hroot : Rooted isiPath) (hd : t.find (namespacePath isiPath name) = some d)
    (hpages : t.entries.length < pages) :
    ∃ t', run (fileTree size) (setCloneOwnership pages work isiPath name gid) t = (.ok (), t') ∧
      t'.entries = t.entries.map (settled (namespacePath isiPath name) gid) := by
  have hmem := List.mem_of_find?_eq_some hd
  have hdir : d.path = segments (namespacePath isiPath name) := (path_eq_iff hmem).1 (find_path hd)
  by_cases hgid : d.group = gid
  · subst hgid
    obtain ⟨t', hrun, hentries⟩ := run_recursive_entries size work d.group hroot hd hpages
    refine ⟨t', ?_, hentries.trans (List.map_congr_left fun e he => ?_)⟩
    · rw [setCloneOwnership, run_bind, run_setVolumeGroupOwnershipByPath_same hd]
      exact hrun
    rw [settled]
    split
    · rfl
    · rw [if_neg]
      rintro ⟨hpath, hne⟩
      exact hne (congrArg FileEntry.group (eq_of_path he hmem (hpath.trans hdir.symm)))
  · have hd' : (t.chown (namespacePath isiPath name) gid directoryMode).find
        (namespacePath isiPath name) =
        some (d.chown (namespacePath isiPath name) gid directoryMode) := by
      rw [find_chown, hd]
      rfl
    obtain ⟨t', hrun, hentries⟩ := run_recursive_entries size work gid hroot hd'
      (by rwa [FileTree.chown, List.length_map])
    refine ⟨t', ?_, hentries.trans ?_⟩
    · rw [setCloneOwnership, run_bind, run_setVolumeGroupOwnershipByPath_other hd hgid]
      exact hrun
    rw [FileTree.chown, List.map_map]
    apply List.map_congr_left
    intro e he
    rw [Function.comp_apply, strictlyInside_chown, settled, FileEntry.chown]
    by_cases hpath : absPath e.path = namespacePath isiPath name
    · have hseg := (path_eq_iff he).1 hpath
      have hsame : e.group ≠ gid := by
        rw [eq_of_path he hmem (hseg.trans hdir.symm)]
        exact hgid
      rw [not_strictlyInside hseg, if_pos hpath]
      simp only [Bool.false_eq_true, if_false]
      rw [if_pos ⟨hseg, hsame⟩]
    · rw [if_neg hpath]
      split
      · rfl
      · rw [if_neg fun h => hpath ((path_eq_iff he).2 h.1)]

/-- The entry comes out the same on both sides: the volume's directory keeps a mode that already has
the bits, and what is set anew had no others. -/
def ModesAgree (loc : Str) (gid : Int) (e : FileEntry) : Prop :=
  if e.path = segments loc ∧ e.group = gid then
    e.attr.setgid = true ∧ e.attr.perm ||| 0o770 = e.attr.perm
  else if e.isDirectory then e.attr.perm ||| 0o770 = 0o770
  else e.attr.setgid = false ∧ e.attr.perm ||| 0o660 = 0o660

theorem attr_eq_iff : (⟨g, b, n⟩ : FileAttr) = ⟨g, b', n'⟩ ↔ b' = b ∧ n' = n := by
  rw [FileAttr.mk.injEq, eq_comm (a := b), eq_comm (a := n)]
  exact and_iff_right rfl

theorem attr_directoryMode {e : FileEntry} (h : e.mode = directoryMode) :
    e.attr = ⟨e.group, true, 0o770⟩ := by
  rw [FileEntry.attr, h]
  rfl

theorem attr_fileMode {e : FileEntry} (h : e.mode = fileMode) :
    e.attr = ⟨e.group, false, 0o660⟩ := by
  rw [FileEntry.attr, h]
  rfl

theorem settled_attr_iff (hin : e.inside loc = true)
    (hdir : e.path = segments loc → e.isDirectory = true) :
    (settled loc gid e).attr = e.nodeAttr gid ↔ ModesAgree loc gid e := by
  by_cases hroot : e.path = segments loc
  · have hkind := hdir hroot
    rw [settled, not_strictlyInside hroot, if_neg Bool.false_ne_true, ModesAgree,
      FileEntry.nodeAttr, FileEntry.mask, if_pos hkind, hkind, Bool.or_true]
    by_cases hgid : e.group = gid
    · -- the directory keeps its mode
      subst hgid
      rw [if_neg fun h => h.2 rfl, if_pos ⟨hroot, rfl⟩]
      exact attr_eq_iff.trans (and_congr_left' eq_comm)
    · rw [if_pos ⟨hroot, hgid⟩, if_neg fun h => hgid h.2, if_pos rfl, attr_directoryMode rfl]
      exact attr_eq_iff.trans (and_iff_right rfl)
  · have hstrict : e.strictlyInside loc = true := by
      rw [FileEntry.strictlyInside, hin, Bool.true_and, bne_iff_ne]
      exact hroot
    rw [settled, if_pos hstrict, ModesAgree, if_neg fun h => hroot h.1, FileEntry.nodeAttr,
      FileEntry.mask]
    cases hkind : e.isDirectory with
    | true =>
      rw [attr_directoryMode (e := settle gid e) (congrArg modeOf hkind), Bool.or_true]
      exact attr_eq_iff.trans (and_iff_right rfl)
    | false =>
      rw [attr_fileMode (e := settle gid e) (congrArg modeOf hkind), Bool.or_false]
      exact attr_eq_iff

/-- The management API and the node agree on the groups and modes of a clone exactly when they
agree on each of its entries. -/
theorem setCloneOwnership_modes_iff (work : MapOrder (Str × Bool)) (walk : MapOrder ChownJob)
    {d : FileEntry} (hroot : Rooted isiPath) (hd : t.find (namespacePath isiPath name) = some d)
    (hdir : d.isDirectory = true) (hpages : t.entries.length < pages) :
    (∃ t', run (fileTree size) (setCloneOwnership pages work isiPath name gid) t = (.ok (), t') ∧
      ∀ rel, t'.view (namespacePath isiPath name) rel =
        t.nodeView (namespacePath isiPath name) gid walk rel) ↔
    ∀ e ∈ t.entries, e.inside (namespacePath isiPath name) = true →
      ModesAgree (namespacePath isiPath name) gid e := by
  obtain ⟨t', hrun, hentries⟩ := run_setCloneOwnership size work gid hroot hd hpages
  have hroot : ∀ e ∈ t.entries, e.path = segments (namespacePath isiPath name) →
      e.isDirectory = true := by
    intro e he hpath
    have hmem := List.mem_of_find?_eq_some hd
    rw [eq_of_path he hmem (hpath.trans ((path_eq_iff hmem).1 (find_path hd)).symm)]
    exact hdir
  have hentry : (∀ e ∈ t.entries, e.inside (namespacePath isiPath name) = true →
      (settled (namespacePath isiPath name) gid e).attr = e.nodeAttr gid) ↔
      ∀ e ∈ t.entries, e.inside (namespacePath isiPath name) = true →
        ModesAgree (namespacePath isiPath name) gid e :=
    forall₂_congr fun e he => forall_congr' fun hin => settled_attr_iff hin (hroot e he)
  rw [← hentry, ← view_eq_nodeView_iff walk (settled_path gid) hentries, hrun]
  constructor
  · rintro ⟨u, hu, hview⟩
    cases hu
    exact hview
  · intro hview
    exact ⟨t', rfl, hview⟩

instance (loc : Str) (gid : Int) (e : FileEntry) : Decidable (ModesAgree loc gid e) := by
  unfold ModesAgree
  infer_instance

def privateClone : FileTree where
  entries := [⟨["ifs", "shared", "vol2"], true, 0, 0o0750⟩,
    ⟨["ifs", "shared", "vol2", "data"], false, 0, 0o0640⟩]
  plain := by decide
  below := by decide
  nodup := by decide

theorem setCloneOwnership_modes_private :
    (∃ d, privateClone.find (namespacePath "/ifs/shared" "vol2") = some d ∧ d.isDirectory = true) ∧
    ∃ t', run (fileTree 0) (setCloneOwnership 3 listOrder "/ifs/shared" "vol2" 1000)
        privateClone = (.ok (), t') ∧
      ∀ rel, t'.view (namespacePath "/ifs/shared" "vol2") rel =
        privateClone.nodeView (namespacePath "/ifs/shared" "vol2") 1000 listOrder rel := by
  refine ⟨⟨_, rfl, rfl⟩, ?_⟩
  apply (setCloneOwnership_modes_iff listOrder listOrder (by decide) rfl rfl (by decide)).2
  decide +kernel

/-- What others could read before is theirs no longer through the management API, and still is
through the node. -/
theorem setCloneOwnership_drops_modes :
    (run (fileTree 0) (setCloneOwnership 3 listOrder "/ifs/shared" "vol2" 1000)
        NodeService.copiedClone).1 = .ok () ∧
    (run (fileTree 0) (setCloneOwnership 3 listOrder "/ifs/shared" "vol2" 1000)
        NodeService.copiedClone).2.view "/ifs/shared/vol2" ["data"] =
      some ⟨1000, false, 0o660⟩ ∧
    NodeService.copiedClone.nodeView "/ifs/shared/vol2" 1000 listOrder ["data"] =
      some ⟨1000, false, 0o664⟩ := by
  decide +kernel

end IsiService
end CsiPowerscale
