import CsiPowerscale.FileOwnership
import CsiPowerscale.NodeStage

namespace CsiPowerscale
open GoLib Effects Effects.Prog

namespace IsiService

variable {size : Nat} {isiPath name : Str} {t : FileTree}

theorem namespacePath_eq (isiPath name : Str) : namespacePath isiPath name =
    absPath (resolve true [] (segments isiPath ++ segments name)) := by
  rw [namespacePath, join_rooted (by decide)]
  simp only [List.flatMap_cons, List.flatMap_nil, List.append_nil]
  rfl

theorem segments_namespacePath (isiPath name : Str) : segments (namespacePath isiPath name) =
    resolve true [] (segments isiPath ++ segments name) := by
  rw [namespacePath_eq, ← segments_append]
  exact segments_absPath _ (resolve_segments_plain _)

theorem absPath_segments_namespacePath (isiPath name : Str) :
    absPath (segments (namespacePath isiPath name)) = namespacePath isiPath name := by
  rw [segments_namespacePath, namespacePath_eq]

theorem volumePath_eq (isiPath name : Str) :
    sprintf [isiPath, "/", name] = isiPath ++ slash :: name := by
  rw [show ("/" : Str) = [slash] by decide]
  simp [sprintf]

theorem splitN3_volumePath (h : Rooted isiPath) (name : Str) :
    ∃ x, splitN3 (sprintf [isiPath, "/", name]) = some x := by
  cases isiPath with
  | nil => cases h
  | cons c cs =>
    obtain rfl : c = slash := by simpa [Rooted] using h
    rw [volumePath_eq]
    exact Option.isSome_iff_exists.1 splitN3_isSome

theorem namespacePath_volumePath (h : Rooted isiPath)
    (hs : splitN3 (sprintf [isiPath, "/", name]) = some (a, base, relativePath)) :
    namespacePath base relativePath = namespacePath isiPath name := by
  rw [volumePath_eq] at hs
  rw [namespacePath, join_splitN3 (h.append _) hs, clean_rooted (h.append _), segments_append,
    namespacePath_eq]

theorem splitN3_absPath (h : 2 ≤ xs.length) : ∃ x, splitN3 (absPath xs) = some x := by
  match xs, h with
  | x :: y :: zs, _ =>
    rw [absPath, joinWith_cons x (y :: zs) (by simp)]
    exact Option.isSome_iff_exists.1 splitN3_isSome

theorem find_of_mem (he : e ∈ t.entries) : ∃ d, t.find (absPath e.path) = some d := by
  rw [← Option.isSome_iff_exists, FileTree.find, List.find?_isSome]
  exact ⟨e, he, decide_eq_true rfl⟩

theorem run_setPathGroupOwnership (he : e ∈ t.entries) (hlen : 2 ≤ e.path.length) (gid : Int)
    (isDirectory : Bool) :
    run (fileTree size) (setPathGroupOwnership (absPath e.path) gid isDirectory) t =
      (.ok (), t.chown (absPath e.path) gid (modeOf isDirectory)) := by
  obtain ⟨⟨a, base, relativePath⟩, hsplit⟩ := splitN3_absPath hlen
  have hloc : namespacePath base relativePath = absPath e.path := by
    rw [namespacePath, join_splitN3 (show Rooted (absPath e.path) from rfl) hsplit,
      clean_absPath _ (t.plain e he)]
  obtain ⟨d, hd⟩ := find_of_mem he
  rw [setPathGroupOwnership, hsplit]
  simp only [run, ask, call_bind, ret_bind, fileTree, FileTree.serve, hloc, hd]
  rfl

theorem run_queryChildren (hd : t.find (namespacePath isiPath name) = some d) (resume : Str) :
    (fileTree size).act (.queryChildren isiPath name resume) t =
      (.ok (t.page size (namespacePath isiPath name) resume.length), t) := by
  simp only [fileTree, FileTree.serve, hd]

theorem run_queryAllChildren (hd : t.find (namespacePath isiPath name) = some d) (n : Nat)
    (resume : Str) (found : List ContainerChild)
    (hstart : resume.length ≤ (t.children (namespacePath isiPath name)).length)
    (hn : (t.children (namespacePath isiPath name)).length < n + resume.length) :
    run (fileTree size) (queryAllChildren isiPath name n resume found) t =
      (.ok (found ++ (t.children (namespacePath isiPath name)).drop resume.length), t) := by
  induction n generalizing resume found with
  | zero => omega
  | succ n ih =>
    rw [queryAllChildren, tryAcl, run_ask_bind, run_queryChildren hd]
    by_cases hmore : resume.length + (size + 1) < (t.children (namespacePath isiPath name)).length
    · simp only [FileTree.page, if_pos hmore]
      rw [if_neg (by simp), ih _ _ (by simp; omega) (by simp; omega), List.length_replicate,
        List.append_assoc, ← List.drop_drop, List.take_append_drop]
    · simp only [FileTree.page, if_neg hmore, if_true]
      rw [List.take_of_length_le (by simp; omega)]
      rfl

theorem mem_childrenByPath : p ∈ (childrenByPath cs found).map Prod.fst ↔
      p ∈ found.map Prod.fst ∨ ∃ c ∈ cs, childPath c = some p := by
  induction cs generalizing found with
  | nil => simp [childrenByPath]
  | cons c cs ih =>
    obtain ⟨path, name, type⟩ := c
    cases path with
    | none => simp [childrenByPath, ih, childPath]
    | some q =>
      cases name with
      | none => simp [childrenByPath, ih, childPath]
      | some n => simp [childrenByPath, ih, mem_keys_assign, childPath, or_assoc, eq_comm]

theorem childrenByPath_type (h : x ∈ childrenByPath cs found) :
    x ∈ found ∨ ∃ c ∈ cs, childPath c = some x.1 ∧ x.2 = decide (c.type = some "container") := by
  induction cs generalizing found with
  | nil => exact .inl h
  | cons c cs ih =>
    obtain ⟨path, name, type⟩ := c
    cases path with
    | none =>
      rcases ih h with h | ⟨c, hc, hx⟩
      · exact .inl h
      · exact .inr ⟨c, List.mem_cons_of_mem _ hc, hx⟩
    | some q =>
      cases name with
      | none =>
        rcases ih h with h | ⟨c, hc, hx⟩
        · exact .inl h
        · exact .inr ⟨c, List.mem_cons_of_mem _ hc, hx⟩
      | some n =>
        rcases ih h with h | ⟨c, hc, hx⟩
        · rcases mem_of_mem_assign h with h | rfl
          · exact .inl h
          · exact .inr ⟨_, List.mem_cons_self, rfl, rfl⟩
        · exact .inr ⟨c, List.mem_cons_of_mem _ hc, hx⟩

theorem childPath_child (he : e ∈ t.entries) : childPath e.child = some (absPath e.path) := by
  have hne := t.below e he
  have hplain := t.plain e he
  have hlast : e.path.dropLast ++ [e.path.getLast?.getD []] = e.path := by
    rw [List.getLast?_eq_some_getLast hne]
    exact List.dropLast_append_getLast hne
  have hinit : ∀ x ∈ e.path.dropLast, Plain x := fun x hx => hplain x (List.mem_of_mem_dropLast hx)
  have hname : Plain (e.path.getLast?.getD []) := by
    apply hplain
    rw [List.getLast?_eq_some_getLast hne]
    exact List.getLast_mem hne
  simp only [childPath, FileEntry.child]
  rw [join_rooted (show Rooted (absPath e.path.dropLast) from rfl), segments_absPath _ hinit]
  simp only [List.flatMap_cons, List.flatMap_nil, List.append_nil, hname.segments, hlast]
  rw [resolve_plain _ _ _ hplain]
  rfl

theorem child_type (e : FileEntry) : decide (e.child.type = some "container") = e.isDirectory := by
  obtain ⟨path, isDirectory, group, mode⟩ := e
  cases isDirectory with
  | true => rfl
  | false => rfl

theorem mem_childrenByPath_children : p ∈ (childrenByPath (t.children loc) []).map Prod.fst ↔
      ∃ e ∈ t.entries, e.strictlyInside loc = true ∧ absPath e.path = p := by
  rw [mem_childrenByPath, FileTree.children]
  apply Iff.intro
  · rintro (h | ⟨c, hc, hp⟩)
    · cases h
    obtain ⟨e, he, rfl⟩ := List.mem_map.1 hc
    obtain ⟨he, hin⟩ := List.mem_filter.1 he
    rw [childPath_child he] at hp
    exact ⟨e, he, hin, Option.some.inj hp⟩
  · rintro ⟨e, he, hin, rfl⟩
    exact .inr ⟨e.child, List.mem_map_of_mem (List.mem_filter.2 ⟨he, hin⟩), childPath_child he⟩

def chownAll (gid : Int) (work : List (Str × Bool)) (t : FileTree) : FileTree :=
  work.foldl (fun t x => t.chown x.1 gid (modeOf x.2)) t

def Reachable (t : FileTree) (p : Str) : Prop :=
  ∃ e ∈ t.entries, 2 ≤ e.path.length ∧ absPath e.path = p

theorem Reachable.chown (h : Reachable t p) (loc : Str) (gid : Int) (mode : Nat) :
    Reachable (t.chown loc gid mode) p := by
  obtain ⟨e, he, hlen, rfl⟩ := h
  refine ⟨e.chown loc gid mode, List.mem_map_of_mem he, ?_, ?_⟩
  · rw [FileEntry.chown_path]
    exact hlen
  · rw [FileEntry.chown_path]

theorem run_chownChildren (h : ∀ x ∈ work, Reachable t x.1) :
    run (fileTree size) (chownChildren gid work) t = (.ok [], chownAll gid work t) := by
  induction work generalizing t with
  | nil => rfl
  | cons x more ih =>
    obtain ⟨p, isDirectory⟩ := x
    obtain ⟨e, he, hlen, hp⟩ := h _ List.mem_cons_self
    obtain rfl : absPath e.path = p := hp
    have hmore := ih (t := t.chown (absPath e.path) gid (modeOf isDirectory)) fun x hx =>
      (h x (List.mem_cons_of_mem _ hx)).chown _ _ _
    apply run_bind_ok.2
    refine ⟨.ok (), _, ?_, run_bind_ok.2 ⟨[], _, hmore, rfl⟩⟩
    rw [run_attempt, run_setPathGroupOwnership he hlen]

theorem mem_chownAll {work : List (Str × Bool)} (h : e' ∈ (chownAll gid work t).entries) :
    ∃ e ∈ t.entries, e'.path = e.path ∧
      (e'.group = gid ∨ e'.group = e.group ∧ absPath e.path ∉ work.map Prod.fst) := by
  induction work generalizing t with
  | nil => exact ⟨e', h, rfl, .inr ⟨rfl, List.not_mem_nil⟩⟩
  | cons x more ih =>
    obtain ⟨d, hd, hpath, hgroup⟩ := ih h
    obtain ⟨e, he, rfl⟩ := List.mem_map.1 hd
    rw [FileEntry.chown_path] at hpath hgroup
    refine ⟨e, he, hpath, ?_⟩
    by_cases hx : absPath e.path = x.1
    · rw [FileEntry.chown, if_pos hx] at hgroup
      left
      rcases hgroup with hg | hg
      · exact hg
      · exact hg.1
    · rw [FileEntry.chown, if_neg hx] at hgroup
      rcases hgroup with hg | ⟨hg, hnot⟩
      · exact .inl hg
      refine .inr ⟨hg, ?_⟩
      rw [List.map_cons, List.mem_cons]
      rintro (h' | h')
      · exact hx h'
      · exact hnot h'

theorem strictlyInside_length {e : FileEntry} (hd : t.find (namespacePath isiPath name) = some d)
    (hin : e.strictlyInside (namespacePath isiPath name) = true) : 2 ≤ e.path.length := by
  have hdir : segments (namespacePath isiPath name) = d.path := by
    rw [← find_path hd, segments_absPath _ (t.plain d (List.mem_of_find?_eq_some hd))]
  rw [FileEntry.strictlyInside, FileEntry.inside, hdir, Bool.and_eq_true, List.isPrefixOf_iff_prefix,
    bne_iff_ne] at hin
  obtain ⟨⟨rest, hrest⟩, hne⟩ := hin
  have hpos := List.length_pos_of_ne_nil (t.below d (List.mem_of_find?_eq_some hd))
  have hlen := congrArg List.length hrest
  rw [List.length_append] at hlen
  cases rest with
  | nil =>
    rw [List.append_nil] at hrest
    exact (hne hrest.symm).elim
  | cons x xs =>
    rw [List.length_cons] at hlen
    omega

theorem run_setVolumeGroupOwnershipRecursive (size : Nat) (work : MapOrder (Str × Bool))
    (gid : Int) (hroot : Rooted isiPath) (hd : t.find (namespacePath isiPath name) = some d)
    (hpages : t.entries.length < pages) :
    ∃ l, run (fileTree size) (setVolumeGroupOwnershipRecursive pages work isiPath name gid) t =
        (.ok (), chownAll gid l t) ∧
      (∀ p, p ∈ l.map Prod.fst ↔
        ∃ e ∈ t.entries, e.strictlyInside (namespacePath isiPath name) = true ∧
          absPath e.path = p) ∧
      ∀ x ∈ l, ∃ e ∈ t.entries, x = (absPath e.path, e.isDirectory) := by
  obtain ⟨⟨a, base, relativePath⟩, hsplit⟩ := splitN3_volumePath hroot name
  have hloc := namespacePath_volumePath hroot hsplit
  have hcount : (t.children (namespacePath isiPath name)).length ≤ t.entries.length := by
    rw [FileTree.children, List.length_map]
    exact List.length_filter_le _ _
  have hall : run (fileTree size) (queryAllChildren base relativePath pages [] []) t =
      (.ok (t.children (namespacePath isiPath name)), t) := by
    rw [← hloc] at hd hcount ⊢
    exact run_queryAllChildren hd pages [] [] (Nat.zero_le _) (lt_of_le_of_lt hcount hpages)
  refine ⟨work.order (childrenByPath (t.children (namespacePath isiPath name)) []), ?_, ?_, ?_⟩
  · rw [setVolumeGroupOwnershipRecursive]
    simp only [hsplit]
    rw [run_bind, hall]
    dsimp only
    split
    · rename_i hnil
      rw [hnil, List.perm_nil.1 (work.perm [])]
      rfl
    rw [run_bind, run_chownChildren]
    · rfl
    intro x hx
    have hmem : x.1 ∈ (childrenByPath (t.children (namespacePath isiPath name)) []).map Prod.fst :=
      List.mem_map_of_mem (work.mem_order.1 hx)
    obtain ⟨e, he, hin, hp⟩ := mem_childrenByPath_children.1 hmem
    exact ⟨e, he, strictlyInside_length hd hin, hp⟩
  · intro p
    rw [((work.perm _).map Prod.fst).mem_iff]
    exact mem_childrenByPath_children
  · intro x hx
    rcases childrenByPath_type (work.mem_order.1 hx) with h | ⟨c, hc, hpath, htype⟩
    · cases h
    obtain ⟨e, he, rfl⟩ := List.mem_map.1 hc
    have hmem := (List.mem_filter.1 he).1
    rw [childPath_child hmem] at hpath
    exact ⟨e, hmem, Prod.ext (Option.some.inj hpath).symm (htype.trans (child_type e))⟩

theorem run_setVolumeGroupOwnershipByPath_same (he : t.find (namespacePath isiPath name) = some e) :
    run (fileTree size) (setVolumeGroupOwnershipByPath isiPath name e.group true) t =
      (.ok ⟨false, itoa e.group⟩, t) := by
  simp only [setVolumeGroupOwnershipByPath, run, ask, call_bind, ret_bind, fileTree,
    FileTree.serve, he]
  rw [if_neg fun h => h.1 rfl, if_pos trivial]
  rfl

theorem run_setVolumeGroupOwnershipByPath_other
    (he : t.find (namespacePath isiPath name) = some e) (hne : e.group ≠ gid) :
    run (fileTree size) (setVolumeGroupOwnershipByPath isiPath name gid true) t =
      (.ok ⟨true, itoa e.group⟩, t.chown (namespacePath isiPath name) gid directoryMode) := by
  simp only [setVolumeGroupOwnershipByPath, run, ask, call_bind, ret_bind, fileTree,
    FileTree.serve, he]
  rw [if_neg fun h => Bool.noConfusion h.2.2, if_neg fun h => hne (itoa_injective h)]
  simp only [replaceACL, run, ask, call_bind, ret_bind, FileTree.serve, he]
  rfl

theorem run_setVolumeGroupOwnershipByPath_missing (size : Nat) (gid : Int)
    (he : t.find (namespacePath isiPath name) = none) :
    ∃ err, run (fileTree size) (setVolumeGroupOwnershipByPath isiPath name gid true) t =
      (.error err, t) := by
  simp only [setVolumeGroupOwnershipByPath, run, ask, call_bind, ret_bind, fileTree,
    FileTree.serve, he, replaceACL]
  exact ⟨_, rfl⟩

end IsiService

inductive StageCall
  | node (c : NodeCall)
  | acl (c : AclCall)
  deriving DecidableEq

@[reducible] def StageCall.Reply : StageCall → Type
  | node c => c.Reply
  | acl c => c.Reply

abbrev StageM := Prog StageCall StageCall.Reply Err

def StageCall.serve (env : NodeEnv) (size : Nat) :
    (c : StageCall) → Node × FileTree → Except Err c.Reply × (Node × FileTree)
  | .node c, s => ((env.serve c s.1).1, ((env.serve c s.1).2, s.2))
  | .acl c, s => ((FileTree.serve size c s.2).1, (s.1, (FileTree.serve size c s.2).2))

def stageWorld (env : NodeEnv) (size : Nat) :
    World StageCall StageCall.Reply Err (Node × FileTree) := ⟨StageCall.serve env size⟩

def onTree (p : AclM α) : StageM α := handle (fun c => op (StageCall.acl c)) p

namespace NodeService
open IsiService

variable (pages : Nat) (work : MapOrder (Str × Bool))

def serveOwners : (c : NodeCall) → StageM c.Reply
  | .setVolumeGroupOwnershipByPath isiPath name gid isClone => do
    let result ← onTree (setVolumeGroupOwnershipByPath isiPath name gid isClone)
    return result.changed
  | .setVolumeGroupOwnershipRecursive isiPath name gid =>
    onTree (setVolumeGroupOwnershipRecursive pages work isiPath name gid)
  | c => op (StageCall.node c)

def stageVolume (svc : Service) (diagnose : Str → Str → Err → Option Err)
    (req : NodeStageVolumeRequest) : StageM Unit :=
  handle (serveOwners pages work) (nodeStageVolume svc diagnose req)

variable {pages work} {svc : Service} {diagnose : Str → Str → Err → Option Err} {env : NodeEnv}
  {size : Nat} {req : NodeStageVolumeRequest} {n n' : Node} {t t' : FileTree}

theorem run_onTree (p : AclM α) : run (stageWorld env size) (onTree p) (n, t) =
    ((run (fileTree size) p t).1, (n, (run (fileTree size) p t).2)) := by
  have hsim := run_handle (p := p) (w := fileTree size) (v := stageWorld env size)
    (h := fun c => op (StageCall.acl c)) (I := fun t s => s = (n, t)) (s := t) ?_ rfl
  · exact Prod.ext hsim.1 hsim.2
  · rintro c t s rfl
    rw [run_op]
    exact ⟨rfl, rfl⟩

def LeavesOwners : NodeCall → Prop
  | .setVolumeGroupOwnershipByPath .. => False
  | .setVolumeGroupOwnershipRecursive .. => False
  | _ => True

theorem run_leavesOwners (hp : uses LeavesOwners p) :
    (run (stageWorld env size) (handle (serveOwners pages work) p) (n, t)).2.2 = t := by
  have hserve : ∀ c, LeavesOwners c →
      uses (fun c => ∃ d, c = StageCall.node d) (serveOwners pages work c) := by
    intro c hc
    cases c <;> first | exact hc.elim | exact (uses_op _).2 ⟨_, rfl⟩
  apply run_of_uses (I := fun s : Node × FileTree => s.2 = t) (uses_handle hp hserve) _ rfl
  rintro c s ⟨d, rfl⟩ hs
  exact hs

theorem run_leavesOwners_bind (hp : uses LeavesOwners p)
    (h : run (stageWorld env size) (handle (serveOwners pages work) (p >>= f)) (n, t) = (.ok b,
      (n', t'))) :
    ∃ a m, run (stageWorld env size) (handle (serveOwners pages work) (f a)) (m, t) =
      (.ok b, (n', t')) := by
  rw [handle_bind] at h
  obtain ⟨a, ⟨m, u⟩, ha, hf⟩ := run_bind_ok.1 h
  have hu : (run (stageWorld env size) (handle (serveOwners pages work) p) (n, t)).2.2 = t :=
    run_leavesOwners hp
  rw [ha] at hu
  obtain rfl : u = t := hu
  exact ⟨a, m, hf⟩

theorem run_fail_ne {P : Prop}
    (h : run (stageWorld env size) (handle (serveOwners pages work) (fail e : NodeM Unit)) s =
      (.ok (), s')) : P := by
  cases h

theorem stageVolume_group (hcap : req.volumeCapability = some cap) (hmnt : cap.mount = some mnt)
    (hctx : req.volumeContext = some ctx)
    (h : run (stageWorld env size) (stageVolume pages work svc diagnose req) (n, t) = (.ok (),
      (n', t'))) :
    ∃ p m, p.mnt = mnt ∧ p.ctx = ctx ∧ p.directoryBacked = isDirectoryBackedStage req.volumeID ctx ∧
      run (stageWorld env size) (handle (serveOwners pages work) (applyStagedGroup svc req p)) (m, t) =
        (.ok (), (n', t')) := by
  rw [stageVolume, nodeStageVolume] at h
  simp only [hcap, hmnt, hctx] at h
  split at h
  · exact run_fail_ne h
  split at h
  · exact run_fail_ne h
  obtain ⟨path, m, h⟩ := run_leavesOwners_bind (uses_ofExcept _) h
  split at h
  · exact run_fail_ne h
  obtain ⟨_, m, h⟩ := run_leavesOwners_bind (validateMTLSPrerequisites_uses trivial _ _ _) h
  obtain ⟨r, m, h⟩ := run_leavesOwners_bind (uses_attempt.2
    ((publishVolume_uses trivial trivial trivial).2 fun _ _ => trivial)) h
  cases r with
  | error e => exact run_fail_ne h
  | ok _ => exact ⟨_, m, rfl, rfl, rfl, h⟩

/-- All below `loc` belongs to the group. -/
def Owned (t : FileTree) (loc : Str) (gid : Int) : Prop :=
  ∀ e ∈ t.entries, e.inside loc = true → e.group = gid

theorem owned_chownAll
    (hl : ∀ p, p ∈ l.map Prod.fst ↔ ∃ e ∈ (t.chown (namespacePath shared directory) gid
      mode).entries, e.strictlyInside (namespacePath shared directory) = true ∧ absPath e.path =
      p) :
    Owned (chownAll gid l (t.chown (namespacePath shared directory) gid mode))
      (namespacePath shared directory) gid := by
  intro e' he' hin
  obtain ⟨e, he, hpath, hgroup⟩ := mem_chownAll he'
  rcases hgroup with hgroup | ⟨hgroup, hnot⟩
  · exact hgroup
  rw [FileEntry.inside, hpath] at hin
  by_cases hdir : e.path = segments (namespacePath shared directory)
  · obtain ⟨d, hd, rfl⟩ := List.mem_map.1 he
    rw [FileEntry.chown_path] at hdir
    rw [hgroup, FileEntry.chown, if_pos]
    rw [hdir, absPath_segments_namespacePath]
  have hstrict : e.strictlyInside (namespacePath shared directory) = true := by
    rw [FileEntry.strictlyInside, FileEntry.inside, hin, Bool.true_and, bne_iff_ne]
    exact hdir
  exact (hnot ((hl _).2 ⟨e, he, hstrict, rfl⟩)).elim

theorem run_serveOwners_byPath (isiPath name : Str) (gid : Int) (isClone : Bool) :
    run (stageWorld env size)
      (serveOwners pages work (.setVolumeGroupOwnershipByPath isiPath name gid isClone)) (n, t) =
      ((run (fileTree size) (setVolumeGroupOwnershipByPath isiPath name gid isClone) t).1.map
        SetVolumeGroupOwnershipResult.changed,
       (n, (run (fileTree size) (setVolumeGroupOwnershipByPath isiPath name gid isClone) t).2)) := by
  rw [serveOwners, run_bind, run_onTree]
  cases (run (fileTree size) (setVolumeGroupOwnershipByPath isiPath name gid isClone) t).1 with
  | ok result => rfl
  | error e => rfl

theorem run_undoStage_ne {P : Prop}
    (h : run (stageWorld env size) (handle (serveOwners pages work) (undoStage req e)) s = (.ok
      (), s')) : P := by
  rw [undoStage, handle_bind] at h
  obtain ⟨_, u, _, h⟩ := run_bind_ok.1 h
  exact run_fail_ne h

def directoryLocation (ctx : Params) : Str :=
  namespacePath (ctx.get "SharedExportPath") (ctx.get "DirectoryPath")

theorem run_recursive_owned {ctx : Params} {e : FileEntry} {gid : Int}
    (he : t.find (directoryLocation ctx) = some e) (hroot : Rooted (ctx.get "SharedExportPath"))
    (hpages : t.entries.length < pages)
    (h : run (stageWorld env size) (handle (serveOwners pages work) (do
      let _ ← tryNodeRequest (.setVolumeGroupOwnershipRecursive (ctx.get "SharedExportPath")
        (ctx.get "DirectoryPath") gid)))
      (n, t.chown (directoryLocation ctx) gid directoryMode) = (.ok (), (n', t'))) :
    Owned t' (directoryLocation ctx) gid := by
  have hd : (t.chown (directoryLocation ctx) gid directoryMode).find (directoryLocation ctx) =
      some (e.chown (directoryLocation ctx) gid directoryMode) := by
    rw [find_chown, he]
    rfl
  obtain ⟨l, hrun, hl, -⟩ := run_setVolumeGroupOwnershipRecursive size work gid hroot hd
    (by rwa [FileTree.chown, List.length_map])
  rw [tryNodeRequest, handle_ask_bind, run_bind, run_attempt, serveOwners, run_onTree] at h
  dsimp only at h
  rw [hrun] at h
  cases h
  exact owned_chownAll hl

theorem run_applyStagedGroup_clone {p : Publication} {gid : Int}
    (hgid : parseInt64 p.mnt.volumeMountGroup = some gid) (hdir : p.directoryBacked = true)
    (hclone : p.ctx.get "NeedsRecursiveOwnership" = ("true" : Str))
    (hroot : Rooted (p.ctx.get "SharedExportPath")) (hpages : t.entries.length < pages)
    (h : run (stageWorld env size) (handle (serveOwners pages work) (applyStagedGroup svc req p))
      (n, t) = (.ok (), (n', t'))) :
    Owned t' (directoryLocation p.ctx) gid ↔
      (t.group? (directoryLocation p.ctx) ≠ some gid ∨ Owned t (directoryLocation p.ctx) gid) := by
  have hsome : p.mnt.volumeMountGroup ≠ [] := by
    intro hnil
    rw [hnil] at hgid
    cases hgid
  rw [applyStagedGroup] at h
  simp only [if_pos hsome, hgid, hdir, hclone, if_true, decide_true, Bool.true_and] at h
  rw [tryNodeRequest, handle_ask_bind, run_bind, run_attempt, run_serveOwners_byPath] at h
  dsimp only at h
  rw [decide_eq_true hclone] at h
  cases he : t.find (directoryLocation p.ctx) with
  | none =>
    obtain ⟨err, herr⟩ := run_setVolumeGroupOwnershipByPath_missing size gid he
    rw [herr] at h
    exact run_undoStage_ne h
  | some e =>
    rw [group?_eq_some.2 ⟨e, he, rfl⟩]
    by_cases hsame : e.group = gid
    · subst hsame
      rw [run_setVolumeGroupOwnershipByPath_same he] at h
      cases h
      exact (or_iff_right fun hne => hne rfl).symm
    · rw [run_setVolumeGroupOwnershipByPath_other he hsame] at h
      have howned : Owned t' (directoryLocation p.ctx) gid := run_recursive_owned he hroot hpages h
      exact iff_of_true howned (.inl fun heq => hsame (Option.some.inj heq))

structure StagesClone (req : NodeStageVolumeRequest) (ctx : Params) (gid : Int) : Prop where
  context : req.volumeContext = some ctx
  directory : isDirectoryBackedStage req.volumeID ctx = true
  clone : ctx.get "NeedsRecursiveOwnership" = ("true" : Str)
  rooted : Rooted (ctx.get "SharedExportPath")
  group : ∃ cap mnt, req.volumeCapability = some cap ∧ cap.mount = some mnt ∧
    parseInt64 mnt.volumeMountGroup = some gid

/-- After a staging of a clone without a failure everything has the group, exactly if the directory
did not have it before or everything did. -/
theorem nodeStageVolume_owned_iff {ctx : Params} {gid : Int} (hreq : StagesClone req ctx gid)
    (hpages : t.entries.length < pages)
    (h : run (stageWorld env size) (stageVolume pages work svc diagnose req) (n, t) =
      (.ok (), (n', t'))) :
    Owned t' (directoryLocation ctx) gid ↔
      (t.group? (directoryLocation ctx) ≠ some gid ∨ Owned t (directoryLocation ctx) gid) := by
  obtain ⟨cap, mnt, hcap, hmnt, hgid⟩ := hreq.group
  obtain ⟨p, m, rfl, rfl, hdir, hrun⟩ := stageVolume_group hcap hmnt hreq.context h
  exact run_applyStagedGroup_clone hgid (hdir.trans hreq.directory) hreq.clone hreq.rooted hpages hrun

instance (t : FileTree) (loc : Str) (gid : Int) : Decidable (Owned t loc gid) :=
  inferInstanceAs (Decidable (∀ e ∈ t.entries, _))

def cloneContext : Params := [("ProvisioningMode", "directory"), ("SharedExportPath", "/ifs/shared"),
  ("DirectoryPath", "vol2"), ("NeedsRecursiveOwnership", "true"), ("ClusterName", "c1"),
  ("AzServiceIP", "10.0.0.1")]

def stageClone : NodeStageVolumeRequest where
  volumeID := "vol2=_=_=9=_=_=System=_=_=c1=_=_=directory"
  stagingTargetPath := "/staging/vol2"
  volumeCapability := some ⟨some ⟨[], [], "1000"⟩, some .multiNodeMultiWriter⟩
  volumeContext := some cloneContext

theorem stagesClone_stageClone : StagesClone stageClone cloneContext 1000 where
  context := rfl
  directory := by decide
  clone := by decide
  rooted := by decide
  group := ⟨_, _, rfl, rfl, by decide⟩

def copiedClone : FileTree where
  entries := [⟨["ifs", "shared", "vol2"], true, 0, 0o0777⟩,
    ⟨["ifs", "shared", "vol2", "data"], false, 0, 0o0644⟩]
  plain := by decide
  below := by decide
  nodup := by decide

theorem nodeStageVolume_owned_first : ∃ s, run (stageWorld (calmEnv (arrayWith none)) 999)
        (stageVolume 3 listOrder oneCluster noDiagnosis stageClone) (⟨[]⟩, copiedClone) =
      (.ok (), s) ∧ Owned s.2 (directoryLocation cloneContext) 1000 := by
  have hrun : (run (stageWorld (calmEnv (arrayWith none)) 999)
      (stageVolume 3 listOrder oneCluster noDiagnosis stageClone) (⟨[]⟩, copiedClone)).1 =
        .ok () := by
    decide +kernel
  refine ⟨_, Prod.ext hrun rfl, ?_⟩
  apply (nodeStageVolume_owned_iff stagesClone_stageClone (by decide) (Prod.ext hrun rfl)).2
  exact .inl (by decide +kernel)

/-- The first attempt sets the group of the directory, fails to set that of the file and succeeds;
the second one finds the directory as it should be. -/
theorem nodeStageVolume_owned_lost : let s := (exec (stageWorld (calmEnv (arrayWith none)) 999)
      (stageVolume 3 listOrder oneCluster noDiagnosis stageClone)
      [none, none, none, none, none, none, some (.json 503 "AEC_SERVICE_UNAVAILABLE")]
      (⟨[]⟩, copiedClone)).2
    (run (stageWorld (calmEnv (arrayWith none)) 999)
        (stageVolume 3 listOrder oneCluster noDiagnosis stageClone) s).1 = .ok () ∧
      ¬ Owned (run (stageWorld (calmEnv (arrayWith none)) 999)
        (stageVolume 3 listOrder oneCluster noDiagnosis stageClone) s).2.2
        (directoryLocation cloneContext) 1000 := by
  decide +kernel

end NodeService

end CsiPowerscale
