import CsiPowerscale.GoLib.Collections
import CsiPowerscale.IsiService

namespace CsiPowerscale
open GoLib Effects Effects.Prog

structure FileEntry where
  path : List Str
  isDirectory : Bool
  group : Int
  mode : Nat
  deriving DecidableEq

structure FileTree where
  entries : List FileEntry
  plain : ∀ e ∈ entries, ∀ x ∈ e.path, Plain x
  below : ∀ e ∈ entries, e.path ≠ []
  nodup : (entries.map FileEntry.path).Nodup

structure ContainerChild where
  path : Option Str
  name : Option Str
  type : Option Str
  deriving DecidableEq

structure ContainerChildList where
  children : List ContainerChild
  resume : Str
  deriving DecidableEq

namespace FileEntry

def inside (loc : Str) (e : FileEntry) : Bool := (segments loc).isPrefixOf e.path

def strictlyInside (loc : Str) (e : FileEntry) : Bool := e.inside loc && e.path != segments loc

def child (e : FileEntry) : ContainerChild where
  path := some (absPath e.path.dropLast)
  name := some (e.path.getLast?.getD [])
  type := some (if e.isDirectory then "container" else "object")

def chown (loc : Str) (gid : Int) (mode : Nat) (e : FileEntry) : FileEntry :=
  if absPath e.path = loc then { e with group := gid, mode := mode } else e

@[simp] theorem chown_path (loc : Str) (gid : Int) (mode : Nat) (e : FileEntry) :
    (e.chown loc gid mode).path = e.path := by
  rw [chown]
  split <;> rfl

end FileEntry

namespace FileTree

def find (t : FileTree) (loc : Str) : Option FileEntry :=
  t.entries.find? fun e => absPath e.path = loc

def group? (t : FileTree) (loc : Str) : Option Int := (t.find loc).map FileEntry.group

def chown (t : FileTree) (loc : Str) (gid : Int) (mode : Nat) : FileTree where
  entries := t.entries.map (FileEntry.chown loc gid mode)
  plain := by
    intro e he
    obtain ⟨d, hd, rfl⟩ := List.mem_map.1 he
    rw [FileEntry.chown_path]
    exact t.plain d hd
  below := by
    intro e he
    obtain ⟨d, hd, rfl⟩ := List.mem_map.1 he
    rw [FileEntry.chown_path]
    exact t.below d hd
  nodup := by
    rw [List.map_map, show FileEntry.path ∘ FileEntry.chown loc gid mode = FileEntry.path from
      funext fun e => e.chown_path loc gid mode]
    exact t.nodup

def children (t : FileTree) (loc : Str) : List ContainerChild :=
  (t.entries.filter (FileEntry.strictlyInside loc)).map FileEntry.child

def page (t : FileTree) (size : Nat) (loc : Str) (n : Nat) : ContainerChildList where
  children := ((t.children loc).drop n).take (size + 1)
  resume := if n + (size + 1) < (t.children loc).length then List.replicate (n + (size + 1)) 46
    else []

end FileTree

inductive AclCall
  | getACL (isiPath name : Str)
  | putACL (isiPath name : Str) (gid : Int) (mode : Nat)
  | queryChildren (isiPath name resume : Str)
  deriving DecidableEq

@[reducible] def AclCall.Reply : AclCall → Type
  | getACL .. => Option Str
  | putACL .. => Unit
  | queryChildren .. => ContainerChildList

def FileTree.serve (size : Nat) : (c : AclCall) → FileTree → Except Err c.Reply × FileTree
  | .getACL isiPath name, t =>
    match t.find (namespacePath isiPath name) with
    | none => (.error OneFS.notFound, t)
    | some e => (.ok (some (itoa e.group)), t)
  | .putACL isiPath name gid mode, t =>
    match t.find (namespacePath isiPath name) with
    | none => (.error OneFS.notFound, t)
    | some _ => (.ok (), t.chown (namespacePath isiPath name) gid mode)
  | .queryChildren isiPath name resume, t =>
    match t.find (namespacePath isiPath name) with
    | none => (.error OneFS.notFound, t)
    | some _ => (.ok (t.page size (namespacePath isiPath name) resume.length), t)

def fileTree (size : Nat) : World AclCall AclCall.Reply Err FileTree := ⟨FileTree.serve size⟩

abbrev AclM := Prog AclCall AclCall.Reply Err

abbrev tryAcl (c : AclCall) : AclM (Except Err c.Reply) := ask c

structure SetVolumeGroupOwnershipResult where
  changed : Bool
  existingGID : Str
  deriving DecidableEq

namespace IsiService

def directoryMode : Nat := 0o2770

def fileMode : Nat := 0o0660

def modeOf (isDirectory : Bool) : Nat := if isDirectory then directoryMode else fileMode

def replaceACL (isiPath name : Str) (gid : Int) (existing : Str) :
    AclM SetVolumeGroupOwnershipResult := do
  match ← tryAcl (.putACL isiPath name gid directoryMode) with
  | .error e => fail (.wrapped (sprintf ["failed to set group ownership (gid=", itoa gid, ") on '",
      isiPath, "/", name, "': ", e.text]) e)
  | .ok _ => return ⟨true, existing⟩

def setVolumeGroupOwnershipByPath (isiPath name : Str) (gid : Int) (isClone : Bool) :
    AclM SetVolumeGroupOwnershipResult := do
  match ← tryAcl (.getACL isiPath name) with
  | .ok (some existing) =>
    if existing ≠ itoa gid ∧ existing ≠ ("0" : Str) ∧ isClone = false then
      fail (.plain (sprintf ["fsGroup conflict: volume already configured for fsGroup ", existing,
        ", requested fsGroup ", itoa gid, ". For ReadWriteMany volumes, all pods must use the same ",
        "fsGroup. Either change the pod's fsGroup to ", existing, " or use a separate PVC"]))
    else if existing = itoa gid then return ⟨false, existing⟩
    else replaceACL isiPath name gid existing
  -- an ACL that cannot be read, or has no group, does not stand in the way
  | _ => replaceACL isiPath name gid []

def setPathGroupOwnership (fullPath : Str) (gid : Int) (isDirectory : Bool) : AclM Unit := do
  match splitN3 fullPath with
  | none => fail (.plain (sprintf ["invalid path for group ownership update: ", fullPath]))
  | some (_, base, relativePath) =>
    let mode := if isDirectory then directoryMode else fileMode
    match ← tryAcl (.putACL base relativePath gid mode) with
    | .error e => fail (.wrapped (sprintf ["failed to set group ownership on path ", fullPath, ": ",
        e.text]) e)
    | .ok _ => ret ()

/-- The loop over the pages of the listing, for as many of them as the bound says. -/
def queryAllChildren (base relativePath : Str) :
    Nat → Str → List ContainerChild → AclM (List ContainerChild)
  | 0, _, _ => fail .deadline
  | n + 1, resume, found => do
    match ← tryAcl (.queryChildren base relativePath resume) with
    | .error e => fail (.wrapped (sprintf ["failed to query volume children for recursive ",
        "ownership: ", e.text]) e)
    | .ok resp =>
      if resp.resume = [] then return found ++ resp.children
      else queryAllChildren base relativePath n resp.resume (found ++ resp.children)

def childPath (c : ContainerChild) : Option Str :=
  match c.path, c.name with
  | some p, some n => some (join [p, n])
  | _, _ => none

def childrenByPath : List ContainerChild → List (Str × Bool) → List (Str × Bool)
  | [], found => found
  | c :: cs, found =>
    match c.path, c.name with
    | some p, some n => childrenByPath cs (assign found (join [p, n]) (c.type = some "container"))
    | _, _ => childrenByPath cs found

/-- The work of the pool, in the order in which it gets done; the errors that come back. -/
def chownChildren (gid : Int) : List (Str × Bool) → AclM (List Err)
  | [] => return []
  | (childPath, isDirectory) :: more => do
    let r ← (setPathGroupOwnership childPath gid isDirectory).attempt
    let errors ← chownChildren gid more
    match r with
    | .ok _ => return errors
    | .error e => return Err.wrapped (sprintf ["failed to set group ownership on ", childPath,
        ": ", e.text]) e :: errors

def setVolumeGroupOwnershipRecursive (pages : Nat) (work : MapOrder (Str × Bool))
    (isiPath name : Str) (gid : Int) : AclM Unit := do
  let volumePath := sprintf [isiPath, "/", name]
  match splitN3 volumePath with
  | none => fail (.plain (sprintf ["invalid volume path format: ", volumePath]))
  | some (_, base, relativePath) =>
    let all ← queryAllChildren base relativePath pages [] []
    let children := childrenByPath all []
    if children = [] then ret ()
    else
      match ← chownChildren gid (work.order children) with
      | [] => ret ()
      | e :: errors => fail (.plain (sprintf ["recursive ownership failed for ",
          natToStr (e :: errors).length, "/", natToStr children.length, " files: ", e.text]))

theorem find_chown (t : FileTree) (loc loc' : Str) (gid : Int) (mode : Nat) :
    (t.chown loc gid mode).find loc' = (t.find loc').map (FileEntry.chown loc gid mode) := by
  rw [FileTree.find, FileTree.find, FileTree.chown, List.find?_map]
  congr 2
  funext e
  rw [Function.comp_apply, FileEntry.chown_path]

theorem find_path {t : FileTree} (h : t.find loc = some e) : absPath e.path = loc := by
  have hpath := List.find?_some h
  exact of_decide_eq_true hpath

theorem group?_chown_self {t : FileTree} (h : t.find loc = some e) (gid : Int) (mode : Nat) :
    (t.chown loc gid mode).group? loc = some gid := by
  rw [FileTree.group?, find_chown, h, Option.map_some, Option.map_some, FileEntry.chown,
    if_pos (find_path h)]

theorem itoa_eq_zero : itoa g = ("0" : Str) ↔ g = 0 := by
  apply Iff.intro
  · intro h
    exact itoa_injective (h.trans (by decide))
  · rintro rfl
    decide

/-- A call of `SetVolumeGroupOwnershipByPath` for a volume that is not a clone, with the errors of
reading and writing the ACL. -/
structure OwnershipCall where
  gid : Int
  positive : 0 < gid
  read : Option Err
  write : Option Err

section Shared

variable (size : Nat) (isiPath name : Str)

def OwnershipCall.perform (c : OwnershipCall) (t : FileTree) :
    Except Err SetVolumeGroupOwnershipResult × FileTree :=
  exec (fileTree size) (setVolumeGroupOwnershipByPath isiPath name c.gid false) [c.read, c.write] t

variable (calls : List OwnershipCall)

def afterCalls (t : FileTree) : FileTree :=
  calls.foldl (fun t c => (c.perform size isiPath name t).2) t

/-- Once the directory has a group other than 0, it keeps it, and whoever asks for another one gets
an error. -/
def Isolated (t : FileTree) : Prop :=
  ∀ first between c rest, calls = first ++ between ++ c :: rest →
    ∀ g, (afterCalls size isiPath name first t).group? (namespacePath isiPath name) = some g →
      g ≠ 0 →
      (afterCalls size isiPath name (first ++ between ++ [c]) t).group?
        (namespacePath isiPath name) = some g ∧
      (c.gid ≠ g →
        ∃ e, (c.perform size isiPath name (afterCalls size isiPath name (first ++ between) t)).1 =
          .error e)

/-- A call that finds the directory with the group `g`: it can read it, or asks for it anyway, or
cannot write. -/
def OwnershipCall.Harmless (c : OwnershipCall) (g : Int) : Prop :=
  c.read = none ∨ c.gid = g ∨ c.write ≠ none

/-- Every call that finds the directory with a group is harmless. -/
def AllHarmless (t : FileTree) : Prop :=
  ∀ earlier c rest, calls = earlier ++ c :: rest →
    ∀ g, (afterCalls size isiPath name earlier t).group? (namespacePath isiPath name) = some g →
      g ≠ 0 → c.Harmless g

variable {size isiPath name}

theorem afterCalls_concat (c : OwnershipCall) (t : FileTree) :
    afterCalls size isiPath name (calls ++ [c]) t =
      (c.perform size isiPath name (afterCalls size isiPath name calls t)).2 := by
  rw [afterCalls, List.foldl_append]
  rfl

theorem perform_read (size : Nat) {c : OwnershipCall}
    (he : t.find (namespacePath isiPath name) = some e) (hg : e.group ≠ 0) (hread : c.read = none) :
    (c.perform size isiPath name t).2 = t ∧
      (c.gid ≠ e.group → ∃ err, (c.perform size isiPath name t).1 = .error err) := by
  have hzero : itoa e.group ≠ ("0" : Str) := fun h => hg (itoa_eq_zero.1 h)
  have hserve : (fileTree size).act (.getACL isiPath name) t = (.ok (some (itoa e.group)), t) := by
    simp only [fileTree, FileTree.serve, he]
  rw [OwnershipCall.perform, setVolumeGroupOwnershipByPath, hread]
  simp only [exec, ask, call_bind, ret_bind, hserve]
  by_cases hgid : c.gid = e.group
  · rw [hgid, if_neg (fun h => h.1 rfl), if_pos rfl]
    exact ⟨rfl, fun h => (h rfl).elim⟩
  · rw [if_pos ⟨fun h => hgid (itoa_injective h).symm, hzero, trivial⟩]
    exact ⟨rfl, fun _ => ⟨_, rfl⟩⟩

theorem perform_unread {c : OwnershipCall} (he : t.find (namespacePath isiPath name) = some e)
    (hread : c.read = some err) :
    c.perform size isiPath name t =
      match c.write with
      | none => (.ok ⟨true, []⟩, t.chown (namespacePath isiPath name) c.gid directoryMode)
      | some err => (.error (.wrapped (sprintf ["failed to set group ownership (gid=", itoa c.gid,
          ") on '", isiPath, "/", name, "': ", err.text]) err), t) := by
  have hserve : (fileTree size).act (.putACL isiPath name c.gid directoryMode) t =
      (.ok (), t.chown (namespacePath isiPath name) c.gid directoryMode) := by
    simp only [fileTree, FileTree.serve, he]
  rw [OwnershipCall.perform, setVolumeGroupOwnershipByPath, hread]
  cases hwrite : c.write with
  | none => simp only [exec, ask, call_bind, ret_bind, replaceACL, hserve, pure_eq]
  | some err' => simp only [exec, ask, call_bind, ret_bind, replaceACL]

theorem group?_eq_some {t : FileTree} :
    t.group? loc = some g ↔ ∃ e, t.find loc = some e ∧ e.group = g := Option.map_eq_some_iff

theorem perform_keeps_iff {c : OwnershipCall}
    (hg : t.group? (namespacePath isiPath name) = some g) (hne : g ≠ 0) :
    ((c.perform size isiPath name t).2.group? (namespacePath isiPath name) = some g ∧
      (c.gid ≠ g → ∃ e, (c.perform size isiPath name t).1 = .error e)) ↔ c.Harmless g := by
  obtain ⟨e, he, rfl⟩ := group?_eq_some.1 hg
  cases hread : c.read with
  | none =>
    obtain ⟨hkeep, herr⟩ := perform_read size he hne hread
    rw [hkeep]
    exact ⟨fun _ => .inl hread, fun _ => ⟨hg, herr⟩⟩
  | some err =>
    rw [perform_unread he hread]
    cases hwrite : c.write with
    | none =>
      dsimp only
      rw [group?_chown_self he]
      apply Iff.intro
      · intro h
        exact .inr (.inl (Option.some.inj h.1))
      rintro (h | h | h)
      · rw [hread] at h
        cases h
      · exact ⟨congrArg some h, fun hdiff => (hdiff h).elim⟩
      · exact (h hwrite).elim
    | some err' =>
      apply Iff.intro
      · intro _
        refine .inr (.inr ?_)
        rw [hwrite]
        exact Option.some_ne_none _
      · intro _
        exact ⟨hg, fun _ => ⟨_, rfl⟩⟩

theorem AllHarmless.keeps {calls : List OwnershipCall} (h : AllHarmless size isiPath name calls t)
    (hcalls : calls = first ++ between ++ rest)
    (hg : (afterCalls size isiPath name first t).group? (namespacePath isiPath name) = some g)
    (hne : g ≠ 0) :
    (afterCalls size isiPath name (first ++ between) t).group? (namespacePath isiPath name) =
      some g := by
  induction between generalizing first with
  | nil =>
    rw [List.append_nil]
    exact hg
  | cons c between ih =>
    have hone : c.Harmless g := by
      apply h first c (between ++ rest) _ g hg hne
      rw [hcalls, List.append_assoc, List.cons_append]
    rw [List.append_cons]
    apply ih
    · rw [hcalls, List.append_cons]
    · rw [afterCalls_concat]
      exact ((perform_keeps_iff hg hne).2 hone).1

/-- The group of a shared directory is safe exactly in the runs whose calls are all harmless where
they find a group. -/
theorem setVolumeGroupOwnershipByPath_isolated_iff (t : FileTree) :
    Isolated size isiPath name calls t ↔ AllHarmless size isiPath name calls t := by
  apply Iff.intro
  · intro h earlier c rest hcalls g hg hne
    have hstep := h earlier [] c rest (by rw [List.append_nil, hcalls]) g hg hne
    rw [List.append_nil, afterCalls_concat] at hstep
    exact (perform_keeps_iff hg hne).1 hstep
  intro h first between c rest hcalls g hg hne
  have hkept := h.keeps hcalls hg hne
  rw [afterCalls_concat]
  exact (perform_keeps_iff hkept hne).2 (h _ c rest hcalls g hkept hne)

end Shared

def ownedVolume : FileTree where
  entries := [⟨["ifs", "data", "vol1"], true, 2000, 0o2770⟩]
  plain := by decide
  below := by decide
  nodup := by decide

def unreadCall : OwnershipCall where
  gid := 1000
  positive := by decide
  read := some (.json 503 "AEC_SERVICE_UNAVAILABLE")
  write := none

theorem setVolumeGroupOwnershipByPath_overwrites :
    ¬ Isolated 0 "/ifs/data" "vol1" [unreadCall] ownedVolume := by
  intro h
  have hgroup := (h [] [] unreadCall [] rfl 2000 (by decide +kernel) (by decide)).1
  revert hgroup
  decide +kernel

end IsiService

end CsiPowerscale
