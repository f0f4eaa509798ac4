import CsiPowerscale.Replication

namespace CsiPowerscale
open GoLib Effects Effects.Prog IsiService

inductive GroupCall
  | array (c : Call)
  | sync (c : SyncCall)
  deriving DecidableEq

@[reducible] def GroupCall.Reply : GroupCall → Type
  | array c => c.Reply
  | sync c => c.Reply

abbrev GroupM := Prog GroupCall GroupCall.Reply Err

def onArray : IsiM α → GroupM α
  | ret a => ret a
  | fail e => fail e
  | .call c k => .call (.array c) fun r => onArray (k r)

abbrev askSync (c : SyncCall) : GroupM (Except Err c.Reply) := ask (GroupCall.sync c)

namespace GroupDeletion

def groupRequest (contextPre : Str) (svc : Service) (groupID : Str) (attributes : Params) :
    Except Err (Str × Str) :=
  let isiPath := getIsiPathFromPgID groupID
  if isiPath = [] then .error (.status .invalidArgument "Error: Can't obtain valid isiPath from PG")
  else
    match attributes.get? (contextPre ++ "systemName") with
    | none => .error (.status .invalidArgument "Error: Can't get systemName from PG params")
    | some clusterName =>
      match attributes.get? (contextPre ++ "VolumeGroupName") with
      | none => .error (.status .invalidArgument
          "can't find `VolumeGroupName` parameter from PG params")
      | some vgName =>
        match svc.getIsilonConfig clusterName with
        | .error e => .error e
        | .ok (_, cfg) => if cfg.isiSvc then .ok (isiPath, vgName) else .error .panic

/-- `Errorf` with an argument that the format does not use. -/
def withExtraArgument (text arg : Str) : Str := sprintf [text, "%!(EXTRA string=", arg, ")"]

/-- Look for the directory. An error of another kind than those of the API reads as its absence. -/
def findDirectory (isiPath : Str) : GroupM Bool := do
  match ← ask (GroupCall.array (.getVolume isiPath [])) with
  | .ok _ => return true
  | .error e =>
    if e.jsonStatus.any fun n => n != 404 then
      fail (.status .internal
        (withExtraArgument
          (sprintf ["Error: Unknown error while getting Volume Group ", isiPath]) e.text))
    else return false

def checkEmpty (isiPath vgName : Str) : GroupM Unit := do
  let base := trimSuffix isiPath (vgName ++ "/")
  match ← attempt (onArray (getSubDirectoryCount base vgName)) with
  | .error _ => fail (.status .internal (sprintf ["Error: Failed to get number of subdirectories '",
      isiPath, "' when attempting deletion."]))
  | .ok numSubdirectories =>
    -- `.` and `..` are counted
    if 2 < numSubdirectories then
      fail (.status .internal (sprintf ["Error: Subdirectories must not exist on Volume Group path '",
        isiPath, "' when attempting deletion."]))
    else
      let volumeSize ← onArray (IsiService.getVolumeSize base vgName)
      if 0 < volumeSize then
        fail (.status .internal (sprintf ["Error: Files must not exist on Volume Group path '",
          isiPath, "' when attempting deletion."]))
      else ret ()

def dropPolicy (ppName : Str) : GroupM Unit := do
  match ← askSync (.getPolicyByName ppName) with
  | .ok (some _) =>
    let _ ← askSync (.syncPolicy ppName)
    match ← askSync (.deletePolicy ppName) with
    | .ok _ => ret ()
    | .error e => fail (.status .internal
        (withExtraArgument (sprintf ["Unknown error while deleting PP ", ppName]) e.text))
  | .ok none => ret ()
  | .error e =>
    if e.jsonStatus.any fun n => n != 404 then
      fail (.status .internal
        (withExtraArgument (sprintf ["Unknown error while retrieving PP ", ppName]) e.text))
    else ret ()

def dropDirectory (isiPath : Str) : GroupM Unit := do
  match ← attempt (onArray (IsiService.deleteVolume isiPath [])) with
  | .ok _ => ret ()
  | .error e => fail (.status .internal
      (withExtraArgument
        (sprintf ["Unknown error while deleting volume group's directory ", isiPath]) e.text))

def deleteGroup (isiPath vgName : Str) : GroupM Unit := do
  let found ← findDirectory isiPath
  let _ ← if found then checkEmpty isiPath vgName else ret ()
  let _ ← dropPolicy (groupPolicy vgName)
  if found then dropDirectory isiPath else ret ()

def deleteStorageProtectionGroup (contextPre : Str) (svc : Service) (groupID : Str)
    (attributes : Params) : GroupM Unit := do
  let (isiPath, vgName) ← ofExcept (groupRequest contextPre svc groupID attributes)
  deleteGroup isiPath vgName

/-- What the array answers in one call: to the three reads of a directory in their order, to the
other reads and to the requests that follow. -/
structure GroupAnswers where
  directory : Except Err VolumeInfo
  existing : Except Err VolumeInfo
  counted : Except Err VolumeInfo
  size : Except Err Int
  policy : Except Err (Option Policy)
  synced : Except Err Unit
  policyDeleted : Except Err Unit
  directoryDeleted : Except Err Unit

variable (a : GroupAnswers)

def GroupAnswers.volume : Nat → Except Err VolumeInfo
  | 0 => a.directory
  | 1 => a.existing
  | _ => a.counted

def GroupAnswers.serve : (c : GroupCall) → Nat → Except Err c.Reply × Nat
  | .array (.getVolume _ _), n => (a.volume n, n + 1)
  | .array (.getVolumeSize _ _), n => (a.size, n)
  | .array (.deleteVolume _ _), n => (a.directoryDeleted, n)
  | .sync (.getPolicyByName _), n => (a.policy, n)
  | .sync (.syncPolicy _), n => (a.synced, n)
  | .sync (.deletePolicy _), n => (a.policyDeleted, n)
  | .array _, n => (.error .panic, n)
  | .sync _, n => (.error .panic, n)

def answering : World GroupCall GroupCall.Reply Err Nat := ⟨a.serve⟩

def trace (contextPre : Str) (svc : Service) (groupID : Str) (attributes : Params) :
    List (Nat × GroupCall) :=
  calls (answering a) (deleteStorageProtectionGroup contextPre svc groupID attributes) 0

def Deletes : GroupCall → Prop
  | .sync (.deletePolicy _) | .array (.deleteVolume ..) => True
  | _ => False

def SawAbsent (p : Str) (x : Nat × GroupCall) : Prop :=
  ∃ isiPath name e, x.2 = .array (.getVolume isiPath name) ∧ namespacePath isiPath name = p ∧
    a.volume x.1 = .error e ∧ e.jsonStatus = some 404

/-- A directory without sub-directories has the links `.` and `..`. -/
def NoSubdirectories (info : VolumeInfo) : Prop := 0 < info.nlink ∧ info.nlink ≤ 2

def SawNoSubdirectories (p : Str) (x : Nat × GroupCall) : Prop :=
  ∃ isiPath name info, x.2 = .array (.getVolume isiPath name) ∧ namespacePath isiPath name = p ∧
    a.volume x.1 = .ok info ∧ NoSubdirectories info

def SawNoData (p : Str) (x : Nat × GroupCall) : Prop :=
  ∃ isiPath name n, x.2 = .array (.getVolumeSize isiPath name) ∧ namespacePath isiPath name = p ∧
    a.size = .ok n ∧ n ≤ 0

def Observed (p : Str) (l : List (Nat × GroupCall)) : Prop :=
  (∃ x ∈ l, SawAbsent a p x) ∨ (∃ x ∈ l, SawNoSubdirectories a p x) ∧ ∃ x ∈ l, SawNoData a p x

/-- The directory was seen absent or empty before every deletion. -/
def Safe (p : Str) (l : List (Nat × GroupCall)) : Prop :=
  ∀ pre x post, l = pre ++ x :: post → Deletes x.2 → Observed a p pre

variable {a : GroupAnswers} {p isiPath vgName ppName : Str} {l r : List (Nat × GroupCall)}
  {d : Nat × GroupCall} {n : Nat}

theorem Observed.mono (h : Observed a p l) (hl : ∀ x ∈ l, x ∈ l') : Observed a p l' := by
  rcases h with ⟨x, hx, hsaw⟩ | ⟨⟨x, hx, hsaw⟩, ⟨y, hy, hsaw'⟩⟩
  · exact .inl ⟨x, hl x hx, hsaw⟩
  · exact .inr ⟨⟨x, hl x hx, hsaw⟩, ⟨y, hl y hy, hsaw'⟩⟩

theorem safe_of_reads (h : ∀ x ∈ l, ¬Deletes x.2) : Safe a p l := by
  intro pre x post hl hx
  refine absurd hx (h x ?_)
  rw [hl]
  simp

theorem safe_iff_first (hl : ∀ x ∈ l, ¬Deletes x.2) (hd : Deletes d.2) :
    Safe a p (l ++ d :: r) ↔ Observed a p l := by
  constructor
  · intro h
    exact h l d r rfl hd
  · intro h pre x post heq hx
    rcases List.append_eq_append_iff.1 heq with ⟨m, rfl, -⟩ | ⟨m, rfl, hm⟩
    · exact h.mono fun y hy => List.mem_append_left m hy
    cases m with
    | nil => simpa using h
    | cons y m =>
      rw [List.cons_append] at hm
      obtain ⟨rfl, -⟩ := List.cons.inj hm
      exact absurd hx (hl x (by simp))

theorem answering_act (c : GroupCall) : (answering a).act c n = a.serve c n := rfl

theorem onArray_uses (h : uses (fun c => U (.array c)) q) : uses U (onArray q) := by
  induction q with
  | ret x => trivial
  | fail e => trivial
  | call c k ih => exact ⟨h.1, fun x => ih x (h.2 x)⟩

theorem checkEmpty_uses : uses (fun c => ¬Deletes c) (checkEmpty isiPath vgName) := by
  refine uses_attempt_bind (onArray_uses ?_) fun count => ?_
  · refine uses_bind (uses_ask_bind id fun _ => trivial) fun x => ?_
    split
    · exact uses_bind ((uses_op _).2 id) fun _ => trivial
    · trivial
  split
  · trivial
  split
  · trivial
  refine uses_bind (onArray_uses (uses_ask_bind id fun x => ?_)) fun x => ?_
  · split <;> trivial
  · split <;> trivial

structure Passes (a : GroupAnswers) (i j : VolumeInfo) : Prop where
  found : a.existing = .ok i
  counted : a.counted = .ok j
  links : j.nlink ≤ 2
  size : ∀ n, a.size = .ok n → n ≤ 0

def emptyReads (isiPath vgName : Str) : List (Nat × GroupCall) :=
  let base := trimSuffix isiPath (vgName ++ "/")
  [(1, .array (.getVolume base vgName)), (2, .array (.getVolume base vgName)),
    (3, .array (.getVolumeSize base vgName))]

section Reads

variable {base : Str} {i j : VolumeInfo}

theorem count_ok (base vgName : Str) (hfound : a.existing = .ok i) (hcounted : a.counted = .ok j) :
    calls (answering a) (onArray (getSubDirectoryCount base vgName)) 1 =
        [(1, .array (.getVolume base vgName)), (2, .array (.getVolume base vgName))] ∧
      run (answering a) (onArray (getSubDirectoryCount base vgName)) 1 = (.ok j.nlink, 3) := by
  constructor <;>
    simp [getSubDirectoryCount, isVolumeExistent, ask, op, onArray, calls, run,
      answering_act, GroupAnswers.serve, GroupAnswers.volume, hfound, hcounted, Except.isOk,
      Except.toBool]

theorem count_error (base vgName : Str) (h : ∀ i j, a.existing = .ok i → a.counted ≠ .ok j) :
    ∃ e m, run (answering a) (onArray (getSubDirectoryCount base vgName)) 1 =
      (.error e, m) := by
  cases hfound : a.existing with
  | error e =>
    simp [getSubDirectoryCount, isVolumeExistent, ask, onArray, run, answering_act,
      GroupAnswers.serve, GroupAnswers.volume, hfound, Except.isOk, Except.toBool]
  | ok i =>
    cases hcounted : a.counted with
    | error e =>
      simp [getSubDirectoryCount, isVolumeExistent, ask, op, onArray, run,
        answering_act, GroupAnswers.serve, GroupAnswers.volume, hfound, hcounted, Except.isOk,
        Except.toBool]
    | ok j => exact absurd hcounted (h i j hfound)

theorem run_size : run (answering a) (onArray (IsiService.getVolumeSize base vgName)) n =
    (.ok (a.size.toOption.getD 0), n) := by
  cases hsize : a.size <;>
    simp [IsiService.getVolumeSize, ask, onArray, run, answering_act, GroupAnswers.serve, hsize,
      Except.toOption]

theorem calls_size : calls (answering a) (onArray (IsiService.getVolumeSize base vgName)) n =
    [(n, .array (.getVolumeSize base vgName))] := by
  cases hsize : a.size <;>
    simp [IsiService.getVolumeSize, ask, onArray, calls, answering_act, GroupAnswers.serve, hsize]

theorem size_le_iff : (∀ n, a.size = .ok n → n ≤ 0) ↔ ¬0 < a.size.toOption.getD 0 := by
  cases hsize : a.size with
  | error e => simp [Except.toOption]
  | ok n => simp [Except.toOption]

theorem Passes.checkEmpty (h : Passes a i j) (isiPath vgName : Str) :
    calls (answering a) (checkEmpty isiPath vgName) 1 = emptyReads isiPath vgName ∧
      run (answering a) (checkEmpty isiPath vgName) 1 = (.ok (), 3) := by
  obtain ⟨hcalls, hrun⟩ :=
    count_ok (trimSuffix isiPath (vgName ++ "/")) vgName h.found h.counted
  have hlinks : ¬2 < j.nlink := Int.not_lt.2 h.links
  have hsize := size_le_iff.1 h.size
  constructor
  · simp only [GroupDeletion.checkEmpty, calls_bind, calls_attempt, run_attempt, hcalls, hrun,
      if_neg hlinks, calls_size, run_size, if_neg hsize]
    rfl
  · simp only [GroupDeletion.checkEmpty, run_bind, run_attempt, hrun, if_neg hlinks, run_size,
      if_neg hsize, run_ret]

theorem checkEmpty_fails (h : ∀ i j, ¬Passes a i j) (isiPath vgName : Str) :
    ∃ e m, run (answering a) (checkEmpty isiPath vgName) 1 = (.error e, m) := by
  by_cases hreads : ∃ i j, a.existing = .ok i ∧ a.counted = .ok j
  · obtain ⟨i, j, hfound, hcounted⟩ := hreads
    have hrun := (count_ok (trimSuffix isiPath (vgName ++ "/")) vgName hfound hcounted).2
    simp only [checkEmpty, run_bind, run_attempt, hrun]
    split
    · exact ⟨_, _, rfl⟩
    next hlinks =>
    have hsize : 0 < a.size.toOption.getD 0 := by
      by_contra hsize
      exact h i j ⟨hfound, hcounted, Int.not_lt.1 hlinks, size_le_iff.2 hsize⟩
    simp only [run_bind, run_size, if_pos hsize]
    exact ⟨_, _, rfl⟩
  · have hnone : ∀ i j, a.existing = .ok i → a.counted ≠ .ok j :=
      fun i j hi hj => hreads ⟨i, j, hi, hj⟩
    obtain ⟨e, m, hrun⟩ := count_error (trimSuffix isiPath (vgName ++ "/")) vgName hnone
    simp only [checkEmpty, run_bind, run_attempt, hrun]
    exact ⟨_, _, rfl⟩

end Reads

def PolicyStops (a : GroupAnswers) : Prop :=
  ∃ e k, a.policy = .error e ∧ e.jsonStatus = some k ∧ k ≠ 404

theorem jsonStatus_any {e : Err} :
    (e.jsonStatus.any fun k => k != 404) = true ↔ ∃ k, e.jsonStatus = some k ∧ k ≠ 404 := by
  simp [Option.any_eq_true]

theorem calls_dropPolicy_found (hq : a.policy = .ok (some q)) :
    calls (answering a) (dropPolicy ppName) n = [(n, .sync (.getPolicyByName ppName)),
      (n, .sync (.syncPolicy ppName)), (n, .sync (.deletePolicy ppName))] := by
  simp only [dropPolicy, calls_ask_bind, answering_act, GroupAnswers.serve, hq]
  cases a.policyDeleted <;> rfl

theorem dropPolicy_missing (hq : ∀ q, a.policy ≠ .ok (some q)) (hstops : ¬PolicyStops a)
    (ppName : Str) (n : Nat) :
    calls (answering a) (dropPolicy ppName) n = [(n, .sync (.getPolicyByName ppName))] ∧
      run (answering a) (dropPolicy ppName) n = (.ok (), n) := by
  simp only [dropPolicy, calls_ask_bind, run_ask_bind, answering_act, GroupAnswers.serve]
  cases hpolicy : a.policy with
  | error e =>
    have hany : ¬(e.jsonStatus.any fun k => k != 404) = true := by
      rw [jsonStatus_any]
      rintro ⟨k, hk, hne⟩
      exact hstops ⟨e, k, hpolicy, hk, hne⟩
    simp only [if_neg hany]
    exact ⟨rfl, rfl⟩
  | ok o =>
    cases o with
    | none => exact ⟨rfl, rfl⟩
    | some q => exact absurd hpolicy (hq q)

theorem dropPolicy_stops (h : PolicyStops a) (ppName : Str) (n : Nat) :
    calls (answering a) (dropPolicy ppName) n = [(n, .sync (.getPolicyByName ppName))] ∧
      ∃ e, run (answering a) (dropPolicy ppName) n = (.error e, n) := by
  obtain ⟨e, k, hpolicy, hk, hne⟩ := h
  have hany : (e.jsonStatus.any fun k => k != 404) = true := jsonStatus_any.2 ⟨k, hk, hne⟩
  simp only [dropPolicy, calls_ask_bind, run_ask_bind, answering_act, GroupAnswers.serve, hpolicy,
    if_pos hany]
  exact ⟨rfl, _, rfl⟩

theorem calls_dropDirectory (isiPath : Str) : ∃ r, calls (answering a) (dropDirectory isiPath) n =
      (n, .array (.deleteVolume isiPath [])) :: r := by
  exact ⟨_, rfl⟩

/-- The reads were about the group directory, the size could be read, and one of them shows that
there are no sub-directories. -/
def Shown (a : GroupAnswers) (isiPath vgName : Str) (h i j : VolumeInfo) : Prop :=
  namespacePath (trimSuffix isiPath (vgName ++ "/")) vgName = namespacePath isiPath [] ∧
    (∃ n, a.size = .ok n) ∧ (NoSubdirectories h ∨ NoSubdirectories i ∨ NoSubdirectories j)

def Guarded (a : GroupAnswers) (isiPath vgName : Str) : Prop :=
  (∀ e, a.directory = .error e → e.jsonStatus = none → ∀ q, a.policy ≠ .ok (some q)) ∧
  ∀ h, a.directory = .ok h → ∀ i j, Passes a i j → PolicyStops a ∨ Shown a isiPath vgName h i j

theorem calls_deleteGroup_error (h : a.directory = .error e) :
    calls (answering a) (deleteGroup isiPath vgName) 0 = (0, .array (.getVolume isiPath [])) ::
      if (e.jsonStatus.any fun k => k != 404) = true then []
      else calls (answering a) (dropPolicy (groupPolicy vgName)) 1 := by
  simp only [deleteGroup, findDirectory, bind_assoc, calls_ask_bind, answering_act, GroupAnswers.serve,
    GroupAnswers.volume, h]
  split
  · rfl
  · simp only [pure_eq, ret_bind, Bool.false_eq_true, if_false, calls_bind]
    cases run (answering a) (dropPolicy (groupPolicy vgName)) 1 with
    | mk r m => cases r <;> simp

theorem calls_deleteGroup_ok (hdir : a.directory = .ok h) :
    calls (answering a) (deleteGroup isiPath vgName) 0 = (0, .array (.getVolume isiPath [])) ::
      calls (answering a) (do
        let _ ← checkEmpty isiPath vgName
        let _ ← dropPolicy (groupPolicy vgName)
        dropDirectory isiPath) 1 := by
  simp only [deleteGroup, findDirectory, bind_assoc, calls_ask_bind, answering_act, GroupAnswers.serve,
    GroupAnswers.volume, hdir, pure_eq, ret_bind, if_true]

theorem observed_iff (hdir : a.directory = .ok h) (hpass : Passes a i j)
    (tail : List (Nat × GroupCall)) (htail : ∀ x ∈ tail, ∃ c, x.2 = .sync c) :
    Observed a (namespacePath isiPath []) (((0, .array (.getVolume isiPath [])) ::
        emptyReads isiPath vgName) ++ tail) ↔
      Shown a isiPath vgName h i j := by
  have hsync {x : Nat × GroupCall} (hx : x ∈ tail) (c : Call) : x.2 ≠ .array c := by
    obtain ⟨c', hc⟩ := htail x hx
    rw [hc]
    intro heq
    cases heq
  have habsent : ¬∃ x ∈ ((0, .array (.getVolume isiPath [])) :: emptyReads isiPath vgName) ++ tail,
      SawAbsent a (namespacePath isiPath []) x := by
    rintro ⟨x, hx, path, name, e, hcall, -, herr, -⟩
    rcases List.mem_append.1 hx with hx | hx
    · simp only [emptyReads, List.mem_cons, List.not_mem_nil, or_false] at hx
      rcases hx with rfl | rfl | rfl | rfl
      · cases hdir.symm.trans herr
      · cases hpass.found.symm.trans herr
      · cases hpass.counted.symm.trans herr
      · cases hcall
    · exact hsync hx _ hcall
  rw [Observed, or_iff_right habsent]
  constructor
  · rintro ⟨⟨x, hx, path, name, info, hcall, hpath, hinfo, hlinks⟩,
      ⟨y, hy, path', name', n, hcall', hpath', hsize, hn⟩⟩
    have hsame : namespacePath (trimSuffix isiPath (vgName ++ "/")) vgName =
        namespacePath isiPath [] := by
      rcases List.mem_append.1 hy with hy | hy
      · simp only [emptyReads, List.mem_cons, List.not_mem_nil, or_false] at hy
        rcases hy with rfl | rfl | rfl | rfl
        · cases hcall'
        · cases hcall'
        · cases hcall'
        · cases hcall'
          exact hpath'
      · exact absurd hcall' (hsync hy _)
    refine ⟨hsame, ⟨n, hsize⟩, ?_⟩
    rcases List.mem_append.1 hx with hx | hx
    · simp only [emptyReads, List.mem_cons, List.not_mem_nil, or_false] at hx
      rcases hx with rfl | rfl | rfl | rfl
      · cases hdir.symm.trans hinfo
        exact .inl hlinks
      · cases hpass.found.symm.trans hinfo
        exact .inr (.inl hlinks)
      · cases hpass.counted.symm.trans hinfo
        exact .inr (.inr hlinks)
      · cases hcall
    · exact absurd hcall (hsync hx _)
  · rintro ⟨hsame, ⟨n, hsize⟩, hlinks⟩
    refine ⟨?_, (3, .array (.getVolumeSize (trimSuffix isiPath (vgName ++ "/")) vgName)), ?_, _, _, n,
      rfl, hsame, hsize, hpass.size n hsize⟩
    · rcases hlinks with hlinks | hlinks | hlinks
      · exact ⟨(0, _), by simp, _, _, h, rfl, rfl, hdir, hlinks⟩
      · exact ⟨(1, .array (.getVolume (trimSuffix isiPath (vgName ++ "/")) vgName)),
          by simp [emptyReads], _, _, i, rfl, hsame, hpass.found, hlinks⟩
      · exact ⟨(2, .array (.getVolume (trimSuffix isiPath (vgName ++ "/")) vgName)),
          by simp [emptyReads], _, _, j, rfl, hsame, hpass.counted, hlinks⟩
    · simp [emptyReads]

theorem observed_error_iff (hdir : a.directory = .error e)
    (htail : ∀ x ∈ tail, ∃ c, x.2 = .sync c) :
    Observed a (namespacePath isiPath []) ((0, .array (.getVolume isiPath [])) :: tail) ↔
      e.jsonStatus = some 404 := by
  have hsync {x : Nat × GroupCall} (hx : x ∈ tail) (c : Call) : x.2 ≠ .array c := by
    obtain ⟨c', hc⟩ := htail x hx
    rw [hc]
    intro heq
    cases heq
  constructor
  · rintro (⟨x, hx, path, name, e', hcall, -, herr, hjson⟩ |
      ⟨⟨x, hx, path, name, info, hcall, -, hinfo, -⟩, -⟩)
    · rcases List.mem_cons.1 hx with rfl | hx
      · cases hdir.symm.trans herr
        exact hjson
      · exact absurd hcall (hsync hx _)
    · rcases List.mem_cons.1 hx with rfl | hx
      · cases hdir.symm.trans hinfo
      · exact absurd hcall (hsync hx _)
  · intro hjson
    exact .inl ⟨_, List.mem_cons_self, _, _, e, rfl, rfl, hdir, hjson⟩

theorem calls_dropPolicy_missing (hq : ∀ q, a.policy ≠ .ok (some q)) :
    calls (answering a) (dropPolicy ppName) n = [(n, .sync (.getPolicyByName ppName))] := by
  by_cases hstops : PolicyStops a
  · exact (dropPolicy_stops hstops _ _).1
  · exact (dropPolicy_missing hq hstops _ _).1

theorem deleteGroup_safe_error (hdir : a.directory = .error e) :
    Safe a (namespacePath isiPath []) (calls (answering a) (deleteGroup isiPath vgName) 0) ↔
      (e.jsonStatus = none → ∀ q, a.policy ≠ .ok (some q)) := by
  rw [calls_deleteGroup_error hdir]
  by_cases hany : (e.jsonStatus.any fun k => k != 404) = true
  · obtain ⟨k, hk, -⟩ := jsonStatus_any.1 hany
    rw [if_pos hany]
    refine iff_of_true (safe_of_reads (by simp [Deletes])) fun hnone => ?_
    rw [hk] at hnone
    cases hnone
  · rw [if_neg hany]
    by_cases hq : ∃ q, a.policy = .ok (some q)
    · obtain ⟨q, hq⟩ := hq
      -- the policy is deleted after its own read and a synchronisation
      have hfirst := safe_iff_first (a := a) (p := namespacePath isiPath [])
        (l := [(0, .array (.getVolume isiPath [])), (1, .sync (.getPolicyByName (groupPolicy vgName))),
          (1, .sync (.syncPolicy (groupPolicy vgName)))])
        (d := (1, .sync (.deletePolicy (groupPolicy vgName)))) (r := []) (by simp [Deletes]) trivial
      rw [calls_dropPolicy_found hq]
      refine hfirst.trans ((observed_error_iff hdir (by simp)).trans ?_)
      constructor
      · intro h404 hnone
        rw [h404] at hnone
        cases hnone
      · intro hpolicy
        cases hjson : e.jsonStatus with
        | none => exact absurd hq (hpolicy hjson q)
        | some k =>
          by_contra hne
          exact hany (jsonStatus_any.2 ⟨k, hjson, fun hk => hne (by rw [hk])⟩)
    · have hmissing : ∀ q, a.policy ≠ .ok (some q) := fun q h => hq ⟨q, h⟩
      rw [calls_dropPolicy_missing hmissing]
      exact iff_of_true (safe_of_reads (by simp [Deletes])) fun _ => hmissing

theorem safe_iff_shown (hdir : a.directory = .ok h) (hpass : Passes a i j)
    (tail rest : List (Nat × GroupCall)) (htail : ∀ x ∈ tail, (∃ c, x.2 = .sync c) ∧ ¬Deletes x.2)
    (hd : Deletes d.2) :
    Safe a (namespacePath isiPath []) ((0, .array (.getVolume isiPath [])) ::
      (emptyReads isiPath vgName ++ (tail ++ d :: rest))) ↔ Shown a isiPath vgName h i j := by
  have hlist : ((0, .array (.getVolume isiPath [])) :: (emptyReads isiPath vgName ++
      (tail ++ d :: rest)) : List (Nat × GroupCall)) =
      (((0, .array (.getVolume isiPath [])) :: emptyReads isiPath vgName) ++ tail) ++ d :: rest := by
    simp
  have hhead : ∀ x ∈ ((0, .array (.getVolume isiPath [])) :: emptyReads isiPath vgName :
      List (Nat × GroupCall)), ¬Deletes x.2 := by
    simp [emptyReads, Deletes]
  have hreads : ∀ x ∈ ((0, .array (.getVolume isiPath [])) :: emptyReads isiPath vgName) ++ tail,
      ¬Deletes x.2 := by
    intro x hx
    rcases List.mem_append.1 hx with hx | hx
    · exact hhead x hx
    · exact (htail x hx).2
  rw [hlist, safe_iff_first hreads hd, observed_iff hdir hpass tail fun x hx => (htail x hx).1]

theorem deleteGroup_safe_ok (hdir : a.directory = .ok h) :
    Safe a (namespacePath isiPath []) (calls (answering a) (deleteGroup isiPath vgName) 0) ↔
      ∀ i j, Passes a i j → PolicyStops a ∨ Shown a isiPath vgName h i j := by
  rw [calls_deleteGroup_ok hdir, calls_bind]
  by_cases hpass : ∃ i j, Passes a i j
  · obtain ⟨i, j, hpass⟩ := hpass
    have honly : (∀ i j, Passes a i j → PolicyStops a ∨ Shown a isiPath vgName h i j) ↔
        (PolicyStops a ∨ Shown a isiPath vgName h i j) := by
      refine ⟨fun hall => hall i j hpass, fun hone i' j' hpass' => ?_⟩
      cases hpass.found.symm.trans hpass'.found
      cases hpass.counted.symm.trans hpass'.counted
      exact hone
    obtain ⟨hcalls, hrun⟩ := hpass.checkEmpty isiPath vgName
    rw [honly, hcalls, hrun]
    dsimp only
    rw [calls_bind]
    by_cases hq : ∃ q, a.policy = .ok (some q)
    · obtain ⟨q, hq⟩ := hq
      have hstops : ¬PolicyStops a := by
        rintro ⟨e, k, he, -⟩
        cases hq.symm.trans he
      rw [calls_dropPolicy_found hq, or_iff_right hstops]
      apply safe_iff_shown hdir hpass [(3, .sync (.getPolicyByName (groupPolicy vgName))),
        (3, .sync (.syncPolicy (groupPolicy vgName)))]
      · simp [Deletes]
      · trivial
    · have hmissing : ∀ q, a.policy ≠ .ok (some q) := fun q h => hq ⟨q, h⟩
      by_cases hstops : PolicyStops a
      · obtain ⟨hcalls, e, hrun⟩ := dropPolicy_stops hstops (groupPolicy vgName) 3
        rw [hcalls, hrun]
        refine iff_of_true (safe_of_reads ?_) (.inl hstops)
        simp [emptyReads, Deletes]
      obtain ⟨hcalls, hrun⟩ := dropPolicy_missing hmissing hstops (groupPolicy vgName) 3
      obtain ⟨r, hdrop⟩ := calls_dropDirectory (a := a) (n := 3) isiPath
      rw [hcalls, hrun]
      dsimp only
      rw [hdrop, or_iff_right hstops]
      apply safe_iff_shown hdir hpass
      · simp [Deletes]
      · trivial
  · have hnone : ∀ i j, ¬Passes a i j := fun i j h => hpass ⟨i, j, h⟩
    obtain ⟨e, m, hrun⟩ := checkEmpty_fails hnone isiPath vgName
    rw [hrun]
    refine iff_of_true (safe_of_reads ?_) fun i j h => absurd h (hnone i j)
    intro x hx
    rw [List.append_nil] at hx
    rcases List.mem_cons.1 hx with rfl | hx
    · exact id
    · exact calls_of_uses checkEmpty_uses x hx

theorem groupRequest_path
    (h : groupRequest contextPre svc groupID attributes = .ok (isiPath, vgName)) :
    getIsiPathFromPgID groupID = isiPath := by
  simp only [groupRequest] at h
  repeat' split at h
  all_goals first
    | cases h
      rfl
    | cases h

/-- For every request and every answer of the array, the deletions come after the group directory
was seen absent or empty, if and only if the answers are guarded. -/
theorem deleteStorageProtectionGroup_safe_iff (contextPre : Str) (svc : Service) (groupID : Str)
    (attributes : Params) (a : GroupAnswers) :
    Safe a (namespacePath (getIsiPathFromPgID groupID) []) (trace a contextPre svc groupID attributes) ↔
      ∀ isiPath vgName, groupRequest contextPre svc groupID attributes = .ok (isiPath, vgName) →
        Guarded a isiPath vgName := by
  rw [trace, deleteStorageProtectionGroup]
  cases hreq : groupRequest contextPre svc groupID attributes with
  | error e =>
    refine iff_of_true (safe_of_reads (by simp)) fun isiPath vgName h => ?_
    cases h
  | ok x =>
    obtain ⟨isiPath, vgName⟩ := x
    have hone : (∀ isiPath' vgName', (.ok (isiPath, vgName) : Except Err (Str × Str)) =
        .ok (isiPath', vgName') → Guarded a isiPath' vgName') ↔ Guarded a isiPath vgName := by
      constructor
      · intro h
        exact h isiPath vgName rfl
      · rintro h isiPath' vgName' ⟨⟩
        exact h
    rw [hone, groupRequest_path hreq, ofExcept_ok, ret_bind]
    dsimp only
    cases hdir : a.directory with
    | error e =>
      rw [deleteGroup_safe_error hdir, Guarded, hdir]
      simp
    | ok h =>
      rw [deleteGroup_safe_ok hdir, Guarded, hdir]
      simp

def traceG (a : GroupAnswers) : List (Nat × GroupCall) :=
  trace a "powerscale" oneCluster "c1::/ifs/data/g/"
    (groupAttributes "powerscale" "c1" "c2" "10.0.0.1" "10.0.0.2" "g")

def timedOut : GroupAnswers where
  directory := .error .deadline
  existing := .error .deadline
  counted := .error .deadline
  size := .error .deadline
  policy := .ok (some ⟨true, policySchedulingAutomatic, 300, [], [], [], []⟩)
  synced := .ok ()
  policyDeleted := .ok ()
  directoryDeleted := .ok ()

def sizeUnread : GroupAnswers :=
  { timedOut with
    directory := .ok ⟨[], 2⟩
    existing := .ok ⟨"g", 2⟩
    counted := .ok ⟨"g", 2⟩
    policy := .error (.json 404 []) }

/-- A time-out, which says nothing of the directory, does not keep the policy from being deleted,
nor an unreadable size the directory. -/
theorem deleteStorageProtectionGroup_unsafe : ((1, .sync (.deletePolicy "g")) ∈ traceG timedOut ∧
      ¬Safe timedOut "/ifs/data/g" (traceG timedOut)) ∧
    (3, .array (.deleteVolume "/ifs/data/g/" [])) ∈ traceG sizeUnread ∧
      ¬Safe sizeUnread "/ifs/data/g" (traceG sizeUnread) := by
  have hpath : namespacePath "/ifs/data/g/" [] = ("/ifs/data/g" : Str) := by decide +kernel
  refine ⟨⟨by decide +kernel, ?_⟩, by decide +kernel, ?_⟩
  · have htrace : traceG timedOut = calls (answering timedOut) (deleteGroup "/ifs/data/g/" "g") 0 := by
      decide +kernel
    rw [htrace, ← hpath, deleteGroup_safe_error rfl]
    intro h
    exact h rfl _ rfl
  · have htrace : traceG sizeUnread =
        calls (answering sizeUnread) (deleteGroup "/ifs/data/g/" "g") 0 := by
      decide +kernel
    rw [htrace, ← hpath, deleteGroup_safe_ok rfl]
    intro h
    have hpass : Passes sizeUnread ⟨"g", 2⟩ ⟨"g", 2⟩ := by
      refine ⟨rfl, rfl, by decide, ?_⟩
      intro n hn
      cases hn
    rcases h _ _ hpass with ⟨e, k, he, hk, hne⟩ | ⟨-, ⟨n, hn⟩, -⟩
    · cases he
      cases hk
      exact hne rfl
    · cases hn

end GroupDeletion

def groupBase (p : Str) : Str := if p = [slash] then p else p ++ [slash]

def groupDir (p vgName : Str) : Str := groupBase p ++ vgName ++ [slash]

def ReadsBack (contextPre base vgName pgID : Str) (attributes : Params) : Prop :=
  getIsiPathFromPgID pgID = groupDir base vgName ∧
    (attributes.get? (contextPre ++ "VolumeGroupName")).map
      (fun name => trimSuffix (getIsiPathFromPgID pgID) (name ++ [slash])) = some (groupBase base)

theorem separable_of_cut (h : cut sep (c ++ (sep ++ rest)) = some (c, rest)) :
    Separable sep c := by
  induction c with
  | nil => cases sep <;> simp [Separable, cut]
  | cons x xs ih =>
    rw [List.cons_append, cut] at h
    split at h
    · cases h
    next hstart =>
    have hcut : cut sep (xs ++ (sep ++ rest)) = some (xs, rest) := by
      obtain ⟨q, hq, heq⟩ := Option.map_eq_some_iff.1 h
      cases heq
      exact hq
    have hshort : ¬ sep.isPrefixOf (x :: (xs ++ sep)) = true := by
      intro hp
      apply hstart
      rw [ List.isPrefixOf_iff_prefix] at hp ⊢
      exact hp.trans ⟨rest, by simp⟩
    have hxs := ih hcut
    unfold Separable at hxs ⊢
    rw [List.cons_append, cut, if_neg hshort, hxs]
    rfl

theorem split_ne_nil (h : sep ≠ []) (s : Str) : split s sep ≠ [] := by
  rw [split_eq h]
  split <;> simp

theorem cut_of_getIsiPathFromPgID (hne : d ≠ []) (h : getIsiPathFromPgID s = d) :
    ∃ a, cut "::" s = some (a, d) ∧ contains d "::" = false := by
  have hsep : (("::" : Str)) ≠ [] := by decide
  unfold getIsiPathFromPgID at h
  split at h
  · next a b hsplit =>
    subst h
    rw [split_eq hsep] at hsplit
    split at hsplit
    · cases hsplit
    next q hcut =>
    obtain ⟨rfl, hrest⟩ := List.cons.inj hsplit
    rw [split_eq hsep] at hrest
    split at hrest
    · next hlast =>
      cases hrest
      exact ⟨q.1, hcut, by rw [contains, hlast]; rfl⟩
    · exact absurd (List.cons.inj hrest).2 (split_ne_nil hsep _)
  · exact absurd h.symm hne

theorem getIsiPathFromPgID_eq_iff (hp : Rooted p) (hd : Rooted d) :
    getIsiPathFromPgID (sprintf [c, "::", p]) = d ↔
      p = d ∧ Separable "::" c ∧ contains d "::" = false := by
  have hsep : (("::" : Str)) ≠ [] := by decide
  have hid : sprintf [c, "::", p] = c ++ ("::" ++ p) := by simp [sprintf]
  -- a colon more or less would be the first byte of the other path
  have hshift {u v t : Str} {x : UInt8} (hu : Rooted u) (h : "::" ++ u = x :: t ++ ("::" ++ v)) :
      ∃ r, x :: t = "::" ++ r ∧ u = r ++ ("::" ++ v) := by
    cases t with
    | nil =>
      cases h
      exact absurd hu (by simp [Rooted, slash])
    | cons y r =>
      cases h
      exact ⟨r, rfl, rfl⟩
  rw [hid]
  constructor
  · intro h
    obtain ⟨a, hcut, hno⟩ := cut_of_getIsiPathFromPgID (by rintro rfl; cases hd) h
    have happ := cut_eq_append hcut
    have ha : Separable "::" a := separable_of_cut (happ ▸ hcut)
    rcases List.append_eq_append_iff.1 happ with ⟨t, rfl, ht⟩ | ⟨t, rfl, ht⟩
    · cases t with
      | nil =>
        rw [List.append_nil] at ha
        exact ⟨List.append_cancel_left ht, ha, hno⟩
      | cons x t =>
        obtain ⟨r, hr, -⟩ := hshift hp ht
        have hin : contains (c ++ x :: t) "::" = true := contains_iff.2 ⟨c, r, by rw [hr]⟩
        rw [ha.not_contains hsep] at hin
        cases hin
    · cases t with
      | nil =>
        rw [List.append_nil]
        exact ⟨(List.append_cancel_left ht).symm, ha, hno⟩
      | cons x t =>
        obtain ⟨r, -, hr⟩ := hshift hd ht
        rw [contains_iff.2 ⟨r, p, hr⟩] at hno
        cases hno
  · rintro ⟨rfl, hc, hno⟩
    rw [getIsiPathFromPgID, split_separable hc hsep, split_of_not_contains hno hsep]

theorem trimSuffix_append (u v : Str) : trimSuffix (u ++ v) v = u := by
  have hend : endsWith (u ++ v) v = true := List.isSuffixOf_iff_suffix.2 ⟨u, rfl⟩
  rw [trimSuffix, if_pos hend, List.length_append, Nat.add_sub_cancel, List.take_left]

theorem groupBase_slash (p : Str) : ∃ u, groupBase p = u ++ [slash] := by
  unfold groupBase
  split
  · next h => exact ⟨[], h⟩
  · exact ⟨p, rfl⟩

theorem groupBase_rooted (h : Rooted p) : Rooted (groupBase p) := by
  unfold groupBase
  split
  · exact h
  · exact h.append _

theorem trimSuffix_groupDir_iff (base vgName : Str) : trimSuffix (groupDir base vgName)
      (getVolumeNameFromExportPath (groupDir base vgName) ++ [slash]) = groupBase base ↔
      slash ∉ vgName := by
  have hparts := upToLastSlash_afterLastSlash (groupBase base ++ vgName)
  have htrim : trimSuffix (groupDir base vgName)
      (afterLastSlash (groupBase base ++ vgName) ++ [slash]) =
      upToLastSlash (groupBase base ++ vgName) := by
    rw [groupDir, ← hparts, List.append_assoc, upToLastSlash_afterLastSlash, trimSuffix_append]
  rw [groupDir, getVolumeNameFromExportPath_slash, ← groupDir, htrim]
  constructor
  · intro h
    rw [h] at hparts
    exact List.append_cancel_left hparts ▸ slash_not_mem_afterLastSlash _
  · intro h
    obtain ⟨u, hu⟩ := groupBase_slash base
    rw [hu, List.append_assoc, List.singleton_append, upToLastSlash_append h]

theorem readsBack_iff (vgName c : Str) {attributes : Params} (hbase : Rooted base) (hp : Rooted p)
    (hname : attributes.get? (contextPre ++ "VolumeGroupName") = some
      (getVolumeNameFromExportPath p)) :
    ReadsBack contextPre base vgName (sprintf [c, "::", p]) attributes ↔
      p = groupDir base vgName ∧ Separable "::" c ∧
        contains (groupDir base vgName) "::" = false ∧ slash ∉ vgName := by
  have hd : Rooted (groupDir base vgName) := ((groupBase_rooted hbase).append _).append _
  rw [ReadsBack, hname, Option.map_some, Option.some.injEq]
  constructor
  · rintro ⟨hid, htrim⟩
    rw [hid] at htrim
    obtain ⟨rfl, hc, hno⟩ := (getIsiPathFromPgID_eq_iff hp hd).1 hid
    exact ⟨rfl, hc, hno, (trimSuffix_groupDir_iff base vgName).1 htrim⟩
  · rintro ⟨rfl, hc, hno, hslash⟩
    have hid := (getIsiPathFromPgID_eq_iff hp hd).2 ⟨rfl, hc, hno⟩
    rw [hid]
    exact ⟨rfl, (trimSuffix_groupDir_iff base vgName).2 hslash⟩

theorem getIsiPathFromExportPath_clean (hP : CleanAbs P)
    (h : getIsiPathFromExportPath P = some p) (hne : p ≠ []) : p = upToLastSlash P ∧ Rooted p := by
  have hroot := PowerscaleFS.cleanAbs_rooted hP
  have hup : p = upToLastSlash P := by
    obtain ⟨xs, hxs, rfl⟩ := hP
    unfold getIsiPathFromExportPath at h
    split at h
    · cases h
    split at h
    · next hlast =>
      rcases List.eq_nil_or_concat xs with rfl | ⟨ys, x, rfl⟩
      · cases h
        exact absurd rfl hne
      have hx := hxs x (by simp)
      rw [List.concat_eq_append, absPath_concat,
        List.getLast?_append_of_ne_nil _ hx.nonempty] at hlast
      exact absurd (List.mem_of_getLast? hlast) hx.no_slash
    · cases h
      rfl
  refine ⟨hup, ?_⟩
  have hparts := upToLastSlash_afterLastSlash P
  rw [← hup] at hparts
  rw [← hparts, Rooted, List.head?_append_of_ne_nil _ hne] at hroot
  exact hroot

theorem cleanAbs_replicatedPath (h : CleanAbs (req.isiPath svc)) :
    CleanAbs (replicatedPath svc req) := by
  rw [replicatedPath, join_rooted (PowerscaleFS.cleanAbs_rooted h), ← segments_joinWith]
  exact ⟨_, resolve_segments_plain _, rfl⟩

/-- The IDs of both sides lead back to the directory of the group, and to the base path without its
name, if and only if no other `::` can be read, the group has no slash, and the export lies in its
directory. -/
theorem groupIDs_read_back_iff (contextPre handle cluster system remote : Str) (svc : Service)
    (req : CreateVolumeRequest) (cfg remoteCfg : ClusterConfig) (v : VolumeID) (e : Export)
    (more : List Str) (i : Nat) (d : Driver) (F : Faults DriverCall Err Driver)
    (hhandle : parseNormalizedVolumeID handle = .ok v)
    (hcluster : svc.getIsilonConfig v.clusterName = .ok (cluster, cfg))
    (hexport : (d.arrays cluster).exportById v.exportID v.accessZone = some e)
    (hpath : e.paths = replicatedPath svc req :: more)
    (hsystem : req.parameters.get? (svc.withRP "remoteSystem") = some system)
    (hremote : svc.getIsilonConfig system = .ok (remote, remoteCfg))
    (hbase : CleanAbs (req.isiPath svc)) :
    wp (driver i) F (Controller.createStorageProtectionGroup contextPre svc ⟨handle, req.parameters⟩)
      (fun r _ => ∀ g, r = .ok g →
        (ReadsBack contextPre (req.isiPath svc) (req.volumeGroup svc) g.localProtectionGroupId
            g.localProtectionGroupAttributes ∧
          ReadsBack contextPre (req.isiPath svc) (req.volumeGroup svc) g.remoteProtectionGroupId
            g.remoteProtectionGroupAttributes ↔
        Separable "::" cluster ∧ Separable "::" remote ∧
          contains (groupDir (req.isiPath svc) (req.volumeGroup svc)) "::" = false ∧
          slash ∉ req.volumeGroup svc ∧ ∃ name, slash ∉ name ∧
            replicatedPath svc req = groupDir (req.isiPath svc) (req.volumeGroup svc) ++ name)) d := by
  refine wp_mono (createStorageProtectionGroup_names hhandle hcluster hexport hpath) ?_
  intro r _ h g hg
  obtain ⟨system', remote', ⟨isiPath, name⟩, ⟨hx, hne, hname⟩, hsystem', hremote', rfl⟩ := h g hg
  dsimp only at hx hne hname
  subst hname
  cases hsystem.symm.trans hsystem'
  cases hremote.symm.trans hremote'
  obtain ⟨hup, hroot⟩ := getIsiPathFromExportPath_clean (cleanAbs_replicatedPath hbase) hx hne
  have hsides (c c' a a' : Str) := readsBack_iff (req.volumeGroup svc) c
    (PowerscaleFS.cleanAbs_rooted hbase) hroot
    (groupAttributes_group contextPre c c' a a' (getVolumeNameFromExportPath isiPath))
  have hin : isiPath = groupDir (req.isiPath svc) (req.volumeGroup svc) ↔ ∃ name, slash ∉ name ∧
      replicatedPath svc req = groupDir (req.isiPath svc) (req.volumeGroup svc) ++ name := by
    constructor
    · intro heq
      refine ⟨afterLastSlash (replicatedPath svc req), slash_not_mem_afterLastSlash _, ?_⟩
      rw [← heq, hup, upToLastSlash_afterLastSlash]
    · rintro ⟨name, hslash, hP⟩
      rw [hup, hP, groupDir, List.append_assoc, List.singleton_append, upToLastSlash_append hslash]
  refine (and_congr (hsides cluster remote _ _) (hsides remote cluster _ _)).trans ?_
  rw [hin]
  constructor
  · rintro ⟨⟨hP, hc, hno, hslash⟩, -, hr, -⟩
    exact ⟨hc, hr, hno, hslash, hP⟩
  · rintro ⟨hc, hr, hno, hslash, hP⟩
    exact ⟨⟨hP, hc, hno, hslash⟩, hP, hr, hno, hslash⟩

theorem groupIDs_read_back_dev :
    wp (driver 0) .any (Controller.createStorageProtectionGroup [] oneCluster
        ⟨"vol1=_=_=1=_=_=System=_=_=c1", (replicated "csi" "dev").parameters⟩)
      (fun r _ => ∀ g, r = .ok g → getIsiPathFromPgID g.localProtectionGroupId =
        "/ifs/data/csi-dev-10.0.0.1-One_Hour/") (replicatedDriver (replicated "csi" "dev")) := by
  have hiff := groupIDs_read_back_iff [] "vol1=_=_=1=_=_=System=_=_=c1" "c1" "c1" "c1" oneCluster
    (replicated "csi" "dev") cluster1 cluster1 ⟨"vol1", 1, "System", "c1"⟩ _ [] 0
    (replicatedDriver (replicated "csi" "dev")) .any (by decide +kernel) rfl rfl rfl rfl rfl
    ⟨["ifs", "data"], by decide, by decide⟩
  refine wp_mono hiff fun r _ h g hg => ?_
  have hback := (h g hg).2 ⟨by decide, by decide, by decide +kernel, by decide +kernel, "vol1",
    by decide, by decide +kernel⟩
  rw [hback.1.1]
  decide +kernel

/-- The remote endpoint, and so the directory of the group, has two colons in it. -/
theorem groupIDs_read_back_ipv6 :
    let svc := { oneCluster with isilonClusters := [{ cluster1 with endpoint := "fd00::1" }] }
    let req := replicated "csi" "dev"
    let d := { replicatedDriver req with
      arrays := fun _ => OneFS.fresh.addExport (replicatedPath svc req) "System" [] [] }
    ((run (driver 0) (Controller.createStorageProtectionGroup [] svc
        ⟨"vol1=_=_=1=_=_=System=_=_=c1", req.parameters⟩) d).1.toOption.map fun g =>
      (g.localProtectionGroupId, getIsiPathFromPgID g.localProtectionGroupId)) =
      some (("c1::/ifs/data/csi-dev-fd00::1-One_Hour/" : Str), []) := by
  decide +kernel

end CsiPowerscale
