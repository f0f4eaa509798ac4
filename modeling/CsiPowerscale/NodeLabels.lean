import CsiPowerscale.GoLib.Collections
import CsiPowerscale.PublishRuns

namespace CsiPowerscale
open GoLib Effects Effects.Prog

inductive Addr
  | ipNet (v : IPNet)
  | other
  deriving DecidableEq

def isAzLabel (key : Str) : Bool := startsWith key (sprintf [pluginName, "/az-"])

def addrLabel : Addr → Option Str
  | .other => none
  | .ipNet v =>
    match to4 v.ip with
    | none => none
    | some ip =>
      if ip.head? = some 127 then none
      else
        match parseCIDR (netString ip v.mask) with
        | none => none
        | some (ip, n) =>
          let sanitizedNet := replaceByte (sprintf [dotted (network ip n), "/", natToStr n]) 47 45
          some (sprintf [pluginName, "/az-", sanitizedNet, "-", dotted ip])

/-- The requests to the host and to Kubernetes. `getNodeLabels` and `getNode` both read the node,
each through its own client; `patchNode` carries the additions and removals. -/
inductive LabelCall
  | interfaceAddrs
  | getNodeLabels
  | getNode
  | patchNode (add : Params) (remove : List Str)

@[reducible] def LabelCall.Reply : LabelCall → Type
  | interfaceAddrs => List Addr
  | getNodeLabels => Params
  | getNode => Params
  | patchNode .. => Unit

def LabelCall.IsPatch : LabelCall → Bool
  | .patchNode .. => true
  | _ => false

abbrev LabelM := Prog LabelCall LabelCall.Reply Err

abbrev labelRequest (c : LabelCall) : LabelM c.Reply := op c

abbrev tryLabelRequest (c : LabelCall) : LabelM (Except Err c.Reply) := ask c

structure LabelEnv where
  interfaceAddrs : Except Err (List Addr)
  getNodeLabels : Except Err Unit
  getNode : Except Err Unit
  patchNode : Except Err Unit

def applyPatch (add : Params) (remove : List Str) (labels : Params) : Params :=
  (add.foldl (fun m x => assign m x.1 x.2) labels).filter fun x => x.1 ∉ remove

def LabelEnv.serve (env : LabelEnv) : (c : LabelCall) → Params → Except Err c.Reply × Params
  | .interfaceAddrs, s => (env.interfaceAddrs, s)
  | .getNodeLabels, s => (env.getNodeLabels.map fun _ => s, s)
  | .getNode, s => (env.getNode.map fun _ => s, s)
  | .patchNode add remove, s =>
    match env.patchNode with
    | .ok _ => (.ok (), applyPatch add remove s)
    | .error e => (.error e, s)

def labelWorld (env : LabelEnv) : World LabelCall LabelCall.Reply Err Params := ⟨env.serve⟩

@[simp] theorem labelWorld_act (env : LabelEnv) (c : LabelCall) (s : Params) :
    (labelWorld env).act c s = env.serve c s := rfl

namespace NodeService

def labelsToAdd (addrs : List Addr) : Params :=
  (addrs.filterMap addrLabel).foldl (fun m key => assign m key "true") []

def labelsToRemove (labels add : Params) : List Str :=
  (labels.map Prod.fst).filter fun k => isAzLabel k && !(add.get? k).isSome

def nodeLabelsNeedPatching (labels add : Params) (remove : List Str) : Bool :=
  add.any (fun x => labels.get x.1 ≠ x.2) || remove.any fun k => (labels.get? k).isSome

/-- The rest of `PatchNodeLabels` when the node has been read. A node without labels has a nil map,
to which nothing can be added. -/
def patchLabels (add : Params) (remove : List Str) (labels : Params) : LabelM Unit :=
  if labels = [] ∧ add ≠ [] then fail .panic else labelRequest (.patchNode add remove)

def patchNodeLabels (k8sclient : Bool) (add : Params) (remove : List Str) : LabelM Unit := do
  if !k8sclient then fail (.plain "k8s client is not initialized")
  else
    let labels ← labelRequest .getNode
    patchLabels add remove labels

def labelsOf : Except Err Params → Params
  | .ok labels => labels
  | .error _ => []

def reconcileNodeAzLabels (k8sclient : Bool) : LabelM Unit := do
  let addrs ← labelRequest .interfaceAddrs
  let add := labelsToAdd addrs
  let labels := labelsOf (← tryLabelRequest .getNodeLabels)
  let remove := labelsToRemove labels add
  if nodeLabelsNeedPatching labels add remove then patchNodeLabels k8sclient add remove
  else ret ()

def HasLabel (addrs : List Addr) (k : Str) : Prop := ∃ a ∈ addrs, addrLabel a = some k

structure Reconciled (addrs : List Addr) (before after : Params) : Prop where
  present : ∀ k, HasLabel addrs k → after.get? k = some ("true" : Str)
  absent : ∀ k, isAzLabel k = true → ¬HasLabel addrs k → after.get? k = none
  others : ∀ k, isAzLabel k = false → after.get? k = before.get? k

section Patch

variable {add m : Params} {remove : List Str} {k v : Str}

theorem get?_foldl_assign (hv : ∀ x ∈ add, x.2 = v) :
    Params.get? (add.foldl (fun m x => assign m x.1 x.2) m) k =
      if k ∈ add.map Prod.fst then some v else m.get? k := by
  induction add generalizing m with
  | nil => rfl
  | cons x add ih =>
    have hx : x.2 = v := hv x List.mem_cons_self
    rw [List.foldl_cons, ih fun y hy => hv y (List.mem_cons_of_mem x hy), Params.get?,
      lookup_assign, hx, List.map_cons]
    by_cases hmem : k ∈ add.map Prod.fst
    · simp [hmem]
    · by_cases hk : k = x.1
      · simp [hk]
      · simp [hmem, hk, Params.get?]

theorem get?_applyPatch (hv : ∀ x ∈ add, x.2 = v) : (applyPatch add remove m).get? k =
    if k ∈ remove then none else if k ∈ add.map Prod.fst then some v else m.get? k := by
  rw [applyPatch, Params.get?, lookup_filter (p := fun k => k ∉ remove), ← Params.get?,
    get?_foldl_assign hv]
  simp only [decide_not, Bool.not_eq_true', decide_eq_false_iff_not, ite_not]

end Patch

variable {env : LabelEnv} {addrs : List Addr} {k8sclient : Bool} {s t : Params} {k : Str}

theorem get?_labelsToAdd : (labelsToAdd addrs).get? k =
    if k ∈ addrs.filterMap addrLabel then some ("true" : Str) else none := by
  have hpairs : labelsToAdd addrs = ((addrs.filterMap addrLabel).map fun k =>
      (k, ("true" : Str))).foldl (fun m x => assign m x.1 x.2) [] := by
    rw [labelsToAdd, List.foldl_map]
  rw [hpairs, get?_foldl_assign (v := "true")]
  · rw [List.map_map]
    simp [Function.comp_def, Params.get?]
  · intro x hx
    obtain ⟨k, -, rfl⟩ := List.mem_map.1 hx
    rfl

theorem mem_keys_labelsToAdd : k ∈ (labelsToAdd addrs).map Prod.fst ↔ HasLabel addrs k := by
  rw [← lookup_isSome, ← Params.get?, get?_labelsToAdd, HasLabel, ← List.mem_filterMap]
  by_cases hk : k ∈ addrs.filterMap addrLabel
  · simp [hk]
  · simp [hk]

theorem labelsToAdd_value (hx : x ∈ labelsToAdd addrs) : x.2 = "true" := by
  rw [labelsToAdd] at hx
  generalize addrs.filterMap addrLabel = keys at hx
  have hm : ∀ x ∈ ([] : Params), x.2 = "true" := by
    intro y hy
    cases hy
  generalize ([] : Params) = m at hx hm
  induction keys generalizing m with
  | nil => exact hm x hx
  | cons k keys ih =>
    apply ih _ hx
    intro y hy
    rcases mem_of_mem_assign hy with hy | rfl
    · exact hm y hy
    · rfl

theorem isAzLabel_addrLabel (h : addrLabel a = some k) : isAzLabel k = true := by
  cases a with
  | other => cases h
  | ipNet v =>
    rw [addrLabel] at h
    split at h
    · cases h
    split at h
    · cases h
    split at h
    · cases h
    · cases h
      exact List.isPrefixOf_iff_prefix.2 ⟨_, rfl⟩

def seenLabels (env : LabelEnv) (s : Params) : Params :=
  labelsOf (env.getNodeLabels.map fun _ => s)

def staleLabels (env : LabelEnv) (addrs : List Addr) (s : Params) : List Str :=
  labelsToRemove (seenLabels env s) (labelsToAdd addrs)

def needsPatch (env : LabelEnv) (addrs : List Addr) (s : Params) : Bool :=
  nodeLabelsNeedPatching (seenLabels env s) (labelsToAdd addrs) (staleLabels env addrs s)

theorem run_reconcileNodeAzLabels (haddrs : env.interfaceAddrs = .ok addrs) :
    run (labelWorld env) (reconcileNodeAzLabels k8sclient) s =
      if needsPatch env addrs s then
        run (labelWorld env) (patchNodeLabels k8sclient (labelsToAdd addrs)
          (staleLabels env addrs s)) s
      else (.ok (), s) := by
  simp only [reconcileNodeAzLabels, run_bind, run_op, run_ask, labelWorld_act, LabelEnv.serve,
    haddrs]
  rw [needsPatch, staleLabels, seenLabels]
  split
  · rfl
  · rfl

section Patch

variable {add : Params} {remove : List Str}

theorem run_patchLabels_ok
    (h : run (labelWorld env) (patchLabels add remove labels) s = (.ok (), t)) :
    t = applyPatch add remove s := by
  unfold patchLabels at h
  by_cases hnil : labels = [] ∧ add ≠ []
  · rw [if_pos hnil] at h
    cases h
  rw [if_neg hnil, run_op, labelWorld_act, LabelEnv.serve] at h
  cases hpatch : env.patchNode with
  | error e =>
    rw [hpatch] at h
    cases h
  | ok u =>
    rw [hpatch] at h
    cases h
    rfl

theorem run_patchNodeLabels_ok
    (h : run (labelWorld env) (patchNodeLabels k8sclient add remove) s = (.ok (), t)) :
    t = applyPatch add remove s := by
  unfold patchNodeLabels at h
  split at h
  · cases h
  rw [run_bind, run_op, labelWorld_act, LabelEnv.serve] at h
  cases hnode : env.getNode with
  | error e =>
    rw [hnode] at h
    cases h
  | ok u =>
    rw [hnode] at h
    exact run_patchLabels_ok h

end Patch

theorem mem_staleLabels : k ∈ staleLabels env addrs s ↔
    k ∈ (seenLabels env s).map Prod.fst ∧ isAzLabel k = true ∧ ¬HasLabel addrs k := by
  rw [staleLabels, labelsToRemove, List.mem_filter, Bool.and_eq_true, Bool.not_eq_true',
    ← Bool.not_eq_true, Params.get?, lookup_isSome, mem_keys_labelsToAdd]

theorem get_eq_true {m : Params} : m.get k = "true" ↔ m.get? k = some ("true" : Str) := by
  rw [Params.get]
  cases m.get? k with
  | none =>
    have hne : ([] : Str) ≠ "true" := by decide
    simp [hne]
  | some v => simp

theorem seenLabels_ok (h : env.getNodeLabels = .ok ()) : seenLabels env s = s := by
  rw [seenLabels, h]
  rfl

theorem seenLabels_error (h : env.getNodeLabels = .error e) : seenLabels env s = [] := by
  rw [seenLabels, h]
  rfl

theorem get?_of_seen (h : (seenLabels env s).get? k = some v) : s.get? k = some v := by
  cases hread : env.getNodeLabels with
  | ok u =>
    rw [seenLabels_ok hread] at h
    exact h
  | error e =>
    rw [seenLabels_error hread] at h
    cases h

theorem needsPatch_eq_false : needsPatch env addrs s = false ↔
    (∀ k, HasLabel addrs k → (seenLabels env s).get? k = some ("true" : Str)) ∧
      staleLabels env addrs s = [] := by
  rw [needsPatch, nodeLabelsNeedPatching, Bool.or_eq_false_iff, List.any_eq_false, List.any_eq_false]
  apply and_congr
  · constructor
    · intro h k hk
      obtain ⟨x, hx, rfl⟩ := List.mem_map.1 (mem_keys_labelsToAdd.2 hk)
      have hget := h x hx
      rw [labelsToAdd_value hx, decide_eq_true_eq, not_not] at hget
      exact get_eq_true.1 hget
    · intro h x hx
      have hk : HasLabel addrs x.1 := mem_keys_labelsToAdd.1 (List.mem_map_of_mem hx)
      rw [labelsToAdd_value hx, decide_eq_true_eq, not_not]
      exact get_eq_true.2 (h _ hk)
  · constructor
    · intro h
      rw [List.eq_nil_iff_forall_not_mem]
      intro k hk
      exact h k hk (lookup_isSome.2 (mem_staleLabels.1 hk).1)
    · intro h k hk
      rw [h] at hk
      cases hk

theorem get?_of_run (haddrs : env.interfaceAddrs = .ok addrs)
    (hrun : run (labelWorld env) (reconcileNodeAzLabels k8sclient) s = (.ok (), t)) (k : Str) :
    t.get? k = if k ∈ staleLabels env addrs s then none
      else if k ∈ (labelsToAdd addrs).map Prod.fst then some ("true" : Str) else s.get? k := by
  rw [run_reconcileNodeAzLabels haddrs] at hrun
  cases hneed : needsPatch env addrs s with
  | true =>
    rw [hneed, if_pos rfl] at hrun
    rw [run_patchNodeLabels_ok hrun, get?_applyPatch fun x hx => labelsToAdd_value hx]
  | false =>
    rw [hneed, if_neg Bool.false_ne_true] at hrun
    cases hrun
    obtain ⟨hadd, hstale⟩ := needsPatch_eq_false.1 hneed
    rw [hstale, if_neg List.not_mem_nil]
    split
    · rename_i hk
      have hseen := hadd k (mem_keys_labelsToAdd.1 hk)
      exact get?_of_seen hseen
    · rfl

theorem reconciled_iff (haddrs : env.interfaceAddrs = .ok addrs)
    (hrun : run (labelWorld env) (reconcileNodeAzLabels k8sclient) s = (.ok (), t)) :
    Reconciled addrs s t ↔ env.getNodeLabels = .ok () ∨
      ∀ k, isAzLabel k = true → s.get? k ≠ none → HasLabel addrs k := by
  have hget := get?_of_run haddrs hrun
  constructor
  · intro h
    cases hread : env.getNodeLabels with
    | ok u => exact .inl rfl
    | error e =>
      refine .inr fun k haz hk => ?_
      by_contra hno
      have hstale : k ∉ staleLabels env addrs s := by
        rw [mem_staleLabels, seenLabels_error hread]
        simp
      apply hk
      rw [← h.absent k haz hno, hget, if_neg hstale, if_neg fun hmem =>
        hno (mem_keys_labelsToAdd.1 hmem)]
  · intro h
    constructor
    · intro k hk
      rw [hget, if_neg fun hmem => (mem_staleLabels.1 hmem).2.2 hk,
        if_pos (mem_keys_labelsToAdd.2 hk)]
    · intro k haz hno
      rw [hget, if_neg fun hmem => hno (mem_keys_labelsToAdd.1 hmem)]
      split
      · rfl
      rename_i hstale
      by_contra hk
      rcases h with hread | hknown
      · apply hstale
        rw [mem_staleLabels, seenLabels_ok hread]
        exact ⟨lookup_isSome.1 (Option.isSome_iff_ne_none.2 hk), haz, hno⟩
      · exact hno (hknown k haz hk)
    · intro k haz
      have hno : k ∉ (labelsToAdd addrs).map Prod.fst := by
        intro hmem
        obtain ⟨a, -, ha⟩ := mem_keys_labelsToAdd.1 hmem
        rw [isAzLabel_addrLabel ha] at haz
        cases haz
      have hstale : k ∉ staleLabels env addrs s := by
        intro hmem
        rw [(mem_staleLabels.1 hmem).2.1] at haz
        cases haz
      rw [hget, if_neg hstale, if_neg hno]

/-- No patch is sent. -/
def Quiet (env : LabelEnv) (k8sclient : Bool) (s : Params) : Prop :=
  ∀ c ∈ requests (labelWorld env) (reconcileNodeAzLabels k8sclient) [] s, c.IsPatch = false

theorem requests_reconcileNodeAzLabels (haddrs : env.interfaceAddrs = .ok addrs) :
    requests (labelWorld env) (reconcileNodeAzLabels k8sclient) [] s =
      .interfaceAddrs :: .getNodeLabels :: if needsPatch env addrs s then
        requests (labelWorld env) (patchNodeLabels k8sclient (labelsToAdd addrs)
          (staleLabels env addrs s)) [] s
      else [] := by
  simp only [reconcileNodeAzLabels, labelRequest, tryLabelRequest, op, ask, call_bind, requests,
    labelWorld_act, LabelEnv.serve, haddrs, ofExcept_ok, ret_bind]
  congr 2
  change requests (labelWorld env) (if needsPatch env addrs s = true then
    patchNodeLabels k8sclient (labelsToAdd addrs) (staleLabels env addrs s) else ret ()) [] s = _
  cases needsPatch env addrs s with
  | true => rfl
  | false => rfl

theorem patchNodeLabels_quiet :
    (∀ c ∈ requests (labelWorld env) (patchNodeLabels k8sclient add remove) [] s,
      c.IsPatch = false) ↔ k8sclient = false ∨ (∃ e, env.getNode = .error e) ∨ s = [] ∧ add ≠ [] := by
  unfold patchNodeLabels
  cases k8sclient with
  | false => simp [requests]
  | true =>
    cases hnode : env.getNode with
    | error e =>
      simp [labelRequest, op, requests, LabelEnv.serve, hnode, Except.map, LabelCall.IsPatch]
    | ok u =>
      by_cases hnil : s = [] ∧ add ≠ []
      · simp [labelRequest, op, requests, LabelEnv.serve, hnode, Except.map, patchLabels, hnil,
          LabelCall.IsPatch]
      · simp [labelRequest, op, requests, LabelEnv.serve, hnode, Except.map, patchLabels, hnil,
          LabelCall.IsPatch]

theorem needsPatch_again (h : Reconciled addrs s t) : needsPatch env addrs t = false ↔
    env.getNodeLabels = .ok () ∨ ∀ a ∈ addrs, addrLabel a = none := by
  rw [needsPatch_eq_false]
  cases hread : env.getNodeLabels with
  | ok u =>
    refine iff_of_true ⟨?_, List.eq_nil_iff_forall_not_mem.2 ?_⟩ (.inl rfl)
    · rw [seenLabels_ok hread]
      exact h.present
    intro k hk
    obtain ⟨hmem, haz, hno⟩ := mem_staleLabels.1 hk
    rw [seenLabels_ok hread, ← lookup_isSome, ← Params.get?, h.absent k haz hno] at hmem
    cases hmem
  | error e =>
    have hstale : staleLabels env addrs t = [] := by
      rw [staleLabels, seenLabels_error hread]
      rfl
    rw [seenLabels_error hread]
    constructor
    · rintro ⟨hadd, -⟩
      refine .inr fun a ha => ?_
      by_contra hlabel
      obtain ⟨k, hk⟩ := Option.ne_none_iff_exists'.1 hlabel
      cases hadd k ⟨a, ha, hk⟩
    · rintro (hok | hnone)
      · cases hok
      refine ⟨?_, hstale⟩
      rintro k ⟨a, ha, hk⟩
      rw [hnone a ha] at hk
      cases hk

theorem quiet_iff (haddrs : env.interfaceAddrs = .ok addrs) (h : Reconciled addrs s t) :
    Quiet env k8sclient t ↔ env.getNodeLabels = .ok () ∨ (∀ a ∈ addrs, addrLabel a = none) ∨
      k8sclient = false ∨ ∃ e, env.getNode = .error e := by
  rw [Quiet, requests_reconcileNodeAzLabels haddrs, List.forall_mem_cons, List.forall_mem_cons,
    ← or_assoc, ← needsPatch_again h]
  cases hneed : needsPatch env addrs t with
  | false => simp [LabelCall.IsPatch]
  | true =>
    have hfull : ¬(t = [] ∧ labelsToAdd addrs ≠ []) := by
      rintro ⟨rfl, hadd⟩
      obtain ⟨x, hx⟩ := List.exists_mem_of_ne_nil _ hadd
      cases h.present x.1 (mem_keys_labelsToAdd.1 (List.mem_map_of_mem hx))
    rw [if_pos rfl, patchNodeLabels_quiet]
    simp [LabelCall.IsPatch, hfull]

/-- The reconciliation is exact and settles, exactly when a failed label read finds nothing out of
date and the next run reads the labels or has nothing to patch. -/
theorem reconcileNodeAzLabels_exact_iff {env' : LabelEnv} (haddrs : env.interfaceAddrs = .ok addrs)
    (hagain : env'.interfaceAddrs = .ok addrs)
    (hrun : run (labelWorld env) (reconcileNodeAzLabels k8sclient) s = (.ok (), t)) :
    Reconciled addrs s t ∧ Quiet env' k8sclient t ↔ (env.getNodeLabels = .ok () ∨
        ∀ k, isAzLabel k = true → s.get? k ≠ none → HasLabel addrs k) ∧
      (env'.getNodeLabels = .ok () ∨ (∀ a ∈ addrs, addrLabel a = none) ∨ k8sclient = false ∨
        ∃ e, env'.getNode = .error e) := by
  rw [← reconciled_iff haddrs hrun]
  exact and_congr_right fun h => quiet_iff hagain h

def twoAddrs : List Addr := [.ipNet ⟨[127, 0, 0, 1], [255, 0, 0, 0]⟩,
  .ipNet ⟨[10, 1, 2, 3], [255, 255, 0, 0]⟩]

def labelEnv (getNodeLabels : Except Err Unit) : LabelEnv where
  interfaceAddrs := .ok twoAddrs
  getNodeLabels := getNodeLabels
  getNode := .ok ()
  patchNode := .ok ()

def movedLabels : Params := [("kubernetes.io/os", "linux"),
  ("csi-isilon.dellemc.com/az-10.2.0.0-16-10.2.2.3", "true")]

def settledLabels : Params := [("kubernetes.io/os", "linux"),
  ("csi-isilon.dellemc.com/az-10.1.0.0-16-10.1.2.3", "true")]

theorem reconcileNodeAzLabels_moved :
    run (labelWorld (labelEnv (.ok ()))) (reconcileNodeAzLabels true) movedLabels =
      (.ok (), settledLabels) ∧
    Reconciled twoAddrs movedLabels settledLabels ∧ Quiet (labelEnv (.ok ())) true settledLabels := by
  have hrun : run (labelWorld (labelEnv (.ok ()))) (reconcileNodeAzLabels true) movedLabels =
      (.ok (), settledLabels) := by decide
  exact ⟨hrun, (reconcileNodeAzLabels_exact_iff rfl rfl hrun).2 ⟨.inl rfl, .inl rfl⟩⟩

/-- When the labels cannot be read, the label of the old network stays and nil is returned. -/
theorem reconcileNodeAzLabels_keeps_stale : ∃ t,
    run (labelWorld (labelEnv (.error (.plain "timeout")))) (reconcileNodeAzLabels true)
      movedLabels = (.ok (), t) ∧
    t.get? "csi-isilon.dellemc.com/az-10.2.0.0-16-10.2.2.3" = some ("true" : Str) ∧
    ¬HasLabel twoAddrs "csi-isilon.dellemc.com/az-10.2.0.0-16-10.2.2.3" ∧
    ¬Reconciled twoAddrs movedLabels t := by
  have hno : ¬HasLabel twoAddrs "csi-isilon.dellemc.com/az-10.2.0.0-16-10.2.2.3" := by
    rw [← mem_keys_labelsToAdd]
    decide
  refine ⟨_, rfl, by decide, hno, ?_⟩
  intro h
  have habsent := h.absent _ (by decide) hno
  revert habsent
  decide

end NodeService

end CsiPowerscale
