import CsiPowerscale.Driver
import CsiPowerscale.Effects.Interleave
import CsiPowerscale.GoLib.Collections

namespace CsiPowerscale
open GoLib Effects Effects.Prog

abbrev NodeIDToClient := Str × Str

structure ClusterSlot where
  stored : Option Slice
  arrays : Arrays NodeIDToClient
  deriving DecidableEq

inductive MapCall
  | load (clusterName : Str)
  | get (clusterName : Str) (s : Slice) (i : Nat)
  | set (clusterName : Str) (s : Slice) (i : Nat) (entry : NodeIDToClient)
  | append (clusterName : Str) (s : Slice) (entry : NodeIDToClient)
  | make (clusterName : Str) (entry : NodeIDToClient)
  | store (clusterName : Str) (s : Slice)

namespace MapCall

@[reducible] def Reply : MapCall → Type
  | load .. => Option Slice
  | get .. => Option NodeIDToClient
  | set .. => Unit
  | append .. => Slice
  | make .. => Slice
  | store .. => Unit

def clusterName : MapCall → Str
  | load c | get c .. | set c .. | append c .. | make c .. | store c .. => c

end MapCall

abbrev MapM := Prog MapCall MapCall.Reply Err

abbrev mapStep (c : MapCall) : MapM c.Reply := op c

def ClusterSlot.serve (grow : Nat → Nat) :
    (c : MapCall) → ClusterSlot → Except Err c.Reply × ClusterSlot
  | .load _, v => (.ok v.stored, v)
  | .get _ s i, v => (.ok (s.get v.arrays i), v)
  | .set _ s i entry, v => (.ok (), { v with arrays := s.set v.arrays i entry })
  | .append _ s entry, v =>
    (.ok (s.append grow v.arrays entry).1, { v with arrays := (s.append grow v.arrays entry).2 })
  | .make _ entry, v =>
    (.ok (Slice.make v.arrays entry).1, { v with arrays := (Slice.make v.arrays entry).2 })
  | .store _ s, v => (.ok (), { v with stored := some s })

def slotWorld (grow : Nat → Nat) : World MapCall MapCall.Reply Err ClusterSlot := ⟨ClusterSlot.serve grow⟩

@[simp] theorem slotWorld_act (grow : Nat → Nat) (c : MapCall) (v : ClusterSlot) :
    (slotWorld grow).act c v = ClusterSlot.serve grow c v := rfl

structure ClusterSlot.Shows (v : ClusterSlot) (xs : List NodeIDToClient) : Prop where
  stored : match v.stored with
    | none => xs = []
    | some s => s.Holds v.arrays xs
  nodup : (xs.map Prod.fst).Nodup

namespace IsiService

def updateSlice (clusterName nodeID clientToUse : Str) (s : Slice) : Nat → MapM Unit
  | 0 => do
    let longer ← mapStep (.append clusterName s (nodeID, clientToUse))
    mapStep (.store clusterName longer)
  | n + 1 => do
    let i := s.len - (n + 1)
    match ← mapStep (.get clusterName s i) with
    | none => fail .panic
    | some (node, client) =>
      if node = nodeID then
        if client = clientToUse then ret ()
        else
          mapStep (.set clusterName s i (nodeID, clientToUse))
          mapStep (.store clusterName s)
      else updateSlice clusterName nodeID clientToUse s n

def updateClusterToNodeIDMap (clusterName nodeID clientToUse : Str) : MapM Unit := do
  match ← mapStep (.load clusterName) with
  | some s => updateSlice clusterName nodeID clientToUse s s.len
  | none =>
    let s ← mapStep (.make clusterName (nodeID, clientToUse))
    mapStep (.store clusterName s)

def findClient (clusterName nodeID : Str) (s : Slice) : Nat → MapM Str
  | 0 => fail (.plain (sprintf ["node id to client map not found for nodeID '", nodeID,
      "' in in cluster to nodeID map"]))
  | n + 1 => do
    match ← mapStep (.get clusterName s (s.len - (n + 1))) with
    | none => fail .panic
    | some (node, client) =>
      if node = nodeID then ret client else findClient clusterName nodeID s n

def getClientToUseForNodeID (clusterName nodeID : Str) : MapM Str := do
  match ← mapStep (.load clusterName) with
  | some s => findClient clusterName nodeID s s.len
  | none => fail (.plain (sprintf ["entry for cluster '", clusterName,
      "' not found in cluster to nodeID map"]))

variable {grow : Nat → Nat} {v : ClusterSlot} {xs : List NodeIDToClient} {s : Slice}

theorem take_succ_of_ne (hbefore : ∀ y ∈ xs.take n, y.1 ≠ nodeID) (hx : xs[n]? = some x)
    (hne : x.1 ≠ nodeID) :
    ∀ y ∈ xs.take (n + 1), y.1 ≠ nodeID := by
  intro y hy
  rw [List.take_add_one, hx, List.mem_append] at hy
  rcases hy with hy | hy
  · exact hbefore y hy
  · rw [Option.toList_some, List.mem_singleton] at hy
    rw [hy]
    exact hne

theorem run_updateSlice (clusterName clientToUse : Str) (hv : v.stored = some s)
    (hs : s.Holds v.arrays xs) (hnodup : (xs.map Prod.fst).Nodup) (n : Nat) (hn : n ≤ s.len)
    (hbefore : ∀ x ∈ xs.take (s.len - n), x.1 ≠ nodeID) :
    ∃ v', run (slotWorld grow) (updateSlice clusterName nodeID clientToUse s n) v = (.ok (), v') ∧
      v'.Shows (assign xs nodeID clientToUse) := by
  induction n with
  | zero =>
    rw [Nat.sub_zero, hs.len, List.take_length] at hbefore
    have hnew : nodeID ∉ xs.map Prod.fst := by
      intro hmem
      obtain ⟨x, hx, hkey⟩ := List.mem_map.1 hmem
      exact hbefore x hx hkey
    refine ⟨⟨some (s.append grow v.arrays (nodeID, clientToUse)).1,
      (s.append grow v.arrays (nodeID, clientToUse)).2⟩, ?_, ?_⟩
    · simp [updateSlice, run_bind, ClusterSlot.serve]
    constructor
    · rw [assign, if_neg hnew]
      exact hs.append grow _
    · exact nodup_keys_assign hnodup
  | succ n ih =>
    have hlt : s.len - (n + 1) < s.len := by omega
    obtain ⟨⟨node, client⟩, hx, hget⟩ := hs.exists_get hlt
    rw [updateSlice, run_bind, run_op, slotWorld_act, ClusterSlot.serve, hget]
    dsimp only
    by_cases hnode : node = nodeID
    · subst hnode
      rw [if_pos rfl]
      have hassign := assign_of_getElem? (v := clientToUse) hnodup hx
      by_cases hclient : client = clientToUse
      · subst hclient
        rw [if_pos rfl]
        refine ⟨v, rfl, ?_, nodup_keys_assign hnodup⟩
        obtain ⟨hlt', hget'⟩ := List.getElem?_eq_some_iff.1 hx
        rw [hassign, ← hget', List.set_getElem_self hlt', hv]
        exact hs
      · rw [if_neg hclient]
        refine ⟨⟨some s, s.set v.arrays (s.len - (n + 1)) (node, clientToUse)⟩, ?_, ?_,
          nodup_keys_assign hnodup⟩
        · simp [run_bind, ClusterSlot.serve]
        · rw [hassign]
          exact hs.set hlt _
    · rw [if_neg hnode]
      apply ih (by omega)
      have hstep : s.len - n = s.len - (n + 1) + 1 := by omega
      rw [hstep]
      exact take_succ_of_ne hbefore hx hnode

theorem run_updateClusterToNodeIDMap (grow : Nat → Nat) (hv : v.Shows xs)
    (clusterName nodeID clientToUse : Str) :
    ∃ v', run (slotWorld grow) (updateClusterToNodeIDMap clusterName nodeID clientToUse) v =
        (.ok (), v') ∧ v'.Shows (assign xs nodeID clientToUse) := by
  rw [updateClusterToNodeIDMap, run_bind, run_op, slotWorld_act, ClusterSlot.serve]
  dsimp only
  obtain ⟨hstored, hnodup⟩ := hv
  cases hs : v.stored with
  | none =>
    rw [hs] at hstored
    subst hstored
    refine ⟨⟨some (Slice.make v.arrays (nodeID, clientToUse)).1,
      (Slice.make v.arrays (nodeID, clientToUse)).2⟩, ?_, ?_, nodup_keys_assign hnodup⟩
    · simp [run_bind, ClusterSlot.serve]
    · exact Slice.holds_make v.arrays _
  | some s =>
    rw [hs] at hstored
    apply run_updateSlice clusterName clientToUse hs hstored hnodup s.len (Nat.le_refl _)
    rw [Nat.sub_self, List.take_zero]
    exact List.forall_mem_nil _

theorem run_findClient (clusterName : Str) (hs : s.Holds v.arrays xs) (n : Nat) (hn : n ≤ s.len)
    (hbefore : ∀ x ∈ xs.take (s.len - n), x.1 ≠ nodeID) :
    ∃ r, run (slotWorld grow) (findClient clusterName nodeID s n) v = (r, v) ∧
      ∀ client, r = .ok client ↔ xs.lookup nodeID = some client := by
  induction n with
  | zero =>
    rw [Nat.sub_zero, hs.len, List.take_length] at hbefore
    have hnone : xs.lookup nodeID = none := by
      rw [List.lookup_eq_none_iff]
      intro x hx
      rw [bne_iff_ne]
      exact (hbefore x hx).symm
    refine ⟨_, rfl, ?_⟩
    intro client
    simp [hnone]
  | succ n ih =>
    have hlt : s.len - (n + 1) < s.len := by omega
    obtain ⟨⟨node, client⟩, hx, hget⟩ := hs.exists_get hlt
    rw [findClient, run_bind, run_op, slotWorld_act, ClusterSlot.serve, hget]
    dsimp only
    by_cases hnode : node = nodeID
    · subst hnode
      have hfound : xs.lookup node = some client := by
        obtain ⟨hlt', hget'⟩ := List.getElem?_eq_some_iff.1 hx
        apply List.lookup_eq_some_iff.2
        refine ⟨xs.take (s.len - (n + 1)), xs.drop (s.len - (n + 1) + 1), ?_, ?_⟩
        · rw [← hget', ← List.drop_eq_getElem_cons hlt', List.take_append_drop]
        · intro x hx
          rw [bne_iff_ne]
          exact (hbefore x hx).symm
      rw [if_pos rfl, hfound]
      refine ⟨_, rfl, ?_⟩
      intro c
      rw [Except.ok.injEq, Option.some.injEq]
    · rw [if_neg hnode]
      apply ih (by omega)
      have hstep : s.len - n = s.len - (n + 1) + 1 := by omega
      rw [hstep]
      exact take_succ_of_ne hbefore hx hnode

theorem run_getClientToUseForNodeID (grow : Nat → Nat) (hv : v.Shows xs)
    (clusterName nodeID : Str) :
    ∃ r, run (slotWorld grow) (getClientToUseForNodeID clusterName nodeID) v = (r, v) ∧
      ∀ client, r = .ok client ↔ xs.lookup nodeID = some client := by
  rw [getClientToUseForNodeID, run_bind, run_op, slotWorld_act, ClusterSlot.serve]
  dsimp only
  obtain ⟨hstored, hnodup⟩ := hv
  cases hs : v.stored with
  | none =>
    rw [hs] at hstored
    subst hstored
    refine ⟨_, rfl, ?_⟩
    intro client
    simp
  | some s =>
    rw [hs] at hstored
    apply run_findClient clusterName hstored s.len (Nat.le_refl _)
    rw [Nat.sub_self, List.take_zero]
    exact List.forall_mem_nil _

structure ClientUpdate where
  clusterName : Str
  nodeID : Str
  clientToUse : Str
  deriving DecidableEq

def ClientUpdate.code (u : ClientUpdate) : MapM Unit :=
  updateClusterToNodeIDMap u.clusterName u.nodeID u.clientToUse

def mapWorld (grow : Nat → Nat) : World MapCall MapCall.Reply Err (Str → ClusterSlot) :=
  (slotWorld grow).lanes MapCall.clusterName

def mapSystem (grow : Nat → Nat) :
    System ClientUpdate MapCall MapCall.Reply Err Unit (Str → ClusterSlot) where
  world := mapWorld grow
  code := ClientUpdate.code
  blocks _ _ := false

def emptyMap : Pool ClientUpdate MapCall MapCall.Reply Err Unit (Str → ClusterSlot) where
  running := []
  state _ := ⟨none, []⟩
  log := []

def lastClient (us : List ClientUpdate) (nodeID : Str) : Option Str :=
  (us.reverse.find? fun u => u.nodeID = nodeID).map ClientUpdate.clientToUse

theorem lastClient_concat (us : List ClientUpdate) (u : ClientUpdate) (nodeID : Str) :
    lastClient (us ++ [u]) nodeID =
      if nodeID = u.nodeID then some u.clientToUse else lastClient us nodeID := by
  rw [lastClient, List.reverse_append, List.reverse_singleton, List.singleton_append,
    List.find?_cons]
  by_cases h : nodeID = u.nodeID
  · simp [h]
  · simp [h, Ne.symm h, lastClient]

theorem lastClient_of_only (hu : u ∈ us) (honly : ∀ u' ∈ us, u'.nodeID = u.nodeID → u' = u) :
    lastClient us u.nodeID = some u.clientToUse := by
  rw [lastClient]
  cases hfind : us.reverse.find? fun u' => u'.nodeID = u.nodeID with
  | none =>
    have hno := List.find?_eq_none.1 hfind u (List.mem_reverse.2 hu)
    exact (hno (decide_eq_true rfl)).elim
  | some u' =>
    have hnode := List.find?_some hfind
    have hmem := List.mem_reverse.1 (List.mem_of_find?_eq_some hfind)
    rw [honly u' hmem (of_decide_eq_true hnode)]
    rfl

theorem shows_serial (grow : Nat → Nat) (us : List ClientUpdate) :
    ∃ xs, (System.serial (slotWorld grow) ClientUpdate.code us ⟨none, []⟩).Shows xs ∧
      ∀ nodeID, xs.lookup nodeID = lastClient us nodeID := by
  induction us using List.reverseRecOn with
  | nil => exact ⟨[], ⟨rfl, List.nodup_nil⟩, fun nodeID => rfl⟩
  | append_singleton us u ih =>
    obtain ⟨xs, hxs, hlookup⟩ := ih
    obtain ⟨v, hrun, hv⟩ := run_updateClusterToNodeIDMap grow hxs u.clusterName u.nodeID
      u.clientToUse
    have hserial : System.serial (slotWorld grow) ClientUpdate.code (us ++ [u]) ⟨none, []⟩ = v := by
      rw [System.serial, List.foldl_append]
      exact congrArg Prod.snd hrun
    refine ⟨assign xs u.nodeID u.clientToUse, ?_, ?_⟩
    · rw [hserial]
      exact hv
    · intro nodeID
      rw [lookup_assign, hlookup, lastClient_concat]

theorem mapStep_uses {f : c.Reply → MapM α} (hc : c.clusterName = clusterName)
    (hf : ∀ r, uses (fun c => c.clusterName = clusterName) (f r)) :
    uses (fun c => c.clusterName = clusterName) (mapStep c >>= f) := uses_bind ((uses_op _).2 hc) hf

theorem updateSlice_uses (clusterName nodeID clientToUse : Str) (s : Slice) (n : Nat) :
    uses (fun c => c.clusterName = clusterName) (updateSlice clusterName nodeID clientToUse s n) := by
  induction n with
  | zero => exact mapStep_uses rfl fun longer => (uses_op _).2 rfl
  | succ n ih =>
    rw [updateSlice]
    apply mapStep_uses rfl
    intro entry
    cases entry with
    | none => trivial
    | some x =>
      obtain ⟨node, client⟩ := x
      dsimp only
      split
      · split
        · trivial
        · exact mapStep_uses rfl fun _ => (uses_op _).2 rfl
      · exact ih

theorem code_uses (u : ClientUpdate) : uses (fun c => c.clusterName = u.clusterName) u.code := by
  rw [ClientUpdate.code, updateClusterToNodeIDMap]
  apply mapStep_uses rfl
  intro stored
  cases stored with
  | none => exact mapStep_uses rfl fun s => (uses_op _).2 rfl
  | some s => exact updateSlice_uses u.clusterName u.nodeID u.clientToUse s s.len

theorem findClient_uses (clusterName nodeID : Str) (s : Slice) (n : Nat) :
    uses (fun c => c.clusterName = clusterName) (findClient clusterName nodeID s n) := by
  induction n with
  | zero => trivial
  | succ n ih =>
    rw [findClient]
    apply mapStep_uses rfl
    intro entry
    cases entry with
    | none => trivial
    | some x =>
      obtain ⟨node, client⟩ := x
      dsimp only
      split
      · trivial
      · exact ih

theorem getClientToUseForNodeID_uses (clusterName nodeID : Str) :
    uses (fun c => c.clusterName = clusterName) (getClientToUseForNodeID clusterName nodeID) := by
  apply mapStep_uses rfl
  intro stored
  cases stored with
  | none => trivial
  | some s => exact findClient_uses clusterName nodeID s s.len

/-- When no two calls for one cluster overlap, a cluster without a call in progress has one entry
for each node of its calls, with the last client; a call whose node no other call names is not lost.
-/
theorem updateClusterToNodeIDMap_kept (grow : Nat → Nat) {moves : List (Move ClientUpdate Err)}
    {p : Pool ClientUpdate MapCall MapCall.Reply Err Unit (Str → ClusterSlot)}
    (hp : (mapSystem grow).play moves emptyMap = p)
    (h : (mapSystem grow).Along (System.OneByOne ClientUpdate.clusterName) moves emptyMap)
    (clusterName : Str) (hidle : ∀ t ∈ p.running, t.1.clusterName ≠ clusterName) :
    (∃ xs, (p.state clusterName).Shows xs ∧ ∀ nodeID, xs.lookup nodeID =
      lastClient (System.ended ClientUpdate.clusterName clusterName p.log) nodeID) ∧
    ∀ u r, Event.finished u r ∈ p.log → u.clusterName = clusterName →
      (∀ u' r', Event.finished u' r' ∈ p.log → u'.clusterName = clusterName →
        u'.nodeID = u.nodeID → u' = u) →
      (run (mapWorld grow) (getClientToUseForNodeID clusterName u.nodeID) p.state).1 =
        .ok u.clientToUse := by
  have hlanes := System.Lanes.play code_uses h
  obtain ⟨xs, hxs, hlookup⟩ := shows_serial grow
    (System.ended ClientUpdate.clusterName clusterName p.log)
  have hstate : p.state clusterName = System.serial (slotWorld grow) ClientUpdate.code
      (System.ended ClientUpdate.clusterName clusterName p.log) ⟨none, []⟩ := by
    subst hp
    exact hlanes.idle clusterName hidle
  rw [← hstate] at hxs
  refine ⟨⟨xs, hxs, hlookup⟩, ?_⟩
  intro u r hu hcluster honly
  obtain ⟨result, hrun, hresult⟩ := run_getClientToUseForNodeID grow hxs clusterName u.nodeID
  rw [mapWorld, run_lanes (getClientToUseForNodeID_uses clusterName u.nodeID), hrun]
  apply (hresult _).2
  rw [hlookup]
  apply lastClient_of_only (System.mem_ended.2 ⟨hcluster, r, hu⟩)
  intro u' hu' hnode
  obtain ⟨hcluster', r', hmem⟩ := System.mem_ended.1 hu'
  exact honly u' r' hmem hcluster' hnode

def Represents (d : Driver) (s : Str → ClusterSlot) : Prop :=
  ∀ clusterName, ∃ xs, (s clusterName).Shows xs ∧
    ∀ nodeID, d.clients clusterName nodeID = xs.lookup nodeID

theorem updateClusterToNodeIDMap_refines (grow : Nat → Nat) {s : Str → ClusterSlot}
    (h : Represents d s) (clusterName nodeID clientToUse : Str) :
    ∃ s', run (mapWorld grow) (updateClusterToNodeIDMap clusterName nodeID clientToUse) s =
        (.ok (), s') ∧ Represents (d.setClient clusterName nodeID clientToUse) s' := by
  obtain ⟨xs, hxs, hclients⟩ := h clusterName
  obtain ⟨v, hrun, hv⟩ := run_updateClusterToNodeIDMap grow hxs clusterName nodeID clientToUse
  have hlane := run_lanes (w := slotWorld grow) (code_uses ⟨clusterName, nodeID, clientToUse⟩) s
  rw [ClientUpdate.code, hrun] at hlane
  refine ⟨_, hlane, ?_⟩
  intro c
  by_cases hc : c = clusterName
  · subst hc
    refine ⟨_, by rwa [Function.update_self], ?_⟩
    intro n
    rw [lookup_assign, ← hclients]
    by_cases hn : n = nodeID
    · simp [Driver.setClient, hn]
    · simp [Driver.setClient, hn]
  · obtain ⟨ys, hys, hclients'⟩ := h c
    refine ⟨ys, by rwa [Function.update_of_ne hc], ?_⟩
    intro n
    simp [Driver.setClient, hc, hclients']

theorem getClientToUseForNodeID_refines (grow : Nat → Nat) {s : Str → ClusterSlot}
    (h : Represents d s) (clusterName nodeID client : Str) :
    (run (mapWorld grow) (getClientToUseForNodeID clusterName nodeID) s).1 = .ok client ↔
      d.clients clusterName nodeID = some client := by
  obtain ⟨xs, hxs, hclients⟩ := h clusterName
  obtain ⟨r, hrun, hr⟩ := run_getClientToUseForNodeID grow hxs clusterName nodeID
  rw [mapWorld, run_lanes (getClientToUseForNodeID_uses clusterName nodeID), hrun, hclients]
  exact hr client

/-- The slices of the node map do what the driver's node map stands for: after any updates, a read
finds the client that it holds. -/
theorem clusterToNodeIDMap_refines (grow : Nat → Nat) {s : Str → ClusterSlot} (h : Represents d s)
    (updates : List ClientUpdate) :
    ∃ t, run (mapWorld grow) (forM updates ClientUpdate.code) s = (.ok (), t) ∧
      ∀ clusterName nodeID client,
        (run (mapWorld grow) (getClientToUseForNodeID clusterName nodeID) t).1 = .ok client ↔
          (updates.foldl (fun d u => d.setClient u.clusterName u.nodeID u.clientToUse) d).clients
            clusterName nodeID = some client := by
  induction updates generalizing d s with
  | nil => exact ⟨s, rfl, getClientToUseForNodeID_refines grow h⟩
  | cons u updates ih =>
    obtain ⟨v, hv, hd⟩ := updateClusterToNodeIDMap_refines grow h u.clusterName u.nodeID
      u.clientToUse
    rw [List.forM_cons, run_bind, ClientUpdate.code, hv]
    exact ih hd

def firstUpdate : ClientUpdate := ⟨"c1", "n1", "10.0.0.1"⟩

def otherNode : ClientUpdate := ⟨"c1", "n2", "10.0.0.2"⟩

theorem clusterToNodeIDMap_refines_otherNode : ∃ t,
    run (mapWorld id) (forM [firstUpdate, otherNode] ClientUpdate.code) emptyMap.state = (.ok (), t) ∧
      (run (mapWorld id) (getClientToUseForNodeID "c1" "n1") t).1 = .ok "10.0.0.1" := by
  have hempty : Represents ⟨fun _ => .fresh, ⟨[], [], []⟩, fun _ _ => none, fun _ => ⟨none, []⟩⟩
      emptyMap.state := fun _ => ⟨[], ⟨rfl, List.nodup_nil⟩, fun _ => rfl⟩
  obtain ⟨t, ht, hread⟩ := clusterToNodeIDMap_refines id hempty [firstUpdate, otherNode]
  exact ⟨t, ht, (hread _ _ _).2 (by decide)⟩

def otherCluster : ClientUpdate := ⟨"c2", "n1", "10.0.0.1"⟩

def sideBySide (a b : ClientUpdate) : List (Move ClientUpdate Err) :=
  [.start a, .start b, .serve 0, .serve 1, .serve 0, .serve 1, .serve 0, .serve 1, .serve 0, .serve 0]

theorem updateClusterToNodeIDMap_kept_otherCluster :
    (mapSystem id).Along (System.OneByOne ClientUpdate.clusterName)
      (sideBySide firstUpdate otherCluster) emptyMap ∧
    (run (mapWorld id) (getClientToUseForNodeID "c1" "n1")
      ((mapSystem id).play (sideBySide firstUpdate otherCluster) emptyMap).state).1 =
        .ok "10.0.0.1" := by
  have halong : (mapSystem id).Along (System.OneByOne ClientUpdate.clusterName)
      (sideBySide firstUpdate otherCluster) emptyMap := by decide
  have hlog : ((mapSystem id).play (sideBySide firstUpdate otherCluster) emptyMap).log =
      [.started firstUpdate, .started otherCluster, .finished firstUpdate (.ok ()),
        .finished otherCluster (.ok ())] := rfl
  refine ⟨halong, (updateClusterToNodeIDMap_kept id rfl halong "c1" ?_).2
    firstUpdate (.ok ()) ?_ rfl ?_⟩
  · exact List.forall_mem_nil _
  · rw [hlog]
    simp
  intro u r hu hcluster _
  rw [hlog] at hu
  simp only [List.mem_cons, reduceCtorEq, Event.finished.injEq, List.not_mem_nil, or_false,
    false_or] at hu
  rcases hu with ⟨rfl, -⟩ | ⟨rfl, -⟩
  · rfl
  · exact absurd hcluster (by decide)

/-- Two calls that both find no entry for the cluster: the one that stores first is lost. -/
theorem updateClusterToNodeIDMap_lost :
    ((mapSystem id).play (sideBySide firstUpdate otherNode) emptyMap).running = [] ∧
    (run (mapWorld id) (getClientToUseForNodeID "c1" "n1")
      ((mapSystem id).play (sideBySide firstUpdate otherNode) emptyMap).state).1 =
      .error (.plain "node id to client map not found for nodeID 'n1' in in cluster to nodeID map") ∧
    (run (mapWorld id) (getClientToUseForNodeID "c1" "n2")
      ((mapSystem id).play (sideBySide firstUpdate otherNode) emptyMap).state).1 =
        .ok "10.0.0.2" := by
  refine ⟨rfl, ?_, ?_⟩
  · decide
  · decide

end IsiService
end CsiPowerscale
