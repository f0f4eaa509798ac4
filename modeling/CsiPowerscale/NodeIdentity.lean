import Mathlib.Data.List.Pairwise
import CsiPowerscale.GoLib.Collections
import CsiPowerscale.PublishRuns

namespace CsiPowerscale
open GoLib Effects Effects.Prog

def NodeID.joined (n : NodeID) : Str :=
  n.name ++ nodeIDSeparator ++ n.fqdn ++ nodeIDSeparator ++ n.ip

structure IdentityEnv where
  nodeID : Str
  nodeIP : Str
  fqdnByIP : Str → Except Err Str
  nfsClientIP : Except Err Str

namespace IdentityEnv

def getCSINodeID (env : IdentityEnv) : Except Err Str :=
  if env.nodeID ≠ [] then .ok env.nodeID else .error (.plain "cannot get node id")

def getCSINodeIP (env : IdentityEnv) : Except Err Str :=
  if env.nodeIP ≠ [] then .ok env.nodeIP else .error (.plain "cannot get node IP")

/-- The address that a node is known by. With one allowed network it is the management address only
if that is in the network. -/
def networkIP (env : IdentityEnv) (svc : Service) : Except Err Str :=
  if svc.allowedNetworks ≠ [] ∧ svc.allowedNetworksMode = .single then
    match env.getCSINodeIP with
    | .ok ip => if svc.allowedNetworks.any (ipInCIDR ip) then .ok ip else env.nfsClientIP
    | .error _ => env.nfsClientIP
  else env.getCSINodeIP

def nodeFQDN (env : IdentityEnv) (nodeIP : Str) : Str :=
  match env.fqdnByIP nodeIP with
  | .ok name => name
  | .error _ => nodeIP

def getPowerScaleNodeID (env : IdentityEnv) (svc : Service) : Except Err Str :=
  match env.networkIP svc with
  | .error e => .error e
  | .ok nodeIP =>
    match env.getCSINodeID with
    | .error e => .error e
    | .ok nodeID => .ok (NodeID.joined ⟨nodeID, env.nodeFQDN nodeIP, nodeIP⟩)

theorem getPowerScaleNodeID_joined (h : getPowerScaleNodeID env svc = .ok registered) :
    ∃ fqdn ip, registered = NodeID.joined ⟨env.nodeID, fqdn, ip⟩ := by
  unfold getPowerScaleNodeID getCSINodeID at h
  split at h
  · cases h
  split at h
  · cases h
  next hid =>
  split at hid
  · cases hid
    cases h
    exact ⟨_, _, rfl⟩
  · cases hid

end IdentityEnv

theorem mem_splitsAt (hsep : sep ≠ []) :
    (a, b) ∈ splitsAt sep s ↔ s = a ++ sep ++ b := by
  induction s generalizing a with
  | nil => simp [splitsAt, hsep]
  | cons c cs ih =>
    rw [splitsAt, List.mem_append, List.mem_map]
    constructor
    · rintro (h | ⟨⟨x, y⟩, hx, heq⟩)
      · split at h
        · next hp =>
          obtain ⟨t, ht⟩ := List.isPrefixOf_iff_prefix.1 hp
          obtain ⟨rfl, rfl⟩ := Prod.mk.inj (List.mem_singleton.1 h)
          rw [← ht, List.drop_left]
          rfl
        · cases h
      · cases heq
        rw [ih.1 hx]
        rfl
    · intro h
      cases a with
      | nil =>
        have hp : sep.isPrefixOf (c :: cs) = true := List.isPrefixOf_iff_prefix.2 ⟨b, h.symm⟩
        refine .inl ?_
        rw [if_pos hp, h]
        simp
      | cons d a =>
        cases h
        exact .inr ⟨(a, b), ih.2 rfl, rfl⟩

theorem splitsAt_pairwise (sep s : Str) :
    (splitsAt sep s).Pairwise fun x y => x.1.length < y.1.length := by
  induction s with
  | nil =>
    rw [splitsAt]
    split
    · exact List.pairwise_singleton _ _
    · exact .nil
  | cons c cs ih =>
    rw [splitsAt, List.pairwise_append]
    refine ⟨?_, ?_, ?_⟩
    · split
      · exact List.pairwise_singleton _ _
      · exact .nil
    · exact List.pairwise_map.2 (ih.imp fun h => by simpa using h)
    intro x hx y hy
    obtain ⟨z, -, rfl⟩ := List.mem_map.1 hy
    split at hx
    · rw [List.mem_singleton.1 hx]
      simp
    · cases hx

theorem findSome?_splitsAt {f : Str × Str → Option α} (hsep : sep ≠ [])
    (h : s = a ++ sep ++ b) (hf : f (a, b) = some r)
    (hlonger : ∀ c d, s = c ++ sep ++ d → a.length < c.length → f (c, d) = none) :
    (splitsAt sep s).reverse.findSome? f = some r := by
  obtain ⟨l₁, l₂, hl⟩ := List.append_of_mem ((mem_splitsAt hsep).2 h)
  have hpair := splitsAt_pairwise sep s
  rw [hl, List.pairwise_append, List.pairwise_cons] at hpair
  have hnone : l₂.reverse.findSome? f = none := by
    rw [List.findSome?_eq_none_iff]
    rintro ⟨c, d⟩ hx
    rw [List.mem_reverse] at hx
    have hmem : (c, d) ∈ splitsAt sep s := by
      rw [hl]
      exact List.mem_append_right _ (List.mem_cons_of_mem _ hx)
    exact hlonger c d ((mem_splitsAt hsep).1 hmem) (hpair.2.1.1 _ hx)
  rw [hl, List.reverse_append, List.reverse_cons, List.append_assoc, List.findSome?_append, hnone]
  simp [hf]

theorem separator_end (c d : Str) : (c ++ nodeIDSeparator ++ d)[c.length + 4]? = some 61 := by
  rw [List.append_assoc, List.getElem?_append_right (by omega)]
  simp [show nodeIDSeparator = [61, 35, 61, 35, 61] by decide]

theorem getElem?_within {u v : Str} (h : (61 : UInt8) ∉ v) (hlo : u.length ≤ i)
    (hhi : i < u.length + v.length) : (u ++ v ++ w)[i]? ≠ some 61 := by
  rw [List.append_assoc, List.getElem?_append_right hlo, List.getElem?_append_left (by omega)]
  intro heq
  exact h (List.mem_of_getElem? heq)

theorem length_le_of_split {u c : Str} (hv : 61 ∉ v)
    (h : u ++ nodeIDSeparator ++ v = c ++ nodeIDSeparator ++ d) : c.length ≤ u.length := by
  have hlen := congrArg List.length h
  have hfive : nodeIDSeparator.length = 5 := by decide
  simp only [List.length_append, hfive] at hlen
  by_contra hlt
  have hat := separator_end c d
  rw [← h, ← List.append_nil (u ++ nodeIDSeparator ++ v)] at hat
  exact getElem?_within hv (by simp [hfive]; omega) (by simp [hfive]; omega) hat

def secondSplit (b : Str) : Option (Str × Str) :=
  (splitsAt nodeIDSeparator b).reverse.find? fun x => x.1 ≠ [] ∧ x.2 ≠ []

theorem separator_ne_nil : nodeIDSeparator ≠ [] := by decide

theorem secondSplit_some (h : secondSplit s = some (c, d)) :
    s = c ++ nodeIDSeparator ++ d ∧ c ≠ [] ∧ d ≠ [] := by
  have hmem := List.mem_of_find?_eq_some h
  have hne := List.find?_some h
  rw [List.mem_reverse] at hmem
  exact ⟨(mem_splitsAt separator_ne_nil).1 hmem, by simpa using hne⟩

theorem secondSplit_joined (hf : fqdn ≠ []) (hi : ip ≠ []) (hip : (61 : UInt8) ∉ ip) :
    secondSplit (fqdn ++ nodeIDSeparator ++ ip) = some (fqdn, ip) := by
  rw [secondSplit, List.find?_eq_findSome?_guard]
  refine findSome?_splitsAt separator_ne_nil rfl (by simp [hf, hi]) fun c d heq hlt => ?_
  have := length_le_of_split hip heq
  omega

theorem parseNodeID_eq (s : Str) : parseNodeID s =
    match if (10 : UInt8) ∈ s then none else
      (splitsAt nodeIDSeparator s).reverse.findSome? fun x =>
        if x.1 = [] then none else (secondSplit x.2).map fun y => (⟨x.1, y.1, y.2⟩ : NodeID) with
    | some n => .ok n
    | none => .error (.plain (sprintf ["node ID '", s,
      "' cannot match the expected '^(.+)=#=#=(.+)=#=#=(.+)$' pattern"])) := rfl

theorem secondSplit_longer {n : NodeID} (hfqdn : 61 ∉ n.fqdn) (hip : 61 ∉ n.ip)
    (h : n.joined = c ++ nodeIDSeparator ++ d) (hlt : n.name.length < c.length) :
    secondSplit d = none := by
  have hfive : nodeIDSeparator.length = 5 := by decide
  cases hs : secondSplit d with
  | none => rfl
  | some x =>
    obtain ⟨hd, -, -⟩ := secondSplit_some (c := x.1) (d := x.2) hs
    have hlast : (c ++ nodeIDSeparator ++ x.1).length ≤
        (n.name ++ nodeIDSeparator ++ n.fqdn).length := by
      refine length_le_of_split (d := x.2) hip ?_
      rw [List.append_assoc (c ++ nodeIDSeparator), List.append_assoc (c ++ nodeIDSeparator), ← hd]
      exact h
    have hat := separator_end c d
    rw [← h, NodeID.joined, List.append_assoc (_ ++ n.fqdn)] at hat
    simp only [List.length_append, hfive] at hlast
    exact absurd hat (getElem?_within hfqdn (by simp [hfive]; omega) (by simp [hfive]; omega))

/-- The driver registers joined parts; what is joined is parsed into its parts, and what is parsed
is the join of the parts. -/
theorem nodeID_roundtrip :
    (∀ svc (env : IdentityEnv) registered, env.getPowerScaleNodeID svc = .ok registered →
      ∃ fqdn ip, registered = NodeID.joined ⟨env.nodeID, fqdn, ip⟩) ∧
    (∀ n : NodeID, n.name ≠ [] → n.fqdn ≠ [] → n.ip ≠ [] →
      10 ∉ n.name → 10 ∉ n.fqdn → 10 ∉ n.ip → 61 ∉ n.fqdn → 61 ∉ n.ip →
      parseNodeID n.joined = .ok n) ∧
    ∀ s n, parseNodeID s = .ok n → s = n.joined := by
  refine ⟨fun svc env registered h => IdentityEnv.getPowerScaleNodeID_joined h, ?_, ?_⟩
  · intro n hname hf hi hnl hnl' hnl'' hfqdn hip
    have hline : (10 : UInt8) ∉ n.joined := by
      have hsep : (10 : UInt8) ∉ nodeIDSeparator := by decide
      simp [NodeID.joined, hnl, hnl', hnl'', hsep]
    have hsplit : n.joined = n.name ++ nodeIDSeparator ++ (n.fqdn ++ nodeIDSeparator ++ n.ip) := by
      simp [NodeID.joined]
    rw [parseNodeID_eq, if_neg hline, findSome?_splitsAt (r := n) separator_ne_nil hsplit]
    · rw [if_neg hname, secondSplit_joined hf hi hip]
      rfl
    · intro c d h hlt
      simp [secondSplit_longer hfqdn hip h hlt]
  · intro s n h
    rw [parseNodeID_eq] at h
    split at h
    · next m hm =>
      cases h
      split at hm
      · cases hm
      obtain ⟨⟨a, b⟩, hmem, hab⟩ := List.exists_of_findSome?_eq_some hm
      rw [List.mem_reverse, mem_splitsAt separator_ne_nil] at hmem
      split at hab
      · cases hab
      obtain ⟨⟨c, d⟩, hcd, rfl⟩ := Option.map_eq_some_iff.1 hab
      have hb : b = c ++ nodeIDSeparator ++ d := (secondSplit_some hcd).1
      rw [hmem, hb]
      simp [NodeID.joined]
    · cases h

theorem nodeID_roundtrip_overlap :
    parseNodeID (NodeID.joined ⟨"node=#=", "#", "10.0.0.1"⟩) = .ok ⟨"node=#=", "#", "10.0.0.1"⟩ :=
  nodeID_roundtrip.2.1 ⟨"node=#=", "#", "10.0.0.1"⟩ (by decide) (by decide) (by decide) (by decide)
    (by decide) (by decide) (by decide) (by decide)

end CsiPowerscale
