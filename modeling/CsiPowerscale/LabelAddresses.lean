import Mathlib.Data.List.Pairwise
import CsiPowerscale.NodeLabels

namespace CsiPowerscale
open GoLib Effects Effects.Prog

def Addr.ipv4 : Addr → Option (List UInt8 × Nat)
  | .other => none
  | .ipNet v => (to4 v.ip).bind fun ip => ((mask4 v.mask).bind simpleMaskLength).map fun n => (ip, n)

def UsableAt (addrs : List Addr) (nets : List Str) (ip : List UInt8) (n : Nat) : Prop :=
  (∃ a ∈ addrs, a.ipv4 = some (ip, n)) ∧ ip.head? ≠ some 127 ∧ ∃ cidr ∈ nets, LiesIn ip cidr

def Usable (addrs : List Addr) (nets : List Str) (s : Str) : Prop :=
  ∃ ip n, UsableAt addrs nets ip n ∧ s = dotted ip

/-- A successful answer has exactly these, once each. -/
def Exact (member : Str → Prop) : Except Err (List Str) → Prop
  | .ok ips => ips.Nodup ∧ ips ≠ [] ∧ ∀ s, s ∈ ips ↔ member s
  | .error _ => ∀ s, ¬ member s

def labelNet (ip : List UInt8) (n : Nat) : Str :=
  joinWith "-" [dotted (network ip n), natToStr n, dotted ip]

def labelKey (ip : List UInt8) (n : Nat) : Str := pluginName ++ "/az-" ++ labelNet ip n

theorem ipv4_eq_some {a : Addr} (h : a.ipv4 = some (ip, n)) : ∃ v m, a = .ipNet v ∧
    to4 v.ip = some ip ∧ mask4 v.mask = some m ∧ simpleMaskLength m = some n := by
  cases a with
  | other => cases h
  | ipNet v =>
    obtain ⟨ip', hip, h⟩ := Option.bind_eq_some_iff.1 h
    obtain ⟨n', hn, h⟩ := Option.map_eq_some_iff.1 h
    obtain ⟨m, hm, hn⟩ := Option.bind_eq_some_iff.1 hn
    cases h
    exact ⟨v, m, rfl, hip, hm, hn⟩

theorem length_ipv4 {a : Addr} (h : a.ipv4 = some (ip, n)) : ip.length = 4 := by
  obtain ⟨v, m, -, hip, -⟩ := ipv4_eq_some h
  exact length_to4 hip

theorem length_mask4 (h : mask4 mask = some m) : m.length = 4 := by
  unfold mask4 at h
  split at h
  · next hlen => exact Option.some.inj h ▸ hlen
  · split at h
    · next hlen => rw [← Option.some.inj h, List.length_drop, hlen]
    · cases h

theorem replaceByte_of_not_mem (h : old ∉ s) (new : UInt8) : replaceByte s old new = s := by
  refine (List.map_congr_left (g := id) fun c hc => if_neg ?_).trans (List.map_id s)
  rintro rfl
  exact h hc

theorem not_mem_dotted (hc : isDigit c = false) (hdot : c ≠ 46) (ip : List UInt8) :
    c ∉ dotted ip := by
  intro h
  rcases mem_dotted h with hd | hd
  · rw [hd] at hc
    cases hc
  · exact hdot hd

theorem addrLabel_ipv4 {a : Addr} (h : a.ipv4 = some (ip, n)) :
    addrLabel a = if ip.head? = some 127 then none else some (labelKey ip n) := by
  obtain ⟨v, m, rfl, hip, hm, hn⟩ := ipv4_eq_some h
  have hlen := length_to4 hip
  have hle : n ≤ 32 := by
    have hle := simpleMaskLength_le hn
    have hfour := length_mask4 hm
    omega
  have hnet : netString ip v.mask = sprintf [dotted ip, "/", natToStr n] := by
    simp only [netString, hm, hn]
  have hkey : sprintf [pluginName, "/az-", replaceByte
      (sprintf [dotted (network ip n), "/", natToStr n]) 47 45, "-", dotted ip] = labelKey ip n := by
    have hdotted := replaceByte_of_not_mem (not_mem_dotted (c := 47) rfl (by decide)
      (network ip n)) 45
    have hnat := replaceByte_of_not_mem (not_mem_natToStr (c := 47) rfl n) 45
    have hsplit : replaceByte (sprintf [dotted (network ip n), "/", natToStr n]) 47 45 =
        dotted (network ip n) ++ ("-" ++ natToStr n) := by
      have htext : sprintf [dotted (network ip n), "/", natToStr n] =
          dotted (network ip n) ++ ([47] ++ natToStr n) := by
        simp only [sprintf, List.flatten_cons, List.flatten_nil, List.append_nil]
        rfl
      rw [htext, replaceByte, List.map_append, List.map_append]
      exact congrArg₂ (· ++ ·) hdotted (congrArg (([45] : Str) ++ ·) hnat)
    rw [hsplit]
    simp [sprintf, labelKey, labelNet, joinWith]
  rw [addrLabel, hip]
  dsimp only
  split
  · rfl
  · rw [hnet, parseCIDR_text hlen hle]
    exact congrArg some hkey

theorem dotted_ne_nil (h : ip ≠ []) : dotted ip ≠ [] := by
  cases ip with
  | nil => exact absurd rfl h
  | cons b bs =>
    obtain ⟨c, cs, hc, -⟩ := natToStr_cons b.toNat
    cases bs with
    | nil => simp [dotted, joinWith, hc]
    | cons d ds => simp [dotted, joinWith, hc]

theorem split_labelNet (ip : List UInt8) (n : Nat) :
    split (labelNet ip n) "-" = [dotted (network ip n), natToStr n, dotted ip] := by
  refine split_joinWith (c := 45) [dotted (network ip n), natToStr n, dotted ip]
    (List.cons_ne_nil _ _) fun x hx => ?_
  simp only [List.mem_cons, List.not_mem_nil, or_false] at hx
  rcases hx with rfl | rfl | rfl
  · exact not_mem_dotted rfl (by decide) _
  · exact not_mem_natToStr rfl n
  · exact not_mem_dotted rfl (by decide) _

theorem azLabelIP_labelKey (h : ip.length = 4) (n : Nat) :
    azLabelIP (labelKey ip n) = some (dotted ip) := by
  have hdotted (ip : List UInt8) : (dotted ip).all (fun c => isDigit c || c = 46) = true := by
    refine List.all_eq_true.2 fun c hc => ?_
    simpa using mem_dotted hc
  have hnet : dotted (network ip n) ≠ [] := by
    refine dotted_ne_nil (List.ne_nil_of_length_pos ?_)
    simp [network, cidrMask, h]
  have hip : dotted ip ≠ [] := dotted_ne_nil (List.ne_nil_of_length_pos (by omega))
  have hlen : natToStr n ≠ [] := by
    obtain ⟨c, cs, hc, -⟩ := natToStr_cons n
    rw [hc]
    exact List.cons_ne_nil c cs
  have hdigits : (natToStr n).all isDigit = true :=
    List.all_eq_true.2 fun c hc => natToStr_digits hc
  have hstart : startsWith (labelKey ip n) (pluginName ++ "/az-") = true :=
    List.isPrefixOf_iff_prefix.2 ⟨labelNet ip n, rfl⟩
  rw [azLabelIP, if_pos hstart, labelKey, List.drop_left, split_labelNet]
  simp [hdotted, hnet, hip, hlen, hdigits]

theorem labelKey_injective (h : labelKey ip n = labelKey ip n') : n = n' := by
  have hsplit := split_labelNet ip n
  rw [List.append_cancel_left h, split_labelNet] at hsplit
  exact (natToStr_injective (List.cons.inj (List.cons.inj hsplit).2).1).symm

theorem dotted_injective (h : ip.length = 4) (h' : ip'.length = 4) (heq : dotted ip = dotted ip') :
    ip = ip' := by
  have hparse := parseDotted_dotted h
  rw [heq, parseDotted_dotted h'] at hparse
  exact (Option.some.inj hparse).symm

theorem isAzLabel_of_azLabelIP (h : azLabelIP k = some s) : isAzLabel k = true := by
  unfold azLabelIP at h
  dsimp only at h
  split at h
  · next hstart =>
    rw [isAzLabel]
    simpa [sprintf] using hstart
  · cases h

theorem nodup_filterMap_iff {l : List α} {f : α → Option β} (h : l.Nodup) : (l.filterMap f).Nodup ↔
    ∀ k ∈ l, ∀ k' ∈ l, ∀ s, f k = some s → f k' = some s → k = k' := by
  rw [List.Nodup, List.pairwise_filterMap]
  constructor
  · intro hp k hk k' hk' s hs hs'
    by_contra hne
    have hsymm : Std.Symm fun a a' => ∀ b, f a = some b → ∀ b', f a' = some b' → b ≠ b' :=
      ⟨fun x y hxy b hb b' hb' heq => hxy b' hb' b hb heq.symm⟩
    exact hp.forall hk hk' hne s hs s hs' rfl
  · intro hinj
    refine h.pairwise_of_forall_ne fun k hk k' hk' hne s hs s' hs' heq => ?_
    subst heq
    exact hne (hinj k hk k' hk' s hs hs')

/-- No address lies in two of the networks. -/
def OneNetwork (addrs : List Addr) (nets : List Str) : Prop :=
  ∀ ip n n', UsableAt addrs nets ip n → UsableAt addrs nets ip n' → n = n'

namespace NodeService

section
variable {addrs : List Addr} {before after : Params} {labels nets : List Str}
  (hv4 : ∀ a ∈ addrs, a.ipv4.isSome = true) (hrec : Reconciled addrs before after)
  (hkeys : ∀ k, k ∈ labels ↔ (after.get? k).isSome = true)

def selected (nets : List Str) (k : Str) : Option Str :=
  (azLabelIP k).filter fun ip => nets.any fun cidr => ipInCIDR ip cidr

theorem allowedNetworkIPs_eq (labels nets : List Str) :
    allowedNetworkIPs labels nets = labels.filterMap (selected nets) := by
  rw [allowedNetworkIPs, labelIPs, List.filter_filterMap]
  rfl

include hv4 hrec hkeys

theorem selected_iff : k ∈ labels ∧ selected nets k = some s ↔
    ∃ ip n, UsableAt addrs nets ip n ∧ k = labelKey ip n ∧ s = dotted ip := by
  have hin (ip : List UInt8) (hip : ip.length = 4) :
      (nets.any fun cidr => ipInCIDR (dotted ip) cidr) = true ↔ ∃ cidr ∈ nets, LiesIn ip cidr := by
    rw [List.any_eq_true]
    simp only [ipInCIDR_dotted hip]
  constructor
  · rintro ⟨hk, hs⟩
    obtain ⟨hip, hnets⟩ := Option.filter_eq_some_iff.1 hs
    have haz := isAzLabel_of_azLabelIP hip
    have hhas : HasLabel addrs k := by
      by_contra hno
      have hget := (hkeys k).1 hk
      rw [hrec.absent k haz hno] at hget
      cases hget
    obtain ⟨a, ha, hlabel⟩ := hhas
    obtain ⟨⟨ip, n⟩, hv⟩ := Option.isSome_iff_exists.1 (hv4 a ha)
    rw [addrLabel_ipv4 hv] at hlabel
    split at hlabel
    · cases hlabel
    next hloop =>
    cases hlabel
    have hlen := length_ipv4 hv
    rw [azLabelIP_labelKey hlen] at hip
    cases hip
    exact ⟨ip, n, ⟨⟨a, ha, hv⟩, hloop, (hin ip hlen).1 hnets⟩, rfl, rfl⟩
  · rintro ⟨ip, n, ⟨⟨a, ha, hv⟩, hloop, hnets⟩, rfl, rfl⟩
    have hlen := length_ipv4 hv
    have hlabel := addrLabel_ipv4 hv
    rw [if_neg hloop] at hlabel
    refine ⟨(hkeys _).2 ?_, Option.filter_eq_some_iff.2 ⟨azLabelIP_labelKey hlen n, ?_⟩⟩
    · rw [hrec.present _ ⟨a, ha, hlabel⟩]
      rfl
    · exact (hin ip hlen).2 hnets

theorem mem_allowedNetworkIPs : s ∈ allowedNetworkIPs labels nets ↔ Usable addrs nets s := by
  rw [allowedNetworkIPs_eq, List.mem_filterMap]
  constructor
  · rintro ⟨k, hk⟩
    obtain ⟨ip, n, hu, -, hs⟩ := (selected_iff hv4 hrec hkeys).1 hk
    exact ⟨ip, n, hu, hs⟩
  · rintro ⟨ip, n, hu, hs⟩
    exact ⟨labelKey ip n, (selected_iff hv4 hrec hkeys).2 ⟨ip, n, hu, rfl, hs⟩⟩

theorem nodup_allowedNetworkIPs_iff (hlabels : labels.Nodup) :
    (allowedNetworkIPs labels nets).Nodup ↔ OneNetwork addrs nets := by
  have hsel {k s : Str} : k ∈ labels ∧ selected nets k = some s ↔ _ :=
    selected_iff hv4 hrec hkeys
  rw [allowedNetworkIPs_eq, nodup_filterMap_iff hlabels]
  constructor
  · intro h ip n n' hu hu'
    obtain ⟨hk, hs⟩ := hsel.2 ⟨ip, n, hu, rfl, rfl⟩
    obtain ⟨hk', hs'⟩ := hsel.2 ⟨ip, n', hu', rfl, rfl⟩
    exact labelKey_injective (h _ hk _ hk' _ hs hs')
  · intro h k hk k' hk' s hs hs'
    obtain ⟨ip, n, hu, rfl, rfl⟩ := hsel.1 ⟨hk, hs⟩
    obtain ⟨ip', n', hu', rfl, heq⟩ := hsel.1 ⟨hk', hs'⟩
    obtain ⟨a, -, ha⟩ := hu.1
    obtain ⟨a', -, ha'⟩ := hu'.1
    cases dotted_injective (length_ipv4 ha) (length_ipv4 ha') heq
    rw [h ip n n' hu hu']

theorem exact_getIps_iff {node : NodeID} (hlabels : labels.Nodup)
    (hn : parseNodeID nodeID = .ok node) (hd : d.labelsOf node.name = some labels) (noMatch : Str) :
    Exact (Usable addrs nets) (run (driver i) (Controller.getIpsFromLabels nodeID
      (fun labels => allowedNetworkIPs labels nets) noMatch) d).1 ↔ OneNetwork addrs nets := by
  rw [Controller.run_getIpsFromLabels hn, hd]
  dsimp only
  split
  · next hnil =>
    have hnone (s : Str) : ¬ Usable addrs nets s := by
      rw [← mem_allowedNetworkIPs hv4 hrec hkeys, hnil]
      exact List.not_mem_nil
    refine iff_of_true hnone fun ip n n' hu => ?_
    exact absurd ⟨ip, n, hu, rfl⟩ (hnone (dotted ip))
  · next hne =>
    rw [← nodup_allowedNetworkIPs_iff hv4 hrec hkeys hlabels]
    exact ⟨fun h => h.1, fun h => ⟨h, hne, fun s => mem_allowedNetworkIPs hv4 hrec hkeys⟩⟩

end

/-- With the labels of a node's IPv4 addresses, the usable ones are returned, or an error if there
are none; without repetitions if and only if none of them has two networks. -/
theorem label_addresses_iff (addrs : List Addr) (before after : Params) (labels : List Str)
    (svc : Service) (nodeID azNetwork : Str) (node : NodeID) (i : Nat) (d : Driver)
    (hv4 : ∀ a ∈ addrs, a.ipv4.isSome = true) (hrec : Reconciled addrs before after)
    (hkeys : ∀ k, k ∈ labels ↔ (after.get? k).isSome = true) (hlabels : labels.Nodup)
    (hn : parseNodeID nodeID = .ok node) (hd : d.labelsOf node.name = some labels) :
    (Exact (Usable addrs svc.allowedNetworks)
        (run (driver i) (Controller.getIpsFromAllowedNetworks svc nodeID) d).1 ↔
      OneNetwork addrs svc.allowedNetworks) ∧
    (Exact (Usable addrs [azNetwork])
        (run (driver i) (Controller.getIpsFromAZNetworkLabel nodeID azNetwork) d).1 ↔
      OneNetwork addrs [azNetwork]) := by
  refine ⟨exact_getIps_iff hv4 hrec hkeys hlabels hn hd _, ?_⟩
  have haz : (fun labels => azNetworkIPs labels azNetwork) =
      fun labels => allowedNetworkIPs labels [azNetwork] := by
    funext labels
    simp [azNetworkIPs, allowedNetworkIPs]
  rw [Controller.getIpsFromAZNetworkLabel, haz]
  exact exact_getIps_iff hv4 hrec hkeys hlabels hn hd _

def labelledDriver (labels : List Str) : Driver where
  arrays := fun _ => OneFS.fresh
  kube := ⟨[("node1", labels)], [], []⟩
  clients := fun _ _ => none
  locks := fun _ => ⟨none, []⟩

theorem label_addresses_two :
    Exact (Usable twoAddrs ["10.0.0.0/8"]) (run (driver 0) (Controller.getIpsFromAZNetworkLabel
      "node1=#=#=node1.local=#=#=10.1.2.3" "10.0.0.0/8")
      (labelledDriver (settledLabels.map Prod.fst))).1 := by
  have hrun : run (labelWorld (labelEnv (.ok ()))) (reconcileNodeAzLabels true) movedLabels =
      (.ok (), settledLabels) := by decide
  have hone {nets ip n} (h : UsableAt twoAddrs nets ip n) : n = 16 := by
    obtain ⟨⟨a, ha, hip⟩, hloop, -⟩ := h
    rcases List.mem_pair.1 ha with rfl | rfl
    · cases hip
      exact absurd rfl hloop
    · cases hip
      rfl
  refine (label_addresses_iff twoAddrs movedLabels settledLabels (settledLabels.map Prod.fst)
    oneCluster "node1=#=#=node1.local=#=#=10.1.2.3" "10.0.0.0/8" ⟨"node1", "node1.local", "10.1.2.3"⟩
    0 _ (by decide) ((reconciled_iff rfl hrun).2 (.inl rfl)) ?_ (by decide) (by decide) rfl).2.2 ?_
  · intro k
    rw [Params.get?, lookup_isSome]
  · intro ip n n' h h'
    rw [hone h, hone h']

/-- An address that is there with two networks has two labels, and is returned twice. -/
theorem label_addresses_twice :
    let addrs := [.ipNet ⟨[10, 1, 2, 3], [255, 255, 0, 0]⟩, .ipNet ⟨[10, 1, 2, 3], [255, 0, 0, 0]⟩]
    (run (driver 0) (Controller.getIpsFromAZNetworkLabel "node1=#=#=node1.local=#=#=10.1.2.3"
      "10.0.0.0/8") (labelledDriver ((labelsToAdd addrs).map Prod.fst))).1 =
      .ok ["10.1.2.3", "10.1.2.3"] := by
  decide +kernel

end NodeService

end CsiPowerscale
