import CsiPowerscale.Publish

namespace CsiPowerscale
open GoLib

namespace CsiUtils

/-- A `net.Addr`, by its type. -/
inductive NetAddr
  | ipNet (v : IPNet)
  | ipAddr (ip : List UInt8)
  | other

def extractIPFromAddr : NetAddr → List UInt8
  | .ipNet v => v.ip
  | .ipAddr ip => ip
  | .other => []

/-- `ParseCIDR` and `Contains` of the package `net`. -/
structure NetPackage (N : Type) where
  parseCIDR : Str → Option N
  contains : N → List UInt8 → Bool

variable {N : Type} (net : NetPackage N) (interfaceAddrs : Except Err (List NetAddr))

def noValidNetworks (allowedNetworks : List Str) : Err :=
  .plain (sprintf ["no valid networks in allowedNetworks ", fmtList allowedNetworks])

def firstClientIP (allowedNetworks : List Str) (parsedNetworks : List N) :
    List NetAddr → List Str → Except Err Str
  | [], discoveredIPs => .error (.plain (sprintf [
      "no valid IP address found matching against allowedNetworks ", fmtList allowedNetworks,
      "; discovered IPs: ", fmtList discoveredIPs]))
  | addr :: addrs, discoveredIPs =>
    match to4 (extractIPFromAddr addr) with
    | none => firstClientIP allowedNetworks parsedNetworks addrs discoveredIPs
    | some ip =>
      if parsedNetworks.any fun cidrNet => net.contains cidrNet (extractIPFromAddr addr) then
        .ok (dotted ip)
      else firstClientIP allowedNetworks parsedNetworks addrs (discoveredIPs ++ [dotted ip])

def getNFSClientIP : Option (List Str) → Except Err Str
  | none => .error (.plain "allowedNetworks parameter cannot be nil")
  | some allowedNetworks =>
    let parsedNetworks := allowedNetworks.filterMap net.parseCIDR
    if parsedNetworks.isEmpty then .error (noValidNetworks allowedNetworks)
    else
      match interfaceAddrs with
      | .error e => .error e
      | .ok addrs => firstClientIP net allowedNetworks parsedNetworks addrs []

def allClientIPs (parsedNetworks : List N) : List NetAddr → List Str → List Str
  | [], ips => ips
  | addr :: addrs, ips =>
    match to4 (extractIPFromAddr addr) with
    | none => allClientIPs parsedNetworks addrs ips
    | some ip =>
      if parsedNetworks.any fun cidrNet => net.contains cidrNet (extractIPFromAddr addr) then
        allClientIPs parsedNetworks addrs (ips ++ [dotted ip])
      else allClientIPs parsedNetworks addrs ips

def getAllNFSClientIPs (allowedNetworks : Option (List Str)) : Except Err (List Str) :=
  let allowedNetworks := allowedNetworks.getD []
  let parsedNetworks := allowedNetworks.filterMap net.parseCIDR
  if parsedNetworks.isEmpty then .error (noValidNetworks allowedNetworks)
  else
    match interfaceAddrs with
    | .error e => .error e
    | .ok addrs =>
      let ips := allClientIPs net parsedNetworks addrs []
      if ips = [] then .error (.plain (sprintf [
        "no valid IP address found matching against allowedNetworks ", fmtList allowedNetworks]))
      else .ok ips

def allowed (nets : List Str) (ip : List UInt8) : Bool :=
  nets.any fun cidr => (net.parseCIDR cidr).any fun n => net.contains n ip

def clientIP (nets : List Str) (addr : NetAddr) : Option Str :=
  if allowed net nets (extractIPFromAddr addr) then (to4 (extractIPFromAddr addr)).map dotted else none

variable {net interfaceAddrs} {nets : List Str}

theorem any_parsedNetworks : ((nets.filterMap net.parseCIDR).any fun n => net.contains n ip) =
    allowed net nets ip := by
  rw [List.any_filterMap, allowed]
  refine congrArg nets.any (funext fun cidr => ?_)
  cases net.parseCIDR cidr <;> rfl

theorem clientIPs_of_isEmpty (h : (nets.filterMap net.parseCIDR).isEmpty = true)
    (addrs : List NetAddr) : addrs.filterMap (clientIP net nets) = [] := by
  refine List.filterMap_eq_nil_iff.2 fun addr _ => if_neg ?_
  rw [← any_parsedNetworks, List.isEmpty_iff.1 h]
  exact Bool.false_ne_true

theorem firstClientIP_iff (addrs : List NetAddr) (discoveredIPs : List Str) :
    firstClientIP net nets (nets.filterMap net.parseCIDR) addrs discoveredIPs = .ok ip ↔
      (addrs.filterMap (clientIP net nets)).head? = some ip := by
  induction addrs generalizing discoveredIPs with
  | nil => exact iff_of_false (by rintro ⟨⟩) (by rintro ⟨⟩)
  | cons addr addrs ih =>
    rw [firstClientIP, List.filterMap_cons, clientIP, any_parsedNetworks]
    cases to4 (extractIPFromAddr addr) with
    | none => simpa using ih discoveredIPs
    | some v =>
      cases allowed net nets (extractIPFromAddr addr) with
      | true => simp
      | false => simpa using ih _

theorem allClientIPs_eq (addrs : List NetAddr) (ips : List Str) :
    allClientIPs net (nets.filterMap net.parseCIDR) addrs ips =
      ips ++ addrs.filterMap (clientIP net nets) := by
  induction addrs generalizing ips with
  | nil => exact (List.append_nil ips).symm
  | cons addr addrs ih =>
    rw [allClientIPs, List.filterMap_cons, clientIP, any_parsedNetworks]
    cases to4 (extractIPFromAddr addr) with
    | none => simpa using ih ips
    | some v =>
      cases allowed net nets (extractIPFromAddr addr) with
      | true => simpa using ih (ips ++ [dotted v])
      | false => simpa using ih ips

theorem getNFSClientIP_iff {allowedNetworks : Option (List Str)} :
    getNFSClientIP net interfaceAddrs allowedNetworks = .ok ip ↔ ∃ nets addrs,
      allowedNetworks = some nets ∧ interfaceAddrs = .ok addrs ∧
        (addrs.filterMap (clientIP net nets)).head? = some ip := by
  cases allowedNetworks with
  | none => simp [getNFSClientIP]
  | some nets =>
    unfold getNFSClientIP
    dsimp only
    split
    · next hempty =>
      refine iff_of_false (by rintro ⟨⟩) ?_
      rintro ⟨_, addrs, ⟨⟩, -, hhead⟩
      rw [clientIPs_of_isEmpty hempty] at hhead
      cases hhead
    cases interfaceAddrs with
    | error e => simp
    | ok addrs => simp [firstClientIP_iff]

theorem getAllNFSClientIPs_iff {allowedNetworks : Option (List Str)} :
    getAllNFSClientIPs net interfaceAddrs allowedNetworks = .ok ips ↔ ips ≠ [] ∧ ∃ nets addrs,
      allowedNetworks = some nets ∧ interfaceAddrs = .ok addrs ∧
        ips = addrs.filterMap (clientIP net nets) := by
  unfold getAllNFSClientIPs
  cases allowedNetworks with
  | none => simp
  | some nets =>
    dsimp only [Option.getD_some]
    split
    · next hempty =>
      refine iff_of_false (by rintro ⟨⟩) ?_
      rintro ⟨hne, _, addrs, ⟨⟩, -, rfl⟩
      exact hne (clientIPs_of_isEmpty hempty addrs)
    cases interfaceAddrs with
    | error e => simp
    | ok addrs =>
      dsimp only
      rw [allClientIPs_eq, List.nil_append]
      split
      · next hnone =>
        refine iff_of_false (by rintro ⟨⟩) ?_
        rintro ⟨hne, _, _, ⟨⟩, ⟨⟩, rfl⟩
        exact hne hnone
      · next hsome =>
        constructor
        · rintro ⟨⟩
          exact ⟨hsome, nets, addrs, rfl, rfl, rfl⟩
        · rintro ⟨-, _, _, ⟨⟩, ⟨⟩, rfl⟩
          rfl

/-- The two functions succeed together, one with the first of the addresses that the other returns:
the IPv4 addresses of the host on a valid network, in its order. -/
theorem clientIPs_agree (net : NetPackage N) (interfaceAddrs : Except Err (List NetAddr))
    (allowedNetworks : Option (List Str)) :
    ((∃ ip, getNFSClientIP net interfaceAddrs allowedNetworks = .ok ip) ↔
      ∃ ips, getAllNFSClientIPs net interfaceAddrs allowedNetworks = .ok ips) ∧
    (∀ ip ips, getNFSClientIP net interfaceAddrs allowedNetworks = .ok ip →
      getAllNFSClientIPs net interfaceAddrs allowedNetworks = .ok ips → ips.head? = some ip) ∧
    ∀ ips, getAllNFSClientIPs net interfaceAddrs allowedNetworks = .ok ips ↔ ips ≠ [] ∧
      ∃ nets addrs, allowedNetworks = some nets ∧ interfaceAddrs = .ok addrs ∧
        ips = addrs.filterMap (clientIP net nets) := by
  refine ⟨?_, ?_, fun ips => getAllNFSClientIPs_iff⟩
  · simp only [getNFSClientIP_iff, getAllNFSClientIPs_iff]
    constructor
    · rintro ⟨ip, nets, addrs, hnets, haddrs, hhead⟩
      have hne := List.ne_nil_of_mem (List.mem_of_mem_head? hhead)
      exact ⟨_, hne, nets, addrs, hnets, haddrs, rfl⟩
    · rintro ⟨ips, hne, nets, addrs, hnets, haddrs, rfl⟩
      exact ⟨_, nets, addrs, hnets, haddrs, List.head?_eq_some_head hne⟩
  · intro ip ips hone hall
    obtain ⟨nets, addrs, rfl, rfl, hhead⟩ := getNFSClientIP_iff.1 hone
    obtain ⟨-, _, _, ⟨⟩, ⟨⟩, rfl⟩ := getAllNFSClientIPs_iff.1 hall
    exact hhead

end CsiUtils

end CsiPowerscale
