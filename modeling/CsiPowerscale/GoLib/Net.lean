import CsiPowerscale.GoLib.Strings

namespace GoLib

variable (s : Str)

/-- One field of a dotted IPv4 address: at most 255 and without a leading zero. -/
def isIPv4Field : Bool :=
  match parseDigits s with
  | some n => n ≤ 255 && (s.length = 1 || s.head? ≠ some 48)
  | none => false

def isIPv4 : Bool :=
  let fields := split s "."
  fields.length = 4 && fields.all isIPv4Field

def isHexDigit (c : UInt8) : Bool :=
  isDigit c || (97 ≤ c && c ≤ 102) || (65 ≤ c && c ≤ 70)

def isIPv6Group : Bool := s ≠ [] && s.length ≤ 4 && s.all isHexDigit

/-- The number of 16-bit groups of a run; only its last one may be a dotted IPv4 address, which
counts for two. `none` for a malformed run. -/
def ipv6Run (last : Bool) : List Str → Option Nat
  | [] => some 0
  | [g] => if isIPv6Group g then some 1 else if last && isIPv4 g then some 2 else none
  | g :: h :: gs => if isIPv6Group g then (ipv6Run last (h :: gs)).map (· + 1) else none

def ipv6Groups : List Str := if s = [] then [] else split s ":"

/-- An IPv6 address without a zone: eight groups, or fewer around one `::`. -/
def isIPv6 : Bool :=
  match cut "::" s with
  | none => ipv6Run true (split s ":") = some 8
  | some (a, b) =>
    match ipv6Run false (ipv6Groups a), ipv6Run true (ipv6Groups b) with
    | some m, some n => m + n < 8
    | _, _ => false

/-- `net.ParseIP(s) != nil`: the first dot, colon or percent sign tells the kind of address. -/
def isIP : Bool :=
  match s.find? fun c => c = 46 || c = 58 || c = 37 with
  | some c => if c = 46 then isIPv4 s else if c = 58 then isIPv6 s else false
  | none => false

structure IPNet where
  ip : List UInt8
  mask : List UInt8
  deriving DecidableEq

/-- `IP.To4`. -/
def to4 (ip : List UInt8) : Option (List UInt8) :=
  if ip.length = 4 then some ip
  else if ip.length = 16 ∧ ip.take 12 = List.replicate 10 0 ++ [255, 255] then some (ip.drop 12)
  else none

def dotted (ip : List UInt8) : Str := joinWith "." (ip.map fun b => natToStr b.toNat)

def leadingOnes (b : UInt8) : Option Nat := [0, 128, 192, 224, 240, 248, 252, 254].idxOf? b

def simpleMaskLength : List UInt8 → Option Nat
  | [] => some 0
  | b :: bs =>
    if b = 255 then (simpleMaskLength bs).map (· + 8)
    else if bs.all (· = 0) then leadingOnes b else none

def hexDigit (n : UInt8) : UInt8 := if n < 10 then 48 + n else 87 + n

/-- `IPMask.String`. -/
def maskString (mask : List UInt8) : Str :=
  if mask = [] then "<nil>" else mask.flatMap fun b => [hexDigit (b / 16), hexDigit (b % 16)]

def mask4 (mask : List UInt8) : Option (List UInt8) :=
  if mask.length = 4 then some mask
  else if mask.length = 16 then some (mask.drop 12)
  else none

def netString (ip mask : List UInt8) : Str :=
  match mask4 mask with
  | none => "<nil>"
  | some m =>
    match simpleMaskLength m with
    | some n => sprintf [dotted ip, "/", natToStr n]
    | none => sprintf [dotted ip, "/", maskString m]

def parseDotted : Option (List UInt8) :=
  if isIPv4 s then some ((split s ".").map fun f => UInt8.ofNat ((parseDigits f).getD 0)) else none

/-- `CIDRMask(n, 32)`. -/
def cidrMask (n : Nat) : List UInt8 :=
  (List.range 4).map fun i => UInt8.ofNat (256 - 2 ^ (8 - min 8 (n - 8 * i)))

def network (ip : List UInt8) (n : Nat) : List UInt8 := List.zipWith (· &&& ·) ip (cidrMask n)

/-- `net.ParseCIDR` for networks of dotted addresses: the address and the length of the mask. -/
def parseCIDR : Option (List UInt8 × Nat) :=
  match cut "/" s with
  | some (addr, len) =>
    match parseDotted addr, parseDigits len with
    | some ip, some n => if n ≤ 32 then some (ip, n) else none
    | _, _ => none
  | none => none

def number (ip : List UInt8) : Nat := ip.foldl (fun n b => 256 * n + b.toNat) 0

def hexValue (c : UInt8) : Nat :=
  if isDigit c then c.toNat - 48 else if 97 ≤ c then c.toNat - 87 else c.toNat - 55

/-- The bytes of one group of an IPv6 address, which may be a dotted address. -/
def groupBytes (g : Str) : List UInt8 :=
  match parseDotted g with
  | some ip => ip
  | none =>
    let n := g.foldl (fun n c => 16 * n + hexValue c) 0
    [UInt8.ofNat (n / 256), UInt8.ofNat n]

def ipv6Bytes : List UInt8 :=
  match cut "::" s with
  | none => (split s ":").flatMap groupBytes
  | some (a, b) =>
    let front := (ipv6Groups a).flatMap groupBytes
    let back := (ipv6Groups b).flatMap groupBytes
    front ++ List.replicate (16 - front.length - back.length) 0 ++ back

def v4InV6 : List UInt8 := List.replicate 10 0 ++ [255, 255]

/-- `net.ParseIP`: sixteen bytes, also for a dotted address. -/
def parseIP : Option (List UInt8) :=
  match parseDotted s with
  | some ip => some (v4InV6 ++ ip)
  | none => if isIPv6 s then some (ipv6Bytes s) else none

/-- `net.ParseCIDR`: the address and the length of the mask. A network of IPv4-mapped addresses is
one of IPv4 addresses to `Contains`. -/
def parseNet : Option (List UInt8 × Nat) :=
  match cut "/" s with
  | some (addr, len) =>
    match parseIP addr, parseDigits len with
    | some ip, some n =>
      if isIPv4 addr then if n ≤ 32 then some (ip.drop 12, n) else none
      else if 128 < n then none
      else
        match to4 ip with
        | some ip4 => some (if 96 ≤ n then (ip4, n - 96) else (ip, n))
        | none => some (ip, n)
    | _, _ => none
  | none => none

/-- `net.ParseCIDR` and `Contains` of a parsed address. -/
def ipInCIDR (ip cidr : Str) : Bool :=
  match parseIP ip, parseNet cidr with
  | some a, some (b, n) =>
    let a := (to4 a).getD a
    a.length = b.length && number a / 2 ^ (8 * b.length - n) = number b / 2 ^ (8 * b.length - n)
  | _, _ => false

example : ipInCIDR "10.1.2.3" "10.1.0.0/16" = true := by decide +kernel
example : ipInCIDR "10.1.2.3" "::ffff:10.1.0.0/112" = true := by decide +kernel
example : ipInCIDR "fe80::1:2" "fe80::/64" = true := by decide +kernel
example : ipInCIDR "10.1.2.3" "::/0" = false := by decide +kernel

/-- The IPv4 address is in the network: the first bits are the same. -/
def LiesIn (ip : List UInt8) (cidr : Str) : Prop :=
  ∃ b n, parseNet cidr = some (b, n) ∧ b.length = 4 ∧
    number ip / 2 ^ (32 - n) = number b / 2 ^ (32 - n)

theorem split_joinWith {c : UInt8} (xs : List Str) (hne : xs ≠ []) (h : ∀ x ∈ xs, c ∉ x) :
    split (joinWith [c] xs) [c] = xs := by
  induction xs with
  | nil => exact absurd rfl hne
  | cons x ys ih =>
    obtain ⟨hx, hys⟩ := List.forall_mem_cons.1 h
    have hsep : Separable [c] x := separable_of_not_mem hx
    cases ys with
    | nil => exact split_last hsep (List.cons_ne_nil c [])
    | cons y zs =>
      rw [joinWith, List.append_assoc, split_separable hsep (List.cons_ne_nil c []),
        ih (List.cons_ne_nil y zs) hys]

theorem not_mem_natToStr (hc : isDigit c = false) (n : Nat) : c ∉ natToStr n := by
  intro h
  rw [natToStr_digits h] at hc
  cases hc

theorem mem_dotted {ip : List UInt8} (h : c ∈ dotted ip) : isDigit c = true ∨ c = 46 := by
  unfold dotted at h
  induction ip with
  | nil => cases h
  | cons b bs ih =>
    cases bs with
    | nil => exact .inl (natToStr_digits h)
    | cons d ds =>
      rw [List.map_cons, List.map_cons, joinWith, List.mem_append, List.mem_append] at h
      rcases h with (h | h) | h
      · exact .inl (natToStr_digits h)
      · exact .inr (List.mem_singleton.1 h)
      · exact ih h

theorem split_dotted (h : ip.length = 4) :
    split (dotted ip) "." = ip.map fun b => natToStr b.toNat := by
  refine split_joinWith _ (fun hnil => ?_) fun x hx => ?_
  · rw [List.map_eq_nil_iff] at hnil
    subst hnil
    cases h
  · obtain ⟨b, -, rfl⟩ := List.mem_map.1 hx
    exact not_mem_natToStr (by decide) _

theorem isIPv4Field_natToStr (b : UInt8) : isIPv4Field (natToStr b.toNat) = true := by
  have hall : ∀ n : Fin 256, isIPv4Field (natToStr n) = true := by decide +kernel
  exact hall ⟨b.toNat, b.toNat_lt⟩

theorem isIPv4_dotted (h : ip.length = 4) : isIPv4 (dotted ip) = true := by
  rw [isIPv4, split_dotted h]
  simp [h, isIPv4Field_natToStr]

theorem parseDotted_dotted (h : ip.length = 4) : parseDotted (dotted ip) = some ip := by
  rw [parseDotted, if_pos (isIPv4_dotted h), split_dotted h, List.map_map]
  simp [Function.comp_def, parseDigits_natToStr]

theorem to4_v4InV6 (h : ip.length = 4) : to4 (v4InV6 ++ ip) = some ip := by
  have hlen : (v4InV6 ++ ip).length = 16 := by simp [v4InV6, h]
  rw [to4, if_neg (by omega), if_pos ⟨hlen, rfl⟩]
  rfl

theorem ipInCIDR_dotted (h : ip.length = 4) (cidr : Str) :
    ipInCIDR (dotted ip) cidr = true ↔ LiesIn ip cidr := by
  unfold ipInCIDR LiesIn
  rw [parseIP, parseDotted_dotted h]
  cases parseNet cidr with
  | none => simp
  | some x =>
    obtain ⟨b, n⟩ := x
    simp only [to4_v4InV6 h, Option.getD_some, h, Bool.and_eq_true, decide_eq_true_eq,
      Option.some.injEq, Prod.mk.injEq]
    constructor
    · rintro ⟨hlen, heq⟩
      rw [← hlen] at heq
      exact ⟨b, n, ⟨rfl, rfl⟩, hlen.symm, heq⟩
    · rintro ⟨_, _, ⟨rfl, rfl⟩, hlen, heq⟩
      rw [hlen]
      exact ⟨rfl, heq⟩

theorem length_to4 (h : to4 v = some ip) : ip.length = 4 := by
  unfold to4 at h
  split at h
  · next hlen => exact Option.some.inj h ▸ hlen
  split at h
  · next hlen =>
    rw [← Option.some.inj h, List.length_drop, hlen.1]
  · cases h

theorem simpleMaskLength_le (h : simpleMaskLength m = some n) : n ≤ 8 * m.length := by
  induction m generalizing n with
  | nil =>
    cases h
    exact Nat.zero_le _
  | cons b bs ih =>
    rw [simpleMaskLength] at h
    split at h
    · obtain ⟨k, hk, rfl⟩ := Option.map_eq_some_iff.1 h
      have hle := ih hk
      rw [List.length_cons]
      omega
    split at h
    · obtain ⟨hlt, -⟩ := List.findIdx?_eq_some_iff_getElem.1 h
      have hlt : n < 8 := hlt
      rw [List.length_cons]
      omega
    · cases h

theorem parseCIDR_text (h : ip.length = 4) (hn : n ≤ 32) :
    parseCIDR (sprintf [dotted ip, "/", natToStr n]) = some (ip, n) := by
  have hcut : cut "/" (dotted ip ++ ("/" ++ natToStr n)) = some (dotted ip, natToStr n) := by
    refine cut_append _ _ _ (separable_of_not_mem fun hmem => ?_)
    rcases mem_dotted hmem with hd | hd
    · exact absurd hd (by decide)
    · exact absurd hd (by decide)
  have htext : sprintf [dotted ip, "/", natToStr n] = dotted ip ++ ("/" ++ natToStr n) := by
    simp [sprintf]
  rw [parseCIDR, htext, hcut]
  simp only [parseDotted_dotted h, parseDigits_natToStr, if_pos hn]

example : parseCIDR (netString [10, 1, 2, 3] [255, 255, 0, 0]) = some ([10, 1, 2, 3], 16) := by decide

end GoLib
