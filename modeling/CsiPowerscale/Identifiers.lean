import Mathlib.Data.List.TakeWhile
import CsiPowerscale.Errors
import CsiPowerscale.OneFS

namespace CsiPowerscale
open GoLib

def volumeIDSeparator : Str := "=_=_="

def provisioningModeDirectory : Str := "directory"

def getNormalizedVolumeID (volName : Str) (exportID : Int) (accessZone clusterName : Str) : Str :=
  sprintf [volName, volumeIDSeparator, itoa exportID, volumeIDSeparator, accessZone,
    volumeIDSeparator, clusterName]

def getDirectoryBackedVolumeID (volName : Str) (exportID : Int) (accessZone clusterName : Str) :
    Str :=
  sprintf [volName, volumeIDSeparator, itoa exportID, volumeIDSeparator, accessZone,
    volumeIDSeparator, clusterName, volumeIDSeparator, provisioningModeDirectory]

structure VolumeID where
  volName : Str
  exportID : Int
  accessZone : Str
  clusterName : Str
  deriving DecidableEq

def parseNormalizedVolumeID (volID : Str) : Except Err VolumeID :=
  match split volID volumeIDSeparator with
  | volName :: exportID :: accessZone :: rest =>
    match parseInt64 exportID with
    | some n => .ok ⟨volName, n, accessZone, rest.headD []⟩
    | none => .error (.plain (atoiError exportID))
  | _ => .error (.plain (sprintf ["volume ID '", volID, "' cannot be split into tokens"]))

def parseVolumeIDWithMode (volID : Str) : Except Err (VolumeID × Str) :=
  (parseNormalizedVolumeID volID).map fun v => (v, (split volID volumeIDSeparator).getD 4 [])

def snapshotIDSeparator : Str := "=_=_="

structure SnapshotID where
  snapshotID : Str
  clusterName : Str
  accessZone : Str
  deriving DecidableEq

def getNormalizedSnapshotID (snapshotID clusterName accessZone : Str) : Str :=
  sprintf [snapshotID, snapshotIDSeparator, clusterName, snapshotIDSeparator, accessZone]

def parseNormalizedSnapshotID (snapID : Str) : Except Err SnapshotID :=
  match split snapID snapshotIDSeparator with
  | snapshotID :: clusterName :: accessZone :: _ => .ok ⟨snapshotID, clusterName, accessZone⟩
  | [_, _] => .error (.plain (sprintf ["access zone not found in snapshot ID '", snapID, "'"]))
  | [snapshotID] => .ok ⟨snapshotID, [], []⟩
  | [] => .error (.plain (sprintf ["snapshot ID '", snapID, "' cannot be split into tokens"]))

def nodeIDSeparator : Str := "=#=#="

def dummyHostNodeID : Str := "localhost=#=#=localhost=#=#=127.0.0.1"

/-- Every way to write `s` as a text, the separator and a text, from left to right. -/
def splitsAt (sep : Str) : Str → List (Str × Str)
  | [] => if sep = [] then [([], [])] else []
  | c :: cs =>
    (if sep.isPrefixOf (c :: cs) then [([], (c :: cs).drop sep.length)] else []) ++
      (splitsAt sep cs).map fun p => (c :: p.1, p.2)

structure NodeID where
  name : Str
  fqdn : Str
  ip : Str
  deriving DecidableEq

/-- The greedy match of `^(.+)=#=#=(.+)=#=#=(.+)$`, whose dots do not match a newline. -/
def parseNodeID (nodeID : Str) : Except Err NodeID :=
  let found := (splitsAt nodeIDSeparator nodeID).reverse.findSome? fun (a, b) =>
    if a = [] then none
    else ((splitsAt nodeIDSeparator b).reverse.find? fun (c, d) => c ≠ [] ∧ d ≠ []).map fun (c, d) =>
      (⟨a, c, d⟩ : NodeID)
  match if (10 : UInt8) ∈ nodeID then none else found with
  | some n => .ok n
  | none => .error (.plain (sprintf ["node ID '", nodeID,
      "' cannot match the expected '^(.+)=#=#=(.+)=#=#=(.+)$' pattern"]))

theorem parseNodeID_dummyHostNodeID :
    parseNodeID dummyHostNodeID = .ok ⟨"localhost", "localhost", "127.0.0.1"⟩ := by
  decide

def csiQuotaIDPrefix : Str := "CSI_QUOTA_ID:"

def getQuotaIDWithCSITag (quotaID : Str) : Str :=
  if quotaID = [] then [] else sprintf [csiQuotaIDPrefix, quotaID]

/-- The group of `^CSI_QUOTA_ID:(.*)`, which ends at a newline; empty when there is no match. -/
def getQuotaIDFromDescription (e : Export) : Str :=
  if startsWith e.description csiQuotaIDPrefix then
    (e.description.drop csiQuotaIDPrefix.length).takeWhile fun c => c != 10
  else []

def getPathForVolume (isiPath volName : Str) : Str :=
  if isiPath = [] then join ["/ifs/", volName]
  else if isiPath.getLast? = some slash then join [isiPath, volName]
  else join [isiPath, "/", volName]

def getIsiPathFromPgID (pgID : Str) : Str :=
  match split pgID "::" with
  | [_, path] => path
  | _ => []

theorem getPathForVolume_ne_nil (isiPath volName : Str) : getPathForVolume isiPath volName ≠ [] := by
  unfold getPathForVolume
  split
  · exact join_ne_nil List.mem_cons_self (by decide)
  next hne =>
  split
  · exact join_ne_nil List.mem_cons_self hne
  · exact join_ne_nil List.mem_cons_self hne

theorem getPathForVolume_rooted (h : Rooted isiPath) (volName : Str) :
    getPathForVolume isiPath volName =
      absPath (resolve true [] (segments isiPath ++ segments volName)) := by
  have hne : isiPath ≠ [] := by
    rintro rfl
    cases h
  rw [getPathForVolume, if_neg hne]
  split
  · rw [join_rooted h]
    simp
  · rw [join_rooted h]
    simp [show segments ("/" : Str) = [] by decide]

theorem namespacePath_eq_getPathForVolume (h : Rooted isiPath) (volName : Str) :
    namespacePath isiPath volName = getPathForVolume isiPath volName := by
  rw [getPathForVolume_rooted h, namespacePath, join_rooted (by decide)]
  simp [show segments ("/" : Str) = [] by decide]

variable (exportPath : Str)

/-- The path up to and with the last slash; `none` is the panic on an empty path. -/
def getIsiPathFromExportPath : Option Str :=
  if exportPath = [] then none
  else if exportPath.getLast? = some slash then some (upToLastSlash exportPath.dropLast)
  else some (upToLastSlash exportPath)

/-- The component after the last slash that does not end the path; the path is not empty. -/
def getVolumeNameFromExportPath : Str :=
  if exportPath.getLast? = some slash then afterLastSlash exportPath.dropLast
  else afterLastSlash exportPath

def getSnapshotTrackingDirName (snapshotName : Str) : Str :=
  sprintf [".", "csi-", snapshotName, "-tracking-dir"]

def isROVolumeFromSnapshot (exportPath accessZone : Str) : Bool :=
  if accessZone = ("System" : Str) then startsWith exportPath "/ifs/.snapshot"
  else contains exportPath "/.snapshot"

/-- The base path and the snapshot name in the path of a snapshot; `none` is the panic on a path
with too few components. -/
def getSnapshotIsiPathComponents (snapshotIsiPath zonePath : Str) : Option (Str × Str) :=
  let dirs := split snapshotIsiPath "/"
  match dirs with
  | _ :: d1 :: d2 :: rest =>
    if d2 ≠ (".snapshot" : Str) then
      -- a zone other than System: the zone path comes before `.snapshot`
      match split snapshotIsiPath zonePath with
      | _ :: tail :: _ =>
        match split tail "/" with
        | _ :: _ :: snapshotName :: more =>
          if more ≠ [] then some (join ["/", zonePath, joinWith "/" more.dropLast], snapshotName)
          else some (zonePath, snapshotName)
        | _ => none
      | _ => none
    else
      match rest with
      | snapshotName :: more =>
        -- with nothing after the snapshot name the slice bounds are out of range
        if more ≠ [] then some (join ["/", d1, joinWith "/" more.dropLast], snapshotName) else none
      | [] => none
  | _ => none

def getSnapshotSrcVolName (snapshotIsiPath : Str) : Str := (split snapshotIsiPath "/").getLastD []

abbrev IDField (t : Str) : Prop := Separable volumeIDSeparator t

theorem idField_itoa (n : Int) : IDField (itoa n) := by
  refine separable_of_not_mem fun h => ?_
  rcases itoa_digits h with h | h
  · exact absurd h (by decide)
  · exact absurd h (by decide)

section VolumeID

variable {name z c : Str} {i : Int}

theorem split_getNormalizedVolumeID (hname : IDField name) (hz : IDField z)
    (hc : contains c volumeIDSeparator = false) :
    split (getNormalizedVolumeID name i z c) volumeIDSeparator = [name, itoa i, z, c] := by
  have hsep : volumeIDSeparator ≠ [] := by decide
  simp only [getNormalizedVolumeID, sprintf, List.flatten_cons, List.flatten_nil, List.append_nil]
  rw [split_separable hname hsep, split_separable (idField_itoa i) hsep, split_separable hz hsep,
    split_of_not_contains hc hsep]

/-- An identifier that is read at all gives back what it was made of. -/
theorem eq_of_parse_getNormalizedVolumeID (hname : IDField name) (hz : IDField z)
    (hc : contains c volumeIDSeparator = false)
    (h : parseNormalizedVolumeID (getNormalizedVolumeID name i z c) = .ok v) :
    v = ⟨name, i, z, c⟩ := by
  rw [parseNormalizedVolumeID, split_getNormalizedVolumeID hname hz hc] at h
  dsimp only at h
  split at h
  · next n hn =>
    obtain rfl := eq_of_parseInt64_itoa hn
    exact (Except.ok.inj h).symm
  · cases h

theorem split_getDirectoryBackedVolumeID (hname : IDField name) (hz : IDField z) (hc : IDField c) :
    split (getDirectoryBackedVolumeID name i z c) volumeIDSeparator =
      [name, itoa i, z, c, provisioningModeDirectory] := by
  have hsep : volumeIDSeparator ≠ [] := by decide
  simp only [getDirectoryBackedVolumeID, sprintf, List.flatten_cons, List.flatten_nil,
    List.append_nil]
  rw [split_separable hname hsep, split_separable (idField_itoa i) hsep, split_separable hz hsep,
    split_separable hc hsep, split_last (by decide) hsep]

variable (hlo : -2 ^ 63 ≤ i) (hhi : i < 2 ^ 63)
include hlo hhi

theorem parse_getNormalizedVolumeID (hname : IDField name) (hz : IDField z)
    (hc : contains c volumeIDSeparator = false) :
    parseVolumeIDWithMode (getNormalizedVolumeID name i z c) = .ok (⟨name, i, z, c⟩, []) := by
  simp [parseVolumeIDWithMode, parseNormalizedVolumeID, split_getNormalizedVolumeID hname hz hc,
    parseInt64_itoa i hlo hhi, Except.map]

theorem parse_getDirectoryBackedVolumeID (hname : IDField name) (hz : IDField z) (hc : IDField c) :
    parseVolumeIDWithMode (getDirectoryBackedVolumeID name i z c) =
      .ok (⟨name, i, z, c⟩, provisioningModeDirectory) := by
  simp [parseVolumeIDWithMode, parseNormalizedVolumeID, split_getDirectoryBackedVolumeID hname hz hc,
    parseInt64_itoa i hlo hhi, Except.map]

end VolumeID

theorem parseNormalizedVolumeID_of_withMode (h : parseVolumeIDWithMode volID = .ok (v, mode)) :
    parseNormalizedVolumeID volID = .ok v := by
  unfold parseVolumeIDWithMode at h
  cases hp : parseNormalizedVolumeID volID with
  | error e =>
    rw [hp] at h
    cases h
  | ok w =>
    rw [hp] at h
    cases h
    rfl

theorem parse_getNormalizedSnapshotID (hsnap : Separable snapshotIDSeparator snap)
    (hc : Separable snapshotIDSeparator c) (hz : contains z snapshotIDSeparator = false) :
    parseNormalizedSnapshotID (getNormalizedSnapshotID snap c z) = .ok ⟨snap, c, z⟩ := by
  have hsep : snapshotIDSeparator ≠ [] := by decide
  have hsplit : split (getNormalizedSnapshotID snap c z) snapshotIDSeparator = [snap, c, z] := by
    simp only [getNormalizedSnapshotID, sprintf, List.flatten_cons, List.flatten_nil,
      List.append_nil]
    rw [split_separable hsnap hsep, split_separable hc hsep, split_of_not_contains hz hsep]
  rw [parseNormalizedSnapshotID, hsplit]

/-- The parsers of `identifiers` invert what builds an identifier, and the two kinds of volume
identifiers are disjoint. The last field may end in a part of the separator. -/
theorem identifiers_roundtrip : (∀ (name z c : Str) (i : Int), IDField name → IDField z →
      contains c volumeIDSeparator = false → -2 ^ 63 ≤ i → i < 2 ^ 63 →
      parseVolumeIDWithMode (getNormalizedVolumeID name i z c) = .ok (⟨name, i, z, c⟩, []) ∧
      parseNormalizedVolumeID (getNormalizedVolumeID name i z c) = .ok ⟨name, i, z, c⟩) ∧
    (∀ (name z c : Str) (i : Int), IDField name → IDField z → IDField c → -2 ^ 63 ≤ i → i < 2 ^ 63 →
      parseVolumeIDWithMode (getDirectoryBackedVolumeID name i z c) =
        .ok (⟨name, i, z, c⟩, provisioningModeDirectory) ∧
      parseNormalizedVolumeID (getDirectoryBackedVolumeID name i z c) = .ok ⟨name, i, z, c⟩) ∧
    (∀ (name z c name' z' c' : Str) (i i' : Int), IDField name → IDField z →
      contains c volumeIDSeparator = false → IDField name' → IDField z' → IDField c' →
      getNormalizedVolumeID name i z c ≠ getDirectoryBackedVolumeID name' i' z' c') ∧
    (∀ snap c z : Str, Separable snapshotIDSeparator snap → Separable snapshotIDSeparator c →
      contains z snapshotIDSeparator = false →
      parseNormalizedSnapshotID (getNormalizedSnapshotID snap c z) = .ok ⟨snap, c, z⟩) := by
  refine ⟨?_, ?_, ?_, ?_⟩
  · intro name z c i hname hz hc hlo hhi
    have hparse := parse_getNormalizedVolumeID hlo hhi hname hz hc
    exact ⟨hparse, parseNormalizedVolumeID_of_withMode hparse⟩
  · intro name z c i hname hz hc hlo hhi
    have hparse := parse_getDirectoryBackedVolumeID hlo hhi hname hz hc
    exact ⟨hparse, parseNormalizedVolumeID_of_withMode hparse⟩
  · intro name z c name' z' c' i i' hname hz hc hname' hz' hc' heq
    -- one splits into four texts, the other into five
    have hfour := split_getNormalizedVolumeID (i := i) hname hz hc
    rw [heq, split_getDirectoryBackedVolumeID hname' hz' hc'] at hfour
    simp at hfour
  · intro snap c z hsnap hc hz
    exact parse_getNormalizedSnapshotID hsnap hc hz

theorem identifiers_roundtrip_vol1 :
    parseVolumeIDWithMode (getNormalizedVolumeID "vol1" 19 "csi0zone" "a=_=_") =
      .ok (⟨"vol1", 19, "csi0zone", "a=_=_"⟩, []) ∧
    parseVolumeIDWithMode (getDirectoryBackedVolumeID "vol1" 19 "csi0zone" "cluster1") =
      .ok (⟨"vol1", 19, "csi0zone", "cluster1"⟩, provisioningModeDirectory) ∧
    parseNormalizedSnapshotID (getNormalizedSnapshotID "2" "cluster1" "csi0zone") =
      .ok ⟨"2", "cluster1", "csi0zone"⟩ :=
  ⟨(identifiers_roundtrip.1 "vol1" "csi0zone" "a=_=_" 19 (by decide) (by decide) (by decide)
      (by decide) (by decide)).1,
    (identifiers_roundtrip.2.1 "vol1" "csi0zone" "cluster1" 19 (by decide) (by decide) (by decide)
      (by decide) (by decide)).1,
    identifiers_roundtrip.2.2.2 "2" "cluster1" "csi0zone" (by decide) (by decide) (by decide)⟩

theorem getQuotaIDFromDescription_tag (h : e.description = getQuotaIDWithCSITag (natToStr n)) :
    getQuotaIDFromDescription e = natToStr n := by
  obtain ⟨c, cs, hc, _⟩ := natToStr_cons n
  have hdesc : e.description = csiQuotaIDPrefix ++ natToStr n := by
    rw [h, getQuotaIDWithCSITag, if_neg (by simp [hc])]
    simp [sprintf]
  have hdigits : ∀ c ∈ natToStr n, (c != 10) = true := by
    intro c hc
    rw [bne_iff_ne]
    rintro rfl
    exact absurd (natToStr_digits hc) (by decide)
  have hstart : startsWith (csiQuotaIDPrefix ++ natToStr n) csiQuotaIDPrefix = true := by
    simp [startsWith]
  rw [getQuotaIDFromDescription, hdesc, if_pos hstart, List.drop_left]
  exact List.takeWhile_eq_self_iff.2 hdigits

section VolumePath

variable {root name : Str} (hroot : Rooted root) (hname : Plain name)
include hroot hname

theorem getPathForVolume_plain :
    getPathForVolume root name = absBase (resolve true [] (segments root)) ++ name := by
  rw [getPathForVolume_rooted hroot, hname.segments, resolve_concat hname.not_dotDot, absPath_concat]

theorem getIsiPathFromExportPath_volume : getIsiPathFromExportPath (getPathForVolume root name) =
    some (absBase (resolve true [] (segments root))) := by
  obtain ⟨u, hu⟩ := absBase_slash (resolve true [] (segments root))
  rw [getPathForVolume_plain hroot hname, hu]
  have hlast : (u ++ [slash] ++ name).getLast? ≠ some slash := by
    intro h
    rw [List.getLast?_append_of_ne_nil _ hname.nonempty] at h
    exact hname.no_slash (List.mem_of_getLast? h)
  rw [getIsiPathFromExportPath, if_neg (by simp), if_neg hlast, List.append_assoc,
    List.singleton_append, upToLastSlash_append hname.no_slash]

theorem getPathForVolume_base : getPathForVolume (absBase (resolve true [] (segments root))) name =
      getPathForVolume root name := by
  have hplain := resolve_segments_plain root
  rw [getPathForVolume_plain (absBase_rooted _) hname, getPathForVolume_plain hroot hname,
    segments_absBase _ hplain, resolve_plain _ _ _ hplain]
  rfl

theorem split_volumePath : (split (getPathForVolume root name) "/").getLastD [] = name := by
  obtain ⟨u, hu⟩ := absBase_slash (resolve true [] (segments root))
  rw [getPathForVolume_plain hroot hname, hu, List.append_assoc, List.singleton_append,
    show (("/" : Str)) = [slash] by rfl, split_slash, pathSplit_append,
    pathSplit_no_slash hname.no_slash]
  simp

end VolumePath

namespace PowerscaleFS

variable (s : Str)

def lastSlash : Int := (upToLastSlash s).length - 1

/-- The text `s[lo:hi]`; `none` is the panic outside of the bounds. -/
def slice (lo hi : Int) : Option Str :=
  if 0 ≤ lo ∧ lo ≤ hi ∧ hi ≤ s.length then some ((s.take hi.toNat).drop lo.toNat) else none

def withoutLastSlash : Option Str :=
  if lastSlash exportPath = exportPath.length - 1 then slice exportPath 0 (lastSlash exportPath)
  else some exportPath

def getIsiPathFromExportPath : Option Str :=
  (withoutLastSlash exportPath).bind fun p => slice p 0 (lastSlash p + 1)

def getVolumeNameFromExportPath : Option Str :=
  (withoutLastSlash exportPath).bind fun p => slice p (lastSlash p + 1) p.length

theorem length_parts :
    (upToLastSlash s).length + (afterLastSlash s).length = s.length := by
  rw [← List.length_append, upToLastSlash_afterLastSlash]

theorem slice_upTo : slice s 0 (lastSlash s + 1) = some (upToLastSlash s) := by
  have hlen := length_parts s
  have htake := @List.take_left _ (upToLastSlash s) (afterLastSlash s)
  rw [upToLastSlash_afterLastSlash] at htake
  rw [slice, if_pos (by unfold lastSlash; omega), lastSlash, sub_add_cancel, Int.toNat_natCast,
    htake]
  rfl

theorem slice_after : slice s (lastSlash s + 1) s.length = some (afterLastSlash s) := by
  have hlen := length_parts s
  have hdrop := @List.drop_left _ (upToLastSlash s) (afterLastSlash s)
  rw [upToLastSlash_afterLastSlash] at hdrop
  rw [slice, if_pos (by unfold lastSlash; omega), lastSlash, sub_add_cancel, Int.toNat_natCast,
    Int.toNat_natCast, List.take_length, hdrop]

theorem withoutLastSlash_eq : withoutLastSlash s =
    if s = [] then none else some (if s.getLast? = some slash then s.dropLast else s) := by
  have hlen := length_parts s
  split
  · next h => rw [h, show withoutLastSlash [] = none by decide]
  next hne =>
  split
  · next h =>
    obtain ⟨u, rfl⟩ := List.getLast?_eq_some_iff.1 h
    have hup : upToLastSlash (u ++ [slash]) = u ++ [slash] := upToLastSlash_append (by simp) u
    have hlast : lastSlash (u ++ [slash]) = u.length := by simp [lastSlash, hup]
    have hlen : (u ++ [slash]).length = u.length + 1 := List.length_append
    rw [withoutLastSlash, hlast, if_pos (by omega), slice, if_pos (by omega)]
    simp
  · next h =>
    have hafter : afterLastSlash s ≠ [] := by
      intro hnil
      have hs := upToLastSlash_afterLastSlash s
      rw [hnil, List.append_nil] at hs
      rcases upToLastSlash_end s with hup | hup
      · exact hne (hs.symm.trans hup)
      · exact h (hs ▸ hup)
    have hpos := List.length_pos_iff.2 hafter
    rw [withoutLastSlash, if_neg (by unfold lastSlash; omega)]

/-- The slices of the source and the path up to its last slash are the same function. -/
theorem getIsiPathFromExportPath_eq :
    getIsiPathFromExportPath s = CsiPowerscale.getIsiPathFromExportPath s := by
  rw [getIsiPathFromExportPath, withoutLastSlash_eq, CsiPowerscale.getIsiPathFromExportPath]
  split
  · rfl
  · rw [Option.bind_some, slice_upTo]
    split <;> rfl

theorem getVolumeNameFromExportPath_eq : getVolumeNameFromExportPath s =
    if s = [] then none else some (CsiPowerscale.getVolumeNameFromExportPath s) := by
  rw [getVolumeNameFromExportPath, withoutLastSlash_eq, CsiPowerscale.getVolumeNameFromExportPath]
  split
  · rfl
  · rw [Option.bind_some, slice_after]
    split <;> rfl

section Volume

variable {base name : Str} (hbase : CleanAbs base) (hroot : base ≠ [slash]) (hname : Plain name)
include hbase

theorem cleanAbs_rooted : Rooted base := by
  obtain ⟨xs, -, rfl⟩ := hbase
  rfl

include hroot

theorem absBase_cleanAbs : absBase (resolve true [] (segments base)) = base ++ [slash] := by
  obtain ⟨xs, hxs, rfl⟩ := hbase
  have hne : xs ≠ [] := by
    rintro rfl
    exact hroot rfl
  rw [segments_absPath xs hxs, resolve_plain true [] xs hxs, List.reverse_nil, List.nil_append,
    absBase, if_neg hne]

include hname

theorem getPathForVolume_cleanAbs : getPathForVolume base name = base ++ slash :: name := by
  rw [getPathForVolume_plain (cleanAbs_rooted hbase) hname, absBase_cleanAbs hbase hroot,
    List.append_assoc, List.singleton_append]

theorem withoutLastSlash_volume :
    withoutLastSlash (getPathForVolume base name) = some (base ++ slash :: name) := by
  rw [getPathForVolume_cleanAbs hbase hroot hname, withoutLastSlash_eq, if_neg (by simp), if_neg]
  intro h
  rw [List.getLast?_append_cons, List.getLast?_cons_of_ne_nil hname.nonempty] at h
  exact hname.no_slash (List.mem_of_getLast? h)

end Volume

/-- On the paths of volumes the helpers are inverse, and a path that is not empty has no slice
outside of its bounds. -/
theorem exportPath_helpers_iff : (∀ base name, CleanAbs base → base ≠ [slash] → Plain name →
      getIsiPathFromExportPath (getPathForVolume base name) = some (base ++ [slash]) ∧
      getVolumeNameFromExportPath (getPathForVolume base name) = some name ∧
      getIsiPathFromExportPath (getPathForVolume base name ++ [slash]) = some (base ++ [slash]) ∧
      getVolumeNameFromExportPath (getPathForVolume base name ++ [slash]) = some name ∧
      getPathForVolume (base ++ [slash]) name = getPathForVolume base name) ∧
    ((getIsiPathFromExportPath s).isSome = true ∧ (getVolumeNameFromExportPath s).isSome = true ↔
      s ≠ []) := by
  constructor
  · intro base name hbase hroot hname
    have hpath := getPathForVolume_cleanAbs hbase hroot hname
    have hat := withoutLastSlash_volume hbase hroot hname
    have hagain : withoutLastSlash (getPathForVolume base name ++ [slash]) =
        some (base ++ slash :: name) := by
      rw [withoutLastSlash_eq, if_neg (by simp), if_pos (by simp), List.dropLast_concat, hpath]
    have hup := upToLastSlash_append hname.no_slash base
    have hafter := afterLastSlash_append hname.no_slash base
    refine ⟨?_, ?_, ?_, ?_, ?_⟩
    · rw [getIsiPathFromExportPath_eq, getIsiPathFromExportPath_volume (cleanAbs_rooted hbase) hname,
        absBase_cleanAbs hbase hroot]
    · rw [getVolumeNameFromExportPath, hat, Option.bind_some, slice_after, hafter]
    · rw [getIsiPathFromExportPath, hagain, Option.bind_some, slice_upTo, hup]
    · rw [getVolumeNameFromExportPath, hagain, Option.bind_some, slice_after, hafter]
    · rw [← absBase_cleanAbs hbase hroot, getPathForVolume_base (cleanAbs_rooted hbase) hname]
  · rw [getIsiPathFromExportPath_eq, getVolumeNameFromExportPath_eq,
      CsiPowerscale.getIsiPathFromExportPath]
    by_cases hs : s = []
    · simp [hs]
    · rw [if_neg hs, if_neg hs]
      refine ⟨fun _ => hs, fun _ => ⟨?_, rfl⟩⟩
      split <;> rfl

theorem exportPath_helpers_vol1 :
    getIsiPathFromExportPath (getPathForVolume "/ifs/data" "vol1") = some "/ifs/data/" ∧
    getVolumeNameFromExportPath (getPathForVolume "/ifs/data" "vol1") = some "vol1" :=
  have h := (exportPath_helpers_iff "/ifs/data/vol1").1 "/ifs/data" "vol1"
    ⟨["ifs", "data"], by decide, by decide⟩ (by decide) (by decide)
  ⟨h.1, h.2.1⟩

/-- The empty path ends before its first character. -/
theorem exportPath_helpers_empty :
    getIsiPathFromExportPath "" = none ∧ getVolumeNameFromExportPath "" = none := by
  decide

end PowerscaleFS

end CsiPowerscale
