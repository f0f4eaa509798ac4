import CsiPowerscale.Effects.Prog
import CsiPowerscale.Identifiers

namespace CsiPowerscale
open GoLib Effects Effects.Prog

/-- A Go `map[string]string`, as the list of its entries. -/
abbrev Params := List (Str × Str)

def Params.get? (m : Params) (key : Str) : Option Str := m.lookup key

def Params.get (m : Params) (key : Str) : Str := (m.get? key).getD []

structure VolumeInfo where
  name : Str
  nlink : Int
  deriving DecidableEq

/-- The requests of the modelled RPCs through the array client. `wait` is a `select` between
`ctx.Done()` and a timer: its failure is the cancellation of the context. -/
inductive Call
  | probe
  | wait
  | getVolume (isiPath name : Str)
  | createVolume (isiPath name permissions : Str) (metadata : Params)
  | deleteVolume (isiPath name : Str)
  | copySnapshot (isiPath srcIsiPath : Str) (snapshotID : Int) (dstName accessZone : Str)
  | copyVolume (isiPath srcName dstName : Str)
  | getVolumeSize (isiPath name : Str)
  | getSnapshotFolderSize (isiPath name accessZone : Str)
  | getSnapshot (identity : Str)
  | getSnapshotIsiPath (isiPath snapshotID accessZone : Str)
  | createSnapshot (path name : Str)
  | removeSnapshot (id : Int) (name : Str)
  | createWritableSnapshot (dstPath source : Str)
  | getWritableSnapshot (dstPath : Str)
  | deleteWritableSnapshot (dstPath : Str)
  | createQuota (path : Str) (hard soft advisory softGrace : Int)
  | getQuotaWithPath (path : Str)
  | getQuotaByID (id : Str)
  | updateQuotaSize (id : Str) (hard soft advisory softGrace : Int)
  | modifyQuota (id : Str) (soft advisory softGrace : Option Int)
  | clearQuota (id : Str)
  | exportVolume (path accessZone description xprtsec : Str)
  | getExportWithPath (path accessZone : Str)
  | getExportByID (id : Int) (accessZone : Str)
  | getExports (path accessZone : Str)
  | unexport (id : Int) (accessZone : Str)
  | addExportClients (field : ClientField) (id : Int) (accessZone : Str) (clients : List Str)
    (ignoreUnresolvableHosts : Bool)
  | removeExportClients (id : Int) (accessZone : Str) (clients : List Str)
    (ignoreUnresolvableHosts : Bool)
  | getExportsCountAttachedToNode (nodeIP : Str)
  | getExportsCountAttachedToNodeIPs (nodeIPs : List Str) (accessZone : Str)
  | getZone (name : Str)
  | getNfsSettings
  | getPolicy (name : Str)
  | createPolicy (name : Str) (rpo : Int) (sourcePath targetPath targetHost targetCert : Str)
  | waitForPolicy (name : Str)
  | syncPolicy (name : Str)
  deriving DecidableEq

@[reducible] def Call.Reply : Call → Type
  | getVolume .. => VolumeInfo
  | createVolume .. => VolumeInfo
  | getVolumeSize .. => Int
  | getSnapshotFolderSize .. => Int
  | getSnapshot .. => Snapshot
  | getSnapshotIsiPath .. => Str
  | createSnapshot .. => Snapshot
  | getWritableSnapshot .. => WritableSnapshot
  | createQuota .. => Str
  | getQuotaWithPath .. => Quota
  | getQuotaByID .. => Quota
  | exportVolume .. => Int
  | getExportWithPath .. => Option Export
  | getExportByID .. => Option Export
  | getExports .. => List Export
  | getExportsCountAttachedToNode .. => Int
  | getExportsCountAttachedToNodeIPs .. => Int
  | getZone .. => Zone
  | getNfsSettings => Option Str
  | _ => Unit

abbrev IsiM := Prog Call Call.Reply Err

abbrev request (c : Call) : IsiM c.Reply := Prog.op c

abbrev tryRequest (c : Call) : IsiM (Except Err c.Reply) := Prog.ask c

namespace OneFS

def notFound : Err := .json 404 "AEC_NOT_FOUND"

def conflict : Err := .json 409 "AEC_CONFLICT"

variable (s : OneFS)

def reply (e : Err) : Option α → Except Err α × OneFS
  | some a => (.ok a, s)
  | none => (.error e, s)

def change (found : Bool) (s' : OneFS) : Except Err Unit × OneFS :=
  if found then (.ok (), s') else (.error notFound, s)

/-- A directory is made below an existing one; making one that exists succeeds and changes
nothing. -/
def create (isiPath name : Str) : Except Err VolumeInfo × OneFS :=
  let p := namespacePath isiPath name
  if s.hasDir p then (.ok ⟨name, s.nlink p⟩, s)
  else if s.hasDir (dir p) || dir p = [slash] then (.ok ⟨name, 2⟩, s.mkdir p)
  else (.error notFound, s)

def copyFrom (dst : Str) : Option (List Dir) → Except Err Unit × OneFS
  | some tree => (.ok (), s.graft dst tree)
  | none => (.error notFound, s)

def newQuota (path : Str) (hard soft advisory softGrace : Int) :
    Except Err Str × OneFS :=
  if h : s.quotaAt path = none then
    (.ok (natToStr s.quotas.next), s.addQuota path hard soft advisory softGrace h)
  else (.error conflict, s)

/-- A writable snapshot is a new directory with a quota that the array sets on it by itself. -/
def newWritable (dstPath source : Str) : Except Err Unit × OneFS :=
  match s.snapshotByIdentity source with
  | none => (.error notFound, s)
  | some x =>
    if s.hasDir dstPath || s.writableAt dstPath then (.error conflict, s)
    else (.ok (), (((s.graft dstPath x.tree).addWritable dstPath x.num).newQuota dstPath 0 0 0 0).2)

def snapshotPath (x : Snapshot) (isiPath accessZone zonePath : Str) : Str :=
  let root : Str := if accessZone = ("System" : Str) then "/ifs" else zonePath
  join [root, ".snapshot", x.name, if startsWith isiPath root then isiPath.drop root.length else [],
    afterLastSlash x.path]

def dropUnused : Option Snapshot → Except Err Unit × OneFS
  | none => (.error notFound, s)
  | some x =>
    if s.writables.rows.any fun y => y.source = x.num then (.error conflict, s)
    else (.ok (), s.dropSnapshot x.num)

def newSnapshot (path name : Str) : Except Err Snapshot × OneFS :=
  if !s.hasDir path then (.error notFound, s)
  else if h : s.snapshotByName name = none then
    (.ok ⟨s.snapshots.next, name, path, s.subtree path⟩, s.addSnapshot name path (s.subtree path) h)
  else (.error conflict, s)

def serve : (c : Call) → OneFS → Except Err c.Reply × OneFS
  | .probe, s => (.ok (), s)
  | .wait, s => (.ok (), s)
  | .getVolume isiPath name, s =>
    let p := namespacePath isiPath name
    s.reply notFound (if s.hasDir p then some ⟨name, s.nlink p⟩ else none)
  | .createVolume isiPath name _ _, s => s.create isiPath name
  | .deleteVolume isiPath name, s =>
    let p := namespacePath isiPath name
    s.change (s.hasDir p) (s.rmdir p)
  | .copySnapshot isiPath _ i dstName _, s =>
    s.copyFrom (namespacePath isiPath dstName) ((s.snapshotById i).map Snapshot.tree)
  | .copyVolume isiPath srcName dstName, s =>
    let src := namespacePath isiPath srcName
    s.copyFrom (namespacePath isiPath dstName) (if s.hasDir src then some (s.subtree src) else none)
  | .getVolumeSize isiPath name, s =>
    let p := namespacePath isiPath name
    s.reply notFound (if s.hasDir p then some (treeSize (s.subtree p)) else none)
  | .getSnapshotFolderSize _ name _, s =>
    s.reply notFound ((s.snapshotByName name).map fun x => treeSize x.tree)
  | .getSnapshot i, s => s.reply notFound (s.snapshotByIdentity i)
  | .getSnapshotIsiPath isiPath i z, s =>
    s.reply notFound ((s.snapshotByIdentity i).bind fun x =>
      (s.zone z).map fun y => snapshotPath x isiPath z y.path)
  | .createSnapshot path name, s => s.newSnapshot path name
  | .removeSnapshot i name, s =>
    s.dropUnused (if 0 ≤ i then s.snapshotById i else s.snapshotByName name)
  | .createWritableSnapshot dstPath source, s => s.newWritable dstPath source
  | .getWritableSnapshot p, s =>
    s.reply notFound (s.writables.rows.find? fun x => x.dstPath = p)
  | .deleteWritableSnapshot p, s => s.change (s.writableAt p) (s.dropWritable p)
  | .createQuota path hard soft advisory softGrace, s => s.newQuota path hard soft advisory softGrace
  | .getQuotaWithPath path, s =>
    s.reply (.plain (sprintf ["Quota not found: ", path])) (s.quotaAt path)
  | .getQuotaByID i, s => s.reply notFound (s.quotaById i)
  | .updateQuotaSize i hard soft advisory softGrace, s =>
    s.change (s.quotaById i).isSome (s.setQuota i hard soft advisory softGrace)
  | .modifyQuota i soft advisory softGrace, s =>
    s.change (s.quotaById i).isSome (s.modifyQuota i soft advisory softGrace)
  | .clearQuota i, s => s.change (s.quotaById i).isSome (s.dropQuota i)
  | .exportVolume path z description xprtsec, s =>
    (.ok ((s.exports.next : Int) + 1), s.addExport path z description xprtsec)
  | .getExportWithPath path z, s => (.ok (s.exportAt path z), s)
  | .getExportByID i z, s => s.reply notFound ((s.exportById i z).map some)
  | .getExports path z, s => (.ok (s.exportsAt path z), s)
  | .unexport i z, s => s.change (s.exportById i z).isSome (s.dropExport i z)
  | .addExportClients field i z names _, s =>
    s.change (s.exportById i z).isSome (s.addClients field i z names)
  | .removeExportClients i z names _, s =>
    s.change (s.exportById i z).isSome (s.removeClients i z names)
  | .getExportsCountAttachedToNode ip, s => (.ok (s.exportCount [ip] fun _ => true), s)
  | .getExportsCountAttachedToNodeIPs ips z, s => (.ok (s.exportCount ips fun y => y = z), s)
  | .getZone name, s => s.reply notFound (s.zone name)
  | .getNfsSettings, s => (.ok s.nfsTLSMode, s)
  | .getPolicy name, s => s.change (name ∈ s.policies) s
  | .createPolicy name _ _ _ _ _, s => (.ok (), { s with policies := name :: s.policies })
  | .waitForPolicy name, s => s.change (name ∈ s.policies) s
  | .syncPolicy name, s => s.change (name ∈ s.policies) s

end OneFS

def array : World Call Call.Reply Err OneFS := ⟨OneFS.serve⟩

theorem array_act (c : Call) (s : OneFS) : array.act c s = OneFS.serve c s := rfl

def Call.IsRead : Call → Prop
  | createVolume .. | deleteVolume .. | copySnapshot .. | copyVolume .. | createSnapshot ..
  | removeSnapshot .. | createWritableSnapshot .. | deleteWritableSnapshot .. | createQuota ..
  | updateQuotaSize .. | modifyQuota .. | clearQuota .. | exportVolume .. | unexport ..
  | addExportClients .. | removeExportClients .. | createPolicy .. => False
  | _ => True

theorem OneFS.reply_state (s : OneFS) (e : Err) (o : Option α) : (s.reply e o).2 = s := by
  cases o <;> rfl

theorem OneFS.change_self (s : OneFS) : (s.change found s).2 = s := by
  cases found <;> rfl

theorem Call.IsRead.serve (h : c.IsRead) (s : OneFS) : (array.act c s).2 = s := by
  cases c <;> first
    | exact h.elim
    | rfl
    | exact OneFS.reply_state s _ _
    | exact OneFS.change_self s

inductive Call.Effect (s : OneFS) : Call → OneFS → Prop
  | kept : Effect s c s
  | mkdir : Effect s (.createVolume isiPath name acl m) (s.mkdir (namespacePath isiPath name))
  | rmdir : Effect s (.deleteVolume isiPath name) (s.rmdir (namespacePath isiPath name))
  | copySnapshot (tree : List Dir) :
    Effect s (.copySnapshot isiPath src i dst z) (s.graft (namespacePath isiPath dst) tree)
  | copyVolume (tree : List Dir) :
    Effect s (.copyVolume isiPath src dst) (s.graft (namespacePath isiPath dst) tree)
  | addSnapshot (h : s.snapshotByName name = none) :
    Effect s (.createSnapshot path name) (s.addSnapshot name path (s.subtree path) h)
  | dropSnapshot (h : (if 0 ≤ i then s.snapshotById i else s.snapshotByName name) = some x) :
    Effect s (.removeSnapshot i name) (s.dropSnapshot x.num)
  | addWritable (tree : List Dir) (n : Nat) : Effect s (.createWritableSnapshot dst source)
      (((s.graft dst tree).addWritable dst n).newQuota dst 0 0 0 0).2
  | dropWritable : Effect s (.deleteWritableSnapshot dst) (s.dropWritable dst)
  | newQuota : Effect s (.createQuota path hard soft advisory grace)
      (s.newQuota path hard soft advisory grace).2
  | setQuota : Effect s (.updateQuotaSize j hard soft advisory grace)
      (s.setQuota j hard soft advisory grace)
  | modifyQuota : Effect s (.modifyQuota j soft' advisory' grace')
      (s.modifyQuota j soft' advisory' grace')
  | dropQuota : Effect s (.clearQuota j) (s.dropQuota j)
  | addExport : Effect s (.exportVolume path z d xprtsec) (s.addExport path z d xprtsec)
  | dropExport : Effect s (.unexport i z) (s.dropExport i z)
  | addClients : Effect s (.addExportClients field i z names b) (s.addClients field i z names)
  | removeClients : Effect s (.removeExportClients i z names b) (s.removeClients i z names)
  | addPolicy : Effect s (.createPolicy name rpo src dst host cert)
      { s with policies := name :: s.policies }

theorem Call.Effect.change {c : Call} (h : c.Effect s t) (found : Bool) :
    c.Effect s (s.change found t).2 := by
  cases found with
  | false => exact .kept
  | true => exact h

theorem Call.effect (c : Call) (s : OneFS) : c.Effect s (array.act c s).2 := by
  cases c with
  | createVolume isiPath name acl m =>
    simp only [array_act, OneFS.serve, OneFS.create]
    split
    · exact .kept
    split
    · exact .mkdir
    · exact .kept
  | copySnapshot isiPath src i dst z =>
    simp only [array_act, OneFS.serve]
    cases (s.snapshotById i).map Snapshot.tree with
    | none => exact .kept
    | some tree => exact .copySnapshot tree
  | copyVolume isiPath src dst =>
    simp only [array_act, OneFS.serve]
    split
    · exact .copyVolume _
    · exact .kept
  | createSnapshot path name =>
    simp only [array_act, OneFS.serve, OneFS.newSnapshot]
    split
    · exact .kept
    split
    · exact .addSnapshot _
    · exact .kept
  | removeSnapshot i name =>
    simp only [array_act, OneFS.serve]
    cases h : (if 0 ≤ i then s.snapshotById i else s.snapshotByName name) with
    | none => exact .kept
    | some x =>
      simp only [OneFS.dropUnused]
      split
      · exact .kept
      · exact .dropSnapshot h
  | createWritableSnapshot dst source =>
    simp only [array_act, OneFS.serve, OneFS.newWritable]
    split
    · exact .kept
    split
    · exact .kept
    · exact .addWritable _ _
  | deleteVolume isiPath name => exact .change .rmdir _
  | deleteWritableSnapshot dst => exact .change .dropWritable _
  | createQuota path hard soft advisory grace => exact .newQuota
  | updateQuotaSize j hard soft advisory grace => exact .change .setQuota _
  | modifyQuota j soft advisory grace => exact .change .modifyQuota _
  | clearQuota j => exact .change .dropQuota _
  | exportVolume path z d xprtsec => exact .addExport
  | unexport i z => exact .change .dropExport _
  | addExportClients field i z names b => exact .change .addClients _
  | removeExportClients i z names b => exact .change .removeClients _
  | createPolicy name rpo src dst host cert => exact .addPolicy
  | _ =>
    rw [Call.IsRead.serve (by trivial) s]
    exact .kept

namespace IsiService

def rename (c : Call) (f : Err → Err) : IsiM c.Reply := do
  match ← tryRequest c with
  | .ok a => ret a
  | .error e => fail (f e)

def createVolume (isiPath volName permissions : Str) : IsiM Unit := do
  let _ ← request (.createVolume isiPath volName permissions [])

def createVolumeWithMetaData (isiPath volName permissions : Str) (metadata : Params) :
    IsiM Unit := do
  let _ ← request (.createVolume isiPath volName permissions metadata)

def deleteVolume (isiPath volName : Str) : IsiM Unit :=
  rename (.deleteVolume isiPath volName) fun e =>
    .plain (sprintf ["failed to delete volume directory '", volName, "' : '", e.text, "'"])

/-- Any error, also one that says nothing about the directory, reads as `false`. -/
def isVolumeExistent (isiPath name : Str) : IsiM Bool := do
  let r ← tryRequest (.getVolume isiPath name)
  return r.isOk

def getSubDirectoryCount (isiPath directory : Str) : IsiM Int := do
  if ← isVolumeExistent isiPath directory then
    let dirDetails ← request (.getVolume isiPath directory)
    return dirDetails.nlink
  else
    fail (.plain (sprintf ["failed to get subdirectory count for directory '", directory, "'"]))

def getVolumeSize (isiPath name : Str) : IsiM Int := do
  match ← tryRequest (.getVolumeSize isiPath name) with
  | .ok size => return size
  | .error _ => return 0

def getSnapshotSize (isiPath name accessZone : Str) : IsiM Int := do
  match ← tryRequest (.getSnapshotFolderSize isiPath name accessZone) with
  | .ok size => return size
  | .error _ => return 0

def getSnapshotSourceVolumeIsiPath (snapshotID : Str) : IsiM Str := do
  match ← tryRequest (.getSnapshot snapshotID) with
  | .ok snapshot => return dir snapshot.path
  | .error e => fail (.plain (sprintf ["failed to get snapshot id '", snapshotID, "', error '",
      e.text, "'"]))

def createWritableSnapshot (isiPath destinationPath sourceSnapshot volumeName : Str) :
    IsiM Unit := do
  request (.createWritableSnapshot destinationPath sourceSnapshot)
  let _ ← request (.getVolume isiPath volumeName)

def quotaLimit (percent : Str) (sizeInBytes : Int) : Int :=
  match parseInt64 percent with
  | some n => ((n * sizeInBytes).bmod (2 ^ 64)).tdiv 100
  | none => 0

def quotaThresholds (softLimit advisoryLimit softGracePrd : Str) (sizeInBytes : Int) :
    Int × Int × Int :=
  let soft := quotaLimit softLimit sizeInBytes
  let advisory := quotaLimit advisoryLimit sizeInBytes
  let grace := (parseInt64 softGracePrd).getD 0
  if soft ≥ sizeInBytes ∨ advisory ≥ sizeInBytes then (0, 0, 0)
  else if soft ≠ 0 ∧ grace = 0 then (0, advisory, 0)
  else (soft, advisory, grace)

def createQuota (path softLimit advisoryLimit softGracePrd : Str) (sizeInBytes : Int)
    (quotaEnabled : Bool) : IsiM Str :=
  if quotaEnabled ∧ 0 < sizeInBytes then
    let (soft, advisory, grace) := quotaThresholds softLimit advisoryLimit softGracePrd sizeInBytes
    rename (.createQuota path sizeInBytes soft advisory grace) fun e =>
      .wrapped (sprintf ["quota creation failed: '", e.text, "'"]) e
  else ret []

def getQuotaByPath (volumePath : Str) : IsiM Quota :=
  rename (.getQuotaWithPath volumePath) fun e =>
    .wrapped (sprintf ["failed to get quota for path '", volumePath, "': ", e.text]) e

def clearQuotaByID (quotaID : Str) : IsiM Unit :=
  if quotaID = [] then ret ()
  else rename (.clearQuota quotaID) fun e =>
    .plain (sprintf ["failed to clear quota for '", quotaID, "' : '", e.text, "'"])

def updateQuotaSize (quotaID : Str) (hard soft advisory softGrace : Int) : IsiM Unit :=
  request (.updateQuotaSize quotaID hard soft advisory softGrace)

def modifyQuota (quotaID : Str) (soft advisory softGrace : Option Int) : IsiM Unit :=
  rename (.modifyQuota quotaID soft advisory softGrace) fun e =>
    .plain (sprintf ["failed to modify quota '", quotaID, "', error: '", e.text, "'"])

def getVolumeQuota (volName : Str) (exportID : Int) (accessZone : Str) : IsiM Quota := do
  match ← tryRequest (.getExportByID exportID accessZone) with
  | .error e => fail (.plain (sprintf ["failed to get export '", volName, "':'", itoa exportID,
      "' with access zone '", accessZone, "', error: '", e.text, "'"]))
  | .ok none => fail (.plain (sprintf ["failed to get quota for volume '", volName, "'"]))
  | .ok (some e) =>
    let quotaID := getQuotaIDFromDescription e
    if quotaID = [] then
      fail (.plain (sprintf ["failed to get quota: No quota set on the volume '", volName, "'"]))
    else request (.getQuotaByID quotaID)

def deleteQuotaByExportIDWithZone (volName : Str) (exportID : Int) (accessZone : Str) :
    IsiM Unit := do
  match ← tryRequest (.getExportByID exportID accessZone) with
  | .error e => fail (.plain (sprintf ["failed to get export '", volName, "':'", itoa exportID,
      "' with access zone '", accessZone, "', skip DeleteQuotaByID. error : '", e.text, "'"]))
  | .ok none => ret ()
  | .ok (some e) =>
    let quotaID := getQuotaIDFromDescription e
    if quotaID = [] then ret () else request (.clearQuota quotaID)

def unexportByIDWithZone (exportID : Int) (accessZone : Str) : IsiM Unit :=
  rename (.unexport exportID accessZone) fun e =>
    .plain (sprintf ["failed to unexport volume directory '", itoa exportID, "' in access zone '",
      accessZone, "' : '", e.text, "'"])

def getExportsWithParams (path accessZone : Str) : IsiM (List Export) :=
  rename (.getExports path accessZone) fun _ => .plain "failed to get exports with params"

def addExportClientByIDWithZone (exportID : Int) (accessZone clientIP : Str)
    (ignoreUnresolvableHosts : Bool) : IsiM Unit :=
  rename (.addExportClients .clients exportID accessZone [clientIP] ignoreUnresolvableHosts) fun e =>
    .plain (sprintf ["failed to add client to export id '", itoa exportID, "' with access zone '",
      accessZone, "' : '", e.text, "'"])

def isStringInSlices (s : Str) (slices : List (List Str)) : Bool := slices.any fun l => s ∈ l

/-- An export that cannot be read or a malformed node ID count as "already added". -/
def isHostAlreadyAdded (exportID : Int) (accessZone nodeID : Str) : IsiM Bool := do
  match ← tryRequest (.getExportByID exportID accessZone) with
  | .ok (some e) =>
    match parseNodeID nodeID with
    | .error _ => return true
    | .ok n =>
      let slices := [e.clients, e.readOnlyClients, e.readWriteClients, e.rootClients]
      let clientFieldsNotEmpty := slices.any fun l => !l.isEmpty
      let inClientFields := isStringInSlices n.name slices ||
        (n.ip ≠ [] && isStringInSlices n.ip slices)
      return clientFieldsNotEmpty && inClientFields || isStringInSlices n.fqdn slices
  | _ => return true

/-- `AddExportClientNetworkIdentifierByIDWithZone` with `AddExportClientByIDWithZone`;
`currentClient` is the entry of the node map for the cluster and the node. -/
def addExportClientNetworkIdentifierByIDWithZone (currentClient : Option Str) (exportID : Int)
    (accessZone nodeID : Str) (ignoreUnresolvableHosts : Bool) : IsiM Unit := do
  let n ← ofExcept (parseNodeID nodeID)
  if ignoreUnresolvableHosts then
    match ← attempt (addExportClientByIDWithZone exportID accessZone n.ip true) with
    | .ok _ => ret ()
    | .error _ => fail (.plain (sprintf ["failed to add client '", n.ip, "' to the export id '",
        itoa exportID, "'"]))
  else
    let clientToUse := currentClient.getD n.fqdn
    let otherClientToUse := if clientToUse = n.fqdn then n.ip else n.fqdn
    match ← attempt (addExportClientByIDWithZone exportID accessZone clientToUse false) with
    | .ok _ => ret ()
    | .error _ =>
      match ← attempt (addExportClientByIDWithZone exportID accessZone otherClientToUse false) with
      | .ok _ => ret ()
      | .error _ => fail (.plain (sprintf ["failed to add clients '", clientToUse, "' or '",
          otherClientToUse, "' to export id '", itoa exportID, "'"]))

end IsiService

end CsiPowerscale
