import CsiPowerscale.GoLib.Path
import CsiPowerscale.Stores.Table

namespace CsiPowerscale
open GoLib Stores

structure File where
  name : Str
  data : Str
  deriving DecidableEq

structure Dir where
  path : Str
  files : List File
  deriving DecidableEq

structure Quota where
  num : Nat
  path : Str
  hard : Int
  soft : Int
  advisory : Int
  softGrace : Int
  deriving DecidableEq

def Quota.id (q : Quota) : Str := natToStr q.num

theorem Quota.id_ne_nil (q : Quota) : q.id ≠ [] := by
  obtain ⟨c, cs, hc, _⟩ := natToStr_cons q.num
  simp [Quota.id, hc]

structure Export where
  num : Nat
  paths : List Str
  zone : Str
  description : Str
  xprtsec : Str
  clients : List Str
  readOnlyClients : List Str
  readWriteClients : List Str
  rootClients : List Str
  deriving DecidableEq

inductive ClientField
  | clients
  | readOnly
  | readWrite
  | root
  deriving DecidableEq

namespace Export

def clientList (e : Export) : ClientField → List Str
  | .clients => e.clients
  | .readOnly => e.readOnlyClients
  | .readWrite => e.readWriteClients
  | .root => e.rootClients

def addTo (e : Export) (field : ClientField) (names : List Str) : Export :=
  match field with
  | .clients => { e with clients := e.clients ++ names }
  | .readOnly => { e with readOnlyClients := e.readOnlyClients ++ names }
  | .readWrite => { e with readWriteClients := e.readWriteClients ++ names }
  | .root => { e with rootClients := e.rootClients ++ names }

def without (e : Export) (names : List Str) : Export :=
  { e with
    clients := e.clients.filter fun c => c ∉ names
    readOnlyClients := e.readOnlyClients.filter fun c => c ∉ names
    readWriteClients := e.readWriteClients.filter fun c => c ∉ names
    rootClients := e.rootClients.filter fun c => c ∉ names }

def hasClient (e : Export) (name : Str) : Bool :=
  name ∈ e.clients || name ∈ e.readOnlyClients || name ∈ e.readWriteClients || name ∈ e.rootClients

end Export

def Export.id (e : Export) : Int := e.num + 1

theorem Export.num_of_id {x e : Export} (h : x.id = e.id) : x.num = e.num := by
  unfold Export.id at h
  omega

structure WritableSnapshot where
  dstPath : Str
  source : Nat
  deriving DecidableEq

structure Snapshot where
  num : Nat
  name : Str
  path : Str
  tree : List Dir
  deriving DecidableEq

structure Zone where
  name : Str
  path : Str
  deriving DecidableEq

structure OneFS where
  dirs : Table Dir.path
  quotas : Catalog Quota.num Quota.path
  exports : Registry Export.num
  writables : Table WritableSnapshot.dstPath
  snapshots : Catalog Snapshot.num Snapshot.name
  zones : List Zone
  policies : List Str
  nfsTLSMode : Option Str
  deriving DecidableEq

def namespacePath (isiPath name : Str) : Str := join ["/", isiPath, name]

/-- `q` is the directory `p` or lies below it. -/
def under (p q : Str) : Bool := q = p || startsWith q (p ++ [slash]) || p = [slash]

def relative (p q : Str) : Str := if p = [slash] then q.drop 1 else q.drop (p.length + 1)

def below (p rel : Str) : Str :=
  if rel = [] then p else if p = [slash] then slash :: rel else p ++ slash :: rel

def mergeFiles (new old : List File) : List File :=
  new ++ old.filter fun f => !new.any fun g => g.name = f.name

namespace OneFS

variable (s : OneFS)

def hasDir (p : Str) : Bool := s.dirs.has p

/-- The number of sub-directories, with `.` and `..` counted as the `nlink` attribute does. -/
def nlink (p : Str) : Int :=
  2 + (s.dirs.rows.countP fun d => d.path ≠ p ∧ dir d.path = p : Nat)

def mkdir (p : Str) : OneFS := { s with dirs := s.dirs.add ⟨p, []⟩ }

def rmdir (p : Str) : OneFS := { s with dirs := s.dirs.keep fun d => !under p d.path }

def mergeDir (d : Dir) : OneFS :=
  if s.hasDir d.path then
    { s with
      dirs := s.dirs.update
        (fun e => if e.path = d.path then ⟨e.path, mergeFiles d.files e.files⟩ else e)
        (fun e => by split <;> rfl) }
  else { s with dirs := s.dirs.add d }

/-- Copy a tree of directories with relative paths to `dst`, merging with what is there. -/
def graft (dst : Str) (tree : List Dir) : OneFS :=
  tree.foldl (fun t d => t.mergeDir ⟨below dst d.path, d.files⟩) s

def subtree (src : Str) : List Dir :=
  (s.dirs.rows.filter fun d => under src d.path).map fun d => ⟨relative src d.path, d.files⟩

def treeSize (tree : List Dir) : Int :=
  ((tree.map fun d => (d.files.map fun f => f.data.length).sum).sum : Nat)

def quotaAt (p : Str) : Option Quota := s.quotas.at? p

def quotaById (i : Str) : Option Quota := s.quotas.find? fun q => q.id = i

theorem quotaById_of_mem {s : OneFS} (h : q ∈ s.quotas) : s.quotaById q.id = some q :=
  Registry.find?_unique (t := s.quotas.toRegistry) h (by simp) fun r hr =>
    natToStr_injective (of_decide_eq_true hr)

theorem quotaById_nil : s.quotaById [] = none :=
  Registry.find?_none.2 fun q _ => by simp [q.id_ne_nil]

def addQuota (path : Str) (hard soft advisory softGrace : Int)
    (h : s.quotaAt path = none) : OneFS :=
  { s with
    quotas := s.quotas.add (fun n => ⟨n, path, hard, soft, advisory, softGrace⟩) (fun _ => rfl) h }

def setQuota (i : Str) (hard soft advisory softGrace : Int) : OneFS :=
  { s with
    quotas := s.quotas.update
      (fun q => if q.id = i then ⟨q.num, q.path, hard, soft, advisory, softGrace⟩ else q)
      (fun q => by split <;> rfl) (fun q => by split <;> rfl) }

def modifyQuota (i : Str) (soft advisory softGrace : Option Int) : OneFS :=
  { s with
    quotas := s.quotas.update (fun q => if q.id = i then ⟨q.num, q.path, q.hard, soft.getD q.soft,
        advisory.getD q.advisory, softGrace.getD q.softGrace⟩ else q)
      (fun q => by split <;> rfl) (fun q => by split <;> rfl) }

def dropQuota (i : Str) : OneFS :=
  { s with quotas := s.quotas.keep fun q => q.id ≠ i }

def exportAt (path zone : Str) : Option Export :=
  s.exports.find? fun e => path ∈ e.paths ∧ e.zone = zone

def exportsAt (path zone : Str) : List Export :=
  s.exports.rows.filter fun e => path ∈ e.paths ∧ e.zone = zone

def exportById (i : Int) (zone : Str) : Option Export :=
  s.exports.find? fun e => e.id = i ∧ e.zone = zone

theorem exportById_of_mem {s : OneFS} (h : e ∈ s.exports) : s.exportById e.id e.zone = some e :=
  Registry.find?_unique h (by simp) fun x hx => Export.num_of_id (of_decide_eq_true hx).1

theorem exportAt_some {s : OneFS} (h : s.exportAt path z = some e) :
    e ∈ s.exports ∧ path ∈ e.paths ∧ e.zone = z :=
  ⟨Registry.find?_mem h, by simpa using Registry.find?_sat h⟩

theorem exportById_some {s : OneFS} (h : s.exportById i z = some e) :
    e ∈ s.exports ∧ e.id = i ∧ e.zone = z :=
  ⟨Registry.find?_mem h, by simpa using Registry.find?_sat h⟩

def addExport (path zone description xprtsec : Str) : OneFS :=
  { s with
    exports := s.exports.add
      (fun n => ⟨n, [path], zone, description, xprtsec, [], [], [], []⟩) (fun _ => rfl) }

def dropExport (i : Int) (zone : Str) : OneFS :=
  { s with exports := s.exports.keep fun e => !(e.id = i ∧ e.zone = zone) }

def addClients (field : ClientField) (i : Int) (zone : Str) (names : List Str) : OneFS :=
  { s with
    exports := s.exports.update
      (fun e => if e.id = i ∧ e.zone = zone then e.addTo field names else e)
      (fun e => by split <;> cases field <;> rfl) }

def removeClients (i : Int) (zone : Str) (names : List Str) : OneFS :=
  { s with
    exports := s.exports.update (fun e => if e.id = i ∧ e.zone = zone then e.without names else e)
      (fun e => by split <;> rfl) }

def exportCount (names : List Str) (inZone : Str → Bool) : Int :=
  (s.exports.rows.countP fun e => inZone e.zone ∧ names.any e.hasClient : Nat)

def snapshotById (i : Int) : Option Snapshot :=
  s.snapshots.find? fun x => (x.num : Int) = i

def snapshotByName (name : Str) : Option Snapshot := s.snapshots.at? name

def snapshotByIdentity (i : Str) : Option Snapshot :=
  s.snapshots.find? fun x => natToStr x.num = i ∨ x.name = i

def addSnapshot (name path : Str) (tree : List Dir)
    (h : s.snapshotByName name = none) : OneFS :=
  { s with snapshots := s.snapshots.add (fun n => ⟨n, name, path, tree⟩) (fun _ => rfl) h }

def dropSnapshot (n : Nat) : OneFS :=
  { s with snapshots := s.snapshots.keep fun x => x.num ≠ n }

def writableAt (p : Str) : Bool := s.writables.has p

def addWritable (p : Str) (source : Nat) : OneFS :=
  { s with writables := s.writables.add ⟨p, source⟩ }

def dropWritable (p : Str) : OneFS :=
  { s with writables := s.writables.keep fun x => x.dstPath ≠ p }

def zone (name : Str) : Option Zone := s.zones.find? fun z => z.name = name

theorem mem_mkdir {s : OneFS} :
    d ∈ (s.mkdir p).dirs ↔ d ∈ s.dirs ∨ s.hasDir p = false ∧ d = ⟨p, []⟩ := Table.mem_add

theorem mem_rmdir {s : OneFS} : d ∈ (s.rmdir p).dirs ↔ d ∈ s.dirs ∧ under p d.path = false := by
  simp [rmdir]

theorem mem_addQuota {s : OneFS} {h : s.quotaAt path = none} :
    q ∈ (s.addQuota path hard soft advisory softGrace h).quotas ↔
      q ∈ s.quotas ∨ q = ⟨s.quotas.next, path, hard, soft, advisory, softGrace⟩ :=
  Catalog.mem_add (t := s.quotas) (fun n => ⟨n, path, hard, soft, advisory, softGrace⟩)
    (fun _ => rfl) h

theorem mem_setQuota {s : OneFS} :
    q ∈ (s.setQuota i hard soft advisory softGrace).quotas ↔ ∃ r ∈ s.quotas,
      (if r.id = i then ⟨r.num, r.path, hard, soft, advisory, softGrace⟩ else r) = q := by
  unfold setQuota
  rw [Catalog.mem_update]

theorem mem_dropQuota {s : OneFS} : q ∈ (s.dropQuota i).quotas ↔ q ∈ s.quotas ∧ q.id ≠ i := by
  simp [dropQuota]

theorem mem_addExport {s : OneFS} : e ∈ (s.addExport path z description xprtsec).exports ↔
    e ∈ s.exports ∨ e = ⟨s.exports.next, [path], z, description, xprtsec, [], [], [], []⟩ :=
  Registry.mem_add

theorem mem_dropExport {s : OneFS} :
    e ∈ (s.dropExport i z).exports ↔ e ∈ s.exports ∧ ¬(e.id = i ∧ e.zone = z) := by
  rw [dropExport, Registry.mem_keep, Bool.not_eq_true', decide_eq_false_iff_not]

theorem exportById_dropExport (i : Int) (z : Str) :
    (s.dropExport i z).exportById i z = none := by
  refine Registry.find?_none.2 fun e he => ?_
  simpa using (mem_dropExport.1 he).2

theorem mem_addSnapshot {s : OneFS} {h : s.snapshotByName name = none} :
    x ∈ (s.addSnapshot name path tree h).snapshots ↔
      x ∈ s.snapshots ∨ x = ⟨s.snapshots.next, name, path, tree⟩ :=
  Catalog.mem_add (t := s.snapshots) (fun n => ⟨n, name, path, tree⟩) (fun _ => rfl) h

theorem mem_dropSnapshot {s : OneFS} :
    x ∈ (s.dropSnapshot n).snapshots ↔ x ∈ s.snapshots ∧ x.num ≠ n := by
  simp [dropSnapshot]

theorem mem_addWritable {s : OneFS} :
    x ∈ (s.addWritable p n).writables ↔ x ∈ s.writables ∨ s.writableAt p = false ∧ x = ⟨p, n⟩ :=
  Table.mem_add

theorem mem_dropWritable {s : OneFS} :
    x ∈ (s.dropWritable p).writables ↔ x ∈ s.writables ∧ x.dstPath ≠ p := by
  simp [dropWritable]

def fresh : OneFS where
  dirs := ⟨[⟨"/ifs", []⟩, ⟨"/ifs/data", []⟩], by decide⟩
  quotas := .empty
  exports := .empty
  writables := .empty
  snapshots := .empty
  zones := [⟨"System", "/ifs"⟩]
  policies := []
  nfsTLSMode := none

end OneFS

namespace Export

theorem mem_addTo {e : Export} :
    c ∈ (e.addTo field names).clientList f ↔ c ∈ e.clientList f ∨ f = field ∧ c ∈ names := by
  cases field <;> cases f <;> simp [addTo, clientList]

theorem mem_without {e : Export} :
    c ∈ (e.without names).clientList f ↔ c ∈ e.clientList f ∧ c ∉ names := by
  cases f <;> simp [without, clientList]

theorem hasClient_iff {e : Export} : e.hasClient c = true ↔ ∃ f, c ∈ e.clientList f := by
  constructor
  · intro h
    simp only [hasClient, Bool.or_eq_true, decide_eq_true_eq] at h
    rcases h with ((h | h) | h) | h
    · exact ⟨.clients, h⟩
    · exact ⟨.readOnly, h⟩
    · exact ⟨.readWrite, h⟩
    · exact ⟨.root, h⟩
  · rintro ⟨f, hf⟩
    cases f <;> simp_all [hasClient, clientList]

theorem hasClient_addTo {e : Export} :
    (e.addTo field names).hasClient c = true ↔ e.hasClient c = true ∨ c ∈ names := by
  simp only [hasClient_iff, mem_addTo]
  constructor
  · rintro ⟨f, h | ⟨-, h⟩⟩
    · exact .inl ⟨f, h⟩
    · exact .inr h
  · rintro (⟨f, h⟩ | h)
    · exact ⟨f, .inl h⟩
    · exact ⟨field, .inr ⟨rfl, h⟩⟩

@[simp] theorem addTo_id (e : Export) (field : ClientField) (names : List Str) :
    (e.addTo field names).id = e.id := by
  cases field <;> rfl

@[simp] theorem addTo_zone (e : Export) (field : ClientField) (names : List Str) :
    (e.addTo field names).zone = e.zone := by
  cases field <;> rfl

end Export

namespace OneFS

variable {s : OneFS} {i j : Int} {z y : Str}

theorem exportById_addClients (field : ClientField) (names : List Str) :
    (s.addClients field i z names).exportById j y = (s.exportById j y).map fun e =>
        if e.id = i ∧ e.zone = z then e.addTo field names else e := by
  refine Registry.find?_update fun e => ?_
  split <;> simp

theorem exportById_removeClients (names : List Str) : (s.removeClients i z names).exportById j y =
      (s.exportById j y).map fun e => if e.id = i ∧ e.zone = z then e.without names else e := by
  refine Registry.find?_update fun e => ?_
  split <;> rfl

theorem exportById_addClients_self (field : ClientField) (names : List Str) :
    (s.addClients field i z names).exportById i z =
      (s.exportById i z).map fun e => e.addTo field names := by
  rw [exportById_addClients]
  refine Option.map_congr fun e he => ?_
  rw [if_pos (exportById_some he).2]

theorem exportById_removeClients_self (names : List Str) :
    (s.removeClients i z names).exportById i z =
      (s.exportById i z).map fun e => e.without names := by
  rw [exportById_removeClients]
  refine Option.map_congr fun e he => ?_
  rw [if_pos (exportById_some he).2]

end OneFS

end CsiPowerscale
