import CsiPowerscale.Effects.Interleave
import CsiPowerscale.Footprint
import CsiPowerscale.Publish

namespace CsiPowerscale
open GoLib Stores Effects Effects.Prog IsiService Controller

namespace Driver

def findExport (d : Driver) (cluster : Str) (i : Int) (z : Str) : Option Export :=
  (d.arrays cluster).exportById i z

def addClients (d : Driver) (cluster : Str) (field : ClientField) (i : Int) (z : Str)
    (names : List Str) : Driver :=
  d.setArray cluster ((d.arrays cluster).addClients field i z names)

@[simp] theorem addClients_clients (d : Driver) :
    (d.addClients cluster field i z names).clients = d.clients := rfl

end Driver

def clientField (rootClientEnabled readOnly isROVolumeFromSnapshot : Bool) : ClientField :=
  if readOnly then if rootClientEnabled && isROVolumeFromSnapshot then .root else .readOnly
  else if rootClientEnabled then .root else .clients

/-- Both adders send their clients to this list. -/
structure AddsTo (adders : ExportClientAdders) (field : ClientField) : Prop where
  one : ∀ i z client b, ∃ f, adders.addClient i z client b =
    rename (.addExportClients field i z [client] b) f
  many : ∀ i z clients b, ∃ f, adders.addClients i z clients b =
    rename (.addExportClients field i z clients b) f

theorem getExportClientAdders_addsTo (root readOnly ro : Bool) :
    AddsTo (getExportClientAdders root readOnly ro) (clientField root readOnly ro) := by
  constructor <;> cases root <;> cases readOnly <;> cases ro <;> intros <;> exact ⟨_, rfl⟩

/-- The rules for adding clients from `Cand` under a node ID: `I` holds throughout, and `J` once a
client was added. -/
structure Adding (sh : Sharing DriverCall Driver) (cluster nodeID : Str) (field : ClientField)
    (i : Int) (z : Str) (Cand : Str → Prop) (I J : Driver → Prop) : Prop where
  relyI : ∀ {s t}, sh.rely s t → I s → I t
  relyJ : ∀ {s t}, sh.rely s t → J s → J t
  weaken : ∀ {s}, J s → I s
  read : ∀ {s}, I s → sh.guar s s
  load : ∀ {s c}, I s → s.clients cluster nodeID = some c → Cand c
  add : ∀ {s names}, I s → names ≠ [] → (∀ c ∈ names, Cand c) →
    (s.findExport cluster i z).isSome → sh.guar s (s.addClients cluster field i z names) ∧
      J (s.addClients cluster field i z names)
  guarStore : ∀ {s c}, I s → Cand c → sh.guar s (s.setClient cluster nodeID c)
  storeI : ∀ {s c}, I s → Cand c → I (s.setClient cluster nodeID c)
  storeJ : ∀ {s c}, J s → Cand c → J (s.setClient cluster nodeID c)

namespace Adding

variable {sh : Sharing DriverCall Driver} {cluster nodeID : Str} {field : ClientField} {i : Int}
  {z : Str} {Cand : Str → Prop} {I J : Driver → Prop} {k : Nat} {F : Faults DriverCall Err Driver}
  {s : Driver} {adders : ExportClientAdders}

def Added (I J : Driver → Prop) : Except Err Unit → Driver → Prop
  | .ok _, t => J t
  | .error _, t => I t

variable (h : Adding sh cluster nodeID field i z Cand I J)
include h

theorem added (ht : J t) : Added I J r t := by
  cases r with
  | ok a => exact ht
  | error e => exact h.weaken ht

theorem add_rwp (hs : I s) (hne : names ≠ [])
    (hc : ∀ c ∈ names, Cand c) (b : Bool) (f : Err → Err) :
    rwp (driver k) F sh (onCluster cluster
      (rename (.addExportClients field i z names b) f)) (Added I J) s := by
  intro t ht
  have hI := h.relyI ht hs
  refine ⟨fun _ => ?_, fun e _ u hu => h.relyI hu hI⟩
  simp only [driver_act, Driver.serve, OneFS.serve, OneFS.change]
  cases hx : ((t.arrays cluster).exportById i z).isSome with
  | true =>
    obtain ⟨hg, hJ⟩ := h.add hI hne hc hx
    exact ⟨hg, fun u hu => h.relyJ hu hJ⟩
  | false =>
    simp only [Bool.false_eq_true, if_false, Driver.setArray_self]
    exact ⟨h.read hI, fun u hu => h.relyI hu hI⟩

theorem store_rwp (hs : J s) (hc : Cand client) :
    rwp (driver k) F sh (step (.storeClient cluster nodeID client)) (fun _ t => J t) s := by
  intro t ht
  have hJ := h.relyJ ht hs
  exact ⟨fun _ => ⟨h.guarStore (h.weaken hJ) hc, fun u hu => h.relyJ hu (h.storeJ hJ hc)⟩,
    fun e _ u hu => h.relyJ hu hJ⟩

theorem networkIdentifier_rwp
    (ha : AddsTo adders field) (hn : ∀ n, parseNodeID nodeID = .ok n → Cand n.fqdn ∧ Cand n.ip)
    (ignore : Bool) (hs : I s) : rwp (driver k) F sh
      (addExportClientNetworkIdentifier cluster i z nodeID ignore adders.addClient)
      (Added I J) s := by
  unfold addExportClientNetworkIdentifier
  have hone {t : Driver} (ht : I t) {client : Str} (hc : Cand client) (b : Bool) :
      rwp (driver k) F sh (onCluster cluster (adders.addClient i z client b)) (Added I J) t := by
    obtain ⟨f, hf⟩ := ha.one i z client b
    rw [hf]
    exact h.add_rwp ht (by simp) (by simpa using hc) b f
  have hstore {t : Driver} (ht : J t) {client : Str} (hc : Cand client) :
      rwp (driver k) F sh (step (.storeClient cluster nodeID client)) (Added I J) t :=
    rwp_mono (h.store_rwp ht hc) fun r u hu => h.added hu
  cases hp : parseNodeID nodeID with
  | error e => exact fun u hu => h.relyI hu hs
  | ok n =>
    obtain ⟨hfqdn, hip⟩ := hn n hp
    rw [ofExcept_ok, ret_bind]
    cases ignore with
    | true =>
      simp only [if_true]
      refine rwp_settle (hone hs hip true) fun r t ht => ?_
      cases r with
      | ok a => exact fun u hu => h.relyJ hu ht
      | error e => exact fun u hu => h.relyI hu ht
    | false =>
      simp only [Bool.false_eq_true, if_false]
      refine rwp_seq (M := fun r t => I t ∧ ∀ o, r = .ok o → Cand (o.getD n.fqdn)) ?_
        (fun e t ht u hu => h.relyI hu ht.1) fun o t ht => ?_
      · intro t ht
        have hI := h.relyI ht hs
        refine ⟨fun _ => ⟨h.read hI, fun u hu => ⟨h.relyI hu hI, ?_⟩⟩,
          fun e _ u hu => ⟨h.relyI hu hI, by simp⟩⟩
        rintro o ⟨⟩
        cases hl : t.clients cluster nodeID with
        | none => exact hfqdn
        | some c => exact h.load hI hl
      have hclient := ht.2 o rfl
      refine rwp_settle (hone ht.1 hclient false) fun r t ht => ?_
      cases r with
      | ok a => exact hstore ht hclient
      | error e =>
        have hother : Cand (if o.getD n.fqdn = n.fqdn then n.ip else n.fqdn) := by
          split
          · exact hip
          · exact hfqdn
        refine rwp_settle (hone ht hother false) fun r t ht => ?_
        cases r with
        | ok a => exact hstore ht hother
        | error e => exact fun u hu => h.relyI hu ht

theorem storeClients_rwp
    (hc : ∀ ip ∈ ips, Cand ip) (hs : J s) : rwp (driver k) F sh
      (storeClients cluster nodeID ips) (fun _ t => J t) s := by
  induction ips generalizing s with
  | nil => exact fun t ht => h.relyJ ht hs
  | cons ip ips ih =>
    obtain ⟨hip, hips⟩ := List.forall_mem_cons.1 hc
    exact rwp_seq (h.store_rwp hs hip) (fun e t ht u hu => h.relyJ hu ht) fun _ t ht => ih hips ht

theorem later :
    Adding sh cluster nodeID field i z Cand J J where
  relyI := h.relyJ
  relyJ := h.relyJ
  weaken := id
  read hs := h.read (h.weaken hs)
  load hs := h.load (h.weaken hs)
  add hs := h.add (h.weaken hs)
  guarStore hs := h.guarStore (h.weaken hs)
  storeI := h.storeJ
  storeJ := h.storeJ

theorem addEachClient_rwp
    (ha : AddsTo adders field) (hc : ∀ ip ∈ ips, Cand ip) (hs : I s) :
    rwp (driver k) F sh (addEachClient cluster i z nodeID adders.addClient ips)
      (fun r t => I t ∧ ∀ n, r = .ok n → n ≠ 0 → J t) s := by
  induction ips generalizing s I with
  | nil => exact fun t ht => ⟨h.relyI ht hs, by simp⟩
  | cons ip ips ih =>
    obtain ⟨hip, hips⟩ := List.forall_mem_cons.1 hc
    obtain ⟨f, hf⟩ := ha.one i z ip false
    unfold addEachClient
    rw [hf]
    refine rwp_settle (h.add_rwp hs (by simp) (by simpa using hip) false f) fun r t ht => ?_
    cases r with
    | error e => exact ih h hips ht
    | ok a =>
      have hend {n : Except Err Nat} {u : Driver} (hu : J u) : ∀ v, sh.rely u v →
          I v ∧ ∀ m, n = .ok m → m ≠ 0 → J v :=
        fun v hv => ⟨h.weaken (h.relyJ hv hu), fun _ _ _ => h.relyJ hv hu⟩
      refine rwp_seq (h.store_rwp ht hip) (fun e u hu => hend hu) fun _ u hu => ?_
      exact rwp_seq (ih h.later hips hu) (fun e v hv => hend hv.1) fun n v hv => hend hv.1

theorem addFirstClient_rwp
    (ha : AddsTo adders field) (hc : ∀ ip ∈ ips, Cand ip) (hs : I s) :
    rwp (driver k) F sh (addFirstClient cluster i z nodeID adders.addClient ips)
      (fun r t => I t ∧ (r = .ok true → J t)) s := by
  induction ips generalizing s with
  | nil => exact fun t ht => ⟨h.relyI ht hs, by simp⟩
  | cons ip ips ih =>
    obtain ⟨hip, hips⟩ := List.forall_mem_cons.1 hc
    obtain ⟨f, hf⟩ := ha.one i z ip false
    unfold addFirstClient
    rw [hf]
    refine rwp_settle (h.add_rwp hs (by simp) (by simpa using hip) false f) fun r t ht => ?_
    cases r with
    | error e => exact ih hips ht
    | ok a =>
      have hend {b : Except Err Bool} {u : Driver} (hu : J u) : ∀ v, sh.rely u v →
          I v ∧ (b = .ok true → J v) :=
        fun v hv => ⟨h.weaken (h.relyJ hv hu), fun _ => h.relyJ hv hu⟩
      exact rwp_seq (h.store_rwp ht hip) (fun e u hu => hend hu) fun _ u hu => hend hu

theorem byIP_rwp (ha : AddsTo adders field)
    (hc : ∀ ip ∈ ips, Cand ip) (mode : AllowedNetworksMode) (hs : I s) :
    rwp (driver k) F sh (addExportClientByIPWithZone cluster i z nodeID ips adders mode)
      (Added I J) s := by
  unfold addExportClientByIPWithZone
  cases mode with
  | multi =>
    by_cases hne : ips = []
    · simp only [hne, if_true]
      exact fun u hu => h.relyI hu hs
    simp only [hne, if_false]
    obtain ⟨f, hf⟩ := ha.many i z ips false
    rw [hf]
    refine rwp_settle (h.add_rwp hs hne hc false f) fun r t ht => ?_
    cases r with
    | ok a => exact rwp_mono (h.storeClients_rwp hc ht) fun r u hu => h.added hu
    | error e =>
      refine rwp_seq (h.addEachClient_rwp ha hc ht) (fun e u hu v hv => h.relyI hv hu.1)
        fun n u hu => ?_
      by_cases hn : n = 0
      · simp only [hn, if_true]
        exact fun v hv => h.relyI hv hu.1
      · simp only [hn, if_false]
        exact fun v hv => h.relyJ hv (hu.2 n rfl hn)
  | single =>
    refine rwp_seq (h.addFirstClient_rwp ha hc hs) (fun e t ht u hu => h.relyI hu ht.1)
      fun b t ht => ?_
    cases b with
    | true => exact fun u hu => h.relyJ hu (ht.2 rfl)
    | false => exact fun u hu => h.relyI hu ht.1

omit h in
theorem addClient_rwp {p : Controller.Publication}
    (h : Adding sh p.clusterName nodeID field p.exportID p.accessZone Cand I J)
    (ha : AddsTo adders field) (hips : ∀ ip ∈ p.exportIPs, Cand ip)
    (hn : p.exportIPs = [] → ∀ n, parseNodeID nodeID = .ok n → Cand n.fqdn ∧ Cand n.ip) (hs : I s) :
    rwp (driver k) F sh (p.addClient svc nodeID adders) (Added I J) s := by
  unfold Controller.Publication.addClient
  by_cases hne : p.exportIPs = []
  · simp only [hne, ne_eq, not_true_eq_false, if_false]
    exact h.networkIdentifier_rwp ha (hn hne) _ hs
  · simp only [ne_eq, hne, not_false_eq_true, if_true]
    exact h.byIP_rwp ha hips _ hs

end Adding

section Checks

variable {sh : Sharing DriverCall Driver} {cluster nodeID z : Str} {i : Int} {k : Nat}
  {F : Faults DriverCall Err Driver} {s : Driver} {K : Bool → Driver → Prop}

/-- An export without clients is asked for the FQDN only. -/
def Export.hasHost (e : Export) (n : NodeID) : Bool :=
  (e.clientFields.any fun l => !l.isEmpty) && (isStringInSlices n.name e.clientFields ||
      (n.ip ≠ [] && isStringInSlices n.ip e.clientFields)) ||
    isStringInSlices n.fqdn e.clientFields

theorem Export.isStringInSlices_clientFields (e : Export) (c : Str) :
    isStringInSlices c e.clientFields = e.hasClient c := by
  simp [isStringInSlices, clientFields, hasClient, Bool.or_assoc]

theorem Export.clientFields_ne {e : Export} (h : e.hasClient c = true) :
    (e.clientFields.any fun l => !l.isEmpty) = true := by
  rw [← isStringInSlices_clientFields, isStringInSlices, List.any_eq_true] at h
  obtain ⟨l, hl, hc⟩ := h
  exact List.any_eq_true.2 ⟨l, hl, by cases l <;> simp_all⟩

theorem Export.hasHost_iff {e : Export} : e.hasHost n = true ↔
    e.hasClient n.name = true ∨ n.ip ≠ [] ∧ e.hasClient n.ip = true ∨ e.hasClient n.fqdn = true := by
  simp only [hasHost, isStringInSlices_clientFields, Bool.or_eq_true, Bool.and_eq_true,
    decide_eq_true_eq]
  constructor
  · rintro (⟨-, h | h⟩ | h)
    · exact .inl h
    · exact .inr (.inl h)
    · exact .inr (.inr h)
  · rintro (h | h | h)
    · exact .inl ⟨clientFields_ne h, .inl h⟩
    · exact .inl ⟨clientFields_ne h.2, .inr h⟩
    · exact .inr h

/-- An export that cannot be read counts as having the host. -/
def Driver.hostAdded (d : Driver) (cluster : Str) (i : Int) (z nodeID : Str) : Bool :=
  match d.findExport cluster i z, parseNodeID nodeID with
  | some e, .ok n => e.hasHost n
  | _, _ => true

theorem otherClientsAlreadyAdded_uses :
    uses Call.IsRead (otherClientsAlreadyAdded i z nodeID) := by
  refine uses_ask_bind trivial fun r => ?_
  rcases r with e | _ | e
  · trivial
  · trivial
  · dsimp only
    split <;> trivial

theorem isHostAlreadyAdded_rwp (hserve : ∀ t, sh.rely s t → sh.guar t t ∧
      ∀ u, sh.rely t u → K (t.hostAdded cluster i z nodeID) u)
    (hfault : ∀ t e, sh.rely s t → F t (.array cluster (.getExportByID i z)) e →
      ∀ u, sh.rely t u → K true u) :
    rwp (driver k) F sh (onCluster cluster (isHostAlreadyAdded i z nodeID))
      (fun r t => ∃ b, r = .ok b ∧ K b t) s := by
  intro t ht
  refine ⟨fun _ => ?_, fun e he u hu => ⟨true, rfl, hfault t e ht he u hu⟩⟩
  obtain ⟨hg, hk⟩ := hserve t ht
  simp only [Driver.hostAdded, Driver.findExport] at hk
  simp only [driver_act, Driver.serve, OneFS.serve]
  cases hx : (t.arrays cluster).exportById i z with
  | none =>
    simp only [hx] at hk
    simp only [Option.map_none, OneFS.reply, Driver.setArray_self]
    exact ⟨hg, fun u hu => ⟨true, rfl, hk u hu⟩⟩
  | some e =>
    simp only [hx] at hk
    simp only [Option.map_some, OneFS.reply, Driver.setArray_self]
    cases hn : parseNodeID nodeID with
    | error _ =>
      simp only [hn] at hk
      exact ⟨hg, fun u hu => ⟨true, rfl, hk u hu⟩⟩
    | ok n =>
      simp only [hn] at hk
      exact ⟨hg, fun u hu => ⟨e.hasHost n, rfl, hk u hu⟩⟩

end Checks

namespace Controller.Publication

variable {svc : Service} {p : Publication} {sh : Sharing DriverCall Driver} {Cand : Str → Prop}
  {I I' J : Driver → Prop} {k : Nat} {F : Faults DriverCall Err Driver} {s : Driver}

abbrev Adds (p : Publication) (sh : Sharing DriverCall Driver) (nodeID : Str) (field : ClientField)
    (Cand : Str → Prop) (I J : Driver → Prop) : Prop :=
  Adding sh p.clusterName nodeID field p.exportID p.accessZone Cand I J

def SkipsDummy (p : Publication) (sh : Sharing DriverCall Driver) (I : Driver → Prop) : Prop :=
  (∀ t, I t → t.hostAdded p.clusterName p.exportID p.accessZone dummyHostNodeID = true) ∨
    ∃ Cand : Str → Prop, p.Adds sh dummyHostNodeID .clients Cand I I ∧ (∀ ip ∈ p.exportIPs, Cand ip) ∧
      (p.exportIPs = [] → Cand "localhost" ∧ Cand "127.0.0.1")

theorem addWriter_rwp (hd : p.SkipsDummy sh I)
    (hn : p.Adds sh p.nodeID (clientField p.rootClientEnabled false p.isROVolumeFromSnapshot)
      Cand I I')
    (hroot : p.rootClientEnabled = true → p.Adds sh p.nodeID .clients Cand I' J)
    (hplain : p.rootClientEnabled = false → ∀ t, I' t → J t)
    (hips : ∀ ip ∈ p.exportIPs, Cand ip)
    (hid : p.exportIPs = [] → ∀ n, parseNodeID p.nodeID = .ok n → Cand n.fqdn ∧ Cand n.ip)
    (hs : I s) : rwp (driver k) F sh (p.addWriter svc) (Adding.Added I J) s := by
  have hwrite {t : Driver} (ht : I t) : rwp (driver k) F sh (do
      p.addClient svc p.nodeID
        (getExportClientAdders p.rootClientEnabled false p.isROVolumeFromSnapshot)
      if p.rootClientEnabled then
        p.addClient svc p.nodeID (getExportClientAdders false false false)) (Adding.Added I J) t := by
    refine rwp_seq (hn.addClient_rwp (getExportClientAdders_addsTo _ _ _) hips hid ht)
      (fun e u hu v hv => hn.relyI hv hu) fun _ u hu => ?_
    cases hr : p.rootClientEnabled with
    | false => exact fun v hv => hplain hr v (hn.relyJ hv hu)
    | true =>
      refine rwp_mono ((hroot hr).addClient_rwp (getExportClientAdders_addsTo false false false)
        hips hid hu) fun r v hv => ?_
      cases r with
      | ok a => exact hv
      | error e => exact hn.weaken hv
  unfold addWriter
  refine rwp_seq (M := fun r t => ∃ b, r = .ok b ∧ I t ∧
    (b = false → ¬∀ t, I t → t.hostAdded p.clusterName p.exportID p.accessZone dummyHostNodeID = true))
    (isHostAlreadyAdded_rwp (fun t ht => ?_) fun t e ht _ u hu => ?_)
    (fun e t ⟨b, hb, _⟩ => by cases hb) ?_
  · have hI := hn.relyI ht hs
    refine ⟨hn.read hI, fun u hu => ⟨hn.relyI hu hI, fun hb hall => ?_⟩⟩
    rw [hall t hI] at hb
    cases hb
  · exact ⟨hn.relyI hu (hn.relyI ht hs), by simp⟩
  rintro b t ⟨_, ⟨⟩, ht, hb⟩
  cases b with
  | true => exact hwrite ht
  | false =>
    rcases hd with hall | ⟨CandD, hadd, hipsD, hidD⟩
    · exact (hb rfl hall).elim
    refine rwp_settle (hadd.addClient_rwp (getExportClientAdders_addsTo false false false)
      hipsD ?_ ht) fun r u hu => hwrite (by cases r <;> exact hu)
    intro hne n hpn
    rw [parseNodeID_dummyHostNodeID] at hpn
    cases hpn
    exact hidD hne

theorem authorize_rwp (hrely : ∀ {s t}, sh.rely s t → I s → I t) (hread : ∀ {s}, I s → sh.guar s s)
    (hJ : ∀ {s t}, sh.rely s t → J s → J t)
    (hwriter : p.mode ≠ .multiNodeReaderOnly → p.isROVolumeFromSnapshot = false → ∀ {t}, I t →
      rwp (driver k) F sh (p.addWriter svc) (Adding.Added I J) t)
    (hreader : p.mode = .multiNodeReaderOnly → ∀ {t}, I t → rwp (driver k) F sh
      (p.addClient svc p.nodeID
        (getExportClientAdders p.rootClientEnabled true p.isROVolumeFromSnapshot))
      (Adding.Added I J) t)
    (hs : I s) : rwp (driver k) F sh (p.authorize svc) (Adding.Added I J) s := by
  have hend {e : Err} {t : Driver} (ht : I t) :
      ∀ u, sh.rely t u → Adding.Added I J (.error e) u := fun u hu => hrely hu ht
  have hadd {q : DriverM Unit} {t : Driver} (h : rwp (driver k) F sh q (Adding.Added I J) t) :
      rwp (driver k) F sh (p.guardAdd svc q) (Adding.Added I J) t := by
    refine rwp_settle h fun r u hu => ?_
    cases r with
    | ok a => exact fun v hv => hJ hv hu
    | error e => exact hend hu
  have hwrite (hm : p.mode ≠ .multiNodeReaderOnly) {t : Driver} (ht : I t) : rwp (driver k) F sh
      (p.authorizeWriter svc) (Adding.Added I J) t := by
    unfold authorizeWriter
    split
    · exact hend ht
    · next hro => exact hadd (hwriter hm (by simpa using hro) ht)
  unfold authorize
  cases hm : p.mode with
  | multiNodeMultiWriter => exact hwrite (by simp [hm]) hs
  | multiNodeReaderOnly => exact hadd (hreader hm hs)
  | singleNodeWriter | singleNodeSingleWriter | singleNodeMultiWriter =>
    have hnot : p.mode ≠ .multiNodeReaderOnly := by simp [hm]
    dsimp only
    split
    · exact hwrite hnot hs
    refine rwp_seq (rwp_of_uses (U := DriverCall.IsRead)
      (onCluster_uses otherClientsAlreadyAdded_uses) hrely ?_ hs)
      (fun e t ht => hend ht) fun b t ht => ?_
    · intro c t hc ht
      rw [hc.serve k t]
      exact ⟨hread ht, ht⟩
    · cases b with
      | true => exact hend ht
      | false => exact hwrite hnot ht
  | unknown | singleNodeReaderOnly | multiNodeSingleWriter => exact hend hs

end Controller.Publication

namespace Controller

variable {svc : Service} {p : Publication} {i : Nat} {F : Faults DriverCall Err Driver}
  {I : Driver → Prop} {Q : Except Err Unit → Driver → Prop} {s : Driver}

theorem withLock_wp (hbody : ∀ {m}, wp (driver i) F body Q (s.setLock key m))
    (hunlock : ∀ {r t m}, Q r t → Q r (t.setLock key m)) (herr : ∀ {e}, Q (.error e) s)
    (hfail : ∀ {r t e}, Q r t → Q (.error e) t) : wp (driver i) F (withLock key body) Q s := by
  unfold withLock
  rw [wp_bind, wp_op]
  refine ⟨?_, fun e _ => herr⟩
  simp only [driver_act, Driver.serve, andThen_ok]
  rw [wp_bind, wp_attempt]
  refine wp_mono hbody fun r t ht => ?_
  rw [andThen_ok, wp_bind, wp_op]
  refine ⟨?_, fun e _ => hfail ht⟩
  simp only [driver_act, Driver.serve, andThen_ok]
  cases r with
  | ok a => exact hunlock ht
  | error e => exact hunlock ht

theorem publish_wp (hlock : ∀ {t key m}, I t → I (t.setLock key m))
    (hunlock : ∀ {r t key m}, Q r t → Q r (t.setLock key m))
    (hfast : p.directoryBacked = true → ∀ {t}, I t →
      t.hostAdded p.clusterName p.exportID p.accessZone p.nodeID = true ∨
        (∃ e, F t (.array p.clusterName (.getExportByID p.exportID p.accessZone)) e) →
      Q (.ok ()) t)
    (hadd : ∀ {t}, I t → (p.directoryBacked = true →
      t.hostAdded p.clusterName p.exportID p.accessZone p.nodeID = false) →
      wp (driver i) F (p.authorize svc) Q t)
    (herr : ∀ {t e}, I t → Q (.error e) t) (hfail : ∀ {r t e}, Q r t → Q (.error e) t) (hs : I s) :
    wp (driver i) F (publish svc p) Q s := by
  unfold publish
  split
  · next hd =>
    rw [wp_bind, wp_op]
    refine ⟨?_, fun e _ => herr hs⟩
    simp only [driver_act, Driver.serve, andThen_ok]
    refine wp_seq (rwp_alone.1 (isHostAlreadyAdded_rwp
      (K := fun b t => I t ∧ (b = true → Q (.ok ()) t) ∧
        (b = false → t.hostAdded p.clusterName p.exportID p.accessZone p.nodeID = false)) ?_ ?_))
      (by rintro e t ⟨b, ⟨⟩, _⟩) ?_
    · rintro t rfl
      refine ⟨trivial, ?_⟩
      rintro u rfl
      exact ⟨hlock hs, fun hb => hfast hd (hlock hs) (.inl hb), id⟩
    · rintro t e rfl he u rfl
      exact ⟨hlock hs, fun _ => hfast hd (hlock hs) (.inr ⟨e, he⟩), by simp⟩
    rintro b t ⟨_, ⟨⟩, hI, hyes, hno⟩
    rw [wp_bind, wp_op]
    refine ⟨?_, fun e _ => herr hI⟩
    simp only [driver_act, Driver.serve, andThen_ok]
    cases b with
    | true => exact hunlock (hyes rfl)
    | false =>
      exact withLock_wp (fun {m} => hadd (hlock (hlock hI)) fun _ => hno rfl) hunlock
        (herr (hlock hI)) hfail
  · next hd => exact hadd hs fun h => absurd h hd

end Controller

def Kube.labelsOf (k : Kube) (nodeID : Str) : List Str :=
  match parseNodeID nodeID with
  | .ok n => (k.labels.lookup n.name).getD []
  | .error _ => []

namespace Controller

variable (svc : Service)

/-- The addresses that the labels of the node give for the request. -/
def exportIPs (k : Kube) (req : ControllerPublishVolumeRequest) : List Str :=
  let azNetwork := req.volumeContext.get "AzNetwork"
  if azNetwork ≠ [] then azNetworkIPs (k.labelsOf req.nodeID) azNetwork
  else if usesAllowedNetworks svc then
    allowedNetworkIPs (k.labelsOf req.nodeID) svc.allowedNetworks
  else []

theorem exportIPs_subset (k : Kube) (req : ControllerPublishVolumeRequest)
    (h : ip ∈ exportIPs svc k req) : ip ∈ labelIPs (k.labelsOf req.nodeID) := by
  simp only [exportIPs] at h
  split at h
  · exact List.mem_of_mem_filter h
  · split at h
    · exact List.mem_of_mem_filter h
    · cases h

/-- The checks pass the data of the request on. -/
structure Publication.For (req : ControllerPublishVolumeRequest) (p : Publication) : Prop where
  volume : ∃ v cfg, parseNormalizedVolumeID req.volumeID = .ok v ∧
    svc.getIsilonConfig v.clusterName = .ok (p.clusterName, cfg) ∧
    p.exportID = v.exportID ∧ p.accessZone = v.accessZone ∧
    p.ignoreUnresolvableHosts = cfg.ignoreUnresolvableHosts
  node : p.nodeID = req.nodeID
  parsed : ∃ n, parseNodeID req.nodeID = .ok n
  mode : publishAccessMode svc req = .ok p.mode
  root : p.rootClientEnabled = (parseBool (req.volumeContext.get "RootClientEnabled")).getD false
  snapshot : p.isROVolumeFromSnapshot =
    CsiPowerscale.isROVolumeFromSnapshot (req.volumeContext.get "Path") p.accessZone
  directory : p.directoryBacked =
    NodeService.isDirectoryBackedContext req.volumeID req.volumeContext

variable {svc} {req : ControllerPublishVolumeRequest}

theorem getExportPathFromExportID_uses : uses Call.IsRead (getExportPathFromExportID i z) := by
  refine uses_ask_bind trivial fun r => ?_
  rcases r with e | _ | e
  · trivial
  · trivial
  · dsimp only
    split <;> trivial

theorem publishExportPath_uses : uses Call.IsRead (publishExportPath cfg v ctx) := by
  unfold publishExportPath
  split
  · trivial
  · refine uses_attempt_bind getExportPathFromExportID_uses fun r => ?_
    split <;> trivial

theorem checkPublishedVolume_uses :
    uses Call.IsRead (checkPublishedVolume svc v ctx exportPath) := by
  unfold checkPublishedVolume
  split
  · refine uses_ask_bind trivial fun r => ?_
    split <;> trivial
  split
  · split
    · trivial
    refine uses_ask_bind trivial fun r => ?_
    cases r with
    | error e => trivial
    | ok vol =>
      dsimp only
      split <;> trivial
  · trivial

theorem checkExportCount_uses : uses Call.IsRead (checkExportCount svc nodeID nodeIP ips z) := by
  unfold checkExportCount
  refine uses_attempt_bind ?_ fun r => ?_
  · split
    · exact (uses_op _).2 trivial
    · exact (uses_op _).2 trivial
  cases r with
  | error e => trivial
  | ok n =>
    dsimp only
    split <;> trivial

theorem checkRequest_uses : uses DriverCall.IsRead (checkRequest svc req ips) := by
  unfold checkRequest
  split
  · trivial
  split
  · trivial
  next v hv =>
  refine uses_bind (uses_ofExcept _) fun x => ?_
  obtain ⟨clusterName, cfg⟩ := x
  refine uses_bind (onCluster_uses (autoProbe_uses trivial cfg)) fun _ => ?_
  split
  · trivial
  refine uses_bind (onCluster_uses publishExportPath_uses) fun path => ?_
  refine uses_bind (onCluster_uses checkPublishedVolume_uses) fun _ => ?_
  refine uses_bind (uses_ofExcept _) fun mode => ?_
  split
  · trivial
  · exact uses_bind (onCluster_uses checkExportCount_uses) fun _ => trivial

theorem checkRequest_yields :
    yields (fun p => Publication.For svc req p ∧ p.exportIPs = ips) (checkRequest svc req ips) := by
  unfold checkRequest
  split
  · trivial
  split
  · trivial
  next v hv =>
  refine yields_bind (yields_ofExcept _) fun x hx => yields_bind_any fun _ => ?_
  obtain ⟨clusterName, cfg⟩ := x
  split
  · trivial
  refine yields_bind_any fun path => yields_bind_any fun _ => ?_
  refine yields_bind (yields_ofExcept _) fun mode hmode => ?_
  split
  · trivial
  · next n hn =>
    refine yields_bind_any fun _ => ?_
    exact ⟨⟨⟨v, cfg, hv, hx, rfl, rfl, rfl⟩, rfl, ⟨n, hn⟩, hmode, rfl, rfl, rfl⟩, rfl⟩

section Rely

variable {sh : Sharing DriverCall Driver} {i : Nat} {F : Faults DriverCall Err Driver} {s : Driver}
  {I : Driver → Prop} {k : Kube}

/-- What others do keeps `I` and the labels. -/
structure Reading (sh : Sharing DriverCall Driver) (I : Driver → Prop) (k : Kube) : Prop where
  rely : ∀ {s t}, sh.rely s t → I s → I t
  read : ∀ {s}, I s → sh.guar s s
  labels : ∀ {s}, I s → s.kube.labels = k.labels

theorem Reading.still (d : Driver) : Reading .alone (fun t => t = d) d.kube :=
  ⟨fun h hs => h ▸ hs, fun _ => trivial, fun hs => hs ▸ rfl⟩

variable (h : Reading sh I k)
include h

theorem Reading.rwp {p : DriverM α} (hp : uses DriverCall.IsRead p) (hs : I s) :
    rwp (driver i) F sh p (fun _ t => I t) s :=
  rwp_of_uses hp h.rely (fun c t hc ht => by
    rw [hc.serve i t]
    exact ⟨h.read ht, ht⟩) hs

theorem Reading.getNodeLabels (hn : parseNodeID nodeID = .ok n) (hs : I s) :
    Prog.rwp (driver i) F sh (step (.getNodeLabels n.name))
      (fun r t => I t ∧ ∀ labels, r = .ok labels → labels = k.labelsOf nodeID) s := by
  intro t ht
  have hI := h.rely ht hs
  refine ⟨fun _ => ?_, fun e _ u hu => ⟨h.rely hu hI, by simp⟩⟩
  have hread : DriverCall.IsRead (.getNodeLabels n.name) := trivial
  rw [hread.serve i t]
  refine ⟨h.read hI, ?_⟩
  simp only [driver_act, Driver.serve, Driver.labelsOf, h.labels hI]
  cases hl : k.labels.lookup n.name with
  | none => exact fun u hu => ⟨h.rely hu hI, by simp⟩
  | some l =>
    refine fun u hu => ⟨h.rely hu hI, ?_⟩
    rintro labels ⟨⟩
    simp [Kube.labelsOf, hn, hl]

theorem Reading.getIpsFromLabels (nodeID : Str) (select : List Str → List Str)
    (noMatch : Str) (hs : I s) :
    Prog.rwp (driver i) F sh (getIpsFromLabels nodeID select noMatch)
      (fun r t => I t ∧ ∀ ips, r = .ok ips → ips = select (k.labelsOf nodeID) ∧ ips ≠ []) s := by
  unfold Controller.getIpsFromLabels
  cases hn : parseNodeID nodeID with
  | error e => exact fun t ht => ⟨h.rely ht hs, by simp⟩
  | ok n =>
    rw [ofExcept_ok, ret_bind]
    refine rwp_seq (h.getNodeLabels hn hs) (fun e t ht u hu => ⟨h.rely hu ht.1, by simp⟩)
      fun labels t ht => ?_
    obtain ⟨hI, hl⟩ := ht
    obtain rfl := hl labels rfl
    split
    · exact fun u hu => ⟨h.rely hu hI, by simp⟩
    next hne =>
    refine fun u hu => ⟨h.rely hu hI, ?_⟩
    rintro ips ⟨⟩
    exact ⟨rfl, hne⟩

theorem Reading.settleIPs {l : List Str} {f : Err → Err}
    (hq : Prog.rwp (driver i) F sh q (fun r t => I t ∧ ∀ ips, r = .ok ips → ips = l ∧ ips ≠ []) s) :
    Prog.rwp (driver i) F sh (do
      match ← attempt q with
      | .ok ips => ret ips
      | .error e => fail (f e)) (fun r t => I t ∧ ∀ ips, r = .ok ips → ips = l) s := by
  refine rwp_settle hq fun r t ht => ?_
  cases r with
  | error e => exact fun u hu => ⟨h.rely hu ht.1, by simp⟩
  | ok ips =>
    refine fun u hu => ⟨h.rely hu ht.1, ?_⟩
    rintro _ ⟨⟩
    exact (ht.2 ips rfl).1

theorem Reading.resolveExportIPs (hs : I s) :
    Prog.rwp (driver i) F sh (resolveExportIPs svc req)
      (fun r t => I t ∧ ∀ ips, r = .ok ips → ips = exportIPs svc k req) s := by
  unfold Controller.resolveExportIPs exportIPs
  dsimp only
  split
  · exact h.settleIPs (h.getIpsFromLabels _ _ _ hs)
  · split
    · exact h.settleIPs (h.getIpsFromLabels _ _ _ hs)
    · exact fun t ht => ⟨h.rely ht hs, by simp⟩

theorem Reading.checkPublish (hs : I s) :
    Prog.rwp (driver i) F sh (checkPublish svc req) (fun r t => I t ∧ ∀ p, r = .ok p →
      Publication.For svc req p ∧ p.exportIPs = exportIPs svc k req) s := by
  refine rwp_seq (h.resolveExportIPs hs) (fun e t ht u hu => ⟨h.rely hu ht.1, by simp⟩)
    fun ips t ht => ?_
  obtain ⟨hI, hips⟩ := ht
  obtain rfl := hips ips rfl
  exact rwp_yields (h.rwp checkRequest_uses hI) checkRequest_yields

end Rely

end Controller

end CsiPowerscale
