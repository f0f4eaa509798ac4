import CsiPowerscale.Replication

namespace CsiPowerscale
open GoLib Effects Effects.Prog

namespace Replication

variable {peer : Str → Str} {cluster remote vgName : Str} {remoteCfg : ClusterConfig} {s t : Sites}

def ReprotectCall (cluster ppName : Str) (c : SiteCall) : Prop :=
  c.call.IsRead ∨ c.call = .deletePolicy ppName ∨
    c.cluster = cluster ∧ ∃ rpo source target host cert,
      c.call = .createPolicy ppName rpo source target host cert true

theorem reprotect_uses : uses (ReprotectCall cluster (groupPolicy vgName))
    (reprotect cluster remote remoteCfg vgName) := by
  refine uses_ask_bind (.inl trivial) fun r => ?_
  split
  · trivial
  · trivial
  split
  · trivial
  refine uses_ask_bind (.inl trivial) fun r => ?_
  split
  · trivial
  · trivial
  · refine uses_bind (step_uses (.inr (.inl rfl))) fun _ => ?_
    refine uses_bind (step_uses (.inr (.inr ⟨rfl, _, _, _, _, _, rfl⟩))) fun _ => ?_
    exact step_uses (.inl trivial)

theorem reprotect_halts : halts (reprotect cluster remote remoteCfg vgName) := by
  apply halts_ask_bind
  · intro e
    exact ⟨_, rfl⟩
  intro localTP
  split
  · trivial
  · trivial
  split
  · trivial
  apply halts_ask_bind
  · intro e
    exact ⟨_, rfl⟩
  intro remotePolicy
  split
  · trivial
  · trivial
  · exact halts_bind step_halts fun _ => halts_bind step_halts fun _ => step_halts

theorem run_reprotect_untargeted (h : (s cluster).targets (groupPolicy vgName) = none) :
    ∃ e, run (sites peer) (reprotect cluster remote remoteCfg vgName) s = (.error e, s) := by
  simp only [reprotect, run_ask_bind, sites_act, Sites.serve, h, Sites.look]
  exact ⟨_, rfl⟩

theorem targets_gone (hp : Paired peer cluster remote) (c : SiteCall) (u : Sites)
    (hc : ReprotectCall cluster ppName c) (hu : (u cluster).targets ppName = none) :
    (((sites peer).act c u).2 cluster).targets ppName = none := by
  obtain ⟨site, call⟩ := c
  rcases hc with hread | hdel | ⟨hsite, rpo, source, target, host, cert, hcall⟩
  · rw [hread.serve]
    exact hu
  · obtain rfl : call = .deletePolicy ppName := hdel
    simp only [sites_act, Sites.serve, Sites.answer]
    split
    · rw [Sites.setTarget_targets, Sites.setPolicy_targets, hu, ite_self]
    · exact hu
  · obtain rfl : site = cluster := hsite
    obtain rfl : call = _ := hcall
    simp only [sites_act, Sites.serve, Sites.newPolicy]
    split
    · exact hu
    · rw [Sites.setTarget_targets, Sites.setPolicy_targets, hp.forth, if_neg fun h => hp.ne h.1]
      exact hu

theorem calls_reprotect
    (h : run (sites peer) (reprotect cluster remote remoteCfg vgName) s = (.ok (), t)) :
    ((s remote).policies (groupPolicy vgName)).isSome = true ∧
      ∃ rest, calls (sites peer) (reprotect cluster remote remoteCfg vgName) s =
        (s, ⟨cluster, .getTargetPolicyByName (groupPolicy vgName)⟩) ::
        (s, ⟨remote, .getPolicyByName (groupPolicy vgName)⟩) ::
        (s, ⟨remote, .deletePolicy (groupPolicy vgName)⟩) :: rest := by
  cases htarget : (s cluster).targets (groupPolicy vgName) with
  | none =>
    have hstop : ∃ e, run (sites peer) (reprotect cluster remote remoteCfg vgName) s = (.error e, s) :=
      run_reprotect_untargeted htarget
    obtain ⟨e, he⟩ := hstop
    rw [he] at h
    cases h
  | some localTP =>
    simp only [reprotect, run_ask_bind, calls_ask_bind, sites_act, Sites.serve, htarget,
      Sites.look] at h ⊢
    by_cases hwrites : localTP.failoverFailbackState ≠ .writesEnabled
    · rw [if_pos hwrites] at h
      cases h
    rw [if_neg hwrites] at h ⊢
    cases hpolicy : (s remote).policies (groupPolicy vgName) with
    | none =>
      simp only [run_ask_bind, sites_act, Sites.serve, hpolicy, Sites.look] at h
      cases h
    | some remotePolicy =>
      refine ⟨rfl, ?_⟩
      simp only [calls_ask_bind, sites_act, Sites.serve, hpolicy, Sites.look, step, bind_assoc]
      exact ⟨_, rfl⟩

theorem calls_runAction : calls (sites peer) (runAction func) s = calls (sites peer) func s := by
  rw [runAction, calls_bind, calls_attempt, run_attempt]
  cases (run (sites peer) func s).1 <;> simp

theorem run_runAction_ok :
    run (sites peer) (runAction func) s = (.ok (), t) ↔ run (sites peer) func s = (.ok (), t) := by
  rw [runAction, run_bind, run_attempt]
  cases h : run (sites peer) func s with
  | mk r u =>
    cases r with
    | ok a => exact Iff.rfl
    | error e =>
      constructor
      · intro he
        cases he
      · intro he
        cases he

theorem run_reportStatus_now (now' : Int)
    (h : run (sites peer) (reportStatus now cluster remote vgName) s = (.ok resp, t)) :
    ∃ resp', run (sites peer) (reportStatus now' cluster remote vgName) s = (.ok resp', t) := by
  simp only [reportStatus, groupStatus, run_bind, run_attempt] at h ⊢
  cases hread : run (sites peer) (readStatus cluster remote vgName) s with
  | mk r u =>
    rw [hread] at h
    cases r with
    | error e => cases h
    | ok x =>
      cases h
      exact ⟨_, rfl⟩

theorem calls_reprotectAction (hpre : uses (fun c => c.call = .probe) pre)
    (h : run (sites peer) (pre >>= fun _ => runAction (reprotect cluster remote remoteCfg
      vgName)) s = (.ok (), t)) :
    ∃ l r, calls (sites peer) (pre >>= fun _ => runAction (reprotect cluster remote remoteCfg vgName)) s =
        l ++ (s, ⟨remote, .deletePolicy (groupPolicy vgName)⟩) :: r ∧
      (∀ x ∈ l, x.2.call.IsRead) ∧ ((s remote).policies (groupPolicy vgName)).isSome = true := by
  obtain ⟨a, s', hrun, haction⟩ := run_bind_ok.1 h
  have hkeep : (run (sites peer) pre s).2 = s := run_state_of_uses hpre fun c u => probe_state u
  rw [hrun] at hkeep
  obtain rfl : s' = s := hkeep
  obtain ⟨hpolicy, rest, hcalls⟩ := calls_reprotect (run_runAction_ok.1 haction)
  refine ⟨calls (sites peer) pre s' ++
    [(s', ⟨cluster, .getTargetPolicyByName (groupPolicy vgName)⟩),
      (s', ⟨remote, .getPolicyByName (groupPolicy vgName)⟩)], rest, ?_, ?_, hpolicy⟩
  · rw [calls_bind, hrun]
    simp [calls_runAction, hcalls]
  intro x hx
  rcases List.mem_append.1 hx with hx | hx
  · rw [calls_of_uses hpre x hx]
    trivial
  rcases List.mem_cons.1 hx with rfl | hx
  · trivial
  · rw [List.mem_singleton.1 hx]
    trivial

theorem reprotectAction_untargeted (hpre : uses (fun c => c.call = .probe) pre)
    (hgone : (s cluster).targets (groupPolicy vgName) = none) :
    run (sites peer) (pre >>= fun _ => runAction (reprotect cluster remote remoteCfg vgName)) s ≠
      (.ok (), t) := by
  intro h
  obtain ⟨a, s', hrun, haction⟩ := run_bind_ok.1 h
  have hkeep : (run (sites peer) pre s).2 = s := run_state_of_uses hpre fun c u => probe_state u
  rw [hrun] at hkeep
  obtain rfl : s' = s := hkeep
  have hstop : ∃ e, run (sites peer) (reprotect cluster remote remoteCfg vgName) s' = (.error e, s') :=
    run_reprotect_untargeted hgone
  obtain ⟨e, he⟩ := hstop
  rw [run_runAction_ok, he] at haction
  cases haction

/-- After an attempt of `reprotect` that failed at one call, a second one succeeds, and ends as the
first would have, if and only if the first had not deleted the remote policy. -/
theorem reprotect_retry_iff (peer : Str → Str) (contextPre : Str) (now now' : Int) (svc : Service)
    (req : ExecuteActionRequest) (cluster remote vgName : Str) (remoteCfg : ClusterConfig) (s t : Sites)
    (resp : StorageProtectionGroupStatus) (k : Nat) (e : Err)
    (hgroup : Group contextPre svc req.protectionGroupAttributes cluster remote remoteCfg vgName)
    (hpair : Paired peer cluster remote) (haction : req.action = .reprotectLocal)
    (hrun : run (sites peer) (executeAction contextPre now svc req) s = (.ok resp, t)) :
    (∃ resp', run (sites peer) (executeAction contextPre now' svc req)
        (failAt (sites peer) (executeAction contextPre now svc req) k e s).2 = (.ok resp', t)) ↔
      ∀ x ∈ (calls (sites peer) (executeAction contextPre now svc req) s).take k,
        ¬x.2 = ⟨remote, .deletePolicy (groupPolicy vgName)⟩ := by
  obtain ⟨pre, hpreHalts, hpreUses, heq⟩ := hgroup.executeAction_eq
  have hfunc : actionFunc cluster remote remoteCfg vgName req.action =
      some (reprotect cluster remote remoteCfg vgName) := by
    rw [haction]
    rfl
  rw [heq now' req rfl, perform_eq hfunc, ← bind_assoc]
  rw [heq now req rfl, perform_eq hfunc, ← bind_assoc] at hrun ⊢
  obtain ⟨a, u, hfirst, hstatus⟩ := run_bind_ok.1 hrun
  obtain ⟨l, r, hcalls, hread, hpolicy⟩ := calls_reprotectAction hpreUses hfirst
  have hall : calls (sites peer) ((pre >>= fun _ =>
      runAction (reprotect cluster remote remoteCfg vgName)) >>= fun _ =>
        reportStatus now cluster remote vgName) s =
      l ++ (s, ⟨remote, .deletePolicy (groupPolicy vgName)⟩) ::
        (r ++ calls (sites peer) (reportStatus now cluster remote vgName) u) := by
    rw [calls_bind, hfirst, hcalls, List.append_assoc, List.cons_append]
  have hquiet : ∀ x ∈ l, ((sites peer).act x.2 x.1).2 = x.1 := fun x hx => (hread x hx).serve ..
  have hfree : ∀ x ∈ l, ¬x.2 = ⟨remote, .deletePolicy (groupPolicy vgName)⟩ := by
    intro x hx hdel
    have hx := hread x hx
    rw [hdel] at hx
    exact hx
  rw [forall_take_calls hall hfree rfl]
  constructor
  · -- past the deletion there is no target policy to start from
    rintro ⟨resp', hretry⟩
    by_contra hk
    have huses : uses (ReprotectCall cluster (groupPolicy vgName)) ((pre >>= fun _ =>
        runAction (reprotect cluster remote remoteCfg vgName)) >>= fun _ =>
          reportStatus now cluster remote vgName) := by
      refine uses_bind (uses_bind (uses_mono hpreUses ?_) fun _ => runAction_uses reprotect_uses)
        fun _ => uses_mono reportStatus_uses fun c hc => .inl hc
      intro c hc
      left
      rw [hc]
      trivial
    have hdeleted : (((sites peer).act ⟨remote, .deletePolicy (groupPolicy vgName)⟩ s).2
        cluster).targets (groupPolicy vgName) = none := by
      simp only [sites_act, Sites.serve, Sites.answer, hpolicy, if_true]
      rw [Sites.setTarget_targets, hpair.back, if_pos ⟨rfl, rfl⟩]
    have hgone := failAt_past (e := e) huses (targets_gone hpair) hall hdeleted (Nat.lt_of_not_le hk)
    obtain ⟨b, v, hagain, -⟩ := run_bind_ok.1 hretry
    exact reprotectAction_untargeted hpreUses hgone hagain
  · intro hk
    obtain ⟨e', he⟩ := failAt_bind_upTo (e := e)
      (halts_bind hpreHalts fun _ => runAction_halts reprotect_halts) hcalls hquiet hk
    obtain ⟨resp', hagain⟩ := run_reportStatus_now now' hstatus
    refine ⟨resp', ?_⟩
    rw [he, run_bind, hfirst]
    exact hagain

def otherSide (cluster : Str) : Str := if cluster = ("c1" : Str) then "c2" else "c1"

def groupSites (p : Policy) (state : FailoverFailbackState) : Sites := fun cluster =>
  { policies := fun name =>
      if cluster = ("c1" : Str) ∧ name = ("g-Five_Minutes" : Str) then some p else none
    targets := fun name =>
      if cluster = ("c2" : Str) ∧ name = ("g-Five_Minutes" : Str) then some ⟨state, .finished⟩ else none
    jobs := fun _ => []
    reports := fun _ => [] }

def failedOver : Sites :=
  groupSites ⟨false, policySchedulingAutomatic, 300, "/ifs/data/g", "/ifs/data/g", "10.0.0.2", []⟩
    .writesEnabled

def fromSecond (action : ActionType) : ExecuteActionRequest :=
  ⟨groupAttributes "powerscale" "c2" "c1" "10.0.0.2" "10.0.0.1" "g-Five_Minutes", action⟩

def reprotectSecond : SiteM StorageProtectionGroupStatus :=
  executeAction "powerscale" 0 (twoClusters false) (fromSecond .reprotectLocal)

theorem reprotect_retry_first : ∃ resp, run (sites otherSide) reprotectSecond
      (failAt (sites otherSide) reprotectSecond 0 .deadline failedOver).2 =
        (.ok resp, (run (sites otherSide) reprotectSecond failedOver).2) := by
  have hrun : (run (sites otherSide) reprotectSecond failedOver).1 =
      .ok ⟨.synchronized, true, 0, 0, 0⟩ := by decide +kernel
  refine (reprotect_retry_iff otherSide "powerscale" 0 0 (twoClusters false)
    (fromSecond .reprotectLocal) "c2" "c1" "g-Five_Minutes" _ failedOver _ _ 0 .deadline
    ⟨⟨"c2", _, rfl, rfl⟩, ⟨"c1", rfl, rfl⟩, rfl⟩ ⟨rfl, rfl, by decide⟩ rfl (Prod.ext hrun rfl)).2 ?_
  intro x hx
  cases hx

/-- When the policy cannot be made after the remote one is gone, no further attempt succeeds. -/
theorem reprotect_not_retried : (run (sites otherSide) reprotectSecond failedOver).1.isOk = true ∧
    (failAt (sites otherSide) reprotectSecond 3 .deadline failedOver).1.isOk = false ∧
    (run (sites otherSide) reprotectSecond
      (failAt (sites otherSide) reprotectSecond 3 .deadline failedOver).2).1.isOk = false := by
  refine ⟨?_, ?_, ?_⟩ <;> decide +kernel

end Replication

namespace Replication

structure StatusFaults where
  localPolicy : Option Err := none
  localTarget : Option Err := none
  remotePolicy : Option Err := none
  remoteTarget : Option Err := none
  localJobs : Option Err := none
  remoteJobs : Option Err := none
  reports : Option Err := none

def StatusFaults.list (f : StatusFaults) : List (Option Err) :=
  [f.localPolicy, f.localTarget, f.remotePolicy, f.remoteTarget, f.localJobs, f.remoteJobs,
    f.reports]

variable (fault : Option Err)

def seen (there : Option α) : Option α :=
  match fault with
  | some _ => none
  | none => there

def jobsSeen (jobs : List JobAction) : Bool × Bool :=
  match fault with
  | some e => (false, e.jsonStatus.any fun n => n != 404)
  | none => (jobs.any fun j => j == .sync, false)

def seenState (s : Sites) (f : StatusFaults) (localP : Option Policy) (cluster remote pp : Str) :
    LinkState :=
  getGroupLinkState localP (seen f.localTarget ((s cluster).targets pp))
    (seen f.remotePolicy ((s remote).policies pp)) (seen f.remoteTarget ((s remote).targets pp))
    ((jobsSeen f.localJobs ((s cluster).jobs pp)).1 ||
      (jobsSeen f.remoteJobs ((s remote).jobs pp)).1)

def jobsUnread (s : Sites) (f : StatusFaults) (cluster remote pp : Str) : Bool :=
  (jobsSeen f.localJobs ((s cluster).jobs pp)).2 || (jobsSeen f.remoteJobs ((s remote).jobs pp)).2

def StatusRefused (s : Sites) (f : StatusFaults) (localP : Option Policy) (cluster remote pp : Str) :
    Prop :=
  seenState s f localP cluster remote pp = .unknown ∨ jobsUnread s f cluster remote pp = true

section Status

variable {peer : Str → Str} {s : Sites} {cluster remote : Str}

theorem exec_askAt (hc : c.IsRead) (k : Except Err c.Reply → SiteM α) :
    exec (sites peer) (askAt cluster c >>= k) (fault :: fs) s =
      exec (sites peer) (k (fault.elim ((sites peer).act ⟨cluster, c⟩ s).1 .error)) fs s := by
  cases fault with
  | some e => rfl
  | none =>
    have hstate : ((sites peer).act ⟨cluster, c⟩ s).2 = s := hc.serve peer cluster s
    change exec (sites peer) (k ((sites peer).act ⟨cluster, c⟩ s).1) fs
      ((sites peer).act ⟨cluster, c⟩ s).2 = _
    rw [hstate]
    rfl

theorem orNil_look (there : Option α) :
    orNil (fault.elim (s.look there).1 .error) = seen fault there := by
  cases fault with
  | some e => rfl
  | none => cases there <;> rfl

theorem exec_readJobs (fs : List (Option Err)) (pp : Str)
    (k : Bool × Bool → SiteM α) :
    exec (sites peer) (readJobs cluster pp >>= k) (fault :: fs) s =
      exec (sites peer) (k (jobsSeen fault ((s cluster).jobs pp))) fs s := by
  cases fault <;> rfl

theorem exec_readStatus (f : StatusFaults) (vgName : Str) :
    exec (sites peer) (readStatus cluster remote vgName) f.list s =
      exec (sites peer) (concludeStatus cluster remote (groupPolicy vgName)
        (seenState s f (seen f.localPolicy ((s cluster).policies (groupPolicy vgName))) cluster remote
          (groupPolicy vgName))
        (jobsUnread s f cluster remote (groupPolicy vgName))
        (seen f.localPolicy ((s cluster).policies (groupPolicy vgName))).isSome) [f.reports] s := by
  unfold readStatus StatusFaults.list
  dsimp only
  rw [exec_askAt f.localPolicy (c := .getPolicyByName (groupPolicy vgName)) trivial,
    exec_askAt f.localTarget (c := .getTargetPolicyByName (groupPolicy vgName)) trivial,
    exec_askAt f.remotePolicy (c := .getPolicyByName (groupPolicy vgName)) trivial,
    exec_askAt f.remoteTarget (c := .getTargetPolicyByName (groupPolicy vgName)) trivial,
    exec_readJobs, exec_readJobs]
  unfold seenState
  have hlocal := orNil_look (s := s) f.localPolicy ((s cluster).policies (groupPolicy vgName))
  have hlocalT := orNil_look (s := s) f.localTarget ((s cluster).targets (groupPolicy vgName))
  have hremote := orNil_look (s := s) f.remotePolicy ((s remote).policies (groupPolicy vgName))
  have hremoteT := orNil_look (s := s) f.remoteTarget ((s remote).targets (groupPolicy vgName))
  rw [← hlocal, ← hlocalT, ← hremote, ← hremoteT]
  rfl

theorem exec_concludeStatus_refused (h : state = .unknown ∨ failed = true) (pp : Str)
    (fs : List (Option Err)) :
    ∃ e, exec (sites peer) (concludeStatus cluster remote pp state failed source) fs s =
      (.error e, s) := by
  unfold concludeStatus
  rw [if_pos h]
  exact ⟨_, rfl⟩

theorem reports_reply (peer : Str → Str) (s : Sites) (site pp : Str) :
    (∃ e, ((sites peer).act ⟨site, .getReportsByPolicyName pp⟩ s).1 = .error e) ∨
      ∃ latest more, ((sites peer).act ⟨site, .getReportsByPolicyName pp⟩ s).1 =
        .ok (latest :: more) := by
  simp only [sites_act, Sites.serve]
  cases hr : (s site).reports pp with
  | nil => exact .inl ⟨_, rfl⟩
  | cons latest more => exact .inr ⟨latest, more, rfl⟩

theorem exec_concludeStatus (h : ¬ (state = .unknown ∨ failed = true)) (pp : Str)
    (fault : Option Err) :
    ∃ latest, exec (sites peer) (concludeStatus cluster remote pp state failed source) [fault] s =
      (.ok (state, source, latest), s) := by
  unfold concludeStatus
  rw [if_neg h, exec_askAt fault (c := .getReportsByPolicyName pp) trivial]
  cases fault with
  | some e => exact ⟨none, rfl⟩
  | none =>
    rcases reports_reply peer s (if source = true then cluster else remote) pp with
      ⟨e, hr⟩ | ⟨latest, more, hr⟩
    · simp only [Option.elim_none, hr]
      exact ⟨none, rfl⟩
    · simp only [Option.elim_none, hr]
      exact ⟨some latest, rfl⟩

theorem exec_groupStatus (now : Int) (f : StatusFaults) (vgName : Str) {localP : Option Policy}
    (hlocal : seen f.localPolicy ((s cluster).policies (groupPolicy vgName)) = localP) :
    (StatusRefused s f localP cluster remote (groupPolicy vgName) →
      ∃ e, (exec (sites peer) (groupStatus now cluster remote vgName) f.list s).1 = .error e) ∧
    (¬ StatusRefused s f localP cluster remote (groupPolicy vgName) →
      ∃ st, (exec (sites peer) (groupStatus now cluster remote vgName) f.list s).1 = .ok st ∧
        st.isSource = localP.isSome) := by
  subst hlocal
  have hmap : exec (sites peer) (groupStatus now cluster remote vgName) f.list s =
      ((exec (sites peer) (readStatus cluster remote vgName) f.list s).1.map fun x =>
        (⟨x.1, x.2.1, (x.2.2.elim (0, 0, 0) (reportMetrics now)).1,
          (x.2.2.elim (0, 0, 0) (reportMetrics now)).2.1,
          (x.2.2.elim (0, 0, 0) (reportMetrics now)).2.2⟩ : StorageProtectionGroupStatus),
        (exec (sites peer) (readStatus cluster remote vgName) f.list s).2) :=
    exec_map (fun _ => rfl) _ _
  rw [hmap, exec_readStatus]
  apply And.intro
  · intro h
    obtain ⟨e, he⟩ := exec_concludeStatus_refused h (groupPolicy vgName) [f.reports]
    rw [he]
    exact ⟨e, rfl⟩
  intro h
  obtain ⟨latest, hlatest⟩ := exec_concludeStatus h (groupPolicy vgName) f.reports
  rw [hlatest]
  exact ⟨_, rfl, rfl⟩

end Status

structure ReadableGroup (contextPre : Str) (svc : Service) (attributes : Params)
    (cluster remote vgName : Str) : Prop where
  hasLocal : ∃ name cfg, attributes.get? (contextPre ++ "systemName") = some name ∧
    svc.getIsilonConfig name = .ok (cluster, cfg) ∧ cfg.isiSvc = true
  hasRemote : ∃ name cfg, attributes.get? (contextPre ++ "remoteSystemName") = some name ∧
    svc.getIsilonConfig name = .ok (remote, cfg) ∧ cfg.isiSvc = true
  volumeGroup : attributes.get? (contextPre ++ "VolumeGroupName") = some vgName

theorem ReadableGroup.getStorageProtectionGroupStatus_eq
    (h : ReadableGroup contextPre svc attributes cluster remote vgName) (now : Int) :
    getStorageProtectionGroupStatus contextPre now svc attributes =
      groupStatus now cluster remote vgName := by
  obtain ⟨name, cfg, hname, hcfg, hset⟩ := h.hasLocal
  obtain ⟨remoteName, remoteCfg, hremote, hremoteCfg, hremoteSet⟩ := h.hasRemote
  simp only [getStorageProtectionGroupStatus, groupAttribute, groupCluster, hname, hcfg, hremote,
    hremoteCfg, h.volumeGroup, ret_bind, hset, hremoteSet, Bool.and_self, if_true]

/-- The side of a group is reported truthfully exactly when the local cluster holds no policy of it,
the read succeeds, or without it no state can be made out. -/
theorem getStorageProtectionGroupStatus_source_iff {contextPre : Str} {svc : Service}
    {attributes : Params} {cluster remote vgName : Str}
    (h : ReadableGroup contextPre svc attributes cluster remote vgName) (peer : Str → Str)
    (now : Int) (s : Sites) (f : StatusFaults) :
    (∀ st t, exec (sites peer) (getStorageProtectionGroupStatus contextPre now svc attributes) f.list
        s = (.ok st, t) →
      (st.isSource = true ↔ ((s cluster).policies (groupPolicy vgName)).isSome = true)) ↔
    f.localPolicy = none ∨ (s cluster).policies (groupPolicy vgName) = none ∨
      StatusRefused s f none cluster remote (groupPolicy vgName) := by
  rw [h.getStorageProtectionGroupStatus_eq now]
  apply Iff.intro
  · intro htrue
    by_contra hnot
    rw [not_or, not_or] at hnot
    obtain ⟨hfault, hpolicy, hrefused⟩ := hnot
    obtain ⟨e, he⟩ := Option.ne_none_iff_exists'.1 hfault
    have hlocal : seen f.localPolicy ((s cluster).policies (groupPolicy vgName)) = none := by
      rw [he]
      rfl
    obtain ⟨st, hst, hsource⟩ :=
      (@exec_groupStatus peer s cluster remote now f vgName _ hlocal).2 hrefused
    have hheld := (htrue st _ (Prod.ext hst rfl)).2 (Option.isSome_iff_ne_none.2 hpolicy)
    rw [hsource] at hheld
    cases hheld
  · intro hcond st t hst
    have hok : (exec (sites peer) (groupStatus now cluster remote vgName) f.list s).1 = .ok st := by
      rw [hst]
    have hseen := @exec_groupStatus peer s cluster remote now f vgName _ rfl
    have hnot : ¬ StatusRefused s f (seen f.localPolicy ((s cluster).policies (groupPolicy vgName)))
        cluster remote (groupPolicy vgName) := by
      intro hrefused
      obtain ⟨e, he⟩ := hseen.1 hrefused
      rw [hok] at he
      cases he
    obtain ⟨st', hst', hsource⟩ := hseen.2 hnot
    obtain rfl : st = st' := Except.ok.inj (hok.symm.trans hst')
    rw [hsource]
    cases hfault : f.localPolicy with
    | none => rfl
    | some e =>
      rw [hfault] at hcond hnot
      rcases hcond with hcond | hcond | hcond
      · cases hcond
      · rw [hcond]
        rfl
      · exact absurd hcond hnot

def syncing : Sites := fun cluster =>
  { groupSites ⟨true, policySchedulingAutomatic, 300, "/ifs/data/g", "/ifs/data/g", "10.0.0.2", []⟩
      .writesDisabled cluster with
    jobs := fun _ => if cluster = ("c1" : Str) then [.sync] else [] }

def statusFirst : SiteM StorageProtectionGroupStatus :=
  getStorageProtectionGroupStatus "powerscale" 0 (twoClusters false)
    (groupAttributes "powerscale" "c1" "c2" "10.0.0.1" "10.0.0.2" "g-Five_Minutes")

theorem readable_first : ReadableGroup "powerscale" (twoClusters false)
    (groupAttributes "powerscale" "c1" "c2" "10.0.0.1" "10.0.0.2" "g-Five_Minutes") "c1" "c2"
    "g-Five_Minutes" :=
  ⟨⟨"c1", _, rfl, rfl, rfl⟩, ⟨"c2", _, rfl, rfl, rfl⟩, rfl⟩

theorem getStorageProtectionGroupStatus_source_syncing :
    ReadableGroup "powerscale" (twoClusters false)
      (groupAttributes "powerscale" "c1" "c2" "10.0.0.1" "10.0.0.2" "g-Five_Minutes") "c1" "c2"
      "g-Five_Minutes" ∧
    ∀ st t, exec (sites otherSide) statusFirst
        (StatusFaults.list { remotePolicy := some .deadline }) syncing = (.ok st, t) →
      (st.isSource = true ↔ ((syncing "c1").policies "g-Five_Minutes").isSome = true) :=
  ⟨readable_first, (getStorageProtectionGroupStatus_source_iff readable_first otherSide 0 syncing
    { remotePolicy := some .deadline }).2 (.inl rfl)⟩

/-- The read of the local policy fails while the policy is being synchronised: the local side is
reported as the target. -/
theorem getStorageProtectionGroupStatus_source_lost :
    ((syncing "c1").policies "g-Five_Minutes").isSome = true ∧
    (exec (sites otherSide) statusFirst (StatusFaults.list { localPolicy := some .deadline })
      syncing).1 = .ok ⟨.syncInProgress, false, 0, 0, 0⟩ := by
  decide +kernel

end Replication

end CsiPowerscale
