import CsiPowerscale.GroupActions

namespace CsiPowerscale
open GoLib Effects Effects.Prog

def SyncCall.Makes (name : Str) : SyncCall → Prop
  | createPolicy n .. => n = name
  | resyncPrep n => mirrorOf n = name
  | _ => False

def SyncCall.Modifies (name : Str) : SyncCall → Prop
  | modifyPolicy n .. => n = name
  | _ => False

def ActionType.IsFailback : ActionType → Prop
  | failbackLocal | failbackDiscardChangesLocal => True
  | _ => False

theorem mirrorOf_ne : mirrorOf name ≠ name := by
  intro h
  have hlen := congrArg List.length h
  simp [mirrorOf] at hlen

namespace Sites

variable {s : Sites} {site cluster name n : Str} {q : Policy}

theorem changePolicy_some (h : (s.changePolicy cluster n f site).policies name = some q) :
    ∃ p, (s site).policies name = some p ∧ (q = p ∨ n = name ∧ q = f p) := by
  rw [changePolicy, setPolicy_policies] at h
  split at h
  · next hsame =>
    obtain ⟨rfl, rfl⟩ := hsame
    obtain ⟨p, hp, rfl⟩ := Option.map_eq_some_iff.1 h
    exact ⟨p, hp, .inr ⟨rfl, rfl⟩⟩
  · exact ⟨q, h, .inl rfl⟩

@[simp] theorem changeTarget_policies (state : FailoverFailbackState) :
    (s.changeTarget cluster n state site).policies = (s site).policies :=
  setTarget_policies _

theorem setPolicy_none_some (h : (s.setPolicy cluster n none site).policies name = some q) :
    (s site).policies name = some q := by
  rw [setPolicy_policies] at h
  split at h
  · cases h
  · exact h

theorem setPolicy_other (hn : n ≠ name) :
    (s.setPolicy cluster n o site).policies name = (s site).policies name := by
  rw [setPolicy_policies, if_neg fun h => hn h.2.symm]

theorem prepare_policies (peer : Str → Str) (hp : (s cluster).policies n = some p)
    (hn : mirrorOf n ≠ name) (h : (prepare peer s cluster n p site).policies name = some q) :
    ∃ p, (s site).policies name = some p ∧ q.schedule = p.schedule ∧ q.jobDelay = p.jobDelay := by
  -- the policy itself is only disabled
  have hself {q : Policy} (hq : (s.setPolicy cluster n (some { p with enabled := false })
      site).policies name = some q) :
      ∃ p, (s site).policies name = some p ∧ q.schedule = p.schedule ∧ q.jobDelay = p.jobDelay := by
    rw [setPolicy_policies] at hq
    split at hq
    · next hsame =>
      rw [← Option.some.inj hq, hsame.1, hsame.2]
      exact ⟨p, hp, rfl, rfl⟩
    · exact ⟨q, hq, rfl, rfl⟩
  unfold prepare at h
  dsimp only at h
  split at h
  · rw [changeTarget_policies] at h
    obtain ⟨p', hp', hq⟩ := changePolicy_some h
    rw [changeTarget_policies] at hp'
    obtain ⟨p₀, hp₀, hkeep⟩ := hself hp'
    refine ⟨p₀, hp₀, ?_⟩
    rcases hq with rfl | ⟨-, rfl⟩
    · exact hkeep
    · exact hkeep
  · rw [setTarget_policies, setPolicy_other hn, changeTarget_policies] at h
    exact hself h

theorem serve_policies (peer : Str → Str) (hc : ¬c.Makes name)
    (h : ((serve peer cluster c s).2 site).policies name = some q) :
    ∃ p, (s site).policies name = some p ∧
      (c.Modifies name ∨ q.schedule = p.schedule ∧ q.jobDelay = p.jobDelay) := by
  have hread (hr : c.IsRead) : ∃ p, (s site).policies name = some p ∧
      (c.Modifies name ∨ q.schedule = p.schedule ∧ q.jobDelay = p.jobDelay) := by
    have hstate : (serve peer cluster c s).2 = s := hr.serve peer cluster s
    rw [hstate] at h
    exact ⟨q, h, .inr ⟨rfl, rfl⟩⟩
  have hanswer {found : Bool} {s' : Sites} (h : ((s.answer found s').2 site).policies name = some q) :
      (s site).policies name = some q ∨ (s' site).policies name = some q := by
    cases found with
    | false => exact .inl h
    | true => exact .inr h
  -- of the requests that change policies, only `modifyPolicy` changes more than the flag
  have hflag {f : Policy → Policy} {found : Bool} {n : Str}
      (h : ((s.answer found (s.changePolicy cluster n f)).2 site).policies name = some q)
      (hf : ∀ p, (f p).schedule = p.schedule ∧ (f p).jobDelay = p.jobDelay) :
      ∃ p, (s site).policies name = some p ∧ q.schedule = p.schedule ∧ q.jobDelay = p.jobDelay := by
    rcases hanswer h with h | h
    · exact ⟨q, h, rfl, rfl⟩
    · obtain ⟨p, hp, rfl | ⟨-, rfl⟩⟩ := changePolicy_some h
      · exact ⟨q, hp, rfl, rfl⟩
      · exact ⟨p, hp, hf p⟩
  cases c with
  | createPolicy n rpo source target host cert enabled =>
    simp only [serve, newPolicy] at h
    split at h
    · exact ⟨q, h, .inr ⟨rfl, rfl⟩⟩
    · rw [setTarget_policies, setPolicy_other hc] at h
      exact ⟨q, h, .inr ⟨rfl, rfl⟩⟩
  | deletePolicy n =>
    rcases hanswer h with h | h
    · exact ⟨q, h, .inr ⟨rfl, rfl⟩⟩
    · rw [setTarget_policies] at h
      exact ⟨q, setPolicy_none_some h, .inr ⟨rfl, rfl⟩⟩
  | enablePolicy | disablePolicy =>
    obtain ⟨p, hp, hq⟩ := hflag h fun _ => ⟨rfl, rfl⟩
    exact ⟨p, hp, .inr hq⟩
  | modifyPolicy n schedule rpo =>
    rcases hanswer h with h | h
    · exact ⟨q, h, .inr ⟨rfl, rfl⟩⟩
    · obtain ⟨p, hp, rfl | ⟨hn, -⟩⟩ := changePolicy_some h
      · exact ⟨q, hp, .inr ⟨rfl, rfl⟩⟩
      · exact ⟨p, hp, .inl hn⟩
  | allowWrites | disallowWrites =>
    rcases hanswer h with h | h
    · exact ⟨q, h, .inr ⟨rfl, rfl⟩⟩
    · rw [changeTarget_policies] at h
      exact ⟨q, h, .inr ⟨rfl, rfl⟩⟩
  | resyncPrep n =>
    simp only [serve] at h
    split at h
    · exact ⟨q, h, .inr ⟨rfl, rfl⟩⟩
    · next p hp =>
      obtain ⟨p, hp, hq⟩ := prepare_policies peer hp hc h
      exact ⟨p, hp, .inr hq⟩
  | _ => exact hread trivial

end Sites

namespace Replication

variable {peer : Str → Str} {cluster remote site vgName name : Str} {remoteCfg : ClusterConfig}
  {F : Faults SiteCall Err Sites} {s t : Sites} {func : SiteM Unit} {action : ActionType} {r : Int}

theorem wp_absent (h : uses (fun c => ¬c.call.Makes name) p) (hs : (s site).policies name = none) :
    wp (sites peer) F p (fun _ t => (t site).policies name = none) s := by
  refine wp_of_uses h ?_ hs
  intro c u hc hu
  rw [Option.eq_none_iff_forall_ne_some]
  intro q hq
  obtain ⟨p, hp, -⟩ := Sites.serve_policies peer hc hq
  rw [hu] at hp
  cases hp

/-- A policy of this name at the site has this delay. -/
def Delayed (name : Str) (r : Int) (site : Str) (s : Sites) : Prop :=
  ∀ p, (s site).policies name = some p → p.jobDelay = r

theorem actionFunc_makes (h : actionFunc cluster remote remoteCfg vgName action = some func)
    (hne : action ≠ .reprotectLocal) :
    uses (fun c => ¬c.call.Makes (groupPolicy vgName)) func := by
  have hmirror : ¬mirrorOf (groupPolicy vgName) = groupPolicy vgName := mirrorOf_ne
  have htwice : ¬mirrorOf (mirrorOf (groupPolicy vgName)) = groupPolicy vgName := by
    intro h
    have hlen := congrArg List.length h
    simp [mirrorOf] at hlen
  cases action with
  | reprotectLocal => exact absurd rfl hne
  | unsupported => cases h
  | failbackLocal =>
    cases h
    unfold failbackDiscardLocal
    dsimp only
    split
    · trivial
    repeat' first
      | exact step_uses id
      | refine uses_bind (step_uses id) fun _ => ?_
      | refine uses_bind (step_uses hmirror) fun _ => ?_
      | refine uses_bind (step_uses htwice) fun _ => ?_
  | failbackDiscardChangesLocal =>
    cases h
    unfold failbackDiscardRemote
    dsimp only
    split
    · trivial
    · repeat' first
        | exact step_uses id
        | refine uses_bind (step_uses id) fun _ => ?_
  | _ =>
    cases h
    repeat' first
      | exact step_uses id
      | refine uses_bind (step_uses id) fun _ => ?_

theorem wp_reprotect (hne : cluster ≠ remote) :
    wp (sites peer) F (reprotect cluster remote remoteCfg vgName) (fun r t =>
      (t = s ∧ r ≠ .ok ()) ∨ ∃ p, (s remote).policies (groupPolicy vgName) = some p ∧
        (t remote).policies (groupPolicy vgName) = none ∧
        ((t cluster).policies (groupPolicy vgName) = (s cluster).policies (groupPolicy vgName) ∧
            r ≠ .ok () ∨
          ∃ q, (t cluster).policies (groupPolicy vgName) = some q ∧ q.enabled = true ∧
            q.schedule = policySchedulingAutomatic ∧ q.jobDelay = p.jobDelay)) s := by
  have hstop : ∀ e : Err, (.error e : Except Err Unit) ≠ .ok () := by
    intro e h
    cases h
  rw [reprotect, wp_bind, wp_ask]
  refine ⟨?_, fun e _ => .inl ⟨rfl, hstop _⟩⟩
  rw [andThen_ok, sites_act, Sites.serve]
  cases (s cluster).targets (groupPolicy vgName) with
  | none => exact .inl ⟨rfl, hstop _⟩
  | some localTP =>
    simp only [Sites.look]
    split
    · exact .inl ⟨rfl, hstop _⟩
    rw [wp_bind, wp_ask]
    refine ⟨?_, fun e _ => .inl ⟨rfl, hstop _⟩⟩
    rw [andThen_ok, sites_act, Sites.serve]
    cases hpolicy : (s remote).policies (groupPolicy vgName) with
    | none => exact .inl ⟨rfl, hstop _⟩
    | some p =>
      simp only [Sites.look]
      rw [wp_bind]
      refine wp_step (fun _ _ => ?_) fun e => .inl ⟨rfl, hstop e⟩
      simp only [sites_act, Sites.serve, Sites.answer, hpolicy, Option.isSome_some, if_true, andThen_ok]
      generalize hs₁ : (s.setPolicy remote (groupPolicy vgName) none).setTarget (peer remote)
        (groupPolicy vgName) none = s₁
      have hremote : (s₁ remote).policies (groupPolicy vgName) = none := by
        rw [← hs₁, Sites.setTarget_policies, Sites.setPolicy_policies, if_pos ⟨rfl, rfl⟩]
      have hlocal : (s₁ cluster).policies (groupPolicy vgName) =
          (s cluster).policies (groupPolicy vgName) := by
        rw [← hs₁, Sites.setTarget_policies, Sites.setPolicy_policies, if_neg fun h => hne h.1]
      rw [wp_bind]
      refine wp_step (fun a ha => ?_) fun e => .inr ⟨p, rfl, hremote, .inl ⟨hlocal, hstop e⟩⟩
      simp only [sites_act, Sites.serve, Sites.newPolicy, andThen_ok] at ha ⊢
      split at ha
      · cases ha
      next hfree =>
      rw [if_neg hfree]
      generalize hs₂ : Sites.setTarget _ (peer cluster) (groupPolicy vgName) _ = s₂
      have hmade : ∃ q, (s₂ cluster).policies (groupPolicy vgName) = some q ∧ q.enabled = true ∧
          q.schedule = policySchedulingAutomatic ∧ q.jobDelay = p.jobDelay := by
        rw [← hs₂, Sites.setTarget_policies, Sites.setPolicy_policies, if_pos ⟨rfl, rfl⟩]
        exact ⟨_, rfl, rfl, rfl, rfl⟩
      have hgone : (s₂ remote).policies (groupPolicy vgName) = none := by
        rw [← hs₂, Sites.setTarget_policies, Sites.setPolicy_policies, if_neg fun h => hne h.1.symm]
        exact hremote
      have hread : (SyncCall.waitForPolicyLastJobState (groupPolicy vgName)
          [.running, .finished]).IsRead := trivial
      refine wp_step (fun _ _ => ?_) fun e => .inr ⟨p, rfl, hgone, .inr hmade⟩
      rw [hread.serve]
      exact .inr ⟨p, rfl, hgone, .inr hmade⟩

def AutomaticAt (site name : Str) (r : Int) (s : Sites) : Prop :=
  ∃ p, (s site).policies name = some p ∧ p.schedule = policySchedulingAutomatic ∧ p.jobDelay = r

theorem wp_setAutomatic (hok : ∀ t, AutomaticAt cluster name r t → Q (.ok ()) t)
    (herr : ∀ e t, Q (.error e) t) :
    wp (sites peer) F (step cluster (.modifyPolicy name policySchedulingAutomatic r) what) Q s := by
  refine wp_step (fun a ha => hok _ ?_) fun e => herr e s
  simp only [sites_act, Sites.serve, Sites.answer] at ha ⊢
  split at ha
  · next hfound =>
    obtain ⟨p, hp⟩ := Option.isSome_iff_exists.1 hfound
    rw [if_pos hfound, AutomaticAt, Sites.changePolicy, Sites.setPolicy_policies, if_pos ⟨rfl, rfl⟩, hp]
    exact ⟨_, rfl, rfl, rfl⟩
  · cases ha

theorem wp_failback (h : actionFunc cluster remote remoteCfg vgName action = some func)
    (hfail : action.IsFailback) :
    wp (sites peer) F func (fun r t => r = .ok () →
      AutomaticAt cluster (groupPolicy vgName) (getRpoInt vgName) t) s := by
  have herr : ∀ (e : Err) (t : Sites), (.error e : Except Err Unit) = .ok () →
      AutomaticAt cluster (groupPolicy vgName) (getRpoInt vgName) t := by
    intro e t h
    cases h
  cases action with
  | failbackLocal =>
    cases h
    unfold failbackDiscardLocal
    dsimp only
    split
    · exact herr _ _
    · iterate 12 refine wp_bind_trivial herr fun _ s => ?_
      exact wp_setAutomatic (fun t ht _ => ht) herr
  | failbackDiscardChangesLocal =>
    cases h
    unfold failbackDiscardRemote
    dsimp only
    split
    · exact herr _ _
    iterate 3 refine wp_bind_trivial herr fun _ s => ?_
    rw [wp_bind]
    refine wp_setAutomatic (fun t ht => ?_) herr
    obtain ⟨p, hp, hschedule, hdelay⟩ := ht
    refine wp_step (fun _ _ _ => ?_) fun e => herr e t
    simp only [sites_act, Sites.serve, Sites.answer, hp, Option.isSome_some, if_true]
    rw [AutomaticAt, Sites.changePolicy, Sites.setPolicy_policies, if_pos ⟨rfl, rfl⟩, hp]
    exact ⟨_, rfl, hschedule, hdelay⟩
  | _ => exact hfail.elim

end Replication

def CreateVolumeRequest.uncutGroup (svc : Service) (req : CreateVolumeRequest) : Str :=
  req.parameters.get (svc.withRP "volumeGroupPrefix") ++ "-" ++
    volumeGroupNamespace svc req.parameters ++
    (match svc.getIsilonConfig (req.parameters.get (svc.withRP "remoteSystem")) with
      | .ok (_, remote) => remoteEndpoint remote
      | .error _ => []) ++ "-" ++ req.parameters.get (svc.withRP "rpo")

namespace Replication

variable {peer : Str → Str} {cluster remote vgName name : Str} {remoteCfg : ClusterConfig}
  {F : Faults SiteCall Err Sites} {s t : Sites} {func : SiteM Unit} {action : ActionType} {r : Int}

def Sides (a b cluster remote : Str) : Prop := cluster = a ∧ remote = b ∨ cluster = b ∧ remote = a

def GroupStep (peer : Str → Str) (a b vgName : Str) (s : Sites) (action : ActionType)
    (resp : Except Err StorageProtectionGroupStatus) (t : Sites) : Prop :=
  ∃ contextPre svc now attributes cluster remote remoteCfg, Sides a b cluster remote ∧
    Group contextPre svc attributes cluster remote remoteCfg vgName ∧
    Outcome (sites peer) .any (executeAction contextPre now svc ⟨attributes, action⟩) s resp t

def Exclusive (a b name : Str) (s : Sites) : Prop :=
  (s a).policies name = none ∨ (s b).policies name = none

theorem wp_executeAction {I : Bool → Sites → Prop}
    (hgroup : Group contextPre svc attributes cluster remote remoteCfg vgName)
    (hfunc : ∀ func, actionFunc cluster remote remoteCfg vgName action = some func → wp (sites
      peer) F func (fun r t => I r.isOk t) s) (hs : I false s) (hmono : ∀ t, I true t → I false t) :
    wp (sites peer) F (executeAction contextPre now svc ⟨attributes, action⟩)
      (fun r t => I r.isOk t) s := by
  obtain ⟨pre, -, huses, heq⟩ := hgroup.executeAction_eq
  rw [heq now _ rfl]
  refine wp_bind_quiet huses (fun c u => probe_state u) (fun _ => ?_) fun e => hs
  cases h : actionFunc cluster remote remoteCfg vgName action with
  | none =>
    rw [perform, h]
    exact hs
  | some func =>
    rw [perform_eq h, wp_bind, runAction, wp_bind, wp_attempt]
    refine wp_mono (hfunc func h) fun r t ht => ?_
    cases r with
    | error e => exact ht
    | ok a =>
      have hreads : wp (sites peer) F (reportStatus now cluster remote vgName) (fun _ u => I true u) t := by
        refine wp_of_uses reportStatus_uses ?_ ht
        intro c u hc hu
        rw [hc.serve]
        exact hu
      change wp (sites peer) F (reportStatus now cluster remote vgName) _ t
      refine wp_mono hreads fun r u hu => ?_
      cases r with
      | ok x => exact hu
      | error e => exact hmono u hu

theorem wp_exclusive (hne : cluster ≠ remote)
    (h : actionFunc cluster remote remoteCfg vgName action = some func)
    (hs : Exclusive cluster remote (groupPolicy vgName) s) :
    wp (sites peer) F func (fun _ t => Exclusive cluster remote (groupPolicy vgName) t) s := by
  by_cases hre : action = .reprotectLocal
  · subst hre
    cases h
    refine wp_mono (wp_reprotect hne) fun r t ht => ?_
    rcases ht with ⟨rfl, -⟩ | ⟨p, -, hgone, -⟩
    · exact hs
    · exact .inr hgone
  · have huses := actionFunc_makes h hre
    rcases hs with hs | hs
    · exact wp_mono (wp_absent huses hs) fun _ _ ht => .inl ht
    · exact wp_mono (wp_absent huses hs) fun _ _ ht => .inr ht

variable {a b : Str}

theorem Exclusive.symm (h : Exclusive a b name s) : Exclusive b a name s := Or.symm h

theorem Sides.exclusive (h : Sides a b cluster remote) :
    Exclusive cluster remote name s ↔ Exclusive a b name s := by
  rcases h with ⟨rfl, rfl⟩ | ⟨rfl, rfl⟩
  · exact Iff.rfl
  · exact ⟨Exclusive.symm, Exclusive.symm⟩

theorem Sides.ne (h : Sides a b cluster remote) (hne : a ≠ b) : cluster ≠ remote := by
  rcases h with ⟨rfl, rfl⟩ | ⟨rfl, rfl⟩
  · exact hne
  · exact hne.symm

theorem GroupStep.exclusive (hne : a ≠ b) (h : GroupStep peer a b vgName s action resp t)
    (hs : Exclusive a b (groupPolicy vgName) s) :
    Exclusive a b (groupPolicy vgName) t := by
  obtain ⟨contextPre, svc, now, attributes, cluster, remote, remoteCfg, hside, hgroup, ho⟩ := h
  rw [← hside.exclusive] at hs ⊢
  have hwp : wp (sites peer) .any (executeAction contextPre now svc ⟨attributes, action⟩)
      (fun _ t => Exclusive cluster remote (groupPolicy vgName) t) s :=
    wp_executeAction (I := fun _ => Exclusive cluster remote (groupPolicy vgName)) hgroup
      (fun func hfunc => wp_exclusive (hside.ne hne) hfunc hs) hs fun _ h => h
  exact wp_iff_outcome.1 hwp _ _ ho

/-- The enabled policies run automatically with this delay. -/
def RpoKept (a b name : Str) (r : Int) (s : Sites) : Prop :=
  ∀ site, site = a ∨ site = b → ∀ p, (s site).policies name = some p → p.enabled = true →
    p.schedule = policySchedulingAutomatic ∧ p.jobDelay = r

theorem AutomaticAt.rpoKept (hside : Sides a b cluster remote) (hs : Exclusive a b name s)
    (h : AutomaticAt cluster name r s) : RpoKept a b name r s := by
  obtain ⟨p, hp, hschedule, hdelay⟩ := h
  have hother : (s remote).policies name = none := by
    rcases hside.exclusive.2 hs with hnone | hnone
    · rw [hp] at hnone
      cases hnone
    · exact hnone
  have hsite : ∀ site, site = a ∨ site = b → site = cluster ∨ site = remote := by
    rcases hside with ⟨rfl, rfl⟩ | ⟨rfl, rfl⟩
    · exact fun site h => h
    · exact fun site h => h.symm
  intro site hmem q hq _
  rcases hsite site hmem with rfl | rfl
  · rw [hp] at hq
    cases hq
    exact ⟨hschedule, hdelay⟩
  · rw [hother] at hq
    cases hq

/-- A volume group just after `CreateVolume` has made its policy on the cluster `a`, to replicate to
`b`; its name was not cut. -/
structure GroupCreated (peer : Str → Str) (svc : Service) (req : CreateVolumeRequest) (a b : Str)
    (seconds : Int) (s : Sites) : Prop where
  uncut : (req.uncutGroup svc).length ≤ 128
  rpo : rpoToInt (req.parameters.get (svc.withRP "rpo")) = some seconds
  created : ∃ isiPath σ name delay source target host cert s₀,
    Call.createPolicy name delay source target host cert ∈
      (calls array (prepareReplication svc req.parameters isiPath) σ).map Prod.snd ∧
    (s₀ a).policies name = none ∧ (s₀ b).policies name = none ∧
    s = ((sites peer).act ⟨a, .createPolicy name delay source target host cert true⟩ s₀).2

variable {svc : Service} {req : CreateVolumeRequest} {seconds : Int}

theorem GroupCreated.getRpoInt_eq (h : GroupCreated peer svc req a b seconds s) :
    getRpoInt (req.volumeGroup svc) = seconds := by
  have hgroup : req.volumeGroup svc = req.uncutGroup svc := List.take_of_length_le h.uncut
  rw [getRpoInt_eq_iff h.rpo, hgroup]
  right
  exact ⟨_, by rw [CreateVolumeRequest.uncutGroup, ← List.append_assoc]⟩

theorem createPolicy_of_prepareReplication
    (hrpo : rpoToInt (req.parameters.get (svc.withRP "rpo")) = some seconds)
    (h : Call.createPolicy name delay source target host cert ∈ (calls array (prepareReplication
      svc req.parameters isiPath) σ).map Prod.snd) :
    name = groupPolicy (req.volumeGroup svc) ∧ delay = seconds := by
  have hsends : sends array .none (fun _ c => ∀ n d source target host cert,
      c = .createPolicy n d source target host cert →
        n = groupPolicy (req.volumeGroup svc) ∧ d = seconds)
      (prepareReplication svc req.parameters isiPath) σ := by
    apply prepareReplication_sends
    · rintro c _ hc n d source target host cert rfl
      cases hc
    intro seconds' path host cert t hseconds
    obtain rfl : seconds' = seconds := by
      rw [hrpo] at hseconds
      exact (Option.some.inj hseconds).symm
    have huses : uses (fun c => ∀ n d source target host cert,
        c = .createPolicy n d source target host cert →
          n = groupPolicy (req.volumeGroup svc) ∧ d = seconds')
        (ensurePolicy (groupPolicy (req.volumeGroup svc)) seconds' path host cert) := by
      refine uses_ask_bind ?_ fun r => ?_
      · intro n d source target host cert h
        cases h
      split
      · trivial
      split
      · refine uses_ask_bind ?_ fun r => ?_
        · intro n d source target host cert h
          cases h
          exact ⟨rfl, rfl⟩
        split
        · trivial
        refine uses_ask_bind ?_ fun r => ?_
        · intro n d source target host cert h
          cases h
        · split <;> trivial
      · trivial
    exact sends_of_uses huses fun c _ hc => hc
  obtain ⟨⟨u, c⟩, hmem, hc⟩ := List.mem_map.1 h
  exact calls_of_sends hsends _ hmem name delay source target host cert hc

theorem GroupCreated.policies (h : GroupCreated peer svc req a b seconds s) (hne : a ≠ b) :
    AutomaticAt a (groupPolicy (req.volumeGroup svc)) seconds s ∧
      (s b).policies (groupPolicy (req.volumeGroup svc)) = none := by
  obtain ⟨isiPath, σ, name, delay, source, target, host, cert, s₀, hcall, hfree, hother, rfl⟩ := h.created
  obtain ⟨rfl, rfl⟩ := createPolicy_of_prepareReplication h.rpo hcall
  simp only [sites_act, Sites.serve, Sites.newPolicy, hfree, Option.isSome_none, Bool.false_eq_true,
    if_false, AutomaticAt, Sites.setTarget_policies]
  rw [Sites.setPolicy_policies, Sites.setPolicy_policies, if_pos ⟨rfl, rfl⟩, if_neg fun h => hne h.1.symm]
  exact ⟨⟨_, rfl, rfl, rfl⟩, hother⟩

def GroupReaches (peer : Str → Str) (a b vgName : Str) : Sites → Sites → Prop :=
  Relation.ReflTransGen fun s t => ∃ action resp, GroupStep peer a b vgName s action resp t

theorem GroupReaches.exclusive (hne : a ≠ b) (h : GroupReaches peer a b vgName s t)
    (hs : Exclusive a b (groupPolicy vgName) s) : Exclusive a b (groupPolicy vgName) t := by
  induction h with
  | refl => exact hs
  | tail _ hstep ih =>
    obtain ⟨action, resp, hstep⟩ := hstep
    exact hstep.exclusive hne ih

/-- Whatever was done to a group before, `reprotect` and the failbacks that succeed leave its RPO in
the enabled policy if and only if, for `reprotect`, the policy that it copies still has it. -/
theorem rpo_kept_iff (peer : Str → Str) (svc : Service) (req : CreateVolumeRequest) (a b : Str)
    (seconds : Int) (s₀ s t : Sites) (cluster remote : Str) (remoteCfg : ClusterConfig)
    (action : ActionType) (func : SiteM Unit) (hpair : Paired peer a b)
    (hcreated : GroupCreated peer svc req a b seconds s₀)
    (hreach : GroupReaches peer a b (req.volumeGroup svc) s₀ s) (hside : Sides a b cluster remote)
    (haction : action = .reprotectLocal ∨ action.IsFailback)
    (hfunc : actionFunc cluster remote remoteCfg (req.volumeGroup svc) action = some func)
    (ho : Outcome (sites peer) .any func s (.ok ()) t) :
    RpoKept a b (groupPolicy (req.volumeGroup svc)) seconds t ↔ (action = .reprotectLocal →
      Delayed (groupPolicy (req.volumeGroup svc)) seconds remote s) := by
  have hexclusive : Exclusive a b (groupPolicy (req.volumeGroup svc)) t := by
    have hs := hreach.exclusive hpair.ne (.inr (hcreated.policies hpair.ne).2)
    rw [← hside.exclusive] at hs ⊢
    exact wp_iff_outcome.1 (wp_exclusive (hside.ne hpair.ne) hfunc hs) _ _ ho
  rcases haction with rfl | hfail
  · cases hfunc
    have hspec := wp_iff_outcome.1 (wp_reprotect (hside.ne hpair.ne)) _ _ ho
    rcases hspec with ⟨-, herr⟩ | ⟨p, hp, -, ⟨-, herr⟩ | ⟨q, hq, henabled, hschedule, hdelay⟩⟩
    · exact absurd rfl herr
    · exact absurd rfl herr
    constructor
    · intro hkept _ p' hp'
      obtain rfl : p = p' := by
        rw [hp] at hp'
        exact Option.some.inj hp'
      have hmem : cluster = a ∨ cluster = b := by
        rcases hside with ⟨h, -⟩ | ⟨h, -⟩
        · exact .inl h
        · exact .inr h
      rw [← hdelay]
      exact (hkept cluster hmem q hq henabled).2
    · intro hbefore
      refine AutomaticAt.rpoKept hside hexclusive ⟨q, hq, hschedule, ?_⟩
      rw [hdelay]
      exact hbefore rfl p hp
  · have hauto := wp_iff_outcome.1 (wp_failback hfunc hfail) _ _ ho rfl
    rw [hcreated.getRpoInt_eq] at hauto
    refine iff_of_true (AutomaticAt.rpoKept hside hexclusive hauto) ?_
    rintro rfl
    exact hfail.elim

def replicatedVolume : CreateVolumeRequest :=
  { newVolume "vol1" with
    parameters := [(oneCluster.withRP "isReplicationEnabled", "true"),
      (oneCluster.withRP "volumeGroupPrefix", "g"), (oneCluster.withRP "rpo", "Five_Minutes"),
      (oneCluster.withRP "remoteSystem", "c2")] }

def fiveMinutes : Policy :=
  ⟨true, policySchedulingAutomatic, 300, "/ifs/data/g-10.0.0.2-Five_Minutes",
    "/ifs/data/g-10.0.0.2-Five_Minutes", "10.0.0.2", []⟩

def fiveMinuteSites : Sites :=
  ((sites otherSide).act ⟨"c1", .createPolicy "g-10-0-0-2-Five_Minutes" 300 fiveMinutes.sourcePath
    fiveMinutes.targetPath "10.0.0.2" [] true⟩ fun _ => ⟨fun _ => none, fun _ => none, fun _ => [],
      fun _ => []⟩).2

theorem fiveMinuteSites_created :
    GroupCreated otherSide (twoClusters false) replicatedVolume "c1" "c2" 300
      fiveMinuteSites where
  uncut := by decide +kernel
  rpo := by decide +kernel
  created := by
    refine ⟨"/ifs/data", OneFS.fresh, "g-10-0-0-2-Five_Minutes", 300, fiveMinutes.sourcePath,
      fiveMinutes.targetPath, "10.0.0.2", [], fun _ => ⟨fun _ => none, fun _ => none, fun _ => [],
      fun _ => []⟩, ?_, rfl, rfl, rfl⟩
    decide +kernel

def onGroup (cluster : Str) (action : ActionType) : SiteM StorageProtectionGroupStatus :=
  executeAction "powerscale" 0 (twoClusters false)
    ⟨groupAttributes "powerscale" cluster (otherSide cluster) [] []
      (replicatedVolume.volumeGroup (twoClusters false)), action⟩

def failedOverGroup : Sites := (run (sites otherSide) (onGroup "c1" .failoverRemote) fiveMinuteSites).2

/-- After a failover both a `reprotect` from the other side and a failback keep the RPO. -/
theorem rpo_kept_failedOver :
    let vgName := replicatedVolume.volumeGroup (twoClusters false)
    RpoKept "c1" "c2" (groupPolicy vgName) 300
      (run (sites otherSide) (reprotect "c2" "c1" cluster1 vgName) failedOverGroup).2 ∧
    RpoKept "c1" "c2" (groupPolicy vgName) 300
      (run (sites otherSide) (failbackDiscardRemote "c1" "c2" vgName) failedOverGroup).2 := by
  intro vgName
  have hreach : GroupReaches otherSide "c1" "c2" vgName fiveMinuteSites failedOverGroup :=
    .single ⟨.failoverRemote, _, "powerscale", twoClusters false, 0, _, "c1", "c2", _,
      .inl ⟨rfl, rfl⟩, ⟨⟨"c1", _, rfl, rfl⟩, ⟨"c2", rfl, rfl⟩, rfl⟩, run_outcome _ _⟩
  have hpair : Paired otherSide "c1" "c2" := ⟨rfl, rfl, by decide⟩
  have hreprotect : (run (sites otherSide) (reprotect "c2" "c1" cluster1 vgName) failedOverGroup).1 =
      .ok () := by
    decide +kernel
  have hfailback : (run (sites otherSide) (failbackDiscardRemote "c1" "c2" vgName)
      failedOverGroup).1 = .ok () := by
    decide +kernel
  constructor
  · refine (rpo_kept_iff _ _ _ _ _ _ _ _ _ "c2" "c1" cluster1 .reprotectLocal _ hpair
      fiveMinuteSites_created hreach (.inr ⟨rfl, rfl⟩) (.inl rfl) rfl
      (.of_run (Prod.ext hreprotect rfl))).2 fun _ p hp => ?_
    have hdelay : ((failedOverGroup "c1").policies (groupPolicy vgName)).map Policy.jobDelay =
        some 300 := by
      decide +kernel
    rw [hp] at hdelay
    exact Option.some.inj hdelay
  · refine (rpo_kept_iff _ _ _ _ _ _ _ _ _ "c1" "c2" cluster1 .failbackDiscardChangesLocal _ hpair
      fiveMinuteSites_created hreach (.inl ⟨rfl, rfl⟩) (.inr trivial) rfl
      (.of_run (Prod.ext hfailback rfl))).2 ?_
    intro h
    cases h

/-- After a failover, a failback that fails in the middle leaves the policy manual; a `reprotect`
from the other side then succeeds and makes a policy without delay. -/
theorem rpo_lost :
    let s := (failAt (sites otherSide) (onGroup "c1" .failbackDiscardChangesLocal) 2 .deadline
      failedOverGroup).2
    (run (sites otherSide) (onGroup "c2" .reprotectLocal) s).1.isOk = true ∧
      ¬RpoKept "c1" "c2" "g-10-0-0-2-Five_Minutes" 300
        (run (sites otherSide) (onGroup "c2" .reprotectLocal) s).2 := by
  intro s
  have hpolicy : ((run (sites otherSide) (onGroup "c2" .reprotectLocal) s).2 "c2").policies
      "g-10-0-0-2-Five_Minutes" = some { fiveMinutes with jobDelay := 0, targetHost := "10.0.0.1" } := by
    decide +kernel
  refine ⟨by decide +kernel, fun hkept => ?_⟩
  have hdelay := (hkept "c2" (.inr rfl) _ hpolicy rfl).2
  exact absurd hdelay (by decide)

end Replication

end CsiPowerscale
