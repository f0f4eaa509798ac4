import CsiPowerscale.Driver

namespace CsiPowerscale
open Relation GoLib

/-- An event of the watch on the nodes. The object of a deletion may be of another kind. -/
inductive WatchEvent (N : Type)
  | added (node : N)
  | deleted (object : Option N)
  | error

def WatchEvent.gone : WatchEvent N → Option N
  | deleted object => object
  | _ => none

inductive WatchPhase (N : Type)
  | waiting
  | stopped
  | watching (delivered : List (WatchEvent N)) (isOpen : Bool)

structure NodeWatcher (N : Type) where
  nodes : List N
  phase : WatchPhase N
  currentBackoff : Nat
  cleaned : List N
  connected : Bool
  deleted : List N

inductive WatchMove (N : Type)
  | create (node : N)
  | delete (node : N)
  | sendError
  | sendOther
  | disconnect (received : Nat)
  | connect
  | connectFails
  | cancel
  | next

def initialBackoff : Nat := 1
def maxBackoff : Nat := 60
def backoffFactor : Nat := 2

namespace NodeWatcher

def new (nodes : List N) : NodeWatcher N := ⟨nodes, .waiting, initialBackoff, [], false, []⟩

def send (e : WatchEvent N) : WatchPhase N → WatchPhase N
  | .watching delivered true => .watching (delivered ++ [e]) true
  | p => p

def watchNodeDeletions (s : NodeWatcher N) : List (WatchEvent N) → Bool → Option (NodeWatcher N)
  | [], true => none
  | [], false => some { s with phase := .waiting }
  | .error :: _, _ => some { s with phase := .waiting }
  | .deleted (some node) :: rest, isOpen =>
    some { s with phase := .watching rest isOpen, cleaned := s.cleaned ++ [node] }
  | .deleted none :: rest, isOpen => some { s with phase := .watching rest isOpen }
  | .added _ :: rest, isOpen => some { s with phase := .watching rest isOpen }

def step [DecidableEq N] (s : NodeWatcher N) : WatchMove N → Option (NodeWatcher N)
  | .create node => some { s with nodes := node :: s.nodes, phase := send (.added node) s.phase }
  | .delete node =>
    if node ∈ s.nodes then some { s with
      nodes := s.nodes.erase node
      phase := send (.deleted (some node)) s.phase
      deleted := if s.connected then s.deleted ++ [node] else s.deleted }
    else none
  | .sendError => some { s with phase := send .error s.phase }
  | .sendOther => some { s with phase := send (.deleted none) s.phase }
  | .disconnect received =>
    match s.phase with
    | .watching delivered true => some { s with phase := .watching (delivered.take received) false }
    | _ => none
  | .connect =>
    match s.phase with
    | .waiting => some { s with
        phase := .watching (s.nodes.map .added) true
        currentBackoff := initialBackoff
        connected := true }
    | _ => none
  | .connectFails =>
    match s.phase with
    | .waiting =>
      some { s with currentBackoff := min (s.currentBackoff * backoffFactor) maxBackoff }
    | _ => none
  | .cancel =>
    match s.phase with
    | .waiting => some { s with phase := .stopped }
    | _ => none
  | .next =>
    match s.phase with
    | .watching delivered isOpen => s.watchNodeDeletions delivered isOpen
    | _ => none

/-- No deletion is lost: none happens between two watches, is still on its way when the connection
ends, or is read after an error. -/
def Kept (s : NodeWatcher N) : WatchMove N → Prop
  | .delete _ => s.connected = true → ∃ delivered, s.phase = .watching delivered true
  | .disconnect received => ∀ delivered, s.phase = .watching delivered true →
      (delivered.drop received).filterMap WatchEvent.gone = []
  | .next => ∀ rest isOpen, s.phase = .watching (.error :: rest) isOpen →
      rest.filterMap WatchEvent.gone = []
  | _ => True

def Reached [DecidableEq N] (nodes : List N) : NodeWatcher N → Prop :=
  ReflTransGen (fun s t => ∃ m, s.Kept m ∧ s.step m = some t) (new nodes)

def pending : WatchPhase N → List N
  | .watching delivered _ => delivered.filterMap WatchEvent.gone
  | _ => []

def isWatching : WatchPhase N → Bool
  | .watching _ _ => true
  | _ => false

section
variable {s t : NodeWatcher N} {e : WatchEvent N} {p : WatchPhase N} {node : N}

theorem isWatching_send : isWatching (send e p) = isWatching p := by
  unfold send
  split <;> rfl

theorem pending_send (h : e.gone = none) : pending (send e p) = pending p := by
  unfold send
  split
  · simp only [pending, List.filterMap_append, List.filterMap_cons, h, List.filterMap_nil,
      List.append_nil]
  · rfl

structure Accounted (s : NodeWatcher N) : Prop where
  deleted_eq : s.deleted = s.cleaned ++ pending s.phase
  connected_of : isWatching s.phase = true → s.connected = true

theorem Accounted.next (h : s.Accounted) (hk : s.Kept .next) (hphase : s.phase = .watching ds o)
    (hstep : s.watchNodeDeletions ds o = some t) : t.Accounted := by
  have hd := h.deleted_eq
  have hc := h.connected_of (by rw [hphase]; rfl)
  rw [hphase] at hd
  unfold watchNodeDeletions at hstep
  split at hstep
  · cases hstep
  · cases hstep
    exact ⟨hd, fun _ => hc⟩
  · cases hstep
    refine ⟨?_, fun _ => hc⟩
    rw [hd]
    exact congrArg (s.cleaned ++ ·) (hk _ _ hphase : List.filterMap WatchEvent.gone _ = [])
  · cases hstep
    refine ⟨?_, fun _ => hc⟩
    rw [hd, List.append_assoc]
    rfl
  · cases hstep
    exact ⟨hd, fun _ => hc⟩
  · cases hstep
    exact ⟨hd, fun _ => hc⟩

variable [DecidableEq N]

theorem Accounted.delete (h : s.Accounted) (hk : s.Kept (.delete node))
    (hstep : s.step (.delete node) = some t) : t.Accounted := by
  simp only [step] at hstep
  split at hstep
  · cases hstep
    refine ⟨?_, fun hw => h.connected_of (isWatching_send.symm.trans hw)⟩
    by_cases hc : s.connected = true
    · obtain ⟨delivered, hphase⟩ := hk hc
      show (if s.connected then _ else _) = s.cleaned ++ pending (send _ s.phase)
      rw [if_pos hc, h.deleted_eq, hphase, List.append_assoc]
      simp only [send, pending, List.filterMap_append, List.filterMap_cons, WatchEvent.gone,
        List.filterMap_nil]
    · -- without a first connection there is no stream to send to
      have hsame : send (.deleted (some node)) s.phase = s.phase := by
        unfold send
        split
        · next hphase => exact absurd (h.connected_of (by rw [hphase]; rfl)) hc
        · rfl
      show (if s.connected then _ else _) = s.cleaned ++ pending (send _ s.phase)
      rw [if_neg hc, hsame, h.deleted_eq]
  · cases hstep

theorem Accounted.step (h : s.Accounted) (hk : s.Kept m) (hstep : s.step m = some t) :
    t.Accounted := by
  cases m with
  | create node =>
    cases hstep
    refine ⟨?_, fun hw => h.connected_of (isWatching_send.symm.trans hw)⟩
    exact h.deleted_eq.trans (by rw [pending_send rfl])
  | delete node => exact h.delete hk hstep
  | sendError | sendOther =>
    cases hstep
    refine ⟨?_, fun hw => h.connected_of (isWatching_send.symm.trans hw)⟩
    exact h.deleted_eq.trans (by rw [pending_send rfl])
  | disconnect received =>
    simp only [NodeWatcher.step] at hstep
    split at hstep
    · next delivered hphase =>
      cases hstep
      refine ⟨?_, fun _ => h.connected_of (by rw [hphase]; rfl)⟩
      rw [h.deleted_eq, hphase]
      show s.cleaned ++ delivered.filterMap _ = s.cleaned ++ (delivered.take received).filterMap _
      have hlost := hk delivered hphase
      have hsplit := congrArg (List.filterMap WatchEvent.gone)
        (List.take_append_drop received delivered)
      rw [List.filterMap_append, hlost, List.append_nil] at hsplit
      rw [hsplit]
    · cases hstep
  | connect =>
    simp only [NodeWatcher.step] at hstep
    split at hstep
    · next hphase =>
      cases hstep
      refine ⟨?_, fun _ => rfl⟩
      rw [h.deleted_eq, hphase]
      have hadded : (s.nodes.map WatchEvent.added).filterMap WatchEvent.gone = [] := by
        rw [List.filterMap_map]
        exact List.filterMap_eq_nil_iff.2 fun _ _ => rfl
      exact congrArg (s.cleaned ++ ·) hadded.symm
    · cases hstep
  | connectFails =>
    simp only [NodeWatcher.step] at hstep
    split at hstep
    · cases hstep
      exact ⟨h.deleted_eq, h.connected_of⟩
    · cases hstep
  | cancel =>
    simp only [NodeWatcher.step] at hstep
    split at hstep
    · next hphase =>
      cases hstep
      refine ⟨?_, fun hw => by cases hw⟩
      rw [h.deleted_eq, hphase]
      rfl
    · cases hstep
  | next =>
    simp only [NodeWatcher.step] at hstep
    split at hstep
    · next hphase => exact h.next hk hphase hstep
    · cases hstep

end

/-- When no deletion is lost, the cleanup has been called for every node deleted since the first
connection, once all events of the watch are read. -/
theorem cleaned_of_kept [DecidableEq N] (nodes : List N) (s : NodeWatcher N)
    (h : Reached nodes s) (hread : s.phase = .watching [] true) :
    ∀ node ∈ s.deleted, node ∈ s.cleaned := by
  have hacc : s.Accounted := by
    clear hread
    induction h with
    | refl => exact ⟨rfl, fun hw => by cases hw⟩
    | tail _ hlast ih =>
      obtain ⟨m, hk, hstep⟩ := hlast
      exact ih.step hk hstep
  have hd := hacc.deleted_eq
  rw [hread] at hd
  intro node hnode
  rw [hd] at hnode
  exact (List.append_nil s.cleaned) ▸ hnode

theorem cleaned_of_kept_watched : ∃ s : NodeWatcher Nat, s.deleted = [1, 2] ∧
    ∀ node ∈ s.deleted, node ∈ s.cleaned := by
  -- one deletion in a watch, which then ends; another one in the next watch
  let state (nodes : List Nat) (phase : WatchPhase Nat) (backoff : Nat) (cleaned deleted : List Nat) :
      NodeWatcher Nat := ⟨nodes, phase, backoff, cleaned, true, deleted⟩
  let last := state [] (.watching [] true) 1 [1, 2] [1, 2]
  have hnone : ∀ {o : Bool} {p : WatchPhase Nat}, p = .watching [] o →
      ∀ rest isOpen, p = .watching (.error :: rest) isOpen →
        rest.filterMap WatchEvent.gone = [] := by
    rintro o p rfl rest isOpen he
    cases he
  have hwatched : Reached [1] (state [] (.watching [] true) 1 [1] [1]) := by
    refine .tail (b := state [] (.watching [.deleted (some 1)] true) 1 [] [1])
      (.tail (b := state [1] (.watching [] true) 1 [] [])
        (.tail (b := state [1] (.watching [.added 1] true) 1 [] []) (.single ?_) ?_) ?_) ?_
    · exact ⟨.connect, trivial, rfl⟩
    · exact ⟨.next, fun _ _ he => (by cases he), rfl⟩
    · exact ⟨.delete 1, fun _ => ⟨[], rfl⟩, rfl⟩
    · exact ⟨.next, fun _ _ he => (by cases he), rfl⟩
  have hagain : Reached [1] (state [2] (.watching [] true) 1 [1] [1]) := by
    refine .tail (b := state [2] (.watching [.added 2] true) 1 [1] [1])
      (.tail (b := state [2] .waiting 2 [1] [1]) (.tail (b := state [] .waiting 2 [1] [1])
        (.tail (b := state [] .waiting 1 [1] [1])
          (.tail (b := state [] (.watching [] false) 1 [1] [1]) (hwatched.tail ?_) ?_) ?_) ?_) ?_) ?_
    · exact ⟨.disconnect 0, fun _ he => (by cases he; rfl), rfl⟩
    · exact ⟨.next, hnone rfl, rfl⟩
    · exact ⟨.connectFails, trivial, rfl⟩
    · exact ⟨.create 2, trivial, rfl⟩
    · exact ⟨.connect, trivial, rfl⟩
    · exact ⟨.next, fun _ _ he => (by cases he), rfl⟩
  refine ⟨last, rfl, cleaned_of_kept [1] last ?_ rfl⟩
  refine .tail (b := state [] (.watching [.deleted (some 2)] true) 1 [1] [1, 2]) (hagain.tail ?_) ?_
  · exact ⟨.delete 2, fun _ => ⟨[], rfl⟩, rfl⟩
  · exact ⟨.next, fun _ _ he => (by cases he), rfl⟩

/-- A node is deleted between two watches: the second one does not tell of it. -/
theorem cleaned_of_kept_missed : let moves : List (WatchMove Nat) :=
      [.connect, .next, .disconnect 0, .next, .delete 1, .connect]
    moves.foldlM step (new [1]) =
      some { nodes := [], phase := .watching [] true, currentBackoff := 1, cleaned := [],
             connected := true, deleted := [1] } :=
  rfl

end NodeWatcher

end CsiPowerscale
