import Taoshan.Agps.Invariant
import Taoshan.Eng.Deferred

/-!
# When the Modem Comes Back

A client that leaves takes the connection with it if it was the last one: the
machine moves to the Released state and tells the service. The modem's return
empties the lists of two machines directly, and neither happens. A machine that
had clients stays in the state it was in, with nobody listed, and a connection
that had been requested is not released, since nobody is left to unsubscribe.

A machine without clients is left in order if and only if there was nobody to
drop, so the condition on a run is exact: the modem comes back only while both
machines are without clients (`noOrphan_iff`).

## Main definitions

* `NoOrphan`: A machine without clients is in the Released state, and nothing
  it has requested is outstanding.
* `Unattended`: The modem comes back to machines without clients.
* `Kept`: The invariant of a machine with its log.

## Theorems

* `kept_call`, `kept_drop`: What keeps a machine in order.
* `noOrphan_iff`: No connection is orphaned if and only if nobody is dropped.
-/

namespace Taoshan

namespace Eng

open Agps

/-- A machine that nobody uses is in the Released state, and every connection
    it has requested has been released, denied or taken away. -/
def NoOrphan (t : Thread) : Prop :=
  ∀ i, i = .agnss ∨ i = .internet → (t.data.nif i).mSubscribers = [] →
    (t.data.nif i).mStatePtr = .released ∧ outstanding (logOf i t.log) = false

/-- The modem comes back only while nobody uses the two machines. -/
def Unattended (t : Thread) (msg : MsgEnv × Msg) : Prop :=
  msg.2 = .engineUp → t.data.agnssNif.mSubscribers = [] ∧ t.data.internetNif.mSubscribers = []

/-- A machine whose list, state and log agree. -/
structure Kept (m : AgpsStateMachine) (log : List Entry) : Prop where
  sound : Sound m
  occupied : m.mSubscribers = [] → m.mStatePtr = .released
  outstanding_eq : outstanding log = wanted m.mStatePtr

/-- All machines of the thread are in order, and the callback is there. -/
structure ThreadKept (t : Thread) : Prop where
  callback : t.data.agpsStatusCb = true
  kept : ∀ i, Kept (t.data.nif i) (logOf i t.log)

section Machine

variable {m : AgpsStateMachine} {log : List Entry}

theorem kept_init (type : AGpsType) (one : Bool) (bearer : Int) :
    Kept (.init type one bearer) [] where
  sound := sound_init type one bearer
  occupied := fun _ => rfl
  outstanding_eq := rfl

/-- A call keeps a machine in order. -/
theorem kept_call (h : Kept m log) (env : Env) (op : Op) :
    Kept (m.perform env op).1
      (log ++ (answerOf m.mStatePtr op ++ (m.perform env op).2.map .effect)) := by
  have ht := perform_transition h.sound env op
  refine ⟨sound_of_transition h.sound ht, occupied_of_transition h.occupied ht, ?_⟩
  unfold outstanding
  rw [Monitor.after_append, show requests.after false log = wanted m.mStatePtr from
    h.outstanding_eq]
  exact (requests_of_transition ht).1

/-- So do a new bearer and a new name. -/
theorem kept_tune (h : Kept m log) (b : Int) (apn : Option (List UInt8)) (len : Nat) :
    Kept ((m.setBearer b).setAPN apn len) log where
  sound := ⟨h.sound.nodup, h.sound.fresh, h.sound.released⟩
  occupied := h.occupied
  outstanding_eq := h.outstanding_eq

/-- A flush keeps it in order if there is nobody to drop. -/
theorem kept_drop (h : Kept m log) (hl : m.mSubscribers = []) :
    Kept m.dropAllSubscribers.1 (log ++ m.dropAllSubscribers.2.map .effect) := by
  -- An empty list is flushed without a trace, and the state is kept as it was.
  refine ⟨sound_drop, fun _ => h.occupied hl, ?_⟩
  simp only [AgpsStateMachine.dropAllSubscribers, hl, List.map_nil, List.append_nil]
  exact h.outstanding_eq

end Machine

section Runs

variable {t t' : Thread} {msg : MsgEnv × Msg}

theorem threadKept_init (bearer : Int) : ThreadKept (.init bearer) where
  callback := rfl
  kept := by
    intro i
    cases i with
    | agnss => exact kept_init _ _ _
    | internet => exact kept_init _ _ _
    | wifi => exact kept_init _ _ _

theorem noOrphan_of_threadKept (h : ThreadKept t) : NoOrphan t := by
  intro i _ hl
  have hst := (h.kept i).occupied hl
  refine ⟨hst, ?_⟩
  rw [(h.kept i).outstanding_eq, hst]
  rfl

/-- A step that meets the condition keeps the machines in order. -/
theorem threadKept_step (h : ThreadKept t) (hg : Unattended t msg) (hs : t.step msg = some t') :
    ThreadKept t' := by
  rcases msg with ⟨env, msg⟩
  simp only [Thread.step, Option.some.injEq] at hs
  rw [← hs]
  refine ⟨(handle_agpsStatusCb t.data env msg).trans h.callback, fun i => ?_⟩
  simp only [logOf_append]
  by_cases hmsg : msg = .engineUp
  · subst hmsg
    rcases hg rfl with ⟨hagnss, hinternet⟩
    cases i with
    | agnss =>
        rcases engineUp_nif t.data env h.callback (by decide : NifId.agnss ≠ .wifi) with
          ⟨hnif, hlog⟩
        rw [hnif, hlog]
        exact kept_drop (h.kept .agnss) hagnss
    | internet =>
        rcases engineUp_nif t.data env h.callback (by decide : NifId.internet ≠ .wifi) with
          ⟨hnif, hlog⟩
        rw [hnif, hlog]
        exact kept_drop (h.kept .internet) hinternet
    | wifi =>
        rcases engineUp_nif_wifi t.data env with ⟨hnif, hlog⟩
        rw [hnif, hlog, List.append_nil]
        exact h.kept .wifi
  · exact handle_local (P := fun _ => Kept) _ (fun _ _ _ env op _ hk => kept_call hk env op)
      (fun _ _ _ b apn len hk => kept_tune hk b apn len) h.kept env hmsg i

/-- A step after which no connection is orphaned met the condition: whoever is
    dropped leaves a machine behind that is not in the Released state. -/
theorem unattended_of_noOrphan (h : ThreadKept t) (hs : t.step msg = some t')
    (hno : NoOrphan t') : Unattended t msg := by
  rcases msg with ⟨env, msg⟩
  simp only [Thread.step, Option.some.injEq] at hs
  rw [← hs] at hno
  intro hmsg
  simp only at hmsg
  subst hmsg
  -- The state after the flush is the state before it.
  have hempty : ∀ i, i = .agnss ∨ i = .internet → (t.data.nif i).mSubscribers = [] := by
    intro i hi
    have hwifi : i ≠ .wifi := by
      rcases hi with rfl | rfl
      · decide
      · decide
    have hnif := (engineUp_nif t.data env h.callback hwifi).1
    have hreleased := (hno i hi (by simp only [hnif]; rfl)).1
    simp only [hnif] at hreleased
    exact (h.kept i).sound.released hreleased
  exact ⟨hempty .agnss (Or.inl rfl), hempty .internet (Or.inr rfl)⟩

/-- Over every sequence of messages, no connection is orphaned if and only if
    the modem comes back only while nobody uses the two machines. -/
theorem noOrphan_iff (bearer : Int) (msgs : List (MsgEnv × Msg)) :
    Run.Throughout Thread.step NoOrphan (.init bearer) msgs ↔
      Run.Guarded Thread.step Unattended (.init bearer) msgs :=
  Run.throughout_iff_guarded ThreadKept (fun _ => noOrphan_of_threadKept)
    (fun _ _ _ => threadKept_step) (fun _ _ _ => unattended_of_noOrphan) (threadKept_init bearer)

/-- The modem comes back while one of its own connections is being opened. -/
def crashWhilePending : List (MsgEnv × Msg) :=
  [(.zeros, .requestAtl 1 AGPS_TYPE_SUPL), (.zeros, .engineUp)]

/-- The request is never released. -/
theorem crashWhilePending_orphans :
    ¬ Run.Throughout Thread.step NoOrphan (.init 0) crashWhilePending := by
  have hend : (Run.exec Thread.step (.init 0) crashWhilePending).map (fun t =>
      ((t.data.nif .agnss).mSubscribers, (t.data.nif .agnss).mStatePtr)) = some ([], .pending) := by
    decide +kernel
  rcases Option.map_eq_some_iff.mp hend with ⟨t, hrun, ht⟩
  rw [Prod.mk.injEq] at ht
  intro hall
  have hno : NoOrphan t := Run.throughout_iff_prefix.mp hall _ t (List.prefix_refl _) hrun
  have hreleased := (hno .agnss (Or.inl rfl) ht.1).1
  rw [ht.2] at hreleased
  cases hreleased

end Runs

end Eng

end Taoshan
