import Taoshan.Lib.Monitor
import Taoshan.Lib.Run
import Taoshan.Agps.Transition

/-!
# Requests and Releases Alternate

The connectivity service counts: every request is to be followed by a release,
and nothing is to be released that was not requested. The machine sends the two
from eight places in four handlers, and each goes through a guard that searches
the list again.

The log of a run holds what the machine does and, since a connection can also
come to its end without being released, the answers of the service together
with the state in which they were handled. `requests` watches it: a request is
outstanding until it is released, denied or taken away. That one is outstanding
exactly in the Pending and the Acquired state is what makes the rest follow.
Nothing here needs the list to be in order beyond `Sound`, so the flush of a
modem restart is allowed at any point.

## Main definitions

* `Call`: A call of the interface, or the flush.
* `Entry`: A line of the log.
* `Traced`: A machine with its log.
* `requests`: The monitor of requests and releases.

## Theorems

* `requests_of_settled`: An unsubscription releases what is outstanding.
* `requests_of_transition`: Every call keeps the count.
* `alternation_run`: Requests and releases alternate in every run.
-/

namespace Taoshan

namespace Agps

/-- A call of the interface, or the flush done when the modem restarts. -/
inductive Call
  | op (env : Env) (op : Op)
  | dropAllSubscribers

/-- What happens in a run: an answer of the service is handled in some state,
    or the machine does something. -/
inductive Entry
  | handled (st : AgpsState) (event : AgpsRsrcStatus)
  | effect (e : Effect)
  deriving DecidableEq

/-- The answer a call hands to the machine. -/
def answerOf (st : AgpsState) : Op → List Entry
  | .onRsrcEvent event => [.handled st event]
  | _ => []

/-- A machine with everything that has happened so far. -/
structure Traced where
  machine : AgpsStateMachine
  log : List Entry

def Traced.init (m : AgpsStateMachine) : Traced := ⟨m, []⟩

/-- One call, with what it adds to the log. -/
def Traced.step (t : Traced) : Call → Option Traced
  | .op env op =>
      let r := t.machine.perform env op
      some ⟨r.1, t.log ++ (answerOf t.machine.mStatePtr op ++ r.2.map Entry.effect)⟩
  | .dropAllSubscribers =>
      let r := t.machine.dropAllSubscribers
      some ⟨r.1, t.log ++ r.2.map Entry.effect⟩

/-- Whether a request is outstanding. A request must not be sent while one is,
    a release only while one is, and no call may be lost to the guard. -/
def requests : Monitor Bool Entry where
  next b
    | .effect (.servicer r) => r.status == .requestAgpsDataConn
    -- The two answers that end a request without a release.
    | .handled .pending .denied => false
    | .handled .acquired .released => false
    | _ => b
  ok b
    | .effect (.servicer r) => r.status = .requestAgpsDataConn ↔ b = false
    | .effect (.suppressed _) => False
    | _ => True

/-- A request is outstanding after the log. -/
def outstanding (log : List Entry) : Bool := requests.after false log

/-- Whether one is outstanding in a state. -/
def wanted : AgpsState → Bool
  | .pending => true
  | .acquired => true
  | _ => false

/-- The effects that are no business of the service. -/
def Quiet (out : List Effect) : Prop :=
  ∀ e ∈ out, (∃ s msg, e = .notify s msg) ∨ ∃ obj, e = .deleteObj obj

section Quiet

variable {out : List Effect}

theorem quiet_nil : Quiet [] := fun _ he => absurd he List.not_mem_nil

theorem quiet_told (nif : Nif) (status : AgpsRsrcStatus) (s : Subscriber) :
    Quiet (told nif status s) := by
  intro e he
  rcases List.mem_map.mp he with ⟨msg, _, rfl⟩
  exact Or.inl ⟨s, msg, rfl⟩

theorem quiet_flatMap_told (nif : Nif) (status : AgpsRsrcStatus) (l : List Subscriber) :
    Quiet (l.flatMap (told nif status)) := by
  intro e he
  rcases List.mem_flatMap.mp he with ⟨s, _, hs⟩
  exact quiet_told nif status s e hs

theorem quiet_welcome (m : AgpsStateMachine) (s : Subscriber) : Quiet (m.welcome s) := by
  unfold AgpsStateMachine.welcome
  by_cases hst : m.mStatePtr = .acquired
  · rw [if_pos hst]
    exact quiet_told _ _ _
  · rw [if_neg hst]
    exact quiet_nil

theorem quiet_drop (m : AgpsStateMachine) : Quiet m.dropAllSubscribers.2 := by
  intro e he
  rcases List.mem_map.mp he with ⟨s, _, rfl⟩
  exact Or.inr ⟨s.obj, rfl⟩

/-- The monitor does not watch them. -/
theorem requests_of_quiet (h : Quiet out) (b : Bool) :
    requests.after b (out.map Entry.effect) = b ∧
      requests.Accepts b (out.map Entry.effect) := by
  have hnext : ∀ e ∈ out.map Entry.effect, requests.next b e = b ∧ requests.ok b e := by
    intro e he
    rcases List.mem_map.mp he with ⟨f, hf, rfl⟩
    rcases h f hf with ⟨s, msg, rfl⟩ | ⟨obj, rfl⟩
    · exact ⟨rfl, trivial⟩
    · exact ⟨rfl, trivial⟩
  exact ⟨requests.after_of_quiet (fun e he => (hnext e he).1),
    requests.accepts_of_quiet (fun e he => (hnext e he).1) (fun e he => (hnext e he).2)⟩

/-- Effects that the monitor does not watch, and then others. -/
theorem requests_quiet_append (h : Quiet out) (b : Bool) (es : List Effect) :
    requests.after b ((out ++ es).map Entry.effect) = requests.after b (es.map Entry.effect) ∧
      (requests.Accepts b ((out ++ es).map Entry.effect) ↔
        requests.Accepts b (es.map Entry.effect)) := by
  rcases requests_of_quiet h b with ⟨hafter, hacc⟩
  rw [List.map_append, Monitor.after_append, Monitor.accepts_append, hafter]
  exact ⟨rfl, and_iff_right hacc⟩

end Quiet

section Steps

variable {m m' : AgpsStateMachine} {env : Env} {op : Op} {out req : List Effect}

/-- One call of the service. -/
theorem requests_servicer (b : Bool) (r : AGpsStatus) :
    requests.after b [.effect (.servicer r)] = (r.status == .requestAgpsDataConn) ∧
      (requests.Accepts b [.effect (.servicer r)] ↔
        (r.status = .requestAgpsDataConn ↔ b = false)) :=
  ⟨rfl, and_iff_left trivial⟩

/-- A request while none is outstanding. -/
theorem requests_request (m : AgpsStateMachine) (stack : AGpsStatus) :
    requests.after false
        ([Effect.servicer (m.nifRequest stack .requestAgpsDataConn)].map Entry.effect) = true ∧
      requests.Accepts false
        ([Effect.servicer (m.nifRequest stack .requestAgpsDataConn)].map Entry.effect) := by
  have h := requests_servicer false (m.nifRequest stack .requestAgpsDataConn)
  rw [m.nifRequest_status] at h
  exact ⟨h.1, h.2.mpr (by decide)⟩

/-- A release while one is. -/
theorem requests_release (m : AgpsStateMachine) (stack : AGpsStatus) :
    requests.after true
        ([Effect.servicer (m.nifRequest stack .releaseAgpsDataConn)].map Entry.effect) = false ∧
      requests.Accepts true
        ([Effect.servicer (m.nifRequest stack .releaseAgpsDataConn)].map Entry.effect) := by
  have h := requests_servicer true (m.nifRequest stack .releaseAgpsDataConn)
  rw [m.nifRequest_status] at h
  exact ⟨h.1, h.2.mpr (by decide)⟩

/-- An unsubscription releases what is outstanding when it leaves the Pending
    or the Acquired state, and asks for nothing otherwise. -/
theorem requests_of_settled {st : AgpsState} (hset : Settled env m st req)
    (hm : m.mStatePtr ≠ .released) :
    requests.after (wanted m.mStatePtr) (req.map Entry.effect) = wanted st ∧
      requests.Accepts (wanted m.mStatePtr) (req.map Entry.effect) := by
  have hwanted : m.mStatePtr ≠ .releasing → wanted m.mStatePtr = true := by
    intro hne
    cases hst : m.mStatePtr with
    | released => exact absurd hst hm
    | pending => rfl
    | acquired => rfl
    | releasing => exact absurd hst hne
  cases hset with
  | empty hst hl =>
      rw [hwanted hst]
      exact requests_release m env.nifRequest
  | emptyReleasing hst hl =>
      rw [hst]
      exact ⟨rfl, trivial⟩
  | inactive hst hl hall =>
      rw [hwanted hst]
      exact requests_release m env.nifRequest
  | stay hl hactive => exact ⟨rfl, trivial⟩

/-- An answer that a state ignores does not end a request. -/
theorem requests_ignored {st : AgpsState} {ev : AgpsRsrcStatus} (h : ignored st ev = true)
    (b : Bool) : requests.after b [.handled st ev] = b := by
  cases st <;> cases ev <;> first | rfl | exact absurd h (by decide)

/-- An answer, and then effects that the monitor does not watch. -/
theorem requests_handled {st : AgpsState} {ev : AgpsRsrcStatus} {b : Bool}
    (hb : requests.next (wanted st) (.handled st ev) = b) (h : Quiet out) :
    requests.after (wanted st) ([.handled st ev] ++ out.map Entry.effect) = b ∧
      requests.Accepts (wanted st) ([.handled st ev] ++ out.map Entry.effect) := by
  rcases requests_of_quiet h b with ⟨hafter, hacc⟩
  rw [Monitor.after_append, Monitor.accepts_append, Monitor.after_cons, Monitor.after_nil, hb]
  exact ⟨hafter, ⟨trivial, trivial⟩, hacc⟩

/-- Every call keeps the count: if a request was outstanding exactly in the
    Pending and the Acquired state, so it is afterwards, and everything on the
    way was in order. -/
theorem requests_of_transition (ht : Transition m env op m' out) :
    requests.after (wanted m.mStatePtr)
        (answerOf m.mStatePtr op ++ out.map Entry.effect) = wanted m'.mStatePtr ∧
      requests.Accepts (wanted m.mStatePtr)
        (answerOf m.mStatePtr op ++ out.map Entry.effect) := by
  cases ht with
  | refuse _ _ => exact requests_of_quiet (quiet_told _ _ _) _
  | request hst _ =>
      rw [hst]
      exact requests_request _ _
  | join _ _ _ => exact requests_of_quiet (quiet_welcome _ _) _
  | enlist _ _ _ => exact requests_of_quiet (quiet_welcome _ _) _
  | unknown _ => exact requests_of_quiet quiet_nil _
  | @mute s x st req hst _ _ hset => exact requests_of_settled (m := m.setInactive x) hset hst
  | leave hst _ _ hout _ hset =>
      have hquiet : Quiet _ := fun e he =>
        quiet_flatMap_told _ _ _ e (hout.mem_iff.mp he)
      rcases requests_quiet_append hquiet (wanted m.mStatePtr) _ with ⟨hafter, hacc⟩
      rcases requests_of_settled hset hst with ⟨hafter', hacc'⟩
      exact ⟨hafter.trans hafter', hacc.mpr hacc'⟩
  | grant hst =>
      rw [hst]
      exact requests_handled rfl (quiet_flatMap_told _ _ _)
  | deny hst =>
      -- The denial ends the request that is outstanding.
      rw [hst]
      exact requests_handled rfl (quiet_flatMap_told _ _ _)
  | force hst =>
      -- So does the release that nobody asked for.
      rw [hst]
      exact requests_handled rfl (quiet_flatMap_told _ _ _)
  | close hst hev _ =>
      -- The release was sent on the way into the Releasing state.
      rw [hst]
      rcases hev with rfl | rfl
      · exact requests_handled rfl (quiet_flatMap_told _ _ _)
      · exact requests_handled rfl (quiet_flatMap_told _ _ _)
  | @reopen ev l hst hev hl hne =>
      -- The request was released on the way into the Releasing state.
      rw [hst]
      have hquiet := quiet_flatMap_told m.toNif ev (m.mSubscribers.filter (fun x => x.isInactive))
      rcases requests_quiet_append hquiet false [Effect.servicer
        ((m.become .pending l).nifRequest env.nifRequest .requestAgpsDataConn)] with
        ⟨hafter, hacc⟩
      rcases requests_request (m.become .pending l) env.nifRequest with ⟨hafter', hacc'⟩
      rcases hev with rfl | rfl
      · exact ⟨hafter.trans hafter', trivial, hacc.mpr hacc'⟩
      · exact ⟨hafter.trans hafter', trivial, hacc.mpr hacc'⟩
  | @ignore ev hign =>
      rw [List.map_nil, List.append_nil]
      exact ⟨requests_ignored hign _, trivial, trivial⟩

/-- The log agrees with the state, and everything in it was in order. -/
structure Counted (t : Traced) : Prop where
  sound : Sound t.machine
  outstanding_eq : outstanding t.log = wanted t.machine.mStatePtr
  accepts : requests.Accepts false t.log

theorem counted_init (type : AGpsType) (one : Bool) (bearer : Int) :
    Counted (.init (.init type one bearer)) where
  sound := sound_init type one bearer
  outstanding_eq := rfl
  accepts := trivial

theorem counted_step {t t' : Traced} {call : Call} (h : Counted t)
    (hs : t.step call = some t') : Counted t' := by
  -- What is appended is judged in the state the log has led to.
  have hgrow : ∀ (m' : AgpsStateMachine) (es : List Entry), Sound m' →
      requests.after (wanted t.machine.mStatePtr) es = wanted m'.mStatePtr →
      requests.Accepts (wanted t.machine.mStatePtr) es → Counted ⟨m', t.log ++ es⟩ := by
    intro m' es hm' hafter hacc
    rw [← h.outstanding_eq] at hafter hacc
    refine ⟨hm', ?_, ?_⟩
    · unfold outstanding
      rw [Monitor.after_append]
      exact hafter
    · rw [Monitor.accepts_append]
      exact ⟨h.accepts, hacc⟩
  cases call with
  | op env op =>
      simp only [Traced.step, Option.some.injEq] at hs
      have ht := perform_transition h.sound env op
      rcases requests_of_transition ht with ⟨hafter, hacc⟩
      rw [← hs]
      exact hgrow _ _ (sound_of_transition h.sound ht) hafter hacc
  | dropAllSubscribers =>
      simp only [Traced.step, Option.some.injEq] at hs
      rcases requests_of_quiet (quiet_drop t.machine) (wanted t.machine.mStatePtr) with
        ⟨hafter, hacc⟩
      rw [← hs]
      exact hgrow _ _ sound_drop hafter hacc

theorem wanted_iff (st : AgpsState) :
    wanted st = true ↔ st = .pending ∨ st = .acquired := by
  cases st with
  | released => decide
  | pending => decide
  | acquired => decide
  | releasing => decide

/-- After every call of every run, flushes included: the service has been
    called with a request only while none was outstanding and with a release
    only while one was, one is outstanding exactly in the Pending and the
    Acquired state, and the guard has kept no call from the service. -/
theorem alternation_run (type : AGpsType) (one : Bool) (bearer : Int) (calls : List Call) :
    Run.Throughout Traced.step (fun t =>
      (∀ pre r post, t.log = pre ++ .effect (.servicer r) :: post →
        (r.status = .requestAgpsDataConn → outstanding pre = false) ∧
        (r.status = .releaseAgpsDataConn → outstanding pre = true)) ∧
      (outstanding t.log = true ↔
        t.machine.mStatePtr = .pending ∨ t.machine.mStatePtr = .acquired) ∧
      ∀ action, .effect (.suppressed action) ∉ t.log)
      (.init (.init type one bearer)) calls := by
  refine Run.throughout_invariant Counted ?_ (fun _ _ _ => counted_step) calls
    (counted_init type one bearer)
  intro t h
  have hok := requests.accepts_iff.mp h.accepts
  refine ⟨fun pre r post hlog => ?_, ?_, fun action hin => ?_⟩
  · -- The call was in order in the state that the log in front of it led to.
    have hr : r.status = .requestAgpsDataConn ↔ outstanding pre = false := hok pre _ post hlog
    refine ⟨hr.mp, fun hrel => ?_⟩
    by_contra hout
    rw [hr.mpr (Bool.eq_false_iff.mpr hout)] at hrel
    exact AGpsStatusValue.noConfusion hrel
  · rw [h.outstanding_eq]
    exact wanted_iff _
  · rcases List.append_of_mem hin with ⟨pre, post, hlog⟩
    exact hok pre _ post hlog

end Steps

end Agps

end Taoshan
