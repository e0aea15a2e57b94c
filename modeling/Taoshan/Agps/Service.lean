import Taoshan.Agps.Requests

/-!
# The Machine and the Connectivity Service

The machine and the service talk over two channels. Requests reach the service
in order, it opens or closes the connection and answers, and its answers reach
the machine in order, each after an arbitrary delay. Neither requests nor
answers carry an identifier.

The machine may therefore take an answer for one to another request. An
unsubscription takes it from the Pending straight to the Released state while
the grant it asked for is still under way. If a client subscribes again before
that grant has arrived, the grant is taken for the answer to the new request,
the release that follows it is taken for the connection being taken away, and
the grant that the new request earns is ignored: the connection stays open and
nobody is left who would release it (`resubscribed_orphans`). The Releasing
state, in which a WIFI client waits for the close, exists to keep such answers
apart, and the Pending state names the races it is afraid of.

As long as no request is sent while a grant is under way, the answers still to
come have one of a few shapes in each state (`Shape`), and machine and service
agree whenever nothing is under way (`agrees_of_linkInv`). The condition gives
nothing away: a request sent against it can always be followed by the service's
own steps to a state in which they do not agree (`disagrees_of_not_guarded`).

## Main definitions

* `Control`: What a call means for the connection.
* `Link`: Machine, service, and what is under way between them.
* `Agrees`: The agreement.
* `NoGrantInFlight`, `Guard`: The condition on a step.
* `LinkInv`: The invariant of guarded runs.

## Theorems

* `control_of_transition`: The clients are forgotten, the requests are not.
* `linkInv_step`: A guarded step keeps the invariant.
* `drain`: Everything under way can be delivered.
* `agreement`: The condition is enough, and no more than enough.
-/

namespace Taoshan

namespace Agps

/-- What a call means for the connection, from one state to the next, with the
    requests it sends. -/
inductive Control (active : Bool) : AgpsState → Op → AgpsState → List AGpsStatusValue → Prop
  | open {s : Subscriber} :
      Control active .released (.subscribeRsrc s) .pending [.requestAgpsDataConn]
  | join {st : AgpsState} {s : Subscriber} (hst : st ≠ .released) :
      Control active st (.subscribeRsrc s) st []
  | remain {st : AgpsState} {s : Subscriber} : Control active st (.unsubscribeRsrc s) st []
  | release {st st' : AgpsState} {s : Subscriber} (hst : st = .pending ∨ st = .acquired)
      (hst' : st' = .released ∨ st' = .releasing) :
      Control active st (.unsubscribeRsrc s) st' [.releaseAgpsDataConn]
  | desert {s : Subscriber} : Control active .releasing (.unsubscribeRsrc s) .released []
  | granted : Control active .pending (.onRsrcEvent .granted) .acquired []
  | denied : Control active .pending (.onRsrcEvent .denied) .released []
  | forced : Control active .acquired (.onRsrcEvent .released) .released []
  | closed {ev : AgpsRsrcStatus} (hev : ev = .released ∨ ev = .denied) (hact : active = false) :
      Control active .releasing (.onRsrcEvent ev) .released []
  | reopened {ev : AgpsRsrcStatus} (hev : ev = .released ∨ ev = .denied) (hact : active = true) :
      Control active .releasing (.onRsrcEvent ev) .pending [.requestAgpsDataConn]
  | ignored {st : AgpsState} {ev : AgpsRsrcStatus} (hign : ignored st ev = true) :
      Control active st (.onRsrcEvent ev) st []

/-- The calls of the service among the effects. -/
def requestsOf (out : List Effect) : List AGpsStatusValue :=
  out.filterMap fun
    | .servicer r => some r.status
    | _ => none

section Control

variable {m m' : AgpsStateMachine} {env : Env} {op : Op} {out req : List Effect}

theorem requestsOf_append (xs ys : List Effect) :
    requestsOf (xs ++ ys) = requestsOf xs ++ requestsOf ys := List.filterMap_append

theorem requestsOf_of_quiet (h : Quiet out) : requestsOf out = [] := by
  refine List.filterMap_eq_nil_iff.mpr (fun e he => ?_)
  rcases h e he with ⟨s, msg, rfl⟩ | ⟨obj, rfl⟩
  · rfl
  · rfl

theorem requestsOf_servicer (m : AgpsStateMachine) (stack : AGpsStatus)
    (action : AGpsStatusValue) :
    requestsOf [.servicer (m.nifRequest stack action)] = [action] :=
  congrArg (fun a => [a]) (m.nifRequest_status stack action)

/-- An unsubscription, as far as the connection is concerned. -/
theorem control_of_settled (active : Bool) {st : AgpsState} {s : Subscriber}
    (hset : Settled env m st req) (hm : m.mStatePtr ≠ .released) :
    Control active m.mStatePtr (.unsubscribeRsrc s) st (requestsOf req) := by
  have hheld : m.mStatePtr ≠ .releasing → m.mStatePtr = .pending ∨ m.mStatePtr = .acquired := by
    intro hne
    cases hst : m.mStatePtr with
    | released => exact absurd hst hm
    | pending => exact Or.inl rfl
    | acquired => exact Or.inr rfl
    | releasing => exact absurd hst hne
  cases hset with
  | empty hst _ =>
      rw [requestsOf_servicer]
      exact Control.release (hheld hst) (Or.inl rfl)
  | emptyReleasing hst _ =>
      rw [hst]
      exact Control.desert
  | inactive hst _ _ =>
      rw [requestsOf_servicer]
      exact Control.release (hheld hst) (Or.inr rfl)
  | stay _ _ => exact Control.remain

/-- The clients are forgotten, the requests are not. -/
theorem control_of_transition (h : Sound m) (ht : Transition m env op m' out) :
    Control m.hasActiveSubscribers m.mStatePtr op m'.mStatePtr (requestsOf out) := by
  cases ht with
  | refuse _ hl =>
      rw [requestsOf_of_quiet (quiet_told _ _ _)]
      exact Control.join (fun hst => hl (h.released hst))
  | request hst _ =>
      rw [requestsOf_servicer, hst]
      exact Control.open
  | join hst _ _ =>
      rw [requestsOf_of_quiet (quiet_welcome _ _)]
      exact Control.join hst
  | enlist hst _ _ =>
      rw [requestsOf_of_quiet (quiet_welcome _ _)]
      exact Control.join hst
  | unknown _ => exact Control.remain
  | @mute s x st req hst _ _ hset =>
      exact control_of_settled (m := m.setInactive x) _ hset hst
  | @leave s x w st out req hst _ _ hout _ hset =>
      have hquiet : Quiet out := fun e he => quiet_flatMap_told _ _ _ e (hout.mem_iff.mp he)
      rw [requestsOf_append, requestsOf_of_quiet hquiet, List.nil_append]
      exact control_of_settled
        (m := m.become m.mStatePtr (m.mSubscribers.filter (fun y => !y.equals w x))) _ hset hst
  | grant hst =>
      rw [requestsOf_of_quiet (quiet_flatMap_told _ _ _), hst]
      exact Control.granted
  | deny hst =>
      rw [requestsOf_of_quiet (quiet_flatMap_told _ _ _), hst]
      exact Control.denied
  | force hst =>
      rw [requestsOf_of_quiet (quiet_flatMap_told _ _ _), hst]
      exact Control.forced
  | close hst hev hall =>
      rw [requestsOf_of_quiet (quiet_flatMap_told _ _ _), hst]
      refine Control.closed hev (Bool.eq_false_iff.mpr (fun hact => ?_))
      rcases m.hasActiveSubscribers_iff.mp hact with ⟨x, hx, hfalse⟩
      rw [hall x hx] at hfalse
      exact Bool.noConfusion hfalse
  | reopen hst hev hl hne =>
      rw [requestsOf_append, requestsOf_of_quiet (quiet_flatMap_told _ _ _), requestsOf_servicer,
        hst]
      refine Control.reopened hev (m.hasActiveSubscribers_iff.mpr ?_)
      rcases List.exists_mem_of_ne_nil _ hne with ⟨x, hx⟩
      rw [hl] at hx
      rcases List.mem_filter.mp hx with ⟨hmem, hact⟩
      exact ⟨x, hmem, Bool.not_eq_true' _ |>.mp hact⟩
  | ignore hign => exact Control.ignored hign

/-- What a call means for the connection. -/
theorem control_perform (h : Sound m) (env : Env) (op : Op) :
    Control m.hasActiveSubscribers m.mStatePtr op (m.perform env op).1.mStatePtr
      (requestsOf (m.perform env op).2) :=
  control_of_transition h (perform_transition h env op)

/-- The first client makes the machine ask for the connection. -/
theorem subscribe_requests (h : Sound m) (hst : m.mStatePtr = .released) (env : Env)
    (x : Subscriber) :
    (m.perform env (.subscribeRsrc x)).1.mStatePtr = .pending ∧
      requestsOf (m.perform env (.subscribeRsrc x)).2 = [.requestAgpsDataConn] := by
  have hctl := control_perform h env (.subscribeRsrc x)
  rw [hst] at hctl
  generalize (m.perform env (.subscribeRsrc x)).1.mStatePtr = st' at hctl ⊢
  generalize requestsOf (m.perform env (.subscribeRsrc x)).2 = reqs at hctl ⊢
  cases hctl with
  | «open» => exact ⟨rfl, rfl⟩
  | join hne => exact absurd rfl hne

/-- So does the end of a close that somebody has been waiting for. -/
theorem released_requests (h : Sound m) (hst : m.mStatePtr = .releasing)
    (hact : m.hasActiveSubscribers = true) (env : Env) :
    (m.perform env (.onRsrcEvent .released)).1.mStatePtr = .pending ∧
      requestsOf (m.perform env (.onRsrcEvent .released)).2 = [.requestAgpsDataConn] := by
  have hctl := control_perform h env (.onRsrcEvent .released)
  rw [hst, hact] at hctl
  generalize (m.perform env (.onRsrcEvent .released)).1.mStatePtr = st' at hctl ⊢
  generalize requestsOf (m.perform env (.onRsrcEvent .released)).2 = reqs at hctl ⊢
  cases hctl with
  | reopened _ _ => exact ⟨rfl, rfl⟩
  | closed _ hn => exact Bool.noConfusion hn
  | ignored hign => exact Bool.noConfusion hign

end Control

/-- The machine, the service, and what is under way between them, oldest
    first. The service is no more than what is assumed of it: whether it holds
    the connection open. -/
structure Link where
  machine : AgpsStateMachine
  requests : List AGpsStatusValue
  isOpen : Bool
  answers : List AgpsRsrcStatus
  deriving DecidableEq

/-- A client calls, the service takes a request, or an answer arrives. -/
inductive LinkAction
  | subscribe (env : Env) (s : Subscriber)
  | unsubscribe (env : Env) (s : Subscriber)
  | serve
  | deliver (env : Env)

/-- How a request is answered: `data_conn_open` or `data_conn_closed`. -/
def answerTo : AGpsStatusValue → AgpsRsrcStatus
  | .requestAgpsDataConn => .granted
  | .releaseAgpsDataConn => .released

namespace Link

def init (type : AGpsType) (one : Bool) (bearer : Int) : Link where
  machine := .init type one bearer
  requests := []
  isOpen := false
  answers := []

/-- A call of the machine; its requests are on their way. -/
def call (s : Link) (env : Env) (op : Op) : Link :=
  let r := s.machine.perform env op
  { s with machine := r.1, requests := s.requests ++ requestsOf r.2 }

def step (s : Link) : LinkAction → Option Link
  | .subscribe env subscriber => some (s.call env (.subscribeRsrc subscriber))
  | .unsubscribe env subscriber => some (s.call env (.unsubscribeRsrc subscriber))
  | .serve => match s.requests with
    | [] => none
    | q :: qs => some { s with requests := qs, isOpen := q == .requestAgpsDataConn,
                               answers := s.answers ++ [answerTo q] }
  | .deliver env => match s.answers with
    | [] => none
    | a :: as => some ({ s with answers := as }.call env (.onRsrcEvent a))

/-- With nothing under way, the connection is open in the Acquired and closed
    in the Released state. -/
def Agrees (s : Link) : Prop :=
  s.requests = [] → s.answers = [] →
    (s.machine.mStatePtr = .acquired → s.isOpen = true) ∧
    (s.machine.mStatePtr = .released → s.isOpen = false)

/-- No grant is under way, nor a request that is going to earn one. -/
def NoGrantInFlight (s : Link) : Prop :=
  .requestAgpsDataConn ∉ s.requests ∧ .granted ∉ s.answers

instance (s : Link) : Decidable (NoGrantInFlight s) := instDecidableAnd

/-- The condition on a step: a subscription in the Released state, or the end
    of a close that somebody has been waiting for, finds no grant under way.
    These are the steps that send a request. -/
def Guard (s : Link) : LinkAction → Prop
  | .subscribe _ _ => s.machine.mStatePtr = .released → NoGrantInFlight s
  | .deliver _ => s.machine.mStatePtr = .releasing ∧ s.answers.head? = some .released ∧
      s.machine.hasActiveSubscribers = true → NoGrantInFlight s
  | _ => True

instance (s : Link) : (a : LinkAction) → Decidable (Guard s a)
  | .subscribe _ _ => inferInstanceAs (Decidable (_ → _))
  | .unsubscribe _ _ => isTrue trivial
  | .serve => isTrue trivial
  | .deliver _ => inferInstanceAs (Decidable (_ ∧ _ ∧ _ → _))

/-- The answers still to come, those not yet given included. -/
def stream (s : Link) : List AgpsRsrcStatus := s.answers ++ s.requests.map answerTo

/-- Whether the connection is going to be open when all requests are served. -/
def eventually (s : Link) : Bool :=
  match s.requests.getLast? with
  | some q => q == .requestAgpsDataConn
  | none => s.isOpen

/-- The part of the service in a run. -/
def IsService : LinkAction → Prop
  | .serve => True
  | .deliver _ => True
  | _ => False

end Link

open Link

/-- Releases only. -/
def Releases (as : List AgpsRsrcStatus) : Prop := ∀ a ∈ as, a = .released

/-- What is still to come in a state: before the answer that counts there are
    only late answers to earlier releases, and a cancelled request leaves its
    grant and its release behind. -/
def Shape : AgpsState → List AgpsRsrcStatus → Prop
  | .acquired, as => as = []
  | .pending, as => ∃ pre, Releases pre ∧ as = pre ++ [.granted]
  | .released, as => ∃ pre, Releases pre ∧ (as = pre ∨ as = pre ++ [.granted, .released])
  | .releasing, as => as ≠ [] ∧
      ∃ pre, Releases pre ∧ (as = pre ∨ as = pre ++ [.granted, .released])

/-- What is kept as long as the condition is met. -/
structure LinkInv (s : Link) : Prop where
  sound : Sound s.machine
  eventually_eq : s.eventually = wanted s.machine.mStatePtr
  shape : Shape s.machine.mStatePtr s.stream

section Shape

variable {a : AgpsRsrcStatus} {as : List AgpsRsrcStatus}

theorem releases_released : Releases [.released] := by
  intro a ha
  exact List.mem_singleton.mp ha

/-- What comes next is the first of the releases, or there are none. -/
theorem releases_cons {pre tail : List AgpsRsrcStatus} (hpre : Releases pre)
    (h : a :: as = pre ++ tail) :
    a :: as = tail ∨ a = .released ∧ ∃ ps, Releases ps ∧ as = ps ++ tail := by
  cases pre with
  | nil => exact Or.inl h
  | cons p ps =>
      rw [List.cons_append, List.cons.injEq] at h
      exact Or.inr ⟨h.1.trans (hpre p List.mem_cons_self), ps,
        fun b hb => hpre b (List.mem_cons_of_mem _ hb), h.2⟩

/-- With no request outstanding there may be a cancelled one behind the late
    releases. -/
theorem shape_free {st : AgpsState} (hst : st = .released ∨ st = .releasing)
    (h : Shape st as) :
    ∃ pre tail, Releases pre ∧ (tail = [] ∨ tail = [.granted, .released]) ∧ as = pre ++ tail := by
  have hpre : ∃ pre, Releases pre ∧ (as = pre ∨ as = pre ++ [.granted, .released]) := by
    rcases hst with rfl | rfl
    · exact h
    · exact h.2
  rcases hpre with ⟨pre, hpre, rfl | rfl⟩
  · exact ⟨as, [], hpre, Or.inl rfl, (List.append_nil _).symm⟩
  · exact ⟨pre, _, hpre, Or.inr rfl, rfl⟩

/-- A request sent when no grant is under way. -/
theorem shape_request {st : AgpsState} (hst : st = .released ∨ st = .releasing)
    (h : Shape st as) (hno : .granted ∉ as) : Shape .pending (as ++ [.granted]) := by
  rcases shape_free hst h with ⟨pre, tail, hpre, rfl | rfl, rfl⟩
  · rw [List.append_nil]
    exact ⟨pre, hpre, rfl⟩
  · exact absurd (List.mem_append_right _ List.mem_cons_self) hno

/-- A release sent while a request is outstanding. -/
theorem shape_release {st st' : AgpsState} (hst : st = .pending ∨ st = .acquired)
    (hst' : st' = .released ∨ st' = .releasing) (h : Shape st as) :
    Shape st' (as ++ [.released]) := by
  have hpre : ∃ pre, Releases pre ∧
      (as ++ [.released] = pre ∨ as ++ [.released] = pre ++ [.granted, .released]) := by
    rcases hst with rfl | rfl
    · rcases h with ⟨pre, hpre, rfl⟩
      exact ⟨pre, hpre, Or.inr (List.append_assoc _ _ _)⟩
    · rw [show as = [] from h]
      exact ⟨[.released], releases_released, Or.inl rfl⟩
  rcases hst' with rfl | rfl
  · exact hpre
  · exact ⟨List.append_ne_nil_of_right_ne_nil _ (List.cons_ne_nil _ _), hpre⟩

/-- An answer that arrives in the Released or the Releasing state leaves what
    may still come in the Released state. -/
theorem shape_tail {st : AgpsState} (hst : st = .released ∨ st = .releasing)
    (h : Shape st (a :: as)) : Shape .released as := by
  rcases shape_free hst h with ⟨pre, tail, hpre, htail, heq⟩
  rcases releases_cons hpre heq with hnext | ⟨_, ps, hps, hrest⟩
  · -- The grant of a cancelled request leaves its release behind.
    rcases htail with rfl | rfl
    · exact absurd hnext (List.cons_ne_nil _ _)
    · rw [List.cons.injEq] at hnext
      exact ⟨[.released], releases_released, Or.inl hnext.2⟩
  · rcases htail with rfl | rfl
    · rw [List.append_nil] at hrest
      exact ⟨ps, hps, Or.inl hrest⟩
    · exact ⟨ps, hps, Or.inr hrest⟩

/-- A grant that the Releasing state ignores is followed by the release. -/
theorem shape_releasing_granted (h : Shape .releasing (.granted :: as)) :
    Shape .releasing as := by
  rcases shape_free (Or.inr rfl) h with ⟨pre, tail, hpre, htail, heq⟩
  rcases releases_cons hpre heq with hnext | ⟨hrel, _⟩
  · rcases htail with rfl | rfl
    · exact absurd hnext (List.cons_ne_nil _ _)
    · rw [List.cons.injEq] at hnext
      rw [hnext.2]
      exact ⟨List.cons_ne_nil _ _, [.released], releases_released, Or.inl rfl⟩
  · exact absurd hrel (by decide)

/-- In the Pending state a grant is the last answer to come. -/
theorem shape_pending_granted (h : Shape .pending (.granted :: as)) : as = [] := by
  rcases h with ⟨pre, hpre, heq⟩
  rcases releases_cons hpre heq with hnext | ⟨hrel, _⟩
  · rw [List.cons.injEq] at hnext
    exact hnext.2
  · exact absurd hrel (by decide)

/-- In the Pending state a release is a late one. -/
theorem shape_pending_released (h : Shape .pending (.released :: as)) : Shape .pending as := by
  rcases h with ⟨pre, hpre, heq⟩
  rcases releases_cons hpre heq with hnext | ⟨_, ps, hps, hrest⟩
  · rw [List.cons.injEq] at hnext
    exact absurd hnext.1 (by decide)
  · exact ⟨ps, hps, hrest⟩

/-- The service gives two kinds of answer. -/
theorem shape_mem {st : AgpsState} (h : Shape st as) (ha : a ∈ as) :
    a = .granted ∨ a = .released := by
  have hfree : st = .released ∨ st = .releasing → a = .granted ∨ a = .released := by
    intro hst
    rcases shape_free hst h with ⟨pre, tail, hpre, htail, rfl⟩
    rcases List.mem_append.mp ha with ha | ha
    · exact Or.inr (hpre a ha)
    · rcases htail with rfl | rfl
      · exact absurd ha List.not_mem_nil
      · simpa only [List.mem_cons, List.not_mem_nil, or_false] using ha
  cases st with
  | released => exact hfree (Or.inl rfl)
  | releasing => exact hfree (Or.inr rfl)
  | acquired =>
      rw [show as = [] from h] at ha
      exact absurd ha List.not_mem_nil
  | pending =>
      rcases h with ⟨pre, hpre, rfl⟩
      rcases List.mem_append.mp ha with ha | ha
      · exact Or.inr (hpre a ha)
      · exact Or.inl (List.mem_singleton.mp ha)

/-- A grant under way in the Released or the Releasing state is that of a
    cancelled request. -/
theorem shape_granted_mem {st : AgpsState} (hst : st = .released ∨ st = .releasing)
    (h : Shape st as) (hmem : .granted ∈ as) :
    ∃ pre, Releases pre ∧ as = pre ++ [.granted, .released] := by
  rcases shape_free hst h with ⟨pre, tail, hpre, rfl | rfl, rfl⟩
  · rw [List.append_nil] at hmem
    exact absurd (hpre _ hmem) (by decide)
  · exact ⟨pre, hpre, rfl⟩

end Shape

section Steps

variable {s t : Link}

theorem noGrantInFlight_iff : s.NoGrantInFlight ↔ .granted ∉ s.stream := by
  have hreq : .granted ∈ s.requests.map answerTo ↔ .requestAgpsDataConn ∈ s.requests := by
    rw [List.mem_map]
    constructor
    · rintro ⟨q, hq, hans⟩
      cases q with
      | requestAgpsDataConn => exact hq
      | releaseAgpsDataConn => exact absurd hans (by decide)
    · exact fun hq => ⟨_, hq, rfl⟩
  unfold NoGrantInFlight stream
  rw [List.mem_append, hreq, not_or, and_comm]

/-- The oldest answer is the first to come. -/
theorem stream_cons {a : AgpsRsrcStatus} {as : List AgpsRsrcStatus} (ha : s.answers = a :: as) :
    s.stream = a :: { s with answers := as }.stream := by
  simp only [stream, ha, List.cons_append]

theorem call_stream (env : Env) (op : Op) :
    (s.call env op).stream =
      s.stream ++ (requestsOf (s.machine.perform env op).2).map answerTo := by
  simp only [stream, call, List.map_append, List.append_assoc]

/-- A call that says nothing to the service changes nothing it will do. -/
theorem call_eventually_nil {env : Env} {op : Op}
    (h : requestsOf (s.machine.perform env op).2 = []) :
    (s.call env op).eventually = s.eventually := by
  simp only [eventually, call, h, List.append_nil]

/-- The last request decides. -/
theorem call_eventually_singleton {env : Env} {op : Op} {q : AGpsStatusValue}
    (h : requestsOf (s.machine.perform env op).2 = [q]) :
    (s.call env op).eventually = (q == .requestAgpsDataConn) := by
  simp only [eventually, call, h, List.getLast?_append, List.getLast?_singleton, Option.some_or]

/-- A call keeps the invariant if, whatever it means for the connection, the
    answers to come have the right shape and a change of what is wanted has
    been requested. -/
theorem linkInv_call {env : Env} {op : Op} (hsound : Sound s.machine)
    (heven : s.eventually = wanted s.machine.mStatePtr)
    (hctl : ∀ st' reqs,
      Control s.machine.hasActiveSubscribers s.machine.mStatePtr op st' reqs →
      Shape st' (s.stream ++ reqs.map answerTo) ∧
      (reqs = [] → wanted st' = wanted s.machine.mStatePtr)) :
    LinkInv (s.call env op) := by
  have ht := control_perform hsound env op
  rcases hctl _ _ ht with ⟨hshape, hquiet⟩
  refine ⟨sound_of_transition hsound (perform_transition hsound env op), ?_, ?_⟩
  · -- Either nothing was requested, or the request is what is wanted now.
    have hcases : requestsOf (s.machine.perform env op).2 = [] ∨
        ∃ q, requestsOf (s.machine.perform env op).2 = [q] ∧
          wanted (s.machine.perform env op).1.mStatePtr = (q == .requestAgpsDataConn) := by
      generalize (s.machine.perform env op).1.mStatePtr = st' at ht ⊢
      generalize requestsOf (s.machine.perform env op).2 = reqs at ht ⊢
      generalize s.machine.mStatePtr = st at ht
      cases ht with
      | «open» => exact Or.inr ⟨_, rfl, rfl⟩
      | release _ hst' =>
          rcases hst' with rfl | rfl
          · exact Or.inr ⟨_, rfl, rfl⟩
          · exact Or.inr ⟨_, rfl, rfl⟩
      | reopened _ _ => exact Or.inr ⟨_, rfl, rfl⟩
      | join _ => exact Or.inl rfl
      | remain => exact Or.inl rfl
      | desert => exact Or.inl rfl
      | granted => exact Or.inl rfl
      | denied => exact Or.inl rfl
      | forced => exact Or.inl rfl
      | closed _ _ => exact Or.inl rfl
      | ignored _ => exact Or.inl rfl
    rcases hcases with hnil | ⟨q, hq, hw⟩
    · rw [call_eventually_nil hnil, heven]
      exact (hquiet hnil).symm
    · rw [call_eventually_singleton hq]
      exact hw.symm
  · rw [call_stream]
    exact hshape

/-- A client that subscribes when the condition is met. -/
theorem linkInv_subscribe (h : LinkInv s) {env : Env} {x : Subscriber}
    (hg : s.machine.mStatePtr = .released → s.NoGrantInFlight) :
    LinkInv (s.call env (.subscribeRsrc x)) := by
  refine linkInv_call h.sound h.eventually_eq (fun st' reqs hctl => ?_)
  have hshape := h.shape
  generalize hst : s.machine.mStatePtr = st at hctl hshape
  cases hctl with
  | «open» =>
      exact ⟨shape_request (Or.inl rfl) hshape (noGrantInFlight_iff.mp (hg hst)),
        fun hn => absurd hn (List.cons_ne_nil _ _)⟩
  | join _ =>
      rw [List.map_nil, List.append_nil]
      exact ⟨hshape, fun _ => rfl⟩

/-- A client that leaves. -/
theorem linkInv_unsubscribe (h : LinkInv s) {env : Env} {x : Subscriber} :
    LinkInv (s.call env (.unsubscribeRsrc x)) := by
  refine linkInv_call h.sound h.eventually_eq (fun st' reqs hctl => ?_)
  have hshape := h.shape
  generalize s.machine.mStatePtr = st at hctl hshape
  cases hctl with
  | remain =>
      rw [List.map_nil, List.append_nil]
      exact ⟨hshape, fun _ => rfl⟩
  | release hst hst' =>
      exact ⟨shape_release hst hst' hshape, fun hn => absurd hn (List.cons_ne_nil _ _)⟩
  | desert =>
      rw [List.map_nil, List.append_nil]
      exact ⟨hshape.2, fun _ => rfl⟩

/-- An answer that arrives when the condition is met. -/
theorem linkInv_deliver (h : LinkInv s) {env : Env} {a : AgpsRsrcStatus}
    {as : List AgpsRsrcStatus} (ha : s.answers = a :: as)
    (hg : s.machine.mStatePtr = .releasing → a = .released →
      s.machine.hasActiveSubscribers = true → s.NoGrantInFlight) :
    LinkInv ({ s with answers := as }.call env (.onRsrcEvent a)) := by
  have hstream := stream_cons ha
  refine linkInv_call h.sound h.eventually_eq (fun st' reqs hctl => ?_)
  have hshape := h.shape
  rw [hstream] at hshape
  have hno : s.NoGrantInFlight → .granted ∉ { s with answers := as }.stream := by
    intro hfree hin
    exact noGrantInFlight_iff.mp hfree (hstream ▸ List.mem_cons_of_mem _ hin)
  simp only at hctl
  generalize hst : s.machine.mStatePtr = st at hctl hshape
  generalize hact : s.machine.hasActiveSubscribers = active at hctl
  cases hctl with
  | granted =>
      rw [shape_pending_granted hshape]
      exact ⟨rfl, fun _ => rfl⟩
  | denied => exact absurd (shape_mem hshape List.mem_cons_self) (by decide)
  | forced => exact absurd hshape (List.cons_ne_nil _ _)
  | closed _ _ =>
      rw [List.map_nil, List.append_nil]
      exact ⟨shape_tail (Or.inr rfl) hshape, fun _ => rfl⟩
  | reopened hev hact' =>
      -- The answer is the release, so the condition speaks of the others.
      have hrel : a = .released := by
        rcases hev with hev | hev
        · exact hev
        · rw [hev] at hshape
          exact absurd (shape_mem hshape List.mem_cons_self) (by decide)
      exact ⟨shape_request (Or.inl rfl) (shape_tail (Or.inr rfl) hshape)
        (hno (hg hst hrel (hact.trans hact'))), fun hn => absurd hn (List.cons_ne_nil _ _)⟩
  | ignored hign =>
      rw [List.map_nil, List.append_nil]
      refine ⟨?_, fun _ => rfl⟩
      rcases shape_mem hshape List.mem_cons_self with rfl | rfl
      · cases st' with
        | released => exact shape_tail (Or.inl rfl) hshape
        | pending => exact Bool.noConfusion hign
        | acquired => exact absurd hshape (List.cons_ne_nil _ _)
        | releasing => exact shape_releasing_granted hshape
      · cases st' with
        | released => exact shape_tail (Or.inl rfl) hshape
        | pending => exact shape_pending_released hshape
        | acquired => exact absurd hshape (List.cons_ne_nil _ _)
        | releasing => exact Bool.noConfusion hign

/-- Serving a request moves it from one channel to the other. -/
theorem serve_spec {q : AGpsStatusValue} {qs : List AGpsStatusValue} (hq : s.requests = q :: qs) :
    let t := { s with requests := qs, isOpen := q == .requestAgpsDataConn,
                      answers := s.answers ++ [answerTo q] }
    s.step .serve = some t ∧ t.stream = s.stream ∧ t.eventually = s.eventually := by
  refine ⟨?_, ?_, ?_⟩
  · simp only [step, hq]
  · simp only [stream, hq, List.map_cons, List.append_assoc, List.singleton_append]
  · simp only [eventually, hq]
    cases qs with
    | nil => rfl
    | cons r rs => rfl

/-- A guarded step keeps the invariant. -/
theorem linkInv_step {a : LinkAction} (h : LinkInv s) (hg : s.Guard a) (hs : s.step a = some t) :
    LinkInv t := by
  cases a with
  | subscribe env x =>
      simp only [step, Option.some.injEq] at hs
      rw [← hs]
      exact linkInv_subscribe h hg
  | unsubscribe env x =>
      simp only [step, Option.some.injEq] at hs
      rw [← hs]
      exact linkInv_unsubscribe h
  | serve =>
      cases hq : s.requests with
      | nil => simp only [step, hq, reduceCtorEq] at hs
      | cons q qs =>
          rcases serve_spec hq with ⟨hstep, hstream, heven⟩
          rw [hs, Option.some.injEq] at hstep
          rw [hstep]
          refine ⟨h.sound, heven.trans h.eventually_eq, ?_⟩
          rw [hstream]
          exact h.shape
  | deliver env =>
      cases ha : s.answers with
      | nil => simp only [step, ha, reduceCtorEq] at hs
      | cons a as =>
          simp only [step, ha, Option.some.injEq] at hs
          rw [← hs]
          refine linkInv_deliver h ha (fun hst hrel hact => hg ⟨hst, ?_, hact⟩)
          rw [ha, hrel]
          rfl

theorem linkInv_init (type : AGpsType) (one : Bool) (bearer : Int) :
    LinkInv (.init type one bearer) where
  sound := sound_init type one bearer
  eventually_eq := rfl
  shape := ⟨[], fun _ ha => absurd ha List.not_mem_nil, Or.inl rfl⟩

/-- The invariant is enough for agreement. -/
theorem agrees_of_linkInv (h : LinkInv s) : s.Agrees := by
  intro hreq _
  have heven := h.eventually_eq
  simp only [eventually, hreq, List.getLast?_nil] at heven
  refine ⟨fun hst => ?_, fun hst => ?_⟩
  · rw [heven, hst]
    rfl
  · rw [heven, hst]
    rfl

end Steps

section Drain

variable {s t : Link}

/-- The service can take every request that is under way. -/
theorem drain_requests (n : Nat) : ∀ s : Link, s.requests.length = n →
    ∃ bs u, (∀ b ∈ bs, IsService b) ∧ Run.exec step s bs = some u ∧ u.requests = [] ∧
      u.answers = s.stream ∧ u.machine = s.machine ∧ u.isOpen = s.eventually := by
  induction n with
  | zero =>
      intro s hlen
      have hreq : s.requests = [] := List.length_eq_zero_iff.mp hlen
      refine ⟨[], s, fun b hb => absurd hb List.not_mem_nil, rfl, hreq, ?_, rfl, ?_⟩
      · simp only [stream, hreq, List.map_nil, List.append_nil]
      · simp only [eventually, hreq, List.getLast?_nil]
  | succ n ih =>
      intro s hlen
      cases hq : s.requests with
      | nil => simp only [hq, List.length_nil, Nat.right_eq_add, Nat.succ_ne_zero] at hlen
      | cons q qs =>
          rcases serve_spec hq with ⟨hstep, hstream, heven⟩
          rw [hq, List.length_cons] at hlen
          rcases ih { s with requests := qs, isOpen := q == .requestAgpsDataConn,
                             answers := s.answers ++ [answerTo q] } (by simp only; omega) with
            ⟨bs, u, hbs, hrun, hreq, hans, hm, hopen⟩
          refine ⟨.serve :: bs, u, ?_, ?_, hreq, hans.trans hstream, hm, hopen.trans heven⟩
          · intro b hb
            rcases List.mem_cons.mp hb with rfl | hb
            · exact trivial
            · exact hbs b hb
          · rw [Run.exec_cons_of_step _ hstep]
            exact hrun

/-- An answer, as far as the connection is concerned. -/
theorem deliver_spec (env : Env) {a : AgpsRsrcStatus} {as : List AgpsRsrcStatus}
    (h : Sound s.machine) (ha : s.answers = a :: as) :
    ∃ t reqs, s.step (.deliver env) = some t ∧ Sound t.machine ∧ t.answers = as ∧
      t.isOpen = s.isOpen ∧ t.requests = s.requests ++ reqs ∧
      Control s.machine.hasActiveSubscribers s.machine.mStatePtr (.onRsrcEvent a)
        t.machine.mStatePtr reqs := by
  refine ⟨{ s with answers := as }.call env (.onRsrcEvent a), _, ?_,
    sound_of_transition h (perform_transition h env _), rfl, rfl, rfl, control_perform h env _⟩
  simp only [step, ha]

/-- An answer that a state does not ask the service about again. -/
theorem deliver_quiet (env : Env) (st' : AgpsState) {a : AgpsRsrcStatus}
    {as : List AgpsRsrcStatus} (h : Sound s.machine) (ha : s.answers = a :: as)
    (hctl : ∀ st'' reqs, Control s.machine.hasActiveSubscribers s.machine.mStatePtr
      (.onRsrcEvent a) st'' reqs → st'' = st' ∧ reqs = []) :
    ∃ t, s.step (.deliver env) = some t ∧ Sound t.machine ∧ t.answers = as ∧
      t.isOpen = s.isOpen ∧ t.requests = s.requests ∧ t.machine.mStatePtr = st' := by
  rcases deliver_spec env h ha with ⟨t, reqs, hstep, hsound, hans, hopen, hreq, hc⟩
  rcases hctl _ _ hc with ⟨hst, rfl⟩
  exact ⟨t, hstep, hsound, hans, hopen, by rw [hreq, List.append_nil], hst⟩

/-- Three answers that undo each other: the grant of a cancelled request, its
    release, and the grant that counts. However many late releases precede
    them, the machine ends without the connection it has. -/
theorem drain_answers (env : Env) (pre : List AgpsRsrcStatus) : ∀ s : Link,
    Sound s.machine → s.machine.mStatePtr = .pending → s.requests = [] → Releases pre →
    s.answers = pre ++ [.granted, .released, .granted] →
    ∃ bs u, (∀ b ∈ bs, IsService b) ∧ Run.exec step s bs = some u ∧ u.requests = [] ∧
      u.answers = [] ∧ u.machine.mStatePtr = .released ∧ u.isOpen = s.isOpen := by
  induction pre with
  | nil =>
      intro s hs hst hreq _ hans
      -- The grant is taken for that of the new request.
      rcases deliver_quiet env .acquired hs hans (by
        intro st'' reqs hc
        rw [hst] at hc
        cases hc with
        | granted => exact ⟨rfl, rfl⟩
        | ignored hign => exact Bool.noConfusion hign) with
        ⟨t1, hstep1, hs1, hans1, hopen1, hreq1, hst1⟩
      -- The release is taken for the connection being taken away.
      rcases deliver_quiet env .released hs1 hans1 (by
        intro st'' reqs hc
        rw [hst1] at hc
        cases hc with
        | forced => exact ⟨rfl, rfl⟩
        | ignored hign => exact Bool.noConfusion hign) with
        ⟨t2, hstep2, hs2, hans2, hopen2, hreq2, hst2⟩
      -- The grant that counts is ignored.
      rcases deliver_quiet env .released hs2 hans2 (by
        intro st'' reqs hc
        rw [hst2] at hc
        cases hc with
        | ignored _ => exact ⟨rfl, rfl⟩) with
        ⟨t3, hstep3, hs3, hans3, hopen3, hreq3, hst3⟩
      refine ⟨[.deliver env, .deliver env, .deliver env], t3, ?_, ?_, ?_, hans3, hst3, ?_⟩
      · intro b hb
        simp only [List.mem_cons, List.not_mem_nil, or_false, or_self] at hb
        rw [hb]
        exact trivial
      · rw [Run.exec_cons_of_step _ hstep1, Run.exec_cons_of_step _ hstep2,
          Run.exec_cons_of_step _ hstep3, Run.exec_nil]
      · rw [hreq3, hreq2, hreq1, hreq]
      · rw [hopen3, hopen2, hopen1]
  | cons p ps ih =>
      intro s hs hst hreq hpre hans
      rw [hpre p List.mem_cons_self, List.cons_append] at hans
      -- A late release changes nothing.
      rcases deliver_quiet env .pending hs hans (by
        intro st'' reqs hc
        rw [hst] at hc
        cases hc with
        | ignored _ => exact ⟨rfl, rfl⟩) with ⟨t, hstep, hs', hans', hopen', hreq', hst'⟩
      rcases ih t hs' hst' (hreq'.trans hreq)
        (fun a ha => hpre a (List.mem_cons_of_mem _ ha)) hans' with
        ⟨bs, u, hbs, hrun, hr, ha, hu, hopen⟩
      refine ⟨.deliver env :: bs, u, ?_, ?_, hr, ha, hu, hopen.trans hopen'⟩
      · intro b hb
        rcases List.mem_cons.mp hb with rfl | hb
        · exact trivial
        · exact hbs b hb
      · rw [Run.exec_cons_of_step _ hstep]
        exact hrun

/-- Whatever is under way is delivered, and the two do not agree. -/
theorem drain (env : Env) (pre : List AgpsRsrcStatus) (hs : Sound s.machine)
    (hst : s.machine.mStatePtr = .pending) (hopen : s.eventually = true) (hpre : Releases pre)
    (hstream : s.stream = pre ++ [.granted, .released, .granted]) :
    ∃ bs u, (∀ b ∈ bs, IsService b) ∧ Run.exec step s bs = some u ∧ ¬ u.Agrees := by
  rcases drain_requests _ s rfl with ⟨bs, u, hbs, hrun, hreq, hans, hm, hu⟩
  rcases drain_answers env pre u (by rw [hm]; exact hs) (by rw [hm]; exact hst) hreq hpre
    (hans.trans hstream) with ⟨cs, v, hcs, hrun', hreq', hans', hst', hv⟩
  refine ⟨bs ++ cs, v, ?_, ?_, fun hag => ?_⟩
  · intro b hb
    rcases List.mem_append.mp hb with hb | hb
    · exact hbs b hb
    · exact hcs b hb
  · rw [Run.exec_append _ hrun]
    exact hrun'
  · have hclosed := (hag hreq' hans').2 hst'
    rw [hv, hu, hopen] at hclosed
    exact Bool.noConfusion hclosed

/-- A request sent against the condition ends in disagreement, if the service
    goes on and the clients do not. -/
theorem disagrees_of_not_guarded (env : Env) {a : LinkAction} (h : LinkInv s)
    (hs : s.step a = some t) (hg : ¬ s.Guard a) :
    ∃ bs u, (∀ b ∈ bs, IsService b) ∧ Run.exec step t bs = some u ∧ ¬ u.Agrees := by
  cases a with
  | unsubscribe _ _ => exact absurd trivial hg
  | serve => exact absurd trivial hg
  | subscribe env' x =>
      simp only [Guard, Classical.not_imp] at hg
      rcases hg with ⟨hst, hbusy⟩
      rw [noGrantInFlight_iff, not_not] at hbusy
      rcases shape_granted_mem (Or.inl hst) h.shape hbusy with ⟨pre, hpre, hstream⟩
      have hreqs := subscribe_requests h.sound hst env' x
      simp only [step, Option.some.injEq] at hs
      rw [← hs]
      refine drain env pre (sound_of_transition h.sound (perform_transition h.sound env' _)) hreqs.1
        (call_eventually_singleton hreqs.2) hpre ?_
      rw [call_stream, hreqs.2, hstream, List.append_assoc]
      rfl
  | deliver env' =>
      simp only [Guard, Classical.not_imp] at hg
      rcases hg with ⟨⟨hst, hhead, hact⟩, hbusy⟩
      rw [noGrantInFlight_iff, not_not] at hbusy
      rcases shape_granted_mem (Or.inr hst) h.shape hbusy with ⟨pre, hpre, hstream⟩
      cases ha : s.answers with
      | nil => simp only [ha, List.head?_nil, reduceCtorEq] at hhead
      | cons a as =>
          rw [ha, List.head?_cons, Option.some.injEq] at hhead
          subst hhead
          -- What is left of the stream still ends with the grant and its release.
          rw [stream_cons ha] at hstream
          rcases releases_cons hpre hstream with hnext | ⟨_, ps, hps, hstream'⟩
          · rw [List.cons.injEq] at hnext
            exact absurd hnext.1 (by decide)
          have hreqs := released_requests h.sound hst hact env'
          simp only [step, ha, Option.some.injEq] at hs
          rw [← hs]
          refine drain env ps
            (sound_of_transition h.sound (perform_transition h.sound env' _)) hreqs.1
            (call_eventually_singleton (s := { s with answers := as }) hreqs.2) hps ?_
          rw [call_stream, hreqs.2, hstream', List.append_assoc]
          rfl

end Drain

section Agreement

/-- In a run whose steps meet the condition, machine and service agree whenever
    nothing is under way. A step against the condition, on the other hand, can
    always be followed by steps of the service after which they do not. -/
theorem agreement (type : AGpsType) (one : Bool) (bearer : Int) (as : List LinkAction) (env : Env)
    (hg : Run.Guarded step Guard (.init type one bearer) as) :
    Run.Throughout step Agrees (.init type one bearer) as ∧
      ∀ s a t, Run.exec step (.init type one bearer) as = some s → s.step a = some t →
        ¬ s.Guard a →
        ∃ bs u, (∀ b ∈ bs, IsService b) ∧ Run.exec step t bs = some u ∧ ¬ u.Agrees := by
  refine ⟨Run.throughout_of_guarded LinkInv (fun _ => agrees_of_linkInv)
    (fun _ _ _ => linkInv_step) (linkInv_init type one bearer) hg, fun s a t hrun hs hng => ?_⟩
  have hinv : LinkInv s := Run.exec_invariant_of_guarded LinkInv Guard
    (fun _ _ _ => linkInv_step) (linkInv_init type one bearer) hg hrun
  exact disagrees_of_not_guarded env hinv hs hng

/-- A client that leaves and comes back when everything has been answered. -/
def patient : List LinkAction :=
  [.subscribe .zeros (.atl 0 1 false), .serve, .deliver .zeros,
   .unsubscribe .zeros (.atl 0 1 false), .serve, .deliver .zeros,
   .subscribe .zeros (.atl 0 1 false), .serve, .deliver .zeros]

theorem agreement_patient :
    Run.Throughout step Agrees (.init AGPS_TYPE_SUPL false 0) patient :=
  (agreement AGPS_TYPE_SUPL false 0 patient .zeros (by decide +kernel)).1

/-- A client that leaves before its grant has arrived and comes back at once. -/
def resubscribed : List LinkAction :=
  [.subscribe .zeros (.atl 0 1 false), .unsubscribe .zeros (.atl 0 1 false),
   .subscribe .zeros (.atl 0 1 false), .serve, .serve, .serve,
   .deliver .zeros, .deliver .zeros, .deliver .zeros]

/-- The connection stays open with the machine in the Released state. -/
theorem resubscribed_orphans :
    ¬ Run.Throughout step Agrees (.init AGPS_TYPE_SUPL false 0) resubscribed := by
  have hend : (Run.exec step (.init AGPS_TYPE_SUPL false 0) resubscribed).map
      (fun u => (u.requests, u.answers, u.machine.mStatePtr, u.isOpen)) =
        some ([], [], .released, true) := by
    decide +kernel
  rcases Option.map_eq_some_iff.mp hend with ⟨u, hrun, hu⟩
  simp only [Prod.mk.injEq] at hu
  intro hall
  have hagrees : u.Agrees := Run.throughout_iff_prefix.mp hall _ u (List.prefix_refl _) hrun
  have hclosed := (hagrees hu.1 hu.2.1).2 hu.2.2.1
  rw [hu.2.2.2] at hclosed
  exact Bool.noConfusion hclosed

end Agreement

end Agps

end Taoshan
