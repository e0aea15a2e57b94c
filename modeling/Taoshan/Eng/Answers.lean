import Taoshan.Agps.Progress
import Taoshan.Eng.Grants

/-!
# Everybody Is Answered

The connections as a whole. The modem, the daemon's clients and the WIFI senders
put their messages in the queue, the deferred action thread takes them up and the
three machines ask the connectivity service for connections and for the end of
them. The service answers what it has been asked, in any order and as late as it
likes, and its answers go through the same queue. It may refuse, and it may
report things that nobody has asked for. What is asked for all machines is one
pile, and an answer says no more than the kind of network it is for.

A machine that waits has its answer somewhere in there (`waits_take`), and
everything in there is used up: a message of a client may cost one request and
the close that follows it, an answer costs nothing (`due_step`). So if nobody says
anything new, the thread and the service are done after so many steps, and are
never stuck before. Then every machine has its connection or lists nobody; and for
every handle of the modem, and for both WIFI senders, all that was said and all
that was heard is one session that leaves nobody waiting (`everybody_answered`).

## Main definitions

* `Exchange`, `Label`, `step`: Queue, thread and service.
* `asked`, `answers`: A machine's part of what is under way.
* `Advances`: What a message does to what is under way.
* `Attended`: No wait is in vain.
* `due`: How much is left to do.

## Theorems

* `advances_handle`: Message by message.
* `attended_step`, `due_step`: What a step does.
* `everybody_answered`: What is left when all is done.
-/

namespace Taoshan

namespace Eng

open Agps

/-- The queue of the deferred action thread, the thread, and what the connectivity
    service has been asked and has not answered. -/
structure Exchange where
  deferredQ : List Msg
  thread : Thread
  requests : List AGpsStatus

namespace Exchange

/-- The connection that the service has opened. -/
structure Offer where
  apn : List UInt8
  length : Nat
  bearerType : Int

/-- How the service answers: `loc_agps_open`, `loc_agps_open_failed` or
    `loc_agps_closed`, for the kind of network it was asked for. -/
def answerMsg (r : AGpsStatus) (offer : Option Offer) : Msg :=
  match r.status, offer with
  | .requestAgpsDataConn, some offer =>
      .atlOpenSuccess r.type offer.apn offer.length offer.bearerType
  | .requestAgpsDataConn, none => .atlOpenFailed r.type
  | .releaseAgpsDataConn, _ => .atlClosed r.type

/-- What the service is asked by what the machines did. -/
def askedBy (log : List (NifId × Entry)) : List AGpsStatus :=
  log.filterMap fun e => match e.2 with
    | .effect (.servicer r) => some r
    | _ => none

/-- Somebody puts a message in the queue, the service answers a request, or the
    thread takes up a message. -/
inductive Label
  | post (msg : Msg)
  | answer (r : AGpsStatus) (offer : Option Offer)
  | take (env : MsgEnv)

def init (bearer : Int) : Exchange := ⟨[], .init bearer, []⟩

def step (s : Exchange) : Label → Option Exchange
  | .post msg => some { s with deferredQ := s.deferredQ ++ [msg] }
  | .answer r offer =>
      if r ∈ s.requests then
        some { s with deferredQ := s.deferredQ ++ [answerMsg r offer]
                      requests := s.requests.erase r }
      else none
  | .take env => match s.deferredQ with
    | [] => none
    | msg :: rest =>
        let r := handle s.thread.data env msg
        some ⟨rest, ⟨r.1, s.thread.log ++ r.2⟩, s.requests ++ askedBy r.2⟩

/-- What is put in the queue. -/
def Label.posted : Label → List Msg
  | .post msg => [msg]
  | _ => []

/-- What the thread takes up in a step. -/
def takenBy (s : Exchange) : Label → List (MsgEnv × Msg)
  | .take env => s.deferredQ.head?.toList.map fun msg => (env, msg)
  | _ => []

/-- The part of the service and of the thread. -/
def Label.Attends : Label → Prop
  | .post _ => False
  | .answer _ _ => True
  | .take _ => True

/-- What the service has been asked by one machine. -/
def asked (i : NifId) (requests : List AGpsStatus) : List AGpsStatusValue :=
  (requests.filter fun r => statusNif r.type = i).map AGpsStatus.status

/-- What a message of the service is for a machine. -/
def answerFor (i : NifId) : Msg → Option AgpsRsrcStatus
  | .atlOpenSuccess agpsType _ _ _ => if statusNif agpsType = i then some .granted else none
  | .atlClosed agpsType => if statusNif agpsType = i then some .released else none
  | .atlOpenFailed agpsType => if statusNif agpsType = i then some .denied else none
  | _ => none

/-- The answers that are on their way to a machine. -/
def answers (i : NifId) (queue : List Msg) : List AgpsRsrcStatus := queue.filterMap (answerFor i)

/-- What is left to do for a close: the request that may follow it. -/
def closing (m : AgpsStateMachine) : Nat := if m.mStatePtr = .releasing then 2 else 0

def closings (d : LocEngData) : Nat :=
  closing d.agnssNif + closing d.internetNif + closing d.wifiNif

/-- What a message costs: it is taken up, and what a client has said may cost a
    request and a close. -/
def cost (msg : Msg) : Nat :=
  match msg with
  | .atlOpenSuccess _ _ _ _ => 1
  | .atlClosed _ => 1
  | .atlOpenFailed _ => 1
  | _ => 5

/-- What all the messages in a queue cost. -/
def costs : List Msg → Nat
  | [] => 0
  | msg :: queue => cost msg + costs queue

/-- How much is left to do. -/
def due (s : Exchange) : Nat :=
  2 * s.requests.length + costs s.deferredQ + closings s.thread.data

/-- What a message, with the answers in it, does to what is under way. -/
structure Advances (d : LocEngData) (event : NifId → List AgpsRsrcStatus) (spent : Nat)
    (r : LocEngData × List (NifId × Entry)) : Prop where
  waits : ∀ i requests queued, Waits (d.nif i).mStatePtr requests (event i ++ queued) →
    Waits (r.1.nif i).mStatePtr (requests ++ asked i (askedBy r.2)) queued
  due : 2 * (askedBy r.2).length + closings r.1 ≤ closings d + spent

/-- Every machine that waits has an answer in the queue that will end it, or a
    request with the service that will earn one. -/
structure Attended (bearer : Int) (taken : List (MsgEnv × Msg)) (s : Exchange) : Prop where
  thread : Run.exec Thread.step (.init bearer) taken = some s.thread
  waits : ∀ i, Waits (s.thread.data.nif i).mStatePtr (asked i s.requests) (answers i s.deferredQ)

section Asked

variable {m m' : AgpsStateMachine} {env : Env} {op : Op} {out : List Effect} {d : LocEngData}
  {i k : NifId}

theorem asked_append (xs ys : List AGpsStatus) : asked i (xs ++ ys) = asked i xs ++ asked i ys := by
  unfold asked
  rw [List.filter_append, List.map_append]

theorem askedBy_append (xs ys : List (NifId × Entry)) :
    askedBy (xs ++ ys) = askedBy xs ++ askedBy ys := List.filterMap_append

/-- A request is for the kind of network of its machine. -/
theorem nifRequest_type (m : AgpsStateMachine) (stack : AGpsStatus) (action : AGpsStatusValue) :
    (m.nifRequest stack action).type = m.mType := by
  unfold AgpsStateMachine.nifRequest
  cases m.findActive with
  | none => rfl
  | some s =>
      cases s with
      | bit obj id ip => rfl
      | atl obj id mode => rfl
      | wifi obj ssid password senderId inactive => rfl

theorem servicer_not_mem_of_quiet {r : AGpsStatus} (h : Quiet out) : .servicer r ∉ out := by
  intro hin
  rcases h _ hin with ⟨s, msg, he⟩ | ⟨obj, he⟩
  · cases he
  · cases he

theorem type_of_settled {st : AgpsState} {req : List Effect} {r : AGpsStatus}
    (hset : Settled env m st req) (hin : .servicer r ∈ req) : r.type = m.mType := by
  cases hset with
  | empty _ _ =>
      rw [Effect.servicer.inj (List.mem_singleton.mp hin)]
      exact nifRequest_type _ _ _
  | emptyReleasing _ _ => exact absurd hin List.not_mem_nil
  | inactive _ _ _ =>
      rw [Effect.servicer.inj (List.mem_singleton.mp hin)]
      exact nifRequest_type _ _ _
  | stay _ _ => exact absurd hin List.not_mem_nil

theorem type_of_transition {r : AGpsStatus} (ht : Transition m env op m' out)
    (hin : .servicer r ∈ out) : r.type = m.mType := by
  cases ht with
  -- Only a first request, a settling and a reopening ask the service.
  | refuse _ _ => exact absurd hin (servicer_not_mem_of_quiet (quiet_told _ _ _))
  | request _ _ =>
      rw [Effect.servicer.inj (List.mem_singleton.mp hin)]
      exact nifRequest_type _ _ _
  | join _ _ _ => exact absurd hin (servicer_not_mem_of_quiet (quiet_welcome _ _))
  | enlist _ _ _ => exact absurd hin (servicer_not_mem_of_quiet (quiet_welcome _ _))
  | unknown _ => exact absurd hin List.not_mem_nil
  | mute _ _ _ hset =>
      have htype := type_of_settled hset hin
      exact htype
  | leave _ _ _ hout _ hset =>
      rcases List.mem_append.mp hin with hin | hin
      · exact absurd (hout.mem_iff.mp hin)
          (servicer_not_mem_of_quiet (quiet_flatMap_told _ _ _))
      · have htype := type_of_settled hset hin
        exact htype
  | grant _ => exact absurd hin (servicer_not_mem_of_quiet (quiet_flatMap_told _ _ _))
  | deny _ => exact absurd hin (servicer_not_mem_of_quiet (quiet_flatMap_told _ _ _))
  | force _ => exact absurd hin (servicer_not_mem_of_quiet (quiet_flatMap_told _ _ _))
  | close _ _ _ => exact absurd hin (servicer_not_mem_of_quiet (quiet_flatMap_told _ _ _))
  | reopen _ _ _ _ =>
      rcases List.mem_append.mp hin with hin | hin
      · exact absurd hin (servicer_not_mem_of_quiet (quiet_flatMap_told _ _ _))
      · rw [Effect.servicer.inj (List.mem_singleton.mp hin)]
        exact nifRequest_type _ _ _
  | ignore _ => exact absurd hin List.not_mem_nil

/-- The requests among the effects, whole. -/
def servicedBy (out : List Effect) : List AGpsStatus :=
  out.filterMap fun
    | .servicer r => some r
    | _ => none

theorem map_servicedBy (out : List Effect) :
    (servicedBy out).map AGpsStatus.status = requestsOf out := by
  unfold servicedBy requestsOf
  rw [List.map_filterMap]
  refine List.filterMap_congr fun e _ => ?_
  cases e <;> rfl

/-- A call asks what its machine does. -/
theorem askedBy_call (d : LocEngData) (k : NifId) (env : Env) (op : Op) :
    askedBy (d.call k env op).2 = servicedBy ((d.nif k).perform env op).2 := by
  have hanswer : askedBy ((answerOf (d.nif k).mStatePtr op).map fun e => (k, e)) = [] := by
    cases op <;> rfl
  have heffects : ∀ out : List Effect,
      askedBy ((out.map Entry.effect).map fun e => (k, e)) = servicedBy out := by
    intro out
    unfold askedBy servicedBy
    rw [List.map_map, List.filterMap_map]
    refine List.filterMap_congr fun e _ => ?_
    cases e <;> rfl
  simp only [LocEngData.call, List.map_append, askedBy_append, hanswer, heffects,
    List.nil_append]

theorem statusNif_typeOf (k : NifId) : statusNif (typeOf k) = k := by
  cases k <;> decide

/-- What a call asks for its machine, and for the others. -/
theorem asked_call (hs : Sound (d.nif k)) (htype : (d.nif k).mType = typeOf k) :
    asked i (askedBy (d.call k env op).2) =
      if i = k then requestsOf ((d.nif k).perform env op).2 else [] := by
  -- All that one machine asks is asked for its own kind of network.
  have hall : ∀ r ∈ servicedBy ((d.nif k).perform env op).2, statusNif r.type = k := by
    intro r hr
    rcases List.mem_filterMap.mp hr with ⟨e, he, heq⟩
    cases e with
    | servicer q =>
        rw [← Option.some.inj heq, type_of_transition (perform_transition hs env op) he, htype]
        exact statusNif_typeOf k
    | notify x msg => cases heq
    | suppressed action => cases heq
    | deleteObj obj => cases heq
  rw [askedBy_call]
  unfold asked
  by_cases hi : i = k
  · rw [if_pos hi, List.filter_eq_self.mpr fun r hr => decide_eq_true ((hall r hr).trans hi.symm),
      map_servicedBy]
  · rw [if_neg hi, List.filter_eq_nil_iff.mpr fun r hr hd =>
      hi ((of_decide_eq_true hd).symm.trans (hall r hr)), List.map_nil]

theorem length_askedBy_call (d : LocEngData) (k : NifId) (env : Env) (op : Op) :
    (askedBy (d.call k env op).2).length = (requestsOf ((d.nif k).perform env op).2).length := by
  rw [askedBy_call, ← map_servicedBy, List.length_map]

end Asked

section Messages

variable {d : LocEngData} {k : NifId} {env : Env} {op : Op} {event : NifId → List AgpsRsrcStatus}
  {spent : Nat}

/-- What a client says costs a request and a close at most. -/
theorem due_called {active : Bool} {st st' : AgpsState} {reqs : List AGpsStatusValue}
    (hop : ∀ ev, op ≠ .onRsrcEvent ev) (hctl : Control active st op st' reqs) :
    2 * reqs.length + (if st' = .releasing then 2 else 0) ≤
      (if st = .releasing then 2 else 0) + 4 := by
  cases hctl with
  -- At worst a release is asked for (2), and its close may ask for a connection again (2).
  | «open» => decide
  | join _ =>
      rw [List.length_nil]
      omega
  | remain =>
      rw [List.length_nil]
      omega
  | release _ _ =>
      rw [List.length_singleton]
      split <;> omega
  | desert => decide
  -- The rest are the answers of the service.
  | granted => exact absurd rfl (hop _)
  | denied => exact absurd rfl (hop _)
  | forced => exact absurd rfl (hop _)
  | closed _ _ => exact absurd rfl (hop _)
  | reopened _ _ => exact absurd rfl (hop _)
  | ignored _ => exact absurd rfl (hop _)

theorem closings_setNif (d : LocEngData) (m : AgpsStateMachine) (k : NifId) :
    closings (d.setNif m k) + closing (d.nif k) = closings d + closing m := by
  unfold closings
  cases k with
  | agnss =>
      simp only [LocEngData.setNif, LocEngData.nif]
      omega
  | internet =>
      simp only [LocEngData.setNif, LocEngData.nif]
      omega
  | wifi =>
      simp only [LocEngData.setNif, LocEngData.nif]
      omega

theorem advances_nil (h : ∀ i, event i = []) : Advances d event spent (d, []) where
  waits i requests queued hw := by
    rw [h i] at hw
    exact hw.mono (List.subset_append_left _ _) (List.Subset.refl _)
  due := by
    change 2 * 0 + closings d ≤ _
    omega

/-- A call does what it does for its machine. -/
theorem advances_call (hs : Sound (d.nif k)) (htype : (d.nif k).mType = typeOf k)
    (hevent : ∀ i, i ≠ k → event i = [])
    (hwaits : ∀ requests queued, Waits (d.nif k).mStatePtr requests (event k ++ queued) →
      Waits ((d.nif k).perform env op).1.mStatePtr
        (requests ++ requestsOf ((d.nif k).perform env op).2) queued)
    (hdue : 2 * (requestsOf ((d.nif k).perform env op).2).length +
      closing ((d.nif k).perform env op).1 ≤ closing (d.nif k) + spent) :
    Advances d event spent (d.call k env op) where
  waits i requests queued hw := by
    rw [asked_call hs htype]
    by_cases hi : i = k
    · subst hi
      rw [if_pos rfl, call_nif_self]
      exact hwaits requests queued hw
    · -- For the other machines nothing has been asked and nothing delivered.
      rw [hevent i hi] at hw
      rw [if_neg hi, call_nif_ne d env op hi, List.append_nil]
      exact hw
  due := by
    have hset := closings_setNif d ((d.nif k).perform env op).1 k
    rw [length_askedBy_call]
    change 2 * _ + closings (d.setNif ((d.nif k).perform env op).1 k) ≤ _
    omega

/-- A client's call. -/
theorem advances_client (hs : Sound (d.nif k)) (htype : (d.nif k).mType = typeOf k)
    (hop : ∀ ev, op ≠ .onRsrcEvent ev) (h : ∀ i, event i = []) :
    Advances d event 4 (d.call k env op) := by
  have hctl := control_perform hs env op
  refine advances_call hs htype (fun i _ => h i) (fun requests queued hw => ?_)
    (due_called hop hctl)
  rw [h k] at hw
  exact hw.called hop hctl

/-- An answer arrives. -/
theorem advances_event (env : Env) (hs : Sound (d.nif k)) (htype : (d.nif k).mType = typeOf k)
    {status : AgpsRsrcStatus} (hself : event k = [status]) (h : ∀ i, i ≠ k → event i = []) :
    Advances d event 0 (d.call k env (.onRsrcEvent status)) := by
  have hctl := control_perform hs env (.onRsrcEvent status)
  refine advances_call hs htype h (fun requests queued hw => ?_) (due_delivered hctl)
  rw [hself] at hw
  exact hw.delivered hctl

/-- The modem's return empties lists and changes no state. -/
theorem advances_engineUp (d : LocEngData) (env : MsgEnv) (h : ∀ i, event i = []) :
    Advances d event spent (handle d env .engineUp) := by
  -- Flushing a list does not run the state machine.
  have hstate : ∀ i, ((handle d env .engineUp).1.nif i).mStatePtr = (d.nif i).mStatePtr := by
    intro i
    simp only [handle]
    split
    · cases i <;> rfl
    · rfl
  have hdrop : ∀ (d : LocEngData) k, askedBy (d.drop k).2 = [] := by
    intro d k
    refine List.filterMap_eq_nil_iff.mpr (fun e he => ?_)
    rcases List.mem_map.mp he with ⟨a, ha, rfl⟩
    rcases List.mem_map.mp ha with ⟨b, hb, rfl⟩
    rcases List.mem_map.mp hb with ⟨s, _, rfl⟩
    rfl
  have hasked : askedBy (handle d env .engineUp).2 = [] := by
    simp only [handle]
    split
    · rw [askedBy_append, hdrop, hdrop]
      rfl
    · rfl
  refine ⟨fun i requests queued hw => ?_, ?_⟩
  · rw [h i] at hw
    rw [hstate i, hasked]
    exact hw.mono (List.subset_append_left _ _) (List.Subset.refl _)
  · have hsame : closings (handle d env .engineUp).1 = closings d := by
      unfold closings closing
      have hagnss := hstate .agnss
      have hinternet := hstate .internet
      have hwifi := hstate .wifi
      simp only [LocEngData.nif] at hagnss hinternet hwifi
      rw [hagnss, hinternet, hwifi]
    rw [hasked, hsame]
    change 2 * 0 + _ ≤ _
    omega

/-- Bearer and name are no part of a machine's state, nor of its kind. -/
theorem nif_tuned (d : LocEngData) (k : NifId) (bearer : Int) (apn : Option (List UInt8))
    (len : Nat) (i : NifId) :
    ((d.setNif (((d.nif k).setBearer bearer).setAPN apn len) k).nif i).mStatePtr =
        (d.nif i).mStatePtr ∧
      ((d.setNif (((d.nif k).setBearer bearer).setAPN apn len) k).nif i).mType =
        (d.nif i).mType := by
  by_cases hi : i = k
  · rw [hi, nif_setNif_self]
    exact ⟨rfl, rfl⟩
  · rw [nif_setNif_ne _ _ hi]
    exact ⟨rfl, rfl⟩

/-- So they are no matter for what is under way. -/
theorem advances_tuned {k : NifId} {bearer : Int} {apn : Option (List UInt8)} {len : Nat}
    {r : LocEngData × List (NifId × Entry)}
    (h : Advances (d.setNif (((d.nif k).setBearer bearer).setAPN apn len) k) event spent r) :
    Advances d event spent r where
  waits i requests queued hw := by
    refine h.waits i requests queued ?_
    rw [(nif_tuned d k bearer apn len i).1]
    exact hw
  due := by
    have hset := closings_setNif d (((d.nif k).setBearer bearer).setAPN apn len) k
    have hsame : closing (((d.nif k).setBearer bearer).setAPN apn len) = closing (d.nif k) := rfl
    have hdue := h.due
    omega

/-- Message by message: what is waited for is still under way, and nobody spends
    more than the message costs. -/
theorem advances_handle (hd : SenderInv d) (htype : ∀ k, (d.nif k).mType = typeOf k)
    (env : MsgEnv) (msg : Msg) :
    Advances d (fun i => (answerFor i msg).toList) (cost msg - 1) (handle d env msg) := by
  -- What a client says is no answer for any machine.
  have hclient : ∀ {k : NifId} {e : Env} {op : Op} {event : NifId → List AgpsRsrcStatus},
      (∀ ev, op ≠ .onRsrcEvent ev) → (∀ i, event i = []) →
      Advances d event 4 (d.call k e op) := fun {k _ _ _} hop h =>
    advances_client (hd.sound k) (htype k) hop h
  -- A report is an answer for the machine of its network, and for no other.
  have hreport : ∀ {agpsType : AGpsType} {status : AgpsRsrcStatus},
      (if statusNif agpsType = statusNif agpsType then some status else none).toList = [status] ∧
        ∀ i, i ≠ statusNif agpsType →
          (if statusNif agpsType = i then some status else none).toList = [] :=
    fun {agpsType status} => ⟨by rw [if_pos rfl]; rfl, fun i hi => by
      rw [if_neg (Ne.symm hi)]; rfl⟩
  cases msg with
  | requestBit ifType ipv4Addr ipv6Addr =>
      cases hi : bitNif ifType with
      | none =>
          simp only [handle, hi]
          exact advances_nil fun _ => rfl
      | some k =>
          simp only [handle, hi]
          exact hclient (fun _ => Op.noConfusion) fun _ => rfl
  | releaseBit ifType ipv4Addr ipv6Addr =>
      cases hi : bitNif ifType with
      | none =>
          simp only [handle, hi]
          exact advances_nil fun _ => rfl
      | some k =>
          simp only [handle, hi]
          exact hclient (fun _ => Op.noConfusion) fun _ => rfl
  | requestAtl hdl type => exact hclient (fun _ => Op.noConfusion) fun _ => rfl
  | releaseAtl hdl =>
      rcases handle_releaseAtl (t := ⟨d, []⟩) hd.shared env hdl with ⟨_, heq⟩ | ⟨_, heq⟩
      · rw [heq]
        exact hclient (fun _ => Op.noConfusion) fun _ => rfl
      · rw [heq]
        exact hclient (fun _ => Op.noConfusion) fun _ => rfl
  | requestWifi senderId ssid password =>
      simp only [handle]
      split
      · exact hclient (fun _ => Op.noConfusion) fun _ => rfl
      · exact advances_nil fun _ => rfl
  | releaseWifi senderId ssid password => exact hclient (fun _ => Op.noConfusion) fun _ => rfl
  | atlOpenSuccess agpsType apn length bearerType =>
      -- Bearer and name are set before the grant is handled.
      have htuned := senderInv_tune hd (statusNif agpsType) bearerType (some apn) length
      exact advances_tuned (advances_event env.first (htuned.sound (statusNif agpsType))
        ((nif_tuned d _ bearerType (some apn) length _).2.trans (htype _))
        (@hreport agpsType .granted).1 (@hreport agpsType .granted).2)
  | atlClosed agpsType =>
      exact advances_event env.first (hd.sound _) (htype _) hreport.1 hreport.2
  | atlOpenFailed agpsType =>
      exact advances_event env.first (hd.sound _) (htype _) hreport.1 hreport.2
  | engineUp => exact advances_engineUp d env fun _ => rfl

end Messages

section Steps

variable {bearer : Int} {taken : List (MsgEnv × Msg)} {s t : Exchange} {l : Label} {i : NifId}

/-- What an answer is for its machine, and that it is none for the others. -/
theorem answerFor_answerMsg (r : AGpsStatus) (offer : Option Offer) (i : NifId) :
    answerFor i (answerMsg r offer) =
      if statusNif r.type = i then some (answerWith offer.isSome r.status) else none := by
  unfold answerMsg
  cases r.status with
  | requestAgpsDataConn =>
      cases offer with
      | none => rfl
      | some offer => rfl
  | releaseAgpsDataConn => rfl

theorem cost_answerMsg (r : AGpsStatus) (offer : Option Offer) : cost (answerMsg r offer) = 1 := by
  unfold answerMsg
  cases r.status with
  | requestAgpsDataConn =>
      cases offer with
      | none => rfl
      | some offer => rfl
  | releaseAgpsDataConn => rfl

theorem one_le_cost (msg : Msg) : 1 ≤ cost msg := by
  unfold cost
  split <;> decide

theorem cost_le (msg : Msg) : cost msg ≤ 5 := by
  unfold cost
  split <;> decide

theorem costs_append (xs ys : List Msg) : costs (xs ++ ys) = costs xs + costs ys := by
  induction xs with
  | nil => exact (Nat.zero_add _).symm
  | cons msg xs ih =>
      rw [List.cons_append, costs, costs, ih, Nat.add_assoc]

theorem costs_le (queue : List Msg) : costs queue ≤ 5 * queue.length := by
  induction queue with
  | nil => exact Nat.le_refl 0
  | cons msg queue ih =>
      have hmsg := cost_le msg
      rw [costs, List.length_cons]
      omega

theorem asked_singleton (i : NifId) (r : AGpsStatus) :
    asked i [r] = if statusNif r.type = i then [r.status] else [] := by
  unfold asked
  by_cases hi : statusNif r.type = i
  · simp only [List.filter_cons, hi, decide_true, if_true, List.filter_nil, List.map_singleton]
  · simp only [List.filter_cons, hi, decide_false, Bool.false_eq_true, if_false, List.filter_nil,
      List.map_nil]

/-- A request that is taken off the pile was one of its machine's. -/
theorem asked_erase {r : AGpsStatus} {requests : List AGpsStatus} (h : r ∈ requests) :
    (asked i requests).Perm (asked i [r] ++ asked i (requests.erase r)) := by
  rw [← asked_append]
  exact ((List.perm_cons_erase h).filter _).map _

theorem answers_append (xs ys : List Msg) : answers i (xs ++ ys) = answers i xs ++ answers i ys :=
  List.filterMap_append

theorem answers_cons (msg : Msg) (queue : List Msg) :
    answers i (msg :: queue) = (answerFor i msg).toList ++ answers i queue := by
  unfold answers
  rw [List.filterMap_cons]
  cases answerFor i msg <;> rfl

theorem attended_init (bearer : Int) : Attended bearer [] (init bearer) where
  thread := rfl
  waits i := by
    cases i with
    | agnss => exact trivial
    | internet => exact trivial
    | wifi => exact trivial

/-- What the thread knows of its machines. -/
theorem Attended.known (h : Attended bearer taken s) :
    SenderInv s.thread.data ∧ ∀ k, (s.thread.data.nif k).mType = typeOf k := by
  rcases honest_run h.thread with ⟨hd, hall⟩
  exact ⟨hd, fun k => (hall k).type⟩

/-- A message is taken up. -/
theorem waits_take (h : Attended bearer taken s) {env : MsgEnv} {msg : Msg} {rest : List Msg}
    (hqueue : s.deferredQ = msg :: rest) (i : NifId) :
    Waits ((handle s.thread.data env msg).1.nif i).mStatePtr
      (asked i (s.requests ++ askedBy (handle s.thread.data env msg).2)) (answers i rest) := by
  rcases h.known with ⟨hd, htype⟩
  have hwaits := h.waits i
  rw [hqueue, answers_cons] at hwaits
  rw [asked_append]
  exact (advances_handle hd htype env msg).waits i _ _ hwaits

/-- No step leaves anybody waiting in vain. -/
theorem attended_step (h : Attended bearer taken s) (hs : step s l = some t) :
    Attended bearer (taken ++ takenBy s l) t := by
  cases l with
  | post msg =>
      -- Whatever is waited for is still there, further from the end of the queue.
      rw [← Option.some.inj hs, show takenBy s (.post msg) = [] from rfl, List.append_nil]
      refine ⟨h.thread, fun i => ?_⟩
      rw [answers_append]
      exact (h.waits i).mono (List.Subset.refl _) (List.subset_append_left _ _)
  | answer r offer =>
      rcases Option.ite_none_right_eq_some.mp hs with ⟨hr, ht⟩
      rw [← Option.some.inj ht, show takenBy s (.answer r offer) = [] from rfl, List.append_nil]
      refine ⟨h.thread, fun i => ?_⟩
      have hperm := asked_erase (i := i) hr
      rw [asked_singleton] at hperm
      have hanswer := answerFor_answerMsg r offer i
      rw [answers_append]
      by_cases hi : statusNif r.type = i
      · -- The answer is for this machine, and replaces the request.
        rw [if_pos hi] at hanswer hperm
        refine (h.waits i).served offer.isSome (fun q hq => hperm.mem_iff.mp hq)
          (List.subset_append_left _ _) (List.mem_append_right _ ?_)
        rw [answers_cons, hanswer]
        exact List.mem_cons_self
      · -- The request was for another machine, so this one still has its own.
        rw [if_neg hi, List.nil_append] at hperm
        exact (h.waits i).mono (fun q hq => hperm.mem_iff.mp hq) (List.subset_append_left _ _)
  | take env =>
      unfold step at hs
      cases hqueue : s.deferredQ with
      | nil => simp only [hqueue, reduceCtorEq] at hs
      | cons msg rest =>
          simp only [hqueue, Option.some.injEq] at hs
          have htaken : takenBy s (.take env) = [(env, msg)] := by
            unfold takenBy
            rw [hqueue]
            rfl
          rw [← hs, htaken]
          refine ⟨?_, waits_take h hqueue⟩
          rw [Run.exec_append _ h.thread]
          rfl

/-- Thread and service use up what is left to do. -/
theorem due_step (h : Attended bearer taken s) (hl : l.Attends) (hs : step s l = some t) :
    due t + 1 ≤ due s := by
  cases l with
  | post msg => exact hl.elim
  | answer r offer =>
      rcases Option.ite_none_right_eq_some.mp hs with ⟨hr, ht⟩
      -- A request counts 2 and its answer 1.
      have hlength := List.length_erase_add_one hr
      rw [← Option.some.inj ht]
      unfold due
      simp only [costs_append, costs, cost_answerMsg]
      omega
  | take env =>
      unfold step at hs
      cases hqueue : s.deferredQ with
      | nil => simp only [hqueue, reduceCtorEq] at hs
      | cons msg rest =>
          simp only [hqueue, Option.some.injEq] at hs
          rcases h.known with ⟨hd, htype⟩
          -- The message pays for what its handling asks for, and 1 is left over.
          have hdue := (advances_handle hd htype env msg).due
          have hpos := one_le_cost msg
          rw [← hs]
          simp only [due, hqueue, costs, List.length_append]
          omega

end Steps

/-- Something that is said, or has happened to the client, and not something that
    it hears. -/
def spoken : SessionEvent → Bool
  | .ask => true
  | .leave => true
  | .dropped => true
  | _ => false

/-- All that was said and all that was heard is one session, and it leaves nobody
    waiting. -/
def Answered (talk : Monitor Talk SessionEvent) (stage : Stage) (said heard : List SessionEvent) :
    Prop :=
  (stage = .absent ∨ stage = .opened) ∧
    ∃ events, talk.Leads Stage.absent.quiet events stage.quiet ∧
      events.filter spoken = said ∧ events.filter (fun e => !spoken e) = heard

section Runs

variable {bearer : Int} {taken : List (MsgEnv × Msg)} {s t : Exchange} {labels more : List Label}

/-- Every run leaves nobody waiting in vain. -/
theorem attended_run (h : Run.exec step (init bearer) labels = some s) :
    Attended bearer (Run.collect step takenBy (init bearer) labels) s :=
  Run.exec_collected (Attended bearer) (fun _ _ _ _ hs hstep => attended_step hs hstep)
    (attended_init bearer) h

/-- The steps of thread and service are no more than are due. -/
theorem length_le_due (hs : Attended bearer taken s) (hmore : ∀ l ∈ more, l.Attends)
    (h : Run.exec step s more = some t) : more.length ≤ due s := by
  induction more generalizing s taken with
  | nil => exact Nat.zero_le _
  | cons l more ih =>
      rcases Run.exec_cons_inv h with ⟨u, hu, hrest⟩
      have hone := due_step hs (hmore l List.mem_cons_self) hu
      have hmany := ih (attended_step hs hu) (fun m hm => hmore m (List.mem_cons_of_mem _ hm)) hrest
      rw [List.length_cons]
      omega

theorem due_le (s : Exchange) : due s ≤ 2 * s.requests.length + 5 * s.deferredQ.length + 6 := by
  have hmachine : ∀ m : AgpsStateMachine, closing m ≤ 2 := by
    intro m
    unfold closing
    split <;> decide
  have hagnss := hmachine s.thread.data.agnssNif
  have hinternet := hmachine s.thread.data.internetNif
  have hwifi := hmachine s.thread.data.wifiNif
  have hsum := costs_le s.deferredQ
  unfold due closings
  omega

/-- As long as something is under way, there is something to do. -/
theorem attends_of_due (h : t.deferredQ ≠ [] ∨ t.requests ≠ []) :
    ∃ l, l.Attends ∧ (step t l).isSome = true := by
  rcases h with h | h
  · rcases List.exists_cons_of_ne_nil h with ⟨msg, rest, hqueue⟩
    refine ⟨.take .zeros, trivial, ?_⟩
    simp only [step, hqueue, Option.isSome_some]
  · -- The service can always refuse.
    rcases List.exists_mem_of_ne_nil _ h with ⟨r, hr⟩
    refine ⟨.answer r none, trivial, ?_⟩
    simp only [step, if_pos hr, Option.isSome_some]

/-- What is said in messages that the service does not send is said in those that
    were posted, taken up or still in the queue. -/
theorem said_run {ε : Type} {said : Msg → List ε}
    (hservice : ∀ r offer, said (answerMsg r offer) = [])
    (h : Run.exec step s labels = some t) :
    ((Run.collect step takenBy s labels).map Prod.snd ++ t.deferredQ).flatMap said =
      (s.deferredQ ++ labels.flatMap Label.posted).flatMap said := by
  induction labels generalizing s with
  | nil =>
      rw [Run.exec_nil, Option.some.injEq] at h
      rw [h, Run.collect, List.flatMap_nil, List.append_nil]
      rfl
  | cons l labels ih =>
      rcases Run.exec_cons_inv h with ⟨u, hu, hrest⟩
      -- In one step what is said moves from the queue to what has been taken up.
      have hone : ((takenBy s l).map Prod.snd ++ u.deferredQ).flatMap said =
          (s.deferredQ ++ l.posted).flatMap said := by
        cases l with
        | post msg =>
            rw [← Option.some.inj hu]
            rfl
        | answer r offer =>
            rcases Option.ite_none_right_eq_some.mp hu with ⟨_, hu⟩
            rw [← Option.some.inj hu]
            change (s.deferredQ ++ [answerMsg r offer]).flatMap said =
              (s.deferredQ ++ []).flatMap said
            rw [List.flatMap_append, List.flatMap_singleton, hservice, List.append_nil,
              List.append_nil]
        | take env =>
            unfold step at hu
            cases hqueue : s.deferredQ with
            | nil => simp only [hqueue, reduceCtorEq] at hu
            | cons msg rest =>
                simp only [hqueue, Option.some.injEq] at hu
                unfold takenBy
                rw [← hu, hqueue]
                exact congrArg (List.flatMap said) (List.append_nil _).symm
      have hmany := ih hrest
      rw [Run.collect_cons_of_step labels hu]
      simp only [List.map_append, List.append_assoc, List.flatMap_append, List.flatMap_cons]
        at hone hmany ⊢
      rw [hmany, ← List.append_assoc, hone, List.append_assoc]

/-- Nothing is posted by thread and service. -/
theorem posted_of_attends (hmore : ∀ l ∈ more, l.Attends) : more.flatMap Label.posted = [] := by
  refine List.flatMap_eq_nil_iff.mpr fun l hl => ?_
  cases l with
  | post msg => exact (hmore _ hl).elim
  | answer r offer => rfl
  | take env => rfl

/-- When the queue is empty, all that was posted has been taken up. -/
theorem said_taken {ε : Type} {said : Msg → List ε}
    (hservice : ∀ r offer, said (answerMsg r offer) = [])
    (h : Run.exec step (init bearer) labels = some t) (hqueue : t.deferredQ = []) :
    ((Run.collect step takenBy (init bearer) labels).map Prod.snd).flatMap said =
      (labels.flatMap Label.posted).flatMap said := by
  have hsaid := said_run hservice h
  rw [hqueue, List.append_nil] at hsaid
  exact hsaid

/-- What holds of the messages of the service, and of those that were posted, holds
    of those taken up. -/
theorem forall_taken {P : Msg → Prop} (hservice : ∀ r offer, P (answerMsg r offer))
    (h : Run.exec step (init bearer) labels = some t) (hqueue : t.deferredQ = [])
    (hposted : ∀ msg ∈ labels.flatMap Label.posted, P msg) :
    ∀ msg ∈ Run.collect step takenBy (init bearer) labels, P msg.2 := by
  classical
  -- The messages of which it does not hold, taken up or posted.
  have htaken := @said_taken _ _ _ _ (fun msg => if P msg then [] else [msg])
    (fun r offer => if_pos (hservice r offer)) h hqueue
  rw [List.flatMap_eq_nil_iff.mpr fun msg hmsg => if_pos (hposted msg hmsg)] at htaken
  intro msg hmsg
  have hone := List.flatMap_eq_nil_iff.mp htaken msg.2 (List.mem_map_of_mem hmsg)
  -- A message taken up of which it does not hold would be among these.
  by_contra hn
  rw [if_neg hn] at hone
  cases hone

/-- A machine that does not wait has its clients served. -/
theorem shown_settled {m : AgpsStateMachine} (h : m.mStatePtr = .acquired ∨ m.mStatePtr = .released)
    (i : BitVec 32) : shown m i = .absent ∨ shown m i = .opened := by
  unfold shown
  split
  · rcases h with h | h
    · rw [h]
      exact Or.inr rfl
    · rw [h]
      exact Or.inl rfl
  · exact Or.inl rfl

/-- What was said and heard about a handle of the modem. -/
theorem modem_answered {h : BitVec 32} {j : NifId} {u : Thread} (hj : j ≠ .wifi)
    (hh : h ≠ INADDR_NONE) (hmsgs : ∀ msg ∈ taken, Reserved h j msg.2)
    (hrun : Run.exec Thread.step (.init bearer) taken = some u)
    (hst : (u.data.nif j).mStatePtr = .acquired ∨ (u.data.nif j).mStatePtr = .released) :
    Answered phoneTalk (shown (u.data.nif j) h) ((taken.map Prod.snd).flatMap (modemSaid h))
      (overheard (modemHeard h) u.log) := by
  -- What is said is never what is heard, so the session splits into the two.
  have hsaid : ∀ msg, ∀ e ∈ modemSaid h msg, spoken e = true := by
    intro msg e he
    rcases modemSaid_cases he with rfl | rfl | rfl
    · rfl
    · rfl
    · rfl
  have hheard : ∀ msg e, modemHeard h msg = some e → spoken e = false := by
    intro msg e he
    rw [modemHeard_eventOf he]
    rcases eventOf_cases msg with h | h | h <;> (rw [h]; rfl)
  have hstart : (shown ((LocEngData.init bearer).nif j) h).quiet = Stage.absent.quiet := by
    cases j <;> rfl
  refine ⟨shown_settled hst h, _, ?_, conversation_filter hsaid hheard hrun⟩
  rw [← hstart]
  exact conversation_leads (ModemInv h j) (Reserved h j) (fun d => (shown (d.nif j) h).quiet)
    (fun _ env _ hmsg hd => modemStep_handle hd hj hh env hmsg) (modemInv_init bearer) hmsgs hrun

/-- What a WIFI sender said and heard. -/
theorem sender_answered {i : SenderId} {u : Thread} (hi : i = .quipc ∨ i = .msapm)
    (hrun : Run.exec Thread.step (.init bearer) taken = some u)
    (hst : u.data.wifiNif.mStatePtr = .acquired ∨ u.data.wifiNif.mStatePtr = .released) :
    Answered wifiTalk (shown u.data.wifiNif i.toId) ((taken.map Prod.snd).flatMap (senderSaid i))
      (overheard (senderHeard i) u.log) := by
  have hsaid : ∀ msg, ∀ e ∈ senderSaid i msg, spoken e = true := by
    intro msg e he
    rcases senderSaid_cases he with rfl | rfl
    · rfl
    · rfl
  have hheard : ∀ msg e, senderHeard i msg = some e → spoken e = false := by
    intro msg e he
    rw [senderHeard_eventOf he]
    rcases eventOf_cases msg with h | h | h <;> (rw [h]; rfl)
  exact ⟨shown_settled hst i.toId, _, conversation_leads SenderInv (fun _ => True)
    (fun d => (shown d.wifiNif i.toId).quiet)
    (fun _ env msg _ hd => senderStep_handle hd hi env msg) (senderInv_init bearer)
    (fun _ _ => trivial) hrun, conversation_filter hsaid hheard hrun⟩

/-- Once nobody says anything new, thread and service come to an end, and then
    every machine has its connection or lists nobody, and every handle and every
    WIFI sender has been answered. -/
theorem everybody_answered (hrun : Run.exec step (init bearer) labels = some s)
    (hmore : ∀ l ∈ more, l.Attends) (hattended : Run.exec step s more = some t) :
    more.length ≤ 2 * s.requests.length + 5 * s.deferredQ.length + 6 ∧
      (t.deferredQ ≠ [] ∨ t.requests ≠ [] → ∃ l, l.Attends ∧ (step t l).isSome = true) ∧
      (t.deferredQ = [] → t.requests = [] →
        (∀ k, (t.thread.data.nif k).mStatePtr = .acquired ∨
          (t.thread.data.nif k).mStatePtr = .released ∧
            (t.thread.data.nif k).mSubscribers = []) ∧
        (∀ h j, j ≠ .wifi → h ≠ INADDR_NONE →
          (∀ msg ∈ labels.flatMap Label.posted, Reserved h j msg) →
          Answered phoneTalk (shown (t.thread.data.nif j) h)
            ((labels.flatMap Label.posted).flatMap (modemSaid h))
            (overheard (modemHeard h) t.thread.log)) ∧
        ∀ i, i = .quipc ∨ i = .msapm →
          Answered wifiTalk (shown t.thread.data.wifiNif i.toId)
            ((labels.flatMap Label.posted).flatMap (senderSaid i))
            (overheard (senderHeard i) t.thread.log)) := by
  have hs := attended_run hrun
  have hboth : Run.exec step (init bearer) (labels ++ more) = some t :=
    (Run.exec_append more hrun).trans hattended
  have ht := attended_run hboth
  refine ⟨Nat.le_trans (length_le_due hs hmore hattended) (due_le s), attends_of_due,
    fun hqueue hrequests => ?_⟩
  -- With nothing under way, nobody can be waiting.
  have hst : ∀ k, (t.thread.data.nif k).mStatePtr = .acquired ∨
      (t.thread.data.nif k).mStatePtr = .released := by
    intro k
    have hwaits := ht.waits k
    rw [hqueue, hrequests] at hwaits
    exact hwaits.settled
  have hposted : (labels ++ more).flatMap Label.posted = labels.flatMap Label.posted := by
    rw [List.flatMap_append, posted_of_attends hmore, List.append_nil]
  refine ⟨fun k => (hst k).imp id fun h => ⟨h, (ht.known.1.sound k).released h⟩, ?_, ?_⟩
  · intro h j hj hh hmsgs
    -- The service says nothing for the modem, and may ask for no handle.
    have hservice : ∀ r offer, modemSaid h (answerMsg r offer) = [] := by
      intro r offer
      unfold answerMsg
      split <;> rfl
    have hothers : ∀ r offer, Reserved h j (answerMsg r offer) := by
      intro r offer
      unfold answerMsg
      split <;> exact trivial
    rw [← hposted, ← said_taken hservice hboth hqueue]
    rw [← hposted] at hmsgs
    exact modem_answered hj hh (forall_taken hothers hboth hqueue hmsgs) ht.thread (hst j)
  · intro i hi
    have hservice : ∀ r offer, senderSaid i (answerMsg r offer) = [] := by
      intro r offer
      unfold answerMsg
      split <;> rfl
    rw [← hposted, ← said_taken hservice hboth hqueue]
    exact sender_answered hi ht.thread (hst .wifi)

/-- A handle and a WIFI sender ask. -/
def bothAsk : List Label :=
  [.post (.requestAtl 7 AGPS_TYPE_SUPL), .post (.requestWifi .quipc none none), .take .zeros,
    .take .zeros]

/-- The later request is refused first, and then the earlier one is granted. -/
def oneServed : List Label :=
  [.answer (((AgpsStateMachine.init AGPS_TYPE_WIFI true 0).enlist
      (wifiSubscriber none none .quipc)).nifRequest Env.zeros.nifRequest .requestAgpsDataConn) none,
    .answer (((AgpsStateMachine.init AGPS_TYPE_SUPL false 0).enlist
      (atlSubscriber 7 false)).nifRequest Env.zeros.nifRequest .requestAgpsDataConn)
      (some ⟨[99], 1, 0⟩),
    .take .zeros, .take .zeros]

theorem everybody_answered_oneServed :
    ∃ s t, Run.exec step (init 0) bothAsk = some s ∧ Run.exec step s oneServed = some t ∧
      4 ≤ 2 * s.requests.length + 5 * s.deferredQ.length + 6 ∧
      Answered phoneTalk .opened [.ask] [.granted] ∧
      Answered wifiTalk .absent [.ask] [.denied] := by
  refine ⟨_, _, rfl, rfl, ?_⟩
  have hattends : ∀ l ∈ oneServed, l.Attends := by
    intro l hl
    simp only [oneServed, List.mem_cons, List.not_mem_nil, or_false] at hl
    rcases hl with rfl | rfl | rfl | rfl <;> exact trivial
  have hall := @everybody_answered 0 _ _ bothAsk oneServed rfl hattends rfl
  rcases hall.2.2 rfl rfl with ⟨_, hmodem, hsender⟩
  exact ⟨hall.1, hmodem 7 .agnss (by decide) (by decide) (by decide), hsender .quipc (Or.inl rfl)⟩

end Runs

end Exchange

end Eng

end Taoshan
