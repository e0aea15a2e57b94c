import Mathlib.Tactic.Common

/-!
# Network Initiated Requests

The request handler, the NI thread, the user's response and the reset after an
engine restart, as they share one record.

One request is in session at a time, and `rawRequest` is the slot it sits in.
The handler fills the slot, starts a thread and notifies the framework. The
thread waits for `respRecvd` or its deadline; whatever happens first, it takes
the request out of the slot and answers it with the value of `resp`. It does
not know which request it was started for. A response is tested against the
slot and the current id without the lock, and written later under the lock. A
restart empties the slot and sets `respRecvd` so that the thread goes away.

A label is one step of one of the threads, cut where the lock is taken or
released. A waiting thread may wake at any time and looks at `respRecvd` again,
so signals need no state of their own. The message of a thread is sent in the
step of its unlocked tail: nothing it carries can change after the lock is
released. Time is in microseconds, and only goes on.

A request is known by the payload that the modem passed, which is never NULL.
In the model the slot holds the request itself, with what is known of it when
it was accepted. Apart from that and from the lists of what was given,
notified and posted, a state holds what `loc_eng_ni_data` holds.

## Main definitions

* `Request`, `Given`, `Commit`: A request accepted, a response given, and one
  that is about to be written.
* `NiThread`: Where an NI thread is.
* `Sys`, `Action`, `step`: The shared record, who acts on it, and how.
-/

namespace Taoshan

namespace Ni

/-- `GpsUserResponseType`, an `int`. -/
abbrev UserResponse := Int

def GPS_NI_RESPONSE_ACCEPT : UserResponse := 1

def GPS_NI_RESPONSE_DENY : UserResponse := 2

def GPS_NI_RESPONSE_NORESP : UserResponse := 3

/-- `notification_id`, an `int`. -/
abbrev NotifId := BitVec 32

/-- Seconds. -/
def LOC_NI_NO_RESPONSE_TIME : Nat := 20

/-- `GPS_NI_PRIVACY_OVERRIDE`. -/
def GPS_NI_PRIVACY_OVERRIDE : Nat := 4

/-- The seconds a request with this timeout is given. -/
def respTime (timeout : Nat) : Nat :=
  5 + (if timeout ≠ 0 then timeout else LOC_NI_NO_RESPONSE_TIME)

/-- A request that was accepted: how many had been accepted before it, the id
    the framework was notified with, its timeout, and when that was. -/
structure Request where
  serial : Nat
  notificationId : NotifId
  timeout : Nat
  acceptedAt : Nat
  deriving DecidableEq

/-- A call of `loc_eng_ni_respond`, and how many requests the framework had been
    notified of by then. -/
structure Given where
  notifId : NotifId
  userResponse : UserResponse
  notified : Nat
  deriving DecidableEq

/-- A response that has passed the test and waits for the lock, with the request
    that was in the slot when it passed. -/
structure Commit where
  request : Request
  userResponse : UserResponse
  deriving DecidableEq

/-- `ni_thread_proc`: not at its first lock yet, in its wait until the expire
    time, or past the locked section with the message it has made. A thread
    that is done is gone. -/
inductive NiThread
  | created
  | waiting (expireTime : Nat)
  | unlocked (msg : Option (Request × UserResponse))
  deriving DecidableEq

/-- The thread has its locked section before it. -/
def NiThread.Pending : NiThread → Prop
  | .created => True
  | .waiting _ => True
  | .unlocked _ => False

instance : (t : NiThread) → Decidable t.Pending
  | .created => isTrue trivial
  | .waiting _ => isTrue trivial
  | .unlocked _ => isFalse not_false

/-- `mute_session_state`, as far as a request sets it. -/
inductive MuteSession
  | none
  | wait
  | inSession
  deriving DecidableEq

/-- The shared record, the threads on it, and what was said to whom. -/
structure Sys where
  niNotifyCb : Bool
  muteSessionState : MuteSession
  respTimeLeft : Nat
  respRecvd : Bool
  rawRequest : Option Request
  reqID : NotifId
  resp : UserResponse
  threads : List NiThread
  committing : List Commit
  now : Nat
  notified : List Request
  given : List Given
  posted : List (Request × UserResponse)

/-- The record is zero until `loc_eng_ni_init`. -/
def fresh : Sys where
  niNotifyCb := false
  muteSessionState := .none
  respTimeLeft := 0
  respRecvd := false
  rawRequest := none
  reqID := 0
  resp := 0
  threads := []
  committing := []
  now := 0
  notified := []
  given := []
  posted := []

inductive Action
  | init (notifyCb : Bool)
  | request (notifyFlags timeout : Nat) (created : Bool)
  | respond (notifId : NotifId) (userResponse : UserResponse)
  | commit (i : Nat)
  | start (i : Nat)
  | wake (i : Nat)
  | timedOut (i : Nat)
  | finish (i : Nat)
  | restart
  | elapse (d : Nat)
  deriving DecidableEq

/-- `loc_eng_ni_init`. -/
def niInit (s : Sys) (notifyCb : Bool) : Sys :=
  if notifyCb = false then s
  -- A second initialisation is refused.
  else if s.niNotifyCb then s
  else { s with
    respTimeLeft := 0
    respRecvd := false
    rawRequest := none
    reqID := 0
    niNotifyCb := true }

/-- `loc_eng_ni_request_handler`; `created` is whether `pthread_create` made a
    thread. -/
def niRequestHandler (s : Sys) (notifyFlags timeout : Nat) (created : Bool) : Sys :=
  if s.niNotifyCb = false then s
  else match s.rawRequest with
    -- Busy: the new request is dropped, with its payload.
    | some _ => s
    | none =>
        let r : Request := ⟨s.notified.length, s.reqID, timeout, s.now⟩
        { s with
          rawRequest := some r
          muteSessionState :=
            if notifyFlags = GPS_NI_PRIVACY_OVERRIDE then .wait else s.muteSessionState
          respTimeLeft := respTime timeout
          -- A thread that could not be made is logged, and nothing else.
          threads := if created then s.threads ++ [.created] else s.threads
          notified := s.notified ++ [r] }

/-- `loc_eng_ni_respond` up to its lock: the id is the current one and the slot
    is not empty. -/
def niRespondTest (s : Sys) (notifId : NotifId) (userResponse : UserResponse) : Sys :=
  { s with
    given := s.given ++ [⟨notifId, userResponse, s.notified.length⟩]
    committing :=
      -- What fails the test is logged and forgotten.
      if s.niNotifyCb = false then s.committing
      else match s.rawRequest with
        | none => s.committing
        | some r =>
            if notifId = s.reqID then s.committing ++ [⟨r, userResponse⟩] else s.committing }

/-- `loc_eng_ni_respond` under the lock. -/
def niRespondCommit (s : Sys) (i : Nat) : Option Sys :=
  match s.committing[i]? with
  | none => none
  | some c => some { s with
      committing := s.committing.eraseIdx i
      resp := c.userResponse
      respRecvd := true }

/-- `ni_thread_proc` from the end of its wait to the unlock. -/
def niThreadAnswer (s : Sys) (i : Nat) : Sys :=
  { s with
    respRecvd := false
    rawRequest := none
    threads := s.threads.set i (.unlocked (s.rawRequest.map fun r => (r, s.resp))) }

/-- `ni_thread_proc` from its lock to its first wait; it does not wait if
    `respRecvd` is set already. -/
def niThreadStart (s : Sys) (i : Nat) : Option Sys :=
  match s.threads[i]? with
  | some .created =>
      if s.respRecvd then some (niThreadAnswer s i)
      -- The deadline is computed here, from whatever `respTimeLeft` is by now.
      else some { s with
        threads := s.threads.set i (.waiting (s.now + 1000000 * s.respTimeLeft)) }
  | _ => none

/-- `ni_thread_proc` when the wait returns before the expire time. -/
def niThreadWake (s : Sys) (i : Nat) : Option Sys :=
  match s.threads[i]? with
  -- The wait loop looks at the flag again and at nothing else.
  | some (.waiting _) => if s.respRecvd then some (niThreadAnswer s i) else some s
  | _ => none

/-- `ni_thread_proc` when the wait returns `ETIMEDOUT`. -/
def niThreadTimedOut (s : Sys) (i : Nat) : Option Sys :=
  match s.threads[i]? with
  | some (.waiting expireTime) =>
      if expireTime ≤ s.now then
        some (niThreadAnswer { s with resp := GPS_NI_RESPONSE_NORESP } i)
      else none
  | _ => none

/-- `ni_thread_proc` after its unlock. -/
def niThreadFinish (s : Sys) (i : Nat) : Option Sys :=
  match s.threads[i]? with
  | some (.unlocked msg) => some { s with
      -- Written without the lock, whoever the two belong to by now.
      respTimeLeft := 0
      reqID := s.reqID + 1
      threads := s.threads.eraseIdx i
      posted := s.posted ++ msg.toList }
  | _ => none

/-- `loc_eng_ni_reset_on_engine_restart`. -/
def niResetOnEngineRestart (s : Sys) : Sys :=
  if s.niNotifyCb = false then s
  else match s.rawRequest with
    | none => s
    -- The thread is to wake up, find the slot empty and send nothing.
    | some _ => { s with rawRequest := none, respRecvd := true }

def step (s : Sys) : Action → Option Sys
  | .init notifyCb => some (niInit s notifyCb)
  | .request notifyFlags timeout created =>
      some (niRequestHandler s notifyFlags timeout created)
  | .respond notifId userResponse => some (niRespondTest s notifId userResponse)
  | .commit i => niRespondCommit s i
  | .start i => niThreadStart s i
  | .wake i => niThreadWake s i
  | .timedOut i => niThreadTimedOut s i
  | .finish i => niThreadFinish s i
  | .restart => some (niResetOnEngineRestart s)
  | .elapse d => some { s with now := s.now + d }

end Ni

end Taoshan
