import Taoshan.Agps.Requests

/-!
# The Deferred Action Thread and its State Machines

The AGPS messages of `loc_eng_deferred_action_thread`, one after the other, on
the three state machines that `loc_eng_agps_init` creates.

Every message but one comes down to a call or two of a state machine, with the
bearer and the name of the access point set before a grant. The exception is
the message that says that the modem is up again, which empties the lists of
two machines without going through their states. `handle_local` is the rule
for the others: what every call of a machine preserves, for that machine and
its part of the log, is preserved by the message for all machines.

The handlers build their clients on the stack. Such an object is not listed
and its address is never compared, so it is written as zero. A BIT client that
comes without an IPv6 address has its first byte cleared and keeps what the
stack held in the others.

## Main definitions

* `LocEngData`: The three machines.
* `Msg`: The messages.
* `handle`: What the thread does with one.
* `Thread`: The thread with the log of what its machines did.

## Theorems

* `nif_setNif`, `logOf_call_ne`: A call of one machine is no matter for another.
* `handle_local`: What holds of every call holds of every message.
-/

namespace Taoshan

namespace Eng

open Agps

/-- `loc_if_req_type_e_type`, with the values it does not declare. -/
inductive IfType
  | supl
  | wifi
  | any
  | other
  deriving DecidableEq, Repr

/-- The messages that reach a state machine. -/
inductive Msg
  | requestBit (ifType : IfType) (ipv4Addr : BitVec 32) (ipv6Addr : Option (Vector UInt8 16))
  | releaseBit (ifType : IfType) (ipv4Addr : BitVec 32) (ipv6Addr : Option (Vector UInt8 16))
  | requestAtl (handle : BitVec 32) (type : AGpsType)
  | releaseAtl (handle : BitVec 32)
  | requestWifi (senderId : SenderId) (ssid password : Option (List UInt8))
  | releaseWifi (senderId : SenderId) (ssid password : Option (List UInt8))
  | atlOpenSuccess (agpsType : AGpsType) (apn : List UInt8) (length : Nat) (bearerType : Int)
  | atlClosed (agpsType : AGpsType)
  | atlOpenFailed (agpsType : AGpsType)
  | engineUp
  deriving DecidableEq

/-- The three network interfaces. -/
inductive NifId
  | agnss
  | internet
  | wifi
  deriving DecidableEq, Repr

/-- The part of `loc_eng_data_s_type` the messages touch. `agpsStatusCb` says
    whether a callback has been registered. -/
structure LocEngData where
  agpsStatusCb : Bool
  agnssNif : AgpsStateMachine
  internetNif : AgpsStateMachine
  wifiNif : AgpsStateMachine
  deriving DecidableEq

/-- What a message reads that the program does not determine: for the calls it
    makes, and the stack under an IPv6 address. -/
structure MsgEnv where
  first : Env
  second : Env
  ipv6Addr : Vector UInt8 16

/-- Nothing but zeros is read. -/
def MsgEnv.zeros : MsgEnv := ⟨.zeros, .zeros, Vector.replicate 16 0⟩

namespace LocEngData

/-- `loc_eng_agps_init`, with a callback. -/
def init (mBearer : Int) : LocEngData where
  agpsStatusCb := true
  agnssNif := .init AGPS_TYPE_SUPL false mBearer
  internetNif := .init AGPS_TYPE_WWAN_ANY false mBearer
  wifiNif := .init AGPS_TYPE_WIFI true mBearer

variable (d : LocEngData)

def nif : NifId → AgpsStateMachine
  | .agnss => d.agnssNif
  | .internet => d.internetNif
  | .wifi => d.wifiNif

def setNif (m : AgpsStateMachine) : NifId → LocEngData
  | .agnss => { d with agnssNif := m }
  | .internet => { d with internetNif := m }
  | .wifi => { d with wifiNif := m }

/-- A call of one machine, with the lines it adds to the log. -/
def call (i : NifId) (env : Env) (op : Op) : LocEngData × List (NifId × Entry) :=
  let m := d.nif i
  let r := m.perform env op
  (d.setNif r.1 i,
    (answerOf m.mStatePtr op ++ r.2.map Entry.effect).map fun e => (i, e))

/-- The flush of one machine. -/
def drop (i : NifId) : LocEngData × List (NifId × Entry) :=
  let r := (d.nif i).dropAllSubscribers
  (d.setNif r.1 i, (r.2.map Entry.effect).map fun e => (i, e))

end LocEngData

/-- The machine a BIT client asks for. -/
def bitNif : IfType → Option NifId
  | .supl => some .agnss
  | .any => some .internet
  | _ => none

/-- The machine an ATL connection is opened on. -/
def atlNif (type : AGpsType) : NifId :=
  if AGPS_TYPE_SUPL = type ∨ AGPS_TYPE_INVALID = type then .agnss else .internet

/-- The machine an answer of the service is for. -/
def statusNif (agpsType : AGpsType) : NifId :=
  if agpsType = AGPS_TYPE_WIFI then .wifi
  else if agpsType = AGPS_TYPE_SUPL then .agnss else .internet

/-- `BITSubscriber` on the stack. -/
def bitSubscriber (stack : Vector UInt8 16) (ipv4 : BitVec 32)
    (ipv6 : Option (Vector UInt8 16)) : Subscriber :=
  .bit 0 ipv4 (match ipv6 with
    | none => zeroFirst ipv6Addr_pos stack
    | some addr => addr)

/-- `ATLSubscriber` on the stack. -/
def atlSubscriber (handle : BitVec 32) (compatibleMode : Bool) : Subscriber :=
  .atl 0 handle compatibleMode

/-- `WIFISubscriber` on the stack. -/
def wifiSubscriber (ssid password : Option (List UInt8)) (senderId : SenderId) : Subscriber :=
  .wifi 0 (ssid.map (List.take (SSID_BUF_SIZE - 1)))
    (password.map (List.take (SSID_BUF_SIZE - 1))) senderId false

/-- One message. -/
def handle (d : LocEngData) (env : MsgEnv) : Msg → LocEngData × List (NifId × Entry)
  | .requestBit ifType ipv4Addr ipv6Addr => match bitNif ifType with
    | none => (d, [])
    | some i => d.call i env.first (.subscribeRsrc (bitSubscriber env.ipv6Addr ipv4Addr ipv6Addr))
  | .releaseBit ifType ipv4Addr ipv6Addr => match bitNif ifType with
    | none => (d, [])
    | some i =>
        d.call i env.first (.unsubscribeRsrc (bitSubscriber env.ipv6Addr ipv4Addr ipv6Addr))
  | .requestAtl handle type =>
      d.call (atlNif type) env.first
        (.subscribeRsrc (atlSubscriber handle (AGPS_TYPE_INVALID == type)))
  | .releaseAtl handle =>
      -- The message does not say which machine the handle is on.
      let s := atlSubscriber handle false
      let r := d.call .agnss env.first (.unsubscribeRsrc s)
      if !(d.agnssNif.unsubscribeRsrc env.first s).1 then
        let q := r.1.call .internet env.second (.unsubscribeRsrc s)
        (q.1, r.2 ++ q.2)
      else r
  | .requestWifi senderId ssid password =>
      -- Only the two senders that use WIFI are served.
      if senderId = .quipc ∨ senderId = .msapm then
        d.call .wifi env.first (.subscribeRsrc (wifiSubscriber ssid password senderId))
      else (d, [])
  | .releaseWifi senderId ssid password =>
      d.call .wifi env.first (.unsubscribeRsrc (wifiSubscriber ssid password senderId))
  | .atlOpenSuccess agpsType apn length bearerType =>
      let i := statusNif agpsType
      (d.setNif (((d.nif i).setBearer bearerType).setAPN (some apn) length) i).call i env.first
        (.onRsrcEvent .granted)
  | .atlClosed agpsType => d.call (statusNif agpsType) env.first (.onRsrcEvent .released)
  | .atlOpenFailed agpsType => d.call (statusNif agpsType) env.first (.onRsrcEvent .denied)
  | .engineUp =>
      -- The lists are flushed; the states are not told.
      if d.agpsStatusCb then
        let r := d.drop .agnss
        let q := r.1.drop .internet
        (q.1, r.2 ++ q.2)
      else (d, [])

/-- The thread, with everything its machines have done. -/
structure Thread where
  data : LocEngData
  log : List (NifId × Entry)

namespace Thread

def init (mBearer : Int) : Thread := ⟨.init mBearer, []⟩

def step (t : Thread) (msg : MsgEnv × Msg) : Option Thread :=
  let r := handle t.data msg.1 msg.2
  some ⟨r.1, t.log ++ r.2⟩

end Thread

/-- The lines of the log that are about one machine. -/
def logOf (i : NifId) (log : List (NifId × Entry)) : List Entry :=
  log.filterMap fun e => if e.1 = i then some e.2 else none

section Frame

variable (d : LocEngData) {i j : NifId}

/-- Replacing one of the three machines. -/
theorem nif_setNif (m : AgpsStateMachine) (i j : NifId) :
    (d.setNif m i).nif j = if j = i then m else d.nif j := by
  cases i <;> cases j <;> rfl

@[simp] theorem nif_setNif_self (m : AgpsStateMachine) (i : NifId) : (d.setNif m i).nif i = m := by
  rw [nif_setNif, if_pos rfl]

theorem nif_setNif_ne (m : AgpsStateMachine) (h : j ≠ i) : (d.setNif m i).nif j = d.nif j := by
  rw [nif_setNif, if_neg h]

@[simp] theorem agpsStatusCb_setNif (m : AgpsStateMachine) (i : NifId) :
    (d.setNif m i).agpsStatusCb = d.agpsStatusCb := by
  cases i <;> rfl

/-- The log of one machine, out of two parts of the log. -/
theorem logOf_append (i : NifId) (xs ys : List (NifId × Entry)) :
    logOf i (xs ++ ys) = logOf i xs ++ logOf i ys := List.filterMap_append

/-- What one machine did is all in its own log, and none of it in those of the
    others. -/
theorem logOf_map_self (i : NifId) (es : List Entry) :
    logOf i (es.map fun e => (i, e)) = es := by
  induction es with
  | nil => rfl
  | cons e es ih =>
      unfold logOf at ih ⊢
      rw [List.map_cons, List.filterMap_cons, if_pos rfl, ih]

theorem logOf_map_ne (es : List Entry) (h : j ≠ i) :
    logOf j (es.map fun e => (i, e)) = [] := by
  refine List.filterMap_eq_nil_iff.mpr (fun p hp => ?_)
  rcases List.mem_map.mp hp with ⟨e, _, rfl⟩
  exact if_neg (Ne.symm h)

/-- A call changes the machine it is made on and adds to its part of the log. -/
theorem call_nif_self (env : Env) (op : Op) (i : NifId) :
    (d.call i env op).1.nif i = ((d.nif i).perform env op).1 := nif_setNif_self d _ i

/-- And leaves the others alone. -/
theorem call_nif_ne (env : Env) (op : Op) (h : j ≠ i) :
    (d.call i env op).1.nif j = d.nif j := nif_setNif_ne d _ h

theorem logOf_call_self (env : Env) (op : Op) (i : NifId) :
    logOf i (d.call i env op).2 =
      answerOf (d.nif i).mStatePtr op ++ ((d.nif i).perform env op).2.map Entry.effect :=
  logOf_map_self i _

theorem logOf_call_ne (env : Env) (op : Op) (h : j ≠ i) : logOf j (d.call i env op).2 = [] :=
  logOf_map_ne _ h

/-- A client is told something by the machine the call is made on. -/
theorem notify_mem_call {env : Env} {op : Op} {x : Subscriber} {msg : ClientMsg}
    (h : (j, Entry.effect (.notify x msg)) ∈ (d.call i env op).2) :
    j = i ∧ .notify x msg ∈ ((d.nif i).perform env op).2 := by
  rcases List.mem_map.mp h with ⟨e, he, heq⟩
  rw [Prod.mk.injEq] at heq
  refine ⟨heq.1.symm, ?_⟩
  rw [heq.2] at he
  rcases List.mem_append.mp he with he | he
  · cases op with
    | subscribeRsrc s => exact absurd he List.not_mem_nil
    | unsubscribeRsrc s => exact absurd he List.not_mem_nil
    | onRsrcEvent event => cases List.mem_singleton.mp he
  · rcases List.mem_map.mp he with ⟨f, hf, hfe⟩
    rw [Entry.effect.injEq] at hfe
    rw [← hfe]
    exact hf

/-- A flush does the same to the machine that is flushed. -/
theorem drop_nif_self (i : NifId) :
    (d.drop i).1.nif i = (d.nif i).dropAllSubscribers.1 := nif_setNif_self d _ i

theorem drop_nif_ne (h : j ≠ i) : (d.drop i).1.nif j = d.nif j := nif_setNif_ne d _ h

theorem logOf_drop_self (i : NifId) :
    logOf i (d.drop i).2 = (d.nif i).dropAllSubscribers.2.map Entry.effect := logOf_map_self i _

theorem logOf_drop_ne (h : j ≠ i) : logOf j (d.drop i).2 = [] := logOf_map_ne _ h

/-- What the modem's return does to a machine whose list is flushed. -/
theorem engineUp_nif (env : MsgEnv) (hcb : d.agpsStatusCb = true) (hi : i ≠ .wifi) :
    (handle d env .engineUp).1.nif i = (d.nif i).dropAllSubscribers.1 ∧
      logOf i (handle d env .engineUp).2 = (d.nif i).dropAllSubscribers.2.map Entry.effect := by
  simp only [handle, hcb, if_true, logOf_append]
  cases i with
  | wifi => exact absurd rfl hi
  | agnss =>
      rw [drop_nif_ne _ (by decide), drop_nif_self, logOf_drop_self,
        logOf_drop_ne _ (by decide), List.append_nil]
      exact ⟨rfl, rfl⟩
  | internet =>
      rw [drop_nif_self, drop_nif_ne _ (by decide), logOf_drop_self,
        logOf_drop_ne _ (by decide), List.nil_append, drop_nif_ne _ (by decide)]
      exact ⟨rfl, rfl⟩

/-- The machine it leaves alone. -/
theorem engineUp_nif_wifi (env : MsgEnv) :
    (handle d env .engineUp).1.nif .wifi = d.nif .wifi ∧
      logOf .wifi (handle d env .engineUp).2 = [] := by
  unfold handle
  by_cases hcb : d.agpsStatusCb = true
  · simp only [hcb, if_true, logOf_append]
    rw [drop_nif_ne _ (by decide), drop_nif_ne _ (by decide), logOf_drop_ne _ (by decide),
      logOf_drop_ne _ (by decide)]
    exact ⟨rfl, rfl⟩
  · rw [if_neg hcb]
    exact ⟨rfl, rfl⟩

end Frame

section Local

/-- The calls that are made on a machine: WIFI clients are met on their own
    machine only. -/
def OpFor (i : NifId) : Op → Prop
  | .subscribeRsrc s => i ≠ .wifi → s.isWifi = false
  | .unsubscribeRsrc s => i ≠ .wifi → s.isWifi = false
  | .onRsrcEvent _ => True

variable {P : NifId → AgpsStateMachine → List Entry → Prop}

/-- A call of one machine keeps what such calls keep. -/
theorem call_local
    (hcall : ∀ i m log env op, OpFor i op → P i m log →
      P i (m.perform env op).1
        (log ++ (answerOf m.mStatePtr op ++ (m.perform env op).2.map .effect)))
    {d : LocEngData} {log : NifId → List Entry} (h : ∀ i, P i (d.nif i) (log i)) (i : NifId)
    (env : Env) (op : Op) (hop : OpFor i op) (j : NifId) :
    P j ((d.call i env op).1.nif j) (log j ++ logOf j (d.call i env op).2) := by
  by_cases hj : j = i
  · subst hj
    rw [call_nif_self, logOf_call_self]
    exact hcall j _ _ env op hop (h j)
  · rw [call_nif_ne d env op hj, logOf_call_ne d env op hj, List.append_nil]
    exact h j

/-- What every call of a machine preserves, for that machine and its part of
    the log, is preserved by every message that is not about the modem. -/
theorem handle_local (log : NifId → List Entry)
    (hcall : ∀ i m log env op, OpFor i op → P i m log →
      P i (m.perform env op).1
        (log ++ (answerOf m.mStatePtr op ++ (m.perform env op).2.map .effect)))
    (htune : ∀ i m log b apn len, P i m log → P i ((m.setBearer b).setAPN apn len) log)
    {d : LocEngData} (h : ∀ i, P i (d.nif i) (log i)) (env : MsgEnv)
    {msg : Msg} (hmsg : msg ≠ .engineUp) (j : NifId) :
    P j ((handle d env msg).1.nif j) (log j ++ logOf j (handle d env msg).2) := by
  have hsame : P j ((d, ([] : List (NifId × Entry))).1.nif j) (log j ++ logOf j []) := by
    rw [show logOf j [] = [] from rfl, List.append_nil]
    exact h j
  cases msg with
  | requestBit ifType ipv4 ipv6 =>
      cases hi : bitNif ifType with
      | none =>
          simp only [handle, hi]
          exact hsame
      | some i =>
          simp only [handle, hi]
          refine call_local hcall h i _ _ ?_ j
          exact fun _ => rfl
  | releaseBit ifType ipv4 ipv6 =>
      cases hi : bitNif ifType with
      | none =>
          simp only [handle, hi]
          exact hsame
      | some i =>
          simp only [handle, hi]
          refine call_local hcall h i _ _ ?_ j
          exact fun _ => rfl
  | requestAtl handle type =>
      refine call_local hcall h _ _ _ ?_ j
      exact fun _ => rfl
  | releaseAtl handle =>
      simp only [Eng.handle]
      have hfirst := call_local hcall h .agnss env.first
        (.unsubscribeRsrc (atlSubscriber handle false)) (fun _ => rfl)
      by_cases hfound : (d.agnssNif.unsubscribeRsrc env.first (atlSubscriber handle false)).1 = true
      · simp only [hfound, Bool.not_true, Bool.false_eq_true, if_false]
        exact hfirst j
      · -- The handle is not on the first machine, so the second is asked, too.
        simp only [Bool.eq_false_iff.mpr hfound, Bool.not_false, if_true]
        have hsecond := call_local hcall hfirst .internet env.second
          (.unsubscribeRsrc (atlSubscriber handle false)) (fun _ => rfl) j
        rw [logOf_append, ← List.append_assoc]
        exact hsecond
  | requestWifi senderId ssid password =>
      simp only [handle]
      by_cases hs : senderId = .quipc ∨ senderId = .msapm
      · rw [if_pos hs]
        refine call_local hcall h .wifi _ _ ?_ j
        exact fun hne => absurd rfl hne
      · rw [if_neg hs]
        exact hsame
  | releaseWifi senderId ssid password =>
      refine call_local hcall h .wifi _ _ ?_ j
      exact fun hne => absurd rfl hne
  | atlOpenSuccess agpsType apn length bearerType =>
      -- Bearer and name are set first, and then the grant is handled.
      have htuned : ∀ i, P i ((d.setNif (((d.nif (statusNif agpsType)).setBearer
          bearerType).setAPN (some apn) length) (statusNif agpsType)).nif i) (log i) := by
        intro i
        rw [nif_setNif]
        by_cases hi : i = statusNif agpsType
        · rw [if_pos hi, ← hi]
          exact htune i _ _ _ _ _ (h i)
        · rw [if_neg hi]
          exact h i
      refine call_local hcall htuned _ _ _ ?_ j
      exact trivial
  | atlClosed agpsType =>
      refine call_local hcall h _ _ _ ?_ j
      exact trivial
  | atlOpenFailed agpsType =>
      refine call_local hcall h _ _ _ ?_ j
      exact trivial
  | engineUp => exact absurd rfl hmsg

/-- No message takes the callback away. -/
theorem handle_agpsStatusCb (d : LocEngData) (env : MsgEnv) (msg : Msg) :
    (handle d env msg).1.agpsStatusCb = d.agpsStatusCb := by
  have hcall : ∀ (d : LocEngData) i env op, (d.call i env op).1.agpsStatusCb = d.agpsStatusCb :=
    fun d i _ _ => agpsStatusCb_setNif d _ i
  cases msg with
  | requestBit ifType ipv4 ipv6 =>
      cases hi : bitNif ifType with
      | none => simp only [handle, hi]
      | some i => simp only [handle, hi, hcall]
  | releaseBit ifType ipv4 ipv6 =>
      cases hi : bitNif ifType with
      | none => simp only [handle, hi]
      | some i => simp only [handle, hi, hcall]
  | requestAtl handle type => exact hcall _ _ _ _
  | releaseAtl handle =>
      simp only [Eng.handle]
      split
      · rw [hcall, hcall]
      · rw [hcall]
  | requestWifi senderId ssid password =>
      simp only [handle]
      split
      · exact hcall _ _ _ _
      · rfl
  | releaseWifi senderId ssid password => exact hcall _ _ _ _
  | atlOpenSuccess agpsType apn length bearerType =>
      exact (hcall _ _ _ _).trans (agpsStatusCb_setNif d _ _)
  | atlClosed agpsType => exact hcall _ _ _ _
  | atlOpenFailed agpsType => exact hcall _ _ _ _
  | engineUp =>
      simp only [handle]
      split
      · rename_i hcb
        rw [hcb]
        exact ((agpsStatusCb_setNif _ _ .internet).trans (agpsStatusCb_setNif d _ .agnss)).trans hcb
      · rfl

end Local

end Eng

end Taoshan
