import Taoshan.Agps.Identity
import Taoshan.Agps.Service

/-!
# What the Service Is Handed

`sendRsrcRequest` fills in an `AGpsStatus` that lives on the stack and hands it
to the connectivity service. What was in that memory before belongs to somebody
else, so every field that the service may read has to be written: what is handed
over should depend on the machine's type, the action and the first active client
alone.

A release is sent for nobody, and all four fields are written. A request is sent
for an active client, which writes them itself through two virtual functions,
and every kind of client leaves something out. The BIT and the ATL clients
inherit a `setWifiInfo` that does nothing, the WIFI clients a `setIPAddresses`
that does nothing. So every request carries what was on the stack, and only
requests do (`determined_iff`). Two runs that differ in nothing but the earlier
contents of the stack hand over the same if and only if no call of theirs sends
a request (`opaque_iff`).

## Main definitions

* `Handed`: What the service reads of an `AGpsStatus`.
* `AgpsStateMachine.handed`: What one call of `sendRsrcRequest` hands over.
* `Determined`: It depends on the type, the action and the first active client.
* `outcome`: What a call leaves behind and what it does.
* `handedOver`: What a run hands over.
* `AlikeCall`: Calls that differ in the contents of the stack only.
* `Opaque`: What a run hands over does not depend on them.
* `asks`, `NoRequest`: The calls that send a request, and those that do not.

## Theorems

* `determined_iff`: Requests disclose, releases do not.
* `perform_overStacks`: The stack decides nothing but what is handed over.
* `asks_iff`: Which calls send a request.
* `opaque_iff`: The runs that disclose nothing.
* `firstClient_discloses`: One that does.
-/

namespace Taoshan

namespace Agps

/-- A string in a buffer, up to its terminator. -/
def text {n : Nat} (v : Vector UInt8 n) : List UInt8 := v.toList.takeWhile (· ≠ 0)

/-- What the service reads of an `AGpsStatus`. The three buffers are strings,
    except that all sixteen bytes of a BIT client's address count. -/
structure Handed where
  type : AGpsType
  status : AGpsStatusValue
  ipv4Addr : BitVec 32
  ipv6Addr : List UInt8
  ssid : List UInt8
  password : List UInt8
  deriving DecidableEq

/-- The status as the service reads it, `speaker` being the client that speaks
    for the list. -/
def AGpsStatus.handed (speaker : Option Subscriber) (st : AGpsStatus) : Handed where
  type := st.type
  status := st.status
  ipv4Addr := st.ipv4Addr
  ipv6Addr := if speaker.any Subscriber.isBit then st.ipv6Addr.toList else text st.ipv6Addr
  ssid := text st.ssid
  password := text st.password

/-- What the service is handed among the effects, and for whom. -/
def handedOf (speaker : Option Subscriber) (out : List Effect) : List Handed :=
  out.filterMap fun
    | .servicer r => some (r.handed speaker)
    | _ => none

/-- What one call of `sendRsrcRequest` hands over. -/
def AgpsStateMachine.handed (m : AgpsStateMachine) (stack : AGpsStatus)
    (action : AGpsStatusValue) : List Handed :=
  handedOf m.findActive (m.sendRsrcRequest stack action)

/-- What is handed over depends on the type, the action and the first active
    client alone. -/
def Determined (m : AgpsStateMachine) (action : AGpsStatusValue) : Prop :=
  ∀ (m' : AgpsStateMachine) (stack stack' : AGpsStatus), m'.mType = m.mType →
    m'.findActive = m.findActive → m'.handed stack' action = m.handed stack action

/-- A call, with what it leaves behind and what it does. -/
def outcome (m : AgpsStateMachine) : MachineCall → AgpsStateMachine × List Effect
  | .interface env op => m.perform env op
  | .dropAllSubscribers => m.dropAllSubscribers
  | .setAPN apn len => (m.setAPN apn len, [])
  | .setBearer bearer => (m.setBearer bearer, [])

/-- What a call hands over. A handler that calls the service does not touch the
    list afterwards, so who speaks for it can be read off at the end. -/
def handedBy (m : AgpsStateMachine) (call : MachineCall) : List Handed :=
  handedOf (outcome m call).1.findActive (outcome m call).2

/-- What a run hands over, in order. -/
def handedOver (m : AgpsStateMachine) : List MachineCall → List Handed
  | [] => []
  | call :: calls => handedBy m call ++ handedOver (outcome m call).1 calls

/-- Two calls that differ in the earlier contents of the stack, if at all. -/
inductive AlikeCall : MachineCall → MachineCall → Prop
  | interface (wild : Nat → Wild) (stack stack' : AGpsStatus) (op : Op) :
      AlikeCall (.interface ⟨wild, stack⟩ op) (.interface ⟨wild, stack'⟩ op)
  | refl (call : MachineCall) : AlikeCall call call

/-- What a run hands over is what every run hands over that differs in the
    earlier contents of the stack only. -/
def Opaque (m : AgpsStateMachine) (calls : List MachineCall) : Prop :=
  ∀ calls', List.Forall₂ AlikeCall calls calls' → handedOver m calls' = handedOver m calls

/-- Whether a call sends a request, from a state with or without an active
    client: the first subscription, and the end of a close that somebody has
    been waiting for. -/
def asks (active : Bool) : AgpsState → Op → Bool
  | .released, .subscribeRsrc _ => true
  | .releasing, .onRsrcEvent .released => active
  | .releasing, .onRsrcEvent .denied => active
  | _, _ => false

/-- The condition on a call: it sends no request. -/
def NoRequest (m : AgpsStateMachine) : MachineCall → Prop
  | .interface _ op => asks m.hasActiveSubscribers m.mStatePtr op = false
  | _ => True

instance (m : AgpsStateMachine) : (call : MachineCall) → Decidable (NoRequest m call)
  | .interface _ _ => inferInstanceAs (Decidable (_ = false))
  | .dropAllSubscribers => isTrue trivial
  | .setAPN _ _ => isTrue trivial
  | .setBearer _ => isTrue trivial

/-- Memory that somebody else has left full of letters. -/
def litter : AGpsStatus where
  type := 0
  status := .requestAgpsDataConn
  ipv4Addr := 0x41414141
  ipv6Addr := Vector.replicate 16 0x41
  ssid := Vector.replicate SSID_BUF_SIZE 0x41
  password := Vector.replicate SSID_BUF_SIZE 0x41

section Status

variable {m : AgpsStateMachine} {speaker : Option Subscriber}

theorem text_zeroFirst {n : Nat} (hn : 0 < n) (v : Vector UInt8 n) :
    text (zeroFirst hn v) = [] := by
  obtain ⟨k, rfl⟩ : ∃ k, n = k + 1 := ⟨n - 1, by omega⟩
  rcases hv : v.toList with _ | ⟨a, as⟩
  · have hlen : v.toList.length = k + 1 := Vector.length_toList
    rw [hv] at hlen
    exact absurd hlen (Nat.succ_ne_zero k).symm
  · unfold text zeroFirst
    rw [Vector.toList_set, hv, List.set_cons_zero]
    rfl

theorem handedOf_append (xs ys : List Effect) :
    handedOf speaker (xs ++ ys) = handedOf speaker xs ++ handedOf speaker ys :=
  List.filterMap_append

theorem handedOf_of_quiet {out : List Effect} (h : Quiet out) : handedOf speaker out = [] := by
  refine List.filterMap_eq_nil_iff.mpr (fun e he => ?_)
  rcases h e he with ⟨s, msg, rfl⟩ | ⟨obj, rfl⟩
  · rfl
  · rfl

/-- What a machine without an active client hands over. -/
theorem handed_of_none (hnone : m.findActive = none) (stack : AGpsStatus) :
    m.handed stack .releaseAgpsDataConn =
      [⟨m.mType, .releaseAgpsDataConn, INADDR_NONE, [], [], []⟩] := by
  have hsend : m.sendRsrcRequest stack .releaseAgpsDataConn =
      [.servicer (m.nifRequest stack .releaseAgpsDataConn)] :=
    m.sendRsrcRequest_of_guard (by unfold AgpsStateMachine.hasActiveSubscribers; rw [hnone]; rfl)
  unfold AgpsStateMachine.handed
  rw [hsend, hnone]
  unfold AgpsStateMachine.nifRequest
  simp only [hnone, handedOf, List.filterMap_cons, List.filterMap_nil, AGpsStatus.handed,
    Option.any_none, Bool.false_eq_true, if_false, text_zeroFirst]

/-- What an active client's request hands over. -/
theorem handed_of_some {s : Subscriber} (hs : m.findActive = some s) (stack : AGpsStatus) :
    m.handed stack .requestAgpsDataConn = [(s.setWifiInfo (s.setIPAddresses
      { stack with type := m.mType, status := .requestAgpsDataConn })).handed (some s)] := by
  have hsend : m.sendRsrcRequest stack .requestAgpsDataConn =
      [.servicer (m.nifRequest stack .requestAgpsDataConn)] :=
    m.sendRsrcRequest_of_guard (by unfold AgpsStateMachine.hasActiveSubscribers; rw [hs]; rfl)
  unfold AgpsStateMachine.handed
  rw [hsend, hs]
  unfold AgpsStateMachine.nifRequest
  simp only [hs, handedOf, List.filterMap_cons, List.filterMap_nil]

/-- A call that does not agree with the guard. -/
theorem sendRsrcRequest_suppressed {action : AGpsStatusValue} (stack : AGpsStatus)
    (h : m.findActive.isSome ≠ (action == .requestAgpsDataConn)) :
    m.sendRsrcRequest stack action = [.suppressed action] := by
  refine if_neg ?_
  cases hf : m.findActive with
  | none =>
      rw [hf] at h
      cases action with
      | requestAgpsDataConn => exact Bool.false_ne_true
      | releaseAgpsDataConn => exact absurd rfl h
  | some s =>
      rw [hf] at h
      cases action with
      | requestAgpsDataConn => exact absurd rfl h
      | releaseAgpsDataConn => exact Bool.false_ne_true

/-- Nothing is handed over then. -/
theorem handed_suppressed {action : AGpsStatusValue} (stack : AGpsStatus)
    (h : m.findActive.isSome ≠ (action == .requestAgpsDataConn)) :
    m.handed stack action = [] := by
  unfold AgpsStateMachine.handed
  rw [sendRsrcRequest_suppressed stack h]
  rfl

/-- Whoever speaks for the list leaves something out. -/
theorem handed_litter (s : Subscriber) (type : AGpsType) (action : AGpsStatusValue) :
    (s.setWifiInfo (s.setIPAddresses
        { litter with type := type, status := action })).handed (some s) ≠
      (s.setWifiInfo (s.setIPAddresses
        { Env.zeros.nifRequest with type := type, status := action })).handed (some s) := by
  have hssid : text litter.ssid ≠ text Env.zeros.nifRequest.ssid := by decide
  have hipv4 : litter.ipv4Addr ≠ Env.zeros.nifRequest.ipv4Addr := by decide
  intro he
  cases s with
  | bit obj id ip => exact hssid (congrArg Handed.ssid he)
  | atl obj id mode => exact hssid (congrArg Handed.ssid he)
  | wifi obj ssid password senderId inactive => exact hipv4 (congrArg Handed.ipv4Addr he)

/-- Requests disclose what was on the stack, releases do not. -/
theorem determined_iff (m : AgpsStateMachine) (action : AGpsStatusValue) :
    Determined m action ↔ ¬ (action = .requestAgpsDataConn ∧ m.findActive.isSome = true) := by
  constructor
  · rintro hdet ⟨rfl, hsome⟩
    -- Two stacks that differ in every byte show what the client leaves out.
    rcases Option.isSome_iff_exists.mp hsome with ⟨s, hs⟩
    have he := hdet m Env.zeros.nifRequest litter rfl rfl
    rw [handed_of_some hs, handed_of_some hs, List.cons.injEq] at he
    exact handed_litter s _ _ he.1
  · intro hno m' stack stack' htype hact
    by_cases h : m.findActive.isSome = (action == .requestAgpsDataConn)
    · cases action with
      | requestAgpsDataConn => exact absurd ⟨rfl, h⟩ hno
      -- It is sent for nobody, and all its fields are written.
      | releaseAgpsDataConn =>
          have hnone : m.findActive = none := Option.not_isSome_iff_eq_none.mp (by
            rw [h]
            exact Bool.false_ne_true)
          rw [handed_of_none hnone, handed_of_none (hact.trans hnone), htype]
    · rw [handed_suppressed _ h, handed_suppressed _ (by rw [hact]; exact h)]

end Status

section Calls

variable {m : AgpsStateMachine}

/-- The call of `sendRsrcRequest` at the end of a handler, if there is one. -/
def AgpsStateMachine.sendAtEnd (m : AgpsStateMachine) (stack : AGpsStatus) :
    Option AGpsStatusValue → List Effect
  | some action => m.sendRsrcRequest stack action
  | none => []

/-- A handler hands over what it computes from the contents of the stack at its
    end, and nothing else depends on them. -/
def OverStacks (f : AGpsStatus → Handled) : Prop :=
  ∃ (st : AgpsState) (m' : AgpsStateMachine) (pre : List Effect) (sent : Option AGpsStatusValue),
    Quiet pre ∧ ∀ stack, f stack = (st, m', pre ++ m'.sendAtEnd stack sent)

theorem OverStacks.quiet {f : AGpsStatus → Handled} (st : AgpsState) (m' : AgpsStateMachine)
    {pre : List Effect} (h : Quiet pre) (hf : ∀ stack, f stack = (st, m', pre)) : OverStacks f :=
  ⟨st, m', pre, none, h, fun stack => by rw [hf, AgpsStateMachine.sendAtEnd, List.append_nil]⟩

theorem quiet_notifySubscriber (nif : Nif) (wild : Wild) (n : Notification) (s : Subscriber) :
    Quiet (notifySubscriber nif wild n s).2 := by
  intro e he
  rcases List.mem_map.mp he with ⟨msg, _, rfl⟩
  exact Or.inl ⟨s, msg, rfl⟩

theorem quiet_notifySubscribers (wild : Nat → Wild) (n : Notification) :
    Quiet (m.notifySubscribers wild n).2 := by
  intro e he
  unfold AgpsStateMachine.notifySubscribers at he
  split at he
  · rcases Sweep.mem_sweep_out _ _ _ he with ⟨k, x, hx⟩
    exact quiet_notifySubscriber _ _ _ x e hx
  · rcases Sweep.mem_search_out _ _ he with ⟨x, hx⟩
    exact quiet_notifySubscriber _ _ _ x e hx

theorem OverStacks.notify {f : AGpsStatus → Handled} (st : AgpsState) (m : AgpsStateMachine)
    (wild : Nat → Wild) (n : Notification)
    (hf : ∀ stack, f stack = (st, m.notifySubscribers wild n)) : OverStacks f :=
  OverStacks.quiet st (m.notifySubscribers wild n).1 (quiet_notifySubscribers wild n) hf

theorem quiet_withdraw (env : Env) (s : Subscriber) : Quiet (m.withdraw env s).2 := by
  unfold AgpsStateMachine.withdraw
  split
  · exact quiet_nil
  · exact quiet_notifySubscribers _ _

/-- The end of an unsubscription in the Pending and the Acquired state. -/
theorem closeIfUnused_overStacks (st : AgpsState) (wild : Nat → Wild)
    (r : AgpsStateMachine × List Effect) (hr : Quiet r.2) :
    OverStacks (fun stack => closeIfUnused st ⟨wild, stack⟩ r) := by
  by_cases hsub : r.1.hasSubscribers = true
  · by_cases hact : r.1.hasActiveSubscribers = true
    · refine ⟨st, r.1, r.2, none, hr, fun stack => ?_⟩
      simp only [closeIfUnused, hsub, hact, Bool.not_true, Bool.false_eq_true, if_false,
        AgpsStateMachine.sendAtEnd, List.append_nil]
    · refine ⟨.releasing, r.1, r.2, some .releaseAgpsDataConn, hr, fun stack => ?_⟩
      simp only [closeIfUnused, hsub, Bool.eq_false_iff.mpr hact, Bool.not_true,
        Bool.false_eq_true, if_false, Bool.not_false, if_true, AgpsStateMachine.sendAtEnd]
  · refine ⟨.released, r.1, r.2, some .releaseAgpsDataConn, hr, fun stack => ?_⟩
    simp only [closeIfUnused, Bool.eq_false_iff.mpr hsub, Bool.not_false, if_true,
      AgpsStateMachine.sendAtEnd]

/-- The end of a close. -/
theorem closed_overStacks (wild : Nat → Wild) (event : RsrcEvent) :
    OverStacks (fun stack => closed m ⟨wild, stack⟩ event) := by
  let r := m.notifySubscribers wild (.broadcast .broadcastInactive event.status true)
  have hr : Quiet r.2 := quiet_notifySubscribers _ _
  by_cases hsub : r.1.hasSubscribers = true
  · refine ⟨.pending, r.1, r.2, some .requestAgpsDataConn, hr, fun stack => ?_⟩
    simp only [closed, r, hsub, if_true, AgpsStateMachine.sendAtEnd]
  · refine ⟨.released, r.1, r.2, none, hr, fun stack => ?_⟩
    simp only [closed, r, hsub, Bool.false_eq_true, if_false, AgpsStateMachine.sendAtEnd,
      List.append_nil]

/-- Every state's handler leaves the stack to the call at its end. -/
theorem onRsrcEvent_overStacks (st : AgpsState) (wild : Nat → Wild) (event : RsrcEvent) :
    OverStacks (fun stack => st.onRsrcEvent m ⟨wild, stack⟩ event) := by
  have hnotified : ∀ s : Subscriber, ∀ n : Notification,
      Quiet ((s.notifyRsrcStatus m.toNif (wild 0) n).2.map (Effect.notify s)) :=
    fun s n => quiet_notifySubscriber _ _ n s
  cases st with
  | released =>
      cases event with
      | subscribe s =>
          exact ⟨.pending, m.addSubscriber (wild 0) s, [], some .requestAgpsDataConn, quiet_nil,
            fun _ => rfl⟩
      | unsubscribe s => exact OverStacks.quiet .released m (hnotified s _) (fun _ => rfl)
      | granted => exact OverStacks.quiet .released m quiet_nil (fun _ => rfl)
      | released => exact OverStacks.quiet .released m quiet_nil (fun _ => rfl)
      | denied => exact OverStacks.quiet .released m quiet_nil (fun _ => rfl)
  | pending =>
      cases event with
      | subscribe s =>
          exact OverStacks.quiet .pending (m.addSubscriber (wild 0) s) quiet_nil (fun _ => rfl)
      | unsubscribe s =>
          exact closeIfUnused_overStacks .pending wild (m.withdraw ⟨wild, litter⟩ s)
            (quiet_withdraw _ s)
      | granted =>
          exact OverStacks.notify .acquired m wild (.broadcast .broadcastActive .granted false)
            (fun _ => rfl)
      | released => exact OverStacks.quiet .pending m quiet_nil (fun _ => rfl)
      | denied =>
          exact OverStacks.notify .released m wild (.broadcast .broadcastAll .denied true)
            (fun _ => rfl)
  | acquired =>
      cases event with
      | subscribe s =>
          exact OverStacks.quiet .acquired (m.addSubscriber (wild 0) s)
            (hnotified s (.directed s .granted false)) (fun _ => rfl)
      | unsubscribe s =>
          exact closeIfUnused_overStacks .acquired wild (m.withdraw ⟨wild, litter⟩ s)
            (quiet_withdraw _ s)
      | granted => exact OverStacks.quiet .acquired m quiet_nil (fun _ => rfl)
      | released =>
          exact OverStacks.notify .released m wild (.broadcast .broadcastAll .released true)
            (fun _ => rfl)
      | denied => exact OverStacks.quiet .acquired m quiet_nil (fun _ => rfl)
  | releasing =>
      cases event with
      | subscribe s =>
          exact OverStacks.quiet .releasing (m.addSubscriber (wild 0) s) quiet_nil (fun _ => rfl)
      | unsubscribe s =>
          -- The release has been sent already.
          exact OverStacks.quiet
            (if !(m.withdraw ⟨wild, litter⟩ s).1.hasSubscribers then .released else .releasing)
            (m.withdraw ⟨wild, litter⟩ s).1 (quiet_withdraw (m := m) ⟨wild, litter⟩ s)
            (fun _ => rfl)
      | granted => exact OverStacks.quiet .releasing m quiet_nil (fun _ => rfl)
      | released => exact closed_overStacks wild .released
      | denied => exact closed_overStacks wild .denied

/-- The same of a call: at its end the machine it leaves behind hands over what
    was on the stack, or nothing is handed over. -/
theorem handle_overStacks (m : AgpsStateMachine) (wild : Nat → Wild) (event : RsrcEvent) :
    ∃ (m' : AgpsStateMachine) (pre : List Effect) (sent : Option AGpsStatusValue), Quiet pre ∧
      ∀ stack, m.handle ⟨wild, stack⟩ event = (m', pre ++ m'.sendAtEnd stack sent) := by
  rcases onRsrcEvent_overStacks (m := m) m.mStatePtr wild event with ⟨st, m', pre, sent, hpre, hf⟩
  refine ⟨{ m' with mStatePtr := st }, pre, sent, hpre, fun stack => ?_⟩
  simp only [AgpsStateMachine.handle, hf stack]
  cases sent with
  | none => rfl
  | some action => rfl

/-- The stack decides nothing but what is handed over. -/
theorem perform_overStacks (m : AgpsStateMachine) (wild : Nat → Wild) (op : Op) :
    ∃ (m' : AgpsStateMachine) (pre : List Effect) (sent : Option AGpsStatusValue), Quiet pre ∧
      ∀ stack, m.perform ⟨wild, stack⟩ op = (m', pre ++ m'.sendAtEnd stack sent) := by
  cases op with
  | subscribeRsrc s =>
      by_cases hone : (m.mEnforceSingleSubscriber && m.hasSubscribers) = true
      · -- A second client of a machine for one is turned away, and nothing is sent.
        refine ⟨m, _, none, quiet_notifySubscriber m.toNif (wild 0)
          (.broadcast .broadcastAll .denied true) s, fun stack => ?_⟩
        simp only [AgpsStateMachine.perform, AgpsStateMachine.subscribeRsrc, hone, if_true]
        rw [AgpsStateMachine.sendAtEnd, List.append_nil]
      · rcases handle_overStacks m wild (.subscribe s) with ⟨m', pre, sent, hpre, hf⟩
        refine ⟨m', pre, sent, hpre, fun stack => ?_⟩
        simp only [AgpsStateMachine.perform, AgpsStateMachine.subscribeRsrc, hone, hf stack]
        rfl
  | unsubscribeRsrc s =>
      cases hfind : m.find (wild 0) (.ofSubscriber s) with
      | none =>
          refine ⟨m, [], none, quiet_nil, fun stack => ?_⟩
          simp only [AgpsStateMachine.perform, AgpsStateMachine.unsubscribeRsrc, hfind]
          rfl
      | some x =>
          rcases handle_overStacks m wild (.unsubscribe x) with ⟨m', pre, sent, hpre, hf⟩
          refine ⟨m', pre, sent, hpre, fun stack => ?_⟩
          simp only [AgpsStateMachine.perform, AgpsStateMachine.unsubscribeRsrc, hfind, hf stack]
  | onRsrcEvent event =>
      cases event with
      | granted => exact handle_overStacks m wild .granted
      | released => exact handle_overStacks m wild .released
      | denied => exact handle_overStacks m wild .denied
      | subscribe => exact ⟨m, [], none, quiet_nil, fun _ => rfl⟩
      | unsubscribe => exact ⟨m, [], none, quiet_nil, fun _ => rfl⟩
      | statusMax => exact ⟨m, [], none, quiet_nil, fun _ => rfl⟩

/-- Which calls send a request, as far as the connection is concerned. -/
theorem asks_of_control {active : Bool} {st st' : AgpsState} {op : Op}
    {reqs : List AGpsStatusValue} (h : Control active st op st' reqs) :
    .requestAgpsDataConn ∈ reqs ↔ asks active st op = true := by
  have hno : ∀ {rs : List AGpsStatusValue} {b : Bool}, .requestAgpsDataConn ∉ rs → b = false →
      (.requestAgpsDataConn ∈ rs ↔ b = true) := by
    intro rs b hrs hb
    rw [hb]
    exact ⟨fun hmem => absurd hmem hrs, fun hf => Bool.noConfusion hf⟩
  have hnil : AGpsStatusValue.requestAgpsDataConn ∉ [] := List.not_mem_nil
  have hyes : AGpsStatusValue.requestAgpsDataConn ∈ [AGpsStatusValue.requestAgpsDataConn] :=
    List.mem_singleton.mpr rfl
  cases h with
  | «open» => exact ⟨fun _ => rfl, fun _ => hyes⟩
  | join hst =>
      refine hno hnil ?_
      cases st with
      | released => exact absurd rfl hst
      | pending => rfl
      | acquired => rfl
      | releasing => rfl
  | remain => exact hno hnil (by cases st <;> rfl)
  | release hst _ =>
      refine hno (by decide) ?_
      rcases hst with rfl | rfl
      · rfl
      · rfl
  | desert => exact hno hnil rfl
  | granted => exact hno hnil rfl
  | denied => exact hno hnil rfl
  | forced => exact hno hnil rfl
  | closed hev hact =>
      refine hno hnil ?_
      rcases hev with rfl | rfl
      · exact hact
      · exact hact
  | reopened hev hact =>
      refine ⟨fun _ => ?_, fun _ => hyes⟩
      rcases hev with rfl | rfl
      · exact hact
      · exact hact
  | @ignored st ev hign =>
      refine hno hnil ?_
      cases st with
      | released => cases ev <;> rfl
      | pending => cases ev <;> rfl
      | acquired => cases ev <;> rfl
      | releasing =>
          cases ev with
          | released => exact Bool.noConfusion hign
          | denied => exact Bool.noConfusion hign
          | granted => rfl
          | subscribe => rfl
          | unsubscribe => rfl
          | statusMax => rfl

/-- Which calls send a request. -/
theorem asks_iff (h : Sound m) (env : Env) (op : Op) :
    .requestAgpsDataConn ∈ requestsOf (m.perform env op).2 ↔
      asks m.hasActiveSubscribers m.mStatePtr op = true :=
  asks_of_control (control_perform h env op)

/-- The call at the end sends a request if it is one and the guard lets it pass. -/
theorem request_mem_sendAtEnd (m : AgpsStateMachine) (stack : AGpsStatus)
    (sent : Option AGpsStatusValue) :
    .requestAgpsDataConn ∈ requestsOf (m.sendAtEnd stack sent) ↔
      sent = some .requestAgpsDataConn ∧ m.findActive.isSome = true := by
  cases sent with
  | none => exact ⟨fun hmem => absurd hmem List.not_mem_nil, fun hreq => nomatch hreq.1⟩
  | some action =>
      by_cases hact : m.hasActiveSubscribers = (action == .requestAgpsDataConn)
      · simp only [AgpsStateMachine.sendAtEnd, m.sendRsrcRequest_of_guard hact,
          requestsOf_servicer, List.mem_singleton, Option.some.injEq]
        refine ⟨fun ha => ⟨ha.symm, ?_⟩, fun ha => ha.1.symm⟩
        rw [← ha] at hact
        exact hact
      · simp only [AgpsStateMachine.sendAtEnd, sendRsrcRequest_suppressed stack hact,
          Option.some.injEq]
        refine ⟨fun hmem => absurd hmem List.not_mem_nil, fun ha => absurd ?_ hact⟩
        rw [ha.1]
        exact ha.2

end Calls

section Runs

variable {m : AgpsStateMachine} {call call' : MachineCall}

theorem machineStep_eq (m : AgpsStateMachine) (call : MachineCall) :
    machineStep m call = some (outcome m call).1 := by
  cases call with
  | interface env op => rfl
  | dropAllSubscribers => rfl
  | setAPN apn len => rfl
  | setBearer bearer => rfl

/-- What a call hands over, given the contents of the stack. -/
theorem handedBy_interface {m' : AgpsStateMachine} {wild : Nat → Wild} {op : Op}
    {pre : List Effect} {sent : Option AGpsStatusValue} (hpre : Quiet pre)
    (hf : ∀ stack, m.perform ⟨wild, stack⟩ op = (m', pre ++ m'.sendAtEnd stack sent))
    (stack : AGpsStatus) :
    handedBy m (.interface ⟨wild, stack⟩ op) =
      handedOf m'.findActive (m'.sendAtEnd stack sent) := by
  simp only [handedBy, outcome, hf stack, handedOf_append, handedOf_of_quiet hpre,
    List.nil_append]

/-- The machine goes on alike. -/
theorem outcome_alike (h : AlikeCall call call') : (outcome m call').1 = (outcome m call).1 := by
  cases h with
  | refl _ => rfl
  | interface wild stack stack' op =>
      rcases perform_overStacks m wild op with ⟨m', pre, sent, _, hf⟩
      simp only [outcome, hf stack, hf stack']

/-- A call that sends no request hands over the same. -/
theorem handedBy_of_noRequest (hs : Sound m) (hno : NoRequest m call) (h : AlikeCall call call') :
    handedBy m call' = handedBy m call := by
  cases h with
  | refl _ => rfl
  | interface wild stack stack' op =>
      rcases perform_overStacks m wild op with ⟨m', pre, sent, hpre, hf⟩
      rw [handedBy_interface hpre hf, handedBy_interface hpre hf]
      have hreq : .requestAgpsDataConn ∉ requestsOf (m'.sendAtEnd stack sent) := by
        intro hmem
        refine Bool.eq_false_iff.mp hno ((asks_iff hs ⟨wild, stack⟩ op).mp ?_)
        rw [hf stack, requestsOf_append, requestsOf_of_quiet hpre]
        exact hmem
      rw [request_mem_sendAtEnd] at hreq
      cases sent with
      | none => rfl
      | some action =>
          exact (determined_iff m' action).mpr (fun ⟨ha, hact⟩ => hreq ⟨congrArg some ha, hact⟩)
            m' stack stack' rfl rfl

/-- A call that sends one does not. -/
theorem handedBy_of_request (hs : Sound m) (hreq : ¬ NoRequest m call) :
    ∃ call₁ call₂, AlikeCall call call₁ ∧ AlikeCall call call₂ ∧
      handedBy m call₁ ≠ handedBy m call₂ := by
  cases call with
  | dropAllSubscribers => exact absurd trivial hreq
  | setAPN apn len => exact absurd trivial hreq
  | setBearer bearer => exact absurd trivial hreq
  | interface env op =>
      rcases perform_overStacks m env.wild op with ⟨m', pre, sent, hpre, hf⟩
      refine ⟨.interface ⟨env.wild, litter⟩ op, .interface ⟨env.wild, Env.zeros.nifRequest⟩ op,
        AlikeCall.interface env.wild _ _ op, AlikeCall.interface env.wild _ _ op, ?_⟩
      -- The request is the call at the end, so it carries whatever is on the stack.
      have hmem := (asks_iff hs env op).mpr (Bool.not_eq_false _ |>.mp hreq)
      rw [hf env.nifRequest, requestsOf_append, requestsOf_of_quiet hpre, List.nil_append,
        request_mem_sendAtEnd] at hmem
      rcases hmem with ⟨rfl, hact⟩
      rcases Option.isSome_iff_exists.mp hact with ⟨s, hsome⟩
      rw [handedBy_interface hpre hf, handedBy_interface hpre hf]
      intro he
      have hhanded : m'.handed litter .requestAgpsDataConn =
          m'.handed Env.zeros.nifRequest .requestAgpsDataConn := he
      rw [handed_of_some hsome, handed_of_some hsome, List.cons.injEq] at hhanded
      exact handed_litter s _ _ hhanded.1

theorem sound_outcome (hs : Sound m) (call : MachineCall) : Sound (outcome m call).1 := by
  cases call with
  | interface env op => exact sound_of_transition hs (perform_transition hs env op)
  | dropAllSubscribers => exact sound_drop
  | setAPN apn len => exact ⟨hs.nodup, hs.fresh, hs.released⟩
  | setBearer bearer => exact ⟨hs.nodup, hs.fresh, hs.released⟩

theorem alikeCall_refl (calls : List MachineCall) : List.Forall₂ AlikeCall calls calls :=
  List.forall₂_same.mpr (fun call _ => AlikeCall.refl call)

/-- The runs from a sound machine that disclose nothing. -/
theorem opaque_iff_of_sound (calls : List MachineCall) : ∀ m : AgpsStateMachine, Sound m →
    (Opaque m calls ↔ Run.Guarded machineStep NoRequest m calls) := by
  induction calls with
  | nil =>
      intro m _
      refine ⟨fun _ => trivial, fun _ calls' h => ?_⟩
      rw [List.forall₂_nil_left_iff.mp h]
  | cons call calls ih =>
      intro m hs
      have hrest := ih (outcome m call).1 (sound_outcome hs call)
      constructor
      · intro hop t ht
        rw [machineStep_eq, Option.some.injEq] at ht
        subst ht
        refine ⟨?_, hrest.mp (fun calls' h => ?_)⟩
        · -- The call is replaced and the rest of the run is kept.
          by_contra hreq
          rcases handedBy_of_request hs hreq with ⟨call₁, call₂, h₁, h₂, hne⟩
          have he := (hop _ (List.Forall₂.cons h₁ (alikeCall_refl calls))).trans
            (hop _ (List.Forall₂.cons h₂ (alikeCall_refl calls))).symm
          simp only [handedOver, outcome_alike h₁, outcome_alike h₂] at he
          exact hne (List.append_cancel_right he)
        · exact List.append_cancel_left (hop _ (List.Forall₂.cons (AlikeCall.refl call) h))
      · intro hg calls' h
        rcases hg _ (machineStep_eq m call) with ⟨hno, hgrest⟩
        rcases List.forall₂_cons_left_iff.mp h with ⟨call', calls'', hcall, hcalls, rfl⟩
        simp only [handedOver, outcome_alike hcall, handedBy_of_noRequest hs hno hcall]
        rw [hrest.mpr hgrest calls'' hcalls]

/-- What a run hands over depends on nothing that happened to be on the stack
    if and only if none of its calls sends a request. In every state on the way
    it is the requests, and they alone, that disclose it. -/
theorem opaque_iff (type : AGpsType) (one : Bool) (bearer : Int) (calls : List MachineCall) :
    (Opaque (.init type one bearer) calls ↔
        Run.Guarded machineStep NoRequest (.init type one bearer) calls) ∧
      ∀ m, Run.exec machineStep (.init type one bearer) calls = some m → ∀ action,
        Determined m action ↔
          ¬ (action = .requestAgpsDataConn ∧ m.hasActiveSubscribers = true) :=
  ⟨opaque_iff_of_sound calls _ (sound_init type one bearer), fun m _ action =>
    determined_iff m action⟩

/-- The first client of a machine, an ATL connection. -/
def firstClient : List MachineCall := [.interface .zeros (.subscribeRsrc (.atl 0 1 false))]

/-- The network name it asks for is whatever was on the stack. -/
theorem firstClient_discloses : ¬ Opaque (.init AGPS_TYPE_SUPL false 0) firstClient := by
  intro hop
  have he := hop [.interface ⟨Env.zeros.wild, litter⟩ (.subscribeRsrc (.atl 0 1 false))]
    (List.Forall₂.cons (AlikeCall.interface _ _ _ _) List.Forall₂.nil)
  exact absurd he (by decide)

end Runs

end Agps

end Taoshan
