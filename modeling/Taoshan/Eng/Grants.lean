import Taoshan.Eng.Conversations

/-!
# What a Grant Stands For

A client that is granted a connection believes that there is one, and an ATL
connection also believes what the grant says about it: the access point, the
bearer, the kind of network. None of this comes from the state machine. The
framework reports that it has opened a connection, with an access point and a
bearer, and later that it has closed it, and the machine keeps what it was told
for clients that come after the report.

So a grant is a report passed on, possibly much later. `lastReport` is what the
framework has said of a machine's connection: what it opened last, and nothing
if it closed that. Failures are not reports of a connection and are left out. A
machine in the Acquired state holds the last report, and only there or on a new
report does it grant anything. Hence nobody is ever granted a connection that
was not reported, or one that was reported closed since, and what a grant says is
what the last report said (`grants_reported`).

## Main definitions

* `isGrant`: The messages that grant.
* `Report`, `reported`, `lastReport`: What the framework has said.
* `PassesOn`: A grant that says what a report did.
* `AskedFor`: An ATL connection with the kind that was requested for it.
* `Honest`: The machine holds the last report, and whoever it lists has asked.

## Theorems

* `grant_of_transition`: When a call grants anything.
* `acquired_of_transition`: When it leaves the machine in the Acquired state.
* `grants_reported`: Every grant of a run is a report passed on.
-/

namespace Taoshan

namespace Eng

open Agps

/-- A client is told that it has a connection. -/
def isGrant : ClientMsg → Bool
  | .dataConn _ status => status == .requestSuccess
  | .atlOpenStatus _ isSucc _ _ _ => isSucc
  | .atlCloseStatus _ _ => false

/-- What the framework says about a connection that it has opened. -/
structure Report where
  apn : List UInt8
  bearer : Int
  deriving DecidableEq

/-- What is known of a machine's connection after one more message. -/
def reported (k : NifId) (known : Option Report) : Msg → Option Report
  | .atlOpenSuccess agpsType apn length bearerType =>
      if statusNif agpsType = k then some ⟨apn.take length, bearerType⟩ else known
  | .atlClosed agpsType => if statusNif agpsType = k then none else known
  | _ => known

/-- What the framework has said in all. -/
def lastReport (k : NifId) (msgs : List (MsgEnv × Msg)) : Option Report :=
  msgs.foldl (fun known msg => reported k known msg.2) none

theorem lastReport_concat (k : NifId) (msgs : List (MsgEnv × Msg)) (msg : MsgEnv × Msg) :
    lastReport k (msgs ++ [msg]) = reported k (lastReport k msgs) msg.2 := by
  unfold lastReport
  rw [List.foldl_append]
  rfl

/-- The kind of network of a machine. -/
def typeOf : NifId → AGpsType
  | .agnss => AGPS_TYPE_SUPL
  | .internet => AGPS_TYPE_WWAN_ANY
  | .wifi => AGPS_TYPE_WIFI

/-- A grant to `x` that says what was reported. An ATL connection that leaves the
    kind of network open is told none. The daemon's clients are told that there is
    a connection and no more. -/
def PassesOn (k : NifId) (r : Report) (x : Subscriber) : ClientMsg → Prop
  | .atlOpenStatus handle _ apn bearer agpsType =>
      handle = x.ID ∧ apn = some r.apn ∧ bearer = r.bearer ∧
        agpsType = if compatible x then AGPS_TYPE_INVALID else typeOf k
  | _ => True

/-- If the client is an ATL connection, it was requested, and the kind of network
    is left open if that request did so. -/
def AskedFor (msgs : List (MsgEnv × Msg)) (x : Subscriber) : Prop :=
  x.isAtl = true → ∃ env type, (env, .requestAtl x.ID type) ∈ msgs ∧
    (compatible x = true ↔ type = AGPS_TYPE_INVALID)

/-- A machine that has a connection holds what was said about it, and whoever it
    lists has asked. -/
structure Honest (k : NifId) (msgs : List (MsgEnv × Msg)) (known : Option Report)
    (m : AgpsStateMachine) : Prop where
  type : m.mType = typeOf k
  acquired : m.mStatePtr = .acquired →
    ∃ r, known = some r ∧ m.mAPN = some r.apn ∧ m.mBearer = r.bearer
  asked : ∀ x ∈ m.mSubscribers, AskedFor msgs x

theorem AskedFor.of_sameClient {msgs : List (MsgEnv × Msg)} {x y : Subscriber}
    (h : AskedFor msgs y) (hsame : SameClient x y) : AskedFor msgs x := by
  unfold AskedFor at h ⊢
  rw [hsame.ID, hsame.isAtl, hsame.compatible]
  exact h

theorem AskedFor.mono {msgs msgs' : List (MsgEnv × Msg)} {x : Subscriber} (h : AskedFor msgs x)
    (hsub : msgs ⊆ msgs') : AskedFor msgs' x := by
  intro hx
  rcases h hx with ⟨env, type, hmem, htype⟩
  exact ⟨env, type, hsub hmem, htype⟩

/-- Others than ATL connections are not asked for in this way. -/
theorem askedFor_of_not_isAtl (msgs : List (MsgEnv × Msg)) {x : Subscriber} (h : x.isAtl = false) :
    AskedFor msgs x := fun hx => absurd (h.symm.trans hx) Bool.false_ne_true

theorem askedFor_atlSubscriber {msgs : List (MsgEnv × Msg)} {env : MsgEnv} {handle : BitVec 32}
    {type : AGpsType} (h : (env, .requestAtl handle type) ∈ msgs) :
    AskedFor msgs (atlSubscriber handle (AGPS_TYPE_INVALID == type)) := by
  have hmode : (AGPS_TYPE_INVALID == type) = true ↔ type = AGPS_TYPE_INVALID :=
    beq_iff_eq.trans eq_comm
  exact fun _ => ⟨env, type, h, hmode⟩

section Calls

variable {m m' : AgpsStateMachine} {env : Env} {op : Op} {out : List Effect} {x : Subscriber}
  {msg : ClientMsg} {k : NifId} {known : Option Report} {msgs : List (MsgEnv × Msg)}

/-- Only one status grants. -/
theorem granted_of_isGrant {nif : Nif} {status : AgpsRsrcStatus} (hmsg : msg ∈ x.msgs nif status)
    (hg : isGrant msg = true) : status = .granted := by
  unfold Subscriber.msgs at hmsg
  cases status with
  | granted => rfl
  | subscribe => cases x <;> exact absurd hmsg List.not_mem_nil
  | statusMax => cases x <;> exact absurd hmsg List.not_mem_nil
  | unsubscribe =>
      cases x with
      | bit _ _ _ => rw [List.mem_singleton.mp hmsg] at hg; exact Bool.noConfusion hg
      | atl _ _ _ => rw [List.mem_singleton.mp hmsg] at hg; exact Bool.noConfusion hg
      | wifi _ _ _ _ _ => exact absurd hmsg List.not_mem_nil
  | released =>
      cases x <;> (rw [List.mem_singleton.mp hmsg] at hg; exact Bool.noConfusion hg)
  | denied =>
      cases x <;> (rw [List.mem_singleton.mp hmsg] at hg; exact Bool.noConfusion hg)

/-- A grant says what the machine holds. -/
theorem passesOn_of_msgs {nif : Nif} {r : Report} (hmsg : msg ∈ x.msgs nif .granted)
    (htype : nif.mType = typeOf k) (hapn : nif.mAPN = some r.apn)
    (hbearer : nif.mBearer = r.bearer) : PassesOn k r x msg := by
  cases x with
  | bit obj id ip =>
      rw [List.mem_singleton.mp hmsg]
      exact trivial
  | wifi obj ssid password senderId inactive =>
      rw [List.mem_singleton.mp hmsg]
      exact trivial
  | atl obj id mode =>
      rw [List.mem_singleton.mp hmsg]
      refine ⟨rfl, hapn, hbearer, ?_⟩
      unfold Subscriber.atlType
      rw [htype]
      rfl

/-- A call grants something because the connection is there just now, or in the
    Acquired state, but not when the connection is closed. -/
theorem grant_of_transition (ht : Transition m env op m' out) (hin : .notify x msg ∈ out)
    (hg : isGrant msg = true) :
    op = .onRsrcEvent .granted ∨ m.mStatePtr = .acquired ∧ op ≠ .onRsrcEvent .released := by
  have htold : ∀ {status : AgpsRsrcStatus} {s : Subscriber}, status ≠ .granted →
      .notify x msg ∉ told m.toNif status s := by
    intro status s hne hmem
    rcases List.mem_map.mp hmem with ⟨a, ha, he⟩
    rw [Effect.notify.injEq] at he
    rw [he.2] at ha
    exact hne (granted_of_isGrant ha hg)
  have hall : ∀ {status : AgpsRsrcStatus} {l : List Subscriber}, status ≠ .granted →
      .notify x msg ∉ l.flatMap (told m.toNif status) := by
    intro status l hne hmem
    rcases List.mem_flatMap.mp hmem with ⟨s, _, hmem⟩
    exact htold hne hmem
  have hquiet : ∀ {st : AgpsState} {n : AgpsStateMachine} {req : List Effect},
      Settled env n st req → .notify x msg ∉ req := by
    intro st n req hset hmem
    cases hset with
    | empty _ _ => exact Effect.noConfusion (List.mem_singleton.mp hmem)
    | emptyReleasing _ _ => exact absurd hmem List.not_mem_nil
    | inactive _ _ _ => exact Effect.noConfusion (List.mem_singleton.mp hmem)
    | stay _ _ => exact absurd hmem List.not_mem_nil
  have hwelcome : ∀ {s : Subscriber}, .notify x msg ∈ m.welcome s → m.mStatePtr = .acquired := by
    intro s hmem
    unfold AgpsStateMachine.welcome at hmem
    by_contra hst
    rw [if_neg hst] at hmem
    exact absurd hmem List.not_mem_nil
  -- The release and the denial of a close share their outcomes.
  have hclosed : ∀ {ev : AgpsRsrcStatus}, ev = .released ∨ ev = .denied → ev ≠ .granted := by
    intro ev hev
    rcases hev with rfl | rfl
    · decide
    · decide
  cases ht with
  | refuse _ _ => exact absurd hin (htold (by decide))
  | request _ _ => exact Effect.noConfusion (List.mem_singleton.mp hin)
  | join _ _ _ => exact Or.inr ⟨hwelcome hin, Op.noConfusion⟩
  | enlist _ _ _ => exact Or.inr ⟨hwelcome hin, Op.noConfusion⟩
  | unknown _ => exact absurd hin List.not_mem_nil
  | mute _ _ _ hset => exact absurd hin (hquiet hset)
  | leave _ _ _ hout _ hset =>
      rcases List.mem_append.mp hin with hin | hin
      · exact absurd (hout.mem_iff.mp hin) (hall (by decide))
      · exact absurd hin (hquiet hset)
  | grant _ => exact Or.inl rfl
  | deny _ => exact absurd hin (hall (by decide))
  | force _ => exact absurd hin (hall (by decide))
  | close _ hev _ => exact absurd hin (hall (hclosed hev))
  | reopen _ hev _ _ =>
      rcases List.mem_append.mp hin with hin | hin
      · exact absurd hin (hall (hclosed hev))
      · exact Effect.noConfusion (List.mem_singleton.mp hin)
  | ignore _ => exact absurd hin List.not_mem_nil

/-- No call changes what the machine holds. -/
theorem toNif_of_transition (ht : Transition m env op m' out) : m'.toNif = m.toNif := by
  cases ht <;> rfl

theorem settled_acquired {n : AgpsStateMachine} {st : AgpsState} {req : List Effect}
    (hset : Settled env n st req) (hst : st = .acquired) : n.mStatePtr = .acquired := by
  cases hset with
  | empty _ _ => exact AgpsState.noConfusion hst
  | emptyReleasing _ _ => exact AgpsState.noConfusion hst
  | inactive _ _ _ => exact AgpsState.noConfusion hst
  | stay _ _ => exact hst

/-- The Acquired state is entered on a report, and no close of the connection
    leaves the machine in it. -/
theorem acquired_of_transition (ht : Transition m env op m' out) (hst : m'.mStatePtr = .acquired) :
    op = .onRsrcEvent .granted ∨ m.mStatePtr = .acquired ∧ op ≠ .onRsrcEvent .released := by
  cases ht with
  | refuse _ _ => exact Or.inr ⟨hst, Op.noConfusion⟩
  | request _ _ => exact AgpsState.noConfusion hst
  | join _ _ _ => exact Or.inr ⟨hst, Op.noConfusion⟩
  | enlist _ _ _ => exact Or.inr ⟨hst, Op.noConfusion⟩
  | unknown _ => exact Or.inr ⟨hst, Op.noConfusion⟩
  | mute _ _ _ hset =>
      have hbefore := settled_acquired hset hst
      exact Or.inr ⟨hbefore, Op.noConfusion⟩
  | leave _ _ _ _ _ hset =>
      have hbefore := settled_acquired hset hst
      exact Or.inr ⟨hbefore, Op.noConfusion⟩
  | grant _ => exact Or.inl rfl
  | deny _ => exact AgpsState.noConfusion hst
  | force _ => exact AgpsState.noConfusion hst
  | close _ _ _ => exact AgpsState.noConfusion hst
  | reopen _ _ _ _ => exact AgpsState.noConfusion hst
  | ignore hign =>
      refine Or.inr ⟨hst, fun hop => ?_⟩
      -- The Acquired state does not ignore a close.
      rw [Op.onRsrcEvent.injEq] at hop
      rw [hop, hst] at hign
      exact Bool.noConfusion hign

/-- What a call must be for the machine to stay honest: if it says that there is
    a connection, the machine has been told about it, and if it is for a client,
    that client has asked. -/
structure Told (msgs : List (MsgEnv × Msg)) (known : Option Report) (m : AgpsStateMachine)
    (op : Op) : Prop where
  granted : op = .onRsrcEvent .granted →
    ∃ r, known = some r ∧ m.mAPN = some r.apn ∧ m.mBearer = r.bearer
  asked : ∀ s, op = .subscribeRsrc s → AskedFor msgs s

/-- The report a call acts on: a close says that there is none. -/
def afterCall (known : Option Report) (op : Op) : Option Report :=
  if op = .onRsrcEvent .released then none else known

/-- An honest machine stays honest. -/
theorem honest_of_transition (h : Honest k msgs known m) (ht : Transition m env op m' out)
    (hop : Told msgs known m op) : Honest k msgs (afterCall known op) m' := by
  have hnif := toNif_of_transition ht
  refine ⟨(congrArg Nif.mType hnif).trans h.type, fun hst => ?_, fun x hx => ?_⟩
  · rw [congrArg Nif.mAPN hnif, congrArg Nif.mBearer hnif]
    rcases acquired_of_transition ht hst with hgranted | ⟨hacq, hne⟩
    · rw [afterCall, if_neg (by rw [hgranted]; decide)]
      exact hop.granted hgranted
    · rw [afterCall, if_neg hne]
      exact h.acquired hacq
  · rcases listed_of_transition ht hx with ⟨y, hy | hy, hsame⟩
    · exact (h.asked y hy).of_sameClient hsame
    · exact (hop.asked y hy).of_sameClient hsame

/-- And grants what was reported, to somebody who has asked. -/
theorem grant_passesOn (h : Honest k msgs known m) (ht : Transition m env op m' out)
    (hop : Told msgs known m op) (hin : .notify x msg ∈ out) (hg : isGrant msg = true) :
    ∃ r, afterCall known op = some r ∧ PassesOn k r x msg ∧ AskedFor msgs x := by
  have hheld : ∃ r, afterCall known op = some r ∧ m.mAPN = some r.apn ∧ m.mBearer = r.bearer := by
    rcases grant_of_transition ht hin hg with hgranted | ⟨hacq, hne⟩
    · rw [afterCall, if_neg (by rw [hgranted]; decide)]
      exact hop.granted hgranted
    · rw [afterCall, if_neg hne]
      exact h.acquired hacq
  rcases hheld with ⟨r, hr, hapn, hbearer⟩
  rcases notify_of_transition ht hin with ⟨hclient, status, hmsg⟩
  rw [granted_of_isGrant hmsg hg] at hmsg
  refine ⟨r, hr, passesOn_of_msgs hmsg h.type hapn hbearer, ?_⟩
  rcases hclient with hx | hx
  · exact h.asked x hx
  · exact hop.asked x hx

end Calls

section Messages

variable {d : LocEngData} {k : NifId} {known : Option Report} {msgs : List (MsgEnv × Msg)}

/-- What one message does: the machine is honest about what is known then, and
    what it grants is that. -/
def GrantStep (k : NifId) (msgs : List (MsgEnv × Msg)) (known : Option Report)
    (r : LocEngData × List (NifId × Entry)) : Prop :=
  Honest k msgs known (r.1.nif k) ∧
    ∀ x msg, (k, .effect (.notify x msg)) ∈ r.2 → isGrant msg = true →
      ∃ report, known = some report ∧ PassesOn k report x msg ∧ AskedFor msgs x

/-- The flush of a machine tells nobody anything. -/
theorem notify_not_mem_drop (d : LocEngData) {l : NifId} {x : Subscriber} {msg : ClientMsg} :
    (k, .effect (.notify x msg)) ∉ (d.drop l).2 := by
  intro hin
  rcases List.mem_map.mp hin with ⟨e, he, heq⟩
  rcases List.mem_map.mp he with ⟨f, hf, rfl⟩
  rcases List.mem_map.mp hf with ⟨s, _, rfl⟩
  rw [Prod.mk.injEq, Entry.effect.injEq] at heq
  exact Effect.noConfusion heq.2

theorem grantStep_nil (h : Honest k msgs known (d.nif k)) : GrantStep k msgs known (d, []) :=
  ⟨h, fun _ _ hin => absurd hin List.not_mem_nil⟩

/-- A call, on that machine or on another. -/
theorem grantStep_call (hd : SenderInv d) (h : Honest k msgs known (d.nif k)) (l : NifId)
    (env : Env) (op : Op) (hop : l = k → Told msgs known (d.nif k) op) :
    GrantStep k msgs (if l = k then afterCall known op else known) (d.call l env op) := by
  by_cases hl : l = k
  · subst hl
    have ht := perform_transition (hd.sound l) env op
    rw [if_pos rfl, GrantStep, call_nif_self]
    exact ⟨honest_of_transition h ht (hop rfl), fun x msg hin hg =>
      grant_passesOn h ht (hop rfl) (notify_mem_call d hin).2 hg⟩
  · rw [if_neg hl, GrantStep, call_nif_ne _ _ _ (Ne.symm hl)]
    exact ⟨h, fun x msg hin => absurd (notify_mem_call d hin).1.symm hl⟩

/-- A call that says nothing about the connection. -/
theorem grantStep_plain (hd : SenderInv d) (h : Honest k msgs known (d.nif k)) (l : NifId)
    (env : Env) {op : Op} (hgranted : op ≠ .onRsrcEvent .granted)
    (hreleased : op ≠ .onRsrcEvent .released)
    (hasked : ∀ s, op = .subscribeRsrc s → AskedFor msgs s) :
    GrantStep k msgs known (d.call l env op) := by
  have hcall := grantStep_call hd h l env op
    (fun _ => ⟨fun heq => absurd heq hgranted, hasked⟩)
  rw [afterCall, if_neg hreleased, ite_self] at hcall
  exact hcall

/-- A request of somebody who has asked. -/
theorem grantStep_subscribe (hd : SenderInv d) (h : Honest k msgs known (d.nif k)) (l : NifId)
    (env : Env) {s : Subscriber} (hs : AskedFor msgs s) :
    GrantStep k msgs known (d.call l env (.subscribeRsrc s)) :=
  grantStep_plain hd h l env Op.noConfusion Op.noConfusion
    (fun t ht => by rw [Op.subscribeRsrc.injEq] at ht; exact ht ▸ hs)

/-- A release. -/
theorem grantStep_unsubscribe (hd : SenderInv d) (h : Honest k msgs known (d.nif k)) (l : NifId)
    (env : Env) (s : Subscriber) : GrantStep k msgs known (d.call l env (.unsubscribeRsrc s)) :=
  grantStep_plain hd h l env Op.noConfusion Op.noConfusion (fun _ ht => Op.noConfusion ht)

theorem grantStep_handle (hd : SenderInv d) (h : Honest k msgs known (d.nif k)) {env : MsgEnv}
    {msg : Msg} (hmem : (env, msg) ∈ msgs) :
    GrantStep k msgs (reported k known msg) (handle d env msg) := by
  cases msg with
  | requestBit ifType ipv4Addr ipv6Addr =>
      cases hi : bitNif ifType with
      | none =>
          simp only [handle, hi]
          exact grantStep_nil h
      | some i =>
          simp only [handle, hi]
          exact grantStep_subscribe hd h i _ (askedFor_of_not_isAtl msgs rfl)
  | releaseBit ifType ipv4Addr ipv6Addr =>
      cases hi : bitNif ifType with
      | none =>
          simp only [handle, hi]
          exact grantStep_nil h
      | some i =>
          simp only [handle, hi]
          exact grantStep_unsubscribe hd h i _ _
  | requestAtl handle type =>
      exact grantStep_subscribe hd h _ _ (askedFor_atlSubscriber hmem)
  | releaseAtl hdl =>
      rcases handle_releaseAtl (t := ⟨d, []⟩) hd.shared env hdl with ⟨_, heq⟩ | ⟨_, heq⟩
      · rw [heq]
        exact grantStep_unsubscribe hd h .agnss _ _
      · rw [heq]
        exact grantStep_unsubscribe hd h .internet _ _
  | requestWifi senderId ssid password =>
      simp only [handle]
      by_cases hs : senderId = .quipc ∨ senderId = .msapm
      · rw [if_pos hs]
        exact grantStep_subscribe hd h .wifi _ (askedFor_of_not_isAtl msgs rfl)
      · rw [if_neg hs]
        exact grantStep_nil h
  | releaseWifi senderId ssid password => exact grantStep_unsubscribe hd h .wifi _ _
  | atlOpenSuccess agpsType apn length bearerType =>
      -- The machine is told before it is called.
      have htuned := senderInv_tune hd (statusNif agpsType) bearerType (some apn) length
      by_cases hk : statusNif agpsType = k
      · subst hk
        have htold : Honest (statusNif agpsType) msgs (some ⟨apn.take length, bearerType⟩)
            ((d.setNif (((d.nif (statusNif agpsType)).setBearer bearerType).setAPN (some apn)
              length) (statusNif agpsType)).nif (statusNif agpsType)) := by
          rw [nif_setNif_self]
          exact ⟨h.type, fun _ => ⟨_, rfl, rfl, rfl⟩, h.asked⟩
        have hcall := grantStep_call htuned htold (statusNif agpsType) env.first
          (.onRsrcEvent .granted)
          (fun _ => ⟨fun _ => ⟨_, rfl, by rw [nif_setNif_self]; exact ⟨rfl, rfl⟩⟩,
            fun _ hs => Op.noConfusion hs⟩)
        rw [if_pos rfl] at hcall
        rw [reported, if_pos rfl]
        exact hcall
      · have hother := h
        rw [← nif_setNif_ne d (((d.nif (statusNif agpsType)).setBearer bearerType).setAPN
          (some apn) length) (Ne.symm hk)] at hother
        have hcall := grantStep_call htuned hother (statusNif agpsType) env.first
          (.onRsrcEvent .granted) (fun heq => absurd heq hk)
        rw [if_neg hk] at hcall
        rw [reported, if_neg hk]
        exact hcall
  | atlClosed agpsType =>
      exact grantStep_call hd h (statusNif agpsType) env.first (.onRsrcEvent .released)
        (fun _ => ⟨fun heq => absurd heq (by decide), fun _ hs => Op.noConfusion hs⟩)
  | atlOpenFailed agpsType =>
      exact grantStep_plain hd h _ _ (by decide) (by decide) (fun _ hs => Op.noConfusion hs)
  | engineUp =>
      -- Whoever was listed is gone, and the connection is where it was.
      have hlog : ∀ x msg, (k, .effect (.notify x msg)) ∉ (handle d env .engineUp).2 := by
        intro x msg hin
        simp only [handle] at hin
        split at hin
        · rcases List.mem_append.mp hin with hin | hin
          · exact notify_not_mem_drop d hin
          · exact notify_not_mem_drop _ hin
        · exact absurd hin List.not_mem_nil
      refine ⟨?_, fun x msg hin => absurd hin (hlog x msg)⟩
      by_cases hcb : d.agpsStatusCb = true
      · by_cases hk : k = .wifi
        · subst hk
          rw [(engineUp_nif_wifi d env).1]
          exact h
        · rw [(engineUp_nif d env hcb hk).1]
          exact ⟨h.type, h.acquired, fun x hx => absurd hx List.not_mem_nil⟩
      · simp only [handle, if_neg hcb]
        exact h

end Messages

theorem honest_init (k : NifId) (bearer : Int) :
    Honest k [] none ((LocEngData.init bearer).nif k) := by
  cases k with
  | agnss => exact ⟨rfl, AgpsState.noConfusion, List.forall_mem_nil _⟩
  | internet => exact ⟨rfl, AgpsState.noConfusion, List.forall_mem_nil _⟩
  | wifi => exact ⟨rfl, AgpsState.noConfusion, List.forall_mem_nil _⟩

/-- What was asked for before is not forgotten. -/
theorem Honest.mono {k : NifId} {msgs msgs' : List (MsgEnv × Msg)} {known : Option Report}
    {m : AgpsStateMachine} (h : Honest k msgs known m) (hsub : msgs ⊆ msgs') :
    Honest k msgs' known m :=
  ⟨h.type, h.acquired, fun x hx => (h.asked x hx).mono hsub⟩

/-- After every run the machines hold what was reported. -/
theorem honest_run {bearer : Int} {msgs : List (MsgEnv × Msg)} {t : Thread}
    (hrun : Run.exec Thread.step (.init bearer) msgs = some t) :
    SenderInv t.data ∧ ∀ k, Honest k msgs (lastReport k msgs) (t.data.nif k) := by
  have hinit : SenderInv (Thread.init bearer).data ∧
      ∀ k, Honest k [] (lastReport k []) ((Thread.init bearer).data.nif k) :=
    ⟨senderInv_init bearer, fun k => honest_init k bearer⟩
  refine Run.exec_history (fun past t => SenderInv t.data ∧
    ∀ k, Honest k past (lastReport k past) (t.data.nif k)) ?_ hinit hrun
  intro past t msg t' hinv hs
  rw [← Option.some.inj hs]
  refine ⟨(senderStep_handle hinv.1 (Or.inl rfl) msg.1 msg.2).1, fun k => ?_⟩
  rw [lastReport_concat]
  exact (grantStep_handle hinv.1 ((hinv.2 k).mono (List.subset_append_left _ _))
    (List.mem_append_right _ List.mem_cons_self)).1

/-- Whatever the clients and the framework have done so far, a client that is
    granted a connection in the next message is granted one that the framework
    has reported opened and not reported closed since. An ATL connection is told
    the access point and the bearer of that report, and the machine's kind of
    network unless it was requested with no kind. -/
theorem grants_reported {bearer : Int} {msgs : List (MsgEnv × Msg)} {t : Thread} {env : MsgEnv}
    {msg : Msg} {k : NifId} {x : Subscriber} {answer : ClientMsg}
    (hrun : Run.exec Thread.step (.init bearer) msgs = some t)
    (hin : (k, .effect (.notify x answer)) ∈ (handle t.data env msg).2)
    (hgrant : isGrant answer = true) :
    ∃ report, lastReport k (msgs ++ [(env, msg)]) = some report ∧ PassesOn k report x answer ∧
      AskedFor (msgs ++ [(env, msg)]) x := by
  rcases honest_run hrun with ⟨hd, hall⟩
  rw [lastReport_concat]
  exact (grantStep_handle hd ((hall k).mono (List.subset_append_left _ _))
    (List.mem_append_right _ List.mem_cons_self)).2 x answer hin hgrant

/-- A connection that is opened for one handle, opened again under another name,
    and then granted to a second one that leaves the kind of network open. -/
def openedTwice : List (MsgEnv × Msg) :=
  [(.zeros, .requestAtl 7 AGPS_TYPE_SUPL), (.zeros, .atlOpenSuccess AGPS_TYPE_SUPL [97, 98] 1 2),
    (.zeros, .atlOpenSuccess AGPS_TYPE_SUPL [99, 100] 2 3)]

theorem grants_reported_openedTwice :
    ∃ report, lastReport .agnss (openedTwice ++ [(.zeros, .requestAtl 8 AGPS_TYPE_INVALID)]) =
        some report ∧
      PassesOn .agnss report (.atl 0 8 true)
        (.atlOpenStatus 8 true (some [99, 100]) 3 AGPS_TYPE_INVALID) ∧
      AskedFor (openedTwice ++ [(.zeros, .requestAtl 8 AGPS_TYPE_INVALID)]) (.atl 0 8 true) :=
  @grants_reported 0 openedTwice _ .zeros _ .agnss (.atl 0 8 true) _ rfl (by decide) rfl

example : lastReport .agnss openedTwice = some ⟨[99, 100], 3⟩ := by decide

end Eng

end Taoshan
