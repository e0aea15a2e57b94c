import Taoshan.Eng.Deferred

/-!
# ATL and BIT Clients on One Machine

The modem's ATL connections and the clients of the BIT daemon share two
machines, and the comparison of clients looks at one integer: a handle for the
first, an IPv4 address for the second. A handle that is equal to an address is
taken for it. A request is then absorbed by the other client's entry, a release
removes the other client, and a handle that is listed on the second machine is
never looked for there because the first machine has found something.

The condition on a message says that this does not happen: where it adds a
client, no client of the other kind has its `ID`, unless the client is listed
already; where it removes one, no client of the other kind has its `ID`, and a
handle is not listed on both machines, of which only the first would let it go.
With the condition the two kinds are kept apart throughout a run. Against it
they are not, in every case if a comparison that reads past an object succeeds
(`not_isolated`); whether it does is only a question for clients without an
IPv4 address.

## Main definitions

* `hasHandle`, `hasBitId`, `hasBit`: Who is listed.
* `Isolated`: What a message may do to clients of the other kind.
* `apart`: The condition on a message.
* `Shared`: The invariant of a machine that both kinds use.

## Theorems

* `subscribe_listed`, `unsubscribe_listed`: The list after a call.
* `isolated_of_apart`: The condition is enough.
* `not_isolated`: And no more than enough.
* `isolation`: Both, in every run.
-/

namespace Taoshan

namespace Eng

open Agps

/-- An ATL connection with this handle is listed. -/
def hasHandle (m : AgpsStateMachine) (handle : BitVec 32) : Bool :=
  m.mSubscribers.any fun x => x.isAtl && x.ID == handle

/-- A BIT client with this address is listed. -/
def hasBitId (m : AgpsStateMachine) (id : BitVec 32) : Bool :=
  m.mSubscribers.any fun x => x.isBit && x.ID == id

/-- This BIT client is listed; two BIT clients are always comparable. -/
def hasBit (m : AgpsStateMachine) (s : Subscriber) : Bool :=
  m.mSubscribers.any fun x => x.isBit && x.equals (fun _ _ => false) s

/-- What a message may do to clients of the other kind. A request gets its own
    entry. A release removes and notifies no client of the other kind, and that
    of a handle reaches it wherever it is listed. -/
def Isolated (t : Thread) (msg : MsgEnv × Msg) : Prop :=
  let r := handle t.data msg.1 msg.2
  match msg.2 with
  | .requestAtl h type => hasHandle (r.1.nif (atlNif type)) h = true
  | .requestBit ifType ipv4 ipv6 => ∀ i, bitNif ifType = some i →
      hasBit (r.1.nif i) (bitSubscriber msg.1.ipv6Addr ipv4 ipv6) = true
  | .releaseBit _ _ _ =>
      (∀ i, ∀ x ∈ (t.data.nif i).mSubscribers, x.isAtl = true → x ∈ (r.1.nif i).mSubscribers) ∧
      ∀ i x m, (i, Entry.effect (.notify x m)) ∈ r.2 → x.isAtl = false
  | .releaseAtl h =>
      (∀ i, ∀ x ∈ (t.data.nif i).mSubscribers, x.isBit = true → x ∈ (r.1.nif i).mSubscribers) ∧
      (∀ i x m, (i, Entry.effect (.notify x m)) ∈ r.2 → x.isBit = false) ∧
      ∀ i, i = .agnss ∨ i = .internet → hasHandle (t.data.nif i) h = true →
        hasHandle (r.1.nif i) h = false
  | _ => True

/-- The condition on a message: whoever has the same `ID` is of the same kind,
    and a handle to be released is listed on one machine. -/
def apart (t : Thread) (msg : MsgEnv × Msg) : Bool :=
  match msg.2 with
  | .requestAtl h type =>
      hasHandle (t.data.nif (atlNif type)) h || !hasBitId (t.data.nif (atlNif type)) h
  | .requestBit ifType ipv4 ipv6 => match bitNif ifType with
    | none => true
    | some i => hasBit (t.data.nif i) (bitSubscriber msg.1.ipv6Addr ipv4 ipv6) ||
        !hasHandle (t.data.nif i) ipv4
  | .releaseBit ifType ipv4 _ => match bitNif ifType with
    | none => true
    | some i => !hasHandle (t.data.nif i) ipv4
  | .releaseAtl h =>
      !hasBitId t.data.agnssNif h &&
        if hasHandle t.data.agnssNif h then !hasHandle t.data.internetNif h
        else !hasBitId t.data.internetNif h
  | _ => true

/-- A machine that both kinds use, and nobody else. -/
structure Shared (m : AgpsStateMachine) : Prop where
  sound : Sound m
  many : m.mEnforceSingleSubscriber = false
  kinds : ∀ x ∈ m.mSubscribers, x.isWifi = false

section Listed

variable {m : AgpsStateMachine} {env : Env} {s x : Subscriber} {h : BitVec 32}

theorem hasHandle_iff :
    hasHandle m h = true ↔ ∃ x ∈ m.mSubscribers, x.isAtl = true ∧ x.ID = h := by
  simp only [hasHandle, List.any_eq_true, Bool.and_eq_true, beq_iff_eq]

theorem hasBitId_iff :
    hasBitId m h = true ↔ ∃ x ∈ m.mSubscribers, x.isBit = true ∧ x.ID = h := by
  simp only [hasBitId, List.any_eq_true, Bool.and_eq_true, beq_iff_eq]

theorem hasBit_iff : hasBit m s = true ↔
    ∃ x ∈ m.mSubscribers, x.isBit = true ∧ x.equals (fun _ _ => false) s = true := by
  simp only [hasBit, List.any_eq_true, Bool.and_eq_true]

/-- Everybody who is not a WIFI client is one of the two. -/
theorem isAtl_or_isBit (hx : x.isWifi = false) : x.isAtl = true ∨ x.isBit = true := by
  cases x with
  | bit obj id ip => exact Or.inr rfl
  | atl obj id mode => exact Or.inl rfl
  | wifi obj ssid password senderId inactive => exact Bool.noConfusion hx

theorem isBit_of_isAtl (hx : x.isAtl = true) : x.isBit = false := by
  cases x with
  | bit obj id ip => exact Bool.noConfusion hx
  | atl obj id mode => rfl
  | wifi obj ssid password senderId inactive => exact Bool.noConfusion hx

/-- An ATL connection compares the `ID`. -/
theorem equals_of_isAtl {w : Wild} (hx : x.isAtl = true) (hid : x.ID = s.ID) :
    x.equals w s = true := by
  rw [Subscriber.equals_of_ne_bit (isBit_of_isAtl hx), hid, BEq.rfl]

/-- The outcome of a comparison between BIT clients does not depend on what
    lies behind an object. -/
theorem equals_bit_congr (w w' : Wild) (hs : s.isBit = true) : x.equals w s = x.equals w' s := by
  cases s with
  | atl obj id mode => exact Bool.noConfusion hs
  | wifi obj ssid password senderId inactive => exact Bool.noConfusion hs
  | bit obj id ip =>
      cases x with
      | bit obj' id' ip' => rfl
      | atl obj' id' mode' => rfl
      | wifi obj' ssid password senderId inactive => rfl

/-- If a comparison with an ATL connection reads past the object and finds a
    match there, the `ID` decides. -/
theorem equals_of_wild {w : Wild} (hw : ∀ a b, w a b = true) (hs : s.isAtl = true)
    (hid : x.ID = s.ID) : x.equals w s = true := by
  cases s with
  | bit obj id ip => exact Bool.noConfusion hs
  | wifi obj ssid password senderId inactive => exact Bool.noConfusion hs
  | atl obj id mode =>
      cases x with
      | bit obj' id' ip' =>
          simp only [Subscriber.equals, hw, Bool.or_true, Bool.and_true, beq_iff_eq]
          exact hid
      | atl obj' id' mode' => exact beq_iff_eq.mpr hid
      | wifi obj' ssid password senderId inactive => exact beq_iff_eq.mpr hid

/-- The list after a subscription: a client that matches somebody is absorbed,
    any other is put in front. -/
theorem subscribe_listed (hm : Shared m) (env : Env) (s : Subscriber) :
    (∃ x ∈ m.mSubscribers, x.equals (env.wild 0) s = true) ∧
        (m.perform env (.subscribeRsrc s)).1.mSubscribers = m.mSubscribers ∨
      (∀ x ∈ m.mSubscribers, x.equals (env.wild 0) s = false) ∧
        (m.perform env (.subscribeRsrc s)).1.mSubscribers = s.clone m.next :: m.mSubscribers := by
  have ht := perform_transition hm.sound env (.subscribeRsrc s)
  generalize (m.perform env (.subscribeRsrc s)).1 = m' at ht ⊢
  generalize (m.perform env (.subscribeRsrc s)).2 = out at ht
  cases ht with
  | refuse hone _ =>
      rw [hm.many] at hone
      exact Bool.noConfusion hone
  | request hst hl =>
      refine Or.inr ⟨fun x hx => ?_, rfl⟩
      rw [hl] at hx
      exact absurd hx List.not_mem_nil
  | join _ _ hx => exact Or.inl ⟨hx, rfl⟩
  | enlist _ _ hnew => exact Or.inr ⟨hnew, rfl⟩

/-- The list after an unsubscription: it is left alone if nobody matches, and
    otherwise loses all that equal the first match. -/
theorem unsubscribe_listed (hm : Shared m) (env : Env) (s : Subscriber) :
    ((∀ x ∈ m.mSubscribers, x.equals (env.wild 0) s = false) ∧
        m.unsubscribeRsrc env s = (false, m, [])) ∨
      ∃ y w, y ∈ m.mSubscribers ∧ y.equals (env.wild 0) s = true ∧
        (m.unsubscribeRsrc env s).1 = true ∧
        (∀ x ∈ m.mSubscribers, ∃ k, x.equals w y = x.equals (env.wild (k + 1)) y) ∧
        (m.perform env (.unsubscribeRsrc s)).1.mSubscribers =
          m.mSubscribers.filter (fun x => !x.equals w y) ∧
        ∀ x msg, .notify x msg ∈ (m.perform env (.unsubscribeRsrc s)).2 →
          x ∈ m.mSubscribers ∧ x.equals w y = true := by
  cases hf : m.mSubscribers.find? (fun x => x.equals (env.wild 0) s) with
  | none =>
      refine Or.inl ⟨fun x hx => Bool.eq_false_iff.mpr (List.find?_eq_none.mp hf x hx), ?_⟩
      unfold AgpsStateMachine.unsubscribeRsrc
      rw [AgpsStateMachine.find_ofSubscriber, hf]
  | some y =>
      have hy := List.mem_of_find?_eq_some hf
      have hfound : (m.unsubscribeRsrc env s).1 = true := by
        unfold AgpsStateMachine.unsubscribeRsrc
        rw [AgpsStateMachine.find_ofSubscriber, hf]
      have hys : y.equals (env.wild 0) s = true := by
        have hsome := List.find?_some hf
        exact hsome
      rcases (perform_transition hm.sound env (.unsubscribeRsrc s)).of_found hf (hm.kinds y hy) with
        ⟨w, st, told', req, hout, hres, hset, hm', hsent⟩
      refine Or.inr ⟨y, w, hy, hys, hfound, hres, ?_, fun x msg hin => ?_⟩
      · rw [hm']
        rfl
      · rw [hsent] at hin
        -- What is said to the service is not said to a client.
        have htold : Effect.notify x msg ∈ told' := by
          rcases List.mem_append.mp hin with hin | hin
          · exact hin
          · cases hset with
            | empty _ _ => cases List.mem_singleton.mp hin
            | emptyReleasing _ _ => exact absurd hin List.not_mem_nil
            | inactive _ _ _ => cases List.mem_singleton.mp hin
            | stay _ _ => exact absurd hin List.not_mem_nil
        rcases List.mem_flatMap.mp (hout.mem_iff.mp htold) with ⟨z, hz, hzmsg⟩
        rcases List.mem_map.mp hzmsg with ⟨msg', _, heq⟩
        rw [Effect.notify.injEq] at heq
        rw [← heq.1]
        exact List.mem_filter.mp hz

end Listed

section Machine

variable {m : AgpsStateMachine} {env : Env} {h : BitVec 32}

/-- A handle that meets no address of its own gets its own entry. -/
theorem requestAtl_listed (hm : Shared m) (mode : Bool)
    (hok : hasHandle m h = true ∨ hasBitId m h = false) :
    hasHandle (m.perform env (.subscribeRsrc (atlSubscriber h mode))).1 h = true := by
  rcases subscribe_listed hm env (atlSubscriber h mode) with ⟨⟨x, hx, heq⟩, hl⟩ | ⟨_, hl⟩
  · have hhandle : hasHandle m h = true := by
      rcases hok with hok | hok
      · exact hok
      · rcases isAtl_or_isBit (hm.kinds x hx) with hatl | hbit
        · exact hasHandle_iff.mpr ⟨x, hx, hatl, Subscriber.equals_ID heq⟩
        · have hid : hasBitId m h = true :=
            hasBitId_iff.mpr ⟨x, hx, hbit, Subscriber.equals_ID heq⟩
          rw [hok] at hid
          exact Bool.noConfusion hid
    simp only [hasHandle, hl]
    exact hhandle
  · exact hasHandle_iff.mpr ⟨_, hl ▸ List.mem_cons_self, rfl, rfl⟩

/-- One that does is absorbed. -/
theorem requestAtl_absorbed (hm : Shared m) (mode : Bool) (hw : ∀ a b, env.wild 0 a b = true)
    (hhandle : hasHandle m h = false) (hbit : hasBitId m h = true) :
    hasHandle (m.perform env (.subscribeRsrc (atlSubscriber h mode))).1 h = false := by
  rcases subscribe_listed hm env (atlSubscriber h mode) with ⟨_, hl⟩ | ⟨hnew, _⟩
  · simp only [hasHandle, hl]
    exact hhandle
  · rcases hasBitId_iff.mp hbit with ⟨x, hx, _, hid⟩
    have hne := hnew x hx
    rw [equals_of_wild hw (s := atlSubscriber h mode) rfl hid] at hne
    exact Bool.noConfusion hne

/-- An address that meets no handle gets its own entry. -/
theorem requestBit_listed (hm : Shared m) (stack : Vector UInt8 16)
    (ipv6 : Option (Vector UInt8 16))
    (hok : hasBit m (bitSubscriber stack h ipv6) = true ∨ hasHandle m h = false) :
    hasBit (m.perform env (.subscribeRsrc (bitSubscriber stack h ipv6))).1
      (bitSubscriber stack h ipv6) = true := by
  rcases subscribe_listed hm env (bitSubscriber stack h ipv6) with ⟨⟨x, hx, heq⟩, hl⟩ | ⟨_, hl⟩
  · have hlisted : hasBit m (bitSubscriber stack h ipv6) = true := by
      rcases hok with hok | hok
      · exact hok
      · rcases isAtl_or_isBit (hm.kinds x hx) with hatl | hbit
        · have hid : hasHandle m h = true :=
            hasHandle_iff.mpr ⟨x, hx, hatl, Subscriber.equals_ID heq⟩
          rw [hok] at hid
          exact Bool.noConfusion hid
        · refine hasBit_iff.mpr ⟨x, hx, hbit, ?_⟩
          rw [equals_bit_congr _ (env.wild 0) rfl]
          exact heq
    simp only [hasBit, hl]
    exact hlisted
  · refine hasBit_iff.mpr ⟨_, hl ▸ List.mem_cons_self, rfl, ?_⟩
    exact Subscriber.equals_refl (fun _ _ => false) (bitSubscriber stack h ipv6)

/-- One that does is absorbed. -/
theorem requestBit_absorbed (hm : Shared m) (stack : Vector UInt8 16)
    (ipv6 : Option (Vector UInt8 16))
    (hbit : hasBit m (bitSubscriber stack h ipv6) = false) (hhandle : hasHandle m h = true) :
    hasBit (m.perform env (.subscribeRsrc (bitSubscriber stack h ipv6))).1
      (bitSubscriber stack h ipv6) = false := by
  rcases subscribe_listed hm env (bitSubscriber stack h ipv6) with ⟨_, hl⟩ | ⟨hnew, _⟩
  · simp only [hasBit, hl]
    exact hbit
  · rcases hasHandle_iff.mp hhandle with ⟨x, hx, hatl, hid⟩
    have hne := hnew x hx
    rw [equals_of_isAtl (s := bitSubscriber stack h ipv6) hatl hid] at hne
    exact Bool.noConfusion hne

/-- A release by an `ID` reaches nobody with another. -/
theorem release_other (hm : Shared m) {s x : Subscriber} (hx : x ∈ m.mSubscribers)
    (hid : x.ID ≠ s.ID) : x ∈ (m.perform env (.unsubscribeRsrc s)).1.mSubscribers := by
  rcases unsubscribe_listed hm env s with ⟨_, hr⟩ | ⟨y, w, _, hys, _, _, hl, _⟩
  · simp only [AgpsStateMachine.perform, hr]
    exact hx
  · rw [hl, List.mem_filter]
    refine ⟨hx, ?_⟩
    rw [Bool.not_eq_true', Bool.eq_false_iff]
    exact fun heq => hid ((Subscriber.equals_ID heq).trans (Subscriber.equals_ID hys))

/-- Nor is anybody with another told of it. -/
theorem release_notify (hm : Shared m) {s x : Subscriber} {msg : ClientMsg}
    (hin : .notify x msg ∈ (m.perform env (.unsubscribeRsrc s)).2) :
    x ∈ m.mSubscribers ∧ x.ID = s.ID := by
  rcases unsubscribe_listed hm env s with ⟨_, hr⟩ | ⟨y, w, _, hys, _, _, _, htold⟩
  · simp only [AgpsStateMachine.perform, hr] at hin
    exact absurd hin List.not_mem_nil
  · rcases htold x msg hin with ⟨hx, heq⟩
    exact ⟨hx, (Subscriber.equals_ID heq).trans (Subscriber.equals_ID hys)⟩

/-- An ATL connection with the `ID` leaves. -/
theorem release_atl (env : Env) (hm : Shared m) {s x : Subscriber} (hx : x ∈ m.mSubscribers)
    (hatl : x.isAtl = true) (hid : x.ID = s.ID) :
    x ∉ (m.perform env (.unsubscribeRsrc s)).1.mSubscribers ∧
      (m.unsubscribeRsrc env s).1 = true := by
  rcases unsubscribe_listed hm env s with ⟨hnew, _⟩ | ⟨y, w, _, hys, hfound, _, hl, _⟩
  · have hne := hnew x hx
    rw [equals_of_isAtl hatl hid] at hne
    exact Bool.noConfusion hne
  · refine ⟨fun hin => ?_, hfound⟩
    rw [hl, List.mem_filter, equals_of_isAtl hatl (hid.trans (Subscriber.equals_ID hys).symm)]
      at hin
    exact Bool.noConfusion hin.2

/-- A handle that is listed is found. -/
theorem found_of_hasHandle (env : Env) (hm : Shared m) (mode : Bool)
    (hhas : hasHandle m h = true) :
    (m.unsubscribeRsrc env (atlSubscriber h mode)).1 = true := by
  rcases hasHandle_iff.mp hhas with ⟨x, hx, hatl, hid⟩
  exact (release_atl env hm (s := atlSubscriber h mode) hx hatl hid).2

/-- So the handle is gone. -/
theorem hasHandle_release (hm : Shared m) {s : Subscriber} :
    hasHandle (m.perform env (.unsubscribeRsrc s)).1 s.ID = false := by
  refine Bool.eq_false_iff.mpr (fun hhas => ?_)
  rcases hasHandle_iff.mp hhas with ⟨x, hx, hatl, hid⟩
  have hin : x ∈ m.mSubscribers := by
    rcases unsubscribe_listed hm env s with ⟨_, hr⟩ | ⟨y, w, _, _, _, _, hl, _⟩
    · simp only [AgpsStateMachine.perform, hr] at hx
      exact hx
    · rw [hl] at hx
      exact (List.mem_filter.mp hx).1
  exact (release_atl env hm hin hatl hid).1 hx

/-- A handle that matches somebody is listed, or a BIT client has its `ID`. -/
theorem found_cases (hm : Shared m) (mode : Bool)
    (hfound : (m.unsubscribeRsrc env (atlSubscriber h mode)).1 = true) :
    hasHandle m h = true ∨ hasBitId m h = true := by
  rcases unsubscribe_listed hm env (atlSubscriber h mode) with ⟨_, hr⟩ | ⟨y, w, hy, hys, _, _⟩
  · rw [hr] at hfound
    exact Bool.noConfusion hfound
  · rcases isAtl_or_isBit (hm.kinds y hy) with hatl | hbit
    · exact Or.inl (hasHandle_iff.mpr ⟨y, hy, hatl, Subscriber.equals_ID hys⟩)
    · exact Or.inr (hasBitId_iff.mpr ⟨y, hy, hbit, Subscriber.equals_ID hys⟩)

/-- A BIT client that has the `ID` of a handle to be released is found, and one
    of the BIT clients leaves. -/
theorem releaseAtl_bit (hm : Shared m) (mode : Bool) (hw : ∀ k a b, env.wild k a b = true)
    (hbit : hasBitId m h = true) :
    (m.unsubscribeRsrc env (atlSubscriber h mode)).1 = true ∧
      ∃ x ∈ m.mSubscribers, x.isBit = true ∧
        x ∉ (m.perform env (.unsubscribeRsrc (atlSubscriber h mode))).1.mSubscribers := by
  rcases hasBitId_iff.mp hbit with ⟨x, hx, hxbit, hid⟩
  rcases unsubscribe_listed hm env (atlSubscriber h mode) with
    ⟨hnew, _⟩ | ⟨y, w, hy, hys, hfound, hres, hl, _⟩
  · have hne := hnew x hx
    rw [equals_of_wild (hw 0) (s := atlSubscriber h mode) rfl hid] at hne
    exact Bool.noConfusion hne
  · refine ⟨hfound, ?_⟩
    rcases isAtl_or_isBit (hm.kinds y hy) with hatl | hybit
    · -- The match is an ATL connection, and the BIT client is taken for it.
      refine ⟨x, hx, hxbit, fun hin => ?_⟩
      rcases hres x hx with ⟨k, hk⟩
      rw [hl, List.mem_filter, hk, equals_of_wild (hw (k + 1)) hatl
        (hid.trans (Subscriber.equals_ID hys).symm)] at hin
      exact Bool.noConfusion hin.2
    · -- The match is a BIT client itself.
      refine ⟨y, hy, hybit, fun hin => ?_⟩
      rw [hl, List.mem_filter, Subscriber.equals_refl] at hin
      exact Bool.noConfusion hin.2

end Machine

section Invariant

variable {m m' : AgpsStateMachine} {env : Env} {op : Op} {out : List Effect}

theorem shared_init (type : AGpsType) (bearer : Int) : Shared (.init type false bearer) where
  sound := sound_init type false bearer
  many := rfl
  kinds := fun _ hx => absurd hx List.not_mem_nil

/-- A machine that is never asked for a WIFI client never lists one. -/
theorem shared_of_transition (h : Shared m) (ht : Transition m env op m' out)
    (hop : ∀ s, op = .subscribeRsrc s → s.isWifi = false) : Shared m' := by
  have hsound := sound_of_transition h.sound ht
  have hsub : ∀ {st : AgpsState} {l : List Subscriber}, l.Sublist m.mSubscribers →
      Sound (m.become st l) → Shared (m.become st l) :=
    fun hl hs => ⟨hs, h.many, fun x hx => h.kinds x (hl.subset hx)⟩
  have henlist : ∀ {st : AgpsState} {s : Subscriber}, s.isWifi = false →
      Sound { m.enlist s with mStatePtr := st } → Shared { m.enlist s with mStatePtr := st } := by
    intro st s hs hsnd
    refine ⟨hsnd, h.many, fun x hx => ?_⟩
    rcases List.mem_cons.mp hx with rfl | hx
    · rw [Subscriber.clone_isWifi]
      exact hs
    · exact h.kinds x hx
  cases ht with
  | refuse _ _ => exact h
  | request _ _ => exact henlist (hop _ rfl) hsound
  | join _ _ _ => exact h
  | enlist _ _ _ => exact henlist (hop _ rfl) hsound
  | unknown _ => exact h
  | mute _ hx hwifi _ =>
      rw [h.kinds _ (List.mem_of_find?_eq_some hx)] at hwifi
      exact Bool.noConfusion hwifi
  | leave _ _ _ _ _ _ => exact hsub List.filter_sublist hsound
  | grant _ => exact hsub (List.Sublist.refl _) hsound
  | deny _ => exact hsub (List.nil_sublist _) hsound
  | force _ => exact hsub (List.nil_sublist _) hsound
  | close _ _ _ => exact hsub (List.nil_sublist _) hsound
  | reopen _ _ hl _ =>
      subst hl
      exact hsub List.filter_sublist hsound
  | ignore _ => exact h

/-- The two machines are shared by the two kinds. -/
def ThreadShared (t : Thread) : Prop := ∀ i, i ≠ .wifi → Shared (t.data.nif i)

theorem threadShared_init (bearer : Int) : ThreadShared (.init bearer) := by
  intro i hi
  cases i with
  | agnss => exact shared_init _ _
  | internet => exact shared_init _ _
  | wifi => exact absurd rfl hi

/-- Every message keeps that. -/
theorem threadShared_step {t t' : Thread} {msg : MsgEnv × Msg} (h : ThreadShared t)
    (hs : t.step msg = some t') : ThreadShared t' := by
  rcases msg with ⟨env, msg⟩
  simp only [Thread.step, Option.some.injEq] at hs
  rw [← hs]
  intro i hi
  by_cases hmsg : msg = .engineUp
  · subst hmsg
    by_cases hcb : t.data.agpsStatusCb = true
    · simp only [(engineUp_nif t.data env hcb hi).1]
      exact ⟨sound_drop, (h i hi).many, fun x hx => absurd hx List.not_mem_nil⟩
    · simp only [handle, if_neg hcb]
      exact h i hi
  · refine handle_local (P := fun i m _ => i ≠ .wifi → Shared m) (fun _ => []) ?_ ?_ h env hmsg
      i hi
    · intro i m _ env op hop hm hi
      refine shared_of_transition (hm hi) (perform_transition (hm hi).sound env op) (fun s hs => ?_)
      rw [hs] at hop
      exact hop hi
    · intro i m _ b apn len hm hi
      exact ⟨⟨(hm hi).sound.nodup, (hm hi).sound.fresh, (hm hi).sound.released⟩, (hm hi).many,
        (hm hi).kinds⟩

end Invariant

section Messages

variable {t : Thread}

theorem bitNif_ne_wifi {ifType : IfType} {i : NifId} (hi : bitNif ifType = some i) :
    i ≠ .wifi := by
  cases ifType with
  | supl =>
      rw [← Option.some.inj hi]
      decide
  | any =>
      rw [← Option.some.inj hi]
      decide
  | wifi => cases hi
  | other => cases hi

theorem atlNif_ne_wifi (type : AGpsType) : atlNif type ≠ .wifi := by
  unfold atlNif
  by_cases htype : AGPS_TYPE_SUPL = type ∨ AGPS_TYPE_INVALID = type
  · rw [if_pos htype]
    decide
  · rw [if_neg htype]
    decide

/-- The release of a handle is a matter of the first machine if it finds
    somebody, and otherwise of the second alone. -/
theorem handle_releaseAtl (h : ThreadShared t) (env : MsgEnv) (hd : BitVec 32) :
    (t.data.agnssNif.unsubscribeRsrc env.first (atlSubscriber hd false)).1 = true ∧
        handle t.data env (.releaseAtl hd) =
          t.data.call .agnss env.first (.unsubscribeRsrc (atlSubscriber hd false)) ∨
      (t.data.agnssNif.unsubscribeRsrc env.first (atlSubscriber hd false)).1 = false ∧
        handle t.data env (.releaseAtl hd) =
          t.data.call .internet env.second (.unsubscribeRsrc (atlSubscriber hd false)) := by
  rcases unsubscribe_listed (h .agnss (by decide)) env.first (atlSubscriber hd false) with
    ⟨_, hr⟩ | ⟨_, _, _, _, hfound, _⟩
  · have hr' : t.data.agnssNif.unsubscribeRsrc env.first (atlSubscriber hd false) =
        (false, t.data.agnssNif, []) := hr
    refine Or.inr ⟨by rw [hr'], ?_⟩
    -- The first call has changed nothing and said nothing.
    have hcall : t.data.call .agnss env.first (.unsubscribeRsrc (atlSubscriber hd false)) =
        (t.data, []) := by
      simp only [LocEngData.call, LocEngData.nif, LocEngData.setNif, AgpsStateMachine.perform, hr',
        answerOf, List.map_nil, List.append_nil]
    simp only [handle, hcall, hr', Bool.not_false, if_true, List.nil_append]
  · have hfound' : (t.data.agnssNif.unsubscribeRsrc env.first (atlSubscriber hd false)).1 = true :=
      hfound
    refine Or.inl ⟨hfound', ?_⟩
    simp only [handle, hfound', Bool.not_true, Bool.false_eq_true, if_false]

/-- A release by an `ID` that no client of some kind has, on one machine: those
    of that kind stay, and none of them is told. -/
theorem release_spares (h : ThreadShared t) {i : NifId} (hi : i ≠ .wifi) (env : Env)
    (s : Subscriber) (kind : Subscriber → Bool)
    (hfree : ∀ x ∈ (t.data.nif i).mSubscribers, kind x = true → x.ID ≠ s.ID) :
    (∀ j, ∀ x ∈ (t.data.nif j).mSubscribers, kind x = true →
      x ∈ ((t.data.call i env (.unsubscribeRsrc s)).1.nif j).mSubscribers) ∧
    ∀ j x m, (j, Entry.effect (.notify x m)) ∈ (t.data.call i env (.unsubscribeRsrc s)).2 →
      kind x = false := by
  refine ⟨fun j x hx hkind => ?_, fun j x m hin => ?_⟩
  · by_cases hj : j = i
    · subst hj
      rw [call_nif_self]
      exact release_other (h j hi) hx (hfree x hx hkind)
    · rw [call_nif_ne _ _ _ hj]
      exact hx
  · rcases notify_mem_call t.data hin with ⟨rfl, hmem⟩
    rcases release_notify (h j hi) hmem with ⟨hx, hid⟩
    exact Bool.eq_false_iff.mpr (fun hkind => hfree x hx hkind hid)

theorem ne_of_hasHandle_false {m : AgpsStateMachine} {hd : BitVec 32}
    (hno : hasHandle m hd = false) : ∀ x ∈ m.mSubscribers, x.isAtl = true → x.ID ≠ hd := by
  intro x hx hatl hid
  have hhas := hasHandle_iff.mpr ⟨x, hx, hatl, hid⟩
  rw [hno] at hhas
  exact Bool.noConfusion hhas

theorem ne_of_hasBitId_false {m : AgpsStateMachine} {id : BitVec 32}
    (hno : hasBitId m id = false) : ∀ x ∈ m.mSubscribers, x.isBit = true → x.ID ≠ id := by
  intro x hx hbit hid
  have hhas := hasBitId_iff.mpr ⟨x, hx, hbit, hid⟩
  rw [hno] at hhas
  exact Bool.noConfusion hhas

/-- The condition is enough. -/
theorem isolated_of_apart (h : ThreadShared t) {msg : MsgEnv × Msg} (ha : apart t msg = true) :
    Isolated t msg := by
  rcases msg with ⟨env, msg⟩
  cases msg with
  | requestAtl hd type =>
      simp only [apart, Bool.or_eq_true, Bool.not_eq_true'] at ha
      simp only [Isolated, handle, call_nif_self]
      exact requestAtl_listed (h _ (atlNif_ne_wifi type)) _ ha
  | requestBit ifType ipv4 ipv6 =>
      intro i hi
      simp only [apart, hi, Bool.or_eq_true, Bool.not_eq_true'] at ha
      simp only [handle, hi, call_nif_self]
      exact requestBit_listed (h i (bitNif_ne_wifi hi)) _ _ ha
  | releaseBit ifType ipv4 ipv6 =>
      cases hi : bitNif ifType with
      | none =>
          simp only [Isolated, handle, hi]
          exact ⟨fun _ _ hx _ => hx, fun _ _ _ hin => absurd hin List.not_mem_nil⟩
      | some i =>
          simp only [apart, hi, Bool.not_eq_true'] at ha
          simp only [Isolated, handle, hi]
          exact release_spares h (bitNif_ne_wifi hi) env.first _ Subscriber.isAtl
            (ne_of_hasHandle_false ha)
  | releaseAtl hd =>
      simp only [apart, Bool.and_eq_true, Bool.not_eq_true'] at ha
      rcases ha with ⟨hbit, hrest⟩
      rcases handle_releaseAtl h env hd with ⟨hfound, hr⟩ | ⟨hfound, hr⟩
      · -- The first machine knows the handle, so the second does not.
        have hhandle : hasHandle t.data.agnssNif hd = true := by
          rcases found_cases (h .agnss (by decide)) false hfound with hhas | hhas
          · exact hhas
          · rw [show hasBitId (t.data.nif .agnss) hd = false from hbit] at hhas
            exact Bool.noConfusion hhas
        rw [hhandle, if_pos rfl, Bool.not_eq_true'] at hrest
        simp only [Isolated, hr]
        rcases release_spares h (by decide : NifId.agnss ≠ .wifi) env.first
          (atlSubscriber hd false) Subscriber.isBit (ne_of_hasBitId_false hbit) with ⟨h1, h2⟩
        refine ⟨h1, h2, fun i hi hhas => ?_⟩
        rcases hi with rfl | rfl
        · rw [call_nif_self]
          exact hasHandle_release (h .agnss (by decide))
        · rw [show hasHandle (t.data.nif .internet) hd = false from hrest] at hhas
          exact Bool.noConfusion hhas
      · -- The first machine does not, and the second is asked.
        have hhandle : hasHandle t.data.agnssNif hd = false := by
          refine Bool.eq_false_iff.mpr (fun hhas => ?_)
          have hyes := found_of_hasHandle env.first (h .agnss (by decide)) false hhas
          exact Bool.noConfusion (hyes.symm.trans hfound)
        rw [hhandle, if_neg Bool.false_ne_true, Bool.not_eq_true'] at hrest
        simp only [Isolated, hr]
        rcases release_spares h (by decide : NifId.internet ≠ .wifi) env.second
          (atlSubscriber hd false) Subscriber.isBit (ne_of_hasBitId_false hrest) with ⟨h1, h2⟩
        refine ⟨h1, h2, fun i hi hhas => ?_⟩
        rcases hi with rfl | rfl
        · rw [show hasHandle (t.data.nif .agnss) hd = false from hhandle] at hhas
          exact Bool.noConfusion hhas
        · rw [call_nif_self]
          exact hasHandle_release (h .internet (by decide))
  | requestWifi senderId ssid password => exact trivial
  | releaseWifi senderId ssid password => exact trivial
  | atlOpenSuccess agpsType apn length bearerType => exact trivial
  | atlClosed agpsType => exact trivial
  | atlOpenFailed agpsType => exact trivial
  | engineUp => exact trivial

/-- The comparisons that read past an object succeed. -/
def Confused (env : MsgEnv) : Prop :=
  (∀ k a b, env.first.wild k a b = true) ∧ ∀ k a b, env.second.wild k a b = true

/-- Against the condition, clients of the other kind are affected. -/
theorem not_isolated (h : ThreadShared t) {env : MsgEnv} {msg : Msg} (hw : Confused env)
    (ha : apart t (env, msg) = false) : ¬ Isolated t (env, msg) := by
  intro hiso
  cases msg with
  | requestAtl hd type =>
      simp only [apart, Bool.or_eq_false_iff, Bool.not_eq_false'] at ha
      simp only [Isolated, handle, call_nif_self] at hiso
      rw [requestAtl_absorbed (h _ (atlNif_ne_wifi type)) _ (hw.1 0) ha.1 ha.2] at hiso
      exact Bool.noConfusion hiso
  | requestBit ifType ipv4 ipv6 =>
      cases hi : bitNif ifType with
      | none => simp only [apart, hi, Bool.true_eq_false] at ha
      | some i =>
          simp only [apart, hi, Bool.or_eq_false_iff, Bool.not_eq_false'] at ha
          have hlisted := hiso i hi
          simp only [handle, hi, call_nif_self] at hlisted
          rw [requestBit_absorbed (h i (bitNif_ne_wifi hi)) _ _ ha.1 ha.2] at hlisted
          exact Bool.noConfusion hlisted
  | releaseBit ifType ipv4 ipv6 =>
      cases hi : bitNif ifType with
      | none => simp only [apart, hi, Bool.true_eq_false] at ha
      | some i =>
          simp only [apart, hi, Bool.not_eq_false'] at ha
          rcases hasHandle_iff.mp ha with ⟨x, hx, hatl, hid⟩
          have hstay := hiso.1 i x hx hatl
          simp only [handle, hi, call_nif_self] at hstay
          exact (release_atl env.first (h i (bitNif_ne_wifi hi))
            (s := bitSubscriber env.ipv6Addr ipv4 ipv6) hx hatl hid).1 hstay
  | releaseAtl hd =>
      simp only [apart, Bool.and_eq_false_iff, Bool.not_eq_false'] at ha
      rcases handle_releaseAtl h env hd with ⟨hfound, hr⟩ | ⟨hfound, hr⟩
      · simp only [Isolated, hr] at hiso
        rcases ha with hbit | hrest
        · rcases releaseAtl_bit (h .agnss (by decide)) false hw.1 hbit with ⟨_, x, hx, hxbit, hgone⟩
          have hstay := hiso.1 .agnss x hx hxbit
          rw [call_nif_self] at hstay
          exact hgone hstay
        · -- The first machine has found somebody, so the second is not asked.
          by_cases hhandle : hasHandle t.data.agnssNif hd = true
          · -- The handle is listed on both, and one entry is left.
            rw [hhandle, if_pos rfl, Bool.not_eq_false'] at hrest
            have hgone := hiso.2.2 .internet (Or.inr rfl) hrest
            rw [call_nif_ne _ _ _ (by decide),
              show hasHandle (t.data.nif .internet) hd = true from hrest] at hgone
            exact Bool.noConfusion hgone
          · -- What was found is a BIT client.
            rcases found_cases (h .agnss (by decide)) false hfound with hhas | hhas
            · exact hhandle hhas
            · rcases releaseAtl_bit (h .agnss (by decide)) false hw.1 hhas with
                ⟨_, x, hx, hxbit, hgone⟩
              have hstay := hiso.1 .agnss x hx hxbit
              rw [call_nif_self] at hstay
              exact hgone hstay
      · simp only [Isolated, hr] at hiso
        rcases ha with hbit | hrest
        · have hyes := (releaseAtl_bit (h .agnss (by decide)) false hw.1 hbit).1
          exact Bool.noConfusion (hyes.symm.trans hfound)
        · by_cases hhandle : hasHandle t.data.agnssNif hd = true
          · have hyes := found_of_hasHandle env.first (h .agnss (by decide)) false hhandle
            exact Bool.noConfusion (hyes.symm.trans hfound)
          · rw [if_neg hhandle, Bool.not_eq_false'] at hrest
            rcases releaseAtl_bit (h .internet (by decide)) false hw.2 hrest with
              ⟨_, x, hx, hxbit, hgone⟩
            have hstay := hiso.1 .internet x hx hxbit
            rw [call_nif_self] at hstay
            exact hgone hstay
  | requestWifi senderId ssid password => cases ha
  | releaseWifi senderId ssid password => cases ha
  | atlOpenSuccess agpsType apn length bearerType => cases ha
  | atlClosed agpsType => cases ha
  | atlOpenFailed agpsType => cases ha
  | engineUp => cases ha

end Messages

section Runs

/-- If every message of a run meets the condition, every message leaves clients
    of the other kind alone. A message against the condition does not, whenever
    the comparisons that read past an object succeed. -/
theorem isolation (bearer : Int) (msgs : List (MsgEnv × Msg))
    (hg : Run.Guarded Thread.step (fun t msg => apart t msg = true) (.init bearer) msgs) :
    Run.Guarded Thread.step Isolated (.init bearer) msgs ∧
      ∀ t env msg, Run.exec Thread.step (.init bearer) msgs = some t → Confused env →
        apart t (env, msg) = false → ¬ Isolated t (env, msg) := by
  refine ⟨?_, fun t env msg hrun hw ha => ?_⟩
  · exact Run.guarded_of_invariant ThreadShared (fun _ _ _ h _ hs => threadShared_step h hs)
      (fun _ _ _ h _ ha => isolated_of_apart h ha) (threadShared_init bearer) hg
  · have h : ThreadShared t := Run.exec_invariant ThreadShared
      (fun _ _ _ h hs => threadShared_step h hs) (threadShared_init bearer) hrun
    exact not_isolated h hw ha

/-- A handle and an address that differ come and go without meeting. -/
def strangers : List (MsgEnv × Msg) :=
  [(.zeros, .requestBit .supl 7 none), (.zeros, .requestAtl 1 AGPS_TYPE_SUPL),
   (.zeros, .releaseAtl 1), (.zeros, .requestAtl 1 AGPS_TYPE_WWAN_ANY),
   (.zeros, .releaseBit .supl 7 none), (.zeros, .releaseAtl 1)]

theorem isolation_strangers : Run.Guarded Thread.step Isolated (.init 0) strangers :=
  (isolation 0 strangers (by decide +kernel)).1

/-- A handle that is equal to the address of a listed client. -/
def namesakes : List (MsgEnv × Msg) :=
  [(.zeros, .requestBit .supl 7 none), (.zeros, .requestAtl 7 AGPS_TYPE_SUPL)]

/-- The handle is absorbed by the entry of the BIT client. -/
theorem namesakes_absorbed : ¬ Run.Guarded Thread.step Isolated (.init 0) namesakes := by
  intro hall
  have hlisted : hasHandle _ _ = true := ((hall _ rfl).2 _ rfl).1
  exact absurd hlisted (by decide +kernel)

end Runs

end Eng

end Taoshan
