import Taoshan.Agps.Invariant

/-!
# Who a BIT Client Is

A BIT client is known by its IPv4 address or, if that is `INADDR_NONE`, by the
sixteen bytes of its IPv6 address. Two clients that are not the same should not
get in each other's way: subscribing lists both, and if one leaves, the other
stays and hears nothing of it.

`BITSubscriber::equals` compares the sixteen bytes by `strncmp`, which stops at
the first null byte that the two have in common. Two addresses that agree up to
a null byte and differ behind it are one to the machine. The second of two such
clients is not listed, and if it unsubscribes, the first leaves.

This is all that goes wrong. The list never has two clients that the comparison
takes for one (`unalike_of_transition`), so a client that finds itself in the
list finds nobody else, and clients that are told apart from all others are left
alone (`noInterference_iff`).

## Main definitions

* `Subscriber.identity`: How a BIT client is known.
* `Confused`: Two clients that are taken for one.
* `Alike`: What `equals` decides for BIT clients.
* `NoInterference`: Two clients do not get in each other's way.
* `MachineCall`, `machineStep`: A machine, with everything that can be done to it.
* `Orderly`: What holds of every machine reached.
* `Clear`: Nobody listed is confused with either of two clients.

## Theorems

* `strncmp_eq_zero_iff`: What the comparison by `strncmp` decides.
* `equals_iff_alike`: What `equals` decides.
* `unalike_of_transition`: No two listed clients are alike.
* `unaffected_of_transition`: Who leaves takes nobody along.
* `noInterference_iff`: When two clients are left alone.
-/

namespace Taoshan

namespace Agps

/-- A BIT client's IPv4 address, and its IPv6 address if that is what counts. -/
def Subscriber.identity : Subscriber → Option (BitVec 32 × Option (Vector UInt8 16))
  | .bit _ id ipv6Addr => some (id, if id = INADDR_NONE then some ipv6Addr else none)
  | _ => none

/-- Two addresses that agree up to and including a null byte. -/
def SameString (p q : Vector UInt8 16) : Prop :=
  ∃ pre : List UInt8, pre ++ [0] <+: p.toList ∧ pre ++ [0] <+: q.toList

/-- Two clients without IPv4 addresses whose IPv6 addresses differ behind a null
    byte only. -/
def Confused (x y : Subscriber) : Prop :=
  ∃ p q, x.identity = some (INADDR_NONE, some p) ∧ y.identity = some (INADDR_NONE, some q) ∧
    p ≠ q ∧ SameString p q

/-- The same BIT client, or two that are taken for one. -/
def Alike (x y : Subscriber) : Prop :=
  (∃ i, x.identity = some i ∧ y.identity = some i) ∨ Confused x y

def Unalike (x y : Subscriber) : Prop := ¬ Alike x y

/-- A client with this identity is listed. -/
def AgpsStateMachine.Lists (m : AgpsStateMachine) (a : Subscriber) : Prop :=
  ∃ x ∈ m.mSubscribers, x.identity = a.identity

/-- If `a` unsubscribes, the client known as `b` stays and is told nothing. -/
def Unaffected (m : AgpsStateMachine) (env : Env) (a b : Subscriber) : Prop :=
  ∀ z ∈ m.mSubscribers, z.identity = b.identity →
    z ∈ (m.perform env (.unsubscribeRsrc a)).1.mSubscribers ∧
      ∀ msg, Effect.notify z msg ∉ (m.perform env (.unsubscribeRsrc a)).2

/-- The machine after both have subscribed. -/
def AgpsStateMachine.subscribeBoth (m : AgpsStateMachine) (env₁ env₂ : Env) (a b : Subscriber) :
    AgpsStateMachine :=
  ((m.perform env₁ (.subscribeRsrc a)).1.perform env₂ (.subscribeRsrc b)).1

/-- Subscribing both lists both, and neither is affected if the other leaves,
    be it before or after. -/
structure NoInterference (m : AgpsStateMachine) (env₁ env₂ env₃ : Env) (a b : Subscriber) :
    Prop where
  lists : (m.subscribeBoth env₁ env₂ a b).Lists a ∧ (m.subscribeBoth env₁ env₂ a b).Lists b
  before : Unaffected m env₃ a b ∧ Unaffected m env₃ b a
  after : Unaffected (m.subscribeBoth env₁ env₂ a b) env₃ a b ∧
    Unaffected (m.subscribeBoth env₁ env₂ a b) env₃ b a

/-- A call of one of the functions that change a machine. -/
inductive MachineCall
  | interface (env : Env) (op : Op)
  | dropAllSubscribers
  | setAPN (apn : Option (List UInt8)) (len : Nat)
  | setBearer (bearer : Int)

/-- Every such call can be made in every state. -/
def machineStep (m : AgpsStateMachine) : MachineCall → Option AgpsStateMachine
  | .interface env op => some (m.perform env op).1
  | .dropAllSubscribers => some m.dropAllSubscribers.1
  | .setAPN apn len => some (m.setAPN apn len)
  | .setBearer bearer => some (m.setBearer bearer)

section Strings

/-- Buffers of one size compare equal if and only if they are equal or agree up
    to a null byte. -/
theorem strncmp_eq_zero_iff {n : Nat} {xs ys : List UInt8} (hx : xs.length = n)
    (hy : ys.length = n) :
    strncmp n xs ys = 0 ↔ xs = ys ∨ ∃ pre : List UInt8, pre ++ [0] <+: xs ∧ pre ++ [0] <+: ys := by
  induction n generalizing xs ys with
  | zero =>
      rw [List.length_eq_zero_iff.mp hx, List.length_eq_zero_iff.mp hy]
      exact ⟨fun _ => Or.inl rfl, fun _ => rfl⟩
  | succ n ih =>
      rcases xs with _ | ⟨a, as⟩
      · exact absurd hx (Nat.succ_ne_zero n).symm
      rcases ys with _ | ⟨b, bs⟩
      · exact absurd hy (Nat.succ_ne_zero n).symm
      have hrest := ih (Nat.succ.inj hx) (Nat.succ.inj hy)
      unfold strncmp
      by_cases hab : a = b
      · subst hab
        rw [if_neg (not_not_intro rfl)]
        by_cases ha : a = 0
        · -- Both end here, whatever follows.
          rw [if_pos ha]
          subst ha
          refine ⟨fun _ => Or.inr ⟨[], ?_, ?_⟩, fun _ => rfl⟩
          · exact List.cons_prefix_cons.mpr ⟨rfl, List.nil_prefix⟩
          · exact List.cons_prefix_cons.mpr ⟨rfl, List.nil_prefix⟩
        · rw [if_neg ha, hrest, List.cons.injEq]
          refine or_congr (by simp only [true_and]) ⟨?_, ?_⟩
          · rintro ⟨pre, hxs, hys⟩
            exact ⟨a :: pre, List.cons_prefix_cons.mpr ⟨rfl, hxs⟩,
              List.cons_prefix_cons.mpr ⟨rfl, hys⟩⟩
          · rintro ⟨pre, hxs, hys⟩
            -- The null byte is not the first one.
            rcases pre with _ | ⟨c, pre⟩
            · exact absurd (List.cons_prefix_cons.mp hxs).1.symm ha
            · exact ⟨pre, (List.cons_prefix_cons.mp hxs).2, (List.cons_prefix_cons.mp hys).2⟩
      · rw [if_pos hab]
        have hne : a.toNat ≠ b.toNat := fun h => hab (UInt8.toNat.inj h)
        refine ⟨fun h => absurd h (by omega), ?_⟩
        rintro (h | ⟨pre, hxs, hys⟩)
        · exact absurd (List.cons.inj h).1 hab
        · -- The two share their first byte, whichever it is.
          rcases pre with _ | ⟨c, pre⟩
          · exact absurd ((List.cons_prefix_cons.mp hxs).1.symm.trans
              (List.cons_prefix_cons.mp hys).1) hab
          · exact absurd ((List.cons_prefix_cons.mp hxs).1.symm.trans
              (List.cons_prefix_cons.mp hys).1) hab

theorem SameString.symm {p q : Vector UInt8 16} (h : SameString p q) : SameString q p := by
  rcases h with ⟨pre, hp, hq⟩
  exact ⟨pre, hq, hp⟩

/-- Two IPv6 addresses, as the machine compares them. -/
theorem strncmp_address (p q : Vector UInt8 16) :
    strncmp 16 p.toList q.toList = 0 ↔ p = q ∨ SameString p q := by
  rw [strncmp_eq_zero_iff Vector.length_toList Vector.length_toList, Vector.toList_inj]
  exact Iff.rfl

end Strings

section Comparison

variable {x y : Subscriber}

theorem Confused.symm (h : Confused x y) : Confused y x := by
  rcases h with ⟨p, q, hx, hy, hne, hsame⟩
  exact ⟨q, p, hy, hx, hne.symm, hsame.symm⟩

/-- Only different clients are confused. -/
theorem Confused.identity_ne (h : Confused x y) : x.identity ≠ y.identity := by
  rcases h with ⟨p, q, hx, hy, hne, _⟩
  rw [hx, hy]
  intro he
  exact hne (Option.some.inj (Prod.mk.inj (Option.some.inj he)).2)

/-- Whom a client is confused with depends on who it is. -/
theorem Confused.congr {x' y' : Subscriber} (h : Confused x y) (hx : x'.identity = x.identity)
    (hy : y'.identity = y.identity) : Confused x' y' := by
  unfold Confused at h ⊢
  rw [hx, hy]
  exact h

theorem Alike.symm (h : Alike x y) : Alike y x := by
  rcases h with ⟨i, hx, hy⟩ | h
  · exact Or.inl ⟨i, hy, hx⟩
  · exact Or.inr h.symm

theorem Alike.congr {x' y' : Subscriber} (h : Alike x y) (hx : x'.identity = x.identity)
    (hy : y'.identity = y.identity) : Alike x' y' := by
  rcases h with ⟨i, hxi, hyi⟩ | h
  · exact Or.inl ⟨i, hx.trans hxi, hy.trans hyi⟩
  · exact Or.inr (h.congr hx hy)

instance : Std.Symm Unalike := ⟨fun _ _ h ha => h ha.symm⟩

theorem isBit_eq (x : Subscriber) : x.isBit = x.identity.isSome := by
  cases x with
  | bit obj id ip => rfl
  | atl obj id mode => rfl
  | wifi obj ssid password senderId inactive => rfl

theorem Subscriber.not_isWifi_of_isBit (hx : x.isBit = true) : x.isWifi = false := by
  cases x with
  | bit obj id ip => rfl
  | atl obj id mode => exact Bool.noConfusion hx
  | wifi obj ssid password senderId inactive => exact Bool.noConfusion hx

@[simp] theorem clone_identity (new : Nat) (s : Subscriber) :
    (s.clone new).identity = s.identity := by
  cases s with
  | bit obj id ip => rfl
  | atl obj id mode => rfl
  | wifi obj ssid password senderId inactive => rfl

@[simp] theorem setInactive_identity (s : Subscriber) :
    s.setInactive.identity = s.identity := by
  cases s with
  | bit obj id ip => rfl
  | atl obj id mode => rfl
  | wifi obj ssid password senderId inactive => rfl

theorem identity_ID {i : BitVec 32 × Option (Vector UInt8 16)} (h : x.identity = some i) :
    x.ID = i.1 := by
  cases x with
  | bit obj id ip => exact congrArg Prod.fst (Option.some.inj h)
  | atl obj id mode => exact nomatch h
  | wifi obj ssid password senderId inactive => exact nomatch h

theorem Alike.ID_eq (h : Alike x y) : x.ID = y.ID := by
  rcases h with ⟨i, hx, hy⟩ | ⟨p, q, hx, hy, _⟩
  · rw [identity_ID hx, identity_ID hy]
  · rw [identity_ID hx, identity_ID hy]

/-- Clients without an IPv4 address are alike if their IPv6 addresses compare
    equal. -/
theorem alike_iff_of_none {p q : Vector UInt8 16} (hx : x.identity = some (INADDR_NONE, some p))
    (hy : y.identity = some (INADDR_NONE, some q)) : Alike x y ↔ p = q ∨ SameString p q := by
  constructor
  · rintro (⟨i, hxi, hyi⟩ | ⟨p', q', hxp, hyq, _, hsame⟩)
    · have he := hx.symm.trans (hxi.trans (hyi.symm.trans hy))
      exact Or.inl (Option.some.inj (Prod.mk.inj (Option.some.inj he)).2)
    · have hp := Option.some.inj (Prod.mk.inj (Option.some.inj (hx.symm.trans hxp))).2
      have hq := Option.some.inj (Prod.mk.inj (Option.some.inj (hy.symm.trans hyq))).2
      rw [hp, hq]
      exact Or.inr hsame
  · intro h
    by_cases hpq : p = q
    · exact Or.inl ⟨_, hx, by rw [hpq]; exact hy⟩
    · exact Or.inr ⟨p, q, hx, hy, hpq, h.resolve_left hpq⟩

/-- What the comparison of two BIT clients decides. -/
theorem equals_iff_alike {w : Wild} (hx : x.isBit = true) (hy : y.isBit = true) :
    x.equals w y = true ↔ Alike x y := by
  by_cases hid : x.ID = y.ID
  · cases x with
    | atl obj id mode => exact Bool.noConfusion hx
    | wifi obj ssid password senderId inactive => exact Bool.noConfusion hx
    | bit obj id p =>
        cases y with
        | atl obj' id' mode' => exact Bool.noConfusion hy
        | wifi obj' ssid password senderId inactive => exact Bool.noConfusion hy
        | bit obj' id' q =>
            have hid' : id = id' := hid
            subst hid'
            by_cases hnone : id = INADDR_NONE
            · -- Here the IPv6 addresses decide.
              subst hnone
              rw [alike_iff_of_none rfl rfl, ← strncmp_address]
              simp only [Subscriber.equals, Subscriber.ID, BEq.rfl, bne_self_eq_false,
                Bool.false_or, Bool.true_and, beq_iff_eq]
            · have hident : ∀ (o : Nat) (r : Vector UInt8 16),
                  (Subscriber.bit o id r).identity = some (id, none) := by
                intro o r
                rw [Subscriber.identity, if_neg hnone]
              rw [Subscriber.equals_of_ne_inaddrNone (x := .bit obj id p) hnone]
              exact ⟨fun _ => Or.inl ⟨_, hident _ _, hident _ _⟩, fun _ => BEq.rfl⟩
  · -- Neither the comparison nor what it stands for looks further.
    exact ⟨fun h => absurd (Subscriber.equals_ID h) hid, fun h => absurd h.ID_eq hid⟩

/-- Clients that are alike are BIT clients, and the comparison succeeds. -/
theorem Alike.equals (h : Alike x y) (w : Wild) : x.equals w y = true := by
  refine (equals_iff_alike ?_ ?_).mpr h
  · rw [isBit_eq]
    rcases h with ⟨i, hx, _⟩ | ⟨p, q, hx, _⟩
    · rw [hx]; rfl
    · rw [hx]; rfl
  · rw [isBit_eq]
    rcases h with ⟨i, _, hy⟩ | ⟨p, q, _, hy, _⟩
    · rw [hy]; rfl
    · rw [hy]; rfl

/-- Clients that the comparison tells apart are not confused. -/
theorem not_confused (h : x.equals (fun _ _ => false) y = false) : ¬ Confused x y := by
  intro hc
  have halike : Alike x y := Or.inr hc
  rw [halike.equals] at h
  exact Bool.noConfusion h

end Comparison

section Calls

variable {m m' : AgpsStateMachine} {env : Env} {op : Op} {out : List Effect} {a b : Subscriber}

/-- No two listed clients are alike, and no call makes them so. -/
theorem unalike_of_transition (h : m.mSubscribers.Pairwise Unalike)
    (ht : Transition m env op m' out) : m'.mSubscribers.Pairwise Unalike := by
  cases ht with
  | refuse _ _ => exact h
  | request _ hl =>
      simp only [AgpsStateMachine.enlist, hl]
      exact List.pairwise_singleton _ _
  | join _ _ _ => exact h
  | enlist _ _ hnew =>
      refine List.pairwise_cons.mpr ⟨fun x hx halike => ?_, h⟩
      -- The search would have found the client that is like the new one.
      have hfound := (halike.symm.congr rfl (clone_identity _ _).symm).equals (env.wild 0)
      rw [hnew x hx] at hfound
      exact Bool.noConfusion hfound
  | unknown _ => exact h
  | @mute s x _ _ _ _ _ _ =>
      have hkeep : ∀ y : Subscriber,
          (if y.obj = x.obj then y.setInactive else y).identity = y.identity := by
        intro y
        split
        · exact setInactive_identity y
        · rfl
      refine List.pairwise_map.mpr (h.imp (fun hne halike => ?_))
      exact hne (halike.congr (hkeep _).symm (hkeep _).symm)
  | leave _ _ _ _ _ _ => exact h.sublist List.filter_sublist
  | grant _ => exact h
  | deny _ => exact List.Pairwise.nil
  | force _ => exact List.Pairwise.nil
  | close _ _ _ => exact List.Pairwise.nil
  | reopen _ _ hl _ =>
      rw [hl]
      exact h.sublist List.filter_sublist
  | ignore _ => exact h

/-- A client that is like a listed one is that one. -/
theorem eq_of_alike (h : m.mSubscribers.Pairwise Unalike) {x y : Subscriber}
    (hx : x ∈ m.mSubscribers) (hy : y ∈ m.mSubscribers) (halike : Alike x y) : x = y := by
  by_contra hne
  exact h.forall hx hy hne halike

theorem not_confused_of_mem (h : m.mSubscribers.Pairwise Unalike) {x y : Subscriber}
    (hx : x ∈ m.mSubscribers) (hy : y ∈ m.mSubscribers) : ¬ Confused x y := by
  intro hc
  exact hc.identity_ne (by rw [eq_of_alike h hx hy (Or.inr hc)])

/-- A client who unsubscribes takes nobody along and nobody else hears of it. -/
theorem unaffected_of_transition (hapart : m.mSubscribers.Pairwise Unalike)
    (hbit : ∀ x ∈ m.mSubscribers, x.isBit = true) (ha : a.isBit = true)
    (hconf : ∀ x ∈ m.mSubscribers, ¬ Confused x a)
    (ht : Transition m env (.unsubscribeRsrc a) m' out) {z : Subscriber}
    (hz : z ∈ m.mSubscribers) (hza : z.identity ≠ a.identity) :
    z ∈ m'.mSubscribers ∧ ∀ msg, Effect.notify z msg ∉ out := by
  cases ht with
  | unknown _ => exact ⟨hz, fun _ => List.not_mem_nil⟩
  | mute _ hx hwifi _ =>
      have hxbit := hbit _ (List.mem_of_find?_eq_some hx)
      rw [Subscriber.not_isWifi_of_isBit hxbit] at hwifi
      exact Bool.noConfusion hwifi
  | @leave _ x w st told' req _ hx _ hout _ hset =>
      have hxm := List.mem_of_find?_eq_some hx
      -- The client that was found is the one that unsubscribes.
      have hfound := List.find?_some hx
      have hxa : x.identity = a.identity := by
        rcases (equals_iff_alike (hbit x hxm) ha).mp hfound with ⟨i, hxi, hai⟩ | hc
        · exact hxi.trans hai.symm
        · exact absurd hc (hconf x hxm)
      have hzx : z.equals w x = false := by
        refine Bool.eq_false_iff.mpr (fun he => ?_)
        have heq := eq_of_alike hapart hz hxm ((equals_iff_alike (hbit z hz) (hbit x hxm)).mp he)
        exact hza (by rw [heq, hxa])
      refine ⟨List.mem_filter.mpr ⟨hz, by rw [hzx]; rfl⟩, fun msg hmsg => ?_⟩
      rcases List.mem_append.mp hmsg with hmsg | hmsg
      · rcases List.mem_flatMap.mp (hout.mem_iff.mp hmsg) with ⟨y, hy, hmsg⟩
        rcases List.mem_map.mp hmsg with ⟨msg', _, he⟩
        have heq := (List.mem_filter.mp hy).2
        rw [(Effect.notify.inj he).1, hzx] at heq
        exact Bool.noConfusion heq
      · -- The service is not a client.
        cases hset with
        | empty _ _ => exact nomatch List.mem_singleton.mp hmsg
        | emptyReleasing _ _ => exact List.not_mem_nil hmsg
        | inactive _ _ _ => exact nomatch List.mem_singleton.mp hmsg
        | stay _ _ => exact List.not_mem_nil hmsg

/-- Nobody leaves if a client subscribes. -/
theorem mem_of_subscribe (ht : Transition m env (.subscribeRsrc a) m' out) {x : Subscriber}
    (hx : x ∈ m.mSubscribers) : x ∈ m'.mSubscribers := by
  cases ht with
  | refuse _ _ => exact hx
  | request _ _ => exact List.mem_cons_of_mem _ hx
  | join _ _ _ => exact hx
  | enlist _ _ _ => exact List.mem_cons_of_mem _ hx

/-- Nobody but the client that subscribes joins. -/
theorem forall_of_subscribe {P : Subscriber → Prop} (h : ∀ x ∈ m.mSubscribers, P x)
    (hnew : ∀ x : Subscriber, x.identity = a.identity → P x)
    (ht : Transition m env (.subscribeRsrc a) m' out) : ∀ x ∈ m'.mSubscribers, P x := by
  have hcons : ∀ x ∈ (m.enlist a).mSubscribers, P x := by
    intro x hx
    rcases List.mem_cons.mp hx with rfl | hx
    · exact hnew _ (clone_identity _ _)
    · exact h x hx
  cases ht with
  | refuse _ _ => exact h
  | request _ _ => exact hcons
  | join _ _ _ => exact h
  | enlist _ _ _ => exact hcons

/-- A client that is not confused with a listed one is listed. -/
theorem lists_of_subscribe (hone : m.mEnforceSingleSubscriber = false)
    (hbit : ∀ x ∈ m.mSubscribers, x.isBit = true) (ha : a.isBit = true)
    (hconf : ∀ x ∈ m.mSubscribers, ¬ Confused x a)
    (ht : Transition m env (.subscribeRsrc a) m' out) : m'.Lists a := by
  cases ht with
  | refuse htrue _ =>
      rw [hone] at htrue
      exact Bool.noConfusion htrue
  | request _ _ => exact ⟨_, List.mem_cons_self, clone_identity _ _⟩
  | join _ _ hfound =>
      rcases hfound with ⟨x, hx, heq⟩
      rcases (equals_iff_alike (hbit x hx) ha).mp heq with ⟨i, hxi, hai⟩ | hc
      · exact ⟨x, hx, hxi.trans hai.symm⟩
      · exact absurd hc (hconf x hx)
  | enlist _ _ _ => exact ⟨_, List.mem_cons_self, clone_identity _ _⟩

end Calls

section Runs

variable {m m' : AgpsStateMachine} {env : Env} {out : List Effect} {a b : Subscriber}

/-- What every machine reached satisfies, `one` being what it was made with. -/
structure Orderly (one : Bool) (m : AgpsStateMachine) : Prop extends Sound m where
  flag : m.mEnforceSingleSubscriber = one
  single : m.mEnforceSingleSubscriber = true → m.mSubscribers.length ≤ 1
  unalike : m.mSubscribers.Pairwise Unalike

theorem orderly_perform {one : Bool} (h : Orderly one m) (env : Env) (op : Op) :
    Orderly one (m.perform env op).1 := by
  have ht := perform_transition h.toSound env op
  exact ⟨sound_of_transition h.toSound ht,
    (mEnforceSingleSubscriber_of_transition ht).trans h.flag, single_of_transition h.single ht,
    unalike_of_transition h.unalike ht⟩

theorem orderly_step {one : Bool} {call : MachineCall} (h : Orderly one m)
    (hs : machineStep m call = some m') : Orderly one m' := by
  cases call with
  | interface env op =>
      rw [← Option.some.inj hs]
      exact orderly_perform h env op
  | dropAllSubscribers =>
      rw [← Option.some.inj hs]
      exact ⟨sound_drop, h.flag, fun _ => Nat.zero_le 1, List.Pairwise.nil⟩
  | setAPN apn len =>
      rw [← Option.some.inj hs]
      exact ⟨⟨h.nodup, h.fresh, h.released⟩, h.flag, h.single, h.unalike⟩
  | setBearer bearer =>
      rw [← Option.some.inj hs]
      exact ⟨⟨h.nodup, h.fresh, h.released⟩, h.flag, h.single, h.unalike⟩

theorem orderly_exec {type : AGpsType} {one : Bool} {bearer : Int} {calls : List MachineCall}
    (h : Run.exec machineStep (.init type one bearer) calls = some m) : Orderly one m := by
  refine Run.exec_invariant (Orderly one) (fun _ _ _ hs hstep => orderly_step hs hstep) ?_ h
  exact ⟨sound_init type one bearer, rfl, fun _ => Nat.zero_le 1, List.Pairwise.nil⟩

/-- All clients are BIT clients and none is confused with `a` or `b`. -/
structure Clear (m : AgpsStateMachine) (a b : Subscriber) : Prop where
  isBit : ∀ x ∈ m.mSubscribers, x.isBit = true
  left : ∀ x ∈ m.mSubscribers, ¬ Confused x a
  right : ∀ x ∈ m.mSubscribers, ¬ Confused x b

/-- It stays like this if `a` or `b` subscribes. -/
theorem Clear.subscribe (h : Clear m a b) {c : Subscriber} (hc : c.isBit = true)
    (hca : ¬ Confused c a) (hcb : ¬ Confused c b)
    (ht : Transition m env (.subscribeRsrc c) m' out) : Clear m' a b where
  isBit := by
    refine forall_of_subscribe h.isBit (fun x hid => ?_) ht
    rw [isBit_eq, hid, ← isBit_eq]
    exact hc
  left := forall_of_subscribe h.left (fun _ hid hconf => hca (hconf.congr hid.symm rfl)) ht
  right := forall_of_subscribe h.right (fun _ hid hconf => hcb (hconf.congr hid.symm rfl)) ht

/-- Then neither of the two is affected if the other leaves. -/
theorem Clear.unaffected {one : Bool} (h : Clear m a b) (ho : Orderly one m)
    (ha : a.isBit = true) (hb : b.isBit = true) (hab : a.identity ≠ b.identity) (env : Env) :
    Unaffected m env a b ∧ Unaffected m env b a := by
  refine ⟨fun z hz hid => ?_, fun z hz hid => ?_⟩
  · exact unaffected_of_transition ho.unalike h.isBit ha h.left
      (perform_transition ho.toSound env _) hz (fun he => hab (he.symm.trans hid))
  · exact unaffected_of_transition ho.unalike h.isBit hb h.right
      (perform_transition ho.toSound env _) hz (fun he => hab (hid.symm.trans he))

/-- Two different BIT clients do not get in each other's way if and only if the
    machine takes more than one client and neither of them is confused with the
    other or with a client that is listed already. -/
theorem noInterference_iff {type : AGpsType} {one : Bool} {bearer : Int}
    {calls : List MachineCall} (h : Run.exec machineStep (.init type one bearer) calls = some m)
    (hbit : ∀ x ∈ m.mSubscribers, x.isBit = true) (ha : a.isBit = true) (hb : b.isBit = true)
    (hab : a.identity ≠ b.identity) (env₁ env₂ env₃ : Env) :
    NoInterference m env₁ env₂ env₃ a b ↔
      one = false ∧ ¬ Confused a b ∧ ∀ x ∈ m.mSubscribers, ¬ Confused x a ∧ ¬ Confused x b := by
  have ho := orderly_exec h
  have ho₁ := orderly_perform ho env₁ (.subscribeRsrc a)
  have ho₂ : Orderly one (m.subscribeBoth env₁ env₂ a b) :=
    orderly_perform ho₁ env₂ (.subscribeRsrc b)
  have ht₁ := perform_transition ho.toSound env₁ (.subscribeRsrc a)
  have ht₂ := perform_transition ho₁.toSound env₂ (.subscribeRsrc b)
  constructor
  · rintro ⟨⟨⟨x, hx, hxa⟩, y, hy, hyb⟩, _, _⟩
    refine ⟨?_, fun hc => ?_, fun z hz => ⟨fun hc => ?_, fun hc => ?_⟩⟩
    · -- Two are listed.
      refine Bool.eq_false_iff.mpr (fun hone => ?_)
      have hlen := Nat.le_antisymm (ho₂.single (ho₂.flag.trans hone)) (List.length_pos_of_mem hx)
      rcases List.length_eq_one_iff.mp hlen with ⟨z, hz⟩
      rw [hz, List.mem_singleton] at hx hy
      exact hab (by rw [← hxa, hx, ← hy, hyb])
    · exact not_confused_of_mem ho₂.unalike hx hy (hc.congr hxa hyb)
    · -- Whoever was listed is listed still.
      exact not_confused_of_mem ho₂.unalike (mem_of_subscribe ht₂ (mem_of_subscribe ht₁ hz)) hx
        (hc.congr rfl hxa)
    · exact not_confused_of_mem ho₂.unalike (mem_of_subscribe ht₂ (mem_of_subscribe ht₁ hz)) hy
        (hc.congr rfl hyb)
  · rintro ⟨hone, hconf, hnone⟩
    have hself : ∀ c, ¬ Confused c c := fun c hc => hc.identity_ne rfl
    have hba : ¬ Confused b a := fun hc => hconf hc.symm
    have hc : Clear m a b := ⟨hbit, fun x hx => (hnone x hx).1, fun x hx => (hnone x hx).2⟩
    have hc₁ := hc.subscribe ha (hself a) hconf ht₁
    have hc₂ := hc₁.subscribe hb hba (hself b) ht₂
    rcases lists_of_subscribe (ho.flag.trans hone) hbit ha hc.left ht₁ with ⟨x, hx, hxa⟩
    have hlists := lists_of_subscribe (ho₁.flag.trans hone) hc₁.isBit hb hc₁.right ht₂
    exact ⟨⟨⟨x, mem_of_subscribe ht₂ hx, hxa⟩, hlists⟩, hc.unaffected ho ha hb hab env₃,
      hc₂.unaffected ho₂ ha hb hab env₃⟩

/-- The hosts of one network, with the null bytes in between. -/
def host (n : UInt8) : Subscriber :=
  .bit 0 INADDR_NONE #v[0x20, 0x01, 0x0d, 0xb8, 0, 0, 0, 0, 0, 0, 0, 0, 0, 0, 0, n]

/-- A host of another network. -/
def foreign : Subscriber :=
  .bit 0 INADDR_NONE #v[0x20, 0x01, 0x0d, 0xb9, 0, 0, 0, 0, 0, 0, 0, 0, 0, 0, 0, 1]

/-- Hosts of different networks, while a client with an IPv4 address is listed. -/
theorem noInterference_foreign :
    ∃ m, Run.exec machineStep (.init AGPS_TYPE_WWAN_ANY false 0)
        [.interface .zeros (.subscribeRsrc (.bit 0 0x7f000001 (Vector.replicate 16 0)))] =
          some m ∧
      NoInterference m .zeros .zeros .zeros (host 1) foreign := by
  have hrun : Run.exec machineStep (.init AGPS_TYPE_WWAN_ANY false 0)
      [.interface .zeros (.subscribeRsrc (.bit 0 0x7f000001 (Vector.replicate 16 0)))] =
        some _ := rfl
  refine ⟨_, hrun, (noInterference_iff hrun (by decide) rfl rfl (by decide) _ _ _).mpr
    ⟨rfl, not_confused (by decide), fun x hx => ?_⟩⟩
  rcases List.mem_singleton.mp hx with rfl
  exact ⟨not_confused (by decide), not_confused (by decide)⟩

/-- Of two hosts of one network the second is not listed. -/
theorem hosts_interfere :
    ∃ m, Run.exec machineStep (.init AGPS_TYPE_WWAN_ANY false 0) [] = some m ∧
      (∀ x ∈ m.mSubscribers, x.isBit = true) ∧ (host 1).isBit = true ∧ (host 2).isBit = true ∧
      (host 1).identity ≠ (host 2).identity ∧
      ¬ NoInterference m .zeros .zeros .zeros (host 1) (host 2) := by
  refine ⟨_, rfl, by decide, rfl, rfl, by decide, fun h => ?_⟩
  rcases h.lists.2 with ⟨x, hx, hid⟩
  rcases List.mem_singleton.mp hx with rfl
  exact absurd hid (by decide)

end Runs

end Agps

end Taoshan
