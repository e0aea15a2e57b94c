import Mathlib.Data.List.Pairwise
import Taoshan.Lib.Run
import Taoshan.Agps.Transition

/-!
# State and List Agree

The Released state logs an error when it finds clients in its list and admits
that it would not know how to recover. It never does: the state and the list
agree after every call.

What is to be shown, four facts about state and list, is not preserved on its
own. In the Releasing state a client that is not a WIFI client may leave
together with all that equal it, and if a WIFI client waiting for its close
were one of them, nobody would be left to wait for. `WellFormed` therefore adds
that a WIFI client shares its `ID` with no other listed client, which is enough
because a comparison with a WIFI client is decided by the `ID`.

## Main definitions

* `callStep`: A run of the machine, call by call.
* `WellFormed`: The strengthened invariant.

## Theorems

* `occupied_of_transition`: A machine without clients is in the Released state.
* `single_of_transition`: A machine for a single client lists one at most.
* `wifi_stays`: A WIFI client does not leave with another.
* `wellFormed_of_transition`: Every call preserves the invariant.
* `wellFormed_run`: State and list agree throughout every run.
-/

namespace Taoshan

namespace Agps

/-- One call; every call can be made in every state. -/
def callStep (m : AgpsStateMachine) (call : Env × Op) : Option AgpsStateMachine :=
  some (m.perform call.1 call.2).1

/-- Two clients that are told apart by their `ID` if one is a WIFI client. -/
def Apart (x y : Subscriber) : Prop := x.isWifi = true ∨ y.isWifi = true → x.ID ≠ y.ID

instance : Std.Symm Apart := ⟨fun _ _ h hwifi => (h hwifi.symm).symm⟩

/-- State and list agree, and WIFI clients are told apart from all others. -/
structure WellFormed (m : AgpsStateMachine) : Prop extends Sound m where
  occupied : m.mSubscribers = [] → m.mStatePtr = .released
  active : m.mStatePtr = .pending ∨ m.mStatePtr = .acquired →
    ∃ x ∈ m.mSubscribers, x.isInactive = false
  inactive : m.mStatePtr = .releasing → ∃ x ∈ m.mSubscribers, x.isInactive = true
  single : m.mEnforceSingleSubscriber = true → m.mSubscribers.length ≤ 1
  distinct : m.mSubscribers.Pairwise Apart

section Occupied

variable {m m' : AgpsStateMachine} {env : Env} {op : Op} {out : List Effect}

/-- A call that leaves nobody behind leaves the machine in the Released state. -/
theorem occupied_of_transition (h : m.mSubscribers = [] → m.mStatePtr = .released)
    (ht : Transition m env op m' out) : m'.mSubscribers = [] → m'.mStatePtr = .released := by
  intro hl
  have hsettled : ∀ {n : AgpsStateMachine} {st : AgpsState} {req : List Effect},
      Settled env n st req → n.mSubscribers = [] → st = .released := by
    intro n st req hset hn
    cases hset with
    | empty _ _ => rfl
    | emptyReleasing _ _ => rfl
    | inactive _ hne _ => exact absurd hn hne
    | stay hne _ => exact absurd hn hne
  cases ht with
  | refuse _ _ => exact h hl
  | request _ _ => exact absurd hl (List.cons_ne_nil _ _)
  | join _ _ _ => exact h hl
  | enlist _ _ _ => exact absurd hl (List.cons_ne_nil _ _)
  | unknown _ => exact h hl
  | mute _ _ _ hset => exact hsettled hset hl
  | leave _ _ _ _ _ hset => exact hsettled hset hl
  | grant hst =>
      have hrel := h hl
      rw [hst] at hrel
      cases hrel
  | deny _ => rfl
  | force _ => rfl
  | close _ _ _ => rfl
  | reopen _ _ _ hne => exact absurd hl hne
  | ignore _ => exact h hl

/-- No call gives a machine for a single client a second one. -/
theorem single_of_transition
    (h : m.mEnforceSingleSubscriber = true → m.mSubscribers.length ≤ 1)
    (ht : Transition m env op m' out) :
    m'.mEnforceSingleSubscriber = true → m'.mSubscribers.length ≤ 1 := by
  intro h1
  -- A client joins an empty list, and no other call makes a list longer.
  have hjoin : ∀ {s : Subscriber}, m.mSubscribers = [] → (m.enlist s).mSubscribers.length ≤ 1 := by
    intro s hl
    simp only [AgpsStateMachine.enlist, hl, List.length_cons, List.length_nil]
    omega
  cases ht with
  | refuse _ _ => exact h h1
  | request _ hl => exact hjoin hl
  | join _ _ _ => exact h h1
  | enlist _ hone _ => exact hjoin (hone h1)
  | unknown _ => exact h h1
  | mute _ _ _ _ =>
      simp only [AgpsStateMachine.setInactive, List.length_map]
      exact h h1
  | leave _ _ _ _ _ _ => exact (List.length_filter_le _ _).trans (h h1)
  | grant _ => exact h h1
  | deny _ => exact Nat.zero_le 1
  | force _ => exact Nat.zero_le 1
  | close _ _ _ => exact Nat.zero_le 1
  | reopen _ _ hl _ =>
      subst hl
      exact (List.length_filter_le _ _).trans (h h1)
  | ignore _ => exact h h1

end Occupied

section Pieces

variable {m : AgpsStateMachine} {env : Env}

/-- Where the connection is requested or held, it is neither released nor being
    released. -/
theorem held_ne {st : AgpsState} (h : st = .pending ∨ st = .acquired) :
    st ≠ .released ∧ st ≠ .releasing := by
  rcases h with rfl | rfl
  · exact ⟨by decide, by decide⟩
  · exact ⟨by decide, by decide⟩

theorem wellFormed_init (type : AGpsType) (one : Bool) (bearer : Int) :
    WellFormed (.init type one bearer) where
  toSound := sound_init type one bearer
  occupied := fun _ => rfl
  active := fun hst => absurd rfl (held_ne hst).1
  inactive := fun h => (nomatch h)
  single := fun _ => Nat.zero_le 1
  distinct := List.Pairwise.nil

/-- An empty machine in the Released state is well formed. -/
theorem wellFormed_released (h : Sound (m.become .released [])) :
    WellFormed (m.become .released []) where
  toSound := h
  occupied := fun _ => rfl
  active := fun hst => absurd rfl (held_ne hst).1
  inactive := fun hst => (nomatch hst)
  single := fun _ => Nat.zero_le 1
  distinct := List.Pairwise.nil

/-- A client that matches no listed one can be told apart from them. -/
theorem distinct_enlist (h : WellFormed m) {w : Wild} {s : Subscriber}
    (hnew : ∀ x ∈ m.mSubscribers, x.equals w s = false) :
    (m.enlist s).mSubscribers.Pairwise Apart := by
  simp only [AgpsStateMachine.enlist, List.pairwise_cons, Apart, Subscriber.clone_isWifi,
    Subscriber.clone_ID]
  refine ⟨fun x hx hwifi hid => ?_, h.distinct⟩
  -- With a WIFI client on either side the search compared the two `ID`s.
  have hne := hnew x hx
  rw [Subscriber.equals_of_wifi hwifi.symm, ← hid, BEq.rfl] at hne
  exact Bool.noConfusion hne

/-- Of two listed clients one of which is a WIFI client, the other leaves
    alone. -/
theorem wifi_stays (h : WellFormed m) (w : Wild) {x y : Subscriber}
    (hx : x ∈ m.mSubscribers) (hy : y ∈ m.mSubscribers) (hwifi : y.isWifi = true)
    (hne : x.isWifi = false) : y.equals w x = false := by
  have hyx : y ≠ x := by
    intro he
    rw [he, hne] at hwifi
    exact Bool.noConfusion hwifi
  have hid : y.ID ≠ x.ID :=
    h.distinct.forall hy hx hyx (Or.inl hwifi)
  rw [Subscriber.equals_of_wifi (Or.inl hwifi)]
  exact beq_eq_false_iff_ne.mpr hid

/-- However an unsubscription ends, what it ends with agrees, provided that
    those waiting for a close are still there. -/
theorem wellFormed_settled {st : AgpsState} {req : List Effect}
    (hset : Settled env m st req) (hsound : Sound { m with mStatePtr := st })
    (hoccupied : m.mSubscribers = [] → st = .released)
    (hinactive : m.mStatePtr = .releasing → ∃ x ∈ m.mSubscribers, x.isInactive = true)
    (hsingle : m.mEnforceSingleSubscriber = true → m.mSubscribers.length ≤ 1)
    (hdistinct : m.mSubscribers.Pairwise Apart) :
    WellFormed { m with mStatePtr := st } := by
  refine ⟨hsound, hoccupied, ?_, ?_, hsingle, hdistinct⟩
  · intro hact
    cases hset with
    | empty _ _ => exact absurd rfl (held_ne hact).1
    | emptyReleasing _ _ => exact absurd rfl (held_ne hact).1
    | inactive _ _ _ => exact absurd rfl (held_ne hact).2
    | stay _ hactive => exact hactive (held_ne hact).2
  · intro hrel
    cases hset with
    | empty _ _ => cases hrel
    | emptyReleasing _ _ => cases hrel
    | inactive _ hne hall =>
        -- All that are left wait for the close, and somebody is left.
        rcases List.exists_mem_of_ne_nil _ hne with ⟨x, hx⟩
        exact ⟨x, hx, hall x hx⟩
    | stay _ _ => exact hinactive hrel

/-- Marking a client keeps all others as they are and those waiting waiting. -/
theorem setInactive_mem {x y : Subscriber} (hy : y ∈ m.mSubscribers)
    (hinactive : y.isInactive = true) :
    ∃ z ∈ (m.setInactive x).mSubscribers, z.isInactive = true := by
  refine ⟨_, List.mem_map_of_mem hy, ?_⟩
  by_cases hyx : y.obj = x.obj
  · rw [if_pos hyx]
    exact Subscriber.setInactive_isInactive (Subscriber.isWifi_of_isInactive hinactive)
  · rw [if_neg hyx]
    exact hinactive

theorem distinct_setInactive (h : WellFormed m) (x : Subscriber) :
    (m.setInactive x).mSubscribers.Pairwise Apart := by
  -- Neither the kind nor the `ID` of a client changes.
  have hkeep : ∀ y : Subscriber,
      (if y.obj = x.obj then y.setInactive else y).isWifi = y.isWifi ∧
        (if y.obj = x.obj then y.setInactive else y).ID = y.ID := by
    intro y
    by_cases hy : y.obj = x.obj
    · rw [if_pos hy]
      exact ⟨Subscriber.setInactive_isWifi y, Subscriber.setInactive_ID y⟩
    · rw [if_neg hy]
      exact ⟨rfl, rfl⟩
  simp only [AgpsStateMachine.setInactive, List.pairwise_map, Apart, (hkeep _).1, (hkeep _).2]
  exact h.distinct

end Pieces

section Runs

variable {m m' : AgpsStateMachine} {env : Env} {op : Op} {out : List Effect}

/-- Every call preserves the invariant. -/
theorem wellFormed_of_transition (h : WellFormed m) (ht : Transition m env op m' out) :
    WellFormed m' := by
  have hsound := sound_of_transition h.toSound ht
  have hocc := occupied_of_transition h.occupied ht
  have hsingle := single_of_transition h.single ht
  cases ht with
  | refuse _ _ => exact h
  | request hst hl =>
      refine ⟨hsound, hocc, fun _ => enlist_active, fun hr => (by cases hr), hsingle, ?_⟩
      simp only [AgpsStateMachine.enlist, hl]
      exact List.pairwise_singleton _ _
  | join _ _ _ => exact h
  | enlist hst hone hnew =>
      -- A client that joins is active, and those waiting for a close stay.
      refine ⟨hsound, hocc, fun _ => enlist_active, fun hr => ?_, hsingle,
        distinct_enlist h hnew⟩
      rcases h.inactive hr with ⟨x, hx, hin⟩
      exact ⟨x, List.mem_cons_of_mem _ hx, hin⟩
  | unknown _ => exact h
  | mute hst hx hwifi hset =>
      refine wellFormed_settled hset hsound hocc (fun hr => ?_) hsingle (distinct_setInactive h _)
      rcases h.inactive hr with ⟨y, hy, hin⟩
      exact setInactive_mem hy hin
  | leave hst hx hwifi hout _ hset =>
      refine wellFormed_settled hset hsound hocc (fun hr => ?_) hsingle
        (h.distinct.sublist List.filter_sublist)
      -- Whoever waits for a close is a WIFI client and does not leave with another.
      rcases h.inactive hr with ⟨y, hy, hin⟩
      have hstay := fun w => wifi_stays h w (List.mem_of_find?_eq_some hx) hy
        (Subscriber.isWifi_of_isInactive hin) hwifi
      refine ⟨y, List.mem_filter.mpr ⟨hy, ?_⟩, hin⟩
      rw [hstay]
      rfl
  | grant hst =>
      exact ⟨hsound, hocc, fun _ => h.active (Or.inl hst), fun hr => (by cases hr), h.single,
        h.distinct⟩
  | deny _ => exact wellFormed_released hsound
  | force _ => exact wellFormed_released hsound
  | close _ _ _ => exact wellFormed_released hsound
  | reopen hst hev hl hne =>
      subst hl
      -- The inactive clients are gone, so whoever is left is active.
      refine ⟨hsound, hocc, fun _ => ?_, fun hr => (by cases hr), hsingle,
        h.distinct.sublist List.filter_sublist⟩
      rcases List.exists_mem_of_ne_nil _ hne with ⟨x, hx⟩
      exact ⟨x, hx, Bool.not_eq_true' _ |>.mp (List.mem_filter.mp hx).2⟩
  | ignore _ => exact h

theorem wellFormed_step {call : Env × Op} (h : WellFormed m) (hs : callStep m call = some m') :
    WellFormed m' := by
  unfold callStep at hs
  rw [Option.some.injEq] at hs
  rw [← hs]
  exact wellFormed_of_transition h (perform_transition h.toSound call.1 call.2)

/-- The flag is set once and for all. -/
theorem mEnforceSingleSubscriber_of_transition (ht : Transition m env op m' out) :
    m'.mEnforceSingleSubscriber = m.mEnforceSingleSubscriber := by
  cases ht <;> rfl

/-- After every call of every run, the machine is in the Released state if and
    only if nobody is listed, somebody active is listed while the connection is
    requested or held, somebody inactive is listed while it is being closed,
    and a machine for a single client lists one at most. -/
theorem wellFormed_run (type : AGpsType) (one : Bool) (bearer : Int)
    (calls : List (Env × Op)) :
    Run.Throughout callStep (fun m =>
      (m.mStatePtr = .released ↔ m.mSubscribers = []) ∧
      (m.mStatePtr = .pending ∨ m.mStatePtr = .acquired →
        ∃ x ∈ m.mSubscribers, x.isInactive = false) ∧
      (m.mStatePtr = .releasing → ∃ x ∈ m.mSubscribers, x.isInactive = true) ∧
      (one = true → m.mSubscribers.length ≤ 1))
      (.init type one bearer) calls := by
  refine Run.throughout_invariant
    (fun m => WellFormed m ∧ m.mEnforceSingleSubscriber = one) ?_ ?_ calls
    ⟨wellFormed_init type one bearer, rfl⟩
  · rintro m ⟨h, hone⟩
    exact ⟨⟨h.released, h.occupied⟩, h.active, h.inactive, fun h1 => h.single (hone.trans h1)⟩
  · rintro m call m' ⟨h, hone⟩ hs
    refine ⟨wellFormed_step h hs, ?_⟩
    unfold callStep at hs
    rw [Option.some.injEq] at hs
    rw [← hs, ← hone]
    exact mEnforceSingleSubscriber_of_transition (perform_transition h.toSound call.1 call.2)

end Runs

end Agps

end Taoshan
