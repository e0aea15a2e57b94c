import Mathlib.Algebra.Group.Nat.Defs
import Mathlib.Data.List.Nodup
import Taoshan.Lib.Run
import Taoshan.Ni.Steps

/-!
# Notification Ids

When the framework can tell requests apart by their ids, and when a response
with the id of the request in session is let in.

The id of a request is `reqID` at the time it is accepted. Not the handler but
the thread of the request advances the counter, and it does so last of all,
after the slot has been free for a while. A request accepted in between has the
id of the one before, and when the counter goes on the response to it is turned
away. The same happens after a restart, which empties the slot at once, and
after a thread could not be made, for then nobody advances the counter. And the
counter has 32 bits.

All of this is one condition on the step that accepts a request (`CaughtUp`):
the counter, as an unsigned number, is the number of requests accepted so far.
In runs that meet it the counter is the number of threads that are done, no
thread is left when a request is accepted, and the ids are `0, 1, 2, ...`
(`Inv`). A step that breaks it gives the new request an id that was given
before (`not_nodup_of_behind`), so the condition is exact.

## Main definitions

* `Identified`: Ids are distinct, and that of the request in session is let in.
* `CaughtUp`: The condition on steps.
* `Ids.Inv`: The invariant.

## Theorems

* `Ids.inv_step`: A step that meets the condition keeps the invariant.
* `not_nodup_of_behind`: One that does not gives an id again.
* `identified_run`: When ids identify requests.
-/

namespace Taoshan

namespace Ni

open Run

/-- No two requests were notified with one id, and a response with the id of the
    request in the slot passes the test. -/
def Identified (s : Sys) : Prop :=
  (s.notified.map Request.notificationId).Nodup ∧
    ∀ r v, s.rawRequest = some r →
      (niRespondTest s r.notificationId v).committing = s.committing ++ [⟨r, v⟩]

/-- A request is accepted only when the counter has caught up with the number
    of requests accepted before. -/
def CaughtUp (s : Sys) : Action → Prop
  | .request _ _ _ =>
      s.niNotifyCb = true → s.rawRequest = none → s.reqID.toNat = s.notified.length
  | _ => True

instance (s : Sys) : (a : Action) → Decidable (CaughtUp s a)
  | .request _ _ _ => inferInstanceAs (Decidable (_ → _ → _))
  | .init _ | .respond _ _ | .commit _ | .start _ | .wake _ | .timedOut _ | .finish _ | .restart
  | .elapse _ => isTrue trivial

namespace Ids

/-- The ids of the first `n` requests. -/
def firstIds (n : Nat) : List NotifId := (List.range n).map (BitVec.ofNat 32)

theorem firstIds_succ (n : Nat) : firstIds (n + 1) = firstIds n ++ [BitVec.ofNat 32 n] := by
  simp only [firstIds, List.range_succ, List.map_append, List.map_cons, List.map_nil]

theorem mem_firstIds {n k : Nat} (h : k < n) : BitVec.ofNat 32 k ∈ firstIds n :=
  List.mem_map_of_mem (List.mem_range.mpr h)

/-- So many ids are distinct as 32 bits can hold. -/
theorem nodup_firstIds {n : Nat} (h : n ≤ 2 ^ 32) : (firstIds n).Nodup := by
  refine List.Nodup.map_on (fun i hi j hj heq => ?_) List.nodup_range
  have hi' := List.mem_range.mp hi
  have hj' := List.mem_range.mp hj
  have hnat := congrArg BitVec.toNat heq
  rw [BitVec.toNat_ofNat, BitVec.toNat_ofNat, Nat.mod_eq_of_lt (by omega),
    Nat.mod_eq_of_lt (by omega)] at hnat
  exact hnat

/-- The counter is the number of threads that are done. Those that are not,
    with those that are, are no more than the requests, and at most one request
    has no thread that is done. -/
structure Inv (s : Sys) (done : Nat) : Prop where
  ids : s.notified.map Request.notificationId = firstIds s.notified.length
  bound : s.notified.length ≤ 2 ^ 32
  counter : s.reqID = BitVec.ofNat 32 done
  threads : done + s.threads.length ≤ s.notified.length
  last : s.notified.length ≤ done + 1
  slot : ∀ r, s.rawRequest = some r →
    s.niNotifyCb = true ∧ r.notificationId = s.reqID ∧ AllPending s.threads
  uninit : s.niNotifyCb = false → s.notified = []

theorem inv_fresh : Inv fresh 0 where
  ids := rfl
  bound := Nat.zero_le _
  counter := rfl
  threads := Nat.le_refl _
  last := Nat.zero_le _
  slot := nofun
  uninit := fun _ => rfl

theorem Inv.identified {s : Sys} {done : Nat} (h : Inv s done) : Identified s := by
  refine ⟨?_, fun r v hr => ?_⟩
  · rw [h.ids]
    exact nodup_firstIds h.bound
  · rcases h.slot r hr with ⟨hon, hid, _⟩
    simp only [niRespondTest, hon, Bool.true_eq_false, if_false, hr, hid, if_true]

/-- A step that changes neither ids nor counter nor the number of threads. -/
theorem Inv.congr {s t : Sys} {done : Nat} (h : Inv s done) (hnotified : t.notified = s.notified)
    (hid : t.reqID = s.reqID) (hthreads : t.threads.length = s.threads.length)
    (hcb : t.niNotifyCb = s.niNotifyCb)
    (hslot : ∀ r, t.rawRequest = some r → s.rawRequest = some r ∧ AllPending t.threads) :
    Inv t done where
  ids := by rw [hnotified]; exact h.ids
  bound := by rw [hnotified]; exact h.bound
  counter := hid.trans h.counter
  threads := by rw [hnotified, hthreads]; exact h.threads
  last := by rw [hnotified]; exact h.last
  slot := fun r hr => by
    rcases hslot r hr with ⟨hs, hpending⟩
    rcases h.slot r hs with ⟨hon, hrid, _⟩
    exact ⟨hcb.trans hon, hrid.trans hid.symm, hpending⟩
  uninit := fun hoff => by
    rw [hnotified]
    exact h.uninit (hcb.symm.trans hoff)

/-- When the counter has caught up all threads are done. -/
theorem Inv.done_of_caughtUp {s : Sys} {done : Nat} (h : Inv s done)
    (hup : s.reqID.toNat = s.notified.length) :
    done = s.notified.length ∧ s.threads = [] ∧ s.notified.length < 2 ^ 32 := by
  have hlt : s.notified.length < 2 ^ 32 := hup ▸ s.reqID.isLt
  have hle : done ≤ s.notified.length := Nat.le_of_add_right_le h.threads
  rw [h.counter, BitVec.toNat_ofNat, Nat.mod_eq_of_lt (by omega)] at hup
  have hnil : s.threads.length = 0 := by
    have hthreads := h.threads
    omega
  exact ⟨hup, List.length_eq_zero_iff.mp hnil, hlt⟩

/-- A step that accepts requests only when the counter has caught up. -/
theorem inv_step {s t : Sys} {a : Action} (hs : ∃ done, Inv s done) (hg : CaughtUp s a)
    (hstep : step s a = some t) : ∃ done, Inv t done := by
  rcases hs with ⟨done, h⟩
  cases step_change hstep with
  | quiet same =>
      exact ⟨done, h.congr same.notified same.reqID same.length_threads same.niNotifyCb
        (fun r hr => ⟨same.rawRequest ▸ hr, same.allPending
          (h.slot r (same.rawRequest ▸ hr)).2.2⟩)⟩
  | inited off on slot id notified threads =>
      -- Nothing was accepted before, so nothing is lost with the counter.
      have hnil : s.notified = [] := h.uninit off
      have hzero : done + s.threads.length = 0 := by
        have hthreads := h.threads
        rw [hnil, List.length_nil] at hthreads
        omega
      refine ⟨0, ?_, ?_, ?_, ?_, ?_, fun r hr => ?_, fun _ => notified.trans hnil⟩
      · rw [notified]
        exact h.ids
      · rw [notified]
        exact h.bound
      · exact id
      · rw [threads, notified, hnil, List.length_nil]
        omega
      · rw [notified, hnil]
        exact Nat.zero_le _
      · rw [slot] at hr
        cases hr
  | accepted notifyFlags timeout created r action on empty still slot serial id same notified
      threads =>
      rw [action] at hg
      rcases h.done_of_caughtUp (hg on empty) with ⟨hdone, hnil, hlt⟩
      refine ⟨done, ?_, ?_, same.trans h.counter, ?_, ?_, fun r' hr' => ?_, fun hoff => ?_⟩
      · rw [notified, List.length_append, List.map_append, h.ids, List.length_singleton,
          firstIds_succ, List.map_cons, List.map_nil, id, h.counter, hdone]
      · rw [notified, List.length_append, List.length_singleton]
        omega
      · rw [threads, notified, hnil, List.length_append, List.length_singleton, hdone]
        cases created with
        | true => exact Nat.le_refl _
        | false => exact Nat.le_succ _
      · rw [notified, List.length_append, List.length_singleton, hdone]
      · rw [slot, Option.some.injEq] at hr'
        subst hr'
        refine ⟨still, id.trans same.symm, ?_⟩
        rw [threads, hnil]
        cases created with
        | true =>
            intro u hu
            rw [List.mem_singleton.mp hu]
            exact trivial
        | false => exact fun u hu => absurd hu List.not_mem_nil
      · rw [still] at hoff
        cases hoff
  | answered i u msg thread pending taken niNotifyCb slot id notified threads =>
      exact ⟨done, h.congr notified id (by rw [threads, List.length_set]) niNotifyCb
        (fun r hr => absurd (slot.symm.trans hr) nofun)⟩
  | finished i msg action thread niNotifyCb slot id notified threads =>
      have hi : i < s.threads.length := (List.getElem?_eq_some_iff.mp thread).1
      have hlen : t.threads.length + 1 = s.threads.length := by
        rw [threads, List.length_eraseIdx, if_pos hi]
        omega
      have hthreads := h.threads
      have hlast := h.last
      refine ⟨done + 1, ?_, ?_, ?_, ?_, ?_, fun r hr => ?_, fun hoff => ?_⟩
      · rw [notified]
        exact h.ids
      · rw [notified]
        exact h.bound
      · rw [id, h.counter, BitVec.ofNat_add]
        rfl
      · rw [notified]
        omega
      · rw [notified]
        omega
      · -- The thread had passed its locked section, so the slot was empty.
        have hpending := (h.slot r (slot ▸ hr)).2.2 _ (List.mem_of_getElem? thread)
        exact absurd hpending not_false
      · rw [notified]
        exact h.uninit (niNotifyCb.symm.trans hoff)
  | cleared on full niNotifyCb slot id notified threads =>
      exact ⟨done, h.congr notified id (by rw [threads]) niNotifyCb
        (fun r hr => absurd (slot.symm.trans hr) nofun)⟩

/-- A counter that has not caught up has a value that was given as an id. -/
theorem not_nodup_of_behind {s : Sys} {done : Nat} (h : Inv s done)
    (hbehind : s.reqID.toNat ≠ s.notified.length) : s.reqID ∈ firstIds s.notified.length := by
  have hle : done ≤ s.notified.length := Nat.le_of_add_right_le h.threads
  rw [h.counter] at hbehind ⊢
  by_cases hdone : done < s.notified.length
  · exact mem_firstIds hdone
  · -- All threads are done, so it is the counter that was too small.
    have heq : done = s.notified.length := by omega
    have hbound := h.bound
    rw [BitVec.toNat_ofNat] at hbehind
    have hwrap : s.notified.length = 2 ^ 32 := by
      by_contra hne
      exact hbehind (by rw [heq, Nat.mod_eq_of_lt (by omega)])
    have hzero : BitVec.ofNat 32 done = BitVec.ofNat 32 0 := by
      rw [heq, hwrap]
      rfl
    rw [hzero]
    exact mem_firstIds (by rw [hwrap]; decide)

/-- A step that keeps the ids distinct was one the condition allows. -/
theorem caughtUp_of_identified {s t : Sys} {a : Action} (hs : ∃ done, Inv s done)
    (hstep : step s a = some t) (ht : Identified t) : CaughtUp s a := by
  rcases hs with ⟨done, h⟩
  cases a with
  | request notifyFlags timeout created =>
      intro hon hempty
      by_contra hbehind
      simp only [step, niRequestHandler, hon, Bool.true_eq_false, if_false, hempty,
        Option.some.injEq] at hstep
      have hnodup := ht.1
      rw [← hstep, List.map_append, List.map_cons, List.map_nil, h.ids] at hnodup
      exact (List.nodup_append.mp hnodup).2.2 _ (not_nodup_of_behind h hbehind) _
        List.mem_cons_self rfl
  | _ => trivial

end Ids

/-- In a run, no two requests are notified with one id and no response with the
    id of the request in session is turned away, at any time, exactly if
    requests are accepted only when the counter has caught up. -/
theorem identified_run (as : List Action) :
    Throughout step Identified fresh as ↔ Guarded step CaughtUp fresh as :=
  throughout_iff_guarded (fun s => ∃ done, Ids.Inv s done) (fun _ ⟨_, h⟩ => h.identified)
    (fun _ _ _ hs hg hstep => Ids.inv_step hs hg hstep)
    (fun _ _ _ hs hstep ht => Ids.caughtUp_of_identified hs hstep ht) ⟨0, Ids.inv_fresh⟩

/-- A request times out, and the next is accepted before the thread of the first
    has advanced the counter. -/
def overlapped : List Action :=
  [.init true, .request 0 1 true, .start 0, .elapse 6000000, .timedOut 0, .request 0 1 true,
    .finish 0]

/-- Both have the id 0, and a response with that id is turned away. -/
theorem overlapped_not_identified : ∃ s, exec step fresh overlapped = some s ∧
    ¬ (s.notified.map Request.notificationId).Nodup ∧
    ∃ r, s.rawRequest = some r ∧
      (niRespondTest s r.notificationId GPS_NI_RESPONSE_ACCEPT).committing = s.committing :=
  ⟨(exec step fresh overlapped).get rfl, (Option.some_get _).symm, by decide, _, rfl, by decide⟩

end Ni

end Taoshan
