import Taoshan.Lib.Run
import Taoshan.Ni.Steps

/-!
# The Slot and its Thread

A request in the slot is waited for by the thread that was started for it.

The handler fills the slot before it tries to start the thread that will empty
it, and if there is no thread it only says so in the log. Then nothing of the
session is left to empty the slot: no response can, for a response only wakes a
thread, and later requests find the slot taken. So every request accepted must
get its thread (`Threaded`), and that is all it takes. A thread that was left
over by a restart may take a later request out of the slot, but it empties the
slot doing so; the thread the request was started with then finds nothing.

The record does not say which request a thread was started for. `Tagged` is
the session with that written beside each thread, and is only observed.

## Main definitions

* `Tagged`, `tagStep`: The session with the requests its threads are for.
* `Served`: The request in the slot has its thread before its locked section.
* `Threaded`: The condition on steps.

## Theorems

* `tagged_exec`: The tags do not change the session.
* `slotInv_step`: A step that meets the condition keeps the invariant.
* `served_clears`: A thread that serves the slot empties it, by itself.
* `served_run`: When the slot is served.
-/

namespace Taoshan

namespace Ni

open Run

/-- The session, and for each thread the serial of the request it was started
    for. -/
structure Tagged where
  sys : Sys
  startedFor : List Nat

/-- A thread is tagged when it is made, and its tag goes with it. -/
def tagsAfter (s : Sys) (tags : List Nat) : Action → List Nat
  | .request _ _ created =>
      if s.niNotifyCb ∧ s.rawRequest = none ∧ created then tags ++ [s.notified.length] else tags
  | .finish i => tags.eraseIdx i
  | _ => tags

def tagStep (s : Tagged) (a : Action) : Option Tagged :=
  match step s.sys a with
  | none => none
  | some t => some ⟨t, tagsAfter s.sys s.startedFor a⟩

def Tagged.fresh : Tagged := ⟨Ni.fresh, []⟩

theorem tagStep_inv {s t : Tagged} {a : Action} (h : tagStep s a = some t) :
    step s.sys a = some t.sys ∧ t.startedFor = tagsAfter s.sys s.startedFor a := by
  unfold tagStep at h
  split at h
  · cases h
  · next u hu =>
      rw [Option.some.injEq] at h
      rw [← h]
      exact ⟨hu, rfl⟩

/-- A run is a run with tags. -/
theorem tagged_exec {as : List Action} : ∀ {s : Tagged} {t : Sys},
    exec step s.sys as = some t → ∃ tags, exec tagStep s as = some ⟨t, tags⟩ := by
  induction as with
  | nil =>
      intro s t h
      rw [exec_nil, Option.some.injEq] at h
      exact ⟨s.startedFor, by rw [← h]; rfl⟩
  | cons a as ih =>
      intro s t h
      rcases exec_cons_inv h with ⟨u, hu, hrest⟩
      rcases ih (s := ⟨u, tagsAfter s.sys s.startedFor a⟩) hrest with ⟨tags, htags⟩
      refine ⟨tags, ?_⟩
      rw [exec_cons_of_step as (by unfold tagStep; rw [hu])]
      exact htags

/-- A thread that was started for the request is there and has its locked
    section before it. -/
def ServedBy (s : Tagged) (r : Request) : Prop :=
  ∃ (i : Nat) (u : NiThread), s.sys.threads[i]? = some u ∧ u.Pending ∧
    s.startedFor[i]? = some r.serial

/-- The request in the slot, if there is one, has its thread. -/
def Served (s : Tagged) : Prop := ∀ r, s.sys.rawRequest = some r → ServedBy s r

/-- A request that is accepted gets a thread. -/
def Threaded (s : Tagged) : Action → Prop
  | .request _ _ created => s.sys.niNotifyCb = true → s.sys.rawRequest = none → created = true
  | _ => True

instance (s : Tagged) : (a : Action) → Decidable (Threaded s a)
  | .request _ _ _ => inferInstanceAs (Decidable (_ → _ → _))
  | .init _ | .respond _ _ | .commit _ | .start _ | .wake _ | .timedOut _ | .finish _ | .restart
  | .elapse _ => isTrue trivial

/-- Every thread has its tag, the serial of a request that was accepted, and
    the slot is served. -/
structure SlotInv (s : Tagged) : Prop where
  tags : s.startedFor.length = s.sys.threads.length
  serials : ∀ k ∈ s.startedFor, k < s.sys.notified.length
  served : Served s

theorem slotInv_fresh : SlotInv .fresh := ⟨rfl, fun _ hk => absurd hk List.not_mem_nil, nofun⟩

/-- A step that accepts no request makes no tag, and one that ends no thread
    removes none. -/
theorem step_tags {s t : Sys} {a : Action} {tags : List Nat} (h : step s a = some t)
    (hsame : t.notified = s.notified) (hlen : t.threads.length = s.threads.length) :
    tagsAfter s tags a = tags := by
  cases a with
  | request f m c =>
      refine if_neg (fun hc => ?_)
      -- A request accepted is notified.
      simp only [step, niRequestHandler, hc.1, hc.2.1, Bool.true_eq_false, if_false,
        Option.some.injEq] at h
      have hlonger := congrArg List.length hsame
      rw [← h, List.length_append, List.length_singleton] at hlonger
      exact absurd hlonger (Nat.succ_ne_self _)
  | finish i =>
      simp only [step, niThreadFinish] at h
      split at h
      · next msg hi =>
          rw [Option.some.injEq] at h
          have hlt := (List.getElem?_eq_some_iff.mp hi).1
          rw [← h, List.length_eraseIdx, if_pos hlt] at hlen
          omega
      · cases h
  | _ => rfl

/-- A thread that has its locked section before it is the same one after a quiet
    step. -/
theorem Quiet.pending {s t : Sys} (h : Quiet s t) {i : Nat} {u : NiThread}
    (hi : s.threads[i]? = some u) (hu : u.Pending) : ∃ v, t.threads[i]? = some v ∧ v.Pending := by
  rcases h.threads with heq | ⟨j, e, hj, heq⟩
  · exact ⟨u, heq ▸ hi, hu⟩
  · by_cases hij : j = i
    · subst hij
      have hlt := (List.getElem?_eq_some_iff.mp hi).1
      exact ⟨.waiting e, by rw [heq, List.getElem?_set_self hlt], trivial⟩
    · exact ⟨u, by rw [heq, List.getElem?_set_ne hij]; exact hi, hu⟩

/-- A thread that is done is not the one that serves the slot. -/
theorem getElem?_eraseIdx_other {α : Type*} {l : List α} {i j : Nat} {x : α} (h : l[i]? = some x)
    (hne : i ≠ j) : ∃ k : Nat, (l.eraseIdx j)[k]? = some x ∧
      ∀ {β : Type} (m : List β) (y : β), m[i]? = some y → (m.eraseIdx j)[k]? = some y := by
  rcases Nat.lt_or_gt_of_ne hne with hlt | hgt
  · exact ⟨i, by rw [List.getElem?_eraseIdx_of_lt hlt]; exact h,
      fun m y hy => by rw [List.getElem?_eraseIdx_of_lt hlt]; exact hy⟩
  · have hk : i - 1 + 1 = i := Nat.succ_pred_eq_of_pos (Nat.zero_lt_of_lt hgt)
    have hge : j ≤ i - 1 := Nat.le_pred_of_lt hgt
    exact ⟨i - 1, by rw [List.getElem?_eraseIdx_of_ge hge, hk]; exact h,
      fun m y hy => by rw [List.getElem?_eraseIdx_of_ge hge, hk]; exact hy⟩

/-- A step that gives every accepted request its thread keeps the slot served. -/
theorem slotInv_step {s t : Tagged} {a : Action} (h : SlotInv s) (hg : Threaded s a)
    (hstep : tagStep s a = some t) : SlotInv t := by
  rcases tagStep_inv hstep with ⟨hsys, htags⟩
  have hempty : t.sys.rawRequest = none → Served t :=
    fun hnone r hr => absurd (hnone.symm.trans hr) nofun
  cases step_change hsys with
  | quiet same =>
      rw [step_tags hsys same.notified same.length_threads] at htags
      refine ⟨?_, ?_, fun r hr => ?_⟩
      · rw [htags, same.length_threads]
        exact h.tags
      · rw [htags, same.notified]
        exact h.serials
      · rcases h.served r (same.rawRequest ▸ hr) with ⟨i, u, hi, hu, htag⟩
        rcases same.pending hi hu with ⟨v, hv, hpending⟩
        exact ⟨i, v, hv, hpending, htags ▸ htag⟩
  | inited off on slot id notified threads =>
      rw [step_tags hsys notified (by rw [threads])] at htags
      refine ⟨?_, ?_, hempty slot⟩
      · rw [htags, threads]
        exact h.tags
      · rw [htags, notified]
        exact h.serials
  | accepted notifyFlags timeout created r action on empty still slot serial id same notified
      threads =>
      rw [action] at hg htags
      have hcreated : created = true := hg on empty
      subst hcreated
      have htag : t.startedFor = s.startedFor ++ [s.sys.notified.length] :=
        htags.trans (if_pos ⟨on, empty, rfl⟩)
      rw [if_pos rfl] at threads
      refine ⟨?_, fun k hk => ?_, fun r' hr' => ?_⟩
      · rw [htag, threads, List.length_append, List.length_append, h.tags, List.length_singleton,
          List.length_singleton]
      · rw [notified, List.length_append, List.length_singleton]
        rw [htag] at hk
        rcases List.mem_append.mp hk with hk | hk
        · exact Nat.lt_succ_of_lt (h.serials k hk)
        · rw [List.mem_singleton.mp hk]
          exact Nat.lt_succ_self _
      · -- The new thread and its tag are the last of their lists.
        rw [slot, Option.some.injEq] at hr'
        subst hr'
        refine ⟨s.sys.threads.length, .created, ?_, trivial, ?_⟩
        · rw [threads]
          exact List.getElem?_concat_length
        · rw [htag, ← h.tags, serial]
          exact List.getElem?_concat_length
  | answered i u msg thread pending taken niNotifyCb slot id notified threads =>
      rw [step_tags hsys notified (by rw [threads, List.length_set])] at htags
      refine ⟨?_, ?_, hempty slot⟩
      · rw [htags, threads, List.length_set]
        exact h.tags
      · rw [htags, notified]
        exact h.serials
  | finished i msg action thread niNotifyCb slot id notified threads =>
      rw [action] at htags
      have hi := (List.getElem?_eq_some_iff.mp thread).1
      have htag : t.startedFor = s.startedFor.eraseIdx i := htags
      refine ⟨?_, fun k hk => ?_, fun r hr => ?_⟩
      · rw [htag, threads, List.length_eraseIdx, List.length_eraseIdx, h.tags]
      · rw [htag] at hk
        rw [notified]
        exact h.serials k (List.mem_of_mem_eraseIdx hk)
      · rcases h.served r (slot ▸ hr) with ⟨j, u, hj, hu, hserial⟩
        -- The thread that ends is past its locked section, so it is another.
        have hji : j ≠ i := by
          intro heq
          rw [heq, thread, Option.some.injEq] at hj
          rw [← hj] at hu
          exact hu
        rcases getElem?_eraseIdx_other hj hji with ⟨k, hk, hsame⟩
        exact ⟨k, u, by rw [threads]; exact hk, hu, by rw [htag]; exact hsame _ _ hserial⟩
  | cleared on full niNotifyCb slot id notified threads =>
      rw [step_tags hsys notified (by rw [threads])] at htags
      refine ⟨?_, ?_, hempty slot⟩
      · rw [htags, threads]
        exact h.tags
      · rw [htags, notified]
        exact h.serials

/-- A request accepted without a thread has none, then or later. -/
theorem threaded_of_served {s t : Tagged} {a : Action} (h : SlotInv s)
    (hstep : tagStep s a = some t) (ht : Served t) : Threaded s a := by
  rcases tagStep_inv hstep with ⟨hsys, htags⟩
  cases a with
  | request notifyFlags timeout created =>
      intro hon hempty
      by_contra hnot
      simp only [step, niRequestHandler, hon, Bool.true_eq_false, if_false, hempty,
        Option.some.injEq] at hsys
      have htag : t.startedFor = s.startedFor := htags.trans (if_neg (fun hc => hnot hc.2.2))
      rcases ht _ (by rw [← hsys]) with ⟨i, u, _, _, hserial⟩
      -- All tags are those of earlier requests.
      rw [htag] at hserial
      exact Nat.lt_irrefl _ (h.serials _ (List.mem_of_getElem? hserial))
  | _ => trivial

/-- A thread in its wait empties the slot when its time is over. -/
theorem waiting_clears {s : Sys} {i e : Nat} (hi : s.threads[i]? = some (.waiting e)) :
    ∃ t, exec step s [.elapse e, .timedOut i] = some t ∧ t.rawRequest = none := by
  have hlate : e ≤ s.now + e := Nat.le_add_left _ _
  refine ⟨niThreadAnswer { s with now := s.now + e, resp := GPS_NI_RESPONSE_NORESP } i, ?_, rfl⟩
  simp only [exec, step, niThreadTimedOut, hi, hlate, if_true]

/-- The steps of the thread, and time. -/
def OfThread (i : Nat) (a : Action) : Prop :=
  (∃ d, a = .elapse d) ∨ a = .start i ∨ a = .timedOut i

/-- A thread that serves the slot empties it, with nobody's help: it starts, if
    it has not, and waits until its time is over. -/
theorem served_clears {s : Tagged} {r : Request} (h : ServedBy s r) :
    ∃ i as t, (∀ a ∈ as, OfThread i a) ∧ exec step s.sys as = some t ∧ t.rawRequest = none := by
  rcases h with ⟨i, u, hi, hu, _⟩
  have hwait : ∀ e, ∀ a ∈ [Action.elapse e, .timedOut i], OfThread i a := by
    intro e a ha
    rcases List.mem_cons.mp ha with rfl | ha
    · exact Or.inl ⟨e, rfl⟩
    · exact Or.inr (Or.inr (List.mem_singleton.mp ha))
  cases u with
  | waiting e =>
      rcases waiting_clears hi with ⟨t, ht, hnone⟩
      exact ⟨i, _, t, hwait e, ht, hnone⟩
  | created =>
      by_cases hflag : s.sys.respRecvd = true
      · refine ⟨i, [.start i], niThreadAnswer s.sys i, fun a ha => ?_, ?_, rfl⟩
        · exact Or.inr (Or.inl (List.mem_singleton.mp ha))
        · simp only [exec, step, niThreadStart, hi, hflag, if_true]
      · have hlt := (List.getElem?_eq_some_iff.mp hi).1
        have hstart : ∃ x e, step s.sys (.start i) = some x ∧
            x.threads[i]? = some (.waiting e) := by
          simp only [step, niThreadStart, hi, if_neg hflag]
          exact ⟨_, _, rfl, List.getElem?_set_self hlt⟩
        rcases hstart with ⟨x, e, hx, hwaiting⟩
        rcases waiting_clears hwaiting with ⟨t, ht, hnone⟩
        refine ⟨i, _, t, fun a ha => ?_, (exec_cons_of_step _ hx).trans ht, hnone⟩
        rcases List.mem_cons.mp ha with rfl | ha
        · exact Or.inr (Or.inl rfl)
        · exact hwait e a ha
  | unlocked msg => exact absurd hu not_false

/-- In a run, the request in the slot has at any time a thread that was started
    for it and will take it out, exactly if every request that was accepted got
    its thread. -/
theorem served_run (as : List Action) :
    Throughout tagStep Served .fresh as ↔ Guarded tagStep Threaded .fresh as :=
  throughout_iff_guarded SlotInv (fun _ h => h.served)
    (fun _ _ _ hs hg hstep => slotInv_step hs hg hstep)
    (fun _ _ _ hs hstep ht => threaded_of_served hs hstep ht) slotInv_fresh

/-- A request for which no thread could be made is still in the slot when the
    user has answered and its time is long over, and the next is ignored. -/
def unthreaded : List Action :=
  [.init true, .request 0 1 false, .respond 0 GPS_NI_RESPONSE_ACCEPT, .commit 0,
    .elapse 60000000, .request 0 1 true]

theorem unthreaded_not_served : ∃ s, exec tagStep .fresh unthreaded = some s ∧
    (∃ r, s.sys.rawRequest = some r ∧ ¬ ServedBy s r) ∧ s.sys.threads = [] ∧
    s.sys.notified.length = 1 :=
  ⟨(exec tagStep .fresh unthreaded).get rfl, (Option.some_get _).symm,
    ⟨_, rfl, fun ⟨_, _, h, _⟩ => nomatch h⟩, rfl, rfl⟩

end Ni

end Taoshan
