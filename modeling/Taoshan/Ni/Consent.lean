import Taoshan.Lib.Run
import Taoshan.Ni.Session

/-!
# Consent

A response posted for a network initiated request was given for it, or says
that nothing was and the request's time is over.

This is not so in every interleaving. The flag `respRecvd` and the value `resp`
belong to no request, so whoever sets the flag when no thread is left to clear
it answers the next request. A thread does not belong to a request either, so
one that a restart has sent away may answer the request that comes after
(`restarted_answers`). Three things must not happen, and `Careful` forbids
them: a request is accepted while an earlier thread is not done, a request is
accepted and has no thread, or a response is written when its request is out of
the slot. In runs without them consent holds in every state, and each of them
can be followed to a post without consent by steps that are careful
(`consent_run`).

In a careful run there is one thread at most. `Stage` says what the record
looks like in the life of a request, and the steps go from stage to stage.

## Main definitions

* `Legit`, `Consent`: What may be posted for a request.
* `Careful`: The condition on steps.
* `Stage`: The life of a request.
* `Inv`: The invariant of careful runs.

## Theorems

* `inv_step`: A careful step keeps the invariant.
* `careful_of_still`: Writing a response in time is careful.
* `harm_of_flag`, `harm_of_left_over`: How a value gets posted.
* `harmful`: A step that is not careful can end in a post without consent.
* `consent_run`: Careful runs have consent, and no others could be allowed.
-/

namespace Taoshan

namespace Ni

open Run

/-- After the framework was notified of the request, this response was given
    with its id. -/
def Answered (given : List Given) (r : Request) (v : UserResponse) : Prop :=
  ∃ g ∈ given, g.notifId = r.notificationId ∧ g.userResponse = v ∧ r.serial < g.notified

/-- The time of the request is over. -/
def Expired (now : Nat) (r : Request) : Prop :=
  r.acceptedAt + 1000000 * respTime r.timeout ≤ now

/-- What may be posted for a request. -/
def Legit (s : Sys) (r : Request) (v : UserResponse) : Prop :=
  Answered s.given r v ∨ v = GPS_NI_RESPONSE_NORESP ∧ Expired s.now r

/-- All that was posted so far was legitimate. -/
def Consent (s : Sys) : Prop := ∀ m ∈ s.posted, Legit s m.1 m.2

/-- A response that is written now does no harm: the request in the slot may be
    answered with it, or the slot is empty and a thread is there to clear it
    away. -/
def Harmless (s : Sys) (c : Commit) : Prop :=
  match s.rawRequest with
  | none => ∃ t ∈ s.threads, t.Pending
  | some r => Legit s r c.userResponse

/-- A request is accepted only when all threads are done and with a thread of
    its own, and a response is written only where it does no harm. -/
def Careful (s : Sys) : Action → Prop
  | .request _ _ created =>
      s.niNotifyCb = true → s.rawRequest = none → s.threads = [] ∧ created = true
  | .commit i => ∀ c ∈ s.committing[i]?, Harmless s c
  | _ => True

instance (given : List Given) (r : Request) (v : UserResponse) :
    Decidable (Answered given r v) :=
  inferInstanceAs (Decidable (∃ g ∈ given, _))

instance (s : Sys) (r : Request) (v : UserResponse) : Decidable (Legit s r v) :=
  inferInstanceAs (Decidable (_ ∨ _ ∧ _ ≤ _))

instance (s : Sys) : Decidable (Consent s) :=
  inferInstanceAs (Decidable (∀ m ∈ s.posted, _))

instance (s : Sys) (c : Commit) : Decidable (Harmless s c) :=
  match h : s.rawRequest with
  | none => decidable_of_iff (∃ t ∈ s.threads, t.Pending) (by rw [Harmless, h])
  | some r => decidable_of_iff (Legit s r c.userResponse) (by rw [Harmless, h])

instance (s : Sys) : (a : Action) → Decidable (Careful s a)
  | .request _ _ _ => inferInstanceAs (Decidable (_ → _ → _ ∧ _))
  | .commit _ => inferInstanceAs (Decidable (∀ c ∈ _, Harmless s c))
  | .init _ | .respond _ _ | .start _ | .wake _ | .timedOut _ | .finish _ | .restart | .elapse _ =>
      isTrue trivial

section Stages

/-- The thread will answer the request in time: it has its time to wait still
    before it, or it waits until the request's time is over. -/
def InTime (s : Sys) (r : Request) : NiThread → Prop
  | .created => s.respTimeLeft = respTime r.timeout
  | .waiting expireTime => r.acceptedAt + 1000000 * respTime r.timeout ≤ expireTime
  | .unlocked _ => False

/-- The life of a request. -/
inductive Stage (s : Sys) : Prop
  | idle (threads : s.threads = []) (slot : s.rawRequest = none) (flag : s.respRecvd = false)
  | serving (t : NiThread) (r : Request) (threads : s.threads = [t])
      (slot : s.rawRequest = some r) (inTime : InTime s r t) (accepted : r.acceptedAt ≤ s.now)
      (notified : r.serial < s.notified.length) (id : r.notificationId = s.reqID)
      (flag : s.respRecvd = true → Legit s r s.resp)
  | cancelled (t : NiThread) (threads : s.threads = [t]) (pending : t.Pending)
      (slot : s.rawRequest = none) (flag : s.respRecvd = true)
  | closing (msg : Option (Request × UserResponse)) (threads : s.threads = [.unlocked msg])
      (slot : s.rawRequest = none) (flag : s.respRecvd = false)
      (legit : ∀ m ∈ msg, Legit s m.1 m.2)

/-- The invariant of careful runs. -/
structure Inv (s : Sys) : Prop where
  stage : Stage s
  consent : Consent s
  uninit : s.niNotifyCb = false → s.threads = [] ∧ s.rawRequest = none ∧ s.committing = []
  committing : ∀ c ∈ s.committing, Answered s.given c.request c.userResponse
  given : ∀ g ∈ s.given, g.notified ≤ s.notified.length

theorem inv_fresh : Inv fresh where
  stage := .idle rfl rfl rfl
  consent := fun _ hm => absurd hm List.not_mem_nil
  uninit := fun _ => ⟨rfl, rfl, rfl⟩
  committing := fun _ hc => absurd hc List.not_mem_nil
  given := fun _ hg => absurd hg List.not_mem_nil

theorem InTime.pending {s : Sys} {r : Request} {t : NiThread} (h : InTime s r t) : t.Pending := by
  cases t with
  | created => exact trivial
  | waiting expireTime => exact trivial
  | unlocked msg => exact h

/-- What is given stays given, and time goes on. -/
theorem Legit.mono {s t : Sys} {r : Request} {v : UserResponse} (h : Legit s r v)
    (hgiven : ∀ g ∈ s.given, g ∈ t.given) (hnow : s.now ≤ t.now) : Legit t r v := by
  rcases h with ⟨g, hg, heq⟩ | ⟨hv, hexp⟩
  · exact Or.inl ⟨g, hgiven g hg, heq⟩
  · exact Or.inr ⟨hv, le_trans hexp hnow⟩

/-- With one thread, a thread that is there is that one. -/
theorem thread_of_single {l : List NiThread} {t u : NiThread} {i : Nat} (hl : l = [t])
    (hi : l[i]? = some u) : i = 0 ∧ u = t := by
  rw [hl] at hi
  cases i with
  | zero => exact ⟨rfl, (Option.some.inj hi).symm⟩
  | succ i => exact nomatch hi

/-- Time and responses given do not change the stage. -/
theorem Stage.mono {s t : Sys} (h : Stage s) (hthreads : t.threads = s.threads)
    (hslot : t.rawRequest = s.rawRequest) (hflag : t.respRecvd = s.respRecvd)
    (hresp : t.resp = s.resp) (hleft : t.respTimeLeft = s.respTimeLeft)
    (hid : t.reqID = s.reqID) (hnotified : t.notified = s.notified)
    (hgiven : ∀ g ∈ s.given, g ∈ t.given) (hnow : s.now ≤ t.now) : Stage t := by
  cases h with
  | idle threads slot flag =>
      exact .idle (hthreads.trans threads) (hslot.trans slot) (hflag.trans flag)
  | serving u r threads slot inTime accepted notified id flag =>
      refine .serving u r (hthreads.trans threads) (hslot.trans slot) ?_ (le_trans accepted hnow)
        (by rw [hnotified]; exact notified) (by rw [hid]; exact id) ?_
      · cases u with
        | created => exact hleft.trans inTime
        | waiting expireTime => exact inTime
        | unlocked msg => exact inTime
      · intro hf
        rw [hresp]
        exact (flag (hflag.symm.trans hf)).mono hgiven hnow
  | cancelled u threads pending slot flag =>
      exact .cancelled u (hthreads.trans threads) pending (hslot.trans slot) (hflag.trans flag)
  | closing msg threads slot flag legit =>
      exact .closing msg (hthreads.trans threads) (hslot.trans slot) (hflag.trans flag)
        (fun m hm => (legit m hm).mono hgiven hnow)

/-- Without a thread there is nothing in session. -/
theorem Stage.idle_of_threads {s : Sys} (h : Stage s) (hnil : s.threads = []) :
    s.respRecvd = false := by
  cases h with
  | idle threads slot flag => exact flag
  | serving t r threads =>
      rw [hnil] at threads
      exact absurd threads.symm (List.cons_ne_nil _ _)
  | cancelled t threads =>
      rw [hnil] at threads
      exact absurd threads.symm (List.cons_ne_nil _ _)
  | closing msg threads =>
      rw [hnil] at threads
      exact absurd threads.symm (List.cons_ne_nil _ _)

/-- The locked section answers the request in the slot, if there is one, with
    the value in `resp`. -/
theorem stage_answer {s : Sys} {t : NiThread} (hthreads : s.threads = [t])
    (hlegit : ∀ r, s.rawRequest = some r → Legit s r s.resp) : Stage (niThreadAnswer s 0) := by
  refine .closing (s.rawRequest.map fun r => (r, s.resp)) ?_ rfl rfl ?_
  · simp only [niThreadAnswer, hthreads, List.set_cons_zero]
  · intro m hm
    rcases Option.map_eq_some_iff.mp hm with ⟨r, hr, rfl⟩
    exact hlegit r hr

/-- Whichever value is in `resp`, the locked section changes the stage and
    nothing else of the invariant. -/
theorem Inv.answer {s : Sys} {t : NiThread} {v : UserResponse} (h : Inv s)
    (hthreads : s.threads = [t]) (hlegit : ∀ r, s.rawRequest = some r → Legit s r v) :
    Inv (niThreadAnswer { s with resp := v } 0) where
  stage := stage_answer hthreads hlegit
  consent := h.consent
  uninit := fun hcb => nomatch hthreads.symm.trans (h.uninit hcb).1
  committing := h.committing
  given := h.given

theorem inv_init {s : Sys} (h : Inv s) (notifyCb : Bool) : Inv (niInit s notifyCb) := by
  unfold niInit
  by_cases harg : notifyCb = false
  · rw [if_pos harg]
    exact h
  · by_cases hcb : s.niNotifyCb = true
    · rw [if_neg harg, if_pos hcb]
      exact h
    · rw [if_neg harg, if_neg hcb]
      -- Nothing has happened before the first call.
      rcases h.uninit (Bool.not_eq_true _ ▸ hcb) with ⟨hthreads, _, _⟩
      exact {
        stage := .idle hthreads rfl rfl
        consent := h.consent
        uninit := fun hfalse => nomatch hfalse
        committing := h.committing
        given := h.given }

theorem inv_request {s : Sys} {notifyFlags timeout : Nat} {created : Bool} (h : Inv s)
    (hcareful : Careful s (.request notifyFlags timeout created)) :
    Inv (niRequestHandler s notifyFlags timeout created) := by
  unfold niRequestHandler
  by_cases hcb : s.niNotifyCb = false
  · rw [if_pos hcb]
    exact h
  · rw [if_neg hcb]
    cases hslot : s.rawRequest with
    | some r => exact h
    | none =>
        rcases hcareful (Bool.not_eq_false _ ▸ hcb) hslot with ⟨hthreads, hcreated⟩
        have hflag := h.stage.idle_of_threads hthreads
        exact {
          stage := by
            refine .serving .created ⟨s.notified.length, s.reqID, timeout, s.now⟩ ?_ rfl rfl
              (Nat.le_refl _) ?_ rfl ?_
            · simp only [hcreated, hthreads, if_true, List.nil_append]
            · simp only [List.length_append, List.length_singleton, Nat.lt_succ_self]
            · exact fun hf => nomatch hflag.symm.trans hf
          consent := h.consent
          uninit := fun hfalse => absurd hfalse hcb
          committing := h.committing
          given := fun g hg => by
            have hle := h.given g hg
            rw [List.length_append]
            omega }

/-- A response that passes the test was given for the request in the slot. -/
theorem inv_respond {s : Sys} {notifId : NotifId} {userResponse : UserResponse} (h : Inv s) :
    Inv (niRespondTest s notifId userResponse) := by
  have hmore : ∀ g ∈ s.given, g ∈ (niRespondTest s notifId userResponse).given :=
    fun g hg => List.mem_append_left _ hg
  have hold : ∀ c ∈ s.committing,
      Answered (niRespondTest s notifId userResponse).given c.request c.userResponse := by
    intro c hc
    rcases h.committing c hc with ⟨g, hg, heq⟩
    exact ⟨g, hmore g hg, heq⟩
  refine ⟨h.stage.mono rfl rfl rfl rfl rfl rfl rfl hmore (Nat.le_refl _),
    fun m hm => (h.consent m hm).mono hmore (Nat.le_refl _), ?_, ?_, ?_⟩
  · intro hcb
    rcases h.uninit hcb with ⟨hthreads, hslot, hcommitting⟩
    refine ⟨hthreads, hslot, ?_⟩
    simp only [niRespondTest] at hcb ⊢
    rw [if_pos hcb]
    exact hcommitting
  · intro c hc
    simp only [niRespondTest] at hc
    by_cases hcb : s.niNotifyCb = false
    · rw [if_pos hcb] at hc
      exact hold c hc
    · rw [if_neg hcb] at hc
      cases h.stage with
      | idle _ slot =>
          rw [slot] at hc
          exact hold c hc
      | cancelled _ _ _ slot =>
          rw [slot] at hc
          exact hold c hc
      | closing _ _ slot =>
          rw [slot] at hc
          exact hold c hc
      | serving t r _ slot _ _ notified id _ =>
          rw [slot] at hc
          simp only at hc
          by_cases heq : notifId = s.reqID
          · rw [if_pos heq] at hc
            rcases List.mem_append.mp hc with hc | hc
            · exact hold c hc
            · rw [List.mem_singleton.mp hc]
              exact ⟨⟨notifId, userResponse, s.notified.length⟩,
                List.mem_append_right _ (List.mem_singleton.mpr rfl), heq.trans id.symm, rfl,
                notified⟩
          · rw [if_neg heq] at hc
            exact hold c hc
  · intro g hg
    rcases List.mem_append.mp hg with hg | hg
    · exact h.given g hg
    · rw [List.mem_singleton.mp hg]
      exact Nat.le_refl _

theorem inv_commit {s t : Sys} {i : Nat} (h : Inv s) (hcareful : Careful s (.commit i))
    (hstep : niRespondCommit s i = some t) : Inv t := by
  unfold niRespondCommit at hstep
  cases hc : s.committing[i]? with
  | none => simp only [hc, reduceCtorEq] at hstep
  | some c =>
      simp only [hc, Option.some.injEq] at hstep
      have hharmless : Harmless s c := hcareful c hc
      have hsub : ∀ d ∈ s.committing.eraseIdx i, d ∈ s.committing :=
        fun d hd => List.mem_of_mem_eraseIdx hd
      rw [← hstep]
      refine ⟨?_, h.consent, fun hcb => ?_, fun d hd => h.committing d (hsub d hd), h.given⟩
      · unfold Harmless at hharmless
        cases h.stage with
        | idle threads slot =>
            rw [slot, threads] at hharmless
            rcases hharmless with ⟨u, hu, _⟩
            exact absurd hu List.not_mem_nil
        | serving u r threads slot inTime accepted notified id _ =>
            -- The value written may be posted for the request in the slot.
            rw [slot] at hharmless
            exact .serving u r threads slot (by cases u <;> exact inTime) accepted notified id
              (fun _ => hharmless)
        -- The thread that a restart has left will clear the flag.
        | cancelled u threads pending slot => exact .cancelled u threads pending slot rfl
        | closing msg threads slot =>
            rw [slot, threads] at hharmless
            rcases hharmless with ⟨u, hu, hpending⟩
            rw [List.mem_singleton.mp hu] at hpending
            exact absurd hpending not_false
      · -- Something was tested, so the callback is there.
        have hnil := (h.uninit hcb).2.2
        rw [hnil, List.getElem?_nil] at hc
        exact nomatch hc

/-- A thread that finds the flag set answers at once, with a legitimate value
    if there is a request. -/
theorem Stage.legit_of_flag {s : Sys} (h : Stage s) (hflag : s.respRecvd = true) :
    ∀ r, s.rawRequest = some r → Legit s r s.resp := by
  intro r hr
  cases h with
  | idle _ slot => exact nomatch slot.symm.trans hr
  | serving t u _ slot _ _ _ _ flag =>
      rw [slot, Option.some.injEq] at hr
      rw [← hr]
      exact flag hflag
  | cancelled _ _ _ slot => exact nomatch slot.symm.trans hr
  | closing _ _ slot => exact nomatch slot.symm.trans hr

/-- There is one thread at most. -/
theorem Stage.single {s : Sys} (h : Stage s) {i : Nat} {u : NiThread}
    (hi : s.threads[i]? = some u) : i = 0 ∧ s.threads = [u] := by
  have hone : ∃ t, s.threads = [t] := by
    cases h with
    | idle threads =>
        rw [threads, List.getElem?_nil] at hi
        exact nomatch hi
    | serving t _ threads => exact ⟨t, threads⟩
    | cancelled t threads => exact ⟨t, threads⟩
    | closing msg threads => exact ⟨_, threads⟩
  rcases hone with ⟨t, ht⟩
  rcases thread_of_single ht hi with ⟨hzero, heq⟩
  exact ⟨hzero, heq ▸ ht⟩

theorem inv_start {s t : Sys} {i : Nat} (h : Inv s) (hstep : niThreadStart s i = some t) :
    Inv t := by
  unfold niThreadStart at hstep
  split at hstep
  · rename_i hi
    rcases h.stage.single hi with ⟨rfl, hthreads⟩
    by_cases hflag : s.respRecvd = true
    · -- Someone was faster than the thread.
      rw [if_pos hflag, Option.some.injEq] at hstep
      rw [← hstep]
      exact h.answer hthreads (h.stage.legit_of_flag hflag)
    · rw [if_neg hflag, Option.some.injEq] at hstep
      rw [← hstep]
      refine ⟨?_, h.consent, fun hcb => ?_, h.committing, h.given⟩
      · cases h.stage with
        | idle threads => exact nomatch hthreads.symm.trans threads
        | serving u r threads slot inTime accepted notified id flag =>
            have hu : u = .created := List.singleton_inj.mp (threads.symm.trans hthreads)
            rw [hu] at inTime
            -- The clock is not behind the time of acceptance.
            refine .serving (.waiting (s.now + 1000000 * s.respTimeLeft)) r ?_ slot ?_ accepted
              notified id flag
            · simp only [hthreads, List.set_cons_zero]
            · simp only [InTime] at inTime ⊢
              rw [inTime]
              omega
        | cancelled _ _ _ _ flag => exact absurd flag hflag
        | closing msg threads => exact nomatch hthreads.symm.trans threads
      · exact nomatch hthreads.symm.trans (h.uninit hcb).1
  · exact nomatch hstep

theorem inv_wake {s t : Sys} {i : Nat} (h : Inv s) (hstep : niThreadWake s i = some t) :
    Inv t := by
  unfold niThreadWake at hstep
  split at hstep
  · rename_i hi
    rcases h.stage.single hi with ⟨rfl, hthreads⟩
    by_cases hflag : s.respRecvd = true
    · rw [if_pos hflag, Option.some.injEq] at hstep
      rw [← hstep]
      exact h.answer hthreads (h.stage.legit_of_flag hflag)
    · -- A wake-up for nothing.
      rw [if_neg hflag, Option.some.injEq] at hstep
      rw [← hstep]
      exact h
  · exact nomatch hstep

/-- The expire time of a thread with a request is past the time of the
    request. -/
theorem inv_timedOut {s t : Sys} {i : Nat} (h : Inv s)
    (hstep : niThreadTimedOut s i = some t) : Inv t := by
  unfold niThreadTimedOut at hstep
  split at hstep
  · rename_i expireTime hi
    rcases h.stage.single hi with ⟨rfl, hthreads⟩
    by_cases hexp : expireTime ≤ s.now
    · rw [if_pos hexp, Option.some.injEq] at hstep
      rw [← hstep]
      have hlegit : ∀ r, s.rawRequest = some r → Legit s r GPS_NI_RESPONSE_NORESP := by
        intro r hr
        cases h.stage with
        | idle _ slot => exact nomatch slot.symm.trans hr
        | serving u r' threads slot inTime =>
            have hu : u = .waiting expireTime :=
              List.singleton_inj.mp (threads.symm.trans hthreads)
            rw [slot, Option.some.injEq] at hr
            rw [hu, hr] at inTime
            exact Or.inr ⟨rfl, le_trans inTime hexp⟩
        | cancelled _ _ _ slot => exact nomatch slot.symm.trans hr
        | closing _ _ slot => exact nomatch slot.symm.trans hr
      exact h.answer hthreads hlegit
    · rw [if_neg hexp] at hstep
      exact nomatch hstep
  · exact nomatch hstep

/-- The tail posts what the locked section made. -/
theorem inv_finish {s t : Sys} {i : Nat} (h : Inv s) (hstep : niThreadFinish s i = some t) :
    Inv t := by
  unfold niThreadFinish at hstep
  split at hstep
  · rename_i msg hi
    rcases h.stage.single hi with ⟨rfl, hthreads⟩
    rw [Option.some.injEq] at hstep
    rw [← hstep]
    cases h.stage with
    | idle threads => exact nomatch hthreads.symm.trans threads
    | serving u r threads slot inTime =>
        rw [List.singleton_inj.mp (threads.symm.trans hthreads)] at inTime
        exact absurd inTime not_false
    | cancelled u threads pending =>
        rw [List.singleton_inj.mp (threads.symm.trans hthreads)] at pending
        exact absurd pending not_false
    | closing msg' threads slot flag legit =>
        have hmsg := List.singleton_inj.mp (threads.symm.trans hthreads)
        rw [NiThread.unlocked.injEq] at hmsg
        rw [hmsg] at legit
        -- The last thread is done, and its message is the one legitimate post.
        refine ⟨.idle ?_ slot flag, fun m hm => ?_, fun hcb => ?_, h.committing, h.given⟩
        · simp only [hthreads, List.eraseIdx_cons_zero]
        · rcases List.mem_append.mp hm with hm | hm
          · exact h.consent m hm
          · exact legit m (Option.mem_toList.mp hm)
        · exact nomatch hthreads.symm.trans (h.uninit hcb).1
  · exact nomatch hstep

/-- A restart leaves the thread of the request to be woken. -/
theorem inv_restart {s : Sys} (h : Inv s) : Inv (niResetOnEngineRestart s) := by
  unfold niResetOnEngineRestart
  by_cases hcb : s.niNotifyCb = false
  · rw [if_pos hcb]
    exact h
  · rw [if_neg hcb]
    cases hslot : s.rawRequest with
    | none => exact h
    | some r =>
        refine ⟨?_, h.consent, fun hfalse => absurd hfalse hcb, h.committing, h.given⟩
        cases h.stage with
        | idle _ slot => exact nomatch slot.symm.trans hslot
        | serving t _ threads _ inTime => exact .cancelled t threads inTime.pending rfl rfl
        | cancelled _ _ _ slot => exact nomatch slot.symm.trans hslot
        | closing _ _ slot => exact nomatch slot.symm.trans hslot

/-- A careful step keeps the invariant. -/
theorem inv_step {s t : Sys} {a : Action} (h : Inv s) (hcareful : Careful s a)
    (hstep : step s a = some t) : Inv t := by
  cases a with
  | init notifyCb =>
      rw [← Option.some.inj hstep]
      exact inv_init h notifyCb
  | request notifyFlags timeout created =>
      rw [← Option.some.inj hstep]
      exact inv_request h hcareful
  | respond notifId userResponse =>
      rw [← Option.some.inj hstep]
      exact inv_respond h
  | commit i => exact inv_commit h hcareful hstep
  | start i => exact inv_start h hstep
  | wake i => exact inv_wake h hstep
  | timedOut i => exact inv_timedOut h hstep
  | finish i => exact inv_finish h hstep
  | restart =>
      rw [← Option.some.inj hstep]
      exact inv_restart h
  | elapse d =>
      rw [← Option.some.inj hstep]
      have hnow : s.now ≤ s.now + d := Nat.le_add_right _ _
      exact ⟨h.stage.mono rfl rfl rfl rfl rfl rfl rfl (fun _ hg => hg) hnow,
        fun m hm => (h.consent m hm).mono (fun _ hg => hg) hnow, h.uninit, h.committing, h.given⟩

/-- A response is written in time if its request is still in the slot. -/
theorem careful_of_still {s : Sys} {c : Commit} (h : Inv s) (hc : c ∈ s.committing)
    (hslot : s.rawRequest = some c.request) : Harmless s c := by
  unfold Harmless
  rw [hslot]
  exact Or.inl (h.committing c hc)

end Stages

section Harm

/-- A post without consent can follow, by careful steps. -/
def Harm (s : Sys) : Prop := Reaches step Careful (fun u => ¬ Consent u) s

/-- A request accepted just now has no response yet, and has its time before
    it. -/
theorem not_legit_of_new {s : Sys} {r : Request} (hserial : ∀ g ∈ s.given, g.notified ≤ r.serial)
    (hnow : s.now = r.acceptedAt) (v : UserResponse) : ¬ Legit s r v := by
  rintro (⟨g, hg, _, _, hlt⟩ | ⟨_, hexp⟩)
  · have hle := hserial g hg
    omega
  · unfold Expired respTime at hexp
    omega

/-- A thread past its locked section posts its message. -/
theorem harm_of_unlocked {s : Sys} {i : Nat} {r : Request} {v : UserResponse}
    (hi : s.threads[i]? = some (.unlocked (some (r, v)))) (hnot : ¬ Legit s r v) : Harm s := by
  have hfinish : step s (.finish i) = some { s with
      respTimeLeft := 0
      reqID := s.reqID + 1
      threads := s.threads.eraseIdx i
      posted := s.posted ++ [(r, v)] } := by
    simp only [step, niThreadFinish, hi, Option.toList_some]
  refine Reaches.of_step hfinish trivial (Reaches.here (fun hconsent => hnot ?_))
  exact hconsent (r, v) (List.mem_append_right _ (List.mem_singleton.mpr rfl))

/-- With the flag set, a thread that has not answered yet may answer now. -/
theorem harm_of_flag {s : Sys} {i : Nat} {u : NiThread} {r : Request}
    (hi : s.threads[i]? = some u) (hpending : u.Pending) (hflag : s.respRecvd = true)
    (hslot : s.rawRequest = some r) (hnot : ¬ Legit s r s.resp) : Harm s := by
  -- Its locked section answers the request in the slot, and its tail posts that.
  have hanswer : Harm (niThreadAnswer s i) := by
    have hlt : i < s.threads.length := (List.getElem?_eq_some_iff.mp hi).1
    refine harm_of_unlocked (i := i) (r := r) (v := s.resp) ?_ hnot
    simp only [niThreadAnswer, hslot, Option.map_some, List.getElem?_set_self hlt]
  cases u with
  | created =>
      exact Reaches.of_step (a := .start i)
        (by simp only [step, niThreadStart, hi, hflag, if_true]) trivial hanswer
  | waiting expireTime =>
      exact Reaches.of_step (a := .wake i)
        (by simp only [step, niThreadWake, hi, hflag, if_true]) trivial hanswer
  | unlocked msg => exact absurd hpending not_false

/-- A thread that starts with no time left times out at once. -/
theorem harm_of_no_time {s : Sys} {r : Request} (hthreads : s.threads = [.created])
    (hflag : s.respRecvd = false) (hleft : s.respTimeLeft = 0) (hslot : s.rawRequest = some r)
    (hnot : ¬ Legit s r GPS_NI_RESPONSE_NORESP) : Harm s := by
  have hstart : step s (.start 0) = some { s with threads := [.waiting s.now] } := by
    simp only [step, niThreadStart, hthreads, List.getElem?_cons_zero, hflag, Bool.false_eq_true,
      if_false, hleft, Nat.mul_zero, Nat.add_zero, List.set_cons_zero]
  refine Reaches.of_step hstart trivial (Reaches.of_step (a := .timedOut 0) (t := niThreadAnswer
    { s with threads := [.waiting s.now], resp := GPS_NI_RESPONSE_NORESP } 0) ?_ trivial ?_)
  · simp only [step, niThreadTimedOut, List.getElem?_cons_zero, Nat.le_refl, if_true]
  · refine harm_of_unlocked (i := 0) (r := r) (v := GPS_NI_RESPONSE_NORESP) ?_ hnot
    simp only [niThreadAnswer, hslot, Option.map_some, List.set_cons_zero, List.getElem?_cons_zero]

/-- A flag that is left over when all threads are done answers the next
    request. -/
theorem harm_of_left_over {s : Sys} (hcb : s.niNotifyCb = true) (hthreads : s.threads = [])
    (hslot : s.rawRequest = none) (hflag : s.respRecvd = true)
    (hgiven : ∀ g ∈ s.given, g.notified ≤ s.notified.length) : Harm s := by
  refine Reaches.of_step (a := .request 0 0 true) rfl (fun _ _ => ⟨hthreads, rfl⟩) ?_
  refine harm_of_flag (i := 0) (u := .created)
    (r := ⟨s.notified.length, s.reqID, 0, s.now⟩) ?_ trivial ?_ ?_ ?_
  · simp only [niRequestHandler, hcb, hslot, hthreads, Bool.true_eq_false, if_false, if_true,
      List.nil_append, List.getElem?_cons_zero]
  · simp only [niRequestHandler, hcb, hslot, hflag, Bool.true_eq_false, if_false]
  · simp only [niRequestHandler, hcb, hslot, Bool.true_eq_false, if_false]
  · refine not_legit_of_new ?_ ?_ _
    · simp only [niRequestHandler, hcb, hslot, Bool.true_eq_false, if_false]
      exact hgiven
    · simp only [niRequestHandler, hcb, hslot, Bool.true_eq_false, if_false]

/-- After a request without a thread, a restart leaves the flag. -/
theorem harm_of_no_thread {s : Sys} {r : Request} (hcb : s.niNotifyCb = true)
    (hthreads : s.threads = []) (hslot : s.rawRequest = some r)
    (hgiven : ∀ g ∈ s.given, g.notified ≤ s.notified.length) : Harm s := by
  have hrestart : step s .restart = some { s with rawRequest := none, respRecvd := true } := by
    simp only [step, niResetOnEngineRestart, hcb, hslot, Bool.true_eq_false, if_false]
  exact Reaches.of_step hrestart trivial (harm_of_left_over hcb hthreads rfl rfl hgiven)

/-- The state a thread past its locked section leaves. -/
theorem harm_of_finish {s : Sys} (msg : Option (Request × UserResponse)) (rest : List NiThread)
    (hthreads : s.threads = .unlocked msg :: rest)
    (h : Harm { s with
      respTimeLeft := 0
      reqID := s.reqID + 1
      threads := rest
      posted := s.posted ++ msg.toList }) : Harm s := by
  refine Reaches.of_step (a := .finish 0) ?_ trivial h
  simp only [step, niThreadFinish, hthreads, List.getElem?_cons_zero, List.eraseIdx_cons_zero]

/-- A request that is accepted too early, or without a thread. -/
theorem harm_of_request {s : Sys} {notifyFlags timeout : Nat} {created : Bool} (h : Inv s)
    (hnot : ¬ Careful s (.request notifyFlags timeout created)) :
    Harm (niRequestHandler s notifyFlags timeout created) := by
  simp only [Careful, Classical.not_imp] at hnot
  rcases hnot with ⟨hcb, hslot, hbad⟩
  have hnew : ∀ v, ¬ Legit s ⟨s.notified.length, s.reqID, timeout, s.now⟩ v :=
    not_legit_of_new h.given rfl
  have hgiven : ∀ g ∈ s.given, g.notified ≤
      (s.notified ++ [(⟨s.notified.length, s.reqID, timeout, s.now⟩ : Request)]).length := by
    intro g hg
    have hle := h.given g hg
    rw [List.length_append]
    omega
  simp only [niRequestHandler, hcb, hslot, Bool.true_eq_false, if_false]
  cases h.stage with
  | serving t r _ slot => exact nomatch hslot.symm.trans slot
  | idle threads slot flag =>
      -- All threads are done, so it is the new one that is missing.
      have hcreated : created = false := by
        by_contra hne
        exact hbad ⟨threads, Bool.not_eq_false _ ▸ hne⟩
      refine harm_of_no_thread rfl ?_ rfl hgiven
      simp only [hcreated, Bool.false_eq_true, if_false, threads]
  | cancelled t threads pending slot flag =>
      -- The thread a restart has left answers the new request.
      refine harm_of_flag (i := 0) (u := t) ?_ pending flag rfl (hnew s.resp)
      by_cases hcreated : created = true
      · simp only [hcreated, if_true, threads, List.singleton_append, List.getElem?_cons_zero]
      · simp only [hcreated, Bool.false_eq_true, if_false, threads, List.getElem?_cons_zero]
  | closing msg threads slot flag legit =>
      by_cases hcreated : created = true
      · -- The tail of the old thread takes the time of the new one.
        refine harm_of_finish msg [.created] ?_
          (harm_of_no_time rfl flag rfl rfl (hnew _))
        simp only [hcreated, if_true, threads, List.singleton_append]
      · refine harm_of_finish msg [] ?_ (harm_of_no_thread rfl rfl rfl hgiven)
        simp only [hcreated, Bool.false_eq_true, if_false, threads]

/-- A response that is written too late. -/
theorem harm_of_commit {s t : Sys} {i : Nat} (h : Inv s) (hnot : ¬ Careful s (.commit i))
    (hstep : niRespondCommit s i = some t) : Harm t := by
  unfold niRespondCommit at hstep
  cases hc : s.committing[i]? with
  | none => simp only [hc, reduceCtorEq] at hstep
  | some c =>
      simp only [hc, Option.some.injEq] at hstep
      have hharm : ¬ Harmless s c := by
        intro hharmless
        refine hnot (fun d hd => ?_)
        rw [hc, Option.mem_some_iff] at hd
        rw [← hd]
        exact hharmless
      have hcb : s.niNotifyCb = true := by
        by_contra hfalse
        have hnil := (h.uninit (Bool.not_eq_true _ ▸ hfalse)).2.2
        rw [hnil] at hc
        exact nomatch hc
      unfold Harmless at hharm
      rw [← hstep]
      cases h.stage with
      -- All threads are done, and the flag stays set.
      | idle threads slot => exact harm_of_left_over hcb threads slot rfl h.given
      | serving u r threads slot inTime =>
          -- The thread wakes and answers with the value written.
          rw [slot] at hharm
          refine harm_of_flag (i := 0) (u := u) ?_ inTime.pending rfl slot hharm
          simp only [threads, List.getElem?_cons_zero]
      | cancelled u threads pending slot =>
          rw [slot] at hharm
          refine absurd ⟨u, ?_, pending⟩ hharm
          rw [threads]
          exact List.mem_singleton.mpr rfl
      | closing msg threads slot =>
          exact harm_of_finish msg [] threads (harm_of_left_over hcb rfl slot rfl h.given)

/-- A step that is not careful can end in a post without consent. -/
theorem harmful {s t : Sys} {a : Action} (h : Inv s) (hstep : step s a = some t)
    (hnot : ¬ Careful s a) : Harm t := by
  cases a with
  | request notifyFlags timeout created =>
      rw [← Option.some.inj hstep]
      exact harm_of_request h hnot
  | commit i => exact harm_of_commit h hnot hstep
  | init notifyCb => exact absurd trivial hnot
  | respond notifId userResponse => exact absurd trivial hnot
  | start i => exact absurd trivial hnot
  | wake i => exact absurd trivial hnot
  | timedOut i => exact absurd trivial hnot
  | finish i => exact absurd trivial hnot
  | restart => exact absurd trivial hnot
  | elapse d => exact absurd trivial hnot

end Harm

/-- In a careful run all posts have consent, in every state. No step that is not
    careful could be allowed: after a careful run, a step is careful exactly if
    all careful runs that follow it have consent. -/
theorem consent_run {acts : List Action} (hcareful : Guarded step Careful fresh acts) :
    Throughout step Consent fresh acts ∧
      ∀ s a t, exec step fresh acts = some s → step s a = some t →
        (Careful s a ↔ ∀ more, Guarded step Careful t more → Throughout step Consent t more) :=
  ⟨throughout_of_guarded Inv (fun _ h => h.consent) (fun _ _ _ => inv_step) inv_fresh hcareful,
    fun _ _ _ hexec hstep => guard_iff_safe Inv (fun _ h => h.consent) (fun _ _ _ => inv_step)
      (fun _ _ _ => harmful) inv_fresh hcareful hexec hstep⟩

/-- A request accepted by the user, one that times out, and one that a restart
    takes back before the fourth comes. -/
def wellBehaved : List Action :=
  [.init true, .request 0 0 true, .start 0, .respond 0 GPS_NI_RESPONSE_ACCEPT, .commit 0, .wake 0,
    .finish 0, .request 0 1 true, .start 0, .elapse 6000000, .timedOut 0, .finish 0,
    .request 0 0 true, .restart, .start 0, .finish 0, .request 0 0 true]

theorem consent_run_wellBehaved :
    Throughout step Consent fresh wellBehaved ∧
      ∀ s a t, exec step fresh wellBehaved = some s → step s a = some t →
        (Careful s a ↔ ∀ more, Guarded step Careful t more → Throughout step Consent t more) :=
  consent_run (by decide)

/-- The user accepts a request. Of the next one he is notified, but a restart
    comes first, and then a third request, before the thread of the second has
    woken. It finds the flag set, and answers the third request with what the
    user said to the first. -/
def restarted : List Action :=
  [.init true, .request 0 0 true, .start 0, .respond 0 GPS_NI_RESPONSE_ACCEPT, .commit 0, .wake 0,
    .finish 0, .request 0 0 true, .start 0, .restart, .request 0 0 true, .wake 0, .finish 0]

theorem restarted_answers :
    ¬ ∀ acts s, exec step fresh acts = some s → Consent s := by
  intro h
  have hlast := h restarted ((exec step fresh restarted).get rfl) (Option.some_get _).symm
  exact absurd hlast (by decide)

end Ni

end Taoshan
