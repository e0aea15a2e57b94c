import Taoshan.Agps.Service

/-!
# Nobody Waits Forever

Machine and service can come to disagree about the connection, as `Service`
shows. What cannot happen is that a client waits for an answer that never
comes, or that a close is never completed.

This asks little of the service. It may grant a request or refuse it, it may
take a connection away on its own, and its answers may be late and may be taken
for answers to other requests. Clients come and go meanwhile, and the modem may
restart, which empties the list of the machine in whatever state it is. All that
counts is that every request is answered in the end. For a machine that waits
has asked: in the Pending state there is an answer under way that will end it,
or a request that will earn one, and so there is in the Releasing state
(`Waits`). Neither state leaves without taking one of these, and neither is
entered without sending a request.

So if the clients stop, the service and its channel have only so much left to
do. A close that somebody has been waiting for makes one more request, but once
only. At the end the machine has a connection or it is in the Released state
and lists nobody (`settles`).

## Main definitions

* `Happening`, `Link.happen`: Everything that happens to machine and service.
* `Attends`: The part of the service in it.
* `Waits`: What a state that waits is waiting for.
* `Link.due`: How much is left to do.

## Theorems

* `waits_happen`: Whatever happens, no wait is in vain.
* `due_happen`: The service gets its work done.
* `settles`: When it has, nobody waits.
-/

namespace Taoshan

namespace Agps

/-- Clients come and go, the modem restarts, the service takes the connection
    away, takes a request and grants or refuses it, and an answer arrives. -/
inductive Happening
  | subscribe (env : Env) (s : Subscriber)
  | unsubscribe (env : Env) (s : Subscriber)
  | restart
  | revoke
  | serve (grants : Bool)
  | deliver (env : Env)

/-- How a request is answered by a service that may refuse it. -/
def answerWith (grants : Bool) : AGpsStatusValue → AgpsRsrcStatus
  | .requestAgpsDataConn => if grants then .granted else .denied
  | .releaseAgpsDataConn => .released

/-- The service, at work. -/
def Attends : Happening → Prop
  | .serve _ => True
  | .deliver _ => True
  | _ => False

namespace Link

def happen (s : Link) : Happening → Option Link
  | .subscribe env subscriber => some (s.call env (.subscribeRsrc subscriber))
  | .unsubscribe env subscriber => some (s.call env (.unsubscribeRsrc subscriber))
  -- The list is flushed and the state is not told.
  | .restart => some { s with machine := s.machine.dropAllSubscribers.1 }
  | .revoke => some { s with isOpen := false, answers := s.answers ++ [.released] }
  | .serve grants => match s.requests with
    | [] => none
    | q :: qs => some { s with requests := qs, isOpen := q == .requestAgpsDataConn && grants,
                               answers := s.answers ++ [answerWith grants q] }
  | .deliver env => match s.answers with
    | [] => none
    | a :: as => some ({ s with answers := as }.call env (.onRsrcEvent a))

/-- How much the service has left to do: every request is taken and answered,
    and a close may be followed by one more. -/
def due (s : Link) : Nat :=
  2 * s.requests.length + s.answers.length + if s.machine.mStatePtr = .releasing then 2 else 0

end Link

open Link

/-- A state that waits has an answer coming that will end it, or a request out
    that will earn one. -/
def Waits : AgpsState → List AGpsStatusValue → List AgpsRsrcStatus → Prop
  | .pending, requests, answers =>
      .requestAgpsDataConn ∈ requests ∨ .granted ∈ answers ∨ .denied ∈ answers
  | .releasing, requests, answers =>
      .releaseAgpsDataConn ∈ requests ∨ .released ∈ answers ∨ .denied ∈ answers
  | _, _, _ => True

/-- What is kept whatever happens. -/
structure Waiting (s : Link) : Prop where
  sound : Sound s.machine
  waits : Waits s.machine.mStatePtr s.requests s.answers

section Waits

variable {st st' : AgpsState} {requests reqs : List AGpsStatusValue}
  {answers : List AgpsRsrcStatus} {active : Bool}

/-- More on its way does no harm. -/
theorem Waits.mono {requests' : List AGpsStatusValue} {answers' : List AgpsRsrcStatus}
    (h : Waits st requests answers) (hreq : requests ⊆ requests') (hans : answers ⊆ answers') :
    Waits st requests' answers' := by
  cases st with
  | released => exact trivial
  | acquired => exact trivial
  | pending => exact h.imp (fun hq => hreq hq) (Or.imp (fun ha => hans ha) (fun ha => hans ha))
  | releasing => exact h.imp (fun hq => hreq hq) (Or.imp (fun ha => hans ha) (fun ha => hans ha))

/-- A request that is answered is not lost. -/
theorem Waits.served {q : AGpsStatusValue} {qs : List AGpsStatusValue}
    {answers' : List AgpsRsrcStatus} (grants : Bool) (h : Waits st requests answers)
    (hreq : requests ⊆ q :: qs) (hans : answers ⊆ answers')
    (hnew : answerWith grants q ∈ answers') : Waits st qs answers' := by
  cases st with
  | released => exact trivial
  | acquired => exact trivial
  | pending =>
      rcases h with hq | ha
      · rcases List.mem_cons.mp (hreq hq) with rfl | hq
        · -- The answer is a grant or a refusal, and either will do.
          cases grants with
          | true => exact Or.inr (Or.inl hnew)
          | false => exact Or.inr (Or.inr hnew)
        · exact Or.inl hq
      · exact Or.inr (ha.imp (fun ha => hans ha) (fun ha => hans ha))
  | releasing =>
      rcases h with hq | ha
      · rcases List.mem_cons.mp (hreq hq) with rfl | hq
        · exact Or.inr (Or.inl hnew)
        · exact Or.inl hq
      · exact Or.inr (ha.imp (fun ha => hans ha) (fun ha => hans ha))

/-- With nothing under way, nothing is waited for. -/
theorem Waits.settled (h : Waits st [] []) : st = .acquired ∨ st = .released := by
  cases st with
  | released => exact Or.inr rfl
  | acquired => exact Or.inl rfl
  | pending => simp only [Waits, List.not_mem_nil, or_self] at h
  | releasing => simp only [Waits, List.not_mem_nil, or_self] at h

/-- A client's call: who begins to wait has just asked. -/
theorem Waits.called {op : Op} (hop : ∀ ev, op ≠ .onRsrcEvent ev)
    (hctl : Control active st op st' reqs) (h : Waits st requests answers) :
    Waits st' (requests ++ reqs) answers := by
  have hmore := fun st (hst : Waits st requests answers) =>
    hst.mono (List.subset_append_left requests reqs) (List.Subset.refl answers)
  cases hctl with
  | «open» => exact Or.inl (List.mem_append_right _ List.mem_cons_self)
  | join _ => exact hmore _ h
  | remain => exact hmore _ h
  | release _ hst' =>
      rcases hst' with rfl | rfl
      · exact trivial
      · exact Or.inl (List.mem_append_right _ List.mem_cons_self)
  | desert => exact trivial
  | granted => exact absurd rfl (hop _)
  | denied => exact absurd rfl (hop _)
  | forced => exact absurd rfl (hop _)
  | closed _ _ => exact absurd rfl (hop _)
  | reopened _ _ => exact absurd rfl (hop _)
  | ignored _ => exact absurd rfl (hop _)

/-- An answer that is not the one waited for leaves the others. -/
theorem Waits.delivered {a : AgpsRsrcStatus}
    (hctl : Control active st (.onRsrcEvent a) st' reqs) (h : Waits st requests (a :: answers)) :
    Waits st' (requests ++ reqs) answers := by
  cases hctl with
  | granted => exact trivial
  | denied => exact trivial
  | forced => exact trivial
  | closed _ _ => exact trivial
  | reopened _ _ => exact Or.inl (List.mem_append_right _ List.mem_cons_self)
  | ignored hign =>
      rw [List.append_nil]
      -- What the state ignores is not what it waits for.
      have hother : ∀ {b : AgpsRsrcStatus}, ignored st b = false → b ∈ a :: answers →
          b ∈ answers := by
        intro b hb hmem
        rcases List.mem_cons.mp hmem with rfl | hmem
        · rw [hign] at hb
          exact Bool.noConfusion hb
        · exact hmem
      cases st with
      | released => exact trivial
      | acquired => exact trivial
      | pending => exact h.imp id (Or.imp (hother rfl) (hother rfl))
      | releasing => exact h.imp id (Or.imp (hother rfl) (hother rfl))

end Waits

section Steps

variable {s t : Link}

theorem waiting_init (type : AGpsType) (one : Bool) (bearer : Int) :
    Waiting (.init type one bearer) where
  sound := sound_init type one bearer
  waits := trivial

/-- Whatever happens, no wait is in vain. -/
theorem waits_happen {a : Happening} (h : Waiting s) (hs : s.happen a = some t) : Waiting t := by
  cases a with
  | subscribe env x =>
      rw [← Option.some.inj hs]
      have hctl := control_perform h.sound env (.subscribeRsrc x)
      exact ⟨sound_of_transition h.sound (perform_transition h.sound env _),
        h.waits.called (fun _ => Op.noConfusion) hctl⟩
  | unsubscribe env x =>
      rw [← Option.some.inj hs]
      have hctl := control_perform h.sound env (.unsubscribeRsrc x)
      exact ⟨sound_of_transition h.sound (perform_transition h.sound env _),
        h.waits.called (fun _ => Op.noConfusion) hctl⟩
  | restart =>
      rw [← Option.some.inj hs]
      exact ⟨sound_drop, h.waits⟩
  | revoke =>
      rw [← Option.some.inj hs]
      exact ⟨h.sound, h.waits.mono (List.Subset.refl _) (List.subset_append_left _ _)⟩
  | serve grants =>
      have hwaits := h.waits
      cases hq : s.requests with
      | nil => simp only [happen, hq, reduceCtorEq] at hs
      | cons q qs =>
          rw [hq] at hwaits
          simp only [happen, hq, Option.some.injEq] at hs
          rw [← hs]
          exact ⟨h.sound, hwaits.served grants (List.Subset.refl _)
            (List.subset_append_left _ _) (List.mem_append_right _ List.mem_cons_self)⟩
  | deliver env =>
      have hwaits := h.waits
      cases ha : s.answers with
      | nil => simp only [happen, ha, reduceCtorEq] at hs
      | cons a as =>
          rw [ha] at hwaits
          simp only [happen, ha, Option.some.injEq] at hs
          rw [← hs]
          exact ⟨sound_of_transition h.sound (perform_transition h.sound env _),
            hwaits.delivered (control_perform h.sound env (.onRsrcEvent a))⟩

/-- An answer uses up some of what is left to do. -/
theorem due_delivered {st st' : AgpsState} {active : Bool} {a : AgpsRsrcStatus}
    {reqs : List AGpsStatusValue} (hctl : Control active st (.onRsrcEvent a) st' reqs) :
    2 * reqs.length + (if st' = .releasing then 2 else 0) ≤ if st = .releasing then 2 else 0 := by
  cases hctl with
  | granted => decide
  | denied => decide
  | forced => decide
  | closed _ _ => decide
  | reopened _ _ => decide
  | ignored _ => rw [List.length_nil, Nat.mul_zero, Nat.zero_add]

/-- The service gets its work done, one piece at a time. -/
theorem due_happen {a : Happening} (h : Waiting s) (ha : Attends a) (hs : s.happen a = some t) :
    t.due + 1 ≤ s.due := by
  cases a with
  | subscribe _ _ => exact ha.elim
  | unsubscribe _ _ => exact ha.elim
  | restart => exact ha.elim
  | revoke => exact ha.elim
  | serve grants =>
      cases hq : s.requests with
      | nil => simp only [happen, hq, reduceCtorEq] at hs
      | cons q qs =>
          simp only [happen, hq, Option.some.injEq] at hs
          rw [← hs]
          simp only [due, hq, List.length_cons, List.length_append, List.length_nil]
          omega
  | deliver env =>
      cases hans : s.answers with
      | nil => simp only [happen, hans, reduceCtorEq] at hs
      | cons a as =>
          have hcost := due_delivered (control_perform h.sound env (.onRsrcEvent a))
          simp only [happen, hans, Option.some.injEq] at hs
          rw [← hs, due, due, hans, List.length_cons]
          change 2 * (s.requests ++ requestsOf (s.machine.perform env (.onRsrcEvent a)).2).length +
            as.length + (if (s.machine.perform env (.onRsrcEvent a)).1.mStatePtr = .releasing
              then 2 else 0) + 1 ≤ _
          rw [List.length_append]
          omega

/-- As long as something is under way, there is something to do. -/
theorem attends_of_due (h : s.requests ≠ [] ∨ s.answers ≠ []) :
    ∃ b, Attends b ∧ (s.happen b).isSome := by
  rcases h with h | h
  · rcases List.exists_cons_of_ne_nil h with ⟨q, qs, hq⟩
    refine ⟨.serve true, trivial, ?_⟩
    simp only [happen, hq, Option.isSome_some]
  · rcases List.exists_cons_of_ne_nil h with ⟨a, as, ha⟩
    refine ⟨.deliver .zeros, trivial, ?_⟩
    simp only [happen, ha, Option.isSome_some]

/-- With nothing under way, nobody waits. -/
theorem settled_of_waiting (h : Waiting s) (hreq : s.requests = []) (hans : s.answers = []) :
    s.machine.mStatePtr = .acquired ∨
      s.machine.mStatePtr = .released ∧ s.machine.mSubscribers = [] := by
  have hwaits := h.waits
  rw [hreq, hans] at hwaits
  exact hwaits.settled.imp id fun hst => ⟨hst, h.sound.released hst⟩

/-- The steps of the service after a run are no more than were due. -/
theorem length_le_due {bs : List Happening} (h : Waiting s) (hbs : ∀ b ∈ bs, Attends b)
    (hrun : Run.exec happen s bs = some t) : Waiting t ∧ t.due + bs.length ≤ s.due := by
  induction bs generalizing s with
  | nil =>
      rw [Run.exec_nil, Option.some.injEq] at hrun
      rw [← hrun]
      exact ⟨h, Nat.le_refl _⟩
  | cons b bs ih =>
      rcases Run.exec_cons_inv hrun with ⟨u, hu, hrest⟩
      have hone := due_happen h (hbs b List.mem_cons_self) hu
      rcases ih (waits_happen h hu) (fun c hc => hbs c (List.mem_cons_of_mem _ hc)) hrest with
        ⟨hwait, hmany⟩
      refine ⟨hwait, ?_⟩
      rw [List.length_cons]
      omega

/-- Whatever has happened, the service needs only so many steps to answer
    everything if nothing else happens meanwhile, it can always make the next of
    them, and when it has answered everything the machine has a connection or
    lists nobody. -/
theorem settles {type : AGpsType} {one : Bool} {bearer : Int} {as bs : List Happening}
    (hrun : Run.exec happen (.init type one bearer) as = some s) (hbs : ∀ b ∈ bs, Attends b)
    (hserved : Run.exec happen s bs = some t) :
    bs.length ≤ 2 * s.requests.length + s.answers.length + 2 ∧
      (t.requests ≠ [] ∨ t.answers ≠ [] → ∃ b, Attends b ∧ (t.happen b).isSome) ∧
      (t.requests = [] → t.answers = [] → t.machine.mStatePtr = .acquired ∨
        t.machine.mStatePtr = .released ∧ t.machine.mSubscribers = []) := by
  have hinv : Waiting s := Run.exec_invariant Waiting (fun _ _ _ h hs => waits_happen h hs)
    (waiting_init type one bearer) hrun
  rcases length_le_due hinv hbs hserved with ⟨hwait, hlen⟩
  refine ⟨?_, attends_of_due, settled_of_waiting hwait⟩
  have hdue : s.due ≤ 2 * s.requests.length + s.answers.length + 2 := by
    unfold due
    by_cases hst : s.machine.mStatePtr = .releasing
    · rw [if_pos hst]
    · rw [if_neg hst]
      omega
  omega

/-- A client leaves and another comes before the close is complete, which takes a
    release for the connection being taken away. -/
def overlapping : List Happening :=
  [.subscribe .zeros (.atl 0 1 false), .serve true, .deliver .zeros,
    .unsubscribe .zeros (.atl 0 1 false), .subscribe .zeros (.atl 0 2 false), .revoke]

theorem settles_overlapping :
    ∃ s t, Run.exec happen (.init AGPS_TYPE_SUPL false 0) overlapping = some s ∧
      Run.exec happen s [.serve true, .deliver .zeros, .deliver .zeros, .serve false,
        .deliver .zeros] = some t ∧ 5 ≤ 2 * s.requests.length + s.answers.length + 2 ∧
      t.machine.mSubscribers = [] := by
  refine ⟨_, _, rfl, rfl, ?_⟩
  have hall := @settles _ _ AGPS_TYPE_SUPL false 0 overlapping [.serve true, .deliver .zeros,
    .deliver .zeros, .serve false, .deliver .zeros] rfl (by
      intro b hb
      simp only [List.mem_cons, List.not_mem_nil, or_false] at hb
      rcases hb with rfl | rfl | rfl | rfl | rfl <;> exact trivial) rfl
  exact ⟨hall.1, rfl⟩

end Steps

end Agps

end Taoshan
