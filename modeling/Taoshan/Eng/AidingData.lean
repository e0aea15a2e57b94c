import Taoshan.Eng.Steps
import Taoshan.Lib.Monitor

/-!
# Deleting Aiding Data

Requests to delete aiding data are gathered in a mask. At the end of each round
the adapter is told to delete what has been gathered, unless the engine is on,
and the mask is cleared.

The engine status changes in the dispatch, and the flush looks at it afterwards
in the same round. So the mask is empty or the engine is on whenever a round
has ended, whatever came in between, and nothing is deleted with the engine on.
Since the flush is the last thing a round does, the log judges it: the mask of
each call is what has been asked for since the call before (`askedSince`).

## Main definitions

* `askedSince`: What has been asked for since the last deletion.
* `DeletionDue`: A deletion is of that, and with the engine not on.
* `AidingKept`: The invariant.

## Theorems

* `askedSince_append`: A log without deletions.
* `flushAidingData_kept`: What the flush does to a log in order.
* `aidingData_inOrder`: Over every run, no request is lost, and none is carried
  out with the engine on.
-/

namespace Taoshan

namespace Eng

/-- The aiding data a message asks to delete. -/
def askedType : Event → Option GpsAidingData
  | .took (.deleteAidingData type) => some type
  | _ => none

/-- The adapter is told to delete aiding data. -/
def isDeletion : Event → Bool
  | .call _ (.deleteAidingData _) => true
  | _ => false

/-- The union of everything asked for. -/
def askedIn (log : List Event) : GpsAidingData :=
  (log.filterMap askedType).foldl (fun mask type => mask ||| type) 0

/-- What has been asked for since the last deletion. -/
def askedSince (log : List Event) : GpsAidingData := askedIn (sinceLast isDeletion log)

/-- What is deleted is deleted with the engine not on, and is exactly what has
    been asked for since the deletion before. -/
def DeletionDue (pre : List Event) : Event → Prop
  | .call status (.deleteAidingData f) => status ≠ GPS_STATUS_ENGINE_ON ∧ f = askedSince pre
  | _ => True

/-- Nothing is pending, or the engine is on. -/
def Settled (d : EngData) : Prop :=
  d.aidingDataForDeletion = 0 ∨ d.engineStatus = GPS_STATUS_ENGINE_ON

/-- The mask is what has been asked for, and deletions have been in order. -/
structure AidingKept (e : Engine) : Prop where
  started : WellStarted e
  pending : e.data.aidingDataForDeletion = askedSince e.log
  inOrder : InOrder DeletionDue e.log
  settled : Settled e.data

section Log

variable {log xs : List Event}

/-- What is asked for adds to the mask. -/
theorem askedIn_append (xs ys : List Event) :
    askedIn (xs ++ ys) =
      (ys.filterMap askedType).foldl (fun mask type => mask ||| type) (askedIn xs) := by
  unfold askedIn
  rw [List.filterMap_append, List.foldl_append]

/-- What does not ask and does not delete. -/
def Event.isPlain (e : Event) : Bool := askedType e = none && !isDeletion e

theorem askedType_of_plain {e : Event} (h : e.isPlain = true) : askedType e = none := by
  simp only [Event.isPlain, Bool.and_eq_true, decide_eq_true_eq] at h
  exact h.1

theorem isDeletion_of_plain {e : Event} (h : e.isPlain = true) : isDeletion e = false := by
  simp only [Event.isPlain, Bool.and_eq_true, Bool.not_eq_true'] at h
  exact h.2

/-- Other events are no matter to what has been asked for. -/
theorem askedSince_append (log : List Event) (h : ∀ e ∈ xs, e.isPlain = true) :
    askedSince (log ++ xs) = askedSince log := by
  unfold askedSince
  rw [sinceLast_append log (fun e he => isDeletion_of_plain (h e he)), askedIn_append,
    List.filterMap_eq_nil_iff.mpr (fun e he => askedType_of_plain (h e he)), List.foldl_nil]

/-- A message taken up asks for what it names. -/
theorem askedSince_took (log : List Event) (msg : EngMsg) :
    askedSince (log ++ [.took msg]) =
      match msg with
      | .deleteAidingData type => askedSince log ||| type
      | _ => askedSince log := by
  unfold askedSince
  rw [sinceLast_append log (fun e he => by rw [List.mem_singleton.mp he]; rfl), askedIn_append]
  cases msg <;> rfl

/-- After a deletion, nothing has been asked for yet. -/
theorem askedSince_deletion (log : List Event) (status : GpsStatusValue) (f : GpsAidingData) :
    askedSince (log ++ [.call status (.deleteAidingData f)]) = 0 := by
  unfold askedSince
  rw [sinceLast_concat log rfl]
  rfl

/-- Other events are due at any time. -/
theorem deletionDue_of_plain {e : Event} (h : e.isPlain = true) (pre : List Event) :
    DeletionDue pre e := by
  have hnot := isDeletion_of_plain h
  unfold DeletionDue
  split
  · cases hnot
  · exact trivial

end Log

section Rounds

variable {p : Platform} {env : ThreadEnv} {d d' : EngData} {es : List Event}

theorem isPlain_of_ofDispatch {e : Event} (h : e.ofDispatch = true) : e.isPlain = true := by
  cases e with
  | took msg => cases h
  | call status c =>
      cases c with
      | deleteAidingData f => cases h
      | _ => rfl
  | _ => rfl

theorem isPlain_of_ofCaller {e : Event} (h : e.ofCaller = true) : e.isPlain = true := by
  cases e with
  | call status c =>
      cases c with
      | reinit => rfl
      | _ => cases h
  | queued msg => rfl
  | ulpQueued msg => rfl
  | setCapabilitiesCb capabilities => rfl
  | setServerProxy type hostname port => rfl
  | initReturned ret => rfl
  | _ => cases h

/-- The session flag is no matter to the mask. -/
theorem aiding_of_only (h : ∃ b, d' = { d with isInSession := b }) :
    d'.aidingDataForDeletion = d.aidingDataForDeletion := by
  rcases h with ⟨b, rfl⟩
  rfl

/-- The modem's return does not touch the mask. -/
theorem handleEngineUp_aiding (h : handleEngineUp p env d = some (d', es)) :
    d'.aidingDataForDeletion = d.aidingDataForDeletion := by
  rcases handleEngineUp_inv h with ⟨d₁, es₁, h₁, rfl, _⟩
  rcases agpsRestart_inv h₁ with ⟨xs, hn, _⟩
  have hkept := hn.same EngData.aidingDataForDeletion (fun _ => rfl)
  rw [aiding_of_only (resumeFix_only env _), ← hkept]
  rfl

theorem isPlain_of_isPassedOn {msg : EngMsg} (h : msg.isPassedOn = true) :
    (Event.took msg).isPlain = true := by
  cases msg with
  | deleteAidingData type => cases h
  | _ => rfl

/-- The dispatch adds to the mask what the message asks for. -/
theorem dispatch_aiding {msg : EngMsg} (h : dispatch p env d msg = some (d', es))
    (log : List Event) (hd : d.aidingDataForDeletion = askedSince log) :
    d'.aidingDataForDeletion = askedSince (log ++ [.took msg]) := by
  have hplain : ∀ {d₁ : EngData}, d₁.aidingDataForDeletion = d.aidingDataForDeletion →
      (Event.took msg).isPlain = true →
      d₁.aidingDataForDeletion = askedSince (log ++ [.took msg]) := by
    intro d₁ hkept hmsg
    rw [askedSince_append log (List.forall_mem_singleton.mpr hmsg), hkept, hd]
  cases dispatch_inv h with
  | deleteAidingData hmsg => rw [askedSince_took, hmsg, ← hd]
  | startFix hmsg => exact hplain (aiding_of_only (startHandler_only env d)) (hmsg ▸ rfl)
  | stopDeferred hmsg => exact hplain rfl (hmsg ▸ rfl)
  | stopFix hmsg => exact hplain (aiding_of_only (stopHandler_only env d)) (hmsg ▸ rfl)
  | reportPosition hmsg =>
      exact hplain (aiding_of_only (reportPosition_only p env d _ _ _)) (hmsg ▸ rfl)
  | reportStatus hmsg => exact hplain rfl (hmsg ▸ rfl)
  | engineDown hmsg => exact hplain rfl (hmsg ▸ rfl)
  | requestNi hmsg => exact hplain rfl (hmsg ▸ rfl)
  | engineUp hmsg hup => exact hplain (handleEngineUp_aiding hup) (hmsg ▸ rfl)
  | nif hmsg _ hn =>
      exact hplain (hn.same EngData.aidingDataForDeletion (fun _ => rfl)) (hmsg ▸ rfl)
  | passedOn hmsg => exact hplain rfl (isPlain_of_isPassedOn hmsg)

theorem finishStop_aiding (env : ThreadEnv) (d : EngData) (msg : EngMsg) :
    (finishStop env d msg).1.aidingDataForDeletion = d.aidingDataForDeletion := by
  rcases finishStop_only env d msg with ⟨b, c, h⟩
  rw [h]

theorem finishStop_plain (env : ThreadEnv) (d : EngData) (msg : EngMsg) :
    ∀ e ∈ (finishStop env d msg).2, e.isPlain = true := by
  intro e he
  rcases finishStop_events env d msg e he with rfl | rfl
  · rfl
  · rfl

/-- The flush settles the mask, and what it deletes is due. -/
theorem flushAidingData_kept (d : EngData) (log : List Event)
    (hd : d.aidingDataForDeletion = askedSince log) (hlog : InOrder DeletionDue log) :
    (flushAidingData d).1.aidingDataForDeletion = askedSince (log ++ (flushAidingData d).2) ∧
      InOrder DeletionDue (log ++ (flushAidingData d).2) ∧ Settled (flushAidingData d).1 := by
  unfold flushAidingData
  by_cases hflush : d.engineStatus ≠ GPS_STATUS_ENGINE_ON ∧ d.aidingDataForDeletion ≠ 0
  · rw [if_pos hflush]
    refine ⟨(askedSince_deletion log _ _).symm, ?_, Or.inl rfl⟩
    exact inOrder_concat hlog ⟨hflush.1, hd⟩
  · rw [if_neg hflush]
    refine ⟨by rw [List.append_nil]; exact hd, by rw [List.append_nil]; exact hlog, ?_⟩
    by_cases hon : d.engineStatus = GPS_STATUS_ENGINE_ON
    · exact Or.inr hon
    · -- With the engine not on, only an empty mask is left alone.
      refine Or.inl ?_
      by_contra hpending
      exact hflush ⟨hon, hpending⟩

/-- A round keeps the mask and the log in order, and leaves nothing pending
    unless the engine is on. -/
theorem processMsg_kept {msg : EngMsg} (h : processMsg p env d msg = some (d', es))
    (log : List Event) (hd : d.aidingDataForDeletion = askedSince log)
    (hlog : InOrder DeletionDue log) :
    d'.aidingDataForDeletion = askedSince (log ++ [.took msg] ++ es) ∧
      InOrder DeletionDue (log ++ [.took msg] ++ es) ∧ Settled d' := by
  rcases processMsg_inv h with ⟨d₁, es₁, hdispatch, rfl, rfl⟩
  -- Up to the flush nothing is deleted.
  have hplain : ∀ e ∈ es₁ ++ (finishStop env d₁ msg).2, e.isPlain = true := by
    intro e he
    rcases List.mem_append.mp he with he | he
    · exact isPlain_of_ofDispatch (dispatch_events hdispatch e he)
    · exact finishStop_plain env d₁ msg e he
  have hmask : (finishStop env d₁ msg).1.aidingDataForDeletion =
      askedSince (log ++ [.took msg] ++ (es₁ ++ (finishStop env d₁ msg).2)) := by
    rw [finishStop_aiding, askedSince_append _ hplain]
    exact dispatch_aiding hdispatch log hd
  have horder : InOrder DeletionDue (log ++ [.took msg] ++ (es₁ ++ (finishStop env d₁ msg).2)) :=
    inOrder_append_of_free (inOrder_concat hlog trivial)
      (fun e he => deletionDue_of_plain (hplain e he))
  have hflush := flushAidingData_kept
    { (finishStop env d₁ msg).1 with stopRequestPending := false } _ hmask horder
  simp only [postDispatch]
  rw [← List.append_assoc es₁, ← List.append_assoc (log ++ [Event.took msg])]
  exact hflush

end Rounds

section Runs

variable {p : Platform} {e e' : Engine}

theorem aidingKept_fresh : AidingKept .fresh where
  started := wellStarted_fresh
  pending := rfl
  inOrder := inOrder_nil
  settled := Or.inl rfl

/-- Every step keeps the mask true to the log. -/
theorem aidingKept_step {a : Action} (h : AidingKept e) (hstep : step p e a = some e') :
    AidingKept e' := by
  have hstarted := wellStarted_step h.started hstep
  rcases step_cases hstep with ha | ⟨env, msg, rfl, hrunning, htaken⟩
  · -- Another thread's call: the mask and the status stay, the log grows by plain events.
    have hsession := step_caller_session h.started ha hstep
    rcases step_caller_log ha hstep with ⟨xs, hlog, hxs⟩
    have hplain : ∀ x ∈ xs, x.isPlain = true := fun x hx => isPlain_of_ofCaller (hxs x hx)
    have hmask := congrArg Session.aidingDataForDeletion hsession
    have hstatus := congrArg Session.engineStatus hsession
    simp only [EngData.session] at hmask hstatus
    refine ⟨hstarted, ?_, ?_, ?_⟩
    · rw [hmask, hlog, askedSince_append _ hplain]
      exact h.pending
    · rw [hlog]
      exact inOrder_append_of_free h.inOrder (fun x hx => deletionDue_of_plain (hplain x hx))
    · unfold Settled
      rw [hmask, hstatus]
      exact h.settled
  · cases htaken with
    | returned hend =>
        -- There is a context, so the message was `QUIT`, which asks for nothing.
        have hquit : msg = .quit := by
          rcases hend with hcontext | hquit
          · rw [h.started.context hrunning] at hcontext
            cases hcontext
          · exact hquit
        subst hquit
        refine ⟨hstarted, ?_, inOrder_concat h.inOrder trivial, h.settled⟩
        rw [askedSince_took]
        exact h.pending
    | faulted _ _ hfault =>
        -- A request to delete meets no NULL pointer.
        have hnif : ∃ m, msg = .nif m := by
          by_contra hnot
          rcases dispatch_isSome p env e.data
            (fun m hm => hnot ⟨m, hm⟩) with ⟨r, hr⟩
          rw [processMsg_eq_none hfault] at hr
          cases hr
        rcases hnif with ⟨m, rfl⟩
        refine ⟨hstarted, ?_, inOrder_concat h.inOrder trivial, h.settled⟩
        rw [askedSince_took]
        exact h.pending
    | round _ _ hround =>
        rcases processMsg_kept hround e.log h.pending h.inOrder with ⟨hmask, horder, hsettled⟩
        exact ⟨hstarted, hmask, horder, hsettled⟩

/-- Over every run, what is pending is exactly what has been asked for since the
    last deletion, so that no request is lost; whatever is deleted is exactly what
    has been asked for since the deletion before and is deleted with the engine
    not on; and whenever a message has been processed, nothing is pending or the
    engine is on. -/
theorem aidingData_inOrder (p : Platform) (as : List Action) :
    Run.Throughout (step p) (fun e =>
      e.data.aidingDataForDeletion = askedSince e.log ∧
      (∀ pre status f post, e.log = pre ++ .call status (.deleteAidingData f) :: post →
        status ≠ GPS_STATUS_ENGINE_ON ∧ f = askedSince pre) ∧
      (askedSince e.log = 0 ∨ e.data.engineStatus = GPS_STATUS_ENGINE_ON))
      .fresh as := by
  refine Run.throughout_invariant AidingKept (fun e h => ?_) (fun _ _ _ => aidingKept_step) as
    aidingKept_fresh
  have hsettled := h.settled
  unfold Settled at hsettled
  rw [h.pending] at hsettled
  exact ⟨h.pending, fun pre _ _ post heq => h.inOrder pre _ post heq, hsettled⟩

/-- The engine is on, two deletions are asked for, and it is turned off. -/
def askedTwice : List Action :=
  [.init .agreed, .take .agreed (.reportStatus GPS_STATUS_ENGINE_ON),
    .take .agreed (.deleteAidingData 1), .take .agreed (.deleteAidingData 4),
    .take .agreed (.reportStatus GPS_STATUS_ENGINE_OFF)]

/-- They wait for that, and then they are carried out at once. -/
theorem aidingData_inOrder_askedTwice :
    ((Run.exec (step .unconfigured) .fresh (askedTwice.take 4)).map fun e =>
        (e.data.aidingDataForDeletion, e.log.countP isDeletion)) = some (5, 0) ∧
      ((Run.exec (step .unconfigured) .fresh askedTwice).map fun e =>
        (e.data.aidingDataForDeletion, e.log.filter isDeletion)) =
          some (0, [.call GPS_STATUS_ENGINE_OFF (.deleteAidingData 5)]) ∧
      Run.Throughout (step .unconfigured) (fun e =>
        e.data.aidingDataForDeletion = askedSince e.log ∧
        (∀ pre status f post, e.log = pre ++ .call status (.deleteAidingData f) :: post →
          status ≠ GPS_STATUS_ENGINE_ON ∧ f = askedSince pre) ∧
        (askedSince e.log = 0 ∨ e.data.engineStatus = GPS_STATUS_ENGINE_ON)) .fresh askedTwice :=
  ⟨by decide +kernel, by decide +kernel, aidingData_inOrder .unconfigured askedTwice⟩

end Runs

end Eng

end Taoshan
