import Taoshan.Eng.Api

/-!
# What a Round Leaves Alone

A round of the loop changes the session flag, the two flags of a deferred stop,
the NI part, the machines, the statuses and the aiding data. The rest of the
structure is set up by the callers and only read by the thread (`Setup`), and a
machine that is there stays there. `Frame` says both, and every handler is
framed.

The log of a round is made of calls, messages queued and callbacks; it records
no message taken up and no call of the interface, and neither is
`deleteAidingData` called by the dispatch nor a message of the machines queued
(`Event.ofDispatch`).

## Main definitions

* `Setup`: What the thread only reads.
* `Frame`: The setup is the same, and so are the machines that are there.
* `Event.ofDispatch`: What the dispatch may do.
* `Dispatched`: What the `switch` comes to.

## Theorems

* `call_inv`, `drop_inv`, `andThen_inv`: Outcomes taken apart.
* `dispatch_inv`: What the `switch` does for a message, case by case.
* `dispatch_frame`, `processMsg_frame`: Every handler is framed.
* `isConfig_of_mem`: What `loc_eng_reinit` queues.
* `dispatch_events`: And keeps to what the dispatch may do.
* `handleNif_data`: A message of the machines changes nothing but machines.
-/

namespace Taoshan

namespace Eng

open Agps

/-- The part of the structure that the thread only reads. -/
structure Setup where
  locationCb : Bool
  statusCb : Bool
  svStatusCb : Bool
  agpsStatusCb : Bool
  nmeaCb : Bool
  ulpNetworkCallback : Bool
  ulpPhoneContextReqCb : Bool
  downloadRequestCb : Bool
  intermediateFix : BitVec 8
  context : Bool
  supl : SavedServer
  c2k : SavedServer
  ulpInitialized : Bool
  deriving DecidableEq

def EngData.setup (d : EngData) : Setup where
  locationCb := d.locationCb
  statusCb := d.statusCb
  svStatusCb := d.svStatusCb
  agpsStatusCb := d.agpsStatusCb
  nmeaCb := d.nmeaCb
  ulpNetworkCallback := d.ulpNetworkCallback
  ulpPhoneContextReqCb := d.ulpPhoneContextReqCb
  downloadRequestCb := d.downloadRequestCb
  intermediateFix := d.intermediateFix
  context := d.context
  supl := d.supl
  c2k := d.c2k
  ulpInitialized := d.ulpInitialized

/-- Nothing is changed that the thread only reads, and no machine comes or goes. -/
structure Frame (d d' : EngData) : Prop where
  setup : d'.setup = d.setup
  nif : ∀ i, (d'.nif i).isSome = (d.nif i).isSome

/-- A message of the machines. -/
def EngMsg.isNif : EngMsg → Bool
  | .nif _ => true
  | _ => false

/-- What the dispatch may do: call the adapter, but not to delete aiding data,
    queue a message that is not of the machines, use a machine, call back. -/
def Event.ofDispatch : Event → Bool
  | .took _ => false
  | .queued msg => !msg.isNif
  | .call _ (.deleteAidingData _) => false
  | .setCapabilitiesCb _ => false
  | .ulpQueued _ => false
  | .setServerProxy .. => false
  | .initReturned _ => false
  | _ => true

/-- A message that is only passed on, to the adapter or to a callback that is not
    about a fix, or ignored. -/
def EngMsg.isPassedOn : EngMsg → Bool
  | .quit | .adapter _ | .reportSv .. | .reportNmea .. | .requestXtraData => true
  | .requestNetworkPosition _ | .requestPhoneContext _ | .other _ => true
  | _ => false

/-- What is done for such a message. -/
def Event.passesOn : Event → Bool
  | .call _ (.deleteAidingData _) => false
  | .call .. | .svStatusCb .. | .nmeaCb .. | .downloadRequestCb => true
  | .ulpNetworkCallback _ | .ulpPhoneContextReqCb _ => true
  | _ => false

/-- A message of the configuration, as `loc_eng_reinit` queues it. -/
def EngMsg.isConfig : EngMsg → Bool
  | .adapter (.suplVersion _) | .adapter (.lppConfig _) => true
  | .adapter (.setSensorControlConfig _) | .adapter (.setSensorProperties _) => true
  | .adapter (.setSensorPerfControlConfig _) => true
  | _ => false

namespace Frame

variable {d d' d'' : EngData}

theorem refl (d : EngData) : Frame d d := ⟨rfl, fun _ => rfl⟩

theorem trans (h : Frame d d') (h' : Frame d' d'') : Frame d d'' :=
  ⟨h'.setup.trans h.setup, fun i => (h'.nif i).trans (h.nif i)⟩

theorem statusCb (h : Frame d d') : d'.statusCb = d.statusCb := congrArg Setup.statusCb h.setup

theorem agpsStatusCb (h : Frame d d') : d'.agpsStatusCb = d.agpsStatusCb :=
  congrArg Setup.agpsStatusCb h.setup

theorem context (h : Frame d d') : d'.context = d.context := congrArg Setup.context h.setup

theorem supl (h : Frame d d') : d'.supl = d.supl := congrArg Setup.supl h.setup

theorem c2k (h : Frame d d') : d'.c2k = d.c2k := congrArg Setup.c2k h.setup

end Frame

section Outcomes

variable {d d' : EngData} {es : List Event}

/-- What was done one after the other. -/
theorem andThen_inv {r : Outcome} {f : EngData → Outcome}
    (h : Outcome.andThen r f = some (d', es)) :
    ∃ d₁ es₁ es₂, r = some (d₁, es₁) ∧ f d₁ = some (d', es₂) ∧ es = es₁ ++ es₂ := by
  cases r with
  | none => cases h
  | some q =>
      rcases q with ⟨d₁, es₁⟩
      simp only [Outcome.andThen] at h
      cases hf : f d₁ with
      | none => rw [hf] at h; cases h
      | some q =>
          rcases q with ⟨d₂, es₂⟩
          rw [hf] at h
          simp only [Option.some.injEq, Prod.mk.injEq] at h
          rcases h with ⟨rfl, rfl⟩
          exact ⟨d₁, es₁, es₂, rfl, hf, rfl⟩

theorem andThen_some (d : EngData) (es : List Event) (f : EngData → Outcome) :
    Outcome.andThen (some (d, es)) f = (f d).map fun r => (r.1, es ++ r.2) := by
  simp only [Outcome.andThen]
  cases f d <;> rfl

/-- A call of a machine that is there. -/
theorem call_inv {i : NifId} {env : Env} {op : Op} (h : d.call i env op = some (d', es)) :
    ∃ m, d.nif i = some m ∧ d' = d.setNif (some (m.perform env op).1) i ∧
      es =
        (answerOf m.mStatePtr op ++ (m.perform env op).2.map Entry.effect).map (Event.nif i) := by
  unfold EngData.call at h
  cases hm : d.nif i with
  | none => rw [hm] at h; cases h
  | some m =>
      rw [hm] at h
      simp only [Option.some.injEq, Prod.mk.injEq] at h
      exact ⟨m, rfl, h.1.symm, h.2.symm⟩

/-- The flush of a machine that is there. -/
theorem drop_inv {i : NifId} (h : d.drop i = some (d', es)) :
    ∃ m, d.nif i = some m ∧ d' = d.setNif (some m.dropAllSubscribers.1) i ∧
      es = (m.dropAllSubscribers.2.map Entry.effect).map (Event.nif i) := by
  unfold EngData.drop at h
  cases hm : d.nif i with
  | none => rw [hm] at h; cases h
  | some m =>
      rw [hm] at h
      simp only [Option.some.injEq, Prod.mk.injEq] at h
      exact ⟨m, rfl, h.1.symm, h.2.symm⟩

theorem EngData.nif_setNif (m : Option AgpsStateMachine) (i j : NifId) :
    (d.setNif m i).nif j = if j = i then m else d.nif j := by
  cases i <;> cases j <;> rfl

/-- A machine that is replaced is still there. -/
theorem frame_setNif {i : NifId} {m m' : AgpsStateMachine} (h : d.nif i = some m) :
    Frame d (d.setNif (some m') i) := by
  refine ⟨by cases i <;> rfl, fun j => ?_⟩
  rw [EngData.nif_setNif]
  by_cases hj : j = i
  · rw [if_pos hj, hj, h]
    rfl
  · rw [if_neg hj]

end Outcomes

section Machines

variable {p : Platform} {env : ThreadEnv} {d d' d'' : EngData} {es es' : List Event}

/-- The structure without its machines. -/
def EngData.bare (d : EngData) : EngData :=
  { d with agnssNif := none, internetNif := none, wifiNif := none }

/-- Machines were used, and nothing else. -/
structure NifStep (d d' : EngData) (es : List Event) : Prop where
  bare : d'.bare = d.bare
  nif : ∀ i, (d'.nif i).isSome = (d.nif i).isSome
  events : ∀ e ∈ es, ∃ i x, e = Event.nif i x

/-- A machine is not part of the rest. -/
theorem bare_setNif (d : EngData) (m : Option AgpsStateMachine) (i : NifId) :
    (d.setNif m i).bare = d.bare := by
  cases i <;> rfl

namespace NifStep

theorem refl (d : EngData) : NifStep d d [] :=
  ⟨rfl, fun _ => rfl, fun _ he => absurd he List.not_mem_nil⟩

theorem trans (h : NifStep d d' es) (h' : NifStep d' d'' es') : NifStep d d'' (es ++ es') := by
  refine ⟨h'.bare.trans h.bare, fun i => (h'.nif i).trans (h.nif i), fun e he => ?_⟩
  rcases List.mem_append.mp he with he | he
  · exact h.events e he
  · exact h'.events e he

/-- A machine that is there is replaced, with lines of its log. -/
theorem set {i : NifId} {m m' : AgpsStateMachine} (h : d.nif i = some m) (xs : List Entry) :
    NifStep d (d.setNif (some m') i) (xs.map (Event.nif i)) := by
  refine ⟨bare_setNif d _ i, (frame_setNif h).nif, fun e he => ?_⟩
  rcases List.mem_map.mp he with ⟨x, _, rfl⟩
  exact ⟨i, x, rfl⟩

/-- A call of one machine, and a flush of one, touch the machines only. -/
theorem of_call {i : NifId} {env : Env} {op : Op} (h : d.call i env op = some (d', es)) :
    NifStep d d' es := by
  rcases call_inv h with ⟨m, hm, rfl, rfl⟩
  exact set hm _

theorem of_drop {i : NifId} (h : d.drop i = some (d', es)) : NifStep d d' es := by
  rcases drop_inv h with ⟨m, hm, rfl, rfl⟩
  exact set hm _

/-- What can be read off the structure without its machines is the same. -/
theorem same {α : Type} (f : EngData → α) (hf : ∀ d, f d.bare = f d) (h : NifStep d d' es) :
    f d' = f d := by
  rw [← hf d', h.bare, hf d]

theorem frame (h : NifStep d d' es) : Frame d d' := ⟨h.same EngData.setup (fun _ => rfl), h.nif⟩

theorem ofDispatch (h : NifStep d d' es) : ∀ e ∈ es, e.ofDispatch = true := by
  intro e he
  rcases h.events e he with ⟨i, x, rfl⟩
  rfl

end NifStep

/-- A message of the machines changes nothing but machines, except for the one
    that says that the modem is up again. -/
theorem handleNif_data {msg : Msg} (hmsg : msg ≠ .engineUp)
    (h : handleNif p env d msg = some (d', es)) : NifStep d d' es := by
  cases msg with
  | requestBit ifType ipv4Addr ipv6Addr =>
      simp only [handleNif] at h
      cases hi : bitNif ifType with
      | none =>
          rw [hi, Option.some.injEq, Prod.mk.injEq] at h
          rcases h with ⟨rfl, rfl⟩
          exact .refl d
      | some i =>
          rw [hi] at h
          exact .of_call h
  | releaseBit ifType ipv4Addr ipv6Addr =>
      simp only [handleNif] at h
      cases hi : bitNif ifType with
      | none =>
          rw [hi, Option.some.injEq, Prod.mk.injEq] at h
          rcases h with ⟨rfl, rfl⟩
          exact .refl d
      | some i =>
          rw [hi] at h
          exact .of_call h
  | requestAtl handle type => exact .of_call h
  | releaseAtl handle =>
      -- One call, and perhaps a second on the other machine.
      rcases andThen_inv h with ⟨d₁, es₁, es₂, hfirst, hsecond, rfl⟩
      refine NifStep.trans (.of_call hfirst) ?_
      cases hm : d.agnssNif with
      | none => rw [hm] at hsecond; cases hsecond
      | some m =>
          rw [hm] at hsecond
          simp only at hsecond
          by_cases hfound : (m.unsubscribeRsrc env.nif.first (atlSubscriber handle false)).1 = true
          · rw [if_pos hfound, Option.some.injEq, Prod.mk.injEq] at hsecond
            rcases hsecond with ⟨rfl, rfl⟩
            exact .refl d₁
          · rw [if_neg hfound] at hsecond
            exact .of_call hsecond
  | requestWifi senderId ssid password =>
      simp only [handleNif] at h
      by_cases hs : senderId = .quipc ∨ senderId = .msapm
      · rw [if_pos hs] at h
        exact .of_call h
      · rw [if_neg hs, Option.some.injEq, Prod.mk.injEq] at h
        rcases h with ⟨rfl, rfl⟩
        exact .refl d
  | releaseWifi senderId ssid password => exact .of_call h
  | atlOpenSuccess agpsType apn length bearerType =>
      simp only [handleNif] at h
      cases hm : d.nif (statusNif agpsType) with
      | none => rw [hm] at h; cases h
      | some m =>
          rw [hm] at h
          -- The bearer and the name are set first.
          exact NifStep.trans (.set hm []) (.of_call h)
  | atlClosed agpsType => exact .of_call h
  | atlOpenFailed agpsType => exact .of_call h
  | engineUp => exact absurd rfl hmsg

end Machines

section Handlers

variable {p : Platform} {env : ThreadEnv} {d d' : EngData} {es : List Event}

/-- What a status is told with. -/
theorem informGpsStatus_events (d : EngData) (status : GpsStatusValue) :
    ∀ e ∈ informGpsStatus d status, e = .statusCb status := by
  intro e he
  unfold informGpsStatus at he
  exact List.mem_singleton.mp (List.mem_ite_nil_right.mp he).2

theorem reportStatus_frame (d : EngData) (status : GpsStatusValue) :
    Frame d (reportStatus d status).1 := ⟨rfl, fun i => by cases i <;> rfl⟩

theorem reportStatus_events (d : EngData) (status : GpsStatusValue) :
    ∀ e ∈ (reportStatus d status).2, e = .statusCb status := by
  intro e he
  simp only [reportStatus] at he
  exact informGpsStatus_events d status e (List.mem_ite_nil_right.mp he).2

/-- Starting, stopping and a position change the session flag at most. -/
theorem startHandler_only (env : ThreadEnv) (d : EngData) :
    ∃ b, (startHandler env d).1 = { d with isInSession := b } := by
  unfold startHandler
  split
  · exact ⟨_, rfl⟩
  · split
    · exact ⟨true, rfl⟩
    · exact ⟨_, rfl⟩

theorem stopHandler_only (env : ThreadEnv) (d : EngData) :
    ∃ b, (stopHandler env d).1 = { d with isInSession := b } := by
  unfold stopHandler
  split
  · exact ⟨false, rfl⟩
  · exact ⟨_, rfl⟩

/-- The handlers of the session change its flag and no more. -/
theorem resumeFix_only (env : ThreadEnv) (d : EngData) :
    ∃ b, (resumeFix env d).1 = { d with isInSession := b } := by
  unfold resumeFix
  split
  · rcases startHandler_only env { d with isInSession := false } with ⟨b, hb⟩
    exact ⟨b, hb⟩
  · exact ⟨_, rfl⟩

theorem reportPosition_only (p : Platform) (env : ThreadEnv) (d : EngData)
    (location : GpsLocation) (locationExt : List UInt8) (status : LocSessStatus) :
    ∃ b, (reportPosition p env d location locationExt status).1 = { d with isInSession := b } := by
  simp only [reportPosition]
  split
  · exact ⟨_, rfl⟩
  · split
    · exact ⟨false, rfl⟩
    · exact ⟨_, rfl⟩

/-- A deferred stop drops the pending request as well. -/
theorem finishStop_only (env : ThreadEnv) (d : EngData) (msg : EngMsg) :
    ∃ b c, (finishStop env d msg).1 = { d with isInSession := b, agpsRequestPending := c } := by
  unfold finishStop
  split
  · dsimp only
    split
    · rcases stopHandler_only env { d with agpsRequestPending := false } with ⟨b, hb⟩
      exact ⟨b, false, hb⟩
    · exact ⟨_, false, rfl⟩
  · exact ⟨_, _, rfl⟩

/-- The session flag is no part of the frame. -/
theorem frame_of_only {d d' : EngData} (h : ∃ b, d' = { d with isInSession := b }) :
    Frame d d' := by
  rcases h with ⟨b, rfl⟩
  exact ⟨rfl, fun i => by cases i <;> rfl⟩

/-- The modem is told to start, and the framework that it has. -/
theorem startHandler_events (env : ThreadEnv) (d : EngData) :
    ∀ e ∈ (startHandler env d).2,
      e = d.calls .startFix ∨ e = .statusCb GPS_STATUS_SESSION_BEGIN := by
  intro e he
  unfold startHandler at he
  split at he
  · exact absurd he List.not_mem_nil
  · split at he
    · rcases List.mem_cons.mp he with he | he
      · exact Or.inl he
      · exact Or.inr (informGpsStatus_events d _ e he)
    · exact Or.inl (List.mem_singleton.mp he)

/-- A stop is one call and one status at most. -/
theorem stopHandler_events (env : ThreadEnv) (d : EngData) :
    ∀ e ∈ (stopHandler env d).2,
      e = d.calls .stopFix ∨ e = .statusCb GPS_STATUS_SESSION_END := by
  intro e he
  unfold stopHandler at he
  split at he
  · rcases List.mem_cons.mp he with he | he
    · exact Or.inl he
    · exact Or.inr (informGpsStatus_events d _ e (List.mem_ite_nil_right.mp he).2)
  · exact absurd he List.not_mem_nil

/-- A stop that was put off is a stop. -/
theorem finishStop_events (env : ThreadEnv) (d : EngData) (msg : EngMsg) :
    ∀ e ∈ (finishStop env d msg).2,
      e = d.calls .stopFix ∨ e = .statusCb GPS_STATUS_SESSION_END := by
  intro e he
  unfold finishStop at he
  split at he
  · dsimp only at he
    split at he
    · exact stopHandler_events env { d with agpsRequestPending := false } e he
    · exact absurd he List.not_mem_nil
  · exact absurd he List.not_mem_nil

/-- Aiding data is deleted by one kind of call. -/
theorem flushAidingData_events (d : EngData) :
    ∀ e ∈ (flushAidingData d).2, ∃ f, e = d.calls (.deleteAidingData f) := by
  intro e he
  unfold flushAidingData at he
  split at he
  · exact ⟨_, List.mem_singleton.mp he⟩
  · exact absurd he List.not_mem_nil

/-- After the dispatch, a stop is finished and aiding data deleted. -/
theorem postDispatch_events (env : ThreadEnv) (d : EngData) (msg : EngMsg) :
    ∀ e ∈ (postDispatch env d msg).2, e = d.calls .stopFix ∨
      e = .statusCb GPS_STATUS_SESSION_END ∨
        ∃ status f, e = .call status (.deleteAidingData f) := by
  intro e he
  rcases List.mem_append.mp he with he | he
  · rcases finishStop_events env d msg e he with h | h
    · exact Or.inl h
    · exact Or.inr (Or.inl h)
  · rcases flushAidingData_events _ e he with ⟨f, h⟩
    exact Or.inr (Or.inr ⟨_, f, h⟩)

/-- What is queued for the servers depends on the two that are saved. -/
theorem agpsReinit_congr {r : List UInt8 → Option (BitVec 32)} (hs : d'.supl = d.supl)
    (hc : d'.c2k = d.c2k) : agpsReinit r d' = agpsReinit r d := by
  unfold agpsReinit
  rw [hs, hc]

/-- When the modem is up again, two machines are flushed and the servers set,
    if AGPS has been initialised. -/
theorem agpsRestart_inv (h : agpsRestart env d = some (d', es)) :
    ∃ xs, NifStep d d' xs ∧ es = xs ++
      (if d.agpsStatusCb then (agpsReinit env.resolveInAddr d).map Event.queued else []) := by
  unfold agpsRestart at h
  by_cases hcb : d.agpsStatusCb = true
  · rw [if_pos hcb] at h
    rcases andThen_inv h with ⟨d₁, es₁, _, hagnss, hrest, rfl⟩
    rcases andThen_inv hrest with ⟨d₂, es₂, _, hinternet, hlast, rfl⟩
    rw [Option.some.injEq, Prod.mk.injEq] at hlast
    rcases hlast with ⟨rfl, rfl⟩
    have hn := NifStep.trans (.of_drop hagnss) (.of_drop hinternet)
    refine ⟨es₁ ++ es₂, hn, ?_⟩
    -- The flush has left what is saved of the servers as it was.
    rw [if_pos hcb, agpsReinit_congr hn.frame.supl hn.frame.c2k, List.append_assoc]
  · rw [if_neg hcb, Option.some.injEq, Prod.mk.injEq] at h
    rcases h with ⟨rfl, rfl⟩
    exact ⟨[], .refl d, by rw [if_neg hcb]; rfl⟩

/-- The parts of `loc_eng_handle_engine_up`. -/
theorem handleEngineUp_inv (h : handleEngineUp p env d = some (d', es)) :
    ∃ d₁ es₁, agpsRestart env d = some (d₁, es₁) ∧
      d' = (resumeFix env (reportStatus d₁ GPS_STATUS_ENGINE_ON).1).1 ∧
      es = (reinit p env.reinit d).2 ++ (es₁ ++ ((reportStatus d₁ GPS_STATUS_ENGINE_ON).2 ++
        (resumeFix env (reportStatus d₁ GPS_STATUS_ENGINE_ON).1).2)) := by
  -- The adapter, the machines, and then the status, one after the other.
  rcases andThen_inv h with ⟨d₀, es₀, _, h₀, hrest, rfl⟩
  rw [Option.some.injEq, Prod.mk.injEq] at h₀
  rcases h₀ with ⟨rfl, rfl⟩
  rcases andThen_inv hrest with ⟨d₁, es₁, _, h₁, hlast, rfl⟩
  rcases andThen_inv hlast with ⟨d₂, es₂, es₃, h₂, h₃, rfl⟩
  rw [Option.some.injEq] at h₂ h₃
  have hd₂ : d₂ = (reportStatus d₁ GPS_STATUS_ENGINE_ON).1 := by rw [h₂]
  have hes₂ : es₂ = (reportStatus d₁ GPS_STATUS_ENGINE_ON).2 := by rw [h₂]
  subst hd₂ hes₂
  refine ⟨d₁, es₁, h₁, ?_, ?_⟩
  · rw [h₃]
  · rw [h₃]

/-- So the modem's return leaves the setup alone. -/
theorem handleEngineUp_frame (h : handleEngineUp p env d = some (d', es)) : Frame d d' := by
  rcases handleEngineUp_inv h with ⟨d₁, es₁, h₁, rfl, _⟩
  rcases agpsRestart_inv h₁ with ⟨xs, hn, _⟩
  exact hn.frame.trans ((reportStatus_frame d₁ _).trans (frame_of_only (resumeFix_only env _)))

/-- What the `switch` does for a message. -/
inductive Dispatched (p : Platform) (env : ThreadEnv) (d : EngData) (msg : EngMsg) :
    EngData → List Event → Prop
  | startFix (hmsg : msg = .startFix) :
      Dispatched p env d msg (startHandler env d).1 (startHandler env d).2
  | stopDeferred (hmsg : msg = .stopFix) (hpending : d.agpsRequestPending = true) :
      Dispatched p env d msg { d with stopRequestPending := true } []
  | stopFix (hmsg : msg = .stopFix) (hpending : d.agpsRequestPending = false) :
      Dispatched p env d msg (stopHandler env d).1 (stopHandler env d).2
  | reportPosition {location : GpsLocation} {locationExt : List UInt8} {status : LocSessStatus}
      (hmsg : msg = .reportPosition location locationExt status) :
      Dispatched p env d msg (reportPosition p env d location locationExt status).1
        (reportPosition p env d location locationExt status).2
  | reportStatus {status : GpsStatusValue} (hmsg : msg = .reportStatus status) :
      Dispatched p env d msg (reportStatus d status).1 (reportStatus d status).2
  | engineDown (hmsg : msg = .engineDown) :
      Dispatched p env d msg (handleEngineDown d).1 (handleEngineDown d).2
  | requestNi {notifyFlags timeout : Nat} (hmsg : msg = .requestNi notifyFlags timeout) :
      Dispatched p env d msg
        { d with ni := Ni.niRequestHandler d.ni notifyFlags timeout env.created } []
  | deleteAidingData {type : GpsAidingData} (hmsg : msg = .deleteAidingData type) :
      Dispatched p env d msg
        { d with aidingDataForDeletion := d.aidingDataForDeletion ||| type } []
  | engineUp {d' : EngData} {es : List Event} (hmsg : msg = .nif .engineUp)
      (h : handleEngineUp p env d = some (d', es)) : Dispatched p env d msg d' es
  | nif {m : Msg} {d' : EngData} {es : List Event} (hmsg : msg = .nif m) (hm : m ≠ .engineUp)
      (h : NifStep d d' es) : Dispatched p env d msg d' es
  | passedOn {es : List Event} (hmsg : msg.isPassedOn = true)
      (hes : ∀ e ∈ es, e.passesOn = true) : Dispatched p env d msg d es

/-- A message is dispatched in one of these ways. -/
theorem dispatch_inv {msg : EngMsg} (h : dispatch p env d msg = some (d', es)) :
    Dispatched p env d msg d' es := by
  have hof : ∀ {r : EngData × List Event}, some r = some (d', es) → Dispatched p env d msg r.1 r.2 →
      Dispatched p env d msg d' es := by
    intro r heq hr
    rw [Option.some.injEq] at heq
    rw [heq] at hr
    exact hr
  -- At most one callback, if there is one.
  have hone : ∀ {c : Prop} [Decidable c] {x : Event}, x.passesOn = true →
      ∀ e ∈ (if c then [x] else []), e.passesOn = true := by
    intro c _ x hx e he
    rw [List.mem_singleton.mp (List.mem_ite_nil_right.mp he).2]
    exact hx
  have hnone : ∀ e ∈ ([] : List Event), e.passesOn = true :=
    fun e he => absurd he List.not_mem_nil
  cases msg with
  | nif m =>
      by_cases hm : m = .engineUp
      · subst hm
        exact .engineUp rfl h
      · exact .nif rfl hm (handleNif_data hm h)
  | stopFix =>
      simp only [dispatch] at h
      by_cases hpending : d.agpsRequestPending = true
      · rw [if_pos hpending] at h
        exact hof h (.stopDeferred rfl hpending)
      · rw [if_neg hpending] at h
        exact hof h (.stopFix rfl (Bool.eq_false_iff.mpr hpending))
  | adapter msg =>
      refine hof h (.passedOn rfl (fun e he => ?_))
      rcases List.mem_map.mp he with ⟨c, hc, rfl⟩
      -- Aiding data is deleted after the dispatch only.
      cases c with
      | deleteAidingData f => exact absurd hc (msg.deleteAidingData_not_mem f)
      | _ => rfl
  | startFix => exact hof h (.startFix rfl)
  | reportPosition location locationExt status => exact hof h (.reportPosition rfl)
  | reportStatus status => exact hof h (.reportStatus rfl)
  | engineDown => exact hof h (.engineDown rfl)
  | requestNi notifyFlags timeout => exact hof h (.requestNi rfl)
  | deleteAidingData type => exact hof h (.deleteAidingData rfl)
  | reportSv svStatus svExt => exact hof h (.passedOn rfl (hone rfl))
  | reportNmea nmea length => exact hof h (.passedOn rfl (hone rfl))
  | requestXtraData => exact hof h (.passedOn rfl (hone rfl))
  | requestNetworkPosition request => exact hof h (.passedOn rfl (hone rfl))
  | requestPhoneContext request => exact hof h (.passedOn rfl (hone rfl))
  | quit => exact hof h (.passedOn rfl hnone)
  | other msgid => exact hof h (.passedOn rfl hnone)

/-- Every handler is framed. -/
theorem dispatch_frame {msg : EngMsg} (h : dispatch p env d msg = some (d', es)) : Frame d d' := by
  cases dispatch_inv h with
  | startFix => exact frame_of_only (startHandler_only env d)
  | stopDeferred => exact ⟨rfl, fun i => by cases i <;> rfl⟩
  | stopFix => exact frame_of_only (stopHandler_only env d)
  | reportPosition => exact frame_of_only (reportPosition_only p env d _ _ _)
  | reportStatus => exact reportStatus_frame d _
  | engineDown =>
      -- The NI part is reset, and then a status is reported.
      have hni : Frame d { d with ni := Ni.niResetOnEngineRestart d.ni } :=
        ⟨rfl, fun i => by cases i <;> rfl⟩
      exact hni.trans (reportStatus_frame _ _)
  | requestNi => exact ⟨rfl, fun i => by cases i <;> rfl⟩
  | deleteAidingData => exact ⟨rfl, fun i => by cases i <;> rfl⟩
  | engineUp _ hup => exact handleEngineUp_frame hup
  | nif _ _ hn => exact hn.frame
  | passedOn => exact .refl d

/-- The dispatch leaves the flags of a deferred stop alone, unless a stop is
    deferred. -/
theorem dispatch_pending {msg : EngMsg} (h : dispatch p env d msg = some (d', es)) :
    d'.agpsRequestPending = d.agpsRequestPending ∧
      (d.agpsRequestPending = false → d'.stopRequestPending = d.stopRequestPending) := by
  have honly : ∀ {d₁ : EngData}, (∃ b, d₁ = { d with isInSession := b }) →
      d₁.agpsRequestPending = d.agpsRequestPending ∧
        (d.agpsRequestPending = false → d₁.stopRequestPending = d.stopRequestPending) := by
    rintro d₁ ⟨b, rfl⟩
    exact ⟨rfl, fun _ => rfl⟩
  cases dispatch_inv h with
  | startFix => exact honly (startHandler_only env d)
  | stopDeferred _ hpending => exact ⟨rfl, fun hno => absurd hpending (by rw [hno]; decide)⟩
  | stopFix => exact honly (stopHandler_only env d)
  | reportPosition => exact honly (reportPosition_only p env d _ _ _)
  | engineUp _ hup =>
      rcases handleEngineUp_inv hup with ⟨d₁, es₁, h₁, rfl, _⟩
      rcases agpsRestart_inv h₁ with ⟨xs, hn, _⟩
      rcases resumeFix_only env (reportStatus d₁ GPS_STATUS_ENGINE_ON).1 with ⟨b, hb⟩
      have hagps := hn.same EngData.agpsRequestPending (fun _ => rfl)
      have hstop := hn.same EngData.stopRequestPending (fun _ => rfl)
      rw [hb]
      exact ⟨hagps, fun _ => hstop⟩
  | nif _ _ hn =>
      exact ⟨hn.same EngData.agpsRequestPending (fun _ => rfl),
        fun _ => hn.same EngData.stopRequestPending (fun _ => rfl)⟩
  | _ => exact ⟨rfl, fun _ => rfl⟩

theorem finishStop_frame (env : ThreadEnv) (d : EngData) (msg : EngMsg) :
    Frame d (finishStop env d msg).1 := by
  rcases finishStop_only env d msg with ⟨b, c, h⟩
  rw [h]
  exact ⟨rfl, fun i => by cases i <;> rfl⟩

theorem flushAidingData_frame (d : EngData) : Frame d (flushAidingData d).1 := by
  unfold flushAidingData
  split
  · exact ⟨rfl, fun i => by cases i <;> rfl⟩
  · exact .refl d

/-- And so does what follows every message. -/
theorem postDispatch_frame (env : ThreadEnv) (d : EngData) (msg : EngMsg) :
    Frame d (postDispatch env d msg).1 := by
  have hflag : ∀ d : EngData, Frame d { d with stopRequestPending := false } :=
    fun d => ⟨rfl, fun i => by cases i <;> rfl⟩
  exact (finishStop_frame env d msg).trans ((hflag _).trans (flushAidingData_frame _))

/-- Only the messages of the machines can meet a NULL pointer. -/
theorem dispatch_isSome (p : Platform) (env : ThreadEnv) (d : EngData) {msg : EngMsg}
    (hmsg : ∀ m, msg ≠ .nif m) :
    ∃ r, dispatch p env d msg = some r := by
  cases msg with
  | nif m => exact absurd rfl (hmsg m)
  | stopFix =>
      simp only [dispatch]
      split
      · exact ⟨_, rfl⟩
      · exact ⟨_, rfl⟩
  | _ => exact ⟨_, rfl⟩

/-- Only a handler meets a NULL pointer. -/
theorem processMsg_eq_none {msg : EngMsg} (h : processMsg p env d msg = none) :
    dispatch p env d msg = none := by
  cases hd : dispatch p env d msg with
  | none => rfl
  | some r =>
      unfold processMsg at h
      rw [hd, andThen_some] at h
      cases h

/-- A round is the dispatch and what is done after it. -/
theorem processMsg_inv {msg : EngMsg} (h : processMsg p env d msg = some (d', es)) :
    ∃ d₁ es₁, dispatch p env d msg = some (d₁, es₁) ∧ d' = (postDispatch env d₁ msg).1 ∧
      es = es₁ ++ (postDispatch env d₁ msg).2 := by
  rcases andThen_inv h with ⟨d₁, es₁, es₂, hdispatch, hpost, rfl⟩
  rw [Option.some.injEq] at hpost
  exact ⟨d₁, es₁, hdispatch, by rw [hpost], by rw [hpost]⟩

/-- A round leaves the setup alone. -/
theorem processMsg_frame {msg : EngMsg} (h : processMsg p env d msg = some (d', es)) :
    Frame d d' := by
  rcases processMsg_inv h with ⟨d₁, es₁, hdispatch, rfl, _⟩
  exact (dispatch_frame hdispatch).trans (postDispatch_frame env d₁ msg)

end Handlers

section Events

variable {p : Platform} {env : ThreadEnv} {d d' : EngData} {es : List Event}

/-- A server that is not SUPL is set by its address, if the name resolves. -/
theorem setServer_resolved {r : List UInt8 → Option (BitVec 32)} {type : LocServerType}
    {hostname : List UInt8} {sAddr : BitVec 32} (port : BitVec 32) (htype : type ≠ .supl)
    (hr : r hostname = some sAddr) :
    setServer r type hostname port =
      (0, [.adapter (.setServerIpv4 (htonl sAddr) port type)]) := by
  cases type with
  | supl => exact absurd rfl htype
  | _ => simp only [setServer, hr]

/-- Without an address, no server is set. -/
theorem setServer_unresolved {r : List UInt8 → Option (BitVec 32)} {type : LocServerType}
    {hostname : List UInt8} (port : BitVec 32) (htype : type ≠ .supl) (hr : r hostname = none) :
    setServer r type hostname port = (-2, []) := by
  cases type with
  | supl => exact absurd rfl htype
  | _ => simp only [setServer, hr]

/-- What sets a server is no message of the machines. -/
theorem setServer_plain (r : List UInt8 → Option (BitVec 32)) (type : LocServerType)
    (hostname : List UInt8) (port : BitVec 32) :
    ∀ msg ∈ (setServer r type hostname port).2, msg.isNif = false := by
  intro msg hmsg
  by_cases htype : type = .supl
  · simp only [htype, setServer] at hmsg
    rw [List.mem_singleton.mp (List.mem_ite_nil_right.mp hmsg).2]
    rfl
  · cases hr : r hostname with
    | none =>
        rw [setServer_unresolved port htype hr] at hmsg
        exact absurd hmsg List.not_mem_nil
    | some sAddr =>
        rw [setServer_resolved port htype hr] at hmsg
        rw [List.mem_singleton.mp hmsg]
        rfl

theorem agpsReinit_plain (r : List UInt8 → Option (BitVec 32)) (d : EngData) :
    ∀ msg ∈ agpsReinit r d, msg.isNif = false := by
  intro msg hmsg
  rcases List.mem_append.mp hmsg with hmsg | hmsg
  · exact setServer_plain r _ _ _ msg (List.mem_ite_nil_right.mp hmsg).2
  · exact setServer_plain r _ _ _ msg (List.mem_ite_nil_right.mp hmsg).2

/-- What `loc_eng_reinit` queues is of one of its five kinds. -/
theorem isConfig_of_mem {msg : EngMsg} (h : msg ∈ configMessages p) : msg.isConfig = true := by
  rcases List.mem_append.mp h with h | h
  · rcases List.mem_append.mp h with h | h
    · simp only [List.mem_cons, List.not_mem_nil, or_false] at h
      rcases h with rfl | rfl | rfl
      · rfl
      · rfl
      · rfl
    · rw [List.mem_singleton.mp (List.mem_ite_nil_right.mp h).2]
      rfl
  · rw [List.mem_singleton.mp h]
    rfl

theorem configMessages_plain (p : Platform) : ∀ msg ∈ configMessages p, msg.isNif = false := by
  intro msg hmsg
  have hconfig := isConfig_of_mem hmsg
  cases msg with
  | nif m => cases hconfig
  | _ => rfl

theorem queued_ofDispatch {msgs : List EngMsg} (h : ∀ msg ∈ msgs, msg.isNif = false) :
    ∀ e ∈ msgs.map Event.queued, e.ofDispatch = true := by
  intro e he
  rcases List.mem_map.mp he with ⟨msg, hmsg, rfl⟩
  simp only [Event.ofDispatch, h msg hmsg, Bool.not_false]

/-- What is called, queued and told keeps to what the dispatch may do. -/
theorem ofDispatch_reinit (p : Platform) (ret : AdapterErr) (d : EngData) :
    ∀ e ∈ (reinit p ret d).2, e.ofDispatch = true := by
  intro e he
  rcases List.mem_cons.mp he with rfl | he
  · rfl
  · exact queued_ofDispatch (configMessages_plain p) e (List.mem_ite_nil_right.mp he).2

theorem ofDispatch_startHandler (env : ThreadEnv) (d : EngData) :
    ∀ e ∈ (startHandler env d).2, e.ofDispatch = true := by
  intro e he
  rcases startHandler_events env d e he with rfl | rfl
  · rfl
  · rfl

theorem ofDispatch_stopHandler (env : ThreadEnv) (d : EngData) :
    ∀ e ∈ (stopHandler env d).2, e.ofDispatch = true := by
  intro e he
  rcases stopHandler_events env d e he with rfl | rfl
  · rfl
  · rfl

theorem ofDispatch_reportStatus (d : EngData) (status : GpsStatusValue) :
    ∀ e ∈ (reportStatus d status).2, e.ofDispatch = true := by
  intro e he
  rw [reportStatus_events d status e he]
  rfl

theorem ofDispatch_resumeFix (env : ThreadEnv) (d : EngData) :
    ∀ e ∈ (resumeFix env d).2, e.ofDispatch = true := by
  intro e he
  unfold resumeFix at he
  split at he
  · rcases List.mem_cons.mp he with rfl | he
    · rfl
    · exact ofDispatch_startHandler env _ e he
  · exact absurd he List.not_mem_nil

/-- Of a position, one callback at most is told. -/
theorem positionReport_events (p : Platform) (d : EngData) (location : GpsLocation)
    (locationExt : List UInt8) (status : LocSessStatus) :
    ∀ e ∈ positionReport p d location locationExt status, ∃ l, e = .locationCb l := by
  intro e he
  unfold positionReport at he
  split at he
  · exact absurd he List.not_mem_nil
  · split at he
    · exact ⟨none, List.mem_singleton.mp he⟩
    · exact ⟨_, List.mem_singleton.mp (List.mem_ite_nil_right.mp he).2⟩

/-- A position is reported, and may end the session. -/
theorem reportPosition_events (p : Platform) (env : ThreadEnv) (d : EngData)
    (location : GpsLocation) (locationExt : List UInt8) (status : LocSessStatus) :
    ∀ e ∈ (reportPosition p env d location locationExt status).2,
      e = d.calls .stopFix ∨ ∃ l, e = .locationCb l := by
  intro e he
  simp only [reportPosition] at he
  split at he
  · exact absurd he List.not_mem_nil
  · split at he
    · rcases List.mem_append.mp he with he | he
      · exact Or.inr (positionReport_events p d location locationExt status e he)
      · exact Or.inl (List.mem_singleton.mp (List.mem_ite_nil_right.mp he).2)
    · exact Or.inr (positionReport_events p d location locationExt status e he)

theorem ofDispatch_handleEngineUp (h : handleEngineUp p env d = some (d', es)) :
    ∀ e ∈ es, e.ofDispatch = true := by
  rcases handleEngineUp_inv h with ⟨d₁, es₁, h₁, _, rfl⟩
  rcases agpsRestart_inv h₁ with ⟨xs, hn, rfl⟩
  intro e he
  simp only [List.mem_append] at he
  rcases he with he | (he | he) | he | he
  · exact ofDispatch_reinit p _ d e he
  · exact hn.ofDispatch e he
  · exact queued_ofDispatch (agpsReinit_plain _ d) e (List.mem_ite_nil_right.mp he).2
  · exact ofDispatch_reportStatus _ _ e he
  · exact ofDispatch_resumeFix env _ e he

/-- What passes a message on is of the dispatch. -/
theorem Event.ofDispatch_of_passesOn {e : Event} (h : e.passesOn = true) : e.ofDispatch = true := by
  cases e with
  | call engineStatus c =>
      cases c with
      | deleteAidingData f => cases h
      | _ => rfl
  | svStatusCb | nmeaCb | downloadRequestCb | ulpNetworkCallback | ulpPhoneContextReqCb => rfl
  | _ => cases h

/-- The dispatch keeps to what it may do. -/
theorem dispatch_events {msg : EngMsg} (h : dispatch p env d msg = some (d', es)) :
    ∀ e ∈ es, e.ofDispatch = true := by
  intro e he
  cases dispatch_inv h with
  | startFix => exact ofDispatch_startHandler env d e he
  | stopFix => exact ofDispatch_stopHandler env d e he
  | reportPosition =>
      rcases reportPosition_events p env d _ _ _ e he with rfl | ⟨l, rfl⟩
      · rfl
      · rfl
  | reportStatus => exact ofDispatch_reportStatus d _ e he
  | engineDown => exact ofDispatch_reportStatus _ _ e he
  | engineUp _ hup => exact ofDispatch_handleEngineUp hup e he
  | nif _ _ hn => exact hn.ofDispatch e he
  | passedOn _ hes => exact Event.ofDispatch_of_passesOn (hes e he)
  | stopDeferred | requestNi | deleteAidingData => exact absurd he List.not_mem_nil

end Events

end Eng

end Taoshan
