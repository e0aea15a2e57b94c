import Taoshan.Eng.Steps

/-!
# The Engine with its Queue

The engine, the queue of its thread, and everyone who puts messages into it.

Four parties do. The modem reports through `LocApiAdapter`, which checks
nothing. The framework calls the interface, and three of its functions check
that there is a callback for the state of a data call. The daemon sends its
requests over a pipe to a thread that `loc_eng_agps_init` launches. And the
handlers and the calls that set things up queue what the log of the engine
records (`queuedBy`).

The messages that reach the state machines are put in exactly as the source
does it. Of the others it does not matter who sends them, and anyone may
(`Label.post`). A call of another thread is one step, and so is a round.

The queue is first in, first out. A run of the system is a run of the engine in
which the messages taken up are those that were queued (`system_run`).

## Main definitions

* `CtrlIfRequest`, `ifRequestHandler`, `ifReleaseHandler`: The daemon's link.
* `requestATL`, `releaseATL`, `handleEngineUpEvent`: The modem.
* `queuedOf`, `upMessages`: What a round queues, and what the modem's return does.
* `System`, `Label`, `System.step`: The system.

## Theorems

* `system_step_inv`: The steps taken apart.
* `queuedOf_processMsg`, `upMessages_adapter`: What a round queues is the configuration
  and the servers, when the modem is up again.
* `processMsg_adapter`: And that can be served.
* `queuedBy_plain`: The engine queues no message of the machines itself.
* `system_run`: A run of the system is a run of the engine.
-/

namespace Taoshan

namespace Eng

open Agps

/-- `ctrl_if_req_type_e_type`. -/
def IF_REQUEST_TYPE_SUPL : Int := 0
def IF_REQUEST_TYPE_WIFI : Int := 1
def IF_REQUEST_TYPE_ANY : Int := 2

/-- `ctrl_if_req_sender_id_e_type`. -/
def IF_REQUEST_SENDER_ID_QUIPC : Int := 0
def IF_REQUEST_SENDER_ID_MSAPM : Int := 1
def IF_REQUEST_SENDER_ID_GPSONE_DAEMON : Int := 2

/-- `ctrl_msg_if_request`, as it came over the pipe. -/
structure CtrlIfRequest where
  type : Int
  senderId : Int
  ipv4Addr : BitVec 32
  ipv6Addr : Vector UInt8 16
  ssid : List UInt8
  password : List UInt8

/-- The type of interface that is asked for. -/
def CtrlIfRequest.ifType (req : CtrlIfRequest) : Option IfType :=
  if req.type = IF_REQUEST_TYPE_SUPL then some .supl
  else if req.type = IF_REQUEST_TYPE_WIFI then some .wifi
  else if req.type = IF_REQUEST_TYPE_ANY then some .any
  else none

/-- What the two handlers have in common: the daemon's own clients are of the
    BIT kind, the other two of the WIFI kind. -/
def ifHandler (wifi : SenderId → Option (List UInt8) → Option (List UInt8) → Msg)
    (bit : IfType → BitVec 32 → Option (Vector UInt8 16) → Msg) (req : CtrlIfRequest) :
    Int × List EngMsg :=
  let ssid := some (req.ssid.take (SSID_BUF_SIZE - 1))
  let password := some (req.password.take (SSID_BUF_SIZE - 1))
  match req.ifType with
  | none => (-1, [])
  | some type =>
      if req.senderId = IF_REQUEST_SENDER_ID_QUIPC then (0, [.nif (wifi .quipc ssid password)])
      else if req.senderId = IF_REQUEST_SENDER_ID_MSAPM then (0, [.nif (wifi .msapm ssid password)])
      else if req.senderId = IF_REQUEST_SENDER_ID_GPSONE_DAEMON then
        (0, [.nif (bit type req.ipv4Addr (some req.ipv6Addr))])
      else (-1, [])

/-- `loc_eng_dmn_conn_loc_api_server_if_request_handler`. -/
def ifRequestHandler (locApiHandle : Bool) (req : CtrlIfRequest) : Int × List EngMsg :=
  if locApiHandle = false then (1, []) else ifHandler .requestWifi .requestBit req

/-- `loc_eng_dmn_conn_loc_api_server_if_release_handler`, which does not check
    the handle. -/
def ifReleaseHandler (req : CtrlIfRequest) : Int × List EngMsg :=
  ifHandler .releaseWifi .releaseBit req

/-- `LocApiAdapter::requestATL`. -/
def requestATL (connHandle : BitVec 32) (agpsType : AGpsType) : EngMsg :=
  .nif (.requestAtl connHandle agpsType)

/-- `LocApiAdapter::releaseATL`. -/
def releaseATL (connHandle : BitVec 32) : EngMsg := .nif (.releaseAtl connHandle)

/-- `LocApiAdapter::handleEngineUpEvent`. -/
def handleEngineUpEvent : EngMsg := .nif .engineUp

/-- The message that was queued, if one was. -/
def Event.queuedMsg : Event → Option EngMsg
  | .queued msg => some msg
  | _ => none

/-- The messages that were queued, in order. -/
def queuedOf (xs : List Event) : List EngMsg := xs.filterMap Event.queuedMsg

/-- What a step of the engine has put into the queue. -/
def queuedBy (e e' : Engine) : List EngMsg := queuedOf (e'.log.drop e.log.length)

/-- The engine and the queue of its thread, oldest message first. -/
structure System where
  engine : Engine
  queue : List EngMsg

/-- Before the first call. -/
def System.fresh : System := ⟨.fresh, []⟩

/-- The thread takes up a message, or another party does something. -/
inductive Label
  | take (env : ThreadEnv)
  | call (a : Action)
  | requestATL (connHandle : BitVec 32) (agpsType : AGpsType)
  | releaseATL (connHandle : BitVec 32)
  | handleEngineUpEvent
  | ifRequest (req : CtrlIfRequest)
  | ifRelease (req : CtrlIfRequest)
  | agpsOpen (agpsType : AGpsType) (apn : Option (List UInt8)) (bearerType : Int)
  | agpsClosed (agpsType : AGpsType)
  | agpsOpenFailed (agpsType : AGpsType)
  | start
  | stop
  | post (msg : EngMsg)

namespace System

variable (p : Platform) (s : System)

/-- Messages are put into the queue. -/
def put (msgs : List EngMsg) : System := { s with queue := s.queue ++ msgs }

/-- The adapter puts a message into the queue. It is there if the context is. -/
def adapterPost (msg : EngMsg) : Option System :=
  if s.engine.data.context then some (s.put [msg]) else none

/-- The engine makes a step, with so much of the queue left. -/
def engineStep (queue : List EngMsg) (a : Action) : Option System :=
  match Eng.step p s.engine a with
  | none => none
  | some e => some ⟨e, queue ++ queuedBy s.engine e⟩

def step (l : Label) : Option System :=
  if s.engine.phase = .faulted then none
  else match l with
    | .take env => match s.queue with
      | [] => none
      | msg :: queue => s.engineStep p queue (.take env msg)
    | .call a => if a.ofCaller then s.engineStep p s.queue a else none
    | .requestATL connHandle agpsType => s.adapterPost (Eng.requestATL connHandle agpsType)
    | .releaseATL connHandle => s.adapterPost (Eng.releaseATL connHandle)
    | .handleEngineUpEvent => s.adapterPost Eng.handleEngineUpEvent
    -- The thread that reads the pipe is launched with the handle.
    | .ifRequest req =>
        if s.engine.locApiHandle then
          some (s.put (ifRequestHandler s.engine.locApiHandle req).2)
        else none
    | .ifRelease req =>
        if s.engine.locApiHandle then some (s.put (ifReleaseHandler req).2) else none
    | .agpsOpen agpsType apn bearerType =>
        some (s.put (Eng.agpsOpen s.engine.data agpsType apn bearerType).2)
    | .agpsClosed agpsType => some (s.put (Eng.agpsClosed s.engine.data agpsType).2)
    | .agpsOpenFailed agpsType => some (s.put (Eng.agpsOpenFailed s.engine.data agpsType).2)
    | .start => some (s.put (queuedOf (Eng.start p s.engine.data).2))
    | .stop => some (s.put (queuedOf (Eng.stop p s.engine.data).2))
    | .post msg => if msg.isNif then none else s.adapterPost msg

end System

section Runs

variable {p : Platform} {s s' : System}

/-- The messages of the machines that come from the modem. -/
def ofModem : Msg → Bool
  | .requestAtl .. => true
  | .releaseAtl _ => true
  | .engineUp => true
  | _ => false

/-- What may be put into the queue: a message of the machines that does not
    come from the modem only if the machines have been set up. -/
def System.Admits (s : System) (msg : EngMsg) : Prop :=
  ∀ m, msg = .nif m →
    ofModem m = true ∨ s.engine.data.agpsStatusCb = true ∨ s.engine.locApiHandle = true

/-- The thread takes up a message. -/
def Label.ofThread : Label → Bool
  | .take _ => true
  | _ => false

/-- What a step of the system comes to: the thread takes up the oldest message,
    another thread makes a call, or the queue is filled. -/
inductive SystemStep (p : Platform) (s : System) (l : Label) : System → Prop
  | took {env : ThreadEnv} {msg : EngMsg} {queue : List EngMsg} {e : Engine}
      (hl : l = .take env) (hqueue : s.queue = msg :: queue)
      (hstep : Eng.step p s.engine (.take env msg) = some e) :
      SystemStep p s l ⟨e, queue ++ queuedBy s.engine e⟩
  | called {a : Action} {e : Engine} (hl : l = .call a) (ha : a.ofCaller = true)
      (hstep : Eng.step p s.engine a = some e) :
      SystemStep p s l ⟨e, s.queue ++ queuedBy s.engine e⟩
  | filled {msgs : List EngMsg} (hl : l.ofThread = false) (hmsgs : ∀ msg ∈ msgs, s.Admits msg) :
      SystemStep p s l (s.put msgs)

theorem engineStep_inv {queue : List EngMsg} {a : Action} (h : s.engineStep p queue a = some s') :
    ∃ e, Eng.step p s.engine a = some e ∧ s' = ⟨e, queue ++ queuedBy s.engine e⟩ := by
  unfold System.engineStep at h
  cases hstep : Eng.step p s.engine a with
  | none => rw [hstep] at h; cases h
  | some e =>
      rw [hstep, Option.some.injEq] at h
      exact ⟨e, rfl, h.symm⟩

theorem adapterPost_inv {msg : EngMsg} (h : s.adapterPost msg = some s') :
    s.engine.data.context = true ∧ s' = s.put [msg] := by
  unfold System.adapterPost at h
  split at h
  · next hcontext =>
      rw [Option.some.injEq] at h
      exact ⟨hcontext, h.symm⟩
  · cases h

/-- No message of the machines is queued. -/
def Event.sparesMachines : Event → Bool
  | .queued msg => !msg.isNif
  | _ => true

theorem sparesMachines_of_ofCaller {x : Event} (h : x.ofCaller = true) :
    x.sparesMachines = true := by
  cases x with
  | queued msg => exact h
  | _ => rfl

theorem sparesMachines_of_ofDispatch {x : Event} (h : x.ofDispatch = true) :
    x.sparesMachines = true := by
  cases x with
  | queued msg => exact h
  | _ => rfl

theorem queuedOf_plain {xs : List Event} (h : ∀ x ∈ xs, x.sparesMachines = true) :
    ∀ msg ∈ queuedOf xs, msg.isNif = false := by
  intro msg hmsg
  rcases List.mem_filterMap.mp hmsg with ⟨x, hx, hqueued⟩
  have hplain := h x hx
  cases x with
  | queued m =>
      have hm : m = msg := Option.some.inj hqueued
      rw [hm] at hplain
      simp only [Event.sparesMachines, Bool.not_eq_true'] at hplain
      exact hplain
  | _ => cases hqueued

theorem sparesMachines_of_unqueued {x : Event} (h : x.queuedMsg = none) :
    x.sparesMachines = true := by
  cases x with
  | queued msg => cases h
  | _ => rfl

/-- What is done after the dispatch queues nothing. -/
theorem postDispatch_unqueued (env : ThreadEnv) (d : EngData) (msg : EngMsg) :
    ∀ x ∈ (postDispatch env d msg).2, x.queuedMsg = none := by
  intro x hx
  rcases postDispatch_events env d msg x hx with rfl | rfl | ⟨status, f, rfl⟩
  · rfl
  · rfl
  · rfl

/-- Where nothing is queued, no messages are. -/
theorem queuedOf_unqueued {xs : List Event} (h : ∀ x ∈ xs, x.queuedMsg = none) :
    queuedOf xs = [] := List.filterMap_eq_nil_iff.mpr h

theorem queuedOf_map_queued (msgs : List EngMsg) : queuedOf (msgs.map Event.queued) = msgs := by
  unfold queuedOf
  rw [List.filterMap_map]
  exact List.filterMap_some

/-- What a session that is started again does, queues nothing. -/
theorem resumeFix_unqueued (env : ThreadEnv) (d : EngData) :
    ∀ x ∈ (resumeFix env d).2, x.queuedMsg = none := by
  intro x hx
  unfold resumeFix at hx
  split at hx
  · rcases List.mem_cons.mp hx with rfl | hx
    · rfl
    · rcases startHandler_events env _ x hx with rfl | rfl
      · rfl
      · rfl
  · exact absurd hx List.not_mem_nil

/-- What the modem's return queues: the configuration, and the saved servers. -/
def upMessages (p : Platform) (env : ThreadEnv) (d : EngData) : List EngMsg :=
  (if env.reinit = LOC_API_ADAPTER_ERR_SUCCESS then configMessages p else []) ++
    (if d.agpsStatusCb then agpsReinit env.resolveInAddr d else [])

theorem queuedOf_handleEngineUp {env : ThreadEnv} {d d' : EngData} {es : List Event}
    (h : handleEngineUp p env d = some (d', es)) : queuedOf es = upMessages p env d := by
  rcases handleEngineUp_inv h with ⟨d₁, es₁, hrestart, _, rfl⟩
  rcases agpsRestart_inv hrestart with ⟨xs, hn, rfl⟩
  have happend : ∀ xs ys : List Event, queuedOf (xs ++ ys) = queuedOf xs ++ queuedOf ys :=
    fun _ _ => List.filterMap_append
  -- The two parts that queue something do so under a condition.
  have hite : ∀ (c : Prop) [Decidable c] (msgs : List EngMsg),
      queuedOf (if c then msgs.map .queued else []) = if c then msgs else [] := by
    intro c _ msgs
    split
    · exact queuedOf_map_queued msgs
    · rfl
  have hreinit : queuedOf (reinit p env.reinit d).2 =
      if env.reinit = LOC_API_ADAPTER_ERR_SUCCESS then configMessages p else [] := hite _ _
  -- The machines are flushed, and tell and delete only.
  have hmachines : queuedOf xs = [] := queuedOf_unqueued fun x hx => by
    rcases hn.events x hx with ⟨i, y, rfl⟩
    rfl
  have hstatus : queuedOf (reportStatus d₁ GPS_STATUS_ENGINE_ON).2 = [] :=
    queuedOf_unqueued fun x hx => by
      rw [reportStatus_events d₁ _ x hx]
      rfl
  rw [happend, happend, happend, happend, hreinit, hmachines, hite, hstatus,
    queuedOf_unqueued (resumeFix_unqueued env _), List.nil_append, List.append_nil,
    List.append_nil, upMessages]

/-- No other message makes its handler queue one. -/
theorem queuedOf_dispatch {env : ThreadEnv} {d d' : EngData} {es : List Event} {msg : EngMsg}
    (h : dispatch p env d msg = some (d', es)) :
    queuedOf es = if msg = .nif .engineUp then upMessages p env d else [] := by
  -- Every other handler is known by its events, and none of them is a queueing.
  have hother : msg ≠ .nif .engineUp → (∀ x ∈ es, x.queuedMsg = none) →
      queuedOf es = if msg = .nif .engineUp then upMessages p env d else [] := by
    intro hmsg hxs
    rw [if_neg hmsg]
    exact queuedOf_unqueued hxs
  cases dispatch_inv h with
  | engineUp hmsg hup =>
      rw [if_pos hmsg]
      exact queuedOf_handleEngineUp hup
  | startFix hmsg =>
      refine hother (by rw [hmsg]; exact nofun) (fun x hx => ?_)
      rcases startHandler_events env d x hx with rfl | rfl
      · rfl
      · rfl
  | stopFix hmsg _ =>
      refine hother (by rw [hmsg]; exact nofun) (fun x hx => ?_)
      rcases stopHandler_events env d x hx with rfl | rfl
      · rfl
      · rfl
  | reportPosition hmsg =>
      refine hother (by rw [hmsg]; exact nofun) (fun x hx => ?_)
      rcases reportPosition_events p env d _ _ _ x hx with rfl | ⟨l, rfl⟩
      · rfl
      · rfl
  | reportStatus hmsg =>
      refine hother (by rw [hmsg]; exact nofun) (fun x hx => ?_)
      rw [reportStatus_events d _ x hx]
      rfl
  | engineDown hmsg =>
      refine hother (by rw [hmsg]; exact nofun) (fun x hx => ?_)
      rw [reportStatus_events _ _ x hx]
      rfl
  | nif hmsg hm hn =>
      refine hother (by rw [hmsg]; exact fun heq => hm (EngMsg.nif.inj heq)) (fun x hx => ?_)
      rcases hn.events x hx with ⟨i, y, rfl⟩
      rfl
  | passedOn hmsg hes =>
      refine hother (by rintro rfl; cases hmsg) (fun x hx => ?_)
      have hpasses := hes x hx
      cases x with
      | queued m => cases hpasses
      | _ => rfl
  | stopDeferred hmsg _ | requestNi hmsg | deleteAidingData hmsg =>
      exact hother (by rw [hmsg]; exact nofun) (List.forall_mem_nil _)

/-- What a round queues. -/
theorem queuedOf_processMsg {env : ThreadEnv} {d d' : EngData} {es : List Event} {msg : EngMsg}
    (h : processMsg p env d msg = some (d', es)) :
    queuedOf es = if msg = .nif .engineUp then upMessages p env d else [] := by
  rcases processMsg_inv h with ⟨d₁, es₁, hdispatch, _, rfl⟩
  have hpost := queuedOf_unqueued (postDispatch_unqueued env d₁ msg)
  unfold queuedOf at hpost ⊢
  rw [List.filterMap_append, hpost, List.append_nil]
  exact queuedOf_dispatch hdispatch

/-- A message that is passed on to the adapter. -/
def EngMsg.isAdapter : EngMsg → Bool
  | .adapter _ => true
  | _ => false

/-- A server is set by one message at most, which is for the adapter. -/
theorem setServer_adapter (r : List UInt8 → Option (BitVec 32)) (type : LocServerType)
    (hostname : List UInt8) (port : BitVec 32) :
    (setServer r type hostname port).2.length ≤ 1 ∧
      ∀ msg ∈ (setServer r type hostname port).2, msg.isAdapter = true := by
  have hone : ∀ a : AdapterMsg, [EngMsg.adapter a].length ≤ 1 ∧
      ∀ msg ∈ [EngMsg.adapter a], msg.isAdapter = true := by
    intro a
    refine ⟨Nat.le_refl 1, fun msg hmsg => ?_⟩
    rw [List.mem_singleton.mp hmsg]
    rfl
  -- A SUPL server may be set without a message, and another only if its name is
  -- resolved.
  by_cases htype : type = .supl
  · simp only [htype, setServer]
    split
    · exact hone _
    · exact ⟨Nat.zero_le 1, List.forall_mem_nil _⟩
  · cases hr : r hostname with
    | none =>
        rw [setServer_unresolved port htype hr]
        exact ⟨Nat.zero_le 1, List.forall_mem_nil _⟩
    | some sAddr =>
        rw [setServer_resolved port htype hr]
        exact hone _

/-- The modem's return queues seven messages at most, all for the adapter. -/
theorem upMessages_adapter (p : Platform) (env : ThreadEnv) (d : EngData) :
    (upMessages p env d).length ≤ 7 ∧ ∀ msg ∈ upMessages p env d, msg.isAdapter = true := by
  have hite : ∀ (c : Prop) [Decidable c] (msgs : List EngMsg),
      (if c then msgs else []).length ≤ msgs.length := by
    intro c _ msgs
    split
    · exact Nat.le_refl _
    · exact Nat.zero_le _
  -- Four messages, and a fifth if any property of the sensors is given.
  have hconfig : (configMessages p).length ≤ 5 := by
    simp only [configMessages]
    split
    · exact Nat.le_refl 5
    · exact Nat.le_succ 4
  have hservers : (agpsReinit env.resolveInAddr d).length ≤ 2 := by
    unfold agpsReinit
    rw [List.length_append]
    exact Nat.add_le_add ((hite _ _).trans (setServer_adapter _ _ _ _).1)
      ((hite _ _).trans (setServer_adapter _ _ _ _).1)
  refine ⟨?_, fun msg hmsg => ?_⟩
  · unfold upMessages
    rw [List.length_append]
    exact Nat.add_le_add ((hite _ _).trans hconfig) ((hite _ _).trans hservers)
  · rcases List.mem_append.mp hmsg with hmsg | hmsg
    · have hkind := isConfig_of_mem (List.mem_ite_nil_right.mp hmsg).2
      cases msg with
      | adapter m => rfl
      | _ => cases hkind
    · rcases List.mem_append.mp (List.mem_ite_nil_right.mp hmsg).2 with hmsg | hmsg
      · exact (setServer_adapter _ _ _ _).2 msg (List.mem_ite_nil_right.mp hmsg).2
      · exact (setServer_adapter _ _ _ _).2 msg (List.mem_ite_nil_right.mp hmsg).2

/-- And a message for the adapter meets no NULL pointer, and makes its handler queue
    nothing. -/
theorem processMsg_adapter (p : Platform) (env : ThreadEnv) (d : EngData) {msg : EngMsg}
    (hmsg : msg.isAdapter = true) :
    ∃ d' es, processMsg p env d msg = some (d', es) ∧ queuedOf es = [] := by
  have hnif : ∀ m, msg ≠ .nif m := by
    rintro m rfl
    cases hmsg
  cases hround : processMsg p env d msg with
  | none =>
      rcases dispatch_isSome p env d hnif with ⟨r, hr⟩
      rw [processMsg_eq_none hround] at hr
      cases hr
  | some r => exact ⟨r.1, r.2, rfl, by rw [queuedOf_processMsg hround, if_neg (hnif _)]⟩

/-- No step of the engine queues a message of the machines. -/
theorem queuedBy_plain {e e' : Engine} {a : Action} (h : Eng.step p e a = some e') :
    ∀ msg ∈ queuedBy e e', msg.isNif = false := by
  -- A step appends to the log, and queues what it appends.
  have hof : ∀ xs, e'.log = e.log ++ xs → (∀ x ∈ xs, x.sparesMachines = true) →
      ∀ msg ∈ queuedBy e e', msg.isNif = false := by
    intro xs hxs hplain
    unfold queuedBy
    rw [hxs, List.drop_left]
    exact queuedOf_plain hplain
  have htook : ∀ msg, (Event.took msg).sparesMachines = true := fun _ => rfl
  rcases step_cases h with ha | ⟨env, msg, rfl, _, htaken⟩
  · rcases step_caller_log ha h with ⟨xs, hxs, hcaller⟩
    exact hof xs hxs (fun x hx => sparesMachines_of_ofCaller (hcaller x hx))
  · cases htaken with
    | returned _ =>
        refine hof [.took msg] rfl (fun x hx => ?_)
        rw [List.mem_singleton.mp hx]
        exact htook msg
    | faulted _ _ _ =>
        refine hof [.took msg] rfl (fun x hx => ?_)
        rw [List.mem_singleton.mp hx]
        exact htook msg
    | round _ _ hround =>
        rcases processMsg_inv hround with ⟨d₁, es₁, hdispatch, rfl, rfl⟩
        refine hof ([.took msg] ++ (es₁ ++ (postDispatch env d₁ msg).2))
          (List.append_assoc _ _ _) (fun x hx => ?_)
        rcases List.mem_append.mp hx with hx | hx
        · rw [List.mem_singleton.mp hx]
          exact htook msg
        · rcases List.mem_append.mp hx with hx | hx
          · exact sparesMachines_of_ofDispatch (dispatch_events hdispatch x hx)
          · exact sparesMachines_of_unqueued (postDispatch_unqueued env d₁ msg x hx)

theorem admits_plain {msg : EngMsg} (h : msg.isNif = false) : s.Admits msg := by
  intro m hm
  rw [hm] at h
  cases h

theorem start_ofCaller (p : Platform) (d : EngData) : ∀ x ∈ (start p d).2, x.ofCaller = true := by
  intro x hx
  unfold start at hx
  split at hx
  · exact absurd hx List.not_mem_nil
  · split at hx
    · rw [List.mem_singleton.mp hx]
      rfl
    · rw [List.mem_singleton.mp hx]
      rfl

/-- The three calls of the data service ask for the callback. -/
theorem agpsPost_admits {m : Msg} : ∀ msg ∈ (agpsPost s.engine.data m).2, s.Admits msg := by
  intro msg hmsg
  unfold agpsPost at hmsg
  split at hmsg
  · next hset => exact fun _ _ => Or.inr (Or.inl hset.2)
  · exact absurd hmsg List.not_mem_nil

theorem agpsOpen_admits {agpsType : AGpsType} {apn : Option (List UInt8)} {bearerType : Int} :
    ∀ msg ∈ (agpsOpen s.engine.data agpsType apn bearerType).2, s.Admits msg := by
  cases apn with
  | none =>
      intro msg hmsg
      simp only [agpsOpen] at hmsg
      split at hmsg
      · exact absurd hmsg List.not_mem_nil
      · exact absurd hmsg List.not_mem_nil
  | some apn => exact agpsPost_admits

theorem system_step_inv {l : Label} (h : s.step p l = some s') :
    s.engine.phase ≠ .faulted ∧ SystemStep p s l s' := by
  -- The labels that fill the queue differ in what admits their messages.
  have hput : ∀ {msgs : List EngMsg}, l.ofThread = false → (∀ msg ∈ msgs, s.Admits msg) →
      some (s.put msgs) = some s' → SystemStep p s l s' := by
    intro msgs hl hmsgs h
    rw [Option.some.injEq] at h
    rw [← h]
    exact .filled hl hmsgs
  have hpost : ∀ {msg : EngMsg}, l.ofThread = false → s.Admits msg →
      s.adapterPost msg = some s' → SystemStep p s l s' := by
    intro msg hl hmsg h
    rw [(adapterPost_inv h).2]
    refine .filled hl (fun x hx => ?_)
    rw [List.mem_singleton.mp hx]
    exact hmsg
  have hhandle : ∀ {msgs : List EngMsg}, l.ofThread = false →
      (if s.engine.locApiHandle then some (s.put msgs) else none) = some s' →
      SystemStep p s l s' := by
    intro msgs hl h
    split at h
    · next hset => exact hput hl (fun _ _ _ _ => Or.inr (Or.inr hset)) h
    · cases h
  have hplain : ∀ {xs : List Event}, (∀ x ∈ xs, x.ofCaller = true) →
      ∀ msg ∈ queuedOf xs, s.Admits msg :=
    fun hxs msg hmsg =>
      admits_plain (queuedOf_plain (fun x hx => sparesMachines_of_ofCaller (hxs x hx)) msg hmsg)
  unfold System.step at h
  split at h
  · cases h
  · next halive =>
      refine ⟨halive, ?_⟩
      cases l with
      | take env =>
          dsimp only at h
          split at h
          · cases h
          · next msg queue hqueue =>
              rcases engineStep_inv h with ⟨e, hstep, rfl⟩
              exact .took rfl hqueue hstep
      | call a =>
          dsimp only at h
          split at h
          · next ha =>
              rcases engineStep_inv h with ⟨e, hstep, rfl⟩
              exact .called rfl ha hstep
          · cases h
      | requestATL connHandle agpsType =>
          refine hpost rfl (fun m hm => ?_) h
          cases hm
          exact Or.inl rfl
      | releaseATL connHandle =>
          refine hpost rfl (fun m hm => ?_) h
          cases hm
          exact Or.inl rfl
      | handleEngineUpEvent =>
          refine hpost rfl (fun m hm => ?_) h
          cases hm
          exact Or.inl rfl
      | ifRequest req =>
          dsimp only at h
          exact hhandle rfl h
      | ifRelease req =>
          dsimp only at h
          exact hhandle rfl h
      | agpsOpen agpsType apn bearerType => exact hput rfl agpsOpen_admits h
      | agpsClosed agpsType => exact hput rfl agpsPost_admits h
      | agpsOpenFailed agpsType => exact hput rfl agpsPost_admits h
      | start => exact hput rfl (hplain (start_ofCaller p _)) h
      | stop => exact hput rfl (hplain (stop_ofCaller p _)) h
      | post msg =>
          dsimp only at h
          split at h
          · cases h
          · -- Any other message may come at any time.
            next hmsg =>
              rw [Bool.not_eq_true] at hmsg
              exact hpost rfl (admits_plain hmsg) h

/-- A step of the system is a step of the engine, or none. -/
theorem SystemStep.engine {l : Label} (h : SystemStep p s l s') :
    (∃ a, Eng.step p s.engine a = some s'.engine) ∨ s'.engine = s.engine := by
  cases h with
  | took _ _ hstep => exact Or.inl ⟨_, hstep⟩
  | called _ _ hstep => exact Or.inl ⟨_, hstep⟩
  | filled _ _ => exact Or.inr rfl

/-- A run of the system is a run of the engine, so what holds of all runs of the
    engine holds with the queue in place. -/
theorem system_run {ls : List Label} (h : Run.exec (System.step p) s ls = some s') :
    ∃ as, Run.exec (Eng.step p) s.engine as = some s'.engine := by
  induction ls generalizing s with
  | nil =>
      rw [Run.exec_nil, Option.some.injEq] at h
      exact ⟨[], by rw [h, Run.exec_nil]⟩
  | cons l ls ih =>
      rcases Run.exec_cons_inv h with ⟨t, hstep, hrest⟩
      rcases ih hrest with ⟨as, has⟩
      rcases (system_step_inv hstep).2.engine with ⟨a, ha⟩ | hsame
      · exact ⟨a :: as, by rw [Run.exec_cons_of_step _ ha]; exact has⟩
      · exact ⟨as, by rw [← hsame]; exact has⟩

end Runs

end Eng

end Taoshan
