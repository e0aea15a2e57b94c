import Taoshan.Lib.Sweep

/-!
# Subscribers and Notifications

The clients of a network interface, and how one of them decides that a
notification is meant for it.

There are three kinds, as in `loc_eng_agps.h`: the BIT daemon's clients, known
by an address; the modem's ATL connections, known by a handle; and the WIFI
clients, known by who sent the request. All three are compared through the one
integer `ID`, and the comparison is virtual in its first argument only. A BIT
client that has no IPv4 address goes on to compare IPv6 addresses, whatever
its second argument is. If that is not a BIT client, the bytes it reads there
belong to something else. `Wild` is the outcome of such a comparison; nothing
is assumed about it.

Every object has an address, `obj`. The code never compares addresses, but it
does write to a listed object through a pointer, so two listed objects that
hold the same values are still two objects.

## Main definitions

* `Subscriber`: The three kinds of client.
* `Subscriber.equals`: The virtual comparison.
* `Notification`: Whom a notification is for, and what it says.
* `Subscriber.forMe`: Whether a client is meant.
* `Subscriber.notifyRsrcStatus`: The client's reaction, with what it sends.
* `AGpsStatus`: What the connectivity service is handed.

## Theorems

* `equals_ID`: Only clients with one `ID` are equal.
* `equals_refl`: Every client equals itself.
* `equals_of_ne_bit`: A client that is not a BIT client compares the `ID` only.
* `equals_of_bit`: What a BIT client reads of a client of another kind.
* `equals_wild_cases`: A comparison is well defined, or it is the wild one.
* `notifyRsrcStatus_of_forMe`, `notifyRsrcStatus_of_not_forMe`: The reaction.
-/

namespace Taoshan

namespace Agps

/-- `AgpsRsrcStatus`. -/
inductive AgpsRsrcStatus
  | subscribe
  | unsubscribe
  | granted
  | released
  | denied
  | statusMax
  deriving DecidableEq, Repr

/-- `loc_if_req_sender_id_e_type`. -/
inductive SenderId
  | quipc
  | msapm
  | gpsoneDaemon
  | modem
  | unknown
  deriving DecidableEq, Repr

/-- The enumerator's value. -/
def SenderId.toId : SenderId → BitVec 32
  | .quipc => 0
  | .msapm => 1
  | .gpsoneDaemon => 2
  | .modem => 3
  | .unknown => 4

/-- The two values of `AGpsStatusValue` a state machine sends. -/
inductive AGpsStatusValue
  | requestAgpsDataConn
  | releaseAgpsDataConn
  deriving DecidableEq, Repr

/-- The `GPSONE_LOC_API_IF_*` results the daemon is told. -/
inductive IfStatus
  | requestSuccess
  | releaseSuccess
  | failure
  deriving DecidableEq, Repr

/-- `AGpsType`: `AGPS_TYPE_INVALID` is negative, so it is kept signed. -/
abbrev AGpsType := Int

def AGPS_TYPE_INVALID : AGpsType := -1
def AGPS_TYPE_SUPL : AGpsType := 1
def AGPS_TYPE_WWAN_ANY : AGpsType := 3
def AGPS_TYPE_WIFI : AGpsType := 4

/-- `INADDR_NONE`, all ones. -/
def INADDR_NONE : BitVec 32 := 0xffffffff

def SSID_BUF_SIZE : Nat := 33

theorem SSID_BUF_SIZE_pos : 0 < SSID_BUF_SIZE := by decide

/-- An `ipv6_addr` has sixteen bytes. -/
theorem ipv6Addr_pos : 0 < 16 := by decide

/-- `dst[0] = 0`. -/
def zeroFirst {n : Nat} (hn : 0 < n) (dst : Vector UInt8 n) : Vector UInt8 n := dst.set 0 0 hn

/-- `strncmp` on two buffers, a null byte ending the comparison. -/
def strncmp : Nat → List UInt8 → List UInt8 → Int
  | n + 1, a :: as, b :: bs =>
      if a ≠ b then (a.toNat : Int) - b.toNat
      -- Both strings end here.
      else if a = 0 then 0
      else strncmp n as bs
  | _, _, _ => 0

/-- `strlcpy` into a buffer: at most all but the last byte is copied and the
    terminator is written; what lies behind it is left alone. -/
def strlcpy {n : Nat} (dst : Vector UInt8 n) (src : List UInt8) : Vector UInt8 n :=
  Vector.ofFn fun i =>
    match (src.take (n - 1))[i.val]? with
    | some c => c
    | none => if i.val = (src.take (n - 1)).length then 0 else dst[i]

/-- `AGpsStatus`, less its constant `size`. -/
structure AGpsStatus where
  type : AGpsType
  status : AGpsStatusValue
  ipv4Addr : BitVec 32
  ipv6Addr : Vector UInt8 16
  ssid : Vector UInt8 SSID_BUF_SIZE
  password : Vector UInt8 SSID_BUF_SIZE
  deriving DecidableEq

/-- `Subscriber` and its subclasses. A WIFI client's strings are kept without
    their terminator. -/
inductive Subscriber
  | bit (obj : Nat) (id : BitVec 32) (ipv6Addr : Vector UInt8 16)
  | atl (obj : Nat) (id : BitVec 32) (mBackwardCompatibleMode : Bool)
  | wifi (obj : Nat) (mSSID mPassword : Option (List UInt8)) (senderId : SenderId)
      (mIsInactive : Bool)
  deriving DecidableEq

/-- The outcome of comparing a BIT client's IPv6 address with memory that
    holds none, for the two objects compared. -/
abbrev Wild := Subscriber → Subscriber → Bool

namespace Subscriber

/-- The address of the object. -/
def obj : Subscriber → Nat
  | bit obj _ _ => obj
  | atl obj _ _ => obj
  | wifi obj _ _ _ _ => obj

/-- The integer all clients are compared by. -/
def ID : Subscriber → BitVec 32
  | bit _ id _ => id
  | atl _ id _ => id
  | wifi _ _ _ senderId _ => senderId.toId

def isBit : Subscriber → Bool
  | bit _ _ _ => true
  | _ => false

def isAtl : Subscriber → Bool
  | atl _ _ _ => true
  | _ => false

def isWifi : Subscriber → Bool
  | wifi _ _ _ _ _ => true
  | _ => false

/-- `self->equals(s)`. The IPv6 part is `BITSubscriber::equals`, which takes
    its argument for a BIT client without asking. -/
def equals (wild : Wild) (self s : Subscriber) : Bool :=
  match self with
  | bit _ _ ipv6Addr =>
      -- The IPv4 address decides unless it is `INADDR_NONE`.
      self.ID == s.ID && (INADDR_NONE != self.ID ||
        match s with
        | bit _ _ ipv6Addr' => strncmp 16 ipv6Addr.toList ipv6Addr'.toList == 0
        | _ => wild self s)
  | _ => self.ID == s.ID

def waitForCloseComplete : Subscriber → Bool
  | wifi _ _ _ _ _ => true
  | _ => false

def setInactive : Subscriber → Subscriber
  | wifi obj ssid password senderId _ => wifi obj ssid password senderId true
  | s => s

def isInactive : Subscriber → Bool
  | wifi _ _ _ _ mIsInactive => mIsInactive
  | _ => false

/-- `clone`, at the address `new` returned. A WIFI client's copy is active and
    its strings are cut to the buffers again. -/
def clone (new : Nat) : Subscriber → Subscriber
  | bit _ id ipv6Addr => bit new id ipv6Addr
  | atl _ id mode => atl new id mode
  | wifi _ ssid password senderId _ =>
      wifi new (ssid.map (List.take (SSID_BUF_SIZE - 1)))
        (password.map (List.take (SSID_BUF_SIZE - 1))) senderId false

/-- `setIPAddresses`; a WIFI client writes nothing. -/
def setIPAddresses (st : AGpsStatus) : Subscriber → AGpsStatus
  | bit _ id ipv6Addr => { st with ipv4Addr := id, ipv6Addr := ipv6Addr }
  | atl _ _ _ => { st with ipv4Addr := INADDR_NONE, ipv6Addr := zeroFirst ipv6Addr_pos st.ipv6Addr }
  | wifi _ _ _ _ _ => st

/-- One string of `setWifiInfo`. -/
def copyString (dst : Vector UInt8 SSID_BUF_SIZE) :
    Option (List UInt8) → Vector UInt8 SSID_BUF_SIZE
  | some src => strlcpy dst src
  | none => zeroFirst SSID_BUF_SIZE_pos dst

/-- `setWifiInfo`; only a WIFI client writes anything. -/
def setWifiInfo (st : AGpsStatus) : Subscriber → AGpsStatus
  | wifi _ ssid password _ _ =>
      { st with ssid := copyString st.ssid ssid, password := copyString st.password password }
  | _ => st

end Subscriber

/-- The group a notification is broadcast to; `directed` is the `-1` that goes
    with a receiver. -/
inductive GroupID
  | directed
  | broadcastAll
  | broadcastActive
  | broadcastInactive
  deriving DecidableEq, Repr

structure Notification where
  rcver : Option Subscriber
  groupID : GroupID
  rsrcStatus : AgpsRsrcStatus
  postNotifyDelete : Bool
  deriving DecidableEq

namespace Notification

def broadcast (group : GroupID) (status : AgpsRsrcStatus) (deleteAfterwards : Bool) :
    Notification := ⟨none, group, status, deleteAfterwards⟩

def directed (subscriber : Subscriber) (status : AgpsRsrcStatus) (deleteAfterwards : Bool) :
    Notification := ⟨some subscriber, .directed, status, deleteAfterwards⟩

/-- The constructor for searches, which carries no status. -/
def ofGroup (group : GroupID) : Notification := ⟨none, group, .statusMax, false⟩

def ofSubscriber (subscriber : Subscriber) : Notification :=
  ⟨some subscriber, .directed, .statusMax, false⟩

end Notification

/-- The fields of a state machine its clients read when they are notified. -/
structure Nif where
  mType : AGpsType
  mAPN : Option (List UInt8)
  mBearer : Int
  deriving DecidableEq

/-- What a client is told, and over which channel. -/
inductive ClientMsg
  | dataConn (senderId : SenderId) (status : IfStatus)
  | atlOpenStatus (handle : BitVec 32) (isSucc : Bool) (apn : Option (List UInt8)) (bearer : Int)
      (agpsType : AGpsType)
  | atlCloseStatus (handle : BitVec 32) (isSucc : Bool)
  deriving DecidableEq

namespace Subscriber

def forMe (wild : Wild) (self : Subscriber) (notification : Notification) : Bool :=
  match notification.rcver with
  -- The listed client is the one whose comparison is called.
  | some rcver => self.equals wild rcver
  | none =>
      notification.groupID == .broadcastAll ||
        (notification.groupID == .broadcastActive && !self.isInactive) ||
        (notification.groupID == .broadcastInactive && self.isInactive)

/-- The type an ATL connection is told. -/
def atlType (nif : Nif) (mBackwardCompatibleMode : Bool) : AGpsType :=
  if mBackwardCompatibleMode then AGPS_TYPE_INVALID else nif.mType

/-- What a client sends on a status, or `none` for a status it does not
    handle. A WIFI client is not told that it has been unsubscribed. -/
def statusMsgs (nif : Nif) (self : Subscriber) (status : AgpsRsrcStatus) :
    Option (List ClientMsg) :=
  match self, status with
  | bit _ _ _, .unsubscribe => some [.dataConn .gpsoneDaemon .releaseSuccess]
  | bit _ _ _, .released => some [.dataConn .gpsoneDaemon .releaseSuccess]
  | bit _ _ _, .denied => some [.dataConn .gpsoneDaemon .failure]
  | bit _ _ _, .granted => some [.dataConn .gpsoneDaemon .requestSuccess]
  | atl _ id _, .unsubscribe => some [.atlCloseStatus id true]
  | atl _ id _, .released => some [.atlCloseStatus id true]
  | atl _ id mode, .denied =>
      some [.atlOpenStatus id false nif.mAPN nif.mBearer (atlType nif mode)]
  | atl _ id mode, .granted =>
      some [.atlOpenStatus id true nif.mAPN nif.mBearer (atlType nif mode)]
  | wifi _ _ _ _ _, .unsubscribe => some []
  | wifi _ _ _ senderId _, .released => some [.dataConn senderId .releaseSuccess]
  | wifi _ _ _ senderId _, .denied => some [.dataConn senderId .failure]
  | wifi _ _ _ senderId _, .granted => some [.dataConn senderId .requestSuccess]
  | _, .subscribe => none
  | _, .statusMax => none

def notifyRsrcStatus (nif : Nif) (wild : Wild) (self : Subscriber) (notification : Notification) :
    Bool × List ClientMsg :=
  if self.forMe wild notification then
    match self.statusMsgs nif notification.rsrcStatus with
    | some msgs => (true, msgs)
    | none => (false, [])
  else (false, [])

theorem strncmp_self (n : Nat) (s : List UInt8) : strncmp n s s = 0 := by
  induction n generalizing s with
  | zero =>
      unfold strncmp
      rfl
  | succ n ih =>
      cases s with
      | nil =>
          unfold strncmp
          rfl
      | cons a as =>
          unfold strncmp
          rw [if_neg (not_not_intro rfl), ih as, ite_self]

/-- Only clients with one `ID` are equal. -/
theorem equals_ID {wild : Wild} {x s : Subscriber} (h : x.equals wild s = true) : x.ID = s.ID := by
  cases x with
  | bit obj id ip =>
      simp only [equals, Bool.and_eq_true, beq_iff_eq] at h
      exact h.1
  | atl obj id mode =>
      simp only [equals, beq_iff_eq] at h
      exact h
  | wifi obj ssid password senderId inactive =>
      simp only [equals, beq_iff_eq] at h
      exact h

/-- Every client equals itself, since it is of its own kind. -/
theorem equals_refl (wild : Wild) (x : Subscriber) : x.equals wild x = true := by
  cases x with
  | bit obj id ip =>
      simp only [equals, BEq.rfl, strncmp_self, Bool.or_true, Bool.and_true]
  | atl obj id mode => simp only [equals, BEq.rfl]
  | wifi obj ssid password senderId inactive => simp only [equals, BEq.rfl]

/-- A client that is not a BIT client compares the `ID` and nothing else. -/
theorem equals_of_ne_bit {wild : Wild} {x s : Subscriber} (hx : x.isBit = false) :
    x.equals wild s = (x.ID == s.ID) := by
  cases x with
  | bit obj id ip => exact absurd hx (by simp only [isBit, Bool.true_eq_false, not_false_eq_true])
  | atl obj id mode => rfl
  | wifi obj ssid password senderId inactive => rfl

/-- A client with an `ID` that is an address compares the `ID` only, too. -/
theorem equals_of_ne_inaddrNone {wild : Wild} {x s : Subscriber} (hx : x.ID ≠ INADDR_NONE) :
    x.equals wild s = (x.ID == s.ID) := by
  cases x with
  | bit obj id ip =>
      have hne : (INADDR_NONE != (bit obj id ip).ID) = true := bne_iff_ne.mpr hx.symm
      simp only [equals, hne, Bool.true_or, Bool.and_true]
  | atl obj id mode => rfl
  | wifi obj ssid password senderId inactive => rfl

/-- A BIT client compared with a client of another kind. -/
theorem equals_of_bit {wild : Wild} {x s : Subscriber} (hx : x.isBit = true)
    (hs : s.isBit = false) :
    x.equals wild s = (x.ID == s.ID && (INADDR_NONE != x.ID || wild x s)) := by
  cases x with
  | atl obj id mode => exact Bool.noConfusion hx
  | wifi obj ssid password senderId inactive => exact Bool.noConfusion hx
  | bit obj id ip =>
      cases s with
      | bit obj' id' ip' => exact Bool.noConfusion hs
      | atl obj' id' mode' => rfl
      | wifi obj' ssid password senderId inactive => rfl

/-- A comparison either is well defined or is the wild one. -/
theorem equals_wild_cases (x s : Subscriber) :
    (∀ w w' : Wild, x.equals w s = x.equals w' s) ∨ ∀ w : Wild, x.equals w s = w x s := by
  by_cases hx : x.isBit = true
  · by_cases hs : s.isBit = true
    · -- Two BIT clients have an IPv6 address each.
      refine Or.inl (fun w w' => ?_)
      cases x with
      | atl obj id mode => rfl
      | wifi obj ssid password senderId inactive => rfl
      | bit obj id ip =>
          cases s with
          | bit obj' id' ip' => rfl
          | atl obj' id' mode' => exact Bool.noConfusion hs
          | wifi obj' ssid password senderId inactive => exact Bool.noConfusion hs
    · have heq : ∀ w : Wild, x.equals w s = (x.ID == s.ID && (INADDR_NONE != x.ID || w x s)) :=
        fun _ => equals_of_bit hx (Bool.eq_false_iff.mpr hs)
      by_cases hid : x.ID = s.ID
      · by_cases hnone : x.ID = INADDR_NONE
        · -- Only here does the outcome hang on what is read.
          refine Or.inr (fun w => ?_)
          rw [heq, ← hid, hnone, BEq.rfl, bne_self_eq_false, Bool.false_or, Bool.true_and]
        · refine Or.inl (fun w w' => ?_)
          rw [heq, heq, bne_iff_ne.mpr (Ne.symm hnone), Bool.true_or, Bool.true_or]
      · refine Or.inl (fun w w' => ?_)
        rw [heq, heq, beq_eq_false_iff_ne.mpr hid, Bool.false_and, Bool.false_and]
  · refine Or.inl (fun w w' => ?_)
    have hne := Bool.eq_false_iff.mpr hx
    rw [equals_of_ne_bit hne, equals_of_ne_bit hne]

theorem toId_ne_inaddrNone (senderId : SenderId) : senderId.toId ≠ INADDR_NONE := by
  cases senderId with
  | quipc => decide
  | msapm => decide
  | gpsoneDaemon => decide
  | modem => decide
  | unknown => decide

/-- A WIFI client has no `ID` that a BIT client would look further on. -/
theorem ID_ne_inaddrNone_of_wifi {x : Subscriber} (hx : x.isWifi = true) :
    x.ID ≠ INADDR_NONE := by
  cases x with
  | bit obj id ip => exact absurd hx (by simp only [isWifi, Bool.false_eq_true, not_false_eq_true])
  | atl obj id mode =>
      exact absurd hx (by simp only [isWifi, Bool.false_eq_true, not_false_eq_true])
  | wifi obj ssid password senderId inactive => exact toId_ne_inaddrNone senderId

/-- Comparing with a WIFI client compares the `ID` only, on either side. -/
theorem equals_of_wifi {wild : Wild} {x s : Subscriber}
    (h : x.isWifi = true ∨ s.isWifi = true) : x.equals wild s = (x.ID == s.ID) := by
  by_cases hx : x.ID = INADDR_NONE
  · rcases h with h | h
    · exact absurd hx (ID_ne_inaddrNone_of_wifi h)
    · -- The other side is not `INADDR_NONE`, so the two differ already.
      have hne : (x.ID == s.ID) = false :=
        beq_eq_false_iff_ne.mpr (fun he => ID_ne_inaddrNone_of_wifi h (he ▸ hx))
      rw [hne, Bool.eq_false_iff]
      exact fun hc => (beq_eq_false_iff_ne.mp hne) (equals_ID hc)
  · exact equals_of_ne_inaddrNone hx

@[simp] theorem clone_obj (new : Nat) (s : Subscriber) : (s.clone new).obj = new := by
  cases s with
  | bit obj id ip => rfl
  | atl obj id mode => rfl
  | wifi obj ssid password senderId inactive => rfl

@[simp] theorem clone_ID (new : Nat) (s : Subscriber) : (s.clone new).ID = s.ID := by
  cases s with
  | bit obj id ip => rfl
  | atl obj id mode => rfl
  | wifi obj ssid password senderId inactive => rfl

@[simp] theorem clone_isInactive (new : Nat) (s : Subscriber) :
    (s.clone new).isInactive = false := by
  cases s with
  | bit obj id ip => rfl
  | atl obj id mode => rfl
  | wifi obj ssid password senderId inactive => rfl

@[simp] theorem clone_isWifi (new : Nat) (s : Subscriber) : (s.clone new).isWifi = s.isWifi := by
  cases s with
  | bit obj id ip => rfl
  | atl obj id mode => rfl
  | wifi obj ssid password senderId inactive => rfl

@[simp] theorem setInactive_obj (s : Subscriber) : s.setInactive.obj = s.obj := by
  cases s with
  | bit obj id ip => rfl
  | atl obj id mode => rfl
  | wifi obj ssid password senderId inactive => rfl

@[simp] theorem setInactive_ID (s : Subscriber) : s.setInactive.ID = s.ID := by
  cases s with
  | bit obj id ip => rfl
  | atl obj id mode => rfl
  | wifi obj ssid password senderId inactive => rfl

@[simp] theorem setInactive_isWifi (s : Subscriber) : s.setInactive.isWifi = s.isWifi := by
  cases s with
  | bit obj id ip => rfl
  | atl obj id mode => rfl
  | wifi obj ssid password senderId inactive => rfl

theorem waitForCloseComplete_eq (s : Subscriber) : s.waitForCloseComplete = s.isWifi := by
  cases s with
  | bit obj id ip => rfl
  | atl obj id mode => rfl
  | wifi obj ssid password senderId inactive => rfl

theorem setInactive_isInactive {s : Subscriber} (h : s.isWifi = true) :
    s.setInactive.isInactive = true := by
  cases s with
  | bit obj id ip => exact absurd h (by simp only [isWifi, Bool.false_eq_true, not_false_eq_true])
  | atl obj id mode =>
      exact absurd h (by simp only [isWifi, Bool.false_eq_true, not_false_eq_true])
  | wifi obj ssid password senderId inactive => rfl

/-- Only a WIFI client is ever inactive. -/
theorem isWifi_of_isInactive {s : Subscriber} (h : s.isInactive = true) : s.isWifi = true := by
  cases s with
  | bit obj id ip =>
      exact absurd h (by simp only [isInactive, Bool.false_eq_true, not_false_eq_true])
  | atl obj id mode =>
      exact absurd h (by simp only [isInactive, Bool.false_eq_true, not_false_eq_true])
  | wifi obj ssid password senderId inactive => rfl

/-- The statuses every client handles. -/
def handled : AgpsRsrcStatus → Bool
  | .unsubscribe => true
  | .granted => true
  | .released => true
  | .denied => true
  | _ => false

/-- What a client sends on a status it handles. -/
def msgs (nif : Nif) (status : AgpsRsrcStatus) (self : Subscriber) : List ClientMsg :=
  (self.statusMsgs nif status).getD []

/-- A client that is meant reacts to every status it handles. -/
theorem notifyRsrcStatus_of_forMe {nif : Nif} {wild : Wild} {x : Subscriber} {n : Notification}
    (hstatus : handled n.rsrcStatus = true) (h : x.forMe wild n = true) :
    x.notifyRsrcStatus nif wild n = (true, x.msgs nif n.rsrcStatus) := by
  unfold notifyRsrcStatus msgs
  rw [if_pos h]
  cases hn : n.rsrcStatus with
  | subscribe => exact absurd hstatus (by rw [hn]; exact Bool.false_ne_true)
  | statusMax => exact absurd hstatus (by rw [hn]; exact Bool.false_ne_true)
  | unsubscribe => cases x <;> rfl
  | granted => cases x <;> rfl
  | released => cases x <;> rfl
  | denied => cases x <;> rfl

/-- A client that is not meant stays silent. -/
theorem notifyRsrcStatus_of_not_forMe {nif : Nif} {wild : Wild} {x : Subscriber}
    {n : Notification} (h : x.forMe wild n = false) :
    x.notifyRsrcStatus nif wild n = (false, []) := by
  unfold notifyRsrcStatus
  rw [h]
  rfl

/-- A notification directed at a client is for itself. -/
theorem forMe_directed_self (wild : Wild) (x : Subscriber) (status : AgpsRsrcStatus) (del : Bool) :
    x.forMe wild (.directed x status del) = true := equals_refl wild x

end Subscriber

end Agps

end Taoshan
