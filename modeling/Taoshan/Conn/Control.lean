import Mathlib.Data.List.TakeWhile
import Taoshan.Conn.Server
import Taoshan.Eng.System

/-!
# What a Control Message Is Read As

From the buffer of `loc_api_server_proc` to the message that a handler puts into
the queue of the engine. The handlers read the buffer as a `ctrl_msgbuf`. They
are given the `length` that was received, and do not look at it.

So a message that is shorter than what is read of it is completed by whatever
`malloc` has left in the buffer. How much is read depends on the message. The
`ctrl_type` always is. A request or a release is read further: its type and its
sender, and then both addresses for the daemon's own client, or the two strings,
the second of them up to its end. A byte that was received may also settle that
the type or the sender is none the handler knows, and then the rest does not
matter. This is the whole of it (`Covers`): a message has the same effect over
whatever was in the buffer if and only if it covers what is read of it
(`onlyReceived_iff`).

The layout is that of a machine whose `unsigned long` is as wide as its
`size_t`, and whose enumerations have four bytes.

## Main definitions

* `ctrlIfRequest`: The fields of `ctrl_msg_if_request` in the buffer.
* `posts`: What a handler puts into the queue.
* `OnlyReceived`: The effect of a message is the same over every buffer.
* `RulesOut`, `Covers`: What was received settles what is read.

## Theorems

* `received`: The buffer after a message.
* `enumAt_le_two_iff`: When an enumeration has a known value.
* `posts_unknown`, `posts_daemon`, `posts_wifi`: What is posted.
* `onlyReceived_iff`: When the effect is the same.
-/

namespace Taoshan

namespace Conn

open Agps Bytes Eng

/-- `n` rounded up to a multiple of `a`. -/
def alignUp (a n : Nat) : Nat := (n + a - 1) / a * a

/-- The offsets in a `ctrl_msgbuf`: `cmsg` behind `ctrl_type`, and the fields of
    `cmsg_if_request`. -/
def typeOff (k : Nat) : Nat := alignUp k (k + 9)
def senderIdOff (k : Nat) : Nat := typeOff k + 4
def ipv4AddrOff (k : Nat) : Nat := senderIdOff k + 4
def ipv6AddrOff (k : Nat) : Nat := ipv4AddrOff k + k
def ssidOff (k : Nat) : Nat := ipv6AddrOff k + 16
def passwordOff (k : Nat) : Nat := ssidOff k + SSID_BUF_SIZE

/-- `sizeof(struct ctrl_msgbuf)`. -/
def ctrlMsgSize (k : Nat) : Nat := alignUp k (passwordOff k + SSID_BUF_SIZE)

/-- `sizeof(struct ctrl_msgbuf) + 256`. -/
def bufferSize (k : Nat) : Nat := alignUp k (passwordOff k + SSID_BUF_SIZE) + 256

/-- An enumeration in memory. -/
def enumAt (mem : Mem) (off : Nat) : Nat := decode (peek mem off 4)

/-- What `strlcpy` copies of a string in memory. -/
def stringAt (mem : Mem) (off : Nat) : List UInt8 :=
  (peek mem off (SSID_BUF_SIZE - 1)).takeWhile (· ≠ 0)

/-- `pmsg->cmsg.cmsg_if_request`. The address is passed on as an `int`. -/
def ctrlIfRequest (k : Nat) (mem : Mem) : CtrlIfRequest where
  type := enumAt mem (typeOff k)
  senderId := enumAt mem (senderIdOff k)
  ipv4Addr := BitVec.ofNat 32 (decode (peek mem (ipv4AddrOff k) k))
  ipv6Addr := Vector.ofFn fun i => mem (ipv6AddrOff k + i)
  ssid := stringAt mem (ssidOff k)
  password := stringAt mem (passwordOff k)

/-- What the handler of a message puts into the queue, each message with its
    `ifType`. The length received is not used. -/
def posts (k : Nat) (locApiHandle : Bool) (handler : Handler) (mem : Mem) :
    List (Option IfType × EngMsg) :=
  let req := ctrlIfRequest k mem
  match handler with
  | .ifRequest => (ifRequestHandler locApiHandle req).2.map fun msg => (req.ifType, msg)
  | .ifRelease => (ifReleaseHandler req).2.map fun msg => (req.ifType, msg)
  | .unblock => []
  | .unsupported => []

/-- What the messages handed on have come to: their handlers, and what these put
    into the queue. -/
def effects (k : Nat) (locApiHandle : Bool) (s : Server) :
    List (Handler × List (Option IfType × EngMsg)) :=
  s.handled.map fun p => (p.1, posts k locApiHandle p.1 p.2.mem)

/-- A message has the same effect whatever was in the buffer before. -/
def OnlyReceived (k : Nat) (sz : SizeT k) (locApiHandle : Bool) (msg : List UInt8) : Prop :=
  ∀ (rest : List UInt8) (buf buf' : Mem),
    (serverProc k sz ⟨frame k msg ++ rest, []⟩ (some buf)).map (effects k locApiHandle) =
      (serverProc k sz ⟨frame k msg ++ rest, []⟩ (some buf')).map (effects k locApiHandle)

/-- A byte of an enumeration whose value is at most two. -/
def KnownByte (i : Nat) (b : UInt8) : Prop := if i = 0 then b ≤ 2 else b = 0

/-- A byte received rules out that the enumeration at `off` has a known value. -/
def RulesOut (bs : List UInt8) (off : Nat) : Prop :=
  ∃ (i : Nat) (b : UInt8), i < 4 ∧ bs[off + i]? = some b ∧ ¬ KnownByte i b

/-- The string at `off` has been received up to its end. -/
def CoversString (bs : List UInt8) (off : Nat) : Prop :=
  off + (SSID_BUF_SIZE - 1) ≤ bs.length ∨
    ∃ i : Nat, i < SSID_BUF_SIZE - 1 ∧ bs[off + i]? = some 0

/-- The handler of this `ctrl_type` reads further. -/
def Reads (locApiHandle : Bool) (handler : Handler) : Prop :=
  (handler = .ifRequest ∧ locApiHandle = true) ∨ handler = .ifRelease

/-- What was received covers what is read of it. -/
def Covers (k : Nat) (locApiHandle : Bool) (bs : List UInt8) : Prop :=
  ∃ ctrlType : UInt8, bs[k + 8]? = some ctrlType ∧
    (Reads locApiHandle (handlerOf ctrlType) →
      RulesOut bs (typeOff k) ∨ RulesOut bs (senderIdOff k) ∨
        (senderIdOff k + 4 ≤ bs.length ∧
          if bs[senderIdOff k]? = some 2 then ipv6AddrOff k + 16 ≤ bs.length
          else CoversString bs (passwordOff k)))

section Layout

variable {k : Nat}

theorem le_alignUp (hk : 0 < k) (n : Nat) : n ≤ alignUp k n := by
  unfold alignUp
  have hdiv := Nat.div_add_mod (n + k - 1) k
  have hmod := Nat.mod_lt (n + k - 1) hk
  rw [Nat.mul_comm] at hdiv
  omega

theorem lt_typeOff (hk : 0 < k) : k + 8 < typeOff k := le_alignUp hk (k + 9)

theorem typeOff_le_size (hk : 0 < k) : typeOff k + 4 ≤ ctrlMsgSize k := by
  have hsize := le_alignUp hk (passwordOff k + SSID_BUF_SIZE)
  unfold ctrlMsgSize
  unfold passwordOff ssidOff ipv6AddrOff ipv4AddrOff senderIdOff at hsize ⊢
  omega

end Layout

section Buffer

variable {k : Nat} {sz : SizeT k} {msg : List UInt8}

/-- The buffer after a message: the message, and behind it what was there. -/
theorem msgrcv_frame_mem (hint : k < 2 ^ 31) (hfits : Fits k sz msg) (rest : List UInt8)
    (buf : Mem) :
    (msgrcv k plainRead (frame k msg ++ rest) buf sz).mem = poke buf 0 (frame k msg) := by
  have hfield : (encode k msg.length).length = k := encode_length _ _
  have hwidth : msg.length < 256 ^ k := by
    rw [← two_pow_width]
    exact hfits.lt_width
  have hpeek : peek (poke buf 0 (encode k msg.length)) 0 k = encode k msg.length := by
    have hself := peek_poke_self buf 0 (encode k msg.length)
    rwa [hfield] at hself
  have hsize := hfits.size hpeek
  have hhead : plainRead (frame k msg ++ rest) k =
      (some (encode k msg.length), msg.drop k ++ rest) := by
    unfold plainRead frame
    rw [List.append_assoc, List.take_left' hfield, List.drop_left' hfield]
  have hbody : plainRead (msg.drop k ++ rest) (msg.length - k) = (some (msg.drop k), rest) := by
    have hlen : (msg.drop k).length = msg.length - k := List.length_drop
    unfold plainRead
    rw [List.take_left' hlen, List.drop_left' hlen]
  have hroom : ¬ sz < msgszOf k (poke buf 0 (encode k msg.length)) := by
    rw [BitVec.lt_def, msgszOf_toNat, hpeek, decode_encode hwidth]
    exact Nat.not_lt.mpr hfits.2
  have hvalue := intToSize_value hint hfield
  unfold msgrcv
  simp only [hhead, afterHeader, hvalue, store, ne_eq, not_true_eq_false, if_false, if_neg hroom]
  have hwrite : poke (poke buf 0 (encode k msg.length)) k (msg.drop k) =
      poke buf 0 (frame k msg) := by
    have happend := poke_append buf 0 (encode k msg.length) (msg.drop k)
    rwa [hfield, Nat.zero_add] at happend
  rw [hsize, hfits.count, hbody]
  unfold afterBody
  simp only [store, hwrite]
  split
  · rfl
  · rfl

/-- What a call comes to on a message that fits. -/
theorem received (hk : 0 < k) (hint : k < 2 ^ 31) (hsz : sz.toNat < 2 ^ 31)
    (hfits : Fits k sz msg) (locApiHandle : Bool) (rest : List UInt8) (buf : Mem) :
    (serverProc k sz ⟨frame k msg ++ rest, []⟩ (some buf)).map (effects k locApiHandle) =
      some [(handlerOf (ctrlTypeOf k (poke buf 0 (frame k msg))),
        posts k locApiHandle (handlerOf (ctrlTypeOf k (poke buf 0 (frame k msg))))
          (poke buf 0 (frame k msg)))] := by
  rcases msgrcv_frame hint hfits rest buf with ⟨_, hreturns⟩
  have hle := hfits.1
  have hcap := hfits.2
  have hpos : ¬ (msgrcv k plainRead (frame k msg ++ rest) buf sz).ret.toInt ≤ 0 := by
    have hret := hreturns.ret_toInt (by omega)
    simp only at hret
    rw [hret]
    omega
  simp only [serverProc, if_neg hpos, Option.map_some, effects, List.nil_append, List.map_cons,
    List.map_nil, msgrcv_frame_mem hint hfits]

/-- So only the bytes in the buffer matter. -/
theorem onlyReceived_iff_poke (hk : 0 < k) (hint : k < 2 ^ 31) (hsz : sz.toNat < 2 ^ 31)
    (hfits : Fits k sz msg) {locApiHandle : Bool} :
    OnlyReceived k sz locApiHandle msg ↔ ∀ buf buf' : Mem,
      handlerOf (ctrlTypeOf k (poke buf 0 (frame k msg))) =
          handlerOf (ctrlTypeOf k (poke buf' 0 (frame k msg))) ∧
        posts k locApiHandle (handlerOf (ctrlTypeOf k (poke buf 0 (frame k msg))))
            (poke buf 0 (frame k msg)) =
          posts k locApiHandle (handlerOf (ctrlTypeOf k (poke buf' 0 (frame k msg))))
            (poke buf' 0 (frame k msg)) := by
  unfold OnlyReceived
  simp only [received hk hint hsz hfits, Option.some.injEq, List.cons.injEq, Prod.mk.injEq,
    and_true, forall_const]

end Buffer

section Fields

variable {k off : Nat} {mem : Mem} {bs : List UInt8}

theorem decode_four (a b c d : UInt8) :
    decode [a, b, c, d] = a.toNat + 256 * (b.toNat + 256 * (c.toNat + 256 * d.toNat)) := by
  simp only [decode, List.map_cons, List.map_nil, Nat.ofDigits_cons, Nat.ofDigits_nil,
    Nat.mul_zero, Nat.add_zero]

/-- An enumeration has a known value if each of its bytes is one of such a value. -/
theorem enumAt_le_two_iff (mem : Mem) (off : Nat) :
    enumAt mem off ≤ 2 ↔ ∀ i : Nat, i < 4 → KnownByte i (mem (off + i)) := by
  have hpeek : peek mem off 4 = [mem (off + 0), mem (off + 1), mem (off + 2), mem (off + 3)] := rfl
  have hzero : ∀ b : UInt8, b = 0 ↔ b.toNat = 0 := fun b => by
    rw [← UInt8.toNat_inj, UInt8.toNat_zero]
  have hle : ∀ b : UInt8, b ≤ 2 ↔ b.toNat ≤ 2 := fun b => by
    rw [UInt8.le_iff_toNat_le]
    rfl
  have hall : (∀ i : Nat, i < 4 → KnownByte i (mem (off + i))) ↔
      mem (off + 0) ≤ 2 ∧ mem (off + 1) = 0 ∧ mem (off + 2) = 0 ∧ mem (off + 3) = 0 := by
    constructor
    · intro h
      exact ⟨h 0 (by omega), h 1 (by omega), h 2 (by omega), h 3 (by omega)⟩
    · rintro ⟨h0, h1, h2, h3⟩ i hi
      match i, hi with
      | 0, _ => exact h0
      | 1, _ => exact h1
      | 2, _ => exact h2
      | 3, _ => exact h3
  unfold enumAt
  rw [hpeek, decode_four, hall, hle, hzero, hzero, hzero]
  omega

/-- What rules out a known value rules it out over every buffer. -/
theorem not_enumAt_of_rulesOut (h : RulesOut bs off) (buf : Mem) :
    ¬ enumAt (poke buf 0 bs) off ≤ 2 := by
  rcases h with ⟨i, b, hi, hget, hbyte⟩
  rw [enumAt_le_two_iff]
  intro hall
  have hknown := hall i hi
  rw [poke_zero, hget, Option.getD_some] at hknown
  exact hbyte hknown

/-- What does not is completed by zeros to a known value. -/
theorem enumAt_of_not_rulesOut (h : ¬ RulesOut bs off) :
    enumAt (poke (fun _ => 0) 0 bs) off ≤ 2 := by
  rw [enumAt_le_two_iff]
  intro i hi
  rw [poke_zero]
  cases hget : bs[off + i]? with
  | none =>
      rw [Option.getD_none]
      unfold KnownByte
      split
      · decide
      · rfl
  | some b =>
      by_contra hbyte
      exact h ⟨i, b, hi, hget, hbyte⟩

/-- An enumeration that has been received is the same over every buffer. -/
theorem enumAt_inside (buf buf' : Mem) (h : off + 4 ≤ bs.length) :
    enumAt (poke buf 0 bs) off = enumAt (poke buf' 0 bs) off := by
  unfold enumAt
  rw [peek_poke_inside buf buf' h]

/-- One that has not been received in full may be completed to no known value. -/
theorem not_enumAt_of_short (h : bs.length < off + 4) :
    ¬ enumAt (poke (fun _ => 0xFF) 0 bs) off ≤ 2 := by
  rw [enumAt_le_two_iff]
  intro hall
  have hlast := hall 3 (by omega)
  rw [poke_zero, List.getElem?_eq_none (by omega)] at hlast
  exact absurd hlast (by unfold KnownByte; decide)

/-- A string that has been received up to its end is the same over every buffer. -/
theorem stringAt_inside (buf buf' : Mem) (h : CoversString bs off) :
    stringAt (poke buf 0 bs) off = stringAt (poke buf' 0 bs) off := by
  unfold stringAt
  rcases h with h | ⟨i, hi, hget⟩
  · rw [peek_poke_inside buf buf' h]
  · -- The two agree up to the null byte, and nothing behind it is copied.
    rcases List.getElem?_eq_some_iff.mp hget with ⟨hlt, _⟩
    have hsplit : ∀ m : Mem, peek m off (SSID_BUF_SIZE - 1) =
        peek m off (i + 1) ++ peek m (off + (i + 1)) (SSID_BUF_SIZE - 1 - (i + 1)) := by
      intro m
      rw [← peek_add]
      congr 1
      omega
    have hstop : ∀ (m : Mem) (ys : List UInt8),
        (peek (poke m 0 bs) off (i + 1) ++ ys).takeWhile (· ≠ 0) =
          (peek (poke m 0 bs) off (i + 1)).takeWhile (· ≠ 0) := by
      intro m ys
      have hnot : (peek (poke m 0 bs) off (i + 1)).takeWhile (· ≠ 0) ≠
          peek (poke m 0 bs) off (i + 1) := by
        rw [ne_eq, List.takeWhile_eq_self_iff]
        intro hall
        have hmem : poke m 0 bs (off + i) ∈ peek (poke m 0 bs) off (i + 1) :=
          List.mem_map_of_mem (List.mem_range.mpr (Nat.lt_succ_self i))
        have hzero := hall _ hmem
        rw [poke_zero, hget, Option.getD_some] at hzero
        exact absurd hzero (by decide)
      rw [List.takeWhile_append, if_neg]
      intro hlen
      exact hnot ((List.takeWhile_prefix _).eq_of_length hlen)
    rw [hsplit, hsplit, hstop, hstop, peek_poke_inside buf buf' (by omega)]

/-- Over ones, a string that has not ended is copied in full; over zeros, it is not. -/
theorem stringAt_short (h : ¬ CoversString bs off) :
    stringAt (poke (fun _ => 0) 0 bs) off ≠ stringAt (poke (fun _ => 1) 0 bs) off := by
  unfold CoversString at h
  rw [not_or, Nat.not_le] at h
  rcases h with ⟨hshort, hopen⟩
  have hones : stringAt (poke (fun _ => 1) 0 bs) off =
      peek (poke (fun _ => 1) 0 bs) off (SSID_BUF_SIZE - 1) := by
    unfold stringAt
    rw [List.takeWhile_eq_self_iff]
    intro x hx
    rcases List.mem_map.mp hx with ⟨i, hi, rfl⟩
    rw [poke_zero]
    cases hget : bs[off + i]? with
    | none => rfl
    | some b =>
        rw [Option.getD_some, decide_eq_true_eq]
        rintro rfl
        exact hopen ⟨i, List.mem_range.mp hi, hget⟩
  intro heq
  have hfull : stringAt (poke (fun _ => 0) 0 bs) off =
      peek (poke (fun _ => 0) 0 bs) off (SSID_BUF_SIZE - 1) := by
    refine (List.takeWhile_prefix _).eq_of_length ?_
    have hlen := congrArg List.length (heq.trans hones)
    rw [peek_length] at hlen
    rw [peek_length]
    exact hlen
  unfold stringAt at hfull
  rw [List.takeWhile_eq_self_iff] at hfull
  -- The first byte of the string that was not received.
  have hmem : poke (fun _ => 0) 0 bs (off + (bs.length - off)) ∈
      peek (poke (fun _ => 0) 0 bs) off (SSID_BUF_SIZE - 1) :=
    List.mem_map_of_mem (List.mem_range.mpr (by unfold SSID_BUF_SIZE at hshort ⊢; omega))
  have hnonzero := hfull _ hmem
  rw [poke_zero, List.getElem?_eq_none (by omega)] at hnonzero
  exact absurd hnonzero (by decide)

end Fields

/-- What a handler queues for the daemon's own client, and for the other two. -/
def Handler.bitMsg : Handler → IfType → BitVec 32 → Option (Vector UInt8 16) → Msg
  | .ifRelease => .releaseBit
  | _ => .requestBit

def Handler.wifiMsg : Handler → SenderId → Option (List UInt8) → Option (List UInt8) → Msg
  | .ifRelease => .releaseWifi
  | _ => .requestWifi

section Handlers

variable {req req' : CtrlIfRequest}

/-- The type is one of the three that are known. -/
theorem ifType_isSome_iff {n : Nat} (hn : req.type = n) : req.ifType.isSome = true ↔ n ≤ 2 := by
  unfold CtrlIfRequest.ifType IF_REQUEST_TYPE_SUPL IF_REQUEST_TYPE_WIFI IF_REQUEST_TYPE_ANY
  rw [hn]
  split
  · exact iff_of_true rfl (by omega)
  · split
    · exact iff_of_true rfl (by omega)
    · split
      · exact iff_of_true rfl (by omega)
      · exact iff_of_false Bool.false_ne_true (by omega)

variable (wifi : SenderId → Option (List UInt8) → Option (List UInt8) → Msg)
  (bit : IfType → BitVec 32 → Option (Vector UInt8 16) → Msg)

/-- A type or a sender that is not known is passed over. -/
theorem ifHandler_unknown {t n : Nat} (ht : req.type = t) (hn : req.senderId = n)
    (h : ¬ t ≤ 2 ∨ ¬ n ≤ 2) : (ifHandler wifi bit req).2 = [] := by
  unfold ifHandler IF_REQUEST_SENDER_ID_QUIPC IF_REQUEST_SENDER_ID_MSAPM
    IF_REQUEST_SENDER_ID_GPSONE_DAEMON
  cases htype : req.ifType with
  | none => rfl
  | some type =>
      have hknown : t ≤ 2 := (ifType_isSome_iff ht).mp (by rw [htype]; rfl)
      have hlarge : ¬ n ≤ 2 := h.resolve_left (not_not_intro hknown)
      dsimp only
      rw [if_neg (by omega), if_neg (by omega), if_neg (by omega)]

/-- The daemon's own client is known by its addresses. -/
theorem ifHandler_daemon {t : Nat} (ht : req.type = t) (hknown : t ≤ 2) (hn : req.senderId = 2) :
    ∃ type, (ifHandler wifi bit req).2 = [.nif (bit type req.ipv4Addr (some req.ipv6Addr))] := by
  rcases Option.isSome_iff_exists.mp ((ifType_isSome_iff ht).mpr hknown) with ⟨type, htype⟩
  refine ⟨type, ?_⟩
  unfold ifHandler IF_REQUEST_SENDER_ID_QUIPC IF_REQUEST_SENDER_ID_MSAPM
    IF_REQUEST_SENDER_ID_GPSONE_DAEMON
  simp only [htype, hn, Int.reduceEq, if_false, if_true]

/-- The other two are known by their strings. -/
theorem ifHandler_wifi {t n : Nat} (ht : req.type = t) (hknown : t ≤ 2) (hn : req.senderId = n)
    (hsender : n ≤ 2) (hother : n ≠ 2) :
    ∃ senderId, (ifHandler wifi bit req).2 =
      [.nif (wifi senderId (some (req.ssid.take (SSID_BUF_SIZE - 1)))
        (some (req.password.take (SSID_BUF_SIZE - 1))))] := by
  rcases Option.isSome_iff_exists.mp ((ifType_isSome_iff ht).mpr hknown) with ⟨type, htype⟩
  unfold ifHandler IF_REQUEST_SENDER_ID_QUIPC IF_REQUEST_SENDER_ID_MSAPM
    IF_REQUEST_SENDER_ID_GPSONE_DAEMON
  simp only [htype]
  by_cases hquipc : req.senderId = 0
  · rw [if_pos hquipc]
    exact ⟨_, rfl⟩
  · rw [if_neg hquipc, if_pos (by omega)]
    exact ⟨_, rfl⟩

/-- For the daemon's own client the strings do not matter. -/
theorem ifHandler_congr_daemon (htype : req.type = req'.type)
    (hsender : req.senderId = req'.senderId)
    (hdaemon : req.senderId = 2) (hipv4 : req.ipv4Addr = req'.ipv4Addr)
    (hipv6 : req.ipv6Addr = req'.ipv6Addr) : ifHandler wifi bit req = ifHandler wifi bit req' := by
  unfold ifHandler CtrlIfRequest.ifType IF_REQUEST_SENDER_ID_QUIPC IF_REQUEST_SENDER_ID_MSAPM
  rw [← hsender, ← htype, hipv4, hipv6, hdaemon]
  rfl

theorem Handler.bitMsg_inj {handler : Handler} {t t' : IfType} {a a' : BitVec 32}
    {x x' : Option (Vector UInt8 16)} (h : handler.bitMsg t a x = handler.bitMsg t' a' x') :
    x = x' := by
  cases handler with
  | ifRelease => exact (Msg.releaseBit.inj h).2.2
  | _ => exact (Msg.requestBit.inj h).2.2

theorem Handler.wifiMsg_inj {handler : Handler} {s s' : SenderId} {a a' x x' : Option (List UInt8)}
    (h : handler.wifiMsg s a x = handler.wifiMsg s' a' x') : x = x' := by
  cases handler with
  | ifRelease => exact (Msg.releaseWifi.inj h).2.2
  | _ => exact (Msg.requestWifi.inj h).2.2

variable {k : Nat} {locApiHandle : Bool} {handler : Handler} {mem mem' : Mem}

theorem posts_of_reads (h : Reads locApiHandle handler) (mem : Mem) :
    posts k locApiHandle handler mem =
      (ifHandler handler.wifiMsg handler.bitMsg (ctrlIfRequest k mem)).2.map
        fun msg => ((ctrlIfRequest k mem).ifType, msg) := by
  rcases h with ⟨rfl, rfl⟩ | rfl
  · rfl
  · rfl

theorem posts_of_not_reads (h : ¬ Reads locApiHandle handler) (mem : Mem) :
    posts k locApiHandle handler mem = [] := by
  cases handler with
  | ifRequest =>
      have hno : locApiHandle = false :=
        Bool.eq_false_iff.mpr (fun hset => h (Or.inl ⟨rfl, hset⟩))
      simp only [posts, ifRequestHandler, hno, if_true, List.map_nil]
  | ifRelease => exact absurd (Or.inr rfl) h
  | unblock => rfl
  | unsupported => rfl

theorem posts_unknown (h : ¬ enumAt mem (typeOff k) ≤ 2 ∨ ¬ enumAt mem (senderIdOff k) ≤ 2) :
    posts k locApiHandle handler mem = [] := by
  by_cases hreads : Reads locApiHandle handler
  · rw [posts_of_reads hreads, ifHandler_unknown _ _ rfl rfl h, List.map_nil]
  · exact posts_of_not_reads hreads mem

theorem stringAt_take (mem : Mem) (off : Nat) :
    (stringAt mem off).take (SSID_BUF_SIZE - 1) = stringAt mem off := by
  refine List.take_of_length_le ?_
  have hprefix : stringAt mem off <+: peek mem off (SSID_BUF_SIZE - 1) :=
    List.takeWhile_prefix _
  have hle := hprefix.length_le
  rwa [peek_length] at hle

/-- What is posted for the daemon's own client. -/
theorem posts_daemon (hreads : Reads locApiHandle handler) (ht : enumAt mem (typeOff k) ≤ 2)
    (hn : enumAt mem (senderIdOff k) = 2) :
    ∃ type, posts k locApiHandle handler mem =
      [((ctrlIfRequest k mem).ifType, .nif (handler.bitMsg type (ctrlIfRequest k mem).ipv4Addr
        (some (ctrlIfRequest k mem).ipv6Addr)))] := by
  have hsender : (ctrlIfRequest k mem).senderId = 2 := congrArg Nat.cast hn
  rcases ifHandler_daemon handler.wifiMsg handler.bitMsg rfl ht hsender with ⟨type, heq⟩
  rw [posts_of_reads hreads, heq]
  exact ⟨type, rfl⟩

/-- What is posted for the other two. -/
theorem posts_wifi (hreads : Reads locApiHandle handler) (ht : enumAt mem (typeOff k) ≤ 2)
    (hn : enumAt mem (senderIdOff k) ≤ 2) (hother : enumAt mem (senderIdOff k) ≠ 2) :
    ∃ senderId, posts k locApiHandle handler mem =
      [((ctrlIfRequest k mem).ifType, .nif (handler.wifiMsg senderId
        (some (stringAt mem (ssidOff k))) (some (stringAt mem (passwordOff k)))))] := by
  have hsender : (ctrlIfRequest k mem).senderId = enumAt mem (senderIdOff k) := rfl
  rcases ifHandler_wifi handler.wifiMsg handler.bitMsg rfl ht hsender hn hother with
    ⟨senderId, heq⟩
  simp only [ctrlIfRequest, stringAt_take] at heq
  rw [posts_of_reads hreads]
  simp only [ctrlIfRequest, heq]
  exact ⟨senderId, rfl⟩

theorem posts_known (hreads : Reads locApiHandle handler) (ht : enumAt mem (typeOff k) ≤ 2)
    (hn : enumAt mem (senderIdOff k) ≤ 2) : posts k locApiHandle handler mem ≠ [] := by
  by_cases hdaemon : enumAt mem (senderIdOff k) = 2
  · rcases posts_daemon hreads ht hdaemon with ⟨type, heq⟩
    rw [heq]
    exact List.cons_ne_nil _ _
  · rcases posts_wifi hreads ht hn hdaemon with ⟨senderId, heq⟩
    rw [heq]
    exact List.cons_ne_nil _ _

/-- From what is posted for the daemon's own client its address can be told. -/
theorem ipv6Addr_of_posts (hreads : Reads locApiHandle handler)
    (ht : enumAt mem (typeOff k) ≤ 2) (ht' : enumAt mem' (typeOff k) ≤ 2)
    (hn : enumAt mem (senderIdOff k) = 2) (hn' : enumAt mem' (senderIdOff k) = 2)
    (h : posts k locApiHandle handler mem = posts k locApiHandle handler mem') :
    (ctrlIfRequest k mem).ipv6Addr = (ctrlIfRequest k mem').ipv6Addr := by
  rcases posts_daemon hreads ht hn with ⟨type, heq⟩
  rcases posts_daemon hreads ht' hn' with ⟨type', heq'⟩
  rw [heq, heq', List.singleton_inj, Prod.mk.injEq, EngMsg.nif.injEq] at h
  exact Option.some.inj (Handler.bitMsg_inj h.2)

/-- And from what is posted for another, its password. -/
theorem password_of_posts (hreads : Reads locApiHandle handler)
    (ht : enumAt mem (typeOff k) ≤ 2) (ht' : enumAt mem' (typeOff k) ≤ 2)
    (hn : enumAt mem (senderIdOff k) ≤ 2) (hn' : enumAt mem' (senderIdOff k) ≤ 2)
    (hother : enumAt mem (senderIdOff k) ≠ 2) (hother' : enumAt mem' (senderIdOff k) ≠ 2)
    (h : posts k locApiHandle handler mem = posts k locApiHandle handler mem') :
    stringAt mem (passwordOff k) = stringAt mem' (passwordOff k) := by
  rcases posts_wifi hreads ht hn hother with ⟨senderId, heq⟩
  rcases posts_wifi hreads ht' hn' hother' with ⟨senderId', heq'⟩
  rw [heq, heq', List.singleton_inj, Prod.mk.injEq, EngMsg.nif.injEq] at h
  exact Option.some.inj (Handler.wifiMsg_inj h.2)

end Handlers

section Covered

variable {k : Nat} {locApiHandle : Bool} {bs : List UInt8}

/-- A field of the message that was received is the same over every buffer. -/
theorem ctrlIfRequest_inside (buf buf' : Mem) (h : senderIdOff k + 4 ≤ bs.length) :
    (ctrlIfRequest k (poke buf 0 bs)).type = (ctrlIfRequest k (poke buf' 0 bs)).type ∧
      (ctrlIfRequest k (poke buf 0 bs)).senderId = (ctrlIfRequest k (poke buf' 0 bs)).senderId := by
  have htype : typeOff k + 4 ≤ bs.length := by
    unfold senderIdOff at h
    omega
  exact ⟨congrArg Nat.cast (enumAt_inside buf buf' htype),
    congrArg Nat.cast (enumAt_inside buf buf' h)⟩

/-- A received sender is the daemon if its first byte says so. -/
theorem sender_daemon_iff (buf : Mem) (h : senderIdOff k + 4 ≤ bs.length)
    (hknown : ¬ RulesOut bs (senderIdOff k)) :
    enumAt (poke buf 0 bs) (senderIdOff k) = 2 ↔ bs[senderIdOff k]? = some 2 := by
  have hall : enumAt (poke buf 0 bs) (senderIdOff k) ≤ 2 := by
    rw [enumAt_inside buf (fun _ => 0) h]
    exact enumAt_of_not_rulesOut hknown
  have hbytes := (enumAt_le_two_iff _ _).mp hall
  have hget : bs[senderIdOff k]? = some (poke buf 0 bs (senderIdOff k + 0)) := by
    rw [Nat.add_zero, poke_zero, List.getElem?_eq_getElem (by omega), Option.getD_some]
  have hpeek : ∀ m : Mem, peek m (senderIdOff k) 4 =
      [m (senderIdOff k + 0), m (senderIdOff k + 1), m (senderIdOff k + 2),
        m (senderIdOff k + 3)] := fun _ => rfl
  -- The other bytes are zero.
  have h1 : poke buf 0 bs (senderIdOff k + 1) = 0 := hbytes 1 (by omega)
  have h2 : poke buf 0 bs (senderIdOff k + 2) = 0 := hbytes 2 (by omega)
  have h3 : poke buf 0 bs (senderIdOff k + 3) = 0 := hbytes 3 (by omega)
  unfold enumAt
  rw [hpeek, h1, h2, h3, decode_four, hget, Option.some.injEq, ← UInt8.toNat_inj]
  simp only [UInt8.toNat_zero, Nat.mul_zero, Nat.add_zero]
  rfl

theorem le_of_coversString {off : Nat} (h : CoversString bs off) : off ≤ bs.length := by
  rcases h with h | ⟨i, _, hget⟩
  · omega
  · rcases List.getElem?_eq_some_iff.mp hget with ⟨hlt, _⟩
    omega

/-- The addresses that were received are the same over every buffer. -/
theorem addresses_inside (buf buf' : Mem) (h : ipv6AddrOff k + 16 ≤ bs.length) :
    (ctrlIfRequest k (poke buf 0 bs)).ipv4Addr = (ctrlIfRequest k (poke buf' 0 bs)).ipv4Addr ∧
      (ctrlIfRequest k (poke buf 0 bs)).ipv6Addr = (ctrlIfRequest k (poke buf' 0 bs)).ipv6Addr := by
  have hipv4 : ipv4AddrOff k + k ≤ bs.length := by
    unfold ipv6AddrOff at h
    omega
  refine ⟨?_, ?_⟩
  · simp only [ctrlIfRequest, peek_poke_inside buf buf' hipv4]
  · refine congrArg Vector.ofFn (funext fun i => ?_)
    have hi := i.isLt
    rw [poke_zero, poke_zero, List.getElem?_eq_getElem (by omega), Option.getD_some,
      Option.getD_some]

/-- So is all of the request, if its password was received. -/
theorem ctrlIfRequest_eq (buf buf' : Mem) (h : CoversString bs (passwordOff k)) :
    ctrlIfRequest k (poke buf 0 bs) = ctrlIfRequest k (poke buf' 0 bs) := by
  have hle := le_of_coversString h
  have hssid : ssidOff k + (SSID_BUF_SIZE - 1) ≤ bs.length := by
    unfold passwordOff at hle
    omega
  have hipv6 : ipv6AddrOff k + 16 ≤ bs.length := by
    unfold ssidOff at hssid
    omega
  have hsender : senderIdOff k + 4 ≤ bs.length := by
    unfold ipv6AddrOff ipv4AddrOff at hipv6
    omega
  rcases ctrlIfRequest_inside buf buf' hsender with ⟨htype, hid⟩
  rcases addresses_inside buf buf' hipv6 with ⟨hv4, hv6⟩
  have hname := stringAt_inside buf buf' (Or.inl hssid)
  have hpassword := stringAt_inside buf buf' h
  unfold ctrlIfRequest at htype hid hv4 hv6 ⊢
  rw [CtrlIfRequest.mk.injEq]
  exact ⟨htype, hid, hv4, hv6, hname, hpassword⟩

theorem ctrlTypeOf_poke (buf : Mem) {ctrlType : UInt8} (h : bs[k + 8]? = some ctrlType) :
    ctrlTypeOf k (poke buf 0 bs) = ctrlType := by
  unfold ctrlTypeOf
  rw [poke_zero, h, Option.getD_some]

/-- A message that covers what is read of it has one effect. -/
theorem same_of_covers (h : Covers k locApiHandle bs) (buf buf' : Mem) :
    handlerOf (ctrlTypeOf k (poke buf 0 bs)) = handlerOf (ctrlTypeOf k (poke buf' 0 bs)) ∧
      posts k locApiHandle (handlerOf (ctrlTypeOf k (poke buf 0 bs))) (poke buf 0 bs) =
        posts k locApiHandle (handlerOf (ctrlTypeOf k (poke buf' 0 bs))) (poke buf' 0 bs) := by
  rcases h with ⟨ctrlType, hget, hread⟩
  rw [ctrlTypeOf_poke buf hget, ctrlTypeOf_poke buf' hget]
  refine ⟨rfl, ?_⟩
  by_cases hreads : Reads locApiHandle (handlerOf ctrlType)
  · have hsettled : ∀ {off : Nat}, RulesOut bs off → off = typeOff k ∨ off = senderIdOff k →
        ∀ b : Mem, posts k locApiHandle (handlerOf ctrlType) (poke b 0 bs) = [] := by
      intro off hrules hoff b
      refine posts_unknown ?_
      rcases hoff with rfl | rfl
      · exact Or.inl (not_enumAt_of_rulesOut hrules b)
      · exact Or.inr (not_enumAt_of_rulesOut hrules b)
    rcases hread hreads with htype | hsender | ⟨hlen, hrest⟩
    · rw [hsettled htype (Or.inl rfl), hsettled htype (Or.inl rfl)]
    · rw [hsettled hsender (Or.inr rfl), hsettled hsender (Or.inr rfl)]
    · by_cases hknown : RulesOut bs (senderIdOff k)
      · rw [hsettled hknown (Or.inr rfl), hsettled hknown (Or.inr rfl)]
      · by_cases hdaemon : bs[senderIdOff k]? = some 2
        · -- Both addresses were received, and nothing else is read.
          rw [if_pos hdaemon] at hrest
          rcases ctrlIfRequest_inside buf buf' hlen with ⟨htype, hid⟩
          rcases addresses_inside buf buf' hrest with ⟨hv4, hv6⟩
          have hsender : (ctrlIfRequest k (poke buf 0 bs)).senderId = 2 :=
            congrArg Nat.cast ((sender_daemon_iff buf hlen hknown).mpr hdaemon)
          have hifType : (ctrlIfRequest k (poke buf 0 bs)).ifType =
              (ctrlIfRequest k (poke buf' 0 bs)).ifType := by
            unfold CtrlIfRequest.ifType
            rw [htype]
          rw [posts_of_reads hreads, posts_of_reads hreads,
            ifHandler_congr_daemon _ _ htype hid hsender hv4 hv6, hifType]
        · rw [if_neg hdaemon] at hrest
          rw [posts_of_reads hreads, posts_of_reads hreads, ctrlIfRequest_eq buf buf' hrest]
  · rw [posts_of_not_reads hreads, posts_of_not_reads hreads]

/-- A message that has one effect covers what is read of it. -/
theorem covers_of_same (h : ∀ buf buf' : Mem,
    handlerOf (ctrlTypeOf k (poke buf 0 bs)) = handlerOf (ctrlTypeOf k (poke buf' 0 bs)) ∧
      posts k locApiHandle (handlerOf (ctrlTypeOf k (poke buf 0 bs))) (poke buf 0 bs) =
        posts k locApiHandle (handlerOf (ctrlTypeOf k (poke buf' 0 bs))) (poke buf' 0 bs)) :
    Covers k locApiHandle bs := by
  cases hget : bs[k + 8]? with
  | none =>
      -- The buffer alone decides which handler is called.
      have hhandler := (h (fun _ => 0) (fun _ => 0xF0)).1
      unfold ctrlTypeOf at hhandler
      rw [poke_zero, poke_zero, hget, Option.getD_none, Option.getD_none] at hhandler
      exact absurd hhandler (by decide)
  | some ctrlType =>
      refine ⟨ctrlType, hget, fun hreads => ?_⟩
      have hsame : ∀ buf buf' : Mem,
          posts k locApiHandle (handlerOf ctrlType) (poke buf 0 bs) =
            posts k locApiHandle (handlerOf ctrlType) (poke buf' 0 bs) := by
        intro buf buf'
        have hposts := (h buf buf').2
        rwa [ctrlTypeOf_poke buf hget, ctrlTypeOf_poke buf' hget] at hposts
      by_contra hopen
      rw [not_or, not_or, not_and] at hopen
      rcases hopen with ⟨htype, hsender, hrest⟩
      have ht := enumAt_of_not_rulesOut htype
      have hn := enumAt_of_not_rulesOut hsender
      by_cases hlen : senderIdOff k + 4 ≤ bs.length
      · have hlen' : typeOff k + 4 ≤ bs.length := by
          unfold senderIdOff at hlen
          omega
        -- Both are known over every buffer; so a message is posted, over zeros and over ones.
        have ht' := ht
        have hn' := hn
        rw [enumAt_inside (fun _ => 0) (fun _ => 1) hlen'] at ht'
        rw [enumAt_inside (fun _ => 0) (fun _ => 1) hlen] at hn'
        have hboth := hsame (fun _ => 0) (fun _ => 1)
        by_cases hdaemon : bs[senderIdOff k]? = some 2
        · have hshort := hrest hlen
          rw [if_pos hdaemon, Nat.not_le] at hshort
          have haddr := ipv6Addr_of_posts hreads ht ht'
            ((sender_daemon_iff _ hlen hsender).mpr hdaemon)
            ((sender_daemon_iff _ hlen hsender).mpr hdaemon) hboth
          -- The last byte of the address was not received.
          have hlast := congrArg (fun v : Vector UInt8 16 => v[15]) haddr
          simp only [ctrlIfRequest, Vector.getElem_ofFn] at hlast
          rw [poke_zero, poke_zero, List.getElem?_eq_none (by omega), Option.getD_none,
            Option.getD_none] at hlast
          exact absurd hlast (by decide)
        · have hshort := hrest hlen
          rw [if_neg hdaemon] at hshort
          have hother : ∀ b : Mem, enumAt (poke b 0 bs) (senderIdOff k) ≠ 2 := fun b heq =>
            hdaemon ((sender_daemon_iff b hlen hsender).mp heq)
          exact stringAt_short hshort
            (password_of_posts hreads ht ht' hn hn' (hother _) (hother _) hboth)
      · -- Zeros complete the sender to a known one, and other bytes do not.
        refine posts_known hreads ht hn ((hsame _ (fun _ => 0xFF)).trans ?_)
        exact posts_unknown (Or.inr (not_enumAt_of_short (Nat.lt_of_not_le hlen)))

/-- A message has the same effect over every buffer if and only if it covers what
    is read of it. -/
theorem onlyReceived_iff {sz : SizeT k} {msg : List UInt8} (hk : 0 < k) (hint : k < 2 ^ 31)
    (hsz : sz.toNat < 2 ^ 31) (hfits : Fits k sz msg) (locApiHandle : Bool) :
    OnlyReceived k sz locApiHandle msg ↔ Covers k locApiHandle (frame k msg) := by
  rw [onlyReceived_iff_poke hk hint hsz hfits]
  exact ⟨covers_of_same, same_of_covers⟩

/-- A release of the daemon's own client, up to the end of its addresses. -/
def daemonRelease : List UInt8 :=
  List.replicate 12 0 ++ [0xF1, 0, 0, 0, 1, 0, 0, 0, 2, 0, 0, 0] ++ List.replicate 20 0

theorem onlyReceived_iff_daemonRelease :
    OnlyReceived 4 (BitVec.ofNat 32 (bufferSize 4)) true daemonRelease ↔
      Covers 4 true (frame 4 daemonRelease) :=
  onlyReceived_iff (by decide) (by decide) (by decide) (by decide) true

/-- A request that ends behind its `ctrl_type`. -/
def bareRequest : List UInt8 := List.replicate 12 0 ++ [0xF0]

/-- Over zeros the request is one of a client of the first kind, with empty
    strings; over ones there is none. -/
theorem bareRequest_not_onlyReceived :
    ¬ (∀ msg : List UInt8, Fits 4 (BitVec.ofNat 32 (bufferSize 4)) msg →
      OnlyReceived 4 (BitVec.ofNat 32 (bufferSize 4)) true msg) := by
  intro hall
  have hsame := hall bareRequest (by decide) [] (fun _ => 0) (fun _ => 1)
  exact absurd hsame (by decide)

end Covered

end Conn

end Taoshan
