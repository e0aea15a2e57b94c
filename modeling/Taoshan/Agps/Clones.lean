import Mathlib.Data.List.Perm.Basic
import Taoshan.Lib.Run
import Taoshan.Agps.Transition

/-!
# Who Frees the Clones

`addSubscriber` lists a clone of the client that subscribes, and the list is
given `deleteObj` to free it. Every clone ought to be listed still or to have
been freed once.

`linked_list_flush` calls `deleteObj` on what it empties the list of.
`linked_list_search` does so only for an element that it removes and does not
copy out, and `notifySubscribers` has every element copied out that it removes,
into a pointer that it forgets. So a client that is notified and removed is not
freed by anyone, and a client that is flushed is. Nothing is freed twice
(`freed_once`); and the clones add up exactly as long as no client is removed by
a notification (`conserved_iff`). That is the case in which a client leaves that
is not a WIFI client, a request is denied, or a connection that is in use or
being closed is gone.

An object is known by its address, and `next` is the number of clones that have
been made.

## Main definitions

* `LifeOp`, `Life`: A machine until its destruction, and what has been freed.
* `Conserved`: Every clone is listed or was freed once.
* `Forgets`: A call removes a client by a notification.

## Theorems

* `deletedBy_of_transition`: No call frees anything.
* `objs_of_transition`: What a call does to the list.
* `freed_once`: Nothing is freed twice, nor while it is listed.
* `conserved_iff`: The clones add up if and only if nobody is forgotten.
-/

namespace Taoshan

namespace Agps

/-- An operation in the life of a machine. -/
inductive LifeOp
  | call (env : Env) (op : Op)
  | dropAllSubscribers
  | destroy

/-- A machine, whether it is alive, and the objects that `deleteObj` was called
    on, in order. -/
structure Life where
  machine : AgpsStateMachine
  alive : Bool
  deleted : List Nat

def Life.init (m : AgpsStateMachine) : Life := ⟨m, true, []⟩

/-- The object that an effect frees. -/
def Effect.deleted : Effect → Option Nat
  | .deleteObj obj => some obj
  | _ => none

/-- The objects freed by a call. -/
def deletedBy (out : List Effect) : List Nat := out.filterMap Effect.deleted

/-- `dropAllSubscribers`, with what it frees. -/
def Life.dropAll (t : Life) : Life :=
  let r := t.machine.dropAllSubscribers
  { t with machine := r.1, deleted := t.deleted ++ deletedBy r.2 }

def Life.step (t : Life) (a : LifeOp) : Option Life :=
  if t.alive then
    match a with
    | .call env op =>
        let r := t.machine.perform env op
        some { t with machine := r.1, deleted := t.deleted ++ deletedBy r.2 }
    | .dropAllSubscribers => some t.dropAll
    -- The destructor begins with a flush.
    | .destroy => some { t.dropAll with alive := false }
  else none

/-- The listed objects. -/
def AgpsStateMachine.objs (m : AgpsStateMachine) : List Nat := m.mSubscribers.map Subscriber.obj

/-- The clones made so far are those listed and those freed, each of them once. -/
def Conserved (t : Life) : Prop :=
  (t.machine.objs ++ t.deleted).Perm (List.range t.machine.next)

/-- A call removes a client by notifying it: one that leaves and is not a WIFI
    client; everybody, if the connection is denied or taken away; and at the end
    of a close those who have waited for it. -/
def Forgets (m : AgpsStateMachine) (env : Env) : Op → Prop
  | .subscribeRsrc _ => False
  | .unsubscribeRsrc s =>
      ∃ x, m.mSubscribers.find? (fun y => y.equals (env.wild 0) s) = some x ∧ x.isWifi = false
  | .onRsrcEvent event =>
      (m.mStatePtr = .pending ∧ event = .denied ∧ m.mSubscribers ≠ []) ∨
        (m.mStatePtr = .acquired ∧ event = .released ∧ m.mSubscribers ≠ []) ∨
          (m.mStatePtr = .releasing ∧ (event = .released ∨ event = .denied) ∧
            ∃ x ∈ m.mSubscribers, x.isInactive = true)

/-- The condition on an operation. -/
def KeepsClones (t : Life) : LifeOp → Prop
  | .call env op => ¬ Forgets t.machine env op
  | _ => True

section Calls

variable {m m' : AgpsStateMachine} {env : Env} {op : Op} {out : List Effect}

theorem deletedBy_told (nif : Nif) (status : AgpsRsrcStatus) (l : List Subscriber) :
    deletedBy (l.flatMap (told nif status)) = [] := by
  refine List.filterMap_eq_nil_iff.mpr (fun e he => ?_)
  rcases List.mem_flatMap.mp he with ⟨x, _, hx⟩
  rcases List.mem_map.mp hx with ⟨msg, _, rfl⟩
  rfl

theorem deletedBy_append (xs ys : List Effect) :
    deletedBy (xs ++ ys) = deletedBy xs ++ deletedBy ys := List.filterMap_append

theorem deletedBy_settled {st : AgpsState} {req : List Effect} (h : Settled env m st req) :
    deletedBy req = [] := by
  cases h with
  | empty _ _ => rfl
  | emptyReleasing _ _ => rfl
  | inactive _ _ _ => rfl
  | stay _ _ => rfl

theorem deletedBy_welcome (s : Subscriber) : deletedBy (m.welcome s) = [] := by
  have htold := deletedBy_told m.toNif .granted [s]
  rw [List.flatMap_singleton] at htold
  unfold AgpsStateMachine.welcome
  split
  · exact htold
  · rfl

/-- No call frees anything. -/
theorem deletedBy_of_transition (ht : Transition m env op m' out) : deletedBy out = [] := by
  cases ht with
  | @refuse s _ _ =>
      have htold := deletedBy_told m.toNif .denied [s]
      rwa [List.flatMap_singleton] at htold
  | request _ _ => rfl
  | join _ _ _ => exact deletedBy_welcome _
  | enlist _ _ _ => exact deletedBy_welcome _
  | unknown _ => rfl
  | mute _ _ _ hset => exact deletedBy_settled hset
  | leave _ _ _ hout _ hset =>
      -- In whatever order they are told, those who leave are only told.
      have hnil : deletedBy _ = [] := List.perm_nil.mp
        ((hout.filterMap Effect.deleted).trans (List.Perm.of_eq (deletedBy_told _ _ _)))
      rw [deletedBy_append, hnil, deletedBy_settled hset]
      rfl
  | grant _ => exact deletedBy_told _ _ _
  | deny _ => exact deletedBy_told _ _ _
  | force _ => exact deletedBy_told _ _ _
  | close _ _ _ => exact deletedBy_told _ _ _
  | reopen _ _ _ _ =>
      rw [deletedBy_append, deletedBy_told]
      rfl
  | ignore _ => rfl

/-- What a call does to the objects: one is made and listed, or some listed ones
    go, which they do exactly if the call forgets them. -/
inductive ObjsChange (m : AgpsStateMachine) (env : Env) (op : Op) (m' : AgpsStateMachine) : Prop
  | made (hobjs : m'.objs = m.next :: m.objs) (hnext : m'.next = m.next + 1)
      (hkeeps : ¬ Forgets m env op)
  | removed (hobjs : m'.objs.Sublist m.objs) (hnext : m'.next = m.next)
      (hiff : m'.objs = m.objs ↔ ¬ Forgets m env op)

theorem objs_enlist (s : Subscriber) (st : AgpsState) :
    ({ m.enlist s with mStatePtr := st } : AgpsStateMachine).objs = m.next :: m.objs := by
  simp only [AgpsStateMachine.objs, AgpsStateMachine.enlist, List.map_cons, Subscriber.clone_obj]

/-- Those that a test picks out go, and they are forgotten if there are any. -/
theorem objs_filter {p : Subscriber → Bool} {st : AgpsState}
    (hforgets : Forgets m env op ↔ ∃ x ∈ m.mSubscribers, p x = true) :
    ObjsChange m env op (m.become st (m.mSubscribers.filter (fun x => !p x))) := by
  refine .removed (List.filter_sublist.map _) rfl ?_
  rw [hforgets, not_exists]
  constructor
  · intro heq x hx
    have hlen := congrArg List.length heq
    simp only [AgpsStateMachine.objs, AgpsStateMachine.become, List.length_map] at hlen
    have hkept := List.length_filter_eq_length_iff.mp hlen x hx.1
    rw [hx.2] at hkept
    cases hkept
  · intro hnone
    have hall : m.mSubscribers.filter (fun x => !p x) = m.mSubscribers := by
      refine List.filter_eq_self.mpr (fun x hx => ?_)
      rw [Bool.eq_false_iff.mpr (fun h => hnone x ⟨hx, h⟩)]
      rfl
    simp only [AgpsStateMachine.objs, AgpsStateMachine.become, hall]

/-- Everybody goes. -/
theorem objs_nil {st : AgpsState} (hforgets : Forgets m env op ↔ m.mSubscribers ≠ []) :
    ObjsChange m env op (m.become st []) := by
  refine .removed (List.nil_sublist _) rfl ?_
  rw [hforgets, not_not]
  simp only [AgpsStateMachine.objs, AgpsStateMachine.become, List.map_nil, List.nil_eq,
    List.map_eq_nil_iff]

theorem objs_same (hobjs : m'.objs = m.objs) (hnext : m'.next = m.next)
    (hkeeps : ¬ Forgets m env op) : ObjsChange m env op m' :=
  .removed (hobjs ▸ List.Sublist.refl _) hnext (iff_of_true hobjs hkeeps)

theorem objs_of_transition (ht : Transition m env op m' out) : ObjsChange m env op m' := by
  cases ht with
  | refuse _ _ => exact objs_same rfl rfl id
  | request _ _ => exact .made (objs_enlist _ _) rfl id
  | join _ _ _ => exact objs_same rfl rfl id
  | enlist _ _ _ => exact .made (objs_enlist _ m.mStatePtr) rfl id
  | unknown hnew =>
      refine objs_same rfl rfl ?_
      rintro ⟨x, hx, _⟩
      have hfound := List.find?_some hx
      rw [hnew x (List.mem_of_find?_eq_some hx)] at hfound
      cases hfound
  | mute _ hx hwifi _ =>
      refine objs_same (setInactive_map_obj _) rfl ?_
      rintro ⟨y, hy, hother⟩
      rw [hx, Option.some.injEq] at hy
      rw [← hy, hwifi] at hother
      cases hother
  | leave _ hx hwifi _ _ _ =>
      -- The client that was found equals itself, so it goes.
      exact objs_filter (iff_of_true ⟨_, hx, hwifi⟩
        ⟨_, List.mem_of_find?_eq_some hx, Subscriber.equals_refl _ _⟩)
  | grant hst =>
      refine objs_same rfl rfl ?_
      rintro (⟨_, hev, _⟩ | ⟨_, hev, _⟩ | ⟨_, hev | hev, _⟩) <;> cases hev
  | deny hst =>
      refine objs_nil ⟨?_, fun hne => Or.inl ⟨hst, rfl, hne⟩⟩
      rintro (⟨_, _, hne⟩ | ⟨_, hev, _⟩ | ⟨hother, _⟩)
      · exact hne
      · cases hev
      · cases hst.symm.trans hother
  | force hst =>
      refine objs_nil ⟨?_, fun hne => Or.inr (Or.inl ⟨hst, rfl, hne⟩)⟩
      rintro (⟨_, hev, _⟩ | ⟨_, _, hne⟩ | ⟨hother, _⟩)
      · cases hev
      · exact hne
      · cases hst.symm.trans hother
  | close hst hev hall =>
      refine objs_nil ⟨?_, fun hne => ?_⟩
      · rintro (⟨hother, _⟩ | ⟨hother, _⟩ | ⟨_, _, x, hx, _⟩)
        · cases hst.symm.trans hother
        · cases hst.symm.trans hother
        · exact List.ne_nil_of_mem hx
      · rcases List.exists_mem_of_ne_nil _ hne with ⟨x, hx⟩
        exact Or.inr (Or.inr ⟨hst, hev, x, hx, hall x hx⟩)
  | reopen hst hev hl _ =>
      subst hl
      refine objs_filter ⟨?_, fun hx => Or.inr (Or.inr ⟨hst, hev, hx⟩)⟩
      rintro (⟨hother, _⟩ | ⟨hother, _⟩ | ⟨_, _, hx⟩)
      · cases hst.symm.trans hother
      · cases hst.symm.trans hother
      · exact hx
  | ignore hign =>
      refine objs_same rfl rfl ?_
      rintro (⟨hst, rfl, _⟩ | ⟨hst, rfl, _⟩ | ⟨hst, rfl | rfl, _⟩)
      · rw [hst] at hign
        cases hign
      · rw [hst] at hign
        cases hign
      · rw [hst] at hign
        cases hign
      · rw [hst] at hign
        cases hign

end Calls

section Lives

variable {t t' : Life} {a : LifeOp}

theorem deletedBy_drop (l : List Subscriber) :
    deletedBy (l.map fun s => Effect.deleteObj s.obj) = l.map Subscriber.obj := by
  unfold deletedBy
  rw [List.filterMap_map]
  exact congrFun List.filterMap_eq_map l

/-- A flush turns the listed objects into freed ones. -/
theorem dropAll_perm (t : Life) :
    (t.dropAll.machine.objs ++ t.dropAll.deleted).Perm (t.machine.objs ++ t.deleted) := by
  simp only [Life.dropAll, AgpsStateMachine.dropAllSubscribers, AgpsStateMachine.objs, List.map_nil,
    List.nil_append, deletedBy_drop]
  exact List.perm_append_comm

/-- What a step does to the objects. -/
inductive LifeChange (t : Life) (a : LifeOp) (t' : Life) : Prop
  | made (hobjs : t'.machine.objs = t.machine.next :: t.machine.objs)
      (hnext : t'.machine.next = t.machine.next + 1) (hdeleted : t'.deleted = t.deleted)
      (hkeeps : KeepsClones t a)
  | removed (hobjs : t'.machine.objs.Sublist t.machine.objs)
      (hnext : t'.machine.next = t.machine.next) (hdeleted : t'.deleted = t.deleted)
      (hiff : t'.machine.objs = t.machine.objs ↔ KeepsClones t a)
  | flushed (hperm : (t'.machine.objs ++ t'.deleted).Perm (t.machine.objs ++ t.deleted))
      (hnext : t'.machine.next = t.machine.next) (hkeeps : KeepsClones t a)

theorem life_change (hsound : Sound t.machine) (h : t.step a = some t') :
    Sound t'.machine ∧ LifeChange t a t' := by
  unfold Life.step at h
  by_cases halive : t.alive = true
  · rw [if_pos halive] at h
    cases a with
    | call env op =>
        have ht := perform_transition hsound env op
        have hnone := deletedBy_of_transition ht
        simp only [hnone, List.append_nil, Option.some.injEq] at h
        rw [← h]
        refine ⟨sound_of_transition hsound ht, ?_⟩
        cases objs_of_transition ht with
        | made hobjs hnext hkeeps => exact .made hobjs hnext rfl hkeeps
        | removed hobjs hnext hiff => exact .removed hobjs hnext rfl hiff
    | dropAllSubscribers =>
        rw [Option.some.injEq] at h
        rw [← h]
        exact ⟨sound_drop, .flushed (dropAll_perm t) rfl trivial⟩
    | destroy =>
        rw [Option.some.injEq] at h
        rw [← h]
        exact ⟨sound_drop, .flushed (dropAll_perm t) rfl trivial⟩
  · rw [if_neg halive] at h
    cases h

/-- A step keeps the account exactly if it forgets nobody. -/
theorem conserved_step (hc : LifeChange t a t') (h : Conserved t) :
    Conserved t' ↔ KeepsClones t a := by
  unfold Conserved at h ⊢
  cases hc with
  | made hobjs hnext hdeleted hkeeps =>
      refine iff_of_true ?_ hkeeps
      rw [hobjs, hnext, hdeleted, List.range_succ]
      -- The new clone is the one that is next.
      exact (h.cons _).trans (List.perm_append_singleton _ _).symm
  | removed hobjs hnext hdeleted hiff =>
      rw [← hiff, hnext, hdeleted]
      constructor
      · intro hperm
        have hlen := (hperm.trans h.symm).length_eq
        rw [List.length_append, List.length_append] at hlen
        exact hobjs.eq_of_length (by omega)
      · intro heq
        rw [heq]
        exact h
  | flushed hperm hnext hkeeps =>
      refine iff_of_true ?_ hkeeps
      rw [hnext]
      exact hperm.trans h

/-- Whatever is forgotten, nothing is freed twice, nor while it is listed. -/
theorem freed_once (type : AGpsType) (one : Bool) (bearer : Int) (ops : List LifeOp) :
    Run.Throughout Life.step (fun t => (t.machine.objs ++ t.deleted).Nodup)
      (.init (.init type one bearer)) ops := by
  refine Run.throughout_invariant (fun t : Life => Sound t.machine ∧
    (t.machine.objs ++ t.deleted).Nodup ∧ ∀ obj ∈ t.deleted, obj < t.machine.next)
    (fun t h => h.2.1) ?_ ops ⟨sound_init type one bearer, List.nodup_nil, nofun⟩
  rintro t a t' ⟨hsound, hnodup, hold⟩ hstep
  rcases life_change hsound hstep with ⟨hsound', hchange⟩
  refine ⟨hsound', ?_⟩
  cases hchange with
  | made hobjs hnext hdeleted _ =>
      rw [hobjs, hnext, hdeleted, List.cons_append, List.nodup_cons]
      refine ⟨⟨fun hmem => ?_, hnodup⟩, fun obj hobj => Nat.lt_succ_of_lt (hold obj hobj)⟩
      -- The new object is younger than all others.
      rcases List.mem_append.mp hmem with hlisted | hfreed
      · rcases List.mem_map.mp hlisted with ⟨x, hx, hobj⟩
        exact Nat.lt_irrefl _ (hobj ▸ hsound.fresh x hx)
      · exact Nat.lt_irrefl _ (hold _ hfreed)
  | removed hobjs hnext hdeleted _ =>
      rw [hnext, hdeleted]
      exact ⟨hnodup.sublist (hobjs.append_right _), hold⟩
  | flushed hperm hnext _ =>
      refine ⟨hperm.nodup_iff.mpr hnodup, fun obj hobj => ?_⟩
      rw [hnext]
      rcases List.mem_append.mp (hperm.mem_iff.mp (List.mem_append_right _ hobj)) with hobj | hobj
      · rcases List.mem_map.mp hobj with ⟨x, hx, rfl⟩
        exact hsound.fresh x hx
      · exact hold obj hobj

/-- Over every life of a machine the clones add up after each operation if and
    only if no call removes a client by notifying it. -/
theorem conserved_iff (type : AGpsType) (one : Bool) (bearer : Int) (ops : List LifeOp) :
    Run.Throughout Life.step Conserved (.init (.init type one bearer)) ops ↔
      Run.Guarded Life.step KeepsClones (.init (.init type one bearer)) ops := by
  refine Run.throughout_iff_guarded (fun t : Life => Sound t.machine ∧ Conserved t)
    (fun _ h => h.2) ?_ ?_ ⟨sound_init type one bearer, List.Perm.nil⟩
  · rintro t a t' ⟨hsound, hconserved⟩ hkeeps hstep
    rcases life_change hsound hstep with ⟨hsound', hchange⟩
    exact ⟨hsound', (conserved_step hchange hconserved).mpr hkeeps⟩
  · rintro t a t' ⟨hsound, hconserved⟩ hstep hconserved'
    exact (conserved_step (life_change hsound hstep).2 hconserved).mp hconserved'

/-- A connection of the modem subscribes and leaves. -/
def comesAndGoes : List LifeOp :=
  [.call .zeros (.subscribeRsrc (.atl 0 7 false)), .call .zeros (.unsubscribeRsrc (.atl 0 7 false))]

/-- Its clone is listed no more, and nobody has freed it. -/
theorem comesAndGoes_not_conserved :
    ¬ Run.Throughout Life.step Conserved (.init (.init AGPS_TYPE_SUPL false 0)) comesAndGoes := by
  intro hall
  have hlast := Run.throughout_iff_prefix.mp hall comesAndGoes _ (List.prefix_refl _) rfl
  have hlen := hlast.length_eq
  revert hlen
  decide

end Lives

end Agps

end Taoshan
