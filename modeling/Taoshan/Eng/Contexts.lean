import Mathlib.Data.List.Basic
import Mathlib.Logic.Function.Basic
import Taoshan.Lib.Run

/-!
# Who Has a Context

Any number of instances share one `LocEngContext`. `get` creates it for the first
of them and counts the others, `drop` counts them out, and the last one out puts
`QUIT` into the queue, waits for the deferred action thread, destroys the queues,
deletes the context and forgets it. The next `get` creates another.

All of this is done under a lock, but for two things. `get` reads `me` once more
for its result, after it has given the lock back. And the last one out waits, and
while it waits the lock is free. A `get` in that time finds the old context,
counts up from zero and returns it, or what is left of it.

So as long as no `get` comes while somebody closes, everybody who has a context
has the same one, it is there, and as many as have it are counted; each context
that was created is destroyed once, and none but the last is left. And it takes
no more than that one `get`: after it there are always two steps, both of them
somebody else's, to where a user has a context that is gone (`contexts_shared`).

A wait may end without a signal. What the thread does in between is `Shutdown`;
here it only answers a `QUIT`, and it may call `drop` itself, in vain. LocEngContexts
have numbers, and none is used twice.

## Main definitions

* `User`: How far an instance is with `get` and `drop`.
* `LocEngContexts`, `Label`, `step`: The contexts there were, and their users.
* `Sound`: Whoever has a context has the one there is.
* `Undisturbed`: Nobody comes while somebody closes.
* `Counted`: The invariant.

## Theorems

* `step_moved`: The steps, taken apart.
* `counted_step`: An undisturbed step keeps the count.
* `disturbed`: After another one a user can lose its context.
* `contexts_shared`: Undisturbed runs are sound, and only they stay so.
-/

namespace Taoshan

namespace Eng

namespace Contexts

/-- An instance has no context, is about to read `me` at the end of `get`, has
    what it has read, or is in `drop` as the last one out and waits or has been
    woken. -/
inductive User
  | out
  | entering
  | inside (context : Option Nat)
  | waiting (context : Nat)
  | woken (context : Nat)
  deriving DecidableEq

/-- The user is counted. -/
def User.holds : User → Bool
  | .entering => true
  | .inside _ => true
  | _ => false

/-- The user is the last one out of this context. -/
def User.closes : User → Option Nat
  | .waiting c => some c
  | .woken c => some c
  | _ => none

def User.closing (x : User) : Bool := x.closes.isSome

/-- The user is on the condition variable. -/
def User.asleep : User → Bool
  | .waiting _ => true
  | _ => false

/-- The context there is, those there were, and the users. `quit` says whose
    thread has a `QUIT` to answer. -/
structure LocEngContexts where
  me : Option Nat
  created : Nat
  live : Nat → Bool
  counter : Nat → Int
  quit : Nat → Bool
  destroyed : Nat → Nat
  users : List User

/-- So many users before the first `get`. -/
def init (n : Nat) : LocEngContexts where
  me := none
  created := 0
  live := fun _ => false
  counter := fun _ => 0
  quit := fun _ => false
  destroyed := fun _ => 0
  users := List.replicate n .out

/-- The critical section of `get` and its `return`, `drop` up to where it waits or
    returns, also on the thread of the context, a thread that answers, a wait that
    ends by itself, and the rest of `drop`. -/
inductive Label
  | get (u : Nat)
  | ret (u : Nat)
  | drop (u : Nat)
  | dropOnThread (u : Nat)
  | signal (c : Nat) (u : Option Nat)
  | spurious (u : Nat)
  | resume (u : Nat)
  deriving DecidableEq

section Step

variable (s : LocEngContexts)

/-- A user goes on. -/
def LocEngContexts.goto (u : Nat) (x : User) : LocEngContexts := { s with users := s.users.set u x }

/-- `LocEngContext::get`, under the lock. -/
def get (u : Nat) : LocEngContexts :=
  match s.me with
  | none =>
      { s.goto u .entering with
        me := some s.created
        created := s.created + 1
        live := Function.update s.live s.created true
        counter := Function.update s.counter s.created 1 }
  | some c =>
      { s.goto u .entering with counter := Function.update s.counter c (s.counter c + 1) }

/-- `LocEngContext::drop`, as far as it gets with the lock. -/
def drop (u c : Nat) : LocEngContexts :=
  let counter := s.counter c - 1
  if counter = 0 then
    { s.goto u (.waiting c) with
      counter := Function.update s.counter c counter
      quit := Function.update s.quit c true }
  else { s.goto u .out with counter := Function.update s.counter c counter }

/-- The queues of this context are destroyed, and the one in `me` is deleted. -/
def resume (u c : Nat) : LocEngContexts :=
  { s.goto u .out with
    me := none
    live := match s.me with
      | none => s.live
      | some m => Function.update s.live m false
    destroyed := Function.update s.destroyed c (s.destroyed c + 1) }

def step (s : LocEngContexts) : Label → Option LocEngContexts
  | .get u => if s.users[u]? = some .out then some (get s u) else none
  -- `return me`, when others may have the lock.
  | .ret u => if s.users[u]? = some .entering then some (s.goto u (.inside s.me)) else none
  | .drop u => match s.users[u]? with
    | some (.inside (some c)) => if s.live c then some (drop s u c) else none
    | _ => none
  -- "The HAL thread cannot free itself"
  | .dropOnThread u => match s.users[u]? with
    | some (.inside (some c)) => if s.live c then some s else none
    | _ => none
  | .signal c none =>
      -- There is nobody to be woken.
      if s.quit c ∧ s.users.any User.asleep = false then
        some { s with quit := Function.update s.quit c false }
      else none
  | .signal c (some u) => match s.users[u]? with
    | some (.waiting d) =>
        if s.quit c then
          some { s.goto u (.woken d) with quit := Function.update s.quit c false }
        else none
    | _ => none
  | .spurious u => match s.users[u]? with
    | some (.waiting d) => some (s.goto u (.woken d))
    | _ => none
  | .resume u => match s.users[u]? with
    | some (.woken d) => some (resume s u d)
    | _ => none

end Step

/-- Whoever has a context or is about to has the one there is. -/
def Sound (s : LocEngContexts) : Prop :=
  ∀ x ∈ s.users, x.holds = true →
    ∃ c, s.me = some c ∧ s.live c = true ∧ ∀ p, x = .inside p → p = some c

/-- Nobody comes while somebody closes. -/
def Undisturbed (s : LocEngContexts) : Label → Prop
  | .get _ => ∀ x ∈ s.users, x.closing = false
  | _ => True

instance (s : LocEngContexts) : (l : Label) → Decidable (Undisturbed s l)
  | .get _ => inferInstanceAs (Decidable (∀ x ∈ s.users, x.closing = false))
  | .ret _ => isTrue trivial
  | .drop _ => isTrue trivial
  | .dropOnThread _ => isTrue trivial
  | .signal _ _ => isTrue trivial
  | .spurious _ => isTrue trivial
  | .resume _ => isTrue trivial

/-- The steps, taken apart. -/
inductive Moved (s : LocEngContexts) : Label → LocEngContexts → Prop
  | create {u : Nat} (hu : s.users[u]? = some .out) (hme : s.me = none) :
      Moved s (.get u) { s.goto u .entering with
        me := some s.created
        created := s.created + 1
        live := Function.update s.live s.created true
        counter := Function.update s.counter s.created 1 }
  | join {u c : Nat} (hu : s.users[u]? = some .out) (hme : s.me = some c) :
      Moved s (.get u) { s.goto u .entering with
        counter := Function.update s.counter c (s.counter c + 1) }
  | ret {u : Nat} (hu : s.users[u]? = some .entering) : Moved s (.ret u) (s.goto u (.inside s.me))
  | leave {u c : Nat} (hu : s.users[u]? = some (.inside (some c))) (hmore : s.counter c - 1 ≠ 0) :
      Moved s (.drop u) { s.goto u .out with
        counter := Function.update s.counter c (s.counter c - 1) }
  | close {u c : Nat} (hu : s.users[u]? = some (.inside (some c))) (hlast : s.counter c - 1 = 0) :
      Moved s (.drop u) { s.goto u (.waiting c) with
        counter := Function.update s.counter c (s.counter c - 1)
        quit := Function.update s.quit c true }
  | stay {u : Nat} : Moved s (.dropOnThread u) s
  | answer {c : Nat} :
      Moved s (.signal c none) { s with quit := Function.update s.quit c false }
  | signal {c u d : Nat} (hu : s.users[u]? = some (.waiting d)) :
      Moved s (.signal c (some u)) { s.goto u (.woken d) with
        quit := Function.update s.quit c false }
  | spurious {u d : Nat} (hu : s.users[u]? = some (.waiting d)) :
      Moved s (.spurious u) (s.goto u (.woken d))
  | resume {u d : Nat} (hu : s.users[u]? = some (.woken d)) : Moved s (.resume u) (resume s u d)

section Moves

variable {s t : LocEngContexts} {l : Label}

theorem step_moved (h : step s l = some t) : Moved s l t := by
  cases l with
  | get u =>
      simp only [step, Option.ite_none_right_eq_some, Option.some.injEq] at h
      rcases h with ⟨hu, rfl⟩
      unfold get
      cases hme : s.me with
      | none => exact .create hu hme
      | some c => exact .join hu hme
  | ret u =>
      simp only [step, Option.ite_none_right_eq_some, Option.some.injEq] at h
      rcases h with ⟨hu, rfl⟩
      exact .ret hu
  | drop u =>
      simp only [step] at h
      split at h
      · rename_i c hu
        rw [Option.ite_none_right_eq_some, Option.some.injEq] at h
        rcases h with ⟨-, rfl⟩
        unfold drop
        by_cases hlast : s.counter c - 1 = 0
        · simp only [if_pos hlast]
          exact .close hu hlast
        · simp only [if_neg hlast]
          exact .leave hu hlast
      · exact absurd h (Option.some_ne_none t).symm
  | dropOnThread u =>
      simp only [step] at h
      split at h
      · rw [Option.ite_none_right_eq_some, Option.some.injEq] at h
        rcases h with ⟨-, rfl⟩
        exact .stay
      · exact absurd h (Option.some_ne_none t).symm
  | signal c w =>
      cases w with
      | none =>
          simp only [step, Option.ite_none_right_eq_some, Option.some.injEq] at h
          rcases h with ⟨-, rfl⟩
          exact .answer
      | some u =>
          simp only [step] at h
          split at h
          · rename_i d hu
            rw [Option.ite_none_right_eq_some, Option.some.injEq] at h
            rcases h with ⟨-, rfl⟩
            exact .signal hu
          · exact absurd h (Option.some_ne_none t).symm
  | spurious u =>
      simp only [step] at h
      split at h
      · rename_i d hu
        rw [← Option.some.inj h]
        exact .spurious hu
      · exact absurd h (Option.some_ne_none t).symm
  | resume u =>
      simp only [step] at h
      split at h
      · rename_i d hu
        rw [← Option.some.inj h]
        exact .resume hu
      · exact absurd h (Option.some_ne_none t).symm

/-- One user less of the old kind, one more of the new. -/
theorem countP_goto (p : User → Bool) {users : List User} {u : Nat} {x : User}
    (hu : users[u]? = some x) (y : User) :
    (users.set u y).countP p + (if p x then 1 else 0) =
      users.countP p + (if p y then 1 else 0) := by
  induction users generalizing u with
  | nil => exact absurd hu (Option.some_ne_none x).symm
  | cons z zs ih =>
      cases u with
      | zero =>
          rw [List.getElem?_cons_zero, Option.some.injEq] at hu
          rw [List.set_cons_zero, List.countP_cons, List.countP_cons, hu]
          omega
      | succ u =>
          rw [List.getElem?_cons_succ] at hu
          have hrest := ih hu
          rw [List.set_cons_succ, List.countP_cons, List.countP_cons]
          omega

end Moves

/-- What undisturbed runs keep. -/
structure Counted (s : LocEngContexts) : Prop where
  inside : ∀ x ∈ s.users, ∀ p, x = .inside p → p = s.me
  closes : ∀ x ∈ s.users, ∀ c, x.closes = some c → s.me = some c
  counter : ∀ c, s.me = some c → s.counter c = s.users.countP User.holds
  absent : s.me = none → s.users.countP User.holds = 0
  last : s.users.countP User.closing = 0 ∨
    s.users.countP User.closing = 1 ∧ s.users.countP User.holds = 0
  live : ∀ c, s.live c = true ↔ s.me = some c
  below : ∀ c, s.me = some c → c < s.created
  destroyed : ∀ c, s.destroyed c = if c < s.created ∧ s.me ≠ some c then 1 else 0

section Invariant

variable {s t : LocEngContexts} {l : Label}

theorem counted_init (n : Nat) : Counted (init n) := by
  have hout : ∀ x ∈ (init n).users, x = .out := fun x hx => List.eq_of_mem_replicate hx
  have hnone : ∀ p : User → Bool, p .out = false → (init n).users.countP p = 0 := by
    intro p hp
    refine List.countP_eq_zero.mpr fun x hx => ?_
    rw [hout x hx, hp]
    exact Bool.false_ne_true
  refine ⟨?_, ?_, ?_, fun _ => hnone _ rfl, Or.inl (hnone _ rfl), ?_, ?_, ?_⟩
  · intro x hx p hp
    rw [hout x hx] at hp
    cases hp
  · intro x hx c hc
    rw [hout x hx] at hc
    cases hc
  · intro c hc
    cases hc
  · intro c
    exact iff_of_false Bool.false_ne_true (Option.some_ne_none c).symm
  · intro c hc
    cases hc
  · intro c
    exact (if_neg fun h => Nat.not_lt_zero c h.1).symm

/-- Whoever is counted has the context there is. -/
theorem Counted.sound (h : Counted s) : Sound s := by
  intro x hx hholds
  cases hme : s.me with
  | none => exact absurd hholds (List.countP_eq_zero.mp (h.absent hme) x hx)
  | some c =>
      refine ⟨c, rfl, (h.live c).mpr hme, fun p hp => ?_⟩
      rw [h.inside x hx p hp]
      exact hme

/-- If there is no context, all users are out. -/
theorem Counted.nobody (h : Counted s) (hme : s.me = none) :
    s.users.countP User.closing = 0 := by
  refine List.countP_eq_zero.mpr fun x hx hclosing => ?_
  rcases Option.isSome_iff_exists.mp hclosing with ⟨c, hc⟩
  have hsome := h.closes x hx c hc
  rw [hme] at hsome
  cases hsome

/-- Nobody is closing while a user is counted. -/
theorem Counted.closing_of_holds (h : Counted s) {u : Nat} {x : User} (hu : s.users[u]? = some x)
    (hx : x.holds = true) : s.users.countP User.closing = 0 := by
  rcases h.last with hnone | ⟨-, hzero⟩
  · exact hnone
  · exact absurd hx (List.countP_eq_zero.mp hzero x (List.mem_of_getElem? hu))

/-- A user changes from one kind to another of the same, which has nothing wrong. -/
theorem Counted.goto (h : Counted s) {u : Nat} {x y : User} (hu : s.users[u]? = some x)
    (hholds : y.holds = x.holds) (hcloses : y.closes = x.closes)
    (hinside : ∀ p, y = .inside p → p = s.me) : Counted (s.goto u y) := by
  have hcount : ∀ p : User → Bool, p y = p x → (s.users.set u y).countP p = s.users.countP p := by
    intro p hp
    have hset := countP_goto p hu y
    rw [hp] at hset
    exact Nat.add_right_cancel hset
  have hh := hcount User.holds hholds
  have hc := hcount User.closing (congrArg Option.isSome hcloses)
  refine ⟨?_, ?_, ?_, ?_, ?_, h.live, h.below, h.destroyed⟩
  · intro z hz p hp
    rcases List.mem_or_eq_of_mem_set hz with hz | rfl
    · exact h.inside z hz p hp
    · exact hinside p hp
  · intro z hz c hzc
    rcases List.mem_or_eq_of_mem_set hz with hz | rfl
    · exact h.closes z hz c hzc
    · rw [hcloses] at hzc
      exact h.closes x (List.mem_of_getElem? hu) c hzc
  · intro c hme
    exact (h.counter c hme).trans (congrArg Nat.cast hh.symm)
  · intro hme
    exact hh.trans (h.absent hme)
  · change (s.users.set u y).countP User.closing = 0 ∨
      (s.users.set u y).countP User.closing = 1 ∧ (s.users.set u y).countP User.holds = 0
    rw [hh, hc]
    exact h.last

/-- The first one in. -/
theorem counted_create (h : Counted s) {u : Nat} (hu : s.users[u]? = some .out)
    (hme : s.me = none) :
    Counted { s.goto u .entering with
      me := some s.created
      created := s.created + 1
      live := Function.update s.live s.created true
      counter := Function.update s.counter s.created 1 } := by
  have hholds : (s.users.set u .entering).countP User.holds = 1 := by
    have hset := countP_goto User.holds hu .entering
    rw [h.absent hme] at hset
    exact hset
  have hclosing : (s.users.set u .entering).countP User.closing = 0 := by
    have hset := countP_goto User.closing hu .entering
    rw [h.nobody hme] at hset
    exact hset
  have hgone : ∀ c, s.live c = false := fun c =>
    Bool.eq_false_iff.mpr fun hlive =>
      absurd (hme.symm.trans ((h.live c).mp hlive)) (Option.some_ne_none c).symm
  refine ⟨?_, ?_, ?_, fun hnone => absurd hnone (Option.some_ne_none _), Or.inl hclosing, ?_, ?_,
    ?_⟩
  · intro x hx p hp
    rcases List.mem_or_eq_of_mem_set hx with hx | rfl
    · -- Nobody was inside.
      exact absurd (by rw [hp]; rfl) (List.countP_eq_zero.mp (h.absent hme) x hx)
    · cases hp
  · intro x hx c hc
    rcases List.mem_or_eq_of_mem_set hx with hx | rfl
    · have hsome := h.closes x hx c hc
      rw [hme] at hsome
      cases hsome
    · cases hc
  · intro c hc
    rw [← Option.some.inj hc]
    exact (Function.update_self _ _ _).trans (congrArg Nat.cast hholds.symm)
  · intro c
    change Function.update s.live s.created true c = true ↔ some s.created = some c
    by_cases hc : c = s.created
    · rw [hc, Function.update_self]
      exact iff_of_true rfl rfl
    · rw [Function.update_of_ne hc, hgone c]
      exact iff_of_false Bool.false_ne_true fun heq => hc (Option.some.inj heq).symm
  · intro c hc
    rw [← Option.some.inj hc]
    exact Nat.lt_succ_self _
  · intro c
    change s.destroyed c = if c < s.created + 1 ∧ some s.created ≠ some c then 1 else 0
    rw [h.destroyed c, hme]
    refine if_congr ?_ rfl rfl
    rw [and_iff_left (Option.some_ne_none c).symm, ne_eq, Option.some.injEq]
    omega

/-- Another one in, when nobody closes. -/
theorem counted_join (h : Counted s) {u c : Nat} (hu : s.users[u]? = some .out)
    (hme : s.me = some c) (hnone : s.users.countP User.closing = 0) :
    Counted { s.goto u .entering with
      counter := Function.update s.counter c (s.counter c + 1) } := by
  have hholds : (s.users.set u .entering).countP User.holds = s.users.countP User.holds + 1 :=
    countP_goto User.holds hu .entering
  have hclosing : (s.users.set u .entering).countP User.closing = 0 :=
    (countP_goto User.closing hu .entering).trans hnone
  refine ⟨?_, ?_, ?_, ?_, Or.inl hclosing, h.live, h.below, h.destroyed⟩
  · intro x hx p hp
    rcases List.mem_or_eq_of_mem_set hx with hx | rfl
    · exact h.inside x hx p hp
    · cases hp
  · intro x hx d hd
    rcases List.mem_or_eq_of_mem_set hx with hx | rfl
    · exact h.closes x hx d hd
    · cases hd
  · intro d hd
    have hdc : d = c := Option.some.inj (hd.symm.trans hme)
    have hcounter := h.counter c hme
    change Function.update s.counter c (s.counter c + 1) d =
      ((s.users.set u .entering).countP User.holds : Nat)
    rw [hdc, Function.update_self]
    omega
  · intro hnil
    exact absurd (hme.symm.trans hnil) (Option.some_ne_none c)

/-- One out, whether it is the last or not. -/
theorem counted_leave (h : Counted s) {u c : Nat} {y : User}
    (hu : s.users[u]? = some (.inside (some c))) (hy : y.holds = false)
    (hinside : ∀ p, y ≠ .inside p) (quit : Nat → Bool)
    (hclose : y.closes = none ∨ y.closes = some c ∧ s.counter c - 1 = 0) :
    Counted { s.goto u y with
      counter := Function.update s.counter c (s.counter c - 1)
      quit := quit } := by
  have hme : s.me = some c := (h.inside _ (List.mem_of_getElem? hu) _ rfl).symm
  have hholds : (s.users.set u y).countP User.holds + 1 = s.users.countP User.holds := by
    have hset := countP_goto User.holds hu y
    rw [hy] at hset
    exact hset
  have hbefore := h.closing_of_holds hu rfl
  have hclosing := countP_goto User.closing hu y
  rw [hbefore] at hclosing
  have hcounter := h.counter c hme
  refine ⟨?_, ?_, ?_, ?_, ?_, h.live, h.below, h.destroyed⟩
  · intro x hx p hp
    rcases List.mem_or_eq_of_mem_set hx with hx | rfl
    · exact h.inside x hx p hp
    · exact absurd hp (hinside p)
  · intro x hx d hd
    rcases List.mem_or_eq_of_mem_set hx with hx | rfl
    · exact h.closes x hx d hd
    · rcases hclose with hno | ⟨hyes, -⟩
      · rw [hno] at hd
        cases hd
      · rw [← hd, hyes]
        exact hme
  · intro d hd
    have hdc : d = c := Option.some.inj (hd.symm.trans hme)
    change Function.update s.counter c (s.counter c - 1) d =
      ((s.users.set u y).countP User.holds : Nat)
    rw [hdc, Function.update_self]
    omega
  · intro hnil
    exact absurd (hme.symm.trans hnil) (Option.some_ne_none c)
  · change (s.users.set u y).countP User.closing = 0 ∨
      (s.users.set u y).countP User.closing = 1 ∧ (s.users.set u y).countP User.holds = 0
    rcases hclose with hno | ⟨hyes, hlast⟩
    · left
      have hfalse : y.closing = false := congrArg Option.isSome hno
      rw [hfalse] at hclosing
      exact hclosing
    · right
      have htrue : y.closing = true := congrArg Option.isSome hyes
      rw [htrue] at hclosing
      exact ⟨hclosing, by omega⟩

/-- The last one out is gone, and so is the context. -/
theorem counted_resume (h : Counted s) {u d : Nat} (hu : s.users[u]? = some (.woken d)) :
    Counted (resume s u d) := by
  have hme : s.me = some d := h.closes _ (List.mem_of_getElem? hu) d rfl
  have hone : s.users.countP User.closing = 1 ∧ s.users.countP User.holds = 0 := by
    rcases h.last with hzero | hone
    · exact absurd rfl (List.countP_eq_zero.mp hzero _ (List.mem_of_getElem? hu))
    · exact hone
  have hholds : (s.users.set u .out).countP User.holds = 0 :=
    (countP_goto User.holds hu .out).trans hone.2
  have hclosing : (s.users.set u .out).countP User.closing = 0 := by
    have hset := countP_goto User.closing hu .out
    rw [hone.1] at hset
    exact Nat.succ.inj hset
  refine ⟨?_, ?_, ?_, fun _ => hholds, Or.inl hclosing, ?_, ?_, ?_⟩
  · intro x hx p hp
    exact absurd (by rw [hp]; rfl) (List.countP_eq_zero.mp hholds x hx)
  · intro x hx c hc
    exact absurd (congrArg Option.isSome hc) (List.countP_eq_zero.mp hclosing x hx)
  · intro c hc
    exact absurd hc (Option.some_ne_none c).symm
  · intro c
    unfold resume
    rw [hme]
    change Function.update s.live d false c = true ↔ none = some c
    refine iff_of_false ?_ (Option.some_ne_none c).symm
    by_cases hc : c = d
    · rw [hc, Function.update_self]
      exact Bool.false_ne_true
    · rw [Function.update_of_ne hc]
      exact fun hlive => hc (Option.some.inj (((h.live c).mp hlive).symm.trans hme))
  · intro c hc
    exact absurd hc (Option.some_ne_none c).symm
  · intro c
    change Function.update s.destroyed d (s.destroyed d + 1) c =
      if c < s.created ∧ none ≠ some c then 1 else 0
    have hgone : none ≠ some c := (Option.some_ne_none c).symm
    by_cases hc : c = d
    · subst hc
      rw [Function.update_self, h.destroyed c, if_neg fun hd => hd.2 hme,
        if_pos ⟨h.below c hme, hgone⟩]
    · have hne : s.me ≠ some c := fun heq => hc (Option.some.inj (heq.symm.trans hme))
      rw [Function.update_of_ne hc, h.destroyed c]
      exact if_congr (and_congr_right fun _ => iff_of_true hne hgone) rfl rfl

/-- An undisturbed step keeps the count. -/
theorem counted_step (h : Counted s) (hg : Undisturbed s l) (hs : step s l = some t) :
    Counted t := by
  cases step_moved hs with
  | create hu hme => exact counted_create h hu hme
  | join hu hme =>
      refine counted_join h hu hme (List.countP_eq_zero.mpr fun x hx => ?_)
      rw [hg x hx]
      exact Bool.false_ne_true
  | ret hu => exact h.goto hu rfl rfl fun p hp => (User.inside.inj hp).symm
  | leave hu hmore =>
      exact counted_leave h hu rfl (fun p hp => by cases hp) _ (Or.inl rfl)
  | close hu hlast =>
      exact counted_leave h hu rfl (fun p hp => by cases hp) _ (Or.inr ⟨rfl, hlast⟩)
  | stay => exact h
  | answer =>
      exact ⟨h.inside, h.closes, h.counter, h.absent, h.last, h.live, h.below, h.destroyed⟩
  | @signal c u d hu =>
      have hgoto : Counted (s.goto u (.woken d)) := h.goto hu rfl rfl fun p hp => by cases hp
      exact ⟨hgoto.inside, hgoto.closes, hgoto.counter, hgoto.absent, hgoto.last, hgoto.live,
        hgoto.below, hgoto.destroyed⟩
  | spurious hu => exact h.goto hu rfl rfl fun p hp => by cases hp
  | resume hu => exact counted_resume h hu

end Invariant

section Sharing

variable {s t : LocEngContexts} {l : Label}

/-- What another user does is nothing to this one. -/
theorem users_goto_ne {u w : Nat} {x z : User} (hu : s.users[u]? = some x)
    (hw : s.users[w]? = some z) (hne : x ≠ z) (y : User) : (s.goto w y).users[u]? = some x := by
  have huw : w ≠ u := by
    rintro rfl
    exact hne (Option.some.inj (hu.symm.trans hw))
  exact (List.getElem?_set_ne huw).trans hu

theorem users_goto_self {u : Nat} {x : User} (hu : s.users[u]? = some x) (y : User) :
    (s.goto u y).users[u]? = some y := by
  rcases List.getElem?_eq_some_iff.mp hu with ⟨hlt, -⟩
  exact List.getElem?_set_self hlt

/-- Once the last one out is woken, the next one in loses its context. -/
theorem lost {u w c : Nat} (hu : s.users[u]? = some .entering)
    (hw : s.users[w]? = some (.woken c)) :
    Run.Reaches step Undisturbed (fun t => ¬ Sound t) s := by
  have hresume : step s (.resume w) = some (resume s w c) := by
    simp only [step, hw]
  refine Run.Reaches.of_step hresume trivial (Run.Reaches.here fun hsound => ?_)
  have hstill := users_goto_ne hu hw (fun heq => by cases heq) .out
  rcases hsound .entering (List.mem_of_getElem? hstill) rfl with ⟨d, hme, -⟩
  exact Option.some_ne_none d hme.symm

theorem lost_of_closing {u w : Nat} {x : User} (hu : s.users[u]? = some .entering)
    (hw : s.users[w]? = some x) (hx : x.closing = true) :
    Run.Reaches step Undisturbed (fun t => ¬ Sound t) s := by
  cases x with
  | waiting d =>
      -- The wait ends by itself.
      have hspurious : step s (.spurious w) = some (s.goto w (.woken d)) := by
        simp only [step, hw]
      exact Run.Reaches.of_step hspurious trivial
        (lost (users_goto_ne hu hw (fun heq => by cases heq) _) (users_goto_self hw _))
  | woken d => exact lost hu hw
  | _ => exact absurd hx Bool.false_ne_true

/-- After a `get` while somebody closes, others can take the context away. -/
theorem disturbed (h : Counted s) (hs : step s l = some t) (hg : ¬ Undisturbed s l) :
    Run.Reaches step Undisturbed (fun t => ¬ Sound t) t := by
  cases l with
  | get u =>
      simp only [Undisturbed, not_forall, Bool.not_eq_false] at hg
      rcases hg with ⟨x, hx, hclosing⟩
      rcases Option.isSome_iff_exists.mp hclosing with ⟨c, hc⟩
      rcases List.getElem?_of_mem hx with ⟨w, hw⟩
      cases step_moved hs with
      | create hu hme =>
          exact absurd (hme.symm.trans (h.closes x hx c hc)) (Option.some_ne_none c).symm
      | join hu hme =>
          have hne : x ≠ .out := by
            rintro rfl
            exact Bool.false_ne_true hclosing
          exact lost_of_closing (users_goto_self hu .entering) (users_goto_ne hw hu hne .entering)
            hclosing
  | _ => exact absurd trivial hg

/-- In a run that is not disturbed, whoever has a context has the one there is, the
    count is right, and all others have been destroyed once. A step keeps it so for
    all that may follow exactly if it is no `get` while somebody closes. -/
theorem contexts_shared (n : Nat) {ls : List Label}
    (hg : Run.Guarded step Undisturbed (init n) ls) (h : Run.exec step (init n) ls = some s) :
    Sound s ∧ (∀ c, s.me = some c → s.counter c = s.users.countP User.holds) ∧
      (∀ c < s.created, s.destroyed c = if s.me = some c then 0 else 1) ∧
      ∀ l t, step s l = some t → (Undisturbed s l ↔
        ∀ ls, Run.Guarded step Undisturbed t ls → Run.Throughout step Sound t ls) := by
  have hinv : Counted s := Run.exec_invariant_of_guarded Counted Undisturbed
    (fun _ _ _ hc hg hs => counted_step hc hg hs) (counted_init n) hg h
  refine ⟨hinv.sound, hinv.counter, fun c hc => ?_, fun l t hs => ?_⟩
  · rw [hinv.destroyed c]
    by_cases hme : s.me = some c
    · rw [if_pos hme, if_neg fun hgone => hgone.2 hme]
    · rw [if_neg hme, if_pos ⟨hc, hme⟩]
  · exact Run.guard_iff_safe Counted (fun _ hc => hc.sound)
      (fun _ _ _ hc hg hs => counted_step hc hg hs) (fun _ _ _ hc hs hg => disturbed hc hs hg)
      (counted_init n) hg h hs

end Sharing

/-- Two users share a context, and another is created when both are out. -/
def oneAfterAnother : List Label :=
  [.get 0, .get 1, .ret 1, .ret 0, .drop 1, .drop 0, .signal 0 (some 0), .resume 0, .get 1, .ret 1]

theorem contexts_shared_oneAfterAnother : ∃ s, Run.exec step (init 2) oneAfterAnother = some s ∧
    s.created = 2 ∧ Sound s ∧
    (∀ c < s.created, s.destroyed c = if s.me = some c then 0 else 1) ∧
    ∀ l t, step s l = some t → (Undisturbed s l ↔
      ∀ ls, Run.Guarded step Undisturbed t ls → Run.Throughout step Sound t ls) := by
  rcases Option.isSome_iff_exists.mp (by decide :
    (Run.exec step (init 2) oneAfterAnother).isSome = true) with ⟨s, hs⟩
  have hcreated : (Run.exec step (init 2) oneAfterAnother).map LocEngContexts.created = some 2 := by
    decide
  rw [hs, Option.map_some, Option.some.injEq] at hcreated
  rcases contexts_shared 2 (by decide) hs with ⟨hsound, -, hdestroyed, hexact⟩
  exact ⟨s, hs, hcreated, hsound, hdestroyed, hexact⟩

end Contexts

end Eng

end Taoshan
