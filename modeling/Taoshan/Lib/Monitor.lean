import Mathlib.Data.List.Basic
import Mathlib.Tactic.Common
import Taoshan.Lib.Run

/-!
# Monitors of a Log

A log is judged event by event. The monitor keeps a state that each event
updates, and says of each event whether it is in order in the state the events
before it have led to.

A log that grows at its end is judged by what is appended (`accepts_append`),
which is how an invariant of a system with a log is preserved by a step. What
the judgement means for the whole log is said without the monitor's recursion
by `accepts_iff`: every event was in order after the events in front of it.

If every step of a system takes the monitor from what one state shows to what
the next one shows, so does every run (`leads_collect`).

An event that settles what has come up since the last of its kind is judged by
the end of the log behind that one (`sinceLast`).

## Main definitions

* `Monitor`: How events update the state, and which are in order.
* `Monitor.after`: The state after a log.
* `Monitor.Accepts`: Every event was in order.
* `Monitor.Leads`: A log that is in order, with the state it leads to.
* `InOrder`: Every event stands in a relation to those in front of it.
* `sinceLast`: What came after the last event of a kind.

## Theorems

* `after_append`, `accepts_append`: A log that grows.
* `accepts_iff`: What it means to be accepted.
* `after_of_quiet`, `accepts_of_quiet`: Events a monitor does not watch.
* `leads_append`, `leads_collect`: What leads from state to state, by pieces
  and over a run.
* `inOrder_append`, `inOrder_concat`: A log that grows, by many and by one.
* `sinceLast_append`, `sinceLast_concat`: A log that grows without such an
  event, and by one.
-/

namespace Taoshan

/-- A deterministic monitor of events. -/
structure Monitor (σ ε : Type*) where
  next : σ → ε → σ
  ok : σ → ε → Prop

namespace Monitor

variable {σ ε : Type*} (M : Monitor σ ε)

/-- The state after a log. -/
def after (s : σ) (log : List ε) : σ := log.foldl M.next s

/-- Every event of the log was in order when it happened. -/
def Accepts : σ → List ε → Prop
  | _, [] => True
  | s, e :: es => M.ok s e ∧ Accepts (M.next s e) es

@[simp] theorem after_nil (s : σ) : M.after s [] = s := rfl

@[simp] theorem after_cons (s : σ) (e : ε) (es : List ε) :
    M.after s (e :: es) = M.after (M.next s e) es := rfl

theorem accepts_cons (s : σ) (e : ε) (es : List ε) :
    M.Accepts s (e :: es) ↔ M.ok s e ∧ M.Accepts (M.next s e) es := Iff.rfl

theorem after_append (s : σ) (xs ys : List ε) :
    M.after s (xs ++ ys) = M.after (M.after s xs) ys := List.foldl_append

/-- A log is accepted if its beginning is, and what follows is from there. -/
theorem accepts_append (s : σ) (xs ys : List ε) :
    M.Accepts s (xs ++ ys) ↔ M.Accepts s xs ∧ M.Accepts (M.after s xs) ys := by
  induction xs generalizing s with
  | nil => exact ⟨fun h => ⟨trivial, h⟩, fun h => h.2⟩
  | cons x xs ih =>
      rw [List.cons_append, after_cons, accepts_cons, accepts_cons, ih, and_assoc]

/-- A log is accepted if every event is in order after those in front of it. -/
theorem accepts_iff {s : σ} {log : List ε} :
    M.Accepts s log ↔ ∀ pre e post, log = pre ++ e :: post → M.ok (M.after s pre) e := by
  induction log generalizing s with
  | nil =>
      refine ⟨fun _ pre e post h => ?_, fun _ => trivial⟩
      exact absurd h.symm (List.append_ne_nil_of_right_ne_nil _ (List.cons_ne_nil _ _))
  | cons x xs ih =>
      constructor
      · rintro ⟨hx, hxs⟩ pre e post h
        cases pre with
        | nil =>
            rw [List.nil_append, List.cons.injEq] at h
            rw [← h.1]
            exact hx
        | cons y ys =>
            rw [List.cons_append, List.cons.injEq] at h
            rw [after_cons, ← h.1]
            exact ih.mp hxs ys e post h.2
      · intro h
        refine ⟨h [] x xs rfl, ih.mpr (fun pre e post he => ?_)⟩
        exact h (x :: pre) e post (by rw [he, List.cons_append])

/-- Events that the monitor does not watch leave its state alone. -/
theorem after_of_quiet {s : σ} {log : List ε} (h : ∀ e ∈ log, M.next s e = s) :
    M.after s log = s := by
  induction log with
  | nil => rfl
  | cons x xs ih =>
      rw [after_cons, h x List.mem_cons_self]
      exact ih (fun e he => h e (List.mem_cons_of_mem _ he))

/-- And they are in order if each is. -/
theorem accepts_of_quiet {s : σ} {log : List ε} (h : ∀ e ∈ log, M.next s e = s)
    (hok : ∀ e ∈ log, M.ok s e) : M.Accepts s log := by
  induction log with
  | nil => exact trivial
  | cons x xs ih =>
      refine ⟨hok x List.mem_cons_self, ?_⟩
      rw [h x List.mem_cons_self]
      exact ih (fun e he => h e (List.mem_cons_of_mem _ he))
        (fun e he => hok e (List.mem_cons_of_mem _ he))

/-- The log is in order and leads from the one state to the other. -/
def Leads (s : σ) (log : List ε) (t : σ) : Prop := M.Accepts s log ∧ M.after s log = t

variable {M}

theorem leads_nil (s : σ) : M.Leads s [] s := ⟨trivial, rfl⟩

theorem leads_cons {s t : σ} {e : ε} {es : List ε} (he : M.ok s e)
    (h : M.Leads (M.next s e) es t) : M.Leads s (e :: es) t := ⟨⟨he, h.1⟩, h.2⟩

theorem leads_append {s t u : σ} {xs ys : List ε} (hx : M.Leads s xs t) (hy : M.Leads t ys u) :
    M.Leads s (xs ++ ys) u := by
  rcases hx with ⟨hacc, rfl⟩
  refine ⟨(M.accepts_append s xs ys).mpr ⟨hacc, hy.1⟩, ?_⟩
  rw [after_append]
  exact hy.2

/-- A run whose steps lead from what a state shows to what the next one shows
    leads from what the first state shows to what the last one shows. -/
theorem leads_collect {τ α : Type*} {step : τ → α → Option τ} {out : τ → α → List ε}
    (view : τ → σ) (Inv : τ → Prop) (A : α → Prop)
    (hinv : ∀ s a t, A a → Inv s → step s a = some t → Inv t)
    (hstep : ∀ s a t, A a → Inv s → step s a = some t → M.Leads (view s) (out s a) (view t))
    {s t : τ} {as : List α} (hs : Inv s) (hA : ∀ a ∈ as, A a)
    (h : Run.exec step s as = some t) :
    M.Leads (view s) (Run.collect step out s as) (view t) := by
  induction as generalizing s with
  | nil =>
      rw [Run.exec_nil, Option.some.injEq] at h
      rw [h, Run.collect]
      exact leads_nil _
  | cons a as ih =>
      rcases Run.exec_cons_inv h with ⟨u, hu, hrest⟩
      have ha := hA a List.mem_cons_self
      rw [Run.collect_cons_of_step as hu]
      exact leads_append (hstep s a u ha hs hu)
        (ih (hinv s a u ha hs hu) (fun b hb => hA b (List.mem_cons_of_mem _ hb)) hrest)

end Monitor

section InOrder

variable {ε : Type*} {Q : List ε → ε → Prop}

/-- Every event of the log stands in this relation to the log in front of it. -/
def InOrder (Q : List ε → ε → Prop) (log : List ε) : Prop :=
  ∀ pre e post, log = pre ++ e :: post → Q pre e

theorem inOrder_nil : InOrder Q [] :=
  fun _ _ _ h => absurd h.symm (List.append_ne_nil_of_right_ne_nil _ (List.cons_ne_nil _ _))

/-- A log that grows is judged by what is new, after what was there. -/
theorem inOrder_append {xs ys : List ε} (hxs : InOrder Q xs)
    (hys : InOrder (fun pre e => Q (xs ++ pre) e) ys) : InOrder Q (xs ++ ys) := by
  intro pre e post h
  rcases List.append_eq_append_iff.mp h with ⟨as, hpre, hnew⟩ | ⟨bs, hold, hpost⟩
  · rw [hpre]
    exact hys as e post hnew
  · cases bs with
    | nil =>
        -- The event is the first of the new ones.
        rw [List.append_nil] at hold
        rw [← hold, ← List.append_nil xs]
        exact hys [] e post hpost.symm
    | cons b bs =>
        rw [List.cons_append, List.cons.injEq] at hpost
        rw [← hpost.1] at hold
        exact hxs pre e bs hold

theorem inOrder_concat {xs : List ε} {e : ε} (hxs : InOrder Q xs) (he : Q xs e) :
    InOrder Q (xs ++ [e]) := by
  refine inOrder_append hxs (fun pre x post h => ?_)
  rcases List.append_eq_singleton_iff.mp h.symm with ⟨hpre, hx⟩ | ⟨_, hx⟩
  · rw [List.cons.injEq] at hx
    rw [hpre, hx.1, List.append_nil]
    exact he
  · exact absurd hx (List.cons_ne_nil _ _)

/-- Events that need nothing in front of them are in order anywhere. -/
theorem inOrder_append_of_free {xs ys : List ε} (hxs : InOrder Q xs)
    (hys : ∀ e ∈ ys, ∀ pre, Q pre e) : InOrder Q (xs ++ ys) := by
  refine inOrder_append hxs (fun pre e post h => ?_)
  refine hys e ?_ _
  rw [h]
  exact List.mem_append_right _ List.mem_cons_self

end InOrder

section SinceLast

variable {ε : Type*} (last : ε → Bool)

/-- What the log holds after the last event of the kind, or all of it if there
    is none. -/
def sinceLast (log : List ε) : List ε := (log.reverse.takeWhile fun e => !last e).reverse

variable {last}

/-- Events of other kinds are added to it. -/
theorem sinceLast_append (log : List ε) {xs : List ε} (h : ∀ e ∈ xs, last e = false) :
    sinceLast last (log ++ xs) = sinceLast last log ++ xs := by
  have hall : ∀ e ∈ xs.reverse, (!last e) = true := by
    intro e he
    rw [h e (List.mem_reverse.mp he)]
    rfl
  unfold sinceLast
  rw [List.reverse_append, List.takeWhile_append_of_pos hall, List.reverse_append,
    List.reverse_reverse]

/-- An event of the kind leaves nothing. -/
theorem sinceLast_concat (log : List ε) {e : ε} (h : last e = true) :
    sinceLast last (log ++ [e]) = [] := by
  unfold sinceLast
  rw [List.reverse_append, List.reverse_singleton, List.singleton_append,
    List.takeWhile_cons_of_neg (by rw [h]; decide), List.reverse_nil]

end SinceLast

end Taoshan
