import Mathlib.Data.List.Infix
import Mathlib.Tactic.Common

/-!
# Runs of a Labelled Step Function

Executions of a system whose step is a function of the state and a label.

Every scheduling choice, every argument and every answer of the environment
is put into the label, so a step has one successor or none. `none` means the
label cannot be taken in that state. A run is then a list of labels, and
quantifying over all lists is quantifying over all interleavings.

Three things are asked of a run. An invariant is preserved by each step and so
holds at the end (`exec_invariant`). A guarded run is one in which a condition
on the state before each step was met (`Guarded`), and an invariant that only
guarded steps preserve still holds at its end. `Throughout` speaks of every
state on the way, and `throughout_iff_guarded` is the case where the guard is
not merely enough but exact: the property survives a step precisely when the
step was guarded. A step that breaks the guard may also do its harm later, at the end of
a guarded run (`Reaches`); then the guard is exact for all that follows a step
(`guard_iff_safe`).

## Main definitions

* `exec`: Running a list of labels.
* `Guarded`: A condition met before every step taken.
* `Throughout`: A property of every state visited.
* `Reaches`: A guarded run to a state with a property.
* `collect`: What the steps of a run put out.

## Theorems

* `exec_append`, `exec_append_inv`: Splitting a run at an intermediate state.
* `exec_invariant`: An invariant of the step is an invariant of the run.
* `exec_invariant_of_guarded`: The same for guarded runs.
* `throughout_invariant`: It holds of every state visited.
* `throughout_iff_prefix`: Visited states are the ends of prefixes.
* `throughout_of_guarded`: A guarded run keeps what its invariant implies.
* `guarded_of_invariant`, `guarded_iff`: Conditions that imply one another, and
  conditions that are the same for the steps that can be taken.
* `guarded_of_forall`: A condition on the labels.
* `guarded_append`: The rest of a guarded run is guarded.
* `forall_collect_iff`, `exec_collect`: What a run puts out, step by step.
* `collect_append`, `map_collect`, `filter_collect`, `collect_labels`: What is put out,
  in two parts, changed, thinned out, and read off the labels.
* `exec_collected`, `exec_history`: An invariant of what was put out so far and
  the state, and one of the labels taken and the state.
* `countP_le_measure`: Steps that use up a measure.
* `throughout_iff_guarded`, `throughout_iff_guarded_on`: When the guard is exact,
  so is the run, over all labels or over those of a kind.
* `guard_iff_safe`: A guard without which a guarded run goes wrong later.
-/

namespace Taoshan

namespace Run

variable {σ α : Type*} (step : σ → α → Option σ)

/-- Run a list of labels, or `none` if one of them cannot be taken. -/
def exec : σ → List α → Option σ
  | s, [] => some s
  | s, a :: as => match step s a with
    | none => none
    | some t => exec t as

/-- The condition `G` was met before every step that was taken. -/
def Guarded (G : σ → α → Prop) : σ → List α → Prop
  | _, [] => True
  | s, a :: as => ∀ t, step s a = some t → G s a ∧ Guarded G t as

/-- The property `P` holds of every state visited, both ends included. -/
def Throughout (P : σ → Prop) : σ → List α → Prop
  | s, [] => P s
  | s, a :: as => P s ∧ ∀ t, step s a = some t → Throughout P t as

/-- A guarded run from here ends in a state with the property. -/
def Reaches (G : σ → α → Prop) (P : σ → Prop) (s : σ) : Prop :=
  ∃ as t, Guarded step G s as ∧ exec step s as = some t ∧ P t

/-- What the steps of a run put out, one after the other. -/
def collect {β : Type*} (out : σ → α → List β) : σ → List α → List β
  | _, [] => []
  | s, a :: as => match step s a with
    | none => []
    | some t => out s a ++ collect out t as

variable {step}

@[simp] theorem exec_nil (s : σ) : exec step s [] = some s := rfl

theorem exec_cons_of_step {s t : σ} {a : α} (as : List α) (h : step s a = some t) :
    exec step s (a :: as) = exec step t as := by
  simp only [exec, h]

/-- A completed run of a nonempty list took its first step and completed the
    rest from there. -/
theorem exec_cons_inv {s u : σ} {a : α} {as : List α} (h : exec step s (a :: as) = some u) :
    ∃ t, step s a = some t ∧ exec step t as = some u := by
  cases hstep : step s a with
  | none =>
      simp only [exec, hstep, reduceCtorEq] at h
  | some t =>
      simp only [exec, hstep] at h
      exact ⟨t, rfl, h⟩

theorem exec_append {s t : σ} {as : List α} (bs : List α) (h : exec step s as = some t) :
    exec step s (as ++ bs) = exec step t bs := by
  induction as generalizing s with
  | nil =>
      simp only [exec, Option.some.injEq] at h
      rw [h, List.nil_append]
  | cons a as ih =>
      rcases exec_cons_inv h with ⟨u, hu, hrest⟩
      rw [List.cons_append, exec_cons_of_step _ hu]
      exact ih hrest

/-- A run of two parts completed the first and then the second. -/
theorem exec_append_inv {s u : σ} {as bs : List α} (h : exec step s (as ++ bs) = some u) :
    ∃ t, exec step s as = some t ∧ exec step t bs = some u := by
  induction as generalizing s with
  | nil => exact ⟨s, rfl, h⟩
  | cons a as ih =>
      rcases exec_cons_inv h with ⟨v, hv, hrest⟩
      rw [exec_cons_of_step _ hv]
      exact ih hrest

/-- What each step preserves, the run preserves. -/
theorem exec_invariant (Inv : σ → Prop)
    (hstep : ∀ s a t, Inv s → step s a = some t → Inv t)
    {s t : σ} {as : List α} (hs : Inv s) (h : exec step s as = some t) : Inv t := by
  induction as generalizing s with
  | nil =>
      simp only [exec, Option.some.injEq] at h
      rw [← h]
      exact hs
  | cons a as ih =>
      rcases exec_cons_inv h with ⟨u, hu, hrest⟩
      exact ih (hstep s a u hs hu) hrest

/-- What each guarded step preserves, a guarded run preserves. -/
theorem exec_invariant_of_guarded (Inv : σ → Prop) (G : σ → α → Prop)
    (hstep : ∀ s a t, Inv s → G s a → step s a = some t → Inv t)
    {s t : σ} {as : List α} (hs : Inv s) (hg : Guarded step G s as)
    (h : exec step s as = some t) : Inv t := by
  induction as generalizing s with
  | nil =>
      simp only [exec, Option.some.injEq] at h
      rw [← h]
      exact hs
  | cons a as ih =>
      -- The first step was guarded, and the rest of the run is from where it led.
      rcases exec_cons_inv h with ⟨u, hu, hrest⟩
      rcases hg u hu with ⟨hga, hgrest⟩
      exact ih (hstep s a u hs hga hu) hgrest hrest

/-- What each step preserves holds of every state visited. -/
theorem throughout_invariant (Inv : σ → Prop) {P : σ → Prop} (himp : ∀ s, Inv s → P s)
    (hstep : ∀ s a t, Inv s → step s a = some t → Inv t) {s : σ} (as : List α) (hs : Inv s) :
    Throughout step P s as := by
  induction as generalizing s with
  | nil => exact himp s hs
  | cons a as ih => exact ⟨himp s hs, fun t ht => ih (hstep s a t hs ht)⟩

/-- The states visited are the ends of the prefixes of the run. -/
theorem throughout_iff_prefix {P : σ → Prop} {s : σ} {as : List α} :
    Throughout step P s as ↔
      ∀ bs t, bs <+: as → exec step s bs = some t → P t := by
  induction as generalizing s with
  | nil =>
      constructor
      · intro h bs t hpre ht
        rw [List.prefix_nil] at hpre
        rw [hpre, exec_nil, Option.some.injEq] at ht
        rw [← ht]
        exact h
      · intro h
        exact h [] s (List.prefix_refl _) rfl
  | cons a as ih =>
      constructor
      · intro h bs t hpre ht
        cases bs with
        | nil =>
            rw [exec_nil, Option.some.injEq] at ht
            rw [← ht]
            exact h.1
        | cons b bs =>
            rcases List.cons_prefix_cons.mp hpre with ⟨rfl, hpre'⟩
            rcases exec_cons_inv ht with ⟨u, hu, hrest⟩
            exact ih.mp (h.2 u hu) bs t hpre' hrest
      · intro h
        refine ⟨h [] s (List.nil_prefix) rfl, fun u hu => ih.mpr (fun bs t hpre ht => ?_)⟩
        exact h (a :: bs) t (List.cons_prefix_cons.mpr ⟨rfl, hpre⟩)
          (by rw [exec_cons_of_step _ hu]; exact ht)

/-- A guarded run keeps, at every state it visits, whatever the invariant of
    guarded steps implies. -/
theorem throughout_of_guarded (Inv : σ → Prop) {P : σ → Prop} {G : σ → α → Prop}
    (himp : ∀ s, Inv s → P s)
    (hstep : ∀ s a t, Inv s → G s a → step s a = some t → Inv t)
    {s : σ} {as : List α} (hs : Inv s) (hg : Guarded step G s as) :
    Throughout step P s as := by
  induction as generalizing s with
  | nil => exact himp s hs
  | cons a as ih =>
      refine ⟨himp s hs, fun t ht => ?_⟩
      rcases hg t ht with ⟨hga, hgrest⟩
      exact ih (hstep s a t hs hga ht) hgrest

/-- Of a step out of a state in which the invariant holds, one condition may
    imply another; then a run that is guarded by the one is by the other. -/
theorem guarded_of_invariant (Inv : σ → Prop) {G H : σ → α → Prop}
    (hstep : ∀ s a t, Inv s → G s a → step s a = some t → Inv t)
    (himp : ∀ s a t, Inv s → step s a = some t → G s a → H s a)
    {s : σ} {as : List α} (hs : Inv s) (hg : Guarded step G s as) : Guarded step H s as := by
  induction as generalizing s with
  | nil => exact trivial
  | cons a as ih =>
      intro t ht
      rcases hg t ht with ⟨hga, hrest⟩
      exact ⟨himp s a t hs ht hga, ih (hstep s a t hs hga ht) hrest⟩

/-- Two conditions that agree on every step that can be taken. -/
theorem guarded_iff (Inv : σ → Prop) {G H : σ → α → Prop}
    (hstep : ∀ s a t, Inv s → step s a = some t → Inv t)
    (hiff : ∀ s a t, Inv s → step s a = some t → (G s a ↔ H s a))
    {s : σ} {as : List α} (hs : Inv s) : Guarded step G s as ↔ Guarded step H s as := by
  induction as generalizing s with
  | nil => exact Iff.rfl
  | cons a as ih =>
      constructor
      · intro hg t ht
        rcases hg t ht with ⟨hga, hrest⟩
        exact ⟨(hiff s a t hs ht).mp hga, (ih (hstep s a t hs ht)).mp hrest⟩
      · intro hg t ht
        rcases hg t ht with ⟨hga, hrest⟩
        exact ⟨(hiff s a t hs ht).mpr hga, (ih (hstep s a t hs ht)).mpr hrest⟩

/-- A condition on the labels alone is met where all labels of the run meet it. -/
theorem guarded_of_forall {A : α → Prop} {as : List α} (hA : ∀ a ∈ as, A a) (s : σ) :
    Guarded step (fun _ a => A a) s as := by
  induction as generalizing s with
  | nil => exact trivial
  | cons a as ih =>
      rcases List.forall_mem_cons.mp hA with ⟨ha, hrest⟩
      exact fun t _ => ⟨ha, ih hrest t⟩

/-- The rest of a guarded run is guarded from where its beginning has led. -/
theorem guarded_append {G : σ → α → Prop} {s t : σ} {as bs : List α}
    (hg : Guarded step G s (as ++ bs)) (h : exec step s as = some t) : Guarded step G t bs := by
  induction as generalizing s with
  | nil =>
      rw [exec_nil, Option.some.injEq] at h
      rw [← h]
      exact hg
  | cons a as ih =>
      rcases exec_cons_inv h with ⟨u, hu, hrest⟩
      exact ih (hg u hu).2 hrest

section Collect

variable {β : Type*} {out : σ → α → List β}

theorem collect_cons_of_step {s t : σ} {a : α} (as : List α) (h : step s a = some t) :
    collect step out s (a :: as) = out s a ++ collect step out t as := by
  simp only [collect, h]

theorem collect_append {s t : σ} {as : List α} (bs : List α) (h : exec step s as = some t) :
    collect step out s (as ++ bs) = collect step out s as ++ collect step out t bs := by
  induction as generalizing s with
  | nil =>
      rw [exec_nil, Option.some.injEq] at h
      rw [h]
      rfl
  | cons a as ih =>
      rcases exec_cons_inv h with ⟨u, hu, hrest⟩
      rw [List.cons_append, collect_cons_of_step _ hu, collect_cons_of_step as hu, ih hrest,
        List.append_assoc]

/-- All that a run puts out is good if and only if what each step puts out is. -/
theorem forall_collect_iff (P : β → Prop) {s : σ} {as : List α} :
    (∀ x ∈ collect step out s as, P x) ↔ Guarded step (fun s a => ∀ x ∈ out s a, P x) s as := by
  induction as generalizing s with
  | nil => exact iff_of_true (List.forall_mem_nil _) trivial
  | cons a as ih =>
      cases hstep : step s a with
      | none =>
          simp only [collect, Guarded, hstep, List.not_mem_nil, false_implies, implies_true,
            reduceCtorEq]
      | some t =>
          simp only [collect_cons_of_step as hstep, List.forall_mem_append, ih, Guarded, hstep,
            Option.some.injEq, forall_eq']

theorem map_collect {γ : Type*} (f : β → γ) (s : σ) (as : List α) :
    (collect step out s as).map f = collect step (fun s a => (out s a).map f) s as := by
  induction as generalizing s with
  | nil => rfl
  | cons a as ih =>
      cases hstep : step s a with
      | none => simp only [collect, hstep, List.map_nil]
      | some t =>
          rw [collect_cons_of_step as hstep, collect_cons_of_step as hstep, List.map_append, ih]

/-- Leaving out what is put out, all at once or step by step. -/
theorem filter_collect (p : β → Bool) (s : σ) (as : List α) :
    (collect step out s as).filter p = collect step (fun s a => (out s a).filter p) s as := by
  induction as generalizing s with
  | nil => rfl
  | cons a as ih =>
      cases hstep : step s a with
      | none => simp only [collect, hstep, List.filter_nil]
      | some t =>
          rw [collect_cons_of_step as hstep, collect_cons_of_step as hstep, List.filter_append, ih]

/-- What is read off the labels needs no states. -/
theorem collect_labels (f : α → List β) {s t : σ} {as : List α} (h : exec step s as = some t) :
    collect step (fun _ a => f a) s as = as.flatMap f := by
  induction as generalizing s with
  | nil => rfl
  | cons a as ih =>
      rcases exec_cons_inv h with ⟨u, hu, hrest⟩
      rw [collect_cons_of_step as hu, ih hrest, List.flatMap_cons]

/-- A log that grows by what is put out has grown by all of it. -/
theorem exec_collect (view : σ → List β)
    (hview : ∀ s a t, step s a = some t → view t = view s ++ out s a)
    {s t : σ} {as : List α} (h : exec step s as = some t) :
    view t = view s ++ collect step out s as := by
  induction as generalizing s with
  | nil =>
      rw [exec_nil, Option.some.injEq] at h
      rw [h, collect, List.append_nil]
  | cons a as ih =>
      rcases exec_cons_inv h with ⟨u, hu, hrest⟩
      rw [collect_cons_of_step as hu, ih hrest, hview s a u hu, List.append_assoc]

/-- What each step preserves, the run preserves, where it speaks of what was put
    out so far. -/
theorem exec_collected (Inv : List β → σ → Prop)
    (hstep : ∀ bs s a t, Inv bs s → step s a = some t → Inv (bs ++ out s a) t)
    {s t : σ} {as : List α} (hs : Inv [] s) (h : exec step s as = some t) :
    Inv (collect step out s as) t := by
  -- What was put out before is `bs`, and nothing at the start.
  suffices hall : ∀ bs s, Inv bs s → exec step s as = some t →
      Inv (bs ++ collect step out s as) t from hall [] s hs h
  clear hs h s
  induction as with
  | nil =>
      intro bs s hs h
      rw [exec_nil, Option.some.injEq] at h
      rw [collect, List.append_nil, ← h]
      exact hs
  | cons a as ih =>
      intro bs s hs h
      rcases exec_cons_inv h with ⟨u, hu, hrest⟩
      rw [collect_cons_of_step as hu, ← List.append_assoc]
      exact ih _ u (hstep bs s a u hs hu) hrest

end Collect

/-- The same where it speaks of the labels taken. -/
theorem exec_history (Inv : List α → σ → Prop)
    (hstep : ∀ bs s a t, Inv bs s → step s a = some t → Inv (bs ++ [a]) t)
    {s t : σ} {as : List α} (hs : Inv [] s) (h : exec step s as = some t) : Inv as t := by
  have hlabels : collect step (fun _ a => [a]) s as = as :=
    (collect_labels _ h).trans (List.flatMap_singleton' as)
  rw [← hlabels]
  exact exec_collected Inv hstep hs h

/-- Steps of a kind that use up a measure which no step adds to: a run has no
    more of them than the measure says. -/
theorem countP_le_measure (Inv : σ → Prop) (f : σ → Nat) (kind : α → Bool)
    (hinv : ∀ s a t, Inv s → step s a = some t → Inv t)
    (hdec : ∀ s a t, Inv s → step s a = some t → f t + (if kind a then 1 else 0) ≤ f s)
    {s t : σ} {as : List α} (hs : Inv s) (h : exec step s as = some t) :
    f t + as.countP kind ≤ f s := by
  induction as generalizing s with
  | nil =>
      rw [exec_nil, Option.some.injEq] at h
      rw [h, List.countP_nil, Nat.add_zero]
  | cons a as ih =>
      rcases exec_cons_inv h with ⟨u, hu, hrest⟩
      have hone := hdec s a u hs hu
      have hmany := ih (hinv s a u hs hu) hrest
      rw [List.countP_cons]
      omega

/-- Whether a run is guarded can be computed. -/
instance decidableGuarded {G : σ → α → Prop} [∀ s a, Decidable (G s a)] :
    ∀ (s : σ) (as : List α), Decidable (Guarded step G s as)
  | _, [] => isTrue trivial
  | s, a :: as => match h : step s a with
    | none => isTrue (fun t ht => absurd (h.symm.trans ht) (Option.some_ne_none t).symm)
    | some t => match decidableGuarded t as with
      | isTrue hrest => if hg : G s a then
          isTrue (fun u hu => by
            rw [h, Option.some.injEq] at hu
            rw [← hu]
            exact ⟨hg, hrest⟩)
        else isFalse (fun hall => hg (hall t h).1)
      | isFalse hrest => isFalse (fun hall => hrest (hall t h).2)

/-- When a step with a label of the kind, out of a good state, keeps the property
    exactly if it was guarded, a run of such labels keeps it throughout exactly
    if every step was. -/
theorem throughout_iff_guarded_on (A : α → Prop) (Inv : σ → Prop) {P : σ → Prop}
    {G : σ → α → Prop} (himp : ∀ s, Inv s → P s)
    (hstep : ∀ s a t, A a → Inv s → G s a → step s a = some t → Inv t)
    (hexact : ∀ s a t, A a → Inv s → step s a = some t → P t → G s a)
    {s : σ} {as : List α} (hA : ∀ a ∈ as, A a) (hs : Inv s) :
    Throughout step P s as ↔ Guarded step G s as := by
  induction as generalizing s with
  | nil => exact ⟨fun _ => trivial, fun _ => himp s hs⟩
  | cons a as ih =>
      have hAa : A a := hA a List.mem_cons_self
      have hAas : ∀ b ∈ as, A b := fun b hb => hA b (List.mem_cons_of_mem _ hb)
      constructor
      · intro h t ht
        -- The state after the step is visited, so it has the property.
        have hPt : P t := by
          have hrest := h.2 t ht
          cases as with
          | nil => exact hrest
          | cons b bs => exact hrest.1
        have hga : G s a := hexact s a t hAa hs ht hPt
        exact ⟨hga, (ih hAas (hstep s a t hAa hs hga ht)).mp (h.2 t ht)⟩
      · intro hg
        refine ⟨himp s hs, fun t ht => ?_⟩
        rcases hg t ht with ⟨hga, hgrest⟩
        exact (ih hAas (hstep s a t hAa hs hga ht)).mpr hgrest

/-- When a step out of a good state keeps the property exactly if it was
    guarded, a run keeps it throughout exactly if every step was. -/
theorem throughout_iff_guarded (Inv : σ → Prop) {P : σ → Prop} {G : σ → α → Prop}
    (himp : ∀ s, Inv s → P s)
    (hstep : ∀ s a t, Inv s → G s a → step s a = some t → Inv t)
    (hexact : ∀ s a t, Inv s → step s a = some t → P t → G s a)
    {s : σ} {as : List α} (hs : Inv s) :
    Throughout step P s as ↔ Guarded step G s as :=
  throughout_iff_guarded_on (fun _ => True) Inv himp (fun s a t _ => hstep s a t)
    (fun s a t _ => hexact s a t) (fun _ _ => trivial) hs

theorem Reaches.here {G : σ → α → Prop} {P : σ → Prop} {s : σ} (h : P s) :
    Reaches step G P s := ⟨[], s, trivial, rfl, h⟩

/-- A guarded step in front of a guarded run. -/
theorem Reaches.of_step {G : σ → α → Prop} {P : σ → Prop} {s t : σ} {a : α}
    (hstep : step s a = some t) (hg : G s a) (h : Reaches step G P t) : Reaches step G P s := by
  rcases h with ⟨as, u, hguarded, hexec, hu⟩
  refine ⟨a :: as, u, fun t' ht' => ?_, ?_, hu⟩
  · rw [hstep, Option.some.injEq] at ht'
    rw [← ht']
    exact ⟨hg, hguarded⟩
  · rw [exec_cons_of_step _ hstep]
    exact hexec

/-- Suppose a step that breaks the guard can be followed by a guarded run to a
    state without the property. Then, at the end of a guarded run, a step is
    guarded exactly if all guarded runs after it keep the property. -/
theorem guard_iff_safe (Inv : σ → Prop) {P : σ → Prop} {G : σ → α → Prop}
    (himp : ∀ s, Inv s → P s)
    (hstep : ∀ s a t, Inv s → G s a → step s a = some t → Inv t)
    (hharm : ∀ s a t, Inv s → step s a = some t → ¬ G s a → Reaches step G (fun u => ¬ P u) t)
    {s₀ s t : σ} {as : List α} {a : α} (hs : Inv s₀) (hg : Guarded step G s₀ as)
    (hexec : exec step s₀ as = some s) (ha : step s a = some t) :
    G s a ↔ ∀ bs, Guarded step G t bs → Throughout step P t bs := by
  have hinv : Inv s := exec_invariant_of_guarded Inv G hstep hs hg hexec
  constructor
  · intro hga bs hbs
    exact throughout_of_guarded Inv himp hstep (hstep s a t hinv hga ha) hbs
  · intro hall
    -- The harm that an unguarded step can do would be done by a guarded run.
    by_contra hga
    rcases hharm s a t hinv ha hga with ⟨bs, u, hbs, hu, hbad⟩
    have hvisited := throughout_iff_prefix.mp (hall bs hbs)
    exact hbad (hvisited bs u (List.prefix_refl _) hu)

end Run

end Taoshan
