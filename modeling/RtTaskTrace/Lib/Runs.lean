import Mathlib.Data.List.Induction
import Mathlib.Data.Option.Basic

namespace Runs

/-!
# Runs of a labelled step function

A system is a step function `step : σ → ε → Option σ`: the label says which party moves and
which answer its environment gives, and `none` means that the label is not enabled (or that
the step never returns).  A run is a list of labels.

* `Run step s es s'` — the labels `es` lead from `s` to `s'`;
* `Run.history_induction` / `Run.invariant` — what every step preserves holds at the end of
  every run, the first with the labels taken so far in hand;
* `Run.reflects` — what every step only passes on held at the start;
* `Run.map` — a run of a component is one of the system whose steps include the component's;
  `Run.simulates` — and a run of the system is one of the component that each of its steps is a
  step of, or leaves alone;
* `Along step C s es` — every label of the run meets `C` in the state it is taken in;
  `Run.invariant_along` is the invariant rule for the runs that do, `Run.history_along` the
  one with the history, `Along.of_invariant` / `along_congr` compare conditions label by label;
* `records step f s es` — what the labels of the run record, in order, `f` saying what each
  does; `records_concat` adds the last;
* `Since step A b s es` — some label of the run meets `A`, and no later one is `b`;
  `since_concat` says what one more label makes of it;
* `after step s e n` — the state after the first `n` labels of a stream, with its own rule
  `after_induction` for runs indexed by a round number.
-/

variable {σ ε : Type*} {step : σ → ε → Option σ}

/-! ### Runs over a list of labels -/

/-- The labels `es`, taken in order from `s`, are all enabled and lead to `s'`. -/
def Run (step : σ → ε → Option σ) (s : σ) (es : List ε) (s' : σ) : Prop :=
  es.foldlM step s = some s'

instance [DecidableEq σ] (s : σ) (es : List ε) (s' : σ) : Decidable (Run step s es s') :=
  inferInstanceAs (Decidable (_ = _))

@[simp] theorem run_nil (s s' : σ) : Run step s [] s' ↔ s = s' := by
  simp [Run]

@[simp] theorem run_cons (s s' : σ) (e : ε) (es : List ε) :
    Run step s (e :: es) s' ↔ ∃ t, step s e = some t ∧ Run step t es s' := by
  simp [Run, List.foldlM_cons, Option.bind_eq_some_iff]

theorem run_append (s s' : σ) (es fs : List ε) :
    Run step s (es ++ fs) s' ↔ ∃ t, Run step s es t ∧ Run step t fs s' := by
  simp [Run, List.foldlM_append, Option.bind_eq_some_iff]

/-- The last label of a run, split off. -/
theorem run_concat (s s' : σ) (es : List ε) (e : ε) :
    Run step s (es ++ [e]) s' ↔ ∃ t, Run step s es t ∧ step t e = some s' := by
  rw [run_append]
  simp

/-- A run that goes through leads somewhere. -/
theorem run_get (s : σ) (es : List ε) (h : (es.foldlM step s).isSome) :
    Run step s es ((es.foldlM step s).get h) := (Option.some_get h).symm

/-- A run has at most one end. -/
theorem Run.unique {s s₁ s₂ : σ} {es : List ε} (h₁ : Run step s es s₁)
    (h₂ : Run step s es s₂) : s₁ = s₂ :=
  Option.some.inj (h₁.symm.trans h₂)

/-- **Induction over a run with its history.**  `P` may speak of the labels taken so far. -/
theorem Run.history_induction {P : List ε → σ → Prop} {s s' : σ} {es : List ε}
    (h : Run step s es s') (h0 : P [] s)
    (hstep : ∀ es t e t', Run step s es t → P es t → step t e = some t' → P (es ++ [e]) t') :
    P es s' := by
  induction es using List.reverseRecOn generalizing s' with
  | nil =>
    rw [run_nil] at h
    exact h ▸ h0
  | append_singleton es e ih =>
    obtain ⟨t, ht, he⟩ := (run_concat s s' es e).mp h
    exact hstep es t e s' ht (ih ht) he

/-- **The invariant rule.**  What holds at the start and is kept by every step holds at the
    end of every run. -/
theorem Run.invariant {I : σ → Prop} {s s' : σ} {es : List ε} (h : Run step s es s')
    (h0 : I s) (hstep : ∀ t e t', I t → step t e = some t' → I t') : I s' :=
  h.history_induction (P := fun _ t => I t) h0 fun _ t e t' _ => hstep t e t'

/-- **The rule for what a step cannot bring about.**  If what holds after a step held before it,
    in the states that meet an invariant, what holds at the end of a run held at its start. -/
theorem Run.reflects {I P : σ → Prop} {s s' : σ} {es : List ε} (h : Run step s es s') (h0 : I s)
    (hstep : ∀ t e t', I t → step t e = some t' → I t' ∧ (P t' → P t)) (hP : P s') : P s := by
  have hboth : I s' ∧ (P s' → P s) := by
    refine h.invariant (I := fun t => I t ∧ (P t → P s)) ⟨h0, id⟩ ?_
    rintro t e t' ⟨ht, hback⟩ he
    obtain ⟨ht', hpass⟩ := hstep t e t' ht he
    exact ⟨ht', fun hP => hback (hpass hP)⟩
  exact hboth.2 hP

/-- **A run of a component** is a run of the system, if each of its steps is. -/
theorem Run.map {τ δ : Type*} {step' : τ → δ → Option τ} {f : σ → τ} {g : ε → δ} {s s' : σ}
    {es : List ε} (h : Run step s es s')
    (hstep : ∀ t e t', step t e = some t' → step' (f t) (g e) = some (f t')) :
    Run step' (f s) (es.map g) (f s') := by
  induction es generalizing s with
  | nil =>
    rw [run_nil] at h
    exact h ▸ (run_nil _ _).mpr rfl
  | cons e es ih =>
    obtain ⟨t, ht, hrun⟩ := (run_cons s s' e es).mp h
    exact (run_cons _ _ _ _).mpr ⟨f t, hstep s e t ht, ih hrun⟩

/-- Every label of `es` meets `C` in the state it is taken in. -/
def Along (step : σ → ε → Option σ) (C : σ → ε → Prop) : σ → List ε → Prop
  | _, [] => True
  | s, e :: es => C s e ∧ ∀ t ∈ step s e, Along step C t es

instance decidableAlong {C : σ → ε → Prop} [∀ s e, Decidable (C s e)] :
    ∀ (es : List ε) (s : σ), Decidable (Along step C s es)
  | [], _ => isTrue trivial
  | e :: es, s =>
    match h : step s e with
    | none =>
      decidable_of_iff (C s e) (by simp [Along, h])
    | some t =>
      haveI := decidableAlong es t (C := C)
      decidable_of_iff (C s e ∧ Along step C t es) (by simp [Along, h])

/-- A condition on the labels alone is met along every run of labels that meet it. -/
theorem along_of_forall {C : ε → Prop} {es : List ε} (h : ∀ e ∈ es, C e) (s : σ) :
    Along step (fun _ e => C e) s es := by
  induction es generalizing s with
  | nil => trivial
  | cons e es ih =>
    refine ⟨h e List.mem_cons_self, fun t _ => ?_⟩
    exact ih (fun f hf => h f (List.mem_cons_of_mem e hf)) t

/-- Two conditions met along a run are met together. -/
theorem Along.and {C D : σ → ε → Prop} {s : σ} {es : List ε} (hC : Along step C s es)
    (hD : Along step D s es) : Along step (fun s e => C s e ∧ D s e) s es := by
  induction es generalizing s with
  | nil => trivial
  | cons e es ih =>
    refine ⟨⟨hC.1, hD.1⟩, fun t ht => ?_⟩
    exact ih (hC.2 t ht) (hD.2 t ht)

/-- **The invariant rule for well-behaved runs.**  A step need only keep `I` where it meets
    the condition `C`. -/
theorem Run.invariant_along {I : σ → Prop} {C : σ → ε → Prop} {s s' : σ} {es : List ε}
    (h : Run step s es s') (hC : Along step C s es) (h0 : I s)
    (hstep : ∀ t e t', I t → C t e → step t e = some t' → I t') : I s' := by
  induction es generalizing s with
  | nil =>
    rw [run_nil] at h
    exact h ▸ h0
  | cons e es ih =>
    obtain ⟨t, ht, hrun⟩ := (run_cons s s' e es).mp h
    exact ih hrun (hC.2 t ht) (hstep s e t h0 hC.1 ht)

/-- A condition is met along a run and one more label when it is met along the run and by that
    label at its end. -/
theorem along_concat {C : σ → ε → Prop} {s t : σ} {es : List ε} {e : ε}
    (h : Run step s es t) :
    Along step C s (es ++ [e]) ↔ Along step C s es ∧ C t e := by
  induction es generalizing s with
  | nil =>
    rw [run_nil] at h
    subst h
    constructor
    · intro hC
      exact ⟨trivial, hC.1⟩
    · intro hC
      exact ⟨hC.2, fun _ _ => trivial⟩
  | cons f es ih =>
    obtain ⟨u, hu, hrun⟩ := (run_cons s t f es).mp h
    constructor
    · intro hC
      have hrest := (ih hrun).mp (hC.2 u hu)
      refine ⟨⟨hC.1, fun v hv => ?_⟩, hrest.2⟩
      have huv : v = u := Option.some.inj (hv.symm.trans hu)
      exact huv ▸ hrest.1
    · intro hC
      refine ⟨hC.1.1, fun v hv => ?_⟩
      have huv : v = u := Option.some.inj (hv.symm.trans hu)
      rw [huv]
      exact (ih hrun).mpr ⟨hC.1.2 u hu, hC.2⟩

/-- **Induction over a well-behaved run with its history.** -/
theorem Run.history_along {P : List ε → σ → Prop} {C : σ → ε → Prop} {s s' : σ} {es : List ε}
    (h : Run step s es s') (hC : Along step C s es) (h0 : P [] s)
    (hstep : ∀ es t e t', Run step s es t → P es t → C t e → step t e = some t' →
      P (es ++ [e]) t') : P es s' := by
  refine h.history_induction (P := fun es t => Along step C s es → P es t) (fun _ => h0) ?_ hC
  intro es t e t' hrun ih he hC
  obtain ⟨hbefore, hlast⟩ := (along_concat hrun).mp hC
  exact hstep es t e t' hrun (ih hbefore) hlast he

/-- **A condition met along a run gives another**, with the help of an invariant that it keeps. -/
theorem Along.of_invariant {I : σ → Prop} {C D : σ → ε → Prop} {s : σ} {es : List ε}
    (h : Along step C s es) (h0 : I s)
    (hstep : ∀ t e t', I t → C t e → step t e = some t' → I t')
    (hCD : ∀ t e, I t → C t e → D t e) : Along step D s es := by
  induction es generalizing s with
  | nil => trivial
  | cons e es ih =>
    refine ⟨hCD s e h0 h.1, fun t ht => ?_⟩
    apply ih (h.2 t ht)
    exact hstep s e t h0 h.1 ht

/-- Conditions that agree on every label agree along every run. -/
theorem along_congr {C D : σ → ε → Prop} (hCD : ∀ s e, C s e ↔ D s e) (s : σ) (es : List ε) :
    Along step C s es ↔ Along step D s es := by
  have heq : C = D := by
    ext s e
    exact hCD s e
  rw [heq]

/-! ### What a run records -/

/-- What the labels of `es` record, in order: `f` says what a label records, given the states
    before and after it. -/
def records {γ : Type*} (step : σ → ε → Option σ) (f : σ → ε → σ → List γ) :
    σ → List ε → List γ
  | _, [] => []
  | s, e :: es =>
    match step s e with
    | none => []
    | some t => f s e t ++ records step f t es

/-- The last label of a run adds what it records. -/
theorem records_concat {γ : Type*} {f : σ → ε → σ → List γ} {s t t' : σ} {es : List ε} {e : ε}
    (h : Run step s es t) (he : step t e = some t') :
    records step f s (es ++ [e]) = records step f s es ++ f t e t' := by
  induction es generalizing s with
  | nil =>
    rw [run_nil] at h
    subst h
    simp [records, he]
  | cons d es ih =>
    obtain ⟨u, hu, hrun⟩ := (run_cons s t d es).mp h
    rw [List.cons_append]
    simp only [records, hu]
    rw [ih hrun, List.append_assoc]

/-- What is read off the records of a run is the record of what is read off. -/
theorem map_records {γ δ : Type*} {f : σ → ε → σ → List γ} (g : γ → δ) (s : σ) (es : List ε) :
    (records step f s es).map g = records step (fun s e t => (f s e t).map g) s es := by
  induction es generalizing s with
  | nil => rfl
  | cons e es ih =>
    simp only [records]
    cases step s e with
    | none => rfl
    | some t => rw [List.map_append, ih]

/-! ### What a run has done since a label -/

/-- Some label of `es` meets `A` in the state it is taken in, and no later one is `b`. -/
def Since (step : σ → ε → Option σ) (A : σ → ε → Prop) (b : ε) : σ → List ε → Prop
  | _, [] => False
  | s, e :: es => A s e ∧ b ∉ es ∨ ∃ t ∈ step s e, Since step A b t es

instance decidableSince {A : σ → ε → Prop} {b : ε} [DecidableEq ε] [∀ s e, Decidable (A s e)] :
    ∀ (es : List ε) (s : σ), Decidable (Since step A b s es)
  | [], _ => isFalse id
  | e :: es, s =>
    match h : step s e with
    | none =>
      decidable_of_iff (A s e ∧ b ∉ es) (by simp [Since, h])
    | some t =>
      haveI := decidableSince es t (A := A) (b := b)
      decidable_of_iff (A s e ∧ b ∉ es ∨ Since step A b t es) (by simp [Since, h])

/-- After one more label it is so when that label meets `A`, or when it was so before and the
    label is not `b`. -/
theorem since_concat {A : σ → ε → Prop} {b : ε} {s t : σ} {es : List ε} {e : ε}
    (h : Run step s es t) :
    Since step A b s (es ++ [e]) ↔ A t e ∨ Since step A b s es ∧ e ≠ b := by
  induction es generalizing s with
  | nil =>
    rw [run_nil] at h
    subst h
    simp [Since]
  | cons f es ih =>
    obtain ⟨u, hu, hrun⟩ := (run_cons s t f es).mp h
    -- The run goes through `u`, and through no other state.
    have hu' : ∀ fs, (∃ v ∈ step s f, Since step A b v fs) ↔ Since step A b u fs := by
      intro fs
      constructor
      · rintro ⟨v, hv, hsince⟩
        obtain rfl := Option.some.inj (hu.symm.trans hv)
        exact hsince
      · intro hsince
        exact ⟨u, hu, hsince⟩
    have hlater : b ∉ es ++ [e] ↔ b ∉ es ∧ e ≠ b := by
      rw [List.mem_append, List.mem_singleton, not_or, eq_comm]
    rw [List.cons_append, Since, Since, hu', hu', ih hrun, hlater]
    tauto

/-! ### Runs over a stream of labels -/

/-- The state after the first `n` labels of the stream `e`. -/
def after (step : σ → ε → Option σ) (s : σ) (e : ℕ → ε) : ℕ → Option σ
  | 0 => some s
  | n + 1 => (after step s e n).bind fun t => step t (e n)

theorem after_succ {s t : σ} {e : ℕ → ε} {n : ℕ} (h : after step s e n = some t) :
    after step s e (n + 1) = step t (e n) := by
  simp [after, h]

/-- **Induction over rounds.**  If each of the first `n` rounds is taken from a state that
    satisfies `I k` to one that satisfies `I (k + 1)`, all of them are taken. -/
theorem after_induction {I : ℕ → σ → Prop} {s : σ} {e : ℕ → ε} {n : ℕ} (h0 : I 0 s)
    (hstep : ∀ k < n, ∀ t, I k t → ∃ t', step t (e k) = some t' ∧ I (k + 1) t') :
    ∀ k ≤ n, ∃ t, after step s e k = some t ∧ I k t := by
  intro k hk
  induction k with
  | zero => exact ⟨s, rfl, h0⟩
  | succ k ih =>
    obtain ⟨t, ht, hI⟩ := ih (by omega)
    obtain ⟨t', ht', hI'⟩ := hstep k (by omega) t hI
    exact ⟨t', by rw [after_succ ht, ht'], hI'⟩

end Runs
