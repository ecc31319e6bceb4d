/-
  File:      OpenBras/Lib/Run.lean
  Subject:   RUNS OF A STEP FUNCTION: what holds in every state a run passes, and which of its
             steps meet a condition.

  * `run step s es` -- the state after the events `es`;
  * `Throughout step P s es` -- `P` holds in every state of the run, the first one included;
  * `Along step ok s es` -- every step of the run meets `ok`, read in the state before it;
  * `along_congr` -- conditions that agree on every step agree on every run
    (`along_congr_of_keeps`: on every step from a state that meets an invariant);
  * `throughout_of_along` -- the invariant rule: an invariant kept by every step that meets the
    condition holds along every run whose steps all do;
  * `throughout_iff_along` -- when moreover a step that does not meet the condition breaks the
    property at once, the two say the same of every run (`throughout_iff_along_given`: of every
    run that meets a second condition);
  * `run_filter` -- a part of the state that only its own events change, after those alone, in
    the runs that meet a condition, which these then meet too;
  * `Since step P Q s es` -- some step met `P`, and every step after it met `Q`.
-/
import Mathlib.Logic.Basic

namespace OpenBras

section Run

variable {σ ε : Type} (step : σ → ε → σ)

/-- The state after the events `es`, first event first. -/
def run (s : σ) (es : List ε) : σ := es.foldl step s

@[simp] theorem run_nil (s : σ) : run step s [] = s := rfl

@[simp] theorem run_cons (s : σ) (e : ε) (es : List ε) :
    run step s (e :: es) = run step (step s e) es := rfl

theorem run_append (s : σ) (es fs : List ε) :
    run step s (es ++ fs) = run step (run step s es) fs := List.foldl_append

/-- `P` holds in every state of the run. -/
def Throughout (P : σ → Prop) : σ → List ε → Prop
  | s, [] => P s
  | s, e :: es => P s ∧ Throughout P (step s e) es

/-- Every step of the run meets `ok`. -/
def Along (ok : σ → ε → Prop) : σ → List ε → Prop
  | _, [] => True
  | s, e :: es => ok s e ∧ Along ok (step s e) es

instance Along.decidable (ok : σ → ε → Prop) [∀ s e, Decidable (ok s e)] :
    ∀ s es, Decidable (Along step ok s es)
  | _, [] => isTrue trivial
  | s, e :: es =>
    have := Along.decidable ok (step s e) es
    inferInstanceAs (Decidable (ok s e ∧ Along step ok (step s e) es))

variable {step} {P I : σ → Prop} {ok : σ → ε → Prop}

variable {s : σ}

theorem throughout_last {es : List ε} (h : Throughout step P s es) : P (run step s es) := by
  induction es generalizing s with
  | nil => exact h
  | cons e es ih => exact ih h.2

theorem along_congr {ok' : σ → ε → Prop} (h : ∀ s e, ok s e ↔ ok' s e) (s : σ) (es : List ε) :
    Along step ok s es ↔ Along step ok' s es := by
  induction es generalizing s with
  | nil => exact Iff.rfl
  | cons e es ih => exact and_congr (h s e) (ih (step s e))

/-- The same, where an invariant that every step keeps makes them agree. -/
theorem along_congr_of_keeps {ok' : σ → ε → Prop} (hstep : ∀ s e, I s → I (step s e))
    (h : ∀ s e, I s → (ok s e ↔ ok' s e)) (hI : I s) (es : List ε) :
    Along step ok s es ↔ Along step ok' s es := by
  induction es generalizing s with
  | nil => exact Iff.rfl
  | cons e es ih => exact and_congr (h s e hI) (ih (hstep s e hI))

/-- A condition on a part of the state that runs on its own. -/
theorem along_part {τ : Type} {step' : τ → ε → τ} (part : τ → σ)
    (h : ∀ t e, part (step' t e) = step (part t) e) (t : τ) (es : List ε) :
    Along step' (fun t => ok (part t)) t es ↔ Along step ok (part t) es := by
  induction es generalizing t with
  | nil => exact Iff.rfl
  | cons e es ih =>
    refine and_congr_right fun _ => ?_
    rw [ih, h]

/-- **The invariant rule** for runs whose steps all meet the condition. -/
theorem throughout_of_along (hstep : ∀ s e, I s → ok s e → I (step s e)) (hP : ∀ s, I s → P s)
    (hI : I s) {es : List ε} (h : Along step ok s es) : Throughout step P s es := by
  induction es generalizing s with
  | nil => exact hP s hI
  | cons e es ih => exact ⟨hP s hI, ih (hstep s e hI h.1) h.2⟩

/-- The same for what the steps themselves do. -/
theorem along_of_along {ok' : σ → ε → Prop} (hstep : ∀ s e, I s → ok s e → I (step s e))
    (h : ∀ s e, I s → ok s e → ok' s e) (hI : I s) {es : List ε} (hok : Along step ok s es) :
    Along step ok' s es := by
  induction es generalizing s with
  | nil => exact trivial
  | cons e es ih => exact ⟨h s e hI hok.1, ih (hstep s e hI hok.1) hok.2⟩

theorem run_keeps (hstep : ∀ s e, I s → I (step s e)) (hI : I s) (es : List ε) :
    I (run step s es) := by
  induction es generalizing s with
  | nil => exact hI
  | cons e es ih => exact ih (hstep s e hI)

theorem throughout_keeps (hstep : ∀ s e, I s → I (step s e)) (hP : ∀ s, I s → P s) (hI : I s)
    (es : List ε) : Throughout step P s es := by
  induction es generalizing s with
  | nil => exact hP s hI
  | cons e es ih => exact ⟨hP s hI, ih (hstep s e hI)⟩

/-- **A part that only its own events change, and in the same way whatever else there is, is
    after a run as after its own events alone.** Here of runs whose steps meet a condition that
    reads nothing but the part. -/
theorem run_filter {ν : Type} {t : σ} (view : σ → ν) {own : ε → Bool} (hstep : ∀ s e, I s → I (step s e))
    (hother : ∀ s e, I s → own e = false → view (step s e) = view s)
    (hown : ∀ s t e, I s → I t → own e → view s = view t →
      view (step s e) = view (step t e) ∧ (ok s e → ok t e))
    (hs : I s) (ht : I t) (h : view s = view t) {es : List ε} (hok : Along step ok s es) :
    view (run step s es) = view (run step t (es.filter own)) ∧
      Along step ok t (es.filter own) := by
  induction es generalizing s t with
  | nil => exact ⟨h, trivial⟩
  | cons e es ih =>
    cases he : own e with
    | false =>
      rw [List.filter_cons_of_neg (by simp [he]), run_cons]
      exact ih (hstep s e hs) ht ((hother s e hs he).trans h) hok.2
    | true =>
      rw [List.filter_cons_of_pos he, run_cons, run_cons]
      obtain ⟨hview, hokt⟩ := hown s t e hs ht he h
      obtain ⟨hrun, halong⟩ := ih (hstep s e hs) (hstep t e ht) hview hok.2
      exact ⟨hrun, hokt hok.1, halong⟩

/-- **The condition is exact**: if a step outside it always breaks `P`, then `P` holds
    throughout a run if and only if every step of the run meets the condition. Here of runs whose
    steps all meet what is given. -/
theorem throughout_iff_along_given {given : σ → ε → Prop}
    (hstep : ∀ s e, I s → given s e → ok s e → I (step s e)) (hP : ∀ s, I s → P s)
    (hbad : ∀ s e, I s → given s e → P (step s e) → ok s e) (hI : I s) {es : List ε}
    (hgiven : Along step given s es) : Throughout step P s es ↔ Along step ok s es := by
  induction es generalizing s with
  | nil => exact iff_of_true (hP s hI) trivial
  | cons e es ih =>
    obtain ⟨hg, hgs⟩ := hgiven
    constructor
    · intro h
      have hok : ok s e := by
        cases es with
        | nil => exact hbad s e hI hg h.2
        | cons e' es => exact hbad s e hI hg h.2.1
      exact ⟨hok, (ih (hstep s e hI hg hok) hgs).mp h.2⟩
    · intro h
      exact ⟨hP s hI, (ih (hstep s e hI hg h.1) hgs).mpr h.2⟩

theorem along_true (s : σ) (es : List ε) : Along step (fun _ _ => True) s es := by
  induction es generalizing s with
  | nil => exact trivial
  | cons e es ih => exact ⟨trivial, ih (step s e)⟩

theorem throughout_iff_along (hstep : ∀ s e, I s → ok s e → I (step s e)) (hP : ∀ s, I s → P s)
    (hbad : ∀ s e, I s → P (step s e) → ok s e) (hI : I s) (es : List ε) :
    Throughout step P s es ↔ Along step ok s es :=
  throughout_iff_along_given (fun s e hs _ => hstep s e hs) hP (fun s e hs _ => hbad s e hs) hI
    (along_true s es)

/-! ## What has happened and lasts -/

/-- Some step of the run met `P`, and every step after that one met `Q`. -/
def Since (step : σ → ε → σ) (P Q : σ → ε → Prop) : σ → List ε → Prop
  | _, [] => False
  | s, e :: es => P s e ∧ Along step Q (step s e) es ∨ Since step P Q (step s e) es

theorem along_concat {es : List ε} {e : ε} :
    Along step ok s (es ++ [e]) ↔ Along step ok s es ∧ ok (run step s es) e := by
  induction es generalizing s with
  | nil => exact ⟨fun h => ⟨trivial, h.1⟩, fun h => ⟨h.2, trivial⟩⟩
  | cons e' es ih =>
    show ok s e' ∧ Along step ok (step s e') (es ++ [e]) ↔ _
    rw [ih]
    exact and_assoc.symm

/-- **One more step**: it meets `P`, or what had happened before it lasts. -/
theorem since_concat {Q R : σ → ε → Prop} {es : List ε} {e : ε} :
    Since step Q R s (es ++ [e]) ↔
      Q (run step s es) e ∨ Since step Q R s es ∧ R (run step s es) e := by
  induction es generalizing s with
  | nil =>
    constructor
    · rintro (⟨hq, -⟩ | hf)
      · exact Or.inl hq
      · exact hf.elim
    · rintro (hq | ⟨hf, -⟩)
      · exact Or.inl ⟨hq, trivial⟩
      · exact hf.elim
  | cons e' es ih =>
    show Q s e' ∧ Along step R (step s e') (es ++ [e]) ∨ Since step Q R (step s e') (es ++ [e]) ↔
      Q (run step (step s e') es) e ∨
        (Q s e' ∧ Along step R (step s e') es ∨ Since step Q R (step s e') es) ∧
          R (run step (step s e') es) e
    rw [ih, along_concat, or_and_right, ← and_assoc, or_left_comm]

end Run

end OpenBras
