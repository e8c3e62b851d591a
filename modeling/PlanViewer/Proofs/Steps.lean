import PlanViewer.Error

/-!
# Steps in a row

A step that fails keeps the state it has reached, so what a failure leaves behind depends on how far
the steps before it have come. This module says what can be said of a row of steps from its parts.
A row of readings changes nothing. A row that starts with readings and ends with steps that cannot
fail leaves behind what the one step between them leaves behind. And what each step of a row can
change, whether it fails or not, the row can change (`Step.MovesWithin.bind`).

Where there are several changes in a row this is not enough, and each step has to be *careful*: it
changes nothing, or it comes to a state from which all careful steps go through. Then the first
change is the only one that can fail (`Step.Careful.bind`).
-/

namespace PlanViewer.Step

variable {σ τ α β : Type} {step : Step σ α} {next : α → Step σ β} {s s' : σ} {a : α}
  {e : PrefsError}

/-! ## One step after another -/

/-- A step that goes through is followed by the next one, from the state it has reached. -/
theorem outcome_bind (h : step.outcome s = (.ok a, s')) (next : α → Step σ β) :
    (step >>= next).outcome s = (next a).outcome s' := by
  have hstep : step s = (.ok a, s') := h
  simp only [outcome, ExceptT.run, StateT.run, bind, ExceptT.bind, ExceptT.mk, StateT.bind, hstep,
    ExceptT.bindCont]

theorem outcome_bind_of_error (h : step.outcome s = (.error e, s')) (next : α → Step σ β) :
    (step >>= next).outcome s = (.error e, s') := by
  have hstep : step s = (.error e, s') := h
  simp only [outcome, ExceptT.run, StateT.run, bind, ExceptT.bind, ExceptT.mk, StateT.bind, hstep,
    ExceptT.bindCont]
  rfl

/-- A row fails in its first step or in what follows. -/
theorem error_cases (h : (step >>= next).outcome s = (.error e, s')) :
    step.outcome s = (.error e, s') ∨
      ∃ a mid, step.outcome s = (.ok a, mid) ∧ (next a).outcome mid = (.error e, s') := by
  rcases hstep : step.outcome s with ⟨cause | a, mid⟩
  · rw [outcome_bind_of_error hstep] at h
    cases h
    exact Or.inl rfl
  · rw [outcome_bind hstep] at h
    exact Or.inr ⟨a, mid, rfl, h⟩

/-- A row goes through when its first step does, and then what follows. -/
theorem ok_cases {b : β} (h : (step >>= next).outcome s = (.ok b, s')) :
    ∃ a mid, step.outcome s = (.ok a, mid) ∧ (next a).outcome mid = (.ok b, s') := by
  rcases hstep : step.outcome s with ⟨cause | a, mid⟩
  · rw [outcome_bind_of_error hstep] at h
    cases h
  · rw [outcome_bind hstep] at h
    exact ⟨a, mid, rfl, h⟩

theorem outcome_getThe (s : σ) : (getThe σ : Step σ σ).outcome s = (.ok s, s) :=
  rfl

theorem outcome_modify (f : σ → σ) (s : σ) :
    (modify f : Step σ Unit).outcome s = (.ok (), f s) :=
  rfl

theorem outcome_throw (e : PrefsError) (s : σ) :
    (throw e : Step σ α).outcome s = (.error e, s) :=
  rfl

theorem outcome_ofRead (f : σ → Except PrefsError α) (h : f s = .ok a) :
    (ofRead f).outcome s = (.ok a, s) := by
  rw [← h]
  rfl

theorem outcome_onPart (get : σ → τ) (set : σ → τ → σ) (step : Step τ α) (s : σ) :
    (step.onPart get set).outcome s =
      ((step.outcome (get s)).1, set s (step.outcome (get s)).2) :=
  rfl

theorem onPart_cases {get : σ → τ} {set : σ → τ → σ} {step : Step τ α}
    {result : Except PrefsError α} (h : (step.onPart get set).outcome s = (result, s')) :
    ∃ t, step.outcome (get s) = (result, t) ∧ s' = set s t := by
  rw [outcome_onPart] at h
  cases h
  exact ⟨_, rfl, rfl⟩

/-! ## Readings -/

/-- The step changes nothing, whether it goes through or not. -/
def ReadsOnly (step : Step σ α) : Prop :=
  ∀ s, (step.outcome s).2 = s

namespace ReadsOnly

theorem pure (a : α) : ReadsOnly (Pure.pure a : Step σ α) :=
  fun _ => rfl

theorem ofRead (f : σ → Except PrefsError α) : ReadsOnly (Step.ofRead f) :=
  fun _ => rfl

theorem ofExcept (result : Except PrefsError α) : ReadsOnly (liftM result : Step σ α) :=
  fun _ => rfl

theorem getThe : ReadsOnly (getThe σ : Step σ σ) :=
  fun _ => rfl

theorem state_eq (h : ReadsOnly step) {result : Except PrefsError α}
    (houtcome : step.outcome s = (result, s')) : s' = s := by
  have hs := h s
  rwa [houtcome] at hs

theorem bind (h : ReadsOnly step) (hnext : ∀ a, ReadsOnly (next a)) :
    ReadsOnly (step >>= next) := by
  intro s
  rcases hstep : step.outcome s with ⟨cause | a, mid⟩
  · rw [outcome_bind_of_error hstep]
    exact h.state_eq hstep
  · rw [outcome_bind hstep, hnext a mid]
    exact h.state_eq hstep

theorem onPart {get : σ → τ} {set : σ → τ → σ} (hset : ∀ s, set s (get s) = s) {step : Step τ α}
    (h : ReadsOnly step) : ReadsOnly (step.onPart get set) := by
  intro s
  rw [outcome_onPart]
  dsimp only
  rw [h, hset]

end ReadsOnly

/-! ## What failures leave behind -/

/-- Where the step fails, the states before and after it are in the relation. -/
def FailsWithin (R : σ → σ → Prop) (step : Step σ α) : Prop :=
  ∀ s e s', step.outcome s = (.error e, s') → R s s'

/-- The step goes through from every state. -/
def Succeeds (step : Step σ α) : Prop :=
  ∀ s, ∃ a s', step.outcome s = (.ok a, s')

theorem Succeeds.pure (a : α) : Succeeds (Pure.pure a : Step σ α) :=
  fun s => ⟨a, s, rfl⟩

namespace FailsWithin

variable {R : σ → σ → Prop}

theorem of_readsOnly (hR : ∀ s, R s s) (h : ReadsOnly step) : FailsWithin R step := by
  intro s e s' houtcome
  rw [h.state_eq houtcome]
  exact hR s

/-- A reading at the start leaves nothing behind. -/
theorem after_readsOnly (hR : ∀ s, R s s) (h : ReadsOnly step)
    (hnext : ∀ a, FailsWithin R (next a)) : FailsWithin R (step >>= next) := by
  intro s e s' houtcome
  rcases error_cases houtcome with hstep | ⟨a, mid, hstep, hrest⟩
  · exact of_readsOnly hR h s e s' hstep
  · rw [h.state_eq hstep] at hrest
    exact hnext a s e s' hrest

/-- What cannot fail leaves nothing behind at the end. -/
theorem before_succeeds (h : FailsWithin R step) (hnext : ∀ a, Succeeds (next a)) :
    FailsWithin R (step >>= next) := by
  intro s e s' houtcome
  rcases error_cases houtcome with hstep | ⟨a, mid, -, hrest⟩
  · exact h s e s' hstep
  · obtain ⟨b, last, hok⟩ := hnext a mid
    rw [hok] at hrest
    cases hrest

theorem onPart {get : σ → τ} {set : σ → τ → σ} {Q : τ → τ → Prop} {step : Step τ α}
    (hQ : ∀ s t, Q (get s) t → R s (set s t)) (h : FailsWithin Q step) :
    FailsWithin R (step.onPart get set) := by
  intro s e s' houtcome
  obtain ⟨t, hstep, rfl⟩ := onPart_cases houtcome
  exact hQ s t (h _ _ _ hstep)

end FailsWithin

/-! ## What steps can change -/

/-- Whatever comes of the step, the states before and after it are in the relation. -/
def MovesWithin (R : σ → σ → Prop) (step : Step σ α) : Prop :=
  ∀ s, R s (step.outcome s).2

namespace MovesWithin

variable {R : σ → σ → Prop}

theorem of_readsOnly (hR : ∀ s, R s s) (h : ReadsOnly step) : MovesWithin R step := by
  intro s
  rw [h s]
  exact hR s

theorem bind (htrans : ∀ {s mid s'}, R s mid → R mid s' → R s s') (h : MovesWithin R step)
    (hnext : ∀ a, MovesWithin R (next a)) : MovesWithin R (step >>= next) := by
  intro s
  have hs := h s
  rcases hstep : step.outcome s with ⟨cause | a, mid⟩
  · rw [hstep] at hs
    rwa [outcome_bind_of_error hstep]
  · rw [hstep] at hs
    rw [outcome_bind hstep]
    exact htrans hs (hnext a mid)

theorem onPart {get : σ → τ} {set : σ → τ → σ} {Q : τ → τ → Prop} {step : Step τ α}
    (hQ : ∀ s t, Q (get s) t → R s (set s t)) (h : MovesWithin Q step) :
    MovesWithin R (step.onPart get set) := by
  intro s
  rw [outcome_onPart]
  exact hQ s _ (h (get s))

end MovesWithin

/-! ## Careful steps -/

/-- Failures stay within the relation; a step that goes through has changed nothing or has come to
a ready state; and from a ready state the step goes through to a ready state. -/
structure Careful (R : σ → σ → Prop) (Ready : σ → Prop) (step : Step σ α) : Prop where
  failed : FailsWithin R step
  done : ∀ s a s', step.outcome s = (.ok a, s') → s' = s ∨ Ready s'
  ready : ∀ s, Ready s → ∃ a s', step.outcome s = (.ok a, s') ∧ Ready s'

namespace Careful

variable {R : σ → σ → Prop} {Ready : σ → Prop}

theorem ofRead (hR : ∀ s, R s s) {f : σ → Except PrefsError α}
    (hready : ∀ s, Ready s → ∃ a, f s = .ok a) : Careful R Ready (Step.ofRead f) where
  failed := .of_readsOnly hR (.ofRead f)
  done := fun s a s' houtcome => Or.inl ((ReadsOnly.ofRead f).state_eq houtcome)
  ready := by
    intro s hs
    obtain ⟨a, ha⟩ := hready s hs
    refine ⟨a, s, ?_, hs⟩
    rw [← ha]
    rfl

theorem pure (a : α) : Careful R Ready (Pure.pure a : Step σ α) where
  failed := fun _ _ _ houtcome => by cases houtcome
  done := fun _ _ _ houtcome => Or.inl ((ReadsOnly.pure a).state_eq houtcome)
  ready := fun s hs => ⟨a, s, rfl, hs⟩

/-- **Careful steps in a row are careful.** A later step starts from the first state, or from a
state in which it cannot fail. -/
theorem bind (h : Careful R Ready step) (hnext : ∀ a, Careful R Ready (next a)) :
    Careful R Ready (step >>= next) where
  failed := by
    intro s e s' houtcome
    rcases error_cases houtcome with hstep | ⟨a, mid, hstep, hrest⟩
    · exact h.failed s e s' hstep
    · rcases h.done s a mid hstep with rfl | hmid
      · exact (hnext a).failed mid e s' hrest
      · obtain ⟨b, last, hok, -⟩ := (hnext a).ready mid hmid
        rw [hok] at hrest
        cases hrest
  done := by
    intro s b s' houtcome
    obtain ⟨a, mid, hstep, hrest⟩ := ok_cases houtcome
    rcases (hnext a).done mid b s' hrest with rfl | hs'
    · exact h.done s a s' hstep
    · exact Or.inr hs'
  ready := by
    intro s hs
    obtain ⟨a, mid, hstep, hmid⟩ := h.ready s hs
    rw [outcome_bind hstep]
    exact (hnext a).ready mid hmid

end Careful

end PlanViewer.Step
