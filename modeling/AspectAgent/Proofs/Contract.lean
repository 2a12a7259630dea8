import AspectAgent.Act

/-!
# Contracts of actions

A contract relates the state before an action to the state after it, and may tell actions that come
to an end from those that do not. Since it is reflexive and passes through sequences, an action
meets it as soon as its parts do, whatever values and failures travel between them.

Two further predicates are about outcomes alone: `Yields` about the values that an action can
return, `EndsIn` about an action that always ends, and the failures it can end in.
-/

namespace AspectAgent

namespace Outcome

variable {α : Type}

/-- Did the action come to an end? -/
def isFinished : Outcome α → Bool
  | .unfinished => false
  | _ => true

/-- Did the action raise a failure? -/
def isRaised : Outcome α → Bool
  | .raised _ => true
  | _ => false

/-- How an action ended that returned a value or raised a failure. -/
def ofExcept : Except Failure α → Outcome α
  | .ok a => .returned a
  | .error f => .raised f

@[simp] theorem isFinished_returned (a : α) : (returned a).isFinished = true := rfl

@[simp] theorem isFinished_raised (f : Failure) :
    (raised f : Outcome α).isFinished = true := rfl

@[simp] theorem isFinished_unfinished : (unfinished : Outcome α).isFinished = false := rfl

theorem isRaised_iff {o : Outcome α} : o.isRaised = true ↔ ∃ f, o = .raised f := by
  cases o <;> simp [isRaised]

@[simp] theorem isFinished_ofExcept (e : Except Failure α) : (ofExcept e).isFinished = true := by
  cases e <;> rfl

end Outcome

namespace Act

variable {σ α β : Type}

theorem ofExcept_apply (e : Except Failure α) (s : σ) : ofExcept e s = (Outcome.ofExcept e, s) := by
  cases e <;> rfl

/-- An attempt tells how the action ended, unless it did not. -/
theorem attempt_cases (x : Act σ α) (s : σ) :
    (∃ e s', x s = (Outcome.ofExcept e, s') ∧ attempt x s = (.returned e, s')) ∨
      ∃ s', x s = (.unfinished, s') ∧ attempt x s = (.unfinished, s') := by
  unfold attempt
  rcases x s with ⟨o, s'⟩
  cases o with
  | returned a => exact .inl ⟨.ok a, s', rfl, rfl⟩
  | raised f => exact .inl ⟨.error f, s', rfl, rfl⟩
  | unfinished => exact .inr ⟨s', rfl, rfl⟩

/-- What an action may do to the state; the flag tells whether the action came to an end. Nothing
follows an action that does not, so that such a one stands only at the end of a sequence. -/
structure Contract (σ : Type) where
  allows : Bool → σ → σ → Prop
  refl : ∀ b s, allows b s s
  trans : ∀ {b s s' s''}, allows true s s' → allows b s' s'' → allows b s s''

namespace Contract

variable {C : Contract σ}

/-- The action meets the contract when it starts in a state. -/
def MeetsAt (C : Contract σ) (x : Act σ α) (s : σ) : Prop :=
  C.allows (x s).1.isFinished s (x s).2

/-- The action meets the contract. -/
def Meets (C : Contract σ) (x : Act σ α) : Prop := ∀ s, C.MeetsAt x s

theorem meets_give (a : α) : C.Meets (give a) := fun s => C.refl true s

theorem meets_pure (a : α) : C.Meets (pure a : Act σ α) := meets_give a

theorem meets_raise (f : Failure) : C.Meets (raise f : Act σ α) := fun s => C.refl true s

theorem meets_unfinished : C.Meets (unfinished : Act σ α) := fun s => C.refl false s

theorem meets_change {g : σ → σ} (h : ∀ s, C.allows true s (g s)) : C.Meets (change g) := h

theorem meets_ofExcept (e : Except Failure α) : C.Meets (ofExcept e) := by
  cases e with
  | ok a => exact meets_give a
  | error f => exact meets_raise f

theorem meetsAt_bind {x : Act σ α} {k : α → Act σ β} {s : σ} (hx : C.MeetsAt x s)
    (hk : ∀ a s', x s = (.returned a, s') → C.MeetsAt (k a) s') : C.MeetsAt (x >>= k) s := by
  unfold MeetsAt at hx ⊢
  rw [bind_apply]
  rcases h : x s with ⟨o, s'⟩
  rw [h] at hx
  cases o with
  | returned a => exact C.trans hx (hk a s' h)
  | raised f => exact hx
  | unfinished => exact hx

theorem meets_bind {x : Act σ α} {k : α → Act σ β} (hx : C.Meets x) (hk : ∀ a, C.Meets (k a)) :
    C.Meets (x >>= k) := fun s => meetsAt_bind (hx s) fun a s' _ => hk a s'

/-- After reading the state an action goes on in the state it has read. -/
theorem meets_read {k : σ → Act σ β} (hk : ∀ s, C.MeetsAt (k s) s) : C.Meets (read >>= k) := hk

theorem meets_attempt {x : Act σ α} (hx : C.Meets x) : C.Meets (attempt x) := by
  intro s
  have h := hx s
  unfold MeetsAt attempt at *
  rcases hs : x s with ⟨o, s'⟩
  rw [hs] at h
  cases o <;> exact h

theorem meets_orElse {x : Act σ α} {handler : Failure → Act σ α} (hx : C.Meets x)
    (hh : ∀ f, C.Meets (handler f)) : C.Meets (orElse x handler) := by
  intro s
  have h := hx s
  unfold MeetsAt orElse at *
  rcases hs : x s with ⟨o, s'⟩
  rw [hs] at h
  cases o with
  | returned a => exact h
  | unfinished => exact h
  | raised f =>
    by_cases hf : f.isOrdinary = true
    · simp only [if_pos hf]
      exact C.trans h (hh f s')
    · simp only [if_neg hf]
      exact h

theorem meets_forEach (xs : List α) {k : α → Act σ Unit} (hk : ∀ x ∈ xs, C.Meets (k x)) :
    C.Meets (forEach xs k) := by
  induction xs with
  | nil => exact meets_give ()
  | cons x rest ih =>
    have hrest : C.Meets (forEach rest k) := ih fun y hy => hk y (List.mem_cons_of_mem x hy)
    exact meets_bind (hk x List.mem_cons_self) fun _ => hrest

end Contract

/-- Whatever the action returns has the property. -/
def Yields (x : Act σ α) (P : α → Prop) : Prop := ∀ s a s', x s = (.returned a, s') → P a

variable {P : α → Prop}

theorem yields_give {a : α} (h : P a) : Yields (give a : Act σ α) P := by
  intro s b s' hb
  cases hb
  exact h

theorem yields_raise (f : Failure) : Yields (raise f : Act σ α) P := by
  intro s a s' h
  cases h

theorem yields_any (x : Act σ α) : Yields x fun _ => True := fun _ _ _ _ => trivial

theorem yields_bind {x : Act σ β} {k : β → Act σ α} {R : β → Prop} (hx : Yields x R)
    (hk : ∀ b, R b → Yields (k b) P) : Yields (x >>= k) P := by
  intro s a s' h
  rw [bind_apply] at h
  rcases hs : x s with ⟨o, s''⟩
  rw [hs] at h
  cases o with
  | returned b => exact hk b (hx s b s'' hs) s'' a s' h
  | raised f => cases h
  | unfinished => cases h

theorem yields_orElse {x : Act σ α} {handler : Failure → Act σ α} (hx : Yields x P)
    (hh : ∀ f, Yields (handler f) P) : Yields (orElse x handler) P := by
  intro s a s' h
  unfold orElse at h
  rcases hs : x s with ⟨o, s''⟩
  rw [hs] at h
  cases o with
  | returned b =>
    cases h
    exact hx s a _ hs
  | unfinished => cases h
  | raised f =>
    by_cases hf : f.isOrdinary = true
    · simp only [if_pos hf] at h
      exact hh f s'' a s' h
    · simp only [if_neg hf] at h
      cases h

/-- The action comes to an end from every state, and raises only failures of a kind. -/
def EndsIn (x : Act σ α) (Q : Failure → Prop) : Prop :=
  ∀ s, (∃ a, (x s).1 = .returned a) ∨ ∃ f, (x s).1 = .raised f ∧ Q f

variable {Q R : Failure → Prop}

theorem EndsIn.isFinished {x : Act σ α} (h : x.EndsIn Q) (s : σ) : (x s).1.isFinished = true := by
  rcases h s with ⟨a, ha⟩ | ⟨f, hf, -⟩
  · rw [ha, Outcome.isFinished_returned]
  · rw [hf, Outcome.isFinished_raised]

theorem endsIn_give (a : α) : EndsIn (give a : Act σ α) Q := fun _ => .inl ⟨a, rfl⟩

theorem endsIn_pure (a : α) : EndsIn (pure a : Act σ α) Q := endsIn_give a

theorem endsIn_change (g : σ → σ) : EndsIn (change g) Q := fun _ => .inl ⟨(), rfl⟩

theorem endsIn_raise {f : Failure} (h : Q f) : EndsIn (raise f : Act σ α) Q :=
  fun _ => .inr ⟨f, rfl, h⟩

theorem endsIn_bind {x : Act σ α} {k : α → Act σ β} (hx : EndsIn x Q) (hk : ∀ a, EndsIn (k a) Q) :
    EndsIn (x >>= k) Q := by
  intro s
  rw [bind_apply]
  rcases hs : x s with ⟨o, s'⟩
  rcases hx s with ⟨a, ha⟩ | ⟨f, hf, hq⟩
  · rw [hs] at ha
    subst ha
    exact hk a s'
  · rw [hs] at hf
    subst hf
    exact .inr ⟨f, rfl, hq⟩

theorem endsIn_read {k : σ → Act σ β} (hk : ∀ s, EndsIn (k s) Q) : EndsIn (read >>= k) Q :=
  fun s => hk s s

theorem endsIn_ofExcept {e : Except Failure α} (h : ∀ f, e = .error f → Q f) :
    EndsIn (ofExcept e : Act σ α) Q := by
  cases e with
  | ok a => exact endsIn_give a
  | error f => exact endsIn_raise (h f rfl)

/-- A handler takes the ordinary failures of an action. -/
theorem endsIn_orElse {x : Act σ α} {handler : Failure → Act σ α} (hx : EndsIn x R)
    (hh : ∀ f, R f → f.isOrdinary = true → EndsIn (handler f) Q)
    (hrest : ∀ f, R f → f.isOrdinary = false → Q f) : EndsIn (orElse x handler) Q := by
  intro s
  unfold orElse
  rcases hs : x s with ⟨o, s'⟩
  rcases hx s with ⟨a, ha⟩ | ⟨f, hf, hr⟩
  · rw [hs] at ha
    subst ha
    exact .inl ⟨a, rfl⟩
  · rw [hs] at hf
    subst hf
    by_cases ho : f.isOrdinary = true
    · simp only [if_pos ho]
      exact hh f hr ho s'
    · simp only [if_neg ho]
      exact .inr ⟨f, rfl, hrest f hr (by simpa using ho)⟩

theorem endsIn_forEach (xs : List α) {k : α → Act σ Unit} (hk : ∀ x ∈ xs, EndsIn (k x) Q) :
    EndsIn (forEach xs k) Q := by
  induction xs with
  | nil => exact endsIn_give ()
  | cons x rest ih =>
    have hrest : EndsIn (forEach rest k) Q := ih fun y hy => hk y (List.mem_cons_of_mem x hy)
    exact endsIn_bind (hk x List.mem_cons_self) fun _ => hrest

theorem endsIn_within {τ : Type} {get : τ → σ} {set : σ → τ → τ} {x : Act σ α} (hx : EndsIn x Q) :
    EndsIn (within get set x) Q := fun t => hx (get t)

/-! ## Actions that return -/

theorem orElse_of_returned {x : Act σ α} {handler : Failure → Act σ α} {a : α}
    {s s' : σ} (h : x s = (.returned a, s')) : orElse x handler s = (.returned a, s') := by
  rw [orElse, h]

theorem attempt_of_returned {x : Act σ α} {a : α} {s s' : σ}
    (h : x s = (.returned a, s')) : attempt x s = (.returned (.ok a), s') := by
  rw [attempt, h]

/-- If each turn of a loop returns, so does the loop; what each turn achieves, and later turns keep,
then holds of all. -/
theorem forEach_returns {I : σ → Prop} {R : σ → σ → Prop} {P : α → σ → Prop}
    {k : α → Act σ Unit} (hrefl : ∀ s, R s s) (htrans : ∀ s s' s'', R s s' → R s' s'' → R s s'')
    (hkeep : ∀ x s s', R s s' → P x s → P x s') (xs : List α)
    (hk : ∀ x ∈ xs, ∀ s, I s → ∃ s', k x s = (.returned (), s') ∧ I s' ∧ R s s' ∧ P x s') (s : σ)
    (hs : I s) :
    ∃ s', forEach xs k s = (.returned (), s') ∧ I s' ∧ R s s' ∧ ∀ x ∈ xs, P x s' := by
  induction xs generalizing s with
  | nil => exact ⟨s, rfl, hs, hrefl s, nofun⟩
  | cons x rest ih =>
    obtain ⟨s', hrun, hs', hR, hx⟩ := hk x List.mem_cons_self s hs
    obtain ⟨s'', hrest, hs'', hR', hP⟩ := ih (fun y hy => hk y (List.mem_cons_of_mem x hy)) s' hs'
    refine ⟨s'', (bind_of_returned hrun).trans hrest, hs'', htrans _ _ _ hR hR', ?_⟩
    intro y hy
    rcases List.mem_cons.mp hy with rfl | hy
    · exact hkeep y s' s'' hR' hx
    · exact hP y hy

end Act

end AspectAgent
