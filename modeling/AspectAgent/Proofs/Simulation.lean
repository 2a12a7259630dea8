import AspectAgent.Proofs.Contract

/-!
# Simulation between actions

One action simulates another one if it comes to what the other one comes to, from every pair of
related states, whenever the other one comes to an end at all. The states then are related again.
Values may be translated on the way. Since nothing is asked where the simulated action does not end,
the simulating one may end more often.
-/

namespace AspectAgent

namespace Outcome

variable {α β γ : Type}

@[simp] theorem map_id (o : Outcome α) : o.map id = o := by
  cases o <;> rfl

end Outcome

namespace Act

variable {σ τ α β γ δ : Type} {R : σ → τ → Prop} {g : α → β} {g' : γ → δ}

/-- Started in two states, the second action comes to what the first one comes to, if anything. -/
def SimulatedAt (R : σ → τ → Prop) (g : α → β) (x : Act σ α) (y : Act τ β) (s : σ) (t : τ) : Prop :=
  (x s).1.isFinished = true → ∃ t', y t = ((x s).1.map g, t') ∧ R (x s).2 t'

/-- The first action is simulated by the second one. -/
def Simulated (R : σ → τ → Prop) (g : α → β) (x : Act σ α) (y : Act τ β) : Prop :=
  ∀ s t, R s t → SimulatedAt R g x y s t

theorem simulated_give (a : α) : Simulated R g (give a) (give (g a)) :=
  fun _ t h _ => ⟨t, rfl, h⟩

theorem simulated_pure (a : α) : Simulated R id (pure a) (pure a) := simulated_give a

theorem simulated_raise (f : Failure) : Simulated R g (raise f) (raise f) :=
  fun _ t h _ => ⟨t, rfl, h⟩

theorem simulated_unfinished (y : Act τ β) : Simulated R g unfinished y :=
  fun _ _ _ h => absurd h Bool.false_ne_true

theorem simulated_ofExcept (e : Except Failure α) : Simulated R id (ofExcept e) (ofExcept e) := by
  cases e with
  | ok a => exact simulated_give a
  | error f => exact simulated_raise f

theorem simulatedAt_bind {x : Act σ α} {y : Act τ β} {k : α → Act σ γ} {l : β → Act τ δ} {s : σ}
    {t : τ} (hx : SimulatedAt R g x y s t)
    (hk : ∀ a s' t', x s = (.returned a, s') → R s' t' → SimulatedAt R g' (k a) (l (g a)) s' t') :
    SimulatedAt R g' (x >>= k) (y >>= l) s t := by
  unfold SimulatedAt at hx ⊢
  rw [bind_apply, bind_apply]
  rcases h : x s with ⟨o, s'⟩
  rw [h] at hx
  intro hfinished
  cases o with
  | returned a =>
    obtain ⟨t', ht, hr⟩ := hx rfl
    rw [ht]
    exact hk a s' t' h hr hfinished
  | raised f =>
    obtain ⟨t', ht, hr⟩ := hx rfl
    rw [ht]
    exact ⟨t', rfl, hr⟩
  | unfinished => exact absurd hfinished Bool.false_ne_true

theorem simulated_bind {x : Act σ α} {y : Act τ β} {k : α → Act σ γ} {l : β → Act τ δ}
    (hx : Simulated R g x y) (hk : ∀ a, Simulated R g' (k a) (l (g a))) :
    Simulated R g' (x >>= k) (y >>= l) :=
  fun s t h => simulatedAt_bind (hx s t h) fun a s' t' _ hr => hk a s' t' hr

theorem simulated_attempt {x : Act σ α} {y : Act τ α} (hx : Simulated R id x y) :
    Simulated R id (attempt x) (attempt y) := by
  intro s t h
  have hs := hx s t h
  unfold SimulatedAt attempt at *
  rcases hxs : x s with ⟨o, s'⟩
  rw [hxs] at hs
  intro hfinished
  cases o with
  | returned a =>
    obtain ⟨t', ht, hr⟩ := hs rfl
    rw [ht]
    exact ⟨t', rfl, hr⟩
  | raised f =>
    obtain ⟨t', ht, hr⟩ := hs rfl
    rw [ht]
    exact ⟨t', rfl, hr⟩
  | unfinished => exact absurd hfinished Bool.false_ne_true

theorem simulated_orElse {x : Act σ α} {y : Act τ β} {k : Failure → Act σ α}
    {l : Failure → Act τ β} (hx : Simulated R g x y) (hk : ∀ f, Simulated R g (k f) (l f)) :
    Simulated R g (orElse x k) (orElse y l) := by
  intro s t h
  have hs := hx s t h
  unfold SimulatedAt orElse at *
  rcases hxs : x s with ⟨o, s'⟩
  rw [hxs] at hs
  intro hfinished
  cases o with
  | returned a =>
    obtain ⟨t', ht, hr⟩ := hs rfl
    rw [ht]
    exact ⟨t', rfl, hr⟩
  | raised f =>
    obtain ⟨t', ht, hr⟩ := hs rfl
    rw [ht]
    by_cases hf : f.isOrdinary = true
    · simp only [if_pos hf, Outcome.map] at hfinished ⊢
      exact hk f s' t' hr hfinished
    · simp only [if_neg hf, Outcome.map]
      exact ⟨t', rfl, hr⟩
  | unfinished => exact absurd hfinished Bool.false_ne_true

theorem simulated_forEach (xs : List α) {k : α → Act σ Unit} {l : α → Act τ Unit}
    (h : ∀ x ∈ xs, Simulated R id (k x) (l x)) :
    Simulated R id (forEach xs k) (forEach xs l) := by
  induction xs with
  | nil => exact simulated_give ()
  | cons x rest ih =>
    have hrest : Simulated R id (forEach rest k) (forEach rest l) :=
      ih fun y hy => h y (List.mem_cons_of_mem x hy)
    exact simulated_bind (h x List.mem_cons_self) fun _ => hrest

/-- An action simulates itself. -/
theorem simulated_refl (x : Act σ α) : Simulated Eq id x x := by
  rintro s _ rfl -
  exact ⟨(x s).2, by rw [Outcome.map_id], rfl⟩

/-- Where an action ends, one that simulates it in the same states is equal to it. -/
theorem Simulated.eq {x y : Act σ α} (h : Simulated Eq id x y) {s : σ}
    (hs : (x s).1.isFinished = true) : y s = x s := by
  obtain ⟨t, hy, ht⟩ := h s s rfl hs
  rw [hy, Outcome.map_id, ← ht]

theorem simulated_of_eq {x y : Act σ α} (h : ∀ s, (x s).1.isFinished = true → y s = x s) :
    Simulated Eq id x y := by
  rintro s _ rfl hs
  exact ⟨(x s).2, by rw [h s hs, Outcome.map_id], rfl⟩

theorem simulated_read {k l : σ → Act σ α} (h : ∀ s, Simulated Eq id (k s) (l s)) :
    Simulated Eq id (read >>= k) (read >>= l) := by
  rintro s _ rfl
  exact h s s s rfl

theorem simulated_ensuring {x y : Act σ α} (h : Simulated Eq id x y) (k : σ → σ) :
    Simulated Eq id (ensuring x k) (ensuring y k) := by
  refine simulated_of_eq fun s hs => ?_
  unfold ensuring at hs ⊢
  rw [h.eq hs]

end Act

end AspectAgent
