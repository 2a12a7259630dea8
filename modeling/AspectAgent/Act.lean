import AspectAgent.Failure

/-!
# Actions

An action on a state returns a value, raises a failure, or does not finish within its allowance of
nested calls. In each case the state it reached is kept: nothing is rolled back when it fails.
-/

namespace AspectAgent

/-- How an action ended. -/
inductive Outcome (α : Type) where
  | returned (a : α)
  | raised (f : Failure)
  | unfinished
  deriving Inhabited

namespace Outcome

def map {α β : Type} (g : α → β) : Outcome α → Outcome β
  | .returned a => .returned (g a)
  | .raised f => .raised f
  | .unfinished => .unfinished

end Outcome

/-- An action on a state of type `σ` with a result of type `α`. -/
def Act (σ α : Type) := σ → Outcome α × σ

namespace Act

variable {σ τ α β : Type}

instance : Inhabited (Act σ α) := ⟨fun s => (.unfinished, s)⟩

def give (a : α) : Act σ α := fun s => (.returned a, s)

def raise (f : Failure) : Act σ α := fun s => (.raised f, s)

/-- Runs one action and then another that may depend on its value. -/
def andThen (x : Act σ α) (k : α → Act σ β) : Act σ β := fun s =>
  match x s with
  | (.returned a, s') => k a s'
  | (.raised f, s') => (.raised f, s')
  | (.unfinished, s') => (.unfinished, s')

instance : Monad (Act σ) where
  pure := give
  bind := andThen

def read : Act σ σ := fun s => (.returned s, s)

def change (g : σ → σ) : Act σ Unit := fun s => (.returned (), g s)

/-- Gives up for want of further nested calls. -/
def unfinished : Act σ α := fun s => (.unfinished, s)

/-- Raises the failure of a result or returns its value. -/
def ofExcept : Except Failure α → Act σ α
  | .ok a => give a
  | .error f => raise f

/-- Runs an action and returns what it returned or raised, whatever the class of the failure. -/
def attempt (x : Act σ α) : Act σ (Except Failure α) := fun s =>
  match x s with
  | (.returned a, s') => (.returned (.ok a), s')
  | (.raised f, s') => (.returned (.error f), s')
  | (.unfinished, s') => (.unfinished, s')

/-- Runs an action and hands an ordinary failure to a handler. -/
def orElse (x : Act σ α) (handler : Failure → Act σ α) : Act σ α := fun s =>
  match x s with
  | (.raised f, s') => if f.isOrdinary then handler f s' else (.raised f, s')
  | r => r

/-- Runs an action and returns what it returned, or the ordinary failure it raised. -/
def caught (x : Act σ α) : Act σ (Except Failure α) := fun s =>
  match x s with
  | (.returned a, s') => (.returned (.ok a), s')
  | (.raised f, s') => if f.isOrdinary then (.returned (.error f), s') else (.raised f, s')
  | (.unfinished, s') => (.unfinished, s')

/-- Runs an action and then changes the state, however the action ended. -/
def ensuring (x : Act σ α) (g : σ → σ) : Act σ α := fun s =>
  let (o, s') := x s
  (o, g s')

/-- Runs an action on a part of the state. -/
def within (get : τ → σ) (set : σ → τ → τ) (x : Act σ α) : Act τ α := fun t =>
  let (o, s) := x (get t)
  (o, set s t)

def forEach (xs : List α) (k : α → Act σ Unit) : Act σ Unit :=
  match xs with
  | [] => give ()
  | x :: rest => andThen (k x) fun _ => forEach rest k

/-- Runs an action for each element, in order, and collects the results. -/
def collect (xs : List α) (k : α → Act σ β) : Act σ (List β) :=
  match xs with
  | [] => give []
  | x :: rest => andThen (k x) fun b => andThen (collect rest k) fun bs => give (b :: bs)

@[simp] theorem pure_apply (a : α) (s : σ) : (pure a : Act σ α) s = (.returned a, s) := rfl

@[simp] theorem give_apply (a : α) (s : σ) : (give a : Act σ α) s = (.returned a, s) := rfl

@[simp] theorem raise_apply (f : Failure) (s : σ) :
    (raise f : Act σ α) s = (.raised f, s) := rfl

@[simp] theorem read_apply (s : σ) : (read : Act σ σ) s = (.returned s, s) := rfl

@[simp] theorem change_apply (g : σ → σ) (s : σ) : change g s = (.returned (), g s) := rfl

theorem bind_apply (x : Act σ α) (k : α → Act σ β) (s : σ) :
    (x >>= k) s =
      match x s with
      | (.returned a, s') => k a s'
      | (.raised f, s') => (.raised f, s')
      | (.unfinished, s') => (.unfinished, s') := rfl

theorem bind_of_returned {x : Act σ α} {k : α → Act σ β} {s s' : σ} {a : α}
    (h : x s = (.returned a, s')) : (x >>= k) s = k a s' := by
  simp [bind_apply, h]

theorem returned_of_bind {x : Act σ α} {k : α → Act σ β} {s s' : σ} {b : β}
    (h : (x >>= k) s = (.returned b, s')) :
    ∃ a s'', x s = (.returned a, s'') ∧ k a s'' = (.returned b, s') := by
  rw [bind_apply] at h
  rcases hx : x s with ⟨a | f | _, s''⟩
  · rw [hx] at h
    exact ⟨a, s'', rfl, h⟩
  · rw [hx] at h
    cases h
  · rw [hx] at h
    cases h

theorem returned_of_ofExcept {e : Except Failure α} {a : α} {s s' : σ}
    (h : ofExcept e s = (.returned a, s')) : e = .ok a ∧ s' = s := by
  cases e with
  | ok b =>
    cases h
    exact ⟨rfl, rfl⟩
  | error f => cases h

/-- A handler that only gives a value keeps the state that the action reached. -/
theorem orElse_give_snd (x : Act σ α) (a : α) (s : σ) :
    (orElse x (fun _ => give a) s).2 = (x s).2 := by
  unfold orElse
  rcases x s with ⟨o, s'⟩
  cases o with
  | returned b => rfl
  | raised f => by_cases h : f.isOrdinary <;> simp [h]
  | unfinished => rfl

theorem attempt_ne_raised (x : Act σ α) (s : σ) (f : Failure) : (attempt x s).1 ≠ .raised f := by
  unfold attempt
  rcases x s with ⟨_ | _ | _, _⟩ <;> exact nofun

@[simp] theorem attempt_ofExcept (e : Except Failure α) :
    attempt (ofExcept e) = (give e : Act σ (Except Failure α)) := by
  cases e <;> rfl

theorem attempt_bind_ofExcept (x : Act σ α) : (attempt x >>= fun e => ofExcept e) = x := by
  funext s
  rw [bind_apply]
  unfold attempt
  rcases x s with ⟨_ | _ | _, _⟩ <;> rfl

/-- Only the second part of a sequence needs to be attempted if the first does not raise. -/
theorem attempt_bind {x : Act σ α} {k : α → Act σ β} {l : α → Act σ (Except Failure β)} {s : σ}
    (hx : ∀ f, (x s).1 ≠ .raised f)
    (hk : ∀ a s', x s = (.returned a, s') → attempt (k a) s' = l a s') :
    attempt (x >>= k) s = (x >>= l) s := by
  rw [bind_apply]
  unfold attempt
  rw [bind_apply]
  rcases h : x s with ⟨o, s'⟩
  cases o with
  | returned a => exact hk a s' h
  | raised f => exact absurd (by rw [h]) (hx f)
  | unfinished => rfl

private theorem give_bind_id (x : Act σ α) : andThen x (fun a => give (id a)) = x := by
  funext s
  unfold andThen
  rcases x s with ⟨_ | _ | _, _⟩ <;> rfl

private theorem andThen_assoc {γ : Type} (x : Act σ α) (k : α → Act σ β) (l : β → Act σ γ) :
    andThen (andThen x k) l = andThen x fun a => andThen (k a) l := by
  funext s
  unfold andThen
  rcases x s with ⟨_ | _ | _, _⟩ <;> rfl

instance : LawfulMonad (Act σ) :=
  LawfulMonad.mk' (Act σ) give_bind_id (fun _ _ => rfl) andThen_assoc

theorem forEach_cons (x : α) (xs : List α) (k : α → Act σ Unit) :
    forEach (x :: xs) k = k x >>= fun _ => forEach xs k := rfl

theorem forEach_singleton (x : α) (k : α → Act σ Unit) : forEach [x] k = k x := by
  show (k x >>= fun _ => pure ()) = k x
  exact bind_pure_unit

theorem forEach_append (xs ys : List α) (k : α → Act σ Unit) :
    forEach (xs ++ ys) k = forEach xs k >>= fun _ => forEach ys k := by
  induction xs with
  | nil => rfl
  | cons x xs ih => rw [List.cons_append, forEach_cons, forEach_cons, ih, bind_assoc]

theorem collect_cons (x : α) (xs : List α) (k : α → Act σ β) :
    collect (x :: xs) k = k x >>= fun b => collect xs k >>= fun bs => pure (b :: bs) := rfl

theorem collect_append (xs ys : List α) (k : α → Act σ β) :
    collect (xs ++ ys) k =
      collect xs k >>= fun as => collect ys k >>= fun bs => pure (as ++ bs) := by
  induction xs with
  | nil =>
    show collect ys k = collect ys k >>= pure
    rw [bind_pure]
  | cons x xs ih =>
    simp only [List.cons_append, collect_cons, ih, bind_assoc, pure_bind]

theorem collect_singleton (x : α) (k : α → Act σ β) :
    collect [x] k = k x >>= fun b => pure [b] := rfl

theorem collect_map {γ : Type} (f : γ → α) (xs : List γ) (k : α → Act σ β) :
    collect (xs.map f) k = collect xs fun x => k (f x) := by
  induction xs with
  | nil => rfl
  | cons x xs ih => rw [List.map_cons, collect_cons, collect_cons, ih]

end Act

end AspectAgent
