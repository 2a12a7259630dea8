import AspectAgent.Host.Call
import AspectAgent.Proofs.FewerLayers
import AspectAgent.Proofs.Simulation

/-!
# Simulation of host calls

Of a call on one stage and the same call on another stage, whose host has some of the layers of the
first, only the layers themselves tell. If what is nested and the methods with their layers are
simulated, then so is every call.
-/

namespace AspectAgent

open Act

/-- The methods with their layers on a stage, and what is nested, are simulated on another stage,
whose host has those layers that pass a test. -/
structure Stage.Mirrored (R : Run → Run → Prop) (p : Layer → Bool) (s s' : Stage)
    (nested nested' : Nested) : Prop where
  host : s'.host = s.host.keeping p
  body : ∀ r r' name, R r r' →
    R (r.occur (.body name r.inside)) (r'.occur (.body name r'.inside))
  call : ∀ q, Simulated R id (nested.call q) (nested'.call q)
  layered : ∀ t : Target, Simulated R id (t.enter nested) ((t.keeping p).enter nested') →
    Simulated R id (t.layered nested s) ((t.keeping p).layered nested' s')

namespace Stage.Mirrored

variable {R : Run → Run → Prop} {p : Layer → Bool} {s s' : Stage} {nested nested' : Nested}

theorem runBody (h : s.Mirrored R p s' nested nested') (t : Target) (bound : Table Value)
    (b : Body) : Simulated R id (b.run nested t bound) (b.run nested' (t.keeping p) bound) := by
  induction b with
  | give v => exact simulated_give v
  | raise f => exact simulated_raise f
  | parameter name => exact simulated_give _
  | locals => exact simulated_give _
  | call method positional => exact h.call _
  | recurse name =>
    refine simulated_bind (simulated_ofExcept _) fun less => ?_
    cases less with
    | none => exact simulated_pure _
    | some v => exact simulated_bind (h.call _) fun _ => simulated_ofExcept _
  | inTurn first rest ihFirst ihRest => exact simulated_bind ihFirst fun _ => ihRest
  | catching catches tried handler ihTried ihHandler =>
    refine simulated_bind (simulated_attempt ihTried) fun result => ?_
    cases result with
    | ok v => exact simulated_pure v
    | error f =>
      dsimp only [id]
      split
      · exact ihHandler
      · exact simulated_raise f

theorem enter (h : s.Mirrored R p s' nested nested') (t : Target) :
    Simulated R id (t.enter nested) ((t.keeping p).enter nested') := by
  have harguments : (t.keeping p).allArguments = t.allArguments := rfl
  have hfunction : (t.keeping p).function = t.function := rfl
  unfold Target.enter
  rw [harguments, hfunction]
  cases Binding.bindCall t.function.signature.parameters t.allArguments with
  | none => exact simulated_raise _
  | some bound =>
    intro r r' hr
    exact h.runBody t bound t.function.body _ _ (h.body r r' t.name hr)

theorem read (h : s.Mirrored R p s' nested nested') (found : Found) :
    Simulated R (Found.keeping p) (s.read nested found) (s'.read nested' (found.keeping p)) := by
  cases found with
  | method f => exact simulated_give (Found.method f)
  | value v => exact simulated_give (Found.value v)
  | idle refused => exact simulated_give (Found.idle refused)
  | property f =>
    have henter := h.enter (f.target s.host {})
    rw [← f.target_keeping, ← h.host] at henter
    exact simulated_bind henter fun v => simulated_give (Found.value v)

theorem ask (h : s.Mirrored R p s' nested nested') (subject : Value) (name special : String) :
    Simulated R (Found.keeping p) (Stage.ask nested subject name special)
      (Stage.ask nested' subject name special) :=
  simulated_bind (h.call _) fun v => simulated_give (Found.value v)

theorem lookUpPlainly (h : s.Mirrored R p s' nested nested') (subject : Value) (name : String) :
    Simulated R (Found.keeping p) (s.lookUpPlainly nested subject name)
      (s'.lookUpPlainly nested' subject name) := by
  have hfound : (s'.host.member? subject name <|> s'.host.universal? subject name) =
      (s.host.member? subject name <|> s.host.universal? subject name).map (Found.keeping p) := by
    rw [h.host, Host.member?_keeping, Host.universal?_keeping]
    cases s.host.member? subject name <;> rfl
  unfold Stage.lookUpPlainly
  rw [hfound]
  cases s.host.member? subject name <|> s.host.universal? subject name with
  | some found => exact h.read found
  | none => exact simulated_raise _

theorem lookUp (h : s.Mirrored R p s' nested nested') (subject : Value) (name : String) :
    Simulated R (Found.keeping p) (s.lookUp nested subject name)
      (s'.lookUp nested' subject name) := by
  have hdeclares : ∀ special, s'.host.declares subject special = s.host.declares subject special :=
    fun special => by rw [h.host, Host.declares_keeping]
  unfold Stage.lookUp
  cases subject with
  | instanceOf c =>
    simp only [hdeclares]
    refine simulated_orElse ?_ fun f => ?_
    · split
      · exact h.ask _ _ _
      · exact h.lookUpPlainly _ _
    · split
      · exact h.ask _ _ _
      · exact simulated_raise f
  | _ => exact h.lookUpPlainly _ _

theorem callFound (h : s.Mirrored R p s' nested nested') (a : Arguments) (found : Found) :
    Simulated R id (s.callFound nested a found) (s'.callFound nested' a (found.keeping p)) := by
  cases found with
  | method f =>
    have hlayered := h.layered _ (h.enter (f.target s.host a))
    rw [← f.target_keeping, ← h.host] at hlayered
    exact hlayered
  | property f =>
    have henter := h.enter (f.target s.host {})
    rw [← f.target_keeping, ← h.host] at henter
    exact simulated_bind henter fun v => h.call _
  | value v => exact h.call _
  | idle refused =>
    unfold Stage.callFound Found.keeping
    dsimp only
    cases refused a with
    | some f => exact simulated_raise f
    | none => exact simulated_give _

theorem member? (h : s.Mirrored R p s' nested nested') (v : Value) (name : String) :
    s'.host.member? v name = (s.host.member? v name).map (Found.keeping p) := by
  rw [h.host, Host.member?_keeping]

theorem prepare (h : s.Mirrored R p s' nested nested') (made : Value) (a : Arguments) :
    Simulated R id (s.prepare nested made a) (s'.prepare nested' made a) := by
  unfold Stage.prepare
  rw [h.member?]
  cases s.host.member? made Special.prepare with
  | none => exact simulated_pure _
  | some found =>
    refine simulated_bind (h.callFound a found) fun v => ?_
    cases v with
    | null => exact simulated_pure _
    | _ => exact simulated_raise _

theorem make (h : s.Mirrored R p s' nested nested') (c : ClassRef) (a : Arguments) :
    Simulated R id (s.make nested c a) (s'.make nested' c a) := by
  have prepared : ∀ made : Value, Simulated R id
      (if s.host.isInstance made c.index then s.prepare nested made a else pure made)
      (if s'.host.isInstance made c.index then s'.prepare nested' made a else pure made) := by
    intro made
    rw [h.host, Host.isInstance_keeping]
    split
    · exact h.prepare made a
    · exact simulated_pure _
  unfold Stage.make
  rw [h.member?]
  cases s.host.member? (.classOf c) Special.construct with
  | some found => exact simulated_bind (h.callFound _ found) prepared
  | none =>
    dsimp only
    rw [h.host, Host.declares_keeping, ← h.host]
    split
    · exact simulated_bind (g := id) (simulated_give _) prepared
    · exact simulated_bind (g := id) (simulated_raise _) prepared

theorem callThing (h : s.Mirrored R p s' nested nested') (a : Arguments) (v : Value) :
    Simulated R id (s.callThing nested a v) (s'.callThing nested' a v) := by
  unfold Stage.callThing
  cases v with
  | classOf c => exact h.make c a
  | instanceOf c =>
    dsimp only
    rw [h.member?]
    cases s.host.member? (.instanceOf c) Special.call with
    | some found => exact h.callFound a found
    | none => exact simulated_raise _
  | _ => exact simulated_raise _

/-- Every call is simulated. -/
theorem performWith (h : s.Mirrored R p s' nested nested') (q : Request) :
    Simulated R id (s.performWith nested q) (s'.performWith nested' q) := by
  obtain ⟨callee, a⟩ := q
  unfold Stage.performWith
  cases callee with
  | member subject name =>
    exact simulated_bind (h.lookUp subject name) fun found => h.callFound a found
  | special subject name =>
    dsimp only
    rw [h.member?]
    cases s.host.member? subject name with
    | some found => exact h.callFound a found
    | none => exact simulated_raise _
  | thing v => exact h.callThing a v

end Stage.Mirrored

end AspectAgent
