import AspectAgent.Proofs.Contract
import AspectAgent.Proofs.Layering

/-!
# Contracts of host calls

Whatever bodies and advice do, a call only lets events happen, asks guards for advice, runs methods
with their layers and reads properties. `Run.Admits` and `Stage.Upholds` list these as obligations
of a contract on runs, and every call and every piece of advice, however deeply nested, then meets
the contract. The induction over the nesting is made here, once for all contracts.
-/

namespace AspectAgent

open Act Contract

namespace Event

/-- Does the event tell the truth about whether advice is running? -/
def AgreesWith (inside : Bool) : Event → Prop
  | .body _ during => during = inside
  | .advice _ (.inside running) => running = inside
  | _ => True

/-- Is it the start of a method body? -/
def isBody : Event → Bool
  | .body .. => true
  | _ => false

end Event

namespace Host

/-- The function belongs to a member of a class of the host, which has this content. -/
def Declares (h : Host) (f : FoundFunction) (content : MemberContent) : Prop :=
  f.member.content = content ∧
    ∃ lineage name, h.find? lineage name = some (f.owner, f.member)

/-- The function is a method of the host. -/
def DeclaresMethod (h : Host) (f : FoundFunction) : Prop :=
  h.Declares f (.method f.kind f.function)

/-- The function is a property of the host. -/
def DeclaresProperty (h : Host) (f : FoundFunction) : Prop := h.Declares f (.property f.function)

end Host

namespace Found

/-- The functions in what was found are functions of the host. -/
def IsOf (h : Host) : Found → Prop
  | .method f => h.DeclaresMethod f
  | .property f => h.DeclaresProperty f
  | _ => True

end Found

namespace Host

variable {h : Host} {subject : Value} {name : String} {found : Found}

theorem found?_isOf {lineage : List Nat} (hf : h.found? lineage subject name = some found) :
    found.IsOf h := by
  unfold found? at hf
  rw [Option.map_eq_some_iff] at hf
  obtain ⟨⟨owner, m⟩, hfind, rfl⟩ := hf
  dsimp only
  split
  · rename_i hcontent
    exact ⟨hcontent, lineage, name, hfind⟩
  · rename_i hcontent
    exact ⟨hcontent, lineage, name, hfind⟩
  all_goals trivial

theorem member?_isOf (hf : h.member? subject name = some found) : found.IsOf h := found?_isOf hf

theorem universal?_isOf (hf : h.universal? subject name = some found) : found.IsOf h := by
  unfold universal? at hf
  split at hf
  · cases hf
    trivial
  · split at hf
    · cases hf
      trivial
    · cases hf
  · split at hf
    · cases hf
      trivial
    · cases hf
  · cases hf

theorem found_isOf (hf : (h.member? subject name <|> h.universal? subject name) = some found) :
    found.IsOf h := by
  simp only [Option.orElse_eq_orElse, Option.orElse_eq_or, Option.or_eq_some_iff] at hf
  rcases hf with hm | ⟨-, hu⟩
  · exact member?_isOf hm
  · exact universal?_isOf hu

end Host

/-- All that can be started meets the contract. -/
structure Nested.Meets (n : Nested) (C : Contract Run) : Prop where
  call : ∀ q, C.Meets (n.call q)
  advise : ∀ a subject, C.Meets (n.advise a subject)

/-- What a contract has to allow so that advice meets it: true events, the starts of bodies apart,
and guards that are asked directly. -/
structure Run.Admits (C : Contract Run) : Prop where
  occur : ∀ r e, e.isBody = false → e.AgreesWith r.inside → C.allows true r (r.occur e)
  asked : ∀ g site (x : AdviceSubject → Act Run Value), C.Meets (x (.bare site)) →
    C.Meets (guarded g (.bare site) x)

/-- What it has to allow so that all calls on a stage meet it: also the methods of the host with
their layers, and its properties. -/
structure Stage.Upholds (s : Stage) (C : Contract Run) : Prop extends Run.Admits C where
  method : ∀ n, (s.perform n).Meets C → ∀ f a, s.host.DeclaresMethod f →
    C.Meets ((f.target s.host a).layered (s.perform n) s)
  property : ∀ n, (s.perform n).Meets C → ∀ f, s.host.DeclaresProperty f →
    C.Meets ((f.target s.host {}).enter (s.perform n))

theorem Nested.exhausted_meets (C : Contract Run) : Nested.exhausted.Meets C :=
  ⟨fun _ => meets_unfinished, fun _ _ => meets_unfinished⟩

theorem Nested.Meets.body {C : Contract Run} {nested : Nested} (hn : nested.Meets C) (t : Target)
    (bound : Table Value) (b : Body) : C.Meets (b.run nested t bound) := by
  induction b with
  | give v => exact meets_give v
  | raise f => exact meets_raise f
  | parameter name => exact meets_give _
  | locals => exact meets_give _
  | call method positional => exact hn.call _
  | recurse name =>
    refine meets_bind (meets_ofExcept _) fun less => ?_
    cases less with
    | none => exact meets_pure _
    | some v => exact meets_bind (hn.call _) fun _ => meets_ofExcept _
  | inTurn first rest ihFirst ihRest => exact meets_bind ihFirst fun _ => ihRest
  | catching catches tried handler ihTried ihHandler =>
    refine meets_bind (meets_attempt ihTried) fun result => ?_
    cases result with
    | ok v => exact meets_pure v
    | error f =>
      dsimp only
      split
      · exact ihHandler
      · exact meets_raise f

/-- The run in which a method has been entered: its body has begun if its arguments can be bound. -/
def Target.begun (t : Target) (r : Run) : Run :=
  match Binding.bindCall t.function.signature.parameters t.allArguments with
  | none => r
  | some _ => r.occur (.body t.name r.inside)

/-- What a method does after it has been entered meets the contract. -/
theorem Nested.Meets.begun {C : Contract Run} {nested : Nested} (hn : nested.Meets C) (t : Target)
    (r : Run) : C.allows (t.enter nested r).1.isFinished (t.begun r) (t.enter nested r).2 := by
  unfold Target.enter Target.begun
  cases Binding.bindCall t.function.signature.parameters t.allArguments with
  | none => exact C.refl true r
  | some bound => exact hn.body t bound t.function.body _

/-- A method meets a contract that allows the start of its body. -/
theorem Nested.Meets.enter {C : Contract Run} {nested : Nested} (hn : nested.Meets C) (t : Target)
    (ht : ∀ r, C.allows true r (r.occur (.body t.name r.inside))) : C.Meets (t.enter nested) := by
  intro r
  refine C.trans ?_ (hn.begun t r)
  unfold Target.begun
  cases Binding.bindCall t.function.signature.parameters t.allArguments with
  | none => exact C.refl true r
  | some bound => exact ht r

theorem AdviceSubject.view_meets {C : Contract Run} (part : String) (subject : AdviceSubject) :
    C.Meets (subject.view part) := by
  cases subject with
  | call c => exact meets_give c
  | bare site => exact meets_raise _

namespace Run.Admits

variable {C : Contract Run} {s : Stage} {nested : Nested}

theorem emit (hs : Run.Admits C) {e : Event} (hb : e.isBody = false)
    (he : ∀ inside, e.AgreesWith inside) : C.Meets (Run.emit e) :=
  fun r => hs.occur r e hb (he r.inside)

theorem runActions (hs : Run.Admits C) (hn : nested.Meets C) (id : String)
    (actions : List AdviceAction) (subject : AdviceSubject) :
    C.Meets (Advice.runActions nested s id subject actions) := by
  induction actions generalizing subject with
  | nil => exact meets_give _
  | cons action rest ih =>
    have noted : ∀ o, (∀ inside, (Event.advice id o).AgreesWith inside) →
        C.Meets (Run.emit (.advice id o) >>= fun _ => Advice.runActions nested s id subject rest) :=
      fun o ho => meets_bind (hs.emit rfl ho) fun _ => ih subject
    cases action with
    | record => exact meets_bind (AdviceSubject.view_meets _ _) fun c => noted _ fun _ => trivial
    | arguments =>
      exact meets_bind (AdviceSubject.view_meets _ _) fun c =>
        meets_bind (meets_ofExcept _) fun _ => noted _ fun _ => trivial
    | argument index =>
      exact meets_bind (AdviceSubject.view_meets _ _) fun c =>
        meets_bind (meets_ofExcept _) fun _ => noted _ fun _ => trivial
    | inside =>
      refine meets_read fun r => meetsAt_bind (hs.occur r _ rfl rfl) fun _ r' _ => ?_
      exact ih subject r'
    | faults => exact meets_read fun r => noted (.faults _) (fun _ => trivial) r
    | raise f => exact meets_raise f
    | give v => exact meets_pure v
    | call method positional =>
      exact meets_bind (AdviceSubject.view_meets _ _) fun c => meets_bind (hn.call _) fun _ =>
        noted _ fun _ => trivial
    | setResult v => exact ih _
    | setKeyword name v => exact meets_bind (AdviceSubject.view_meets _ _) fun _ => meets_raise _
    | invoke other site =>
      unfold Advice.runActions
      dsimp only
      split
      · exact meets_raise _
      · exact meets_bind (hs.asked _ _ _ (hn.advise _ _)) fun _ => noted _ fun _ => trivial

theorem advice (hs : Run.Admits C) (hn : nested.Meets C) (a : Advice) (subject : AdviceSubject) :
    C.Meets (a.run nested s subject) := by
  cases a with
  | scripted id actions => exact hs.runActions hn id actions subject
  | spanNaming number policyFailure =>
    refine meets_bind (AdviceSubject.view_meets _ _) fun c => meets_bind (meets_ofExcept _) fun v =>
      meets_bind (hs.emit rfl fun _ => trivial) fun _ => ?_
    cases policyFailure with
    | none => exact meets_pure _
    | some f => exact meets_raise f

/-- Layers meet what every guard meets. -/
theorem layered (hs : Run.Admits C) (hn : nested.Meets C)
    (guarded : ∀ g subject (x : AdviceSubject → Act Run Value), C.Meets (x subject) →
      C.Meets (guarded g subject x)) (t : Target) (ht : C.Meets (t.enter nested)) :
    C.Meets (t.layered nested s) := by
  have fire : ∀ view (l : Layer), C.Meets (s.fireOn nested view l) := fun view l =>
    meets_bind (guarded _ _ _ (hs.advice hn _ _)) fun _ => meets_pure ()
  have around : ∀ (l : Layer) (rest : Act Run Value), C.Meets rest →
      C.Meets (l.around nested s t rest) := by
    intro l rest hrest
    by_cases hphase : l.site.descriptor.phase = .onEntry
    · rw [around_of_entry hphase]
      exact meets_bind (fire _ l) fun _ => hrest
    · rw [around_of_exit hphase]
      refine meets_bind (meets_attempt hrest) fun result => ?_
      exact meets_bind (meets_forEach _ fun l _ => fire _ l) fun _ => meets_ofExcept _
  unfold Target.layered
  generalize t.enter nested = x at ht ⊢
  induction t.member.layers generalizing x with
  | nil => exact ht
  | cons l rest ih => exact ih _ (around l x ht)

end Run.Admits

namespace Stage.Upholds

variable {C : Contract Run} {s : Stage} {n : Nat}

theorem read (hs : s.Upholds C) (hn : (s.perform n).Meets C) {found : Found}
    (hf : found.IsOf s.host) : C.Meets (s.read (s.perform n) found) := by
  cases found with
  | property f => exact meets_bind (hs.property n hn f hf) fun _ => meets_pure _
  | method f => exact meets_give _
  | value v => exact meets_give _
  | idle refused => exact meets_give _

theorem ask (hn : (s.perform n).Meets C) (subject : Value) (name special : String) :
    C.Meets (Stage.ask (s.perform n) subject name special) :=
  meets_bind (hn.call _) fun _ => meets_pure _

theorem lookUpPlainly (hs : s.Upholds C) (hn : (s.perform n).Meets C) (subject : Value)
    (name : String) : C.Meets (s.lookUpPlainly (s.perform n) subject name) := by
  unfold Stage.lookUpPlainly
  split
  · rename_i found hfound
    exact hs.read hn (Host.found_isOf hfound)
  · exact meets_raise _

theorem lookUp (hs : s.Upholds C) (hn : (s.perform n).Meets C) (subject : Value) (name : String) :
    C.Meets (s.lookUp (s.perform n) subject name) := by
  unfold Stage.lookUp
  split
  · refine meets_orElse ?_ fun f => ?_
    · split
      · exact ask hn _ _ _
      · exact hs.lookUpPlainly hn _ _
    · split
      · exact ask hn _ _ _
      · exact meets_raise f
  · exact hs.lookUpPlainly hn _ _

end Stage.Upholds

namespace Stage

variable {s : Stage} {nested : Nested} {found : Found}

theorem read_isOf (hf : found.IsOf s.host) : (s.read nested found).Yields (Found.IsOf s.host) := by
  cases found with
  | property f => exact yields_bind (yields_any _) fun v _ => yields_give trivial
  | method f => exact yields_give hf
  | value v => exact yields_give hf
  | idle refused => exact yields_give hf

theorem ask_isOf (subject : Value) (name special : String) :
    (ask nested subject name special).Yields (Found.IsOf s.host) :=
  yields_bind (yields_any _) fun _ _ => yields_give trivial

theorem lookUpPlainly_isOf (subject : Value) (name : String) :
    (s.lookUpPlainly nested subject name).Yields (Found.IsOf s.host) := by
  unfold lookUpPlainly
  split
  · rename_i found hfound
    exact read_isOf (Host.found_isOf hfound)
  · exact yields_raise _

/-- A look-up finds no function but those of the host. -/
theorem lookUp_isOf (subject : Value) (name : String) :
    (s.lookUp nested subject name).Yields (Found.IsOf s.host) := by
  unfold lookUp
  split
  · refine yields_orElse ?_ fun f => ?_
    · split
      · exact ask_isOf _ _ _
      · exact lookUpPlainly_isOf _ _
    · split
      · exact ask_isOf _ _ _
      · exact yields_raise f
  · exact lookUpPlainly_isOf _ _

end Stage

namespace Stage.Upholds

variable {C : Contract Run} {s : Stage} {n : Nat}

theorem callFound (hs : s.Upholds C) (hn : (s.perform n).Meets C) (a : Arguments) {found : Found}
    (hf : found.IsOf s.host) : C.Meets (s.callFound (s.perform n) a found) := by
  cases found with
  | method f => exact hs.method n hn f a hf
  | property f => exact meets_bind (hs.property n hn f hf) fun _ => hn.call _
  | value v => exact hn.call _
  | idle refused =>
    unfold Stage.callFound
    dsimp only
    split
    · exact meets_raise _
    · exact meets_give _

theorem prepare (hs : s.Upholds C) (hn : (s.perform n).Meets C) (made : Value) (a : Arguments) :
    C.Meets (s.prepare (s.perform n) made a) := by
  unfold Stage.prepare
  split
  · exact meets_pure _
  · rename_i found hfound
    refine meets_bind (hs.callFound hn a (Host.member?_isOf hfound)) fun v => ?_
    split
    · exact meets_pure _
    · exact meets_raise _

theorem make (hs : s.Upholds C) (hn : (s.perform n).Meets C) (c : ClassRef) (a : Arguments) :
    C.Meets (s.make (s.perform n) c a) := by
  have prepared : ∀ made : Value, C.Meets
      (if s.host.isInstance made c.index then s.prepare (s.perform n) made a else pure made) := by
    intro made
    split
    · exact hs.prepare hn _ _
    · exact meets_pure _
  unfold Stage.make
  dsimp only
  split
  · rename_i found hfound
    exact meets_bind (hs.callFound hn _ (Host.member?_isOf hfound)) prepared
  · split
    · exact meets_bind (meets_give _) prepared
    · exact meets_bind (meets_raise _) prepared

theorem callThing (hs : s.Upholds C) (hn : (s.perform n).Meets C) (a : Arguments) (v : Value) :
    C.Meets (s.callThing (s.perform n) a v) := by
  unfold Stage.callThing
  split
  · exact hs.make hn _ a
  · split
    · rename_i found hfound
      exact hs.callFound hn a (Host.member?_isOf hfound)
    · exact meets_raise _
  · exact meets_raise _

theorem performWith (hs : s.Upholds C) (hn : (s.perform n).Meets C) (q : Request) :
    C.Meets (s.performWith (s.perform n) q) := by
  unfold Stage.performWith
  split
  · rename_i subject name _
    refine fun r => meetsAt_bind (hs.lookUp hn subject name r) fun found r' hfound => ?_
    exact hs.callFound hn _ (Stage.lookUp_isOf subject name r found r' hfound) r'
  · split
    · rename_i found hfound
      exact hs.callFound hn _ (Host.member?_isOf hfound)
    · exact meets_raise _
  · exact hs.callThing hn _ _

/-- All calls and all advice on the stage meet the contract. -/
theorem perform (hs : s.Upholds C) (n : Nat) : (s.perform n).Meets C := by
  induction n with
  | zero => exact Nested.exhausted_meets C
  | succ n ih => exact ⟨fun q => hs.performWith ih q, fun a subject => hs.advice ih a subject⟩

end Stage.Upholds

end AspectAgent
