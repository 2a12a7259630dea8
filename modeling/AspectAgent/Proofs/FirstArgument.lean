import AspectAgent.Proofs.BoundArguments
import AspectAgent.Proofs.PhaseMethod

/-!
# The first argument, as it is seen and as it is received

Whatever way a method is called, its first parameter after the receiver has one value in the body.
The view of the call shows this value, however the argument is spelled: the call binds the receiver
to the first parameter and goes on with what the view binds. There is one exception. A method that
takes an instance can be called on the class with a first argument that is none, a stranger: the
call still binds it to the first parameter, but the view, which knows of no receiver, binds it to
the next one. Only a parameter that takes surplus arguments makes this harmless.
-/

namespace AspectAgent

namespace Signature

/-- No keyword of a call names the receiver or a positional-only parameter. -/
structure NamedOpenly (s : Signature) (kind : MethodKind) (keywords : Table Value) : Prop where
  receiver : kind ≠ .receiverless → ∀ p, s.parameters.head? = some p →
    keywords.has p.name = false
  positionalOnly : Parameter.NoneHidden s.parameters keywords

end Signature

namespace FoundFunction

variable (h : Host) (f : FoundFunction) (a : Arguments)

/-- A method that takes an instance is called on a class with a first argument that is no instance
of it. -/
def TakesStranger : Prop :=
  f.kind = .onInstance ∧ ∃ c v vs, f.subject = .classOf c ∧ a.positional = v :: vs ∧
    h.isInstance v c.index = false

@[simp] theorem target_kind : (f.target h a).kind = f.kind := by
  unfold target
  dsimp only
  repeat' split
  all_goals simp [*]

@[simp] theorem target_function : (f.target h a).function = f.function := by
  unfold target
  dsimp only
  repeat' split
  all_goals rfl

@[simp] theorem keywords_target : (f.target h a).arguments.keywords = a.keywords := by
  unfold target
  dsimp only
  repeat' split
  all_goals rfl

variable {h f a}

/-- Unless it takes a stranger, what a method leaves of its arguments for the parameters after the
receiver is what the view of the call shows. -/
theorem positional_target (hkind : f.kind ≠ .receiverless) (hstranger : ¬ f.TakesStranger h a) :
    (f.target h a).arguments.positional = (f.target h a).allArguments.positional.tail := by
  obtain ⟨owner, member, kind, function, subject⟩ := f
  cases kind with
  | receiverless => exact absurd rfl hkind
  | onClass => cases subject <;> rfl
  | onInstance =>
    cases subject with
    | classOf c =>
      cases hpositional : a.positional with
      | nil => simp [target, Target.allArguments, hpositional]
      | cons v vs =>
        cases hinstance : h.isInstance v c.index with
        | true => simp [target, Target.allArguments, hpositional, hinstance]
        | false => exact absurd ⟨rfl, c, v, vs, rfl, hpositional, hinstance⟩ hstranger
    | _ => rfl

/-- A stranger is among the arguments that the view shows. -/
theorem target_of_stranger (hstranger : f.TakesStranger h a) :
    ∃ v vs, a.positional = v :: vs ∧ (f.target h a).arguments = a ∧
      (f.target h a).allArguments = a := by
  obtain ⟨hkind, c, v, vs, hsubject, hpositional, hinstance⟩ := hstranger
  have htarget : f.target h a = ⟨f.owner, f.member, f.kind, f.function, none, a⟩ := by
    simp [target, hkind, hsubject, hpositional, hinstance]
  rw [htarget]
  exact ⟨v, vs, hpositional, rfl, rfl⟩

/-- A method without a receiver gets the arguments of the call. -/
theorem allArguments_of_receiverless (hkind : f.kind = .receiverless) :
    (f.target h a).allArguments = (f.target h a).arguments := by
  simp [target, Target.allArguments, hkind]

end FoundFunction

namespace Binding

variable {p q : Parameter} {ps : List Parameter} {vs ws : List Value} {keywords bound : Table Value}

/-- The rules give the receiver to the first parameter, a positional one, and go on with the other
arguments. -/
theorem assign?_receiver (hq : q.kind = .positionalOnly ∨ q.kind = .positional)
    (hfree : keywords.has q.name = false) (h : assign? (q :: ps) vs keywords = some bound) :
    ∃ (v : Value) (rest : Table Value), bound = (q.name, v) :: rest ∧
      assign? ps vs.tail keywords = some rest := by
  cases vs with
  | nil =>
    have hvariadic : q.isVariadic = false := by
      rcases hq with hq | hq <;> simp [Parameter.isVariadic, hq]
    rw [assign?_named hvariadic, Table.remove_of_not_has hfree, Option.bind_eq_some_iff] at h
    obtain ⟨v, -, hv⟩ := h
    obtain ⟨rest, hrest, rfl⟩ := Option.map_eq_some_iff.mp hv
    exact ⟨v, rest, rfl, hrest⟩
  | cons v vs =>
    rw [assign?_positional hq, hfree, if_neg Bool.false_ne_true] at h
    obtain ⟨rest, hrest, rfl⟩ := Option.map_eq_some_iff.mp h
    exact ⟨v, rest, rfl, hrest⟩

/-- Behind a parameter that takes surplus arguments the positional ones make no difference. -/
theorem assign?_behind_surplus (hq : q.kind = .surplus)
    (h : assign? (q :: ps) vs keywords = some bound) (ws : List Value) :
    ∃ rest : Table Value, bound = (q.name, .tuple vs) :: rest ∧
      assign? (q :: ps) ws keywords = some ((q.name, .tuple ws) :: rest) := by
  rw [assign?_surplus hq] at h
  obtain ⟨rest, hrest, rfl⟩ := Option.map_eq_some_iff.mp h
  exact ⟨rest, rfl, by rw [assign?_surplus hq, hrest, Option.map_some]⟩

/-- The first positional argument can only go to the first parameter. -/
theorem assign?_first (hp : p.isVariadic = false)
    (h : assign? (p :: ps) (v :: vs) keywords = some bound) : bound.get? p.name = some v := by
  cases hturn : turn p (v :: vs) with
  | surplus _ hkind => simp [Parameter.isVariadic, hkind] at hp
  | refused _ _ hkind => cases (assign?_refused hkind).symm.trans h
  | positional _ _ hkind =>
    rw [assign?_positional hkind] at h
    split at h
    · cases h
    · obtain ⟨rest, -, rfl⟩ := Option.map_eq_some_iff.mp h
      simp [Table.get?]

end Binding

namespace Binding

variable {ps : List Parameter} {p : Parameter} {a : Arguments} {bound : Table Value}

/-- The first numbered parameter is the first of all, or comes after one for surplus arguments. -/
theorem head?_numbered {x : Parameter} (hps : Parameter.WellFormed (x :: ps))
    (hp : (Signature.numbered (x :: ps)).head? = some p) :
    p = x ∨ x.kind = .surplus ∧ p ∈ ps := by
  cases hx : x.isVariadic with
  | false =>
    rw [Signature.numbered_cons_of_not_variadic ps hx, List.head?_cons, Option.some.injEq] at hp
    exact .inl hp.symm
  | true =>
    rw [Signature.numbered_cons_of_variadic ps hx] at hp
    have hmem : p ∈ ps := List.mem_of_mem_filter (List.mem_of_head? hp)
    rcases Parameter.isVariadic_iff.mp hx with hkind | hkind
    · exact .inr ⟨hkind, hmem⟩
    · rw [hps.eq_nil_of_surplusKeywords hkind] at hmem
      cases hmem

/-- A view that shows an argument binds all of them. -/
theorem bound_of_seenArgument {index : Int} {v : Value} (h : seenArgument ps a index = .ok v) :
    ∃ bound, seen? ps a.positional a.keywords = some bound := by
  cases hname : numberedName ps index with
  | error f =>
    rw [seenArgument, hname] at h
    cases h
  | ok name =>
    cases hseen : bindSeen ps a with
    | error f =>
      rw [seenArgument, hname, hseen] at h
      cases h
    | ok bound => exact ⟨bound, by simp [seen?, hseen, Except.toOption]⟩

/-- The argument at index zero is what the first numbered parameter is bound to. -/
theorem seenArgument_zero (hps : Parameter.WellFormed ps)
    (hkeywords : Parameter.NoneHidden ps a.keywords)
    (hp : (Signature.numbered ps).head? = some p)
    (hbound : assign? ps a.positional a.keywords = some bound) :
    ∃ v, seenArgument ps a 0 = .ok v ∧ bound.get? p.name = some v := by
  have hfirst : (Signature.numbered ps)[0]? = some p := by rw [← hp, List.head?_eq_getElem?]
  have hseen : bindSeen ps a = .ok bound := by
    have hrules : (bindSeen ps a).toOption = some bound :=
      (seen?_obeys.eq_assign? a.positional hps hkeywords).trans hbound
    cases hseen : bindSeen ps a with
    | error f => simp [hseen, Except.toOption] at hrules
    | ok _ => simpa [hseen, Except.toOption] using hrules
  obtain ⟨v, hv⟩ := Table.get?_isSome_of_mem_keys (t := bound) (k := p.name) (by
    rw [keys_assign? hbound]
    exact List.mem_map_of_mem (List.mem_of_mem_filter (List.mem_of_getElem? hfirst)))
  refine ⟨v, ?_, hv⟩
  rw [show (0 : Int) = ((0 : Nat) : Int) from rfl, seenArgument_of_getElem? hfirst (by decide),
    hseen]
  show Failure.ifNone _ (bound.get? p.name) = _
  rw [hv]
  rfl

end Binding

namespace FoundFunction

open Binding

variable {h : Host} {f : FoundFunction} {a : Arguments} {p : Parameter} {received : Table Value}

/-- The function is called with keywords that name neither its receiver, which is positional if
there is one, nor a positional-only parameter. After the receiver its first parameter that is not
variadic is this. -/
structure CalledOpenly (f : FoundFunction) (a : Arguments) (p : Parameter) : Prop where
  parameters : Parameter.WellFormed f.function.shown.parameters
  receiver : f.function.shown.TakesReceiver f.kind
  names : f.function.shown.NamedOpenly f.kind a.keywords
  first : f.function.shown.first? f.kind = some p

/-- The first argument goes astray: a stranger is taken, and no parameter for surplus arguments
stands before the first numbered one. -/
def Misdirects (h : Host) (f : FoundFunction) (a : Arguments) : Prop :=
  f.TakesStranger h a ∧
    (f.function.shown.withoutReceiver f.kind).head? = f.function.shown.first? f.kind

/-- What the body receives for the first parameter after the receiver is what the view of the call
shows as the first argument, unless this goes astray. -/
theorem seenArgument_of_received (hf : f.CalledOpenly a p) (hdirect : ¬ f.Misdirects h a)
    (hbind : bindCall f.function.shown.parameters (f.target h a).allArguments =
      some received) :
    ∃ v, seenArgument (f.function.shown.withoutReceiver f.kind) (f.target h a).arguments 0 =
      .ok v ∧ received.get? p.name = some v := by
  obtain ⟨hps, hreceiver, hnames, hp⟩ := hf
  have hassigned : assign? f.function.shown.parameters
      (f.target h a).allArguments.positional a.keywords = some received := by
    have hkeywords : (f.target h a).allArguments.keywords = a.keywords := f.keywords_target h a
    rw [← hbind, ← bindCall_obeys.eq_assign? _ hps hnames.positionalOnly, ← hkeywords]
  have hrest := Target.wellFormed_withoutReceiver f.kind hps
  have hhidden := Target.noneHidden_withoutReceiver f.kind hnames.positionalOnly
  rw [← f.keywords_target h a] at hhidden hassigned
  have shown : ∀ bound : Table Value, assign? (f.function.shown.withoutReceiver f.kind)
      (f.target h a).arguments.positional (f.target h a).arguments.keywords = some bound →
      ∃ v, seenArgument (f.function.shown.withoutReceiver f.kind) (f.target h a).arguments 0 =
        .ok v ∧ bound.get? p.name = some v :=
    fun _ => seenArgument_zero hrest hhidden hp
  by_cases hkind : f.kind = .receiverless
  · rw [allArguments_of_receiverless hkind] at hassigned
    refine shown received ?_
    rw [hkind]
    exact hassigned
  · obtain ⟨q, ps, hparameters, hq⟩ := hreceiver hkind
    have hwithout : f.function.shown.withoutReceiver f.kind = ps := by
      rw [Signature.withoutReceiver_of_receiver hkind, hparameters, List.drop_one, List.tail_cons]
    have hfirst : (Signature.numbered ps).head? = some p := by rw [← hwithout]; exact hp
    have hfree : (f.target h a).arguments.keywords.has q.name = false := by
      rw [f.keywords_target h a]
      exact hnames.receiver hkind q (by rw [hparameters, List.head?_cons])
    rw [hparameters] at hassigned hps
    obtain ⟨w, rest, rfl, hleft⟩ := assign?_receiver hq hfree hassigned
    have hreceived : Table.get? ((q.name, w) :: rest) p.name = rest.get? p.name :=
      if_neg (hps.name_ne (List.mem_of_mem_filter (List.mem_of_head? hfirst)))
    rw [hreceived]
    by_cases hstranger : f.TakesStranger h a
    · -- the stranger is one of the surplus arguments that the view shows
      cases ps with
      | nil => cases hfirst
      | cons x ps =>
        rcases head?_numbered hps.tail hfirst with rfl | ⟨hx, hmem⟩
        · exact absurd ⟨hstranger, by rw [hwithout, hp, List.head?_cons]⟩ hdirect
        · obtain ⟨others, rfl, hseen⟩ :=
            assign?_behind_surplus hx hleft (f.target h a).arguments.positional
          obtain ⟨v, hv, hget⟩ := shown _ (by rw [hwithout]; exact hseen)
          have hne : x.name ≠ p.name := hps.tail.name_ne hmem
          refine ⟨v, hv, ?_⟩
          simpa [Table.get?, hne] using hget
    · refine shown rest ?_
      rw [hwithout, positional_target hkind hstranger]
      exact hleft

/-- Where the first argument goes astray, all that the view can show as this argument is the
stranger. -/
theorem seenArgument_of_misdirects (hf : f.CalledOpenly a p) (hastray : f.Misdirects h a)
    {v : Value}
    (hv : seenArgument (f.function.shown.withoutReceiver f.kind) (f.target h a).arguments 0 =
      .ok v) : a.positional.head? = some v := by
  obtain ⟨hps, -, hnames, hp⟩ := hf
  obtain ⟨hstranger, hhead⟩ := hastray
  obtain ⟨stranger, vs, hpositional, harguments, -⟩ := target_of_stranger hstranger
  obtain ⟨ps, hparameters⟩ := List.head?_eq_some_iff.mp (hhead.trans hp)
  have hrest := Target.wellFormed_withoutReceiver f.kind hps
  have hhidden := Target.noneHidden_withoutReceiver f.kind hnames.positionalOnly
  have hvariadic : p.isVariadic = false := by
    simpa using List.of_mem_filter (List.mem_of_head? hp)
  rw [harguments] at hv
  rw [Signature.first?] at hp
  rw [hparameters] at hv hp hrest hhidden
  obtain ⟨bound, hbound⟩ := bound_of_seenArgument hv
  have hassigned := (seen?_obeys.eq_assign? a.positional hrest hhidden).symm.trans hbound
  obtain ⟨w, hw, hget⟩ := seenArgument_zero hrest hhidden hp hassigned
  rw [hpositional] at hassigned
  have hfirst := assign?_first hvariadic hassigned
  cases hv.symm.trans hw
  cases hget.symm.trans hfirst
  rw [hpositional, List.head?_cons]

end FoundFunction

end AspectAgent
