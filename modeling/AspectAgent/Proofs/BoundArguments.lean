import AspectAgent.Host.Call
import AspectAgent.Proofs.ArgumentNumbering
import AspectAgent.Proofs.CallBinding
import AspectAgent.Proofs.Members
import AspectAgent.Proofs.SeenBinding

/-!
# Bound arguments

What a view of a call shows as the arguments is what the body receives. The call binds all arguments
to all parameters, the view binds those without the receiver to the parameters without the first.
Both go by the rules of binding, and the receiver is what the rules give to the first parameter.

The view binds to the parameters that the method shows. Of a function that is wrapped around another
one these can be those of the other, while the call binds to its own.
-/

namespace AspectAgent

namespace Target

variable (t : Target)

/-- The method has no receiver, or takes it by its first parameter, a positional one. -/
inductive TakesReceiver : Prop
  | free (hkind : t.kind = .receiverless) (hreceiver : t.receiver = none)
  | first (p : Parameter) (ps : List Parameter) (v : Value) (hkind : t.kind ≠ .receiverless)
    (hps : t.function.shown.parameters = p :: ps)
    (hp : p.kind = .positionalOnly ∨ p.kind = .positional) (hreceiver : t.receiver = some v)

/-- What the receiver is bound to. -/
def boundReceiver : Table Value :=
  match t.receiver, t.function.shown.parameters with
  | some v, p :: _ => [(p.name, v)]
  | _, _ => []

/-- The body is run with what the parameters are bound to. -/
def runBody (nested : Nested) (bound : Table Value) : Act Run Value := do
  let r ← Act.read
  Run.emit (.body t.name r.inside)
  t.function.body.run nested t bound

/-- No keyword of the call names the receiver or a positional-only parameter. -/
structure NamesOpenly : Prop where
  receiver : ∀ e ∈ t.boundReceiver, t.arguments.keywords.has e.1 = false
  positionalOnly : Parameter.NoneHidden t.function.shown.parameters t.arguments.keywords

end Target

namespace Binding

open Parameter in
/-- A call binds the receiver, and what a view of the call shows. -/
theorem bindCall_eq_seen {t : Target} (hps : WellFormed t.function.shown.parameters)
    (hreceiver : t.TakesReceiver) (hnames : t.NamesOpenly) :
    bindCall t.function.shown.parameters t.allArguments =
      (bindSeen (t.function.shown.withoutReceiver t.kind) t.arguments).toOption.map
        (t.boundReceiver ++ ·) := by
  have agree : ∀ {ps}, WellFormed ps → NoneHidden ps t.arguments.keywords →
      bindCall ps t.arguments = (bindSeen ps t.arguments).toOption := by
    intro ps hps hkeywords
    have hcall := bindCall_obeys.eq_assign? t.arguments.positional hps hkeywords
    have hseen := seen?_obeys.eq_assign? t.arguments.positional hps hkeywords
    exact hcall.trans hseen.symm
  cases hreceiver with
  | free hkind hreceiver =>
    have hnone : t.boundReceiver = [] := by
      rw [Target.boundReceiver, hreceiver]
    have hall : t.allArguments = t.arguments := by
      rw [Target.allArguments, hreceiver]
      rfl
    rw [hall, hkind, hnone, agree hps hnames.positionalOnly]
    simp [Signature.withoutReceiver]
  | first p ps v hkind hps' hp hreceiver =>
    have hentry : t.boundReceiver = [(p.name, v)] := by
      rw [Target.boundReceiver, hreceiver, hps']
    have hfree : t.arguments.keywords.has p.name = false :=
      hnames.receiver (p.name, v) (by rw [hentry]; exact List.mem_singleton_self _)
    have hall : t.allArguments = ⟨v :: t.arguments.positional, t.arguments.keywords⟩ := by
      rw [Target.allArguments, hreceiver]
      rfl
    have hkeywords := hnames.positionalOnly
    rw [hps'] at hps hkeywords
    rw [hall, hps', bindCall_positional v _ hkeywords hp, hfree, if_neg Bool.false_ne_true,
      agree hps.tail hkeywords.tail, Signature.withoutReceiver_of_receiver hkind, hps', hentry]
    rfl

end Binding

namespace Target

variable {t : Target}

theorem wellFormed_withoutReceiver (kind : MethodKind) {s : Signature}
    (h : Parameter.WellFormed s.parameters) : Parameter.WellFormed (s.withoutReceiver kind) := by
  cases kind with
  | receiverless => exact h
  | _ => exact h.drop 1

theorem noneHidden_withoutReceiver (kind : MethodKind) {s : Signature} {keywords : Table Value}
    (h : Parameter.NoneHidden s.parameters keywords) :
    Parameter.NoneHidden (s.withoutReceiver kind) keywords := by
  cases kind with
  | receiverless => exact h
  | _ => exact fun p hp => h p (List.mem_of_mem_drop hp)

/-- The receiver has a name that no other parameter has. -/
theorem get?_boundReceiver_append (hreceiver : t.TakesReceiver)
    (hps : Parameter.WellFormed t.function.shown.parameters) {p : Parameter}
    (hp : p ∈ t.function.shown.withoutReceiver t.kind) (bound : Table Value) :
    Table.get? (t.boundReceiver ++ bound) p.name = bound.get? p.name := by
  cases hreceiver with
  | free hkind hnone =>
    rw [boundReceiver, hnone]
    rfl
  | first q ps v hkind hps' hq hsome =>
    rw [Signature.withoutReceiver_of_receiver hkind, hps'] at hp
    rw [hps'] at hps
    rw [boundReceiver, hsome, hps']
    exact if_neg (hps.name_ne hp)

end Target

/-- A method whose arguments bind runs its body with what they are bound to. -/
theorem Target.enter_of_bindCall (t : Target) {bound : Table Value}
    (h : Binding.bindCall t.function.signature.parameters t.allArguments = some bound)
    (nested : Nested) : t.enter nested = t.runBody nested bound := by
  unfold Target.enter
  rw [h]
  rfl

open Binding in
/-- **Bound arguments.** A method shows its own signature. Then a view of a call shows arguments
just if the call binds. The body runs with the receiver and with what the view shows, which is one
value for each parameter other than the receiver, in their order; the argument at an index is what
the body receives for the numbered parameter there. -/
theorem bound_arguments (t : Target) (l : Layer) (result : Value) (failure : Option Failure)
    (hshown : t.function.shown = t.function.signature)
    (hps : Parameter.WellFormed t.function.signature.parameters) (hreceiver : t.TakesReceiver)
    (hnames : t.NamesOpenly) :
    let c := l.view t result failure
    let received := bindCall t.function.signature.parameters t.allArguments
    ((∃ bound, bindSeen c.parameters c.arguments = .ok bound) ↔ received.isSome) ∧
      ∀ bound, bindSeen c.parameters c.arguments = .ok bound →
        received = some (t.boundReceiver ++ bound) ∧
        (∀ nested, t.enter nested = t.runBody nested (t.boundReceiver ++ bound)) ∧
        bound.keys = c.parameters.map Parameter.name ∧
        (∀ p ∈ c.parameters, ∃ v, bound.get? p.name = some v ∧
          (received.bind fun all => all.get? p.name) = some v) ∧
        ∀ (i : Nat) p, (Signature.numbered c.parameters)[i]? = some p →
          (i : Int) < Int.pow 2 63 → ∃ v, seenArgument c.parameters c.arguments i = .ok v ∧
            (received.bind fun all => all.get? p.name) = some v := by
  intro c received
  rw [← hshown] at hps
  have hreceived : received = (bindSeen c.parameters c.arguments).toOption.map
      (t.boundReceiver ++ ·) := by
    rw [show received = bindCall t.function.shown.parameters t.allArguments by rw [hshown]]
    exact bindCall_eq_seen hps hreceiver hnames
  constructor
  · cases hseen : bindSeen c.parameters c.arguments with
    | error f => simp [hreceived, hseen, Except.toOption]
    | ok bound => simp [hreceived, hseen, Except.toOption]
  · intro bound hbound
    rw [hbound] at hreceived
    change received = some (t.boundReceiver ++ bound) at hreceived
    have hkeys : bound.keys = c.parameters.map Parameter.name := by
      have hrules := seen?_obeys.eq_assign? t.arguments.positional
        (Target.wellFormed_withoutReceiver t.kind hps)
        (Target.noneHidden_withoutReceiver t.kind hnames.positionalOnly)
      exact keys_assign? (hrules.symm.trans (congrArg Except.toOption hbound))
    have hvalue : ∀ p ∈ c.parameters, ∃ v, bound.get? p.name = some v ∧
        (received.bind fun all => all.get? p.name) = some v := by
      intro p hp
      obtain ⟨v, hv⟩ := Table.get?_isSome_of_mem_keys (hkeys ▸ List.mem_map_of_mem hp)
      refine ⟨v, hv, ?_⟩
      rw [hreceived, Option.bind_some, Target.get?_boundReceiver_append hreceiver hps hp, hv]
    have hbody : ∀ nested, t.enter nested = t.runBody nested (t.boundReceiver ++ bound) :=
      fun nested => t.enter_of_bindCall hreceived nested
    refine ⟨hreceived, hbody, hkeys, hvalue, fun i p hp hi => ?_⟩
    obtain ⟨v, hv, hall⟩ := hvalue p (List.mem_of_mem_filter (List.mem_of_getElem? hp))
    refine ⟨v, ?_, hall⟩
    rw [seenArgument_of_getElem? hp hi, hbound]
    show Failure.ifNone _ (bound.get? p.name) = _
    rw [hv]
    rfl

/-- A method with a parameter of each kind, its receiver first. -/
def Signature.varied : Signature where
  parameters := [{ name := "self", kind := .positionalOnly }, { name := "n" },
    { name := "rest", kind := .surplus },
    { name := "key", kind := .keywordOnly, default := some (.int 5) },
    { name := "others", kind := .surplusKeywords }]

/-- A call of it with surplus arguments of both sorts. -/
def Target.varied : Target where
  owner := .countdown []
  member := .countdown []
  kind := .onInstance
  function := { HostFunction.countdown with signature := .varied }
  receiver := some (.int 0)
  arguments := { positional := [.int 1, .int 2], keywords := [("more", .int 3)] }

theorem bound_arguments_of_varied :
    let t := Target.varied
    let parameters := t.function.signature.parameters
    t.function.shown = t.function.signature ∧ Parameter.WellFormed parameters ∧
      t.TakesReceiver ∧ t.NamesOpenly ∧
      Binding.bindCall parameters t.allArguments =
        some [("self", .int 0), ("n", .int 1), ("rest", .tuple [.int 2]), ("key", .int 5),
          ("others", .map [("more", .int 3)])] ∧
      Binding.seenArgument (t.function.shown.withoutReceiver t.kind) t.arguments 1 =
        .ok (.int 5) := by
  intro t parameters
  have hps : Parameter.WellFormed parameters := ⟨by decide, by decide, by decide⟩
  have hreceiver : t.TakesReceiver := .first _ _ _ nofun rfl (.inl rfl) rfl
  have hnames : t.NamesOpenly := by
    constructor
    · decide
    · unfold Parameter.NoneHidden
      decide
  let l : Layer := ⟨⟨"app.Countdown", "step", .onCountdown "log" .onEntry []⟩, 0⟩
  obtain ⟨hcall, -, -, -, hargument⟩ :=
    (bound_arguments t l .null none rfl hps hreceiver hnames).2 _ rfl
  obtain ⟨v, hv, hreceived⟩ := hargument 1 _ rfl (by decide)
  refine ⟨rfl, hps, hreceiver, hnames, hcall, hv.trans ?_⟩
  rw [hcall] at hreceived
  cases hreceived
  rfl

/-- A wrapper that hands a session to the function that it is wrapped around, and shows the
signature of that function. -/
def HostFunction.handingSession (others : List Parameter) : HostFunction where
  name := "withSession"
  signature := { parameters := [{ name := "self" }, { name := "args", kind := .surplus },
    { name := "kwargs", kind := .surplusKeywords }] }
  body := .locals
  wrapped := some { parameters := [{ name := "self" }, { name := "session" }] ++ others }

/-- A call of it on an instance with one argument. -/
def Target.handingSession (others : List Parameter) : Target where
  owner := .countdown []
  member := .countdown []
  kind := .onInstance
  function := .handingSession others
  receiver := some (.int 0)
  arguments := { positional := [.int 7] }

/-- The arguments of a wrapper are shown for the parameters of the function that it is wrapped
around, or not at all, whatever it receives itself. A method that is called on its class with a
stranger binds it to the receiver, and the view has one argument too many. -/
theorem arguments_unlike_received :
    let saved : Parameter := { name := "n", default := some (.int 0) }
    let seen := fun t : Target => Binding.bindSeen (t.function.shown.withoutReceiver t.kind)
      t.arguments
    let received := fun t : Target => Binding.bindCall t.function.signature.parameters
      t.allArguments
    let save := Target.handingSession [saved]
    let need := Target.handingSession [{ name := "key" }]
    let f : FoundFunction := ⟨.countdown [], .countdown [], .onInstance, .countdown,
      .classOf (HostClass.countdown []).ref⟩
    let t := f.target (.countdown []) { positional := [.int 5, .int 2] }
    (save.TakesReceiver ∧ save.NamesOpenly ∧ need.TakesReceiver ∧ need.NamesOpenly) ∧
      received save = some [("self", .int 0), ("args", .tuple [.int 7]), ("kwargs", .map [])] ∧
      seen save = .ok [("session", .int 7), ("n", .int 0)] ∧
      (received need).isSome ∧ seen need = .error (.missingArgument "key") ∧
      received t = some [("self", .int 5), ("n", .int 2)] ∧ seen t = .error .surplusArguments := by
  intro saved seen received save need f t
  have hnames : ∀ others, (Target.handingSession others).NamesOpenly := fun others =>
    ⟨fun _ _ => rfl, fun _ _ _ => rfl⟩
  have hreceiver : ∀ others, (Target.handingSession others).TakesReceiver := fun others =>
    .first _ _ _ nofun rfl (.inr rfl) rfl
  exact ⟨⟨hreceiver _, hnames _, hreceiver _, hnames _⟩, rfl, rfl, rfl, rfl, rfl, rfl⟩

end AspectAgent
