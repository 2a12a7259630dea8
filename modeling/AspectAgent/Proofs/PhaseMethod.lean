import AspectAgent.Host.Lookup
import AspectAgent.Lifecycle
import AspectAgent.Proofs.ArgumentNumbering
import AspectAgent.Proofs.FirstWeaving
import Mathlib.Data.List.Nodup

/-!
# The weaving of a phase method

The descriptor of a phase asks for two things: the name of the method, and the declared type of the
first parameter that is numbered after the receiver. Its matchers never fail. So it selects the one
method of the name if that takes the context, and nothing otherwise, and to weave it puts one layer
around this method or changes nothing.
-/

namespace AspectAgent

namespace Signature

variable (s : Signature) (kind : MethodKind)

/-- A method that has a receiver takes it by its first parameter, a positional one. -/
def TakesReceiver : Prop :=
  kind ≠ .receiverless → ∃ p ps, s.parameters = p :: ps ∧
    (p.kind = .positionalOnly ∨ p.kind = .positional)

/-- The first parameter after the receiver that is not variadic. -/
def first? : Option Parameter := (numbered (s.withoutReceiver kind)).head?

/-- The first parameter after the receiver that is not variadic has this declared type. -/
def TakesFirst (typeName : String) : Prop := (s.first? kind).bind s.declaredType = some typeName

instance (typeName : String) : Decidable (s.TakesFirst kind typeName) :=
  inferInstanceAs (Decidable (_ = _))

variable {s kind}

theorem TakesReceiver.receiverIsNumbered (h : s.TakesReceiver kind) :
    s.ReceiverIsNumbered kind := by
  intro hkind p hp
  obtain ⟨q, ps, hps, hq⟩ := h hkind
  rw [hps, List.head?_cons, Option.some.injEq] at hp
  subst hp
  rcases hq with hq | hq <;> simp [Parameter.isVariadic, hq]

/-- The first parameter is the first that a description shows. -/
theorem head?_parameterTypes (h : s.TakesReceiver kind) (name : String) :
    (s.describe name kind).parameterTypes.head? = (s.first? kind).map s.declaredType := by
  rw [describe, described_eq_numbered h.receiverIsNumbered, List.head?_map, first?]

end Signature

namespace Lifecycle

variable (contextType methodName : String)

/-- The method matcher compares the name and the first declared type. It never fails. -/
theorem test_methodMatcher (m : MethodDescription) :
    (methodMatcher contextType methodName).test (.method m) =
      .of (m.name = methodName ∧ m.parameterTypes.head? = some (some contextType)) := by
  have hname : (Matcher.named methodName none).test (.method m) = .of (m.name = methodName) := by
    simp [Matcher.test, Subject.name?, beq_eq_decide]
  have htype : (Matcher.takesArgument 0 (.named contextType none)).test (.method m) =
      .of (m.parameterTypes.head? = some (some contextType)) := by
    cases htypes : m.parameterTypes with
    | nil => simp [Matcher.test, Subject.parameterTypes, htypes]
    | cons type types =>
      cases type <;>
        simp [Matcher.test, Subject.parameterTypes, Subject.name?, htypes, beq_eq_decide]
  rw [methodMatcher, Matcher.test, hname, htype]
  by_cases h : m.name = methodName <;> simp [Verdict.andThen, Verdict.of, h]

variable (typeNumber methodNumber adviceNumber : Nat) (policyFailure : Option Failure)
  (typeName : String)

theorem acceptsType_descriptor (cls : HostClass) :
    (descriptor typeNumber methodNumber adviceNumber policyFailure typeName contextType
      methodName).acceptsType cls = true ↔ cls.name = typeName := by
  simp [Descriptor.acceptsType, Verdict.accepts, descriptor, typeMatcher, Matcher.test,
    Subject.name?, HostClass.describe, Verdict.of]

theorem acceptsMethod_descriptor (m : MethodDescription) :
    (descriptor typeNumber methodNumber adviceNumber policyFailure typeName contextType
      methodName).acceptsMethod m =
        decide (m.name = methodName ∧ m.parameterTypes.head? = some (some contextType)) := by
  have htest := test_methodMatcher contextType methodName m
  rw [Descriptor.acceptsMethod, Verdict.accepts]
  simp only [descriptor, htest, Verdict.of]

end Lifecycle

namespace HostClass

/-- A class declares a method under a name. The method takes its receiver by a positional parameter
if it has one, and it can be assigned. -/
structure HasMethod (cls : HostClass) (name : String) (m : Member) (kind : MethodKind)
    (function : HostFunction) : Prop where
  names : (cls.members.map Member.name).Nodup
  member : cls.member? name = some m
  method : m.content = .method kind function
  receiver : function.shown.TakesReceiver kind
  free : name ∉ cls.locked

variable {cls : HostClass} {m : Member} {description : MethodDescription}

theorem member?_addLayers (name : String) (layers : List Layer) :
    (cls.addLayers layers).member? name = (cls.member? name).map fun m =>
      { m with layers := m.layers ++ layers.filter fun l => l.site.method = m.name } := by
  rw [member?, addLayers, List.find?_map]
  rfl

theorem nodup_declaredMethods (h : (cls.members.map Member.name).Nodup) :
    (cls.declaredMethods.map MethodDescription.name).Nodup :=
  h.sublist cls.declaredMethods_names

theorem mem_declaredMethods {name : String} (hm : cls.member? name = some m)
    (hdescription : m.describe? = some description) : description ∈ cls.declaredMethods :=
  List.mem_filterMap.mpr ⟨m, List.mem_of_find?_eq_some hm, hdescription⟩

/-- A test that at most the methods of one name pass selects the one of this name or nothing. -/
theorem filter_declaredMethods (hnames : (cls.members.map Member.name).Nodup)
    (hd : description ∈ cls.declaredMethods) {p : MethodDescription → Bool}
    (hp : ∀ x, p x = true → x.name = description.name) :
    cls.declaredMethods.filter p = if p description then [description] else [] := by
  have hnodup := nodup_declaredMethods hnames
  have honly : ∀ x ∈ cls.declaredMethods, p x = true → x = description := fun x hx hpx =>
    List.inj_on_of_nodup_map hnodup hx hd (hp x hpx)
  cases hdescription : p description with
  | false =>
    refine List.filter_eq_nil_iff.mpr fun x hx hpx => ?_
    rw [honly x hx hpx, hdescription] at hpx
    exact Bool.false_ne_true hpx
  | true =>
    have hone : cls.declaredMethods.filter p = cls.declaredMethods.filter (· == description) := by
      refine List.filter_congr fun x hx => Bool.eq_iff_iff.mpr ?_
      rw [beq_iff_eq]
      exact ⟨honly x hx, fun heq => heq ▸ hdescription⟩
    rw [hone, List.filter_beq, List.count_eq_one_of_mem hnodup.of_map hd]
    rfl

end HostClass

/-- A method that a class declares is found along every lineage that begins with the class. -/
theorem Host.found?_of_member? {h : Host} {c : Nat} {cls : HostClass} {m : Member}
    {kind : MethodKind} {function : HostFunction} {name : String} (subject : Value)
    (rest : List Nat) (hc : h.class? c = some cls) (hm : cls.member? name = some m)
    (hmethod : m.content = .method kind function) :
    h.found? (c :: rest) subject name = some (.method ⟨cls, m, kind, function, subject⟩) := by
  have hfind : h.find? (c :: rest) name = some (cls, m) := by
    simp [find?, hc, hm]
  simp only [found?, hfind, Option.map_some, hmethod]

namespace Lifecycle

section Weaving

variable {contextType methodName typeName : String} {typeNumber methodNumber adviceNumber : Nat}
  {policyFailure : Option Failure} {cls : HostClass} {m : Member} {kind : MethodKind}
  {function : HostFunction}

/-- The descriptor has one site in a class, around the method of its name, if this method takes the
context first; otherwise it has none. -/
theorem sitesOn_descriptor (hm : cls.HasMethod methodName m kind function) :
    let d := descriptor typeNumber methodNumber adviceNumber policyFailure typeName contextType
      methodName
    d.sitesOn cls = if function.shown.TakesFirst kind contextType then
      [⟨cls.name, methodName, d⟩] else [] := by
  intro d
  have hdescription : m.describe? = some (function.shown.describe methodName kind) := by
    rw [Member.describe?, hm.method, cls.name_of_member? methodName hm.member]
  have haccepts : d.acceptsMethod (function.shown.describe methodName kind) =
      decide (function.shown.TakesFirst kind contextType) := by
    rw [acceptsMethod_descriptor, Signature.head?_parameterTypes hm.receiver]
    refine decide_eq_decide.mpr ?_
    unfold Signature.TakesFirst
    cases function.shown.first? kind <;> simp [Signature.describe]
  have hmethods : d.methodsOn cls = if function.shown.TakesFirst kind contextType then
      [function.shown.describe methodName kind] else [] := by
    refine (HostClass.filter_declaredMethods hm.names
      (HostClass.mem_declaredMethods hm.member hdescription) fun x hx => ?_).trans
        (by rw [haccepts]; simp)
    rw [acceptsMethod_descriptor] at hx
    exact (of_decide_eq_true hx).1
  rw [Descriptor.sitesOn, hmethods]
  split
  · simp [Signature.describe, hm.free]
  · rfl

/-- To weave the descriptor into a class puts one layer around the method of its name, if this
method takes the context first, and changes nothing else of the host. What is then found under the
name along a lineage that begins with the class is the method with this layer. -/
theorem weave_descriptor {l : Loom} {c : Nat} (guard : Nat) (hc : l.host.class? c = some cls)
    (hm : cls.HasMethod methodName m kind function) :
    let d := descriptor typeNumber methodNumber adviceNumber policyFailure typeName contextType
      methodName
    let layers : List Layer := if function.shown.TakesFirst kind contextType then
      [⟨⟨cls.name, methodName, d⟩, guard⟩] else []
    l.registry.sites? c d.key = none →
      (Loom.weave guard c d l).2.host = l.host.modify c (HostClass.addLayers layers) ∧
      ∀ rest subject, (Loom.weave guard c d l).2.host.found? (c :: rest) subject methodName =
        some (.method ⟨cls.addLayers layers, { m with layers := m.layers ++ layers }, kind,
          function, subject⟩) := by
  intro d layers hk
  have hselected : d.selected (HasChannel.channel l) cls = .ok (d.methodsOn cls) :=
    Descriptor.selected_of_answers fun x _ =>
      ⟨_, Descriptor.methodAnswer_of_ok
        (congrArg Verdict.outcome (test_methodMatcher contextType methodName x))⟩
  have hsites : d.firstLayers (HasChannel.channel l) cls guard = layers := by
    rw [Descriptor.firstLayers, Descriptor.firstSites_of_selected hselected, sitesOn_descriptor hm]
    exact apply_ite _ _ _ _
  have hhost : (Loom.weave guard c d l).2.host =
      l.host.modify c (HostClass.addLayers layers) := by
    have hfound := Registry.lookUp_of_hashed (rfl : d.unhashed = none) l.registry c
    rw [hk] at hfound
    obtain ⟨r, -, hweave⟩ := Loom.weave_first guard hfound hc (logsLike_channel l)
    rw [hweave, hsites]
  have hlayers : (layers.filter fun l => l.site.method = m.name) = layers := by
    rw [cls.name_of_member? methodName hm.member]
    by_cases hfirst : function.shown.TakesFirst kind contextType <;> simp [layers, hfirst]
  refine ⟨hhost, fun rest subject => ?_⟩
  have hclass : (Loom.weave guard c d l).2.host.class? c = some (cls.addLayers layers) := by
    rw [hhost, Host.class?_modify, if_pos rfl, hc, Option.map_some]
  have hmember : (cls.addLayers layers).member? methodName =
      some { m with layers := m.layers ++ layers } := by
    rw [HostClass.member?_addLayers, hm.member, Option.map_some, hlayers]
  exact Host.found?_of_member? subject rest hclass hmember hm.method

end Weaving

end Lifecycle

end AspectAgent
