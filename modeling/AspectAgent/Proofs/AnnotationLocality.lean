import AspectAgent.Proofs.ArgumentNumbering

/-!
# What the declared type of a parameter depends on

The annotations of a function are resolved together. So the declared type of a parameter depends on
its own annotation, on the names it can use, and on whether all the annotations of the function
resolve; on nothing else of the other annotations. An annotation elsewhere changes it in one way
only, from the type name of what the annotation means to that of the annotation as it is written,
and changes nothing where the two are the same.
-/

namespace AspectAgent

namespace Parameter

variable {p q : Parameter} {scope : Vocabulary}

/-- The parameter without its annotation. -/
def bare (p : Parameter) : Parameter := { p with annotation := none }

/-- The type name of the annotation as it is written. -/
def writtenType (p : Parameter) : Option String := p.annotation.map Annotation.typeName

/-- The type name of what the annotation means, and of the annotation itself if it means nothing. -/
def resolvedType (scope : Vocabulary) (p : Parameter) : Option String :=
  p.annotation.map fun a => ((a.resolve? scope).getD a).typeName

@[simp] theorem isVariadic_bare : p.bare.isVariadic = p.isVariadic := rfl

@[simp] theorem bare_bare : p.bare.bare = p.bare := rfl

theorem resolvedType_of_unannotated (h : p.annotation = none) :
    p.resolvedType scope = p.writtenType := by
  rw [resolvedType, writtenType, h]
  rfl

theorem resolvedType_of_ofClass {module qualname : String}
    (h : p.annotation = some (.ofClass module qualname)) :
    p.resolvedType scope = p.writtenType := by
  rw [resolvedType, writtenType, h]
  rfl

theorem resolvedType_of_other {shown : String}
    (h : p.annotation = some (.other shown (some shown))) :
    p.resolvedType scope = p.writtenType := by
  rw [resolvedType, writtenType, h]
  rfl

theorem resolvedType_of_unresolvable {a : Annotation} (h : p.annotation = some a)
    (ha : a.resolve? scope = none) : p.resolvedType scope = p.writtenType := by
  rw [resolvedType, writtenType, h, Option.map_some, Option.map_some, ha, Option.getD_none]

end Parameter

namespace Signature

variable {s t : Signature} {kind : MethodKind} {i : Nat} {p : Parameter}

theorem declaredType_eq (s : Signature) (p : Parameter) :
    s.declaredType p = if s.resolves then p.resolvedType s.scope else p.writtenType := by
  cases h : s.resolves with
  | true => simp only [declaredType, Parameter.resolvedType, h, if_true]
  | false => simp only [declaredType, Parameter.writtenType, h, Bool.false_eq_true, if_false]

theorem resolves_iff : s.resolves = true ↔ ∀ a ∈ s.annotations, (a.resolve? s.scope).isSome := by
  rw [resolves, List.all_eq_true]

/-- A function that differs at most in the annotations: of its result, and of parameters other than
the one that a description shows at an index. -/
structure DiffersElsewhere (s t : Signature) (kind : MethodKind) (i : Nat) : Prop where
  scope : s.scope = t.scope
  bare : s.parameters.map Parameter.bare = t.parameters.map Parameter.bare
  shown : (s.described kind)[i]? = (t.described kind)[i]?

/-- What keeps the variadic parameters apart keeps what a description shows. -/
theorem described_map {f : Parameter → Parameter} (hf : ∀ p, (f p).isVariadic = p.isVariadic)
    (parameters : List Parameter) (returns : Option Annotation) (scope : Vocabulary)
    (kind : MethodKind) :
    described ⟨parameters.map f, returns, scope⟩ kind =
      (described ⟨parameters, returns, scope⟩ kind).map f := by
  have hnumbered : numbered (parameters.map f) = (numbered parameters).map f := by
    rw [numbered, numbered, List.filter_map]
    exact congrArg (List.map f) (List.filter_congr fun p _ => congrArg not (hf p))
  cases kind with
  | receiverless => exact hnumbered
  | onInstance => exact (congrArg (List.drop 1) hnumbered).trans List.map_drop.symm
  | onClass => exact (congrArg (List.drop 1) hnumbered).trans List.map_drop.symm

theorem DiffersElsewhere.length_described (h : s.DiffersElsewhere t kind i) :
    (s.described kind).length = (t.described kind).length := by
  have hbare (s : Signature) : (s.described kind).length =
      (described ⟨s.parameters.map Parameter.bare, none, {}⟩ kind).length := by
    rw [described_map (fun _ => Parameter.isVariadic_bare), List.length_map]
    rfl
  rw [hbare s, hbare t, h.bare]

theorem parameterTypes_getElem? (hp : (s.described kind)[i]? = some p) (name : String) :
    (s.describe name kind).parameterTypes[i]? = some (s.declaredType p) := by
  show ((s.described kind).map s.declaredType)[i]? = _
  rw [List.getElem?_map, hp, Option.map_some]

/-- The two ways of taking an annotation are the only ones: the declared types are the same if both
functions take it in the same way, or if it has one name in both. -/
theorem DiffersElsewhere.declaredType_eq_iff (h : s.DiffersElsewhere t kind i) :
    s.declaredType p = t.declaredType p ↔
      s.resolves = t.resolves ∨ p.resolvedType s.scope = p.writtenType := by
  rw [declaredType_eq, declaredType_eq, ← h.scope]
  cases s.resolves with
  | true =>
    cases t.resolves with
    | true => simp
    | false => simp
  | false =>
    cases t.resolves with
    | true => simp [eq_comm]
    | false => simp

/-- A function whose result has an annotation that means nothing. -/
def obscured (s : Signature) : Signature := { s with returns := some (.other "" none) }

theorem resolves_obscured (s : Signature) : s.obscured.resolves = false := by
  rw [Bool.eq_false_iff]
  intro h
  have hresult := resolves_iff.mp h (.other "" none) (by simp [annotations, obscured])
  cases hresult

theorem differsElsewhere_obscured : s.DiffersElsewhere s.obscured kind i := ⟨rfl, rfl, rfl⟩

/-- A function of whose annotations only those remain that are the one given. -/
def cleared (s : Signature) (own : Option Annotation) : Signature where
  parameters := s.parameters.map fun q => if q.annotation = own then q else q.bare
  scope := s.scope

theorem differsElsewhere_cleared (hp : (s.described kind)[i]? = some p) :
    s.DiffersElsewhere (s.cleared p.annotation) kind i := by
  refine ⟨rfl, ?_, ?_⟩
  · rw [cleared, List.map_map]
    refine List.map_congr_left fun q _ => ?_
    rw [Function.comp_apply]
    by_cases hq : q.annotation = p.annotation
    · rw [if_pos hq]
    · rw [if_neg hq, Parameter.bare_bare]
  · have hshown : (s.cleared p.annotation).described kind =
        (s.described kind).map fun q => if q.annotation = p.annotation then q else q.bare := by
      refine described_map (fun q => ?_) s.parameters none s.scope kind
      by_cases hq : q.annotation = p.annotation
      · rw [if_pos hq]
      · rw [if_neg hq, Parameter.isVariadic_bare]
    rw [hshown, List.getElem?_map, hp, Option.map_some, if_pos rfl]

theorem resolves_cleared {a : Annotation} (ha : (a.resolve? s.scope).isSome) :
    (s.cleared (some a)).resolves = true := by
  rw [resolves_iff]
  intro b hb
  obtain ⟨q, hq, hbq⟩ := List.mem_filterMap.mp (List.mem_append.mp hb |>.resolve_right nofun)
  obtain ⟨r, -, rfl⟩ := List.mem_map.mp hq
  -- an annotation that remains is the one given
  by_cases hr : r.annotation = some a
  · rw [if_pos hr, hr] at hbq
    exact Option.some.inj hbq ▸ ha
  · rw [if_neg hr] at hbq
    cases hbq

/-- A function that takes the annotation of the parameter in the other way, if it can be taken in
two ways at all. -/
theorem exists_otherwise (hp : (s.described kind)[i]? = some p)
    (hways : p.resolvedType s.scope ≠ p.writtenType) :
    ∃ t, s.DiffersElsewhere t kind i ∧ s.resolves ≠ t.resolves := by
  cases hs : s.resolves with
  | true => exact ⟨s.obscured, differsElsewhere_obscured, by rw [resolves_obscured]; decide⟩
  | false =>
    obtain ⟨a, ha⟩ : ∃ a, p.annotation = some a := Option.ne_none_iff_exists'.mp fun h =>
      hways (Parameter.resolvedType_of_unannotated h)
    have hmeans : (a.resolve? s.scope).isSome := Option.isSome_iff_ne_none.mpr fun h =>
      hways (Parameter.resolvedType_of_unresolvable ha h)
    refine ⟨s.cleared p.annotation, differsElsewhere_cleared hp, ?_⟩
    rw [ha, resolves_cleared hmeans]
    decide

end Signature

namespace Matcher

/-- The matchers for a name tell declared types apart. -/
theorem testDeclared_ext {x y : Option String} :
    (∀ m : Matcher, m.testDeclared x = m.testDeclared y) ↔ x = y := by
  constructor
  · intro h
    cases x with
    | none =>
      cases y with
      | none => rfl
      | some typeName =>
        have hnamed := congrArg Verdict.outcome (h (.named typeName none))
        simp [testDeclared, test, Subject.name?, Verdict.of] at hnamed
    | some typeName =>
      have hnamed := congrArg Verdict.outcome (h (.named typeName none))
      cases y with
      | none => simp [testDeclared, test, Subject.name?, Verdict.of] at hnamed
      | some other =>
        simp [testDeclared, test, Subject.name?, Verdict.of] at hnamed
        rw [hnamed]
  · rintro rfl m
    rfl

end Matcher

/-- A method whose first argument is annotated with the name of a class, and whose result may be
annotated as well. -/
def Signature.hinted (returns : Option Annotation) : Signature where
  parameters := [{ name := "self" }, { name := "key", annotation := some (.text "Key") }]
  returns := returns
  scope := { names := [("Key", .ofClass "app" "Key")] }

end AspectAgent
