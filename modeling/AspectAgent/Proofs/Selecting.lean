import AspectAgent.Proofs.ReliableLogging
import AspectAgent.Proofs.Members

/-!
# What a selection selects

A selection asks one candidate after the other whether it matches, and keeps those that do. A
matcher that fails in an ordinary way is reported and counts as not matching. So the selection
raises if it comes upon a failure that is not an ordinary one, or upon one that cannot be reported;
otherwise it returns those that match, in order. What a descriptor selects in a class does not
depend on the layers around the members of the class.
-/

namespace AspectAgent

open Act

namespace Verdict

def accepts (v : Verdict) : Bool :=
  match v.outcome with
  | .ok b => b
  | .error _ => false

theorem accepts_eq (v : Verdict) : v.accepts = v.outcome.toOption.getD false := by
  unfold accepts
  cases v.outcome <;> rfl

/-- The evaluation does not fail, or does so in an ordinary way. -/
def FailsOrdinarily (v : Verdict) : Prop := ∀ f, v.outcome = .error f → f.isOrdinary = true

instance (v : Verdict) : Decidable v.FailsOrdinarily :=
  match h : v.outcome with
  | .ok _ => isTrue fun f hf => by
    rw [h] at hf
    cases hf
  | .error f => decidable_of_iff (f.isOrdinary = true)
    ⟨fun hf f' hf' => by
      rw [h] at hf'
      cases hf'
      exact hf, fun hall => hall f h⟩

end Verdict

namespace Descriptor

variable (d : Descriptor) (cls : HostClass)

def acceptsType : Bool := (d.typeMatcher.matcher.test (.type cls.describe)).accepts

def acceptsMethod (m : MethodDescription) : Bool :=
  (d.methodMatcher.matcher.test (.method m)).accepts

/-- The methods of a class to which the descriptor's advice is to be put. -/
def methodsOn : List MethodDescription := cls.declaredMethods.filter d.acceptsMethod

/-- The sites of the descriptor in a class: its methods up to the first that cannot be assigned. -/
def sitesOn : List Site :=
  ((d.methodsOn cls).takeWhile fun m => !cls.locked.contains m.name).map fun m =>
    ⟨cls.name, m.name, d⟩

/-- What weaving the descriptor into the class returns: nothing if a method cannot be assigned. -/
def answerOn : List Site :=
  if (d.methodsOn cls).all fun m => !cls.locked.contains m.name then d.sitesOn cls else []

/-- The descriptor's matchers fail in ordinary ways only on the class and its methods. -/
structure FailsOrdinarilyOn : Prop where
  type : (d.typeMatcher.matcher.test (.type cls.describe)).FailsOrdinarily
  method : ∀ m ∈ cls.declaredMethods,
    (d.methodMatcher.matcher.test (.method m)).FailsOrdinarily

instance : Decidable (d.FailsOrdinarilyOn cls) :=
  decidable_of_iff ((d.typeMatcher.matcher.test (.type cls.describe)).FailsOrdinarily ∧
      ∀ m ∈ cls.declaredMethods, (d.methodMatcher.matcher.test (.method m)).FailsOrdinarily)
    ⟨fun h => ⟨h.1, h.2⟩, fun h => ⟨h.type, h.method⟩⟩

variable (layers : List Layer)

@[simp] theorem methodsOn_addLayers : d.methodsOn (cls.addLayers layers) = d.methodsOn cls := by
  rw [methodsOn, HostClass.declaredMethods_addLayers, methodsOn]

@[simp] theorem sitesOn_addLayers : d.sitesOn (cls.addLayers layers) = d.sitesOn cls := by
  rw [sitesOn, methodsOn_addLayers]
  rfl

theorem descriptor_of_mem_sitesOn {d : Descriptor} {cls : HostClass} {site : Site}
    (h : site ∈ d.sitesOn cls) : site.descriptor = d := by
  obtain ⟨m, -, rfl⟩ := List.mem_map.mp h
  rfl

/-- The sites are those of methods that match. -/
theorem accepted_of_mem_sitesOn {d : Descriptor} {cls : HostClass} {site : Site}
    (h : site ∈ d.sitesOn cls) : ∃ m ∈ cls.declaredMethods, m.name = site.method ∧
      (d.methodMatcher.matcher.test (.method m)).outcome = .ok true := by
  obtain ⟨m, hm, rfl⟩ := List.mem_map.mp h
  obtain ⟨hdeclared, haccepts⟩ := List.mem_filter.mp ((List.takeWhile_prefix _).subset hm)
  refine ⟨m, hdeclared, rfl, ?_⟩
  unfold acceptsMethod Verdict.accepts at haccepts
  split at haccepts
  · rename_i b hb
    rw [hb, haccepts]
  · cases haccepts

end Descriptor

namespace Selection

/-! ## Asking one after the other -/

/-- What is kept of a list by asking for each of its elements. -/
def keep {σ α : Type} (ask : α → Act σ Bool) : List α → Act σ (List α)
  | [] => .give []
  | x :: xs => do
    let kept ← ask x
    let rest ← keep ask xs
    return if kept then x :: rest else rest

/-- What comes of it where the answers are known: the elements for which the answer is yes, or the
first failure to answer. -/
def sift {α : Type} (answer : α → Except Failure Bool) : List α → Except Failure (List α)
  | [] => .ok []
  | x :: xs => do
    let kept ← answer x
    let rest ← sift answer xs
    return if kept then x :: rest else rest

section Sift

variable {α : Type} {answer : α → Except Failure Bool} {xs ys : List α}

theorem keep_settles {σ : Type} {I : σ → Prop} {ask : α → Act σ Bool}
    (h : ∀ x, Settles I (ask x) (answer x)) (xs : List α) :
    Settles I (keep ask xs) (sift answer xs) := by
  induction xs with
  | nil => exact settles_give []
  | cons x xs ih =>
    rw [keep, sift]
    have hx := h x
    cases hanswer : answer x with
    | error f =>
      rw [hanswer] at hx
      exact settles_bind_of_error hx
    | ok kept =>
      rw [hanswer] at hx
      refine settles_bind hx ?_
      cases hrest : sift answer xs with
      | error f =>
        rw [hrest] at ih
        exact settles_bind_of_error ih
      | ok rest =>
        rw [hrest] at ih
        exact settles_bind ih (settles_pure _)

theorem sift_of_ok {p : α → Bool} (h : ∀ x ∈ xs, answer x = .ok (p x)) :
    sift answer xs = .ok (xs.filter p) := by
  induction xs with
  | nil => rfl
  | cons x xs ih =>
    rw [sift, h x List.mem_cons_self, ih fun y hy => h y (List.mem_cons_of_mem x hy),
      List.filter_cons]
    rfl

/-- A list that is sifted is filtered by what the answers are if there are any. -/
theorem eq_filter_of_sift {p : α → Bool} (h : ∀ x b, answer x = .ok b → b = p x)
    (hsift : sift answer xs = .ok ys) : ys = xs.filter p := by
  induction xs generalizing ys with
  | nil =>
    cases hsift
    rfl
  | cons x xs ih =>
    rw [sift] at hsift
    cases hanswer : answer x with
    | error f =>
      rw [hanswer] at hsift
      cases hsift
    | ok kept =>
      cases hrest : sift answer xs with
      | error f =>
        rw [hanswer, hrest] at hsift
        cases hsift
      | ok rest =>
        rw [hanswer, hrest] at hsift
        cases hsift
        rw [List.filter_cons, ← h x kept hanswer, ← ih hrest]

/-- The failure of a sifting is that of one of the answers. -/
theorem exists_of_sift_error {f : Failure} (hsift : sift answer xs = .error f) :
    ∃ x ∈ xs, answer x = .error f := by
  induction xs with
  | nil => cases hsift
  | cons x xs ih =>
    rw [sift] at hsift
    cases hanswer : answer x with
    | error f' =>
      rw [hanswer] at hsift
      cases hsift
      exact ⟨x, List.mem_cons_self, hanswer⟩
    | ok kept =>
      cases hrest : sift answer xs with
      | error f' =>
        rw [hanswer, hrest] at hsift
        cases hsift
        obtain ⟨y, hy, hfails⟩ := ih hrest
        exact ⟨y, List.mem_cons_of_mem x hy, hfails⟩
      | ok rest =>
        rw [hanswer, hrest] at hsift
        cases hsift

/-- A sifting fails if one of the answers does. -/
theorem sift_isOk_iff : (∃ ys, sift answer xs = .ok ys) ↔ ∀ x ∈ xs, ∃ b, answer x = .ok b := by
  induction xs with
  | nil => exact ⟨fun _ => nofun, fun _ => ⟨[], rfl⟩⟩
  | cons x xs ih =>
    rw [List.forall_mem_cons, ← ih, sift]
    cases answer x with
    | error f => exact iff_of_false (by rintro ⟨_, ⟨⟩⟩) (by rintro ⟨⟨_, ⟨⟩⟩, -⟩)
    | ok kept =>
      cases sift answer xs with
      | error f => exact iff_of_false (by rintro ⟨_, ⟨⟩⟩) (by rintro ⟨-, _, ⟨⟩⟩)
      | ok rest => exact iff_of_true ⟨_, rfl⟩ ⟨⟨kept, rfl⟩, rest, rfl⟩

end Sift

/-! ## Matchers -/

variable {ch : LogChannel}

theorem consult_settles (v : Verdict) : Settles (LogsLike ch) (Run.consult v) v.outcome :=
  settles_bind (settles_forEach _ fun _ _ => settles_change fun _ hr => ⟨hr.handlers, hr.level⟩)
    (settles_ofExcept v.outcome)

/-- What a failure of a type matcher becomes. -/
def typeFailure (t : TypeDescription) (d : Descriptor) (f : Failure) : Failure :=
  if f.isOrdinary then .matcherFailed d.shown t.name f else f

theorem isOrdinary_typeFailure (t : TypeDescription) (d : Descriptor) (f : Failure) :
    (typeFailure t d f).isOrdinary = f.isOrdinary := by
  unfold typeFailure
  split
  · rename_i hf
    exact hf.symm
  · rfl

theorem matchesType_settles (t : TypeDescription) (d : Descriptor) :
    Settles (LogsLike ch) (matchesType t d)
      ((d.typeMatcher.matcher.test (.type t)).outcome.mapError (typeFailure t d)) := by
  have hconsult : Settles (LogsLike ch) (Run.consult (d.typeMatcher.matcher.test (.type t)))
      (d.typeMatcher.matcher.test (.type t)).outcome := consult_settles _
  cases houtcome : (d.typeMatcher.matcher.test (.type t)).outcome with
  | ok b =>
    rw [houtcome] at hconsult
    exact settles_orElse_of_ok hconsult
  | error f =>
    rw [houtcome] at hconsult
    show Settles _ _ (.error (typeFailure t d f))
    cases hf : f.isOrdinary with
    | true =>
      rw [typeFailure, if_pos hf]
      exact settles_orElse_of_error hconsult hf (settles_ofExcept (.error _))
    | false =>
      rw [typeFailure, if_neg (by simp [hf])]
      exact settles_orElse_of_interrupt hconsult hf

end Selection

open Selection

/-! ## What is selected -/

namespace Descriptor

variable (ch : LogChannel) (d : Descriptor) (cls : HostClass)

/-- The answer to whether a descriptor matches a class, when reports go to a channel. -/
def typeAnswer : Except Failure Bool :=
  ch.excuse (fun f => matchRecord "Type matcher failed; skipping descriptor" d cls.describe.name f)
    false ((d.typeMatcher.matcher.test (.type cls.describe)).outcome.mapError
      (typeFailure cls.describe d))

/-- The answer to whether it matches a method of the class. -/
def methodAnswer (m : MethodDescription) : Except Failure Bool :=
  let target := cls.describe.name ++ "." ++ m.name
  ch.excuse (fun f => matchRecord "Method matcher failed; skipping method" d target
    (.matcherFailed d.shown target f)) false (d.methodMatcher.matcher.test (.method m)).outcome

/-- What comes of selecting the methods of a class. -/
def selected : Except Failure (List MethodDescription) :=
  sift (d.methodAnswer ch cls) cls.declaredMethods

theorem methodsFor_settles : Settles (LogsLike ch)
    (methodsFor cls.describe d cls.declaredMethods) (d.selected ch cls) := by
  let tried := fun m : MethodDescription =>
    Act.orElse (Run.consult (d.methodMatcher.matcher.test (.method m))) fun cause => do
      report (matchRecord "Method matcher failed; skipping method" d
        (cls.describe.name ++ "." ++ m.name)
        (.matcherFailed d.shown (cls.describe.name ++ "." ++ m.name) cause))
      return false
  have hkeep : ∀ ms, methodsFor cls.describe d ms = keep tried ms := by
    intro ms
    induction ms with
    | nil => rfl
    | cons m ms ih => rw [methodsFor, keep, ih]
  rw [hkeep]
  exact keep_settles (fun m => settles_excuse (fun _ _ => rfl)
    (fun _ => LogRecord.matchRecord_isPlain d _ _ _) false (consult_settles _)) _

variable {ch d cls}

theorem eq_of_typeAnswer {b : Bool} (h : d.typeAnswer ch cls = .ok b) : b = d.acceptsType cls := by
  have hb := LogChannel.eq_of_excuse h
  rw [hb, acceptsType, Verdict.accepts_eq]
  cases (d.typeMatcher.matcher.test (.type cls.describe)).outcome <;> rfl

theorem eq_of_methodAnswer {m : MethodDescription} {b : Bool}
    (h : d.methodAnswer ch cls m = .ok b) : b = d.acceptsMethod m := by
  rw [acceptsMethod, Verdict.accepts_eq]
  exact LogChannel.eq_of_excuse h

/-- What is selected are the methods that match. -/
theorem eq_of_selected {ms : List MethodDescription} (h : d.selected ch cls = .ok ms) :
    ms = d.methodsOn cls :=
  eq_filter_of_sift (fun _ _ => eq_of_methodAnswer) h

/-- Where there is an answer for each method, those that match are selected. -/
theorem selected_of_answers (h : ∀ m ∈ cls.declaredMethods, ∃ b, d.methodAnswer ch cls m = .ok b) :
    d.selected ch cls = .ok (d.methodsOn cls) := by
  obtain ⟨ms, hselected⟩ : ∃ ms, d.selected ch cls = .ok ms := sift_isOk_iff.mpr h
  rw [hselected, eq_of_selected hselected]

theorem methodAnswer_of_ok {m : MethodDescription} {b : Bool}
    (h : (d.methodMatcher.matcher.test (.method m)).outcome = .ok b) :
    d.methodAnswer ch cls m = .ok b := by
  rw [methodAnswer, h]
  rfl

@[simp] theorem selected_addLayers (layers : List Layer) :
    d.selected ch (cls.addLayers layers) = d.selected ch cls := by
  rw [selected, HostClass.declaredMethods_addLayers]
  rfl

end Descriptor

/-- What comes of selecting the descriptors of an agent that match a class. -/
def Agent.selected (ch : LogChannel) (a : Agent) (cls : HostClass) :
    Except Failure (List Descriptor) :=
  sift (fun d => d.typeAnswer ch cls) a.descriptors

theorem Agent.descriptorsFor_settles (ch : LogChannel) (a : Agent) (cls : HostClass) :
    Settles (LogsLike ch) (descriptorsFor cls.describe a.descriptors) (a.selected ch cls) := by
  let tried := fun d => Act.orElse (matchesType cls.describe d) fun fault => do
    report (matchRecord "Type matcher failed; skipping descriptor" d cls.describe.name fault)
    return false
  have hkeep : ∀ ds, descriptorsFor cls.describe ds = keep tried ds := by
    intro ds
    induction ds with
    | nil => rfl
    | cons d ds ih => rw [descriptorsFor, keep, ih]
  rw [hkeep]
  exact keep_settles (fun d => settles_excuse (fun _ _ => rfl)
    (fun _ => LogRecord.matchRecord_isPlain d _ _ _) false (matchesType_settles cls.describe d)) _

end AspectAgent
