import AspectAgent.Agent
import AspectAgent.Proofs.Selecting

/-!
# The modules at which matchers hint

An agent asks to be told of the imports of the modules at which its type matchers hint. This finds a
class only if the hint is right: a matcher that hints at a module must not match a type outside of
it. The hint of a composite matcher is computed beside its test, by a rule of its own for each
operation. The rules keep the hints right, so a matcher of any shape hints rightly if the matchers
do that it is built from; a plain comparison of names always does.
-/

namespace AspectAgent

namespace Text

/-- What comes before the last dot is told by any dot after which there is no other. -/
theorem beforeLastDot_append {s : List Char} (front : List Char) (hs : '.' ∉ s) :
    beforeLastDot (front ++ '.' :: s) = front := by
  have hdrop : (s.reverse ++ '.' :: front.reverse).dropWhile (· ≠ '.') = '.' :: front.reverse := by
    rw [List.dropWhile_append_of_pos]
    · rfl
    · intro a ha
      have hne : a ≠ '.' := fun h => hs (h ▸ List.mem_reverse.mp ha)
      exact decide_eq_true hne
  have hreverse : (front ++ '.' :: s).reverse = s.reverse ++ '.' :: front.reverse := by simp
  rw [beforeLastDot, hreverse, hdrop]
  simp

end Text

/-- The description of a class that is not nested tells its module. -/
theorem HostClass.module_describe {cls : HostClass} (h : '.' ∉ cls.qualname.toList) :
    cls.describe.module = cls.module := by
  have hname : cls.name.toList = cls.module.toList ++ '.' :: cls.qualname.toList := by
    simp [HostClass.name]
  show String.ofList (Text.beforeLastDot cls.name.toList) = cls.module
  rw [hname, Text.beforeLastDot_append _ h, String.ofList_toList]

namespace Matcher

/-- The matcher matches a thing: its test comes to an end, and to yes. -/
def Matches (m : Matcher) (s : Subject) : Prop := (m.test s).accepts = true

instance (m : Matcher) (s : Subject) : Decidable (m.Matches s) :=
  inferInstanceAs (Decidable (_ = true))

variable {l r m : Matcher} {s : Subject} {module : String}

theorem matches_named {name : String} {hint : Option String} :
    (named name hint).Matches s ↔ s.name? = some name := by
  simp [Matches, test, Verdict.of, Verdict.accepts]

theorem matches_and : (and l r).Matches s ↔ l.Matches s ∧ r.Matches s := by
  unfold Matches
  rw [test, Verdict.andThen, Verdict.accepts_eq (l.test s)]
  cases hl : (l.test s).outcome with
  | error f => simp [Verdict.accepts, Except.toOption]
  | ok b =>
    cases b with
    | false => simp [Verdict.accepts, Verdict.of, Except.toOption]
    | true => simp [Verdict.accepts, Except.toOption]

/-- The converse fails: the right matcher is not asked if the left one fails. -/
theorem matches_of_or (h : (or l r).Matches s) : l.Matches s ∨ r.Matches s := by
  unfold Matches at h ⊢
  rw [test, Verdict.andThen] at h
  rw [Verdict.accepts_eq (l.test s)]
  cases hl : (l.test s).outcome with
  | error f =>
    rw [hl] at h
    cases h
  | ok b =>
    rw [hl] at h
    cases b with
    | false => exact .inr h
    | true => exact .inl rfl

/-! ## Hints that are right -/

/-- If the matcher hints at the module, it matches no type outside of it. -/
def HintsRightly (module : String) (m : Matcher) : Prop :=
  m.moduleHint = some module → ∀ d : TypeDescription, m.Matches (.type d) → d.module = module

theorem hintsRightly_of_no_hint (h : m.moduleHint = none) : m.HintsRightly module := by
  intro hint
  rw [h] at hint
  cases hint

theorem hintsRightly_named (name : String) : (named name none).HintsRightly module := by
  intro hint d hd
  have hname : d = ⟨name⟩ := by
    have hd := matches_named.mp hd
    cases hd
    rfl
  rw [moduleHint] at hint
  split at hint
  · cases hint
  · cases hint
    rw [hname]

/-- A conjunction has the hint of one side, and what it matches is matched by both. -/
theorem HintsRightly.and (hl : l.HintsRightly module) (hr : r.HintsRightly module) :
    (and l r).HintsRightly module := by
  intro hint d hd
  obtain ⟨hleft, hright⟩ := matches_and.mp hd
  rw [moduleHint] at hint
  split at hint
  · exact hl hint d hleft
  · exact hr hint d hright

/-- A disjunction has a hint only if both sides have it, and what it matches is matched by one. -/
theorem HintsRightly.or (hl : l.HintsRightly module) (hr : r.HintsRightly module) :
    (or l r).HintsRightly module := by
  intro hint d hd
  rw [moduleHint] at hint
  split at hint
  · next hagree =>
    rcases matches_of_or hd with hleft | hright
    · exact hl hint d hleft
    · exact hr (hagree ▸ hint) d hright
  · cases hint

theorem HintsRightly.anyOf {ms : List Matcher} (h : ∀ x ∈ ms, x.HintsRightly module)
    (hm : anyOf? ms = .ok m) : m.HintsRightly module := by
  cases ms with
  | nil => cases hm
  | cons first rest =>
    have hfold : ∀ (rest : List Matcher) (m : Matcher), m.HintsRightly module →
        (∀ x ∈ rest, x.HintsRightly module) → (rest.foldl Matcher.or m).HintsRightly module := by
      intro rest
      induction rest with
      | nil => exact fun m hm _ => hm
      | cons x rest ih =>
        intro m hm hrest
        obtain ⟨hx, hrest⟩ := List.forall_mem_cons.mp hrest
        exact ih (Matcher.or m x) (hm.or hx) hrest
    cases hm
    obtain ⟨hfirst, hrest⟩ := List.forall_mem_cons.mp h
    exact hfold rest first hfirst hrest

/-- The matchers that are built from some given ones and from comparisons of names. Whatever a
matcher of parameters or a negation contains, it gives no hint, so any matcher may stand there. -/
inductive BuiltFrom (atom : Matcher → Prop) : Matcher → Prop where
  | atom {m : Matcher} (h : atom m) : BuiltFrom atom m
  | named (name : String) : BuiltFrom atom (.named name none)
  | takesArgument {index : Int} {type m : Matcher} (h : takesArgument? index type = .ok m) :
    BuiltFrom atom m
  | takesArguments (count : Int) : BuiltFrom atom (.takesArguments count)
  | and {l r : Matcher} (hl : BuiltFrom atom l) (hr : BuiltFrom atom r) :
    BuiltFrom atom (.and l r)
  | or {l r : Matcher} (hl : BuiltFrom atom l) (hr : BuiltFrom atom r) :
    BuiltFrom atom (.or l r)
  | anyOf {ms : List Matcher} {m : Matcher} (h : anyOf? ms = .ok m)
    (hms : ∀ x ∈ ms, BuiltFrom atom x) : BuiltFrom atom m
  | not (operand : Matcher) : BuiltFrom atom (.not operand)

variable {atom : Matcher → Prop}

theorem BuiltFrom.hintsRightly (hatom : ∀ a, atom a → a.HintsRightly module)
    (hm : m.BuiltFrom atom) : m.HintsRightly module := by
  induction hm with
  | atom h => exact hatom _ h
  | named name => exact hintsRightly_named name
  | takesArgument h =>
    rw [takesArgument?] at h
    split at h
    · cases h
    · cases h
      exact hintsRightly_of_no_hint rfl
  | takesArguments count => exact hintsRightly_of_no_hint rfl
  | and hl hr ihl ihr => exact ihl.and ihr
  | or hl hr ihl ihr => exact ihl.or ihr
  | anyOf h hms ih => exact .anyOf ih h
  | not operand => exact hintsRightly_of_no_hint rfl

end Matcher

theorem Agent.mem_moduleHints {a : Agent} {d : Descriptor} {module : String}
    (hd : d ∈ a.descriptors) (hint : d.typeMatcher.matcher.moduleHint = some module)
    (hmodule : module ≠ "") : module ∈ a.moduleHints := by
  refine NameSet.mem_ofList.mpr (List.mem_filterMap.mpr ⟨d, hd, ?_⟩)
  have htelling : Matcher.isTelling (some module) = true := by
    simp [Matcher.isTelling, hmodule]
  rw [hint]
  exact if_pos htelling

/-- **Module hints.** Take any matcher that is built, in any nesting, by conjunction, disjunction,
the choice among several, negation and the matchers of parameters, from comparisons of names that
leave the module to be told by the name, and from any further matchers that hint rightly at a
module. If it hints at this module, then every type that it matches lies in it: the name of the type
up to the last dot is the name of the module. So a class that it matches, unless nested in another
one, belongs to the module. And an agent that has a descriptor with this type matcher asks to be
told of the import of the module, as long as the hint names one at all. -/
theorem module_of_matches {atom : Matcher → Prop} {m : Matcher} {module : String}
    (hatom : ∀ a, atom a → a.HintsRightly module) (hm : m.BuiltFrom atom)
    (hint : m.moduleHint = some module) :
    (∀ d : TypeDescription, m.Matches (.type d) → d.module = module) ∧
      (∀ cls : HostClass, m.Matches (.type cls.describe) → '.' ∉ cls.qualname.toList →
        cls.module = module) ∧
      ∀ (a : Agent), ∀ d ∈ a.descriptors, d.typeMatcher.matcher = m → module ≠ "" →
        module ∈ a.moduleHints := by
  have hall : ∀ d : TypeDescription, m.Matches (.type d) → d.module = module :=
    hm.hintsRightly hatom hint
  refine ⟨hall, fun cls hcls hplain => ?_, fun a d hd hmatcher hmodule => ?_⟩
  · exact (cls.module_describe hplain).symm.trans (hall cls.describe hcls)
  · exact Agent.mem_moduleHints hd (hmatcher ▸ hint) hmodule

/-- A custom test for the types of one module, which hints at this module. -/
def Matcher.within (module : String) : Matcher :=
  .custom ("within " ++ module) (some module) fun s =>
    match s with
    | .type d => .ok (.bool (d.module = module))
    | _ => .ok (.bool false)

theorem Matcher.hintsRightly_within (module : String) :
    (within module).HintsRightly module := by
  intro _ d hd
  simpa [Matches, within, test, Verdict.accepts, Except.map, Value.truthy] using hd

/-- Orders that are not drafts, or whatever else lies in the module: the hint of the first part
comes from its left side, that of the whole from both. -/
def Matcher.orders : Matcher :=
  .or (.and (.named "app.models.Order" none) (.not (.named "app.drafts.Order" none)))
    (.within "app.models")

theorem module_of_matches_of_orders :
    ((∀ a, (a = Matcher.within "app.models") → a.HintsRightly "app.models") ∧
      Matcher.orders.BuiltFrom (· = Matcher.within "app.models") ∧
      Matcher.orders.moduleHint = some "app.models") ∧
    Matcher.orders.Matches (.type ⟨"app.models.Order"⟩) ∧
      Matcher.orders.Matches (.type ⟨"app.models.Invoice"⟩) ∧
      ∀ d : TypeDescription, Matcher.orders.Matches (.type d) → d.module = "app.models" := by
  have hatom : ∀ a, (a = Matcher.within "app.models") → a.HintsRightly "app.models" :=
    fun a ha => ha ▸ Matcher.hintsRightly_within "app.models"
  have hbuilt : Matcher.orders.BuiltFrom (· = Matcher.within "app.models") :=
    .or (.and (.named _) (.not _)) (.atom rfl)
  have hint : Matcher.orders.moduleHint = some "app.models" := by decide +kernel
  have hmatches := module_of_matches hatom hbuilt hint
  exact ⟨⟨hatom, hbuilt, hint⟩, by decide +kernel, by decide +kernel, hmatches.1⟩

/-- A comparison of names for which a module is given need not hint rightly. -/
example : (Matcher.named "app.models.Order" (some "app")).Matches (.type ⟨"app.models.Order"⟩) ∧
    (TypeDescription.mk "app.models.Order").module ≠ "app" := by decide +kernel

end AspectAgent
