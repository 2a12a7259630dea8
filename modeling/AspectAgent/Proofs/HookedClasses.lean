import AspectAgent.Proofs.AppliedDescriptors
import AspectAgent.Proofs.ClassWalk
import AspectAgent.Proofs.Deployments
import AspectAgent.Proofs.Transparency

/-!
# What a hook does to the classes of its module

A transformation changes one class, and what the registry has for this class. The classes that a
module declares are listed once each. So what a hook does to a class can be told from the world
before the hook: the turns for the other classes leave alone what decides it. The hook notes what it
has woven, class by class, up to the first class whose transformation raises. It reports what this
one raises, and fails if the report does.
-/

namespace AspectAgent

open Act Contract

namespace Registry

variable {g g' g'' : Registry} {c : Nat}

/-- The entries for one class. -/
def entriesOf (g : Registry) (c : Nat) : List (Nat × DescriptorKey × List Site) :=
  g.entries.filter fun e => e.1 == c

theorem entriesOf_remember (k : DescriptorKey) (sites : List Site) (c' : Nat) :
    (g.remember c k sites).entriesOf c' =
      g.entriesOf c' ++ if c = c' then [(c, k, sites)] else [] := by
  unfold entriesOf remember
  rw [List.filter_append]
  by_cases hc : c = c' <;> simp [hc]

/-- Two registries have the same for a class. -/
structure Alike (c : Nat) (g g' : Registry) : Prop where
  entries : g'.entriesOf c = g.entriesOf c
  attempted : c ∈ g'.attempted ↔ c ∈ g.attempted

end Registry

/-- Two weavings into a class come to the same. -/
structure Weaving.Alike (c : Nat) (w w' : Weaving) : Prop where
  answer : w'.answer = w.answer
  installed : w'.installed = w.installed
  registry : w.registry.Alike c w'.registry

namespace Registry

variable {g g' g'' : Registry} {c : Nat} {cls : HostClass} {ch : LogChannel}

namespace Alike

theorem refl (g : Registry) (c : Nat) : g.Alike c g := ⟨rfl, Iff.rfl⟩

theorem trans (h : g.Alike c g') (h' : g'.Alike c g'') : g.Alike c g'' :=
  ⟨h'.entries.trans h.entries, h'.attempted.trans h.attempted⟩

/-- To enter something for one class makes no difference for another one. -/
theorem enter_other {c' : Nat} (hc : c ≠ c') (g : Registry) (d : Descriptor) (sites : List Site) :
    g.Alike c' (g.enter c d sites) := by
  unfold enter
  split
  · refine ⟨?_, Iff.rfl⟩
    rw [entriesOf_remember, if_neg hc, List.append_nil]
  · exact ⟨rfl, by simp [hc.symm]⟩

/-! Whatever is asked of alike registries, the answers are alike. -/

variable (h : g.Alike c g')
include h

theorem sites?_eq (k : DescriptorKey) : g'.sites? c k = g.sites? c k := by
  have hentries : ∀ g : Registry,
      g.sites? c k = ((g.entriesOf c).find? fun e => e.2.1 = k).map fun e => e.2.2 := by
    intro g
    rw [sites?, entriesOf, List.find?_filter]
    simp only [Bool.decide_and, Bool.decide_eq_true]
  rw [hentries, hentries, h.entries]

theorem sitesOf_eq : g'.sitesOf c = g.sitesOf c := by
  have hentries : ∀ g : Registry, g.sitesOf c = (g.entriesOf c).flatMap fun e => e.2.2 :=
    fun _ => rfl
  rw [hentries, hentries, h.entries]

theorem knows_eq : g'.knows c = g.knows c := by
  have hknows : ∀ g : Registry, g.knows c = true ↔ c ∈ g.attempted ∨ g.entriesOf c ≠ [] := by
    intro g
    rw [knows, entriesOf, Bool.or_eq_true, List.contains_iff_mem, List.any_eq_true, Ne,
      List.filter_eq_nil_iff, not_forall₂]
    simp
  rw [Bool.eq_iff_iff, hknows, hknows, h.entries, h.attempted]

theorem lookUp_eq (d : Descriptor) : g'.lookUp c d = g.lookUp c d := by
  rw [lookUp, lookUp, h.sites?_eq, h.knows_eq]

theorem enter (d : Descriptor) (sites : List Site) :
    (g.enter c d sites).Alike c (g'.enter c d sites) := by
  unfold Registry.enter
  split
  · refine ⟨?_, h.attempted⟩
    rw [entriesOf_remember, entriesOf_remember, h.entries]
  · refine ⟨h.entries, ?_⟩
    rw [List.mem_append, List.mem_append, h.attempted]

theorem turn (d : Descriptor) : (g.turn ch c cls d).Alike c (g'.turn ch c cls d) := by
  unfold Registry.turn weaving
  rw [h.lookUp_eq]
  split
  · exact ⟨rfl, rfl, h⟩
  · exact ⟨rfl, rfl, h⟩
  · exact ⟨rfl, rfl, h.enter d _⟩

theorem turns (ds : List Descriptor) : (g.turns ch c cls ds).Alike c (g'.turns ch c cls ds) := by
  induction ds generalizing g g' with
  | nil => exact ⟨rfl, rfl, h⟩
  | cons d ds ih =>
    have hturn : (g.turn ch c cls d).Alike c (g'.turn ch c cls d) := h.turn d
    have hrest := ih hturn.registry
    cases hanswer : (g.turn ch c cls d).answer with
    | error f =>
      rw [turns_cons_of_error hanswer, turns_cons_of_error (hturn.answer.trans hanswer)]
      exact ⟨rfl, hturn.installed, hturn.registry⟩
    | ok sites =>
      rw [turns_cons_of_ok hanswer, turns_cons_of_ok (hturn.answer.trans hanswer)]
      exact ⟨congrArg (Except.map (sites ++ ·)) hrest.answer,
        by rw [hturn.installed, hrest.installed], hrest.registry⟩

theorem weaving (a : Agent) : (a.weaving ch c cls g).Alike c (a.weaving ch c cls g') := by
  unfold Agent.weaving
  split
  · split
    · exact ⟨rfl, rfl, h⟩
    · exact h.turns _
  · exact ⟨rfl, rfl, h⟩

end Alike

end Registry

namespace Loom

/-- Nothing is changed but one class and what the registry has for it. -/
def changesOnly (c : Nat) : Contract Loom where
  allows _ l l' := ∀ c', c ≠ c' →
    l'.host.class? c' = l.host.class? c' ∧ l.registry.Alike c' l'.registry
  refl _ l c' _ := ⟨rfl, .refl l.registry c'⟩
  trans h h' c' hc := ⟨(h' c' hc).1.trans (h c' hc).1, (h c' hc).2.trans (h' c' hc).2⟩

theorem weave_changesOnly (guard c : Nat) (d : Descriptor) :
    (changesOnly c).Meets (weave guard c d) := by
  intro l c' hc'
  rcases weave_snd_cases guard c d l with hsame | ⟨-, cls, r, -, hweave⟩
  · rw [hsame]
    exact ⟨rfl, .refl l.registry c'⟩
  · rw [hweave]
    refine ⟨?_, .enter_other hc' l.registry d _⟩
    rw [Host.class?_modify, if_neg hc']

theorem transform_changesOnly (a : Agent) (c : Nat) : (changesOnly c).Meets (a.transform c) :=
  transform_meets ⟨fun _ l _ _ c' _ => ⟨rfl, .refl l.registry c'⟩,
    fun guard d => weave_changesOnly guard c d⟩ a

end Loom

namespace World

variable {ch : LogChannel} {i c : Nat} {w w' w'' : World} {noted noted' touched touched' : List Nat}

/-- A deployment can transform a class: what fails on the way can be reported. -/
def CanTransform (ch : LogChannel) (i : Nat) (w : World) (c : Nat) : Prop :=
  ∀ cls, w.host.class? c = some cls → (w.deployment i).agent.config.enabled.truthy = true →
    (w.deployment i).agent.Passes ch (w.deployment i).agent.registry c cls

/-- What comes of transforming a class. -/
def weavingOn (ch : LogChannel) (i : Nat) (w : World) (c : Nat) : Weaving :=
  let a := (w.deployment i).agent
  match w.host.class? c with
  | none => ⟨.ok [], [], a.registry⟩
  | some cls => a.weaving ch c cls a.registry

/-- The sites that a transformation of a class returns. -/
def reportOn (ch : LogChannel) (i : Nat) (w : World) (c : Nat) : List Site :=
  (w.weavingOn ch i c).answer.toOption.getD []

/-- What a transformation of a class raises. -/
def faultOn? (ch : LogChannel) (i : Nat) (w : World) (c : Nat) : Option Failure :=
  match (w.weavingOn ch i c).answer with
  | .ok _ => none
  | .error f => some f

theorem faultOn?_of_error {f : Failure} (h : (w.weavingOn ch i c).answer = .error f) :
    w.faultOn? ch i c = some f := by
  rw [faultOn?, h]

theorem faultOn?_of_ok {sites : List Site} (h : (w.weavingOn ch i c).answer = .ok sites) :
    w.faultOn? ch i c = none := by
  rw [faultOn?, h]

theorem reportOn_of_ok {sites : List Site} (h : (w.weavingOn ch i c).answer = .ok sites) :
    w.reportOn ch i c = sites := by
  rw [reportOn, h]
  rfl

theorem weavingOn_isOk_iff :
    (∃ sites, (w.weavingOn ch i c).answer = .ok sites) ↔ w.faultOn? ch i c = none := by
  cases hanswer : (w.weavingOn ch i c).answer with
  | ok sites => exact iff_of_true ⟨sites, rfl⟩ (faultOn?_of_ok hanswer)
  | error f =>
    rw [faultOn?_of_error hanswer]
    exact iff_of_false nofun nofun

theorem faultOn?_eq_none_iff : w.faultOn? ch i c = none ↔ w.CanTransform ch i c := by
  rw [← weavingOn_isOk_iff, weavingOn, CanTransform]
  cases w.host.class? c with
  | none => exact iff_of_true ⟨[], rfl⟩ nofun
  | some cls =>
    refine Agent.weaving_isOk_iff.trans ⟨?_, fun h => h cls rfl⟩
    rintro h _ ⟨⟩
    exact h

/-- Where matchers and handlers fail in ordinary ways only, so do transformations. -/
theorem isOrdinary_of_faultOn? {f : Failure} (hch : ch.FailsOrdinarily)
    (hds : ∀ cls, w.host.class? c = some cls →
      ∀ d ∈ (w.deployment i).agent.descriptors, d.FailsOrdinarilyOn cls)
    (hf : w.faultOn? ch i c = some f) : f.isOrdinary = true := by
  unfold faultOn? weavingOn at hf
  cases hc : w.host.class? c with
  | none =>
    rw [hc] at hf
    cases hf
  | some cls =>
    rw [hc] at hf
    dsimp only at hf
    split at hf
    · cases hf
    · rename_i f' hanswer
      cases hf
      exact Agent.isOrdinary_of_weaving hch (hds cls hc) hanswer

/-- A deployment finds a class alike in two worlds. -/
structure FindsAlike (i c : Nat) (w w' : World) : Prop where
  class? : w'.host.class? c = w.host.class? c
  registry : (w.deployment i).agent.registry.Alike c (w'.deployment i).agent.registry

/-- A deployment has woven into a class what a transformation weaves there. -/
structure HasWoven (ch : LogChannel) (i c : Nat) (w w' : World) : Prop where
  class? : w'.host.class? c = (w.host.class? c).map (HostClass.addLayers
    ((w.weavingOn ch i c).installed.map fun s => ⟨s, (w.deployment i).agent.guard⟩))
  registry : (w.weavingOn ch i c).registry.Alike c (w'.deployment i).agent.registry

/-- A deployment has woven into some classes and noted what it would report on them; it has touched
no others but some. -/
structure Notes (ch : LogChannel) (i : Nat) (noted touched : List Nat) (w w' : World) : Prop where
  agent : (w'.deployment i).agent =
    { (w.deployment i).agent with registry := (w'.deployment i).agent.registry }
  length : w'.deployments.length = w.deployments.length
  unwoven : w'.host.unwoven = w.host.unwoven
  others : ∀ c, c ∉ touched → FindsAlike i c w w'
  woven : ∀ c ∈ noted, HasWoven ch i c w w'
  sites : (w'.deployment i).sites = (w.deployment i).sites ++ noted.flatMap (w.reportOn ch i)

namespace Notes

variable (h : Notes ch i noted touched w w')
include h

theorem applied (cls : HostClass) :
    (w'.deployment i).agent.applied cls = (w.deployment i).agent.applied cls := by
  rw [h.agent]
  rfl

/-- What comes of transforming a class that is not touched can be told before. -/
theorem weavingOn_alike (hc : c ∉ touched) :
    (w.weavingOn ch i c).Alike c (w'.weavingOn ch i c) := by
  have halike := (h.others c hc).registry
  unfold weavingOn
  rw [(h.others c hc).class?]
  cases w.host.class? c with
  | none => exact ⟨rfl, rfl, halike⟩
  | some cls =>
    have hsame : (w'.deployment i).agent.weaving ch c cls (w'.deployment i).agent.registry =
        (w.deployment i).agent.weaving ch c cls (w'.deployment i).agent.registry := by
      rw [h.agent]
      rfl
    dsimp only
    rw [hsame]
    exact halike.weaving _

theorem faultOn?_eq (hc : c ∉ touched) : w'.faultOn? ch i c = w.faultOn? ch i c := by
  rw [faultOn?, faultOn?, (h.weavingOn_alike hc).answer]

theorem reportOn_eq (hc : c ∉ touched) : w'.reportOn ch i c = w.reportOn ch i c := by
  rw [reportOn, reportOn, (h.weavingOn_alike hc).answer]

theorem mono (htouched : touched ⊆ touched') : Notes ch i noted touched' w w' :=
  { h with others := fun c hc => h.others c fun hmem => hc (htouched hmem) }

/-- What is woven into classes that the former have not touched has been noted before. -/
theorem trans (h' : Notes ch i noted' touched' w' w'') (hlater : ∀ c ∈ noted, c ∉ touched')
    (hbefore : ∀ c ∈ noted', c ∉ touched) :
    Notes ch i (noted ++ noted') (touched ++ touched') w w'' where
  agent := by rw [h'.agent, h.agent]
  length := h'.length.trans h.length
  unwoven := h'.unwoven.trans h.unwoven
  others c hc := by
    rw [List.mem_append, not_or] at hc
    have hfirst := h.others c hc.1
    have hsecond := h'.others c hc.2
    exact ⟨hsecond.class?.trans hfirst.class?, hfirst.registry.trans hsecond.registry⟩
  woven c hc := by
    rcases List.mem_append.mp hc with hc | hc
    · have hlater := h'.others c (hlater c hc)
      have hwoven := h.woven c hc
      exact ⟨hlater.class?.trans hwoven.class?, hwoven.registry.trans hlater.registry⟩
    · have halike := h.weavingOn_alike (hbefore c hc)
      have hwoven := h'.woven c hc
      have hguard : (w'.deployment i).agent.guard = (w.deployment i).agent.guard := by rw [h.agent]
      refine ⟨?_, halike.registry.trans hwoven.registry⟩
      rw [hwoven.class?, halike.installed, hguard, (h.others c (hbefore c hc)).class?]
  sites := by
    have hreports : noted'.flatMap (w'.reportOn ch i) = noted'.flatMap (w.reportOn ch i) :=
      List.flatMap_congr fun c hc => h.reportOn_eq (hbefore c hc)
    rw [h'.sites, h.sites, hreports, List.append_assoc, List.flatMap_append]

omit h

theorem of_run (ch : LogChannel) (i : Nat) (w : World) (r : Run) :
    Notes ch i [] [] w { w with run := r } where
  agent := rfl
  length := rfl
  unwoven := rfl
  others c _ := ⟨rfl, .refl _ c⟩
  woven _ hc := absurd hc List.not_mem_nil
  sites := (List.append_nil _).symm

end Notes

/-! ## Hooks -/

theorem hookFailedRecord_isPlain (module : String) (f : Failure) :
    (hookFailedRecord module f).IsPlain :=
  LogRecord.isPlain_of_extra rfl
    (by simp [hookFailedRecord, Table.keys, LogRecord.standardFields, LogRecord.messageMaker])
    (.inl rfl)

/-- A transformation touches no class but its own. -/
theorem notes_setLoom (hi : i < w.deployments.length) :
    Notes ch i [] [c] w (setLoom i ((w.deployment i).agent.transform c (w.loom i)).2 w) := by
  have honly := Loom.transform_changesOnly (w.deployment i).agent c (w.loom i)
  have hunwoven := Loom.transform_sameClasses (w.deployment i).agent c (w.loom i)
  rw [MeetsAt] at honly hunwoven
  generalize ((w.deployment i).agent.transform c (w.loom i)).2 = l at honly hunwoven
  have hdeployment := deployment_setLoom hi l
  constructor
  · rw [hdeployment]
  · exact length_setLoom l
  · exact hunwoven
  · intro c' hc'
    have hne : c ≠ c' := fun heq => hc' (by simp [heq])
    refine ⟨(honly c' hne).1, ?_⟩
    rw [hdeployment]
    exact (honly c' hne).2
  · exact fun _ hc => absurd hc List.not_mem_nil
  · rw [hdeployment, List.flatMap_nil, List.append_nil]

/-- A transformation comes to what its weaving comes to, and weaves that into its class. -/
theorem transform_notes (c : Nat) (hi : i < w.deployments.length) (hw : LogsLike ch w) :
    ∃ w', LogsLike ch w' ∧ Notes ch i [] [c] w w' ∧ HasWoven ch i c w w' ∧
      transform i c w = (Outcome.ofExcept (w.weavingOn ch i c).answer, w') := by
  let a := (w.deployment i).agent
  let l := (a.transform c (w.loom i)).2
  have hnotes : Notes ch i [] [c] w (setLoom i l w) := notes_setLoom hi
  have hlogs : LogsLike ch (w.loom i) := ⟨hw.handlers, hw.level⟩
  have hregistry : ((setLoom i l w).deployment i).agent.registry = l.registry := by
    rw [deployment_setLoom hi]
  -- it remains to look at the loom
  suffices hl : LogsLike ch l ∧
      (a.transform c (w.loom i)).1 = Outcome.ofExcept (w.weavingOn ch i c).answer ∧
      l.host.class? c = (w.host.class? c).map (HostClass.addLayers
        ((w.weavingOn ch i c).installed.map fun s => ⟨s, a.guard⟩)) ∧
      l.registry = (w.weavingOn ch i c).registry by
    obtain ⟨hl, hends, hclass, hwoven⟩ := hl
    refine ⟨setLoom i l w, ⟨hl.handlers, hl.level⟩, hnotes, ⟨hclass, ?_⟩, ?_⟩
    · rw [hregistry, hwoven]
      exact .refl _ c
    · rw [transform_apply, hends]
  unfold weavingOn
  cases hc : w.host.class? c with
  | none =>
    have hrun : a.transform c (w.loom i) = (.returned [], w.loom i) := Agent.transform_of_missing hc
    dsimp only [l]
    rw [hrun]
    exact ⟨hlogs, rfl, hc, rfl⟩
  | some cls =>
    obtain ⟨r, hr, hrun⟩ := a.transform_brings hc hlogs
    dsimp only [l]
    rw [hrun]
    refine ⟨⟨hr.handlers, hr.level⟩, rfl, ?_, rfl⟩
    rw [Host.class?_modify, if_pos rfl]
    exact congrArg (Option.map _) hc

/-- The report on a class that has been woven into is noted. -/
theorem Notes.note (h : Notes ch i [] [c] w w') (hi : i < w.deployments.length)
    (hwoven : HasWoven ch i c w w') :
    Notes ch i [c] [c] w (w'.modifyDeployment i fun d =>
      { d with sites := d.sites ++ w.reportOn ch i c }) := by
  let note := fun d : Deployment => { d with sites := d.sites ++ w.reportOn ch i c }
  have hdeployment : (w'.modifyDeployment i note).deployment i = note (w'.deployment i) :=
    deployment_modify (h.length ▸ hi) note
  constructor
  · rw [hdeployment]
    exact h.agent
  · rw [← h.length]
    simp [modifyDeployment]
  · exact h.unwoven
  · intro c' hc'
    refine ⟨(h.others c' hc').class?, ?_⟩
    rw [hdeployment]
    exact (h.others c' hc').registry
  · intro c' hc'
    cases List.mem_singleton.mp hc'
    refine ⟨hwoven.class?, ?_⟩
    rw [hdeployment]
    exact hwoven.registry
  · have hsites := h.sites
    rw [List.flatMap_nil, List.append_nil] at hsites
    rw [hdeployment, List.flatMap_singleton, ← hsites]

/-- What the first of some classes raises whose transformation raises. -/
def firstFault? (ch : LogChannel) (i : Nat) (w : World) (cs : List Nat) : Option Failure :=
  cs.findSome? (w.faultOn? ch i)

/-- The classes before this one. -/
def beforeFault (ch : LogChannel) (i : Nat) (w : World) (cs : List Nat) : List Nat :=
  cs.takeWhile fun c => (w.faultOn? ch i c).isNone

/-- What comes of visiting some classes. -/
def visitsAnswer (ch : LogChannel) (i : Nat) (w : World) (cs : List Nat) : Except Failure Unit :=
  match w.firstFault? ch i cs with
  | none => .ok ()
  | some f => .error f

theorem visitsAnswer_eq_error_iff {cs : List Nat} {f : Failure} :
    w.visitsAnswer ch i cs = .error f ↔ w.firstFault? ch i cs = some f := by
  unfold visitsAnswer
  cases w.firstFault? ch i cs with
  | none => exact iff_of_false nofun nofun
  | some f' =>
    constructor
    · rintro ⟨⟩
      rfl
    · rintro ⟨⟩
      rfl

theorem firstFault?_eq_none_iff {cs : List Nat} :
    w.firstFault? ch i cs = none ↔ ∀ c ∈ cs, w.CanTransform ch i c := by
  rw [firstFault?, List.findSome?_eq_none_iff]
  exact forall₂_congr fun c _ => faultOn?_eq_none_iff

section Congr

variable {cs : List Nat} (h : ∀ c ∈ cs, w'.faultOn? ch i c = w.faultOn? ch i c)
include h

theorem firstFault?_congr : w'.firstFault? ch i cs = w.firstFault? ch i cs := by
  unfold firstFault?
  induction cs with
  | nil => rfl
  | cons c cs ih =>
    obtain ⟨hc, hcs⟩ := List.forall_mem_cons.mp h
    rw [List.findSome?_cons, List.findSome?_cons, hc, ih hcs]

theorem beforeFault_congr : w'.beforeFault ch i cs = w.beforeFault ch i cs := by
  unfold beforeFault
  induction cs with
  | nil => rfl
  | cons c cs ih =>
    obtain ⟨hc, hcs⟩ := List.forall_mem_cons.mp h
    rw [List.takeWhile_cons, List.takeWhile_cons, hc, ih hcs]

end Congr

/-- A visit raises what the transformation of the class raises, or notes its report. -/
theorem visit_notes (c : Nat) (hi : i < w.deployments.length) (hw : LogsLike ch w) :
    ∃ w', LogsLike ch w' ∧ match w.faultOn? ch i c with
      | none => visit i c w = (.returned (), w') ∧ Notes ch i [c] [c] w w'
      | some f => visit i c w = (.raised f, w') ∧ Notes ch i [] [c] w w' := by
  obtain ⟨v, hv, hnotes, hwoven, hrun⟩ := transform_notes c hi hw
  rw [visit, bind_apply, hrun]
  cases hanswer : (w.weavingOn ch i c).answer with
  | error f =>
    rw [faultOn?_of_error hanswer]
    exact ⟨v, hv, rfl, hnotes⟩
  | ok sites =>
    have hnoted := hnotes.note hi hwoven
    rw [reportOn_of_ok hanswer] at hnoted
    rw [faultOn?_of_ok hanswer]
    let noted := v.modifyDeployment i fun d => { d with sites := d.sites ++ sites }
    have hlogs : LogsLike ch noted := ⟨hv.handlers, hv.level⟩
    exact ⟨noted, hlogs, rfl, hnoted⟩

/-- A loop over different classes notes those up to the first whose transformation raises, and
raises what this one does. -/
theorem visitAll_notes {cs : List Nat} (hcs : cs.Nodup) (hi : i < w.deployments.length)
    (hw : LogsLike ch w) :
    ∃ w', LogsLike ch w' ∧ Notes ch i (w.beforeFault ch i cs) cs w w' ∧
      forEach cs (visit i) w = (Outcome.ofExcept (w.visitsAnswer ch i cs), w') := by
  induction cs generalizing w with
  | nil => exact ⟨w, hw, .of_run ch i w w.run, rfl⟩
  | cons c rest ih =>
    obtain ⟨hc, hrest⟩ := List.nodup_cons.mp hcs
    obtain ⟨v, hv, hvisit⟩ := visit_notes c hi hw
    rw [forEach_cons, bind_apply]
    unfold beforeFault visitsAnswer firstFault?
    cases hfault : w.faultOn? ch i c with
    | some f =>
      rw [hfault] at hvisit
      rw [hvisit.1, List.findSome?_cons, List.takeWhile_cons, hfault]
      exact ⟨v, hv, hvisit.2.mono (by simp), rfl⟩
    | none =>
      rw [hfault] at hvisit
      obtain ⟨hrun, hnotes⟩ := hvisit
      have huntouched : ∀ c' ∈ rest, c' ∉ [c] := fun c' hc' heq =>
        hc (List.mem_singleton.mp heq ▸ hc')
      have hsame : ∀ c' ∈ rest, v.faultOn? ch i c' = w.faultOn? ch i c' :=
        fun c' hc' => hnotes.faultOn?_eq (huntouched c' hc')
      obtain ⟨w', hw', hnotes', hloop⟩ := ih hrest (hnotes.length ▸ hi) hv
      rw [beforeFault_congr hsame] at hnotes'
      rw [visitsAnswer, firstFault?_congr hsame] at hloop
      rw [hrun, List.findSome?_cons, List.takeWhile_cons, hfault]
      refine ⟨w', hw', ?_, hloop⟩
      exact hnotes.trans hnotes' (fun c' hc' => List.mem_singleton.mp hc' ▸ hc)
        fun c' hc' => huntouched c' ((List.takeWhile_prefix _).subset hc')

/-- A hook notes the classes of its module up to the first whose transformation raises. It raises if
this cannot be reported. -/
theorem onImport_notes (m : HostModule) (hi : i < w.deployments.length) (hw : LogsLike ch w) :
    let cs := m.declaredClasses w.host
    ∃ w', LogsLike ch w' ∧ Notes ch i (w.beforeFault ch i cs) cs w w' ∧
      onImport i m w = (Outcome.ofExcept
        (ch.excuse (hookFailedRecord m.name) () (w.visitsAnswer ch i cs)), w') := by
  intro cs
  obtain ⟨v, hv, hnotes, hloop⟩ := visitAll_notes (HostModule.nodup_declaredClasses m w.host) hi hw
  rw [onImport_apply, orElse, hloop]
  cases w.visitsAnswer ch i (m.declaredClasses w.host) with
  | ok _ => exact ⟨v, hv, hnotes, rfl⟩
  | error f =>
    rw [LogChannel.excuse]
    cases hordinary : f.isOrdinary with
    | false => exact ⟨v, hv, hnotes, if_neg (by simp [hordinary])⟩
    | true =>
      -- the report changes the run only
      let record := hookFailedRecord m.name f
      let reported := HasChannel.setChannel ((HasChannel.channel v).logged record) v
      have hreported : Notes ch i [] [] v reported := .of_run ch i v _
      have hlast := hnotes.trans hreported (fun _ _ => List.not_mem_nil)
        fun _ hc => absurd hc List.not_mem_nil
      rw [List.append_nil, List.append_nil] at hlast
      refine ⟨reported, logsLike_logged (fun _ _ => rfl) hv record, hlast, ?_⟩
      have hreport := report_of_plain (hookFailedRecord_isPlain m.name f) v
      rw [hv.verdict] at hreport
      refine (if_pos hordinary).trans (hreport.trans ?_)
      rw [if_pos rfl]
      cases ch.verdict (hookFailedRecord m.name f) <;> rfl

end World

end AspectAgent
