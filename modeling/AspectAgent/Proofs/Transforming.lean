import AspectAgent.Proofs.Reporting
import AspectAgent.Proofs.WeavingRegistry

/-!
# What a transformation does

A transformation selects the descriptors that match the class, and weaves one after the other. Each
of them is woven into what the former have left; but what a descriptor selects in a class stays when
layers are put around its members. So what comes of a transformation is a function of the class, the
registry, the descriptors and the channel: how it ends, the sites that it puts around the class, and
what the registry has then.

It raises if something is to be logged that cannot be, or if a matcher fails in a way that is not an
ordinary one. What has been woven until then stays.
-/

namespace AspectAgent

open Act

/-! ## What weaving may do -/

namespace Selection

open Contract

variable (t : TypeDescription) (d : Descriptor)

theorem consult_keepsSettings (v : Verdict) : (keepsSettings Run).Meets (Run.consult v) :=
  meets_bind (meets_forEach _ fun _ _ => meets_change fun r => (keepsSettings Run).refl true r)
    fun _ => meets_ofExcept _

theorem asked_keepsSettings {x : Act Run Bool} (hx : (keepsSettings Run).Meets x)
    (r : Failure → LogRecord) :
    (keepsSettings Run).Meets (Act.orElse x fun f => report (r f) >>= fun _ => pure false) :=
  meets_orElse hx fun f =>
    meets_bind (fun run => LogChannel.sameSettings_log run.channel (r f)) fun _ => meets_pure _

theorem methodsFor_keepsSettings (ms : List MethodDescription) :
    (keepsSettings Run).Meets (methodsFor t d ms) := by
  induction ms with
  | nil => exact meets_give _
  | cons m ms ih =>
    exact meets_bind (asked_keepsSettings (consult_keepsSettings _) _) fun _ =>
      meets_bind ih fun _ => meets_pure _

theorem descriptorsFor_keepsSettings (ds : List Descriptor) :
    (keepsSettings Run).Meets (descriptorsFor t ds) := by
  induction ds with
  | nil => exact meets_give _
  | cons d ds ih =>
    have hmatches : (keepsSettings Run).Meets (matchesType t d) :=
      meets_orElse (consult_keepsSettings _) fun _ => meets_raise _
    exact meets_bind (asked_keepsSettings hmatches _) fun _ => meets_bind ih fun _ => meets_pure _

end Selection

namespace Loom

open Contract

/-- A contract under which anything may be run that keeps the settings of diagnostics, and woven
into a class. -/
structure AllowsWeaving (C : Contract Loom) (c : Nat) : Prop where
  run : ∀ b l r, (keepsSettings Run).allows b l.run r → C.allows b l { l with run := r }
  weave : ∀ guard d, C.Meets (weave guard c d)

variable {C : Contract Loom} {c : Nat} (hC : AllowsWeaving C c)
include hC

theorem weaveAll_meets (guard : Nat) (target : String) (ds : List Descriptor) :
    C.Meets (Agent.weaveAll guard c target ds) := by
  induction ds with
  | nil => exact meets_give _
  | cons d ds ih =>
    have hreport : ∀ record, C.Meets (report record : Act Loom Unit) :=
      fun record l => hC.run _ l _ (LogChannel.sameSettings_log l.run.channel record)
    refine meets_bind (meets_orElse (hC.weave guard d) fun f => ?_) fun _ => ?_
    · exact meets_bind (hreport _) fun _ => meets_pure _
    · exact meets_bind ih fun _ => meets_pure _

/-- A transformation does no more than run and weave. -/
theorem transform_meets (a : Agent) : C.Meets (a.transform c) := by
  have hrunning : ∀ {α : Type} {x : Act Run α}, (keepsSettings Run).Meets x → C.Meets (running x) :=
    fun hx l => hC.run _ l _ (hx l.run)
  unfold Agent.transform
  split
  · exact meets_pure _
  · refine meets_read fun l => ?_
    split
    · exact meets_pure _ l
    · exact meets_bind (hrunning (Selection.descriptorsFor_keepsSettings _ _))
        (fun _ => weaveAll_meets hC _ _ _) l

end Loom

/-! ## What comes of weaving -/

/-- What comes of weaving into a class: how it ends, the sites that it puts around the class, and
the registry after it. -/
structure Weaving where
  answer : Except Failure (List Site)
  installed : List Site
  registry : Registry

namespace Registry

variable (ch : LogChannel) (c : Nat) (cls : HostClass)

/-- What comes of weaving a descriptor into a class when reports go to a channel. -/
def weaving (g : Registry) (d : Descriptor) : Weaving :=
  match g.lookUp c d with
  | .error f => ⟨.error f, [], g⟩
  | .ok (some sites) => ⟨.ok sites, [], g⟩
  | .ok none => ⟨d.firstAnswer ch cls, d.firstSites ch cls, g.enter c d (d.firstSites ch cls)⟩

/-- What comes of the turn of a descriptor in a transformation: if the weaving fails in an ordinary
way this is reported, and nothing is returned. -/
def turn (g : Registry) (d : Descriptor) : Weaving :=
  { g.weaving ch c cls d with
    answer := ch.excuse (Agent.failedRecord d cls.name) [] (g.weaving ch c cls d).answer }

/-- What comes of the turns of several descriptors, up to the first that fails. -/
def turns (g : Registry) : List Descriptor → Weaving
  | [] => ⟨.ok [], [], g⟩
  | d :: ds =>
    let first := g.turn ch c cls d
    match first.answer with
    | .error f => ⟨.error f, first.installed, first.registry⟩
    | .ok sites =>
      let rest := first.registry.turns ds
      ⟨rest.answer.map (sites ++ ·), first.installed ++ rest.installed, rest.registry⟩

variable {ch c cls} {g : Registry} {d : Descriptor} {ds : List Descriptor} {sites : List Site}

theorem weaving_of_sites (hk : g.lookUp c d = .ok (some sites)) :
    g.weaving ch c cls d = ⟨.ok sites, [], g⟩ := by
  rw [weaving, hk]

theorem weaving_of_new (hk : g.lookUp c d = .ok none) : g.weaving ch c cls d =
    ⟨d.firstAnswer ch cls, d.firstSites ch cls, g.enter c d (d.firstSites ch cls)⟩ := by
  rw [weaving, hk]

theorem turn_of_sites (hk : g.lookUp c d = .ok (some sites)) :
    g.turn ch c cls d = ⟨.ok sites, [], g⟩ := by
  rw [turn, weaving_of_sites hk]
  rfl

theorem turn_of_new (hk : g.lookUp c d = .ok none) : g.turn ch c cls d =
    ⟨ch.excuse (Agent.failedRecord d cls.name) [] (d.firstAnswer ch cls), d.firstSites ch cls,
      g.enter c d (d.firstSites ch cls)⟩ := by
  rw [turn, weaving_of_new hk]

theorem turns_cons_of_error {f : Failure} (h : (g.turn ch c cls d).answer = .error f)
    (ds : List Descriptor) : g.turns ch c cls (d :: ds) =
      ⟨.error f, (g.turn ch c cls d).installed, (g.turn ch c cls d).registry⟩ := by
  rw [turns]
  dsimp only
  rw [h]

theorem turns_cons_of_ok (h : (g.turn ch c cls d).answer = .ok sites) (ds : List Descriptor) :
    g.turns ch c cls (d :: ds) =
      ⟨((g.turn ch c cls d).registry.turns ch c cls ds).answer.map (sites ++ ·),
        (g.turn ch c cls d).installed ++
          ((g.turn ch c cls d).registry.turns ch c cls ds).installed,
        ((g.turn ch c cls d).registry.turns ch c cls ds).registry⟩ := by
  rw [turns]
  dsimp only
  rw [h]

section AddLayers

variable (layers : List Layer)

@[simp] theorem turn_addLayers (g : Registry) (d : Descriptor) :
    g.turn ch c (cls.addLayers layers) d = g.turn ch c cls d := by
  have hweaving : g.weaving ch c (cls.addLayers layers) d = g.weaving ch c cls d := by
    rw [weaving, Descriptor.firstAnswer_addLayers, Descriptor.firstSites_addLayers, weaving]
  rw [turn, hweaving]
  rfl

@[simp] theorem turns_addLayers (g : Registry) (ds : List Descriptor) :
    g.turns ch c (cls.addLayers layers) ds = g.turns ch c cls ds := by
  induction ds generalizing g with
  | nil => rfl
  | cons d ds ih =>
    rw [turns, turns, turn_addLayers]
    dsimp only
    split
    · rfl
    · rw [ih]

end AddLayers

end Registry

/-- What comes of a transformation of a class. -/
def Agent.weaving (ch : LogChannel) (a : Agent) (c : Nat) (cls : HostClass) (g : Registry) :
    Weaving :=
  if a.config.enabled.truthy then
    match a.selected ch cls with
    | .error f => ⟨.error f, [], g⟩
    | .ok ds => g.turns ch c cls ds
  else ⟨.ok [], [], g⟩

namespace Loom

variable {ch : LogChannel} {guard c : Nat} {cls : HostClass} {d : Descriptor} {l : Loom}

/-- From a loom an action does what a weaving into a class comes to. -/
def Brings (ch : LogChannel) (guard c : Nat) (x : Act Loom (List Site)) (l : Loom) (w : Weaving) :
    Prop :=
  ∃ r, LogsLike ch r ∧ x l = (Outcome.ofExcept w.answer,
    ⟨l.host.modify c (HostClass.addLayers (w.installed.map fun s => ⟨s, guard⟩)), w.registry, r⟩)

/-- An action that installs nothing and leaves the registry alone. -/
theorem brings_of_unchanged {x : Act Loom (List Site)} {answer : Except Failure (List Site)}
    {r : Run} (hr : LogsLike ch r) (hx : x l = (Outcome.ofExcept answer, { l with run := r })) :
    Brings ch guard c x l ⟨answer, [], l.registry⟩ := by
  refine ⟨r, hr, ?_⟩
  rw [hx, List.map_nil, HostClass.addLayers_nil, Host.modify_id]

theorem weave_brings (guard : Nat) (d : Descriptor) (hc : l.host.class? c = some cls)
    (hl : LogsLike ch l) :
    Brings ch guard c (weave guard c d) l (l.registry.weaving ch c cls d) := by
  have hrun : LogsLike ch l.run := ⟨hl.handlers, hl.level⟩
  unfold Registry.weaving
  cases hk : l.registry.lookUp c d with
  | error f => exact brings_of_unchanged hrun (weave_of_refused hk)
  | ok found =>
    cases found with
    | some sites => exact brings_of_unchanged hrun (weave_of_sites hk)
    | none => exact weave_first guard hk hc hl

/-- An ordinary failure is reported, and nothing is returned unless the report fails. -/
theorem turn_brings (guard : Nat) (d : Descriptor) (hc : l.host.class? c = some cls)
    (hl : LogsLike ch l) :
    Brings ch guard c (Act.orElse (weave guard c d) fun f => do
      report (Agent.failedRecord d cls.name f)
      return []) l (l.registry.turn ch c cls d) := by
  obtain ⟨r, hr, hweave⟩ := weave_brings guard d hc hl
  unfold Brings Registry.turn
  rw [orElse, hweave]
  cases (l.registry.weaving ch c cls d).answer with
  | ok sites => exact ⟨r, hr, rfl⟩
  | error f =>
    rw [LogChannel.excuse]
    cases hf : f.isOrdinary with
    | false => exact ⟨r, hr, if_neg (by rw [hf]; exact Bool.false_ne_true)⟩
    | true =>
      obtain ⟨r', hr', hreport⟩ := report_apply
        (l := ⟨_, (l.registry.weaving ch c cls d).registry, r⟩)
        (LogRecord.failedRecord_isPlain d cls.name f) ⟨hr.handlers, hr.level⟩ ([] : List Site)
      exact ⟨r', hr', (if_pos hf).trans hreport⟩

/-- The turns of several descriptors. The class has the layers of one when the next is woven. -/
theorem turns_brings (guard : Nat) (ds : List Descriptor) (hc : l.host.class? c = some cls)
    (hl : LogsLike ch l) :
    Brings ch guard c (Agent.weaveAll guard c cls.name ds) l (l.registry.turns ch c cls ds) := by
  induction ds generalizing l cls with
  | nil => exact brings_of_unchanged ⟨hl.handlers, hl.level⟩ rfl
  | cons d ds ih =>
    obtain ⟨r, hr, hturn⟩ := turn_brings guard d hc hl
    let first := l.registry.turn ch c cls d
    let layers : List Layer := first.installed.map fun s => ⟨s, guard⟩
    let l' : Loom := ⟨l.host.modify c (HostClass.addLayers layers), first.registry, r⟩
    have hc' : l'.host.class? c = some (cls.addLayers layers) := by
      rw [Host.class?_modify, if_pos rfl, hc, Option.map_some]
    unfold Brings
    rw [Agent.weaveAll, bind_apply, hturn]
    cases hanswer : (l.registry.turn ch c cls d).answer with
    | error f =>
      rw [Registry.turns_cons_of_error hanswer]
      exact ⟨r, hr, rfl⟩
    | ok sites =>
      obtain ⟨r', hr', hrest⟩ := ih hc' ⟨hr.handlers, hr.level⟩
      rw [Registry.turns_addLayers] at hrest
      refine ⟨r', hr', ?_⟩
      rw [Registry.turns_cons_of_ok hanswer]
      show (Agent.weaveAll guard c cls.name ds >>= fun rest => pure (sites ++ rest)) l' = _
      have hname : (cls.addLayers layers).name = cls.name := rfl
      rw [← hname, bind_apply, hrest, List.map_append, ← Host.modify_addLayers]
      have hregistry : l'.registry = (l.registry.turn ch c cls d).registry := rfl
      rw [hregistry]
      cases ((l.registry.turn ch c cls d).registry.turns ch c cls ds).answer <;> rfl

end Loom

namespace Agent

variable {a : Agent} {l : Loom} {c : Nat} {cls : HostClass} {ch : LogChannel}

theorem transform_of_disabled (c : Nat) (l : Loom) (hoff : a.config.enabled.truthy = false) :
    a.transform c l = (.returned [], l) := by
  unfold transform
  rw [hoff]
  rfl

theorem transform_of_missing (hc : l.host.class? c = none) :
    a.transform c l = (.returned [], l) := by
  unfold transform
  split
  · rfl
  · rw [bind_of_returned (read_apply l), hc]
    rfl

/-- A transformation does what its weaving comes to. -/
theorem transform_brings (a : Agent) (hc : l.host.class? c = some cls) (hl : LogsLike ch l) :
    Loom.Brings ch a.guard c (a.transform c) l (a.weaving ch c cls l.registry) := by
  have hrun : LogsLike ch l.run := ⟨hl.handlers, hl.level⟩
  unfold weaving
  cases hon : a.config.enabled.truthy with
  | false => exact Loom.brings_of_unchanged hrun (transform_of_disabled c l hon)
  | true =>
    have htransform : a.transform c l = (Loom.running
        (Selection.descriptorsFor cls.describe a.descriptors) >>= fun selected =>
          weaveAll a.guard c cls.name selected) l := by
      unfold transform
      rw [hon]
      simp only [Bool.not_true, Bool.false_eq_true, if_false]
      rw [bind_of_returned (read_apply l), hc]
    obtain ⟨r, hr, hselected⟩ := Loom.running_apply (a.descriptorsFor_settles ch cls) hl
    rw [if_pos rfl]
    cases hds : a.selected ch cls with
    | error f =>
      refine Loom.brings_of_unchanged hr ?_
      rw [htransform, bind_apply, hselected, hds]
      rfl
    | ok ds =>
      rw [hds] at hselected
      unfold Loom.Brings
      rw [htransform, bind_of_returned hselected]
      exact Loom.turns_brings (l := { l with run := r }) a.guard ds hc ⟨hr.handlers, hr.level⟩

end Agent

/-- Every transformation comes to an end. -/
theorem Loom.transform_ends (a : Agent) (c : Nat) : (a.transform c).EndsIn fun _ => True := by
  intro l
  cases hc : l.host.class? c with
  | none => exact .inl ⟨[], congrArg Prod.fst (Agent.transform_of_missing hc)⟩
  | some cls =>
    obtain ⟨r, -, hrun⟩ := a.transform_brings hc (logsLike_channel (σ := Loom) l)
    rw [hrun]
    cases (a.weaving (HasChannel.channel l) c cls l.registry).answer with
    | ok sites => exact .inl ⟨sites, rfl⟩
    | error f => exact .inr ⟨f, rfl, trivial⟩

end AspectAgent
