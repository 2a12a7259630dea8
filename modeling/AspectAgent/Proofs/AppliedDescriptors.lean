import AspectAgent.Proofs.Transforming

/-!
# The descriptors that are applied

Where matchers fail in ordinary ways only, the descriptors can be hashed and no handler raises, a
transformation returns, and what it does is told by which descriptors match the class and which of
their methods match and can be assigned. It weaves those that have not been woven, the first of each
key.

In general a transformation returns if what fails on its way can be reported. That is to be asked of
the type matchers, of the descriptors that are to be woven, and of those that cannot be hashed.
-/

namespace AspectAgent

open Act

namespace Registry

variable (g : Registry) (c : Nat) (cls : HostClass)

/-- The descriptors that are to be woven into a class: those that have not been woven into it, the
first of each key. -/
def fresh : List Descriptor → List Descriptor
  | [] => []
  | d :: ds =>
    if (g.sites? c d.key).isSome then fresh ds
    else d :: (fresh ds).filter fun e => e.key ≠ d.key

/-- The registry after descriptors have been woven into a class. -/
def wovenInto (ds : List Descriptor) : Registry :=
  { g with entries := g.entries ++ (g.fresh c ds).map fun d => (c, d.key, d.sitesOn cls) }

/-- What comes of weaving descriptors into a class, one by one: the sites that the registry has, or
what the weaving returns. -/
def answers (g : Registry) : List Descriptor → List (Descriptor × List Site)
  | [] => []
  | d :: ds =>
    match g.sites? c d.key with
    | some sites => (d, sites) :: answers g ds
    | none => (d, d.answerOn cls) :: answers (g.remember c d.key (d.sitesOn cls)) ds

variable {g c cls}

theorem fresh_sublist (ds : List Descriptor) : (g.fresh c ds).Sublist ds := by
  induction ds with
  | nil => exact .refl []
  | cons d ds ih =>
    rw [fresh]
    split
    · exact ih.cons d
    · exact (List.filter_sublist.trans ih).cons_cons d

theorem fresh_congr {g' : Registry} (h : ∀ k, g'.sites? c k = g.sites? c k) (ds : List Descriptor) :
    g'.fresh c ds = g.fresh c ds := by
  induction ds with
  | nil => rfl
  | cons d ds ih => rw [fresh, fresh, h, ih]

theorem fresh_remember {k : DescriptorKey} {sites : List Site} (hk : g.sites? c k = none)
    (ds : List Descriptor) :
    (g.remember c k sites).fresh c ds = (g.fresh c ds).filter fun d => d.key ≠ k := by
  induction ds with
  | nil => rfl
  | cons d ds ih =>
    rw [fresh, fresh]
    by_cases hd : k = d.key
    · subst hd
      rw [sites?_remember_self hk, hk, ih]
      simp
    · rw [sites?_remember_of_ne (Ne.symm hd)]
      split
      · exact ih
      · rw [ih, List.filter_cons_of_pos (by simpa using Ne.symm hd), List.filter_comm]

theorem fresh_of_new {d : Descriptor} (hk : g.sites? c d.key = none) (sites : List Site)
    (ds : List Descriptor) :
    g.fresh c (d :: ds) = d :: (g.remember c d.key sites).fresh c ds := by
  rw [fresh_remember hk, fresh, hk]
  rfl

theorem wovenInto_of_sites {d : Descriptor} {sites : List Site} (hk : g.sites? c d.key = some sites)
    (ds : List Descriptor) : g.wovenInto c cls (d :: ds) = g.wovenInto c cls ds := by
  rw [wovenInto, fresh, hk, wovenInto]
  rfl

theorem wovenInto_of_new {d : Descriptor} (hk : g.sites? c d.key = none) (ds : List Descriptor) :
    g.wovenInto c cls (d :: ds) =
      (g.remember c d.key (d.sitesOn cls)).wovenInto c cls ds := by
  rw [wovenInto, wovenInto, fresh_of_new hk (d.sitesOn cls)]
  simp [remember]

theorem sites?_wovenInto_of_known {c' : Nat} {k : DescriptorKey} {sites : List Site}
    (hk : g.sites? c' k = some sites) (ds : List Descriptor) :
    (g.wovenInto c cls ds).sites? c' k = some sites := by
  induction ds generalizing g with
  | nil =>
    rw [wovenInto, fresh, List.map_nil, List.append_nil]
    exact hk
  | cons d ds ih =>
    cases hd : g.sites? c d.key with
    | some _ =>
      rw [wovenInto_of_sites hd]
      exact ih hk
    | none =>
      rw [wovenInto_of_new hd]
      exact ih (sites?_remember_of_sites hk)

end Registry

namespace Loom

/-- The layers that weaving descriptors into a class puts around its members. -/
def newLayers (guard c : Nat) (cls : HostClass) (g : Registry) (ds : List Descriptor) :
    List Layer :=
  ((g.fresh c ds).flatMap fun d => d.sitesOn cls).map fun s => ⟨s, guard⟩

end Loom

/-! ## Where nothing stands in the way -/

namespace Descriptor

variable {ch : LogChannel} {d : Descriptor} {cls : HostClass}

/-- What is left of an ordinary failure of the type matcher is ordinary. -/
theorem isOrdinary_of_typeOutcome {f : Failure}
    (hd : (d.typeMatcher.matcher.test (.type cls.describe)).FailsOrdinarily)
    (hf : (d.typeMatcher.matcher.test (.type cls.describe)).outcome.mapError
      (Selection.typeFailure cls.describe d) = .error f) : f.isOrdinary = true := by
  cases houtcome : (d.typeMatcher.matcher.test (.type cls.describe)).outcome with
  | ok b =>
    rw [houtcome] at hf
    cases hf
  | error f' =>
    rw [houtcome] at hf
    cases hf
    rw [Selection.isOrdinary_typeFailure]
    exact hd f' houtcome

theorem typeAnswer_of_safe (hch : ∀ r, ch.verdict r = .ok ())
    (hd : (d.typeMatcher.matcher.test (.type cls.describe)).FailsOrdinarily) :
    d.typeAnswer ch cls = .ok (d.acceptsType cls) := by
  obtain ⟨b, hb⟩ : ∃ b, d.typeAnswer ch cls = .ok b :=
    LogChannel.excuse_isOk_iff.mpr fun f hf => ⟨isOrdinary_of_typeOutcome hd hf, hch _⟩
  rw [hb, eq_of_typeAnswer hb]

theorem selected_of_safe (hch : ∀ r, ch.verdict r = .ok ()) (hd : d.FailsOrdinarilyOn cls) :
    d.selected ch cls = .ok (d.methodsOn cls) :=
  selected_of_answers fun m hm =>
    LogChannel.excuse_isOk_iff.mpr fun f hf => ⟨hd.method m hm f hf, hch _⟩

/-- A weaving fails only if a method cannot be assigned. This is reported. -/
theorem excuse_firstAnswer_of_safe (hch : ∀ r, ch.verdict r = .ok ())
    (hd : d.FailsOrdinarilyOn cls) (hhashed : d.unhashed = none) :
    ch.excuse (Agent.failedRecord d cls.name) [] (d.firstAnswer ch cls) =
      .ok (d.answerOn cls) := by
  unfold firstAnswer
  rw [unhashable?_of_hashed hhashed, selected_of_safe hch hd, hch]
  dsimp only
  cases hfind : (d.methodsOn cls).find? fun m => cls.locked.contains m.name with
  | none =>
    have hfree := List.find?_eq_none.mp hfind
    have hanswer : d.answerOn cls = d.sitesOn cls :=
      if_pos (List.all_eq_true.mpr fun m hm => by simpa using hfree m hm)
    rw [hanswer]
    rfl
  | some m =>
    have hanswer : d.answerOn cls = [] := by
      refine if_neg fun hall => ?_
      have hfree := List.all_eq_true.mp hall m (List.mem_of_find?_eq_some hfind)
      have hlocked := List.find?_some hfind
      rw [hlocked] at hfree
      exact Bool.false_ne_true hfree
    rw [hanswer]
    show (ch.verdict _).map (fun _ => []) = _
    rw [hch]
    rfl

end Descriptor

namespace Registry

variable {ch : LogChannel} {g : Registry} {c : Nat} {cls : HostClass}

theorem turns_of_safe (hch : ∀ r, ch.verdict r = .ok ()) {ds : List Descriptor}
    (hds : ∀ d ∈ ds, d.FailsOrdinarilyOn cls) (hhashed : ∀ d ∈ ds, d.unhashed = none) :
    g.turns ch c cls ds = ⟨.ok ((g.answers c cls ds).flatMap Prod.snd),
      (g.fresh c ds).flatMap fun d => d.sitesOn cls, g.wovenInto c cls ds⟩ := by
  induction ds generalizing g with
  | nil => simp [turns, answers, fresh, wovenInto]
  | cons d ds ih =>
    obtain ⟨hd, hds⟩ := List.forall_mem_cons.mp hds
    obtain ⟨hdhashed, hhashed⟩ := List.forall_mem_cons.mp hhashed
    have hfound := lookUp_of_hashed hdhashed g c
    cases hk : g.sites? c d.key with
    | some sites =>
      rw [hk] at hfound
      have hturn : g.turn ch c cls d = ⟨.ok sites, [], g⟩ := turn_of_sites hfound
      rw [turns_cons_of_ok (congrArg Weaving.answer hturn), hturn, ih hds hhashed,
        wovenInto_of_sites hk, answers, fresh, hk]
      rfl
    | none =>
      rw [hk] at hfound
      have hturn : g.turn ch c cls d = ⟨.ok (d.answerOn cls), d.sitesOn cls,
          g.remember c d.key (d.sitesOn cls)⟩ := by
        rw [turn_of_new hfound, Descriptor.excuse_firstAnswer_of_safe hch hd hdhashed,
          Descriptor.firstSites_of_selected (Descriptor.selected_of_safe hch hd),
          enter_of_hashed hdhashed]
      rw [turns_cons_of_ok (congrArg Weaving.answer hturn), hturn, ih hds hhashed,
        wovenInto_of_new hk, answers, fresh_of_new hk (d.sitesOn cls), hk]
      rfl

end Registry

namespace Agent

variable {a : Agent} {l : Loom} {c : Nat} {cls : HostClass}

/-- The descriptors that a transformation of a class applies. -/
def applied (a : Agent) (cls : HostClass) : List Descriptor :=
  if a.config.enabled.truthy then a.descriptors.filter fun d => d.acceptsType cls else []

theorem applied_sublist (a : Agent) (cls : HostClass) : (a.applied cls).Sublist a.descriptors := by
  unfold applied
  split
  · exact List.filter_sublist
  · exact List.nil_sublist _

/-- If descriptors are selected, they are those that match. -/
theorem applied_of_selected {ch : LogChannel} {ds : List Descriptor}
    (hon : a.config.enabled.truthy = true) (h : a.selected ch cls = .ok ds) :
    a.applied cls = ds := by
  rw [applied, if_pos hon]
  exact (Selection.eq_filter_of_sift (fun _ _ => Descriptor.eq_of_typeAnswer) h).symm

/-- Where matchers fail in ordinary ways only, the descriptors can be hashed and no handler raises,
a transformation returns. -/
theorem transform_settled (hc : l.host.class? c = some cls)
    (hds : ∀ d ∈ a.descriptors, d.FailsOrdinarilyOn cls)
    (hhashed : ∀ d ∈ a.applied cls, d.unhashed = none) (hl : LogsSafely l) :
    ∃ r, a.transform c l =
      (.returned ((l.registry.answers c cls (a.applied cls)).flatMap Prod.snd),
        { host := l.host.modify c
            (HostClass.addLayers (Loom.newLayers a.guard c cls l.registry (a.applied cls)))
          registry := l.registry.wovenInto c cls (a.applied cls)
          run := r }) ∧ LogsSafely r := by
  have hch := LogChannel.verdict_of_neverFails hl
  have hweaving : a.weaving (HasChannel.channel l) c cls l.registry =
      l.registry.turns (HasChannel.channel l) c cls (a.applied cls) := by
    unfold weaving applied
    cases a.config.enabled.truthy with
    | false => rfl
    | true =>
      have hselected : a.selected (HasChannel.channel l) cls =
          .ok (a.descriptors.filter fun d => d.acceptsType cls) :=
        Selection.sift_of_ok fun d hd => Descriptor.typeAnswer_of_safe hch (hds d hd).type
      rw [if_pos rfl, if_pos rfl, hselected]
  obtain ⟨r, hr, hrun⟩ := a.transform_brings hc (logsLike_channel (σ := Loom) l)
  rw [hweaving, Registry.turns_of_safe hch
    (fun d hd => hds d ((a.applied_sublist cls).subset hd)) hhashed] at hrun
  exact ⟨r, hrun, hr.logsSafely hl⟩

end Agent

/-! ## Where a transformation returns -/

/-- What the first weaving of the descriptor into a class fails with, if anything, is ordinary and
can be reported. -/
def Descriptor.Passes (ch : LogChannel) (d : Descriptor) (cls : HostClass) : Prop :=
  ∀ f, d.firstAnswer ch cls = .error f →
    f.isOrdinary = true ∧ ch.verdict (Agent.failedRecord d cls.name f) = .ok ()

namespace Registry

variable {ch : LogChannel} {g : Registry} {c : Nat} {cls : HostClass} {d : Descriptor}

/-- The turn of a descriptor that cannot be hashed comes to what its first weaving comes to, and
enters nothing. -/
theorem turn_of_unhashed (ch : LogChannel) (g : Registry) (c : Nat) (cls : HostClass)
    (hd : d.unhashed ≠ none) :
    (g.turn ch c cls d).answer =
        ch.excuse (Agent.failedRecord d cls.name) [] (d.firstAnswer ch cls) ∧
      (g.turn ch c cls d).registry.entries = g.entries := by
  obtain ⟨f, hf⟩ : ∃ f, d.unhashable? = some f :=
    Option.ne_none_iff_exists'.mp fun hnone => hd (Descriptor.unhashable?_eq_none.mp hnone)
  cases hc : g.knows c with
  | true =>
    have hanswer : d.firstAnswer ch cls = .error f := by rw [Descriptor.firstAnswer, hf]
    rw [turn, weaving, lookUp_of_known hf hc, hanswer]
    exact ⟨rfl, rfl⟩
  | false =>
    rw [turn_of_new (lookUp_of_unknown hf hc), enter_of_unhashed hf]
    exact ⟨rfl, rfl⟩

/-- Turns return if what their weavings fail with can be reported. -/
theorem turns_isOk_iff (g : Registry) (ds : List Descriptor) :
    (∃ sites, (g.turns ch c cls ds).answer = .ok sites) ↔
      (∀ d ∈ ds, d.unhashed ≠ none → d.Passes ch cls) ∧
        ∀ d ∈ g.fresh c (ds.filter Descriptor.isHashed), d.Passes ch cls := by
  have hturns : ∀ (g : Registry) (d : Descriptor) (ds : List Descriptor),
      (∃ sites, (g.turns ch c cls (d :: ds)).answer = .ok sites) ↔
        (∃ sites, (g.turn ch c cls d).answer = .ok sites) ∧
          ∃ sites, ((g.turn ch c cls d).registry.turns ch c cls ds).answer = .ok sites := by
    intro g d ds
    cases hanswer : (g.turn ch c cls d).answer with
    | error f =>
      rw [turns_cons_of_error hanswer]
      exact iff_of_false nofun fun h => nomatch h.1
    | ok sites =>
      rw [turns_cons_of_ok hanswer]
      cases ((g.turn ch c cls d).registry.turns ch c cls ds).answer with
      | error f => exact iff_of_false nofun fun h => nomatch h.2
      | ok rest => exact iff_of_true ⟨_, rfl⟩ ⟨⟨_, rfl⟩, _, rfl⟩
  have hpasses : ∀ d : Descriptor, (∃ sites,
      ch.excuse (Agent.failedRecord d cls.name) [] (d.firstAnswer ch cls) = .ok sites) ↔
        d.Passes ch cls := fun _ => LogChannel.excuse_isOk_iff
  induction ds generalizing g with
  | nil => exact iff_of_true ⟨[], rfl⟩ ⟨nofun, nofun⟩
  | cons d ds ih =>
    refine (hturns g d ds).trans ((and_congr_right fun _ => ih _).trans ?_)
    rw [List.forall_mem_cons]
    by_cases hhashed : d.unhashed = none
    · have hfound := lookUp_of_hashed hhashed g c
      rw [List.filter_cons_of_pos (Descriptor.isHashed_iff.mpr hhashed)]
      cases hk : g.sites? c d.key with
      | some sites =>
        rw [hk] at hfound
        rw [turn_of_sites hfound, fresh, hk]
        simp [hhashed]
      | none =>
        rw [hk] at hfound
        rw [turn_of_new hfound, hpasses, enter_of_hashed hhashed,
          fresh_of_new hk (d.firstSites ch cls), List.forall_mem_cons]
        simp [hhashed, and_left_comm]
    · obtain ⟨hanswer, hentries⟩ := turn_of_unhashed ch g c cls hhashed
      have hfresh : ∀ ds, (g.turn ch c cls d).registry.fresh c ds = g.fresh c ds :=
        fresh_congr fun k => by rw [sites?, hentries, sites?]
      rw [hanswer, hpasses, hfresh, List.filter_cons_of_neg fun h =>
        hhashed (Descriptor.isHashed_iff.mp h)]
      simp [hhashed, and_assoc]

end Registry

namespace Agent

variable {ch : LogChannel} {a : Agent} {g : Registry} {c : Nat} {cls : HostClass}

/-- What fails when the agent transforms a class can be reported. -/
structure Passes (ch : LogChannel) (a : Agent) (g : Registry) (c : Nat) (cls : HostClass) :
    Prop where
  types : ∀ d ∈ a.descriptors, ∃ b, d.typeAnswer ch cls = .ok b
  unhashed : ∀ d ∈ a.applied cls, d.unhashed ≠ none → d.Passes ch cls
  fresh : ∀ d ∈ g.fresh c ((a.applied cls).filter Descriptor.isHashed), d.Passes ch cls

/-- A transformation returns if what fails on its way can be reported. -/
theorem weaving_isOk_iff : (∃ sites, (a.weaving ch c cls g).answer = .ok sites) ↔
    (a.config.enabled.truthy = true → a.Passes ch g c cls) := by
  unfold weaving
  cases hon : a.config.enabled.truthy with
  | false => exact iff_of_true ⟨[], rfl⟩ nofun
  | true =>
    have htypes : (∃ ds, a.selected ch cls = .ok ds) ↔
        ∀ d ∈ a.descriptors, ∃ b, d.typeAnswer ch cls = .ok b := Selection.sift_isOk_iff
    rw [if_pos rfl, imp_iff_right rfl]
    cases hselected : a.selected ch cls with
    | error f =>
      rw [hselected] at htypes
      exact iff_of_false nofun fun h => nomatch htypes.mpr h.types
    | ok ds =>
      rw [hselected] at htypes
      have happlied := applied_of_selected hon hselected
      rw [← happlied]
      refine (Registry.turns_isOk_iff g _).trans ⟨fun h => ?_, fun h => ⟨h.unhashed, h.fresh⟩⟩
      exact ⟨htypes.mp ⟨_, rfl⟩, h.1, h.2⟩

/-- If a transformation returns, it has taken a turn for each descriptor that it applies. -/
theorem weaving_of_isOk {sites : List Site} (h : (a.weaving ch c cls g).answer = .ok sites) :
    a.weaving ch c cls g = g.turns ch c cls (a.applied cls) := by
  unfold weaving at h ⊢
  cases hon : a.config.enabled.truthy with
  | false =>
    rw [applied, hon]
    rfl
  | true =>
    rw [hon, if_pos rfl] at h
    cases hselected : a.selected ch cls with
    | error f =>
      rw [hselected] at h
      cases h
    | ok ds =>
      rw [applied_of_selected hon hselected]
      rfl

end Agent

/-! Where what fails is ordinary, and all warnings can be logged. -/

section Ordinary

variable {ch : LogChannel} {d : Descriptor} {cls : HostClass} {f : Failure}

/-- What handlers raise is ordinary, and so is what is left of an ordinary failure. -/
theorem LogChannel.FailsOrdinarily.excuse {α : Type} {r : Failure → LogRecord} {a : α}
    {o : Except Failure α} (hch : ch.FailsOrdinarily) (ho : ∀ f, o = .error f → f.isOrdinary = true)
    (h : ch.excuse r a o = .error f) : f.isOrdinary = true := by
  rcases LogChannel.excuse_eq_error h with ⟨hf, -⟩ | ⟨f', -, -, hverdict⟩
  · exact ho f hf
  · exact hch.verdict hverdict

variable (hch : ch.FailsOrdinarily) (hd : d.FailsOrdinarilyOn cls)
include hch hd

theorem Descriptor.isOrdinary_of_typeAnswer (h : d.typeAnswer ch cls = .error f) :
    f.isOrdinary = true :=
  hch.excuse (fun _ hf => isOrdinary_of_typeOutcome hd.type hf) h

theorem Descriptor.isOrdinary_of_firstAnswer (h : d.firstAnswer ch cls = .error f) :
    f.isOrdinary = true := by
  unfold firstAnswer at h
  split at h
  · rename_i f' hf'
    cases h
    exact isOrdinary_of_unhashable hf'
  · split at h
    · rename_i f' hselected
      cases h
      obtain ⟨m, hm, hanswer⟩ := Selection.exists_of_sift_error hselected
      exact hch.excuse (hd.method m hm) hanswer
    · split at h
      · cases h
        rfl
      · cases hverdict : ch.verdict (Loom.wovenRecord d cls.name (d.sitesOn cls).length) with
        | ok _ =>
          rw [hverdict] at h
          cases h
        | error f' =>
          rw [hverdict] at h
          cases h
          exact hch.verdict hverdict

end Ordinary

namespace Registry

variable {ch : LogChannel} {g : Registry} {c : Nat} {cls : HostClass} {f : Failure}

theorem isOrdinary_of_turn (hch : ch.FailsOrdinarily) {d : Descriptor}
    (hd : d.FailsOrdinarilyOn cls) (h : (g.turn ch c cls d).answer = .error f) :
    f.isOrdinary = true := by
  refine hch.excuse (fun f hf => ?_) h
  unfold weaving at hf
  split at hf
  · rename_i f' hrefused
    cases hf
    exact Descriptor.isOrdinary_of_unhashable (unhashable?_of_lookUp hrefused)
  · cases hf
  · exact Descriptor.isOrdinary_of_firstAnswer hch hd hf

theorem isOrdinary_of_turns (hch : ch.FailsOrdinarily) {ds : List Descriptor}
    (hds : ∀ d ∈ ds, d.FailsOrdinarilyOn cls) (h : (g.turns ch c cls ds).answer = .error f) :
    f.isOrdinary = true := by
  induction ds generalizing g f with
  | nil => cases h
  | cons d ds ih =>
    obtain ⟨hd, hds⟩ := List.forall_mem_cons.mp hds
    cases hanswer : (g.turn ch c cls d).answer with
    | error f' =>
      rw [turns_cons_of_error hanswer] at h
      cases h
      exact isOrdinary_of_turn hch hd hanswer
    | ok sites =>
      rw [turns_cons_of_ok hanswer] at h
      cases hrest : ((g.turn ch c cls d).registry.turns ch c cls ds).answer with
      | ok rest =>
        rw [hrest] at h
        cases h
      | error f' =>
        rw [hrest] at h
        cases h
        exact ih hds hrest

end Registry

namespace Agent

variable {ch : LogChannel} {a : Agent} {c : Nat} {cls : HostClass}
  (hch : ch.FailsOrdinarily) (hds : ∀ d ∈ a.descriptors, d.FailsOrdinarilyOn cls)
include hch hds

theorem isOrdinary_of_weaving {g : Registry} {f : Failure}
    (h : (a.weaving ch c cls g).answer = .error f) : f.isOrdinary = true := by
  unfold weaving at h
  split at h
  · rename_i hon
    cases hselected : a.selected ch cls with
    | error f' =>
      rw [hselected] at h
      cases h
      obtain ⟨d, hd, hanswer⟩ := Selection.exists_of_sift_error hselected
      exact Descriptor.isOrdinary_of_typeAnswer hch (hds d hd) hanswer
    | ok ds =>
      rw [hselected] at h
      have hsublist := a.applied_sublist cls
      rw [applied_of_selected hon hselected] at hsublist
      exact Registry.isOrdinary_of_turns hch (fun d hd => hds d (hsublist.subset hd)) h
  · cases h

/-- Where all warnings can be logged every class can be transformed. -/
theorem Passes.of_warnings (hwarnings : ∀ r, r.level = warningLevel → ch.verdict r = .ok ())
    (g : Registry) : a.Passes ch g c cls := by
  have hpasses : ∀ d ∈ a.applied cls, d.Passes ch cls := fun d hd f hf =>
    ⟨Descriptor.isOrdinary_of_firstAnswer hch (hds d ((a.applied_sublist cls).subset hd)) hf,
      hwarnings _ rfl⟩
  refine ⟨fun d hd => ?_, fun d hd _ => hpasses d hd, fun d hd => hpasses d ?_⟩
  · exact LogChannel.excuse_isOk_iff.mpr fun f hf =>
      ⟨Descriptor.isOrdinary_of_typeOutcome (hds d hd).type hf, hwarnings _ rfl⟩
  · exact List.mem_of_mem_filter ((Registry.fresh_sublist _).subset hd)

end Agent

end AspectAgent
