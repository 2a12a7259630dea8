import AspectAgent.Proofs.ClassWalk
import AspectAgent.Proofs.Deployments
import AspectAgent.Proofs.Transparency
import Mathlib.Order.Lattice.Nat

/-!
# The order of the class walk

The classes of a module are taken from a worklist. The classes among the attributes of the module
are on it first; a class that is taken for the first time, and belongs to the module, is yielded,
and then those nested in it go to the end of the list. Whoever asks for the classes works on each
before the next is asked for, and the attributes of a class are read only then.

The worklist may grow with repetitions, but it is drained: it runs through the levels of the walk
one after the other. So classes are yielded by their depth, which is the least number of nestings
that leads to them, and of two classes that one is yielded first that was discovered first. To
transform a class changes nothing but the layers around its members, and these decide nothing of the
walk. So a hook sees the classes that it would have seen if it had left them alone.
-/

namespace AspectAgent

open Act

namespace HostModule

variable {h : Host} {m : HostModule} {module : String} {c : Nat} {seen seen' pending : List Nat}

/-! ## Depth -/

/-- A number of nestings, through classes of the module only, leads to a class. -/
inductive ReachesIn (h : Host) (m : HostModule) : Nat → Nat → Prop where
  | listed {c : Nat} (hown : Owns h m.name c) (hmem : c ∈ m.classes) : ReachesIn h m 0 c
  | nested {n b c : Nat} (hb : ReachesIn h m n b) (hown : Owns h m.name c) (hnests : Nests h b c) :
    ReachesIn h m (n + 1) c

theorem reaches_iff_reachesIn : m.Reaches h c ↔ ∃ n, m.ReachesIn h n c := by
  constructor
  · intro hc
    induction hc with
    | listed hown hmem => exact ⟨0, .listed hown hmem⟩
    | nested _ hown hnests ih =>
      obtain ⟨n, hb⟩ := ih
      exact ⟨n + 1, .nested hb hown hnests⟩
  · rintro ⟨n, hc⟩
    induction hc with
    | listed hown hmem => exact .listed hown hmem
    | nested _ hown hnests ih => exact .nested ih hown hnests

theorem ReachesIn.owns {n : Nat} (hc : m.ReachesIn h n c) : Owns h m.name c :=
  (reaches_iff_reachesIn.mpr ⟨n, hc⟩).owns

/-- The least number of nestings that leads to a class. -/
noncomputable def depth (h : Host) (m : HostModule) (c : Nat) : Nat := sInf {n | m.ReachesIn h n c}

theorem Reaches.reachesIn_depth (hc : m.Reaches h c) : m.ReachesIn h (m.depth h c) c :=
  Nat.sInf_mem (reaches_iff_reachesIn.mp hc)

theorem depth_le {n : Nat} (hc : m.ReachesIn h n c) : m.depth h c ≤ n := Nat.sInf_le hc

/-- The state of the walk before a level: the classes of lesser depth have been seen, and those of
this depth are pending. -/
structure Level (h : Host) (m : HostModule) (k : Nat) (seen pending : List Nat) : Prop where
  mem_seen : ∀ c, c ∈ seen ↔ ∃ j < k, m.ReachesIn h j c
  of_pending : ∀ c ∈ pending, Owns h m.name c → m.ReachesIn h k c
  reached : ∀ c, m.ReachesIn h k c → c ∈ seen ∨ c ∈ pending

namespace Level

variable {k : Nat}

theorem first (h : Host) (m : HostModule) : m.Level h 0 [] m.classes where
  mem_seen c := by simp
  of_pending c hmem hown := .listed hown hmem
  reached c hc := by
    cases hc with
    | listed _ hmem => exact .inr hmem

theorem reachesIn_of_fresh (hlevel : m.Level h k seen pending)
    (hc : c ∈ fresh h m.name seen pending) : m.ReachesIn h k c := by
  obtain ⟨hmem, hown, -⟩ := mem_fresh.mp hc
  exact hlevel.of_pending c hmem hown

theorem depth_of_fresh (hlevel : m.Level h k seen pending)
    (hc : c ∈ fresh h m.name seen pending) : m.depth h c = k := by
  have hk := hlevel.reachesIn_of_fresh hc
  have hnew : c ∉ seen := (mem_fresh.mp hc).2.2
  refine le_antisymm (depth_le hk) (not_lt.mp fun hless => hnew ((hlevel.mem_seen c).mpr ?_))
  exact ⟨_, hless, (reaches_iff_reachesIn.mpr ⟨k, hk⟩).reachesIn_depth⟩

theorem next (hlevel : m.Level h k seen pending) :
    m.Level h (k + 1) (seen ++ fresh h m.name seen pending)
      (nestedIn h (fresh h m.name seen pending)) := by
  have hseen : ∀ c, c ∈ seen ++ fresh h m.name seen pending ↔ ∃ j < k + 1, m.ReachesIn h j c := by
    intro c
    rw [List.mem_append]
    constructor
    · rintro (hc | hc)
      · obtain ⟨j, hj, hreach⟩ := (hlevel.mem_seen c).mp hc
        exact ⟨j, by omega, hreach⟩
      · exact ⟨k, by omega, hlevel.reachesIn_of_fresh hc⟩
    · rintro ⟨j, hj, hreach⟩
      by_cases hc : c ∈ seen
      · exact .inl hc
      · have hjk : j = k := by
          have hnot : ¬j < k := fun hlt => hc ((hlevel.mem_seen c).mpr ⟨j, hlt, hreach⟩)
          omega
        subst hjk
        exact .inr (mem_fresh.mpr ⟨(hlevel.reached c hreach).resolve_left hc, hreach.owns, hc⟩)
  refine ⟨hseen, fun c hc hown => ?_, fun c hc => ?_⟩
  · obtain ⟨b, hb, hnests⟩ := mem_nestedIn.mp hc
    exact .nested (hlevel.reachesIn_of_fresh hb) hown hnests
  · cases hc with
    | nested hb hown hnests =>
      rename_i b
      rcases List.mem_append.mp ((hseen b).mpr ⟨k, by omega, hb⟩) with hold | hnew
      · obtain ⟨j, hj, hreach⟩ := (hlevel.mem_seen b).mp hold
        exact .inl ((hseen c).mpr ⟨j + 1, by omega, .nested hreach hown hnests⟩)
      · exact .inr (mem_nestedIn.mpr ⟨b, hnew, hnests⟩)

/-- From a level on, classes are listed by their depth. -/
theorem pairwise_walk (hlevel : m.Level h k seen pending) (n : Nat) :
    (∀ c ∈ walk h m.name n seen pending, k ≤ m.depth h c) ∧
      (walk h m.name n seen pending).Pairwise fun a b => m.depth h a ≤ m.depth h b := by
  induction n generalizing k seen pending with
  | zero => exact ⟨fun c hc => absurd hc List.not_mem_nil, .nil⟩
  | succ n ih =>
    have hdepth : ∀ c ∈ fresh h m.name seen pending, m.depth h c = k :=
      fun c hc => hlevel.depth_of_fresh hc
    obtain ⟨hrest, hsorted⟩ := ih hlevel.next
    unfold walk
    split
    · exact ⟨fun c hc => absurd hc List.not_mem_nil, .nil⟩
    · constructor
      · intro c hc
        rcases List.mem_append.mp hc with hc | hc
        · exact (hdepth c hc).ge
        · exact (Nat.le_succ k).trans (hrest c hc)
      · refine List.pairwise_append.mpr ⟨?_, hsorted, fun a ha b hb => ?_⟩
        · refine List.Pairwise.imp_of_mem ?_ (nodup_fresh h m.name seen pending)
          intro a b ha hb _
          rw [hdepth a ha, hdepth b hb]
        · rw [hdepth a ha]
          exact (Nat.le_succ k).trans (hrest b hb)

end Level

/-! ## First discovery -/

section Congr

variable (hseen : ∀ c, c ∈ seen ↔ c ∈ seen')
include hseen

/-- It does not matter in which order classes have been seen. -/
theorem fresh_congr (h : Host) (module : String) (pending : List Nat) :
    fresh h module seen pending = fresh h module seen' pending := by
  induction pending generalizing seen seen' with
  | nil => rfl
  | cons c rest ih =>
    have hcons : ∀ b, b ∈ c :: seen ↔ b ∈ c :: seen' := by
      intro b
      rw [List.mem_cons, List.mem_cons, hseen]
    rw [fresh, fresh, ih hseen, ih hcons]
    simp only [hseen]

theorem unseen_congr (h : Host) : unseen h seen = unseen h seen' := by
  unfold unseen
  simp only [hseen]

theorem walk_congr (h : Host) (module : String) (n : Nat) (pending : List Nat) :
    walk h module n seen pending = walk h module n seen' pending := by
  induction n generalizing seen seen' pending with
  | zero => rfl
  | succ n ih =>
    have hnext : ∀ found c : _, c ∈ seen ++ found ↔ c ∈ seen' ++ found := by
      intro found c
      rw [List.mem_append, List.mem_append, hseen]
    rw [walk, walk, fresh_congr hseen]
    simp only [ih (hnext _)]

end Congr

theorem fresh_append (h : Host) (module : String) (seen xs ys : List Nat) :
    fresh h module seen (xs ++ ys) =
      fresh h module seen xs ++ fresh h module (seen ++ fresh h module seen xs) ys := by
  induction xs generalizing seen with
  | nil =>
    rw [fresh, List.append_nil]
    rfl
  | cons x xs ih =>
    by_cases hx : Owns h module x ∧ x ∉ seen
    · rw [List.cons_append, fresh_cons_of_owns hx.1 hx.2, fresh_cons_of_owns hx.1 hx.2, ih,
        List.cons_append]
      refine congrArg (fun tail => x :: (fresh h module (x :: seen) xs ++ tail))
        (fresh_congr (fun c => ?_) h module ys)
      simp only [List.mem_append, List.mem_cons]
      tauto
    · rw [List.cons_append, fresh_cons_of_not hx, fresh_cons_of_not hx, ih]

@[simp] theorem nestedIn_nil (h : Host) : nestedIn h [] = [] := rfl

@[simp] theorem nestedIn_append (h : Host) (xs ys : List Nat) :
    nestedIn h (xs ++ ys) = nestedIn h xs ++ nestedIn h ys := List.flatMap_append

/-- The walk lists what is fresh among all that it discovers. -/
theorem walk_eq_fresh (module : String) (pending : List Nat) {n : Nat}
    (hn : (unseen h seen).length < n) :
    walk h module n seen pending =
      fresh h module seen (pending ++ nestedIn h (walk h module n seen pending)) := by
  induction n generalizing seen pending with
  | zero => omega
  | succ n ih =>
    rcases walk_succ module pending hn with ⟨hfound, hwalk⟩ | ⟨hless, hwalk⟩
    · rw [hwalk, fresh_append, hfound]
      rfl
    · rw [hwalk, fresh_append, nestedIn_append, ← ih _ hless]

/-- Fresh classes stand in the order in which they are found first. -/
theorem pairwise_fresh (h : Host) (module : String) (seen pending : List Nat) :
    (fresh h module seen pending).Pairwise fun a b => pending.idxOf a < pending.idxOf b := by
  induction pending generalizing seen with
  | nil => exact .nil
  | cons c rest ih =>
    -- an element of the rest that is not at the front stands one place further on
    have hlater : ∀ {seen'}, (∀ a ∈ fresh h module seen' rest, a ≠ c) →
        (fresh h module seen' rest).Pairwise fun a b =>
          (c :: rest).idxOf a < (c :: rest).idxOf b := by
      intro seen' hne
      refine List.Pairwise.imp_of_mem ?_ (ih seen')
      intro a b ha hb hab
      rw [List.idxOf_cons_ne _ (hne a ha).symm, List.idxOf_cons_ne _ (hne b hb).symm]
      exact Nat.succ_lt_succ hab
    by_cases hc : Owns h module c ∧ c ∉ seen
    · have hne : ∀ a ∈ fresh h module (c :: seen) rest, a ≠ c := by
        rintro a ha rfl
        exact (mem_fresh.mp ha).2.2 List.mem_cons_self
      rw [fresh_cons_of_owns hc.1 hc.2]
      refine List.pairwise_cons.mpr ⟨fun b hb => ?_, hlater hne⟩
      rw [List.idxOf_cons_self, List.idxOf_cons_ne _ (hne b hb).symm]
      exact Nat.succ_pos _
    · rw [fresh_cons_of_not hc]
      refine hlater ?_
      rintro a ha rfl
      exact hc (mem_fresh.mp ha).2

/-- All classes that the walk of a module comes across, in this order and with repetitions: those
among the attributes of the module, and then those nested in each class that the module declares. -/
def discovered (m : HostModule) (h : Host) : List Nat :=
  m.classes ++ nestedIn h (m.declaredClasses h)

theorem pairwise_declaredClasses (m : HostModule) (h : Host) :
    (m.declaredClasses h).Pairwise fun a b =>
      m.depth h a ≤ m.depth h b ∧ (m.discovered h).idxOf a < (m.discovered h).idxOf b := by
  have hdepth := ((Level.first h m).pairwise_walk (h.classes.length + 1)).2
  have hfound := pairwise_fresh h m.name [] (m.discovered h)
  have hfresh : m.declaredClasses h = fresh h m.name [] (m.discovered h) :=
    walk_eq_fresh m.name m.classes (length_unseen_nil_lt h)
  rw [← hfresh] at hfound
  exact List.pairwise_and_iff.mpr ⟨hdepth, hfound⟩

/-! ## The worklist -/

/-- A worklist is drained, and classes are yielded. The class at its front is passed over if it does
not belong to the module or has been yielded before. Else it is yielded, and the classes nested in
it go to the end of the list. -/
inductive Drains (h : Host) (module : String) : List Nat → List Nat → List Nat → Prop where
  | done {seen : List Nat} : Drains h module seen [] []
  | pass {seen rest yielded : List Nat} {c : Nat} (hc : ¬(Owns h module c ∧ c ∉ seen))
    (hrest : Drains h module seen rest yielded) : Drains h module seen (c :: rest) yielded
  | yield {seen rest yielded : List Nat} {c : Nat} (hc : Owns h module c ∧ c ∉ seen)
    (hrest : Drains h module (c :: seen) (rest ++ nestedIn h [c]) yielded) :
    Drains h module seen (c :: rest) (c :: yielded)

theorem Drains.unique {yielded yielded' : List Nat} (hd : Drains h module seen pending yielded)
    (hd' : Drains h module seen pending yielded') : yielded = yielded' := by
  induction hd generalizing yielded' with
  | done =>
    cases hd'
    rfl
  | pass hc hrest ih =>
    cases hd' with
    | pass _ hrest' => exact ih hrest'
    | yield hc' _ => exact absurd hc' hc
  | yield hc hrest ih =>
    cases hd' with
    | pass hc' _ => exact absurd hc hc'
    | yield _ hrest' => rw [ih hrest']

/-- A level is drained before what is nested in its fresh classes. -/
theorem drains_level {xs ys zs : List Nat}
    (hnext : ∀ seen', (∀ c, c ∈ seen' ↔ c ∈ seen ∨ c ∈ fresh h module seen xs) →
      Drains h module seen' (nestedIn h (ys ++ fresh h module seen xs)) zs) :
    Drains h module seen (xs ++ nestedIn h ys) (fresh h module seen xs ++ zs) := by
  induction xs generalizing seen ys with
  | nil =>
    have hdrained := hnext seen (by simp [fresh])
    rw [fresh, List.append_nil] at hdrained
    exact hdrained
  | cons x xs ih =>
    by_cases hx : Owns h module x ∧ x ∉ seen
    · rw [fresh_cons_of_owns hx.1 hx.2] at hnext ⊢
      have hpending : xs ++ nestedIn h ys ++ nestedIn h [x] = xs ++ nestedIn h (ys ++ [x]) := by
        rw [List.append_assoc, nestedIn_append]
      refine .yield hx ?_
      show Drains h module (x :: seen) (xs ++ nestedIn h ys ++ nestedIn h [x]) _
      rw [hpending]
      refine ih fun seen' hseen' => ?_
      rw [List.append_assoc]
      refine hnext seen' fun c => (hseen' c).trans ?_
      simp only [List.mem_cons]
      tauto
    · rw [fresh_cons_of_not hx] at hnext ⊢
      exact .pass hx (ih hnext)

/-- With enough fuel the walk yields what the worklist does. -/
theorem drains_walk (module : String) (pending : List Nat) {n : Nat}
    (hn : (unseen h seen).length < n) :
    Drains h module seen pending (walk h module n seen pending) := by
  induction n generalizing seen pending with
  | zero => omega
  | succ n ih =>
    have hlevel : ∀ {zs}, (∀ seen', (∀ c, c ∈ seen' ↔ c ∈ seen ++ fresh h module seen pending) →
          Drains h module seen' (nestedIn h (fresh h module seen pending)) zs) →
        Drains h module seen pending (fresh h module seen pending ++ zs) := by
      intro zs hnext
      have hlevel : Drains h module seen (pending ++ nestedIn h [])
          (fresh h module seen pending ++ zs) := drains_level fun seen' hseen' =>
        hnext seen' fun c => (hseen' c).trans List.mem_append.symm
      rwa [nestedIn_nil, List.append_nil] at hlevel
    rcases walk_succ module pending hn with ⟨hfound, hwalk⟩ | ⟨hless, hwalk⟩
    · rw [hfound] at hlevel
      rw [hwalk]
      exact hlevel fun _ _ => .done
    · rw [hwalk]
      refine hlevel fun seen' hseen' => ?_
      rw [← walk_congr hseen']
      refine ih _ ?_
      rw [unseen_congr hseen']
      exact hless

theorem drains_declaredClasses (m : HostModule) (h : Host) :
    Drains h m.name [] m.classes (m.declaredClasses h) :=
  drains_walk m.name m.classes (length_unseen_nil_lt h)

/-! ## Layers -/

section Unwoven

variable {h' : Host} (hh : h'.unwoven = h.unwoven)
include hh

theorem owns_of_unwoven_eq (hc : Owns h module c) : Owns h' module c := by
  obtain ⟨cls, hcls, hmodule⟩ := hc
  obtain ⟨cls', hcls', hsame⟩ := class?_of_unwoven_eq hh hcls
  exact ⟨cls', hcls', (congrArg HostClass.module hsame).trans hmodule⟩

theorem nestedIn_of_unwoven_eq (classes : List Nat) : nestedIn h' classes = nestedIn h classes := by
  rw [← nestedIn_unwoven h', hh, nestedIn_unwoven]

end Unwoven

end HostModule

namespace World

open HostModule

/-- A worklist is drained while each class that is yielded is worked on before the list goes on. The
classes nested in it are looked up in the world that this leaves. If the work on a class raises, no
further class is asked for. -/
inductive DrainsThrough (turn : Nat → Act World Unit) (module : String) :
    List Nat → List Nat → World → List Nat → Outcome Unit × World → Prop where
  | done {seen : List Nat} {w : World} : DrainsThrough turn module seen [] w [] (.returned (), w)
  | pass {seen rest yielded : List Nat} {c : Nat} {w : World} {e : Outcome Unit × World}
    (hc : ¬(Owns w.host module c ∧ c ∉ seen))
    (hrest : DrainsThrough turn module seen rest w yielded e) :
    DrainsThrough turn module seen (c :: rest) w yielded e
  | yield {seen rest yielded : List Nat} {c : Nat} {w w' : World} {e : Outcome Unit × World}
    (hc : Owns w.host module c ∧ c ∉ seen) (hturn : turn c w = (.returned (), w'))
    (hrest : DrainsThrough turn module (c :: seen) (rest ++ nestedIn w'.host [c]) w' yielded e) :
    DrainsThrough turn module seen (c :: rest) w (c :: yielded) e
  | stop {seen rest : List Nat} {c : Nat} {w w' : World} {f : Failure}
    (hc : Owns w.host module c ∧ c ∉ seen) (hturn : turn c w = (.raised f, w')) :
    DrainsThrough turn module seen (c :: rest) w [c] (.raised f, w')

section Drains

variable {turn : Nat → Act World Unit} {module : String} {seen pending : List Nat} {w : World}

theorem DrainsThrough.unique {yielded yielded' : List Nat} {e e' : Outcome Unit × World}
    (hd : DrainsThrough turn module seen pending w yielded e)
    (hd' : DrainsThrough turn module seen pending w yielded' e') : yielded' = yielded ∧ e' = e := by
  induction hd generalizing yielded' e' with
  | done =>
    cases hd'
    exact ⟨rfl, rfl⟩
  | pass hc hrest ih =>
    cases hd' with
    | pass _ hrest' => exact ih hrest'
    | yield hc' _ _ => exact absurd hc' hc
    | stop hc' _ => exact absurd hc' hc
  | yield hc hturn hrest ih =>
    cases hd' with
    | pass hc' _ => exact absurd hc hc'
    | yield _ hturn' hrest' =>
      cases hturn.symm.trans hturn'
      obtain ⟨rfl, rfl⟩ := ih hrest'
      exact ⟨rfl, rfl⟩
    | stop _ hturn' => cases hturn.symm.trans hturn'
  | stop hc hturn =>
    cases hd' with
    | pass hc' _ => exact absurd hc hc'
    | yield _ hturn' _ => cases hturn.symm.trans hturn'
    | stop _ hturn' =>
      cases hturn.symm.trans hturn'
      exact ⟨rfl, rfl⟩

/-- Work that changes no more than the layers of classes does not change which classes are yielded:
it is as if all had been listed before the work on the first began. -/
theorem drainsThrough_of_drains {h : Host} {classes : List Nat}
    (hends : ∀ c, (turn c).EndsIn fun _ => True)
    (hkeeps : ∀ c w, (turn c w).2.host.unwoven = w.host.unwoven)
    (hd : Drains h module seen pending classes) (hw : w.host.unwoven = h.unwoven) :
    ∃ yielded, DrainsThrough turn module seen pending w yielded (forEach classes turn w) ∧
      yielded <+: classes ∧ ((forEach classes turn w).1 = .returned () → yielded = classes) := by
  have howns : ∀ {w : World} {seen : List Nat} {c : Nat}, w.host.unwoven = h.unwoven →
      ((Owns w.host module c ∧ c ∉ seen) ↔ (Owns h module c ∧ c ∉ seen)) := fun hw =>
    and_congr_left fun _ => ⟨owns_of_unwoven_eq hw.symm, owns_of_unwoven_eq hw⟩
  induction hd generalizing w with
  | done => exact ⟨[], .done, List.prefix_rfl, fun _ => rfl⟩
  | pass hc _ ih =>
    obtain ⟨yielded, hdrained, hall⟩ := ih hw
    exact ⟨yielded, .pass (fun hc' => hc ((howns hw).mp hc')) hdrained, hall⟩
  | @yield seen rest classes c hc _ ih =>
    have hkept := (hkeeps c w).trans hw
    rw [forEach_cons, bind_apply]
    rcases hturn : turn c w with ⟨o, w'⟩
    rw [hturn] at hkept
    cases o with
    | returned _ =>
      obtain ⟨yielded, hdrained, hprefix, hall⟩ := ih hkept
      rw [← nestedIn_of_unwoven_eq hkept] at hdrained
      refine ⟨c :: yielded, .yield ((howns hw).mpr hc) hturn hdrained, ?_, fun hreturned => ?_⟩
      · exact List.cons_prefix_cons.mpr ⟨rfl, hprefix⟩
      · rw [hall hreturned]
    | raised f =>
      refine ⟨[c], .stop ((howns hw).mpr hc) hturn, ?_, nofun⟩
      exact List.cons_prefix_cons.mpr ⟨rfl, List.nil_prefix⟩
    | unfinished =>
      have hfinished := (hends c).isFinished w
      rw [hturn] at hfinished
      exact absurd hfinished Bool.false_ne_true

end Drains

theorem visit_unwoven (i c : Nat) (w : World) : (visit i c w).2.host.unwoven = w.host.unwoven := by
  have hkept : (transform i c w).2.host.unwoven = w.host.unwoven := (Step.transform i c w).unwoven
  rw [visit, bind_apply]
  rcases htransform : transform i c w with ⟨o, w'⟩
  rw [htransform] at hkept
  cases o <;> exact hkept

end World

open HostModule in
/-- **Class walk.** For every module and every host, whatever classes its classes are attributes of,
the worklist of the module is drained, and yields the classes that it declares and nothing else.
These are the classes of its own that it reaches through classes of its own only, each once; they
stand in the order of their depth, the least number of nestings that leads to them, and in the order
in which they are discovered first.

A hook that transforms each class before it asks for the next, so that nested classes are looked up
in what has been woven until then, drains the worklist too. It is handed the same classes in the
same order; if a transformation raises they are those up to this class. -/
theorem class_walk (m : HostModule) (w : World) :
    (∀ yielded, Drains w.host m.name [] m.classes yielded ↔
      yielded = m.declaredClasses w.host) ∧
    (∀ c, c ∈ m.declaredClasses w.host ↔ m.Reaches w.host c) ∧
    (m.declaredClasses w.host).Nodup ∧
    ((m.declaredClasses w.host).Pairwise fun a b => m.depth w.host a ≤ m.depth w.host b ∧
      (m.discovered w.host).idxOf a < (m.discovered w.host).idxOf b) ∧
    ∀ i, ∃ yielded e,
      (∀ yielded' e', World.DrainsThrough (World.visit i) m.name [] m.classes w yielded' e' ↔
        yielded' = yielded ∧ e' = e) ∧
      yielded <+: m.declaredClasses w.host ∧
      (e.1 = .returned () → yielded = m.declaredClasses w.host) ∧
      World.onImport i m w =
        Act.orElse (fun _ => e) (fun f => report (World.hookFailedRecord m.name f)) w := by
  have hdrains := drains_declaredClasses m w.host
  refine ⟨fun yielded => ⟨fun hd => hd.unique hdrains, fun hd => hd ▸ hdrains⟩,
    fun c => mem_declaredClasses, nodup_declaredClasses m w.host,
    pairwise_declaredClasses m w.host, fun i => ?_⟩
  obtain ⟨yielded, hdrained, hprefix, hall⟩ := World.drainsThrough_of_drains
    (World.visit_ends i) (World.visit_unwoven i) hdrains rfl
  refine ⟨yielded, _, fun yielded' e' => ⟨fun hd => hdrained.unique hd, ?_⟩, hprefix, hall, ?_⟩
  · rintro ⟨rfl, rfl⟩
    exact hdrained
  · rw [World.onImport_apply]
    rfl

/-- A class that is listed twice, one that contains itself and its container, a class of another
module, and one that is reached only through that one. -/
example :
    let cls := fun (index : Nat) (module : String) (nested : List Nat) =>
      ({ index := index
         module := module
         qualname := toString index
         members := nested.map fun n => { name := toString n, content := .nested n }
         lineage := [index] } : HostClass)
    let host : Host := { classes := [cls 0 "app" [3, 2], cls 1 "lib" [4], cls 2 "app" [2, 0],
      cls 3 "app" [], cls 4 "app" []] }
    (HostModule.mk "app" [2, 1, 0, 2]).declaredClasses host = [2, 0, 3] := by decide

end AspectAgent
