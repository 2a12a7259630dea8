import AspectAgent.Host.Module
import AspectAgent.Proofs.Members

/-!
# The classes that a module declares

A module reaches the classes of its own among its attributes, and those of its own that are nested
in classes it reaches. The walk lists just these. It goes on until a level has no fresh class, and
its fuel does not run out before, for every level but the last takes at least one class of the host
that has not been seen. What is reached does not depend on the layers around members.
-/

namespace AspectAgent

theorem HostClass.nestedClasses_unwoven (cls : HostClass) :
    cls.unwoven.nestedClasses = cls.nestedClasses := by
  unfold nestedClasses unwoven
  rw [List.filterMap_map]
  rfl

namespace HostModule

variable {h : Host} {m : HostModule} {module : String} {c : Nat} {seen pending : List Nat}

/-- The class exists and belongs to a module. -/
def Owns (h : Host) (module : String) (c : Nat) : Prop :=
  ∃ cls, h.class? c = some cls ∧ cls.module = module

/-- One class is nested in another. -/
def Nests (h : Host) (b c : Nat) : Prop :=
  ∃ cls, h.class? b = some cls ∧ c ∈ cls.nestedClasses

/-- The module reaches a class: through attributes, and through classes of its own only. -/
inductive Reaches (h : Host) (m : HostModule) : Nat → Prop where
  | listed {c : Nat} (hown : Owns h m.name c) (hmem : c ∈ m.classes) : Reaches h m c
  | nested {b c : Nat} (hb : Reaches h m b) (hown : Owns h m.name c) (hnests : Nests h b c) :
      Reaches h m c

theorem Reaches.owns (hc : m.Reaches h c) : Owns h m.name c := by
  cases hc with
  | listed hown _ => exact hown
  | nested _ hown _ => exact hown

theorem Owns.lt (hc : Owns h module c) : c < h.classes.length := by
  obtain ⟨cls, hcls, -⟩ := hc
  exact (List.getElem?_eq_some_iff.mp hcls).1

theorem mem_nestedIn {classes : List Nat} :
    c ∈ nestedIn h classes ↔ ∃ b ∈ classes, Nests h b c := by
  unfold nestedIn Nests
  rw [List.mem_flatMap]
  refine exists_congr fun b => and_congr_right fun _ => ?_
  cases h.class? b with
  | none => simp
  | some cls => simp

/-! ## One level -/

theorem owns_iff {cls : HostClass} (hc : h.class? c = some cls) :
    Owns h module c ↔ cls.module = module := by
  constructor
  · rintro ⟨cls', hcls', hmodule⟩
    cases hc.symm.trans hcls'
    exact hmodule
  · exact fun hmodule => ⟨cls, hc, hmodule⟩

theorem fresh_cons_of_owns (hown : Owns h module c) (hnew : c ∉ seen) (rest : List Nat) :
    fresh h module seen (c :: rest) = c :: fresh h module (c :: seen) rest := by
  obtain ⟨cls, hcls, hmodule⟩ := hown
  rw [fresh, hcls]
  exact if_pos ⟨hmodule, hnew⟩

theorem fresh_cons_of_not (hno : ¬(Owns h module c ∧ c ∉ seen)) (rest : List Nat) :
    fresh h module seen (c :: rest) = fresh h module seen rest := by
  rw [fresh]
  cases hcls : h.class? c with
  | none => rfl
  | some cls =>
    rw [owns_iff hcls] at hno
    exact if_neg hno

theorem mem_fresh : c ∈ fresh h module seen pending ↔ c ∈ pending ∧ Owns h module c ∧ c ∉ seen := by
  induction pending generalizing seen with
  | nil => simp [fresh]
  | cons b rest ih =>
    by_cases hb : Owns h module b ∧ b ∉ seen
    · rw [fresh_cons_of_owns hb.1 hb.2, List.mem_cons, List.mem_cons, ih, List.mem_cons, not_or]
      constructor
      · rintro (rfl | ⟨hc, hown, -, hnew⟩)
        · exact ⟨.inl rfl, hb⟩
        · exact ⟨.inr hc, hown, hnew⟩
      · rintro ⟨hc, hown, hnew⟩
        by_cases hcb : c = b
        · exact .inl hcb
        · exact .inr ⟨hc.resolve_left hcb, hown, hcb, hnew⟩
    · rw [fresh_cons_of_not hb, List.mem_cons, ih]
      constructor
      · exact fun hc => ⟨.inr hc.1, hc.2⟩
      · rintro ⟨rfl | hc, hfresh⟩
        · exact absurd hfresh hb
        · exact ⟨hc, hfresh⟩

/-- The classes of the host that have not been seen. -/
def unseen (h : Host) (seen : List Nat) : List Nat :=
  (List.range h.classes.length).filter fun c => c ∉ seen

/-- A level with a fresh class leaves fewer unseen. -/
theorem length_unseen_lt (found : List Nat) (hc : c ∈ found) (hown : Owns h module c)
    (hnew : c ∉ seen) : (unseen h (seen ++ found)).length < (unseen h seen).length := by
  have hrest : unseen h (seen ++ found) = (unseen h seen).filter fun c => c ∉ found := by
    unfold unseen
    rw [List.filter_filter]
    refine List.filter_congr fun b _ => ?_
    simp [Bool.and_comm]
  rw [hrest, List.length_filter_lt_length_iff_exists]
  refine ⟨c, List.mem_filter.mpr ⟨List.mem_range.mpr hown.lt, by simpa using hnew⟩, ?_⟩
  simpa using hc

/-- The fuel of a walk is enough for all classes of the host. -/
theorem length_unseen_nil_lt (h : Host) : (unseen h []).length < h.classes.length + 1 := by
  have hle := List.length_filter_le (fun c => decide (c ∉ ([] : List Nat)))
    (List.range h.classes.length)
  rw [List.length_range] at hle
  exact Nat.lt_succ_of_le hle

/-! ## The walk -/

theorem reaches_of_mem_walk {n : Nat} (hpending : ∀ c ∈ pending, Owns h m.name c → m.Reaches h c)
    (hc : c ∈ walk h m.name n seen pending) : m.Reaches h c := by
  induction n generalizing seen pending with
  | zero => cases hc
  | succ n ih =>
    have hfound : ∀ c ∈ fresh h m.name seen pending, m.Reaches h c := by
      intro c hc
      obtain ⟨hmem, hown, -⟩ := mem_fresh.mp hc
      exact hpending c hmem hown
    unfold walk at hc
    split at hc
    · cases hc
    · rcases List.mem_append.mp hc with hc | hc
      · exact hfound c hc
      · refine ih (fun d hd hown => ?_) hc
        obtain ⟨b, hb, hnests⟩ := mem_nestedIn.mp hd
        exact .nested (hfound b hb) hown hnests

/-- With enough fuel a level has nothing fresh, or the walk goes on with enough fuel. -/
theorem walk_succ (module : String) (pending : List Nat) {n : Nat}
    (hn : (unseen h seen).length < n + 1) :
    (fresh h module seen pending = [] ∧ walk h module (n + 1) seen pending = []) ∨
      ((unseen h (seen ++ fresh h module seen pending)).length < n ∧
        walk h module (n + 1) seen pending = fresh h module seen pending ++
          walk h module n (seen ++ fresh h module seen pending)
            (nestedIn h (fresh h module seen pending))) := by
  rw [walk]
  cases hfound : fresh h module seen pending with
  | nil => exact .inl ⟨rfl, rfl⟩
  | cons d ds =>
    obtain ⟨-, hown, hnew⟩ :=
      mem_fresh.mp (hfound ▸ List.mem_cons_self : d ∈ fresh h module seen pending)
    have hless := length_unseen_lt (d :: ds) List.mem_cons_self hown hnew
    exact .inr ⟨by omega, rfl⟩

/-- With enough fuel the walk lists everything fresh among what is pending, and whatever is nested
in what it lists, unless this has been seen before. -/
theorem walk_closed (module : String) (pending : List Nat) {n : Nat}
    (hn : (unseen h seen).length < n) :
    (∀ c ∈ pending, Owns h module c → c ∉ seen → c ∈ walk h module n seen pending) ∧
    ∀ b ∈ walk h module n seen pending, ∀ c, Owns h module c → Nests h b c →
      c ∈ seen ∨ c ∈ walk h module n seen pending := by
  induction n generalizing seen pending with
  | zero => omega
  | succ n ih =>
    rcases walk_succ module pending hn with ⟨hfound, hwalk⟩ | ⟨hless, hwalk⟩
    · rw [hwalk]
      refine ⟨fun c hc hown hnew => ?_, fun b hb => absurd hb List.not_mem_nil⟩
      rw [← hfound]
      exact mem_fresh.mpr ⟨hc, hown, hnew⟩
    · obtain ⟨hlisted, hclosed⟩ := ih (nestedIn h (fresh h module seen pending)) hless
      rw [hwalk]
      constructor
      · exact fun c hc hown hnew => List.mem_append_left _ (mem_fresh.mpr ⟨hc, hown, hnew⟩)
      · intro b hb c hown hnests
        have hseen : c ∈ seen ++ fresh h module seen pending ∨
            c ∈ walk h module n (seen ++ fresh h module seen pending)
              (nestedIn h (fresh h module seen pending)) := by
          rcases List.mem_append.mp hb with hb | hb
          · by_cases hc : c ∈ seen ++ fresh h module seen pending
            · exact .inl hc
            · exact .inr (hlisted c (mem_nestedIn.mpr ⟨b, hb, hnests⟩) hown hc)
          · exact hclosed b hb c hown hnests
        rcases hseen with hc | hc
        · exact (List.mem_append.mp hc).imp id (List.mem_append_left _)
        · exact .inr (List.mem_append_right _ hc)

/-- The classes that a module declares are those that it reaches. -/
theorem mem_declaredClasses : c ∈ m.declaredClasses h ↔ m.Reaches h c := by
  constructor
  · exact reaches_of_mem_walk fun c hmem hown => .listed hown hmem
  · intro hc
    obtain ⟨hlisted, hclosed⟩ := walk_closed m.name m.classes (length_unseen_nil_lt h)
    induction hc with
    | listed hown hmem => exact hlisted _ hmem hown List.not_mem_nil
    | nested _ hown hnests ih =>
      exact (hclosed _ ih _ hown hnests).resolve_left List.not_mem_nil

/-! ## Each class once -/

theorem nodup_fresh (h : Host) (module : String) (seen pending : List Nat) :
    (fresh h module seen pending).Nodup := by
  induction pending generalizing seen with
  | nil => exact .nil
  | cons c rest ih =>
    by_cases hc : Owns h module c ∧ c ∉ seen
    · rw [fresh_cons_of_owns hc.1 hc.2]
      refine List.nodup_cons.mpr ⟨fun hmem => ?_, ih (c :: seen)⟩
      exact (mem_fresh.mp hmem).2.2 List.mem_cons_self
    · rw [fresh_cons_of_not hc]
      exact ih seen

theorem not_mem_of_mem_walk {n : Nat} (hc : c ∈ walk h module n seen pending) : c ∉ seen := by
  induction n generalizing seen pending with
  | zero => cases hc
  | succ n ih =>
    unfold walk at hc
    split at hc
    · cases hc
    · rcases List.mem_append.mp hc with hc | hc
      · exact (mem_fresh.mp hc).2.2
      · exact fun hseen => ih hc (List.mem_append_left _ hseen)

theorem nodup_walk (h : Host) (module : String) (n : Nat) (seen pending : List Nat) :
    (walk h module n seen pending).Nodup := by
  induction n generalizing seen pending with
  | zero => exact .nil
  | succ n ih =>
    unfold walk
    split
    · exact .nil
    · refine List.nodup_append.mpr ⟨nodup_fresh h module seen pending, ih _ _, ?_⟩
      rintro c hc _ hrest rfl
      exact not_mem_of_mem_walk hrest (List.mem_append_right _ hc)

/-- The classes that a module declares are listed once each. -/
theorem nodup_declaredClasses (m : HostModule) (h : Host) : (m.declaredClasses h).Nodup :=
  nodup_walk _ _ _ _ _

/-! ## Layers -/

@[simp] theorem class?_unwoven (h : Host) (c : Nat) :
    h.unwoven.class? c = (h.class? c).map HostClass.unwoven := List.getElem?_map

theorem fresh_unwoven (h : Host) (module : String) (seen pending : List Nat) :
    fresh h.unwoven module seen pending = fresh h module seen pending := by
  induction pending generalizing seen with
  | nil => rfl
  | cons c rest ih =>
    rw [fresh, fresh, class?_unwoven]
    cases h.class? c with
    | none => exact ih seen
    | some cls =>
      simp only [Option.map_some, ih]
      rfl

theorem nestedIn_unwoven (h : Host) (classes : List Nat) :
    nestedIn h.unwoven classes = nestedIn h classes := by
  unfold nestedIn
  simp only [class?_unwoven, Option.map_map]
  congr 1
  funext c
  cases h.class? c with
  | none => rfl
  | some cls => exact cls.nestedClasses_unwoven

/-- What is woven while the walk goes on does not change it. -/
theorem walk_unwoven (h : Host) (module : String) (n : Nat) (seen pending : List Nat) :
    walk h.unwoven module n seen pending = walk h module n seen pending := by
  induction n generalizing seen pending with
  | zero => rfl
  | succ n ih =>
    rw [walk, walk, fresh_unwoven]
    simp only [nestedIn_unwoven, ih]

section Unwoven

variable {h' : Host} (hh : h'.unwoven = h.unwoven)
include hh

theorem class?_of_unwoven_eq {cls : HostClass} (hc : h.class? c = some cls) :
    ∃ cls', h'.class? c = some cls' ∧ cls'.unwoven = cls.unwoven := by
  have hclass : (h'.class? c).map HostClass.unwoven = (h.class? c).map HostClass.unwoven := by
    rw [← class?_unwoven, ← class?_unwoven, hh]
  rw [hc] at hclass
  exact Option.map_eq_some_iff.mp hclass

/-- What a module declares does not depend on layers. -/
theorem declaredClasses_of_unwoven_eq (m : HostModule) :
    m.declaredClasses h' = m.declaredClasses h := by
  have hlength : h'.classes.length = h.classes.length := by
    have hclasses := congrArg (fun h => h.classes.length) hh
    simpa [Host.unwoven] using hclasses
  rw [declaredClasses, declaredClasses, hlength, ← walk_unwoven h', ← walk_unwoven h, hh]

theorem reaches_of_unwoven_eq (hc : m.Reaches h c) : m.Reaches h' c := by
  rw [← mem_declaredClasses, declaredClasses_of_unwoven_eq hh, mem_declaredClasses]
  exact hc

end Unwoven

end HostModule

end AspectAgent
