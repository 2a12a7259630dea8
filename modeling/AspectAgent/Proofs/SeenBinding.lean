import AspectAgent.Proofs.BindingRules

/-!
# The binding of a view

The binding through which advice looks at a call goes by the rules of binding. It has two phases,
one for positional arguments and one for keywords, and fills in at the end what nothing was bound
to. That each phase binds only parameters that it was given keeps the values apart.
-/

namespace AspectAgent

namespace Binding

variable {p : Parameter} {ps : List Parameter} {keywords : Table Value}

/-- Binds the keywords that are not used to the parameter that takes them. -/
def withUnused (takes : Option Parameter) (bound unused : Table Value) :
    Except Failure (Table Value) :=
  match unused, takes with
  | [], _ => .ok bound
  | _ :: _, some p => .ok (bound ++ [(p.name, .map unused)])
  | e :: _, none => .error (.unknownKeyword e.1)

theorem withUnused_append (takes : Option Parameter) (front bound unused : Table Value) :
    withUnused takes (front ++ bound) unused =
      (withUnused takes bound unused).map (front ++ ·) := by
  cases unused with
  | nil => rfl
  | cons e unused =>
    cases takes with
    | none => rfl
    | some p => exact congrArg Except.ok (List.append_assoc ..)

/-- What is bound after the first phase. -/
def boundLeft (ps : List Parameter) (keywords : Table Value) : Except Failure (Table Value) :=
  keywordPhase ps keywords >>= fun r =>
    withUnused (ps.find? fun p => p.kind == .surplusKeywords) r.1 r.2

theorem bindSeen_eq (ps : List Parameter) (vs : List Value) (keywords : Table Value) :
    bindSeen ps ⟨vs, keywords⟩ = positionalPhase keywords ps vs >>= fun first =>
      (boundLeft first.left keywords).map fun rest =>
        ps.filterMap (completed (first.bound ++ rest)) := by
  unfold bindSeen boundLeft
  cases positionalPhase keywords ps vs with
  | error f => rfl
  | ok first =>
    show (keywordPhase first.left keywords >>= _) = Except.map _ (keywordPhase _ _ >>= _)
    cases keywordPhase first.left keywords with
    | error f => rfl
    | ok r =>
      obtain ⟨byKeyword, unused⟩ := r
      generalize first.left.find? (fun p => p.kind == .surplusKeywords) = takes
      cases unused with
      | nil => rfl
      | cons e unused =>
        cases takes with
        | none => rfl
        | some p =>
          exact congrArg (fun bound => Except.ok (ps.filterMap (completed bound)))
            (List.append_assoc ..)

theorem boundLeft_surplus (hp : p.kind = .surplus) :
    boundLeft (p :: ps) keywords = boundLeft ps keywords := by
  simp [boundLeft, keywordPhase, Parameter.isVariadic, hp]

theorem boundLeft_surplusKeywords (keywords : Table Value) (hp : p.kind = .surplusKeywords) :
    boundLeft [p] keywords =
      .ok (if keywords.isEmpty then [] else [(p.name, .map keywords)]) := by
  have hphase : keywordPhase [p] keywords = .ok ([], keywords) := by
    simp [keywordPhase, Parameter.isVariadic, hp]
  rw [boundLeft, hphase]
  show withUnused _ [] keywords = _
  cases keywords <;> simp [withUnused, hp]

section Named

variable (hp : p.isVariadic = false)
include hp

theorem find?_surplusKeywords_cons : ((p :: ps).find? fun p => p.kind == .surplusKeywords) =
    ps.find? fun p => p.kind == .surplusKeywords := by
  rw [Parameter.isVariadic, Bool.or_eq_false_iff] at hp
  simp [hp.2]

theorem boundLeft_keyword {v : Value} (honly : p.kind ≠ .positionalOnly)
    (hget : keywords.get? p.name = some v) : boundLeft (p :: ps) keywords =
      (boundLeft ps (keywords.remove p.name)).map ((p.name, v) :: ·) := by
  have hphase : keywordPhase (p :: ps) keywords =
      (keywordPhase ps (keywords.remove p.name)).map fun r => ((p.name, v) :: r.1, r.2) := by
    simp [keywordPhase, hp, hget, honly]
  rw [boundLeft, boundLeft, hphase, find?_surplusKeywords_cons hp]
  cases keywordPhase ps (keywords.remove p.name) with
  | error f => rfl
  | ok r => exact withUnused_append _ [(p.name, v)] r.1 r.2

theorem boundLeft_default {v : Value} (hget : keywords.get? p.name = none)
    (hdefault : p.default = some v) : boundLeft (p :: ps) keywords = boundLeft ps keywords := by
  rw [boundLeft, boundLeft, find?_surplusKeywords_cons hp, keywordPhase]
  simp [hp, hget, hdefault]

theorem boundLeft_missing (hget : keywords.get? p.name = none) (hdefault : p.default = none) :
    boundLeft (p :: ps) keywords = .error (.missingArgument p.name) := by
  rw [boundLeft, keywordPhase]
  simp only [hp, hget, hdefault, Bool.false_eq_true, if_false, Option.isSome_none]
  rfl

theorem boundLeft_hidden {v : Value} (honly : p.kind = .positionalOnly)
    (hget : keywords.get? p.name = some v) :
    boundLeft (p :: ps) keywords = .error (.positionalOnlyKeyword p.name) := by
  rw [boundLeft, keywordPhase]
  simp only [hp, hget, honly, Bool.false_eq_true, if_false, if_true]
  rfl

end Named

theorem mem_of_keywordPhase {r : Table Value × Table Value} {e : String × Value}
    (h : keywordPhase ps keywords = .ok r) (he : e ∈ r.1) : e.1 ∈ ps.map Parameter.name := by
  induction ps generalizing keywords r with
  | nil =>
    cases h
    cases he
  | cons p ps ih =>
    have later : ∀ {keywords'}, keywordPhase ps keywords' = .ok r →
        e.1 ∈ (p :: ps).map Parameter.name := fun h => List.mem_cons_of_mem _ (ih h he)
    rw [keywordPhase] at h
    split at h
    · exact later h
    · split at h
      · split at h
        · cases h
        · cases hrest : keywordPhase ps (keywords.remove p.name) with
          | error f =>
            rw [hrest] at h
            cases h
          | ok rest =>
            rw [hrest] at h
            cases h
            rcases List.mem_cons.mp he with rfl | he
            · exact List.mem_cons_self
            · exact List.mem_cons_of_mem _ (ih hrest he)
      · split at h
        · exact later h
        · cases h

/-- What is bound after the first phase is bound to parameters that it has left. -/
theorem mem_of_boundLeft {bound : Table Value} {e : String × Value}
    (h : boundLeft ps keywords = .ok bound) (he : e ∈ bound) : e.1 ∈ ps.map Parameter.name := by
  unfold boundLeft at h
  cases hphase : keywordPhase ps keywords with
  | error f =>
    rw [hphase] at h
    cases h
  | ok r =>
    rw [hphase] at h
    change withUnused _ r.1 r.2 = .ok bound at h
    unfold withUnused at h
    split at h
    · cases h
      exact mem_of_keywordPhase hphase he
    · rename_i p _ htakes
      cases h
      rcases List.mem_append.mp he with he | he
      · exact mem_of_keywordPhase hphase he
      · rw [List.mem_singleton.mp he]
        exact List.mem_map_of_mem (List.mem_of_find?_eq_some htakes)
    · cases h

theorem get?_of_boundLeft {bound : Table Value} (h : boundLeft ps keywords = .ok bound)
    {k : String} (hk : k ∉ ps.map Parameter.name) : bound.get? k = none := by
  have hkeys : k ∉ bound.keys := by
    intro hmem
    obtain ⟨e, he, rfl⟩ := List.mem_map.mp hmem
    exact hk (mem_of_boundLeft h he)
  rw [← Table.has_iff_mem_keys] at hkeys
  simpa [Table.has] using hkeys

/-- Where the positional arguments end makes no difference to what keywords and defaults give. -/
theorem boundLeft_atEnd (ps : List Parameter) (keywords : Table Value) :
    (atEnd keywords ps >>= fun left => boundLeft left keywords).toOption =
      (boundLeft ps keywords).toOption := by
  cases ps with
  | nil => rfl
  | cons p ps =>
    rw [atEnd]
    split
    · rename_i hsurplus
      rw [boundLeft_surplus hsurplus]
      rfl
    · rename_i hsurplus
      split
      · rename_i hhas
        split
        · rename_i honly
          obtain ⟨v, hv⟩ := Option.isSome_iff_exists.mp hhas
          rw [boundLeft_hidden (by simp [Parameter.isVariadic, honly]) honly hv]
          rfl
        · rfl
      · rename_i hhas
        split
        · rfl
        · rename_i hlacking
          rw [not_or] at hlacking
          have hp : p.isVariadic = false := by
            rw [← Bool.not_eq_true, Parameter.isVariadic_iff, not_or]
            exact ⟨hsurplus, hlacking.1⟩
          rw [boundLeft_missing hp (by simpa [Table.has] using hhas) (by simpa using hlacking.2)]
          rfl

/-! ### The rules -/

/-- What a view shows, if the arguments fit. -/
def seen? (ps : List Parameter) (vs : List Value) (keywords : Table Value) : Option (Table Value) :=
  (bindSeen ps ⟨vs, keywords⟩).toOption

theorem seen?_nil_args (ps : List Parameter) (keywords : Table Value) : seen? ps [] keywords =
    (boundLeft ps keywords).toOption.map fun bound => ps.filterMap (completed bound) := by
  rw [← boundLeft_atEnd, seen?, bindSeen_eq]
  have hphase : positionalPhase keywords ps [] =
      (atEnd keywords ps).map fun left => ⟨[], left⟩ := by
    cases ps <;> rfl
  rw [hphase]
  cases atEnd keywords ps with
  | error f => rfl
  | ok left =>
    show (Except.map _ (boundLeft left keywords)).toOption =
      Option.map _ (boundLeft left keywords).toOption
    cases boundLeft left keywords <;> rfl

theorem filterMap_completed_front {bound : Table Value} {v : Value}
    (hp : p.name ∉ ps.map Parameter.name) :
    (p :: ps).filterMap (completed ((p.name, v) :: bound)) =
      (p.name, v) :: ps.filterMap (completed bound) := by
  have hfirst : completed ((p.name, v) :: bound) p = some (p.name, v) := by
    simp [completed, Table.get?]
  rw [List.filterMap_cons_some hfirst]
  refine congrArg _ (List.filterMap_congr fun q hq => ?_)
  have hne : p.name ≠ q.name := fun heq => hp (heq ▸ List.mem_map_of_mem hq)
  simp [completed, Table.get?, hne]

theorem filterMap_completed_default {bound : Table Value} {v : Value}
    (hp : completed bound p = some (p.name, v)) :
    (p :: ps).filterMap (completed bound) = (p.name, v) :: ps.filterMap (completed bound) :=
  List.filterMap_cons_some hp

/-- A parameter that nothing is bound to comes first with what it has without. -/
theorem completed_boundLeft {v : Value} (hp : p.name ∉ ps.map Parameter.name)
    (habsent : ∀ bound : Table Value, bound.get? p.name = none →
      completed bound p = some (p.name, v)) :
    (boundLeft ps keywords).toOption.map (fun bound => (p :: ps).filterMap (completed bound)) =
      (seen? ps [] keywords).map ((p.name, v) :: ·) := by
  rw [seen?_nil_args]
  cases hbound : boundLeft ps keywords with
  | error f => rfl
  | ok bound =>
    exact congrArg some
      (filterMap_completed_default (habsent bound (get?_of_boundLeft hbound hp)))

theorem seen?_surplus (vs : List Value) (hps : Parameter.WellFormed (p :: ps))
    (hp : p.kind = .surplus) :
    seen? (p :: ps) vs keywords = (seen? ps [] keywords).map ((p.name, .tuple vs) :: ·) := by
  have hdefault : p.default = none :=
    hps.bare p List.mem_cons_self (by simp [Parameter.isVariadic, hp])
  cases vs with
  | nil =>
    rw [seen?_nil_args (p :: ps), boundLeft_surplus hp]
    exact completed_boundLeft hps.not_mem fun bound hbound => by
      simp [completed, hbound, hdefault, hp]
  | cons v vs =>
    have hphase : positionalPhase keywords (p :: ps) (v :: vs) =
        .ok ⟨[(p.name, .tuple (v :: vs))], ps⟩ := by
      rw [positionalPhase, hp]
    rw [seen?, bindSeen_eq, hphase, seen?_nil_args]
    show (Except.map _ (boundLeft ps keywords)).toOption = _
    cases boundLeft ps keywords with
    | error f => rfl
    | ok bound => exact congrArg some (filterMap_completed_front hps.not_mem)

theorem seen?_surplusKeywords (keywords : Table Value) (hps : Parameter.WellFormed [p])
    (hp : p.kind = .surplusKeywords) : seen? [p] [] keywords = some [(p.name, .map keywords)] := by
  have hdefault : p.default = none :=
    hps.bare p List.mem_cons_self (by simp [Parameter.isVariadic, hp])
  rw [seen?_nil_args, boundLeft_surplusKeywords keywords hp]
  cases keywords with
  | nil => simp [Except.toOption, completed, hdefault, hp]
  | cons e keywords => simp [Except.toOption, completed, Table.get?]

theorem seen?_refused (v : Value) (vs : List Value) (keywords : Table Value)
    (hp : p.kind = .keywordOnly ∨ p.kind = .surplusKeywords) :
    seen? (p :: ps) (v :: vs) keywords = none := by
  have hphase : positionalPhase keywords (p :: ps) (v :: vs) = .error .surplusArguments := by
    rw [positionalPhase]
    rcases hp with hp | hp <;> rw [hp]
  rw [seen?, bindSeen_eq, hphase]
  rfl

theorem seen?_positional (v : Value) (vs : List Value) (hps : Parameter.WellFormed (p :: ps))
    (hkeywords : Parameter.NoneHidden (p :: ps) keywords)
    (hp : p.kind = .positionalOnly ∨ p.kind = .positional) :
    seen? (p :: ps) (v :: vs) keywords =
      if keywords.has p.name then none else (seen? ps vs keywords).map ((p.name, v) :: ·) := by
  have hphase : positionalPhase keywords (p :: ps) (v :: vs) =
      if keywords.has p.name then .error (.repeatedArgument p.name)
      else (positionalPhase keywords ps vs).map fun r =>
        { r with bound := (p.name, v) :: r.bound } := by
    rw [positionalPhase]
    rcases hp with hp | hp
    · simp [hp, hkeywords p List.mem_cons_self hp]
    · simp [hp]
  rw [seen?, bindSeen_eq, hphase]
  split
  · rfl
  · rw [seen?, bindSeen_eq]
    cases positionalPhase keywords ps vs with
    | error f => rfl
    | ok first =>
      show (Except.map _ (boundLeft first.left keywords)).toOption =
        (Except.map _ (boundLeft first.left keywords)).toOption.map _
      cases boundLeft first.left keywords with
      | error f => rfl
      | ok rest => exact congrArg some (filterMap_completed_front hps.not_mem)

theorem seen?_named (hps : Parameter.WellFormed (p :: ps))
    (hkeywords : Parameter.NoneHidden (p :: ps) keywords) (hp : p.isVariadic = false) :
    seen? (p :: ps) [] keywords = ((keywords.get? p.name).or p.default).bind fun v =>
      (seen? ps [] (keywords.remove p.name)).map ((p.name, v) :: ·) := by
  rw [seen?_nil_args]
  cases hget : keywords.get? p.name with
  | some v =>
    have honly : p.kind ≠ .positionalOnly := by
      intro honly
      rw [Table.get?_of_not_has (hkeywords p List.mem_cons_self honly)] at hget
      cases hget
    rw [boundLeft_keyword hp honly hget, Option.some_or, Option.bind_some, seen?_nil_args]
    cases boundLeft ps (keywords.remove p.name) with
    | error f => rfl
    | ok bound => exact congrArg some (filterMap_completed_front hps.not_mem)
  | none =>
    have hremove : keywords.remove p.name = keywords :=
      Table.remove_of_not_has (by rw [Table.has, hget, Option.isSome_none])
    rw [hremove, Option.none_or]
    cases hdefault : p.default with
    | none =>
      rw [boundLeft_missing hp hget hdefault]
      rfl
    | some v =>
      rw [boundLeft_default hp hget hdefault, Option.bind_some]
      exact completed_boundLeft hps.not_mem fun bound hbound => by
        simp [completed, hbound, hdefault]

theorem seen?_nil (vs : List Value) (keywords : Table Value) :
    seen? [] vs keywords = if vs.isEmpty && keywords.isEmpty then some [] else none := by
  cases vs <;> cases keywords <;> rfl

theorem seen?_obeys : Obeys seen? where
  nil := seen?_nil
  surplus vs hps _ hp := seen?_surplus vs hps hp
  surplusKeywords := seen?_surplusKeywords
  refused v vs keywords _ hp := seen?_refused v vs keywords hp
  positional := seen?_positional
  named := seen?_named

end Binding

end AspectAgent
