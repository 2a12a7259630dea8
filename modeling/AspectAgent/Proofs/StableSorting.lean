import Mathlib.Order.Lattice
import Mathlib.Data.List.Chain
import AspectAgent.Sorting

/-!
# What sorting gives

If all elements of a list can be compared by a key, sorting the list does not fail and gives its
elements in ascending order of the key, those of one key in the order in which they stood. The run
that sorting starts from is turned round only if it descends strictly, so no two of its elements
have one key; each further element is put behind all that are not later than it.
-/

namespace AspectAgent.Sorting

variable {α κ : Type} [LinearOrder κ] {before : α → α → Except Failure Bool} {key : α → κ}
  {xs ys front back : List α} {x : α}

/-- Any two elements of a list can be compared, and are compared by a key. -/
def ComparesBy (before : α → α → Except Failure Bool) (key : α → κ) (xs : List α) : Prop :=
  ∀ x ∈ xs, ∀ y ∈ xs, before x y = .ok (decide (key x < key y))

theorem ComparesBy.mono (h : ComparesBy before key xs) (hsub : ys ⊆ xs) :
    ComparesBy before key ys :=
  fun _ hx _ hy => h _ (hsub hx) _ (hsub hy)

/-- A list has the elements of another in ascending order of a key, those of one key in the order in
which they stand there. -/
structure Arranges (key : α → κ) (xs ys : List α) : Prop where
  ascending : ys.Pairwise fun x y => key x ≤ key y
  ties : ∀ k, ys.filter (key · = k) = xs.filter (key · = k)

namespace Arranges

/-- Each element occurs as often as before: it does so among those of its key. -/
theorem perm (h : Arranges key xs ys) : ys.Perm xs := by
  classical
  refine List.perm_iff_count.mpr fun a => ?_
  have hgroup : ∀ zs : List α, (zs.filter (key · = key a)).count a = zs.count a := fun zs =>
    List.count_filter (by simp)
  rw [← hgroup ys, h.ties, hgroup xs]

theorem of_ascending (h : xs.Pairwise fun x y => key x ≤ key y) : Arranges key xs xs :=
  ⟨h, fun _ => rfl⟩

/-- Turning a strictly descending list round keeps the elements of one key in place: there is at
most one. -/
theorem of_descending (h : xs.Pairwise fun x y => key y < key x) : Arranges key xs xs.reverse := by
  refine ⟨List.pairwise_reverse.mpr (h.imp le_of_lt), fun k => ?_⟩
  rw [List.filter_reverse]
  have hfilter := h.filter (key · = k)
  match hgroup : xs.filter (key · = k) with
  | [] => rfl
  | [x] => rfl
  | x :: y :: rest =>
    rw [hgroup] at hfilter
    have hlt : key y < key x := List.rel_of_pairwise_cons hfilter (List.mem_cons_self ..)
    have hkey : ∀ z ∈ xs.filter (key · = k), key z = k := fun z hz => by
      simpa using (List.mem_filter.mp hz).2
    rw [hgroup] at hkey
    have hx : key x = k := hkey x (by simp)
    have hy : key y = k := hkey y (by simp)
    exact absurd (hx.trans hy.symm) (ne_of_gt hlt)

/-- One more element goes behind all that are not later and before all that are. -/
theorem put (h : Arranges key xs (front ++ back)) (hfront : ∀ y ∈ front, key y ≤ key x)
    (hback : ∀ y ∈ back, key x < key y) : Arranges key (xs ++ [x]) (front ++ x :: back) := by
  obtain ⟨hf, hb, hfb⟩ := List.pairwise_append.mp h.ascending
  refine ⟨List.pairwise_append.mpr ⟨hf, ?_, ?_⟩, fun k => ?_⟩
  · exact List.pairwise_cons.mpr ⟨fun y hy => le_of_lt (hback y hy), hb⟩
  · intro y hy z hz
    rcases List.mem_cons.mp hz with rfl | hz
    · exact hfront y hy
    · exact hfb y hy z hz
  · rw [List.filter_append, List.filter_append, ← h.ties, List.filter_append, List.append_assoc]
    refine congrArg _ ?_
    by_cases hx : key x = k
    · -- the elements behind have other keys
      have hnone : back.filter (key · = k) = [] := by
        refine List.filter_eq_nil_iff.mpr fun y hy => ?_
        simpa using ne_of_gt (hx ▸ hback y hy)
      rw [List.filter_cons_of_pos (by simpa using hx), hnone,
        List.filter_cons_of_pos (by simpa using hx)]
      rfl
    · rw [List.filter_cons_of_neg (by simpa using hx), List.filter_cons_of_neg (by simpa using hx),
        List.filter_nil, List.append_nil]

theorem of_map {β : Type} {f : β → α} {xs ys : List β} (hf : Function.Injective f)
    (h : Arranges key (xs.map f) (ys.map f)) : Arranges (fun x => key (f x)) xs ys := by
  have hascending := List.pairwise_map.mp h.ascending
  refine ⟨hascending, fun k => ?_⟩
  have hties := h.ties k
  rw [List.filter_map, List.filter_map] at hties
  exact List.map_injective_iff.mpr hf hties

end Arranges

theorem insert_nil : insert before x [] = .ok [x] := by
  rw [insert]
  split
  · rfl
  · rename_i hdrop
    exact absurd hdrop.symm (by simp)

/-- Inserting looks at the middle and goes on in one of the halves. -/
theorem insert_halves {left right : List α} {middle : α}
    (h : (left ++ middle :: right).length / 2 = left.length) :
    insert before x (left ++ middle :: right) = (do
      if ← before x middle then return (← insert before x left) ++ middle :: right
      else return left ++ middle :: (← insert before x right)) := by
  have hdrop : (left ++ middle :: right).drop ((left ++ middle :: right).length / 2) =
      middle :: right := by rw [h, List.drop_left]
  have htake : (left ++ middle :: right).take ((left ++ middle :: right).length / 2) = left := by
    rw [h, List.take_left]
  rw [insert]
  split
  · rename_i hnil
    rw [hdrop] at hnil
    cases hnil
  · rename_i middle' right' hcons
    rw [hdrop] at hcons
    cases hcons
    rw [htake]

theorem insert_before {left right sorted : List α} {middle : α}
    (h : (left ++ middle :: right).length / 2 = left.length) (hbefore : before x middle = .ok true)
    (hleft : insert before x left = .ok sorted) :
    insert before x (left ++ middle :: right) = .ok (sorted ++ middle :: right) := by
  rw [insert_halves h, hbefore, hleft]
  rfl

theorem insert_behind {left right sorted : List α} {middle : α}
    (h : (left ++ middle :: right).length / 2 = left.length) (hbehind : before x middle = .ok false)
    (hright : insert before x right = .ok sorted) :
    insert before x (left ++ middle :: right) = .ok (left ++ middle :: sorted) := by
  rw [insert_halves h, hbehind, hright]
  rfl

/-- Bisection finds the place behind all elements that are not later, by induction on the halves it
looks into. -/
theorem insert_of_ascending (hcompares : ComparesBy before key (x :: xs))
    (hascending : xs.Pairwise fun x y => key x ≤ key y) :
    ∃ front back, xs = front ++ back ∧ (∀ y ∈ front, key y ≤ key x) ∧
      (∀ y ∈ back, key x < key y) ∧ insert before x xs = .ok (front ++ x :: back) := by
  induction xs using insert.induct with
  | case1 xs hdrop =>
    have hnil : xs = [] := by
      have hlength := congrArg List.length hdrop
      simp only [List.length_drop, List.length_nil] at hlength
      exact List.eq_nil_of_length_eq_zero (by omega)
    subst hnil
    exact ⟨[], [], rfl, by simp, by simp, insert_nil⟩
  | case2 xs middle right hdrop hlength left ihleft ihright =>
    have hxs : xs = left ++ middle :: right := by
      rw [← hdrop]
      exact (List.take_append_drop ..).symm
    have hhalf : (left ++ middle :: right).length / 2 = left.length := by
      rw [← hxs, List.length_take]
      omega
    rw [hxs] at hascending hcompares ⊢
    obtain ⟨hleft, hmiddle, hacross⟩ := List.pairwise_append.mp hascending
    obtain ⟨hbehind, hright⟩ := List.pairwise_cons.mp hmiddle
    have hfirst := hcompares x (by simp) middle (by simp)
    by_cases hx : key x < key middle
    · obtain ⟨front, back, hsplit, hfront, hback, hinsert⟩ :=
        ihleft (hcompares.mono (by simp)) hleft
      rw [decide_eq_true hx] at hfirst
      refine ⟨front, back ++ middle :: right, by simp [hsplit], hfront, ?_, ?_⟩
      · exact List.forall_mem_append.mpr ⟨hback, List.forall_mem_cons.mpr
          ⟨hx, fun y hy => lt_of_lt_of_le hx (hbehind y hy)⟩⟩
      · rw [insert_before hhalf hfirst hinsert, List.append_assoc, List.cons_append]
    · have hsub : x :: right ⊆ x :: (left ++ middle :: right) :=
        List.cons_subset_cons x fun y hy => by simp [hy]
      obtain ⟨front, back, hsplit, hfront, hback, hinsert⟩ := ihright (hcompares.mono hsub) hright
      rw [decide_eq_false hx] at hfirst
      refine ⟨left ++ middle :: front, back, by simp [hsplit], ?_, hback, ?_⟩
      · exact List.forall_mem_append.mpr
          ⟨fun y hy => (hacross y hy middle (by simp)).trans (not_lt.mp hx),
            List.forall_mem_cons.mpr ⟨not_lt.mp hx, hfront⟩⟩
      · rw [insert_behind hhalf hfirst hinsert, List.append_assoc, List.cons_append]

/-- The run is what stands at the start of a list in the one order or in the other. -/
theorem splitRun_splits (descends : Bool) (last : α)
    (hcompares : ComparesBy before key (last :: xs)) :
    ∃ run left, splitRun before descends last xs = .ok (run, left) ∧ xs = run ++ left ∧
      (last :: run).IsChain fun x y => decide (key y < key x) = descends := by
  induction xs generalizing last with
  | nil => exact ⟨[], [], rfl, rfl, List.isChain_singleton last⟩
  | cons x rest ih =>
    have hx : before x last = .ok (decide (key x < key last)) :=
      hcompares x (by simp) last (by simp)
    rw [splitRun, hx]
    by_cases hgoes : decide (key x < key last) = descends
    · obtain ⟨run, left, hrun, hrest, hchain⟩ := ih x (hcompares.mono (List.subset_cons_self ..))
      refine ⟨x :: run, left, ?_, by rw [hrest]; rfl, List.isChain_cons_cons.mpr ⟨hgoes, hchain⟩⟩
      show (if decide (key x < key last) = descends then _ else _) = _
      rw [if_pos hgoes, hrun]
      rfl
    · refine ⟨[], x :: rest, ?_, rfl, List.isChain_singleton last⟩
      show (if decide (key x < key last) = descends then _ else _) = _
      rw [if_neg hgoes]
      rfl

theorem firstRun_arranges (hcompares : ComparesBy before key xs) :
    ∃ taken run left, firstRun before xs = .ok (run, left) ∧ xs = taken ++ left ∧
      Arranges key taken run := by
  match xs with
  | [] => exact ⟨[], [], [], rfl, rfl, .of_ascending .nil⟩
  | [x] => exact ⟨[x], [x], [], rfl, rfl, .of_ascending (List.pairwise_singleton _ x)⟩
  | x :: y :: rest =>
    have hfirst : before y x = .ok (decide (key y < key x)) := hcompares y (by simp) x (by simp)
    obtain ⟨run, left, hrun, hrest, hchain⟩ := splitRun_splits (decide (key y < key x)) y
      (hcompares.mono (List.subset_cons_self ..))
    have hchain : (x :: y :: run).IsChain fun a b =>
        decide (key b < key a) = decide (key y < key x) :=
      List.isChain_cons_cons.mpr ⟨rfl, hchain⟩
    have hruns : firstRun before (x :: y :: rest) = .ok
        (if decide (key y < key x) then (x :: y :: run).reverse else x :: y :: run, left) := by
      rw [firstRun, hfirst]
      show (splitRun before (decide (key y < key x)) y rest).bind _ = _
      rw [hrun]
      rfl
    refine ⟨x :: y :: run, _, left, hruns, by rw [hrest]; rfl, ?_⟩
    by_cases hyx : key y < key x
    · have hstrict : (x :: y :: run).IsChain fun a b => key b < key a :=
        hchain.imp fun a b hab => by simpa [hyx] using hab
      rw [if_pos (decide_eq_true hyx)]
      exact .of_descending hstrict.pairwise
    · have hascends : (x :: y :: run).IsChain fun a b => key a ≤ key b :=
        hchain.imp fun a b hab => by simpa [hyx] using hab
      rw [if_neg (by simpa using hyx)]
      exact .of_ascending hascends.pairwise

/-- What has been arranged stays so as one element after the other is put in. -/
theorem foldlM_insert_arranges {taken run left : List α}
    (hcompares : ComparesBy before key (taken ++ left)) (harranged : Arranges key taken run) :
    ∃ ys, left.foldlM (fun sorted x => insert before x sorted) run = .ok ys ∧
      Arranges key (taken ++ left) ys := by
  induction left generalizing taken run with
  | nil => exact ⟨run, rfl, by rwa [List.append_nil]⟩
  | cons x rest ih =>
    have hsub : x :: run ⊆ taken ++ x :: rest := by
      refine List.cons_subset.mpr ⟨by simp, fun y hy => ?_⟩
      exact List.mem_append_left _ (harranged.perm.mem_iff.mp hy)
    obtain ⟨front, back, rfl, hfront, hback, hinsert⟩ :=
      insert_of_ascending (hcompares.mono hsub) harranged.ascending
    rw [List.append_cons] at hcompares ⊢
    obtain ⟨ys, hys, harranges⟩ := ih hcompares (harranged.put hfront hback)
    refine ⟨ys, ?_, harranges⟩
    rw [List.foldlM_cons, hinsert]
    exact hys

/-- Sorting a list whose elements can be compared by a key arranges it by that key. -/
theorem sort_arranges (hcompares : ComparesBy before key xs) :
    ∃ ys, sort before xs = .ok ys ∧ Arranges key xs ys := by
  obtain ⟨taken, run, left, hrun, rfl, harranged⟩ := firstRun_arranges hcompares
  obtain ⟨ys, hys, harranges⟩ := foldlM_insert_arranges hcompares harranged
  refine ⟨ys, ?_, harranges⟩
  rw [sort, hrun]
  exact hys

end AspectAgent.Sorting
