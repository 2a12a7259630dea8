import Mathlib.Data.List.DropRight
import AspectAgent.Text.Blank

/-!
# Trimming and splitting

Trimming takes away the white space around a text, and the text that is left is told by that alone:
it neither begins nor ends with white space. The pieces of a text between separators have no
separator in them, and putting the separators back between them gives the text again.
-/

namespace AspectAgent.Text

variable {s t : List Char} {sep : Char}

/-- White space and nothing else. -/
def AllBlank (s : List Char) : Prop := ∀ c ∈ s, isBlank c = true

/-- A text that neither begins nor ends with white space. -/
structure Trimmed (s : List Char) : Prop where
  first : ∀ c ∈ s.head?, isBlank c = false
  last : ∀ c ∈ s.getLast?, isBlank c = false

/-- A text with white space around it, or none. -/
def Pads (s padded : List Char) : Prop :=
  ∃ before behind, AllBlank before ∧ AllBlank behind ∧ padded = before ++ s ++ behind

theorem AllBlank.pads_nil (h : AllBlank t) : Pads [] t :=
  ⟨t, [], h, fun _ hc => absurd hc List.not_mem_nil, by simp⟩

theorem Pads.allBlank (h : Pads [] t) : AllBlank t := by
  obtain ⟨before, behind, hbefore, hbehind, rfl⟩ := h
  rw [List.append_nil]
  exact fun c hc => (List.mem_append.mp hc).elim (hbefore c) (hbehind c)

theorem Trimmed.nil : Trimmed [] := ⟨nofun, nofun⟩

theorem dropWhile_eq_self {p : Char → Bool} (h : ∀ c ∈ s.head?, p c = false) :
    s.dropWhile p = s := by
  cases s with
  | nil => rfl
  | cons c rest => exact List.dropWhile_cons_of_neg (by simp [h c rfl])

theorem pads_trimChars (s : List Char) : Pads (trimChars s) s := by
  refine ⟨s.takeWhile isBlank, (s.dropWhile isBlank).rtakeWhile isBlank,
    fun c hc => List.mem_takeWhile_imp hc, fun c hc => List.mem_rtakeWhile_imp hc, ?_⟩
  calc s = s.takeWhile isBlank ++ s.dropWhile isBlank := List.takeWhile_append_dropWhile.symm
    _ = s.takeWhile isBlank ++
        (trimChars s ++ (s.dropWhile isBlank).rtakeWhile isBlank) :=
      congrArg _ (List.rdropWhile_append_rtakeWhile ..).symm
    _ = _ := (List.append_assoc ..).symm

theorem trimmed_trimChars (s : List Char) : Trimmed (trimChars s) := by
  have hfirst : ∀ l : List Char, ∀ c ∈ (l.dropWhile isBlank).head?, isBlank c = false := by
    intro l c hc
    have hnot := List.head?_dropWhile_not isBlank l
    rwa [Option.mem_def.mp hc] at hnot
  refine ⟨fun c hc => ?_, fun c hc => ?_⟩
  · -- trimming at the end leaves the start of what trimming at the start has left
    obtain ⟨cut, hcut⟩ : trimChars s <+: s.dropWhile isBlank := List.rdropWhile_prefix ..
    have hhead : (s.dropWhile isBlank).head? = some c := by
      rw [← hcut, List.head?_append, Option.mem_def.mp hc]
      rfl
    exact hfirst s c hhead
  · rw [trimChars, trimWhile, List.getLast?_reverse] at hc
    exact hfirst _ c hc

theorem trimChars_of_pads (hs : Trimmed s) (h : Pads s t) : trimChars t = s := by
  obtain ⟨before, behind, hbefore, hbehind, rfl⟩ := h
  cases s with
  | nil =>
    have hall : ∀ c ∈ before ++ [] ++ behind, isBlank c = true := fun c hc =>
      Pads.allBlank ⟨before, behind, hbefore, hbehind, rfl⟩ c hc
    rw [trimChars, trimWhile, List.dropWhile_eq_nil_iff.mpr hall]
    rfl
  | cons c rest =>
    have hstart : (before ++ c :: rest ++ behind).dropWhile isBlank = c :: rest ++ behind := by
      rw [List.append_assoc, List.dropWhile_append_of_pos hbefore]
      exact dropWhile_eq_self hs.first
    have hend : (c :: rest ++ behind).reverse.dropWhile isBlank = (c :: rest).reverse := by
      rw [List.reverse_append, List.dropWhile_append_of_pos fun d hd =>
        hbehind d (List.mem_reverse.mp hd)]
      exact dropWhile_eq_self fun d hd => hs.last d (List.head?_reverse ▸ hd)
    rw [trimChars, trimWhile, hstart, hend, List.reverse_reverse]

/-- What trimming leaves is told by the white space around it and by its ends. -/
theorem trimChars_eq_iff : trimChars t = s ↔ Trimmed s ∧ Pads s t := by
  constructor
  · rintro rfl
    exact ⟨trimmed_trimChars t, pads_trimChars t⟩
  · rintro ⟨hs, h⟩
    exact trimChars_of_pads hs h

theorem trimChars_eq_nil_iff : trimChars t = [] ↔ AllBlank t :=
  trimChars_eq_iff.trans ⟨fun h => h.2.allBlank, fun h => ⟨.nil, h.pads_nil⟩⟩

theorem splitChars_eq_splitOn (sep : Char) (s : List Char) : splitChars sep s = s.splitOn sep := by
  induction s with
  | nil => rfl
  | cons c rest ih =>
    rw [splitChars, List.splitOn_eq_splitOnP, List.splitOnP_cons_eq_if_modifyHead,
      ← List.splitOn_eq_splitOnP, ← ih]
    cases hpieces : splitChars sep rest with
    | nil => exact absurd hpieces (splitChars_ne_nil sep rest)
    | cons piece pieces => simp

theorem not_mem_of_mem_splitChars {piece : List Char} (h : piece ∈ splitChars sep s) :
    sep ∉ piece := by
  induction s generalizing piece with
  | nil =>
    rw [List.mem_singleton.mp h]
    exact List.not_mem_nil
  | cons c rest ih =>
    rw [splitChars] at h
    cases hpieces : splitChars sep rest with
    | nil => exact absurd hpieces (splitChars_ne_nil sep rest)
    | cons first pieces =>
      simp only [hpieces] at h ih
      split at h
      · rcases List.mem_cons.mp h with rfl | h
        · exact List.not_mem_nil
        · exact ih h
      · rename_i hc
        rcases List.mem_cons.mp h with rfl | h
        · exact fun hsep => (List.mem_cons.mp hsep).elim (fun heq => hc heq.symm)
            (ih (List.mem_cons_self ..))
        · exact ih (List.mem_cons_of_mem _ h)

end AspectAgent.Text
