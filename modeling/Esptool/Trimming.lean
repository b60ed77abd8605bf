import Esptool.Text
import Mathlib.Data.List.TakeWhile

/-!
# White space around a text

Every parser trims its text first.  What is left is determined by the text:
only white space is cut off, and none is left at either end.
-/

namespace Esptool.Text

/-- `core` is the text without the white space around it. -/
structure Trims (text core : List Char) : Prop where
  around : ∃ before behind : List Char, text = before ++ core ++ behind ∧
    (∀ c ∈ before, isSpace c = true) ∧ ∀ c ∈ behind, isSpace c = true
  first : ∀ c ∈ core.head?, isSpace c = false
  last : ∀ c ∈ core.getLast?, isSpace c = false

theorem head_dropWhile_isSpace (text : List Char) :
    ∀ c ∈ (text.dropWhile isSpace).head?, isSpace c = false := by
  induction text with
  | nil => nofun
  | cons c text ih =>
      rw [List.dropWhile_cons]
      split
      · exact ih
      · rename_i hspace
        intro other hother
        rw [List.head?_cons, Option.mem_some_iff] at hother
        subst hother
        exact Bool.eq_false_iff.mpr hspace

theorem dropWhile_isSpace_eq {text : List Char}
    (h : ∀ c ∈ text.head?, isSpace c = false) :
    text.dropWhile isSpace = text := by
  cases text with
  | nil => rfl
  | cons c text =>
      have hfirst : isSpace c = false := h c rfl
      exact List.dropWhile_cons_of_neg (by simp [hfirst])

theorem trims_trim (text : List Char) : Trims text (trim text) := by
  have hfront : text.takeWhile isSpace ++ text.dropWhile isSpace = text :=
    List.takeWhile_append_dropWhile
  have hfirst := head_dropWhile_isSpace text
  unfold trim
  generalize text.dropWhile isSpace = dropped at hfront hfirst ⊢
  have hsplit : dropped =
      (dropped.reverse.dropWhile isSpace).reverse ++
        (dropped.reverse.takeWhile isSpace).reverse := by
    rw [← List.reverse_append, List.takeWhile_append_dropWhile,
      List.reverse_reverse]
  refine ⟨⟨text.takeWhile isSpace,
    (dropped.reverse.takeWhile isSpace).reverse, ?_, ?_, ?_⟩, ?_, ?_⟩
  · rw [List.append_assoc, ← hsplit, hfront]
  · exact fun c hc => List.mem_takeWhile_imp hc
  · intro c hc
    exact List.mem_takeWhile_imp (List.mem_reverse.mp hc)
  · -- the core starts where the text without its front does
    intro c hc
    apply hfirst c
    rw [hsplit, Option.mem_def, List.head?_append, Option.mem_def.mp hc]
    rfl
  · intro c hc
    rw [List.getLast?_reverse] at hc
    exact head_dropWhile_isSpace dropped.reverse c hc

/-- Nothing but the trimmed text is left without its white space. -/
theorem trims_iff {text core : List Char} :
    Trims text core ↔ trim text = core := by
  constructor
  · rintro ⟨⟨before, behind, rfl, hbefore, hbehind⟩, hfirst, hlast⟩
    have hfront : (before ++ core ++ behind).dropWhile isSpace =
        (core ++ behind).dropWhile isSpace := by
      rw [List.append_assoc, List.dropWhile_append_of_pos hbefore]
    unfold trim
    rw [hfront]
    by_cases hempty : core = []
    · subst hempty
      have hnothing : behind.dropWhile isSpace = [] :=
        List.dropWhile_eq_nil_iff.mpr hbehind
      rw [List.nil_append, hnothing]
      rfl
    · have hkept : (core ++ behind).dropWhile isSpace = core ++ behind := by
        apply dropWhile_isSpace_eq
        intro c hc
        rw [List.head?_append_of_ne_nil _ hempty] at hc
        exact hfirst c hc
      have hback : (behind.reverse ++ core.reverse).dropWhile isSpace =
          core.reverse.dropWhile isSpace :=
        List.dropWhile_append_of_pos fun c hc =>
          hbehind c (List.mem_reverse.mp hc)
      have hend : core.reverse.dropWhile isSpace = core.reverse := by
        apply dropWhile_isSpace_eq
        intro c hc
        rw [List.head?_reverse] at hc
        exact hlast c hc
      rw [hkept, List.reverse_append, hback, hend, List.reverse_reverse]
  · rintro rfl
    exact trims_trim text

theorem trim_of_forall {text : List Char}
    (h : ∀ c ∈ text, isSpace c = false) : trim text = text := by
  apply trims_iff.mp
  refine ⟨⟨[], [], by simp, nofun, nofun⟩, ?_, ?_⟩
  · intro c hc
    exact h c (List.mem_of_mem_head? hc)
  · intro c hc
    exact h c (List.mem_of_getLast? hc)

end Esptool.Text
