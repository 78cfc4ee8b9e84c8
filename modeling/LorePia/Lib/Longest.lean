import Mathlib.Data.List.Infix

namespace LorePia.Lib

open List

/-!
# Longest suffixes

A property of lists that passes to suffixes picks one suffix of every list that has any with the
property: the longest.  It is found from the end, by taking elements while the property holds.

* `LongestSuffix.stop` — where one more element breaks the property, the search is over.
-/

variable {α : Type _} {P : List α → Prop} {l r : List α}

/-- `r` is the longest suffix of `l` with the property `P`. -/
structure LongestSuffix (P : List α → Prop) (l r : List α) : Prop where
  suffix : r <:+ l
  holds : P r
  longest : ∀ s, s <:+ l → P s → s <:+ r

/-- A property that passes to suffixes. -/
def Hereditary (P : List α → Prop) : Prop := ∀ s t, s <:+ t → P t → P s

namespace LongestSuffix

/-- A list with the property is its own longest suffix. -/
theorem self (h : P l) : LongestSuffix P l l := ⟨suffix_rfl, h, fun _ hs _ => hs⟩

/-- Where one more element breaks the property, what was taken is the longest suffix. -/
theorem stop (hP : Hereditary P) (h : P r) (hbroken : ¬ P (a :: r)) :
    LongestSuffix P (older ++ a :: r) r := by
  refine ⟨⟨older ++ [a], by simp⟩, h, fun s hs hPs => ?_⟩
  have hmore : (a :: r) <:+ older ++ a :: r := suffix_append _ _
  rcases suffix_or_suffix_of_suffix hs hmore with hshort | hlong
  · rcases suffix_cons_iff.mp hshort with rfl | hshorter
    · exact absurd hPs hbroken
    · exact hshorter
  · exact absurd (hP _ _ hlong hPs) hbroken

end LongestSuffix

end LorePia.Lib
