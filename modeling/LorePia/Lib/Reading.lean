import LorePia.Lib.Fallible

namespace LorePia.Lib

open List

/-!
# Reading in pieces

A consumer takes a stream piece by piece and may refuse a piece.  Where it takes two pieces
exactly when it takes them as one, and then stands where the one would have left it, what it
makes of a stream does not depend on where the stream was cut.

* `Consumer.foldlM_eq_ok` — a run over the pieces is one step over the whole.
-/

/-- A step over pieces, with what it accepts and where it leads. -/
structure Consumer (σ β ε : Type _) where
  step : σ → List β → Except ε σ
  Fits : σ → List β → Prop
  advance : σ → List β → σ
  step_eq_ok : ∀ {s s' : σ} {piece : List β},
    step s piece = .ok s' ↔ Fits s piece ∧ advance s piece = s'
  advance_nil : ∀ s : σ, advance s [] = s
  advance_append : ∀ (s : σ) (a b : List β), advance s (a ++ b) = advance (advance s a) b
  fits_append : ∀ {s : σ} {a b : List β}, Fits s (a ++ b) ↔ Fits s a ∧ Fits (advance s a) b

namespace Consumer

variable {σ β ε : Type _} {C : Consumer σ β ε} {s s' : σ} {pieces : List (List β)}

/-- A run over nonempty pieces is one step over their contents, or none if there are none. -/
theorem foldlM_eq_ok (hne : ∀ piece ∈ pieces, piece ≠ []) :
    pieces.foldlM C.step s = .ok s' ↔
      (pieces.flatten ≠ [] → C.Fits s pieces.flatten) ∧ C.advance s pieces.flatten = s' := by
  induction pieces generalizing s with
  | nil =>
    rw [foldlM_nil, flatten_nil, C.advance_nil, pure_ok, Except.ok.injEq]
    simp
  | cons piece rest ih =>
    obtain ⟨hpiece, hrest⟩ := forall_mem_cons.mp hne
    have hwhole : piece ++ rest.flatten ≠ [] := append_ne_nil_of_left_ne_nil hpiece _
    rw [foldlM_cons, flatten_cons, bind_ok, C.advance_append]
    constructor
    · rintro ⟨s₁, hstep, h⟩
      obtain ⟨hfits, rfl⟩ := C.step_eq_ok.mp hstep
      obtain ⟨hrestFits, hend⟩ := (ih hrest).mp h
      refine ⟨fun _ => ?_, hend⟩
      by_cases hempty : rest.flatten = []
      · rwa [hempty, append_nil]
      · exact C.fits_append.mpr ⟨hfits, hrestFits hempty⟩
    · rintro ⟨hfits, hend⟩
      obtain ⟨hpieceFits, hrestFits⟩ := C.fits_append.mp (hfits hwhole)
      exact ⟨_, C.step_eq_ok.mpr ⟨hpieceFits, rfl⟩, (ih hrest).mpr ⟨fun _ => hrestFits, hend⟩⟩

end Consumer

end LorePia.Lib
