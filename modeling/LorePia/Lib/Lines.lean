import Mathlib.Data.List.Basic

namespace LorePia.Lib

open List

/-!
# Lines and blocks

A stream is cut into lines, each of which ends at a carriage return, at a line feed, or at the two
in this order; an empty line ends a block of lines.  What follows the last end is not complete.

A reader that cuts at every end, and so reads a carriage return with its line feed as two, sees
the same lines but for empty ones.

* `completeLines`, `completeBlocks` — the framing;
* `blocks_emptyLine`, `blocks_emptyLine_pair` — two ends in a row, other than a carriage return
  with its line feed, end a block;
* `blocks_skip` — at the beginning of a block an end does not matter;
* `pieces_intercalate` — lines that are joined by line feeds are read back.
-/

variable {α β : Type} [DecidableEq α] (cr lf : α)

/-- An element that ends a line. -/
abbrev IsEnd (a : α) : Prop := a = cr ∨ a = lf

/-- The complete lines of a stream, without their ends; the first begins with `line`. -/
def completeLines : List α → List α → List (List α)
  | _, [] => []
  | line, [a] => if IsEnd cr lf a then [line] else []
  | line, a :: b :: stream =>
    if a = cr ∧ b = lf then line :: completeLines [] stream
    else if IsEnd cr lf a then line :: completeLines [] (b :: stream)
    else completeLines (line ++ [a]) (b :: stream)

/-- The blocks that an empty line ends; the first begins with `block`. -/
def completeBlocks : List (List α) → List (List α) → List (List (List α))
  | _, [] => []
  | block, line :: lines =>
    if line = [] then block :: completeBlocks [] lines else completeBlocks (block ++ [line]) lines

/-- A list, unless it is empty. -/
def shown [DecidableEq β] (l : List β) : List (List β) := if l = [] then [] else [l]

/-- The blocks with a line of a stream, of which the first begins with `block` and `line`. -/
def blocks (line : List α) (block : List (List α)) (stream : List α) : List (List (List α)) :=
  (completeBlocks block (completeLines cr lf line stream)).filter (· ≠ [])

/-- The lines of a text that is cut at every end, but for the empty ones. -/
def pieces : List α → List α → List (List α)
  | line, [] => shown line
  | line, a :: text =>
    if IsEnd cr lf a then shown line ++ pieces [] text else pieces (line ++ [a]) text

variable {cr lf} {a : α} {line text stream : List α}

@[simp] theorem shown_nil [DecidableEq β] : shown ([] : List β) = [] := rfl

theorem shown_of_ne_nil [DecidableEq β] {l : List β} (h : l ≠ []) : shown l = [l] := if_neg h

/-! ### Lines -/

theorem completeLines_text (ha : ¬ IsEnd cr lf a) :
    completeLines cr lf line (a :: stream) = completeLines cr lf (line ++ [a]) stream := by
  have hpair : ∀ b, ¬ (a = cr ∧ b = lf) := fun _ h => ha (.inl h.1)
  cases stream with
  | nil => exact if_neg ha
  | cons b stream => rw [completeLines, if_neg (hpair b), if_neg ha]

theorem completeLines_pair :
    completeLines cr lf line (cr :: lf :: stream) = line :: completeLines cr lf [] stream := by
  rw [completeLines, if_pos ⟨rfl, rfl⟩]

theorem completeLines_end (ha : IsEnd cr lf a) (hpair : ¬ (a = cr ∧ stream.head? = some lf)) :
    completeLines cr lf line (a :: stream) = line :: completeLines cr lf [] stream := by
  cases stream with
  | nil => exact if_pos ha
  | cons b stream =>
    have hpair' : ¬ (a = cr ∧ b = lf) := fun h => hpair ⟨h.1, congrArg some h.2⟩
    rw [completeLines, if_neg hpair', if_pos ha]

/-! ### Blocks -/

@[simp] theorem blocks_nil : blocks cr lf line block [] = [] := rfl

theorem blocks_text (ha : ¬ IsEnd cr lf a) :
    blocks cr lf line block (a :: stream) = blocks cr lf (line ++ [a]) block stream := by
  rw [blocks, completeLines_text ha, blocks]

/-- The end of a line is the end of its block if the line is empty. -/
theorem blocks_of_line (h : completeLines cr lf line stream = line :: completeLines cr lf [] rest) :
    blocks cr lf line block stream = if line = [] then shown block ++ blocks cr lf [] [] rest
      else blocks cr lf [] (block ++ [line]) rest := by
  rw [blocks, h, completeBlocks]
  by_cases hline : line = []
  · rw [if_pos hline, if_pos hline]
    by_cases hblock : block = []
    · simp [hblock, blocks]
    · simp [hblock, blocks, shown]
  · rw [if_neg hline, if_neg hline, blocks]

/-- A line that ends with other lines behind it. -/
theorem blocks_end (ha : IsEnd cr lf a) (hpair : ¬ (a = cr ∧ stream.head? = some lf)) :
    blocks cr lf line block (a :: stream) =
      if line = [] then shown block ++ blocks cr lf [] [] stream
      else blocks cr lf [] (block ++ [line]) stream :=
  blocks_of_line (completeLines_end ha hpair)

theorem blocks_pair :
    blocks cr lf line block (cr :: lf :: stream) =
      if line = [] then shown block ++ blocks cr lf [] [] stream
      else blocks cr lf [] (block ++ [line]) stream :=
  blocks_of_line completeLines_pair

/-- **At the beginning of a block** an end does not matter. -/
theorem blocks_skip (hne : cr ≠ lf) (ha : IsEnd cr lf a) :
    blocks cr lf [] [] (a :: stream) = blocks cr lf [] [] stream := by
  by_cases hpair : a = cr ∧ stream.head? = some lf
  · obtain ⟨rfl, hhead⟩ := hpair
    obtain ⟨rest, rfl⟩ := head?_eq_some_iff.mp hhead
    have hlf : ¬ (lf = a ∧ rest.head? = some lf) := fun h => hne h.1.symm
    rw [blocks_pair, blocks_end (.inr rfl) hlf]
  · rw [blocks_end ha hpair]
    rfl

/-- At the beginning of a line an end is the end of the block. -/
theorem blocks_endOfBlock (hne : cr ≠ lf) (ha : IsEnd cr lf a) :
    blocks cr lf [] block (a :: stream) = shown block ++ blocks cr lf [] [] stream := by
  by_cases hpair : a = cr ∧ stream.head? = some lf
  · obtain ⟨rfl, hhead⟩ := hpair
    obtain ⟨rest, rfl⟩ := head?_eq_some_iff.mp hhead
    rw [blocks_pair, if_pos rfl, blocks_skip hne (.inr rfl)]
  · rw [blocks_end ha hpair, if_pos rfl]

/-- The end of a line before another end. -/
theorem blocks_of_line_end (hne : cr ≠ lf) (hb : IsEnd cr lf b)
    (h : completeLines cr lf line stream = line :: completeLines cr lf [] (b :: text)) :
    blocks cr lf line block stream = shown (block ++ shown line) ++ blocks cr lf [] [] text := by
  rw [blocks_of_line h]
  by_cases hline : line = []
  · rw [if_pos hline, blocks_skip hne hb, hline, shown_nil, append_nil]
  · rw [if_neg hline, blocks_endOfBlock hne hb, shown_of_ne_nil hline]

/-- **Two ends in a row** end a block. -/
theorem blocks_emptyLine (hne : cr ≠ lf) (ha : IsEnd cr lf a) (hb : IsEnd cr lf b)
    (hpair : ¬ (a = cr ∧ b = lf)) :
    blocks cr lf line block (a :: b :: stream) =
      shown (block ++ shown line) ++ blocks cr lf [] [] stream := by
  apply blocks_of_line_end hne hb
  apply completeLines_end ha
  intro h
  exact hpair ⟨h.1, Option.some.inj h.2⟩

/-- A carriage return with its line feed and another end end a block. -/
theorem blocks_emptyLine_pair (hne : cr ≠ lf) (hb : IsEnd cr lf b) :
    blocks cr lf line block (cr :: lf :: b :: stream) =
      shown (block ++ shown line) ++ blocks cr lf [] [] stream :=
  blocks_of_line_end hne hb completeLines_pair

/-! ### Pieces -/

theorem pieces_end (ha : IsEnd cr lf a) :
    pieces cr lf line (a :: text) = shown line ++ pieces cr lf [] text := if_pos ha

theorem pieces_text (ha : ¬ IsEnd cr lf a) :
    pieces cr lf line (a :: text) = pieces cr lf (line ++ [a]) text := if_neg ha

theorem pieces_append (h : ∀ a ∈ text, ¬ IsEnd cr lf a) :
    pieces cr lf line (text ++ stream) = pieces cr lf (line ++ text) stream := by
  induction text generalizing line with
  | nil => rw [nil_append, append_nil]
  | cons a text ih =>
    rw [forall_mem_cons] at h
    rw [cons_append, pieces_text h.1, ih h.2, append_assoc]
    rfl

/-- A line that is not empty and in which no other ends. -/
structure IsPiece (cr lf : α) (line : List α) : Prop where
  ne_nil : line ≠ []
  text : ∀ a ∈ line, ¬ IsEnd cr lf a

theorem isPiece_of_mem_pieces (hline : ∀ a ∈ line, ¬ IsEnd cr lf a) {piece : List α}
    (h : piece ∈ pieces cr lf line text) : IsPiece cr lf piece := by
  have hshown : ∀ {line : List α}, (∀ a ∈ line, ¬ IsEnd cr lf a) → piece ∈ shown line →
      IsPiece cr lf piece := by
    intro line hline h
    by_cases hnil : line = []
    · rw [hnil] at h
      exact absurd h not_mem_nil
    · rw [shown_of_ne_nil hnil, mem_singleton] at h
      subst h
      exact ⟨hnil, hline⟩
  induction text generalizing line with
  | nil => exact hshown hline h
  | cons a text ih =>
    by_cases ha : IsEnd cr lf a
    · rw [pieces_end ha, mem_append] at h
      rcases h with h | h
      · exact hshown hline h
      · exact ih (fun _ h => absurd h not_mem_nil) h
    · rw [pieces_text ha] at h
      refine ih ?_ h
      intro b hb
      rcases mem_append.mp hb with hb | hb
      · exact hline b hb
      · rw [mem_singleton.mp hb]
        exact ha

/-- **Joined lines** are read back. -/
theorem pieces_intercalate (h : ∀ line ∈ lines, IsPiece cr lf line) :
    pieces cr lf [] (List.intercalate [lf] lines) = lines := by
  induction lines with
  | nil => rfl
  | cons line lines ih =>
    rw [forall_mem_cons] at h
    obtain ⟨⟨hne, htext⟩, hlines⟩ := h
    cases lines with
    | nil =>
      have happ : pieces cr lf [] (line ++ []) = pieces cr lf ([] ++ line) [] := pieces_append htext
      rw [append_nil, nil_append] at happ
      rw [intercalate_singleton, happ]
      exact shown_of_ne_nil hne
    | cons next lines =>
      rw [intercalate_cons_cons, append_assoc, pieces_append htext, nil_append,
        singleton_append, pieces_end (.inr rfl), shown_of_ne_nil hne, ih hlines]
      rfl

end LorePia.Lib
