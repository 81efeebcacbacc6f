import Mathlib.Data.List.Basic

/-!
# Fields on a line, lines in a text

A line is a list of fields with a separator between any two, a text a list of lines with an end
behind each.  The separator may be followed by some padding.  What is put together is taken apart
again as long as no field contains the separator and no line the end.

* `fields` / `fields_intercalate` — the fields of a line, `mem_intercalate` what stands in it;
* `lines` / `lines_flatMap` — the lines of a text.
-/

namespace Separated

variable {α : Type*} [BEq α] [LawfulBEq α] {sep stop : α} {pad : List α} {fs ls : List (List α)}

/-- The fields of a line: what stands between separators, without the `pad` symbols that follow
    each of them. -/
def fields (sep : α) (pad : ℕ) (line : List α) : List (List α) :=
  match line.splitOn sep with
  | [] => []
  | f :: fs => f :: fs.map (List.drop pad)

omit [BEq α] [LawfulBEq α] in
/-- The padding belongs to the fields behind it. -/
theorem intercalate_cons (f : List α) (fs : List (List α)) :
    (sep :: pad).intercalate (f :: fs) = [sep].intercalate (f :: fs.map (pad ++ ·)) := by
  induction fs generalizing f with
  | nil => rfl
  | cons g fs ih =>
    rw [List.intercalate_cons_cons, ih g, List.map_cons, List.intercalate_cons_cons]
    cases fs with
    | nil => simp
    | cons h fs => simp [List.intercalate_cons_cons]

omit [BEq α] [LawfulBEq α] in
/-- What stands in a line stands in a field or between two. -/
theorem mem_intercalate {x : α} {ys : List α} (h : x ∈ ys.intercalate fs) :
    x ∈ ys ∨ ∃ f ∈ fs, x ∈ f := by
  induction fs with
  | nil => exact absurd h List.not_mem_nil
  | cons f fs ih =>
    cases fs with
    | nil => exact Or.inr ⟨f, List.mem_cons_self, by simpa using h⟩
    | cons g fs =>
      rw [List.intercalate_cons_cons, List.append_assoc, List.mem_append, List.mem_append] at h
      rcases h with hf | hys | hrest
      · exact Or.inr ⟨f, List.mem_cons_self, hf⟩
      · exact Or.inl hys
      · rcases ih hrest with hys | ⟨k, hk, hx⟩
        · exact Or.inl hys
        · exact Or.inr ⟨k, List.mem_cons_of_mem f hk, hx⟩

/-- **A line is taken apart into its fields.** -/
theorem fields_intercalate (hne : fs ≠ []) (hpad : sep ∉ pad) (h : ∀ f ∈ fs, sep ∉ f) :
    fields sep pad.length ((sep :: pad).intercalate fs) = fs := by
  cases fs with
  | nil => exact absurd rfl hne
  | cons f fs =>
    have hsplit : ([sep].intercalate (f :: fs.map (pad ++ ·))).splitOn sep
        = f :: fs.map (pad ++ ·) := by
      apply List.splitOn_intercalate
      · intro l hl
        rcases List.mem_cons.mp hl with rfl | hl
        · exact h l List.mem_cons_self
        · obtain ⟨g, hg, rfl⟩ := List.mem_map.mp hl
          rw [List.mem_append, not_or]
          exact ⟨hpad, h g (List.mem_cons_of_mem f hg)⟩
      · exact List.cons_ne_nil _ _
    rw [fields, intercalate_cons, hsplit]
    simp [Function.comp_def]

/-- The lines of a text: what stands before each end. -/
def lines (stop : α) (text : List α) : List (List α) := (text.splitOn stop).dropLast

/-- **A text is taken apart into its lines.** -/
theorem lines_flatMap (h : ∀ l ∈ ls, stop ∉ l) :
    lines stop (ls.flatMap (· ++ [stop])) = ls := by
  unfold lines
  induction ls with
  | nil => simp
  | cons l ls ih =>
    have hl := h l List.mem_cons_self
    have ih := ih fun k hk => h k (List.mem_cons_of_mem l hk)
    rw [List.flatMap_cons, List.append_assoc, List.singleton_append,
      List.splitOn_append_cons_self_of_not_mem hl, List.dropLast_cons_of_ne_nil, ih]
    exact List.splitOn_ne_nil _ _

end Separated
