import GpuQuota.Text.Blank
import Mathlib.Data.List.TakeWhile

/-!
# Blanks and separators that are written

What taking a text apart makes of a text that was put together: blanks around a text are trimmed
away, a separator that stands in no part divides the parts, and a carriage return before a line feed
is only one more blank at the end of the line.

The module introduces:

* `Text.trim_append_left`, `Text.trim_append_right` — blanks around a text do not matter.
* `Text.trim_append_cons` — a text is trimmed at its ends, not around a character that is no blank.
* `Text.splitAtFirst_eq_some_iff` — the parts around the first separator.
* `Text.pieces_append_cons` — a piece in front of others.
* `Text.filterMap_lines` — what reading trimmed lines makes of the lines of a text.
-/

namespace GpuQuota.Text

variable {sep c : Char} {cs blanks left right : List Char}

/-! ## Blanks -/

theorem trimStart_eq_nil_iff : trimStart cs = [] ↔ ∀ c ∈ cs, isBlank c = true :=
  List.dropWhile_eq_nil_iff

theorem trimEnd_eq_reverse (cs : List Char) : trimEnd cs = (trimStart cs.reverse).reverse := rfl

theorem trimStart_append (cs ds : List Char) :
    trimStart (cs ++ ds) = if trimStart cs = [] then trimStart ds else trimStart cs ++ ds := by
  simp [trimStart, List.dropWhile_append]

/-- Blanks in front of a text are trimmed away. -/
theorem trim_append_left (h : ∀ c ∈ blanks, isBlank c = true) (cs : List Char) :
    trim (blanks ++ cs) = trim cs := by
  rw [trim, trim, trimStart_append, if_pos (trimStart_eq_nil_iff.2 h)]

/-- Blanks behind a text are trimmed away. -/
theorem trim_append_right (h : ∀ c ∈ blanks, isBlank c = true) (cs : List Char) :
    trim (cs ++ blanks) = trim cs := by
  have hblanks : trimStart blanks.reverse = [] := trimStart_eq_nil_iff.2 (by simpa using h)
  rw [trim, trim, trimStart_append]
  -- In a text of blanks alone trimming the start takes the blanks behind it as well.
  split
  next hcs => rw [hcs, trimStart_eq_nil_iff.2 h]
  next => rw [trimEnd_eq_reverse, List.reverse_append, trimStart_append, if_pos hblanks,
    ← trimEnd_eq_reverse]

/-- Nothing behind a character that is no blank is trimmed at the start. -/
theorem trimStart_append_cons (hc : isBlank c = false) (left right : List Char) :
    trimStart (left ++ c :: right) = trimStart left ++ c :: right := by
  have hright : trimStart (c :: right) = c :: right := by simp [trimStart, hc]
  rw [trimStart_append]
  split
  next hleft => rw [hleft, hright, List.nil_append]
  next => rfl

/-- A text is trimmed at its two ends, but not around a character that is no blank. -/
theorem trim_append_cons (hc : isBlank c = false) (left right : List Char) :
    trim (left ++ c :: right) = trimStart left ++ c :: trimEnd right := by
  rw [trim, trimStart_append_cons hc, trimEnd_eq_reverse, List.reverse_append, List.reverse_cons,
    List.append_assoc, List.singleton_append, trimStart_append_cons hc, trimEnd_eq_reverse]
  simp

theorem trim_trimStart (cs : List Char) : trim (trimStart cs) = trim cs := by
  have hcs : cs.takeWhile isBlank ++ trimStart cs = cs := List.takeWhile_append_dropWhile
  have hblanks : ∀ c ∈ cs.takeWhile isBlank, isBlank c = true := fun _ => List.mem_takeWhile_imp
  calc trim (trimStart cs)
      = trim (cs.takeWhile isBlank ++ trimStart cs) := (trim_append_left hblanks _).symm
    _ = trim cs := by rw [hcs]

theorem trim_trimEnd (cs : List Char) : trim (trimEnd cs) = trim cs := by
  have hcs : trimEnd cs ++ (cs.reverse.takeWhile isBlank).reverse = cs := by
    rw [trimEnd, ← List.reverse_append, List.takeWhile_append_dropWhile, List.reverse_reverse]
  have hblanks : ∀ c ∈ (cs.reverse.takeWhile isBlank).reverse, isBlank c = true :=
    fun _ hc => List.mem_takeWhile_imp (List.mem_reverse.1 hc)
  calc trim (trimEnd cs)
      = trim (trimEnd cs ++ (cs.reverse.takeWhile isBlank).reverse) :=
        (trim_append_right hblanks _).symm
    _ = trim cs := by rw [hcs]

/-- Trimming the end leaves the start as it is. -/
theorem head?_trim (cs : List Char) : (trim cs).head? = (trimStart cs).head? := by
  cases h : trimStart cs with
  | nil => rw [trim, h]; rfl
  | cons c ds =>
    have hc : isBlank c = false := by
      have hhead := List.head?_dropWhile_not isBlank cs
      rwa [show cs.dropWhile isBlank = c :: ds from h] at hhead
    rw [← trim_trimStart, h, ← List.nil_append (c :: ds), trim_append_cons hc]
    rfl

theorem mem_of_mem_trimStart (h : c ∈ trimStart cs) : c ∈ cs :=
  (List.dropWhile_sublist isBlank).mem h

theorem mem_of_mem_trim (h : c ∈ trim cs) : c ∈ cs := by
  rw [trim, trimEnd_eq_reverse, List.mem_reverse] at h
  exact mem_of_mem_trimStart (List.mem_reverse.1 (mem_of_mem_trimStart h))

/-! ## Separators -/

/-- The parts around the first separator make up the text, and the first holds no separator. -/
theorem splitAtFirst_eq_some_iff :
    splitAtFirst sep cs = some (left, right) ↔ cs = left ++ sep :: right ∧ sep ∉ left := by
  refine ⟨eq_append_of_splitAtFirst, ?_⟩
  rintro ⟨rfl, hsep⟩
  have hleft : ∀ c ∈ left, (decide (c ≠ sep)) = true := by
    intro c hc
    simpa using fun h : c = sep => hsep (h ▸ hc)
  rw [splitAtFirst, List.dropWhile_append_of_pos hleft, List.takeWhile_append_of_pos hleft]
  simp

/-- A text without a separator is one piece. -/
theorem pieces_of_not_mem (h : sep ∉ cs) : pieces sep cs = [cs] := by
  induction cs with
  | nil => rfl
  | cons c cs ih =>
    simp only [List.mem_cons, not_or] at h
    rw [pieces, if_neg (Ne.symm h.1), ih h.2]

/-- What stands before the first separator is the first piece. -/
theorem pieces_append_cons (h : sep ∉ left) (right : List Char) :
    pieces sep (left ++ sep :: right) = left :: pieces sep right := by
  induction left with
  | nil => simp [pieces]
  | cons c left ih =>
    simp only [List.mem_cons, not_or] at h
    rw [List.cons_append, pieces, if_neg (Ne.symm h.1), ih h.2]

/-! ## Lines -/

/-- The carriage return of a line end is one more blank. -/
theorem trim_dropReturn (cs : List Char) : trim (dropReturn cs) = trim cs := by
  unfold dropReturn
  split
  next h =>
    obtain ⟨ds, rfl⟩ := List.getLast?_eq_some_iff.1 h
    have hblank : ∀ c ∈ ['\r'], isBlank c = true := List.forall_mem_singleton.2 rfl
    rw [List.dropLast_concat, trim_append_right hblank]
  next => rfl

/-- To a reader that trims its lines, and makes nothing of an empty one, the lines of a text are the
pieces between its line feeds. -/
theorem filterMap_lines {β : Type} (read : List Char → Option β)
    (hread : ∀ cs ds, trim cs = trim ds → read cs = read ds) (hnil : read [] = none)
    (cs : List Char) : (lines cs).filterMap read = (pieces '\n' cs).filterMap read := by
  have hreturn : read ∘ dropReturn = read := funext fun cs => hread _ _ (trim_dropReturn cs)
  obtain ⟨init, last, hpieces⟩ : ∃ init last, pieces '\n' cs = init ++ [last] :=
    ⟨_, _, (List.dropLast_concat_getLast (pieces_ne_nil '\n' cs)).symm⟩
  rw [lines, hpieces, List.dropLast_concat, List.getLast?_concat, List.filterMap_append,
    List.filterMap_append, List.filterMap_map, hreturn]
  -- A last piece that is empty is no line, and nothing is read from it anyway.
  by_cases hlast : last = []
  · simp [hlast, hnil]
  · simp [Option.filter_some, hlast]

end GpuQuota.Text
