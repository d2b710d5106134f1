/-!
# Blanks, words and lines

Text is taken apart on `List Char`. A blank is a character with the Unicode property
`White_Space`; a line ends at a line feed, with one carriage return before it.

The module introduces:

* `isBlank`, `trim`, `words` — blanks around and between words.
* `pieces`, `lines`, `splitAtFirst` — texts cut at a separator.

The parts around the first separator make up the text (`eq_append_of_splitAtFirst`), and a text
without blanks at its ends is its own trimmed form (`trim_eq_self`).
-/

namespace GpuQuota.Text

/-- The character has the Unicode property `White_Space`. -/
def isBlank (c : Char) : Bool :=
  let n := c.toNat
  (9 ≤ n && n ≤ 13) || n == 0x20 || n == 0x85 || n == 0xA0 || n == 0x1680 ||
    (0x2000 ≤ n && n ≤ 0x200A) || n == 0x2028 || n == 0x2029 || n == 0x202F ||
    n == 0x205F || n == 0x3000

/-- The text without the blanks at its start. -/
def trimStart (cs : List Char) : List Char := cs.dropWhile isBlank

/-- The text without the blanks at its end. -/
def trimEnd (cs : List Char) : List Char := (cs.reverse.dropWhile isBlank).reverse

/-- The text without the blanks at its two ends. -/
def trim (cs : List Char) : List Char := trimEnd (trimStart cs)

/-- The pieces of a text between separators, at least one. -/
def pieces (sep : Char) : List Char → List (List Char)
  | [] => [[]]
  | c :: cs =>
    if c = sep then [] :: pieces sep cs
    else
      match pieces sep cs with
      | [] => [[c]]
      | p :: ps => (c :: p) :: ps

theorem pieces_ne_nil (sep : Char) (cs : List Char) : pieces sep cs ≠ [] := by
  cases cs with
  | nil => simp [pieces]
  | cons c cs =>
    simp only [pieces]
    split
    · simp
    · split <;> simp

/-- The words of a text: its longest parts without a blank. -/
def words (cs : List Char) : List (List Char) :=
  (pieces ' ' (cs.map fun c => if isBlank c then ' ' else c)).filter (· ≠ [])

/-- The line without one carriage return at its end. -/
def dropReturn (cs : List Char) : List Char :=
  if cs.getLast? = some '\r' then cs.dropLast else cs

/-- The lines of a text. A line feed ends a line, with one carriage return before it; what
follows the last line feed is a line if it is not empty. -/
def lines (cs : List Char) : List (List Char) :=
  let ps := pieces '\n' cs
  ps.dropLast.map dropReturn ++ (ps.getLast?.filter (· ≠ [])).toList

/-- The parts before and after the first separator, or nothing without one. -/
def splitAtFirst (sep : Char) (cs : List Char) : Option (List Char × List Char) :=
  match cs.dropWhile (· ≠ sep) with
  | [] => none
  | _ :: rest => some (cs.takeWhile (· ≠ sep), rest)

/-- The two parts around the separator make up the text. -/
theorem eq_append_of_splitAtFirst {sep : Char} {cs k v : List Char}
    (h : splitAtFirst sep cs = some (k, v)) : cs = k ++ sep :: v ∧ sep ∉ k := by
  induction cs generalizing k with
  | nil => simp [splitAtFirst] at h
  | cons c cs ih =>
    by_cases hc : c = sep
    · subst hc
      simp [splitAtFirst] at h
      obtain ⟨rfl, rfl⟩ := h
      simp
    · have hd : List.dropWhile (· ≠ sep) (c :: cs) = List.dropWhile (· ≠ sep) cs := by
        rw [List.dropWhile_cons]; simp [hc]
      have ht : List.takeWhile (· ≠ sep) (c :: cs) = c :: List.takeWhile (· ≠ sep) cs := by
        rw [List.takeWhile_cons]; simp [hc]
      have hk : ∃ k', splitAtFirst sep cs = some (k', v) ∧ k = c :: k' := by
        rw [splitAtFirst, hd, ht] at h
        rw [splitAtFirst]
        split at h
        · simp at h
        · simp only [Option.some.injEq, Prod.mk.injEq] at h
          obtain ⟨rfl, rfl⟩ := h
          exact ⟨_, rfl, rfl⟩
      obtain ⟨k', hk', rfl⟩ := hk
      obtain ⟨h₁, h₂⟩ := ih hk'
      refine ⟨by simp [h₁], ?_⟩
      simp only [List.mem_cons, not_or]
      exact ⟨fun e => hc e.symm, h₂⟩

/-- Without blanks at its ends a text is its own trimmed form. -/
theorem trim_eq_self {cs : List Char} (h₁ : ∀ c, cs.head? = some c → isBlank c = false)
    (h₂ : ∀ c, cs.getLast? = some c → isBlank c = false) : trim cs = cs := by
  have hs : trimStart cs = cs := by
    cases cs with
    | nil => rfl
    | cons c cs => simp [trimStart, h₁ c rfl]
  rw [trim, hs, trimEnd]
  cases hr : cs.reverse with
  | nil => simp_all
  | cons c l =>
    have hc := h₂ c (by rw [List.getLast?_eq_head?_reverse, hr]; rfl)
    rw [List.dropWhile_cons, hc]
    simp [← hr]

end GpuQuota.Text
