import GpuQuota.Proofs.Run
import GpuQuota.Text.Numeral
import Mathlib.Data.List.Induction

/-!
# What a numeral is

The grammar of numerals with the value of each, told without reading them. Digits are added at the
end, as the value grows with each of them; reading goes the other way, from the left, and stops as
soon as the value passes a bound. Since every digit makes the value larger, what is refused on the
way is what would be too large at the end.

The module introduces:

* `Text.IsDigit`, `Text.Digits`, `Text.Numeral` — the grammar of digits, runs of them and numerals.
* `Text.natural_eq_ok_iff` — what is read are the numerals within the bound, with their value.
* `Text.Numeral.natural_eq` — a numeral is read as its value, or refused as too large.
* `Text.digits_toDigits`, `Text.Digits.map_toUpper` — printed numbers are runs of digits.
-/

namespace GpuQuota.Text

/-- The character is the digit of a base with a value. From ten on digits are letters, of either
case. -/
def IsDigit (base : Nat) (c : Char) (d : Nat) : Prop :=
  d < base ∧ (c = d.digitChar ∨ c = d.digitChar.toUpper)

/-- A run of digits, at least one, with its value. -/
inductive Digits (base : Nat) : List Char → Nat → Prop
  /-- One digit. -/
  | single {c : Char} {d : Nat} (hd : IsDigit base c d) : Digits base [c] d
  /-- One more digit at the end. -/
  | append {cs : List Char} {n : Nat} {c : Char} {d : Nat} (h : Digits base cs n)
      (hd : IsDigit base c d) : Digits base (cs ++ [c]) (n * base + d)

/-- A numeral with its value: digits, with or without a plus sign in front of them. -/
inductive Numeral (base : Nat) : List Char → Nat → Prop
  | bare {cs : List Char} {n : Nat} (h : Digits base cs n) : Numeral base cs n
  | plus {cs : List Char} {n : Nat} (h : Digits base cs n) : Numeral base ('+' :: cs) n

variable {base bound acc n d : Nat} {c : Char} {cs ds : List Char}

/-! ## One digit -/

/-- A digit of a base is one of base sixteen that is small enough. -/
theorem digit?_eq_some_iff_of_le (hbase : base ≤ 16) :
    digit? base c = some d ↔ d < base ∧ digit? 16 c = some d := by
  simp only [digit?]
  -- The value of a character depends on the base only where it is no digit of any base.
  split
  · grind
  split
  · grind
  split
  · grind
  · simp

/-- The digits that are read are those of the grammar. -/
theorem digit?_eq_some_iff (hbase : base ≤ 16) : digit? base c = some d ↔ IsDigit base c d := by
  rw [digit?_eq_some_iff_of_le hbase, IsDigit]
  refine and_congr_right fun hd => ⟨fun h => ?_, ?_⟩
  · -- Where the letters stand among the characters, ten places after their values.
    have hlower : ∀ d < 16, 10 ≤ d → d.digitChar.toNat = d + 87 := by decide
    have hupper : ∀ d < 16, 10 ≤ d → d.digitChar.toUpper.toNat = d + 55 := by decide
    simp only [digit?, Char.le_def, UInt32.le_iff_toNat_le, Char.toNat_val] at h
    split at h
    next hc =>
      have hfigure := Nat.toNat_digitChar_of_lt_ten (n := d)
      simp only [Char.reduceToNat, Option.ite_none_right_eq_some, Option.some.injEq] at h hc
      exact .inl (Char.toNat_inj.1 (by omega))
    split at h
    next hc =>
      simp only [Char.reduceToNat, Option.ite_none_right_eq_some, Option.some.injEq] at h hc
      exact .inl (Char.toNat_inj.1 (by rw [hlower d] <;> omega))
    split at h
    next hc =>
      simp only [Char.reduceToNat, Option.ite_none_right_eq_some, Option.some.injEq] at h hc
      exact .inr (Char.toNat_inj.1 (by rw [hupper d] <;> omega))
    next => simp at h
  · have hread : ∀ d < 16, digit? 16 d.digitChar = some d ∧
        digit? 16 d.digitChar.toUpper = some d := by
      decide
    rintro (rfl | rfl)
    · exact (hread d (by omega)).1
    · exact (hread d (by omega)).2

/-- Printed digits are digits. -/
theorem isDigit_digitChar (hd : d < base) : IsDigit base d.digitChar d := ⟨hd, .inl rfl⟩

/-- A digit stays the same in capitals. -/
theorem IsDigit.toUpper (hbase : base ≤ 16) (h : IsDigit base c d) : IsDigit base c.toUpper d := by
  obtain ⟨hd, rfl | rfl⟩ := h
  · exact ⟨hd, .inr rfl⟩
  · have hfix : ∀ d < 16, d.digitChar.toUpper.toUpper = d.digitChar.toUpper := by decide
    exact ⟨hd, .inr (hfix d (by omega))⟩

/-! ## Runs of digits -/

/-- What is read after a run of digits goes on from its value. -/
theorem digitsFrom_append (acc : Nat) (cs ds : List Char) :
    digitsFrom base bound acc (cs ++ ds) =
      (digitsFrom base bound acc cs >>= fun n => digitsFrom base bound n ds) := by
  -- The induction is on the digits that are read first, with any value before them.
  induction cs generalizing acc with
  | nil => rfl
  | cons c cs ih =>
    rw [List.cons_append, digitsFrom, digitsFrom]
    split
    · rfl
    · split
      · exact ih _
      · rfl

/-- One digit more, on top of the value so far. -/
theorem digitsFrom_singleton (hbase : base ≤ 16) (hd : IsDigit base c d) (acc : Nat) :
    digitsFrom base bound acc [c] =
      if acc * base + d ≤ bound then .ok (acc * base + d) else .error .overflow := by
  simp [digitsFrom, (digit?_eq_some_iff hbase).2 hd]

/-- A run of digits is read as its value if that is within the bound, and else is too large. -/
theorem Digits.digitsFrom_eq (hbase : base ≤ 16) (h : Digits base cs n) :
    digitsFrom base bound 0 cs = if n ≤ bound then .ok n else .error .overflow := by
  induction h with
  | single hd => simpa using digitsFrom_singleton hbase hd 0
  | @append cs n c d _ hd ih =>
    rw [digitsFrom_append, ih]
    split
    · exact digitsFrom_singleton hbase hd n
    · -- A value that is too large already does not get smaller by another digit.
      have hgrow : n ≤ n * base + d := by
        have := Nat.le_mul_of_pos_right n (Nat.zero_lt_of_lt hd.1)
        omega
      rw [if_neg (by omega)]
      rfl

/-- Whatever is read is a run of digits. -/
theorem digits_of_digitsFrom (hbase : base ≤ 16) (hne : cs ≠ [])
    (h : digitsFrom base bound 0 cs = .ok n) : Digits base cs n := by
  -- Digits are read from the left, so the induction takes off the last one.
  induction cs using List.reverseRecOn generalizing n with
  | nil => exact absurd rfl hne
  | append_singleton cs c ih =>
    rw [digitsFrom_append] at h
    obtain ⟨m, hm, h⟩ := Run.bind_eq_ok.1 h
    cases hc : digit? base c with
    | none => simp [digitsFrom, hc] at h
    | some d =>
      have hd := (digit?_eq_some_iff hbase).1 hc
      rw [digitsFrom_singleton hbase hd] at h
      split at h
      · cases h
        rcases eq_or_ne cs [] with rfl | hcs
        · cases hm
          simpa using Digits.single hd
        · exact .append (ih hcs hm) hd
      · cases h

theorem Digits.ne_nil (h : Digits base cs n) : cs ≠ [] := by
  cases h <;> simp

/-- A run of digits begins with a digit. -/
theorem Digits.head (h : Digits base cs n) : ∃ c d, cs.head? = some c ∧ IsDigit base c d := by
  induction h with
  | single hd => exact ⟨_, _, rfl, hd⟩
  | append _ _ ih =>
    obtain ⟨c, d, hc, hd⟩ := ih
    exact ⟨c, d, by simp [hc], hd⟩

/-- A run of digits ends with a digit. -/
theorem Digits.getLast (h : Digits base cs n) : ∃ c d, cs.getLast? = some c ∧ IsDigit base c d := by
  cases h with
  | single hd => exact ⟨_, _, rfl, hd⟩
  | append _ hd => exact ⟨_, _, by simp, hd⟩

/-- A printed number is a run of digits with its value. -/
theorem digits_toDigits (hbase : 1 < base) (n : Nat) : Digits base (Nat.toDigits base n) n := by
  -- The last digit is the remainder, and the digits before it are those of the quotient.
  induction n using Nat.strongRecOn with
  | _ n ih =>
    rcases Nat.lt_or_ge n base with hn | hn
    · rw [Nat.toDigits_of_lt_base hn]
      exact .single (isDigit_digitChar hn)
    · rw [Nat.toDigits_of_base_le hbase hn]
      have hmod := Nat.mod_lt n (Nat.zero_lt_of_lt hbase)
      have hfront := ih (n / base) (Nat.div_lt_self (by omega) hbase)
      have hlast := hfront.append (isDigit_digitChar hmod)
      rwa [Nat.div_add_mod'] at hlast

/-- A run of digits stays the same in capitals. -/
theorem Digits.map_toUpper (hbase : base ≤ 16) (h : Digits base cs n) :
    Digits base (cs.map Char.toUpper) n := by
  induction h with
  | single hd => exact .single (hd.toUpper hbase)
  | append _ hd ih =>
    rw [List.map_append]
    exact .append ih (hd.toUpper hbase)

/-! ## Numerals -/

/-- A character that is no digit of base sixteen is none of a smaller base. -/
theorem IsDigit.ne (hbase : base ≤ 16) (h : IsDigit base c d) {c' : Char}
    (hc' : digit? 16 c' = none) : c ≠ c' := by
  rintro rfl
  have hread := ((digit?_eq_some_iff_of_le hbase).1 ((digit?_eq_some_iff hbase).2 h)).2
  rw [hc'] at hread
  cases hread

theorem Digits.dropPlus_eq (hbase : base ≤ 16) (h : Digits base cs n) : dropPlus cs = cs := by
  obtain ⟨c, d, hc, hd⟩ := h.head
  unfold dropPlus
  split
  · cases hc
    exact absurd rfl (hd.ne hbase (by decide))
  · rfl

/-- A numeral is read as its value if that is within the bound, and else is too large. -/
theorem Numeral.natural_eq (hbase : base ≤ 16) (h : Numeral base cs n) :
    natural base bound cs = if n ≤ bound then .ok n else .error .overflow := by
  cases h with
  | bare h => rw [natural, h.dropPlus_eq hbase, digits, if_neg h.ne_nil, h.digitsFrom_eq hbase]
  | plus h => rw [natural, dropPlus, digits, if_neg h.ne_nil, h.digitsFrom_eq hbase]

/-- Whatever is read is a numeral. -/
theorem numeral_of_natural (hbase : base ≤ 16) (h : natural base bound cs = .ok n) :
    Numeral base cs n := by
  rw [natural, digits] at h
  split at h
  · cases h
  next hne =>
    have hdigits := digits_of_digitsFrom hbase hne h
    unfold dropPlus at hdigits
    split at hdigits
    · exact .plus hdigits
    · exact .bare hdigits

/-- What is read are the numerals within the bound, each with its value. -/
theorem natural_eq_ok_iff (hbase : base ≤ 16) :
    natural base bound cs = .ok n ↔ Numeral base cs n ∧ n ≤ bound := by
  constructor
  · intro h
    exact ⟨numeral_of_natural hbase h, natural_le h⟩
  · rintro ⟨h, hn⟩
    rw [h.natural_eq hbase, if_pos hn]

/-- A numeral begins with a plus sign or a digit. -/
theorem Numeral.head (h : Numeral base cs n) :
    ∃ c, cs.head? = some c ∧ (c = '+' ∨ ∃ d, IsDigit base c d) := by
  cases h with
  | bare h =>
    obtain ⟨c, d, hc, hd⟩ := h.head
    exact ⟨c, hc, .inr ⟨d, hd⟩⟩
  | plus h => exact ⟨'+', rfl, .inl rfl⟩

/-- A numeral ends with a digit. -/
theorem Numeral.getLast (h : Numeral base cs n) :
    ∃ c d, cs.getLast? = some c ∧ IsDigit base c d := by
  cases h with
  | bare h => exact h.getLast
  | plus h =>
    obtain ⟨c, d, hc, hd⟩ := h.getLast
    exact ⟨c, d, by simp [List.getLast?_cons, hc], hd⟩

end GpuQuota.Text
