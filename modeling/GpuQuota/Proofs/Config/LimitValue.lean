import GpuQuota.Limit
import GpuQuota.Proofs.Text.Numeral
import Mathlib.Algebra.Group.Nat.Defs
import Mathlib.Data.List.Basic

/-!
# What a limit value is

The grammar of limit values with the value of each. How a numeral starts tells its base: `0x` is
followed by hexadecimal digits, any other leading zero by octal ones. A plus sign may stand in front
of the digits in every base, so `0x+10` and `0+7` are numerals, and `+010` is a decimal one. No
suffix is a digit of any base, so that a text can be taken apart in one way only.

The module introduces:

* `Limit.Unscaled`, `Limit.Suffix`, `Limit.Denotes` — the grammar of limit values.
* `Limit.radix` — the base that the start of a numeral tells.
* `Limit.Denotes.parse_eq`, `Limit.denotes_of_parse` — reading follows the grammar.
* `Limit.parse_exact` — what is accepted, with which value, and what is refused as too large.
-/

namespace GpuQuota.Limit

/-- A numeral without suffix, with its value. -/
inductive Unscaled : List Char → Nat → Prop
  | hexLower {cs : List Char} {n : Nat} (h : Text.Numeral 16 cs n) : Unscaled ('0' :: 'x' :: cs) n
  | hexUpper {cs : List Char} {n : Nat} (h : Text.Numeral 16 cs n) : Unscaled ('0' :: 'X' :: cs) n
  | octal {cs : List Char} {n : Nat} (h : Text.Numeral 8 cs n) : Unscaled ('0' :: cs) n
  /-- A decimal numeral is a lone zero or starts with something else. -/
  | decimal {cs : List Char} {n : Nat} (h : Text.Numeral 10 cs n)
      (hzero : cs = ['0'] ∨ cs.head? ≠ some '0') : Unscaled cs n

/-- A suffix with its scale. -/
inductive Suffix : Char → Nat → Prop
  | kilo {c : Char} (h : c = 'k' ∨ c = 'K') : Suffix c (2 ^ 10)
  | mega {c : Char} (h : c = 'm' ∨ c = 'M') : Suffix c (2 ^ 20)
  | giga {c : Char} (h : c = 'g' ∨ c = 'G') : Suffix c (2 ^ 30)

/-- A limit value with the number that it stands for, which may be too large for a word. -/
inductive Denotes : List Char → Nat → Prop
  | bare {cs : List Char} {n : Nat} (h : Unscaled cs n) : Denotes cs n
  | scaled {cs : List Char} {n : Nat} {c : Char} {scale : Nat} (h : Unscaled cs n)
      (hc : Suffix c scale) : Denotes (cs ++ [c]) (n * scale)

variable {c : Char} {cs : List Char} {n scale : Nat} {text : String} {v : UInt64}

/-! ## The base -/

/-- The base that the start of a numeral tells, and the numeral in that base. -/
def radix : List Char → Nat × List Char
  | '0' :: 'x' :: cs => (16, cs)
  | '0' :: 'X' :: cs => (16, cs)
  | '0' :: c :: cs => (8, c :: cs)
  | cs => (10, cs)

theorem radix_le (cs : List Char) : (radix cs).1 ≤ 16 := by
  unfold radix
  split <;> simp

/-- A numeral is read in the base that its start tells. -/
theorem numeral_eq (cs : List Char) :
    numeral cs = Text.natural (radix cs).1 wordMax (radix cs).2 := by
  unfold numeral
  split <;> simp [radix, *]

/-- A sign or an octal digit is not the letter of base sixteen. -/
theorem radix_octal (h : Text.Numeral 8 cs n) : radix ('0' :: cs) = (8, cs) := by
  obtain ⟨c, hc, hstart⟩ := h.head
  obtain ⟨cs, rfl⟩ := List.head?_eq_some_iff.1 hc
  -- The digit after the zero is no letter, so the prefix is not that of a hexadecimal number.
  have hletter : ∀ c', Text.digit? 16 c' = none → c' ≠ '+' → c ≠ c' := by
    rintro c' hc' hplus rfl
    rcases hstart with hsign | ⟨d, hd⟩
    · exact hplus hsign
    · exact hd.ne (by decide) hc' rfl
  have hx : c ≠ 'x' := hletter 'x' (by decide) (by decide)
  have hX : c ≠ 'X' := hletter 'X' (by decide) (by decide)
  rw [radix]
  · exact hx
  · exact hX

/-- A numeral is one in the base that its start tells. -/
theorem unscaled_iff : Unscaled cs n ↔ Text.Numeral (radix cs).1 (radix cs).2 n := by
  constructor
  · intro h
    cases h with
    | hexLower h => exact h
    | hexUpper h => exact h
    | octal h => rwa [radix_octal h]
    | decimal h hzero =>
      rcases hzero with rfl | hzero
      · exact h
      · unfold radix
        split <;> simp_all
  · intro h
    unfold radix at h
    split at h
    · exact .hexLower h
    · exact .hexUpper h
    · exact .octal h
    next _ _ hzero =>
      -- Nothing follows the zero that a decimal numeral starts with.
      refine .decimal h ?_
      rcases cs with _ | ⟨c, _ | ⟨c', cs⟩⟩
      · simp
      · simp [or_iff_not_imp_left]
      · refine .inr fun hc => ?_
        obtain rfl := Option.some.inj hc
        exact hzero _ _ rfl

/-! ## The suffix -/

/-- The scales are those of the suffixes. -/
theorem scale?_eq_some_iff : scale? c = some scale ↔ Suffix c scale := by
  constructor
  · intro h
    -- The three suffixes are tried one after the other, each in both cases of the letter.
    unfold scale? at h
    split at h
    next hc => exact Option.some.inj h ▸ .kilo hc
    split at h
    next hc => exact Option.some.inj h ▸ .mega hc
    split at h
    next hc => exact Option.some.inj h ▸ .giga hc
    next => cases h
  · intro h
    cases h with
    | kilo h => rcases h with rfl | rfl <;> rfl
    | mega h => rcases h with rfl | rfl <;> rfl
    | giga h => rcases h with rfl | rfl <;> rfl

/-- No suffix is a digit. -/
theorem Suffix.digit?_eq_none (h : Suffix c scale) : Text.digit? 16 c = none := by
  cases h with
  | kilo h => rcases h with rfl | rfl <;> rfl
  | mega h => rcases h with rfl | rfl <;> rfl
  | giga h => rcases h with rfl | rfl <;> rfl

theorem Suffix.scale_pos (h : Suffix c scale) : 0 < scale := by
  cases h <;> decide

/-- At the end of a numeral there is one in some base. -/
theorem Unscaled.exists_numeral (h : Unscaled cs n) :
    ∃ base ≤ 16, ∃ mark ds, cs = mark ++ ds ∧ Text.Numeral base ds n := by
  cases h with
  | @hexLower ds _ h => exact ⟨16, Nat.le_refl 16, ['0', 'x'], ds, rfl, h⟩
  | @hexUpper ds _ h => exact ⟨16, Nat.le_refl 16, ['0', 'X'], ds, rfl, h⟩
  | @octal ds _ h => exact ⟨8, by decide, ['0'], ds, rfl, h⟩
  | decimal h _ => exact ⟨10, by decide, [], cs, rfl, h⟩

/-- From a numeral no suffix is split off, since it ends with a digit. -/
theorem Unscaled.split_eq (h : Unscaled cs n) : split cs = (cs, 1) := by
  obtain ⟨base, hbase, mark, ds, rfl, hds⟩ := h.exists_numeral
  obtain ⟨c, d, hc, hd⟩ := hds.getLast
  have hscale : scale? c = none := by
    refine Option.eq_none_iff_forall_ne_some.2 fun scale hscale => ?_
    exact hd.ne hbase (scale?_eq_some_iff.1 hscale).digit?_eq_none rfl
  simp [split, hc, hscale]

theorem Suffix.split_concat (h : Suffix c scale) (cs : List Char) :
    split (cs ++ [c]) = (cs, scale) := by
  simp [split, scale?_eq_some_iff.2 h]

/-- A text without a suffix is left as it is, and any other ends with its suffix. -/
theorem split_cases (cs : List Char) :
    split cs = (cs, 1) ∨ ∃ ds c scale, cs = ds ++ [c] ∧ Suffix c scale := by
  unfold split
  split
  next scale h =>
    obtain ⟨c, hc, hscale⟩ := Option.bind_eq_some_iff.1 h
    obtain ⟨ds, rfl⟩ := List.getLast?_eq_some_iff.1 hc
    exact .inr ⟨ds, c, scale, rfl, scale?_eq_some_iff.1 hscale⟩
  next => exact .inl rfl

/-! ## The value -/

/-- A limit value is read as the number that it stands for if that fits into a word, and else is
too large. -/
theorem Denotes.parse_eq (h : Denotes (Text.trim text.toList) n) :
    parse text = if n ≤ wordMax then .ok (UInt64.ofNat n) else .error (.overflow text) := by
  -- Whichever part of the value is too large, the whole is.
  have hread {cs : List Char} {m scale : Nat} (h : Unscaled cs m) (hpos : 0 < scale)
      (hsplit : split (Text.trim text.toList) = (cs, scale)) :
      parse text = if m * scale ≤ wordMax then .ok (UInt64.ofNat (m * scale))
        else .error (.overflow text) := by
    have hle : m ≤ m * scale := Nat.le_mul_of_pos_right m hpos
    simp only [parse, hsplit, numeral_eq, (unscaled_iff.1 h).natural_eq (radix_le _)]
    by_cases hm : m ≤ wordMax
    · rw [if_pos hm]
    · rw [if_neg hm, if_neg (by omega)]
  generalize Text.trim text.toList = cs at *
  cases h with
  | bare h => simpa using hread h Nat.one_pos h.split_eq
  | scaled h hc => exact hread h hc.scale_pos (hc.split_concat _)

/-- A numeral in front of what is split off makes a limit value. -/
theorem denotes_of_split (h : Unscaled (split cs).1 n) : Denotes cs (n * (split cs).2) := by
  rcases split_cases cs with hsplit | ⟨ds, c, scale, rfl, hc⟩
  · rw [hsplit] at h ⊢
    simpa using Denotes.bare h
  · rw [hc.split_concat] at h ⊢
    exact .scaled h hc

/-- What is accepted is a limit value, and is read as the number that it stands for. -/
theorem denotes_of_parse (h : parse text = .ok v) : Denotes (Text.trim text.toList) v.toNat := by
  simp only [parse] at h
  generalize Text.trim text.toList = cs at *
  cases hnumeral : numeral (split cs).1 with
  | error e => cases e <;> simp [hnumeral] at h
  | ok n =>
    simp only [hnumeral] at h
    rw [numeral_eq, Text.natural_eq_ok_iff (radix_le _), ← unscaled_iff] at hnumeral
    -- What does not overflow is the product itself.
    split at h
    next hfit =>
      cases h
      have hword : n * (split cs).2 < 2 ^ 64 := by
        simp only [wordMax] at hfit
        omega
      rw [UInt64.toNat_ofNat', Nat.mod_eq_of_lt hword]
      exact denotes_of_split hnumeral.1
    next => cases h

/-- A refusal shows the text as it was written. -/
theorem eq_of_parse_error {e : LimitError} (h : parse text = .error e) :
    e = .invalid text ∨ e = .overflow text := by
  simp only [parse] at h
  split at h
  · split at h
    · cases h
    · exact .inr (Except.error.inj h).symm
  · exact .inr (Except.error.inj h).symm
  · exact .inl (Except.error.inj h).symm

/-! ## Printed numbers -/

/-- A digit is no blank. -/
theorem isBlank_of_isDigit {base d : Nat} (hbase : base ≤ 16) (h : Text.IsDigit base c d) :
    Text.isBlank c = false := by
  have hprinted : ∀ d < 16, Text.isBlank d.digitChar = false ∧
      Text.isBlank d.digitChar.toUpper = false := by
    decide
  obtain ⟨hd, rfl | rfl⟩ := h
  · exact (hprinted d (by omega)).1
  · exact (hprinted d (by omega)).2

/-- A printed number other than zero does not start with a zero. -/
theorem head?_toDigits_ne {base : Nat} (hbase : 1 < base) (hn : 0 < n) :
    (Nat.toDigits base n).head? ≠ some '0' := by
  induction n using Nat.strongRecOn with
  | _ n ih =>
    rcases Nat.lt_or_ge n base with hlt | hle
    · simp [Nat.toDigits_of_lt_base hlt]
      omega
    · rw [Nat.toDigits_of_base_le hbase hle, List.head?_append_of_ne_nil _ Nat.toDigits_ne_nil]
      exact ih (n / base) (Nat.div_lt_self hn hbase) (Nat.div_pos hle (by omega))

/-- A printed number is decimal if nothing is written in front of it. -/
theorem unscaled_toDigits (n : Nat) : Unscaled (Nat.toDigits 10 n) n := by
  refine .decimal (.bare (Text.digits_toDigits (by decide) n)) ?_
  rcases Nat.eq_zero_or_pos n with rfl | hn
  · exact .inl rfl
  · exact .inr (head?_toDigits_ne (by decide) hn)

/-- Digits with a mark of their base in front of them are read as the number that they stand for. -/
theorem parse_of_digits {base : Nat} (mark : String) {ds : List Char} (hbase : base ≤ 16)
    (hmark : ∀ c ∈ mark.toList, Text.isBlank c = false) (hds : Text.Digits base ds v.toNat)
    (h : Unscaled (mark.toList ++ ds) v.toNat) : parse (mark ++ String.ofList ds) = .ok v := by
  have htext : (mark ++ String.ofList ds).toList = mark.toList ++ ds := by simp
  -- The text begins with the mark, or with a digit if there is none, and ends with a digit.
  have hblank : Text.trim (mark.toList ++ ds) = mark.toList ++ ds := by
    refine Text.trim_eq_self (fun c hc => ?_) fun c hc => ?_
    · cases hmark_eq : mark.toList with
      | nil =>
        obtain ⟨c', d, hc', hd⟩ := hds.head
        rw [hmark_eq, List.nil_append, hc', Option.some.injEq] at hc
        exact hc ▸ isBlank_of_isDigit hbase hd
      | cons c' cs =>
        rw [hmark_eq, List.cons_append, List.head?_cons, Option.some.injEq] at hc
        exact hmark c (by simp [hmark_eq, hc])
    · obtain ⟨c', d, hc', hd⟩ := hds.getLast
      rw [List.getLast?_append, hc', Option.some_or, Option.some.injEq] at hc
      exact hc ▸ isBlank_of_isDigit hbase hd
  have hword := v.toNat_lt
  rw [Denotes.parse_eq (n := v.toNat) (by simpa [htext, hblank] using .bare h), UInt64.ofNat_toNat,
    if_pos (by simp only [wordMax]; omega)]

/-! ## Limit values -/

/-- What is accepted are the limit values that fit into a word, each as the number that it stands
for. Those that do not fit are refused as too large, and all else is refused as well. So every word
is read back, however it is printed. -/
theorem parse_exact :
    (∀ text : String,
      (∀ v, parse text = .ok v ↔ Denotes (Text.trim text.toList) v.toNat) ∧
      (∀ n, Denotes (Text.trim text.toList) n → 2 ^ 64 ≤ n →
        parse text = .error (.overflow text)) ∧
      ((∀ n, ¬ Denotes (Text.trim text.toList) n) →
        parse text = .error (.invalid text) ∨ parse text = .error (.overflow text))) ∧
    ∀ v : UInt64,
      parse (toString v) = .ok v ∧
      parse ("0x" ++ String.ofList (Nat.toDigits 16 v.toNat)) = .ok v ∧
      parse ("0x" ++ String.ofList ((Nat.toDigits 16 v.toNat).map Char.toUpper)) = .ok v ∧
      parse ("0" ++ String.ofList (Nat.toDigits 8 v.toNat)) = .ok v := by
  refine ⟨fun text => ⟨fun v => ⟨denotes_of_parse, fun h => ?_⟩, fun n h hn => ?_, fun h => ?_⟩,
    fun v => ⟨?_, ?_, ?_, ?_⟩⟩
  · -- A value that is denoted and fits into a word is what is parsed.
    have hword := v.toNat_lt
    rw [h.parse_eq, UInt64.ofNat_toNat, if_pos (by simp only [wordMax]; omega)]
  · rw [h.parse_eq, if_neg (by simp only [wordMax]; omega)]
  · cases hparse : parse text with
    | ok v => exact absurd (denotes_of_parse hparse) (h _)
    | error e =>
      rcases eq_of_parse_error hparse with rfl | rfl
      · exact .inl rfl
      · exact .inr rfl
  · -- The printed forms have digits, and the prefix tells the radix.
    have hds := Text.digits_toDigits (show 1 < 10 by decide) v.toNat
    have hread := parse_of_digits "" (by decide) (by simp [Text.isBlank]) hds (unscaled_toDigits _)
    rwa [String.empty_append, ← Nat.toString_eq_ofList_toDigits] at hread
  · have hds := Text.digits_toDigits (show 1 < 16 by decide) v.toNat
    exact parse_of_digits "0x" (by decide) (by simp [Text.isBlank]) hds (.hexLower (.bare hds))
  · have hds := (Text.digits_toDigits (show 1 < 16 by decide) v.toNat).map_toUpper (by decide)
    exact parse_of_digits "0x" (by decide) (by simp [Text.isBlank]) hds (.hexLower (.bare hds))
  · have hds := Text.digits_toDigits (show 1 < 8 by decide) v.toNat
    exact parse_of_digits "0" (by decide) (by simp [Text.isBlank]) hds (.octal (.bare hds))

/-- The first number of gibibytes that does not fit, and the last one that does. -/
theorem parse_exact_of_gibibytes :
    Denotes (Text.trim " 0x400000000g ".toList) (2 ^ 34 * 2 ^ 30) ∧
      parse " 0x400000000g " = .error (.overflow " 0x400000000g ") ∧
      parse "0x+3ffffffffG\n" = .ok (UInt64.ofNat (2 ^ 64 - 2 ^ 30)) ∧
      Denotes (Text.trim "0x+3ffffffffG\n".toList) (2 ^ 64 - 2 ^ 30) := by
  -- Written in hexadecimal, the value is as many gibibytes as do not fit into a word.
  have hlarge : Denotes (Text.trim " 0x400000000g ".toList) (2 ^ 34 * 2 ^ 30) := by
    have hds : Text.Digits 16 (Nat.toDigits 16 (2 ^ 34)) (2 ^ 34) :=
      Text.digits_toDigits (by decide) _
    exact .scaled (.hexLower (.bare hds)) (.giga (.inl rfl))
  have hread : parse "0x+3ffffffffG\n" = .ok (UInt64.ofNat (2 ^ 64 - 2 ^ 30)) := by
    decide +kernel
  exact ⟨hlarge, (parse_exact.1 _).2.1 _ hlarge (by decide), hread,
    ((parse_exact.1 _).1 _).1 hread⟩

end GpuQuota.Limit
