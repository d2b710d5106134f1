import GpuQuota.Throttle.Tokens
import Mathlib.Algebra.BigOperators.Group.List.Basic
import Mathlib.Algebra.Ring.Int.Defs
import Mathlib.Data.List.Induction

/-!
# What a bucket lets in

A launch is let in while the balance is not negative, whatever it costs, and sums stop at the ends
of the range. Capacities move up and down meanwhile, credits are cut off at them, and may take away
instead of give. None of that creates tokens: the balance is never more than what was credited less
what was let in. So all that was let in before the last launch has been paid for.

The module introduces:

* `TokenCall` — a call on a bucket; `TokenCall.after` is what calls lead to.
* `TokenCall.admitted`, `TokenCall.credited` — what was let in, and what was credited.
* `Tokens.Covered` — the balance is covered by the credits; `Tokens.Covered.run` — calls keep it so.
* `TokenCall.sum_dropLast_admitted_le` — what was let in before the last launch is paid for.
* `Tokens.never_overadmits` — the bucket after any calls.
-/

namespace GpuQuota

/-- A call on a bucket. -/
inductive TokenCall
  /-- The capacity is set. -/
  | setTotal (total : Int)
  /-- The capacity is doubled. -/
  | doubleTotal
  /-- The bucket is credited; a negative amount takes away. -/
  | change (amount : Int)
  /-- A launch asks to be let in. -/
  | debit (amount : Int)
  deriving DecidableEq

namespace TokenCall

/-- The bucket after a call. A launch that is refused pays nothing. -/
def run : TokenCall → Tokens → Tokens
  | .setTotal total, t => t.setTotal total
  | .doubleTotal, t => t.doubleTotal
  | .change amount, t => t.change amount
  | .debit amount, t => (t.debit? amount).getD t

/-- What a launch pays, if it is one that is let in. -/
def admitted? : TokenCall → Tokens → Option Int
  | .debit amount, t => (t.debit? amount).map fun _ => amount
  | _, _ => none

/-- What a call gives to the bucket. -/
def credit : TokenCall → Int
  | .change amount => max amount 0
  | _ => 0

/-- A launch costs a signed word that is not negative. -/
def IsValid : TokenCall → Prop
  | .debit amount => 0 ≤ amount ∧ amount ≤ signedMax
  | _ => True

instance : DecidablePred IsValid
  | .debit amount => inferInstanceAs (Decidable (0 ≤ amount ∧ amount ≤ signedMax))
  | .setTotal _ | .doubleTotal | .change _ => isTrue trivial

/-- What calls lead to. -/
def after (t : Tokens) (calls : List TokenCall) : Tokens :=
  calls.foldl (fun t call => call.run t) t

/-- What was let in, one launch after the other. -/
def admitted (t : Tokens) : List TokenCall → List Int
  | [] => []
  | call :: calls => (call.admitted? t).toList ++ admitted (call.run t) calls

/-- What was credited. -/
def credited (calls : List TokenCall) : Int := (calls.map credit).sum

variable {t : Tokens} {call : TokenCall} {calls : List TokenCall} {amount : Int}

@[simp] theorem after_concat (t : Tokens) (calls : List TokenCall) (call : TokenCall) :
    after t (calls ++ [call]) = call.run (after t calls) := by
  rw [after, List.foldl_concat, after]

@[simp] theorem admitted_concat (t : Tokens) (calls : List TokenCall) (call : TokenCall) :
    admitted t (calls ++ [call]) = admitted t calls ++ (call.admitted? (after t calls)).toList := by
  induction calls generalizing t with
  | nil => simp [admitted, after]
  | cons first calls ih =>
    rw [List.cons_append, admitted, ih, admitted, List.append_assoc]
    rfl

@[simp] theorem credited_concat (calls : List TokenCall) (call : TokenCall) :
    credited (calls ++ [call]) = credited calls + call.credit := by
  simp [credited]

theorem credit_nonneg (call : TokenCall) : 0 ≤ call.credit := by
  cases call with
  | change amount => exact Int.le_max_right amount 0
  | _ => exact Int.le_refl 0

theorem after_append (t : Tokens) (calls calls' : List TokenCall) :
    after t (calls ++ calls') = after (after t calls) calls' :=
  List.foldl_append

/-! ## One call -/

theorem debit?_of_neg (h : t.current < 0) (amount : Int) : t.debit? amount = none :=
  (t.debit?_eq_none_iff amount).2 h

/-- A launch that is let in pays the whole amount: the balance is so far from the end of the range
that nothing is cut off. -/
theorem debit?_of_nonneg (h : 0 ≤ t.current) (hamount : 0 ≤ amount ∧ amount ≤ signedMax)
    (hmax : t.current ≤ signedMax) :
    t.debit? amount = some { t with current := t.current - amount } := by
  have hexact : saturate (t.current - amount) = t.current - amount := by
    refine saturate_eq_self ?_ (by omega)
    simp only [signedMin, signedMax] at hamount ⊢
    omega
  rw [Tokens.debit?, if_neg (Int.not_lt.2 h), hexact]

/-- Only a launch that finds no negative balance is let in. -/
theorem current_nonneg_of_admitted? (h : call.admitted? t = some amount) : 0 ≤ t.current := by
  cases call with
  | debit cost =>
    refine Int.not_lt.1 fun hneg => ?_
    rw [admitted?, debit?_of_neg hneg, Option.map_none] at h
    cases h
  | _ => cases h

end TokenCall

/-- The balance is a signed word, the capacity is not negative, and what was let in together with
the balance does not exceed what was credited. -/
structure Tokens.Covered (t : Tokens) (admitted : List Int) (credited : Int) : Prop where
  current_ge : signedMin ≤ t.current
  current_le : t.current ≤ signedMax
  total_nonneg : 0 ≤ t.total
  sum_le : admitted.sum + t.current ≤ credited

open TokenCall in
/-- A call creates no tokens. -/
theorem Tokens.Covered.run {t : Tokens} {admitted : List Int} {credited : Int}
    (h : t.Covered admitted credited) {call : TokenCall} (hvalid : call.IsValid) :
    (call.run t).Covered (admitted ++ (call.admitted? t).toList) (credited + call.credit) := by
  obtain ⟨hge, hle, htotal, hsum⟩ := h
  cases call with
  | setTotal total =>
    refine ⟨hge, hle, Int.le_max_right total 0, ?_⟩
    simpa [TokenCall.run, setTotal, admitted?, credit] using hsum
  | doubleTotal =>
    refine ⟨hge, hle, saturate_nonneg (by omega), ?_⟩
    simpa [TokenCall.run, doubleTotal, admitted?, credit] using hsum
  | change amount =>
    -- Whatever is cut off at the capacity, or at the upper end of the range, is lost. At the lower
    -- end the balance was there already, so nothing is won.
    have hlow : saturate (t.current + amount) ≤ t.current + max amount 0 := by
      simp only [saturate]
      omega
    have hword := signedMin_le_saturate (t.current + amount)
    have hneg : signedMin ≤ 0 := by decide
    refine ⟨?_, ?_, htotal, ?_⟩
    · simp only [TokenCall.run, Tokens.change]
      omega
    · have hmax := saturate_le_signedMax (t.current + amount)
      simp only [TokenCall.run, Tokens.change]
      omega
    · simp only [TokenCall.run, Tokens.change, admitted?, credit, Option.toList_none,
        List.append_nil]
      omega
  | debit amount =>
    rcases Int.lt_or_le t.current 0 with hneg | hnonneg
    · simp only [TokenCall.run, admitted?, debit?_of_neg hneg, credit]
      exact ⟨hge, hle, htotal, by simpa using hsum⟩
    · simp only [TokenCall.run, admitted?, debit?_of_nonneg hnonneg hvalid hle, credit]
      obtain ⟨hamount, hmax⟩ := hvalid
      simp only [signedMin, signedMax] at hge hle hmax
      refine ⟨?_, ?_, htotal, ?_⟩
      · simp only [signedMin, Option.getD_some]
        omega
      · simp only [signedMax, Option.getD_some]
        omega
      · simp only [Option.map_some, Option.toList_some, List.sum_append, List.sum_singleton,
          Option.getD_some]
        omega

namespace TokenCall

variable {calls : List TokenCall}

/-! ## Any calls -/

/-- The balance is never more than what was credited less what was let in. -/
theorem covered_after (hvalid : ∀ call ∈ calls, call.IsValid) :
    (after {} calls).Covered (admitted {} calls) (credited calls) := by
  induction calls using List.reverseRecOn with
  | nil => exact ⟨by decide, by decide, by decide, by decide⟩
  | append_singleton calls call ih =>
    have hbefore := ih fun c hc => hvalid c (List.mem_append_left _ hc)
    rw [after_concat, admitted_concat, credited_concat]
    exact hbefore.run (hvalid call (List.mem_append_right _ List.mem_cons_self))

/-- What was let in before the last launch is paid for: the balance was not negative when the last
launch was let in. -/
theorem sum_dropLast_admitted_le (hvalid : ∀ call ∈ calls, call.IsValid) :
    (admitted {} calls).dropLast.sum ≤ credited calls := by
  -- The induction takes the last call off; before the last grant all was covered by the credit.
  induction calls using List.reverseRecOn with
  | nil => decide
  | append_singleton calls call ih =>
    have hvalid' : ∀ c ∈ calls, c.IsValid := fun c hc => hvalid c (List.mem_append_left _ hc)
    have hcredit := call.credit_nonneg
    rw [admitted_concat, credited_concat]
    cases hadmitted : call.admitted? (after {} calls) with
    | none =>
      have hbefore := ih hvalid'
      rw [Option.toList_none, List.append_nil]
      omega
    | some amount =>
      have hnonneg := current_nonneg_of_admitted? hadmitted
      have hcovered := (covered_after hvalid').sum_le
      rw [Option.toList_some, List.dropLast_concat]
      omega

end TokenCall

namespace Tokens

open TokenCall

/-- After any calls on a new bucket, what was let in before the last launch does not exceed what was
credited. The next launch is refused exactly if the balance is negative, and then changes nothing;
the next credit leaves a balance within the capacity. -/
theorem never_overadmits (calls : List TokenCall) (hvalid : ∀ call ∈ calls, call.IsValid) :
    let t := after {} calls
    (admitted {} calls).dropLast.sum ≤ credited calls ∧
    (∀ amount, (t.debit? amount = none ↔ t.current < 0) ∧
      (t.debit? amount = none → (TokenCall.debit amount).run t = t)) ∧
    ∀ amount, (t.change amount).current ≤ (t.change amount).total := by
  refine ⟨sum_dropLast_admitted_le hvalid, fun amount => ⟨?_, fun hrefused => ?_⟩, fun amount => ?_⟩
  · exact debit?_eq_none_iff _ amount
  · rw [TokenCall.run, hrefused, Option.getD_none]
  · exact current_change_le _ amount

/-- A launch costs more than the balance, the next one is refused, and a credit is cut off. -/
theorem never_overadmits_of_launches :
    let calls : List TokenCall := [.setTotal 100, .change 70, .debit 30, .debit 60, .debit 1,
      .change 50, .setTotal 10, .change 500, .debit signedMax]
    (∀ call ∈ calls, call.IsValid) ∧ admitted {} calls = [30, 60, signedMax] ∧
      credited calls = 620 ∧ (admitted {} calls).dropLast.sum ≤ credited calls := by
  intro calls
  have hvalid : ∀ call ∈ calls, call.IsValid := by decide
  exact ⟨hvalid, by decide, by decide, (never_overadmits calls hvalid).1⟩

end Tokens

end GpuQuota
