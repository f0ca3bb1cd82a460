import RpcSchema.Text
import Mathlib.Data.Nat.Basic

/-! # Decimal numerals

A numeral consists of digits and is read back to its number. -/
namespace RpcSchema.Numerals

/-- The number that a run of digits stands for. -/
def value (t : Text) : Nat := t.foldl (fun v c => v * 10 + (c.toNat - '0'.toNat)) 0

theorem digit_mod (n : Nat) : Text.digit n = Text.digit (n % 10) := by
  unfold Text.digit
  rw [Nat.mod_mod]

theorem isDigit_digit (n : Nat) : (Text.digit n).isDigit = true := by
  have h : ∀ m < 10, (Text.digit m).isDigit = true := by decide
  rw [digit_mod]
  exact h _ (Nat.mod_lt _ (by decide))

theorem ne_of_isDigit {c d : Char} (hc : c.isDigit = true) (hd : d.isDigit = false) : c ≠ d := by
  rintro rfl
  rw [hc] at hd
  cases hd

theorem value_digit (n : Nat) : (Text.digit n).toNat - '0'.toNat = n % 10 := by
  have h : ∀ m < 10, (Text.digit m).toNat - '0'.toNat = m := by decide
  rw [digit_mod]
  exact h _ (Nat.mod_lt _ (by decide))

theorem ofNat_of_lt {n : Nat} (h : n < 10) : Text.ofNat n = [Text.digit n] := by
  rw [Text.ofNat, if_pos h]

theorem ofNat_of_le {n : Nat} (h : 10 ≤ n) :
    Text.ofNat n = Text.ofNat (n / 10) ++ [Text.digit n] := by
  rw [Text.ofNat, if_neg (Nat.not_lt.2 h)]

theorem ofNat_ne_nil (n : Nat) : Text.ofNat n ≠ [] := by
  rw [Text.ofNat]
  split <;> simp

theorem isDigit_of_mem_ofNat {n : Nat} {c : Char} (h : c ∈ Text.ofNat n) :
    c.isDigit = true := by
  induction n using Nat.strong_induction_on with
  | _ n ih =>
    rcases Nat.lt_or_ge n 10 with hn | hn
    · rw [ofNat_of_lt hn, List.mem_singleton] at h
      exact h ▸ isDigit_digit n
    · rw [ofNat_of_le hn, List.mem_append, List.mem_singleton] at h
      rcases h with h | h
      · exact ih (n / 10) (by omega) h
      · exact h ▸ isDigit_digit n

/-- The numeral of a positive number has no leading zero. -/
theorem exists_front_ofNat {n : Nat} (h : 0 < n) : ∃ d ds, Text.ofNat n = d :: ds ∧ d ≠ '0' := by
  induction n using Nat.strong_induction_on with
  | _ n ih =>
    rcases Nat.lt_or_ge n 10 with hn | hn
    · have hdigit : ∀ m < 10, 0 < m → Text.digit m ≠ '0' := by decide
      exact ⟨_, [], ofNat_of_lt hn, hdigit n hn h⟩
    · obtain ⟨d, ds, hfront, hd⟩ := ih (n / 10) (by omega) (by omega)
      exact ⟨d, ds ++ [Text.digit n], by rw [ofNat_of_le hn, hfront, List.cons_append], hd⟩

theorem value_ofNat (n : Nat) : value (Text.ofNat n) = n := by
  induction n using Nat.strong_induction_on with
  | _ n ih =>
    rcases Nat.lt_or_ge n 10 with hn | hn
    · have hv := value_digit n
      rw [Nat.mod_eq_of_lt hn] at hv
      rw [ofNat_of_lt hn, value, List.foldl_cons, List.foldl_nil, hv, Nat.zero_mul, Nat.zero_add]
    · have hq := ih (n / 10) (by omega)
      have hv := value_digit n
      unfold value at hq
      rw [ofNat_of_le hn, value, List.foldl_append, hq, List.foldl_cons, List.foldl_nil, hv]
      omega

/-- Different numbers have different numerals. -/
theorem ofNat_inj {m n : Nat} (h : Text.ofNat m = Text.ofNat n) : m = n := by
  rw [← value_ofNat m, h, value_ofNat]

theorem notMem_ofNat {c : Char} (h : c.isDigit = false) (n : Nat) : c ∉ Text.ofNat n := by
  intro hc
  rw [isDigit_of_mem_ofNat hc] at h
  cases h

end RpcSchema.Numerals
