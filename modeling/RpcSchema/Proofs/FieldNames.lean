import RpcSchema.ProtoNaming
import RpcSchema.Proofs.Numerals
import Mathlib.Data.List.Basic

/-! # The characters of derived field names

The name that a function lends to its results has no character that the function's own
name does not have, small letters apart. -/
namespace RpcSchema.FieldNames
open LetterCase

/-- The images of a run are characters, from the small letters on. -/
private theorem lowercaseRuns_bounds : ∀ run ∈ lowercaseRuns,
    0x61 ≤ run.2.2.2 ∧
      (run.2.2.2 + (run.2.1 - run.1) < 0xd800 ∨
        0xdfff < run.2.2.2 ∧ run.2.2.2 + (run.2.1 - run.1) < 0x110000) := by
  decide +kernel

theorem mem_lowercase {c d : Char} (h : d ∈ lowercase c) : d = c ∨ 0x61 ≤ d.toNat := by
  unfold lowercase at h
  split at h
  · rw [List.mem_singleton] at h
    subst h
    unfold Char.toLower
    split
    · next hu =>
      right
      change 97 ≤ (c.val + 32).toNat
      have h1 : 65 ≤ c.val.toNat := UInt32.le_iff_toNat_le.1 hu.1
      have h2 : c.val.toNat ≤ 90 := UInt32.le_iff_toNat_le.1 hu.2
      have h3 : (c.val + 32).toNat = c.val.toNat + 32 := by
        rw [UInt32.toNat_add]
        exact Nat.mod_eq_of_lt (by change c.val.toNat + 32 < 2 ^ 32; omega)
      omega
    · exact .inl rfl
  · split at h
    · right
      rcases List.mem_cons.1 h with rfl | h
      · decide
      · rw [List.mem_singleton.1 h]
        decide
    · split at h
      · next first last step image hf =>
        rw [List.mem_singleton] at h
        subst h
        right
        have hb := lowercaseRuns_bounds _ (List.mem_of_find?_eq_some hf)
        have hr := List.find?_some hf
        simp only [inRun, Bool.and_eq_true, decide_eq_true_eq] at hr hb
        have hv : (c.toNat + image - first).isValidChar := by
          rcases hb.2 with hlt | ⟨hgt, hlt⟩
          · exact .inl (by omega)
          · exact .inr ⟨by omega, by omega⟩
        have hn : (Char.ofNat (c.toNat + image - first)).toNat = c.toNat + image - first := by
          rw [Char.ofNat, dif_pos hv]
          rfl
        omega
      · exact .inl (List.mem_singleton.1 h)

theorem withoutAccessorPrefix_suffix (name : Text) : withoutAccessorPrefix name <:+ name := by
  unfold withoutAccessorPrefix
  split
  · exact ⟨['g', 'e', 't'], rfl⟩
  · exact ⟨['G', 'e', 't'], rfl⟩
  · exact List.suffix_refl _

theorem mem_lowerFirst {t : Text} {d : Char} (h : d ∈ lowerFirst t) :
    d ∈ t ∨ 0x61 ≤ d.toNat := by
  cases t with
  | nil => exact .inl h
  | cons c cs =>
    rcases List.mem_append.1 h with h | h
    · rcases mem_lowercase h with rfl | h
      · exact .inl List.mem_cons_self
      · exact .inr h
    · exact .inl (List.mem_cons_of_mem c h)

theorem mem_resultFieldName {name : Text} {d : Char} (h : d ∈ resultFieldName name) :
    d ∈ name ∨ 0x61 ≤ d.toNat :=
  (mem_lowerFirst h).imp_left fun hd => (withoutAccessorPrefix_suffix name).subset hd

/-- A character before the small letters is in a derived name only if it is in the name
of the function. -/
theorem notMem_resultFieldName {name : Text} {d : Char} (hd : d.toNat < 0x61)
    (h : d ∉ name) : d ∉ resultFieldName name := by
  intro hm
  rcases mem_resultFieldName hm with hm | hm
  · exact h hm
  · omega

end RpcSchema.FieldNames
