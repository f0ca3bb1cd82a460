import RpcSchema.FileTree
import RpcSchema.SourcePosition
import Mathlib.Data.List.Induction
import Mathlib.Data.List.TakeWhile

/-! # Places in bytes

A place counts the line breaks before it and the bytes from the last of them on, in the
UTF-8 form of the text. -/
namespace RpcSchema.SourcePlaces

/-- The UTF-8 form of a text, byte by byte. -/
def bytes (t : Text) : List UInt8 := t.flatMap String.utf8EncodeChar

theorem toList_bytes (t : Text) : t.bytes.data.toList = bytes t :=
  List.toList_data_toByteArray

/-- The byte that ends a line. -/
def lineBreak : UInt8 := 10

/-- The bytes behind the last line break. -/
def lastLine (bs : List UInt8) : List UInt8 := (bs.reverse.takeWhile (· != lineBreak)).reverse

/-- The place behind some bytes. -/
def placeAfter (bs : List UInt8) : SourcePosition :=
  ⟨1 + bs.count lineBreak, 1 + (lastLine bs).length⟩

section Characters

variable {c : Char}

theorem lineBreak_ne_ofNat {n : Nat} (h : n < 256) (hn : n ≠ 10) : lineBreak ≠ UInt8.ofNat n := by
  intro he
  have hto := congrArg UInt8.toNat he
  rw [UInt8.toNat_ofNat_of_lt' h] at hto
  exact hn hto.symm

/-- Only a line break has the byte of a line break in it. -/
theorem lineBreak_notMem (h : c ≠ '\n') : lineBreak ∉ String.utf8EncodeChar c := by
  have hne : c.val.toNat ≠ 10 := fun hc => h (Char.ext (UInt32.toNat_inj.1 hc))
  have hnext (n : Nat) : lineBreak ≠ UInt8.ofNat (n % 0x40 + 0x80) :=
    lineBreak_ne_ofNat (by omega) (by omega)
  fun_cases String.utf8EncodeChar c with
  | case1 v hv =>
    have hfirst : lineBreak ≠ UInt8.ofNat v := lineBreak_ne_ofNat (by omega) hne
    simp only [List.mem_singleton, hfirst, not_false_eq_true]
  | case2 v _ hv =>
    have hfirst : lineBreak ≠ UInt8.ofNat (v / 64 % 0x20 + 0xc0) :=
      lineBreak_ne_ofNat (by omega) (by omega)
    simp only [List.mem_cons, List.not_mem_nil, hfirst, hnext, or_self, not_false_eq_true]
  | case3 v _ _ hv =>
    have hfirst : lineBreak ≠ UInt8.ofNat (v / 4096 % 0x10 + 0xe0) :=
      lineBreak_ne_ofNat (by omega) (by omega)
    simp only [List.mem_cons, List.not_mem_nil, hfirst, hnext, or_self, not_false_eq_true]
  | case4 v _ _ hv =>
    have hfirst : lineBreak ≠ UInt8.ofNat (v / 262144 % 0x08 + 0xf0) :=
      lineBreak_ne_ofNat (by omega) (by omega)
    simp only [List.mem_cons, List.not_mem_nil, hfirst, hnext, or_self, not_false_eq_true]

theorem placeAfter_lineBreak (bs : List UInt8) :
    placeAfter (bs ++ [lineBreak]) = ⟨(placeAfter bs).line + 1, 1⟩ := by
  simp [placeAfter, lastLine, Nat.add_assoc]

theorem lastLine_append {bs us : List UInt8} (h : lineBreak ∉ us) :
    lastLine (bs ++ us) = lastLine bs ++ us := by
  have hall : ∀ b ∈ us.reverse, (b != lineBreak) = true := by
    intro b hb
    rw [bne_iff_ne]
    rintro rfl
    exact h (List.mem_reverse.1 hb)
  rw [lastLine, List.reverse_append, List.takeWhile_append_of_pos hall, List.reverse_append,
    List.reverse_reverse, lastLine]

theorem placeAfter_append {bs us : List UInt8} (h : lineBreak ∉ us) :
    placeAfter (bs ++ us) = ⟨(placeAfter bs).line, (placeAfter bs).column + us.length⟩ := by
  simp [placeAfter, lastLine_append h, List.count_eq_zero.2 h, Nat.add_assoc]

/-- What one more character does to a place. -/
theorem placeAfter_character (bs : List UInt8) (c : Char) :
    placeAfter (bs ++ String.utf8EncodeChar c) = (placeAfter bs).next c := by
  by_cases hc : c = '\n'
  · subst hc
    exact placeAfter_lineBreak bs
  · rw [SourcePosition.next, if_neg hc, placeAfter_append (lineBreak_notMem hc),
      String.length_utf8EncodeChar]

end Characters

/-- The place behind a text is the place behind its bytes. -/
theorem after_eq (t : Text) : SourcePosition.after t = placeAfter (bytes t) := by
  induction t using List.reverseRecOn with
  | nil => rfl
  | append_singleton t c ih =>
    have hafter : SourcePosition.after (t ++ [c]) = (SourcePosition.after t).next c := by
      rw [SourcePosition.after, List.foldl_append]
      rfl
    rw [hafter, ih, ← placeAfter_character, bytes, bytes, List.flatMap_append,
      List.flatMap_singleton]

/-- The place of the rest of a source is that behind what stands before it. -/
theorem ofRest_eq (front rest : Text) :
    SourcePosition.ofRest (front ++ rest) rest = placeAfter (bytes front) := by
  rw [SourcePosition.ofRest, List.length_append, Nat.add_sub_cancel, List.take_left, after_eq]

end RpcSchema.SourcePlaces
