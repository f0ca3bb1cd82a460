import RpcSchema.Proofs.MessageFields
import RpcSchema.Proofs.Numerals
import Mathlib.Data.List.Basic

/-! # Derived field names that are identifiers

The name that a function lends to its results is an identifier like the function's own,
unless a digit is left in front when the accessor prefix is taken off. -/
namespace RpcSchema.FieldIdentifiers
open Signature

section Names

/-- The first character of an identifier. -/
def isFirst (c : Char) : Bool := c.isAlpha || c == '_'

/-- The other characters of an identifier. -/
def isFurther (c : Char) : Bool := c.isAlphanum || c == '_'

/-- An identifier of ASCII characters. -/
def IsAsciiIdentifier : Text → Prop
  | [] => False
  | c :: t => isFirst c = true ∧ ∀ d ∈ t, isFurther d = true

instance : (t : Text) → Decidable (IsAsciiIdentifier t)
  | [] => isFalse id
  | c :: t => decidable_of_iff (isFirst c = true ∧ t.all isFurther = true) (by
      rw [List.all_eq_true]
      rfl)

/-- A digit stands behind the accessor prefix of a name. -/
inductive DigitBehindPrefix : Text → Prop
  | small {c : Char} (hc : c.isDigit = true) (rest : Text) :
      DigitBehindPrefix ('g' :: 'e' :: 't' :: c :: rest)
  | capital {c : Char} (hc : c.isDigit = true) (rest : Text) :
      DigitBehindPrefix ('G' :: 'e' :: 't' :: c :: rest)

variable {c : Char} {t name : Text}

@[simp] theorem isAsciiIdentifier_cons :
    IsAsciiIdentifier (c :: t) ↔ isFirst c = true ∧ ∀ d ∈ t, isFurther d = true := Iff.rfl

theorem digitBehindPrefix_small {rest : Text} :
    DigitBehindPrefix ('g' :: 'e' :: 't' :: c :: rest) ↔ c.isDigit = true := by
  refine ⟨fun h => ?_, fun hc => .small hc rest⟩
  cases h with
  | small hc => exact hc

theorem digitBehindPrefix_capital {rest : Text} :
    DigitBehindPrefix ('G' :: 'e' :: 't' :: c :: rest) ↔ c.isDigit = true := by
  refine ⟨fun h => ?_, fun hc => .capital hc rest⟩
  cases h with
  | capital hc => exact hc

theorem toNat_lt_of_isFurther (h : isFurther c = true) : c.toNat < 128 := by
  have hbound {last : UInt32} (h : c.val ≤ last) (hlast : last.toNat < 128) : c.toNat < 128 :=
    Nat.lt_of_le_of_lt (UInt32.le_iff_toNat_le.1 h) hlast
  rcases Bool.or_eq_true_iff.1 h with h | h
  · rcases Bool.or_eq_true_iff.1 h with h | hdigit
    · rcases Bool.or_eq_true_iff.1 h with hupper | hlower
      · have hupper : c.val ≥ 'A'.val ∧ c.val ≤ 'Z'.val := of_decide_eq_true hupper
        exact hbound hupper.2 (by decide)
      · exact hbound (of_decide_eq_true (Bool.and_eq_true_iff.1 hlower).2) (by decide)
    · exact hbound (of_decide_eq_true (Bool.and_eq_true_iff.1 hdigit).2) (by decide)
  · obtain rfl : c = '_' := eq_of_beq h
    decide

/-- What holds of all ASCII characters holds of the characters of an identifier. -/
private theorem of_isFurther {P : Char → Prop} (hP : ∀ n < 128, P (Char.ofNat n))
    (h : isFurther c = true) : P c :=
  Char.ofNat_toNat c ▸ hP _ (toNat_lt_of_isFurther h)

theorem isFurther_of_isFirst (h : isFirst c = true) : isFurther c = true := by
  unfold isFirst at h
  unfold isFurther Char.isAlphanum
  rcases Bool.or_eq_true_iff.1 h with h | h <;> simp [h]

/-- Only digits may follow but not begin. -/
theorem isFirst_iff_of_isFurther (h : isFurther c = true) : isFirst c = true ↔ ¬c.isDigit = true :=
  of_isFurther (P := fun c => isFurther c = true → (isFirst c = true ↔ ¬c.isDigit = true))
    (by decide) h h

theorem isFirst_toLower (h : isFurther c = true) : isFirst c.toLower = isFirst c :=
  of_isFurther (P := fun c => isFirst c.toLower = isFirst c) (by decide) h

theorem lowerFirst_cons (h : isFurther c = true) : lowerFirst (c :: t) = c.toLower :: t := by
  have hlower : LetterCase.lowercase c = [c.toLower] :=
    of_isFurther (P := fun c => LetterCase.lowercase c = [c.toLower]) (by decide) h
  rw [lowerFirst, hlower]
  rfl

theorem isAsciiIdentifier_lowerFirst (h : isFurther c = true) :
    IsAsciiIdentifier (lowerFirst (c :: t)) ↔ IsAsciiIdentifier (c :: t) := by
  rw [lowerFirst_cons h, isAsciiIdentifier_cons, isAsciiIdentifier_cons, isFirst_toLower h]

theorem isAsciiIdentifier_iff_of_isFurther (h : ∀ d ∈ c :: t, isFurther d = true) :
    IsAsciiIdentifier (c :: t) ↔ ¬c.isDigit = true := by
  obtain ⟨hc, ht⟩ := List.forall_mem_cons.1 h
  rw [isAsciiIdentifier_cons, and_iff_left ht, isFirst_iff_of_isFurther hc]

/-- The prefix can be taken off unless a digit stands behind it. -/
theorem isAsciiIdentifier_withoutAccessorPrefix_iff (h : IsAsciiIdentifier name) :
    IsAsciiIdentifier (withoutAccessorPrefix name) ↔ ¬DigitBehindPrefix name := by
  unfold withoutAccessorPrefix
  split
  · next c rest =>
    rw [digitBehindPrefix_small]
    exact isAsciiIdentifier_iff_of_isFurther fun d hd => h.2 d (by simp [List.mem_cons.1 hd])
  · next c rest =>
    rw [digitBehindPrefix_capital]
    exact isAsciiIdentifier_iff_of_isFurther fun d hd => h.2 d (by simp [List.mem_cons.1 hd])
  · next hsmall hcapital =>
    refine iff_of_true h fun hdigit => ?_
    cases hdigit with
    | small _ rest => exact hsmall _ rest rfl
    | capital _ rest => exact hcapital _ rest rfl

theorem exists_withoutAccessorPrefix (h : IsAsciiIdentifier name) :
    ∃ c rest, withoutAccessorPrefix name = c :: rest ∧ isFurther c = true := by
  unfold withoutAccessorPrefix
  split
  · next c rest => exact ⟨c, rest, rfl, h.2 c (by simp)⟩
  · next c rest => exact ⟨c, rest, rfl, h.2 c (by simp)⟩
  · cases name with
    | nil => exact h.elim
    | cons c rest => exact ⟨c, rest, rfl, isFurther_of_isFirst h.1⟩

theorem isAsciiIdentifier_resultFieldName_iff (h : IsAsciiIdentifier name) :
    IsAsciiIdentifier (resultFieldName name) ↔ ¬DigitBehindPrefix name := by
  obtain ⟨c, rest, hname, hc⟩ := exists_withoutAccessorPrefix h
  rw [← isAsciiIdentifier_withoutAccessorPrefix_iff h, resultFieldName, hname,
    isAsciiIdentifier_lowerFirst hc]

theorem isAsciiIdentifier_append_ofNat (ht : t ≠ []) (n : Nat) :
    IsAsciiIdentifier (t ++ Text.ofNat n) ↔ IsAsciiIdentifier t := by
  obtain ⟨c, t, rfl⟩ := List.exists_cons_of_ne_nil ht
  have hdigits : ∀ d ∈ Text.ofNat n, isFurther d = true := by
    intro d hd
    simp [isFurther, Char.isAlphanum, Numerals.isDigit_of_mem_ofNat hd]
  rw [List.cons_append, isAsciiIdentifier_cons, isAsciiIdentifier_cons, List.forall_mem_append,
    and_iff_left hdigits]

theorem resultFieldName_ne_nil (h : IsAsciiIdentifier name) : resultFieldName name ≠ [] := by
  obtain ⟨c, rest, hname, hc⟩ := exists_withoutAccessorPrefix h
  rw [resultFieldName, hname, lowerFirst_cons hc]
  exact List.cons_ne_nil _ _

end Names

section Replies

variable {s : Signature} {naming : ReplyNaming}

theorem isAsciiIdentifier_replyFieldName_iff (h : IsAsciiIdentifier s.name) (n : Nat) :
    IsAsciiIdentifier (s.replyFieldName naming n) ↔ ¬DigitBehindPrefix s.name := by
  have hname := isAsciiIdentifier_resultFieldName_iff h
  unfold replyFieldName
  split
  · rw [isAsciiIdentifier_append_ofNat (resultFieldName_ne_nil h), hname]
  · exact hname

/-- A function that is named by an identifier lends an identifier to its results, unless a
digit stands behind the accessor prefix of its name: then no reply has an identifier for a
field. -/
theorem derived_names_identifiers {name : Text} (h : IsAsciiIdentifier name) :
    (IsAsciiIdentifier (resultFieldName name) ↔ ¬DigitBehindPrefix name) ∧
    ∀ (s : Signature) (naming : ReplyNaming) (m : Message), s.name = name →
      s.replyMessage naming = .ok (some m) →
        ∀ f ∈ m.fields, IsAsciiIdentifier f.name ↔ ¬DigitBehindPrefix name := by
  refine ⟨isAsciiIdentifier_resultFieldName_iff h, fun s naming m hname hm => ?_⟩
  subst hname
  rcases MessageFields.replyMessage_ok hm with ⟨-, hnone⟩ | ⟨-, fields, hfields, hm⟩
  · cases hnone
  · cases hm
    refine MessageFields.numbered_forall (fun n r _ f hf => ?_) hfields
    rw [(MessageFields.replyField_ok hf).1]
    exact isAsciiIdentifier_replyFieldName_iff h n

/-- A prefix with a name behind it, and a reply with two results. -/
def balances : Signature :=
  ⟨"GetBalance_2".toList, [], [.scalar "float64".toList, .scalar "error".toList]⟩

theorem derived_names_identifiers_balances :
    IsAsciiIdentifier balances.name ∧ IsAsciiIdentifier (resultFieldName balances.name) ∧
      ∃ m, balances.replyMessage .positional = .ok (some m) ∧
        m.fields.map Field.name = ["balance_21".toList, "balance_22".toList] ∧
        ∀ f ∈ m.fields, IsAsciiIdentifier f.name := by
  have hname : IsAsciiIdentifier balances.name := by decide
  have hprefix : ¬DigitBehindPrefix balances.name := fun h => by
    cases h with
    | capital hc => exact absurd hc (by decide)
  obtain ⟨hderived, hfields⟩ := derived_names_identifiers hname
  refine ⟨hname, hderived.2 hprefix, _, rfl, by decide +kernel, fun f hf => ?_⟩
  exact (hfields balances .positional _ rfl rfl f hf).2 hprefix

/-- An exported function whose results have a number for a name. -/
theorem numbered_accessor_no_identifier :
    IsAsciiIdentifier "Get2".toList ∧ resultFieldName "Get2".toList = "2".toList ∧
      ¬IsAsciiIdentifier "2".toList ∧
      ∀ naming, (Signature.mk "Get2".toList [] [.scalar "int".toList]).replyMessage naming =
        .ok (some ⟨"Get2Reply".toList, [⟨false, "int32".toList, "2".toList, 1⟩]⟩) := by
  refine ⟨by decide, by decide, by decide, fun naming => ?_⟩
  cases naming <;> decide

end Replies

end RpcSchema.FieldIdentifiers
