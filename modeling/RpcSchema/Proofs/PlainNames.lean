import RpcSchema.GoSignatures
import RpcSchema.Proofs.Numerals

/-! # Identifiers and plain names

An identifier is a word of the grammar. A name is plain if it holds none of the
characters that part the pieces of a document. -/
namespace RpcSchema.PlainNames

/-- The characters with the Unicode property White_Space. -/
def whiteSpace : List Char :=
  ['\t', '\n', '\x0b', '\x0c', '\r', ' ', '\u0085', '\u00a0', '\u1680', '\u2000', '\u2001',
    '\u2002', '\u2003', '\u2004', '\u2005', '\u2006', '\u2007', '\u2008', '\u2009', '\u200a',
    '\u2028', '\u2029', '\u202f', '\u205f', '\u3000']

/-- The characters of operators, brackets and quotes: those of ASCII that can be printed
and are neither letters, digits nor the low line. -/
def punctuation : List Char :=
  ['!', '"', '#', '$', '%', '&', '\'', '(', ')', '*', '+', ',', '-', '.', '/', ':', ';', '<', '=',
    '>', '?', '@', '[', '\\', ']', '^', '\x60', '\x7b', '|', '\x7d', '~']

/-- The characters that part the pieces of a document. -/
def separators : List Char := whiteSpace ++ ['(', ')', '\x7b', '\x7d', ';', '=', '.']

/-- A word of the grammar. -/
def IsIdentifier : Text → Prop
  | [] => False
  | c :: s => IdentifierCharacter.isStart c = true ∧
      ∀ d ∈ s, IdentifierCharacter.isContinue d = true

def IsPlain (t : Text) : Prop := t ≠ [] ∧ ∀ c ∈ t, c ∉ separators

/-- The name in a type is plain, if there is one. -/
def HasPlainName : ValueType → Prop
  | .scalar name => IsPlain name
  | .arrayOf element => IsPlain element
  | .unsupported _ => True

/-- The names of the function, its parameters and the types of a signature are plain. -/
structure HasPlainNames (s : Signature) : Prop where
  name : IsPlain s.name
  parameter : ∀ p ∈ s.parameters, IsPlain p.name ∧ HasPlainName p.type
  result : ∀ r ∈ s.results, HasPlainName r

-- What holds of the characters of a text is decided along the text: the characters are
-- finite in number too, and far too many to go through.
instance (t : Text) (p : Char → Prop) [DecidablePred p] : Decidable (∀ c ∈ t, p c) :=
  List.decidableBAll p t

instance (t : Text) : Decidable (IsPlain t) := inferInstanceAs (Decidable (_ ∧ _))

instance : (t : ValueType) → Decidable (HasPlainName t)
  | .scalar name => inferInstanceAs (Decidable (IsPlain name))
  | .arrayOf element => inferInstanceAs (Decidable (IsPlain element))
  | .unsupported _ => isTrue trivial

instance (s : Signature) : Decidable (HasPlainNames s) :=
  decidable_of_iff
    (IsPlain s.name ∧ (∀ p ∈ s.parameters, IsPlain p.name ∧ HasPlainName p.type) ∧
      ∀ r ∈ s.results, HasPlainName r)
    ⟨fun ⟨hn, hp, hr⟩ => ⟨hn, hp, hr⟩, fun ⟨hn, hp, hr⟩ => ⟨hn, hp, hr⟩⟩

instance : (t : Text) → Decidable (IsIdentifier t)
  | [] => isFalse id
  | _ :: _ => inferInstanceAs (Decidable (_ ∧ _))

theorem IsPlain.notMem {t : Text} (h : IsPlain t) {c : Char} (hc : c ∈ separators) : c ∉ t :=
  fun hm => h.2 c hm hc

theorem IsIdentifier.ne_nil {t : Text} (h : IsIdentifier t) : t ≠ [] := by
  rintro rfl
  exact h

theorem IsIdentifier.isContinue {t : Text} (h : IsIdentifier t) {c : Char} (hc : c ∈ t) :
    IdentifierCharacter.isContinue c = true := by
  cases t with
  | nil => cases hc
  | cons d s =>
    rcases List.mem_cons.1 hc with rfl | hc
    · exact IdentifierCharacter.isContinue_of_isStart h.1
    · exact h.2 c hc

private theorem isContinue_whiteSpace :
    ∀ c ∈ whiteSpace, IdentifierCharacter.isContinue c = false := by decide +kernel

private theorem isContinue_punctuation :
    ∀ c ∈ punctuation, IdentifierCharacter.isContinue c = false := by decide +kernel

theorem notMem_of_isContinue {c : Char} (h : IdentifierCharacter.isContinue c = true) :
    c ∉ whiteSpace ∧ c ∉ punctuation := by
  constructor
  · intro hw
    rw [isContinue_whiteSpace c hw] at h
    cases h
  · intro hp
    rw [isContinue_punctuation c hp] at h
    cases h

/-- An identifier holds no white space and no punctuation. -/
theorem IsIdentifier.notMem {t : Text} (h : IsIdentifier t) {c : Char} (hc : c ∈ t) :
    c ∉ whiteSpace ∧ c ∉ punctuation :=
  notMem_of_isContinue (h.isContinue hc)

theorem separators_subset : separators ⊆ whiteSpace ++ punctuation := by decide

theorem IsIdentifier.isPlain {t : Text} (h : IsIdentifier t) : IsPlain t := by
  refine ⟨h.ne_nil, fun c hc hs => ?_⟩
  have hn := h.notMem hc
  rcases List.mem_append.1 (separators_subset hs) with hw | hp
  · exact hn.1 hw
  · exact hn.2 hp

/-- Invented names are identifiers, too. -/
theorem isIdentifier_inventedName (n : Nat) : IsIdentifier (inventedName n) := by
  refine ⟨by decide, fun d hd => ?_⟩
  change d ∈ "rg".toList ++ Text.ofNat n at hd
  rcases List.mem_append.1 hd with hd | hd
  · have hr : ∀ c ∈ "rg".toList, IdentifierCharacter.isContinue c = true := by decide
    exact hr d hd
  · have hdigit := Numerals.isDigit_of_mem_ofNat hd
    have hlt : d.toNat < 128 := by
      simp only [Char.isDigit, Bool.and_eq_true, decide_eq_true_eq] at hdigit
      have hle : d.toNat ≤ 57 := UInt32.le_iff_toNat_le.1 hdigit.2
      omega
    rw [IdentifierCharacter.isContinue, if_pos hlt]
    simp [Char.isAlphanum, hdigit]

end RpcSchema.PlainNames
