import RpcSchema.Proofs.DocumentLines
import RpcSchema.Proofs.QuotedSource

/-! # The numbers of fields

The text of a message is read back line by line. Its fields are numbered from one on without a
gap, in the order of the parameters or results that they stand for. Results have different
names where positions are asked for, and one name where they are not. -/
namespace RpcSchema.FieldNumbers
open Signature MessageFields DocumentReading DocumentLines PlainNames

/-- No blank and no end of a line stands in the text. -/
structure IsWord (t : Text) : Prop where
  blank : ' ' ∉ t
  lineBreak : '\n' ∉ t

section Reading

variable {t : Text} {f : Field} {m : Message}

/-- The number that a text of digits stands for. -/
def readNumeral (t : Text) : Option Nat :=
  if t ≠ [] ∧ ∀ c ∈ t, c.isDigit = true then some (Numerals.value t) else none

/-- The number before a semicolon. -/
def readNumber (t : Text) : Option Nat :=
  match t.splitAt ';' with
  | [digits, []] => readNumeral digits
  | _ => none

/-- The field that a line declares, word by word. -/
def readLine (l : Text) : Option Field :=
  match l.splitAt ' ' with
  | ['\t' :: type, name, ['='], number] => (readNumber number).map (⟨false, type, name, ·⟩)
  | ['\t' :: mark, type, name, ['='], number] =>
    if mark = "repeated".toList then (readNumber number).map (⟨true, type, name, ·⟩) else none
  | _ => none

def isFieldLine (l : Text) : Bool := l.head? == some '\t'

/-- The fields that the lines of a message declare. -/
def readFields (t : Text) : List (Option Field) :=
  ((t.splitAt '\n').filter isFieldLine).map readLine

theorem readNumeral_ofNat (n : Nat) : readNumeral (Text.ofNat n) = some n := by
  have hdigits : Text.ofNat n ≠ [] ∧ ∀ c ∈ Text.ofNat n, c.isDigit = true :=
    ⟨Numerals.ofNat_ne_nil n, fun c hc => Numerals.isDigit_of_mem_ofNat hc⟩
  rw [readNumeral, if_pos hdigits, Numerals.value_ofNat]

theorem readNumber_ofNat (n : Nat) : readNumber (Text.ofNat n ++ [';']) = some n := by
  have hsplit : Text.splitAt ';' (Text.ofNat n ++ [';']) = [Text.ofNat n, []] :=
    splitAt_piece (Numerals.notMem_ofNat (by decide) n) []
  rw [readNumber, hsplit]
  exact readNumeral_ofNat n

/-- What stands behind the type of a field. -/
private theorem words_behind_type {name : Text} (h : ' ' ∉ name) (n : Nat) :
    Text.splitAt ' ' (name ++ ' ' :: '=' :: ' ' :: (Text.ofNat n ++ [';'])) =
      [name, ['='], Text.ofNat n ++ [';']] := by
  have hequals : ' ' ∉ ['='] := by decide
  have hnumber : ' ' ∉ Text.ofNat n ++ [';'] := by simp [Numerals.notMem_ofNat]
  rw [splitAt_piece h]
  exact congrArg _ ((splitAt_piece hequals _).trans (congrArg _ (splitAt_of_notMem hnumber)))

/-- A line declares the field that it was written for. -/
theorem readLine_fieldLine (htype : ' ' ∉ f.type) (hname : ' ' ∉ f.name) :
    readLine (fieldLine f) = some f := by
  obtain ⟨isRepeated, type, name, number⟩ := f
  have hrest := words_behind_type hname number
  cases isRepeated with
  | false =>
    have htab : ' ' ∉ '\t' :: type := by simpa using htype
    have hwords : Text.splitAt ' ' (fieldLine ⟨false, type, name, number⟩) =
        ['\t' :: type, name, ['='], Text.ofNat number ++ [';']] := by
      rw [← hrest, ← splitAt_piece htab]
      simp [fieldLine]
    rw [readLine, hwords]
    simp [readNumber_ofNat]
  | true =>
    have hmark : ' ' ∉ '\t' :: "repeated".toList := by decide
    have hwords : Text.splitAt ' ' (fieldLine ⟨true, type, name, number⟩) =
        ['\t' :: "repeated".toList, type, name, ['='], Text.ofNat number ++ [';']] := by
      rw [← hrest, ← splitAt_piece htype, ← splitAt_piece hmark]
      simp [fieldLine]
    rw [readLine, hwords]
    simp [readNumber_ofNat]

/-- A message begins with the end of the line before it. -/
theorem splitAt_message (hname : '\n' ∉ m.name) (hfields : ∀ f ∈ m.fields, Level f) :
    Text.splitAt '\n' m.text = [] :: messageLines m := by
  have hbrace : '\n' ∉ ['\x7d'] := by decide
  have hempty : '\n' ∉ ([] : Text) := List.not_mem_nil
  have hnames : ∀ m' ∈ [m], '\n' ∉ m'.name := by simpa using hname
  have hlines : Text.splitAt '\n' ('\x7d' :: m.text) = ['\x7d'] :: messageLines m := by
    simpa using splitAt_messages hnames (by simpa using hfields)
  obtain ⟨r, hr⟩ : ∃ r, m.text = '\n' :: r := ⟨_, rfl⟩
  rw [hr] at hlines ⊢
  have hbehind := (splitAt_piece hbrace r).symm.trans hlines
  rw [← List.tail_eq_of_cons_eq hbehind]
  exact splitAt_piece hempty r

theorem fieldLines_messageLines (m : Message) :
    ([] :: messageLines m).filter isFieldLine = m.fields.map fieldLine := by
  have hfields : (m.fields.map fieldLine).filter isFieldLine = m.fields.map fieldLine :=
    List.filter_eq_self.2 (List.forall_mem_map.2 fun f _ => rfl)
  have htitle : [[], [], titleLine m].filter isFieldLine = [] := rfl
  have hbrace : [['\x7d']].filter isFieldLine = [] := rfl
  change ([[], [], titleLine m] ++ m.fields.map fieldLine ++ [['\x7d']]).filter isFieldLine = _
  rw [List.filter_append, List.filter_append, hfields, htitle, hbrace, List.nil_append,
    List.append_nil]

/-- The fields of a message are read back from its text. -/
theorem readFields_text (hname : IsWord m.name)
    (hfields : ∀ f ∈ m.fields, IsWord f.type ∧ IsWord f.name) :
    readFields m.text = m.fields.map some := by
  have hlevel : ∀ f ∈ m.fields, Level f := fun f hf =>
    ⟨(hfields f hf).1.lineBreak, (hfields f hf).2.lineBreak⟩
  rw [readFields, splitAt_message hname.lineBreak hlevel, fieldLines_messageLines, List.map_map,
    List.map_inj_left]
  exact fun f hf => readLine_fieldLine (hfields f hf).1.blank (hfields f hf).2.blank

end Reading

section Names

/-- The name in a type is a word, if there is one. -/
def HasWord : ValueType → Prop
  | .scalar name => IsWord name
  | .arrayOf element => IsWord element
  | .unsupported _ => True

/-- The names of the function, its parameters and the types of a signature are words. -/
structure HasWords (s : Signature) : Prop where
  name : IsWord s.name
  parameter : ∀ p ∈ s.parameters, IsWord p.name ∧ HasWord p.type
  result : ∀ r ∈ s.results, HasWord r

theorem isWord_of_isPlain {t : Text} (h : IsPlain t) : IsWord t :=
  ⟨h.notMem (by decide), h.notMem (by decide)⟩

theorem hasWord_of_hasPlainName {t : ValueType} (h : HasPlainName t) : HasWord t := by
  cases t with
  | scalar name => exact isWord_of_isPlain h
  | arrayOf element => exact isWord_of_isPlain h
  | unsupported source => trivial

theorem hasWords_of_hasPlainNames {s : Signature} (h : HasPlainNames s) : HasWords s where
  name := isWord_of_isPlain h.name
  parameter p hp := ⟨isWord_of_isPlain (h.parameter p hp).1,
    hasWord_of_hasPlainName (h.parameter p hp).2⟩
  result r hr := hasWord_of_hasPlainName (h.result r hr)

theorem isWord_append {t u : Text} (ht : IsWord t) (hu : IsWord u) : IsWord (t ++ u) :=
  ⟨List.not_mem_append ht.blank hu.blank, List.not_mem_append ht.lineBreak hu.lineBreak⟩

theorem isWord_wireType {t : ValueType} (h : HasWord t) (hu : t.isUnsupported = false) :
    IsWord (wireType t) := by
  have hwire : ∀ t ∈ wireNames, ' ' ∉ t ∧ '\n' ∉ t := by decide
  have hproto {name : Text} (hname : IsWord name) : IsWord (protoType name) :=
    of_protoType (fun t ht => ⟨(hwire t ht).1, (hwire t ht).2⟩) hname
  cases t with
  | scalar name => exact hproto h
  | arrayOf element => exact hproto h
  | unsupported source => cases hu

theorem isWord_replyFieldName {s : Signature} (h : IsWord s.name) (naming : ReplyNaming)
    (n : Nat) : IsWord (s.replyFieldName naming n) :=
  ⟨notMem_replyFieldName h.blank naming n (by decide) (by decide),
    notMem_replyFieldName h.lineBreak naming n (by decide) (by decide)⟩

end Names

section Messages

variable {s : Signature} {m : Message} {naming : ReplyNaming}

theorem numbers_mapIdx {α : Type} {g : Nat → α → Field} (hg : ∀ i a, (g i a).number = i + 1)
    (as : List α) : (as.mapIdx g).map Field.number = List.range' 1 as.length := by
  apply List.ext_getElem
  · simp
  · intro i _ _
    simp [hg, Nat.add_comm]

theorem readFields_requestMessage (hs : HasWords s) (h : s.requestMessage = .ok (some m)) :
    readFields m.text = m.fields.map some := by
  rcases requestMessage_ok h with ⟨-, hnone⟩ | ⟨-, fields, hfields, hm⟩
  · cases hnone
  · cases hm
    refine readFields_text (isWord_append hs.name ⟨by decide, by decide⟩) ?_
    refine numbered_forall (fun n p hp f hf => ?_) hfields
    obtain ⟨rfl, hu⟩ := requestField_ok hf
    exact ⟨isWord_wireType (hs.parameter p hp).2 hu, (hs.parameter p hp).1⟩

theorem readFields_replyMessage (hs : HasWords s) (h : s.replyMessage naming = .ok (some m)) :
    readFields m.text = m.fields.map some := by
  rcases replyMessage_ok h with ⟨-, hnone⟩ | ⟨-, fields, hfields, hm⟩
  · cases hnone
  · cases hm
    refine readFields_text (isWord_append hs.name ⟨by decide, by decide⟩) ?_
    refine numbered_forall (fun n r hr f hf => ?_) hfields
    obtain ⟨rfl, hu⟩ := replyField_ok hf
    exact ⟨isWord_wireType (hs.result r hr) hu, isWord_replyFieldName hs.name naming n⟩

/-- The results of a function are named one after the other by their numbers. -/
theorem names_replyMessage (h : s.replyMessage naming = .ok (some m)) :
    m.fields.map Field.name =
      (List.range' 1 s.results.length).map (s.replyFieldName naming) := by
  have hnumbers := numbers_mapIdx (g := fun i r =>
    ⟨isRepeated r, wireType r, s.replyFieldName naming (i + 1), i + 1⟩) (fun _ _ => rfl) s.results
  rw [← hnumbers, ← fields_replyMessage h, List.map_map, List.map_inj_left]
  intro f hf
  rw [fields_replyMessage h] at hf
  obtain ⟨i, hi, rfl⟩ := List.mem_mapIdx.1 hf
  rfl

/-- Only functions with results have a reply. -/
theorem results_ne_nil (h : s.replyMessage naming = .ok (some m)) : s.results ≠ [] := by
  rcases replyMessage_ok h with ⟨-, hnone⟩ | ⟨hc, -⟩
  · cases hnone
  · simpa using (Bool.and_eq_true_iff.1 hc).2

/-- Different numbers make different names, whatever stands before them. -/
theorem nodup_positional (h : s.replyMessage .positional = .ok (some m)) :
    (m.fields.map Field.name).Nodup := by
  rw [names_replyMessage h]
  by_cases hlength : 1 < s.results.length
  · refine List.Nodup.map (fun i j hij => ?_) (List.nodup_range' 1)
    simp only [replyFieldName, hlength, and_self, if_true] at hij
    exact Numerals.ofNat_inj (List.append_cancel_left hij)
  · have hone : s.results.length = 1 :=
      Nat.le_antisymm (Nat.not_lt.1 hlength) (List.length_pos_iff.2 (results_ne_nil h))
    rw [hone]
    exact List.nodup_singleton _

theorem names_shared (h : s.replyMessage .shared = .ok (some m)) :
    m.fields.map Field.name = List.replicate s.results.length (resultFieldName s.name) := by
  have hname : s.replyFieldName .shared = fun _ => resultFieldName s.name := by
    funext i
    simp [replyFieldName]
  rw [names_replyMessage h, hname, List.map_const', List.length_range']

/-- The fields of a message are read back from its text, one for each parameter or result and in
their order, with the numbers from one on. Where positions are asked for, no two results have
the same name; where they are not, all have one name. The names in a source text are words. -/
theorem fields_numbered :
    (∀ source signatures, signaturesOf source = .ok signatures → ∀ s ∈ signatures, HasWords s) ∧
    ∀ s, HasWords s →
      (∀ m, s.requestMessage = .ok (some m) → ∃ fields : List Field,
        readFields m.text = fields.map some ∧
        fields.map (fun f => (f.repeated, f.type, f.name)) =
          s.parameters.map (fun p => (false, wireType p.type, p.name)) ∧
        fields.map Field.number = List.range' 1 s.parameters.length) ∧
      ∀ naming m, s.replyMessage naming = .ok (some m) → ∃ fields : List Field,
        readFields m.text = fields.map some ∧
        fields.map (fun f => (f.repeated, f.type)) =
          s.results.map (fun r => (isRepeated r, wireType r)) ∧
        fields.map Field.number = List.range' 1 s.results.length ∧
        (naming = .positional → (fields.map Field.name).Nodup) ∧
        (naming = .shared → (∀ f ∈ fields, f.name = resultFieldName s.name) ∧
          ((fields.map Field.name).Nodup ↔ s.results.length = 1)) := by
  refine ⟨fun source signatures h s hmem => ?_, fun s hs => ⟨fun m hm => ?_, fun naming m hm => ?_⟩⟩
  · exact hasWords_of_hasPlainNames (QuotedSource.hasPlainNames_of_signaturesOf h s hmem)
  · refine ⟨m.fields, readFields_requestMessage hs hm, ?_, ?_⟩
    · rw [fields_requestMessage hm]
      exact map_mapIdx (by intros; rfl) s.parameters
    · rw [fields_requestMessage hm]
      exact numbers_mapIdx (fun _ _ => rfl) s.parameters
  · refine ⟨m.fields, readFields_replyMessage hs hm, ?_, ?_, ?_, ?_⟩
    · rw [fields_replyMessage hm]
      exact map_mapIdx (by intros; rfl) s.results
    · rw [fields_replyMessage hm]
      exact numbers_mapIdx (fun _ _ => rfl) s.results
    · rintro rfl
      exact nodup_positional hm
    · rintro rfl
      have hnames := names_shared hm
      constructor
      · intro f hf
        exact (List.eq_replicate_iff.1 hnames).2 _ (List.mem_map_of_mem hf)
      · have hpositive := List.length_pos_iff.2 (results_ne_nil hm)
        rw [hnames, List.nodup_replicate]
        omega

/-- A function whose name ends in a digit, with a list and a name for its results. -/
def rankingSource : Text :=
  "package p\nfunc GetTop1(a, b int) ([]float32, error) \x7b\x7d\n".toList

def ranking : Signature :=
  ⟨"GetTop1".toList, [⟨"a".toList, .scalar "int".toList⟩, ⟨"b".toList, .scalar "int".toList⟩],
    [.arrayOf "float32".toList, .scalar "error".toList]⟩

theorem fields_numbered_ranking :
    signaturesOf rankingSource = .ok [ranking] ∧ HasWords ranking ∧
      (∃ m, ranking.requestMessage = .ok (some m) ∧ ∃ fields : List Field,
        readFields m.text = fields.map some ∧ fields.map Field.number = [1, 2]) ∧
      (∃ m, ranking.replyMessage .positional = .ok (some m) ∧ ∃ fields : List Field,
        readFields m.text = fields.map some ∧ (fields.map Field.name).Nodup) ∧
      ∃ m, ranking.replyMessage .shared = .ok (some m) ∧ ∃ fields : List Field,
        readFields m.text = fields.map some ∧ ∀ f ∈ fields, f.name = "top1".toList := by
  have hsource : signaturesOf rankingSource = .ok [ranking] := by decide +kernel
  have hwords : HasWords ranking := fields_numbered.1 _ _ hsource _ List.mem_cons_self
  obtain ⟨hrequest, hreply⟩ := fields_numbered.2 ranking hwords
  refine ⟨hsource, hwords, ⟨_, rfl, ?_⟩, ⟨_, rfl, ?_⟩, ⟨_, rfl, ?_⟩⟩
  · obtain ⟨fields, hread, -, hnumbers⟩ := hrequest _ rfl
    exact ⟨fields, hread, hnumbers⟩
  · obtain ⟨fields, hread, -, -, hdistinct, -⟩ := hreply .positional _ rfl
    exact ⟨fields, hread, hdistinct rfl⟩
  · obtain ⟨fields, hread, -, -, -, hshared⟩ := hreply .shared _ rfl
    exact ⟨fields, hread, (hshared rfl).1⟩

end Messages

end RpcSchema.FieldNumbers
