import RpcSchema.Proofs.DocumentReading

/-! # The lines of a document

Where no name holds the end of a line, the lines of a document are those of its opening, one
for each method, and for each message a title and one for each field between an empty line
and a brace. A method line is told by its beginning: with plain names no other line behind
the opening begins like one. -/
namespace RpcSchema.DocumentLines
open Signature MessageFields DocumentReferences DocumentReading PlainNames

section Pieces

variable {separator : Char}

theorem splitAt_ne_nil (separator : Char) (t : Text) : Text.splitAt separator t ≠ [] := by
  cases t with
  | nil => simp [Text.splitAt]
  | cons c t =>
    unfold Text.splitAt
    by_cases hc : c = separator
    · simp [hc]
    · cases h : Text.splitAt separator t <;> simp [hc]

/-- A separator parts the pieces before it from those behind it. -/
theorem splitAt_append (l r : Text) :
    Text.splitAt separator (l ++ separator :: r) =
      Text.splitAt separator l ++ Text.splitAt separator r := by
  induction l with
  | nil => simp [Text.splitAt]
  | cons c l ih =>
    by_cases hc : c = separator
    · simp [Text.splitAt, hc, ih]
    · obtain ⟨piece, pieces, hl⟩ := List.exists_cons_of_ne_nil (splitAt_ne_nil separator l)
      simp [Text.splitAt, hc, ih, hl]

theorem splitAt_of_notMem {t : Text} (h : separator ∉ t) : Text.splitAt separator t = [t] := by
  induction t with
  | nil => rfl
  | cons c t ih =>
    have hc : c ≠ separator := fun hc => h (hc ▸ List.mem_cons_self)
    have ht := ih fun ht => h (List.mem_cons_of_mem c ht)
    simp [Text.splitAt, hc, ht]

/-- A piece without a separator at the front. -/
theorem splitAt_piece {l : Text} (h : separator ∉ l) (r : Text) :
    Text.splitAt separator (l ++ separator :: r) = l :: Text.splitAt separator r := by
  rw [splitAt_append, splitAt_of_notMem h, List.singleton_append]

/-- What has no separator is a part of the first piece. -/
theorem splitAt_front {l : Text} (h : separator ∉ l) (r : Text) :
    ∃ piece, Text.splitAt separator (l ++ r) =
      (l ++ piece) :: (Text.splitAt separator r).tail := by
  obtain ⟨piece, pieces, hr⟩ := List.exists_cons_of_ne_nil (splitAt_ne_nil separator r)
  refine ⟨piece, ?_⟩
  induction l with
  | nil => simp [hr]
  | cons c l ih =>
    have hc : c ≠ separator := fun hc => h (hc ▸ List.mem_cons_self)
    have hl := ih fun hl => h (List.mem_cons_of_mem c hl)
    simp [Text.splitAt, hc, hl]

/-- The pieces make up the text. -/
theorem join_splitAt (t : Text) : Text.join [separator] (Text.splitAt separator t) = t := by
  induction t with
  | nil => rfl
  | cons c t ih =>
    obtain ⟨piece, pieces, ht⟩ := List.exists_cons_of_ne_nil (splitAt_ne_nil separator t)
    rw [ht] at ih
    by_cases hc : c = separator
    · simp [Text.splitAt, hc, ht, Text.join, ih]
    · have hcons : Text.splitAt separator (c :: t) = (c :: piece) :: pieces := by
        simp [Text.splitAt, hc, ht]
      rw [hcons, ← ih]
      cases pieces <;> rfl

end Pieces

section Lines

/-- The end of a line stands in no name of the type. -/
def IsLevelType : ValueType → Prop
  | .scalar name => '\n' ∉ name
  | .arrayOf element => '\n' ∉ element
  | .unsupported _ => True

/-- The end of a line stands in none of the names of a signature. -/
structure IsLevel (s : Signature) : Prop where
  name : '\n' ∉ s.name
  parameter : ∀ p ∈ s.parameters, '\n' ∉ p.name ∧ IsLevelType p.type
  result : ∀ r ∈ s.results, IsLevelType r

theorem isLevelType_of_hasPlainName {t : ValueType} (h : HasPlainName t) : IsLevelType t := by
  cases t with
  | scalar name => exact IsPlain.notMem h (by decide)
  | arrayOf element => exact IsPlain.notMem h (by decide)
  | unsupported source => trivial

theorem isLevel_of_hasPlainNames {s : Signature} (h : HasPlainNames s) : IsLevel s where
  name := h.name.notMem (by decide)
  parameter p hp :=
    ⟨(h.parameter p hp).1.notMem (by decide), isLevelType_of_hasPlainName (h.parameter p hp).2⟩
  result r hr := isLevelType_of_hasPlainName (h.result r hr)

/-- A field of which no part ends the line. -/
structure Level (f : Field) : Prop where
  type : '\n' ∉ f.type
  name : '\n' ∉ f.name

/-- How a method line begins. -/
def methodMark : Text := ['\t', ' ', 'r', 'p', 'c', ' ']

/-- The method line of a signature, without its end. -/
def methodLine (s : Signature) : Text :=
  methodMark ++ s.name ++ '(' :: s.requestType ++ ") returns (".toList ++ s.replyType ++
    ") \x7b\x7d".toList

/-- The line of a field, without its end. -/
def fieldLine (f : Field) : Text :=
  '\t' :: (if f.repeated then "repeated ".toList else []) ++ f.type ++ ' ' :: f.name ++
    " = ".toList ++ Text.ofNat f.number ++ [';']

/-- The line that a message begins with, without its end. -/
def titleLine (m : Message) : Text := "message ".toList ++ m.name ++ " \x7b".toList

/-- The lines of a message, from the empty line before it to the brace that closes it. -/
def messageLines (m : Message) : List Text :=
  [[], titleLine m] ++ m.fields.map fieldLine ++ [['\x7d']]

/-- The lines before the methods. -/
def openingLines (service : Text) : List Text :=
  Text.splitAt '\n' (preamble ++ "service ".toList ++ service ++ " \x7b".toList)

theorem method_eq (s : Signature) : s.method = methodLine s ++ ['\n'] := by
  unfold method methodLine
  simp only [List.append_assoc, List.cons_append]
  rfl

theorem text_eq_fieldLine (f : Field) : f.text = fieldLine f ++ ['\n'] := by
  unfold Field.text fieldLine
  simp only [List.append_assoc, List.cons_append]
  rfl

theorem break_notMem_methodLine {s : Signature} (h : '\n' ∉ s.name) : '\n' ∉ methodLine s := by
  have hrequest : '\n' ∉ s.requestType := notMem_requestType h (by decide) (by decide)
  have hreply : '\n' ∉ s.replyType := notMem_replyType h (by decide) (by decide)
  simp [methodLine, methodMark, h, hrequest, hreply]

theorem break_notMem_fieldLine {f : Field} (h : Level f) : '\n' ∉ fieldLine f := by
  have hnumber : '\n' ∉ Text.ofNat f.number := Numerals.notMem_ofNat (by decide) _
  cases hr : f.repeated <;> simp [fieldLine, hr, h.type, h.name, hnumber]

theorem break_notMem_titleLine {m : Message} (h : '\n' ∉ m.name) : '\n' ∉ titleLine m := by
  unfold titleLine
  simp [h]

theorem splitAt_methods {signatures : List Signature} (hs : ∀ s ∈ signatures, '\n' ∉ s.name)
    (r : Text) :
    Text.splitAt '\n' (signatures.flatMap method ++ r) =
      signatures.map methodLine ++ Text.splitAt '\n' r := by
  induction signatures with
  | nil => rfl
  | cons s signatures ih =>
    obtain ⟨h, hs⟩ := List.forall_mem_cons.1 hs
    calc Text.splitAt '\n' ((s :: signatures).flatMap method ++ r)
        = Text.splitAt '\n' (methodLine s ++ '\n' :: (signatures.flatMap method ++ r)) := by
          simp [method_eq]
      _ = (s :: signatures).map methodLine ++ Text.splitAt '\n' r := by
          rw [splitAt_piece (break_notMem_methodLine h), ih hs]
          rfl

theorem splitAt_fields {fields : List Field} (hf : ∀ f ∈ fields, Level f) (r : Text) :
    Text.splitAt '\n' (fields.flatMap Field.text ++ r) =
      fields.map fieldLine ++ Text.splitAt '\n' r := by
  induction fields with
  | nil => rfl
  | cons f fields ih =>
    obtain ⟨h, hf⟩ := List.forall_mem_cons.1 hf
    calc Text.splitAt '\n' ((f :: fields).flatMap Field.text ++ r)
        = Text.splitAt '\n' (fieldLine f ++ '\n' :: (fields.flatMap Field.text ++ r)) := by
          simp [text_eq_fieldLine]
      _ = (f :: fields).map fieldLine ++ Text.splitAt '\n' r := by
          rw [splitAt_piece (break_notMem_fieldLine h), ih hf]
          rfl

/-- From the brace that closes the service, or a message, to the end. -/
theorem splitAt_messages {messages : List Message} (hname : ∀ m ∈ messages, '\n' ∉ m.name)
    (hfields : ∀ m ∈ messages, ∀ f ∈ m.fields, Level f) :
    Text.splitAt '\n' ('\x7d' :: messages.flatMap Message.text) =
      ['\x7d'] :: messages.flatMap messageLines := by
  induction messages with
  | nil => decide
  | cons m messages ih =>
    obtain ⟨hn, hname⟩ := List.forall_mem_cons.1 hname
    obtain ⟨hf, hfields⟩ := List.forall_mem_cons.1 hfields
    have hempty : '\n' ∉ ([] : Text) := List.not_mem_nil
    have hbrace : '\n' ∉ (['\x7d'] : Text) := by decide
    calc Text.splitAt '\n' ('\x7d' :: (m :: messages).flatMap Message.text)
        = Text.splitAt '\n' (['\x7d'] ++ '\n' :: ([] ++ '\n' :: (titleLine m ++ '\n' ::
            (m.fields.flatMap Field.text ++ '\x7d' :: messages.flatMap Message.text)))) := by
          rw [List.flatMap_cons]
          unfold Message.text titleLine
          simp only [List.append_assoc, List.cons_append]
          rfl
      _ = ['\x7d'] :: [] :: titleLine m ::
            (m.fields.map fieldLine ++ ['\x7d'] :: messages.flatMap messageLines) := by
          rw [splitAt_piece hbrace, splitAt_piece hempty, splitAt_piece (break_notMem_titleLine hn),
            splitAt_fields hf, ih hname hfields]
      _ = ['\x7d'] :: (m :: messages).flatMap messageLines := by
          simp [messageLines]

theorem splitAt_opening (service r : Text) :
    Text.splitAt '\n' (opening service ++ r) = openingLines service ++ Text.splitAt '\n' r := by
  have hsplit : opening service ++ r =
      (preamble ++ "service ".toList ++ service ++ " \x7b".toList) ++ '\n' :: r := by
    unfold opening
    simp only [List.append_assoc]
    rfl
  rw [hsplit, splitAt_append, openingLines]

theorem break_notMem_wireType {t : ValueType} (h : IsLevelType t) (hu : t.isUnsupported = false) :
    '\n' ∉ wireType t := by
  have hproto {name : Text} (hname : '\n' ∉ name) : '\n' ∉ protoType name :=
    of_protoType (P := ('\n' ∉ ·)) (by decide) hname
  cases t with
  | scalar name => exact hproto h
  | arrayOf element => exact hproto h
  | unsupported source => cases hu

theorem level_messagesOf {naming : ReplyNaming} {signatures : List Signature}
    {messages : List Message} (hs : ∀ s ∈ signatures, IsLevel s)
    (h : messagesOf naming signatures = .ok messages) :
    ∀ m ∈ messages, ∀ f ∈ m.fields, Level f := by
  refine messagesOf_forall (fun s hmem n p hp f hf => ?_) (fun s hmem n r hr f hf => ?_) h
  · obtain ⟨rfl, hu⟩ := requestField_ok hf
    obtain ⟨hname, htype⟩ := (hs s hmem).parameter p hp
    exact ⟨break_notMem_wireType htype hu, hname⟩
  · obtain ⟨rfl, hu⟩ := replyField_ok hf
    exact ⟨break_notMem_wireType ((hs s hmem).result r hr) hu,
      notMem_replyFieldName (hs s hmem).name naming n (by decide) (by decide)⟩

/-- A message is named after its function. -/
theorem break_notMem_messageName {naming : ReplyNaming} {signatures : List Signature}
    {messages : List Message} (hs : ∀ s ∈ signatures, '\n' ∉ s.name)
    (h : messagesOf naming signatures = .ok messages) : ∀ m ∈ messages, '\n' ∉ m.name := by
  intro m hm
  have hmem : m.name ∈ (signatures.filter isExported).flatMap DocumentReferences.references := by
    rw [← DocumentReferences.messagesOf_names h]
    exact List.mem_map_of_mem hm
  obtain ⟨s, hsmem, hname⟩ := List.mem_flatMap.1 hmem
  have hbreak : '\n' ∉ s.name := hs s (List.mem_filter.1 hsmem).1
  rcases DocumentReferences.mem_references hname with hm | hm
  · simp [hm, requestName, hbreak]
  · simp [hm, replyName, hbreak]

/-- The lines behind the opening of a document. -/
theorem splitAt_body {naming : ReplyNaming} {signatures : List Signature}
    {messages : List Message} (hs : ∀ s ∈ signatures, IsLevel s)
    (h : messagesOf naming signatures = .ok messages) :
    Text.splitAt '\n' (signatures.flatMap method ++ '\x7d' :: messages.flatMap Message.text) =
      signatures.map methodLine ++ ['\x7d'] :: messages.flatMap messageLines := by
  have hname : ∀ s ∈ signatures, '\n' ∉ s.name := fun s hmem => (hs s hmem).name
  rw [splitAt_methods hname, splitAt_messages (break_notMem_messageName hname h)
    (level_messagesOf hs h)]

end Lines

section MethodLines

/-- The lines of a text that begin like a method line. -/
def methodLines (t : Text) : List Text := (t.splitAt '\n').filter methodMark.isPrefixOf

theorem filter_mark_eq_nil {lines : List Text} (h : ∀ l ∈ lines, ¬methodMark <+: l) :
    lines.filter methodMark.isPrefixOf = [] := by
  rw [List.filter_eq_nil_iff]
  intro l hl
  rw [List.isPrefixOf_iff_prefix]
  exact h l hl

theorem not_prefix_of_ne {c : Char} (h : c ≠ '\t') (l : Text) : ¬methodMark <+: c :: l := by
  rintro ⟨r, hr⟩
  exact h (List.head_eq_of_cons_eq hr).symm

/-- Behind the tab of a field there is no blank. -/
theorem not_prefix_fieldLine {f : Field} (h : IsPlain f.type) : ¬methodMark <+: fieldLine f := by
  obtain ⟨c, type, htype⟩ := List.exists_cons_of_ne_nil h.1
  have hblank : ' ' ∉ f.type := h.notMem (by decide)
  have hc : ' ' ≠ c := fun hc => hblank (by rw [htype, hc]; exact List.mem_cons_self)
  cases hr : f.repeated <;> simp [fieldLine, methodMark, hr, htype, hc]

theorem not_prefix_messageLines {m : Message} (h : ∀ f ∈ m.fields, IsPlain f.type) :
    ∀ l ∈ messageLines m, ¬methodMark <+: l := by
  intro l hl
  simp only [messageLines, List.mem_append, List.mem_cons, List.mem_map, List.not_mem_nil,
    or_false] at hl
  rcases hl with ((rfl | rfl) | ⟨f, hf, rfl⟩) | rfl
  · decide
  · exact not_prefix_of_ne (by decide) _
  · exact not_prefix_fieldLine (h f hf)
  · decide

theorem plainTypes_messagesOf {naming : ReplyNaming} {signatures : List Signature}
    {messages : List Message} (hs : ∀ s ∈ signatures, HasPlainNames s)
    (h : messagesOf naming signatures = .ok messages) :
    ∀ m ∈ messages, ∀ f ∈ m.fields, IsPlain f.type := by
  refine messagesOf_forall (fun s hmem n p hp f hf => ?_) (fun s hmem n r hr f hf => ?_) h
  · obtain ⟨rfl, hu⟩ := requestField_ok hf
    exact isPlain_wireType ((hs s hmem).parameter p hp).2 hu
  · obtain ⟨rfl, hu⟩ := replyField_ok hf
    exact isPlain_wireType ((hs s hmem).result r hr) hu

/-- The further lines of a service's name that begin like a method line. The last line of the
name has the brace behind it. -/
def nameLines (service : Text) : List Text :=
  (Text.splitAt '\n' (service ++ " \x7b".toList)).tail.filter methodMark.isPrefixOf

theorem nameLines_eq_nil {service : Text} (h : '\n' ∉ service) : nameLines service = [] := by
  have hservice : '\n' ∉ service ++ " \x7b".toList := by simp [h]
  rw [nameLines, splitAt_of_notMem hservice]
  rfl

/-- The opening has no method lines but those in the name of the service. -/
theorem methodLines_opening (service r : Text) :
    methodLines (opening service ++ r) = nameLines service ++ methodLines r := by
  have hopening : preamble ++ "service ".toList ++ service ++ " \x7b".toList =
      preamble.dropLast ++ '\n' :: ("service ".toList ++ (service ++ " \x7b".toList)) := by
    simp only [List.append_assoc]
    rfl
  have hservice : '\n' ∉ "service ".toList := by decide
  obtain ⟨piece, hpieces⟩ := splitAt_front hservice (service ++ " \x7b".toList)
  have hlines : openingLines service = Text.splitAt '\n' preamble.dropLast ++
      ("service ".toList ++ piece) :: (Text.splitAt '\n' (service ++ " \x7b".toList)).tail := by
    rw [openingLines, hopening, splitAt_append, hpieces]
  have hpreamble : ∀ l ∈ Text.splitAt '\n' preamble.dropLast, ¬methodMark <+: l := by decide
  have htitle : methodMark.isPrefixOf ("service ".toList ++ piece) = false := rfl
  unfold methodLines nameLines
  rw [splitAt_opening, hlines, List.filter_append, List.filter_append,
    filter_mark_eq_nil hpreamble, List.nil_append, List.filter_cons, htitle]
  rfl

/-- A document has the method lines of its signatures, and before them those in the name of its
service. -/
theorem methodLines_render {service document : Text} {naming : ReplyNaming}
    {signatures : List Signature} (hs : ∀ s ∈ signatures, HasPlainNames s)
    (h : render service signatures naming = .ok document) :
    methodLines document = nameLines service ++ signatures.map methodLine := by
  obtain ⟨messages, hm, rfl⟩ := render_ok h
  have hmethods : (signatures.map methodLine).filter methodMark.isPrefixOf =
      signatures.map methodLine := by
    rw [List.filter_eq_self, List.forall_mem_map]
    intro s _
    rw [List.isPrefixOf_iff_prefix]
    simp [methodLine]
  have hothers : ∀ l ∈ ['\x7d'] :: messages.flatMap messageLines, ¬methodMark <+: l := by
    rw [List.forall_mem_cons, List.forall_mem_flatMap]
    exact ⟨by decide, fun m hmem => not_prefix_messageLines (plainTypes_messagesOf hs hm m hmem)⟩
  rw [assemble_eq, methodLines_opening]
  unfold methodLines
  rw [splitAt_body (fun s hmem => isLevel_of_hasPlainNames (hs s hmem)) hm, List.filter_append,
    hmethods, filter_mark_eq_nil hothers, List.append_nil]

end MethodLines

end RpcSchema.DocumentLines
