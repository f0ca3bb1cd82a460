import RpcSchema.Proofs.DocumentReferences
import RpcSchema.Proofs.FieldNames
import RpcSchema.Proofs.QuotedSource
import Mathlib.Data.List.Forall2

/-! # A document determines what was written into it

Every piece of a document ends with a character that does not occur within it, so the
pieces can be read off one after the other: the methods, then message by message the
fields. -/
namespace RpcSchema.DocumentReading
open Signature MessageFields DocumentReferences PlainNames

/-- Two texts that agree agree up to the first occurrence of a character. -/
theorem cut {c : Char} {a b r t : Text} (ha : c ∉ a) (hb : c ∉ b)
    (h : a ++ c :: r = b ++ c :: t) : a = b ∧ r = t := by
  induction a generalizing b with
  | nil =>
    cases b with
    | nil => exact ⟨rfl, List.tail_eq_of_cons_eq h⟩
    | cons d b => exact absurd (List.head_eq_of_cons_eq h ▸ List.mem_cons_self) hb
  | cons d a ih =>
    cases b with
    | nil => exact absurd (List.head_eq_of_cons_eq h ▸ List.mem_cons_self) ha
    | cons e b =>
      obtain ⟨rfl, ht⟩ := List.cons.inj h
      obtain ⟨rfl, hr⟩ := ih (fun hc => ha (List.mem_cons_of_mem _ hc))
        (fun hc => hb (List.mem_cons_of_mem _ hc)) ht
      exact ⟨rfl, hr⟩

/-- Lines that begin with a tab are told apart from the brace that ends them. -/
theorem forall₂_of_flatMap {α : Type} {text : α → Text} {P : α → Prop} {R : α → α → Prop}
    (begins : ∀ a, ∃ s, text a = '\t' :: s)
    (cancel : ∀ {a b r t}, P a → P b → text a ++ r = text b ++ t → R a b ∧ r = t)
    {xs ys : List α} {r t : Text} (hx : ∀ a ∈ xs, P a) (hy : ∀ a ∈ ys, P a)
    (h : xs.flatMap text ++ '\x7d' :: r = ys.flatMap text ++ '\x7d' :: t) :
    List.Forall₂ R xs ys ∧ r = t := by
  induction xs generalizing ys with
  | nil =>
    cases ys with
    | nil => exact ⟨.nil, List.tail_eq_of_cons_eq h⟩
    | cons b ys =>
      obtain ⟨s, hs⟩ := begins b
      simp [hs] at h
  | cons a xs ih =>
    cases ys with
    | nil =>
      obtain ⟨s, hs⟩ := begins a
      simp [hs] at h
    | cons b ys =>
      rw [List.flatMap_cons, List.flatMap_cons, List.append_assoc, List.append_assoc] at h
      obtain ⟨hab, hrest⟩ := cancel (hx a List.mem_cons_self) (hy b List.mem_cons_self) h
      obtain ⟨hr, ht⟩ := ih (fun c hc => hx c (List.mem_cons_of_mem a hc))
        (fun c hc => hy c (List.mem_cons_of_mem b hc)) hrest
      exact ⟨.cons hab hr, ht⟩

/-- A field of which every part ends at the blank behind it. -/
structure Legible (f : Field) : Prop where
  type_blank : ' ' ∉ f.type
  name_blank : ' ' ∉ f.name
  name_equals : '=' ∉ f.name

/-- What stands behind the type of a field. -/
private def afterType (f : Field) (r : Text) : Text :=
  f.name ++ ' ' :: '=' :: ' ' :: (Text.ofNat f.number ++ ';' :: '\n' :: r)

private theorem field_text (f : Field) (r : Text) :
    f.text ++ r = '\t' :: ((if f.repeated then "repeated".toList ++ [' '] else []) ++
      (f.type ++ ' ' :: afterType f r)) := by
  unfold Field.text afterType
  simp only [List.append_assoc, List.cons_append]
  cases f.repeated <;> rfl

private theorem field_begins (f : Field) : ∃ s, f.text = '\t' :: s :=
  ⟨_, by rw [← List.append_nil f.text, field_text]⟩

private theorem afterType_cancel {f g : Field} (hf : Legible f) (hg : Legible g) {r t : Text}
    (h : afterType f r = afterType g t) : f.name = g.name ∧ f.number = g.number ∧ r = t := by
  obtain ⟨hn, h⟩ := cut hf.name_blank hg.name_blank h
  have hs : ∀ n, ';' ∉ Text.ofNat n := Numerals.notMem_ofNat (by decide)
  obtain ⟨hk, h⟩ := cut (hs _) (hs _) (List.tail_eq_of_cons_eq (List.tail_eq_of_cons_eq h))
  exact ⟨hn, Numerals.ofNat_inj hk, List.tail_eq_of_cons_eq h⟩

/-- Behind `repeated` and a type comes a name, but behind the type `repeated` and a name
comes the sign of equality. -/
private theorem repeated_ne {f g : Field} (hf : Legible f) (hg : Legible g) (r t : Text) :
    "repeated".toList ++ ' ' :: (f.type ++ ' ' :: afterType f r) ≠
      g.type ++ ' ' :: afterType g t := by
  intro h
  obtain ⟨-, h⟩ := cut (by decide) hg.type_blank h
  obtain ⟨-, h⟩ := cut hf.type_blank hg.name_blank h
  unfold afterType at h
  cases hn : f.name with
  | nil =>
    rw [hn, List.nil_append] at h
    exact absurd (List.head_eq_of_cons_eq h) (by decide)
  | cons c cs =>
    rw [hn, List.cons_append] at h
    have hc := hf.name_equals
    rw [hn, List.head_eq_of_cons_eq h] at hc
    exact hc List.mem_cons_self

theorem field_cancel {f g : Field} (hf : Legible f) (hg : Legible g) {r t : Text}
    (h : f.text ++ r = g.text ++ t) : f = g ∧ r = t := by
  rw [field_text, field_text, List.cons.injEq] at h
  obtain ⟨fr, fty, fn, fk⟩ := f
  obtain ⟨gr, gty, gn, gk⟩ := g
  -- the flags agree, since `repeated` cannot be taken for a type
  cases fr <;> cases gr
  · obtain ⟨hty, hrest⟩ := cut hf.type_blank hg.type_blank h.2
    obtain ⟨rfl, rfl, rfl⟩ := afterType_cancel hf hg hrest
    obtain rfl : fty = gty := hty
    exact ⟨rfl, rfl⟩
  · exact absurd h.2.symm (by simpa using repeated_ne hg hf t r)
  · exact absurd h.2 (by simpa using repeated_ne hf hg r t)
  · obtain ⟨hty, hrest⟩ := cut hf.type_blank hg.type_blank (List.append_cancel_left h.2)
    obtain ⟨rfl, rfl, rfl⟩ := afterType_cancel hf hg hrest
    obtain rfl : fty = gty := hty
    exact ⟨rfl, rfl⟩

private theorem message_text (m : Message) (r : Text) :
    m.text ++ r = header m ++ (m.fields.flatMap Field.text ++ '\x7d' :: r) := by
  rw [text_eq_header]
  simp only [List.append_assoc, List.singleton_append]

/-- Messages with one name and legible fields. -/
theorem message_cancel {m k : Message} (hname : m.name = k.name) (hm : ∀ f ∈ m.fields, Legible f)
    (hk : ∀ f ∈ k.fields, Legible f) {r t : Text} (h : m.text ++ r = k.text ++ t) :
    m = k ∧ r = t := by
  obtain ⟨name, fs⟩ := m
  obtain ⟨_, gs⟩ := k
  obtain rfl : name = _ := hname
  rw [message_text, message_text] at h
  have hfields := List.append_cancel_left h
  obtain ⟨hfs, hr⟩ := forall₂_of_flatMap (R := (· = ·)) field_begins
    (fun hf hg h => field_cancel hf hg h) hm hk hfields
  rw [List.forall₂_eq_eq_eq] at hfs
  obtain rfl : fs = gs := hfs
  exact ⟨rfl, hr⟩

/-- Messages of the same names. -/
theorem messages_cancel {ms ks : List Message} (hnames : ms.map Message.name = ks.map Message.name)
    (hm : ∀ m ∈ ms, ∀ f ∈ m.fields, Legible f) (hk : ∀ k ∈ ks, ∀ f ∈ k.fields, Legible f)
    (h : ms.flatMap Message.text = ks.flatMap Message.text) : ms = ks := by
  induction ms generalizing ks with
  | nil =>
    cases ks with
    | nil => rfl
    | cons k ks => cases hnames
  | cons m ms ih =>
    cases ks with
    | nil => cases hnames
    | cons k ks =>
      obtain ⟨hn, hns⟩ := List.cons.inj hnames
      rw [List.flatMap_cons, List.flatMap_cons] at h
      obtain ⟨rfl, hrest⟩ := message_cancel hn (hm m List.mem_cons_self)
        (hk k List.mem_cons_self) h
      rw [ih hns (fun m hc => hm m (List.mem_cons_of_mem _ hc))
        (fun k hc => hk k (List.mem_cons_of_mem _ hc)) hrest]

theorem isPlain_protoType {name : Text} (h : IsPlain name) : IsPlain (protoType name) :=
  of_protoType (by decide) h

theorem isPlain_wireType {t : ValueType} (h : HasPlainName t)
    (hu : t.isUnsupported = false) : IsPlain (wireType t) := by
  cases t with
  | scalar name => exact isPlain_protoType h
  | arrayOf element => exact isPlain_protoType h
  | unsupported source => cases hu

theorem legible_requestField {s : Signature} {n : Nat} {p : Parameter} {f : Field}
    (hn : IsPlain p.name) (ht : HasPlainName p.type) (h : s.requestField n p = .ok f) :
    Legible f := by
  obtain ⟨rfl, hu⟩ := requestField_ok h
  exact ⟨(isPlain_wireType ht hu).notMem (by decide), hn.notMem (by decide), hn.notMem (by decide)⟩

theorem notMem_replyFieldName {s : Signature} {c : Char} (hc : c ∉ s.name)
    (naming : ReplyNaming) (n : Nat) (hlow : c.toNat < 0x61) (hdigit : c.isDigit = false) :
    c ∉ s.replyFieldName naming n := by
  have hbase := FieldNames.notMem_resultFieldName hlow hc
  unfold replyFieldName
  split
  · intro hm
    rcases List.mem_append.1 hm with hm | hm
    · exact hbase hm
    · exact Numerals.notMem_ofNat hdigit n hm
  · exact hbase

theorem legible_replyField {s : Signature} {naming : ReplyNaming} {n : Nat} {r : ValueType}
    {f : Field} (hs : IsPlain s.name) (hr : HasPlainName r)
    (h : s.replyField naming n r = .ok f) : Legible f := by
  obtain ⟨rfl, hu⟩ := replyField_ok h
  exact ⟨(isPlain_wireType hr hu).notMem (by decide),
    notMem_replyFieldName (hs.notMem (by decide)) naming n (by decide) (by decide),
    notMem_replyFieldName (hs.notMem (by decide)) naming n (by decide) (by decide)⟩

theorem legible_messagesOf {naming : ReplyNaming} {signatures : List Signature}
    {messages : List Message} (hs : ∀ s ∈ signatures, HasPlainNames s)
    (h : messagesOf naming signatures = .ok messages) :
    ∀ m ∈ messages, ∀ f ∈ m.fields, Legible f := by
  refine messagesOf_forall (fun s hmem n p hp f hf => ?_) (fun s hmem n r hr f hf => ?_) h
  · exact legible_requestField ((hs s hmem).parameter p hp).1 ((hs s hmem).parameter p hp).2 hf
  · exact legible_replyField (hs s hmem).name ((hs s hmem).result r hr) hf

/-- What the method line tells of a signature. -/
structure SameMethod (s u : Signature) : Prop where
  name : s.name = u.name
  parameters : s.parameters.isEmpty = u.parameters.isEmpty
  results : s.results.isEmpty = u.results.isEmpty

private theorem method_text (s : Signature) (r : Text) :
    s.method ++ r = "\t rpc ".toList ++ (s.name ++ '(' :: (s.requestType ++
      (')' :: (" returns (".toList ++ (s.replyType ++ ')' :: (" \x7b\x7d\n".toList ++ r)))))) := by
  unfold method
  simp only [List.append_assoc, List.cons_append]
  rfl

private theorem method_begins (s : Signature) : ∃ t, s.method = '\t' :: t := by
  rw [← List.append_nil s.method, method_text]
  exact ⟨_, rfl⟩

theorem notMem_requestType {s : Signature} {c : Char} (h : c ∉ s.name) (he : c ∉ emptyMessage)
    (hr : c ∉ "Request".toList) : c ∉ s.requestType := by
  unfold requestType
  split
  · exact he
  · exact List.not_mem_append h hr

theorem notMem_replyType {s : Signature} {c : Char} (h : c ∉ s.name) (he : c ∉ emptyMessage)
    (hr : c ∉ "Reply".toList) : c ∉ s.replyType := by
  unfold replyType
  split
  · exact he
  · exact List.not_mem_append h hr

theorem method_cancel {s u : Signature} (hs : IsPlain s.name) (hu : IsPlain u.name) {r t : Text}
    (h : s.method ++ r = u.method ++ t) : SameMethod s u ∧ r = t := by
  rw [method_text, method_text] at h
  obtain ⟨hname, h⟩ := cut (hs.notMem (by decide)) (hu.notMem (by decide))
    (List.append_cancel_left h)
  have hreq : ∀ {s : Signature}, IsPlain s.name → ')' ∉ s.requestType := fun h =>
    notMem_requestType (h.notMem (by decide)) (by decide) (by decide)
  have hrep : ∀ {s : Signature}, IsPlain s.name → ')' ∉ s.replyType := fun h =>
    notMem_replyType (h.notMem (by decide)) (by decide) (by decide)
  obtain ⟨hq, h⟩ := cut (hreq hs) (hreq hu) h
  obtain ⟨hr, h⟩ := cut (hrep hs) (hrep hu) (List.append_cancel_left h)
  refine ⟨⟨hname, ?_, ?_⟩, List.append_cancel_left h⟩
  · rw [Bool.eq_iff_iff, ← requestType_eq_emptyMessage_iff, ← requestType_eq_emptyMessage_iff, hq]
  · rw [Bool.eq_iff_iff, ← replyType_eq_emptyMessage_iff, ← replyType_eq_emptyMessage_iff, hr]

theorem SameMethod.references_eq {s u : Signature} (h : SameMethod s u) :
    references s = references u := by
  rw [DocumentReferences.references_eq, DocumentReferences.references_eq, requestName, replyName,
    h.name, h.parameters, h.results]
  rfl

theorem SameMethod.isExported_eq {s u : Signature} (h : SameMethod s u) :
    s.isExported = u.isExported :=
  isExported_eq_of_name_eq h.name

theorem references_eq_of_forall₂ {xs ys : List Signature} (h : List.Forall₂ SameMethod xs ys) :
    (xs.filter isExported).flatMap references = (ys.filter isExported).flatMap references := by
  induction h with
  | nil => rfl
  | @cons s u _ _ hsu _ ih =>
    rw [List.filter_cons, List.filter_cons, hsu.isExported_eq]
    cases u.isExported with
    | false => exact ih
    | true => simp [hsu.references_eq, ih]

/-- What a document tells of a signature: the method, and the fields if it is exported. -/
structure SameContent (s u : Signature) : Prop extends SameMethod s u where
  parameterFields : s.isExported = true →
    s.parameters.map (fun p => (p.name, wireType p.type)) =
      u.parameters.map (fun p => (p.name, wireType p.type))
  resultFields : s.isExported = true →
    s.results.map (fun r => (isRepeated r, wireType r)) =
      u.results.map (fun r => (isRepeated r, wireType r))

theorem parameterFields_eq {s u : Signature} {m : Option Message} (h : SameMethod s u)
    (hs : s.requestMessage = .ok m) (hu : u.requestMessage = .ok m) (he : s.isExported = true) :
    s.parameters.map (fun p => (p.name, wireType p.type)) =
      u.parameters.map (fun p => (p.name, wireType p.type)) := by
  have hshow : ∀ (t : Signature) n p f, t.requestField n p = .ok f →
      (f.name, f.type) = (p.name, wireType p.type) := by
    intro t n p f hf
    rw [(requestField_ok hf).1]
  rcases requestMessage_ok hs with ⟨hc, rfl⟩ | ⟨-, fields, hn, rfl⟩
  · have hp : s.parameters.isEmpty = true := by simpa [he] using hc
    have hp' := h.parameters ▸ hp
    rw [List.isEmpty_iff.1 hp, List.isEmpty_iff.1 hp']
  · rcases requestMessage_ok hu with ⟨-, hm⟩ | ⟨-, fields', hn', hm⟩
    · cases hm
    obtain rfl : fields = fields' := (Message.mk.inj (Option.some.inj hm)).2
    rw [← numbered_map (hshow s) hn, ← numbered_map (hshow u) hn']

theorem resultFields_eq {s u : Signature} {naming : ReplyNaming} {m : Option Message}
    (h : SameMethod s u) (hs : s.replyMessage naming = .ok m) (hu : u.replyMessage naming = .ok m)
    (he : s.isExported = true) :
    s.results.map (fun r => (isRepeated r, wireType r)) =
      u.results.map (fun r => (isRepeated r, wireType r)) := by
  have hshow : ∀ (t : Signature) n r f, t.replyField naming n r = .ok f →
      (f.repeated, f.type) = (isRepeated r, wireType r) := by
    intro t n r f hf
    rw [(replyField_ok hf).1]
  rcases replyMessage_ok hs with ⟨hc, rfl⟩ | ⟨-, fields, hn, rfl⟩
  · have hr : s.results.isEmpty = true := by simpa [he] using hc
    have hr' := h.results ▸ hr
    rw [List.isEmpty_iff.1 hr, List.isEmpty_iff.1 hr']
  · rcases replyMessage_ok hu with ⟨-, hm⟩ | ⟨-, fields', hn', hm⟩
    · cases hm
    obtain rfl : fields = fields' := (Message.mk.inj (Option.some.inj hm)).2
    rw [← numbered_map (hshow s) hn, ← numbered_map (hshow u) hn']

private theorem toList_inj {m k : Option Message} (h : m.toList = k.toList) : m = k := by
  cases m <;> cases k <;> simp_all

/-- Messages of the same methods stand side by side. -/
theorem sameContent_of_messages {s u : Signature} {naming : ReplyNaming} {own : List Message}
    (h : SameMethod s u) (hs : s.messages naming = .ok own) (hu : u.messages naming = .ok own) :
    SameContent s u := by
  obtain ⟨q, r, hq, hr, rfl⟩ := messages_ok hs
  obtain ⟨q', r', hq', hr', hown⟩ := messages_ok hu
  have hnames : q.toList.map Message.name = q'.toList.map Message.name := by
    rw [requestMessage_name hq, requestMessage_name hq', h.isExported_eq, h.parameters,
      requestName, requestName, h.name]
  have hlen : q.toList.length = q'.toList.length := by
    simpa using congrArg List.length hnames
  obtain ⟨h1, h2⟩ := List.append_inj hown hlen
  obtain rfl := toList_inj h1
  obtain rfl := toList_inj h2
  exact { h with
    parameterFields := parameterFields_eq h hq hq'
    resultFields := resultFields_eq h hr hr' }

theorem sameContent_of_messagesOf {naming : ReplyNaming} {xs ys : List Signature}
    {messages : List Message} (h : List.Forall₂ SameMethod xs ys)
    (hx : messagesOf naming xs = .ok messages) (hy : messagesOf naming ys = .ok messages) :
    List.Forall₂ SameContent xs ys := by
  induction h generalizing messages with
  | nil => exact .nil
  | @cons s u _ _ hsu _ ih =>
    obtain ⟨own, others, ho, hm, rfl⟩ := messagesOf_cons_ok hx
    obtain ⟨own', others', ho', hm', hall⟩ := messagesOf_cons_ok hy
    have hnames : own.map Message.name = own'.map Message.name := by
      rw [messages_names ho, messages_names ho', hsu.isExported_eq, hsu.references_eq]
    have hlen : own.length = own'.length := by
      simpa using congrArg List.length hnames
    obtain ⟨rfl, rfl⟩ := List.append_inj hall hlen
    exact .cons (sameContent_of_messages hsu ho ho') (ih hm hm')

theorem sameContent_of_render {service document : Text} {naming : ReplyNaming}
    {xs ys : List Signature} (hxs : ∀ s ∈ xs, HasPlainNames s) (hys : ∀ s ∈ ys, HasPlainNames s)
    (hx : render service xs naming = .ok document)
    (hy : render service ys naming = .ok document) : List.Forall₂ SameContent xs ys := by
  obtain ⟨ms, hms, rfl⟩ := render_ok hx
  obtain ⟨ks, hks, hdoc⟩ := render_ok hy
  rw [assemble_eq, assemble_eq] at hdoc
  obtain ⟨hmethods, htexts⟩ := forall₂_of_flatMap method_begins
    (fun hs hu h => method_cancel hs hu h) (fun s hs => (hxs s hs).name)
    (fun s hs => (hys s hs).name) (List.append_cancel_left hdoc)
  have hnames : ms.map Message.name = ks.map Message.name := by
    rw [messagesOf_names hms, messagesOf_names hks, references_eq_of_forall₂ hmethods]
  obtain rfl := messages_cancel hnames (legible_messagesOf hxs hms) (legible_messagesOf hys hks)
    htexts
  exact sameContent_of_messagesOf hmethods hms hks

/-- Plain names make a document readable: two lists of signatures with one document have
the same content, signature by signature. All names that are extracted from a source are
plain. -/
theorem document_determines_content :
    (∀ source signatures, signaturesOf source = .ok signatures →
      ∀ s ∈ signatures, HasPlainNames s) ∧
    ∀ (service document : Text) (naming : ReplyNaming) (xs ys : List Signature),
      (∀ s ∈ xs, HasPlainNames s) → (∀ s ∈ ys, HasPlainNames s) →
      render service xs naming = .ok document → render service ys naming = .ok document →
      List.Forall₂ SameContent xs ys := by
  constructor
  · intro source signatures h s hs
    exact QuotedSource.hasPlainNames_of_signaturesOf h s hs
  · intro service document naming xs ys hxs hys hx hy
    exact sameContent_of_render hxs hys hx hy

/-- Two lists that differ in what a document does not tell: the width of a number, and
the type of a result that is not exported. -/
def narrow : List Signature :=
  [⟨"GetAge".toList, [⟨"id".toList, .scalar "int8".toList⟩], [.arrayOf "uint".toList]⟩,
    ⟨"helper".toList, [], [.unsupported "*User".toList]⟩]

def wide : List Signature :=
  [⟨"GetAge".toList, [⟨"id".toList, .scalar "int".toList⟩], [.arrayOf "uint16".toList]⟩,
    ⟨"helper".toList, [], [.scalar "User".toList]⟩]

theorem document_determines_content_narrow :
    ∃ document, render "Users".toList narrow .positional = .ok document ∧
      render "Users".toList wide .positional = .ok document ∧
      (∀ s ∈ narrow ++ wide, HasPlainNames s) ∧ List.Forall₂ SameContent narrow wide ∧
      signaturesOf QuotedSource.mixedSource = .ok [QuotedSource.mixedSignature] ∧
      HasPlainNames QuotedSource.mixedSignature := by
  obtain ⟨document, hn⟩ : ∃ d, render "Users".toList narrow .positional = .ok d := ⟨_, rfl⟩
  have hw : render "Users".toList wide .positional = .ok document := hn ▸ rfl
  have hplain : ∀ s ∈ narrow ++ wide, HasPlainNames s := by decide
  have hsource := QuotedSource.signaturesOf_mixedSource
  refine ⟨document, hn, hw, hplain, document_determines_content.2 _ _ _ _ _ ?_ ?_ hn hw, hsource,
    document_determines_content.1 _ _ hsource _ List.mem_cons_self⟩
  · exact fun s hs => hplain s (List.mem_append_left _ hs)
  · exact fun s hs => hplain s (List.mem_append_right _ hs)

end RpcSchema.DocumentReading
