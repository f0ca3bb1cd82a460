import RpcSchema.GoLexeme
import RpcSchema.Proofs.ReaderRun

/-! # What readers can yield

A statement about all values that a reader yields in pieces of one source. As a reader
leaves an end piece of what it was given, the statements follow the way in which a
reader is put together. -/
namespace RpcSchema.ReaderOutcome
open Reader ReaderRun

/-- Wherever the reader starts in the source, what it yields has the property. -/
def Yields {α : Type} (source : Text) (p : Reader α) (P : α → Prop) : Prop :=
  ∀ s a r, s <:+ source → p.run s = some (a, r) → P a

variable {α β σ : Type} {source : Text} {p q : Reader α} {P : α → Prop}

theorem Yields.any (p : Reader α) : Yields source p fun _ => True :=
  fun _ _ _ _ _ => trivial

theorem Yields.imp {Q : α → Prop} (h : Yields source p P) (hq : ∀ a, P a → Q a) :
    Yields source p Q :=
  fun s a r hs hr => hq a (h s a r hs hr)

theorem Yields.pure {a : α} (h : P a) : Yields source (pure a) P := by
  intro s b r _ hr
  obtain ⟨rfl, -⟩ := Prod.mk.inj (Option.some.inj hr)
  exact h

theorem Yields.fail : Yields source (fail : Reader α) P := by
  intro s a r _ hr
  cases hr

theorem Yields.bind {f : α → Reader β} {Q : β → Prop} (hp : Yields source p P)
    (hf : ∀ a, P a → Yields source (f a) Q) : Yields source (p >>= f) Q := by
  intro s b t hs hr
  obtain ⟨a, r, ha, hr⟩ := exists_of_run_bind hr
  exact hf a (hp s a r hs ha) r b t ((p.suffix ha).trans hs) hr

/-- What the first of two readers yields does not matter. -/
theorem Yields.after {f : α → Reader β} {Q : β → Prop} (hf : ∀ a, Yields source (f a) Q) :
    Yields source (p >>= f) Q :=
  (Yields.any p).bind fun a _ => hf a

theorem Yields.orElse (hp : Yields source p P) (hq : Yields source q P) :
    Yields source (p <|> q) P := by
  intro s a r hs hr
  rw [run_orElse] at hr
  rcases Option.or_eq_some_iff.1 hr with h | ⟨-, h⟩
  · exact hp s a r hs h
  · exact hq s a r hs h

theorem Yields.ite {c : Prop} [Decidable c] (hp : Yields source p P) (hq : Yields source q P) :
    Yields source (if c then p else q) P := by
  split
  · exact hp
  · exact hq

theorem Yields.optional (h : Yields source p P) :
    Yields source p.optional fun o => ∀ a ∈ o, P a := by
  change Yields source ((p >>= fun a => Pure.pure (some a)) <|> Pure.pure none) _
  refine Yields.orElse (Yields.bind h fun a ha => Yields.pure ?_) (Yields.pure ?_)
  · intro b hb
    obtain rfl := Option.some.inj hb
    exact ha
  · intro b hb
    cases hb

theorem Yields.repeated {step : σ → Reader (α × σ)}
    (h : ∀ state, Yields source (step state) fun x => P x.1) (n : Nat) (state : σ) :
    Yields source (Reader.repeated step n state) fun as => ∀ a ∈ as, P a := by
  induction n generalizing state with
  | zero =>
    change Yields source (Pure.pure []) _
    exact Yields.pure (by simp)
  | succ n ih =>
    change Yields source ((step state >>= fun x => Reader.repeated step n x.2 >>= fun as =>
      Pure.pure (x.1 :: as)) <|> Pure.pure []) _
    refine Yields.orElse (Yields.bind (h state) fun x hx => Yields.bind (ih x.2) fun as has =>
      Yields.pure ?_) (Yields.pure (by simp))
    intro a ha
    rcases List.mem_cons.1 ha with rfl | ha
    · exact hx
    · exact has a ha

theorem Yields.manyFrom {step : σ → Reader (α × σ)}
    (h : ∀ state, Yields source (step state) fun x => P x.1) (state : σ) :
    Yields source (Reader.manyFrom step state) fun as => ∀ a ∈ as, P a :=
  Yields.after (p := remaining) fun s => Yields.repeated h s.length state

theorem Yields.many (h : Yields source p P) :
    Yields source (Reader.many p) fun as => ∀ a ∈ as, P a := by
  change Yields source (Reader.manyFrom (fun _ => p >>= fun a => Pure.pure (a, ())) ()) _
  exact Yields.manyFrom (fun _ => Yields.bind h fun _ ha => Yields.pure ha) ()

/-- A piece that was read is a piece of the source. -/
theorem Yields.captured (h : Yields source p P) :
    Yields source (captured p) fun x => x.1 <:+: source ∧ P x.2 := by
  intro s x t hs hr
  obtain ⟨hpiece, ha⟩ := of_run_captured hr
  exact ⟨(hpiece ▸ List.prefix_append x.1 t).isInfix.trans hs.isInfix, h s x.2 t hs ha⟩

/-- Wherever the reader starts, the piece that it takes off is related to what it yields. -/
def Takes {α : Type} (p : Reader α) (R : Text → α → Prop) : Prop :=
  ∀ s a r, p.run s = some (a, r) → ∃ piece, s = piece ++ r ∧ R piece a

variable {R : Text → α → Prop}

theorem Takes.any (p : Reader α) : Takes p fun _ _ => True := by
  intro s a r hr
  obtain ⟨piece, hs⟩ := p.suffix hr
  exact ⟨piece, hs.symm, trivial⟩

theorem Takes.imp {Q : Text → α → Prop} (h : Takes p R) (hq : ∀ piece a, R piece a → Q piece a) :
    Takes p Q := by
  intro s a r hr
  obtain ⟨piece, hs, ha⟩ := h s a r hr
  exact ⟨piece, hs, hq piece a ha⟩

theorem Takes.pure {a : α} (h : R [] a) : Takes (pure a) R := by
  intro s b r hr
  obtain ⟨rfl, rfl⟩ := Prod.mk.inj (Option.some.inj hr)
  exact ⟨[], rfl, h⟩

theorem Takes.bind {f : α → Reader β} {Q : Text → β → Prop} (hp : Takes p R)
    (hf : ∀ u a, R u a → Takes (f a) fun v b => Q (u ++ v) b) : Takes (p >>= f) Q := by
  intro s b t hr
  obtain ⟨a, r, ha, hr⟩ := exists_of_run_bind hr
  obtain ⟨u, hu, hR⟩ := hp s a r ha
  obtain ⟨v, hv, hQ⟩ := hf u a hR r b t hr
  exact ⟨u ++ v, by rw [hu, hv, List.append_assoc], hQ⟩

theorem Takes.orElse (hp : Takes p R) (hq : Takes q R) : Takes (p <|> q) R := by
  intro s a r hr
  rw [run_orElse] at hr
  rcases Option.or_eq_some_iff.1 hr with h | ⟨-, h⟩
  · exact hp s a r h
  · exact hq s a r h

/-- Where nothing is read, nothing is taken off. -/
theorem Takes.optional (p : Reader α) : Takes p.optional fun piece o => o = none → piece = [] := by
  change Takes ((p >>= fun a => Pure.pure (some a)) <|> Pure.pure none) _
  refine Takes.orElse (Takes.bind (Takes.any p) fun u a _ => Takes.pure ?_)
    (Takes.pure fun _ => rfl)
  intro h
  cases h

theorem Takes.require (c : Bool) : Takes (require c) fun piece _ => piece = [] := by
  cases c with
  | true => exact Takes.pure rfl
  | false => exact fun s a r hr => by cases hr

theorem Takes.exactly (piece : Text) : Takes (exactly piece) fun u _ => u = piece := by
  intro s a r hr
  change (if piece <+: s then some ((), s.drop piece.length) else none) = _ at hr
  split at hr
  · next hprefix =>
    obtain ⟨t, rfl⟩ := hprefix
    cases hr
    exact ⟨piece, by simp, rfl⟩
  · cases hr

end RpcSchema.ReaderOutcome
