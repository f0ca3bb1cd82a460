import RpcSchema.TextReader
import Mathlib.Data.List.Basic

/-! # Runs of readers

`Reads` and `Refuses` say what a reader does at one place. Their rules follow the way in
which readers are put together, so that a run is derived step by step from the runs of
the parts. -/
namespace RpcSchema.ReaderRun

variable {α β σ : Type} {p q : Reader α} {f : α → Reader β} {s r t : Text} {a : α} {b : β}

/-- The reader reads `a` off the front of `s` and leaves `r`. -/
def Reads (p : Reader α) (s : Text) (a : α) (r : Text) : Prop := p.run s = some (a, r)

/-- The reader fails on `s`. -/
def Refuses (p : Reader α) (s : Text) : Prop := p.run s = none

theorem Reads.pure : Reads (pure a) s a s :=
  rfl

theorem Refuses.fail : Refuses (Reader.fail : Reader α) s :=
  rfl

theorem run_bind (p : Reader α) (f : α → Reader β) (s : Text) :
    (p >>= f).run s = (p.run s).bind fun x => (f x.1).run x.2 := by
  change (Reader.bind p f).run s = _
  dsimp only [Reader.bind]
  cases p.run s <;> rfl

/-- What two readers in a row have read. -/
theorem exists_of_run_bind (h : (p >>= f).run s = some (b, t)) :
    ∃ a r, p.run s = some (a, r) ∧ (f a).run r = some (b, t) := by
  rw [run_bind] at h
  obtain ⟨x, hx, h⟩ := Option.bind_eq_some_iff.1 h
  exact ⟨x.1, x.2, hx, h⟩

theorem run_orElse (p q : Reader α) (s : Text) : (p <|> q).run s = (p.run s).or (q.run s) := by
  change (Reader.orElse p fun _ => q).run s = _
  dsimp only [Reader.orElse]
  cases p.run s <;> rfl

theorem run_captured (p : Reader α) (s : Text) :
    (Reader.captured p).run s =
      (p.run s).map fun x => ((s.take (s.length - x.2.length), x.1), x.2) := by
  dsimp only [Reader.captured]
  cases p.run s <;> rfl

/-- The piece that is kept is what was read. -/
theorem of_run_captured {piece : Text}
    (h : (Reader.captured p).run s = some ((piece, a), r)) :
    s = piece ++ r ∧ p.run s = some (a, r) := by
  rw [run_captured] at h
  obtain ⟨y, hy, hx⟩ := Option.map_eq_some_iff.1 h
  obtain ⟨hkept, rfl⟩ := Prod.mk.inj hx
  obtain ⟨rfl, rfl⟩ := Prod.mk.inj hkept
  obtain ⟨piece, rfl⟩ := p.suffix hy
  exact ⟨by simp, hy⟩

/-- What the first reader makes of a text is all that matters. -/
theorem run_bind_congr (h : p.run s = p.run r) : (p >>= f).run s = (p >>= f).run r := by
  rw [run_bind, h, run_bind]

theorem Reads.bind (hp : Reads p s a r) (hf : Reads (f a) r b t) : Reads (p >>= f) s b t := by
  unfold Reads at *
  rw [run_bind, hp]
  exact hf

theorem Reads.run_eq (hp : Reads p s a r) : (p >>= f).run s = (f a).run r := by
  unfold Reads at hp
  rw [run_bind, hp, Option.bind_some]

theorem Refuses.bind (h : Refuses p s) : Refuses (p >>= f) s := by
  unfold Refuses at *
  rw [run_bind, h, Option.bind_none]

/-- A refusal behind something that could be read. -/
theorem Reads.bind_refuses (hp : Reads p s a r) (hf : Refuses (f a) r) : Refuses (p >>= f) s := by
  unfold Reads Refuses at *
  rw [run_bind, hp]
  exact hf

theorem Reads.orElse (h : Reads p s a r) : Reads (p <|> q) s a r := by
  unfold Reads at *
  rw [run_orElse, h, Option.some_or]

theorem Refuses.orElse (hp : Refuses p s) (hq : Reads q s a r) : Reads (p <|> q) s a r := by
  unfold Reads Refuses at *
  rw [run_orElse, hp, Option.none_or, hq]

theorem Refuses.orElse_refuses (hp : Refuses p s) (hq : Refuses q s) : Refuses (p <|> q) s := by
  unfold Refuses at *
  rw [run_orElse, hp, Option.none_or, hq]

theorem Reads.require {c : Bool} (h : c = true) : Reads (Reader.require c) s () s := by
  subst h
  rfl

theorem Refuses.require {c : Bool} (h : c = false) : Refuses (Reader.require c) s := by
  subst h
  rfl

theorem Reads.map {f : α → β} (h : Reads p s a r) : Reads (f <$> p) s (f a) r :=
  Reads.bind (f := fun a => Pure.pure (f a)) h .pure

theorem Refuses.map {f : α → β} (h : Refuses p s) : Refuses (f <$> p) s :=
  Refuses.bind (f := fun a => Pure.pure (f a)) h

theorem Reads.optional (h : Reads p s a r) : Reads p.optional s (some a) r :=
  Reads.orElse (p := p >>= fun a => Pure.pure (some a)) (q := Pure.pure none) (Reads.bind h .pure)

theorem Refuses.optional (h : Refuses p s) : Reads p.optional s none s :=
  Refuses.orElse (p := p >>= fun a => Pure.pure (some a)) (q := Pure.pure none) h.bind .pure

theorem Reads.peek (h : Reads p s a r) : Reads (Reader.peek p) s (some a) s := by
  unfold Reads at *
  change some ((p.run s).map Prod.fst, s) = _
  rw [h]
  rfl

theorem Refuses.peek (h : Refuses p s) : Reads (Reader.peek p) s none s := by
  unfold Refuses at h
  change some ((p.run s).map Prod.fst, s) = _
  rw [h]
  rfl

theorem Reads.sees (h : Reads p s a r) : Reads (Reader.sees p) s true s := by
  unfold Reads at *
  change some (((p.run s).map Prod.fst).isSome, s) = _
  rw [h]
  rfl

theorem Refuses.sees (h : Refuses p s) : Reads (Reader.sees p) s false s := by
  unfold Refuses at h
  change some (((p.run s).map Prod.fst).isSome, s) = _
  rw [h]
  rfl

/-- Looking ahead never fails. -/
theorem sees_run (p : Reader α) (s : Text) : ∃ c, Reads (Reader.sees p) s c s := by
  cases h : p.run s with
  | none => exact ⟨false, Refuses.sees h⟩
  | some x => exact ⟨true, Reads.sees (a := x.1) (r := x.2) h⟩

/-- The piece that was read is what stands before the rest. -/
theorem Reads.captured (h : Reads p (s ++ r) a r) :
    Reads (Reader.captured p) (s ++ r) (s, a) r := by
  unfold Reads at *
  rw [run_captured, h]
  simp

theorem Refuses.captured (h : Refuses p s) : Refuses (Reader.captured p) s := by
  unfold Refuses at *
  rw [run_captured, h, Option.map_none]

/-- Values read one after the other, until the next one is refused. -/
inductive Chain (step : σ → Reader (α × σ)) : σ → Text → List α → Text → Prop where
  | stop {state s} : Refuses (step state) s → Chain step state s [] s
  | step {state state' s a r as t} : Reads (step state) s (a, state') r → r.length < s.length →
      Chain step state' r as t → Chain step state s (a :: as) t

/-- There is always room for what is still to be read. -/
theorem Chain.repeated {step : σ → Reader (α × σ)} {state : σ} {as : List α}
    (h : Chain step state s as t) {n : Nat} (hn : s.length ≤ n) :
    Reads (Reader.repeated step n state) s as t := by
  induction h generalizing n with
  | @stop state s h =>
    cases n with
    | zero => exact .pure
    | succ n =>
      exact Refuses.orElse (p := step state >>= fun x => Reader.repeated step n x.2 >>= fun xs =>
        Pure.pure (x.1 :: xs)) (q := Pure.pure []) h.bind .pure
  | @step state state' s a r as t hs hlt _ ih =>
    cases n with
    | zero => omega
    | succ n =>
      exact Reads.orElse (p := step state >>= fun x => Reader.repeated step n x.2 >>= fun xs =>
        Pure.pure (x.1 :: xs)) (q := Pure.pure []) (hs.bind ((ih (by omega)).bind .pure))

theorem Chain.manyFrom {step : σ → Reader (α × σ)} {state : σ} {as : List α}
    (h : Chain step state s as t) : Reads (Reader.manyFrom step state) s as t :=
  Reads.bind (p := Reader.remaining) (f := fun s => Reader.repeated step s.length state) rfl
    (h.repeated (Nat.le_refl _))

/-- One value after the other, without a state. -/
def single (p : Reader α) (_ : Unit) : Reader (α × Unit) := p >>= fun a => pure (a, ())

theorem Chain.many {as : List α} (h : Chain (single p) () s as t) : Reads (Reader.many p) s as t :=
  h.manyFrom

theorem Chain.stop_many (h : Refuses p s) : Chain (single p) () s [] s :=
  .stop h.bind

theorem Chain.step_many {as : List α} (h : Reads p s a r) (hlt : r.length < s.length)
    (ht : Chain (single p) () r as t) : Chain (single p) () s (a :: as) t :=
  .step (h.bind .pure) hlt ht

theorem Reads.separated {separator : Reader β} {as : List α} (h : Reads p s a r)
    (hs : Chain (single (separator >>= fun _ => p)) () r as t) :
    Reads (Reader.separated separator p) s (a :: as) t :=
  Reads.bind (p := p) (f := fun a => Reader.many (separator >>= fun _ => p) >>= fun as =>
    Pure.pure (a :: as)) h (hs.many.bind .pure)

/-- A value without a separator behind it. -/
theorem Reads.separated_one {separator : Reader β} (h : Reads p s a r)
    (hs : Refuses separator r) : Reads (Reader.separated separator p) s [a] r :=
  h.separated (.stop_many hs.bind)

section Characters

variable {c : Char} {P : Char → Bool}

theorem forall_head {Q : Char → Prop} (h : Q c) : ∀ d ∈ (c :: r).head?, Q d := by
  intro d hd
  exact Option.some.inj hd ▸ h

theorem Reads.one (h : P c = true) : Reads (Reader.one P) (c :: s) c s := by
  unfold Reads
  change (if P c then some (c, s) else none) = _
  rw [if_pos h]

theorem Refuses.one (h : P c = false) : Refuses (Reader.one P) (c :: s) := by
  unfold Refuses
  change (if P c then some (c, s) else none) = _
  rw [h]
  rfl

theorem Reads.anyOf {cs : List Char} (h : cs.contains c = true) :
    Reads (Reader.anyOf cs) (c :: s) () s :=
  Reads.bind (p := Reader.one _) (f := fun _ => Pure.pure ()) (.one h) .pure

theorem Refuses.anyOf {cs : List Char} (h : cs.contains c = false) :
    Refuses (Reader.anyOf cs) (c :: s) :=
  Refuses.bind (p := Reader.one _) (f := fun _ => Pure.pure ()) (.one h)

theorem Reads.mark : Reads (Reader.anyOf [c]) (c :: s) () s :=
  .anyOf (by simp)

theorem Refuses.mark {d : Char} (h : c ≠ d) : Refuses (Reader.anyOf [d]) (c :: s) :=
  .anyOf (by simpa using h)

/-- The characters of a class end where the next one is not in it. -/
theorem Reads.span {w : Text} (hw : ∀ c ∈ w, P c = true) (hr : ∀ c ∈ r.head?, P c = false) :
    Reads (Reader.span P) (w ++ r) w r := by
  have hrest : r.takeWhile P = [] ∧ r.dropWhile P = r := by
    cases r with
    | nil => exact ⟨rfl, rfl⟩
    | cons c r =>
      have hc : ¬P c = true := by simp [hr c rfl]
      exact ⟨List.takeWhile_cons_of_neg hc, List.dropWhile_cons_of_neg hc⟩
  change some ((w ++ r).takeWhile P, (w ++ r).dropWhile P) = some (w, r)
  rw [List.takeWhile_append_of_pos hw, List.dropWhile_append_of_pos hw, hrest.1, hrest.2,
    List.append_nil]

theorem Reads.exactly (piece s : Text) : Reads (Reader.exactly piece) (piece ++ s) () s := by
  unfold Reads
  change (if piece <+: piece ++ s then some ((), (piece ++ s).drop piece.length) else none) = _
  rw [if_pos (List.prefix_append piece s), List.drop_left]

theorem Refuses.exactly_of_not {piece : Text} (h : ¬piece <+: s) :
    Refuses (Reader.exactly piece) s :=
  if_neg h

theorem Refuses.exactly {d : Char} {piece : Text} (h : d ≠ c) :
    Refuses (Reader.exactly (d :: piece)) (c :: s) :=
  .exactly_of_not fun hp => h (List.cons_prefix_cons.1 hp).1

theorem Reads.front : Reads Reader.front s s.head? s :=
  rfl

end Characters

end RpcSchema.ReaderRun
