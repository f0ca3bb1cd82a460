import RpcSchema.FileTree
import Mathlib.Data.List.Basic

/-! # Writing a file

A written file is read back, and nothing else in the tree is different: the way to the file
goes through directories, and none of them is the place that is written. -/
namespace RpcSchema.FileTree

variable {t after : FileTree} {path : Text} {place next : Place} {bytes : ByteArray}

theorem lookup_filter_ne {entries : List (Place × Entry)} (h : next ≠ place) :
    (entries.filter (·.1 != place)).lookup next = entries.lookup next := by
  induction entries with
  | nil => rfl
  | cons entry entries ih =>
    obtain ⟨key, value⟩ := entry
    by_cases hkey : key = place
    · have hnext : (next == key) = false := by simp [hkey, h]
      simp [hkey, List.lookup_cons, ih, hkey ▸ hnext]
    · simp [hkey, List.lookup_cons, ih]

@[simp] theorem entry_put_self {entry : Entry} (h : place ≠ []) :
    entry? (t.put place entry) place = some entry := by
  unfold entry? put
  simp [h]

theorem entry_put_of_ne {entry : Entry} (h : next ≠ place) :
    entry? (t.put place entry) next = t.entry? next := by
  have hbeq : (next == place) = false := by simp [h]
  unfold entry? put
  simp [List.lookup_cons, hbeq, lookup_filter_ne h]

/-- One can go on from a directory only. -/
theorem follow_cons_ok {name : Text} {rest : List Text}
    (h : t.follow place (name :: rest) = .ok next) :
    ∃ stop, t.entry? place = some .directory ∧ step place name = some stop ∧
      t.follow stop rest = .ok next := by
  unfold follow at h
  cases he : t.entry? place with
  | none => simp [he] at h
  | some entry =>
    cases hs : step place name with
    | none => cases entry <;> simp [he, hs] at h
    | some stop =>
      cases entry with
      | file own => simp [he, hs] at h
      | directory => exact ⟨stop, rfl, rfl, by simpa [he, hs] using h⟩

theorem follow_cons {name : Text} {rest : List Text} {stop : Place}
    (he : t.entry? place = some .directory) (hs : step place name = some stop) :
    t.follow place (name :: rest) = t.follow stop rest := by
  simp [follow, he, hs]

theorem follow_append_ok {names rest : List Text}
    (h : t.follow place (names ++ rest) = .ok next) :
    ∃ stop, t.follow place names = .ok stop ∧ t.follow stop rest = .ok next := by
  induction names generalizing place with
  | nil => exact ⟨place, rfl, h⟩
  | cons name names ih =>
    obtain ⟨stop, he, hs, hrest⟩ := follow_cons_ok h
    obtain ⟨last, hnames, hlast⟩ := ih hrest
    exact ⟨last, (follow_cons he hs).trans hnames, hlast⟩

theorem follow_append {names rest : List Text} {stop : Place}
    (h : t.follow place names = .ok stop) :
    t.follow place (names ++ rest) = t.follow stop rest := by
  induction names generalizing place with
  | nil => rw [Except.ok.inj h]; rfl
  | cons name names ih =>
    obtain ⟨following, he, hs, hrest⟩ := follow_cons_ok h
    rw [List.cons_append, follow_cons he hs, ih hrest]

/-- An entry that is put in the place of something else than a directory bars no way. -/
theorem follow_put {names : List Text} {start stop : Place} {entry : Entry}
    (hplace : t.entry? place ≠ some .directory) (h : t.follow start names = .ok stop) :
    (t.put place entry).follow start names = .ok stop := by
  induction names generalizing start with
  | nil => exact h
  | cons name names ih =>
    obtain ⟨following, he, hs, hrest⟩ := follow_cons_ok h
    have hne : start ≠ place := fun hf => hplace (hf ▸ he)
    rw [follow_cons ((entry_put_of_ne hne).trans he) hs]
    exact ih hrest

/-- The place to write to stands in a directory, under the last name of the path. -/
theorem target_ok (h : t.target path = .ok place) :
    ∃ parent last, names path = (names path).dropLast ++ [last] ∧
      t.follow [] (names path).dropLast = .ok parent ∧ t.entry? parent = some .directory ∧
      last ≠ ['.'] ∧ last ≠ ['.', '.'] ∧ endsInSlash path = false ∧
      t.entry? place ≠ some .directory ∧ place = parent ++ [last] := by
  unfold target at h
  cases hlast : (names path).getLast? with
  | none => simp [hlast] at h
  | some last =>
    simp only [hlast] at h
    cases hfollow : t.follow [] ((names path).dropLast ++ [['.']]) with
    | error e => simp [hfollow] at h
    | ok parent =>
      obtain ⟨stop, hstop, hdot⟩ := follow_append_ok hfollow
      obtain ⟨following, hdirectory, hstep, hfollowing⟩ := follow_cons_ok hdot
      -- the single dot asks for a directory and stays there
      obtain rfl : stop = parent := by
        rw [step, if_pos rfl] at hstep
        exact (Option.some.inj hstep).trans (Except.ok.inj hfollowing)
      simp only [hfollow] at h
      split at h
      · cases h
      · next hguard =>
        obtain rfl := Except.ok.inj h
        simp only [Bool.or_eq_true, decide_eq_true_eq, not_or, Bool.not_eq_true] at hguard
        obtain ⟨⟨⟨hslash, hone⟩, htwo⟩, hentry⟩ := hguard
        refine ⟨stop, last, ?_, hstop, hdirectory, hone, htwo, hslash, ?_, rfl⟩
        · exact (List.dropLast_append_getLast? last hlast).symm
        · intro hd
          simp [hd, Entry.isDirectory] at hentry

/-- The tree after differs from the tree before in one file, which has the bytes that are
read at a path. -/
structure Wrote (before after : FileTree) (path : Text) (bytes : ByteArray) : Prop where
  reads : after.read path = .ok bytes
  others : ∃ place, before.target path = .ok place ∧ after.entry? place = some (.file bytes) ∧
    ∀ other, other ≠ place → after.entry? other = before.entry? other

theorem read_put (h : t.target path = .ok place) :
    (t.put place (.file bytes)).read path = .ok bytes := by
  obtain ⟨parent, last, hnames, hparent, hdirectory, hone, htwo, hslash, hentry, rfl⟩ :=
    target_ok h
  have hpath : path ≠ [] := by
    rintro rfl
    simp [names, Text.splitAt] at hnames
  have hstep : step parent last = some (parent ++ [last]) := by simp [step, hone, htwo]
  have hfollow : t.follow [] (names path) = .ok (parent ++ [last]) := by
    rw [hnames, follow_append hparent, follow_cons hdirectory hstep]
    rfl
  unfold read
  simp [hpath, hslash, follow_put hentry hfollow]

theorem write_ok (h : t.write path bytes = .ok after) : Wrote t after path bytes := by
  unfold write at h
  cases htarget : t.target path with
  | error e => simp [htarget, Except.map] at h
  | ok place =>
    simp only [htarget, Except.map, Except.ok.injEq] at h
    obtain rfl := h
    obtain ⟨parent, last, -, -, -, -, -, -, -, hplace⟩ := target_ok htarget
    have hne : place ≠ [] := by simp [hplace]
    exact ⟨read_put htarget, place, htarget, entry_put_self hne,
      fun other hother => entry_put_of_ne hother⟩

end RpcSchema.FileTree
