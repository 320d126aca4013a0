/-
# Readings that succeed

Everything that is read ends in a result or a failure.  What a reading that succeeded has gone
through: each of its parts has succeeded (`ok_of_bind`), a fold has kept whatever each of its steps
keeps (`foldlM_induction`), and a reading of every member of a list has a result for each
(`mapM_eq_ok_iff`).  When such a reading fails, it is for the first member without a result
(`mapM_eq_error_iff`).
-/
import ApiPages.Failure
import Mathlib.Data.List.Forall2

namespace ApiPages

variable {α β σ : Type}

theorem ok_of_bind {x : Except Failure α} {f : α → Except Failure β} {b : β}
    (h : x >>= f = .ok b) : ∃ a, x = .ok a ∧ f a = .ok b := by
  cases x with
  | error e => simp [bind, Except.bind] at h
  | ok a => exact ⟨a, rfl, h⟩

/-- A result that is only passed on. -/
theorem ok_of_map {x : Except Failure α} {f : α → β} {b : β}
    (h : (do return f (← x) : Except Failure β) = .ok b) : ∃ a, x = .ok a ∧ f a = b := by
  obtain ⟨a, hx, ha⟩ := ok_of_bind h
  exact ⟨a, hx, Except.ok.inj ha⟩

theorem exists_map_iff {x : Except Failure α} {f : α → β} :
    (∃ b, (do return f (← x) : Except Failure β) = .ok b) ↔ ∃ a, x = .ok a := by
  cases x <;> simp [bind, Except.bind, pure, Except.pure]

/-- A sequence fails in its first part or, with the result of that, in its second. -/
theorem bind_eq_error_iff {x : Except Failure α} {g : α → Except Failure β} {failure : Failure} :
    x >>= g = .error failure ↔ x = .error failure ∨ ∃ a, x = .ok a ∧ g a = .error failure := by
  cases x <;> simp [bind, Except.bind]

/-- A failure too is passed on. -/
theorem map_eq_error_iff {x : Except Failure α} {f : α → β} {failure : Failure} :
    (do return f (← x) : Except Failure β) = .error failure ↔ x = .error failure := by
  cases x <;> simp [bind, Except.bind, pure, Except.pure]

/-- Only failures are changed. -/
theorem ok_of_mapError {x : Except Failure α} {f : Failure → Failure} {a : α}
    (h : x.mapError f = .ok a) : x = .ok a := by
  cases x with
  | error e => cases h
  | ok b => exact h

theorem toOption_eq_some_iff {x : Except Failure α} {a : α} : x.toOption = some a ↔ x = .ok a := by
  cases x <;> simp [Except.toOption]

/-- **What every step keeps is kept by a fold.** -/
theorem foldlM_induction {step : σ → α → Except Failure σ} (P : σ → Prop) {as : List α}
    (hstep : ∀ s s', ∀ a ∈ as, P s → step s a = .ok s' → P s') {s s' : σ} (hs : P s)
    (h : as.foldlM step s = .ok s') : P s' := by
  induction as generalizing s with
  | nil => exact Except.ok.inj h ▸ hs
  | cons a as ih =>
    rw [List.foldlM_cons] at h
    obtain ⟨next, hnext, hrest⟩ := ok_of_bind h
    refine ih (fun s s' b hb => hstep s s' b (List.mem_cons_of_mem a hb)) ?_ hrest
    exact hstep s next a List.mem_cons_self hs hnext

/-- A fold whose steps succeed wherever those of another one do. -/
theorem foldlM_of_imp {step step' : σ → α → Except Failure σ}
    (hstep : ∀ s a s', step s a = .ok s' → step' s a = .ok s') {as : List α} {s s' : σ}
    (h : as.foldlM step s = .ok s') : as.foldlM step' s = .ok s' := by
  induction as generalizing s with
  | nil => exact h
  | cons a as ih =>
    rw [List.foldlM_cons] at h ⊢
    obtain ⟨next, hnext, hrest⟩ := ok_of_bind h
    rw [hstep s a next hnext]
    exact ih hrest

/-- **Every member has its result**, and every result is that of a member. -/
theorem mapM_eq_ok_iff {f : α → Except Failure β} {as : List α} {bs : List β} :
    as.mapM f = .ok bs ↔ List.Forall₂ (fun a b => f a = .ok b) as bs := by
  induction as generalizing bs with
  | nil => cases bs <;> simp [pure, Except.pure]
  | cons a as ih =>
    rw [List.mapM_cons, List.forall₂_cons_left_iff]
    constructor
    · intro h
      obtain ⟨b, hb, h⟩ := ok_of_bind h
      obtain ⟨rest, hrest, rfl⟩ := ok_of_map h
      exact ⟨b, rest, hb, ih.mp hrest, rfl⟩
    · rintro ⟨b, rest, hb, hrest, rfl⟩
      rw [hb, ih.mpr hrest]
      rfl

/-- **The first member without a result makes the failure.** -/
theorem mapM_eq_error_iff {f : α → Except Failure β} {as : List α} {failure : Failure} :
    as.mapM f = .error failure ↔ ∃ before a behind, as = before ++ a :: behind ∧
      (∀ a' ∈ before, ∃ b, f a' = .ok b) ∧ f a = .error failure := by
  induction as with
  | nil => simp [pure, Except.pure]
  | cons a as ih =>
    cases hread : f a with
    | error cause =>
      have hfails : (a :: as).mapM f = .error cause := by rw [List.mapM_cons, hread]; rfl
      rw [hfails, Except.error.injEq]
      constructor
      · rintro rfl
        exact ⟨[], a, as, rfl, by simp, hread⟩
      · rintro ⟨before, a', behind, heq, hbefore, ha'⟩
        cases before with
        | nil =>
          obtain ⟨rfl, -⟩ := List.cons.inj heq
          exact Except.error.inj (hread.symm.trans ha')
        | cons c before =>
          obtain ⟨rfl, -⟩ := List.cons.inj heq
          obtain ⟨b, hb⟩ := hbefore a List.mem_cons_self
          cases hread.symm.trans hb
    | ok b =>
      have hrest : (a :: as).mapM f = .error failure ↔ as.mapM f = .error failure := by
        rw [List.mapM_cons, hread]
        cases as.mapM f <;> simp [bind, Except.bind, pure, Except.pure]
      rw [hrest, ih]
      constructor
      · rintro ⟨before, a', behind, rfl, hbefore, ha'⟩
        exact ⟨a :: before, a', behind, rfl, List.forall_mem_cons.mpr ⟨⟨b, hread⟩, hbefore⟩, ha'⟩
      · rintro ⟨before, a', behind, heq, hbefore, ha'⟩
        cases before with
        | nil =>
          obtain ⟨rfl, -⟩ := List.cons.inj heq
          cases hread.symm.trans ha'
        | cons c before =>
          obtain ⟨-, rfl⟩ := List.cons.inj heq
          exact ⟨before, a', behind, rfl, (List.forall_mem_cons.mp hbefore).2, ha'⟩

/-- All members have results exactly if each of them has one. -/
theorem exists_mapM_iff {f : α → Except Failure β} {as : List α} :
    (∃ bs, as.mapM f = .ok bs) ↔ ∀ a ∈ as, ∃ b, f a = .ok b := by
  constructor
  · rintro ⟨bs, hbs⟩ a ha
    obtain ⟨i, hi, rfl⟩ := List.mem_iff_getElem.mp ha
    obtain ⟨hlength, hmembers⟩ := List.forall₂_iff_get.mp (mapM_eq_ok_iff.mp hbs)
    exact ⟨bs[i], hmembers i hi (hlength ▸ hi)⟩
  · intro h
    cases hread : as.mapM f with
    | ok bs => exact ⟨bs, rfl⟩
    | error failure =>
      obtain ⟨before, a, behind, rfl, -, ha⟩ := mapM_eq_error_iff.mp hread
      obtain ⟨b, hb⟩ := h a (by simp)
      cases ha.symm.trans hb

/-- Each result may as well be changed when all have been obtained. -/
theorem mapM_return {γ : Type} (f : α → Except Failure β) (g : β → γ) (as : List α) :
    as.mapM (fun a => do return g (← f a)) = (do return (← as.mapM f).map g) := by
  induction as with
  | nil => rfl
  | cons a as ih =>
    rw [List.mapM_cons, List.mapM_cons, ih]
    cases f a with
    | error failure => rfl
    | ok b => cases as.mapM f <;> rfl

theorem mapM_eq_some_map {read? : α → Option β} {g : α → β} {as : List α}
    (h : ∀ a ∈ as, read? a = some (g a)) : as.mapM read? = some (as.map g) := by
  induction as with
  | nil => rfl
  | cons a as ih =>
    rw [List.mapM_cons, h a List.mem_cons_self, ih fun b hb => h b (List.mem_cons_of_mem a hb)]
    rfl

/-- What is written member by member is read member by member. -/
theorem mapM_map_eq_some {γ : Type} {write : α → β} {read? : β → Option γ} {g : α → γ}
    {as : List α} (h : ∀ a ∈ as, read? (write a) = some (g a)) :
    (as.map write).mapM read? = some (as.map g) := by
  rw [List.mapM_map]
  exact mapM_eq_some_map h

theorem exists_of_mem_mapM {f : α → Except Failure β} {as : List α} {bs : List β}
    (h : as.mapM f = .ok bs) {b : β} (hb : b ∈ bs) : ∃ a ∈ as, f a = .ok b := by
  obtain ⟨i, hi, rfl⟩ := List.mem_iff_getElem.mp hb
  obtain ⟨hlength, hmembers⟩ := List.forall₂_iff_get.mp (mapM_eq_ok_iff.mp h)
  exact ⟨as[i], List.getElem_mem _, hmembers i (hlength ▸ hi) hi⟩

end ApiPages
