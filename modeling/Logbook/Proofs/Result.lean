import Mathlib.Data.List.Forall2

/-! Results that may be faults: how the steps of a reader combine, and what comes of doing the same
to every item of a list. -/

namespace Logbook

variable {ε α β : Type}

@[simp] theorem pure_eq_ok (a : α) : (pure a : Except ε α) = .ok a := rfl

@[simp] theorem throw_eq_error (e : ε) : (throw e : Except ε α) = .error e := rfl

@[simp] theorem ok_bind (a : α) (f : α → Except ε β) : (Except.ok a >>= f) = f a := rfl

@[simp] theorem error_bind (e : ε) (f : α → Except ε β) :
    (Except.error e >>= f) = Except.error e := rfl

@[simp] theorem map_ok (f : α → β) (a : α) : (Except.ok a : Except ε α).map f = .ok (f a) := rfl

@[simp] theorem map_error (f : α → β) (e : ε) : (Except.error e : Except ε α).map f = .error e :=
  rfl

theorem pair_eq_of_ok {a b : α} {s t : β} (h : (Except.ok (a, s) : Except ε (α × β)) = .ok (b, t)) :
    a = b ∧ s = t :=
  Prod.mk.inj (Except.ok.inj h)

theorem snd_eq_of_ok {a b : α} {s t : β} (h : (Except.ok (a, s) : Except ε (α × β)) = .ok (b, t)) :
    s = t :=
  (pair_eq_of_ok h).2

theorem bind_eq_ok_iff {x : Except ε α} {f : α → Except ε β} {b : β} :
    (x >>= f) = .ok b ↔ ∃ a, x = .ok a ∧ f a = .ok b := by
  cases x <;> simp

theorem map_eq_ok_iff {x : Except ε α} {f : α → β} {b : β} :
    x.map f = .ok b ↔ ∃ a, x = .ok a ∧ f a = b := by
  cases x <;> simp

theorem exists_ok {x : Except ε α} (h : x.isOk = true) : ∃ a, x = .ok a := by
  cases x with
  | ok a => exact ⟨a, rfl⟩
  | error e => cases h

theorem exists_error {x : Except ε α} (h : x.isOk = false) : ∃ e, x = .error e := by
  cases x with
  | ok a => cases h
  | error e => exact ⟨e, rfl⟩

theorem map_eq_error_iff {x : Except ε α} {f : α → β} {e : ε} :
    x.map f = .error e ↔ x = .error e := by
  cases x <;> simp

theorem mapM_eq_ok_iff {f : α → Except ε β} {l : List α} {results : List β} :
    l.mapM f = .ok results ↔ List.Forall₂ (fun a b => f a = .ok b) l results := by
  induction l generalizing results with
  | nil => simp [eq_comm]
  | cons a l ih =>
    simp only [List.mapM_cons, bind_eq_ok_iff, ih, pure_eq_ok, Except.ok.injEq,
      List.forall₂_cons_left_iff]
    constructor
    · rintro ⟨b, hb, bs, hbs, rfl⟩
      exact ⟨b, bs, hb, hbs, rfl⟩
    · rintro ⟨b, bs, hb, hbs, rfl⟩
      exact ⟨b, hb, bs, hbs, rfl⟩

theorem exists_of_mapM_eq_ok {f : α → Except ε β} {l : List α} {results : List β}
    (h : l.mapM f = .ok results) : ∀ a ∈ l, ∃ b, f a = .ok b := by
  have hboth : List.Forall₂ (fun a b => (∃ b, f a = .ok b) ∧ f a = .ok b) l results :=
    (mapM_eq_ok_iff.mp h).imp fun _ b hb => ⟨⟨b, hb⟩, hb⟩
  exact ((List.forall₂_and_left l results).mp hboth).1

theorem forall_of_mapM_eq_ok {f : α → Except ε β} {l : List α} {results : List β}
    (h : l.mapM f = .ok results) {p : β → Prop} (hp : ∀ a b, f a = .ok b → p b) :
    ∀ b ∈ results, p b := by
  have hboth : List.Forall₂ (fun b a => p b ∧ f a = .ok b) results l :=
    (mapM_eq_ok_iff.mp h).flip.imp fun b a hb => ⟨hp a b hb, hb⟩
  exact ((List.forall₂_and_left results l).mp hboth).1

/-- The first item that fails decides. -/
theorem mapM_eq_error_iff {f : α → Except ε β} {l : List α} {e : ε} :
    l.mapM f = .error e ↔
      ∃ before a after, l = before ++ a :: after ∧ (∀ a ∈ before, ∃ b, f a = .ok b) ∧
        f a = .error e := by
  induction l with
  | nil => simp
  | cons a l ih =>
    rw [List.mapM_cons]
    cases hf : f a with
    | error e' =>
      constructor
      · intro h
        exact ⟨[], a, l, rfl, by simp, by simpa [hf] using h⟩
      · rintro ⟨before, b, after, hl, hbefore, hb⟩
        obtain ⟨rfl, hl⟩ | ⟨before, rfl, -⟩ := List.cons_eq_append_iff.mp hl
        · obtain ⟨rfl, -⟩ := List.cons.inj hl
          simpa [hf] using hb
        · obtain ⟨b, hb⟩ := hbefore a (by simp)
          simp [hf] at hb
    | ok x =>
      have hrest : (l.mapM f >>= fun bs => pure (x :: bs)) = .error e ↔ l.mapM f = .error e := by
        cases l.mapM f <;> simp
      rw [ok_bind, hrest, ih]
      constructor
      · rintro ⟨before, b, after, rfl, hbefore, hb⟩
        exact ⟨a :: before, b, after, rfl, List.forall_mem_cons.mpr ⟨⟨x, hf⟩, hbefore⟩, hb⟩
      · rintro ⟨before, b, after, hl, hbefore, hb⟩
        obtain ⟨rfl, hl⟩ | ⟨before, rfl, rfl⟩ := List.cons_eq_append_iff.mp hl
        · obtain ⟨rfl, -⟩ := List.cons.inj hl
          simp [hf] at hb
        · exact ⟨before, b, after, rfl, (List.forall_mem_cons.mp hbefore).2, hb⟩

end Logbook
