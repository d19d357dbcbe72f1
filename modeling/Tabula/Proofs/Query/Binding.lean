import Tabula.Query.Compile
/-!
# Running compilations

What each step of a compilation gives and binds, when it starts with some parameters already bound.
-/

namespace Tabula.Binding

variable {α β : Type}

@[simp] theorem runWith_pure (a : α) (ps : List Value) : (pure a : Binding α).runWith ps = (.ok a, ps) := rfl

@[simp] theorem runWith_throw (e : Error) (ps : List Value) : (throw e : Binding α).runWith ps = (.error e, ps) := rfl

@[simp] theorem runWith_fail (kind : ErrorKind) (detail : String) (ps : List Value) :
    (fail kind detail : Binding α).runWith ps = (.error ⟨kind, detail⟩, ps) := rfl

@[simp] theorem runWith_lift (o : Outcome α) (ps : List Value) : (lift o).runWith ps = (o, ps) := rfl

@[simp] theorem runWith_bind_value (v : Value) (ps : List Value) :
    (bind v).runWith ps = (.ok (ps.length + 1), ps ++ [v]) := rfl

/-- a sequence succeeds with what its second part makes of the first -/
theorem runWith_seq (x : Binding α) (f : α → Binding β) (ps : List Value) :
    (x >>= f).runWith ps = match x.runWith ps with
      | (.ok a, qs) => (f a).runWith qs
      | (.error e, qs) => (.error e, qs) := by
  simp only [runWith, ExceptT.run_bind, StateT.run_bind]
  cases hx : StateT.run (ExceptT.run x) ps with
  | mk r qs => cases r <;> rfl

theorem runWith_seq_ok {x : Binding α} {f : α → Binding β} {ps rs : List Value} {b : β}
    (h : (x >>= f).runWith ps = (.ok b, rs)) :
    ∃ a qs, x.runWith ps = (.ok a, qs) ∧ (f a).runWith qs = (.ok b, rs) := by
  rw [runWith_seq] at h
  match hx : x.runWith ps with
  | (.ok a, qs) => exact ⟨a, qs, rfl, by simpa [hx] using h⟩
  | (.error e, qs) => simp [hx] at h

theorem runWith_map (f : α → β) (x : Binding α) (ps : List Value) :
    (f <$> x).runWith ps = ((x.runWith ps).1.map f, (x.runWith ps).2) := by
  rw [map_eq_pure_bind, runWith_seq]
  match x.runWith ps with
  | (.ok a, qs) => rfl
  | (.error e, qs) => rfl

/-- a sequence whose second part binds nothing -/
theorem runWith_seq_pure_ok {x : Binding α} {f : α → β} {ps qs : List Value} {b : β}
    (h : (x >>= fun a => pure (f a)).runWith ps = (.ok b, qs)) : ∃ a, x.runWith ps = (.ok a, qs) ∧ f a = b := by
  obtain ⟨a, rs, hx, hf⟩ := runWith_seq_ok h
  simp only [runWith_pure, Prod.mk.injEq, Except.ok.injEq] at hf
  exact ⟨a, hf.2 ▸ hx, hf.1⟩

theorem runWith_map_ok {f : α → β} {x : Binding α} {ps qs : List Value} {b : β}
    (h : (f <$> x).runWith ps = (.ok b, qs)) : ∃ a, x.runWith ps = (.ok a, qs) ∧ f a = b := by
  rw [map_eq_pure_bind] at h
  exact runWith_seq_pure_ok h

theorem collect_ok {b : Binding α} {a : α} {ps : List Value} (h : b.collect = .ok (a, ps)) :
    b.runWith [] = (.ok a, ps) := by
  unfold collect at h
  split at h
  · next hb =>
    injection h with h
    injection h with ha hp
    rw [hb, ha, hp]
  · simp at h

end Tabula.Binding
