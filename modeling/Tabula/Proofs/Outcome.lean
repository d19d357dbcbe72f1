import Tabula.Error
import Mathlib.Data.List.Forall2
/-!
# Outcomes taken apart

What has to hold for a composed operation to succeed.
-/

namespace Tabula

namespace Outcome

variable {α β : Type}

theorem map_ok {f : α → β} {x : Outcome α} {b : β} : x.map f = .ok b ↔ ∃ a, x = .ok a ∧ f a = b := by
  cases x <;> simp [Except.map]

theorem map_error {f : α → β} {x : Outcome α} {e : Error} : x.map f = .error e ↔ x = .error e := by
  cases x <;> simp [Except.map]

theorem error_inj {e e' : Error} : (.error e : Outcome α) = .error e' ↔ e = e' := by
  rw [Except.error.injEq]

theorem ok_of_toOption {x : Outcome α} {a : α} (h : x.toOption = some a) : x = .ok a := by
  cases x with
  | ok b => exact congrArg _ (Option.some.inj h)
  | error e => cases h

theorem ok_bind (a : α) (f : α → Outcome β) : (Except.ok a >>= f) = f a := rfl

theorem bind_ok {f : α → Outcome β} {x : Outcome α} {b : β} :
    (x >>= f) = .ok b ↔ ∃ a, x = .ok a ∧ f a = .ok b := by
  cases x <;> simp [bind, Except.bind]

theorem bind_error {f : α → Outcome β} {x : Outcome α} {e : Error} :
    (x >>= f) = .error e ↔ x = .error e ∨ ∃ a, x = .ok a ∧ f a = .error e := by
  cases x <;> simp [bind, Except.bind]

theorem pure_ok {a b : α} : (pure a : Outcome α) = .ok b ↔ a = b := by
  simp [pure, Except.pure]

theorem mapM_congr {f g : α → Outcome β} {as : List α} (h : ∀ a ∈ as, f a = g a) :
    as.mapM f = as.mapM g := by
  induction as with
  | nil => rfl
  | cons a as ih =>
    rw [List.forall_mem_cons] at h
    rw [List.mapM_cons, List.mapM_cons, h.1, ih h.2]

/-- every member of a list has its own result -/
theorem mapM_ok {f : α → Outcome β} {as : List α} {bs : List β} :
    as.mapM f = .ok bs ↔ List.Forall₂ (fun a b => f a = .ok b) as bs := by
  induction as generalizing bs with
  | nil => rw [List.mapM_nil, pure_ok, List.forall₂_nil_left_iff, eq_comm]
  | cons a as ih =>
    rw [List.mapM_cons, bind_ok]
    constructor
    · rintro ⟨b, hb, h⟩
      obtain ⟨cs, hc, h⟩ := bind_ok.mp h
      rw [pure_ok] at h
      exact h ▸ .cons hb (ih.mp hc)
    · intro h
      cases h with
      | cons hb hc => exact ⟨_, hb, bind_ok.mpr ⟨_, ih.mpr hc, rfl⟩⟩

theorem exists_of_mem_mapM {f : α → Outcome β} {as : List α} {bs : List β} (h : as.mapM f = .ok bs) {b : β}
    (hb : b ∈ bs) : ∃ a ∈ as, f a = .ok b := by
  have each := mapM_ok.mp h
  clear h
  induction each with
  | nil => simp at hb
  | cons ha _ ih =>
    rcases List.mem_cons.mp hb with rfl | hb
    · exact ⟨_, List.mem_cons_self, ha⟩
    · obtain ⟨a, hm, ha⟩ := ih hb
      exact ⟨a, List.mem_cons_of_mem _ hm, ha⟩

theorem exists_result_of_mem {f : α → Outcome β} {as : List α} {bs : List β} (h : as.mapM f = .ok bs) {a : α}
    (ha : a ∈ as) : ∃ b ∈ bs, f a = .ok b := by
  have each := mapM_ok.mp h
  clear h
  induction each with
  | nil => simp at ha
  | cons hb _ ih =>
    rcases List.mem_cons.mp ha with rfl | ha
    · exact ⟨_, List.mem_cons_self, hb⟩
    · obtain ⟨b, hm, hb⟩ := ih ha
      exact ⟨b, List.mem_cons_of_mem _ hm, hb⟩

/-- a list succeeds if every member does -/
theorem exists_mapM_ok {f : α → Outcome β} {as : List α} :
    (∃ bs, as.mapM f = .ok bs) ↔ ∀ a ∈ as, ∃ b, f a = .ok b := by
  induction as with
  | nil => simp [pure_ok]
  | cons a as ih =>
    rw [List.forall_mem_cons, ← ih]
    constructor
    · rintro ⟨bs, h⟩
      cases mapM_ok.mp h with
      | cons hb rest => exact ⟨⟨_, hb⟩, _, mapM_ok.mpr rest⟩
    · rintro ⟨⟨b, hb⟩, bs, h⟩
      exact ⟨b :: bs, mapM_ok.mpr (.cons hb (mapM_ok.mp h))⟩

/-- two operations on each member, one after the other for the whole list -/
theorem mapM_bind_ok {γ : Type} {f : α → Outcome β} {g : β → Outcome γ} {as : List α} {cs : List γ} :
    (as.mapM fun a => f a >>= g) = .ok cs ↔ ∃ bs, as.mapM f = .ok bs ∧ bs.mapM g = .ok cs := by
  induction as generalizing cs with
  | nil => simp [pure_ok]
  | cons a as ih =>
    rw [mapM_ok, List.forall₂_cons_left_iff]
    constructor
    · rintro ⟨c, rest, both, each, rfl⟩
      obtain ⟨b, first, second⟩ := bind_ok.mp both
      obtain ⟨bs, firsts, seconds⟩ := ih.mp (mapM_ok.mpr each)
      exact ⟨b :: bs, mapM_ok.mpr (.cons first (mapM_ok.mp firsts)), mapM_ok.mpr (.cons second (mapM_ok.mp seconds))⟩
    · rintro ⟨bs, firsts, seconds⟩
      cases mapM_ok.mp firsts with
      | cons first later =>
        cases mapM_ok.mp seconds with
        | cons second last =>
          have each := ih.mpr ⟨_, mapM_ok.mpr later, mapM_ok.mpr last⟩
          exact ⟨_, _, bind_ok.mpr ⟨_, first, second⟩, mapM_ok.mp each, rfl⟩

/-- a list fails by one of its members -/
theorem exists_of_mapM_error {f : α → Outcome β} {as : List α} {e : Error} (h : as.mapM f = .error e) :
    ∃ a ∈ as, f a = .error e := by
  induction as with
  | nil =>
    rw [List.mapM_nil] at h
    cases h
  | cons a as ih =>
    rw [List.mapM_cons, bind_error] at h
    rcases h with h | ⟨b, _, h⟩
    · exact ⟨a, List.mem_cons_self, h⟩
    · rcases bind_error.mp h with h | ⟨bs, _, h⟩
      · obtain ⟨a', hm, ha⟩ := ih h
        exact ⟨a', List.mem_cons_of_mem _ hm, ha⟩
      · cases h

/-- checks done one after the other pass if each does -/
theorem forM_ok {f : α → Outcome Unit} {as : List α} : as.forM f = .ok () ↔ ∀ a ∈ as, f a = .ok () := by
  induction as with
  | nil => exact iff_of_true rfl (by simp)
  | cons a as ih =>
    rw [List.forM_eq_forM] at ih ⊢
    rw [List.forM_cons, bind_ok, List.forall_mem_cons, ← ih]
    constructor
    · rintro ⟨⟨⟩, first, rest⟩
      exact ⟨first, rest⟩
    · rintro ⟨first, rest⟩
      exact ⟨(), first, rest⟩

/-- checks done one after the other fail by one of them -/
theorem exists_of_forM_error {f : α → Outcome Unit} {as : List α} {e : Error} (h : as.forM f = .error e) :
    ∃ a ∈ as, f a = .error e := by
  induction as with
  | nil => cases h
  | cons a as ih =>
    rw [List.forM_eq_forM] at ih h
    rw [List.forM_cons, bind_error] at h
    rcases h with h | ⟨_, _, h⟩
    · exact ⟨a, List.mem_cons_self, h⟩
    · obtain ⟨b, hb, h⟩ := ih h
      exact ⟨b, List.mem_cons_of_mem _ hb, h⟩

end Outcome

/-- as `Outcome.mapM_ok`, where there is no error to tell -/
theorem mapM_some_iff {α β : Type} {f : α → Option β} {as : List α} {bs : List β} :
    as.mapM f = some bs ↔ List.Forall₂ (fun a b => f a = some b) as bs := by
  constructor
  · intro h
    induction as generalizing bs with
    | nil =>
      cases h
      exact .nil
    | cons a as ih =>
      rw [List.mapM_cons, Option.bind_eq_bind, Option.bind_eq_some_iff] at h
      obtain ⟨b, first, h⟩ := h
      obtain ⟨rest, later, h⟩ := Option.bind_eq_some_iff.mp h
      cases h
      exact .cons first (ih later)
  · intro h
    induction h with
    | nil => rfl
    | cons first _ ih => simp [first, ih]

/-- as `Outcome.exists_mapM_ok` -/
theorem exists_mapM_some {α β : Type} {f : α → Option β} {as : List α} :
    (∃ bs, as.mapM f = some bs) ↔ ∀ a ∈ as, ∃ b, f a = some b := by
  induction as with
  | nil => simp
  | cons a as ih =>
    rw [List.forall_mem_cons, ← ih]
    constructor
    · rintro ⟨bs, h⟩
      cases mapM_some_iff.mp h with
      | cons first later => exact ⟨⟨_, first⟩, _, mapM_some_iff.mpr later⟩
    · rintro ⟨⟨b, first⟩, bs, h⟩
      exact ⟨b :: bs, mapM_some_iff.mpr (.cons first (mapM_some_iff.mp h))⟩

/-- what each of several things is made from is turned into what it is to become -/
theorem mapM_map_some {α β γ : Type} {f : α → β} {g : β → Option γ} {h : α → γ} {as : List α}
    (each : ∀ a ∈ as, g (f a) = some (h a)) : (as.map f).mapM g = some (as.map h) := by
  refine mapM_some_iff.mpr (List.forall₂_map_left_iff.mpr (List.forall₂_map_right_iff.mpr ?_))
  exact List.forall₂_same.mpr each

end Tabula
