import Tabula.Settings.Basic
import Tabula.Proofs.Keyed
import Mathlib.Data.List.Nodup
import Mathlib.Data.List.Perm.Basic
/-!
# The order of overrides

An environment lists its variables in no particular order.  `Settings.overrideAll_perm_iff`: variables with different
names give the same settings in every order, just if no two of them name one database in different letter cases with
addresses that differ.

Two overrides that set different things can change places, and so can two that are equal.  What remains are the
variables for the address of one database: the default one has a single name, every other one a name for each way to
write it in capitals and small letters.
-/

namespace Tabula

theorem after?_eq_some {front s rest : List Char} : after? front s = some rest ↔ s = front ++ rest := by
  induction front generalizing s with
  | nil => simp [after?]
  | cons c cs ih =>
    cases s with
    | nil => simp [after?]
    | cons d s =>
      by_cases same : c = d
      · simp [after?, same, ih]
      · simp [after?, same, Ne.symm same]

/-- the same of texts -/
theorem after?_toList {front s : String} {rest : List Char} :
    after? front.toList s.toList = some rest ↔ s = front ++ String.ofList rest := by
  rw [after?_eq_some, ← String.toList_inj, String.toList_append, String.toList_ofList]

namespace Override

/-! ## What variables mean -/

/-- the variables that mean something, and what they mean -/
inductive Means : String → String → Override → Prop where
  | debug (value : String) :
    Means "POSTMODEL_DEBUG" value (.debug (["true", "1", "yes"].contains (Text.foldCase value)))
  | logLevel (value : String) : Means "POSTMODEL_LOG_LEVEL" value (.logLevel value)
  | default (url : String) : Means "POSTMODEL_DATABASE_URL" url (.address defaultDatabase url)
  /-- the default database is not named in this way, whatever the letter case -/
  | named {database : String} (url : String) (named : Text.lowered database ≠ "")
      (other : Text.lowered database ≠ defaultDatabase) :
    Means ("POSTMODEL_DATABASE_URL_" ++ database) url (.address (Text.lowered database) url)

variable {name other value url : String} {a b : Override}

theorem Means.of_ofVariable? (h : ofVariable? name value = some a) : Means name value a := by
  obtain ⟨key, front, h⟩ := Option.bind_eq_some_iff.mp h
  have full : name = "POSTMODEL_" ++ String.ofList key := after?_toList.mp front
  split at h
  · next isDebug =>
    cases h
    rw [full, isDebug]
    exact .debug value
  · next isLevel =>
    cases h
    rw [full, isLevel]
    exact .logLevel value
  · next isAddress =>
    cases h
    rw [full, isAddress]
    exact .default value
  · obtain ⟨database, front, h⟩ := Option.bind_eq_some_iff.mp h
    rw [← String.toList_ofList (l := key)] at front
    have named : String.ofList key = "DATABASE_URL_" ++ String.ofList database := after?_toList.mp front
    simp only at h
    split at h
    · cases h
    · next apart =>
      cases h
      rw [full, named, ← String.append_assoc]
      simp only [Bool.or_eq_true, decide_eq_true_eq, not_or] at apart
      exact .named value apart.1 apart.2

theorem Means.ofVariable? (h : Means name value a) : Override.ofVariable? name value = some a := by
  cases h with
  | debug => rfl
  | logLevel => rfl
  | default => rfl
  | @named database _ named other =>
    have key : after? "POSTMODEL_".toList ("POSTMODEL_DATABASE_URL_" ++ database).toList =
        some ("DATABASE_URL_" ++ database).toList := by
      rw [after?_toList, String.ofList_toList, ← String.append_assoc]
      rfl
    have rest : after? "DATABASE_URL_".toList ("DATABASE_URL_" ++ database).toList = some database.toList := by
      rw [after?_toList, String.ofList_toList]
    unfold Override.ofVariable?
    simp only [key, rest, Option.bind_eq_bind, Option.bind_some, String.ofList_toList, named, other]
    split
    · next same => simp [← String.toList_inj] at same
    · next same => simp [← String.toList_inj] at same
    · next same => simp [← String.toList_inj] at same
    · rfl

theorem ofVariable?_eq_some : ofVariable? name value = some a ↔ Means name value a :=
  ⟨Means.of_ofVariable?, Means.ofVariable?⟩

/-! ## What overrides set -/

/-- a thing that is set -/
inductive Target where
  | debug
  | logLevel
  | address (database : String)

/-- what an override sets -/
def target : Override → Target
  | debug _ => .debug
  | logLevel _ => .logLevel
  | address database _ => .address database

/-- two names of variables that name one database, each in letter cases of its own -/
def Alike (name other : String) : Prop := ∃ database spelled, name = "POSTMODEL_DATABASE_URL_" ++ database ∧
  other = "POSTMODEL_DATABASE_URL_" ++ spelled ∧ Text.lowered database = Text.lowered spelled ∧
    Text.lowered database ≠ "" ∧ Text.lowered database ≠ defaultDatabase

/-- variables that set one thing have one name, or name one database in different letter cases -/
theorem Means.eq_or_alike (h : Means name value a) (h' : Means other url b) (same : a.target = b.target) :
    name = other ∨ Alike name other := by
  cases h <;> cases h' <;> simp only [target, reduceCtorEq, Target.address.injEq] at same
  case debug.debug => exact .inl rfl
  case logLevel.logLevel => exact .inl rfl
  case default.default => exact .inl rfl
  case default.named apart => exact absurd same.symm apart
  case named.default apart => exact absurd same apart
  case named.named database named apart spelled _ _ => exact .inr ⟨database, spelled, rfl, rfl, same, named, apart⟩

/-- variables that set one thing to one value are the same override -/
theorem Means.eq_of_value (h : Means name value a) (h' : Means other value b) (same : a.target = b.target) :
    a = b := by
  cases h <;> cases h' <;> simp only [target, reduceCtorEq, Target.address.injEq] at same
  case debug.debug => rfl
  case logLevel.logLevel => rfl
  case default.default => rfl
  all_goals rw [same]

/-- names that are alike give the address of one database -/
theorem Alike.means (h : Alike name other) : ∃ database, ∀ value url,
    Means name value (.address database value) ∧ Means other url (.address database url) := by
  obtain ⟨database, spelled, rfl, rfl, same, named, apart⟩ := h
  refine ⟨Text.lowered database, fun value url => ⟨.named value named apart, ?_⟩⟩
  rw [same] at named apart ⊢
  exact .named url named apart

end Override

namespace Settings

variable {s : Settings} {a b : Override} {v w : String × String} {environment : List (String × String)}

/-! ## Overrides that change places -/

/-- addresses of different databases -/
theorem withAddress_comm {database other : String} (apart : database ≠ other) (s : Settings) (url url' : String) :
    (s.withAddress database url).withAddress other url' = (s.withAddress other url').withAddress database url := by
  simp only [withAddress, Keyed.find?_insert_of_ne apart, Keyed.find?_insert_of_ne (Ne.symm apart),
    Keyed.insert_comm apart]

theorem override_comm (apart : a.target ≠ b.target) (s : Settings) :
    (s.override a).override b = (s.override b).override a := by
  cases a with
  | debug on =>
    cases b with
    | debug off => exact absurd rfl apart
    | logLevel level => rfl
    | address database url => rfl
  | logLevel level =>
    cases b with
    | debug on => rfl
    | logLevel other => exact absurd rfl apart
    | address database url => rfl
  | address database url =>
    cases b with
    | debug on => rfl
    | logLevel level => rfl
    | address other url' =>
      have differ : database ≠ other := fun same => apart (congrArg Override.Target.address same)
      exact withAddress_comm differ s url url'

/-- variables that agree on what they both set can change places -/
theorem overrideBy_comm (agree : ∀ a b, Override.Means v.1 v.2 a → Override.Means w.1 w.2 b →
    a.target = b.target → a = b) (s : Settings) : (s.overrideBy v).overrideBy w = (s.overrideBy w).overrideBy v := by
  unfold overrideBy
  cases first : Override.ofVariable? v.1 v.2 with
  | none => rfl
  | some a =>
    cases second : Override.ofVariable? w.1 w.2 with
    | none => rfl
    | some b =>
      by_cases same : a.target = b.target
      · rw [agree a b (.of_ofVariable? first) (.of_ofVariable? second) same]
      · exact override_comm same s

theorem overrideBy_of_means (h : Override.Means v.1 v.2 a) (s : Settings) : s.overrideBy v = s.override a := by
  rw [overrideBy, h.ofVariable?]

/-- the last variable for a database gives its address -/
theorem find?_overrideAll_concat {database url : String} (s : Settings) (environment : List (String × String))
    (h : Override.Means v.1 v.2 (.address database url)) :
    (Keyed.find? database (s.overrideAll (environment ++ [v])).databases).map DatabaseSettings.url = some url := by
  have last : s.overrideAll (environment ++ [v]) = (s.overrideAll environment).withAddress database url := by
    rw [overrideAll, List.foldl_concat, overrideBy_of_means h]
    rfl
  rw [last, withAddress, Keyed.find?_insert_self]
  rfl

/-! ## Orders -/

/-- **Overrides do not depend on their order**, just if no two variables give different addresses to one database that
they name in different letter cases. -/
theorem overrideAll_perm_iff (s : Settings) (distinct : (environment.map Prod.fst).Nodup) :
    (∀ order, order.Perm environment → s.overrideAll order = s.overrideAll environment) ↔
      ∀ v ∈ environment, ∀ w ∈ environment, Override.Alike v.1 w.1 → v.2 = w.2 := by
  constructor
  · intro invariant v hv w hw alike
    by_cases same : v = w
    · rw [same]
    obtain ⟨database, means⟩ := alike.means
    have front := List.perm_cons_erase hv
    have next := List.perm_cons_erase ((List.mem_erase_of_ne (Ne.symm same)).mpr hw)
    have all := front.trans (next.cons v)
    generalize (environment.erase v).erase w = rest at all
    -- the two come last, in either order
    have lastW : (rest ++ [v] ++ [w]).Perm environment := by
      rw [List.append_assoc]
      exact List.perm_append_comm.trans all.symm
    have lastV : (rest ++ [w] ++ [v]).Perm environment := by
      rw [List.append_assoc]
      exact (List.perm_append_comm.trans (.swap v w rest)).trans all.symm
    have one := find?_overrideAll_concat s (rest ++ [v]) (means v.2 w.2).2
    have two := find?_overrideAll_concat s (rest ++ [w]) (means v.2 w.2).1
    rw [invariant _ lastW] at one
    rw [invariant _ lastV, one] at two
    exact (Option.some.inj two).symm
  · intro agree order perm
    refine perm.foldl_eq' (fun v hv w hw t => ?_) s
    have hv := perm.mem_iff.mp hv
    have hw := perm.mem_iff.mp hw
    refine overrideBy_comm (fun a b first second same => ?_) t
    have value : v.2 = w.2 := by
      rcases first.eq_or_alike second same with name | alike
      · rw [List.inj_on_of_nodup_map distinct hv hw name]
      · exact agree v hv w hw alike
    rw [← value] at second
    exact first.eq_of_value second same

/-- four variables that give the same in every order: the two names of one database come with one address -/
theorem overrideAll_perm_reports :
    let environment := [("POSTMODEL_DATABASE_URL_REPORTS", "postgres://h/r"), ("POSTMODEL_DEBUG", "0"),
      ("POSTMODEL_DATABASE_URL_reports", "postgres://h/r"), ("POSTMODEL_LOG_LEVEL", "warn")]
    (environment.map Prod.fst).Nodup ∧
      (∀ v ∈ environment, ∀ w ∈ environment, Override.Alike v.1 w.1 → v.2 = w.2) ∧
      ∀ order, order.Perm environment → overrideAll {} order =
        { debug := false, logLevel := "warn", databases := [("reports", { url := "postgres://h/r" })] } := by
  intro environment
  have distinct : (environment.map Prod.fst).Nodup := by decide
  have addresses : ∀ v ∈ environment, ∀ database, Override.Means v.1 v.2 (.address database v.2) →
      v.2 = "postgres://h/r" := by
    intro v hv database means
    simp only [environment, List.mem_cons, List.not_mem_nil, or_false] at hv
    rcases hv with rfl | rfl | rfl | rfl
    · rfl
    · cases means.ofVariable?
    · rfl
    · cases means.ofVariable?
  have agree : ∀ v ∈ environment, ∀ w ∈ environment, Override.Alike v.1 w.1 → v.2 = w.2 := by
    intro v hv w hw alike
    obtain ⟨database, means⟩ := alike.means
    rw [addresses v hv database (means v.2 w.2).1, addresses w hw database (means v.2 w.2).2]
  have settled : overrideAll {} environment =
      { debug := false, logLevel := "warn", databases := [("reports", { url := "postgres://h/r" })] } := by
    decide +kernel
  exact ⟨distinct, agree, fun order perm => ((overrideAll_perm_iff {} distinct).mpr agree order perm).trans settled⟩

/-- the last of two variables that name one database in different letter cases counts -/
theorem overrideAll_not_perm_reports :
    let environment := [("POSTMODEL_DATABASE_URL_REPORTS", "postgres://h/first"),
      ("POSTMODEL_DATABASE_URL_reports", "postgres://h/second")]
    (environment.map Prod.fst).Nodup ∧ environment.reverse.Perm environment ∧
      overrideAll {} environment = { databases := [("reports", { url := "postgres://h/second" })] } ∧
      overrideAll {} environment.reverse = { databases := [("reports", { url := "postgres://h/first" })] } :=
  ⟨by decide, List.reverse_perm _, by decide +kernel, by decide +kernel⟩

end Settings

end Tabula
