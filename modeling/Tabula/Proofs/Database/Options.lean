import Tabula.Database.Config
import Tabula.Proofs.Address.Parameters
import Tabula.Proofs.Outcome
/-!
# Options of a database

Options tune the pool as parameters of the URL do.  Applied on top of a URL they give what the URL gives with them
appended to its parameters, as long as the URL can be read alone: its own sizes are compared before the options are
applied, so that a URL with a `min_size` above its `max_size`, or above the default, is refused whatever the options
say.
-/

namespace Tabula.DatabaseConfig

open Address

variable {c d : DatabaseConfig} {name url key value : String} {parameters more options : List (String × String)}

/-! ## Parameters -/

theorem checked_eq_ok : c.checked = .ok d ↔ d = c ∧ c.minSize ≤ c.maxSize := by
  unfold checked
  split
  · next misfit => exact iff_of_false nofun fun h => Nat.not_le.mpr misfit h.2
  · next fits => rw [Except.ok.injEq, and_iff_left (Nat.not_lt.mp fits), eq_comm]

theorem withParameters_append : c.withParameters (parameters ++ more) =
    c.withParameters parameters >>= fun d => d.withParameters more :=
  List.foldlM_append

/-- what every configuration has, whether its sizes fit each other or not -/
structure Sound (c : DatabaseConfig) : Prop where
  minSize : 1 ≤ c.minSize
  database : c.database ≠ ""

theorem size_pos {n : Nat} (h : size key value = .ok n) : 1 ≤ n := by
  unfold size at h
  split at h
  · cases h
    exact Nat.le_add_left 1 _
  · cases h

/-- one parameter -/
theorem Sound.withParameter (h : Sound c) (applied : c.withParameter key value = .ok d) : Sound d := by
  unfold DatabaseConfig.withParameter at applied
  split at applied
  case h_1 =>
    obtain ⟨n, positive, rfl⟩ := Outcome.map_ok.mp applied
    exact ⟨size_pos positive, h.database⟩
  case h_5 =>
    cases applied
    exact ⟨h.minSize, h.database⟩
  case h_8 => cases applied
  all_goals
    obtain ⟨_, _, rfl⟩ := Outcome.map_ok.mp applied
    exact ⟨h.minSize, h.database⟩

/-- any number of parameters -/
theorem Sound.withParameters (h : Sound c) (applied : c.withParameters parameters = .ok d) : Sound d := by
  unfold DatabaseConfig.withParameters at applied
  induction parameters generalizing c with
  | nil =>
    cases applied
    exact h
  | cons p rest ih =>
    rw [List.foldlM_cons] at applied
    obtain ⟨e, first, applied⟩ := Outcome.bind_ok.mp applied
    exact ih (h.withParameter first) applied

/-! ## URLs -/

theorem decoded_empty : decoded "" = .ok "" := by
  have none : Text.utf8 "" = [] := Text.utf8_ofList []
  rw [decoded, none, Text.percentDecoded, ← none, Text.ofUtf8?_utf8]

/-- an address that a configuration comes of has a path that names its database -/
theorem ofAddress_ok {a : Address} (h : ofAddress name a = .ok c) : a.path ≠ "" ∧ Sound c := by
  obtain ⟨_, _, h⟩ := Outcome.bind_ok.mp h
  obtain ⟨_, _, h⟩ := Outcome.bind_ok.mp h
  obtain ⟨_, _, h⟩ := Outcome.bind_ok.mp h
  obtain ⟨database, decoded, h⟩ := Outcome.bind_ok.mp h
  split at h
  · cases h
  · next named =>
    cases h
    refine ⟨?_, ⟨Nat.le_refl 1, named⟩⟩
    intro empty
    rw [empty, show String.ofList ("".toList.dropWhile (· == '/')) = "" from rfl, decoded_empty] at decoded
    cases decoded
    exact named rfl

/-- what a URL gives of a configuration before its parameters are applied, and the parameters -/
def Gives (name url : String) (c : DatabaseConfig) (parameters : List (String × String)) : Prop :=
  ∃ scheme rest a, scheme? (cleaned url) = some (scheme, rest) ∧
    (webSchemes.contains scheme = false ∧ scheme ≠ "file") ∧ ofBody scheme rest = .ok a ∧ ofAddress name a = .ok c ∧
    a.parameters = parameters

theorem Gives.sound (h : Gives name url c parameters) : Sound c := by
  obtain ⟨_, _, _, _, _, _, made, _⟩ := h
  exact (ofAddress_ok made).2

/-- then the URL stands for the configuration with the parameters applied -/
theorem Gives.ofUrl_eq (h : Gives name url c parameters) :
    ofUrl name url = c.withParameters parameters >>= checked := by
  obtain ⟨scheme, rest, a, found, ⟨web, file⟩, read, made, rfl⟩ := h
  have address : addressOf name url = .ok a := by
    rw [addressOf, ofText_eq, found]
    simp only [web, file, read, if_false, Bool.false_eq_true]
  rw [ofUrl, address, Outcome.ok_bind, made, Outcome.ok_bind]

/-- a URL that stands for a configuration gives one before its parameters are applied -/
theorem gives_of_ofUrl (h : ofUrl name url = .ok d) : ∃ c parameters, Gives name url c parameters := by
  obtain ⟨a, address, h⟩ := Outcome.bind_ok.mp h
  obtain ⟨c, made, -⟩ := Outcome.bind_ok.mp h
  have path := (ofAddress_ok made).1
  have read : ofText url = .ok a := by
    unfold addressOf at address
    split at address
    · next read =>
      cases address
      exact read
    · cases address
    · cases address
  rw [ofText_eq] at read
  split at read
  · cases read
  next scheme rest found =>
  split at read
  · -- nothing but the scheme is kept of an address of the web
    cases checked : checkWeb rest with
    | error f =>
      rw [checked] at read
      cases read
    | ok u =>
      rw [checked] at read
      cases read
      exact absurd rfl path
  next web =>
  split at read
  · cases checked : checkFile rest with
    | error f =>
      rw [checked] at read
      cases read
    | ok u =>
      rw [checked] at read
      cases read
      exact absurd rfl path
  · next file => exact ⟨c, _, scheme, rest, a, found, ⟨by simpa using web, file⟩, read, made, rfl⟩

/-- **Parameters appended to a URL come after its own**, and change nothing else. -/
theorem gives_appended : Gives name (appended url options) c parameters ↔
    ∃ own, parameters = own ++ options ∧ Gives name url c own := by
  rcases appended_reads url options with ⟨without, without'⟩ | ⟨scheme, rest, rest', found, found', reads⟩
  · refine iff_of_false ?_ ?_
    · rintro ⟨_, _, _, found, _⟩
      cases without'.symm.trans found
    · rintro ⟨_, _, _, _, _, found, _⟩
      cases without.symm.trans found
  constructor
  · rintro ⟨_, _, a, again, plain, read, made, rfl⟩
    cases found'.symm.trans again
    obtain ⟨own, split, read⟩ := (reads a (ofAddress_ok made).1).2 read
    exact ⟨own, split, scheme, rest, _, found, plain, read, made, rfl⟩
  · rintro ⟨own, rfl, _, _, a, again, plain, read, made, rfl⟩
    cases found.symm.trans again
    exact ⟨scheme, rest', _, found', plain, (reads a (ofAddress_ok made).1).1 read, made, rfl⟩

/-! ## Options -/

/-- a URL with options on top -/
theorem Gives.withOptions (h : Gives name url d parameters) :
    (ofUrl name url >>= fun plain => plain.withOptions options) = .ok c ↔ ∃ plain,
      d.withParameters parameters = .ok plain ∧ plain.minSize ≤ plain.maxSize ∧
        plain.withParameters (Keyed.ofList options) = .ok c ∧ c.minSize ≤ c.maxSize := by
  rw [h.ofUrl_eq, Outcome.bind_ok]
  constructor
  · rintro ⟨plain, made, applied⟩
    obtain ⟨_, own, fits⟩ := Outcome.bind_ok.mp made
    obtain ⟨rfl, fits⟩ := checked_eq_ok.mp fits
    obtain ⟨_, all, last⟩ := Outcome.bind_ok.mp applied
    obtain ⟨rfl, last⟩ := checked_eq_ok.mp last
    exact ⟨_, own, fits, all, last⟩
  · rintro ⟨plain, own, fits, all, last⟩
    exact ⟨plain, Outcome.bind_ok.mpr ⟨plain, own, checked_eq_ok.mpr ⟨rfl, fits⟩⟩,
      Outcome.bind_ok.mpr ⟨c, all, checked_eq_ok.mpr ⟨rfl, last⟩⟩⟩

/-- a URL with options appended -/
theorem Gives.appended (h : Gives name url d parameters) :
    ofUrl name (Address.appended url options) = .ok c ↔ ∃ plain, d.withParameters parameters = .ok plain ∧
      plain.withParameters options = .ok c ∧ c.minSize ≤ c.maxSize := by
  rw [(gives_appended.mpr ⟨parameters, rfl, h⟩).ofUrl_eq, withParameters_append, Outcome.bind_ok]
  constructor
  · rintro ⟨_, made, fits⟩
    obtain ⟨plain, own, all⟩ := Outcome.bind_ok.mp made
    obtain ⟨rfl, fits⟩ := checked_eq_ok.mp fits
    exact ⟨plain, own, all, fits⟩
  · rintro ⟨plain, own, all, fits⟩
    exact ⟨c, Outcome.bind_ok.mpr ⟨plain, own, all⟩, checked_eq_ok.mpr ⟨rfl, fits⟩⟩

/-- **Options are parameters appended to the URL, where the URL can be read alone.**  The configuration of a URL with
options on top is that of the URL with the options appended in the order of their names.  The two differ only where the
sizes in the URL do not fit each other before the options are applied.  All configurations have sizes that fit, and the
name of a database. -/
theorem withOptions_iff_appended (name url : String) (options : List (String × String)) :
    (∀ c, (ofUrl name url >>= fun plain => plain.withOptions options) = .ok c ↔
      (∃ plain, ofUrl name url = .ok plain) ∧ ofUrl name (appended url (Keyed.ofList options)) = .ok c) ∧
    ∀ c, ofUrl name (appended url (Keyed.ofList options)) = .ok c →
      ((∃ plain, ofUrl name url = .ok plain) ∨
        ∃ own : DatabaseConfig, own.maxSize < own.minSize ∧ ofUrl name url = own.checked) ∧
      (1 ≤ c.minSize ∧ c.minSize ≤ c.maxSize) ∧ c.database ≠ "" := by
  refine ⟨fun c => ⟨fun both => ?_, ?_⟩, fun c together => ?_⟩
  · obtain ⟨plain, made, -⟩ := Outcome.bind_ok.mp both
    obtain ⟨d, parameters, gives⟩ := gives_of_ofUrl made
    obtain ⟨own, applied, -, all, fits⟩ := gives.withOptions.mp both
    exact ⟨⟨plain, made⟩, gives.appended.mpr ⟨own, applied, all, fits⟩⟩
  · rintro ⟨⟨plain, made⟩, together⟩
    obtain ⟨d, parameters, gives⟩ := gives_of_ofUrl made
    obtain ⟨own, applied, all, fits⟩ := gives.appended.mp together
    rw [gives.ofUrl_eq, applied] at made
    exact gives.withOptions.mpr ⟨own, applied, (checked_eq_ok.mp made).2, all, fits⟩
  · obtain ⟨d, _, appended⟩ := gives_of_ofUrl together
    obtain ⟨parameters, -, gives⟩ := gives_appended.mp appended
    obtain ⟨own, applied, all, fits⟩ := gives.appended.mp together
    have sound : Sound c := (gives.sound.withParameters applied).withParameters all
    refine ⟨?_, ⟨sound.minSize, fits⟩, sound.database⟩
    have alone : ofUrl name url = own.checked := by rw [gives.ofUrl_eq, applied, Outcome.ok_bind]
    rcases Nat.lt_or_ge own.maxSize own.minSize with misfit | fits
    · exact .inr ⟨own, misfit, alone⟩
    · exact .inl ⟨own, alone.trans (checked_eq_ok.mpr ⟨rfl, fits⟩)⟩

/-- a URL that asks for more connections than there may be by default is refused, although the options allow for them -/
theorem refused_before_options :
    let url := "postgres://localhost/app?min_size=40"
    let options := [("max_size", "50")]
    (ofUrl "default" url >>= fun plain => plain.withOptions options) =
        .error ⟨.configuration, "min_size (40) exceeds max_size (30) for database 'default'"⟩ ∧
      (ofUrl "default" (appended url (Keyed.ofList options))).map (fun c => (c.minSize, c.maxSize)) = .ok (40, 50) := by
  decide +kernel

end Tabula.DatabaseConfig
