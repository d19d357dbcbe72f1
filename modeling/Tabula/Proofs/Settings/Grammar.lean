import Tabula.Proofs.Field.Conversion
import Tabula.Proofs.Keyed
import Tabula.Proofs.Outcome
import Tabula.Settings.File
/-!
# The grammar of settings files

What a settings file may say, apart from how it is read.  `Settings.loads_iff`: a file is loaded just if it is of the
grammar once the members of its databases that have no meaning are left out, and it gives the settings that the grammar
says.  The root may have no such members, but a database may: what they say is lost.

In a file in TOML a date is a table with a single member, as it is in the document that is read from the file.
-/

namespace Tabula.Settings

variable {α β : Type} {means : Json → α → Prop} {read : Json → Option α} {missing a : α} {standard : Option α}
  {name s : String} {j : Json} {members : List (String × Json)} {entries : List (String × α)} {d : DatabaseSettings}
  {settings : Settings}

/-! ## Members -/

/-- the values under a name -/
def under (name : String) (members : List (String × Json)) : List Json :=
  (members.filter fun m => m.1 = name).map Prod.snd

/-- what the one member of a name means; if there is none, the standard, unless it has to be there -/
inductive Member (means : Json → α → Prop) (standard : Option α) (name : String) (members : List (String × Json)) :
    α → Prop where
  | missing {a : α} (absent : under name members = []) (default : standard = some a) :
    Member means standard name members a
  | given {j : Json} {a : α} (single : under name members = [j]) (meaning : means j a) :
    Member means standard name members a

/-- a value that may be null -/
inductive OrNull (means : Json → α → Prop) : Json → Option α → Prop where
  | null : OrNull means .null none
  | value {j : Json} {a : α} (meaning : means j a) : OrNull means j (some a)

/-- a table of any names: whatever stands under them has a meaning, and of equal names the last counts -/
inductive Table (means : Json → α → Prop) : Json → List (String × α) → Prop where
  | entries {members : List (String × Json)} {entries : List (String × α)} (ordered : Keyed.Ordered entries)
    (each : ∀ m ∈ members, ∃ a, means m.2 a)
    (last : ∀ name a, Keyed.find? name entries = some a ↔ ∃ j, (under name members).getLast? = some j ∧ means j a) :
    Table means (.obj members) entries

/-! ## Files -/

/-- an option in its text form: a text, a whole number of 64 bits, or a truth value -/
inductive OptionText : Json → String → Prop where
  | text (s : String) : OptionText (.str s) s
  | whole {i : Int} (lower : -9223372036854775808 ≤ i) (upper : i ≤ 9223372036854775807) :
    OptionText (.int i) (toString i)
  | on : OptionText (.bool true) "true"
  | off : OptionText (.bool false) "false"

/-- the members of the table of a database -/
def databaseMembers : List String := ["url", "options"]

/-- a database: its address, or a table with the address and, if there are any, options -/
inductive DatabaseEntry : Json → DatabaseSettings → Prop where
  | address (url : String) : DatabaseEntry (.str url) { url := url }
  | table {members : List (String × Json)} {url : String} {options : List (String × String)}
    (names : ∀ m ∈ members, m.1 ∈ databaseMembers)
    (address : Member (fun j s => j = .str s) none "url" members url)
    (parameters : Member (Table OptionText) (some []) "options" members options) :
    DatabaseEntry (.obj members) ⟨url, options⟩

/-- whether the members of a root say just these settings, by themselves or by leaving out what has a default -/
structure Describes (members : List (String × Json)) (s : Settings) : Prop where
  names : ∀ m ∈ members, m.1 ∈ rootMembers
  debug : ∃ given, Member (OrNull fun j b => j = .bool b) (some none) "debug" members given ∧ s.debug = given.getD true
  logLevel : ∃ given, Member (OrNull fun j level => j = .str level) (some none) "log_level" members given ∧
    s.logLevel = given.getD "info"
  databases : Member (Table DatabaseEntry) (some []) "databases" members s.databases
  addresses : ∀ d ∈ s.databases, Text.allBlank d.2.url = false

/-- a database without the members that its table should not have -/
def tidiedDatabase : Json → Json
  | .obj members => .obj (members.filter fun m => m.1 ∈ databaseMembers)
  | j => j

/-- databases without such members -/
def tidiedDatabases : Json → Json
  | .obj members => .obj (members.map fun m => (m.1, tidiedDatabase m.2))
  | j => j

/-- the members of a root, its databases without such members -/
def tidied (members : List (String × Json)) : List (String × Json) :=
  members.map fun m => (m.1, if m.1 = "databases" then tidiedDatabases m.2 else m.2)

/-- whether the table of a database has only members that have a meaning -/
def knownDatabase : Json → Bool
  | .obj members => members.all fun m => m.1 ∈ databaseMembers
  | _ => true

/-- whether all databases have only such members -/
def knownDatabases : Json → Bool
  | .obj members => members.all fun m => knownDatabase m.2
  | _ => true

/-- whether all databases of a root have only such members -/
def known (members : List (String × Json)) : Bool := members.all fun m => m.1 ≠ "databases" || knownDatabases m.2

/-! ## Members under a name -/

theorem under_map (f : String → Json → Json) (name : String) (members : List (String × Json)) :
    under name (members.map fun m => (m.1, f m.1 m.2)) = (under name members).map (f name) := by
  induction members with
  | nil => rfl
  | cons m members ih =>
    by_cases same : m.1 = name
    · simpa [under, same] using ih
    · simpa [under, same] using ih

theorem under_filter {p : String → Bool} (kept : p name = true) (members : List (String × Json)) :
    under name (members.filter fun m => p m.1) = under name members := by
  rw [under, under, List.filter_filter]
  refine congrArg _ (List.filter_congr fun m _ => ?_)
  by_cases same : m.1 = name
  · rw [same, kept, Bool.and_true]
  · rw [decide_eq_false same, Bool.false_and]

theorem member_iff : Member means standard name members a ↔
    (under name members = [] ∧ standard = some a) ∨ ∃ j, under name members = [j] ∧ means j a := by
  constructor
  · rintro (⟨absent, default⟩ | ⟨single, meaning⟩)
    · exact .inl ⟨absent, default⟩
    · exact .inr ⟨_, single, meaning⟩
  · rintro (⟨absent, default⟩ | ⟨j, single, meaning⟩)
    · exact .missing absent default
    · exact .given single meaning

/-- what a member means when the values of all members are changed -/
theorem member_map (f : String → Json → Json) :
    Member means standard name (members.map fun m => (m.1, f m.1 m.2)) a ↔
      Member (fun j => means (f name j)) standard name members a := by
  rw [member_iff, member_iff, under_map]
  simp [List.map_eq_singleton_iff]

theorem member_filter {p : String → Bool} (kept : p name = true) :
    Member means standard name (members.filter fun m => p m.1) a ↔ Member means standard name members a := by
  rw [member_iff, member_iff, under_filter kept]

/-! ## Reading -/

theorem member?_eq : member? name members = match under name members with
    | [] => some none
    | [j] => some (some j)
    | _ => none := by
  unfold member? under
  cases members.filter fun m => m.1 = name with
  | nil => rfl
  | cons m rest => cases rest <;> rfl

theorem optional?_iff (reads : ∀ j a, read j = some a ↔ means j a) :
    optional? read missing name members = some a ↔ Member means (some missing) name members a := by
  rw [optional?, member?_eq, member_iff]
  match under name members with
  | [] => simp
  | [j] => simp [reads]
  | _ :: _ :: _ => simp

theorem required?_iff (reads : ∀ j a, read j = some a ↔ means j a) :
    required? read name members = some a ↔ Member means none name members a := by
  rw [required?, member?_eq, member_iff]
  match under name members with
  | [] => simp
  | [j] => simp [reads]
  | _ :: _ :: _ => simp

theorem text?_iff : text? j = some s ↔ j = .str s := by
  cases j <;> simp [text?]

theorem flag?_iff {b : Bool} : flag? j = some b ↔ j = .bool b := by
  cases j <;> simp [flag?]

theorem orNull?_iff (reads : ∀ j a, read j = some a ↔ means j a) (null : read .null = none) {given : Option α} :
    orNull? read j = some given ↔ OrNull means j given := by
  constructor
  · intro h
    unfold orNull? at h
    split at h
    · cases h
      exact .null
    · obtain ⟨a, ha, rfl⟩ := Option.map_eq_some_iff.mp h
      exact .value ((reads _ a).mp ha)
  · intro h
    cases h with
    | null => rfl
    | @value _ a meaning =>
      have ha := (reads j a).mpr meaning
      unfold orNull?
      split
      · -- null itself has no meaning, so it is no value
        rw [null] at ha
        cases ha
      · rw [ha, Option.map_some]

/-- the last of several values is read to the last result -/
theorem getLast?_of_forall₂ {R : β → α → Prop} {given : List β} {results : List α} (h : List.Forall₂ R given results) :
    Option.Rel R given.getLast? results.getLast? := by
  have reversed := List.forall₂_reverse_iff.mpr h
  rw [← List.head?_reverse, ← List.head?_reverse]
  generalize given.reverse = backwards at reversed
  generalize results.reverse = resultsBackwards at reversed
  cases reversed with
  | nil => exact .none
  | cons first _ => exact .some first

/-- what is read for the members under a name -/
theorem forall₂_under {given : List (String × α)}
    (each : List.Forall₂ (fun m e => (read m.2).map (m.1, ·) = some e) members given) (name : String) :
    List.Forall₂ (fun j a => read j = some a) (under name members)
      ((given.filter fun e => e.1 = name).map Prod.snd) := by
  induction each with
  | nil => exact .nil
  | @cons m e members given first _ ih =>
    obtain ⟨a, ha, rfl⟩ := Option.map_eq_some_iff.mp first
    by_cases same : m.1 = name
    · have now : under name (m :: members) = m.2 :: under name members := by simp [under, same]
      rw [now, List.filter_cons_of_pos (by simpa using same)]
      exact .cons ha ih
    · have later : under name (m :: members) = under name members := by simp [under, same]
      rw [later, List.filter_cons_of_neg (by simpa using same)]
      exact ih

theorem find?_ofList_of_read {given : List (String × α)}
    (each : List.Forall₂ (fun m e => (read m.2).map (m.1, ·) = some e) members given) (name : String) (a : α) :
    Keyed.find? name (Keyed.ofList given) = some a ↔
      ∃ j, (under name members).getLast? = some j ∧ read j = some a := by
  have last := getLast?_of_forall₂ (forall₂_under each name)
  rw [Keyed.find?_ofList, ← List.getLast?_map]
  generalize (under name members).getLast? = j at last
  generalize ((given.filter fun e => e.1 = name).map Prod.snd).getLast? = b at last
  cases last with
  | none => simp
  | some h => simp [h]

theorem table?_iff (reads : ∀ j a, read j = some a ↔ means j a) :
    table? read j = some entries ↔ Table means j entries := by
  have readable (m : String × Json) : (∃ e, (read m.2).map (m.1, ·) = some e) ↔ ∃ a, means m.2 a := by
    simp [reads]
  constructor
  · intro h
    cases j with
    | obj members =>
      obtain ⟨given, all, rfl⟩ := Option.map_eq_some_iff.mp h
      refine .entries (Keyed.ordered_ofList given) (fun m hm => ?_) fun name a => ?_
      · exact (readable m).mp (exists_mapM_some.mp ⟨given, all⟩ m hm)
      · simp only [find?_ofList_of_read (mapM_some_iff.mp all), reads]
    | _ => cases h
  · intro h
    cases h with
    | @entries members entries ordered each last =>
      obtain ⟨given, all⟩ := exists_mapM_some.mpr fun m hm => (readable m).mpr (each m hm)
      -- the same is found under every name, and both are in order
      refine Option.map_eq_some_iff.mpr ⟨given, all, ?_⟩
      refine (Keyed.ordered_ofList given).ext ordered fun name => Option.ext fun a => ?_
      simp only [last, find?_ofList_of_read (mapM_some_iff.mp all), reads]

/-- what a table means when its values are changed -/
theorem table_map (f : Json → Json) : Table means (.obj (members.map fun m => (m.1, f m.2))) entries ↔
    Table (fun j => means (f j)) (.obj members) entries := by
  have values (name : String) : (under name (members.map fun m => (m.1, f m.2))).getLast? =
      (under name members).getLast?.map f := by
    rw [under_map fun _ => f, List.getLast?_map]
  constructor
  · intro h
    cases h with
    | entries ordered each last =>
      refine .entries ordered (fun m hm => each _ (List.mem_map_of_mem hm)) fun name a => ?_
      simp [last, values]
  · intro h
    cases h with
    | entries ordered each last =>
      refine .entries ordered (List.forall_mem_map.mpr each) fun name a => ?_
      simp [last, values]

theorem fitsSigned_64 {i : Int} :
    Text.fitsSigned 64 i = true ↔ -9223372036854775808 ≤ i ∧ i ≤ 9223372036854775807 := by
  have bound : ((Nat.pow 2 (64 - 1) : Nat) : Int) = 9223372036854775808 := rfl
  rw [Text.fitsSigned_iff, bound]
  omega

theorem option?_iff : option? j = some s ↔ OptionText j s := by
  constructor
  · intro h
    cases j with
    | str t =>
      obtain rfl := Option.some.inj h
      exact .text _
    | int i =>
      simp only [option?] at h
      split at h
      · next fits =>
        obtain rfl := Option.some.inj h
        obtain ⟨lower, upper⟩ := fitsSigned_64.mp fits
        exact .whole lower upper
      · cases h
    | bool b =>
      obtain rfl := Option.some.inj h
      cases b with
      | false => exact .off
      | true => exact .on
    | _ => cases h
  · intro h
    cases h with
    | text => rfl
    | whole lower upper => exact if_pos (fitsSigned_64.mpr ⟨lower, upper⟩)
    | on => rfl
    | off => rfl

/-! ## Files that are loaded -/

theorem databaseEntry_tidied : DatabaseEntry (tidiedDatabase (.obj members)) d ↔
    Member (fun j s => j = .str s) none "url" members d.url ∧
      Member (Table OptionText) (some []) "options" members d.options := by
  let known (name : String) : Bool := name ∈ databaseMembers
  have url : known "url" = true := by decide
  have options : known "options" = true := by decide
  constructor
  · intro h
    cases h with
    | table names address parameters => exact ⟨(member_filter url).mp address, (member_filter options).mp parameters⟩
  · rintro ⟨address, parameters⟩
    refine .table (fun m hm => ?_) ((member_filter url).mpr address) ((member_filter options).mpr parameters)
    simpa using (List.mem_filter.mp hm).2

/-- a database may have any members beside those that have a meaning -/
theorem database?_iff : database? j = some d ↔ DatabaseEntry (tidiedDatabase j) d := by
  cases j with
  | str url =>
    constructor
    · intro h
      obtain rfl := Option.some.inj h
      exact .address url
    · intro h
      cases h
      rfl
  | obj members =>
    rw [databaseEntry_tidied, ← required?_iff fun _ _ => text?_iff,
      ← optional?_iff fun _ _ => table?_iff fun _ _ => option?_iff]
    obtain ⟨url, options⟩ := d
    simp [database?, Option.bind_eq_some_iff]
  | _ => exact iff_of_false nofun nofun

theorem table_tidied {databases : List (String × DatabaseSettings)} :
    Table DatabaseEntry (tidiedDatabases j) databases ↔
      Table (fun j => DatabaseEntry (tidiedDatabase j)) j databases := by
  cases j with
  | obj members => exact table_map tidiedDatabase
  | _ => exact iff_of_false nofun nofun

theorem member_tidied (other : name ≠ "databases") :
    Member means standard name (tidied members) a ↔ Member means standard name members a := by
  refine (member_map fun name j => if name = "databases" then tidiedDatabases j else j).trans ?_
  simp only [if_neg other]

theorem member_tidied_databases : Member means standard "databases" (tidied members) a ↔
    Member (fun j => means (tidiedDatabases j)) standard "databases" members a := by
  refine (member_map fun name j => if name = "databases" then tidiedDatabases j else j).trans ?_
  simp only [if_true]

theorem ofDocument?_obj : ofDocument? (.obj members) = some settings ↔ (∀ m ∈ members, m.1 ∈ rootMembers) ∧
    ∃ debug level databases, optional? (orNull? flag?) none "debug" members = some debug ∧
      optional? (orNull? text?) none "log_level" members = some level ∧
      optional? (table? database?) [] "databases" members = some databases ∧
      overDefaults debug level databases = settings := by
  simp [ofDocument?, Option.bind_eq_some_iff]

/-- a root is read just if it is of the grammar, but for the members of its databases that have no meaning -/
theorem ofDocument?_iff : (ofDocument? (.obj members) = some settings ∧
    ∀ d ∈ settings.databases, Text.allBlank d.2.url = false) ↔ Describes (tidied members) settings := by
  have names : (∀ m ∈ tidied members, m.1 ∈ rootMembers) ↔ ∀ m ∈ members, m.1 ∈ rootMembers :=
    List.forall_mem_map
  have debug (given : Option Bool) : optional? (orNull? flag?) none "debug" members = some given ↔
      Member (OrNull fun j b => j = .bool b) (some none) "debug" (tidied members) given := by
    rw [member_tidied (by decide)]
    exact optional?_iff fun _ _ => orNull?_iff (fun _ _ => flag?_iff) rfl
  have level (given : Option String) : optional? (orNull? text?) none "log_level" members = some given ↔
      Member (OrNull fun j level => j = .str level) (some none) "log_level" (tidied members) given := by
    rw [member_tidied (by decide)]
    exact optional?_iff fun _ _ => orNull?_iff (fun _ _ => text?_iff) rfl
  have databases (given : List (String × DatabaseSettings)) :
      optional? (table? database?) [] "databases" members = some given ↔
        Member (Table DatabaseEntry) (some []) "databases" (tidied members) given := by
    rw [member_tidied_databases]
    exact optional?_iff fun _ _ => (table?_iff fun _ _ => database?_iff).trans table_tidied.symm
  simp only [ofDocument?_obj, debug, level, databases]
  constructor
  · rintro ⟨⟨known, given, level, databases, hd, hl, hb, rfl⟩, addresses⟩
    exact ⟨names.mpr known, ⟨given, hd, rfl⟩, ⟨level, hl, rfl⟩, hb, addresses⟩
  · rintro ⟨known, ⟨given, hd, debug⟩, ⟨level, hl, logLevel⟩, hb, addresses⟩
    refine ⟨⟨names.mp known, given, level, settings.databases, hd, hl, hb, ?_⟩, addresses⟩
    rw [overDefaults, ← debug, ← logLevel]

theorem checked_ok {s t : Settings} : s.checked = .ok t ↔
    s = t ∧ ∀ d ∈ s.databases, Text.allBlank d.2.url = false := by
  unfold checked
  cases blank : s.databases.find? fun d => Text.allBlank d.2.url with
  | some d =>
    refine iff_of_false nofun ?_
    rintro ⟨-, addresses⟩
    have address := addresses d (List.mem_of_find?_eq_some blank)
    rw [List.find?_some blank] at address
    cases address
  | none =>
    have addresses : ∀ d ∈ s.databases, Text.allBlank d.2.url = false := by
      simpa using List.find?_eq_none.mp blank
    rw [Except.ok.injEq, and_iff_left addresses]

/-- a file in TOML has a table as its root -/
theorem document?_obj {text : String} (h : Toml.document? text = some j) : ∃ members, j = .obj members := by
  obtain ⟨_, -, h⟩ := Option.bind_eq_some_iff.mp h
  obtain ⟨_, -, h⟩ := Option.bind_eq_some_iff.mp h
  obtain ⟨_, -, h⟩ := Option.bind_eq_some_iff.mp h
  exact ⟨_, (Option.some.inj h).symm⟩

/-- changing the values of members changes nothing just if each value stays -/
theorem map_eq_self_iff {f : String → Json → Json} :
    (members.map fun m => (m.1, f m.1 m.2)) = members ↔ ∀ m ∈ members, f m.1 m.2 = m.2 := by
  have same := List.map_eq_map_iff (f := fun m => (m.1, f m.1 m.2)) (g := id) (l := members)
  rw [List.map_id] at same
  rw [same]
  simp [Prod.ext_iff]

theorem tidiedDatabase_eq_iff : tidiedDatabase j = j ↔ knownDatabase j = true := by
  cases j with
  | obj members => simp [tidiedDatabase, knownDatabase]
  | _ => simp [tidiedDatabase, knownDatabase]

theorem tidiedDatabases_eq_iff : tidiedDatabases j = j ↔ knownDatabases j = true := by
  cases j with
  | obj members =>
    rw [tidiedDatabases, Json.obj.injEq, knownDatabases, List.all_eq_true]
    refine (map_eq_self_iff (f := fun _ => tidiedDatabase)).trans (forall₂_congr fun m _ => ?_)
    exact tidiedDatabase_eq_iff
  | _ => simp [tidiedDatabases, knownDatabases]

/-- nothing is left out just if the databases have known members only -/
theorem tidied_eq_iff : tidied members = members ↔ known members = true := by
  rw [known, List.all_eq_true]
  refine (map_eq_self_iff (f := fun name j => if name = "databases" then tidiedDatabases j else j)).trans
    (forall₂_congr fun m _ => ?_)
  by_cases databases : m.1 = "databases"
  · simp [databases, tidiedDatabases_eq_iff]
  · simp [databases]

/-- what a root is read and checked to -/
theorem read_root_iff {root : Option Json} (table : ∀ items, root ≠ some (.arr items)) :
    (∃ s, root.bind ofDocument? = some s ∧ s.checked = .ok settings) ↔
      ∃ members, root = some (.obj members) ∧ Describes (tidied members) settings := by
  cases root with
  | none => simp
  | some j =>
    cases j with
    | obj members =>
      simp only [Option.bind_some, checked_ok]
      constructor
      · rintro ⟨s, read, rfl, addresses⟩
        exact ⟨members, rfl, ofDocument?_iff.mp ⟨read, addresses⟩⟩
      · rintro ⟨_, same, describes⟩
        cases same
        obtain ⟨read, addresses⟩ := ofDocument?_iff.mpr describes
        exact ⟨settings, read, rfl, addresses⟩
    | arr items => exact absurd rfl (table items)
    | _ => exact iff_of_false nofun nofun

theorem DatabaseEntry.known (entry : DatabaseEntry j d) : knownDatabase j = true := by
  cases entry with
  | address url => rfl
  | table names address parameters =>
    rw [knownDatabase, List.all_eq_true]
    intro m hm
    exact decide_eq_true (names m hm)

/-- what the grammar describes has databases with known members only -/
theorem Describes.known (describes : Describes members settings) : known members = true := by
  rw [Settings.known, List.all_eq_true]
  intro m hm
  by_cases databases : m.1 = "databases"
  · have there : m.2 ∈ under "databases" members :=
      List.mem_map_of_mem (List.mem_filter.mpr ⟨hm, decide_eq_true databases⟩)
    cases describes.databases with
    | missing absent =>
      rw [absent] at there
      cases there
    | given single table =>
      rw [single, List.mem_singleton] at there
      rw [there]
      cases table with
      | entries ordered each last =>
        rw [knownDatabases, Bool.or_eq_true, List.all_eq_true]
        refine .inr fun e he => ?_
        obtain ⟨d, entry⟩ := each e he
        exact entry.known
  · simp [databases]

/-- a root is of the grammar just if it is so without the members that have no meaning, and it has none -/
theorem describes_iff : Describes members settings ↔ known members = true ∧ Describes (tidied members) settings := by
  constructor
  · intro describes
    have whole := tidied_eq_iff.mpr describes.known
    rw [whole]
    exact ⟨describes.known, describes⟩
  · rintro ⟨all, describes⟩
    rwa [tidied_eq_iff.mpr all] at describes

/-- **A file is loaded just if it is of the grammar, but for the members of its databases that have no meaning.**  For
every text, in TOML and, if its root is no list, in JSON: it is loaded with some settings exactly when its root is a
table that describes just these settings, once such members are left out.  Then the root has no other members than its
three, every value is of its type, no address is blank, and the settings are the defaults overlaid with what is given.
The root as it stands is of the grammar just if its databases have no other members in addition. -/
theorem loads_iff (text : String) (s : Settings) :
    (ofToml text = .ok s ↔
      ∃ members, Toml.document? text = some (.obj members) ∧ Describes (tidied members) s) ∧
    ((∀ items, Json.asWritten? text ≠ some (.arr items)) →
      (ofJson text = .ok s ↔
        ∃ members, Json.asWritten? text = some (.obj members) ∧ Describes (tidied members) s)) ∧
    ∀ members, Describes members s ↔ known members = true ∧ Describes (tidied members) s := by
  refine ⟨?_, fun table => ?_, fun members => describes_iff⟩
  · -- in TOML the root is never a list
    have table : ∀ items, Toml.document? text ≠ some (.arr items) := by
      intro items root
      obtain ⟨members, same⟩ := document?_obj root
      cases same
    rw [← read_root_iff table, ofToml]
    cases (Toml.document? text).bind ofDocument? with
    | none => simp [failure]
    | some t => simp
  · rw [← read_root_iff table, ofJson]
    cases (Json.asWritten? text).bind ofDocument? with
    | none => simp [failure]
    | some t => simp

/-- the members of a root, if it is a table -/
def rootTable? : Option Json → Option (List (String × Json))
  | some (.obj members) => some members
  | _ => none

theorem rootTable?_iff {root : Option Json} : rootTable? root = some members ↔ root = some (.obj members) := by
  cases root with
  | none => simp [rootTable?]
  | some j => cases j <;> simp [rootTable?]

/-- a file with a database that has an option -/
def reportsFile : String :=
  "\x7b\"databases\": \x7b\"reports\": " ++
    "\x7b\"url\": \"postgres://h/r\", \"options\": \x7b\"max_size\": 5\x7d\x7d\x7d\x7d"

/-- what that file says -/
def reportsSettings : Settings where
  databases := [("reports", { url := "postgres://h/r", options := [("max_size", "5")] })]

theorem loads_reportsFile : (∀ items, Json.asWritten? reportsFile ≠ some (.arr items)) ∧
    ∃ members, Json.asWritten? reportsFile = some (.obj members) ∧ Describes members reportsSettings := by
  have root : (rootTable? (Json.asWritten? reportsFile)).any known = true := by decide +kernel
  have loaded : ofJson reportsFile = .ok reportsSettings := Outcome.ok_of_toOption (by decide +kernel)
  obtain ⟨members, read, all⟩ := (Option.any_eq_true _ _).mp root
  rw [rootTable?_iff] at read
  have table : ∀ items, Json.asWritten? reportsFile ≠ some (.arr items) := by
    rw [read]
    exact nofun
  obtain ⟨-, json, grammar⟩ := loads_iff reportsFile reportsSettings
  obtain ⟨_, same, describes⟩ := (json table).mp loaded
  cases read.symm.trans same
  exact ⟨table, members, read, (grammar members).mpr ⟨all, describes⟩⟩

/-- a file in which the name of the options is misspelt -/
def misspeltFile : String :=
  "\x7b\"databases\": \x7b\"default\": " ++
    "\x7b\"url\": \"postgres://h/db\", \"optoins\": \x7b\"max_size\": \"5\"\x7d\x7d\x7d\x7d"

/-- **A misspelt member of a database is accepted, and what it says is lost.** -/
theorem loads_misspeltFile : ofJson misspeltFile = .ok { databases := [("default", { url := "postgres://h/db" })] } ∧
    ∃ members, Json.asWritten? misspeltFile = some (.obj members) ∧ ∀ s, ¬Describes members s := by
  refine ⟨Outcome.ok_of_toOption (by decide +kernel), ?_⟩
  have root : (rootTable? (Json.asWritten? misspeltFile)).any (fun members => !known members) = true := by
    decide +kernel
  obtain ⟨members, read, stray⟩ := (Option.any_eq_true _ _).mp root
  refine ⟨members, rootTable?_iff.mp read, fun s describes => ?_⟩
  rw [describes.known] at stray
  cases stray

end Tabula.Settings
