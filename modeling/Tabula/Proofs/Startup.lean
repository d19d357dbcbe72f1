import Tabula.Proofs.Registry.Lifecycle
import Tabula.Startup
import Mathlib.Data.List.Induction
/-!
# What startup opens and closes

A program starts from the address of its default database and of others, or from its settings.  `Course` lists the ways
that this can go, with everything that is asked of the servers: nothing, the databases up to one that cannot be opened
and then the closing of those before it, or all databases.

A registry keeps one database for a name.  Of the databases opened under one name it keeps the last; the others stay
open, and closing the registry does not reach them.
-/

namespace Tabula

namespace DatabaseConfig

/-! ## Names -/

variable {c c' : DatabaseConfig} {name url key value : String}

theorem name_withParameter (h : c.withParameter key value = .ok c') : c'.name = c.name := by
  unfold withParameter at h
  split at h
  case h_5 =>
    cases h
    rfl
  case h_8 => cases h
  all_goals
    obtain ⟨_, _, rfl⟩ := Outcome.map_ok.mp h
    rfl

theorem name_withParameters {parameters : List (String × String)} (h : c.withParameters parameters = .ok c') :
    c'.name = c.name := by
  unfold withParameters at h
  induction parameters generalizing c with
  | nil =>
    cases h
    rfl
  | cons p rest ih =>
    rw [List.foldlM_cons] at h
    obtain ⟨d, first, h⟩ := Outcome.bind_ok.mp h
    exact (ih h).trans (name_withParameter first)

theorem eq_of_checked (h : c.checked = .ok c') : c' = c := by
  unfold checked at h
  split at h
  · cases h
  · cases h
    rfl

theorem name_withOptions {options : List (String × String)} (h : c.withOptions options = .ok c') :
    c'.name = c.name := by
  obtain ⟨d, applied, h⟩ := Outcome.bind_ok.mp h
  exact (congrArg _ (eq_of_checked h)).trans (name_withParameters applied)

theorem name_ofAddress {a : Address} (h : ofAddress name a = .ok c) : c.name = name := by
  obtain ⟨_, _, h⟩ := Outcome.bind_ok.mp h
  obtain ⟨_, _, h⟩ := Outcome.bind_ok.mp h
  obtain ⟨_, _, h⟩ := Outcome.bind_ok.mp h
  obtain ⟨_, _, h⟩ := Outcome.bind_ok.mp h
  split at h
  · cases h
  · cases h
    rfl

theorem name_ofUrl (h : ofUrl name url = .ok c) : c.name = name := by
  obtain ⟨a, _, h⟩ := Outcome.bind_ok.mp h
  obtain ⟨d, made, h⟩ := Outcome.bind_ok.mp h
  obtain ⟨d', applied, h⟩ := Outcome.bind_ok.mp h
  exact (congrArg _ (eq_of_checked h)).trans ((name_withParameters applied).trans (name_ofAddress made))

end DatabaseConfig

namespace Startup

/-! ## Where the databases come from -/

/-- what a program names its databases by -/
inductive Source where
  /-- the address of the default database, and others by their names -/
  | urls (url : String) (extra : List (String × String))
  | settings (s : Settings)

namespace Source

/-- the configurations of the databases that are used -/
def configs : Source → Outcome (List DatabaseConfig)
  | urls url extra => configsOfUrls url extra
  | settings s => configsOfSettings s

/-- starts a program -/
def start : Source → Opening (Outcome Registry)
  | urls url extra => withUrls url extra
  | settings s => withSettings s

/-- whether every address and option that is used makes sense and there is a default database -/
def Valid : Source → Prop
  | urls url extra => (∃ c, DatabaseConfig.ofUrl defaultDatabase url = .ok c) ∧
      ∀ e ∈ extra, e.1 ≠ defaultDatabase → ∃ c, DatabaseConfig.ofUrl e.1 e.2 = .ok c
  | settings s => (∀ e ∈ s.databases, ∃ plain c, DatabaseConfig.ofUrl e.1 e.2.url = .ok plain ∧
      plain.withOptions e.2.options = .ok c) ∧ ∃ e ∈ s.databases, e.1 = defaultDatabase

end Source

/-! ## What is said -/

/-- a request with its answer -/
abbrev Event := Dialogue.Exchange Request Request.Answer

namespace Event

/-- a database that is opened -/
def opened (p : DatabaseConfig × Database) : Event := ⟨.connect p.1, Except.ok p.2⟩

/-- a database that is closed, whatever comes of it -/
def closed (p : Database × Outcome Unit) : Event := ⟨.close p.1, p.2⟩

end Event

/-- how a startup can go, with its requests and their answers, and what it gives -/
inductive Course (source : Source) : List Event → Outcome Registry → Prop where
  | refused (e : Error) (invalid : ¬ source.Valid) : Course source [] (.error e)
  /-- the databases before one that cannot be opened are closed, each once and whatever comes of it -/
  | failed (valid : source.Valid) {before : List (DatabaseConfig × Database)} {c : DatabaseConfig}
      {rest : List DatabaseConfig} {closing : List (Database × Outcome Unit)} (e : Error)
      (used : source.configs = .ok (before.map Prod.fst ++ c :: rest))
      (all : closing.map Prod.fst = before.map Prod.snd) :
      Course source (before.map Event.opened ++ ⟨.connect c, Except.error e⟩ :: closing.map Event.closed) (.error e)
  | started (valid : source.Valid) {databases : List (DatabaseConfig × Database)}
      (used : source.configs = .ok (databases.map Prod.fst)) :
      Course source (databases.map Event.opened) (.ok (Registry.ofDatabases (databases.map Prod.snd)))

theorem Event.opened_injective : Function.Injective Event.opened := by
  rintro ⟨c, db⟩ ⟨c', db'⟩ same
  cases same
  rfl

variable {source : Source} {t : List Event} {outcome : Outcome Registry} {configs : List DatabaseConfig}

theorem says_closeAll {databases : List Database} (said : (closeAll databases).Says t ()) :
    ∃ closing : List (Database × Outcome Unit), closing.map Prod.fst = databases ∧ t = closing.map Event.closed := by
  induction databases generalizing t with
  | nil =>
    cases said
    exact ⟨[], rfl, rfl⟩
  | cons db rest ih =>
    obtain ⟨answer, later, rfl, more⟩ := Dialogue.says_ask.mp said
    obtain ⟨closing, all, rfl⟩ := ih more
    exact ⟨(db, answer) :: closing, congrArg (db :: ·) all, rfl⟩

/-- all databases are opened, or one of them is not and those before it are closed -/
theorem says_openAll {before : List Database} {outcome : Outcome (List Database)}
    (said : (openAll before configs).Says t outcome) :
    (∃ databases : List (DatabaseConfig × Database), databases.map Prod.fst = configs ∧
      t = databases.map Event.opened ∧ outcome = .ok (before ++ databases.map Prod.snd)) ∨
    (∃ (databases : List (DatabaseConfig × Database)) (c : DatabaseConfig) (rest : List DatabaseConfig) (e : Error)
      (closing : List (Database × Outcome Unit)), configs = databases.map Prod.fst ++ c :: rest ∧
      closing.map Prod.fst = before ++ databases.map Prod.snd ∧
      t = databases.map Event.opened ++ ⟨.connect c, Except.error e⟩ :: closing.map Event.closed ∧
      outcome = .error e) := by
  induction configs generalizing before t with
  | nil =>
    cases said
    exact .inl ⟨[], rfl, rfl, by simp⟩
  | cons c rest ih =>
    obtain ⟨answer, later, rfl, more⟩ := Dialogue.says_ask.mp said
    match answer with
    | .error e =>
      obtain ⟨closes, ⟨⟩, tail, rfl, closed, ended⟩ := Dialogue.says_bind.mp more
      cases ended
      obtain ⟨closing, all, rfl⟩ := says_closeAll closed
      exact .inr ⟨[], c, rest, e, closing, rfl, by simpa using all, by simp, rfl⟩
    | .ok db =>
      rcases ih more with ⟨databases, used, rfl, rfl⟩ | ⟨databases, k, behind, e, closing, used, all, rfl, rfl⟩
      · exact .inl ⟨(c, db) :: databases, congrArg (c :: ·) used, rfl, by simp⟩
      · exact .inr ⟨(c, db) :: databases, k, behind, e, closing, congrArg (c :: ·) used, by simpa using all, rfl, rfl⟩

theorem checked_ok {used : List DatabaseConfig} :
    checked configs = .ok used ↔ used = configs ∧ ∃ c ∈ configs, c.name = defaultDatabase := by
  unfold checked
  split
  · next named =>
    have named : ∃ c ∈ configs, c.name = defaultDatabase := by simpa using named
    rw [and_iff_left named, Except.ok.injEq, eq_comm]
  · next unnamed =>
    have unnamed : ¬ ∃ c ∈ configs, c.name = defaultDatabase := by simpa using unnamed
    exact iff_of_false nofun fun h => unnamed h.2

theorem configOfEntry_ok {e : String × DatabaseSettings} {c : DatabaseConfig} : configOfEntry e = .ok c ↔
    ∃ plain, DatabaseConfig.ofUrl e.1 e.2.url = .ok plain ∧ plain.withOptions e.2.options = .ok c := Outcome.bind_ok

theorem configOfEntry_name {e : String × DatabaseSettings} {c : DatabaseConfig} (h : configOfEntry e = .ok c) :
    c.name = e.1 := by
  obtain ⟨plain, made, applied⟩ := configOfEntry_ok.mp h
  exact (DatabaseConfig.name_withOptions applied).trans (DatabaseConfig.name_ofUrl made)

/-- a source is valid if configurations come of it and one is of the default database -/
theorem Source.valid_iff : source.Valid ↔ ∃ used, source.configs.bind checked = .ok used := by
  cases source with
  | urls url extra =>
    have others : (∀ e ∈ extra, e.1 ≠ defaultDatabase → ∃ c, DatabaseConfig.ofUrl e.1 e.2 = .ok c) ↔
        ∃ cs, (extra.filter fun e => e.1 ≠ defaultDatabase).mapM (fun e => DatabaseConfig.ofUrl e.1 e.2) = .ok cs := by
      rw [Outcome.exists_mapM_ok]
      simp [List.mem_filter]
    rw [Valid, others]
    constructor
    · rintro ⟨⟨first, made⟩, rest, all⟩
      refine ⟨first :: rest, Outcome.bind_ok.mpr ⟨first :: rest, ?_, checked_ok.mpr ⟨rfl, first, ?_, ?_⟩⟩⟩
      · simp only [configs, configsOfUrls, made, Outcome.ok_bind, all]
        rfl
      · exact List.mem_cons_self
      · exact DatabaseConfig.name_ofUrl made
    · rintro ⟨used, h⟩
      obtain ⟨cs, made, _⟩ := Outcome.bind_ok.mp h
      obtain ⟨first, one, made⟩ := Outcome.bind_ok.mp made
      obtain ⟨rest, all, _⟩ := Outcome.bind_ok.mp made
      exact ⟨⟨first, one⟩, rest, all⟩
  | settings s =>
    have each : (∀ e ∈ s.databases, ∃ plain c, DatabaseConfig.ofUrl e.1 e.2.url = .ok plain ∧
        plain.withOptions e.2.options = .ok c) ↔ ∃ cs, s.databases.mapM configOfEntry = .ok cs := by
      rw [Outcome.exists_mapM_ok]
      refine forall₂_congr fun e _ => ?_
      simp only [configOfEntry_ok]
      exact exists_comm
    rw [Valid, each]
    constructor
    · rintro ⟨⟨cs, all⟩, e, he, named⟩
      obtain ⟨c, hc, made⟩ := Outcome.exists_result_of_mem all he
      exact ⟨cs, Outcome.bind_ok.mpr ⟨cs, all, checked_ok.mpr ⟨rfl, c, hc, (configOfEntry_name made).trans named⟩⟩⟩
    · rintro ⟨used, h⟩
      obtain ⟨cs, all, h⟩ := Outcome.bind_ok.mp h
      obtain ⟨_, c, hc, named⟩ := checked_ok.mp h
      obtain ⟨e, he, made⟩ := Outcome.exists_of_mem_mapM all hc
      exact ⟨⟨cs, all⟩, e, he, (configOfEntry_name made).symm.trans named⟩

theorem Source.start_eq (source : Source) : source.start = Startup.start source.configs := by
  cases source <;> rfl

/-- a startup takes one of the courses -/
theorem course_of_says (said : source.start.Says t outcome) : Course source t outcome := by
  rw [Source.start_eq, start] at said
  split at said
  · next e failed =>
    cases said
    refine .refused e fun valid => ?_
    obtain ⟨used, made⟩ := Source.valid_iff.mp valid
    cases failed.symm.trans made
  · next used made =>
    have valid : source.Valid := Source.valid_iff.mpr ⟨used, made⟩
    obtain ⟨configs, given, named⟩ := Outcome.bind_ok.mp made
    obtain ⟨rfl, _⟩ := checked_ok.mp named
    obtain ⟨front, opened, back, rfl, opening, ended⟩ := Dialogue.says_bind.mp said
    cases ended
    rw [List.append_nil]
    rcases says_openAll opening with ⟨databases, rfl, rfl, rfl⟩ | ⟨before, c, rest, e, closing, rfl, all, rfl, rfl⟩
    · exact .started valid given
    · exact .failed valid e given all

theorem openAll_says {databases : List (DatabaseConfig × Database)} {before : List Database} :
    (openAll before (databases.map Prod.fst)).Says (databases.map Event.opened)
      (.ok (before ++ databases.map Prod.snd)) := by
  induction databases generalizing before with
  | nil =>
    rw [show before ++ ([] : List (DatabaseConfig × Database)).map Prod.snd = before from List.append_nil before]
    exact .done _
  | cons p rest ih =>
    have more := @ih (before ++ [p.2])
    rw [List.append_assoc] at more
    exact .ask more

/-- a startup whose configurations are fit can open all of them -/
theorem start_says {databases : List (DatabaseConfig × Database)}
    (fit : source.configs.bind checked = .ok (databases.map Prod.fst)) :
    source.start.Says (databases.map Event.opened) (.ok (Registry.ofDatabases (databases.map Prod.snd))) := by
  rw [Source.start_eq, start, fit]
  exact Dialogue.says_bind.mpr ⟨_, _, [], (List.append_nil _).symm, openAll_says, .done _⟩

/-! ## What stays open -/

/-- of the databases of a name, the last is the one attached -/
theorem find?_ofDatabases (databases : List Database) (name : String) :
    Keyed.find? name (Registry.ofDatabases databases).databases =
      (databases.filter fun db => db.name = name).getLast? := by
  induction databases using List.reverseRecOn with
  | nil => rfl
  | append_singleton rest db ih =>
    have attached : Registry.ofDatabases (rest ++ [db]) = (Registry.ofDatabases rest).attach db := by
      rw [Registry.ofDatabases, List.foldl_concat]
      rfl
    rw [attached, congrFun Registry.find?_attach name, List.filter_append]
    by_cases own : db.name = name
    · subst own
      simp
    · rw [Function.update_of_ne (Ne.symm own), ih]
      simp [own]

/-- closing a registry closes what is attached to it -/
theorem mem_closing {databases : List Database} {closing : List Tabula.Event} {answer : Outcome Unit} {after : Registry}
    (said : (Registry.close (Registry.ofDatabases databases)).Says closing (answer, after)) (db : Database) :
    Call.close db ∈ closing.map (fun x => x.question) ↔
      (databases.filter fun other => other.name = db.name).getLast? = some db := by
  obtain ⟨closed, all, _⟩ := Dialogue.says_bind_pure.mp said
  rw [(Registry.says_closeAll all).1, ← find?_ofDatabases, ← (Registry.orderly_ofDatabases databases).mem_databases]
  exact List.mem_map_of_injective fun a b same => Call.close.inj same

/-- of databases in order, the one that no later one has the name of is the last of its name -/
theorem getLast?_filter_of_fresh {front later : List Database} {db : Database}
    (fresh : ∀ other ∈ later, other.name ≠ db.name) :
    ((front ++ db :: later).filter fun other => other.name = db.name).getLast? = some db := by
  have nothing : (later.filter fun other => other.name = db.name) = [] :=
    List.filter_eq_nil_iff.mpr fun other mem => by simpa using fresh other mem
  rw [List.filter_append, List.filter_cons_of_pos (by simp), nothing, List.getLast?_append_cons]
  rfl

/-- where a later one has the name, the last of the name is later -/
theorem mem_of_getLast?_filter {front later : List Database} {db last : Database}
    (again : ∃ other ∈ later, other.name = db.name)
    (found : ((front ++ db :: later).filter fun other => other.name = db.name).getLast? = some last) :
    last ∈ later := by
  obtain ⟨other, mem, same⟩ := again
  have there : other ∈ later.filter fun other => other.name = db.name :=
    List.mem_filter.mpr ⟨mem, decide_eq_true same⟩
  rw [List.filter_append, List.filter_cons_of_pos (by simp), List.getLast?_append_cons,
    List.getLast?_cons_of_ne_nil (List.ne_nil_of_mem there)] at found
  exact List.mem_of_mem_filter (List.mem_of_getLast? found)

/-- **What startup opens and what becomes of it.**  No server is contacted unless all addresses and options that are
used make sense and there is a default database.  If a database cannot be opened, those opened before it are closed, and
its error is what startup gives.  If all are opened, closing the registry reaches those whose names no later one has, and
no others: a database opened under a name that is used again stays open for good. -/
theorem start_course (said : source.start.Says t outcome) :
    Course source t outcome ∧
    ∀ databases r closing answer after, t = databases.map Event.opened → outcome = .ok r →
      (Registry.close r).Says closing (answer, after) →
      ∀ front p later, databases = front ++ p :: later →
        ((∀ q ∈ later, q.2.name ≠ p.2.name) →
          Keyed.find? p.2.name r.databases = some p.2 ∧ Call.close p.2 ∈ closing.map fun x => x.question) ∧
        ((∃ q ∈ later, q.2.name = p.2.name) → (∀ q ∈ later, q.2 ≠ p.2) →
          Call.close p.2 ∉ closing.map fun x => x.question) := by
  have course := course_of_says said
  refine ⟨course, fun databases r closing answer after opened ok closes front p later split => ?_⟩
  subst ok
  cases course with
  | started valid used =>
    obtain rfl := List.map_injective_iff.mpr Event.opened_injective opened
    subst split
    -- what is attached under the name is the last of those after the database, or else the database itself
    rw [mem_closing closes, find?_ofDatabases, List.map_append, List.map_cons]
    constructor
    · intro fresh
      have last := @getLast?_filter_of_fresh (front.map Prod.snd) _ _ (List.forall_mem_map.mpr fresh)
      exact ⟨last, last⟩
    · rintro ⟨q, hq, same⟩ differ kept
      obtain ⟨x, hx, eq⟩ := List.mem_map.mp (mem_of_getLast?_filter ⟨q.2, List.mem_map_of_mem hq, same⟩ kept)
      exact differ x hx eq

/-- the configuration of a database on this machine -/
def nearby (name database : String) : DatabaseConfig :=
  { name, backend := .postgres, host := "localhost", port := 5432, user := none, password := none, database }

/-- two databases of different names are both closed with the registry -/
theorem start_course_reports :
    let source := Source.urls "postgres://localhost/app" [("reports", "postgres://localhost/old")]
    let databases := [(nearby "default" "app", (⟨"default", 0⟩ : Database)), (nearby "reports" "old", ⟨"reports", 1⟩)]
    let r := Registry.ofDatabases (databases.map Prod.snd)
    source.start.Says (databases.map Event.opened) (.ok r) ∧ Course source (databases.map Event.opened) (.ok r) ∧
      ∀ closing answer after, (Registry.close r).Says closing (answer, after) →
        Call.close ⟨"default", 0⟩ ∈ closing.map (fun x => x.question) ∧
          Call.close ⟨"reports", 1⟩ ∈ closing.map fun x => x.question := by
  intro source databases r
  have fit : source.configs.bind checked = .ok (databases.map Prod.fst) := Outcome.ok_of_toOption (by decide +kernel)
  have said : source.start.Says (databases.map Event.opened) (.ok r) := start_says fit
  obtain ⟨course, closed⟩ := start_course said
  refine ⟨said, course, fun closing answer after closes => ?_⟩
  have each := closed databases r closing answer after rfl rfl closes
  have other : ∀ q ∈ [(nearby "reports" "old", (⟨"reports", 1⟩ : Database))], q.2.name ≠ "default" := by simp
  exact ⟨((each [] (nearby "default" "app", ⟨"default", 0⟩) _ rfl).1 other).2,
    ((each [(nearby "default" "app", ⟨"default", 0⟩)] (nearby "reports" "old", ⟨"reports", 1⟩) [] rfl).1 nofun).2⟩

/-- two databases of one name are opened, and the first of them is attached nowhere and closed by nobody -/
theorem start_leaves_open :
    let source := Source.urls "postgres://localhost/app"
      [("reports", "postgres://localhost/old"), ("reports", "postgres://localhost/new")]
    let databases := [(nearby "default" "app", (⟨"default", 0⟩ : Database)), (nearby "reports" "old", ⟨"reports", 1⟩),
      (nearby "reports" "new", ⟨"reports", 2⟩)]
    let r := Registry.ofDatabases (databases.map Prod.snd)
    source.start.Says (databases.map Event.opened) (.ok r) ∧ (∀ p ∈ databases, p.2.name = p.1.name) ∧
      (⟨"reports", 1⟩ : Database) ∉ r.databases.map Prod.snd ∧
      ∀ closing answer after, (Registry.close r).Says closing (answer, after) →
        Call.close ⟨"reports", 1⟩ ∉ closing.map fun x => x.question := by
  intro source databases r
  have fit : source.configs.bind checked = .ok (databases.map Prod.fst) := Outcome.ok_of_toOption (by decide +kernel)
  have said : source.start.Says (databases.map Event.opened) (.ok r) := start_says fit
  have gone : (⟨"reports", 1⟩ : Database) ∉ r.databases.map Prod.snd := by decide +kernel
  refine ⟨said, by simp [databases, nearby], gone, fun closing answer after closes => ?_⟩
  rw [mem_closing closes, ← find?_ofDatabases, ← (Registry.orderly_ofDatabases _).mem_databases]
  exact gone

end Startup

end Tabula
