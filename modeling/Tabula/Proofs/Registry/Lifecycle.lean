import Tabula.Proofs.Keyed
import Tabula.Proofs.Outcome
import Tabula.Proofs.Registry
import Tabula.Proofs.Transaction
import Mathlib.Data.String.Basic
/-!
# The life of a registry

A program attaches databases, registers models, asks for mappers and databases, uses its mappers and closes the
registry, in any order.  Each of these errands is run to its end, with the answers that the databases give.  A mapper
is found again without a look at the databases, so what keeps it from being out of date is an invariant that every
errand restores: whatever is kept for an entity and a name runs on the database attached under that name.

A mapper is told by its number.  `Holds` and `Lacks` say of a number whether its mapper is still kept or gone for good;
every errand leads from one of the two to one of the two, and only attaching under the name and closing lead from the
first to the second.
-/

namespace Tabula

/-- whether two mappers are one, which may have made texts in between -/
structure Mapper.SameAs (m m' : Mapper) : Prop where
  number : m.number = m'.number
  entity : m.entity = m'.entity
  database : m.database = m'.database

namespace Registry

/-! ## Errands -/

/-- which text a mapper makes -/
inductive Lesson where
  | insertion
  | deletion
  | fetch
  | updating (shape : UpdateShape)

/-- the mapper with a text made -/
def Lesson.taught : Lesson → Mapper → Mapper
  | insertion, m => m.insertion.2
  | deletion, m => m.deletion.2
  | fetch, m => m.fetch.2
  | updating shape, m => (m.updating shape).2

/-- what a program does with a registry -/
inductive Errand where
  | attach (db : Database)
  | register (e : Entity)
  /-- finds or makes a mapper -/
  | mapper (e : Entity) (name : String)
  /-- has a mapper make a text and keep it -/
  | learn (e : Entity) (name : String) (lesson : Lesson)
  /-- finds a database -/
  | database (name : String)
  | close

/-- what an errand is answered with -/
def Errand.Answer : Errand → Type
  | attach _ | register _ => Unit
  | mapper _ _ => Outcome Mapper
  | learn _ _ _ => Outcome Unit
  | database _ => Outcome Database
  | close => Outcome Unit

/-- runs an errand -/
def Errand.work : (errand : Errand) → Work errand.Answer
  | attach db => fun r => return ((), r.attach db)
  | register e => fun r => return ((), r.register e)
  | mapper e name => fun r => return match r.mapper e name with
    | .ok (m, r) => (.ok m, r)
    | .error err => (.error err, r)
  | learn e name lesson => withMapper e name fun m => return (.ok (), lesson.taught m)
  | database name => fun r => return (r.database name, r)
  | close => Registry.close

/-- whether an errand drops the mappers of a name -/
def Errand.Drops (name : String) : Errand → Prop
  | attach db => db.name = name
  | close => True
  | _ => False

/-- an errand that was run to its end -/
structure Occasion where
  before : Registry
  errand : Errand
  /-- the calls on databases with their answers -/
  said : List Event
  answer : errand.Answer
  after : Registry

/-- whether the databases can make an errand go this way -/
def Occasion.Happens (o : Occasion) : Prop := (o.errand.work o.before).Says o.said (o.answer, o.after)

/-- whether an errand gave a mapper of an entity and a name -/
def Occasion.Finds (o : Occasion) (e : Entity) (name : String) (m : Mapper) : Prop :=
  ∃ before said after, o = ⟨before, .mapper e name, said, .ok m, after⟩

/-- errands one after the other, from a registry to another -/
inductive History : Registry → List Occasion → Registry → Prop where
  | nil (r : Registry) : History r [] r
  | cons {o : Occasion} {rest : List Occasion} {last : Registry} (happens : o.Happens)
      (more : History o.after rest last) : History o.before (o :: rest) last

/-- whether a registry is open just while databases are attached, and whatever mapper is kept for an entity and a name
is one of that entity on the database attached under that name -/
structure Current (r : Registry) : Prop where
  isOpen : r.isOpen = true ↔ r.databases ≠ []
  bound : ∀ key m, (key, m) ∈ r.mappers →
    Keyed.find? key.database r.databases = some m.database ∧ m.entity.number = key.entity

/-- what an errand can make of a registry -/
inductive Change : Errand → Registry → Registry → Prop where
  | attach {r : Registry} (db : Database) : Change (.attach db) r (r.attach db)
  | register {r : Registry} (e : Entity) : Change (.register e) r (r.register e)
  | mapper {r r' : Registry} {e : Entity} {name : String} {m : Mapper} (found : r.mapper e name = .ok (m, r')) :
      Change (.mapper e name) r r'
  | learn {r r' : Registry} {e : Entity} {name : String} {m : Mapper} (lesson : Lesson)
      (found : r.mapper e name = .ok (m, r')) : Change (.learn e name lesson) r (r'.keep (lesson.taught m))
  /-- it fails, or it only looks something up -/
  | nothing {errand : Errand} {r : Registry} (keeps : ∀ name, ¬ errand.Drops name) : Change errand r r
  | close {r : Registry} : Change .close r { r with databases := [], mappers := [], isOpen := false }

variable {r r' : Registry} {db : Database} {e : Entity} {name : String} {key : MapperKey} {m m' : Mapper}
  {number : Nat} {o : Occasion} {errand : Errand} {history : List Occasion}

/-! ## What becomes of a registry -/

theorem Occasion.Happens.change (happens : o.Happens) : Change o.errand o.before o.after := by
  obtain ⟨before, errand, said, answer, after⟩ := o
  simp only [Happens] at happens ⊢
  cases errand with
  | attach db =>
    obtain ⟨_, same⟩ := Dialogue.says_pure.mp happens
    obtain rfl : after = before.attach db := congrArg Prod.snd same
    exact .attach db
  | register e =>
    obtain ⟨_, same⟩ := Dialogue.says_pure.mp happens
    obtain rfl : after = before.register e := congrArg Prod.snd same
    exact .register e
  | mapper e name =>
    obtain ⟨_, same⟩ := Dialogue.says_pure.mp happens
    cases found : before.mapper e name with
    | ok x =>
      rw [found] at same
      cases same
      exact .mapper found
    | error err =>
      rw [found] at same
      cases same
      exact .nothing fun _ drops => drops
  | learn e name lesson =>
    simp only [Errand.work, withMapper] at happens
    split at happens
    · obtain ⟨_, same⟩ := Dialogue.says_pure.mp happens
      cases same
      exact .nothing fun _ drops => drops
    · next m mid found =>
      rw [pure_bind] at happens
      obtain ⟨_, same⟩ := Dialogue.says_pure.mp happens
      cases same
      exact .learn lesson found
  | database name =>
    obtain ⟨_, same⟩ := Dialogue.says_pure.mp happens
    obtain rfl : after = before := congrArg Prod.snd same
    exact .nothing fun _ drops => drops
  | close =>
    obtain ⟨closed, _, same⟩ := Dialogue.says_bind_pure.mp happens
    obtain rfl : after = { before with databases := [], mappers := [], isOpen := false } := congrArg Prod.snd same
    exact .close

/-- a mapper is one that is kept, or a new one with the next number on the database found -/
theorem mapper_cases (found : r.mapper e name = .ok (m, r')) :
    (r.mappers.lookup ⟨e.number, name⟩ = some m ∧ r' = r) ∨
    (r.mappers.lookup ⟨e.number, name⟩ = none ∧ r.database name = .ok m.database ∧ m.entity = e ∧
      m.number = r.nextMapper ∧
      r' = { r with mappers := r.mappers ++ [(⟨e.number, name⟩, m)], nextMapper := r.nextMapper + 1 }) := by
  unfold Registry.mapper at found
  simp only at found
  split at found
  · next m₀ kept =>
    cases found
    exact .inl ⟨kept, rfl⟩
  · next absent =>
    obtain ⟨on, attached, found⟩ := Outcome.bind_ok.mp found
    cases found
    exact .inr ⟨absent, attached, rfl, rfl, rfl⟩

theorem lookup_of_mapper (found : r.mapper e name = .ok (m, r')) :
    r'.mappers.lookup ⟨e.number, name⟩ = some m := by
  rcases mapper_cases found with ⟨kept, rfl⟩ | ⟨absent, _, _, _, rfl⟩
  · exact kept
  · rw [List.lookup_append, absent, Option.none_or, List.lookup_cons_self]

theorem mapper_error {err : Error} :
    r.mapper e name = .error err ↔ r.mappers.lookup ⟨e.number, name⟩ = none ∧ r.database name = .error err := by
  unfold Registry.mapper
  simp only
  split
  · next m kept => simp [kept]
  · next absent =>
    rw [Outcome.bind_error]
    constructor
    · rintro (failed | ⟨_, _, failed⟩)
      · exact ⟨absent, failed⟩
      · cases failed
    · exact fun failed => .inl failed.2

/-- under a name with a database there is a mapper of every entity -/
theorem exists_mapper (attached : r.database name = .ok db) (e : Entity) :
    ∃ m r', r.mapper e name = .ok (m, r') := by
  match found : r.mapper e name with
  | .ok (m, r') => exact ⟨m, r', rfl⟩
  | .error err =>
    have fails := (mapper_error.mp found).2
    rw [attached] at fails
    cases fails

theorem Lesson.taught_sameAs (lesson : Lesson) (m : Mapper) : (lesson.taught m).SameAs m := by
  cases lesson with
  | updating shape =>
    simp only [taught, Mapper.updating]
    split <;> exact ⟨rfl, rfl, rfl⟩
  | _ => exact ⟨rfl, rfl, rfl⟩

/-! ## Registries in order -/

/-- whether a registry has what makes it current and leaves it so -/
structure Orderly (r : Registry) : Prop extends Current r, Numbered r where
  ordered : Keyed.Ordered r.databases
  named : ∀ d ∈ r.databases, d.1 = d.2.name

theorem orderly_empty : Orderly {} where
  isOpen := by simp
  bound := nofun
  below := nofun
  distinct := List.nodup_nil
  ordered := List.Pairwise.nil
  named := nofun

theorem Orderly.database_ok (h : r.Orderly) : r.database name = .ok db ↔ Keyed.find? name r.databases = some db := by
  unfold database
  cases opened : r.isOpen with
  | true => cases found : Keyed.find? name r.databases <;> simp [failure]
  | false =>
    have nothing : r.databases = [] := by
      by_contra some_
      simp [h.isOpen.mpr some_] at opened
    simp [failure, nothing, Keyed.find?]

theorem Orderly.attach (h : r.Orderly) (db : Database) : (r.attach db).Orderly where
  isOpen := iff_of_true rfl Keyed.insert_ne_nil
  bound := fun key m hm => by
    obtain ⟨hm, elsewhere⟩ := List.mem_filter.mp hm
    have other : key.database ≠ db.name := by simpa using elsewhere
    exact ⟨(Keyed.find?_insert_of_ne other).trans (h.bound key m hm).1, (h.bound key m hm).2⟩
  below := (h.toNumbered.filter _).below
  distinct := (h.toNumbered.filter _).distinct
  ordered := h.ordered.insert
  named := fun d hd => by
    rcases Keyed.mem_of_mem_insert hd with rfl | hd
    · rfl
    · exact h.named d hd

theorem Orderly.register (h : r.Orderly) (e : Entity) : (r.register e).Orderly := by
  unfold Registry.register
  split
  · exact h
  · exact { h with }

/-- the mapper found is kept for its entity and name -/
theorem Orderly.mapper (h : r.Orderly) (found : r.mapper e name = .ok (m, r')) :
    r'.Orderly ∧ r'.mappers.lookup ⟨e.number, name⟩ = some m := by
  refine ⟨?_, lookup_of_mapper found⟩
  rcases mapper_cases found with ⟨_, rfl⟩ | ⟨_, attached, own, next, rfl⟩
  · exact h
  · refine { h.toNumbered.make ⟨e.number, name⟩ next, h with bound := fun key m' hm => ?_ }
    rcases List.mem_append.mp hm with hm | hm
    · exact h.bound key m' hm
    · cases List.mem_singleton.mp hm
      exact ⟨h.database_ok.mp attached, congrArg Entity.number own⟩

/-- a mapper takes its own place -/
theorem Orderly.keep (h : r.Orderly) (kept : r.mappers.lookup key = some m) (same : m'.SameAs m) :
    (r.keep m').Orderly := by
  refine { h.toNumbered.keep m', h with bound := fun other x hx => ?_ }
  obtain ⟨y, hy, place⟩ := List.mem_map.mp hx
  by_cases number : y.2.number = m'.number
  · rw [if_pos number] at place
    cases place
    have own := h.toNumbered.eq_of_number hy (Keyed.mem_of_lookup kept) (number.trans same.number)
    have bound := h.bound key m (Keyed.mem_of_lookup kept)
    rw [own, same.database, same.entity]
    exact bound
  · rw [if_neg number] at place
    subst place
    exact h.bound _ _ hy

theorem Orderly.close (_ : r.Orderly) :
    Orderly { r with databases := [], mappers := [], isOpen := false } where
  isOpen := by simp
  bound := nofun
  below := nofun
  distinct := List.nodup_nil
  ordered := List.Pairwise.nil
  named := nofun

/-- every errand leaves a registry in order -/
theorem Orderly.change (h : r.Orderly) (change : Change errand r r') : r'.Orderly := by
  cases change with
  | attach db => exact h.attach db
  | register e => exact h.register e
  | mapper found => exact (h.mapper found).1
  | learn lesson found => exact (h.mapper found).1.keep (h.mapper found).2 (lesson.taught_sameAs _)
  | nothing => exact h
  | close => exact h.close

theorem orderly_ofDatabases (databases : List Database) : (ofDatabases databases).Orderly :=
  List.foldlRecOn databases Registry.attach orderly_empty fun _ h db _ => h.attach db

/-! ## Whether a mapper is still kept -/

/-- whether a mapper is kept for an entity and a name, whatever texts it has made -/
def Holds (r : Registry) (key : MapperKey) (m : Mapper) : Prop :=
  ∃ m', r.mappers.lookup key = some m' ∧ m'.SameAs m

/-- whether the mapper of a number is gone for good -/
structure Lacks (r : Registry) (number : Nat) : Prop where
  below : number < r.nextMapper
  absent : ∀ x ∈ r.mappers, x.2.number ≠ number

theorem lookup_filter_database {entries : List (MapperKey × Mapper)} (other : key.database ≠ name) :
    (entries.filter fun m => m.1.database ≠ name).lookup key = entries.lookup key := by
  induction entries with
  | nil => rfl
  | cons x rest ih =>
    obtain ⟨k, m⟩ := x
    by_cases own : k.database = name
    · have skip : (key == k) = false := beq_false_of_ne fun same => other (same ▸ own)
      rw [List.filter_cons_of_neg (by simpa using own), ih, List.lookup_cons, skip]
    · rw [List.filter_cons_of_pos (by simpa using own), List.lookup_cons, List.lookup_cons, ih]

theorem Holds.mapper (h : r.Holds key m) (found : r.mapper e name = .ok (m', r')) : r'.Holds key m := by
  obtain ⟨x, kept, same⟩ := h
  rcases mapper_cases found with ⟨_, rfl⟩ | ⟨_, _, _, _, rfl⟩
  · exact ⟨x, kept, same⟩
  · refine ⟨x, ?_, same⟩
    rw [List.lookup_append, kept, Option.some_or]

/-- a mapper stays where it is until its name gets another database or the registry is closed -/
theorem Holds.change (h : r.Holds key m) (orderly : r.Orderly) (change : Change errand r r')
    (keeps : ¬ errand.Drops key.database) : r'.Holds key m := by
  cases change with
  | attach db =>
    obtain ⟨x, kept, same⟩ := h
    exact ⟨x, (lookup_filter_database fun other => keeps other.symm).trans kept, same⟩
  | register e =>
    unfold Registry.register
    split <;> exact h
  | mapper found => exact h.mapper found
  | @learn _ mid _ _ m₀ lesson found =>
    obtain ⟨x, kept, same⟩ := h.mapper found
    obtain ⟨tidy, place⟩ := orderly.mapper found
    have taught := lesson.taught_sameAs m₀
    refine ⟨if x.number = (lesson.taught m₀).number then lesson.taught m₀ else x, ?_, ?_⟩
    · rw [lookup_keep, kept]
      rfl
    · split
      · next number =>
        have mem := Keyed.mem_of_lookup kept
        cases tidy.toNumbered.eq_of_number mem (Keyed.mem_of_lookup place) (number.trans taught.number)
        exact ⟨taught.number.trans same.number, taught.entity.trans same.entity, taught.database.trans same.database⟩
      · exact same
  | nothing => exact h
  | close => exact absurd trivial keeps

/-- a mapper that is dropped is gone for good -/
theorem Holds.dropped (h : r.Holds key m) (orderly : r.Orderly) (change : Change errand r r')
    (drops : errand.Drops key.database) : r'.Lacks m.number := by
  obtain ⟨x, kept, same⟩ := h
  have place := Keyed.mem_of_lookup kept
  have below : m.number < r.nextMapper := same.number ▸ orderly.below _ place
  cases change with
  | attach db =>
    refine ⟨below, fun y hy number => ?_⟩
    obtain ⟨hy, elsewhere⟩ := List.mem_filter.mp hy
    have own := orderly.toNumbered.eq_of_number hy place (number.trans same.number.symm)
    subst own
    have here : key.database = db.name := Eq.symm drops
    simp [here] at elsewhere
  | close => exact ⟨below, nofun⟩
  | nothing keeps => exact absurd drops (keeps _)
  | _ => exact drops.elim

theorem Lacks.mapper (h : r.Lacks number) (found : r.mapper e name = .ok (m, r')) :
    m.number ≠ number ∧ r'.Lacks number := by
  rcases mapper_cases found with ⟨kept, rfl⟩ | ⟨_, _, _, next, rfl⟩
  · exact ⟨h.absent _ (Keyed.mem_of_lookup kept), h⟩
  · have other : m.number ≠ number := fun same => absurd h.below (by omega)
    refine ⟨other, Nat.lt_succ_of_lt h.below, fun x hx => ?_⟩
    rcases List.mem_append.mp hx with hx | hx
    · exact h.absent x hx
    · cases List.mem_singleton.mp hx
      exact other

theorem Lacks.change (h : r.Lacks number) (change : Change errand r r') : r'.Lacks number := by
  cases change with
  | attach db => exact ⟨h.below, fun x hx => h.absent x (List.mem_of_mem_filter hx)⟩
  | register e =>
    unfold Registry.register
    split
    · exact h
    · exact ⟨h.below, h.absent⟩
  | mapper found => exact (h.mapper found).2
  | @learn _ mid _ _ m₀ lesson found =>
    have before := (h.mapper found).2
    refine ⟨before.below, fun x hx same => ?_⟩
    have mem : x.2.number ∈ (mid.keep (lesson.taught m₀)).mappers.map fun x => x.2.number := List.mem_map_of_mem hx
    rw [numbers_keep] at mem
    obtain ⟨y, hy, number⟩ := List.mem_map.mp mem
    exact before.absent y hy (number.trans same)
  | nothing => exact h
  | close => exact ⟨h.below, nofun⟩

/-! ## Histories -/

/-- the databases attached after an errand, by their names -/
def Errand.attaches (attached : String → Option Database) : Errand → String → Option Database
  | attach db => Function.update attached db.name (some db)
  | close => fun _ => none
  | _ => attached

/-- the databases attached after some errands: under each name the last one, if the registry was not closed since -/
def attachedAfter (errands : List Errand) : String → Option Database := errands.foldl Errand.attaches fun _ => none

theorem find?_attach : (fun name => Keyed.find? name (r.attach db).databases) =
    Function.update (fun name => Keyed.find? name r.databases) db.name (some db) := by
  funext name
  by_cases own : name = db.name
  · subst own
    rw [Function.update_self]
    exact Keyed.find?_insert_self
  · rw [Function.update_of_ne own]
    exact Keyed.find?_insert_of_ne own

theorem databases_mapper (found : r.mapper e name = .ok (m, r')) : r'.databases = r.databases := by
  rcases mapper_cases found with ⟨_, rfl⟩ | ⟨_, _, _, _, rfl⟩ <;> rfl

theorem Change.find? (change : Change errand r r') (name : String) :
    Keyed.find? name r'.databases = errand.attaches (fun name => Keyed.find? name r.databases) name := by
  cases change with
  | attach db => exact congrFun find?_attach name
  | register e =>
    unfold Registry.register
    split <;> rfl
  | mapper found => exact congrArg (Keyed.find? name) (databases_mapper found)
  | @learn _ mid _ _ _ lesson found =>
    have same : mid.databases = r.databases := databases_mapper found
    exact congrArg (Keyed.find? name) same
  | nothing keeps =>
    cases errand with
    | attach db => exact absurd rfl (keeps db.name)
    | close => exact absurd trivial (keeps name)
    | _ => rfl
  | close => rfl

theorem find?_ofDatabases (databases : List Database) (name : String) :
    Keyed.find? name (ofDatabases databases).databases = attachedAfter (databases.map .attach) name := by
  suffices step : ∀ r : Registry, (fun name => Keyed.find? name (databases.foldl Registry.attach r).databases) =
      (databases.map Errand.attach).foldl Errand.attaches fun name => Keyed.find? name r.databases from
    congrFun (step {}) name
  induction databases with
  | nil => exact fun _ => rfl
  | cons db rest ih =>
    intro r
    rw [List.foldl_cons, ih, find?_attach]
    rfl

theorem History.append {front back : List Occasion} (lived : History r (front ++ back) r') :
    ∃ mid, History r front mid ∧ History mid back r' := by
  induction front generalizing r with
  | nil => exact ⟨r, .nil r, lived⟩
  | cons o front ih =>
    cases lived with
    | cons happens more =>
      obtain ⟨mid, first, then_⟩ := ih more
      exact ⟨mid, .cons happens first, then_⟩

theorem History.orderly (lived : History r history r') (h : r.Orderly) : r'.Orderly := by
  induction lived with
  | nil r => exact h
  | cons happens more ih => exact ih (h.change happens.change)

theorem History.find? (lived : History r history r') : (fun name => Keyed.find? name r'.databases) =
    (history.map Occasion.errand).foldl Errand.attaches fun name => Keyed.find? name r.databases := by
  induction lived with
  | nil r => rfl
  | cons happens more ih =>
    rw [ih, funext happens.change.find?]
    rfl

theorem History.lacks (lived : History r history r') (h : r.Lacks number) : r'.Lacks number := by
  induction lived with
  | nil r => exact h
  | cons happens more ih => exact ih (h.change happens.change)

/-- a mapper is still there if no errand dropped it, else gone -/
theorem History.holds (lived : History r history r') (orderly : r.Orderly) (h : r.Holds key m) :
    ((∀ o ∈ history, ¬ o.errand.Drops key.database) → r'.Holds key m) ∧
      ((∃ o ∈ history, o.errand.Drops key.database) → r'.Lacks m.number) := by
  induction lived with
  | nil r => exact ⟨fun _ => h, fun ⟨_, hm, _⟩ => nomatch hm⟩
  | @cons o rest last happens more ih =>
    by_cases drops : o.errand.Drops key.database
    · have gone := more.lacks (h.dropped orderly happens.change drops)
      exact ⟨fun keeps => absurd drops (keeps o List.mem_cons_self), fun _ => gone⟩
    · have after := ih (orderly.change happens.change) (h.change orderly happens.change drops)
      refine ⟨fun keeps => after.1 fun x hx => keeps x (List.mem_cons_of_mem o hx), ?_⟩
      rintro ⟨x, hx, dropped⟩
      rcases List.mem_cons.mp hx with rfl | hx
      · exact absurd dropped drops
      · exact after.2 ⟨x, hx, dropped⟩

/-! ## Looking up and closing -/

/-- a mapper that is asked for is found or made without a call on a database, or the registry is as it was -/
theorem happens_mapper {said : List Event} {answer : Outcome Mapper}
    (happens : Occasion.Happens ⟨r, .mapper e name, said, answer, r'⟩) : said = [] ∧
    ((∃ m, answer = .ok m ∧ r.mapper e name = .ok (m, r')) ∨
      (∃ err, answer = .error err ∧ r.mapper e name = .error err ∧ r' = r)) := by
  obtain ⟨rfl, same⟩ := Dialogue.says_pure.mp happens
  refine ⟨rfl, ?_⟩
  cases found : r.mapper e name with
  | ok x =>
    rw [found] at same
    cases same
    exact .inl ⟨_, rfl, rfl⟩
  | error err =>
    rw [found] at same
    cases same
    exact .inr ⟨err, rfl, rfl, rfl⟩

/-- every database is closed in turn, and there is an error if one of them answers with an error -/
theorem says_closeAll {databases : List Database} {said : List Event} {outcome : Outcome Unit}
    (h : (closeAll databases).Says said outcome) :
    said.map (fun x => x.question) = databases.map Call.close ∧
      ((∃ err, outcome = .error err) ↔ ∃ db err, (⟨.close db, Except.error err⟩ : Event) ∈ said) := by
  induction databases generalizing said outcome with
  | nil =>
    obtain ⟨rfl, rfl⟩ := Dialogue.says_pure.mp h
    exact ⟨rfl, iff_of_false (fun ⟨_, failed⟩ => nomatch failed) (fun ⟨_, _, hm⟩ => nomatch hm)⟩
  | cons db rest ih =>
    obtain ⟨asked, first, later, rfl, one, more⟩ := Dialogue.says_bind.mp h
    have asked_eq : asked = [⟨.close db, first⟩] := Dialogue.says_question.mp one
    subst asked_eq
    obtain ⟨others, all, result⟩ := Dialogue.says_bind_pure.mp more
    obtain ⟨calls, failed⟩ := ih all
    refine ⟨by simp [calls], ?_⟩
    cases first with
    | error err => exact iff_of_true ⟨err, result⟩ ⟨db, err, List.mem_cons_self⟩
    | ok done =>
      have result : outcome = others := result
      rw [result, failed]
      constructor
      · rintro ⟨on, err, hm⟩
        exact ⟨on, err, List.mem_cons_of_mem _ hm⟩
      · rintro ⟨on, err, hm⟩
        rcases List.mem_cons.mp hm with same | hm
        · cases same
        · exact ⟨on, err, hm⟩

theorem Orderly.mem_databases (h : r.Orderly) :
    db ∈ r.databases.map Prod.snd ↔ Keyed.find? db.name r.databases = some db := by
  rw [h.ordered.find?_eq_some]
  constructor
  · intro hm
    obtain ⟨⟨name, db⟩, hd, rfl⟩ := List.mem_map.mp hm
    exact h.named _ hd ▸ hd
  · exact List.mem_map_of_mem

theorem Orderly.nodup_databases (h : r.Orderly) : (r.databases.map Prod.snd).Nodup := by
  have names : (r.databases.map Prod.snd).map Database.name = Keyed.names r.databases := by
    rw [List.map_map]
    exact List.map_congr_left fun d hd => (h.named d hd).symm
  exact List.Nodup.of_map Database.name (names ▸ h.ordered.nodup_names)

theorem Orderly.isOpen_iff (h : r.Orderly) : r.isOpen = true ↔ ∃ name, (Keyed.find? name r.databases).isSome := by
  rw [h.isOpen]
  constructor
  · intro some_
    obtain ⟨d, rest, all⟩ := List.exists_cons_of_ne_nil some_
    exact ⟨d.1, by rw [all, Keyed.find?, List.lookup_cons_self]; rfl⟩
  · rintro ⟨name, found⟩ nothing
    rw [nothing] at found
    cases found

/-- a mapper is given if a database is attached under the name, and it is on this database; else the registry stays as
it is -/
theorem Orderly.gives {said : List Event} {answer : Outcome Mapper} (h : r.Orderly)
    (happens : Occasion.Happens ⟨r, .mapper e name, said, answer, r'⟩) :
    (∀ m, answer = .ok m → Keyed.find? name r.databases = some m.database ∧ m.entity.number = e.number) ∧
      ∀ err, answer = .error err → Keyed.find? name r.databases = none ∧ r' = r := by
  obtain ⟨_, ⟨m', rfl, made⟩ | ⟨err', rfl, missed, same⟩⟩ := happens_mapper happens
  · refine ⟨fun m ok => ?_, fun err failed => nomatch failed⟩
    cases ok
    obtain ⟨tidy, kept⟩ := h.mapper made
    rw [← databases_mapper made]
    exact tidy.bound _ _ (Keyed.mem_of_lookup kept)
  · refine ⟨fun m ok => (nomatch ok), fun err _ => ⟨?_, same⟩⟩
    rw [Option.eq_none_iff_forall_ne_some]
    intro db there
    rw [← h.database_ok, (mapper_error.mp missed).2] at there
    cases there

/-- a mapper that is asked for again is the one found before, or if it was dropped in between another one -/
theorem History.again {first : Occasion} {said : List Event} (lived : History first.after history r)
    (before : first.before.Orderly) (happened : first.Happens) (finds : first.Finds e name m)
    (happens : Occasion.Happens ⟨r, .mapper e name, said, .ok m', r'⟩) :
    ((∀ o ∈ history, ¬ o.errand.Drops name) → m'.SameAs m) ∧
      ((∃ o ∈ history, o.errand.Drops name) → m'.number ≠ m.number) := by
  obtain ⟨start, said', start', rfl⟩ := finds
  obtain ⟨_, ⟨_, ⟨⟩, made⟩ | ⟨_, ⟨⟩, _⟩⟩ := happens_mapper happened
  obtain ⟨_, ⟨_, ⟨⟩, made'⟩ | ⟨_, ⟨⟩, _⟩⟩ := happens_mapper happens
  obtain ⟨tidy, kept⟩ := before.mapper made
  obtain ⟨still, gone⟩ := lived.holds tidy ⟨m, kept, rfl, rfl, rfl⟩
  refine ⟨fun keeps => ?_, fun drops => ((gone drops).mapper made').1⟩
  obtain ⟨x, there, same⟩ := (still keeps).mapper made'
  cases ((lived.orderly tidy).mapper made').2.symm.trans there
  exact same

/-- closing closes each attached database once and forgets all -/
theorem Orderly.closes {said : List Event} {answer : Outcome Unit} (h : r.Orderly)
    (happens : Occasion.Happens ⟨r, .close, said, answer, r'⟩) :
    (∃ closed : List Database, closed.Nodup ∧ (∀ db, db ∈ closed ↔ Keyed.find? db.name r.databases = some db) ∧
      said.map (fun x => x.question) = closed.map Call.close) ∧
    ((∃ err, answer = .error err) ↔ ∃ db err, (⟨.close db, Except.error err⟩ : Event) ∈ said) ∧
    r'.databases = [] ∧ r'.mappers = [] := by
  obtain ⟨closed, all, same⟩ := Dialogue.says_bind_pure.mp happens
  obtain rfl : answer = closed := congrArg Prod.fst same
  obtain rfl : r' = { r with databases := [], mappers := [], isOpen := false } := congrArg Prod.snd same
  obtain ⟨calls, failed⟩ := says_closeAll all
  exact ⟨⟨_, h.nodup_databases, fun db => h.mem_databases, calls⟩, failed, rfl, rfl⟩

/-- **A registry hands out no mapper that is out of date.**  After any errands, with any answers of the databases: the
registry is open just while a database is attached; whatever mapper is kept for an entity and a name is one of the
entity on the database attached under the name.  A mapper is given if there is such a database, else there is an error
and the registry is as it was; it is the mapper given before unless its name got another database or the registry was
closed in between, and then it is another.  Closing closes each attached database once, fails if one of them fails, and
leaves no database and no mapper. -/
theorem mapper_current (databases : List Database) (lived : History (ofDatabases databases) history r) :
    let attached := attachedAfter (databases.map .attach ++ history.map Occasion.errand)
    (r.isOpen = true ↔ ∃ name, (attached name).isSome) ∧
    (∀ key m, (key, m) ∈ r.mappers → attached key.database = some m.database ∧ m.entity.number = key.entity) ∧
    (∀ e name said answer after, Occasion.Happens ⟨r, .mapper e name, said, answer, after⟩ →
      (∀ m, answer = .ok m → attached name = some m.database ∧ m.entity.number = e.number) ∧
      (∀ err, answer = .error err → attached name = none ∧ after = r) ∧
      ∀ past first between m m', history = past ++ first :: between → first.Finds e name m → answer = .ok m' →
        ((∀ o ∈ between, ¬ o.errand.Drops name) → m'.SameAs m) ∧
        ((∃ o ∈ between, o.errand.Drops name) → m'.number ≠ m.number)) ∧
    (∀ said answer after, Occasion.Happens ⟨r, .close, said, answer, after⟩ →
      (∃ closed : List Database, closed.Nodup ∧ (∀ db, db ∈ closed ↔ attached db.name = some db) ∧
        said.map (fun x => x.question) = closed.map Call.close) ∧
      ((∃ err, answer = .error err) ↔ ∃ db err, (⟨.close db, Except.error err⟩ : Event) ∈ said) ∧
      after.databases = [] ∧ after.mappers = []) := by
  intro attached
  have start := orderly_ofDatabases databases
  have orderly := lived.orderly start
  have found : ∀ name, Keyed.find? name r.databases = attached name := fun name => by
    have all := congrFun lived.find? name
    rw [funext (find?_ofDatabases databases)] at all
    simpa only [attached, attachedAfter, List.foldl_append] using all
  refine ⟨?_, fun key m hm => ?_, fun e name said answer after happens => ?_, fun said answer after happens => ?_⟩
  · rw [orderly.isOpen_iff]
    simp only [found]
  · rw [← found]
    exact orderly.bound key m hm
  · obtain ⟨gives, refuses⟩ := orderly.gives happens
    rw [found] at gives refuses
    refine ⟨gives, refuses, fun past first between m m' split finds ok => ?_⟩
    subst split ok
    obtain ⟨start', earlier, later⟩ := History.append lived
    cases later with
    | cons happened later => exact later.again (earlier.orderly start) happened finds happens
  · obtain ⟨⟨closed, once, all, calls⟩, failed, gone⟩ := orderly.closes happens
    exact ⟨⟨closed, once, fun db => (found db.name) ▸ all db, calls⟩, failed, gone⟩

/-- a mapper that makes a text before its name gets another database -/
theorem mapper_current_replaced :
    let old : Database := ⟨"default", 0⟩
    let new : Database := ⟨"default", 1⟩
    let e : Entity := ⟨0, ⟨"Item", "item", "default", false, none, [], [], [], []⟩⟩
    let m : Mapper := { entity := e, database := old, number := 0 }
    let m' : Mapper := { entity := e, database := new, number := 1 }
    let r := ofDatabases [old]
    let found : Registry := { r with mappers := [(⟨0, "default"⟩, m)], nextMapper := 1 }
    let learnt := found.keep m.fetch.2
    let after : Registry := { learnt.attach new with mappers := [(⟨0, "default"⟩, m')], nextMapper := 2 }
    let history : List Occasion := [⟨r, .mapper e "default", [], .ok m, found⟩,
      ⟨found, .learn e "default" .fetch, [], .ok (), learnt⟩, ⟨learnt, .attach new, [], (), learnt.attach new⟩]
    History r history (learnt.attach new) ∧
      Occasion.Happens ⟨learnt.attach new, .mapper e "default", [], .ok m', after⟩ ∧
      m'.number ≠ m.number ∧ attachedAfter [.attach old, .mapper e "default", .learn e "default" .fetch, .attach new]
        "default" = some new := by
  intro old new e m m' r found learnt after history
  have finds : Occasion.Happens ⟨r, .mapper e "default", [], .ok m, found⟩ := Dialogue.Says.done _
  have learns : Occasion.Happens ⟨found, .learn e "default" .fetch, [], .ok (), learnt⟩ := Dialogue.Says.done _
  have replaces : Occasion.Happens ⟨learnt, .attach new, [], (), learnt.attach new⟩ := Dialogue.Says.done _
  have lived : History r history (learnt.attach new) := .cons finds (.cons learns (.cons replaces (.nil _)))
  have attached : (learnt.attach new).database "default" = .ok new :=
    (lived.orderly (orderly_ofDatabases [old])).database_ok.mpr Keyed.find?_insert_self
  have made : (learnt.attach new).mapper e "default" = .ok (m', after) := by
    have absent : (learnt.attach new).mappers.lookup ⟨e.number, "default"⟩ = none := rfl
    simp only [Registry.mapper, absent, attached]
    rfl
  have happens : Occasion.Happens ⟨learnt.attach new, .mapper e "default", [], .ok m', after⟩ :=
    Dialogue.says_pure.mpr ⟨rfl, by rw [made]⟩
  obtain ⟨_, _, gives, _⟩ := mapper_current [old] lived
  obtain ⟨right, _, again⟩ := gives e "default" [] (.ok m') after happens
  refine ⟨lived, happens, ?_, (right m' rfl).1⟩
  exact (again [] _ _ m m' rfl ⟨_, _, _, rfl⟩ rfl).2 ⟨_, List.mem_cons_of_mem _ List.mem_cons_self, rfl⟩

end Registry

end Tabula
