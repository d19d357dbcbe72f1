import Tabula.Proofs.Instance.CreatedRow
import Tabula.Proofs.Query.Counting
import Tabula.Proofs.Query.ExactLookup
/-!
# Getting a row or creating it

`Manager.getOrCreate` looks a row up by values and creates it from them if there is none.  The values are used twice, as
arguments of a filter and as values of fields, and what is bound is the same.  So what was created is found again, just
if none of the values is missing: `Manager.getOrCreate_again`.

`Course` follows the rows of the table through the calls that are made.
-/

namespace Tabula

open Dialogue (Exchange)
open Sql (Select Sense)

variable {ρ δ : Type} {sense : Sense ρ δ} {cells : ρ → List Value} {lookup defaults : List (String × Value)}
  {on : Database} {active : Active} {t t' : List (Exchange Call Call.Answer)} {before after rows : List ρ}

/-! ## What calls do to the rows of a table -/

namespace Model

/-- whether a row is what an insertion makes of its parameters: each column has what is bound to it, and the key shows
what was bound and what came back -/
structure Holds (m : Model) (sense : Sense ρ δ) (cells : ρ → List Value) (row : ρ) (bound back : List Value) : Prop where
  column : ∀ (k p : Nat) (f : Field) (c : Value), m.insertPositions[k]? = some p → m.fields[p]? = some f →
    bound[k]? = some c → sense.column row f.column = sense.parameter (some c)
  shown : ∀ (k p : Nat) (c : Value), p ∈ m.key → m.insertPositions[k]? = some p → bound[k]? = some c →
    c.Alike ((cells row).getD p .null)
  made : ∀ k p : Nat, p ∈ m.key → m.returningPositions[k]? = some p → (cells row).getD p .null = back.getD k .null

/-- what a call with its answer does to the rows of a table.  A lookup is answered by the rows that there are and leaves
them, and an insertion that succeeds adds one row.  Nothing is said of other calls, nor of an insertion that fails, after
which there may be rows that others have inserted. -/
structure Turns (m : Model) (on : Database) (sense : Sense ρ δ) (cells : ρ → List Value)
    (lookup : List (String × Value)) (before : List ρ) (x : Exchange Call Call.Answer) (after : List ρ) : Prop where
  looked : ∀ c pinned answer, m.select (.lookingUp lookup) = .ok c →
    x = ⟨.query on pinned c.text c.parameters, answer⟩ →
      after = before ∧ c.statement.Answered sense cells (fun _ => before) c.parameters answer
  inserted : ∀ pinned bound back, m.Inserts on pinned bound back [x] →
    ∃ row, after.Perm (row :: before) ∧ m.Holds sense cells row bound back

/-- the rows of a table in the course of some calls -/
inductive Course (m : Model) (on : Database) (sense : Sense ρ δ) (cells : ρ → List Value)
    (lookup : List (String × Value)) : List ρ → List (Exchange Call Call.Answer) → List ρ → Prop where
  | nil (rows : List ρ) : Course m on sense cells lookup rows [] rows
  | cons {before middle after : List ρ} {x : Exchange Call Call.Answer} {t : List (Exchange Call Call.Answer)}
      (first : m.Turns on sense cells lookup before x middle) (rest : Course m on sense cells lookup middle t after) :
    Course m on sense cells lookup before (x :: t) after

variable {m : Model}

theorem course_append : m.Course on sense cells lookup before (t ++ t') after ↔
    ∃ middle, m.Course on sense cells lookup before t middle ∧ m.Course on sense cells lookup middle t' after := by
  induction t generalizing before with
  | nil =>
    constructor
    · exact fun h => ⟨before, .nil before, h⟩
    · rintro ⟨_, ⟨⟩, h⟩
      exact h
  | cons x t ih =>
    constructor
    · rintro (_ | ⟨first, rest⟩)
      obtain ⟨middle, front, back⟩ := ih.mp rest
      exact ⟨middle, .cons first front, back⟩
    · rintro ⟨middle, _ | ⟨first, front⟩, back⟩
      exact .cons first (ih.mpr ⟨middle, front, back⟩)

theorem course_nil : m.Course on sense cells lookup before [] after ↔ after = before := by
  constructor
  · rintro ⟨⟩
    rfl
  · rintro rfl
    exact .nil after

theorem course_one {x : Exchange Call Call.Answer} :
    m.Course on sense cells lookup before [x] after ↔ m.Turns on sense cells lookup before x after := by
  constructor
  · rintro (_ | ⟨first, ⟨⟩⟩)
    exact first
  · exact fun h => .cons h (.nil after)

/-- an insertion adds a row -/
theorem Course.of_inserts (course : m.Course on sense cells lookup before t after) {pinned : Option Connection}
    {bound back : List Value} (inserts : m.Inserts on pinned bound back t) :
    ∃ row, after.Perm (row :: before) ∧ m.Holds sense cells row bound back := by
  have single : ∃ x, t = [x] := by cases inserts <;> exact ⟨_, rfl⟩
  obtain ⟨x, rfl⟩ := single
  exact (course_one.mp course).inserted pinned bound back inserts

/-! ## What a lookup tells -/

/-- whether what is fetched for a lookup tells if it keeps no row of a table, or just one -/
structure Tells (m : Model) (sense : Sense ρ δ) (lookup : List (String × Value)) (read : ρ → Outcome Instance)
    (rows : List ρ) (found : Outcome (List Instance)) : Prop where
  none : found = .ok [] → (∃ c, m.select (.lookingUp lookup) = .ok c) ∧ m.matching sense lookup rows = []
  one : ∀ i, found = .ok [i] → ∃ a, m.matching sense lookup rows = [a] ∧ read a = .ok i
  found : ∀ a i, m.matching sense lookup rows = [a] → read a = .ok i → found = .ok [i]

theorem tells_of_error {e : Error} (h : m.select (.lookingUp lookup) = .error e) (read : ρ → Outcome Instance)
    (rows : List ρ) : m.Tells sense lookup read rows (.error e) := by
  refine ⟨nofun, nofun, fun a i one => ?_⟩
  rw [matching, h] at one
  cases one

/-- **The rows that a database gives for a lookup tell whether there is none or one.** -/
theorem tells_of_answered (named : m.Named lookup) {c : Compiled} (h : m.select (.lookingUp lookup) = .ok c)
    {answer : Outcome (List Row)} (answered : c.statement.Answered sense cells (fun _ => rows) c.parameters answer)
    (read : List Value → Outcome Instance) :
    m.Tells sense lookup (fun a => read (cells a)) rows (answer.bind fun given => given.mapM fun row => read row.values) := by
  obtain ⟨s, ps, rfl, looks⟩ := select_lookingUp named h
  have kept := matching_eq h sense rows
  cases answered with
  | number counts => cases counts
  | @rows _ given gives =>
    obtain ⟨nobody, single⟩ := gives.tells looks.distinct looks.limit looks.offset
    rw [← kept] at nobody
    have decoded : ((given.map fun row => (⟨s.columns, cells row⟩ : Row)).mapM fun row => read row.values) =
        given.mapM fun a => read (cells a) := List.mapM_map
    change m.Tells sense lookup (fun a => read (cells a)) rows (List.mapM _ (given.map _))
    rw [decoded]
    refine ⟨fun none => ⟨⟨_, h⟩, ?_⟩, fun i one => ?_, fun a i one reads => ?_⟩
    · exact nobody.mp (List.forall₂_nil_right_iff.mp (Outcome.mapM_ok.mp none))
    · obtain ⟨a, _, reads, rest, rfl⟩ := List.forall₂_cons_right_iff.mp (Outcome.mapM_ok.mp one)
      obtain rfl := List.forall₂_nil_right_iff.mp rest
      exact ⟨a, kept.trans ((single a).mp rfl), reads⟩
    · obtain rfl := (single a).mpr (kept.symm.trans one)
      exact Outcome.mapM_ok.mpr (.cons reads .nil)

end Model

/-! ## The calls of a manager -/

/-- work of a mapper is said by a mapper with the texts of its own, which is found again -/
theorem Registry.says_onMapper {α : Type} {r r' : Registry} {e : Entity} {name : String}
    (provides : r.Provides e name on) {f : Mapper → Talk (Outcome α)} {x : Outcome α}
    (said : (onMapper e name f r).Says t (x, r')) :
    r'.Provides e name on ∧ ∃ m number used, m.Keeps e on number used ∧ (f m).Says t x := by
  obtain ⟨m, r₁, number, used, found, kept, keeps⟩ := provides
  simp only [onMapper, withMapper, found, bind_assoc, pure_bind] at said
  obtain ⟨answer, asked, same⟩ := Dialogue.says_bind_pure.mp said
  cases same
  exact ⟨provides_keep kept rfl keeps, m, number, used, keeps, asked⟩

namespace Manager

variable {m : Manager} {r r' : Registry} {now : Instant} {draw : Nat → Nat}

/-- the instance that a row of the table is read as -/
def readRow (m : Manager) (on : Database) (cells : ρ → List Value) (row : ρ) : Outcome Instance :=
  Instance.ofRow m.entity on.name (cells row)

/-- looks rows up by values and makes something of them -/
def lookUp {α : Type} (m : Manager) (active : Active) (lookup : List (String × Value))
    (finish : List Instance → Outcome α) : Work (Outcome α) := do
  return (← Registry.onMapper m.entity m.databaseName fun mapper => mapper.select active (.lookingUp lookup)).bind finish

theorem getOrNone_eq (m : Manager) (active : Active) (lookup : List (String × Value)) :
    m.getOrNone active (.ofPairs lookup) = m.lookUp active lookup (m.all.get (.ofPairs lookup)).first.single := rfl

theorem get_eq (m : Manager) (active : Active) (lookup : List (String × Value)) :
    m.get active (.ofPairs lookup) = m.lookUp active lookup (m.all.filter (.ofPairs lookup)).expectingOne.one := rfl

/-- **A lookup leaves the rows as they are**, and what is fetched tells of them. -/
theorem says_lookUp {α : Type} {finish : List Instance → Outcome α} {x : Outcome α}
    (named : m.entity.model.Named lookup) (provides : r.Provides m.entity m.databaseName on)
    (said : (m.lookUp active lookup finish r).Says t (x, r'))
    (course : m.entity.model.Course on sense cells lookup before t after) :
    r'.Provides m.entity m.databaseName on ∧ after = before ∧ ∃ found,
      m.entity.model.Tells sense lookup (m.readRow on cells) before found ∧ x = found.bind finish := by
  obtain ⟨⟨found, r₁⟩, fetched, same⟩ := Dialogue.says_bind_pure.mp said
  cases same
  obtain ⟨provides', mapper, number, used, keeps, asked⟩ := Registry.says_onMapper provides fetched
  refine ⟨provides', ?_⟩
  unfold Mapper.select Mapper.run at asked
  rw [keeps.model, keeps.database] at asked
  have reads : mapper.decode = fun given => given.mapM fun row => Instance.ofRow m.entity on.name row.values := by
    funext given
    rw [Mapper.decode, keeps.entity, keeps.database]
  cases compiles : m.entity.model.select (.lookingUp lookup) with
  | error err =>
    rw [compiles] at asked
    obtain ⟨rfl, rfl⟩ := Dialogue.says_pure.mp asked
    exact ⟨Model.course_nil.mp course, _, Model.tells_of_error compiles _ _, rfl⟩
  | ok c =>
    rw [compiles, reads] at asked
    obtain ⟨answer, queried, rfl⟩ := Dialogue.says_bind_pure.mp asked
    obtain rfl := Dialogue.says_question.mp queried
    obtain ⟨rfl, answered⟩ := (Model.course_one.mp course).looked c _ answer compiles rfl
    exact ⟨rfl, _, Model.tells_of_answered named compiles answered _, rfl⟩

/-- the single result is none just if no row was fetched, and a row just if it alone was -/
theorem single_of_first (m : Manager) (f : Filter) (found : Outcome (List Instance)) :
    (found.bind (m.all.get f).first.single = .ok none ↔ found = .ok []) ∧
      ∀ i, found.bind (m.all.get f).first.single = .ok (some i) ↔ found = .ok [i] := by
  match found with
  | .error e => simp [Except.bind]
  | .ok [] => simp [Except.bind, Query.single, Query.first]
  | .ok [i] => simp [Except.bind, Query.single]
  | .ok (i :: j :: rest) => simp [Except.bind, Query.single, Query.first, Query.get, Query.filter]

/-- the row that is expected is the one that alone was fetched -/
theorem one_of_expected {f : Filter} {found : Outcome (List Instance)} {i : Instance} :
    found.bind (m.all.filter f).expectingOne.one = .ok i ↔ found = .ok [i] := by
  match found with
  | .error e => simp [Except.bind]
  | .ok [] => simp [Except.bind, Query.one, Query.single, Query.expectingOne, bind]
  | .ok [j] => simp [Except.bind, Query.one, Query.single, bind, pure, Except.pure]
  | .ok (j :: k :: rest) => simp [Except.bind, Query.one, Query.single, Query.expectingOne, bind]

/-- how a row is come by, where the rows of the table were these before and are those after.  If it was not created, it
is the only one that the lookup keeps in the end.  If it was, the lookup had kept none, and one was inserted.  Where the
lookup keeps one row, this is given. -/
structure Obtains (m : Manager) (on : Database) (sense : Sense ρ δ) (cells : ρ → List Value) (now : Instant)
    (draw : Nat → Nat) (lookup defaults : List (String × Value)) (before after : List ρ)
    (result : Outcome (Instance × Bool)) : Prop where
  found : ∀ i, result = .ok (i, false) →
    ∃ a, m.entity.model.matching sense lookup after = [a] ∧ m.readRow on cells a = .ok i
  made : ∀ i, result = .ok (i, true) → (∃ c, m.entity.model.select (.lookingUp lookup) = .ok c) ∧
    m.entity.model.matching sense lookup before = [] ∧ ∃ bound back row,
      m.Makes now draw (defaults ++ lookup) bound back i ∧ after.Perm (row :: before) ∧
      m.entity.model.Holds sense cells row bound back
  given : ∀ a i, m.entity.model.matching sense lookup before = [a] → m.readRow on cells a = .ok i →
    result = .ok (i, false) ∧ after = before

/-- **Every call that returns comes by its row so**, and the mapper is found again. -/
theorem says_getOrCreate (some : m.entity.model.fields ≠ []) (named : m.entity.model.Named lookup)
    (provides : r.Provides m.entity m.databaseName on) {result : Outcome (Instance × Bool)}
    (said : (m.getOrCreate active now draw lookup defaults r).Says t (result, r'))
    (course : m.entity.model.Course on sense cells lookup before t after) :
    r'.Provides m.entity m.databaseName on ∧
      m.Obtains on sense cells now draw lookup defaults before after result := by
  obtain ⟨front, ⟨x, r₁⟩, back, rfl, first, rest⟩ := Dialogue.says_bind.mp said
  obtain ⟨middle, course, course'⟩ := Model.course_append.mp course
  rw [getOrNone_eq] at first
  obtain ⟨provides, same, found, tells, rfl⟩ := says_lookUp named provides first course
  obtain rfl := same.symm
  obtain ⟨empty, single⟩ := single_of_first m (.ofPairs lookup) found
  cases outcome : found.bind (m.all.get (.ofPairs lookup)).first.single with
  | error e =>
    rw [outcome] at rest
    obtain ⟨rfl, same⟩ := Dialogue.says_pure.mp rest
    cases same
    refine ⟨provides, nofun, nofun, fun a i one reads => ?_⟩
    rw [(single i).mpr (tells.found a i one reads)] at outcome
    cases outcome
  | ok o =>
    rw [outcome] at rest
    cases o with
    | some i =>
      obtain ⟨rfl, same⟩ := Dialogue.says_pure.mp rest
      cases same
      obtain rfl := Model.course_nil.mp course'
      have alone := (single i).mp outcome
      refine ⟨provides, fun j given => ?_, nofun, fun a j one reads => ?_⟩
      · cases given
        exact tells.one i alone
      · have same := (single j).mpr (tells.found a j one reads)
        rw [outcome] at same
        cases same
        exact ⟨rfl, rfl⟩
    | none =>
      obtain ⟨compiles, nobody⟩ := tells.none (empty.mp outcome)
      obtain ⟨front', ⟨made, r₂⟩, back', rfl, creating, rest⟩ := Dialogue.says_bind.mp rest
      obtain ⟨middle', created, course'⟩ := Model.course_append.mp course'
      obtain ⟨provides, inserted⟩ := says_create some provides creating
      have other : ∀ a i, m.entity.model.matching sense lookup before = [a] → m.readRow on cells a = .ok i →
          result = .ok (i, false) ∧ after = before := by
        intro a i one
        rw [nobody] at one
        cases one
      cases made with
      | ok i =>
        obtain ⟨rfl, same⟩ := Dialogue.says_pure.mp rest
        cases same
        obtain rfl := Model.course_nil.mp course'
        obtain ⟨bound, back, inserts, makes⟩ := inserted i rfl
        obtain ⟨row, added, holds⟩ := created.of_inserts inserts
        refine ⟨provides, nofun, fun j given => ?_, other⟩
        cases given
        exact ⟨compiles, nobody, bound, back, row, makes, added, holds⟩
      | error e =>
        cases taken : e.isIntegrity with
        | false =>
          simp only [taken, Bool.false_eq_true, if_false] at rest
          obtain ⟨rfl, same⟩ := Dialogue.says_pure.mp rest
          cases same
          exact ⟨provides, nofun, nofun, other⟩
        | true =>
          -- someone else has inserted a row, which is looked up once more
          simp only [taken, if_true] at rest
          obtain ⟨⟨again, r₃⟩, looked, same⟩ := Dialogue.says_bind_pure.mp rest
          cases same
          rw [get_eq] at looked
          obtain ⟨provides, rfl, found', tells', rfl⟩ := says_lookUp named provides looked course'
          refine ⟨provides, fun i given => ?_, fun i given => ?_, other⟩
          · obtain ⟨j, one, same⟩ := Outcome.map_ok.mp given
            cases same
            exact tells'.one i (one_of_expected.mp one)
          · obtain ⟨j, _, same⟩ := Outcome.map_ok.mp given
            cases same

end Manager

/-! ## The row that was created -/

/-- whether two values of a field are the same or are stored as cells that are alike -/
def Field.StoresAlike (f : Field) (v w : Value) : Prop :=
  v = w ∨ ∃ c d, f.toStorage v = .ok c ∧ f.toStorage w = .ok d ∧ c.Alike d

/-- values of the field's own representation are themselves alike, unless they are lengths of time, which are stored in
microseconds -/
theorem Field.StoresAlike.alike {f : Field} {v w : Value} (h : f.StoresAlike v w) (own : f.kind.owns v = true)
    (own' : f.kind.owns w = true) (other : f.kind ≠ .span) : v.Alike w := by
  have itself : ∀ u, f.kind.owns u = true → f.toStorage u = .ok u := by
    intro u own
    refine toStorage_of_owns own ?_
    cases u with
    | span _ => cases kind : f.kind <;> simp_all [FieldKind.owns]
    | _ => rfl
  rcases h with rfl | ⟨c, d, stored, stored', alike⟩
  · exact v.alike_refl
  · rw [itself v own] at stored
    rw [itself w own'] at stored'
    cases stored
    cases stored'
    exact alike

/-- whether the keys of two instances are stored alike -/
def Instance.SameKey (i j : Instance) : Prop :=
  ∀ p ∈ i.model.key, ∀ f, i.model.fields[p]? = some f → f.StoresAlike (i.valueAt p) (j.valueAt p)

theorem Instance.sameKey_refl (i : Instance) : i.SameKey i := fun _ _ _ _ => .inl rfl

/-- whether names stand for lookups of fields that neither a save nor the database fills in, and each for one value -/
structure Model.Seeks (m : Model) (lookup : List (String × Value)) : Prop where
  named : m.Named lookup
  given : ∀ l ∈ lookup, ∀ f, m.field? l.1 = some f → f.kind.isGenerated = false ∧ f.kind.isAutomatic = false
  clear : Unequivocal lookup

namespace Manager

variable {m : Manager} {now : Instant} {draw : Nat → Nat} {i j : Instance} {bound back : List Value} {row : ρ}

/-- the row that was created is one that the lookup keeps, if no value is missing -/
theorem Makes.matched (promise : sense.Matches) (seeks : m.entity.model.Seeks lookup)
    (present : ∀ l ∈ lookup, l.2.isNull = false) (makes : m.Makes now draw (defaults ++ lookup) bound back i)
    (holds : m.entity.model.Holds sense cells row bound back) : m.entity.model.Matched sense lookup row := by
  intro l hl f field
  obtain ⟨written, plain⟩ := seeks.given l hl f field
  obtain ⟨p, k, c, there, position, parameter, stored⟩ := makes.bound_of_mem seeks.clear hl field written plain
  refine ⟨c, stored, ?_⟩
  rw [holds.column k p f c position there parameter]
  exact promise.itself c ((Field.isNull_of_toStorage stored).trans (present l hl))

/-- the row that was created is read with the key that it was created with -/
theorem Makes.sameKey {pairs : List (String × Value)} (makes : m.Makes now draw pairs bound back i)
    (holds : m.entity.model.Holds sense cells row bound back) (read : m.readRow on cells row = .ok j) : i.SameKey j := by
  intro p key f field
  rw [makes.isOf.model] at key field
  have shown := RowOperation.accept_ofRow read p f field
  cases generated : f.kind.isGenerated with
  | true =>
    have mem : p ∈ m.entity.model.returningPositions := Model.mem_positionsWhere.mpr ⟨f, field, generated⟩
    obtain ⟨k, position⟩ := List.getElem?_of_mem mem
    rw [holds.made k p key position] at shown
    exact .inl (Except.ok.inj ((makes.read_at position field).symm.trans shown))
  | false =>
    obtain ⟨k, c, position, parameter, stored⟩ := makes.bound_at field generated
    obtain ⟨d, stored', alike⟩ := Field.toStorage_of_alike stored (holds.shown k p c key position parameter) shown
    exact .inr ⟨c, d, stored, stored', alike⟩

/-- **What was created is found again, unless a value that it is looked up by is missing.**  A database takes no missing
value to equal anything, and every other one to equal itself; it answers lookups by the rows of the table, and an
insertion adds a row that holds what was bound.  A call has given a row, which it found or created, and the rows of the
table in the end can be read.  If no value that is looked up is missing, every further call from these rows on gives a row
with the same key, as found, and changes nothing.  If one is missing, the row was created, and no call finds it: whatever
gives a row has added it. -/
theorem getOrCreate_again (promise : sense.Matches) (some : m.entity.model.fields ≠ [])
    (seeks : m.entity.model.Seeks lookup) {r r₁ : Registry} (provides : r.Provides m.entity m.databaseName on)
    {created : Bool} (said : (m.getOrCreate active now draw lookup defaults r).Says t (.ok (i, created), r₁))
    (course : m.entity.model.Course on sense cells lookup before t after)
    (read : ∀ row ∈ after, ∃ j, m.readRow on cells row = .ok j) :
    r₁.Provides m.entity m.databaseName on ∧
      ∀ active' now' draw' r₂ t' result r₃ (last : List ρ), r₂.Provides m.entity m.databaseName on →
        (m.getOrCreate active' now' draw' lookup defaults r₂).Says t' (result, r₃) →
        m.entity.model.Course on sense cells lookup after t' last →
          ((∀ l ∈ lookup, l.2.isNull = false) → ∃ j, result = .ok (j, false) ∧ i.SameKey j ∧ last = after) ∧
          ((∃ l ∈ lookup, l.2.isNull = true) → created = true ∧
            ∀ j again, result = .ok (j, again) → again = true ∧ ∃ row, last.Perm (row :: after)) := by
  obtain ⟨provides₁, found, made, -⟩ := says_getOrCreate some seeks.named provides said course
  refine ⟨provides₁, fun active' now' draw' r₂ t' result r₃ last provides₂ said' course' => ?_⟩
  obtain ⟨-, found', made', keeps⟩ := says_getOrCreate some seeks.named provides₂ said' course'
  constructor
  · intro present
    obtain ⟨row, j, kept, reads, same⟩ : ∃ row j, m.entity.model.matching sense lookup after = [row] ∧
        m.readRow on cells row = .ok j ∧ i.SameKey j := by
      cases created with
      | false =>
        obtain ⟨row, kept, reads⟩ := found i rfl
        exact ⟨row, i, kept, reads, i.sameKey_refl⟩
      | true =>
        obtain ⟨⟨c, compiles⟩, nobody, bound, back, row, makes, added, holds⟩ := made i rfl
        obtain ⟨j, reads⟩ := read row (added.mem_iff.mpr List.mem_cons_self)
        have matched := makes.matched promise seeks present holds
        exact ⟨row, j, Model.matching_added seeks.named compiles nobody added matched, reads, makes.sameKey holds reads⟩
    obtain ⟨rfl, rfl⟩ := keeps row j kept reads
    exact ⟨j, rfl, same, rfl⟩
  · intro missing
    have nothing (rows : List ρ) : m.entity.model.matching sense lookup rows = [] :=
      Model.matching_of_missing promise seeks.named missing rows
    have never {rows : List ρ} {i : Instance} : ¬∃ a, m.entity.model.matching sense lookup rows = [a] ∧
        m.readRow on cells a = .ok i := by
      rintro ⟨a, one, _⟩
      rw [nothing] at one
      cases one
    constructor
    · cases created with
      | false => exact absurd (found i rfl) never
      | true => rfl
    · rintro j again rfl
      cases again with
      | false => exact absurd (found' j rfl) never
      | true =>
        obtain ⟨_, _, _, _, row, _, added, _⟩ := made' j rfl
        exact ⟨rfl, row, added⟩

/-! ## Items of a size -/

theorem matches_integers : integers.Matches where
  missing d v h := by
    cases v with
    | null => cases d <;> exact nofun
    | _ => cases h
  itself v h := by
    have self (ns : List Int) : integers.compare .equal (some ns) (some ns) = .yes := by
      simp [integers, Sql.Truth.ofBool]
    cases v with
    | null => cases h
    | _ => exact self _

/-- items that the database numbers, with a size that may be missing -/
def sized : Manager where
  entity := ⟨0, {
    name := "Item"
    table := "item"
    database := defaultDatabase
    isAbstract := false
    description := none
    uniqueTogether := []
    indexes := []
    fields := [(Field.new "id" .auto).asKey, (Field.new "size" .int).optional]
    key := [0] }⟩

/-- the database of the items -/
def shelf : Database := ⟨defaultDatabase, 0⟩

/-- the cells of an item -/
def sizedCells (row : Int × Option Int) : List Value :=
  [.int (Int64.ofInt row.1), row.2.elim .null fun n => .int (Int64.ofInt n)]

/-- the items of a size, two at most -/
def ofSize : Select where
  columns := ["id", "size"]
  table := "item"
  rows := some [.compare .equal (.plain (.column "size")) (.plain (.parameter 1))]
  limit := some 2

theorem ofSize_text_ne : (Sql.Statement.select ofSize).text ≠ sized.entity.model.insertRow.text := by decide +kernel

section

variable {v : Value} (compiles : sized.entity.model.select (.lookingUp [("size", v)]) = .ok ⟨.select ofSize, [v]⟩)
  {items : List (Int × Option Int)}

include compiles

/-- items are looked up -/
theorem turns_ofSize {given : List (Int × Option Int)} (gives : ofSize.Gives integers [v] (fun _ => items) given) :
    sized.entity.model.Turns shelf integers sizedCells [("size", v)] items
      ⟨.query shelf none (Sql.Statement.select ofSize).text [v],
        .ok (given.map fun row => ⟨["id", "size"], sizedCells row⟩)⟩ items := by
  refine ⟨fun c pinned answer compiled same => ?_, fun pinned bound back inserts => ?_⟩
  · rw [compiles] at compiled
    cases compiled
    cases same
    exact ⟨rfl, .rows gives⟩
  · exact absurd inserts.of_query.1 ofSize_text_ne

/-- an item is inserted -/
theorem turns_insertion (n : Int64) (size : Option Int)
    (holds : integers.column (n.toInt, size) "size" = integers.parameter (some v)) :
    sized.entity.model.Turns shelf integers sizedCells [("size", v)] items
      ⟨.query shelf none sized.entity.model.insertRow.text [v], .ok [⟨["id"], [.int n]⟩]⟩
      ((n.toInt, size) :: items) := by
  refine ⟨fun c pinned answer compiled same => ?_, fun pinned bound back inserts => ?_⟩
  · rw [compiles] at compiled
    cases compiled
    have asked : sized.entity.model.insertRow.text = (Sql.Statement.select ofSize).text := by
      injection congrArg Exchange.question same
    exact absurd asked.symm ofSize_text_ne
  · obtain ⟨_, rfl, row, others, answered, rfl⟩ := inserts.of_query
    cases answered
    have written : sized.entity.model.insertPositions = [1] := rfl
    have made : sized.entity.model.returningPositions = [0] := rfl
    refine ⟨(n.toInt, size), .refl _, fun k p f c position field parameter => ?_, fun k p c key position => ?_,
      fun k p key position => ?_⟩
    · rw [written] at position
      cases k with
      | zero =>
        cases position
        cases field
        cases parameter
        exact holds
      | succ k => cases position
    · rw [written] at position
      obtain rfl := List.mem_singleton.mp key
      cases k with
      | zero => cases position
      | succ k => cases position
    · rw [made] at position
      cases k with
      | zero =>
        cases position
        exact congrArg Value.int (Int64.ofInt_toInt n)
      | succ k => cases position

end

/-- the items of a size in their own order -/
theorem gives_ofSize (ps : List Value) (items : List (Int × Option Int)) :
    ofSize.Gives integers ps (fun _ => items) ((ofSize.passing integers ps fun _ => items).take 2) :=
  .stages rfl (.refl _) nofun

theorem seeks_size (v : Value) : sized.entity.model.Seeks [("size", v)] := by
  refine ⟨Model.named_of_unambiguous (by decide) fun l hl => ?_, fun l hl f field => ?_, fun a ha b hb _ => ?_⟩
  · obtain rfl := List.mem_singleton.mp hl
    exact ⟨_, List.mem_cons_of_mem _ List.mem_cons_self, rfl⟩
  · obtain rfl := List.mem_singleton.mp hl
    cases field
    exact ⟨rfl, rfl⟩
  · rw [List.mem_singleton.mp ha, List.mem_singleton.mp hb]

/-- gives rows one after the other -/
def giving : List (List Row) → (call : Call) → call.Answer × List (List Row)
  | rows :: rest, .query .. => (.ok rows, rest)
  | rest, call => ((Instance.withoutRows () call).1, rest)

/-- the registry of the items before an insertion and after it -/
def shelves (inserted : Bool) : Registry :=
  let mapper : Mapper := { entity := sized.entity, database := shelf, number := 0 }
  if inserted then
    { Registry.ofDatabases [shelf] with
      mappers := [(⟨0, defaultDatabase⟩, { mapper with insertText := some sized.entity.model.insertRow.text })]
      nextMapper := 1 }
  else .ofDatabases [shelf]

/-- an item as it is stored -/
def item (n : Int64) (size : Value) : Instance :=
  ({ entity := sized.entity, values := [.int n, size] } : Instance).storedIn defaultDatabase

/-- an item is created where none of its size is given -/
theorem says_creation {v : Value} (hv : v = .int 3 ∨ v = .null) (n : Int64) (inserted : Bool) :
    (sized.getOrCreate [] ⟨0, 0⟩ id [("size", v)] [] (shelves inserted)).Says
      [⟨.query shelf none (Sql.Statement.select ofSize).text [v], .ok []⟩,
        ⟨.query shelf none sized.entity.model.insertRow.text [v], .ok [⟨["id"], [.int n]⟩]⟩]
      (.ok (item n v, true), shelves true) := by
  rcases hv with rfl | rfl <;> cases inserted <;> exact Dialogue.says_run giving [[], [⟨["id"], [.int n]⟩]] _

/-- an item of the size 3 is created, and found by the next call -/
theorem getOrCreate_again_size :
    let lookup : List (String × Value) := [("size", .int 3)]
    let call := sized.getOrCreate [] ⟨0, 0⟩ id lookup []
    ∃ t, (call (shelves false)).Says t (.ok (item 1 (.int 3), true), shelves true) ∧
      sized.entity.model.Course shelf integers sizedCells lookup [] t [(1, some 3)] ∧
      ∃ t' j r', (call (shelves true)).Says t' (.ok (j, false), r') ∧
        sized.entity.model.Course shelf integers sizedCells lookup [(1, some 3)] t' [(1, some 3)] ∧
        (item 1 (.int 3)).SameKey j := by
  intro lookup call
  have compiles : sized.entity.model.select (.lookingUp lookup) = .ok ⟨.select ofSize, [.int 3]⟩ := rfl
  have said := says_creation (.inl rfl) 1 false
  have course := Model.Course.cons (turns_ofSize compiles (gives_ofSize _ []))
    (.cons (turns_insertion compiles 1 (some 3) rfl) (.nil _))
  have provides : (shelves false).Provides sized.entity sized.databaseName shelf :=
    ⟨_, _, 0, [], rfl, rfl, .fresh _ _ _⟩
  have read : ∀ row ∈ [((1 : Int), some (3 : Int))], ∃ j, sized.readRow shelf sizedCells row = .ok j := by
    rw [List.forall_mem_singleton]
    exact ⟨_, rfl⟩
  obtain ⟨provides', again⟩ := getOrCreate_again matches_integers (List.cons_ne_nil _ _) (seeks_size _) provides said
    course read
  have said' : (call (shelves true)).Says _ (.ok (item 1 (.int 3), false), shelves true) :=
    Dialogue.says_run giving [[⟨["id", "size"], [.int 1, .int 3]⟩]] _
  have course' : sized.entity.model.Course shelf integers sizedCells lookup [(1, some 3)] _ [(1, some 3)] :=
    .cons (turns_ofSize compiles (gives_ofSize _ _)) (.nil _)
  obtain ⟨found, -⟩ := again [] ⟨0, 0⟩ id _ _ _ _ _ provides' said' course'
  obtain ⟨j, given, same, -⟩ := found (by rw [List.forall_mem_singleton]; rfl)
  cases given
  exact ⟨_, said, course, _, _, _, said', course', same⟩

/-- **What was created is not found again if a value is missing**: each call creates another item without a size. -/
theorem getOrCreate_again_missing :
    let lookup : List (String × Value) := [("size", .null)]
    let call := sized.getOrCreate [] ⟨0, 0⟩ id lookup []
    ∃ t t', (call (shelves false)).Says t (.ok (item 1 .null, true), shelves true) ∧
      sized.entity.model.Course shelf integers sizedCells lookup [] t [(1, none)] ∧
      (call (shelves true)).Says t' (.ok (item 2 .null, true), shelves true) ∧
      sized.entity.model.Course shelf integers sizedCells lookup [(1, none)] t' [(2, none), (1, none)] ∧
      (item 1 .null).key = .int 1 ∧ (item 2 .null).key = .int 2 := by
  intro lookup call
  have compiles : sized.entity.model.select (.lookingUp lookup) = .ok ⟨.select ofSize, [.null]⟩ := rfl
  have course (items : List (Int × Option Int)) (n : Int64) := Model.Course.cons
    (turns_ofSize compiles (gives_ofSize _ items)) (.cons (turns_insertion compiles n none rfl) (.nil _))
  exact ⟨_, _, says_creation (.inr rfl) 1 false, course [] 1, says_creation (.inr rfl) 2 true,
    course [(1, none)] 2, rfl, rfl⟩

end Manager

end Tabula
