import Tabula.Postgres.Parameter
import Tabula.Proofs.Calendar.Range
import Tabula.Proofs.Field.Conversion
/-!
# What can be bound

Three tables have to fit together: what the conversions of a field give, the type of its column, and the kinds of values
that can be bound to a placeholder of a type.  `Parameter.encodes_of_toStorage`: what is stored for a value can be
bound to a placeholder of the column's type, and so can a list of such values where an array is expected.
-/

namespace Tabula

/-! ## Dates and moments in values -/

namespace Value

mutual

/-- whether the dates and moments in a value lie in the years that dates are kept for -/
def isKept : Value → Bool
  | date d => d.isKept
  | instant t => t.isKept
  | list items => allKept items
  | _ => true

def allKept : List Value → Bool
  | [] => true
  | v :: vs => isKept v && allKept vs

end

theorem allKept_iff {vs : List Value} : allKept vs = true ↔ ∀ v ∈ vs, v.isKept = true := by
  induction vs with
  | nil => simp [allKept]
  | cons v vs ih => rw [allKept, Bool.and_eq_true, ih, List.forall_mem_cons]

/-- whether a value is no date or moment out of reach -/
def InReach : Value → Prop
  | date d => d.InReach
  | instant t => t.InReach
  | _ => True

end Value

namespace Field

variable {f : Field} {v w c : Value}

theorem inReach_of_readDate {d : Date} (h : v.readDate? = some d) (kept : v.isKept = true) : d.InReach := by
  unfold Value.readDate? at h
  split at h
  · obtain rfl := Option.some.inj h
    have range := Date.day_of_isKept kept
    unfold Date.InReach
    omega
  · obtain rfl := Option.some.inj h
    exact Instant.date_inReach kept
  · exact Date.inReach_of_ofText h
  · cases h

theorem inReach_of_readInstant {t : Instant} (h : v.readInstant? = some t) (kept : v.isKept = true) : t.InReach := by
  unfold Value.readInstant? at h
  split at h
  · obtain rfl := Option.some.inj h
    exact Instant.inReach_of_isKept kept
  · exact Instant.inReach_of_ofText h
  · cases h

/-- dates and moments that a field makes of kept ones, or reads, are in reach -/
theorem inReach_of_accept (h : f.accept v = .ok w) (kept : v.isKept = true) : w.InReach := by
  have own := owns_of_accept h
  cases w with
  | date d =>
    have kind : f.kind = .date := by cases hk : f.kind <;> simp_all [FieldKind.owns]
    unfold accept at h
    split at h
    · cases h
    · simp only [kind] at h
      obtain ⟨d', read, same⟩ := Option.map_eq_some_iff.mp (orRefuse_ok.mp h)
      obtain rfl := Value.date.inj same
      exact inReach_of_readDate read kept
  | instant t =>
    obtain ⟨onSave, onCreate, kind⟩ : ∃ onSave onCreate, f.kind = .instant onSave onCreate := by
      cases hk : f.kind <;> simp_all [FieldKind.owns]
    unfold accept at h
    split at h
    · cases h
    · simp only [kind] at h
      obtain ⟨t', read, same⟩ := Option.map_eq_some_iff.mp (orRefuse_ok.mp h)
      obtain rfl := Value.instant.inj same
      exact inReach_of_readInstant read kept
  | _ => trivial

theorem inReach_of_toStorage (h : f.toStorage v = .ok c) (kept : v.isKept = true) : c.InReach := by
  obtain ⟨w, accepted, cell⟩ := toStorage_ok.mp h
  have reach := inReach_of_accept accepted kept
  cases w with
  | span t =>
    obtain ⟨n, _, rfl⟩ := Option.map_eq_some_iff.mp cell
    trivial
  | _ =>
    obtain rfl := Option.some.inj cell
    exact reach

end Field

/-! ## Types of columns -/

namespace Postgres

/-- the types that a server makes of their names in a table definition, what stands in parentheses left out -/
def ColumnType.declared : List (String × ColumnType) :=
  [("INT", .int4), ("BIGINT", .int8), ("SMALLINT", .int2), ("BIGSERIAL", .int8), ("VARCHAR", .varchar), ("TEXT", .text),
    ("BOOL", .bool), ("DECIMAL", .numeric), ("TIMESTAMPTZ", .timestamptz), ("DATE", .date),
    ("DOUBLE PRECISION", .float8), ("JSONB", .jsonb), ("UUID", .uuid), ("BYTEA", .bytea)]

/-- the type of a column that is defined with a type -/
def ColumnType.ofDeclared? (type : String) : Option ColumnType :=
  declared.lookup (String.ofList (type.toList.takeWhile (· ≠ '(')))

/-- the type of the columns of a kind -/
def typeOf : FieldKind → ColumnType
  | .int => .int4
  | .bigInt | .auto | .version | .span => .int8
  | .smallInt => .int2
  | .char _ => .varchar
  | .text => .text
  | .boolean => .bool
  | .decimal .. => .numeric
  | .instant .. => .timestamptz
  | .date => .date
  | .float => .float8
  | .json => .jsonb
  | .uuid => .uuid
  | .binary => .bytea

/-- columns have the types that they are defined with -/
theorem ofDeclared_columnType (kind : FieldKind) : ColumnType.ofDeclared? kind.columnType = some (typeOf kind) := by
  cases kind with
  | char n =>
    simp only [ColumnType.ofDeclared?, FieldKind.columnType, String.toList_append]
    rfl
  | decimal m p =>
    simp only [ColumnType.ofDeclared?, FieldKind.columnType, String.toList_append]
    rfl
  | instant onSave onCreate => decide +revert
  | _ => rfl

/-! ## Binding -/

namespace Parameter

/-- whether a value can be bound to a placeholder of a type -/
def Encodes (t : ColumnType) (v : Value) : Prop := ∃ cell, encode? t v = some cell

variable {kind : FieldKind} {t : ColumnType} {c : Value}

theorem word_some (width : Nat) {i : Int} (h : Text.fitsSigned (8 * width) i = true) : ∃ b, word? width i = some b :=
  ⟨_, if_pos h⟩

/-- a cell that is there has a form of its column's type -/
theorem scalar_of_holds (holds : kind.holds c = true) (reach : c.InReach) (there : c.isNull = false) :
    ∃ b, scalar? (typeOf kind) c = some b := by
  cases c with
  | null => cases there
  | int i =>
    have wide : ∃ b, word? 8 i.toInt = some b := word_some 8 (fitsSigned_toInt i)
    cases kind <;> first | exact wide | exact word_some _ holds | cases holds
  | date d =>
    have kindIs : kind = .date := by cases kind <;> first | rfl | cases holds
    have bounds : -2147483648 ≤ d.day - epochDay ∧ d.day - epochDay < 2147483648 := by
      obtain ⟨lower, upper⟩ := reach
      simp only [epochDay]
      omega
    obtain ⟨b, hb⟩ := word_some 4 (Text.fitsSigned_iff.mpr bounds)
    exact ⟨b, by simpa [kindIs, typeOf, scalar?] using hb⟩
  | instant t =>
    obtain ⟨onSave, onCreate, kindIs⟩ : ∃ onSave onCreate, kind = .instant onSave onCreate := by
      cases kind <;> first | exact ⟨_, _, rfl⟩ | cases holds
    have bounds : -9223372036854775808 ≤ ((t.seconds - 10957 * 86400) * 1000000000 + (t.nanos : Int)).tdiv 1000 ∧
        ((t.seconds - 10957 * 86400) * 1000000000 + (t.nanos : Int)).tdiv 1000 < 9223372036854775808 := by
      obtain ⟨lower, upper, nanos⟩ := reach
      generalize hn : (t.seconds - 10957 * 86400) * 1000000000 + (t.nanos : Int) = n
      have quotient := Int.tmod_add_mul_tdiv n 1000
      have remainder := Int.tmod_lt_of_pos n (show (0 : Int) < 1000 by decide)
      have remainder' := Int.lt_tmod_of_pos n (show (0 : Int) < 1000 by decide)
      omega
    have counted : micros? t = some _ := if_pos (Text.fitsSigned_iff.mpr bounds)
    exact ⟨_, by rw [kindIs, typeOf, scalar?, if_pos (by decide), counted]; rfl⟩
  | span s => cases kind <;> cases holds
  | list items => cases kind <;> cases holds
  | _ => cases kind <;> first | exact ⟨_, rfl⟩ | cases holds

theorem not_array (kind : FieldKind) (t : ColumnType) : typeOf kind ≠ .array t := by
  cases kind <;> simp [typeOf]

theorem encodes_of_holds (holds : kind.holds c = true) (reach : c.InReach) : Encodes (typeOf kind) c := by
  cases null : c.isNull with
  | true =>
    have missing : c = .null := by cases c <;> simp_all [Value.isNull]
    exact ⟨none, by rw [missing, encode?]⟩
  | false =>
    obtain ⟨b, hb⟩ := scalar_of_holds holds reach null
    refine ⟨some b, ?_⟩
    generalize ht : typeOf kind = t at hb
    have plain := not_array kind
    rw [ht] at plain
    unfold encode?
    split
    · cases null
    · exact absurd rfl (plain _)
    · exact absurd rfl (plain _)
    · rw [hb, Option.map_some]

/-- a list of cells, null among them, can be bound where an array of their column's type is expected -/
theorem encodes_list {cells : List Value} (holds : ∀ c ∈ cells, kind.holds c = true) (reach : ∀ c ∈ cells, c.InReach) :
    Encodes (.array (typeOf kind)) (.list cells) := by
  have each : ∃ elements, cells.mapM (element? (typeOf kind)) = some elements := by
    induction cells with
    | nil => exact ⟨[], rfl⟩
    | cons c rest ih =>
      obtain ⟨elements, tail⟩ := ih (fun d hd => holds d (List.mem_cons_of_mem _ hd))
        fun d hd => reach d (List.mem_cons_of_mem _ hd)
      have head : ∃ cell, element? (typeOf kind) c = some cell := by
        cases null : c.isNull with
        | true => exact ⟨none, by simp [element?, null]⟩
        | false =>
          obtain ⟨b, hb⟩ := scalar_of_holds (holds c List.mem_cons_self) (reach c List.mem_cons_self) null
          exact ⟨some b, by simp [element?, null, hb]⟩
      obtain ⟨cell, head⟩ := head
      exact ⟨cell :: elements, by rw [List.mapM_cons, head, tail]; rfl⟩
  obtain ⟨elements, each⟩ := each
  exact ⟨_, by rw [encode?, each, Option.map_some]⟩

variable {f : Field} {v : Value}

/-- **What is stored for a value can be bound to a placeholder of the column's type.** -/
theorem encodes_of_toStorage (h : f.toStorage v = .ok c) (kept : v.isKept = true) : Encodes (typeOf f.kind) c :=
  encodes_of_holds (Field.holds_of_toStorage h) (Field.inReach_of_toStorage h kept)

/-- so can a list of values stored one by one, where an array of that type is expected -/
theorem encodes_of_mapM_toStorage {items cells : List Value} (h : items.mapM f.toStorage = .ok cells)
    (kept : ∀ v ∈ items, v.isKept = true) : Encodes (.array (typeOf f.kind)) (.list cells) := by
  refine encodes_list (fun c hc => ?_) fun c hc => ?_
  · obtain ⟨v, _, stored⟩ := Outcome.exists_of_mem_mapM h hc
    exact Field.holds_of_toStorage stored
  · obtain ⟨v, hv, stored⟩ := Outcome.exists_of_mem_mapM h hc
    exact Field.inReach_of_toStorage stored (kept v hv)

end Parameter

end Postgres

end Tabula
