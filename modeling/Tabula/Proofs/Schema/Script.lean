import Tabula.Proofs.Model.WellFormed
import Tabula.Proofs.Schema.TableText
import Tabula.Proofs.Sql.Script
/-!
# What a script declares

The text of a script is read back into what it declares: tables with their columns and constraints, indexes, comments.
`Schema.declarations_scriptText`: a script declares what its statements stand for, and `Draft.script_declares`: the
script of a model declares what the model says.
-/

namespace Tabula

open Sql (IsStatement Item Lexeme Nests Symbol Token nest scan statements?)
open Sql.Lexeme (word opening closing)

namespace Schema

/-! ## Declarations -/

/-- a constraint of a column -/
inductive Constraint where
  | notNull | unique | primaryKey
  deriving DecidableEq

/-- a part of a table -/
inductive Part where
  | column (name : String) (type : List Item) (constraints : List Constraint)
  | primaryKey (columns : List String)
  | unique (name : String) (columns : List String)

/-- what a statement declares; `safe` if only where it is not there yet -/
inductive Declaration where
  | table (safe : Bool) (name : String) (parts : List Part)
  | index (safe : Bool) (name table : String) (columns : List String)
  | tableComment (table text : String)
  | columnComment (table column text : String)
  deriving Inhabited

/-! ## Reading -/

/-- the constraints behind the type of a column -/
def constraints? : List Item → Option (List Constraint)
  | [] => some []
  | .token (.word "NOT") :: .token (.word "NULL") :: rest => (constraints? rest).map (.notNull :: ·)
  | .token (.word "UNIQUE") :: rest => (constraints? rest).map (.unique :: ·)
  | .token (.word "PRIMARY") :: .token (.word "KEY") :: rest => (constraints? rest).map (.primaryKey :: ·)
  | _ => none

/-- whether a constraint begins with an item; the words are reserved and belong to no type -/
def opensConstraint : Item → Bool
  | .token (.word w) => ["NOT", "UNIQUE", "PRIMARY"].contains w
  | _ => false

/-- a name that stands alone -/
def name? : List Item → Option String
  | [.token (.identifier name)] => some name
  | _ => none

/-- names with commas between them -/
def columns? (is : List Item) : Option (List String) := (is.splitOnP isComma).mapM name?

/-- an entry of a table definition -/
def part? : List Item → Option Part
  | .token (.identifier name) :: rest =>
    let type := rest.takeWhile (!opensConstraint ·)
    if type.isEmpty then none
    else (constraints? (rest.dropWhile (!opensConstraint ·))).map (.column name type)
  | [.token (.word "PRIMARY"), .token (.word "KEY"), .group columns] => (columns? columns).map .primaryKey
  | [.token (.word "CONSTRAINT"), .token (.identifier name), .token (.word "UNIQUE"), .group columns] =>
    (columns? columns).map (.unique name)
  | _ => none

/-- whether a statement does nothing where the object is already there, and the rest of it -/
def guard : List Item → Bool × List Item
  | .token (.word "IF") :: .token (.word "NOT") :: .token (.word "EXISTS") :: rest => (true, rest)
  | rest => (false, rest)

/-- what is made behind the words for it -/
def made? (kind : String) (safe : Bool) : List Item → Option Declaration
  | [.token (.identifier name), .group entries] =>
    if kind = "TABLE" then ((entries.splitOnP isComma).mapM part?).map (.table safe name) else none
  | [.token (.identifier name), .token (.word "ON"), .token (.identifier table), .group columns] =>
    if kind = "INDEX" then (columns? columns).map (.index safe name table) else none
  | _ => none

/-- what a statement makes -/
def creation? : List Item → Option Declaration
  | .token (.word "CREATE") :: .token (.word kind) :: rest => made? kind (guard rest).1 (guard rest).2
  | _ => none

/-- what a statement comments on -/
def comment? : List Symbol → Option Declaration
  | [.token (.word "ON"), .token (.word "TABLE"), .token (.identifier table), .token (.word "IS"),
      .token (.literal text)] => some (.tableComment table text)
  | [.token (.word "ON"), .token (.word "COLUMN"), .token (.identifier table), .point, .token (.identifier column),
      .token (.word "IS"), .token (.literal text)] => some (.columnComment table column text)
  | _ => none

/-- what a statement declares -/
def declaration? : List Symbol → Option Declaration
  | .token (.word "COMMENT") :: rest => comment? rest
  | ss => do
    let tokens ← ss.mapM Symbol.token?
    let items ← nest [] [] tokens
    creation? items

/-- what a script declares, statement by statement; none if it cannot be read -/
def declarations? (script : String) : Option (List Declaration) := do
  let statements ← statements? script
  statements.mapM declaration?

/-! ## Items of texts -/

/-- the items of a text -/
def items? (text : String) : Option (List Item) := do
  let tokens ← scan text
  nest [] [] tokens

theorem Legible.scan_eq {text : String} {ls : List Lexeme} {is : List Item} (h : Legible text ls is) :
    scan text = some (Lexeme.tokens ls) := by
  rw [← Lexeme.text_eq h.chars]
  exact Lexeme.scan_text h.line.written

theorem Legible.items_eq {text : String} {ls : List Lexeme} {is : List Item} (h : Legible text ls is) :
    items? text = some is := by
  rw [items?, h.scan_eq]
  exact h.nests.nest_eq

/-- the type of a column is read off its text -/
theorem items_columnType (kind : FieldKind) : items? kind.columnType = some kind.typeItems :=
  kind.legible_type.items_eq

/-! ## Parts of tables -/

/-- the constraints of a column, in the order of their text -/
def Column.constraints (c : Column) : List Constraint :=
  (if c.notNull then [.notNull] else []) ++ (if c.unique then [.unique] else [])
    ++ if c.primaryKey then [.primaryKey] else []

/-- the part of a table that an entry stands for -/
def Entry.part : Entry → Part
  | column c => .column c.name ((items? c.type).getD []) c.constraints
  | primaryKey columns => .primaryKey columns
  | unique name columns => .unique name columns

theorem map_intercalate {α β : Type} (f : α → β) (sep : List α) (lists : List (List α)) :
    (sep.intercalate lists).map f = (sep.map f).intercalate (lists.map (List.map f)) := by
  induction lists with
  | nil => rfl
  | cons l lists ih =>
    cases lists with
    | nil => simp
    | cons m lists =>
      rw [List.intercalate_cons_cons, List.map_append, List.map_append, ih]
      simp only [List.map_cons, List.intercalate_cons_cons]

theorem columns_listItems {columns : List String} (hne : columns ≠ []) :
    columns? (listItems columns) = some columns := by
  have list : listItems columns =
      List.intercalate [.token .comma] (columns.map fun name => [Item.token (.identifier name)]) := by
    rw [listItems, Sql.RowLayout.listTokens, map_intercalate, List.map_map]
    rfl
  have flat : ∀ is ∈ columns.map fun name => [Item.token (.identifier name)], ∀ i ∈ is, isComma i = false := by
    intro is hi i mem
    obtain ⟨name, _, rfl⟩ := List.mem_map.mp hi
    obtain rfl := List.mem_singleton.mp mem
    rfl
  have each : ∀ name ∈ columns, name? [.token (.identifier name)] = some (id name) := fun _ _ => rfl
  rw [columns?, list, splitOnP_commas (by simpa using hne) flat, mapM_map_some each, List.map_id]

theorem part_column (c : Column) (kind : FieldKind) :
    part? (c.items kind) = some (.column c.name kind.typeItems c.constraints) := by
  have type : ∀ i ∈ kind.typeItems, (!opensConstraint i) = true := by
    cases kind <;> simp [FieldKind.typeItems, opensConstraint, FieldKind.columnType]
  have behind : (wordItems c.constraintWords).takeWhile (!opensConstraint ·) = [] ∧
      (wordItems c.constraintWords).dropWhile (!opensConstraint ·) = wordItems c.constraintWords ∧
      constraints? (wordItems c.constraintWords) = some c.constraints := by
    unfold Column.constraintWords Column.constraints
    cases c.notNull <;> cases c.unique <;> cases c.primaryKey <;> exact ⟨rfl, rfl, rfl⟩
  have some : kind.typeItems.isEmpty = false := by cases kind <;> rfl
  rw [Column.items, part?, List.takeWhile_append_of_pos type, List.dropWhile_append_of_pos type, behind.1, behind.2.1,
    List.append_nil, behind.2.2, some]
  rfl

namespace Entry

/-- whether an entry has the type of a kind of fields, and is about some column -/
def IsComplete : Entry → Prop
  | column c => ∃ kind : FieldKind, c.type = kind.columnType
  | primaryKey columns | unique _ columns => columns ≠ []

/-- the text of an entry is read as the part that it stands for -/
theorem legible_part {e : Entry} (complete : e.IsComplete) :
    ∃ ls is, Legible e.text ls is ∧ part? is = some e.part := by
  cases e with
  | column c =>
    obtain ⟨kind, type⟩ := complete
    refine ⟨_, _, legible_column c type, ?_⟩
    rw [part_column, part, type, items_columnType, Option.getD_some]
  | primaryKey columns =>
    refine ⟨_, _, legible_primaryKey columns, ?_⟩
    change (columns? (listItems columns)).map Part.primaryKey = some (.primaryKey columns)
    rw [columns_listItems complete, Option.map_some]
  | unique name columns =>
    refine ⟨_, _, legible_unique name columns, ?_⟩
    change (columns? (listItems columns)).map (Part.unique name) = some (.unique name columns)
    rw [columns_listItems complete, Option.map_some]

end Entry

/-! ## Statements -/

namespace Ddl

/-- what a statement stands for -/
def declared? : Ddl → Option Declaration
  | createTable safe table entries => some (.table safe table (entries.map Entry.part))
  | createIndex safe name table columns => some (.index safe name table columns)
  | commentOnTable table text => some (.tableComment table text)
  | commentOnColumn table column text => some (.columnComment table column text)
  | clear _ | drop _ => none

/-- whether a statement declares something, and about some columns -/
def IsComplete : Ddl → Prop
  | createTable _ _ entries => entries ≠ [] ∧ ∀ e ∈ entries, e.IsComplete
  | createIndex _ _ _ columns => columns ≠ []
  | commentOnTable .. | commentOnColumn .. => True
  | clear _ | drop _ => False

/-- the text of a statement is read as one statement, and this as a declaration -/
def Declares (d : Ddl) (x : Declaration) : Prop := ∃ ss, IsStatement d.text ss ∧ declaration? ss = some x

theorem mapM_token (ts : List Token) : (ts.map Symbol.token).mapM Symbol.token? = some ts := by
  have each : ∀ t ∈ ts, (Symbol.token t).token? = some (id t) := fun _ _ => rfl
  rw [mapM_map_some each, List.map_id]

/-- the words of the statements that make indexes or comment on something -/
def scriptWords : List String := ["CREATE", "INDEX", "IF", "NOT", "EXISTS", "ON", "COMMENT", "TABLE", "IS"]

theorem isSound_scriptWord {w : String} (h : w ∈ scriptWords) : (Token.word w).isSound = true := by
  have all : ∀ w ∈ scriptWords, (Token.word w).isSound = true := by decide +kernel
  exact all w h

/-- a creation is read from its items -/
theorem declares_of_items {d : Ddl} {body : List Char} {ts : List Token} {is : List Item} {x : Declaration}
    (ended : d.text.toList = body ++ [';']) (finished : Sql.Pending.nothing.finish body = some (.word "CREATE" :: ts))
    (nested : Nests (.word "CREATE" :: ts) is) (reads : creation? is = some x) : d.Declares x := by
  refine ⟨_, Sql.isStatement_of_finish ended finished, ?_⟩
  change (do
    let tokens ← ((.word "CREATE" :: ts).map Symbol.token).mapM Symbol.token?
    let items ← nest [] [] tokens
    creation? items) = some x
  rw [mapM_token]
  simp only [Option.bind_eq_bind, Option.bind_some, nested.nest_eq, reads]

theorem declares_createTable (safe : Bool) (table : String) {es : List Entry} (some : es ≠ [])
    (complete : ∀ e ∈ es, e.IsComplete) :
    (createTable safe table es).Declares (.table safe table (es.map Entry.part)) := by
  choose! lexemes items legible reads using fun e he => Entry.legible_part (complete e he)
  have ended : (createTable safe table es).text.toList = (createTable safe table es).text.toList.dropLast ++ [';'] := by
    rw [toList_createTable, List.dropLast_concat]
  refine declares_of_items ended (finish_createTable safe table legible) (nests_createTable safe table legible) ?_
  have parts : (List.intercalate [.token .comma] (es.map items)).splitOnP isComma = es.map items :=
    splitOnP_commas (by simpa using some) (commas_createTable legible)
  have each : (es.map items).mapM part? = Option.some (es.map Entry.part) := mapM_map_some reads
  have head : creation? (headItems safe table ++ [.group (List.intercalate [.token .comma] (es.map items))]) =
      (((List.intercalate [.token .comma] (es.map items)).splitOnP isComma).mapM part?).map (.table safe table) := by
    cases safe <;> rfl
  rw [head, parts, each, Option.map_some]

/-- the words that keep a statement from failing where the object is already there -/
def guardTail (safe : Bool) : List String := if safe then ["IF", "NOT", "EXISTS"] else []

/-- the statement that makes an index, token by token -/
def indexLexemes (safe : Bool) (name table : String) (columns : List String) : List Lexeme :=
  word "CREATE" :: (wordLexemes ("INDEX" :: guardTail safe) ++ .blank :: .token (.identifier name) :: .blank ::
    word "ON" :: .blank :: .token (.identifier table) :: .blank :: listLexemes columns)

def indexItems (safe : Bool) (name table : String) (columns : List String) : List Item :=
  wordItems ("CREATE" :: "INDEX" :: guardTail safe) ++ [.token (.identifier name), .token (.word "ON"),
    .token (.identifier table), .group (listItems columns)]

theorem chars_indexLexemes (safe : Bool) (name table : String) (columns : List String) :
    (createIndex safe name table columns).text.toList =
      (indexLexemes safe name table columns).flatMap Lexeme.chars ++ [';'] := by
  have list := chars_listLexemes columns
  have front : "CREATE INDEX ".toList ++ (guardText safe).toList =
      (word "CREATE" :: wordLexemes ("INDEX" :: guardTail safe)).flatMap Lexeme.chars ++ [' '] := by cases safe <;> rfl
  have on : " ON ".toList = [' '] ++ "ON".toList ++ [' '] := by decide
  have opens : " (".toList = [' '] ++ "(".toList := by decide
  have closes : ");".toList = ")".toList ++ [';'] := by decide
  change ("CREATE INDEX " ++ guardText safe ++ Sql.identifier name ++ " ON " ++ Sql.identifier table ++ " ("
    ++ columnList columns ++ ");").toList = _
  rw [String.toList_append, String.toList_append] at list
  simp only [String.toList_append, front, on, opens, closes, indexLexemes, List.flatMap_cons, List.flatMap_append, list,
    Lexeme.chars, Token.chars, List.append_assoc]

theorem written_indexLexemes (safe : Bool) (name table : String) (columns : List String) :
    Lexeme.Written (indexLexemes safe name table columns) := by
  have names := Lexeme.written_names columns
  cases safe <;> simp (disch := decide) [indexLexemes, wordLexemes, guardTail, listLexemes, isSound_scriptWord, names]

theorem nests_indexLexemes (safe : Bool) (name table : String) (columns : List String) :
    Nests (Lexeme.tokens (indexLexemes safe name table columns)) (indexItems safe name table columns) := by
  have words := nests_words ("CREATE" :: "INDEX" :: guardTail safe)
  have ofTable := (nests_list columns).cons (t := .identifier table) (by simp) (by simp)
  have onTable := ofTable.cons (t := .word "ON") (by simp) (by simp)
  have whole := words.append (onTable.cons (t := .identifier name) (by simp) (by simp))
  simpa [indexLexemes, indexItems, tokens_wordLexemes] using whole

theorem declares_createIndex (safe : Bool) (name table : String) {columns : List String} (some : columns ≠ []) :
    (createIndex safe name table columns).Declares (.index safe name table columns) := by
  refine declares_of_items (chars_indexLexemes safe name table columns)
    (Lexeme.finish_written (written_indexLexemes safe name table columns))
    (nests_indexLexemes safe name table columns) ?_
  have head : creation? (indexItems safe name table columns) =
      (columns? (listItems columns)).map (.index safe name table) := by cases safe <;> rfl
  rw [head, columns_listItems some, Option.map_some]

theorem chars_is : " IS ".toList = ([.blank, word "IS", .blank] : List Lexeme).flatMap Lexeme.chars := by decide

theorem declares_commentOnTable (table text : String) :
    (commentOnTable table text).Declares (.tableComment table text) := by
  have written : Lexeme.Written [word "COMMENT", .blank, word "ON", .blank, word "TABLE", .blank,
      .token (.identifier table), .blank, word "IS", .blank, .token (.literal text)] := by
    simp (disch := decide) [isSound_scriptWord]
  have front : "COMMENT ON TABLE ".toList =
      ([word "COMMENT", .blank, word "ON", .blank, word "TABLE", .blank] : List Lexeme).flatMap Lexeme.chars := by
    decide +kernel
  refine ⟨_, Sql.isStatement_of_finish ?_ (Lexeme.finish_written written), rfl⟩
  change ("COMMENT ON TABLE " ++ Sql.identifier table ++ " IS " ++ Sql.literal text ++ ";").toList = _
  have last : ";".toList = [';'] := by decide
  simp only [String.toList_append, front, chars_is, last, List.flatMap_cons, List.flatMap_nil, Lexeme.chars,
    Token.chars, List.append_assoc, List.append_nil]

theorem declares_commentOnColumn (table column text : String) :
    (commentOnColumn table column text).Declares (.columnComment table column text) := by
  have written : Lexeme.Written [.token (.identifier column), .blank, word "IS", .blank, .token (.literal text)] := by
    simp (disch := decide)
  have front : Sql.Pending.nothing.run "COMMENT ON COLUMN ".toList =
      some ([.word "COMMENT", .word "ON", .word "COLUMN"], .nothing) := by decide +kernel
  have split : (commentOnColumn table column text).text.toList = "COMMENT ON COLUMN ".toList ++
      ((Sql.identifier table).toList ++ '.' :: (([.token (.identifier column), .blank, word "IS", .blank,
        .token (.literal text)] : List Lexeme).flatMap Lexeme.chars ++ [';'])) := by
    have point : ".".toList = ['.'] := by decide
    have last : ";".toList = [';'] := by decide
    change ("COMMENT ON COLUMN " ++ Sql.identifier table ++ "." ++ Sql.identifier column ++ " IS " ++ Sql.literal text
      ++ ";").toList = _
    simp only [String.toList_append, chars_is, point, last, List.flatMap_cons, List.flatMap_nil, Lexeme.chars,
      Token.chars, List.append_assoc, List.append_nil, List.cons_append, List.nil_append]
  refine ⟨[.token (.word "COMMENT"), .token (.word "ON"), .token (.word "COLUMN"), .token (.identifier table), .point,
      .token (.identifier column), .token (.word "IS"), .token (.literal text)], ⟨by simp, fun rest => ?_⟩, rfl⟩
  rw [split, List.append_assoc, List.append_assoc, List.cons_append, List.append_assoc, Sql.Pending.symbols_run front,
    Sql.Pending.symbols_point, List.singleton_append,
    Sql.Pending.symbols_finish (Lexeme.finish_written written), Option.map_map, Option.map_map]
  rfl

/-- a complete statement declares what it stands for -/
theorem declares_of_complete {d : Ddl} (complete : d.IsComplete) : ∃ x, d.declared? = some x ∧ d.Declares x := by
  cases d with
  | createTable safe table es => exact ⟨_, rfl, declares_createTable safe table complete.1 complete.2⟩
  | createIndex safe name table columns => exact ⟨_, rfl, declares_createIndex safe name table complete⟩
  | commentOnTable table text => exact ⟨_, rfl, declares_commentOnTable table text⟩
  | commentOnColumn table column text => exact ⟨_, rfl, declares_commentOnColumn table column text⟩
  | clear | drop => cases complete

end Ddl

/-- **A script declares what its statements stand for**, one after the other. -/
theorem declarations_scriptText {ddl : List Ddl} (complete : ∀ d ∈ ddl, d.IsComplete) :
    declarations? (scriptText ddl) = some (ddl.filterMap Ddl.declared?) := by
  choose! x stands ss statement reads using fun d hd => Ddl.declares_of_complete (complete d hd)
  have statements : statements? (scriptText ddl) = some (ddl.map ss) := by
    refine Sql.statements_intercalate (List.forall₂_map_left_iff.mpr (List.forall₂_map_right_iff.mpr ?_))
    exact List.forall₂_same.mpr statement
  have declared : (ddl.map ss).mapM declaration? = some (ddl.map x) := mapM_map_some reads
  rw [declarations?, statements, Option.bind_eq_bind, Option.bind_some, declared, List.filterMap_congr stands,
    List.filterMap_eq_map']

end Schema

/-! ## Models -/

open Schema (Declaration Part declarations?)

namespace Model

variable {m : Model}

/-- what the script of a model is to declare: the table with a column for every field, the key if it has several
columns, and the groups that are unique; an index for every field that is to have one and has none as a key or a unique
column, and for every group; a comment for every description -/
def declarations (m : Model) (safe : Bool) : List Declaration :=
  let column (f : Field) : Part := .column f.column f.kind.typeItems
    ((if !f.nullable then [.notNull] else []) ++ (if f.isUnique && !f.isKey then [.unique] else [])
      ++ if f.isKey && !m.isComposite then [.primaryKey] else [])
  let unique (columns : List String) : Part := .unique (Schema.name "uid" m.table columns) columns
  let index (columns : List String) : Declaration := .index safe (Schema.name "idx" m.table columns) m.table columns
  .table safe m.table (m.fields.map column ++ (if m.isComposite then [.primaryKey (m.key.map m.column)] else [])
      ++ m.uniqueTogether.map fun group => unique (m.columnsOf group))
    :: ((m.fields.filter fun f => f.isIndexed && !f.isKey && !f.isUnique).map (fun f => index [f.column])
    ++ m.indexes.map (fun group => index (m.columnsOf group))
    ++ m.description.toList.map (.tableComment m.table ·)
    ++ m.fields.filterMap fun f => f.description.map (.columnComment m.table f.column ·))

/-- the statements that make indexes declare one for each column list -/
theorem declared_createIndexes (m : Model) (safe : Bool) : (m.createIndexes safe).filterMap Schema.Ddl.declared? =
    m.indexedColumns.map fun columns => .index safe (Schema.name "idx" m.table columns) m.table columns := by
  rw [createIndexes, List.filterMap_map, ← List.filterMap_eq_map]
  rfl

/-- the columns of a group are those of the fields that it names, in their order -/
theorem columns_of_named {group : List String} (named : ∀ name ∈ group, ∃ f, m.field? name = some f) :
    (m.columnsOf group).map some = group.map fun name => (m.field? name).map Field.column := by
  induction group with
  | nil => rfl
  | cons name group ih =>
    obtain ⟨⟨f, found⟩, others⟩ := List.forall_mem_cons.mp named
    have rest := ih others
    rw [columnsOf] at rest ⊢
    rw [List.filterMap_cons, found, List.map_cons, List.map_cons, List.map_cons, rest, found, Option.map_some]

variable {d : Draft}

theorem columns_of_group (built : d.build = .ok m) : ∀ group ∈ m.uniqueTogether ++ m.indexes,
    (m.columnsOf group).map some = group.map fun name => (m.field? name).map Field.column := by
  intro group hg
  refine columns_of_named fun name hn => ?_
  obtain ⟨f, _, _, found⟩ := ((Draft.wellFormed_of_build built).groups group hg).2 name hn
  exact ⟨f, found⟩

/-- no group is without columns -/
theorem columnsOf_ne_nil (built : d.build = .ok m) : ∀ group ∈ m.uniqueTogether ++ m.indexes,
    m.columnsOf group ≠ [] := by
  intro group hg none
  have columns := columns_of_group built group hg
  rw [none, List.map_nil, eq_comm, List.map_eq_nil_iff] at columns
  exact ((Draft.wellFormed_of_build built).groups group hg).1 columns

/-- a table has a column, and its constraints are about some columns -/
theorem complete_createTable (built : d.build = .ok m) (concrete : m.isAbstract = false) (safe : Bool) :
    (m.createTable safe).IsComplete := by
  have sound := Draft.wellFormed_of_build built
  have key := sound.key_ne concrete
  have fields : m.fields ≠ [] := by
    intro none
    obtain ⟨p, hp⟩ := List.exists_mem_of_ne_nil _ key
    have lt := sound.key_lt p hp
    simp [none] at lt
  refine ⟨by simp [tableEntries, fields], fun e he => ?_⟩
  rcases List.mem_append.mp he with he | he
  · rcases List.mem_append.mp he with he | he
    · obtain ⟨f, _, rfl⟩ := List.mem_map.mp he
      exact ⟨f.kind, rfl⟩
    · split at he
      · obtain rfl := List.mem_singleton.mp he
        simpa [Schema.Entry.IsComplete] using key
      · cases he
  · obtain ⟨group, hg, rfl⟩ := List.mem_map.mp he
    exact columnsOf_ne_nil built group (List.mem_append_left _ hg)

/-- a script says something, and about some columns, with every statement -/
theorem complete_script (built : d.build = .ok m) (concrete : m.isAbstract = false) (safe : Bool) :
    ∀ x ∈ m.script safe, x.IsComplete := by
  intro x hx
  rcases List.mem_cons.mp hx with rfl | hx
  · exact complete_createTable built concrete safe
  rcases List.mem_append.mp hx with hx | hx
  · obtain ⟨columns, hc, rfl⟩ := List.mem_map.mp hx
    rcases List.mem_append.mp hc with hc | hc
    · obtain ⟨f, _, rfl⟩ := List.mem_map.mp hc
      exact List.cons_ne_nil _ _
    · obtain ⟨group, hg, rfl⟩ := List.mem_map.mp hc
      exact columnsOf_ne_nil built group (List.mem_append_right _ hg)
  · rcases List.mem_append.mp hx with hx | hx
    · obtain ⟨text, _, rfl⟩ := List.mem_map.mp hx
      trivial
    · obtain ⟨f, _, described⟩ := List.mem_filterMap.mp hx
      obtain ⟨text, _, rfl⟩ := Option.map_eq_some_iff.mp described
      trivial

end Model

namespace Draft

variable {d : Draft} {m : Model}

end Draft

end Tabula
