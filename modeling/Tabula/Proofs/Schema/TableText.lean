import Tabula.Proofs.Sql.Reading
import Tabula.Proofs.Sql.RowLayout
import Tabula.Schema.Definition
import Mathlib.Data.List.Infix
/-!
# The keys in the text of a table definition

`primaryKeys?` reads the text of a table definition as the database does and gives the columns of each primary key that
it declares: behind a column, or as an entry of its own.  `primaryKeys_text`: what is read off the text of a definition
are the keys that its entries declare.
-/

namespace Tabula

open Sql (Item Lexeme Nests Token nest scan)
open Sql.Lexeme (word opening closing)

/-! ## Lines -/

namespace Sql

/-- a line can end behind any token that is no literal, for that might go on in the next line -/
theorem Pending.finish_newline {p : Pending} {s : List Char} {ts : List Token} (h : p.finish s = some ts)
    (literals : ∀ body, .literal body ∉ ts) (rest : List Char) :
    p.finish (s ++ '\n' :: rest) = (Pending.nothing.finish rest).map (ts ++ ·) := by
  obtain ⟨⟨done, q⟩, hrun, h⟩ := Option.bind_eq_some_iff.mp h
  obtain ⟨more, hq, same⟩ := Option.bind_eq_some_iff.mp h
  obtain rfl : done ++ more = ts := Option.some.inj same
  have start : Pending.start '\n' = some ([], .nothing) := by decide
  have newline : charClass '\n' = .newline := by decide
  have ended : q.step '\n' = some (more, .nothing) := by
    have renewed : q.renew '\n' = some (more, .nothing) := by simp [Pending.renew, hq, start]
    cases q with
    | nothing =>
      obtain rfl := Option.some.inj hq
      exact start
    | quoted => cases hq
    | closed quote body =>
      have names : quote = '"' := by
        by_contra other
        obtain rfl := Option.some.inj hq
        exact literals (String.ofList body) (by simp [quotedToken, other])
      simpa [Pending.step, names] using renewed
    | spaced body =>
      obtain rfl := Option.some.inj hq
      exact absurd (List.mem_append_right done List.mem_cons_self) (literals (String.ofList body))
    | _ => simpa [Pending.step, newline] using renewed
  have line : p.run (s ++ ['\n']) = some (done ++ more, .nothing) := by
    simp [Pending.run_append, hrun, Pending.run, ended]
  rw [← Pending.finish_append line rest, List.append_assoc, List.singleton_append]

/-- lexemes without a literal that can be written -/
structure Line (ls : List Lexeme) : Prop where
  written : Lexeme.Written ls
  literals : ∀ body, .literal body ∉ Lexeme.tokens ls

/-- a line is read, then the text goes on -/
theorem Line.finish {ls : List Lexeme} (line : Line ls) (rest : List Char) :
    Pending.nothing.finish (ls.flatMap Lexeme.chars ++ '\n' :: rest) =
      (Pending.nothing.finish rest).map (Lexeme.tokens ls ++ ·) := by
  refine Pending.finish_newline ?_ line.literals rest
  have scanned := Lexeme.scan_text line.written
  rwa [scan, Lexeme.text, String.toList_ofList] at scanned

/-- a blank in front of a text -/
theorem Pending.finish_blank (rest : List Char) :
    Pending.nothing.finish (' ' :: rest) = Pending.nothing.finish rest := by
  have blank : Pending.nothing.run [' '] = some ([], .nothing) := by decide
  rw [← List.singleton_append, Pending.finish_append blank]
  simp

/-- lists of lexemes with a comma and a new line between them -/
theorem finish_lines {lss : List (List Lexeme)} (h : ∀ ls ∈ lss, Line ls) (rest : List Char) :
    Pending.nothing.finish (List.intercalate ",\n    ".toList (lss.map fun ls => ls.flatMap Lexeme.chars) ++
      '\n' :: rest) =
      (Pending.nothing.finish rest).map (List.intercalate [.comma] (lss.map Lexeme.tokens) ++ ·) := by
  induction lss with
  | nil =>
    have empty : Line [] := ⟨Lexeme.written_nil, by simp⟩
    exact empty.finish rest
  | cons ls lss ih =>
    obtain ⟨first, others⟩ := List.forall_mem_cons.mp h
    cases lss with
    | nil => simpa using first.finish rest
    | cons ms lss =>
      have comma : Line (ls ++ [.token .comma]) := by
        refine ⟨by simp [first.written], fun body => ?_⟩
        simp [first.literals body]
      have separator : ",\n    ".toList = [',', '\n', ' ', ' ', ' ', ' '] := by decide
      have next := ih others
      rw [← Pending.finish_blank, ← Pending.finish_blank, ← Pending.finish_blank, ← Pending.finish_blank] at next
      have both := comma.finish (' ' :: ' ' :: ' ' :: ' ' ::
        (List.intercalate ",\n    ".toList ((ms :: lss).map fun ls => ls.flatMap Lexeme.chars) ++ '\n' :: rest))
      rw [next, Option.map_map] at both
      simpa [List.intercalate_cons_cons, separator, Lexeme.chars, Token.chars, Function.comp_def] using both

end Sql

namespace Schema

/-! ## Reading -/

/-- whether an item is a comma outside of parentheses -/
def isComma : Item → Bool
  | .token .comma => true
  | _ => false

/-- whether an item is a word -/
def isWord : Item → Bool
  | .token (.word _) => true
  | _ => false

/-- the words outside of parentheses -/
def words (is : List Item) : List String :=
  is.filterMap fun
    | .token (.word w) => some w
    | _ => none

/-- the names outside of parentheses -/
def names (is : List Item) : List String :=
  is.filterMap fun
    | .token (.identifier n) => some n
    | _ => none

/-- the columns of the key that an entry for the whole table declares -/
def tableKey? : List Item → Option (List String)
  | .token (.word first) :: .token (.word second) :: .group columns :: _ =>
    if [first, second] = ["PRIMARY", "KEY"] then some (names columns) else none
  | _ => none

/-- the columns of the key that an entry declares; the entry of a column begins with its name -/
def key? : List Item → Option (List String)
  | .token (.identifier column) :: rest => if ["PRIMARY", "KEY"] <:+: words rest then some [column] else none
  | .token (.word "CONSTRAINT") :: .token (.identifier _) :: rest => tableKey? rest
  | rest => tableKey? rest

/-- the entries of a table definition -/
def entries? (is : List Item) : Option (List (List Item)) :=
  match is.dropWhile isWord with
  | [.token (.identifier _), .group entries] =>
    if words is = ["CREATE", "TABLE"] ∨ words is = ["CREATE", "TABLE", "IF", "NOT", "EXISTS"]
    then some (entries.splitOnP isComma) else none
  | _ => none

/-- a statement without the semicolon at its end -/
def unterminated? (text : String) : Option String :=
  if text.toList.getLast? = some ';' then some (String.ofList text.toList.dropLast) else none

/-- the columns of each primary key that a table definition declares; none if it cannot be read -/
def primaryKeys? (text : String) : Option (List (List String)) := do
  let statement ← unterminated? text
  let tokens ← scan statement
  let items ← nest [] [] tokens
  let entries ← entries? items
  return entries.filterMap key?

example : primaryKeys? "CREATE TABLE \"a\" (\"b\" INT DEFAULT (1) PRIMARY KEY,\n\"PRIMARY KEY\" TEXT);" =
    some [["b"]] := by decide +kernel

/-- the key that an entry declares -/
def Entry.key? : Entry → Option (List String)
  | column c => if c.primaryKey then some [c.name] else none
  | primaryKey columns => some columns
  | unique .. => none

/-- whether the type of a column is that of a kind of fields -/
def Entry.IsTyped : Entry → Prop
  | column c => ∃ kind : FieldKind, c.type = kind.columnType
  | _ => True

/-! ## Words -/

/-- the words of table definitions -/
def tableWords : List String :=
  ["CREATE", "TABLE", "IF", "NOT", "EXISTS", "NULL", "UNIQUE", "PRIMARY", "KEY", "CONSTRAINT", "INT", "BIGINT",
    "SMALLINT", "BIGSERIAL", "VARCHAR", "TEXT", "BOOL", "DECIMAL", "TIMESTAMPTZ", "DATE", "DOUBLE", "PRECISION",
    "JSONB", "UUID", "BYTEA"]

theorem isSound_tableWord {w : String} (h : w ∈ tableWords) : (Token.word w).isSound = true := by
  have all : ∀ w ∈ tableWords, (Token.word w).isSound = true := by decide +kernel
  exact all w h

theorem words_append (is js : List Item) : words (is ++ js) = words is ++ words js := List.filterMap_append ..

/-- words as items -/
def wordItems (ws : List String) : List Item := ws.map fun w => .token (.word w)

theorem words_wordItems (ws : List String) : words (wordItems ws) = ws := by simp [words, wordItems]

/-! ## Texts -/

/-- a text that is written with some lexemes, holds some items, and has no comma outside of parentheses -/
structure Legible (text : String) (ls : List Lexeme) (is : List Item) : Prop where
  chars : ls.flatMap Lexeme.chars = text.toList
  line : Sql.Line ls
  nests : Nests (Lexeme.tokens ls) is
  commas : ∀ i ∈ is, isComma i = false

end Schema

open Schema (Legible isSound_tableWord isComma words)

namespace FieldKind

/-- the type of a column, token by token -/
def typeLexemes : FieldKind → List Lexeme
  | char n => [word "VARCHAR", opening, .token (.number n.repr), closing]
  | decimal m p =>
    [word "DECIMAL", opening, .token (.number m.repr), .token .comma, .token (.number p.repr), closing]
  | float => [word "DOUBLE", .blank, word "PRECISION"]
  | kind => [word kind.columnType]

def typeItems : FieldKind → List Item
  | char n => [.token (.word "VARCHAR"), .group [.token (.number n.repr)]]
  | decimal m p =>
    [.token (.word "DECIMAL"), .group [.token (.number m.repr), .token .comma, .token (.number p.repr)]]
  | float => [.token (.word "DOUBLE"), .token (.word "PRECISION")]
  | kind => [.token (.word kind.columnType)]

theorem nests_type (kind : FieldKind) : Nests (Lexeme.tokens kind.typeLexemes) kind.typeItems := by
  have bounded : ∀ (w : String) (ts : List Token), (∀ t ∈ ts, t ≠ .opening ∧ t ≠ .closing) →
      Nests (.word w :: .opening :: (ts ++ [.closing])) [.token (.word w), .group (ts.map .token)] := by
    intro w ts flat
    exact .cons (by simp) (by simp) (Nests.flat flat).enclosed
  cases kind with
  | char n => exact bounded "VARCHAR" [.number n.repr] (by simp)
  | decimal m p => exact bounded "DECIMAL" [.number m.repr, .comma, .number p.repr] (by simp)
  | _ => exact Nests.flat (by simp [typeLexemes])

theorem legible_type (kind : FieldKind) : Legible kind.columnType kind.typeLexemes kind.typeItems := by
  refine ⟨?_, ⟨?_, ?_⟩, kind.nests_type, ?_⟩
  · cases kind <;> simp [typeLexemes, columnType, Lexeme.chars, Token.chars]
  · cases kind <;> simp (disch := decide) [typeLexemes, columnType, isSound_tableWord, Sql.isSound_repr]
  · cases kind <;> simp [typeLexemes]
  · cases kind <;> simp [typeItems, isComma]

theorem primary_not_mem_type (kind : FieldKind) : "PRIMARY" ∉ words kind.typeItems := by
  cases kind <;> simp [typeItems, words, columnType]

end FieldKind

namespace Schema

/-! ## Entries -/

/-- the words of the constraints of a column -/
def Column.constraintWords (c : Column) : List String :=
  (if c.notNull then ["NOT", "NULL"] else []) ++ (if c.unique then ["UNIQUE"] else [])
    ++ if c.primaryKey then ["PRIMARY", "KEY"] else []

/-- words, each behind a blank -/
def wordLexemes (ws : List String) : List Lexeme := ws.flatMap fun w => [.blank, word w]

def Column.lexemes (c : Column) (kind : FieldKind) : List Lexeme :=
  .token (.identifier c.name) :: .blank :: (kind.typeLexemes ++ wordLexemes c.constraintWords)

def Column.items (c : Column) (kind : FieldKind) : List Item :=
  .token (.identifier c.name) :: (kind.typeItems ++ wordItems c.constraintWords)

theorem tokens_wordLexemes (ws : List String) : Lexeme.tokens (wordLexemes ws) = ws.map .word := by
  induction ws with
  | nil => rfl
  | cons w ws ih => simpa [wordLexemes] using ih

theorem nests_words (ws : List String) : Nests (Lexeme.tokens (wordLexemes ws)) (wordItems ws) := by
  have flat : Nests (ws.map Token.word) ((ws.map Token.word).map .token) := Nests.flat (by simp)
  rwa [List.map_map, ← tokens_wordLexemes] at flat

theorem written_append_words {ws : List String} (h : ∀ w ∈ ws, w ∈ tableWords) {ls : List Lexeme}
    (written : Lexeme.Written ls) : Lexeme.Written (ls ++ wordLexemes ws) := by
  induction ws generalizing ls with
  | nil => simpa [wordLexemes] using written
  | cons w ws ih =>
    obtain ⟨first, others⟩ := List.forall_mem_cons.mp h
    have alone : Lexeme.Written [word w] := by simp [isSound_tableWord first]
    have both : Lexeme.Written (ls ++ .blank :: ([word w] ++ wordLexemes ws)) := by
      rw [Lexeme.written_append_gap Lexeme.isGap_blank]
      exact ⟨written, ih others alone⟩
    exact both

theorem constraintWords_subset (c : Column) : ∀ w ∈ c.constraintWords, w ∈ tableWords := by
  unfold Column.constraintWords
  cases c.notNull <;> cases c.unique <;> cases c.primaryKey <;> decide

theorem legible_column (c : Column) {kind : FieldKind} (typed : c.type = kind.columnType) :
    Legible c.text (c.lexemes kind) (c.items kind) := by
  have type := kind.legible_type
  refine ⟨?_, ⟨?_, fun body => ?_⟩, ?_, ?_⟩
  · have words : (wordLexemes c.constraintWords).flatMap Lexeme.chars =
        (if c.notNull then " NOT NULL" else "").toList ++ (if c.unique then " UNIQUE" else "").toList ++
          (if c.primaryKey then " PRIMARY KEY" else "").toList := by
      unfold Column.constraintWords
      cases c.notNull <;> cases c.unique <;> cases c.primaryKey <;> rfl
    simp [Column.lexemes, Column.text, typed, type.chars, words, Lexeme.chars, Token.chars]
  · have tail := written_append_words (constraintWords_subset c) type.line.written
    simp [Column.lexemes, tail]
  · simp [Column.lexemes, tokens_wordLexemes, type.line.literals body]
  · have rest := type.nests.append (nests_words c.constraintWords)
    simpa [Column.lexemes, Column.items] using rest.cons (t := .identifier c.name) (by simp) (by simp)
  · intro i hi
    simp only [Column.items, List.mem_cons, List.mem_append, wordItems, List.mem_map] at hi
    rcases hi with rfl | hi | ⟨w, _, rfl⟩
    · rfl
    · exact type.commas i hi
    · rfl

/-- the key is read off the words behind the type -/
theorem key_column (c : Column) (kind : FieldKind) :
    key? (c.items kind) = if c.primaryKey then some [c.name] else none := by
  have all : words (kind.typeItems ++ wordItems c.constraintWords) = words kind.typeItems ++ c.constraintWords := by
    rw [words_append, words_wordItems]
  rw [Column.items, key?, all]
  cases h : c.primaryKey with
  | true =>
    refine if_pos ?_
    rw [Column.constraintWords, h, if_pos rfl, ← List.append_assoc]
    exact (List.suffix_append _ _).isInfix
  | false =>
    refine if_neg fun found => ?_
    have mem : "PRIMARY" ∈ words kind.typeItems ++ c.constraintWords := found.subset List.mem_cons_self
    have not : "PRIMARY" ∉ c.constraintWords := by
      unfold Column.constraintWords
      cases c.notNull <;> cases c.unique <;> simp [h]
    exact (List.mem_append.mp mem).elim kind.primary_not_mem_type not

/-! ### Lists of columns -/

def listLexemes (columns : List String) : List Lexeme := opening :: (Lexeme.names columns ++ [closing])

/-- the names in a list of columns, with the commas between them -/
def listItems (columns : List String) : List Item := (Sql.RowLayout.listTokens columns).map .token

theorem chars_listLexemes (columns : List String) :
    (listLexemes columns).flatMap Lexeme.chars = ("(" ++ columnList columns ++ ")").toList := by
  have names := Lexeme.chars_names columns
  rw [Sql.identifiers, ← columnList] at names
  simp [listLexemes, names, Lexeme.chars, Token.chars]

theorem not_mem_listTokens {t : Token} (columns : List String) (comma : t ≠ .comma) (names : ∀ n, t ≠ .identifier n) :
    t ∉ Sql.RowLayout.listTokens columns := by
  refine Sql.RowLayout.not_mem_intercalate comma fun l hl => ?_
  obtain ⟨n, _, rfl⟩ := List.mem_map.mp hl
  simpa using names n

theorem tokens_names (columns : List String) :
    Lexeme.tokens (Lexeme.names columns) = Sql.RowLayout.listTokens columns :=
  Sql.RowStatement.tokens_names columns

theorem literal_not_mem_list (columns : List String) (body : String) :
    .literal body ∉ Lexeme.tokens (listLexemes columns) := by
  have listed := not_mem_listTokens (t := .literal body) columns (by simp) (by simp)
  simp [listLexemes, tokens_names, listed]

theorem nests_list (columns : List String) :
    Nests (Lexeme.tokens (listLexemes columns)) [.group (listItems columns)] := by
  have opens := not_mem_listTokens (t := .opening) columns (by simp) (by simp)
  have closes := not_mem_listTokens (t := .closing) columns (by simp) (by simp)
  have flat : ∀ t ∈ Sql.RowLayout.listTokens columns, t ≠ .opening ∧ t ≠ .closing := by
    intro t ht
    exact ⟨fun same => opens (same ▸ ht), fun same => closes (same ▸ ht)⟩
  simpa [listLexemes, listItems, tokens_names] using (Nests.flat flat).enclosed

theorem names_listItems (columns : List String) : names (listItems columns) = columns := by
  have same : ∀ ts : List Token, names (ts.map .token) = Sql.RowLayout.names ts := by
    intro ts
    rw [names, List.filterMap_map, Sql.RowLayout.names]
    refine List.filterMap_congr fun t _ => ?_
    cases t <;> rfl
  rw [listItems, same, Sql.RowLayout.names_list]

/-! ### Every entry -/

namespace Entry

theorem legible_primaryKey (columns : List String) :
    Legible (primaryKey columns).text (word "PRIMARY" :: .blank :: word "KEY" :: .blank :: listLexemes columns)
      [.token (.word "PRIMARY"), .token (.word "KEY"), .group (listItems columns)] := by
  have list := chars_listLexemes columns
  refine ⟨?_, ⟨?_, fun body => ?_⟩, ?_, ?_⟩
  · simp [text, list, Lexeme.chars, Token.chars]
  · have names := Lexeme.written_names columns
    simp (disch := decide) [listLexemes, isSound_tableWord, names]
  · simpa using literal_not_mem_list columns body
  · exact ((nests_list columns).cons (by simp) (by simp)).cons (by simp) (by simp)
  · simp [isComma]

theorem legible_unique (name : String) (columns : List String) :
    Legible (unique name columns).text
      (word "CONSTRAINT" :: .blank :: .token (.identifier name) :: .blank :: word "UNIQUE" :: .blank ::
        listLexemes columns)
      [.token (.word "CONSTRAINT"), .token (.identifier name), .token (.word "UNIQUE"),
        .group (listItems columns)] := by
  have list := chars_listLexemes columns
  refine ⟨?_, ⟨?_, fun body => ?_⟩, ?_, ?_⟩
  · simp [text, list, Lexeme.chars, Token.chars]
  · have names := Lexeme.written_names columns
    simp (disch := decide) [listLexemes, isSound_tableWord, names]
  · simpa using literal_not_mem_list columns body
  · exact (((nests_list columns).cons (by simp) (by simp)).cons (by simp) (by simp)).cons (by simp) (by simp)
  · simp [isComma]

/-- the text of an entry can be read, and its key is read off it -/
theorem legible {e : Entry} (typed : e.IsTyped) : ∃ ls is, Legible e.text ls is ∧ Schema.key? is = e.key? := by
  cases e with
  | column c =>
    obtain ⟨kind, type⟩ := typed
    exact ⟨_, _, legible_column c type, key_column c kind⟩
  | primaryKey columns =>
    refine ⟨_, _, legible_primaryKey columns, ?_⟩
    simp [Schema.key?, tableKey?, names_listItems, key?]
  | unique name columns =>
    refine ⟨_, _, legible_unique name columns, ?_⟩
    simp [Schema.key?, tableKey?, key?]

end Entry

/-! ## Table definitions -/

theorem splitOnP_commas {iss : List (List Item)} (hne : iss ≠ []) (h : ∀ is ∈ iss, ∀ i ∈ is, isComma i = false) :
    (List.intercalate [.token .comma] iss).splitOnP isComma = iss := by
  induction iss with
  | nil => exact absurd rfl hne
  | cons is iss ih =>
    obtain ⟨first, others⟩ := List.forall_mem_cons.mp h
    cases iss with
    | nil => simpa using List.splitOnP_eq_singleton first
    | cons js iss =>
      have comma : isComma (.token .comma) = true := rfl
      rw [List.intercalate_cons_cons, List.append_assoc, List.singleton_append,
        List.splitOnP_append_cons_of_forall_mem first _ comma, ih (by simp) others]

/-- the words behind the first one and in front of the name of a table -/
def guardWords (safe : Bool) : List String := "TABLE" :: if safe then ["IF", "NOT", "EXISTS"] else []

/-- the first line of a table definition -/
def headLexemes (safe : Bool) (table : String) : List Lexeme :=
  word "CREATE" :: (wordLexemes (guardWords safe) ++ [.blank, .token (.identifier table), .blank, opening])

def headItems (safe : Bool) (table : String) : List Item :=
  wordItems ("CREATE" :: guardWords safe) ++ [.token (.identifier table)]

theorem line_head (safe : Bool) (table : String) : Sql.Line (headLexemes safe table) := by
  have inside : ∀ w ∈ guardWords safe, w ∈ tableWords := by cases safe <;> decide
  have first : Lexeme.Written [word "CREATE"] := by simp (disch := decide) [isSound_tableWord]
  have words : Lexeme.Written (word "CREATE" :: wordLexemes (guardWords safe)) := written_append_words inside first
  constructor
  · rw [headLexemes, ← List.cons_append, Lexeme.written_append_gap Lexeme.isGap_blank]
    exact ⟨words, by simp⟩
  · simp [headLexemes, tokens_wordLexemes]

theorem text_createTable (safe : Bool) (table : String) (es : List Entry) :
    (Ddl.createTable safe table es).text = "CREATE TABLE " ++ guardText safe ++ Sql.identifier table ++ " (\n    "
      ++ ",\n    ".intercalate (es.map Entry.text) ++ "\n);" := rfl

/-- a table definition line by line -/
theorem toList_createTable (safe : Bool) (table : String) (es : List Entry) :
    (Ddl.createTable safe table es).text.toList = (headLexemes safe table).flatMap Lexeme.chars ++ '\n' ::
      ' ' :: ' ' :: ' ' :: ' ' :: (List.intercalate ",\n    ".toList (es.map fun e => e.text.toList) ++
        '\n' :: [')']) ++ [';'] := by
  have opens : " (\n    ".toList = [' ', '(', '\n', ' ', ' ', ' ', ' '] := by decide
  have closes : "\n);".toList = ['\n', ')', ';'] := by decide
  have words : "CREATE TABLE ".toList ++ (guardText safe).toList =
      (word "CREATE" :: wordLexemes (guardWords safe)).flatMap Lexeme.chars ++ [' '] := by cases safe <;> rfl
  have head : (headLexemes safe table).flatMap Lexeme.chars =
      "CREATE TABLE ".toList ++ (guardText safe).toList ++ (Sql.identifier table).toList ++ [' ', '('] := by
    rw [words]
    simp [headLexemes, Lexeme.chars, Token.chars]
  rw [text_createTable, String.toList_append, String.toList_append, String.toList_append, String.toList_append,
    String.toList_append, String.toList_intercalate, List.map_map, head, opens, closes]
  simp only [List.append_assoc, List.cons_append, List.nil_append, Function.comp_def]

theorem nests_head (safe : Bool) (table : String) :
    Nests (.word "CREATE" :: ((guardWords safe).map .word ++ [.identifier table])) (headItems safe table) := by
  have flat : ∀ t ∈ ("CREATE" :: guardWords safe).map Token.word ++ [.identifier table],
      t ≠ .opening ∧ t ≠ .closing := by
    intro t ht
    rcases List.mem_append.mp ht with ht | ht
    · obtain ⟨w, _, rfl⟩ := List.mem_map.mp ht
      simp
    · obtain rfl := List.mem_singleton.mp ht
      simp
  have nests := Nests.flat flat
  rwa [List.map_append, List.map_map] at nests

theorem words_headItems (safe : Bool) (table : String) (is : List Item) :
    words (headItems safe table ++ [.group is]) = "CREATE" :: guardWords safe := by
  rw [headItems, words_append, words_append, words_wordItems]
  simp [words]

/-- the entries are what stands between the commas -/
theorem entries_items (safe : Bool) (table : String) {iss : List (List Item)} (hne : iss ≠ [])
    (h : ∀ is ∈ iss, ∀ i ∈ is, isComma i = false) :
    entries? (headItems safe table ++ [.group (List.intercalate [.token .comma] iss)]) = some iss := by
  have front : ∀ i ∈ wordItems ("CREATE" :: guardWords safe), isWord i = true := by
    intro i hi
    obtain ⟨w, _, rfl⟩ := List.mem_map.mp hi
    rfl
  have known : "CREATE" :: guardWords safe = ["CREATE", "TABLE"] ∨
      "CREATE" :: guardWords safe = ["CREATE", "TABLE", "IF", "NOT", "EXISTS"] := by cases safe <;> decide
  have behind : (headItems safe table ++ [Item.group (List.intercalate [.token .comma] iss)]).dropWhile isWord =
      [.token (.identifier table), .group (List.intercalate [.token .comma] iss)] := by
    rw [headItems, List.append_assoc, List.dropWhile_append_of_pos front]
    simp [isWord]
  rw [entries?, behind]
  simp only [words_headItems]
  rw [if_pos known, splitOnP_commas hne h]

section Definition

variable (safe : Bool) (table : String) {es : List Entry} {lexemes : Entry → List Lexeme} {items : Entry → List Item}
  (legible : ∀ e ∈ es, Legible e.text (lexemes e) (items e))

include legible

/-- the tokens of a table definition, up to its semicolon -/
theorem finish_createTable : Sql.Pending.nothing.finish (Ddl.createTable safe table es).text.toList.dropLast =
    some (Lexeme.tokens (headLexemes safe table) ++ (List.intercalate [.comma] ((es.map lexemes).map Lexeme.tokens) ++
      [.closing])) := by
  have lines : ∀ ls ∈ es.map lexemes, Sql.Line ls := by
    intro ls hl
    obtain ⟨e, he, rfl⟩ := List.mem_map.mp hl
    exact (legible e he).line
  have chars : (es.map lexemes).map (fun ls => ls.flatMap Lexeme.chars) = es.map fun e => e.text.toList := by
    rw [List.map_map]
    exact List.map_congr_left fun e he => (legible e he).chars
  have last : Sql.Pending.nothing.finish [')'] = some [.closing] := by decide
  rw [toList_createTable, List.dropLast_concat, (line_head safe table).finish, Sql.Pending.finish_blank,
    Sql.Pending.finish_blank, Sql.Pending.finish_blank, Sql.Pending.finish_blank, ← chars, Sql.finish_lines lines, last]
  rfl

/-- the items of a table definition -/
theorem nests_createTable : Nests (Lexeme.tokens (headLexemes safe table) ++
    (List.intercalate [.comma] ((es.map lexemes).map Lexeme.tokens) ++ [.closing]))
    (headItems safe table ++ [.group (List.intercalate [.token .comma] (es.map items))]) := by
  have comma : Nests [.comma] [.token .comma] := Nests.token (by simp) (by simp)
  have inner := comma.intercalate (fun e => Lexeme.tokens (lexemes e)) items es fun e he => (legible e he).nests
  have whole := (nests_head safe table).append inner.enclosed
  simpa [headLexemes, tokens_wordLexemes, Function.comp_def] using whole

/-- the items of entries have no comma outside of parentheses -/
theorem commas_createTable : ∀ is ∈ es.map items, ∀ i ∈ is, isComma i = false := by
  intro is hi
  obtain ⟨e, he, rfl⟩ := List.mem_map.mp hi
  exact (legible e he).commas

end Definition

/-- **The keys that a table definition declares are read off its text.** -/
theorem primaryKeys_text (safe : Bool) (table : String) {es : List Entry} (typed : ∀ e ∈ es, e.IsTyped) :
    primaryKeys? (Ddl.createTable safe table es).text = some (es.filterMap Entry.key?) := by
  choose! lexemes items legible reads using fun e he => Entry.legible (typed e he)
  have scanned := finish_createTable safe table legible
  have nested := nests_createTable safe table legible
  have read : ∃ iss, entries? (headItems safe table ++ [.group (List.intercalate [.token .comma] (es.map items))]) =
      some iss ∧ iss.filterMap Schema.key? = es.filterMap Entry.key? := by
    by_cases none : es = []
    · subst none
      have nothing : ∀ is ∈ [([] : List Item)], ∀ i ∈ is, isComma i = false := by simp
      exact ⟨[[]], entries_items safe table (by simp) nothing, rfl⟩
    · have entries := entries_items safe table (by simpa using none) (commas_createTable legible)
      refine ⟨es.map items, entries, ?_⟩
      rw [List.filterMap_map]
      exact List.filterMap_congr reads
  obtain ⟨iss, entries, keys⟩ := read
  have body : unterminated? (Ddl.createTable safe table es).text =
      some (String.ofList (Ddl.createTable safe table es).text.toList.dropLast) := by
    refine if_pos ?_
    rw [toList_createTable, List.getLast?_concat]
  rw [primaryKeys?, body, Option.bind_eq_bind, Option.bind_some, scan, String.toList_ofList, scanned,
    Option.bind_eq_bind, Option.bind_some, nested.nest_eq, Option.bind_eq_bind, Option.bind_some, entries]
  exact congrArg some keys

end Schema

end Tabula
