import Mathlib.Data.List.Basic
import Tabula.Proofs.Postgres.Statement
/-!
# What a server keeps of a connection's statements

`Session` is the server's side of one connection: what has taken effect for good, and what a transaction that is open
would add to it.  Outside transactions each statement takes effect by itself.  Once a statement is refused inside a
transaction the transaction is aborted: `COMMIT` then takes everything back that was carried out in it, and still
succeeds.
-/

namespace Tabula.Postgres

/-- whether the server refused a request; one that nobody waited for is carried out -/
def Awaited.isRefused {α : Type} : Awaited α → Bool
  | .arrived (.error _) => true
  | .arrived (.ok _) | .dropped => false

/-- a statement with its parameters -/
abbrev Deed := String × List Cell

/-- what comes to the server on a connection, and whether it is refused -/
inductive Heard where
  | prepared (refused : Bool)
  | ran (statement : String) (parameters : List Cell) (refused : Bool)
  /-- the connection was closed -/
  | shut
  deriving DecidableEq

namespace Heard

def isRefused : Heard → Bool
  | prepared refused | ran _ _ refused => refused
  | shut => false

/-- the statement that was carried out -/
def deed? : Heard → Option Deed
  | ran statement parameters false => some (statement, parameters)
  | _ => none

/-- whether it neither opens nor ends a transaction -/
def Plain (commands : Commands) : Heard → Prop
  | prepared _ => True
  | ran statement _ _ => commands.of statement = none
  | shut => False

/-- whether it belongs to a statement -/
def Of (statement : String) : Heard → Prop
  | prepared _ => True
  | ran text _ _ => text = statement
  | shut => False

theorem Of.plain {commands : Commands} {statement : String} {h : Heard} (of : h.Of statement)
    (plain : commands.of statement = none) : h.Plain commands := by
  cases h with
  | prepared refused => trivial
  | ran text parameters refused =>
    obtain rfl : text = statement := of
    exact plain
  | shut => exact of.elim

/-- a transaction was opened -/
def begun : Heard := .ran "BEGIN" [] false

/-- a transaction was ended, and the server reported success -/
def committed : Heard := .ran "COMMIT" [] false

end Heard

/-- what an answered request means on a connection; nothing if it is not for this connection -/
def heard? (c : Nat) : Reply → Option Heard
  | ⟨.prepare x _, answer⟩ => if x = c then some (.prepared (Awaited.isRefused (α := Prepared) answer)) else none
  | ⟨.execute x statement cells, answer⟩ =>
    if x = c then some (.ran statement cells (Awaited.isRefused (α := Nat) answer)) else none
  | ⟨.fetch x statement cells, answer⟩ =>
    if x = c then some (.ran statement cells (Awaited.isRefused (α := List (List Cell)) answer)) else none
  | ⟨.batch x text, answer⟩ => if x = c then some (.ran text [] (Awaited.isRefused (α := Unit) answer)) else none
  | ⟨.shut x, _⟩ => if x = c then some .shut else none
  | _ => none

/-- what comes to the server on a connection in the course of some requests -/
def hear (c : Nat) (t : List Reply) : List Heard := t.filterMap (heard? c)

theorem hear_cons {c : Nat} {x : Reply} {t : List Reply} : hear c (x :: t) = (heard? c x).toList ++ hear c t := by
  simp only [hear, List.filterMap_eq_flatMap_toList, List.flatMap_cons]

theorem hear_append {c : Nat} {t t' : List Reply} : hear c (t ++ t') = hear c t ++ hear c t' :=
  List.filterMap_append

/-! ## Sessions -/

/-- a transaction that is open -/
structure Block where
  /-- what was carried out in it -/
  deeds : List Deed := []
  /-- whether a statement in it was refused -/
  aborted : Bool := false
  deriving DecidableEq

/-- the server's side of a connection -/
structure Session where
  /-- what has taken effect for good -/
  lasting : List Deed := []
  block : Option Block := none
  deriving DecidableEq

namespace Session

/-- after a statement was refused -/
def refused (s : Session) : Session :=
  match s.block with
  | none => s
  | some b => { s with block := some { b with aborted := true } }

/-- after a statement was carried out -/
def did (s : Session) (deed : Deed) : Session :=
  match s.block with
  | none => { s with lasting := s.lasting ++ [deed] }
  | some b => { s with block := some { b with deeds := b.deeds ++ [deed] } }

/-- after a transaction was opened; inside one nothing changes -/
def opened (s : Session) : Session :=
  match s.block with
  | none => { s with block := some {} }
  | some _ => s

/-- after the open transaction was taken back -/
def takenBack (s : Session) : Session := { s with block := none }

/-- after a successful `COMMIT` -/
def ended (s : Session) : Session :=
  match s.block with
  | none => s
  | some b => if b.aborted then s.takenBack else ⟨s.lasting ++ b.deeds, none⟩

/-- the session goes on -/
def after (commands : Commands) (s : Session) : Heard → Session
  | .prepared refused => if refused then s.refused else s
  | .ran statement parameters refused =>
    match commands.of statement, refused with
    | none, false => s.did (statement, parameters)
    | some .opens, false => s.opened
    | some .commits, false => s.ended
    | some .commits, true | some .rollsBack, false => s.takenBack
    | none, true | some .opens, true | some .rollsBack, true => s.refused
  | .shut => s.takenBack

/-- the session of a connection that was outside transactions -/
def of (commands : Commands) (heard : List Heard) : Session := heard.foldl (after commands) {}

variable {commands : Commands} {lasting : List Deed} {b : Block}

/-- one plain statement in a transaction -/
theorem after_plain {h : Heard} (plain : h.Plain commands) :
    after commands ⟨lasting, some b⟩ h =
      ⟨lasting, some ⟨b.deeds ++ h.deed?.toList, b.aborted || h.isRefused⟩⟩ := by
  cases h with
  | prepared refused => cases refused <;> simp [after, Session.refused, Heard.deed?, Heard.isRefused]
  | ran statement parameters refused =>
    have none : commands.of statement = none := plain
    cases refused <;> simp [after, none, Session.refused, did, Heard.deed?, Heard.isRefused]
  | shut => exact plain.elim

/-- plain statements in a transaction -/
theorem foldl_plain {heard : List Heard} (plain : ∀ h ∈ heard, h.Plain commands) :
    heard.foldl (after commands) ⟨lasting, some b⟩ =
      ⟨lasting, some ⟨b.deeds ++ heard.filterMap Heard.deed?, b.aborted || heard.any Heard.isRefused⟩⟩ := by
  induction heard generalizing b with
  | nil => simp
  | cons h rest ih =>
    obtain ⟨first, others⟩ := List.forall_mem_cons.mp plain
    rw [List.foldl_cons, after_plain first, ih others]
    simp only [List.filterMap_eq_flatMap_toList, List.flatMap_cons, List.any_cons, List.append_assoc, Bool.or_assoc]

/-- **A transaction takes effect as a whole, unless a statement in it was refused.** -/
theorem of_transaction {inner : List Heard} (plain : ∀ h ∈ inner, h.Plain commands) :
    of commands (.begun :: (inner ++ [.committed])) =
      ⟨if inner.any Heard.isRefused then [] else inner.filterMap Heard.deed?, none⟩ := by
  have opens : after commands {} .begun = ⟨[], some {}⟩ := by simp [after, Heard.begun, commands.begin_, opened]
  rw [of, List.foldl_cons, opens, List.foldl_append, foldl_plain plain]
  simp only [List.foldl_cons, List.foldl_nil, after, Heard.committed, commands.commit, ended, List.nil_append,
    Bool.false_or, takenBack]
  split <;> rfl

end Session

/-! ## Listening -/

/-- listens to what comes to the server on a connection while new connections get certain numbers -/
def listen (c : Nat) (new : Nat → Prop) : Dialogue.Monitor Request Request.Answer (List Heard) where
  after l x := l ++ (heard? c x).toList
  admits _ x := ∀ n, given? x = some n → new n

variable {c x : Nat} {new : Nat → Prop} {l : List Heard} {t : List Reply} {statement : String}

theorem foldl_listen : t.foldl (listen c new).after l = l ++ hear c t := by
  induction t generalizing l with
  | nil => exact (List.append_nil l).symm
  | cons y rest ih =>
    rw [List.foldl_cons, ih, hear_cons, ← List.append_assoc]
    rfl

theorem listen_admits (h : ∀ y ∈ t, ∀ n, given? y = some n → new n) : (listen c new).Admits l t := by
  induction t generalizing l with
  | nil => trivial
  | cons y rest ih =>
    obtain ⟨first, others⟩ := List.forall_mem_cons.mp h
    exact ⟨first, ih others⟩

/-- what holds of what is heard while an engine works, where new connections are as they should be -/
theorem heard_of_holds {α : Type} {x : Postgres.Task α} {p : α → Engine → List Heard → Prop} {e e' : Engine} {a : α}
    (h : (listen c new).Holds x p e []) (said : (x.run e).Says t (a, e'))
    (given : ∀ y ∈ t, ∀ n, given? y = some n → new n) : p a e' (hear c t) := by
  have holds := h.afterwards said (listen_admits given)
  rwa [foldl_listen, List.nil_append] at holds

/-- what an answered request for a statement means on its connection -/
theorem heard_of_spoken {r : Request} (answer : r.Answer) (spoken : r.spoken? = some (x, statement)) :
    ∃ h, h.Of statement ∧ heard? c ⟨r, answer⟩ = if x = c then some h else none := by
  cases r <;> cases spoken
  · exact ⟨.prepared _, trivial, rfl⟩
  · exact ⟨.ran statement _ _, rfl, rfl⟩
  · exact ⟨.ran statement _ _, rfl, rfl⟩
  · exact ⟨.ran statement [] _, rfl, rfl⟩

/-- statements on other connections are not heard -/
theorem listen_allows_of_ne (other : x ≠ c) : (listen c new).Allows (· = l) True x statement := by
  rintro r _ answer spoken rfl _
  obtain ⟨h, _, heard⟩ := heard_of_spoken (c := c) answer spoken
  rw [if_neg other] at heard
  refine ⟨?_, fun _ => trivial⟩
  simp only [listen, heard, Option.toList_none, List.append_nil]

/-- a statement on the connection is heard as such -/
theorem listen_allows {p : Heard → Prop} (fits : ∀ h : Heard, h.Of statement → p h) :
    (listen c new).Allows (fun l' => ∃ more, l' = l ++ more ∧ ∀ h ∈ more, p h) True c statement := by
  rintro r _ answer spoken ⟨more, rfl, fit⟩ _
  obtain ⟨h, of, heard⟩ := heard_of_spoken (c := c) answer spoken
  rw [if_pos rfl] at heard
  refine ⟨⟨more ++ [h], ?_, fun h' mem => ?_⟩, fun _ => trivial⟩
  · simp only [listen, heard, Option.toList_some, List.append_assoc]
  · rcases List.mem_append.mp mem with mem | mem
    · exact fit h' mem
    · exact List.mem_singleton.mp mem ▸ fits h of

end Tabula.Postgres
