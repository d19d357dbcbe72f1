import Tabula.Model.Draft
import Tabula.Proofs.Instance.Arising
import Tabula.Proofs.Instance.ReadBack
/-!
# Values that are the fields' own

A value comes into an instance by five ways: from the default of its field, from the program, from a row, from what an
insertion returns, and from the automatic step.  All but the first convert it to what its field leaves as it is.
`Arises.each` is the induction over these ways for any relation of fields to values; `holds_own` draws from it
that a value which is not its field's own is a default, held as it was declared.
-/

namespace Tabula

open Instance (Arises)

/-- what the automatic step fills in is the field's own -/
theorem Field.accept_automatic {f : Field} {now : Instant} {current v : Value} {persisted : Bool}
    (h : f.automatic now current persisted = .ok (some v)) : f.accept v = .ok v := by
  refine accept_of_owns ?_
  unfold automatic at h
  split at h
  case h_1 kind =>
    obtain ⟨w, next, same⟩ := Outcome.map_ok.mp h
    obtain rfl := Option.some.inj same
    unfold nextVersion at next
    simp only at next
    split at next
    · rw [kind, ← Except.ok.inj next]
      rfl
    · cases next
  case h_2 kind =>
    rw [kind, ← Option.some.inj (Except.ok.inj h)]
    rfl
  case h_3 kind =>
    have filled := Except.ok.inj h
    split at filled
    · rw [kind, ← Option.some.inj filled]
      rfl
    · cases filled
  case h_4 => cases h

namespace Instance

variable {models : Nat → Model} {may : Instance → String → Prop} {q : Field → Value → Prop} {i j : Instance}

/-- whether a relation holds between each field and the value there -/
def Each (q : Field → Value → Prop) (i : Instance) : Prop :=
  ∀ (p : Nat) (f : Field), i.model.fields[p]? = some f → q f (i.valueAt p)

/-! ## Values at positions -/

theorem valueAt_new {e : Entity} {draw : Nat → Nat} {p : Nat} {f : Field} (hf : e.model.fields[p]? = some f) :
    (new e draw).valueAt p = f.initial (draw p) := by
  refine valueAt_of_getElem ?_
  rw [new, List.getElem?_mapIdx, hf]
  rfl

theorem Each.withAt (h : i.Each q) {p : Nat} {v : Value} (new : ∀ f, i.model.fields[p]? = some f → q f v) :
    (i.withAt p v).Each q := by
  intro p' f hf
  rcases i.valueAt_withAt_cases p p' v with kept | ⟨rfl, set⟩
  · rw [kept]
    exact h p' f hf
  · rw [set]
    exact new f hf

/-- what is filled in at a position is what the automatic step makes there -/
theorem fillAt_of_mem {now : Instant} {ps : List Nat} {filled : List (Nat × Value)}
    (h : i.automaticValues now ps = .ok filled) {p : Nat} {v : Value} (there : (p, v) ∈ filled) :
    i.fillAt now p = .ok (some v) := by
  obtain ⟨_, again, mem⟩ := automaticValues_ok (exists_fillAt_of_automaticValues h)
  obtain rfl := Except.ok.inj (h.symm.trans again)
  exact ((mem p v).mp there).2

theorem Each.foldl (h : i.Each q) {pairs : List (Nat × Value)}
    (new : ∀ p v, (p, v) ∈ pairs → ∀ f, i.model.fields[p]? = some f → q f v) :
    (pairs.foldl (fun i v => i.withAt v.1 v.2) i).Each q := by
  induction pairs generalizing i with
  | nil => exact h
  | cons pair rest ih =>
    have first : (i.withAt pair.1 pair.2).Each q := h.withAt (new pair.1 pair.2 List.mem_cons_self)
    exact ih first fun p v later => new p v (List.mem_cons_of_mem _ later)

/-! ## What fields convert -/

section

variable (accepted : ∀ (f : Field) (x v : Value), f.accept x = .ok v → q f v)

include accepted

theorem Each.set (h : i.Each q) {name : String} {v : Value} (sets : i.set name v = .ok j) : j.Each q := by
  obtain ⟨p, f, w, _, hf, converted, rfl, _⟩ := set_ok sets
  refine h.withAt fun g hg => ?_
  obtain rfl := Option.some.inj (hf.symm.trans hg)
  exact accepted f v w converted

theorem Each.filledIn (h : i.Each q) {now : Instant} (fills : i.filledIn now = .ok j) : j.Each q := by
  obtain ⟨filled, given, made⟩ := Outcome.bind_ok.mp fills
  obtain rfl := Outcome.pure_ok.mp made
  refine h.foldl fun p v there f hf => ?_
  have automatic := fillAt_of_mem given there
  rw [fillAt, hf] at automatic
  exact accepted f v v (Field.accept_automatic automatic)

theorem Each.readBack (h : i.Each q) (cells : List Value) (positions : List Nat) :
    (Mapper.readBack i cells positions).2.Each q := by
  induction positions generalizing i cells with
  | nil => exact h
  | cons p rest ih =>
    unfold Mapper.readBack
    split
    · exact ih h _
    · next f hf =>
      split
      · exact h
      · next v read =>
        refine ih (h.withAt fun g hg => ?_) _
        obtain rfl := Option.some.inj (hf.symm.trans hg)
        exact accepted f _ v read

theorem each_ofRow {e : Entity} {database : String} {raw : List Value} (made : ofRow e database raw = .ok i) : i.Each q := by
  intro p f hf
  have isOf := isOf_ofRow made
  have inside : p < i.values.length := by
    rw [isOf.length, ← isOf.entity]
    exact (List.getElem?_eq_some_iff.mp hf).1
  have value := List.getElem?_eq_getElem inside
  obtain ⟨x, read⟩ := settled_ofRow made p f _ hf value
  rw [valueAt_of_getElem value]
  exact accepted f x _ read

/-- **What holds of the defaults and of all that fields convert holds of every value.** -/
theorem Arises.each (h : i.Arises models may)
    (starts : ∀ number, ∀ f ∈ (models number).fields, ∀ draw, q f (f.initial draw)) : i.Each q := by
  induction h with
  | new number draw =>
    intro p f hf
    have value : (Instance.new ⟨number, models number⟩ draw).valueAt p = f.initial (draw p) := valueAt_new hf
    exact value ▸ starts number f (List.mem_of_getElem? hf) (draw p)
  | loaded _ made => exact each_ofRow accepted made
  | routedTo _ _ ih => exact ih
  | set _ _ sets ih => exact ih.set accepted sets
  | @inserted _ filled _ _ cells positions _ fills reads _ ih =>
    have read := (ih.filledIn accepted fills).readBack accepted cells positions
    rw [reads] at read
    exact read
  | @updated i filled _ _ _ _ prepares ih =>
    have written : filled.Each q := by
      unfold prepared at prepares
      split at prepares
      · exact Except.ok.inj prepares ▸ ih
      · exact ih.filledIn accepted prepares
    exact written
  | forgotten _ ih => exact ih
  | @refreshed i fresh _ _ _ made ih =>
    -- the instance keeps its entity, and the row was read as one of that
    have own : i.model = fresh.model := congrArg Entity.model (isOf_ofRow made).entity.symm
    intro p f hf
    have read : q f (fresh.valueAt p) := each_ofRow accepted made p f (own ▸ hf)
    exact read

end

end Instance

/-- **What is not a field's own is its default.**  In every instance that a program may come to hold, a field leaves its
value as it is, or the value is the default that the field gave the new instance.  So all values in all such instances
are their fields' own just if all defaults of the models are. -/
theorem Held.holds_own (models : Nat → Model) :
    (∀ r held, Held models r held → ∀ i ∈ held, ∀ (p : Nat) (f : Field), i.model.fields[p]? = some f →
      f.accept (i.valueAt p) = .ok (i.valueAt p) ∨ ∃ draw, i.valueAt p = f.initial draw) ∧
    ((∀ r held, Held models r held → ∀ i ∈ held, ∀ (p : Nat) (f : Field), i.model.fields[p]? = some f →
        f.accept (i.valueAt p) = .ok (i.valueAt p)) ↔
      ∀ number, ∀ f ∈ (models number).fields, ∀ draw, f.accept (f.initial draw) = .ok (f.initial draw)) := by
  refine ⟨fun r held h i hi => ?_, fun own number f hf draw => ?_, fun own r held h i hi => ?_⟩
  · exact (h.tended.arises.2 i hi).each (q := fun f v => f.accept v = .ok v ∨ ∃ draw, v = f.initial draw)
      (fun _ _ _ converted => .inl (Field.accept_accept converted)) fun _ _ _ draw => .inr ⟨draw, rfl⟩
  · -- an instance that is new holds its defaults
    obtain ⟨p, hp⟩ := List.mem_iff_getElem?.mp hf
    let step : Handling := .new number fun _ => draw
    have start : Held models _ [] := .start []
    have nothing : ∀ i ∈ step.operands, i ∈ ([] : List Instance) := nofun
    have held := start.handle nothing trivial (Dialogue.says_run Instance.withoutRows () (step.run models [] _))
    have value : (Instance.new ⟨number, models number⟩ fun _ => draw).valueAt p = f.initial draw :=
      Instance.valueAt_new hp
    exact value ▸ own _ _ held _ List.mem_cons_self p f hp
  · exact (h.tended.arises.2 i hi).each (q := fun f v => f.accept v = .ok v)
      (fun _ _ _ converted => Field.accept_accept converted) own

/-- items with a size whose default is declared as a text -/
def textSized : Model where
  name := "Item"
  table := "item"
  database := defaultDatabase
  isAbstract := false
  description := none
  uniqueTogether := []
  indexes := []
  fields := [(Field.new "id" .bigInt).asKey, (Field.new "size" .int).withDefault (.value (.string "5"))]
  key := [0]

/-- an item that is made with its key alone -/
def textSizedItem : Instance := { entity := ⟨0, textSized⟩, values := [.int 1, .string "5"] }

/-- **A default is held as it was declared**: an item whose size has a text as its default holds the text, as long as it
is new and also once the number has been written to its row; the same text is converted where it is assigned. -/
theorem Held.keeps_text_default : ∃ saved t r r', (∃ d : Draft, d.build = .ok textSized) ∧
    Held (fun _ => textSized) r [textSizedItem] ∧ textSizedItem.get "size" = .ok (.string "5") ∧
    (textSizedItem.set "size" (.string "5") >>= fun assigned => assigned.get "size") = .ok (.int 5) ∧
    (textSizedItem.save [] ⟨0, 0⟩ r).Says t ((.ok (), saved), r') ∧
    t.map (fun x => x.question) = [.execute ⟨defaultDatabase, 0⟩ none
      "INSERT INTO \"item\" (\"id\", \"size\") VALUES ($1, $2)" [.int 1, .int 5]] ∧
    Held (fun _ => textSized) r' [saved, textSizedItem] ∧ saved.get "size" = .ok (.string "5") := by
  let make : Handling := .ofPairs 0 (fun _ => 0) [("id", .int 1)]
  let save : Handling := .save textSizedItem ⟨0, 0⟩ {}
  have built : ∃ d : Draft, d.build = .ok textSized := ⟨{ name := "Item", fields := textSized.fields }, rfl⟩
  have start : Held (fun _ => textSized) _ [] := .start [⟨defaultDatabase, 0⟩]
  have nothing : ∀ i ∈ make.operands, i ∈ ([] : List Instance) := nofun
  have made : Held (fun _ => textSized) _ ([textSizedItem] ++ []) :=
    start.handle nothing trivial (Dialogue.says_run Instance.withoutRows () (make.run _ [] _))
  have new : ∀ i ∈ save.operands, i ∈ [textSizedItem] ++ [] := fun _ hi => hi
  have stored : Held (fun _ => textSized) _ ([textSizedItem.storedIn defaultDatabase] ++ ([textSizedItem] ++ [])) :=
    made.handle new trivial (Dialogue.says_run Instance.withoutRows () (save.run _ [] _))
  have said := Dialogue.says_run Instance.withoutRows ()
    (textSizedItem.save [] ⟨0, 0⟩ (.ofDatabases [⟨defaultDatabase, 0⟩]))
  exact ⟨textSizedItem.storedIn defaultDatabase, _, _, _, built, made, rfl, rfl, said, rfl, stored, rfl⟩

end Tabula
