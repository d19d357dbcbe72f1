import Tabula.Proofs.Query.Meaning
/-!
# Placeholders and parameters

A compiled statement binds a value for each column that it sets and for each pair that is no null check, in the order
in which these stand in its text.  `Compilation.result_placed` says so of everything that can be compiled.
-/

namespace Tabula

open Sql (Condition Framed Lexeme Operand Reading Statement Token)

/-! ## Sites -/

/-- a piece of a statement that can bind a value -/
structure Site where
  text : String
  /-- the value that it binds, if it does -/
  value : Option Value

namespace Site

/-- the values of sites, in their order, when their placeholders are numbered one by one from `first` on: a site with a
value holds the placeholder of this value alone, one without holds none -/
inductive Numbered : Nat → List Site → List Value → Prop where
  | nil {first : Nat} : Numbered first [] []
  | check {first : Nat} {s : Site} {sites : List Site} {vs : List Value} (value : s.value = none)
    (own : Sql.placeholdersIn s.text = some []) (rest : Numbered first sites vs) : Numbered first (s :: sites) vs
  | value {first : Nat} {s : Site} {sites : List Site} {v : Value} {vs : List Value} (value : s.value = some v)
    (own : Sql.placeholdersIn s.text = some [first]) (rest : Numbered (first + 1) sites vs) :
    Numbered first (s :: sites) (v :: vs)

namespace Numbered

theorem append {first : Nat} {ss ts : List Site} {vs ws : List Value} (h : Numbered first ss vs)
    (h' : Numbered (first + vs.length) ts ws) : Numbered first (ss ++ ts) (vs ++ ws) := by
  induction h with
  | nil => exact h'
  | check value own _ ih => exact .check value own (ih h')
  | value value own _ ih =>
    refine .value value own (ih ?_)
    rwa [List.length_cons, Nat.add_comm _ 1, ← Nat.add_assoc] at h'

theorem values {first : Nat} {sites : List Site} {vs : List Value} (h : Numbered first sites vs) :
    vs = sites.filterMap Site.value := by
  induction h with
  | nil => rfl
  | check value _ _ ih => rw [List.filterMap_cons_none value, ih]
  | value value _ _ ih => rw [List.filterMap_cons_some value, ← ih]

/-- the placeholders of all sites together -/
theorem placeholders {first : Nat} {sites : List Site} {vs : List Value} (h : Numbered first sites vs)
    {parts : List (List Token)} (hp : sites.map (fun s => Sql.scan s.text) = parts.map some) :
    Sql.placeholderNumbers parts.flatten = List.range' first vs.length := by
  induction h generalizing parts with
  | nil =>
    obtain rfl := List.map_eq_nil_iff.mp hp.symm
    rfl
  | check value own _ ih =>
    obtain ⟨ts, rest, rfl⟩ : ∃ ts rest, parts = ts :: rest := by
      cases parts <;> simp_all
    rw [List.map_cons, List.map_cons, List.cons.injEq] at hp
    rw [Sql.placeholdersIn, hp.1, Option.map_some, Option.some.injEq] at own
    rw [List.flatten_cons, Sql.placeholderNumbers_append, own, ih hp.2, List.nil_append]
  | value value own _ ih =>
    obtain ⟨ts, rest, rfl⟩ : ∃ ts rest, parts = ts :: rest := by
      cases parts <;> simp_all
    rw [List.map_cons, List.map_cons, List.cons.injEq] at hp
    rw [Sql.placeholdersIn, hp.1, Option.map_some, Option.some.injEq] at own
    rw [List.flatten_cons, Sql.placeholderNumbers_append, own, ih hp.2, List.length_cons, List.range'_succ,
      List.singleton_append]

end Numbered

end Site

/-! ## The sites of pairs -/

namespace Model

/-- what the site of a pair binds: the encoded argument, or nothing for a null check -/
def BindsPair (m : Model) (pair : String × Value) (s : Site) : Prop :=
  if m.isNullCheck pair.1 pair.2 then s.value = none
  else ∃ v, m.encoded pair.1 pair.2 = .ok v ∧ s.value = some v

theorem conditions_sites {m : Model} {pairs : List (String × Value)} {ps qs : List Value}
    {leaves : List (Condition Operand)} (h : (m.conditions pairs).runWith ps = (.ok leaves, qs)) :
    ∃ sites bound, qs = ps ++ bound ∧ Site.Numbered (ps.length + 1) sites bound ∧
      sites.map Site.text = leaves.map (Condition.text Operand.text) ∧ List.Forall₂ m.BindsPair pairs sites := by
  induction pairs generalizing ps leaves with
  | nil =>
    simp only [conditions, Binding.runWith_pure, Prod.mk.injEq, Except.ok.injEq] at h
    obtain ⟨rfl, rfl⟩ := h
    exact ⟨[], [], by simp, .nil, rfl, .nil⟩
  | cons p rest ih =>
    obtain ⟨c, ds, rs, hc, hd, rfl⟩ := conditions_cons_ok h
    obtain ⟨sites, bound, rfl, numbered, texts, binds⟩ := ih hd
    have own := c.placeholdersIn_text
    have gives := condition_ok hc
    generalize hb : m.isNullCheck p.1 p.2 = check at gives
    cases gives with
    | check full parameters =>
      refine ⟨⟨c.text Operand.text, none⟩ :: sites, bound, rfl, ?_, by rw [List.map_cons, texts]; rfl, .cons ?_ binds⟩
      · exact .check rfl (parameters ▸ own) numbered
      · simp [BindsPair, hb]
    | @value v _ known full parameters =>
      refine ⟨⟨c.text Operand.text, some v⟩ :: sites, v :: bound, by simp, ?_, by rw [List.map_cons, texts]; rfl,
        .cons ?_ binds⟩
      · exact .value rfl (parameters ▸ own) (by simpa using numbered)
      · simp [BindsPair, hb, known]

/-- pairs bind as many values as there are pairs that are no null checks -/
theorem length_of_bindsPair {m : Model} {pairs : List (String × Value)} {sites : List Site}
    (h : List.Forall₂ m.BindsPair pairs sites) :
    (sites.filterMap Site.value).length = pairs.countP fun p => !m.isNullCheck p.1 p.2 := by
  induction h with
  | nil => rfl
  | @cons p s pairs sites hp _ ih =>
    cases hb : m.isNullCheck p.1 p.2 with
    | true =>
      have none : s.value = none := by simpa [BindsPair, hb] using hp
      simp [none, hb, ih]
    | false =>
      obtain ⟨v, _, hv⟩ : ∃ v, m.encoded p.1 p.2 = .ok v ∧ s.value = some v := by simpa [BindsPair, hb] using hp
      simp [hv, hb, ih]

/-- the sites of columns that are set, their placeholders numbered from `first` on -/
def assignmentSites (m : Model) (first : Nat) (assigned : List (Nat × Value)) : List Site :=
  (assigned.zipIdx first).map fun (a, n) => ⟨Sql.assignmentText (m.column a.1, n), some a.2⟩

theorem assign_ok {m : Model} {assigned : List (Nat × Value)} {ps qs : List Value} {sets : List (String × Nat)}
    (h : (m.assign assigned).runWith ps = (.ok sets, qs)) :
    qs = ps ++ assigned.map Prod.snd ∧
      sets = (assigned.zipIdx (ps.length + 1)).map fun (a, n) => (m.column a.1, n) := by
  induction assigned generalizing ps sets with
  | nil =>
    simp only [assign, Binding.runWith_pure, Prod.mk.injEq, Except.ok.injEq] at h
    obtain ⟨rfl, rfl⟩ := h
    simp
  | cons a rest ih =>
    obtain ⟨n, rs, hn, h⟩ := Binding.runWith_seq_ok h
    rw [Binding.runWith_bind_value, Prod.mk.injEq, Except.ok.injEq] at hn
    obtain ⟨rfl, rfl⟩ := hn
    obtain ⟨others, ho, rfl⟩ := Binding.runWith_map_ok h
    obtain ⟨rfl, rfl⟩ := ih ho
    simp

theorem scan_assignmentText (a : String × Nat) :
    Sql.scan (Sql.assignmentText a) = some (Lexeme.tokens (Sql.assignmentLexemes a)) := by
  rw [← Lexeme.text_eq (Sql.chars_assignmentLexemes a), Lexeme.scan_text (Sql.written_assignmentLexemes a)]

theorem numbered_assignmentSites (m : Model) (first : Nat) (assigned : List (Nat × Value)) :
    Site.Numbered first (m.assignmentSites first assigned) (assigned.map Prod.snd) := by
  induction assigned generalizing first with
  | nil => exact .nil
  | cons a rest ih =>
    refine .value rfl ?_ (ih (first + 1))
    rw [Sql.placeholdersIn, scan_assignmentText]
    rfl

end Model

/-! ## Conditions in the text of a restriction -/

namespace Sql.Reading

variable {α : Type} (own : α → Condition Operand)

mutual

/-- a filled shape frames what was filled in -/
theorem framed_fill (t : Reading α) :
    Framed (t.leaves.flatMap fun a => Lexeme.tokens (own a).lexemes) (Lexeme.tokens (fill own t).lexemes) := by
  cases t with
  | leaf a => simpa [leaves, fill] using Framed.refl _
  | neg r =>
    have head : Sql.placeholderNumbers [.word "NOT", .opening] = [] := rfl
    have tail : Sql.placeholderNumbers [.closing] = [] := rfl
    have inner := ((framed_fill r).behind tail).before head
    simpa [leaves, fill, Condition.lexemes] using inner
  | group join parts =>
    have list := Framed.intercalate (Lexeme.tokens join.lexemes) rfl _ _ parts (framed_fillAll parts)
    have head : Sql.placeholderNumbers [.opening] = [] := rfl
    have tail : Sql.placeholderNumbers [.closing] = [] := rfl
    have inner := (list.behind tail).before head
    simpa [leaves, leavesAll_eq, fill, fillAll_eq, Condition.lexemes, Condition.lexemesAll_eq,
      Lexeme.tokens_intercalate, List.flatMap_assoc, Function.comp_def] using inner

theorem framed_fillAll (ts : List (Reading α)) :
    ∀ t ∈ ts, Framed (t.leaves.flatMap fun a => Lexeme.tokens (own a).lexemes)
      (Lexeme.tokens (fill own t).lexemes) := by
  cases ts with
  | nil => simp
  | cons t ts =>
    rw [List.forall_mem_cons]
    exact ⟨framed_fill t, framed_fillAll ts⟩

end

end Sql.Reading

namespace Model

/-- the conditions of all pairs stand in a restriction in their order -/
theorem restriction_framed {m : Model} {fs : List Filter} {ps qs : List Value} {rows : Sql.Restriction}
    (h : (m.restriction fs).runWith ps = (.ok rows, qs)) :
    ∃ leaves, (m.conditions (Filter.pairsAll fs)).runWith ps = (.ok leaves, qs) ∧
      Framed (leaves.flatMap fun c => Lexeme.tokens c.lexemes) (Sql.Restriction.conditionTokens rows) := by
  obtain ⟨leaves, own, hl, numbered, _, rfl⟩ := restriction_ok h
  have length := (length_conditions hl).trans (Filter.length_pairsAll fs)
  refine ⟨leaves, hl, ?_⟩
  have tokens : Sql.Restriction.conditionTokens (Sql.restrict ((Filter.skeletons 0 fs).map (Reading.fill own))) =
      (Filter.skeletons 0 fs).flatMap fun t => Lexeme.tokens (t.fill own).lexemes := by
    cases hs : Filter.skeletons 0 fs <;>
      simp [Sql.restrict, Sql.Restriction.conditionTokens, List.flatMap_map]
  have framed := Framed.flatMap fun t (_ : t ∈ Filter.skeletons 0 fs) => Reading.framed_fill own t
  have inner : (leaves.flatMap fun c => Lexeme.tokens c.lexemes) =
      (Filter.skeletons 0 fs).flatMap fun t => t.leaves.flatMap fun a => Lexeme.tokens (own a).lexemes := by
    conv => lhs; rw [numbered]
    rw [← List.flatMap_assoc, Filter.leaves_skeletons, ← length, ← List.range_eq_range', List.flatMap_map]
  rw [tokens, inner]
  exact framed

end Model

/-! ## Everything that can be compiled -/

/-- what can be compiled -/
inductive Compilation where
  | select (s : Selection)
  | count (s : Selection)
  | explain (s : Selection)
  | updateWhere (assigned : List (Nat × Value)) (filters : List Filter)
  | deleteWhere (filters : List Filter)
  /-- just the restriction, some parameters being bound already -/
  | restriction (before : List Value) (filters : List Filter)

namespace Compilation

/-- the text and the parameters -/
def result (m : Model) : Compilation → Outcome (String × List Value)
  | select s => (m.select s).map fun c => (c.text, c.parameters)
  | count s => (m.count s).map fun c => (c.text, c.parameters)
  | explain s => (m.explain s).map fun c => (c.text, c.parameters)
  | updateWhere assigned fs => (m.updateWhere assigned fs).map fun c => (c.text, c.parameters)
  | deleteWhere fs => (m.deleteWhere fs).map fun c => (c.text, c.parameters)
  | restriction before fs =>
    match (m.restriction fs).runWith before with
    | (.ok rows, ps) => .ok ((rows.map (Condition.listText Operand.text)).getD "", ps)
    | (.error e, _) => .error e

/-- the parameters that are bound already -/
def before : Compilation → List Value
  | restriction before _ => before
  | _ => []

/-- the columns that are set, by position, with their values -/
def assigned : Compilation → List (Nat × Value)
  | updateWhere assigned _ => assigned
  | _ => []

def filters : Compilation → List Filter
  | select s | count s | explain s => s.filters
  | updateWhere _ fs | deleteWhere fs | restriction _ fs => fs

end Compilation

/-- how a text binds values at sites, behind the parameters that were there before -/
structure Placed (m : Model) (before : List Value) (assigned : List (Nat × Value)) (pairs : List (String × Value))
    (text : String) (bound : List Value) (sites : List Site) : Prop where
  /-- the placeholders of the text are numbered one by one, as many as there are values -/
  placeholders : Sql.placeholdersIn text = some (List.range' (before.length + 1) bound.length)
  /-- the sites bind the values in their order -/
  numbered : Site.Numbered (before.length + 1) sites bound
  /-- the sites stand in the text in their order -/
  inOrder : ∃ (parts : List (List Token)) (ts : List Token),
    sites.map (fun s => Sql.scan s.text) = parts.map some ∧ Sql.scan text = some ts ∧
    parts.flatten.Sublist ts
  /-- the sites are the columns that are set, then the conditions of the pairs -/
  shape : ∃ leaves conditionSites,
    (m.conditions pairs).runWith (before ++ assigned.map Prod.snd) = (.ok leaves, before ++ bound) ∧
    sites = m.assignmentSites (before.length + 1) assigned ++ conditionSites ∧
    conditionSites.map Site.text = leaves.map (Condition.text Operand.text) ∧
    List.Forall₂ m.BindsPair pairs conditionSites
  /-- one value is bound for each column that is set and for each pair that is no null check -/
  length : bound.length = assigned.length + pairs.countP fun p => !m.isNullCheck p.1 p.2

namespace Model

theorem assignmentSites_tokens (m : Model) (first : Nat) (assigned : List (Nat × Value)) :
    (m.assignmentSites first assigned).map (fun s => Sql.scan s.text) =
      (((assigned.zipIdx first).map fun (a, n) => (m.column a.1, n)).map fun a =>
        Lexeme.tokens (Sql.assignmentLexemes a)).map some := by
  simp [assignmentSites, scan_assignmentText, Function.comp_def]

/-- a text places its values if it frames the columns that are set and the conditions of the pairs -/
theorem placed_of_framed {m : Model} {before params : List Value} {assigned : List (Nat × Value)}
    {pairs : List (String × Value)} {leaves : List (Condition Operand)} {text : String} {ts : List Token}
    (hc : (m.conditions pairs).runWith (before ++ assigned.map Prod.snd) = (.ok leaves, params))
    (ht : Sql.scan text = some ts)
    (hf : Framed ((((assigned.zipIdx (before.length + 1)).map fun (a, n) => (m.column a.1, n)).flatMap fun a =>
      Lexeme.tokens (Sql.assignmentLexemes a)) ++ leaves.flatMap fun c => Lexeme.tokens c.lexemes) ts) :
    ∃ bound sites, params = before ++ bound ∧ Placed m before assigned pairs text bound sites := by
  obtain ⟨sites, bound, rfl, numbered, texts, binds⟩ := conditions_sites hc
  have all : Site.Numbered (before.length + 1) (m.assignmentSites (before.length + 1) assigned ++ sites)
      (assigned.map Prod.snd ++ bound) := by
    refine (numbered_assignmentSites m _ assigned).append ?_
    simpa [Nat.add_right_comm] using numbered
  have scans : sites.map (fun s => Sql.scan s.text) = (leaves.map fun c => Lexeme.tokens c.lexemes).map some := by
    have hs := congrArg (List.map Sql.scan) texts
    simpa [Condition.scan_text, Function.comp_def] using hs
  have parts : (m.assignmentSites (before.length + 1) assigned ++ sites).map (fun s => Sql.scan s.text) =
      ((((assigned.zipIdx (before.length + 1)).map fun (a, n) => (m.column a.1, n)).map fun a =>
        Lexeme.tokens (Sql.assignmentLexemes a)) ++ leaves.map fun c => Lexeme.tokens c.lexemes).map some := by
    rw [List.map_append, assignmentSites_tokens, scans, List.map_append]
  have whole : Sql.placeholdersIn text =
      some (List.range' (before.length + 1) (assigned.map Prod.snd ++ bound).length) := by
    rw [Sql.placeholdersIn, ht, Option.map_some, ← hf.placeholders, List.flatMap_def, List.flatMap_def,
      ← List.flatten_append, all.placeholders parts]
  refine ⟨assigned.map Prod.snd ++ bound, _, by simp, whole, all, ?_, ?_, ?_⟩
  · refine ⟨_, ts, parts, ht, ?_⟩
    rw [List.flatten_append, ← List.flatMap_def, ← List.flatMap_def]
    exact hf.sublist
  · exact ⟨leaves, sites, by simpa using hc, rfl, texts, binds⟩
  · have values := numbered.values
    rw [List.length_append, List.length_map, values, length_of_bindsPair binds]

/-- a statement without assignments -/
theorem placed_of_rows {m : Model} {fs : List Filter} {params : List Value} {rows : Sql.Restriction}
    {statement : Statement} (hr : (m.restriction fs).runWith [] = (.ok rows, params))
    (hf : Framed (Sql.Restriction.conditionTokens rows) (Lexeme.tokens statement.lexemes)) :
    ∃ bound sites, params = [] ++ bound ∧ Placed m [] [] (Filter.pairsAll fs) statement.text bound sites := by
  obtain ⟨leaves, hl, framed⟩ := restriction_framed hr
  exact placed_of_framed (by simpa using hl) statement.scan_text (by simpa using framed.trans hf)

/-! ### What compiles to a statement -/

theorem finished_ok {b : Binding Statement} {c : Compiled} (h : finished b = .ok c) :
    b.runWith [] = (.ok c.statement, c.parameters) := by
  obtain ⟨⟨s, ps⟩, hb, rfl⟩ := Outcome.map_ok.mp h
  exact Binding.collect_ok hb

theorem sortOperands_ok {m : Model} {key : String} {ops : List Operand} (h : m.sortOperands key = .ok ops) :
    ∀ op ∈ ops, op.parameters = [] := by
  unfold sortOperands at h
  split at h
  · injection h with h
    subst h
    intro op hop
    obtain ⟨i, _, rfl⟩ := List.mem_map.mp hop
    rfl
  · split at h
    · injection h with h
      subst h
      simp [Operand.parameters]
    · obtain ⟨found, _, h⟩ := Outcome.bind_ok.mp h
      cases found with
      | none => simp [failure] at h
      | some path =>
        obtain rfl := Outcome.pure_ok.mp h
        simp [JsonPath.value, Operand.parameters]

theorem sortKeys_ok {m : Model} {specs : List SortSpec} {keys : List Sql.SortKey} (h : m.sortKeys specs = .ok keys) :
    ∀ k ∈ keys, k.operand.parameters = [] := by
  obtain ⟨lists, hl, rfl⟩ := Outcome.map_ok.mp h
  have each := Outcome.mapM_ok.mp hl
  clear h hl
  induction each with
  | nil => simp
  | cons head _ ih =>
    obtain ⟨ops, hops, rfl⟩ := Outcome.map_ok.mp head
    intro k hk
    rw [List.flatten_cons, List.mem_append] at hk
    rcases hk with hk | hk
    · obtain ⟨op, hop, rfl⟩ := List.mem_map.mp hk
      exact sortOperands_ok hops op hop
    · exact ih k hk

theorem selectRows_ok {m : Model} {s : Selection} {ps qs : List Value} {select : Sql.Select}
    (h : (m.selectRows s).runWith ps = (.ok select, qs)) :
    (m.restriction s.filters).runWith ps = (.ok select.rows, qs) ∧
      ∀ keys, select.order = some keys → ∀ k ∈ keys, k.operand.parameters = [] := by
  obtain ⟨rows, rs, hr, h⟩ := Binding.runWith_seq_ok h
  obtain ⟨order, ss, ho, h⟩ := Binding.runWith_seq_ok h
  rw [Binding.runWith_lift, Prod.mk.injEq] at ho
  simp only [Binding.runWith_pure, Prod.mk.injEq, Except.ok.injEq] at h
  obtain ⟨rfl, rfl⟩ := h
  obtain ⟨ho, rfl⟩ := ho
  refine ⟨hr, ?_⟩
  intro keys hk
  have some : order = keys := by
    by_cases hs : s.ordering.isEmpty <;> simp [hs] at hk
    exact hk
  exact some ▸ sortKeys_ok ho

/-- a statement made of a selection of rows -/
theorem placed_of_selectRows {m : Model} {s : Selection} {c : Compiled} (make : Sql.Select → Statement)
    (hmake : ∀ inner select, Framed inner (Lexeme.tokens select.lexemes) →
      Framed inner (Lexeme.tokens (make select).lexemes))
    (h : finished (make <$> m.selectRows s) = .ok c) :
    ∃ bound sites, c.parameters = [] ++ bound ∧ Placed m [] [] (Filter.pairsAll s.filters) c.text bound sites := by
  obtain ⟨select, hs, hc⟩ := Binding.runWith_map_ok (finished_ok h)
  obtain ⟨hr, order⟩ := selectRows_ok hs
  rw [Compiled.text, ← hc]
  exact placed_of_rows hr (hmake _ _ (select.framed_lexemes order))

end Model

namespace Compilation

open Model

/-- **Placeholders and parameters match.**  The placeholders of a compiled text are numbered one by one from the first
that was free; their values are, in the order of the text, those of the columns that are set and the encoded arguments
of all pairs that are no null checks; and the parameters bound before stay in front. -/
theorem result_placed {m : Model} {t : Compilation} {text : String} {params : List Value}
    (h : t.result m = .ok (text, params)) :
    ∃ bound sites, params = t.before ++ bound ∧
      Placed m t.before t.assigned (Filter.pairsAll t.filters) text bound sites := by
  cases t with
  | select s =>
    obtain ⟨c, hc, heq⟩ := Outcome.map_ok.mp h
    obtain ⟨rfl, rfl⟩ := Prod.mk.inj heq
    exact placed_of_selectRows .select (fun _ _ h => h) hc
  | count s =>
    obtain ⟨c, hc, heq⟩ := Outcome.map_ok.mp h
    obtain ⟨rfl, rfl⟩ := Prod.mk.inj heq
    unfold Model.count at hc
    split at hc
    · exact placed_of_selectRows (s := { s with ordering := [] }) .countOf (fun _ _ h => Statement.framed_countOf h) hc
    · obtain ⟨rows, hr, hs⟩ := Binding.runWith_map_ok (finished_ok hc)
      rw [Compiled.text, ← hs]
      exact placed_of_rows hr (Statement.framed_count m.table rows)
  | explain s =>
    obtain ⟨c, hc, heq⟩ := Outcome.map_ok.mp h
    obtain ⟨rfl, rfl⟩ := Prod.mk.inj heq
    exact placed_of_selectRows .explain (fun _ _ h => Statement.framed_explain h) hc
  | updateWhere assigned fs =>
    obtain ⟨c, hc, heq⟩ := Outcome.map_ok.mp h
    obtain ⟨rfl, rfl⟩ := Prod.mk.inj heq
    unfold Model.updateWhere at hc
    split at hc
    · simp [failure] at hc
    · obtain ⟨sets, ps, hsets, hb⟩ := Binding.runWith_seq_ok (finished_ok hc)
      obtain ⟨rows, hr, hs⟩ := Binding.runWith_map_ok hb
      obtain ⟨rfl, rfl⟩ := assign_ok hsets
      obtain ⟨leaves, hl, framed⟩ := restriction_framed hr
      rw [Compiled.text, ← hs]
      refine placed_of_framed hl (Statement.scan_text _) ?_
      exact ((Framed.refl _).append framed).trans (Statement.framed_update m.table _ rows)
  | deleteWhere fs =>
    obtain ⟨c, hc, heq⟩ := Outcome.map_ok.mp h
    obtain ⟨rfl, rfl⟩ := Prod.mk.inj heq
    obtain ⟨rows, hr, hs⟩ := Binding.runWith_map_ok (finished_ok hc)
    rw [Compiled.text, ← hs]
    exact placed_of_rows hr (Statement.framed_delete m.table rows)
  | restriction before fs =>
    simp only [result] at h
    split at h
    · next rows ps hr =>
      obtain ⟨rfl, rfl⟩ := Prod.mk.inj (Except.ok.inj h)
      obtain ⟨leaves, hl, framed⟩ := restriction_framed hr
      rw [← List.append_nil before] at hl
      cases rows with
      | none =>
        have empty : Sql.scan "" = some [] := rfl
        exact placed_of_framed hl empty framed
      | some cs =>
        exact placed_of_framed hl (Condition.scan_listText cs) (framed.trans (Condition.framed_listLexemes cs))
    · simp at h

theorem result_placed_items : ∃ text params,
    (updateWhere [(1, .int 5)] itemFilters).result ofItems = .ok (text, params) ∧
    text = "UPDATE \"item\" SET \"size\" = $1 WHERE NOT ((\"size\" < $2 OR \"size\" IS NULL)) AND " ++
      "((\"id\" <> $3 OR \"id\" IS NULL) AND (\"id\" <> $4 OR \"id\" IS NULL))" ∧
    params.map Value.text = ["5", "3", "7", "9"] ∧
    ∃ bound sites, params = [] ++ bound ∧
      Placed ofItems [] [(1, .int 5)] (Filter.pairsAll itemFilters) text bound sites := by
  have shown : ((updateWhere [(1, .int 5)] itemFilters).result ofItems).toOption.map
      (fun r => (r.1, r.2.map Value.text)) = some
        ("UPDATE \"item\" SET \"size\" = $1 WHERE NOT ((\"size\" < $2 OR \"size\" IS NULL)) AND " ++
          "((\"id\" <> $3 OR \"id\" IS NULL) AND (\"id\" <> $4 OR \"id\" IS NULL))", ["5", "3", "7", "9"]) := by
    decide +kernel
  match hc : (updateWhere [(1, .int 5)] itemFilters).result ofItems with
  | .ok (text, params) =>
    rw [hc] at shown
    obtain ⟨htext, hparams⟩ := Prod.mk.inj (Option.some.inj shown)
    exact ⟨text, params, rfl, htext, hparams, result_placed hc⟩
  | .error e =>
    rw [hc] at shown
    exact absurd shown (by simp [Except.toOption])

end Compilation

end Tabula
