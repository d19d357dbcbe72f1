import Tabula.Proofs.Query.Binding
import Tabula.Proofs.Sql.Reading
/-!
# Skeletons of filters

The shape of a compiled filter: its conditions, numbered from left to right, under connectives.  A compilation that
succeeds gives the skeleton filled with the conditions of the filter's pairs: `Filter.compile_ok`.
-/

namespace Tabula

open Sql (Condition Join Operand Reading)

namespace Sql.Reading

variable {α ε : Type}

/-- a reading, negated if asked -/
def negatedIf (negated : Bool) (r : Reading α) : Reading α := if negated then .neg r else r

mutual

/-- the condition with the shape of a reading -/
def fill (own : α → Condition ε) : Reading α → Condition ε
  | leaf a => own a
  | neg r => .neg (fill own r)
  | group join parts => .group join (fillAll own parts)

def fillAll (own : α → Condition ε) : List (Reading α) → List (Condition ε)
  | [] => []
  | r :: rs => fill own r :: fillAll own rs

end

mutual

/-- whether every group has two parts or more -/
def isProper : Reading α → Bool
  | leaf _ => true
  | neg r => isProper r
  | group _ parts => 1 < parts.length && allProper parts

def allProper : List (Reading α) → Bool
  | [] => true
  | r :: rs => isProper r && allProper rs

end

theorem fillAll_eq (own : α → Condition ε) (rs : List (Reading α)) : fillAll own rs = rs.map (fill own) := by
  induction rs with
  | nil => rfl
  | cons r rs ih => rw [fillAll, ih, List.map_cons]

theorem allProper_eq (rs : List (Reading α)) : allProper rs = rs.all isProper := by
  induction rs with
  | nil => rfl
  | cons r rs ih => rw [allProper, ih, List.all_cons]

/-- filling goes through a join -/
theorem joined_fill (own : α → Condition ε) (join : Join) (rs : List (Reading α)) :
    Condition.joined join (rs.map (fill own)) = (grouped? join rs).map (fill own) := by
  match rs with
  | [] => rfl
  | [r] => rfl
  | r :: s :: rs => simp [Condition.joined, grouped?, grouped, fill, fillAll_eq]

theorem isProper_grouped {join : Join} {rs : List (Reading α)} (hne : rs ≠ []) (h : rs.all isProper = true) :
    (grouped join rs).isProper = true := by
  match rs with
  | [] => exact absurd rfl hne
  | [r] => simpa [grouped] using h
  | r :: s :: rs => simpa [grouped, isProper, allProper_eq] using h

theorem isProper_grouped? {join : Join} {rs : List (Reading α)} (h : rs.all isProper = true) :
    ∀ t ∈ grouped? join rs, t.isProper = true := by
  intro t ht
  match rs with
  | [] => simp [grouped?] at ht
  | r :: rs =>
    obtain rfl : grouped join (r :: rs) = t := by simpa [grouped?] using ht
    exact isProper_grouped (by simp) h

theorem isProper_negatedIf (negated : Bool) (r : Reading α) : (negatedIf negated r).isProper = r.isProper := by
  cases negated <;> rfl

theorem fill_negatedIf (own : α → Condition Operand) (negated : Bool) (r : Reading α) :
    fill own (negatedIf negated r) = Tabula.negatedIf negated (fill own r) := by
  cases negated <;> rfl

/-- and through a negated join -/
theorem negated_joined_fill (own : α → Condition Operand) (join : Join) (negated : Bool) (rs : List (Reading α)) :
    (Condition.joined join (rs.map (fill own))).map (Tabula.negatedIf negated) =
      ((grouped? join rs).map (negatedIf negated)).map (fill own) := by
  rw [joined_fill]
  cases grouped? join rs <;> simp [fill_negatedIf]

/-! ### Reading what is filled -/

mutual

theorem isFull_fill {own : α → Condition Operand} (hown : ∀ a, (own a).isFull = true) (t : Reading α)
    (h : t.isProper = true) : (fill own t).isFull = true := by
  cases t with
  | leaf a => exact hown a
  | neg r => exact isFull_fill hown r h
  | group join parts =>
    simp only [isProper, Bool.and_eq_true, decide_eq_true_eq] at h
    have hne : fillAll own parts ≠ [] := by
      intro hnil
      rw [fillAll_eq, List.map_eq_nil_iff] at hnil
      simp [hnil] at h
    simp [fill, Condition.isFull, hne, allFull_fillAll hown parts h.2]

theorem allFull_fillAll {own : α → Condition Operand} (hown : ∀ a, (own a).isFull = true) (ts : List (Reading α))
    (h : allProper ts = true) : Condition.allFull (fillAll own ts) = true := by
  cases ts with
  | nil => rfl
  | cons t ts =>
    simp only [allProper, Bool.and_eq_true] at h
    simp [fillAll, Condition.allFull, isFull_fill hown t h.1, allFull_fillAll hown ts h.2]

end

mutual

/-- a filled shape reads as the shape with the readings of what was filled in -/
theorem reading_fill (own : α → Condition Operand) (t : Reading α) (h : t.isProper = true) :
    (fill own t).reading = t.bind fun a => (own a).reading := by
  cases t with
  | leaf a => rfl
  | neg r => exact congrArg neg (reading_fill own r h)
  | group join parts =>
    simp only [isProper, Bool.and_eq_true, decide_eq_true_eq] at h
    have inner := readings_fillAll own parts h.2
    match parts, h.1, inner with
    | r :: s :: rs, _, inner =>
      rw [fill, Condition.reading, inner]
      rfl

theorem readings_fillAll (own : α → Condition Operand) (ts : List (Reading α)) (h : allProper ts = true) :
    Condition.readings (fillAll own ts) = bindAll (fun a => (own a).reading) ts := by
  cases ts with
  | nil => rfl
  | cons t ts =>
    simp only [allProper, Bool.and_eq_true] at h
    rw [fillAll, Condition.readings, reading_fill own t h.1, readings_fillAll own ts h.2, bindAll]

end

end Sql.Reading

namespace Filter

mutual

/-- the pairs of key and argument from left to right -/
def pairs : Filter → List (String × Value)
  | leaf cs _ _ => cs
  | branch fs _ _ => pairsAll fs

def pairsAll : List Filter → List (String × Value)
  | [] => []
  | f :: fs => pairs f ++ pairsAll fs

end

mutual

/-- the shape of the condition, the pairs numbered from `first` on; none if there is no pair -/
def skeleton (first : Nat) : Filter → Option (Reading Nat)
  | leaf cs _ negated =>
    (Reading.grouped? .and ((List.range' first cs.length).map .leaf)).map (.negatedIf negated)
  | branch fs join negated => (Reading.grouped? join (skeletons first fs)).map (.negatedIf negated)

def skeletons (first : Nat) : List Filter → List (Reading Nat)
  | [] => []
  | f :: fs => (skeleton first f).toList ++ skeletons (first + conditionCount f) fs

end

mutual

theorem length_pairs (f : Filter) : f.pairs.length = f.conditionCount := by
  cases f with
  | leaf cs join negated => rfl
  | branch fs join negated => exact length_pairsAll fs

theorem length_pairsAll (fs : List Filter) : (pairsAll fs).length = conditionCounts fs := by
  cases fs with
  | nil => rfl
  | cons f fs => rw [pairsAll, List.length_append, length_pairs f, length_pairsAll fs, conditionCounts]

end

mutual

theorem isProper_skeleton (first : Nat) (f : Filter) : ∀ t ∈ f.skeleton first, t.isProper = true := by
  intro t ht
  cases f with
  | leaf cs join negated =>
    obtain ⟨r, hr, rfl⟩ := Option.map_eq_some_iff.mp ht
    rw [Reading.isProper_negatedIf]
    exact Reading.isProper_grouped? (by simp [Reading.isProper]) r hr
  | branch fs join negated =>
    obtain ⟨r, hr, rfl⟩ := Option.map_eq_some_iff.mp ht
    rw [Reading.isProper_negatedIf]
    exact Reading.isProper_grouped? (all_isProper_skeletons first fs) r hr

theorem all_isProper_skeletons (first : Nat) (fs : List Filter) :
    (skeletons first fs).all Reading.isProper = true := by
  cases fs with
  | nil => rfl
  | cons f fs =>
    have head : (f.skeleton first).toList.all Reading.isProper = true := by
      cases hs : f.skeleton first with
      | none => rfl
      | some t => simpa using isProper_skeleton first f t hs
    rw [skeletons, List.all_append, head, all_isProper_skeletons _ fs, Bool.and_self]

end

/-! ### The numbers in a skeleton -/

theorem leaves_grouped? (join : Join) (rs : List (Reading Nat)) :
    (Reading.grouped? join rs).toList.flatMap Reading.leaves = rs.flatMap Reading.leaves := by
  match rs with
  | [] => rfl
  | r :: rs => simp [Reading.grouped?, Reading.leaves_grouped]

theorem leaves_negatedIf (negated : Bool) (t : Option (Reading Nat)) :
    (t.map (.negatedIf negated)).toList.flatMap Reading.leaves = t.toList.flatMap Reading.leaves := by
  cases t <;> cases negated <;> simp [Reading.negatedIf, Reading.leaves]

mutual

/-- a skeleton holds every number once, in order -/
theorem leaves_skeleton (first : Nat) (f : Filter) :
    (f.skeleton first).toList.flatMap Reading.leaves = List.range' first f.conditionCount := by
  cases f with
  | leaf cs join negated =>
    rw [skeleton, leaves_negatedIf, leaves_grouped?, List.flatMap_map]
    simp [Reading.leaves, conditionCount]
  | branch fs join negated =>
    rw [skeleton, leaves_negatedIf, leaves_grouped?, leaves_skeletons first fs, conditionCount]

theorem leaves_skeletons (first : Nat) (fs : List Filter) :
    (skeletons first fs).flatMap Reading.leaves = List.range' first (conditionCounts fs) := by
  cases fs with
  | nil => rfl
  | cons f fs =>
    rw [skeletons, List.flatMap_append, leaves_skeleton first f, leaves_skeletons _ fs, List.range'_append_1,
      conditionCounts]

end

end Filter

/-! ## Compilations -/

namespace Model

theorem conditions_cons_ok {m : Model} {key : String} {v : Value} {rest : List (String × Value)}
    {ps qs : List Value} {cs : List (Condition Operand)}
    (h : (m.conditions ((key, v) :: rest)).runWith ps = (.ok cs, qs)) :
    ∃ c ds rs, (m.condition key v).runWith ps = (.ok c, rs) ∧ (m.conditions rest).runWith rs = (.ok ds, qs) ∧
      cs = c :: ds := by
  obtain ⟨c, rs, hc, h⟩ := Binding.runWith_seq_ok h
  obtain ⟨ds, ss, hd, h⟩ := Binding.runWith_seq_ok h
  simp only [Binding.runWith_pure, Prod.mk.injEq, Except.ok.injEq] at h
  exact ⟨c, ds, rs, hc, h.2 ▸ hd, h.1.symm⟩

theorem length_conditions {m : Model} {pairs : List (String × Value)} {ps qs : List Value}
    {cs : List (Condition Operand)} (h : (m.conditions pairs).runWith ps = (.ok cs, qs)) :
    cs.length = pairs.length := by
  induction pairs generalizing ps cs with
  | nil =>
    simp only [conditions, Binding.runWith_pure, Prod.mk.injEq, Except.ok.injEq] at h
    simp [← h.1]
  | cons p rest ih =>
    obtain ⟨c, ds, rs, _, hd, rfl⟩ := conditions_cons_ok h
    simp [ih hd]

theorem conditions_append {m : Model} {as bs : List (String × Value)} {ps qs rs : List Value}
    {cs ds : List (Condition Operand)} (ha : (m.conditions as).runWith ps = (.ok cs, qs))
    (hb : (m.conditions bs).runWith qs = (.ok ds, rs)) :
    (m.conditions (as ++ bs)).runWith ps = (.ok (cs ++ ds), rs) := by
  induction as generalizing ps cs with
  | nil =>
    simp only [conditions, Binding.runWith_pure, Prod.mk.injEq, Except.ok.injEq] at ha
    obtain ⟨rfl, rfl⟩ := ha
    exact hb
  | cons p rest ih =>
    obtain ⟨c, es, ss, hc, he, rfl⟩ := conditions_cons_ok ha
    simp [conditions, Binding.runWith_seq, Binding.runWith_map, hc, ih he, Except.map]

end Model

namespace Filter

/-- numbers for a list fall apart where the list does -/
theorem numbered_append {α : Type} {own : Nat → α} {xs ys : List α} {first n k : Nat} (hn : xs.length = n)
    (h : xs ++ ys = (List.range' first (n + k)).map own) :
    xs = (List.range' first n).map own ∧ ys = (List.range' (first + n) k).map own := by
  rw [← List.range'_append_1, List.map_append] at h
  exact List.append_inj h (by simp [hn])

theorem compileAll_cons_ok {m : Model} {f : Filter} {fs : List Filter} {ps qs : List Value}
    {cs : List (Condition Operand)} (h : (compileAll m (f :: fs)).runWith ps = (.ok cs, qs)) :
    ∃ c ds rs, (compile m f).runWith ps = (.ok c, rs) ∧ (compileAll m fs).runWith rs = (.ok ds, qs) ∧
      cs = c.toList ++ ds := by
  obtain ⟨c, rs, hc, h⟩ := Binding.runWith_seq_ok h
  cases c with
  | none => exact ⟨none, cs, rs, hc, h, rfl⟩
  | some c =>
    obtain ⟨ds, hd, rfl⟩ := Binding.runWith_map_ok h
    exact ⟨some c, ds, rs, hc, hd, rfl⟩

mutual

/-- **A compiled filter is its skeleton, filled with the conditions of its pairs.** -/
theorem compile_ok {m : Model} (f : Filter) {ps qs : List Value} {c : Option (Condition Operand)}
    (h : (compile m f).runWith ps = (.ok c, qs)) :
    ∃ leaves, (m.conditions f.pairs).runWith ps = (.ok leaves, qs) ∧
      ∀ first own, leaves = (List.range' first f.conditionCount).map own →
        c = (f.skeleton first).map (Reading.fill own) := by
  cases f with
  | leaf cs join negated =>
    obtain ⟨parts, rs, hp, h⟩ := Binding.runWith_seq_ok h
    simp only [Binding.runWith_pure, Prod.mk.injEq, Except.ok.injEq] at h
    obtain ⟨rfl, rfl⟩ := h
    refine ⟨parts, hp, ?_⟩
    rintro first own rfl
    rw [skeleton, ← Reading.negated_joined_fill, List.map_map, conditionCount]
    rfl
  | branch fs join negated =>
    obtain ⟨parts, rs, hp, h⟩ := Binding.runWith_seq_ok h
    simp only [Binding.runWith_pure, Prod.mk.injEq, Except.ok.injEq] at h
    obtain ⟨rfl, rfl⟩ := h
    obtain ⟨leaves, hl, shape⟩ := compileAll_ok fs hp
    refine ⟨leaves, hl, fun first own hown => ?_⟩
    rw [skeleton, ← Reading.negated_joined_fill, shape first own hown]

theorem compileAll_ok {m : Model} (fs : List Filter) {ps qs : List Value} {cs : List (Condition Operand)}
    (h : (compileAll m fs).runWith ps = (.ok cs, qs)) :
    ∃ leaves, (m.conditions (pairsAll fs)).runWith ps = (.ok leaves, qs) ∧
      ∀ first own, leaves = (List.range' first (conditionCounts fs)).map own →
        cs = (skeletons first fs).map (Reading.fill own) := by
  cases fs with
  | nil =>
    simp only [compileAll, Binding.runWith_pure, Prod.mk.injEq, Except.ok.injEq] at h
    obtain ⟨rfl, rfl⟩ := h
    exact ⟨[], rfl, fun _ _ _ => rfl⟩
  | cons f fs =>
    obtain ⟨c, ds, rs, hc, hd, rfl⟩ := compileAll_cons_ok h
    obtain ⟨xs, hxs, shape⟩ := compile_ok f hc
    have length := (Model.length_conditions hxs).trans f.length_pairs
    obtain ⟨ys, hys, shapes⟩ := compileAll_ok fs hd
    refine ⟨xs ++ ys, Model.conditions_append hxs hys, fun first own hown => ?_⟩
    obtain ⟨hx, hy⟩ := numbered_append length hown
    rw [shape first own hx, shapes _ own hy, skeletons, List.map_append]
    cases f.skeleton first <;> rfl

end

end Filter

end Tabula
