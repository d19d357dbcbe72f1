import Tabula.Proofs.Database.Values
import Tabula.Proofs.Model.Catalog
import Tabula.Proofs.Query.Exclusion
/-!
# Lookups of text

The lookups that look for a text bind a pattern that is made for it, whatever characters the text has.
`Field.text_lookups_literal`: a column matches just if it contains the text, begins with it or ends with it, and the
tests of documents that read text compare it with the same patterns.
-/

namespace Tabula

open Sql (Condition KeepsMarks Operand Sense Truth like?)

/-! ## What a search finds -/

/-- the suffixes that look for a text, where they look for it, and whether both sides are brought into capitals -/
def textSearches : List (String × Wildcard × Bool) :=
  [("__contains", .contains, false), ("__startswith", .startsWith, false), ("__endswith", .endsWith, false),
    ("__icontains", .contains, true), ("__istartswith", .startsWith, true), ("__iendswith", .endsWith, true)]

/-- the comparison of a search -/
def searchLookup (anyCase : Bool) : Lookup := if anyCase then .likeAnyCase else .like

/-- a text as a search compares it -/
def searched (anyCase : Bool) (capital : Char → Char) (s : List Char) : List Char :=
  if anyCase then s.map capital else s

theorem search_listed :
    ∀ x ∈ textSearches, (x.1, searchLookup x.2.2, ArgumentForm.pattern x.2.1) ∈ textLookups := by
  decide

/-- the pattern of a search finds its text, both sides being as they are compared -/
theorem like_searched {capital : Char → Char} (keeps : KeepsMarks capital) (anyCase : Bool) (w : Wildcard)
    (s t : List Char) :
    like? (searched anyCase capital (w.chars s)) (searched anyCase capital t) =
      some (decide (w.Finds (searched anyCase capital s) (searched anyCase capital t))) := by
  cases anyCase with
  | false => exact w.like_chars s t
  | true =>
    change like? ((w.chars s).map capital) (t.map capital) = some (decide (w.Finds (s.map capital) (t.map capital)))
    rw [w.map_chars keeps]
    exact w.like_chars (s.map capital) (t.map capital)

variable {ρ δ : Type} {sense : Sense ρ δ} {row : ρ} {ps all : List Value}

/-- the condition of a search on a row whose column holds a text -/
theorem truth_search {capital : Char → Char} {text : List Char → δ} (reads : sense.ReadsText capital text)
    {column : String} {t : List Char} (holds : sense.column row column = text t) {p : String}
    (bound : ps ++ [.string p] <+: all) (anyCase : Bool) {b : Bool}
    (matched : like? (searched anyCase capital p.toList) (searched anyCase capital t) = some b) :
    ((searchLookup anyCase).condition (.column column) (.parameter (ps.length + 1)) false).truth sense all row =
      .ofBool b := by
  have own : (Operand.column column).datum sense all row = text t := holds
  have pattern : (Operand.parameter (ps.length + 1)).datum sense all row = text p.toList := by
    rw [datum_bound bound, reads.parameter]
  cases anyCase with
  | false =>
    change sense.compare .like ((Operand.column column).datum sense all row)
      ((Operand.parameter (ps.length + 1)).datum sense all row) = _
    rw [own, pattern]
    exact reads.like _ _ _ matched
  | true =>
    change sense.compare .like (sense.upper ((Operand.column column).datum sense all row))
      (sense.upper ((Operand.parameter (ps.length + 1)).datum sense all row)) = _
    rw [own, pattern, reads.upper, reads.upper]
    exact reads.like _ _ _ matched

/-! ## Lookups and tests of text -/

namespace Field

variable {f : Field}

theorem mem_lookups_text (textual : f.kind.isTextual = true) {l : String × Lookup × ArgumentForm}
    (listed : l ∈ textLookups) : l ∈ f.lookups := by
  rw [lookups, if_pos textual]
  exact List.mem_append_right _ listed

/-- a lookup that does not take a flag binds what it makes of its argument -/
theorem runWith_condition {l : String × Lookup × ArgumentForm} {v p : Value}
    (encodes : l.2.2.encode f v = .ok (.parameter p)) (ps : List Value) :
    (f.condition l v).runWith ps =
      (.ok (l.2.1.condition (.column f.column) (.parameter (ps.length + 1)) false), ps ++ [p]) := by
  simp only [condition, Binding.runWith_seq, Binding.runWith_lift, encodes, Binding.runWith_bind_value,
    Binding.runWith_pure]

end Field

/-- a test that reads text compares it as the lookup with its suffix compares a column, with what this binds -/
theorem PathFilter.compile_text : ∀ x ∈ PathTest.suffixes, x.2.readsText = true →
    ∃ lookup form, ("__" ++ x.1, lookup, form) ∈ textLookups ∧ ∀ (path : JsonPath) (f : Field) (v : Value)
      (ps : List Value), ∃ p, form.encode f v = .ok (.parameter p) ∧
        (compile ⟨path, x.2⟩ v).runWith ps =
          (.ok (lookup.condition path.valueText (.parameter (ps.length + 1)) false), ps ++ [p]) := by
  have tests : ∀ x ∈ PathTest.suffixes, x.2.readsText = true →
      x ∈ [("startswith", PathTest.startsWith), ("endswith", .endsWith), ("istartswith", .startsWithAnyCase),
        ("iendswith", .endsWithAnyCase), ("icontains", .containsAnyCase), ("iexact", .exactAnyCase)] := by
    decide
  intro x mem reads
  have named := tests x mem reads
  simp only [List.mem_cons, List.not_mem_nil, or_false] at named
  rcases named with rfl | rfl | rfl | rfl | rfl | rfl
  · exact ⟨.like, .pattern .startsWith, by decide, fun _ _ _ _ => ⟨_, rfl, rfl⟩⟩
  · exact ⟨.like, .pattern .endsWith, by decide, fun _ _ _ _ => ⟨_, rfl, rfl⟩⟩
  · exact ⟨.likeAnyCase, .pattern .startsWith, by decide, fun _ _ _ _ => ⟨_, rfl, rfl⟩⟩
  · exact ⟨.likeAnyCase, .pattern .endsWith, by decide, fun _ _ _ _ => ⟨_, rfl, rfl⟩⟩
  · exact ⟨.likeAnyCase, .pattern .contains, by decide, fun _ _ _ _ => ⟨_, rfl, rfl⟩⟩
  · exact ⟨.exactAnyCase, .text, by decide, fun _ _ _ _ => ⟨_, rfl, rfl⟩⟩

/-- **Searches take their text literally.**  For every field that holds text and every text, a search binds a pattern
that matches a text just if this contains, begins with or ends with the text sought; where case does not matter, that is
so of both in capitals, for any capitals made character by character that leave the marks of patterns alone.  So the
condition holds of a row with a text in the column just if it is found there.  The tests of documents that read text
bind what the lookups with their suffixes bind, for every argument. -/
theorem Field.text_lookups_literal {f : Field} (textual : f.kind.isTextual = true) :
    (∀ suffix w anyCase, (suffix, w, anyCase) ∈ textSearches → ∃ l ∈ f.lookups, l.1 = suffix ∧
      ∀ (s : String) (ps : List Value), ∃ (c : Condition Operand) (p : String),
        (f.condition l (.string s)).runWith ps = (.ok c, ps ++ [.string p]) ∧
        ∀ capital, KeepsMarks capital → ∀ t : String,
          let found := decide (w.Finds (searched anyCase capital s.toList) (searched anyCase capital t.toList))
          like? (searched anyCase capital p.toList) (searched anyCase capital t.toList) = some found ∧
          ∀ {ρ δ : Type} (sense : Sense ρ δ) (text : List Char → δ) (all : List Value) (row : ρ),
            sense.ReadsText capital text → ps ++ [.string p] <+: all → sense.column row f.column = text t.toList →
            c.truth sense all row = .ofBool found) ∧
    ∀ suffix test, (suffix, test) ∈ PathTest.suffixes → test.readsText = true → ∃ l ∈ f.lookups,
      l.1 = "__" ++ suffix ∧ ∀ (path : JsonPath) (v : Value) (ps : List Value), ∃ p,
        (f.condition l v).runWith ps =
          (.ok (l.2.1.condition (.column f.column) (.parameter (ps.length + 1)) false), ps ++ [p]) ∧
        (PathFilter.compile ⟨path, test⟩ v).runWith ps =
          (.ok (l.2.1.condition path.valueText (.parameter (ps.length + 1)) false), ps ++ [p]) := by
  constructor
  · intro suffix w anyCase listed
    refine ⟨_, mem_lookups_text textual (search_listed _ listed), rfl, fun s ps => ?_⟩
    refine ⟨_, w.around s, runWith_condition rfl ps, fun capital keeps t => ?_⟩
    intro found
    have matched : like? (searched anyCase capital (w.around s).toList) (searched anyCase capital t.toList) =
        some found := by
      rw [w.toList_around]
      exact like_searched keeps anyCase w s.toList t.toList
    exact ⟨matched, fun sense text all row reads bound holds => truth_search reads holds bound anyCase matched⟩
  · intro suffix test mem reads
    obtain ⟨lookup, form, listed, same⟩ := PathFilter.compile_text _ mem reads
    refine ⟨_, mem_lookups_text textual listed, rfl, fun path v ps => ?_⟩
    obtain ⟨p, encodes, compiles⟩ := same path f v ps
    exact ⟨p, runWith_condition encodes ps, compiles⟩

/-- a text with marks in it is found where it stands, and nothing else is taken for it -/
theorem Field.text_lookups_literal_discount :
    ∃ (c : Condition Operand) (p : String),
      ((Field.new "name" .text).condition ("__icontains", .likeAnyCase, .pattern .contains)
        (.string "50%_off")).runWith [] = (.ok c, [.string p]) ∧
      c.truth Sql.values [.string p] [("name", .string "Now 50%_OFF!")] = .yes ∧
      c.truth Sql.values [.string p] [("name", .string "Now 500 OFF!")] = .no := by
  obtain ⟨searches, _⟩ := text_lookups_literal (f := Field.new "name" .text) rfl
  obtain ⟨l, hl, suffix, search⟩ := searches "__icontains" .contains true (by decide)
  obtain rfl : l = ("__icontains", .likeAnyCase, .pattern .contains) := eq_lookup hl (by decide) suffix
  obtain ⟨c, p, runs, finds⟩ := search "50%_off" []
  have found (t : String) := (finds Char.toUpper Sql.keepsMarks_toUpper t).2 Sql.values _ [.string p]
    [("name", .string t)] Sql.values_readsText (List.prefix_refl _) (congrArg Value.string t.ofList_toList.symm)
  exact ⟨c, p, runs, (found _).trans (by decide +kernel), (found _).trans (by decide +kernel)⟩

end Tabula
