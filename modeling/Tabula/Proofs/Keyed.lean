import Tabula.Keyed
import Mathlib.Data.List.Basic
import Mathlib.Data.String.Basic
/-!
# Looking up, adding and removing entries by name
-/

namespace Tabula.Keyed

variable {α : Type} {key other : String} {value value' : α} {entries entries' : List (String × α)}

/-- what is found is an entry, whatever it is found by -/
theorem mem_of_lookup {κ : Type} [BEq κ] [LawfulBEq κ] {k : κ} {pairs : List (κ × α)} (h : pairs.lookup k = some value) :
    (k, value) ∈ pairs := by
  obtain ⟨front, back, all, _⟩ := List.lookup_eq_some_iff.mp h
  rw [all]
  exact List.mem_append_right front List.mem_cons_self

theorem find?_insert_self : find? key (insert key value entries) = some value := by
  unfold find?
  induction entries with
  | nil => simp [insert]
  | cons e rest ih =>
    unfold insert
    split
    · exact List.lookup_cons_self
    · split
      · exact List.lookup_cons_self
      · next differ => rw [List.lookup_cons, beq_false_of_ne differ, ih]

theorem find?_insert_of_ne (h : other ≠ key) : find? other (insert key value entries) = find? other entries := by
  unfold find?
  have skip : (other == key) = false := beq_false_of_ne h
  induction entries with
  | nil => simp [insert, List.lookup_cons, skip]
  | cons e rest ih =>
    unfold insert
    split
    · rw [List.lookup_cons, skip]
    · split
      · next same => rw [List.lookup_cons, List.lookup_cons, skip, ← same, skip]
      · rw [List.lookup_cons, List.lookup_cons, ih]

theorem insert_comm_of_lt (less : key < other) : insert key value (insert other value' entries) =
    insert other value' (insert key value entries) := by
  have notLess : ¬ other < key := not_lt_of_gt less
  have differ : other ≠ key := ne_of_gt less
  induction entries with
  | nil => simp [insert, less, notLess, differ]
  | cons e rest ih =>
    obtain ⟨k, v⟩ := e
    rcases lt_trichotomy key k with before | rfl | behind
    · rcases lt_trichotomy other k with further | rfl | short
      · simp [insert, before, further, less, notLess, differ]
      · simp [insert, before, notLess, differ]
      · simp [insert, before, not_lt_of_gt short, ne_of_gt short, notLess, differ]
    · simp [insert, notLess, differ]
    · have beyond : k < other := lt_trans behind less
      simp [insert, not_lt_of_gt behind, ne_of_gt behind, not_lt_of_gt beyond, ne_of_gt beyond, ih]

/-- entries under different names can be put in either order -/
theorem insert_comm (differ : key ≠ other) : insert key value (insert other value' entries) =
    insert other value' (insert key value entries) := by
  rcases lt_or_gt_of_ne differ with less | greater
  · exact insert_comm_of_lt less
  · exact (insert_comm_of_lt greater).symm

theorem contains_eq_isSome : contains key entries = (find? key entries).isSome := by
  unfold contains find?
  induction entries with
  | nil => rfl
  | cons e rest ih =>
    rw [List.any_cons, List.lookup_cons, ih]
    by_cases same : e.1 = key
    · simp [same]
    · simp [same, beq_false_of_ne (Ne.symm same)]

/-- an entry under a new name is removed again -/
theorem erase_insert (h : contains key entries = false) : erase key (insert key value entries) = entries := by
  unfold erase
  induction entries with
  | nil => simp [insert]
  | cons e rest ih =>
    have split_up : e.1 ≠ key ∧ contains key rest = false := by simpa [contains] using h
    have kept : rest.filter (fun e => e.1 ≠ key) = rest := by
      refine List.filter_eq_self.mpr fun x hx => ?_
      have absent := split_up.2
      simp only [contains, List.any_eq_false] at absent
      simpa using absent x hx
    unfold insert
    split
    · simpa [split_up.1] using kept
    · split
      · next same => exact absurd same.symm split_up.1
      · rw [List.filter_cons_of_pos (by simpa using split_up.1), ih split_up.2]

/-! ## Order -/

/-- whether entries are in the order of their names, each name once -/
def Ordered (entries : List (String × α)) : Prop := entries.Pairwise fun a b => a.1 < b.1

theorem insert_ne_nil : insert key value entries ≠ [] := by
  intro h
  have found : find? key (insert key value entries) = some value := find?_insert_self
  rw [h] at found
  cases found

theorem mem_of_mem_insert {x : String × α} (h : x ∈ insert key value entries) : x = (key, value) ∨ x ∈ entries := by
  induction entries with
  | nil => exact .inl (List.mem_singleton.mp h)
  | cons e rest ih =>
    unfold insert at h
    split at h
    · exact List.mem_cons.mp h
    · split at h
      · exact (List.mem_cons.mp h).imp_right (List.mem_cons_of_mem e)
      · rcases List.mem_cons.mp h with rfl | h
        · exact .inr List.mem_cons_self
        · exact (ih h).imp_right (List.mem_cons_of_mem e)

theorem Ordered.insert (h : Ordered entries) : Ordered (insert key value entries) := by
  induction entries with
  | nil => exact List.pairwise_singleton _ _
  | cons e rest ih =>
    obtain ⟨first, later⟩ := List.pairwise_cons.mp h
    unfold Keyed.insert
    split
    · next before =>
      refine List.pairwise_cons.mpr ⟨fun x hx => ?_, h⟩
      rcases List.mem_cons.mp hx with rfl | hx
      · exact before
      · exact lt_trans before (first x hx)
    · next notBefore =>
      split
      · next same => exact List.pairwise_cons.mpr ⟨fun x hx => same ▸ first x hx, later⟩
      · next differ =>
        refine List.pairwise_cons.mpr ⟨fun x hx => ?_, ih later⟩
        rcases mem_of_mem_insert hx with rfl | hx
        · exact lt_of_le_of_ne (not_lt.mp notBefore) (Ne.symm differ)
        · exact first x hx

/-- each entry is the one found under its name -/
theorem Ordered.find?_eq_some (h : Ordered entries) : find? key entries = some value ↔ (key, value) ∈ entries := by
  refine ⟨mem_of_lookup, fun hm => ?_⟩
  induction entries with
  | nil => cases hm
  | cons e rest ih =>
    obtain ⟨first, later⟩ := List.pairwise_cons.mp h
    unfold find? at ih ⊢
    rcases List.mem_cons.mp hm with rfl | hm
    · exact List.lookup_cons_self
    · rw [List.lookup_cons, beq_false_of_ne (ne_of_gt (first _ hm)), ih later hm]

theorem Ordered.nodup_names (h : Ordered entries) : (names entries).Nodup :=
  List.pairwise_map.mpr (h.imp fun less => ne_of_lt less)

/-- maps that give the same under every name are the same -/
theorem Ordered.ext (h : Ordered entries) (h' : Ordered entries')
    (same : ∀ key, find? key entries = find? key entries') : entries = entries' := by
  have members (x : String × α) : x ∈ entries ↔ x ∈ entries' := by
    rw [← h.find?_eq_some, ← h'.find?_eq_some, same]
  have nodup {l : List (String × α)} (h : Ordered l) : l.Nodup :=
    h.imp fun less equal => ne_of_lt less (congrArg _ equal)
  refine List.Perm.eq_of_pairwise ?_ h h' ((List.perm_ext_iff_of_nodup (nodup h) (nodup h')).mpr members)
  exact fun a b _ _ less greater => absurd less (not_lt_of_gt greater)

/-! ## Entries put in one after the other -/

theorem ordered_ofList (given : List (String × α)) : Ordered (ofList given) := by
  suffices from_ordered : ∀ entries, Ordered entries →
      Ordered (given.foldl (fun m e => insert e.1 e.2 m) entries) from from_ordered [] List.Pairwise.nil
  induction given with
  | nil => exact fun entries h => h
  | cons e given ih => exact fun entries h => ih _ h.insert

/-- of the entries under a name the last is found -/
theorem find?_ofList (given : List (String × α)) :
    find? key (ofList given) = ((given.filter fun e => e.1 = key).getLast?).map Prod.snd := by
  suffices onto : ∀ entries, find? key (given.foldl (fun m e => insert e.1 e.2 m) entries) =
      (((given.filter fun e => e.1 = key).getLast?).map Prod.snd).or (find? key entries) by
    rw [ofList, onto]
    exact Option.or_none
  induction given with
  | nil => exact fun entries => rfl
  | cons e given ih =>
    intro entries
    rw [List.foldl_cons, ih]
    by_cases same : e.1 = key
    · subst same
      rw [find?_insert_self, List.filter_cons_of_pos (by simp), List.getLast?_cons]
      cases (given.filter fun e' => e'.1 = e.1).getLast? <;> simp
    · rw [find?_insert_of_ne (Ne.symm same), List.filter_cons_of_neg (by simpa using same)]

end Tabula.Keyed
