import Tabula.Address.Basic
import Tabula.Proofs.Text.Percent
import Mathlib.Data.List.DropRight
import Mathlib.Data.List.TakeDrop
/-!
# Parameters appended to a URL

A parameter is appended to a URL behind the parameters that it has, and before its fragment, with escapes for all
characters that could mean something there.  Whatever a URL is, what is read of it then is what was read of it before,
with the parameter added: `appended_reads`.
-/

namespace Tabula.Address

variable {s h T T' : List Char} {p : Char → Bool} {o : String × String} {scheme : String} {a : Address}

/-! ## Appending -/

/-- characters that stand for themselves in a parameter -/
def isUnreserved (c : Char) : Bool := c.isAlphanum || c == '-' || c == '.' || c == '_' || c == '~'

/-- one side of a parameter as it is written -/
def encoded (s : String) : List Char := (Text.percentEncoded (fun c => !isUnreserved c) s).toList

/-- a parameter as it is written -/
def pairText (o : String × String) : List Char := encoded o.1 ++ '=' :: encoded o.2

/-- what stands before the fragment -/
def front (s : List Char) : List Char := s.takeWhile (· != '#')

/-- a URL with one parameter more -/
def withPair (s : List Char) (o : String × String) : List Char :=
  front s ++ (if '?' ∈ front s then '&' else '?') :: pairText o ++ s.dropWhile (· != '#')

/-- a URL with parameters appended, in the order given -/
def appended (url : String) (options : List (String × String)) : String :=
  String.ofList (options.foldl withPair (cleaned url))

/-! ## What is written is read back -/

/-- what is written of one side of a parameter -/
theorem mem_encoded {s : String} {c : Char} (mem : c ∈ encoded s) : isUnreserved c = true ∨ c = '%' := by
  refine Text.forall_mem_percentEncoded (P := fun c => isUnreserved c = true ∨ c = '%') (.inr rfl) ?_ ?_ s c mem
  · have each : ∀ n < 16, isUnreserved (Text.upperDigit n) = true := by decide
    exact fun n small => .inl (each n small)
  · exact fun c plain => .inl (by simpa using plain)

/-- characters that mean something in a URL are written as escapes -/
theorem not_mem_encoded {s : String} {c : Char} (reserved : isUnreserved c = false) (other : c ≠ '%') :
    c ∉ encoded s := by
  intro mem
  rcases mem_encoded mem with unreserved | percent
  · exact Bool.false_ne_true (reserved.symm.trans unreserved)
  · exact other percent

/-- a text is read back from what is written of it -/
theorem parameterText_encoded (s : String) : parameterText (encoded s) = s := by
  have plain : (encoded s).map (fun c => if c = '+' then ' ' else c) = encoded s := by
    conv_rhs => rw [← List.map_id (encoded s)]
    refine List.map_congr_left fun c mem => if_neg ?_
    rintro rfl
    exact not_mem_encoded rfl (by decide) mem
  rw [parameterText, plain, encoded, String.ofList_toList, Text.percentDecoded_percentEncoded rfl, Text.readable_utf8]

theorem parameter_pairText (o : String × String) : parameter (pairText o) = o := by
  have name : ∀ c ∈ encoded o.1, (c != '=') = true := by
    intro c mem
    refine bne_iff_ne.mpr ?_
    rintro rfl
    exact not_mem_encoded rfl (by decide) mem
  rw [parameter, pairText, List.span_eq_takeWhile_dropWhile, List.takeWhile_append_of_pos name,
    List.dropWhile_append_of_pos name]
  simp [parameterText_encoded]

theorem not_mem_pairText {c : Char} (reserved : isUnreserved c = false) (percent : c ≠ '%') (equals : c ≠ '=') :
    c ∉ pairText o := by
  rw [pairText, List.mem_append, List.mem_cons]
  rintro (mem | same | mem)
  · exact not_mem_encoded reserved percent mem
  · exact equals same
  · exact not_mem_encoded reserved percent mem

theorem parts_ne_nil {c : Char} (x : List Char) : Text.parts c x ≠ [] := by
  cases x with
  | nil => exact List.cons_ne_nil _ _
  | cons d x =>
    rw [Text.parts]
    split
    · exact List.cons_ne_nil _ _
    · split <;> exact List.cons_ne_nil _ _

theorem parts_append {c : Char} (x y : List Char) : Text.parts c (x ++ c :: y) = Text.parts c x ++ Text.parts c y := by
  induction x with
  | nil => simp [Text.parts]
  | cons d x ih =>
    rw [List.cons_append, Text.parts, Text.parts, ih]
    split
    · rfl
    · cases none : Text.parts c x with
      | nil => exact absurd none (parts_ne_nil x)
      | cons first rest => rfl

theorem parts_of_not_mem {c : Char} (absent : c ∉ s) : Text.parts c s = [s] := by
  induction s with
  | nil => rfl
  | cons d s ih =>
    obtain ⟨other, rest⟩ := not_or.mp (mt List.mem_cons.mpr absent)
    rw [Text.parts, if_neg (Ne.symm other), ih rest]

theorem parametersOf_append (x y : List Char) :
    parametersOf (x ++ '&' :: y) = parametersOf x ++ parametersOf y := by
  rw [parametersOf, parts_append, List.filter_append, List.map_append]
  rfl

theorem parametersOf_pairText (o : String × String) : parametersOf (pairText o) = [o] := by
  rw [parametersOf, parts_of_not_mem (not_mem_pairText rfl (by decide) (by decide))]
  have some : (!(pairText o).isEmpty) = true := by simp [pairText]
  simp [some, parameter_pairText]

/-! ## Behind the path -/

/-- whether a text stands behind the path: it is empty, or a query or fragment begins with it -/
def IsTail (T : List Char) : Prop := ∀ c, T.head? = some c → endsPath c = true

/-- the parameters of what stands behind the path, as written -/
def queryOf (T : List Char) : List Char := (front T).drop 1

theorem front_append (inner : ∀ c ∈ h, endsPath c = false) : front (h ++ T) = h ++ front T := by
  refine List.takeWhile_append_of_pos fun c mem => bne_iff_ne.mpr ?_
  rintro rfl
  cases inner '#' mem

/-- what is appended stands behind everything before the fragment -/
theorem front_withPair (s : List Char) (o : String × String) :
    front (withPair s o) = front s ++ (if '?' ∈ front s then '&' else '?') :: pairText o := by
  have unmarked : ∀ c ∈ front s ++ (if '?' ∈ front s then '&' else '?') :: pairText o, (c != '#') = true := by
    intro c mem
    rcases List.mem_append.mp mem with mem | mem
    · exact List.mem_takeWhile_imp (p := (· != '#')) mem
    refine bne_iff_ne.mpr ?_
    rintro rfl
    rcases List.mem_cons.mp mem with same | mem
    · split at same <;> cases same
    · exact not_mem_pairText rfl (by decide) (by decide) mem
  rw [withPair, front, List.takeWhile_append_of_pos unmarked]
  refine (congrArg _ ?_).trans (List.append_nil _)
  cases fragment : s.dropWhile (· != '#') with
  | nil => rfl
  | cons c rest =>
    have marked := List.head?_dropWhile_not (· != '#') s
    rw [fragment] at marked
    exact List.takeWhile_cons_of_neg (by simpa using marked)

theorem withPair_append (inner : ∀ c ∈ h, endsPath c = false) (o : String × String) :
    withPair (h ++ T) o = h ++ withPair T o := by
  have unmarked : ∀ c ∈ h, (c != '#') = true := by
    intro c mem
    refine bne_iff_ne.mpr ?_
    rintro rfl
    cases inner '#' mem
  have noQuery : '?' ∉ h := fun mem => by cases inner '?' mem
  simp [withPair, front_append inner, List.dropWhile_append_of_pos unmarked, noQuery]

/-- nothing but a query stands before the fragment there -/
theorem IsTail.front_eq (tail : IsTail T) : front T = [] ∨ ∃ q, front T = '?' :: q := by
  cases T with
  | nil => exact .inl rfl
  | cons c rest =>
    have ends := tail c rfl
    have either : c = '?' ∨ c = '#' := by simpa [endsPath] using ends
    rcases either with rfl | rfl
    · exact .inr ⟨_, rfl⟩
    · exact .inl rfl

theorem IsTail.withPair (tail : IsTail T) (o : String × String) : IsTail (withPair T o) := by
  intro c first
  rw [Address.withPair] at first
  rcases tail.front_eq with empty | ⟨q, query⟩
  · rw [empty] at first
    cases first
    rfl
  · rw [query] at first
    cases first
    rfl

/-- one parameter more -/
theorem IsTail.parameters (tail : IsTail T) (o : String × String) :
    parametersOf (queryOf (Address.withPair T o)) = parametersOf (queryOf T) ++ [o] := by
  rw [queryOf, front_withPair, queryOf]
  rcases tail.front_eq with empty | ⟨q, query⟩
  · rw [empty]
    exact parametersOf_pairText o
  · rw [query, if_pos List.mem_cons_self]
    exact (parametersOf_append q (pairText o)).trans (congrArg _ (parametersOf_pairText o))

/-- **Parameters are appended behind the path, one after the other.** -/
theorem appended_tail (inner : ∀ c ∈ h, endsPath c = false) (tail : IsTail T) (options : List (String × String)) :
    ∃ T', options.foldl withPair (h ++ T) = h ++ T' ∧ IsTail T' ∧
      parametersOf (queryOf T') = parametersOf (queryOf T) ++ options := by
  induction options generalizing T with
  | nil => exact ⟨T, rfl, tail, (List.append_nil _).symm⟩
  | cons o rest ih =>
    obtain ⟨T', same, tail', read⟩ := ih (tail.withPair o)
    refine ⟨T', ?_, tail', ?_⟩
    · rw [List.foldl_cons, withPair_append inner, same]
    · rw [read, tail.parameters, List.append_assoc, List.singleton_append]

/-! ## Characters that do not count -/

/-- whether a text consists of characters that count in a URL -/
structure Clean (s : List Char) : Prop where
  unbroken : ∀ c ∈ s, isBreak c = false
  first : ∀ c, s.head? = some c → isEdge c = false
  last : ∀ c, s.getLast? = some c → isEdge c = false

theorem isEdge_of_isBreak {c : Char} (h : isBreak c = true) : isEdge c = true := by
  have three : (c = '\t' ∨ c = '\n') ∨ c = '\r' := by simpa [isBreak] using h
  rcases three with (rfl | rfl) | rfl <;> rfl

theorem not_isEdge {c : Char} (h : isUnreserved c = true ∨ c = '%') : isEdge c = false := by
  by_contra edge
  have low : c.toNat < 0x21 := by simpa [isEdge, Nat.lt_succ_iff] using edge
  have each : ∀ n < 0x21, isUnreserved (Char.ofNat n) = false ∧ Char.ofNat n ≠ '%' := by decide
  have reserved := each c.toNat low
  rw [Char.ofNat_toNat] at reserved
  rcases h with unreserved | percent
  · exact Bool.false_ne_true (reserved.1.symm.trans unreserved)
  · exact reserved.2 percent

theorem not_isEdge_pairText {c : Char} (mem : c ∈ pairText o) : isEdge c = false := by
  rw [pairText, List.mem_append, List.mem_cons] at mem
  rcases mem with mem | rfl | mem
  · exact not_isEdge (mem_encoded mem)
  · rfl
  · exact not_isEdge (mem_encoded mem)

/-- the characters of a URL that count are those that count of them -/
theorem Clean.cleaned (h : Clean s) : cleaned (String.ofList s) = s := by
  have first : s.dropWhile isEdge = s := by
    cases s with
    | nil => rfl
    | cons c rest => exact List.dropWhile_cons_of_neg (by simp [h.first c rfl])
  have last : (s.reverse.dropWhile isEdge).reverse = s := by
    refine List.rdropWhile_eq_self_iff.mpr fun some => ?_
    simp [h.last _ (List.getLast?_eq_getLast_of_ne_nil some)]
  rw [Address.cleaned, String.toList_ofList, first, last]
  exact List.filter_eq_self.mpr fun c mem => by simp [h.unbroken c mem]

theorem head?_dropWhile {c : Char} (h : (s.dropWhile p).head? = some c) : p c = false := by
  have not := List.head?_dropWhile_not p s
  rw [h] at not
  exact Bool.eq_false_iff.mpr (by simpa using not)

/-- what is left of a text without its edges and breaks is clean -/
theorem clean_cleaned (url : String) : Clean (cleaned url) := by
  have keeps {c : Char} (edge : isEdge c = false) : (!isBreak c) = true := by
    cases broken : isBreak c with
    | false => rfl
    | true => exact absurd (isEdge_of_isBreak broken) (by simp [edge])
  -- no break stands at an end, so that leaving out breaks leaves the ends
  have filtered {t : List Char} {c : Char} (edge : ∀ d, t.head? = some d → isEdge d = false)
      (head : (t.filter fun c => !isBreak c).head? = some c) : isEdge c = false := by
    cases t with
    | nil => cases head
    | cons d rest =>
      rw [List.filter_cons, if_pos (keeps (edge d rfl))] at head
      exact edge c head
  refine ⟨fun c mem => by simpa using (List.mem_filter.mp mem).2, fun c head => filtered ?_ head, fun c last => ?_⟩
  · intro d first
    obtain ⟨rest, same⟩ : (url.toList.dropWhile isEdge).rdropWhile isEdge <+: _ := List.rdropWhile_prefix ..
    refine head?_dropWhile (s := url.toList) ?_
    rw [← same, List.head?_append, show (List.rdropWhile isEdge _).head? = some d from first]
    rfl
  · rw [cleaned, List.getLast?_eq_head?_reverse, ← List.filter_reverse, List.reverse_reverse] at last
    exact filtered (fun d => head?_dropWhile) last

/-- what is appended leaves a text clean -/
theorem Clean.withPair (h : Clean s) (o : String × String) : Clean (Address.withPair s o) := by
  have parts : front s ++ s.dropWhile (· != '#') = s := List.takeWhile_append_dropWhile
  have mark : isEdge (if '?' ∈ front s then '&' else '?') = false := by split <;> rfl
  refine ⟨fun c mem => ?_, fun c first => ?_, fun c last => ?_⟩
  · rw [Address.withPair, List.append_assoc, List.mem_append, List.cons_append, List.mem_cons, List.mem_append] at mem
    have unbroken {d : Char} (edge : isEdge d = false) : isBreak d = false :=
      Bool.eq_false_iff.mpr fun broken => by simp [isEdge_of_isBreak broken] at edge
    rcases mem with mem | rfl | mem | mem
    · exact h.unbroken c (parts ▸ List.mem_append_left _ mem)
    · exact unbroken mark
    · exact unbroken (not_isEdge_pairText mem)
    · exact h.unbroken c (parts ▸ List.mem_append_right _ mem)
  · cases begun : front s with
    | nil =>
      rw [Address.withPair, begun] at first
      cases first
      rfl
    | cons d rest =>
      rw [Address.withPair, begun] at first
      cases first
      exact h.first _ (by rw [← parts, begun]; rfl)
  · rw [Address.withPair, List.getLast?_append] at last
    cases fragment : s.dropWhile (· != '#') with
    | nil =>
      -- the parameter stands at the end
      have some : pairText o ≠ [] := by simp [pairText]
      rw [fragment, List.getLast?_nil, Option.none_or, List.getLast?_append_of_ne_nil _ (List.cons_ne_nil _ _),
        List.getLast?_cons_of_ne_nil some] at last
      exact not_isEdge_pairText (List.mem_of_getLast? last)
    | cons d rest =>
      rw [fragment, List.getLast?_cons] at last
      exact h.last c (by rw [← parts, fragment, List.getLast?_append, List.getLast?_cons]; exact last)

/-! ## Reading -/

/-- what reads up to a character stops in front of what it does not read -/
theorem takeWhile_stop (stops : ∀ c, T.head? = some c → p c = false) :
    (h ++ T).takeWhile p = h.takeWhile p ∧ (h ++ T).dropWhile p = h.dropWhile p ++ T := by
  induction h with
  | nil =>
    cases T with
    | nil => exact ⟨rfl, rfl⟩
    | cons c rest =>
      have stop : ¬ p c = true := by simp [stops c rfl]
      exact ⟨List.takeWhile_cons_of_neg stop, List.dropWhile_cons_of_neg stop⟩
  | cons d h ih =>
    rw [List.cons_append]
    by_cases reads : p d = true
    · rw [List.takeWhile_cons_of_pos reads, List.takeWhile_cons_of_pos reads, List.dropWhile_cons_of_pos reads,
        List.dropWhile_cons_of_pos reads, ih.1]
      exact ⟨rfl, ih.2⟩
    · rw [List.takeWhile_cons_of_neg reads, List.takeWhile_cons_of_neg reads, List.dropWhile_cons_of_neg reads,
        List.dropWhile_cons_of_neg reads]
      exact ⟨rfl, rfl⟩

theorem IsTail.eq_or (tail : IsTail T) {c : Char} (first : T.head? = some c) : c = '?' ∨ c = '#' := by
  simpa [endsPath] using tail c first

/-- the scheme does not depend on what stands behind the path -/
theorem scheme?_append (tail : IsTail T) :
    scheme? (h ++ T) = (scheme? h).map fun r => (r.1, r.2 ++ T) := by
  have stops : ∀ c, T.head? = some c → isSchemeChar c = false := by
    intro c first
    rcases tail.eq_or first with rfl | rfl <;> rfl
  have colon : ∀ rest, T ≠ ':' :: rest := by
    rintro rest rfl
    rcases tail.eq_or (c := ':') rfl with same | same <;> cases same
  simp only [scheme?, List.span_eq_takeWhile_dropWhile, (takeWhile_stop stops).1, (takeWhile_stop stops).2]
  generalize h.takeWhile isSchemeChar = x
  generalize h.dropWhile isSchemeChar = y
  cases x with
  | nil => rfl
  | cons c cs =>
    cases y with
    | nil =>
      rw [List.nil_append]
      split
      · next rest same => exact absurd (Prod.mk.inj same).2 (colon _)
      · rfl
    | cons d y =>
      by_cases here : d = ':'
      · subst here
        simp only [List.cons_append]
        split <;> rfl
      · simp [here]

theorem scheme?_subset {r : List Char} (found : scheme? s = some (scheme, r)) : r ⊆ s := by
  rw [scheme?, List.span_eq_takeWhile_dropWhile] at found
  split at found
  · next c cs rest same =>
    obtain ⟨-, dropped⟩ := Prod.mk.inj same
    split at found
    · cases found
      exact fun d mem => (List.dropWhile_suffix isSchemeChar).subset (dropped ▸ List.mem_cons_of_mem ':' mem)
    · cases found
  · cases found

/-- the path of a URL as written -/
def pathOf (hasHost : Bool) : List Char → String
  | [] => ""
  | '/' :: p => pathText p
  | p => if hasHost then pathText p else String.ofList p

theorem withTail_append (inner : ∀ c ∈ h, endsPath c = false) (tail : IsTail T) (hasHost : Bool) :
    a.withTail hasHost (h ++ T) =
      { a with path := pathOf hasHost h, parameters := parametersOf (queryOf T) } := by
  have reads : ∀ c ∈ h, (!endsPath c) = true := fun c mem => by simp [inner c mem]
  have path : (h ++ T).takeWhile (fun c => !endsPath c) = h ∧ (h ++ T).dropWhile (fun c => !endsPath c) = T := by
    rw [List.takeWhile_append_of_pos reads, List.dropWhile_append_of_pos reads]
    cases T with
    | nil => exact ⟨List.append_nil h, rfl⟩
    | cons c rest =>
      have stop : ¬ (!endsPath c) = true := by simp [tail c rfl]
      rw [List.takeWhile_cons, if_neg stop, List.dropWhile_cons, if_neg stop]
      exact ⟨List.append_nil h, rfl⟩
  simp only [withTail, List.span_eq_takeWhile_dropWhile, path.1, path.2]
  cases T with
  | nil => rfl
  | cons c rest =>
    rcases tail.eq_or (c := c) rfl with rfl | rfl
    · rfl
    · rfl

/-! ### The authority -/

/-- whether an authority has an empty user and no host, which may not be if anything follows -/
def isBare (text : List Char) : Bool :=
  let (credentialText, place) := spanLast '@' text
  credentialText = some [] && place.isEmpty

/-- user, password, host and port, and what is left of them -/
def placeOf (scheme : String) (text : List Char) : Except AddressFault (Address × List Char) := do
  let (credentialText, place) := spanLast '@' text
  let (user, password) := credentials (credentialText.getD [])
  let (hostText, portText) := spanHost false place
  let host ← Host.ofText hostText
  if host = "" && !portText.isEmpty then throw .emptyHost
  let (port, tail) ← port? (portText.drop 1)
  if host = "" && (user ≠ "" || password.isSome) then throw .emptyHost
  return ({ scheme, user, password, host, port }, tail)

theorem authority_eq (s : List Char) : authority scheme s =
    let (text, rest) := s.span fun c => !endsAuthority c
    if isBare text && !rest.isEmpty then .error .emptyHost
    else (placeOf scheme text).map fun (a, tail) => (a, tail ++ rest) := by
  rw [authority]
  generalize s.span (fun c => !endsAuthority c) = parted
  obtain ⟨text, rest⟩ := parted
  simp only [isBare, placeOf]
  generalize spanLast '@' text = login
  obtain ⟨credentialText, place⟩ := login
  simp only
  split
  · rfl
  · cases Host.ofText (spanHost false place).1 with
    | error f => rfl
    | ok host =>
      simp only [bind, Except.bind, Except.map, pure, Except.pure]
      split
      · rfl
      · cases port? ((spanHost false place).2.drop 1) with
        | error f => rfl
        | ok ported =>
          simp only
          split
          · rfl
          · rfl

theorem spanLast_subset {c : Char} : (spanLast c s).2 ⊆ s := by
  intro d mem
  rw [spanLast, List.span_eq_takeWhile_dropWhile] at mem
  cases before : s.reverse.dropWhile (· != c) with
  | nil =>
    rw [before] at mem
    exact mem
  | cons e rest =>
    rw [before] at mem
    exact List.mem_reverse.mp ((List.takeWhile_prefix _).subset (List.mem_reverse.mp mem))

theorem spanHost_subset {inside : Bool} : (spanHost inside s).2 ⊆ s := by
  induction s generalizing inside with
  | nil => exact List.nil_subset _
  | cons c s ih =>
    rw [spanHost]
    split
    · exact List.Subset.refl _
    · exact fun d mem => List.mem_cons_of_mem c (ih mem)

theorem port?_subset {n : Option Nat} {rest : List Char} (read : port? s = .ok (n, rest)) : rest ⊆ s := by
  simp only [port?, Text.spanDigits, List.span_eq_takeWhile_dropWhile] at read
  split at read
  · cases read
  · split at read
    · cases read
      exact (List.dropWhile_suffix _).subset
    · cases read

theorem except_bind_ok {ε α β : Type} {x : Except ε α} {f : α → Except ε β} {b : β} :
    (x >>= f) = .ok b ↔ ∃ a, x = .ok a ∧ f a = .ok b := by
  cases x <;> simp [bind, Except.bind]

/-- what is left of an authority is part of it, and nothing is left of a bare one -/
theorem placeOf_ok {text tail : List Char} (read : placeOf scheme text = .ok (a, tail)) :
    tail ⊆ text ∧ (isBare text = true → tail = []) := by
  have subset : (spanHost false (spanLast '@' text).2).2 ⊆ text := fun c mem => spanLast_subset (spanHost_subset mem)
  have bare (h : isBare text = true) : (spanLast '@' text).2 = [] := by simp [isBare] at h; exact h.2
  simp only [placeOf] at read
  obtain ⟨host, -, read⟩ := except_bind_ok.mp read
  split at read
  · cases read
  obtain ⟨⟨port, rest⟩, ported, read⟩ := except_bind_ok.mp read
  simp only at read
  split at read
  · cases read
  cases read
  have left : tail ⊆ (spanHost false (spanLast '@' text).2).2.drop 1 := port?_subset ported
  refine ⟨fun c mem => subset (List.mem_of_mem_drop (left mem)), fun h => ?_⟩
  rw [bare h] at left
  exact List.subset_nil.mp left

/-- **An authority is read without what stands behind the path**, unless nothing is left of the URL. -/
theorem authority_append (inner : ∀ c ∈ h, endsPath c = false) (tail : IsTail T) (tail' : IsTail T')
    {left : List Char} (read : authority scheme (h ++ T) = .ok (a, left)) :
    ∃ h', left = h' ++ T ∧ (∀ c ∈ h', endsPath c = false) ∧
      (h' ≠ [] → authority scheme (h ++ T') = .ok (a, h' ++ T')) := by
  have stops {T : List Char} (tail : IsTail T) : ∀ c, T.head? = some c → (!endsAuthority c) = false := by
    intro c first
    rcases tail.eq_or first with rfl | rfl <;> rfl
  rw [authority_eq, List.span_eq_takeWhile_dropWhile, (takeWhile_stop (stops tail)).1,
    (takeWhile_stop (stops tail)).2] at read
  rw [authority_eq, List.span_eq_takeWhile_dropWhile, (takeWhile_stop (stops tail')).1,
    (takeWhile_stop (stops tail')).2]
  simp only at read ⊢
  split at read
  · cases read
  next follows =>
  cases place : placeOf scheme (h.takeWhile fun c => !endsAuthority c) with
  | error f =>
    rw [place] at read
    cases read
  | ok found =>
    obtain ⟨b, rest⟩ := found
    rw [place] at read
    cases read
    obtain ⟨subset, bare⟩ := placeOf_ok place
    refine ⟨rest ++ h.dropWhile fun c => !endsAuthority c, (List.append_assoc ..).symm, fun c mem => ?_, fun some => ?_⟩
    · rcases List.mem_append.mp mem with mem | mem
      · exact inner c ((List.takeWhile_prefix _).subset (subset mem))
      · exact inner c ((List.dropWhile_suffix _).subset mem)
    · have fine : isBare (h.takeWhile fun c => !endsAuthority c) = false := by
        by_contra isBare
        rw [Bool.not_eq_false] at isBare
        obtain rfl := bare isBare
        rw [List.nil_append] at some
        simp [isBare, some] at follows
      simp [fine, Except.map]

/-! ### The whole URL -/

/-- what is read of a URL behind its scheme, where the scheme has no rules of its own -/
def ofBody (scheme : String) (s : List Char) : Except AddressFault Address :=
  match s with
  | '/' :: '/' :: s => (authority scheme s).map fun (a, tail) => a.withTail true tail
  | s => .ok (({ scheme } : Address).withTail false s)

theorem ofText_eq (url : String) : ofText url =
    match scheme? (cleaned url) with
    | none => .error .noScheme
    | some (scheme, rest) =>
      if webSchemes.contains scheme then (checkWeb rest).map fun _ => { scheme := scheme }
      else if scheme = "file" then (checkFile rest).map fun _ => { scheme := scheme }
      else ofBody scheme rest := rfl

/-- **What is read of a URL with a path does not depend on what stands behind the path**, parameters apart. -/
theorem ofBody_append (inner : ∀ c ∈ h, endsPath c = false) (tail : IsTail T) (tail' : IsTail T')
    (read : ofBody scheme (h ++ T) = .ok a) (path : a.path ≠ "") :
    a.parameters = parametersOf (queryOf T) ∧
      ofBody scheme (h ++ T') = .ok { a with parameters := parametersOf (queryOf T') } := by
  by_cases hosted : ∃ s, h = '/' :: '/' :: s
  · obtain ⟨s, rfl⟩ := hosted
    have inner : ∀ c ∈ s, endsPath c = false :=
      fun c mem => inner c (List.mem_cons_of_mem _ (List.mem_cons_of_mem _ mem))
    simp only [List.cons_append, ofBody] at read ⊢
    cases found : authority scheme (s ++ T) with
    | error f =>
      rw [found] at read
      cases read
    | ok placed =>
      obtain ⟨b, left⟩ := placed
      obtain ⟨h', rfl, inner', again⟩ := authority_append inner tail tail' found
      rw [found] at read
      simp only [Except.map, withTail_append inner' tail] at read
      cases read
      have some : h' ≠ [] := by
        rintro rfl
        exact path rfl
      refine ⟨rfl, ?_⟩
      rw [again some]
      simp only [Except.map, withTail_append inner' tail']
  · have plain {T : List Char} (tail : IsTail T) :
        ofBody scheme (h ++ T) = .ok (({ scheme } : Address).withTail false (h ++ T)) := by
      have noSlash : ∀ rest, T ≠ '/' :: rest := by
        rintro rest rfl
        rcases tail.eq_or (c := '/') rfl with same | same <;> cases same
      rw [ofBody]
      rintro s same
      rcases h with _ | ⟨c, _ | ⟨d, h⟩⟩
      · exact noSlash _ same
      · exact noSlash _ (List.cons.inj same).2
      · cases same
        exact hosted ⟨h, rfl⟩
    rw [plain tail, withTail_append inner tail] at read
    cases read
    exact ⟨rfl, by rw [plain tail', withTail_append inner tail']⟩

theorem clean_appended (url : String) (options : List (String × String)) :
    Clean (options.foldl withPair (cleaned url)) := by
  have each : ∀ s, Clean s → Clean (options.foldl withPair s) := by
    induction options with
    | nil => exact fun s clean => clean
    | cons o rest ih => exact fun s clean => ih _ (clean.withPair o)
  exact each _ (clean_cleaned url)

/-- a text is what stands up to the end of the path, and behind it -/
theorem exists_parts (s : List Char) : ∃ h T, s = h ++ T ∧ (∀ c ∈ h, endsPath c = false) ∧ IsTail T := by
  refine ⟨s.takeWhile fun c => !endsPath c, s.dropWhile fun c => !endsPath c,
    List.takeWhile_append_dropWhile.symm, fun c mem => ?_, fun c first => ?_⟩
  · simpa using List.mem_takeWhile_imp mem
  · simpa using head?_dropWhile first

/-- **What is read of a URL with parameters appended.**  Both URLs have a scheme or none has; behind it, where the scheme
has no rules of its own, each is read if the other is and has a path, with the same result but for the parameters. -/
theorem appended_reads (url : String) (options : List (String × String)) :
    (scheme? (cleaned url) = none ∧ scheme? (cleaned (appended url options)) = none) ∨
    ∃ scheme rest rest', scheme? (cleaned url) = some (scheme, rest) ∧
      scheme? (cleaned (appended url options)) = some (scheme, rest') ∧
      ∀ a, a.path ≠ "" → 
        (ofBody scheme rest = .ok a → ofBody scheme rest' = .ok { a with parameters := a.parameters ++ options }) ∧
        (ofBody scheme rest' = .ok a →
          ∃ before, a.parameters = before ++ options ∧ ofBody scheme rest = .ok { a with parameters := before }) := by
  obtain ⟨h, T, parts, inner, tail⟩ := exists_parts (cleaned url)
  obtain ⟨T', same, tail', parameters⟩ := appended_tail inner tail options
  have again : cleaned (appended url options) = h ++ T' := by
    rw [appended, (clean_appended url options).cleaned, parts, same]
  rw [again, parts, scheme?_append tail, scheme?_append tail']
  cases found : scheme? h with
  | none => exact .inl ⟨rfl, rfl⟩
  | some parted =>
    obtain ⟨scheme, r⟩ := parted
    have inner : ∀ c ∈ r, endsPath c = false := fun c mem => inner c (scheme?_subset found mem)
    refine .inr ⟨scheme, r ++ T, r ++ T', rfl, rfl, fun a path => ⟨fun read => ?_, fun read => ?_⟩⟩
    · obtain ⟨given, read'⟩ := ofBody_append inner tail tail' read path
      rw [given, ← parameters]
      exact read'
    · obtain ⟨given, read'⟩ := ofBody_append inner tail' tail read path
      exact ⟨_, given.trans parameters, read'⟩

end Tabula.Address
