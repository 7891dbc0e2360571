import ScopedStyles.Proofs.Json.Objects
/-!
# Arrays and objects that are read back

What is written between brackets with commas between the entries is read entry by entry, and nothing
behind the closing bracket is looked at.
-/

namespace ScopedStyles.Json

/-- The entries behind the first one, with the commas in front of them. -/
def behindCommas (items : List (List Char)) : List Char :=
  items.flatMap (',' :: ·)

theorem behindCommas_cons_append (item : List Char) (items : List (List Char)) (rest : List Char) :
    behindCommas (item :: items) ++ rest = ',' :: (item ++ (behindCommas items ++ rest)) := by
  simp only [behindCommas, List.flatMap_cons, List.cons_append, List.append_assoc]

theorem intercalate_cons_append (item : List Char) (items : List (List Char)) (rest : List Char) :
    [','].intercalate (item :: items) ++ rest = item ++ (behindCommas items ++ rest) := by
  induction items generalizing item with
  | nil => rw [List.intercalate_singleton]; rfl
  | cons next items ih =>
      rw [List.intercalate_cons_cons, List.append_assoc, List.append_assoc, ih next,
        behindCommas_cons_append]
      rfl

theorem length_le_length_behindCommas (items : List (List Char)) :
    items.length ≤ (behindCommas items).length := by
  induction items with
  | nil => exact Nat.le_refl 0
  | cons item items ih =>
      rw [behindCommas, List.flatMap_cons, List.length_append, ← behindCommas, List.length_cons,
        List.length_cons]
      omega

/-- No blanks. -/
theorem isBlank_of_mem_nil : ∀ c ∈ ([] : List Char), isBlank c = true :=
  List.forall_mem_nil _

/-! ## Arrays of texts -/

/-- Texts as JSON strings. -/
def texts (items : List String) : List (List Char) :=
  items.map fun item => encode item.toList

theorem text_encode_append (expected value : String) (rest : List Char) :
    text expected (encode value.toList ++ rest) = .ok (value, rest) :=
  text_encode isBlank_of_mem_nil expected value rest

section

variable (expected expectedText : String)

theorem elements_behindCommas {items : List String} {fuel : Nat} (hfuel : items.length < fuel)
    (rest : List Char) :
    elements (text expectedText) fuel false (behindCommas (texts items) ++ ']' :: rest) =
      .ok (items, rest) := by
  -- An element takes one of the fuel, and the closing bracket the last of it.
  induction items generalizing fuel with
  | nil =>
      obtain ⟨fuel, rfl⟩ := Nat.exists_eq_add_of_le' (Nat.one_le_of_lt hfuel)
      rfl
  | cons item items ih =>
      obtain ⟨fuel, rfl⟩ := Nat.exists_eq_add_of_le' (Nat.one_le_of_lt hfuel)
      have hnext : nextEntry ']' false (',' :: (encode item.toList ++
          (behindCommas (texts items) ++ ']' :: rest))) =
          .ok (true, encode item.toList ++ (behindCommas (texts items) ++ ']' :: rest)) := by
        rw [encode_append]
        exact nextEntry_later isBlank_of_mem_nil (by decide) (by decide) _
      rw [elements, texts, List.map_cons, behindCommas_cons_append, ← texts, hnext]
      simp only [bind, Except.bind, if_true, text_encode_append,
        ih (Nat.lt_of_succ_lt_succ hfuel)]
      rfl

/-- A written array of texts is read back. -/
theorem array_texts (items : List String) (rest : List Char) :
    array expected (text expectedText) ('[' :: ([','].intercalate (texts items) ++ ']' :: rest)) =
      .ok (items, rest) := by
  cases items with
  | nil => rfl
  | cons item items =>
      rw [texts, List.map_cons, intercalate_cons_append, ← texts]
      have hnext : nextEntry ']' true (encode item.toList ++
          (behindCommas (texts items) ++ ']' :: rest)) =
          .ok (true, encode item.toList ++ (behindCommas (texts items) ++ ']' :: rest)) := by
        rw [encode_append]
        exact nextEntry_first isBlank_of_mem_nil (by decide) (by decide) _
      have hfuel : items.length <
          (encode item.toList ++ (behindCommas (texts items) ++ ']' :: rest)).length := by
        have hlength := length_le_length_behindCommas (texts items)
        rw [texts, List.length_map, ← texts] at hlength
        simp only [List.length_append, List.length_cons]
        omega
      have hopen : array expected (text expectedText) ('[' :: (encode item.toList ++
          (behindCommas (texts items) ++ ']' :: rest))) = elements (text expectedText)
          ((encode item.toList ++ (behindCommas (texts items) ++ ']' :: rest)).length + 1) true
          (encode item.toList ++ (behindCommas (texts items) ++ ']' :: rest)) := rfl
      rw [hopen, elements, hnext]
      simp only [bind, Except.bind, if_true, text_encode_append, elements_behindCommas _ hfuel]
      rfl

end

/-! ## Objects -/

/-- Behind `rest`, the members of an object go on or end. -/
def Delimits (rest : List Char) : Prop :=
  ∃ c ∈ [',', '}'], ∃ cs, rest = c :: cs

section

variable {α σ : Type} {member : String → σ → Reader σ} {entry : α → String × List Char}
  {Left : List α → σ → Prop}

/-- Members as JSON writes them. -/
def memberTexts (entries : List (String × List Char)) : List (List Char) :=
  entries.map fun e => encode e.1.toList ++ ':' :: e.2

/-- `member` reads the members of the items that are left: what is read of the first one is right
for the others. -/
def Reads (member : String → σ → Reader σ) (entry : α → String × List Char)
    (Left : List α → σ → Prop) : Prop :=
  ∀ a items state, Left (a :: items) state → ∃ state', Left items state' ∧
    ∀ rest, Delimits rest →
      member (entry a).1 state (':' :: ((entry a).2 ++ rest)) = .ok (state', rest)

theorem delimits_behindCommas (items : List (List Char)) (rest : List Char) :
    Delimits (behindCommas items ++ '}' :: rest) := by
  cases items with
  | nil => exact ⟨'}', by decide, rest, rfl⟩
  | cons item items => exact ⟨',', by decide, _, behindCommas_cons_append _ _ _⟩

theorem exists_members_behindCommas (hreads : Reads member entry Left) {items : List α}
    {fuel : Nat} (hfuel : items.length < fuel) {state : σ} (hleft : Left items state)
    (rest : List Char) :
    ∃ state', Left [] state' ∧ members member fuel false state
      (behindCommas (memberTexts (items.map entry)) ++ '}' :: rest) = .ok (state', rest) := by
  induction items generalizing fuel state with
  | nil =>
      obtain ⟨fuel, rfl⟩ := Nat.exists_eq_add_of_le' (Nat.one_le_of_lt hfuel)
      exact ⟨state, hleft, members_close isBlank_of_mem_nil fuel false state rest⟩
  | cons a items ih =>
      obtain ⟨fuel, rfl⟩ := Nat.exists_eq_add_of_le' (Nat.one_le_of_lt hfuel)
      obtain ⟨next, hnext, hmember⟩ := hreads a items state hleft
      obtain ⟨last, hlast, hmembers⟩ := ih (Nat.lt_of_succ_lt_succ hfuel) hnext
      refine ⟨last, hlast, ?_⟩
      have hlater := members_later isBlank_of_mem_nil (hmember _ (delimits_behindCommas
        (memberTexts (items.map entry)) rest)) fuel
      rw [List.map_cons, memberTexts, List.map_cons, ← memberTexts, behindCommas_cons_append,
        List.append_assoc]
      exact hlater.trans hmembers

theorem exists_object (hreads : Reads member entry Left) (expected : String) {items : List α}
    {state : σ} (hleft : Left items state) (rest : List Char) :
    ∃ state', Left [] state' ∧ object expected member state
      ('{' :: ([','].intercalate (memberTexts (items.map entry)) ++ '}' :: rest)) =
        .ok (state', rest) := by
  cases items with
  | nil => exact ⟨state, hleft, rfl⟩
  | cons a items =>
      obtain ⟨next, hnext, hmember⟩ := hreads a items state hleft
      rw [List.map_cons, memberTexts, List.map_cons, ← memberTexts, intercalate_cons_append,
        List.append_assoc]
      have hfuel : items.length < (encode (entry a).1.toList ++ (':' :: (entry a).2 ++
          (behindCommas (memberTexts (items.map entry)) ++ '}' :: rest))).length := by
        have hlength := length_le_length_behindCommas (memberTexts (items.map entry))
        rw [memberTexts, List.length_map, List.length_map, ← memberTexts] at hlength
        simp only [List.length_append, List.length_cons]
        omega
      obtain ⟨last, hlast, hmembers⟩ := exists_members_behindCommas hreads hfuel hnext rest
      have hfirst := members_first isBlank_of_mem_nil (hmember _ (delimits_behindCommas
        (memberTexts (items.map entry)) rest))
      exact ⟨last, hlast, (hfirst _).trans hmembers⟩

end

end ScopedStyles.Json
