import ScopedStyles.Proofs.Import.FilledClauses
/-!
# Imports with one comment

What an import binds with a comment in one of its gaps. Inert comments leave it as it is behind the
comma in front of a list, behind a list, and behind a namespace if a blank stands between the two.
Everywhere else in the clause they hide a name.
-/

namespace ScopedStyles.Import

open Text Statement Lexeme

/-! ## Layouts with one comment -/

/-- A layout of blanks in which no two words run together. -/
structure Form.Spaced (f : Form) (g : Layout) : Prop where
  blanks : ∀ p, ∀ c ∈ g p, isAsciiBlank c = true
  afterKeyword : g .afterKeyword ≠ []
  afterAs : f.extra.isNamespaced = true → g .afterAs ≠ []
  beforeFrom : f.extra.isList = false → g .beforeFrom ≠ []

/-- The layout in which a gap holds a comment between `front` and `back`. -/
def Layout.commented (g : Layout) (p : Gap) (front body back : List Char) : Layout :=
  Function.update g p (front ++ (blockComment body ++ back))

/-- What stands between the braces of a list. -/
def Extra.inside (g : Layout) : Extra → List Char
  | list front back => front ++ g .inList ++ back
  | _ => []

def Extra.namespaceName : Extra → Option String
  | namespaced name => some (String.ofList name)
  | _ => none

/-- The names that an import binds whose gaps hold only blanks. -/
def Form.bindings (f : Form) (g : Layout) : Bindings where
  default := some (String.ofList f.name)
  namespaceName := f.extra.namespaceName
  named := .ofList (Bindings.namedEntries (f.extra.inside g))

/-- The gaps that an import has. -/
def Form.Has (f : Form) : Gap → Prop
  | .afterKeyword | .beforeFrom | .beforeSpecifier => True
  | .afterName | .afterComma => f.extra ≠ .nothing
  | .afterStar | .afterAs => f.extra.isNamespaced = true
  | .inList => f.extra.isList = true
  | .beforeEnd => f.closed = true

/-- Whether the clause of an import still binds the same with a comment behind `front` in a gap. -/
def Form.Keeps (f : Form) (front : List Char) : Gap → Prop
  | .afterComma => f.extra.isList = true
  | .beforeFrom => f.extra.isList = true ∨ f.extra.isNamespaced = true ∧ front ≠ []
  | .beforeSpecifier | .beforeEnd => True
  | _ => False

theorem Form.Spaced.filled {P : List Char → Prop} {f : Form} {g : Layout} (h : f.Spaced g) :
    f.Filled P g where
  filler p := .blanks (h.blanks p)
  afterKeyword := h.afterKeyword
  afterAs := h.afterAs
  beforeFrom := h.beforeFrom

section

variable {f : Form} {g : Layout} {p : Gap} {front body back : List Char}

theorem slash_mem_commented_iff (hg : f.Spaced g) (q : Gap) :
    '/' ∈ g.commented p front body back q ↔ q = p := by
  unfold Layout.commented
  by_cases hq : q = p
  · simp [hq, blockComment]
  · rw [Function.update_of_ne hq]
    exact iff_of_false (not_mem_of_blanks (by decide) (hg.blanks q)) hq

theorem head?_commented_iff (hg : f.Spaced g) (hfront : ∀ c ∈ front, isAsciiBlank c = true)
    (q : Gap) :
    (g.commented p front body back q).head? = some '/' ↔ q = p ∧ front = [] := by
  unfold Layout.commented
  by_cases hq : q = p
  · cases front with
    | nil => simp [hq, blockComment]
    | cons c front =>
        have hc := hfront c List.mem_cons_self
        have hne : c ≠ '/' := by
          rintro rfl
          cases hc
        simp [hq, hne]
  · rw [Function.update_of_ne hq]
    refine iff_of_false (fun hhead => ?_) fun h => hq h.1
    exact not_mem_of_blanks (by decide) (hg.blanks q) (List.mem_of_head? hhead)

theorem sublist_commented (hgap : g p = front ++ back) (q : Gap) :
    (g q).Sublist (g.commented p front body back q) := by
  unfold Layout.commented
  by_cases hq : q = p
  · rw [hq, Function.update_self, hgap]
    exact (List.Sublist.refl front).append (List.sublist_append_right _ _)
  · rw [Function.update_of_ne hq]

theorem filled_commented {P : List Char → Prop} (hg : f.Spaced g) (hgap : g p = front ++ back)
    (hbody : P body) : f.Filled P (g.commented p front body back) := by
  have hne {q : Gap} (hq : g q ≠ []) : g.commented p front body back q ≠ [] := fun hnil =>
    hq (List.sublist_nil.1 (hnil ▸ sublist_commented hgap q))
  have hblanks := hg.blanks p
  rw [hgap, List.forall_mem_append] at hblanks
  refine ⟨fun q => ?_, hne hg.afterKeyword, fun h => hne (hg.afterAs h),
    fun h => hne (hg.beforeFrom h)⟩
  unfold Layout.commented
  by_cases hq : q = p
  · rw [hq, Function.update_self]
    exact .comment hblanks.1 hbody hblanks.2
  · rw [Function.update_of_ne hq]
    exact .blanks (hg.blanks q)

/-! ## What is bound -/

theorem ofClause_spaced (hf : f.WellFormed) (hg : f.Spaced g) :
    Bindings.ofClause (f.clause g) = f.bindings g := by
  have hfilled : f.Filled Inert g := hg.filled
  have hplain (q : Gap) : '/' ∉ g q := not_mem_of_blanks (by decide) (hg.blanks q)
  cases hextra : f.extra with
  | nothing =>
      rw [ofClause_of_nothing hf hfilled.filler hextra, if_neg (by simp [hplain]), Form.bindings,
        hextra]
      rfl
  | namespaced name =>
      have hwell := hf.extra
      rw [hextra] at hwell
      have hafterAs : g .afterAs ≠ [] := hg.afterAs (by rw [hextra]; rfl)
      have hnamespace := (namespaceName?_eq_some_iff (hfilled.filler .afterStar)
        (hfilled.filler .afterAs) hafterAs hwell.1 (hfilled.filler .beforeFrom)).2
        ⟨hplain _, hplain _, fun h => hplain _ (List.mem_of_head? h)⟩
      rw [ofClause_of_namespaced hf hfilled.filler hextra, if_neg (by simp [hplain]),
        if_neg (hplain _), hnamespace, Form.bindings, hextra]
      rfl
  | list before after =>
      rw [ofClause_of_list hf (fun q _ => hfilled.filler q) hextra, if_neg (by simp [hplain]),
        Form.bindings, hextra]
      rfl

theorem named_commented_iff (hg : f.Spaced g) {before after : List Char}
    (hinside : ∀ c ∈ before ++ after, c ≠ '/')
    (hnames : p = .inList → ((Bindings.namedEntries
      (before ++ g.commented p front body back .inList ++ after)).map Prod.fst).Nodup) :
    NameMap.ofList (Bindings.namedEntries
        (before ++ g.commented p front body back .inList ++ after)) =
      NameMap.ofList (Bindings.namedEntries (before ++ g .inList ++ after)) ↔ p ≠ .inList := by
  by_cases hp : p = .inList
  · have hmem : '/' ∈ g.commented p front body back .inList :=
      (slash_mem_commented_iff hg .inList).2 hp.symm
    have hgap : '/' ∉ g .inList := not_mem_of_blanks (by decide) (hg.blanks _)
    rw [List.forall_mem_append] at hinside
    have hnot : '/' ∉ before ++ g .inList ++ after := by
      simp only [List.mem_append, not_or]
      exact ⟨⟨fun h => hinside.1 _ h rfl, hgap⟩, fun h => hinside.2 _ h rfl⟩
    exact iff_of_false (ofList_namedEntries_ne (by simp [hmem]) hnot (hnames hp))
      fun hne => hne hp
  · have hsame : g.commented p front body back .inList = g .inList :=
      Function.update_of_ne (Ne.symm hp) _ _
    rw [hsame]
    exact iff_of_true rfl hp

theorem ofList_namedEntries_nil : NameMap.ofList (Bindings.namedEntries []) = .empty := rfl

/-- A comment leaves what an import binds as it is exactly in the gaps that keep it. -/
theorem ofClause_commented_iff (hf : f.WellFormed) (hg : f.Spaced g) (hhas : f.Has p)
    (hgap : g p = front ++ back) (hbody : Inert body)
    (hnames : p = .inList → ((Bindings.namedEntries
      (f.extra.inside (g.commented p front body back))).map Prod.fst).Nodup) :
    Bindings.ofClause (f.clause (g.commented p front body back)) = .ofClause (f.clause g) ↔
      f.Keeps front p := by
  have hfilled := filled_commented hg hgap hbody
  have hslash (q : Gap) : '/' ∈ g.commented p front body back q ↔ q = p :=
    slash_mem_commented_iff hg q
  rw [ofClause_spaced hf hg]
  cases hextra : f.extra with
  | nothing =>
      rw [ofClause_of_nothing hf hfilled.filler hextra, Form.bindings, hextra]
      simp only [hslash, Extra.namespaceName, Extra.inside, ofList_namedEntries_nil]
      cases p <;> simp_all [Form.Keeps, Form.Has, Extra.isList, Extra.isNamespaced]
  | namespaced name =>
      have hwell := hf.extra
      rw [hextra] at hwell
      have hnamespaced : f.extra.isNamespaced = true := by rw [hextra]; rfl
      have hfront : ∀ c ∈ front, isAsciiBlank c = true := fun c hc =>
        hg.blanks p c (hgap ▸ List.mem_append_left _ hc)
      have hcommented := namespaceName?_eq_some_iff (hfilled.filler .afterStar)
        (hfilled.filler .afterAs) (hfilled.afterAs hnamespaced) hwell.1
        (hfilled.filler .beforeFrom)
      rw [hslash, hslash, ne_eq, head?_commented_iff hg hfront] at hcommented
      rw [ofClause_of_namespaced hf hfilled.filler hextra, Form.bindings, hextra]
      simp only [hslash, Bindings.mk.injEq, Extra.namespaceName, Extra.inside,
        ofList_namedEntries_nil]
      cases p <;> simp_all [Form.Keeps, Form.Has, Extra.isList, Extra.isNamespaced]
  | list before after =>
      have hinside : ∀ c ∈ before ++ after, c ≠ '/' := fun c hc => by
        have hwell := hf.extra
        rw [hextra] at hwell
        exact (hwell c hc).2.1
      rw [hextra] at hnames
      have hnamed := named_commented_iff hg hinside hnames
      rw [ofClause_of_list hf (fun q _ => hfilled.filler q) hextra, Form.bindings, hextra]
      simp only [hslash, Bindings.mk.injEq, Extra.namespaceName, Extra.inside, hnamed]
      cases p <;> simp_all [Form.Keeps, Form.Has, Extra.isList, Extra.isNamespaced]

/-- A list does not bind the same with a comment in it, whatever the comment holds. -/
theorem ofClause_commented_inList_ne (hf : f.WellFormed) (hg : f.Spaced g)
    (hlist : f.extra.isList = true)
    (hnames : ((Bindings.namedEntries
      (f.extra.inside (g.commented .inList front body back))).map Prod.fst).Nodup) :
    Bindings.ofClause (f.clause (g.commented .inList front body back)) ≠ f.bindings g := by
  cases hextra : f.extra with
  | nothing | namespaced _ =>
      rw [hextra] at hlist
      cases hlist
  | list before after =>
      have hfiller (q : Gap) (hq : q ≠ .inList) :
          Filler Inert (g.commented .inList front body back q) := by
        rw [Layout.commented, Function.update_of_ne hq]
        exact .blanks (hg.blanks q)
      have hinside : ∀ c ∈ before ++ after, c ≠ '/' := fun c hc => by
        have hwell := hf.extra
        rw [hextra] at hwell
        exact (hwell c hc).2.1
      rw [hextra] at hnames
      have hnamed := named_commented_iff hg hinside fun _ => hnames
      rw [ofClause_of_list hf hfiller hextra, Form.bindings, hextra]
      intro heq
      exact hnamed.1 (congrArg Bindings.named heq) rfl

theorem not_mem_commented (hg : f.Spaced g) (hgap : g p = front ++ back) {c : Char}
    (hblank : isAsciiBlank c = false) (hbody : c ∉ body) (hsign : c ≠ '/' ∧ c ≠ '*') (q : Gap) :
    c ∉ g.commented p front body back q := by
  have hplain (q : Gap) : c ∉ g q := not_mem_of_blanks hblank (hg.blanks q)
  unfold Layout.commented
  by_cases hq : q = p
  · have hparts := hplain p
    rw [hgap, List.mem_append, not_or] at hparts
    rw [hq, Function.update_self]
    simp [blockComment, hparts, hbody, hsign]
  · rw [Function.update_of_ne hq]
    exact hplain q

variable (body) in
/-- With a comment next to a list there are only blanks around it, up to the list. -/
theorem exists_commented_parts (hg : f.Spaced g) (hp : p = .afterComma ∨ p = .beforeFrom)
    (hgap : g p = front ++ back) :
    ∃ lead trail, (∀ c ∈ lead, isAsciiBlank c = true) ∧ (∀ c ∈ trail, isAsciiBlank c = true) ∧
      g.commented p front body back .afterComma ++ g.commented p front body back .beforeFrom =
        lead ++ (blockComment body ++ trail) := by
  have hblanks := hg.blanks p
  rw [hgap, List.forall_mem_append] at hblanks
  unfold Layout.commented
  rcases hp with rfl | rfl
  · refine ⟨front, back ++ g .beforeFrom, hblanks.1,
      List.forall_mem_append.2 ⟨hblanks.2, hg.blanks _⟩, ?_⟩
    rw [Function.update_self, Function.update_of_ne (by decide)]
    simp only [List.append_assoc]
  · refine ⟨g .afterComma ++ front, back, List.forall_mem_append.2 ⟨hg.blanks _, hblanks.1⟩,
      hblanks.2, ?_⟩
    rw [Function.update_self, Function.update_of_ne (by decide)]
    simp only [List.append_assoc]

/-- Next to a list the parts of a comment between its commas are read as parts of the clause. -/
theorem ofClause_commented_parts (hf : f.WellFormed) (hg : f.Spaced g)
    (hlist : f.extra.isList = true) (hp : p = .afterComma ∨ p = .beforeFrom)
    (hgap : g p = front ++ back) (hbraces : ∀ c ∈ body, c ≠ '{' ∧ c ≠ '}') :
    Bindings.ofClause (f.clause (g.commented p front body back)) =
      (splitOn ',' (blockComment body)).foldl Bindings.addPart (f.bindings g) := by
  have hopen := not_mem_commented hg hgap (by decide) (fun h => (hbraces '{' h).1 rfl) (by decide)
  have hclose := not_mem_commented hg hgap (by decide) (fun h => (hbraces '}' h).2 rfl) (by decide)
  obtain ⟨lead, trail, hlead, htrail, hparts⟩ := exists_commented_parts body hg hp hgap
  have hsame {q : Gap} (hq : q ≠ .afterComma ∧ q ≠ .beforeFrom) :
      g.commented p front body back q = g q := by
    refine Function.update_of_ne ?_ _ _
    rcases hp with rfl | rfl
    · exact hq.1
    · exact hq.2
  have hkeyword := hsame (q := .afterKeyword) (by decide)
  have hname := hsame (q := .afterName) (by decide)
  have hinList := hsame (q := .inList) (by decide)
  have hplain (q : Gap) : '/' ∉ g q := not_mem_of_blanks (by decide) (hg.blanks q)
  cases hextra : f.extra with
  | nothing | namespaced _ =>
      rw [hextra] at hlist
      cases hlist
  | list before after =>
      rw [ofClause_of_parts hf (hkeyword ▸ .blanks (hg.blanks _)) (hname ▸ .blanks (hg.blanks _))
        (hopen _) (hclose _) hextra, hparts,
        Bindings.foldl_addPart_blanks_append (isBlank_of_all_ascii hlead),
        Bindings.foldl_addPart_append_blanks (isBlank_of_all_ascii htrail), hkeyword, hname,
        hinList, if_neg (by simp [hplain]), Form.bindings, hextra]
      rfl

end

end ScopedStyles.Import
