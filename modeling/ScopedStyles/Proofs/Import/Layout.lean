import ScopedStyles.Proofs.Import.Importless
/-!
# Imports with their gaps

An import with a default name, written as its tokens with a gap between every two of them. However
the gaps are filled with blanks and comments, it is read as one import, as long as its clause goes
on over the comments and none stands right in front of the specifier. A clause goes on over every
inert comment.
-/

namespace ScopedStyles.Import

open Text Statement Lexeme

/-! ## Forms -/

/-- The gaps between the tokens of an import. A named list has as many gaps as it has tokens, and
`inList` is one of them. -/
inductive Gap where
  | afterKeyword
  | afterName
  | afterComma
  | afterStar
  | afterAs
  | inList
  | beforeFrom
  | beforeSpecifier
  | beforeEnd
  deriving DecidableEq

/-- What stands in each gap. -/
abbrev Layout := Gap → List Char

/-- What is bound next to the default name: a namespace, or a list of which `front` stands in front
of a gap and `back` behind it. -/
inductive Extra where
  | nothing
  | namespaced (name : List Char)
  | list (front back : List Char)

/-- An import with a default name, without its gaps. -/
structure Form where
  name : List Char
  extra : Extra
  specifier : List Char
  /-- The quotes around the specifier. -/
  quote : Char
  /-- Whether a `;` ends the import. -/
  closed : Bool

namespace Extra

def text (g : Layout) : Extra → List Char
  | nothing => []
  | namespaced name =>
    g .afterName ++ ',' :: (g .afterComma ++ '*' :: (g .afterStar ++ (['a', 's'] ++
      (g .afterAs ++ name))))
  | list front back =>
    g .afterName ++ ',' :: (g .afterComma ++ '{' :: (front ++ g .inList ++ back ++ ['}']))

/-- A namespace is an identifier, and the names of a list are not quoted. -/
def WellFormed : Extra → Prop
  | nothing => True
  | namespaced name => Bindings.isIdentifier name = true ∧ name ≠ fromWord
  | list front back => ∀ c ∈ front ++ back, isQuote c = false ∧ c ≠ '/' ∧ c ≠ '{' ∧ c ≠ '}'

def isNamespaced : Extra → Bool
  | namespaced _ => true
  | _ => false

def isList : Extra → Bool
  | list _ _ => true
  | _ => false

end Extra

namespace Form

/-- What stands between the keyword and `from`. -/
def clause (f : Form) (g : Layout) : List Char :=
  g .afterKeyword ++ (f.name ++ (f.extra.text g ++ g .beforeFrom))

/-- What stands behind the specifier's closing quote. -/
def ending (f : Form) (g : Layout) : List Char :=
  if f.closed then g .beforeEnd ++ [';'] else []

/-- What stands behind the keyword. -/
def body (f : Form) (g : Layout) : List Char :=
  f.clause g ++ (fromWord ++ (g .beforeSpecifier ++
    f.quote :: (f.specifier ++ f.quote :: f.ending g)))

/-- The import as it is written. -/
def text (f : Form) (g : Layout) : List Char :=
  keyword ++ f.body g

/-- Forms of scripts. The default name is neither `from`, which would end the clause, nor `type`,
which can make it one of types. -/
structure WellFormed (f : Form) : Prop where
  name : Bindings.isIdentifier f.name = true
  ne_from : f.name ≠ fromWord
  ne_type : f.name ≠ ['t', 'y', 'p', 'e']
  extra : f.extra.WellFormed
  quote : f.quote = '"' ∨ f.quote = '\''
  specifier : f.quote ∉ f.specifier ∧ '\n' ∉ f.specifier

/-- Gaps are filled so that no two words run together. The comments in them have insides of some
kind. -/
structure Filled (P : List Char → Prop) (f : Form) (g : Layout) : Prop where
  filler : ∀ p, Filler P (g p)
  afterKeyword : g .afterKeyword ≠ []
  afterAs : f.extra.isNamespaced = true → g .afterAs ≠ []
  beforeFrom : f.extra.isList = false → g .beforeFrom ≠ []

end Form

/-! ## Names -/

theorem isIdentifierChar_of_isNameChar {c : Char} (h : Bindings.isNameChar c = true) :
    isIdentifierChar c = true := by
  by_cases hc : c.toNat < 0x80
  · simp only [Bindings.isNameChar, isAlphanumeric, isAlphabetic, isNumeric, if_pos hc] at h
    simp only [isIdentifierChar, Char.isAlphanum, Bool.or_eq_true] at h ⊢
    tauto
  · simp [isIdentifierChar, Nat.not_lt.1 hc]

theorem passesOver_name {name : List Char} (h : Bindings.isIdentifier name = true)
    (hne : name ≠ fromWord) (before : Option Char) {tail : List Char}
    (htail : endsWord tail = true) : PassesOver before name tail :=
  .of_word (fun c hc => isIdentifierChar_of_isNameChar (Bindings.isNameChar_of_mem h c hc)) hne
    htail

/-! ## Reading -/

section

variable {P : List Char → Prop} {f : Form} {g : Layout}

theorem Extra.passesOver_text {extra : Extra} (h : extra.WellFormed)
    (hfiller : ∀ p, Filler Inert (g p)) (hafterAs : extra.isNamespaced = true → g .afterAs ≠ [])
    (before : Option Char) {tail : List Char}
    (htail : extra.isList = false → endsWord tail = true) :
    PassesOver before (extra.text g) tail := by
  cases extra with
  | nothing => exact .nil
  | namespaced name =>
      have hname (before : Option Char) : PassesOver before name tail :=
        passesOver_name h.1 h.2 before (htail rfl)
      have has : endsWord (g .afterAs ++ name ++ tail) = true := by
        rw [List.append_assoc]
        exact (hfiller _).endsWord_append_of_ne_nil (hafterAs rfl) _
      refine ((hfiller _).passesOver _ _).append (.cons (by decide) ?_)
      refine ((hfiller _).passesOver _ _).append (.cons (by decide) ?_)
      refine ((hfiller _).passesOver _ _).append ?_
      have hword : ∀ c ∈ ['a', 's'], isIdentifierChar c = true :=
        List.all_iff_forall_prop.1 (by decide)
      refine PassesOver.append (.of_word hword (by decide) has) ?_
      exact ((hfiller _).passesOver _ _).append (hname _)
  | list front back =>
      refine ((hfiller _).passesOver _ _).append (.cons (by decide) ?_)
      refine ((hfiller _).passesOver _ _).append (.braces fun c hc => ?_)
      rcases List.mem_append.1 hc with hc | hc
      · rcases List.mem_append.1 hc with hc | hc
        · exact (h c (List.mem_append_left _ hc)).2.2
        · exact ⟨fun heq => (hfiller .inList).not_mem (by decide) (heq ▸ hc),
            fun heq => (hfiller .inList).not_mem (by decide) (heq ▸ hc)⟩
      · exact (h c (List.mem_append_right _ hc)).2.2

theorem Extra.endsWord_text_append (hfiller : ∀ p, Filler P (g p)) {extra : Extra}
    {tail : List Char} (htail : extra.isList = false → endsWord tail = true) :
    endsWord (extra.text g ++ tail) = true := by
  cases extra with
  | nothing => exact htail rfl
  | namespaced _ | list _ _ =>
      rw [Extra.text, List.append_assoc]
      exact (hfiller _).endsWord_append rfl

theorem Extra.startsWord_text {extra : Extra} (h : extra.isList = true) (before : Option Char) :
    startsWord ((extra.text g).getLast?.or before) = true := by
  cases extra with
  | nothing | namespaced _ => cases h
  | list front back =>
      have hlast : (Extra.list front back).text g = g .afterName ++ ',' :: (g .afterComma ++
          '{' :: (front ++ g .inList ++ back)) ++ ['}'] := by simp [Extra.text]
      rw [hlast, List.getLast?_concat]
      rfl

namespace Form

theorem endsWord_beforeFrom (hg : f.Filled P g) (h : f.extra.isList = false) (rest : List Char) :
    endsWord (g .beforeFrom ++ rest) = true :=
  (hg.filler _).endsWord_append_of_ne_nil (hg.beforeFrom h) rest

theorem passesOver_clause (hf : f.WellFormed) (hg : f.Filled Inert g) (rest : List Char) :
    PassesOver none (f.clause g) (fromWord ++ rest) := by
  have hname : endsWord (f.extra.text g ++ g .beforeFrom ++ (fromWord ++ rest)) = true := by
    rw [List.append_assoc]
    exact Extra.endsWord_text_append hg.filler fun hextra => endsWord_beforeFrom hg hextra _
  refine ((hg.filler _).passesOver _ _).append ?_
  refine (passesOver_name hf.name hf.ne_from _ hname).append ?_
  refine PassesOver.append ?_ ((hg.filler _).passesOver _ _)
  exact Extra.passesOver_text hf.extra hg.filler hg.afterAs _
    fun hextra => endsWord_beforeFrom hg hextra _

theorem startsWord_clause (hg : f.Filled P g) : startsWord (f.clause g).getLast? = true := by
  have hlast (before : Option Char) :
      startsWord ((g .beforeFrom).getLast?.or ((f.extra.text g).getLast?.or before)) = true := by
    cases hextra : f.extra.isList with
    | false => exact (hg.filler _).startsWord_of_ne_nil (hg.beforeFrom hextra) _
    | true => exact (hg.filler _).startsWord_or (Extra.startsWord_text hextra before)
  have h := hlast ((f.name.getLast?).or (g .afterKeyword).getLast?)
  rw [clause, List.getLast?_append, List.getLast?_append, List.getLast?_append]
  rwa [Option.or_assoc, Option.or_assoc]

/-- Behind its blanks a clause starts with its default name, or with a comment. -/
theorem dropWhile_clause (hf : f.WellFormed) (hg : f.Filled P g) {p : Char → Bool}
    (hascii : ∀ c, isAsciiBlank c = true → p c = true)
    (hblank : ∀ c, p c = true → isBlank c = true) :
    (f.clause g).dropWhile p = f.name ++ (f.extra.text g ++ g .beforeFrom) ∨
      ∃ behind, (f.clause g).dropWhile p = '/' :: behind := by
  have hslash : p '/' = false := Bool.eq_false_iff.2 fun h => absurd (hblank '/' h) (by decide)
  have hname := hf.name
  rcases (hg.filler .afterKeyword).dropWhile_append hascii hslash
    (f.name ++ (f.extra.text g ++ g .beforeFrom)) with h | h
  · refine .inl (h.trans ?_)
    obtain ⟨c, cs, hcs⟩ := List.exists_cons_of_ne_nil (Bindings.ne_nil_of_isIdentifier hname)
    have hc := Bindings.isBlank_eq_false_of_isNameChar
      (Bindings.isNameChar_of_mem hname c (hcs ▸ List.mem_cons_self))
    rw [hcs, List.cons_append, List.dropWhile_cons_of_neg]
    intro hpc
    rw [hblank c hpc] at hc
    cases hc
  · exact .inr h

theorem trim_clause_ne_nil (hf : f.WellFormed) : trim (f.clause g) ≠ [] := by
  intro htrim
  obtain ⟨front, back, hclause, hfront, hback⟩ := exists_trim_append (f.clause g)
  obtain ⟨c, cs, hcs⟩ := List.exists_cons_of_ne_nil (Bindings.ne_nil_of_isIdentifier hf.name)
  have hname : c ∈ f.name := hcs ▸ List.mem_cons_self
  have hc := Bindings.isBlank_eq_false_of_isNameChar (Bindings.isNameChar_of_mem hf.name c hname)
  have hmem : c ∈ f.clause g := by simp [clause, hname]
  rw [hclause, htrim, List.append_nil] at hmem
  rcases List.mem_append.1 hmem with h | h
  · rw [hfront c h] at hc
    cases hc
  · rw [hback c h] at hc
    cases hc

end Form

theorem trim_dropWhile (cs : List Char) : trim (cs.dropWhile isAsciiBlank) = trim cs := by
  have hlead : ∀ c ∈ cs.takeWhile isAsciiBlank, isBlank c = true :=
    fun c hc => isBlank_of_isAsciiBlank (List.mem_takeWhile_imp hc)
  rw [← trim_blanks_append hlead, List.takeWhile_append_dropWhile]

theorem dropWhile_append_of_trim {cs : List Char} (h : trim cs ≠ []) (ds : List Char) :
    (cs ++ ds).dropWhile isAsciiBlank = cs.dropWhile isAsciiBlank ++ ds := by
  have hne : cs.dropWhile isAsciiBlank ≠ [] := by
    intro hnil
    rw [← trim_dropWhile, hnil] at h
    exact h rfl
  rw [List.dropWhile_append, if_neg (by simpa using hne)]

theorem isTypeOnly_trim_eq_false {cs : List Char}
    (h : (trimStart cs).takeWhile Bindings.isNameChar ≠ ['t', 'y', 'p', 'e']) :
    isTypeOnly (trim cs) = false := by
  rw [isTypeOnly]
  split
  · next c rest hlead =>
      refine Bool.eq_false_iff.2 fun htype => h ?_
      have hc : ¬ Bindings.isNameChar c = true := by
        rcases Bool.or_eq_true_iff.1 htype with hc | hc
        · intro hname
          rw [Bindings.isBlank_eq_false_of_isNameChar hname] at hc
          cases hc
        · rw [beq_iff_eq.1 hc]
          decide
      obtain ⟨behind, hbehind⟩ := trimEnd_prefix (trimStart cs)
      have hword : ∀ d ∈ ['t', 'y', 'p', 'e'], Bindings.isNameChar d = true :=
        List.all_iff_forall_prop.1 (by decide)
      have htrim : trimStart cs = ['t', 'y', 'p', 'e'] ++ c :: (rest ++ behind) := by
        rw [← hbehind]
        have hlead := dropLead?_eq_some hlead
        rw [trim] at hlead
        rw [hlead, List.append_assoc]
        rfl
      rw [htrim, List.takeWhile_append_of_pos hword, List.takeWhile_cons_of_neg hc,
        List.append_nil]
  · rfl

namespace Form

/-- No clause starts with the word `type`. -/
theorem takeWhile_clause_ne (hf : f.WellFormed) (hg : f.Filled P g) :
    (trimStart (f.clause g)).takeWhile Bindings.isNameChar ≠ ['t', 'y', 'p', 'e'] := by
  rcases dropWhile_clause hf hg (fun _ => isBlank_of_isAsciiBlank) (fun _ => id) with h | ⟨_, h⟩
  · have hends : endsWord (f.extra.text g ++ g .beforeFrom) = true := by
      refine Extra.endsWord_text_append hg.filler fun hextra => ?_
      rw [← List.append_nil (g .beforeFrom)]
      exact endsWord_beforeFrom hg hextra []
    have hrest : (f.extra.text g ++ g .beforeFrom).takeWhile Bindings.isNameChar = [] := by
      cases hcs : f.extra.text g ++ g .beforeFrom with
      | nil => rfl
      | cons c cs =>
          rw [hcs] at hends
          refine List.takeWhile_cons_of_neg fun hc => ?_
          simp [endsWord, isIdentifierChar_of_isNameChar hc] at hends
    rw [trimStart, h, List.takeWhile_append_of_pos (Bindings.isNameChar_of_mem hf.name), hrest,
      List.append_nil]
    exact hf.ne_type
  · have hslash : ¬ Bindings.isNameChar '/' = true := by decide
    rw [trimStart, h, List.takeWhile_cons_of_neg hslash]
    simp

theorem startsClause_body (hf : f.WellFormed) (hg : f.Filled P g) :
    startsClause ((f.body g).dropWhile isAsciiBlank) = true := by
  rw [body, dropWhile_append_of_trim (trim_clause_ne_nil hf)]
  rcases dropWhile_clause hf hg (fun _ => id) (fun _ => isBlank_of_isAsciiBlank) with h | ⟨_, h⟩
  · obtain ⟨c, cs, hcs⟩ := List.exists_cons_of_ne_nil (Bindings.ne_nil_of_isIdentifier hf.name)
    have hc := Bindings.isNameChar_of_mem hf.name c (hcs ▸ List.mem_cons_self)
    have hne {d : Char} (hd : Bindings.isNameChar d = false) : c ≠ d := by
      rintro rfl
      rw [hc] at hd
      cases hd
    have hparen : c ≠ '(' := hne (by decide)
    have hdot : c ≠ '.' := hne (by decide)
    have hdouble : c ≠ '"' := hne (by decide)
    have hsingle : c ≠ '\'' := hne (by decide)
    rw [h, hcs]
    simp [startsClause, hparen, hdot, hdouble, hsingle]
  · rw [h]
    rfl

/-- The part of an import in front of a whole word `from` is read as its clause if the clause goes
on over it and a specifier stands behind the word. -/
theorem reads_part (hf : f.WellFormed) (hg : f.Filled P g) {part tail specifier rest : List Char}
    (hbody : f.body g = part ++ (fromWord ++ tail))
    (hpasses : PassesOver none part (fromWord ++ tail))
    (hshort : (Utf8.encode part).length < clauseLimit) (hnonempty : trim part ≠ [])
    (htype : (trimStart part).takeWhile Bindings.isNameChar ≠ ['t', 'y', 'p', 'e'])
    (hstarts : startsWord part.getLast? = true) (hends : endsWord tail = true)
    (hquoted : Quoted specifier (tail.dropWhile isAsciiBlank) rest) :
    Reads ((f.body g).dropWhile isAsciiBlank) specifier (some (trim part)) rest := by
  have hsuffix : part.dropWhile isAsciiBlank <:+ part := List.dropWhile_suffix _
  have hlength : (Utf8.encode (part.dropWhile isAsciiBlank)).length < clauseLimit := by
    obtain ⟨lead, hlead⟩ := hsuffix
    rw [← hlead, Utf8.encode_append, List.length_append] at hshort
    omega
  have hruns := hpasses.dropWhile.runsTo hlength (startsWord_of_suffix hsuffix hstarts) hends
  have hbody' : (f.body g).dropWhile isAsciiBlank =
      part.dropWhile isAsciiBlank ++ fromWord ++ tail := by
    rw [hbody, dropWhile_append_of_trim hnonempty, List.append_assoc]
  have hclause := startsClause_body hf hg
  have htrim := trim_dropWhile part
  rw [hbody'] at hclause ⊢
  rw [← htrim] at hnonempty ⊢
  refine .bound hclause hruns hnonempty ?_ hquoted
  rw [htrim]
  exact isTypeOnly_trim_eq_false htype

theorem reads (hf : f.WellFormed) (hg : f.Filled P g)
    (hpasses : ∀ tail, PassesOver none (f.clause g) (fromWord ++ tail))
    (hspecifier : ∀ c ∈ g .beforeSpecifier, isAsciiBlank c = true)
    (hshort : (Utf8.encode (f.clause g)).length < clauseLimit) :
    Reads ((f.body g).dropWhile isAsciiBlank) f.specifier (some (trim (f.clause g)))
      (f.ending g) := by
  have hends : endsWord (g .beforeSpecifier ++
      f.quote :: (f.specifier ++ f.quote :: f.ending g)) = true := by
    refine (Filler.blanks (P := P) hspecifier).endsWord_append ?_
    rcases hf.quote with hquote | hquote <;> rw [hquote] <;> rfl
  refine reads_part hf hg rfl (hpasses _) hshort (trim_clause_ne_nil hf) (takeWhile_clause_ne hf hg)
    (startsWord_clause hg) hends ⟨f.quote, hf.quote, ?_, hf.specifier⟩
  rw [List.dropWhile_append_of_pos hspecifier, List.dropWhile_cons_of_neg]
  rcases hf.quote with hquote | hquote <;> rw [hquote] <;> decide

/-- Whatever comment stands in front of the `;`, no import is found behind the specifier. -/
theorem importless_ending (hg : f.Filled P g)
    (hunclosed : ∀ body, P body → ¬ ['*', '/'] <:+: body) :
    Importless (afterSemicolon (f.ending g)) := by
  have hsemicolon : ∀ c ∈ [';'], c ≠ '"' ∧ c ≠ '\'' := List.all_iff_forall_prop.1 (by decide)
  unfold ending
  split
  · have hfiller := hg.filler .beforeEnd
    generalize g .beforeEnd = gap at hfiller
    cases hfiller with
    | blanks hgap =>
        have hunquoted : ∀ c ∈ gap ++ [';'], c ≠ '"' ∧ c ≠ '\'' :=
          List.forall_mem_append.2 ⟨fun c hc => of_isAsciiBlank (P := fun c => c ≠ '"' ∧ c ≠ '\'')
            (by decide) (by decide) (by decide) (by decide) (by decide) (hgap c hc), hsemicolon⟩
        exact importless_of_unquoted fun c hc =>
          hunquoted c ((afterSemicolon_suffix _).subset hc)
    | @comment front body back hfront hbody hback =>
        have hrest := ((importless_of_unquoted hsemicolon).blanks hback).blockComment
          (hunclosed body hbody)
        rw [List.append_assoc, List.append_assoc, blockComment, List.cons_append,
          afterSemicolon_comment hfront]
        exact hrest.blanks hfront
  · exact importless_of_unquoted fun c hc => absurd hc List.not_mem_nil

theorem endsWord_body (hg : f.Filled P g) : endsWord (f.body g) = true := by
  rw [body, clause, List.append_assoc]
  exact (hg.filler _).endsWord_append_of_ne_nil hg.afterKeyword _

/-- What is read behind the keyword is the first import of the text. -/
theorem exists_scan_of_reads (hg : f.Filled P g) {specifier rest : List Char}
    {clause : Option (List Char)}
    (h : Reads ((f.body g).dropWhile isAsciiBlank) specifier clause rest) :
    ∃ i later, Import.scan (String.ofList (f.text g)) = i :: later ∧ i.start = 0 ∧
      i.specifier = String.ofList specifier ∧ i.clause = clause.map String.ofList ∧
      (Importless (afterSemicolon rest) → later = []) := by
  have hread : read? (f.body g) = some (⟨keyword ++ upTo (f.body g) (afterSemicolon rest),
      specifier, clause⟩, afterSemicolon rest) := read?_eq_some_iff.2 ⟨rest, h, rfl, rfl⟩
  have hstarts : startsWord none = true := rfl
  have hscan := scan_cons_of_next (next_of_read? hstarts (endsWord_body hg) hread)
  have htext : (String.ofList (f.text g)).toList = 'i' :: (keyword.tail ++ f.body g) :=
    String.toList_ofList
  rw [Import.scan, htext, hscan]
  exact ⟨_, _, rfl, rfl, rfl, rfl, fun hnone => hnone _ _ _⟩

/-- An import whose specifier has only blanks in front of it is read as one, and its clause is what
stands in front of `from`. -/
theorem scan_text (hf : f.WellFormed) (hg : f.Filled P g)
    (hunclosed : ∀ body, P body → ¬ ['*', '/'] <:+: body)
    (hpasses : ∀ tail, PassesOver none (f.clause g) (fromWord ++ tail))
    (hspecifier : ∀ c ∈ g .beforeSpecifier, isAsciiBlank c = true)
    (hshort : (Utf8.encode (f.clause g)).length < clauseLimit) :
    ∃ i, Import.scan (String.ofList (f.text g)) = [i] ∧ i.specifier = String.ofList f.specifier ∧
      i.bindings = .ofClause (f.clause g) := by
  obtain ⟨i, later, hscan, -, hi, hclause, hlater⟩ :=
    exists_scan_of_reads hg (reads hf hg hpasses hspecifier hshort)
  rw [hlater (importless_ending hg hunclosed)] at hscan
  refine ⟨i, hscan, hi, ?_⟩
  rw [bindings, hclause]
  simp only [Option.map_some, String.toList_ofList]
  exact Bindings.ofClause_trim _

end Form

end

end ScopedStyles.Import
