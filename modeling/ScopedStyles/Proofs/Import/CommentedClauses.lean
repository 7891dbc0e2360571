import ScopedStyles.Proofs.Import.CommentedForms
/-!
# Clauses around a comment

What a comment in a clause does depends on its inside and on the braces that are open in front of
it. If the clause goes on over the comment and leaves no brace open, the import is found. If the
comment opens a brace or holds, outside braces, what ends a clause, the import is not read. And if
it holds a word `from`, the clause ends there.
-/

namespace ScopedStyles.Import

open Text Statement Lexeme

/-! ## Around the comment -/

/-- The braces that are open in a gap. -/
def Gap.depth : Gap → Nat
  | .inList => 1
  | _ => 0

/-- The gaps in front of `from`. -/
def Gap.InClause (p : Gap) : Prop :=
  p ≠ .beforeSpecifier ∧ p ≠ .beforeEnd

/-- What stands in a list behind its gap. -/
def Extra.behindGap : Extra → List Char
  | list _ back => back
  | _ => []

/-- A clause with a comment in it is `lead`, the comment and `rest`. The clause goes on over both,
unless the comment closes the list and the names behind it end the clause. -/
structure Form.Around (f : Form) (g : Layout) (p : Gap) (front back lead rest : List Char) :
    Prop where
  split : ∀ body, f.clause (g.commented p front body back) = lead ++ (blockComment body ++ rest)
  depth : braceDepth 0 lead = p.depth
  closed : ∀ more, braceDepth (more + p.depth) rest = more
  goesOver : GoesOver none 0 lead []
  goesOverRest : ∀ depth, depth ≤ p.depth →
    (depth < p.depth → GoesOver none 0 f.extra.behindGap []) →
    ∀ tail, GoesOver none depth rest (fromWord ++ tail)

section

variable {P : List Char → Prop} {f : Form} {g : Layout} {p : Gap} {front body back : List Char}

theorem braceDepth_isIdentifier {name : List Char} (h : Bindings.isIdentifier name = true)
    (depth : Nat) : braceDepth depth name = depth := by
  refine braceDepth_of_braceless (fun c hc => ⟨?_, ?_⟩) depth <;>
  · rintro rfl
    exact Bindings.not_mem_of_isIdentifier h (by decide) hc

theorem Extra.braceDepth_text {extra : Extra} (hwell : extra.WellFormed)
    (hgaps : ∀ q depth, braceDepth depth (g q) = depth) (depth : Nat) :
    braceDepth depth (extra.text g) = depth := by
  cases extra with
  | nothing => rfl
  | namespaced name =>
      have htext : (Extra.namespaced name).text g = g .afterName ++ ([','] ++ (g .afterComma ++
          (['*'] ++ (g .afterStar ++ (['a', 's'] ++ (g .afterAs ++ name)))))) := rfl
      simp only [htext, braceDepth_append, hgaps, braceDepth_isIdentifier hwell.1]
      rfl
  | list before after =>
      have htext : (Extra.list before after).text g = g .afterName ++ ([','] ++ (g .afterComma ++
          (['{'] ++ (before ++ (g .inList ++ (after ++ ['}'])))))) := by simp [Extra.text]
      have hnames := List.forall_mem_append.1 fun c hc => (hwell c hc).2.2
      simp only [htext, braceDepth_append, hgaps, braceDepth_of_braceless hnames.1,
        braceDepth_of_braceless hnames.2]
      rfl

theorem Form.braceDepth_clause (hf : f.WellFormed)
    (hgaps : ∀ q depth, braceDepth depth (g q) = depth) (depth : Nat) :
    braceDepth depth (f.clause g) = depth := by
  simp only [Form.clause, braceDepth_append, hgaps, braceDepth_isIdentifier hf.name,
    Extra.braceDepth_text hf.extra hgaps]

/-- Whatever fills a gap in front of `from`, the clause around it is the same. -/
theorem Form.exists_split (hf : f.WellFormed)
    (hgaps : ∀ q depth, braceDepth depth (g q) = depth) (hhas : f.Has p) (hp : p.InClause) :
    ∃ pre post, (∀ gap, f.clause (Function.update g p gap) = pre ++ (gap ++ post)) ∧
      (∀ depth, braceDepth depth pre = depth + p.depth) ∧
      (p = .inList → post = f.extra.behindGap ++ '}' :: g .beforeFrom) := by
  have hname := braceDepth_isIdentifier hf.name
  have hextra := hf.extra
  cases p with
  | beforeSpecifier => exact absurd rfl hp.1
  | beforeEnd => exact absurd rfl hp.2
  | afterKeyword =>
      refine ⟨[], f.name ++ (f.extra.text g ++ g .beforeFrom), fun gap => ?_, fun _ => rfl,
        Gap.noConfusion⟩
      cases h : f.extra <;> simp [Form.clause, Extra.text, h]
  | beforeFrom =>
      refine ⟨g .afterKeyword ++ (f.name ++ f.extra.text g), [], fun gap => ?_, fun depth => ?_,
        Gap.noConfusion⟩
      · cases h : f.extra <;> simp [Form.clause, Extra.text, h]
      · rw [braceDepth_append, braceDepth_append, hgaps, hname, Extra.braceDepth_text hextra hgaps]
        rfl
  | afterName =>
      have hdepth (depth : Nat) : braceDepth depth (g .afterKeyword ++ f.name) = depth := by
        rw [braceDepth_append, hgaps, hname]
      cases h : f.extra with
      | nothing => exact absurd h hhas
      | namespaced name =>
          refine ⟨_, ',' :: (g .afterComma ++ '*' :: (g .afterStar ++ (['a', 's'] ++
            (g .afterAs ++ (name ++ g .beforeFrom))))), fun gap => ?_, hdepth, Gap.noConfusion⟩
          simp [Form.clause, Extra.text, h]
      | list before after =>
          refine ⟨_, ',' :: (g .afterComma ++ '{' :: (before ++ (g .inList ++ (after ++
            '}' :: g .beforeFrom)))), fun gap => ?_, hdepth, Gap.noConfusion⟩
          simp [Form.clause, Extra.text, h]
  | afterComma =>
      have hdepth (depth : Nat) :
          braceDepth depth (g .afterKeyword ++ (f.name ++ (g .afterName ++ [',']))) = depth := by
        simp only [braceDepth_append, hgaps, hname]
        rfl
      cases h : f.extra with
      | nothing => exact absurd h hhas
      | namespaced name =>
          refine ⟨_, '*' :: (g .afterStar ++ (['a', 's'] ++ (g .afterAs ++ (name ++
            g .beforeFrom)))), fun gap => ?_, hdepth, Gap.noConfusion⟩
          simp [Form.clause, Extra.text, h]
      | list before after =>
          refine ⟨_, '{' :: (before ++ (g .inList ++ (after ++ '}' :: g .beforeFrom))),
            fun gap => ?_, hdepth, Gap.noConfusion⟩
          simp [Form.clause, Extra.text, h]
  | afterStar =>
      cases h : f.extra with
      | nothing | list _ _ => simp [Form.Has, h, Extra.isNamespaced] at hhas
      | namespaced name =>
          refine ⟨g .afterKeyword ++ (f.name ++ (g .afterName ++ ([','] ++ (g .afterComma ++
            ['*'])))), ['a', 's'] ++ (g .afterAs ++ (name ++ g .beforeFrom)), fun gap => ?_,
            fun depth => ?_, Gap.noConfusion⟩
          · simp [Form.clause, Extra.text, h]
          · simp only [braceDepth_append, hgaps, hname]
            rfl
  | afterAs =>
      cases h : f.extra with
      | nothing | list _ _ => simp [Form.Has, h, Extra.isNamespaced] at hhas
      | namespaced name =>
          refine ⟨g .afterKeyword ++ (f.name ++ (g .afterName ++ ([','] ++ (g .afterComma ++
            (['*'] ++ (g .afterStar ++ ['a', 's'])))))), name ++ g .beforeFrom, fun gap => ?_,
            fun depth => ?_, Gap.noConfusion⟩
          · simp [Form.clause, Extra.text, h]
          · simp only [braceDepth_append, hgaps, hname]
            rfl
  | inList =>
      cases h : f.extra with
      | nothing | namespaced _ => simp [Form.Has, h, Extra.isList] at hhas
      | list before after =>
          rw [h] at hextra
          have hnames := List.forall_mem_append.1 fun c hc => (hextra c hc).2.2
          refine ⟨g .afterKeyword ++ (f.name ++ (g .afterName ++ ([','] ++ (g .afterComma ++
            (['{'] ++ before))))), after ++ '}' :: g .beforeFrom, fun gap => ?_, fun depth => ?_,
            fun _ => rfl⟩
          · simp [Form.clause, Extra.text, h]
          · simp only [braceDepth_append, hgaps, hname, braceDepth_of_braceless hnames.1]
            rfl

/-- In front of `from` every comment stands between two texts that the clause goes on over. -/
theorem Form.exists_around (hf : f.WellFormed) (hg : f.Spaced g) (hhas : f.Has p)
    (hp : p.InClause) (hgap : g p = front ++ back) :
    ∃ lead rest, f.Around g p front back lead rest := by
  have hgaps (q : Gap) (depth : Nat) : braceDepth depth (g q) = depth :=
    braceDepth_blanks (hg.blanks q) depth
  obtain ⟨pre, post, hsplit, hdepth, hlist⟩ := Form.exists_split hf hgaps hhas hp
  have hblanks := hg.blanks p
  rw [hgap, List.forall_mem_append] at hblanks
  have hclause (body : List Char) : f.clause (g.commented p front body back) =
      pre ++ front ++ (blockComment body ++ (back ++ post)) := by
    rw [Layout.commented, hsplit]
    simp only [List.append_assoc]
  have hlead : braceDepth 0 (pre ++ front) = p.depth := by
    rw [braceDepth_append, hdepth, braceDepth_blanks hblanks.1, Nat.zero_add]
  have hwhole : g = Function.update g p (front ++ back) := by
    rw [← hgap, Function.update_eq_self]
  -- An empty comment is one that the whole clause goes on over.
  have hempty : Inert [] := .of_not_mem List.not_mem_nil List.not_mem_nil (List.forall_mem_nil _)
  have hpasses (tail : List Char) : PassesOver none
      (pre ++ front ++ (blockComment [] ++ (back ++ post))) (fromWord ++ tail) := by
    rw [← hclause]
    exact Form.passesOver_clause hf (filled_commented hg hgap hempty) tail
  refine ⟨pre ++ front, back ++ post, hclause, hlead, ?_, ?_, ?_⟩
  · intro more
    have hclosed := Form.braceDepth_clause hf hgaps more
    rw [hwhole, hsplit, braceDepth_append, hdepth, braceDepth_append, braceDepth_append,
      braceDepth_blanks hblanks.1] at hclosed
    rwa [braceDepth_append]
  · exact (GoesOver.stop_iff (by decide)).1 (hpasses []).goesOver.of_append_left
  · intro depth hle hearly tail
    rcases Nat.eq_or_lt_of_le hle with rfl | hlt
    · have hrest := (hpasses tail).goesOver.of_append_right.of_append_right
      have hcomment : braceDepth p.depth (blockComment []) = p.depth := rfl
      have hstarts (before : Option Char) :
          startsWord ((blockComment []).getLast?.or before) = startsWord none := rfl
      rw [hlead, hcomment] at hrest
      exact hrest.congr (hstarts _)
    · have hp : p = .inList := by
        cases p <;> first | rfl | exact absurd hlt (Nat.not_lt_zero depth)
      have hbehind := hearly hlt
      subst hp
      obtain rfl : depth = 0 := Nat.lt_one_iff.1 hlt
      rw [hlist rfl]
      refine (passesOver_blanks hblanks.2 _ _).goesOver.append (GoesOver.append ?_ ?_)
      · have hstarts : startsWord none = startsWord (back.getLast?.or none) :=
          ((Filler.blanks (P := Inert) hblanks.2).startsWord_or rfl).symm
        rw [braceDepth_blanks hblanks.2]
        exact (GoesOver.stop_iff (by decide)).2 (hbehind.congr hstarts)
      · refine .of_plain (List.forall_mem_cons.2 ⟨by decide, fun c hc => ?_⟩)
        exact of_isAsciiBlank (P := fun c => endsClause c = false ∧ c ≠ 'f') (by decide)
          (by decide) (by decide) (by decide) (by decide) (hg.blanks _ c hc)

namespace Form.Around

variable {lead rest part tail : List Char}

theorem split_inside (h : f.Around g p front back lead rest) (body : List Char) :
    f.clause (g.commented p front body back) =
      lead ++ '/' :: '*' :: body ++ (['*', '/'] ++ rest) := by
  rw [h.split, blockComment]
  simp only [List.cons_append, List.append_assoc, List.nil_append]

theorem body_eq (h : f.Around g p front back lead rest) (body : List Char) :
    f.body (g.commented p front body back) = lead ++ '/' :: '*' :: body ++ (['*', '/'] ++ (rest ++
      (fromWord ++ (g.commented p front body back .beforeSpecifier ++
        f.quote :: (f.specifier ++ f.quote :: f.ending (g.commented p front body back)))))) := by
  rw [Form.body, h.split_inside]
  simp only [List.append_assoc]

theorem exists_body_part (h : f.Around g p front back lead rest) (hsplit : body = part ++ tail) :
    ∃ behind, f.body (g.commented p front body back) =
      lead ++ '/' :: '*' :: part ++ (tail ++ '*' :: behind) := by
  obtain ⟨behind, hbehind⟩ : ∃ behind, f.body (g.commented p front body back) =
      lead ++ '/' :: '*' :: body ++ '*' :: behind := ⟨_, h.body_eq body⟩
  refine ⟨behind, ?_⟩
  rw [hbehind, hsplit]
  simp only [List.append_assoc, List.cons_append]

theorem braceDepth_part (h : f.Around g p front back lead rest) (part : List Char) :
    braceDepth 0 (lead ++ '/' :: '*' :: part) = braceDepth p.depth part := by
  rw [braceDepth_append, h.depth]
  rfl

/-- A clause goes on up to where it stops inside the comment. -/
theorem goesOver_part (h : f.Around g p front back lead rest)
    (hpart : GoesOver none p.depth part tail) :
    GoesOver none 0 (lead ++ '/' :: '*' :: part) tail := by
  have hinside : GoesOver (lead.getLast?.or none) p.depth (['/', '*'] ++ part) tail :=
    hpart.sign_append (.inl rfl)
  refine GoesOver.append ((GoesOver.stop_iff (by decide)).2 h.goesOver) ?_
  rw [h.depth]
  exact hinside

/-- A whole word `from` of the comment is one of the text behind the keyword. -/
theorem exists_body_from (h : f.Around g p front back lead rest) {more : List Char}
    (hsplit : body = part ++ (fromWord ++ more))
    (hpart : GoesOver none p.depth part (fromWord ++ more))
    (hstarts : startsWord part.getLast? = true) (hends : endsWord more = true) :
    ∃ behind, f.body (g.commented p front body back) =
        lead ++ '/' :: '*' :: part ++ (fromWord ++ (more ++ '*' :: behind)) ∧
      GoesOver none 0 (lead ++ '/' :: '*' :: part) (fromWord ++ (more ++ '*' :: behind)) ∧
      startsWord (lead ++ '/' :: '*' :: part).getLast? = true ∧
      endsWord (more ++ '*' :: behind) = true := by
  obtain ⟨behind, htext⟩ := h.exists_body_part hsplit
  have hgo : GoesOver none 0 (lead ++ '/' :: '*' :: part) (fromWord ++ more ++ '*' :: behind) :=
    h.goesOver_part ((GoesOver.append_stop_iff (by decide)).2 hpart)
  rw [List.append_assoc fromWord] at htext hgo
  refine ⟨behind, htext, hgo, ?_, ?_⟩
  · have hlead : lead ++ '/' :: '*' :: part = lead ++ ['/', '*'] ++ part := by simp
    rw [hlead, List.getLast?_append]
    cases hlast : part.getLast? with
    | none =>
        rw [Option.none_or, List.getLast?_append]
        rfl
    | some c => rwa [hlast] at hstarts
  · cases more with
    | nil => rfl
    | cons c more => exact hends

/-- A clause goes on over a comment that leaves open the braces that were open in front of it. -/
theorem passesOver (h : f.Around g p front back lead rest) (hbody : GoesOver none p.depth body [])
    (hdepth : braceDepth p.depth body ≤ p.depth)
    (hearly : braceDepth p.depth body < p.depth → GoesOver none 0 f.extra.behindGap [])
    (tail : List Char) :
    PassesOver none (f.clause (g.commented p front body back)) (fromWord ++ tail) := by
  have hclose (depth : Nat) : braceDepth depth ['*', '/'] = depth := rfl
  rw [h.split_inside]
  constructor
  case closed =>
      have hclosed := h.closed 0
      have hmono := braceDepth_mono hdepth rest
      rw [Nat.zero_add] at hclosed
      rw [braceDepth_append, h.braceDepth_part, braceDepth_append, hclose]
      omega
  case goesOver =>
      refine (h.goesOver_part ((GoesOver.stop_iff (by decide)).2 hbody)).append ?_
      rw [h.braceDepth_part]
      exact (h.goesOverRest _ hdepth hearly tail).sign_append (.inr rfl)

end Form.Around

/-! ## What is read -/

theorem exists_read_of_start_eq_zero {body : List Char} {j : Import}
    (hj : j ∈ Import.scan (String.ofList (keyword ++ body))) (hstart : j.start = 0) :
    ∃ s rest, read? body = some (s, rest) ∧ j = s.place 0 j.line := by
  obtain ⟨before, after, s, rest, ⟨lead, htext, -⟩, -, -, hread, hplace⟩ :=
    exists_read_of_mem_scan hj
  rw [String.toList_ofList] at htext hplace
  have hoffset : offset (keyword ++ body) (keyword ++ after) = (Utf8.encode lead).length := by
    rw [htext, offset_append]
  have hzero : (Utf8.encode lead).length = 0 := by
    rw [← hoffset, ← hstart, hplace]
    rfl
  cases lead with
  | nil =>
      obtain rfl : body = after := List.append_cancel_left htext
      rw [hoffset, hzero] at hplace
      exact ⟨s, rest, hread, hplace⟩
  | cons c lead =>
      rw [Utf8.encode_cons, List.length_append, String.length_utf8EncodeChar] at hzero
      have hpos := c.utf8Size_pos
      omega

theorem trim_ne_nil_of_slash {cs : List Char} (h : '/' ∈ cs) : trim cs ≠ [] :=
  List.ne_nil_of_mem ((Bindings.mem_trim_iff (by decide) cs).2 h)

/-- The first word of a text ends in front of its first slash. -/
theorem takeWhile_trimStart_append {cs : List Char} (h : '/' ∈ cs) (ds : List Char) :
    (trimStart (cs ++ ds)).takeWhile Bindings.isNameChar =
      (trimStart cs).takeWhile Bindings.isNameChar := by
  have hmem : '/' ∈ trimStart cs := (Bindings.mem_trimStart_iff (by decide) cs).2 h
  have hstart : trimStart (cs ++ ds) = trimStart cs ++ ds := by
    have hne : cs.dropWhile isBlank ≠ [] := List.ne_nil_of_mem hmem
    rw [trimStart, List.dropWhile_append, if_neg (by simpa using hne), trimStart]
  obtain ⟨front, back, hsplit⟩ := List.append_of_mem hmem
  have hslash : ¬ Bindings.isNameChar '/' = true := by decide
  rw [hstart, hsplit, List.append_assoc, List.cons_append, List.takeWhile_append,
    List.takeWhile_append, List.takeWhile_cons_of_neg hslash, List.takeWhile_cons_of_neg hslash]

namespace Form

variable {part tail rest : List Char} {s : Statement}

/-- What is read behind the keyword has a clause that runs at least as far as it goes on. -/
theorem exists_append_of_read? (hf : f.WellFormed) (hg : f.Filled P g)
    (hbody : f.body g = part ++ tail) (hpart : GoesOver none 0 part tail) (hslash : '/' ∈ part)
    (hread : read? (f.body g) = some (s, rest)) :
    ∃ more behind rest', tail = more ++ (fromWord ++ behind) ∧
      RunsTo none 0 0 (part.dropWhile isAsciiBlank ++ more) behind ∧
      Quoted s.specifier (behind.dropWhile isAsciiBlank) rest' := by
  obtain ⟨tail', hreads, -⟩ := read?_eq_some_iff.1 hread
  have hclause := startsClause_body hf hg
  rw [hbody, dropWhile_append_of_trim (trim_ne_nil_of_slash hslash)] at hreads hclause
  generalize hsplit : part.dropWhile isAsciiBlank ++ tail = body at hreads hclause
  generalize s.clause = clause at hreads
  cases hreads with
  | bare quoted =>
      obtain ⟨quote, hquote, rfl, -⟩ := quoted
      rcases hquote with rfl | rfl <;> cases hclause
  | bound starts runs nonempty binds quoted =>
      rw [List.append_assoc] at hsplit
      obtain ⟨more, rfl, htail⟩ := runs.exists_append_of_goesOver hpart.dropWhile hsplit
      exact ⟨more, _, _, htail, runs, quoted⟩

/-- Nothing is read if a clause ends outside braces. -/
theorem read?_eq_none_of_endsClause (hf : f.WellFormed) (hg : f.Filled P g) {c : Char}
    (hbody : f.body g = part ++ c :: tail) (hpart : GoesOver none 0 part (c :: tail))
    (hslash : '/' ∈ part) (hdepth : braceDepth 0 part = 0) (hc : endsClause c = true) :
    read? (f.body g) = none := by
  refine Option.eq_none_iff_forall_ne_some.2 fun ⟨s, rest⟩ hread => ?_
  obtain ⟨more, behind, -, htail, hruns, -⟩ :=
    exists_append_of_read? hf hg hbody hpart hslash hread
  cases more with
  | nil =>
      obtain rfl : c = 'f' := (List.cons.inj htail).1
      cases hc
  | cons d more =>
      obtain rfl : c = d := (List.cons.inj htail).1
      have hopen : c ≠ '{' := by
        rintro rfl
        cases hc
      have hclose : c ≠ '}' := by
        rintro rfl
        cases hc
      have hdrop := (braceDepth_dropWhile part 0).trans hdepth
      have hplain := (hruns.goesOver _ c more rfl hdrop hopen hclose).1
      rw [hc] at hplain
      cases hplain

/-- Nothing is read if a brace stays open. -/
theorem read?_eq_none_of_goesOver (hf : f.WellFormed) (hg : f.Filled P g)
    (hbody : GoesOver none 0 (f.body g) []) (hslash : '/' ∈ f.body g) :
    read? (f.body g) = none := by
  refine Option.eq_none_iff_forall_ne_some.2 fun ⟨s, rest⟩ hread => ?_
  obtain ⟨more, behind, -, htail, -⟩ :=
    exists_append_of_read? hf hg (List.append_nil _).symm hbody hslash hread
  cases more <;> cases htail

/-- A clause ends at the first whole word `from` outside braces. -/
theorem exists_quoted_of_read? (hf : f.WellFormed) (hg : f.Filled P g)
    (hbody : f.body g = part ++ (fromWord ++ tail))
    (hpart : GoesOver none 0 part (fromWord ++ tail)) (hslash : '/' ∈ part)
    (hdepth : braceDepth 0 part = 0) (hstarts : startsWord part.getLast? = true)
    (hends : endsWord tail = true) (hread : read? (f.body g) = some (s, rest)) :
    ∃ rest', Quoted s.specifier (tail.dropWhile isAsciiBlank) rest' := by
  obtain ⟨more, behind, rest', htail, hruns, hquoted⟩ :=
    exists_append_of_read? hf hg hbody hpart hslash hread
  have hdrop := startsWord_of_suffix (List.dropWhile_suffix isAsciiBlank) hstarts
  have htext : part.dropWhile isAsciiBlank ++ (fromWord ++ tail) =
      part.dropWhile isAsciiBlank ++ more ++ (fromWord ++ behind) := by
    rw [htail, List.append_assoc]
  obtain ⟨mid, hmid, -⟩ := hruns.exists_append_of_from ((braceDepth_dropWhile part 0).trans hdepth)
    (by rwa [Option.or_none]) hends htext
  rw [List.append_assoc, List.self_eq_append_right, List.append_eq_nil_iff] at hmid
  rw [hmid.1, List.nil_append] at htail
  obtain rfl : tail = behind := List.append_cancel_left htail
  exact ⟨rest', hquoted⟩

end Form

end

end ScopedStyles.Import
