import ScopedStyles.Proofs.Import.Lexemes
/-!
# What a place of a script belongs to

JavaScript reads a script character by character: every place belongs to code, to a comment, to a
string or to the text of a template literal. The substitutions of a template literal are code, which
can hold strings, comments and template literals of its own. A string that is not closed ends with
its line.

The lexemes of a scan are read the same way as long as JavaScript, too, ends each of them where the
scan does. `step` never looks ahead, so a lexeme in code is read on its own.
-/

namespace ScopedStyles

open Text

/-- What a place belongs to, as far as the characters in front of it tell. -/
inductive Place where
  | code
  /-- Code behind a slash, which the next character can make the start of a comment. -/
  | slash
  | lineComment
  /-- A block comment, and whether a star stands right in front. -/
  | blockComment (star : Bool)
  | string (quote : Char)
  /-- A string behind a backslash. -/
  | escape (quote : Char)
  /-- A string behind a backslash and a carriage return, which take a line feed with them. -/
  | escapedReturn (quote : Char)
  | template
  /-- A template literal behind a backslash. -/
  | templateEscape
  /-- A template literal behind a dollar sign. -/
  | dollar
  deriving DecidableEq

/-- A place and the substitutions around it, the innermost first: for each of them the braces that
are open in it. -/
structure Reading where
  place : Place := .code
  substitutions : List Nat := []
  deriving DecidableEq

namespace Reading

/-- Characters that end a line. -/
def endsLine (c : Char) : Bool :=
  c == '\n' || c == '\r' || c == '\u2028' || c == '\u2029'

/-- Reads a brace that opens. -/
def openBrace (r : Reading) : Reading :=
  match r.substitutions with
  | [] => ⟨.code, []⟩
  | n :: outer => ⟨.code, (n + 1) :: outer⟩

/-- Reads a brace that closes. One too many closes a substitution. -/
def closeBrace (r : Reading) : Reading :=
  match r.substitutions with
  | [] => ⟨.code, []⟩
  | 0 :: outer => ⟨.template, outer⟩
  | (n + 1) :: outer => ⟨.code, n :: outer⟩

/-- Reads a character of code. -/
def stepCode (r : Reading) (c : Char) : Reading :=
  if c = '/' then { r with place := .slash }
  else if c = '"' ∨ c = '\'' then { r with place := .string c }
  else if c = '\x60' then { r with place := .template }
  else if c = '{' then r.openBrace
  else if c = '}' then r.closeBrace
  else { r with place := .code }

/-- Reads a character of a string. -/
def stepString (r : Reading) (quote c : Char) : Reading :=
  if c = quote ∨ c = '\n' ∨ c = '\r' then { r with place := .code }
  else if c = '\\' then { r with place := .escape quote }
  else { r with place := .string quote }

/-- Reads a character of the text of a template literal. -/
def stepTemplate (r : Reading) (c : Char) : Reading :=
  if c = '\x60' then { r with place := .code }
  else if c = '\\' then { r with place := .templateEscape }
  else if c = '$' then { r with place := .dollar }
  else { r with place := .template }

/-- Reads one more character. -/
def step (r : Reading) (c : Char) : Reading :=
  match r.place with
  | .code => r.stepCode c
  | .slash =>
    if c = '/' then { r with place := .lineComment }
    else if c = '*' then { r with place := .blockComment false }
    else r.stepCode c
  | .lineComment => if endsLine c then { r with place := .code } else r
  | .blockComment star =>
    if star && c = '/' then { r with place := .code }
    else { r with place := .blockComment (c = '*') }
  | .string quote => r.stepString quote c
  | .escape quote =>
    if c = '\r' then { r with place := .escapedReturn quote }
    else { r with place := .string quote }
  | .escapedReturn quote =>
    if c = '\n' then { r with place := .string quote } else r.stepString quote c
  | .template => r.stepTemplate c
  | .templateEscape => { r with place := .template }
  | .dollar => if c = '{' then ⟨.code, 0 :: r.substitutions⟩ else r.stepTemplate c

/-- What the place behind a text belongs to. -/
def of (cs : List Char) : Reading :=
  cs.foldl step {}

/-- The place belongs to code. -/
def IsCode (r : Reading) : Prop :=
  r.place = .code ∨ r.place = .slash

instance (r : Reading) : Decidable r.IsCode :=
  inferInstanceAs (Decidable (r.place = .code ∨ r.place = .slash))

/-- The place belongs to the code of a substitution. -/
def InSubstitution (r : Reading) : Prop :=
  r.place = .code ∧ r.substitutions ≠ []

end Reading

/-! ## Between two lexemes -/

namespace Reading

variable {r : Reading} {c : Char} {cs text rest : List Char}

/-- In front of `rest`, `r` is as good as code outside of all substitutions: what is open ends with
the line, and the line ends here. -/
inductive Ready : Reading → List Char → Prop where
  | code (rest : List Char) : Ready {} rest
  | slash {rest : List Char} (hline : rest.head? ≠ some '/') (hblock : rest.head? ≠ some '*') :
      Ready ⟨.slash, []⟩ rest
  | lineComment {rest : List Char} (hend : rest.head? = some '\n') : Ready ⟨.lineComment, []⟩ rest
  | string {quote : Char} {rest : List Char} (hend : rest.head? = some '\n') :
      Ready ⟨.string quote, []⟩ rest

theorem Ready.step_eq (h : Ready r (c :: cs)) : r.step c = step {} c := by
  cases h with
  | code => rfl
  | slash hline hblock =>
      have hslash : c ≠ '/' := fun hc => hline (congrArg some hc)
      have hstar : c ≠ '*' := fun hc => hblock (congrArg some hc)
      simp only [step, if_neg hslash, if_neg hstar]
      rfl
  | lineComment hend | string hend =>
      obtain rfl := Option.some.inj hend
      simp [step, stepCode, stepString, endsLine]

theorem Ready.foldl_eq (h : Ready r (c :: cs)) (text : List Char) :
    (c :: text).foldl step r = of (c :: text) := by
  rw [List.foldl_cons, h.step_eq]
  rfl

/-- A word that starts here belongs to code. -/
theorem Ready.isCode (h : Ready r (c :: cs)) (hc : c ≠ '\n') : r.IsCode := by
  cases h with
  | code => exact .inl rfl
  | slash => exact .inr rfl
  | lineComment hend | string hend => exact absurd (Option.some.inj hend) hc

/-! ## Comments -/

theorem foldl_lineComment (htext : ∀ c ∈ text, endsLine c = false) :
    text.foldl step ⟨.lineComment, []⟩ = ⟨.lineComment, []⟩ := by
  induction text with
  | nil => rfl
  | cons c text ih =>
      obtain ⟨hc, htext⟩ := List.forall_mem_cons.1 htext
      have hstep : step ⟨.lineComment, []⟩ c = ⟨.lineComment, []⟩ := by
        simp only [step, hc]
        rfl
      rw [List.foldl_cons, hstep, ih htext]

/-- A star is not followed by a slash as long as the comment goes on. -/
theorem foldl_untilBlockEnd {star : Bool} (hstar : star = true → cs.head? ≠ some '/')
    (hrest : (Lexeme.untilBlockEnd cs).2 ≠ []) :
    (Lexeme.untilBlockEnd cs).1.foldl step ⟨.blockComment star, []⟩ = {} := by
  fun_induction Lexeme.untilBlockEnd cs generalizing star with
  | case1 => exact absurd rfl hrest
  | case2 rest =>
      cases star <;> rfl
  | case3 c cs hopen body rest heq ih =>
      have hstep : step ⟨.blockComment star, []⟩ c = ⟨.blockComment (c = '*'), []⟩ := by
        have hc : ¬ (star && c = '/') = true := by
          intro h
          obtain ⟨hs, hc⟩ := Bool.and_eq_true_iff.1 h
          exact hstar hs (congrArg some (of_decide_eq_true hc))
        simp only [step]
        rw [if_neg hc]
      rw [heq] at ih
      rw [List.foldl_cons, hstep]
      refine ih (fun hs hhead => ?_) hrest
      obtain ⟨ds, hds⟩ := List.head?_eq_some_iff.1 hhead
      exact hopen ds (of_decide_eq_true hs) hds

/-! ## Literals in quotes -/

variable {quote : Char}

theorem step_string_backslash (hquote : quote = '"' ∨ quote = '\'') (hc : c ≠ '\r') :
    (step ⟨.string quote, []⟩ '\\').step c = ⟨.string quote, []⟩ := by
  have hescape : step ⟨.string quote, []⟩ '\\' = ⟨.escape quote, []⟩ := by
    rcases hquote with rfl | rfl <;> rfl
  rw [hescape]
  exact if_neg hc

theorem step_string_plain (hc : c ≠ quote) (hescape : c ≠ '\\') (hfeed : c ≠ '\n')
    (hreturn : c ≠ '\r') : step ⟨.string quote, []⟩ c = ⟨.string quote, []⟩ := by
  simp [step, stepString, hc, hescape, hfeed, hreturn]

theorem foldl_untilLiteralEnd (hquote : quote = '"' ∨ quote = '\'')
    (hbody : '\r' ∉ (Lexeme.untilLiteralEnd quote cs).1)
    (hrest : (Lexeme.untilLiteralEnd quote cs).2 ≠ []) :
    Ready ((Lexeme.untilLiteralEnd quote cs).1.foldl step ⟨.string quote, []⟩)
      (Lexeme.untilLiteralEnd quote cs).2 := by
  fun_induction Lexeme.untilLiteralEnd quote cs with
  | case1 => exact absurd rfl hrest
  | case2 => exact absurd rfl hrest
  | case3 c cs body rest heq ih =>
      rw [heq] at ih
      simp only [List.mem_cons, not_or] at hbody
      rw [List.foldl_cons, List.foldl_cons, step_string_backslash hquote (Ne.symm hbody.2.1)]
      exact ih hbody.2.2 hrest
  | case4 cs =>
      have hclose : step ⟨.string quote, []⟩ quote = {} := if_pos (.inl rfl)
      rw [List.foldl_cons, hclose]
      exact .code cs
  | case5 c cs _ _ _ hfeed =>
      have hc : c = '\n' := of_decide_eq_true (Bool.and_eq_true_iff.1 hfeed).1
      exact .string (congrArg some hc)
  | case6 c cs hlast hmore hne hfeed body rest heq ih =>
      rw [heq] at ih
      simp only [List.mem_cons, not_or] at hbody
      have hc : c ≠ '\n' := by
        rintro rfl
        rcases hquote with rfl | rfl <;> exact hfeed rfl
      rw [List.foldl_cons, step_string_plain hne (Lexeme.ne_backslash hlast hmore) hc
        (Ne.symm hbody.1)]
      exact ih hbody.2 hrest

/-! ## Template literals -/

/-- From `r` on, a quote, a slash or a backslash of `cs` belongs to the code of a substitution. -/
def Nests (r : Reading) (cs : List Char) : Prop :=
  ∃ front c back, cs = front ++ c :: back ∧ InSubstitution (front.foldl step r) ∧
    c ∈ ['"', '\'', '\x60', '/', '\\']

theorem Nests.of_step {d : Char} (h : Nests (r.step d) cs) : Nests r (d :: cs) := by
  obtain ⟨front, c, back, rfl, hplace, hc⟩ := h
  exact ⟨d :: front, c, back, rfl, hplace, hc⟩

theorem not_mem_of_not_nests {d : Char} (h : ¬ Nests r (d :: cs)) (hr : InSubstitution r) :
    d ∉ ['"', '\'', '\x60', '/', '\\'] :=
  fun hmem => h ⟨[], d, cs, rfl, hr, hmem⟩

/-- In the text of a template literal or in the code of one of its substitutions. -/
inductive Inside : Reading → Prop where
  | template : Inside ⟨.template, []⟩
  | dollar : Inside ⟨.dollar, []⟩
  | substitution (n : Nat) : Inside ⟨.code, [n]⟩

theorem inSubstitution (n : Nat) : InSubstitution ⟨.code, [n]⟩ :=
  ⟨rfl, List.cons_ne_nil n []⟩

theorem Inside.step_backslash (hr : Inside r) (hnests : ¬ Nests r ('\\' :: cs)) (c : Char) :
    (r.step '\\').step c = ⟨.template, []⟩ := by
  cases hr with
  | template | dollar => rfl
  | substitution n =>
      exact absurd (by decide) (not_mem_of_not_nests hnests (inSubstitution n))

theorem Inside.step_close (hr : Inside r) (hnests : ¬ Nests r ('\x60' :: cs)) :
    r.step '\x60' = {} := by
  cases hr with
  | template | dollar => rfl
  | substitution n =>
      exact absurd (by decide) (not_mem_of_not_nests hnests (inSubstitution n))

theorem Inside.step_plain (hr : Inside r) (hnests : ¬ Nests r (c :: cs)) (hclose : c ≠ '\x60')
    (hescape : c ≠ '\\') : Inside (r.step c) := by
  have hstep (place : Place) : Inside (stepTemplate ⟨place, []⟩ c) := by
    simp only [stepTemplate, if_neg hclose, if_neg hescape]
    split
    · exact .dollar
    · exact .template
  cases hr with
  | template => exact hstep .template
  | dollar =>
      simp only [step]
      split
      · exact .substitution 0
      · exact hstep .dollar
  | substitution n =>
      have hc := not_mem_of_not_nests hnests (inSubstitution n)
      simp only [List.mem_cons, List.not_mem_nil, or_false, not_or] at hc
      simp only [step, stepCode, if_neg hc.2.2.2.1, if_neg (not_or.2 ⟨hc.1, hc.2.1⟩),
        if_neg hclose]
      split
      · exact .substitution (n + 1)
      · split
        · cases n with
          | zero => exact .template
          | succ n => exact .substitution n
        · exact .substitution n

theorem foldl_untilTemplateEnd (hr : Inside r)
    (hnests : ¬ Nests r (Lexeme.untilLiteralEnd '\x60' cs).1)
    (hrest : (Lexeme.untilLiteralEnd '\x60' cs).2 ≠ []) :
    (Lexeme.untilLiteralEnd '\x60' cs).1.foldl step r = {} := by
  fun_induction Lexeme.untilLiteralEnd '\x60' cs generalizing r with
  | case1 => exact absurd rfl hrest
  | case2 => exact absurd rfl hrest
  | case3 c cs body rest heq ih =>
      rw [heq] at ih
      have hstep := hr.step_backslash hnests c
      have hbody : ¬ Nests ((r.step '\\').step c) body := fun h => hnests h.of_step.of_step
      rw [List.foldl_cons, List.foldl_cons]
      rw [hstep] at hbody ⊢
      exact ih .template hbody hrest
  | case4 cs => exact hr.step_close hnests
  | case5 c cs _ _ _ hfeed => exact absurd hfeed (by simp)
  | case6 c cs hlast hmore hne hfeed body rest heq ih =>
      rw [heq] at ih
      rw [List.foldl_cons]
      exact ih (hr.step_plain hnests hne (Lexeme.ne_backslash hlast hmore))
        (fun h => hnests h.of_step) hrest

end Reading

/-- The characters that lie within the first `offset` bytes. -/
def charsBefore (offset : Nat) : List Char → List Char
  | [] => []
  | c :: cs => if offset < c.utf8Size then [] else c :: charsBefore (offset - c.utf8Size) cs

/-- The place behind the first `offset` bytes of `source` belongs to code. -/
def InCode (source : String) (offset : Nat) : Prop :=
  (Reading.of (charsBefore offset source.toList)).IsCode

instance (source : String) (offset : Nat) : Decidable (InCode source offset) :=
  inferInstanceAs (Decidable (Reading.of (charsBefore offset source.toList)).IsCode)

end ScopedStyles
