import ScopedStyles.Except
import ScopedStyles.Import.Statement
import ScopedStyles.Text.Slice
import ScopedStyles.Text.Utf8
/-!
# Scanning bytes

The scan for imports as a machine over the bytes of a script: it keeps a byte offset and a line
number, looks at single bytes, and cuts texts out of the script between two offsets. A cut is a
fault where an offset stands inside a character or out of range. The machine jumps two bytes over a
backslash, six over a word `import` that starts no statement, and to the end of a statement that it
has read.

`Import.scan` finds the same imports in the characters of a script.
-/

namespace ScopedStyles.ByteScan

open Text

/-! ## Looking at bytes -/

/-- The bytes of a script. -/
def bytesOf (source : String) : List UInt8 :=
  Utf8.encode source.toList

/-- Bytes that stand between words: spaces, tabs, and the ends of lines and pages. -/
def isBlankByte (b : UInt8) : Bool :=
  b == ' '.toUInt8 || b == '\t'.toUInt8 || b == '\n'.toUInt8 || b == '\x0c'.toUInt8 ||
    b == '\r'.toUInt8

/-- Bytes that continue a word. -/
def isIdentifierByte (b : UInt8) : Bool :=
  ('a'.toUInt8 ≤ b && b ≤ 'z'.toUInt8) || ('A'.toUInt8 ≤ b && b ≤ 'Z'.toUInt8) ||
    ('0'.toUInt8 ≤ b && b ≤ '9'.toUInt8) || b == '_'.toUInt8 || b == '$'.toUInt8 || 0x80 ≤ b

/-- The first offset from `i` on whose byte fails `test`. -/
def skipWhile (test : UInt8 → Bool) (bytes : List UInt8) (i : Nat) : Nat :=
  i + ((bytes.drop i).takeWhile test).length

/-- Whether `word` stands at `i` as a whole word. -/
def isWordAt (word : List Char) (bytes : List UInt8) (i : Nat) : Bool :=
  (Utf8.encode word).isPrefixOf (bytes.drop i) &&
    (i == 0 || bytes[i - 1]?.all fun b => !isIdentifierByte b && b != '.'.toUInt8) &&
    bytes[i + (Utf8.encode word).length]?.all fun b => !isIdentifierByte b

/-- The bytes between two offsets. -/
def sliceBytes (bytes : List UInt8) (start stop : Nat) : Except SliceFault (List UInt8) :=
  if start ≤ stop ∧ stop ≤ bytes.length then .ok ((bytes.drop start).take (stop - start))
  else .error ⟨start, stop⟩

/-! ## Statements -/

/-- The first offset from `i` on where the quote closes or the line ends. -/
def quoteEnd (quote : UInt8) (bytes : List UInt8) (i : Nat) : Nat :=
  skipWhile (fun b => b != quote && b != '\n'.toUInt8) bytes i

/-- The quoted text at `i` and the offset behind it. -/
def readQuoted (source : String) (i : Nat) : Except SliceFault (Option (String × Nat)) :=
  match (bytesOf source)[i]? with
  | none => .ok none
  | some quote =>
    if quote != '"'.toUInt8 && quote != '\''.toUInt8 then .ok none
    else if (bytesOf source)[quoteEnd quote (bytesOf source) (i + 1)]? = some quote then
      (slice source (i + 1) (quoteEnd quote (bytesOf source) (i + 1))).map fun inside =>
        some (inside, quoteEnd quote (bytesOf source) (i + 1) + 1)
    else .ok none

/-- Bytes that may stand in front of the `;` that ends a statement. -/
def isGapByte (b : UInt8) : Bool :=
  b == ' '.toUInt8 || b == '\t'.toUInt8

/-- The offset behind a `;` that stands behind spaces and tabs, or `i` itself. -/
def finish (bytes : List UInt8) (i : Nat) : Nat :=
  if bytes[skipWhile isGapByte bytes i]? = some ';'.toUInt8 then skipWhile isGapByte bytes i + 1
  else i

/-- Bytes that no clause holds outside braces. -/
def endsClauseByte (b : UInt8) : Bool :=
  b == ';'.toUInt8 || b == '"'.toUInt8 || b == '\''.toUInt8 || b == '\x60'.toUInt8 ||
    b == '('.toUInt8

/-- The offset below `limit` of the first whole word `from` outside braces. -/
def fromOffset? (bytes : List UInt8) (limit depth i : Nat) : Option Nat :=
  if h : i < bytes.length then
    if limit ≤ i then none
    else if bytes[i] = '{'.toUInt8 then fromOffset? bytes limit (depth + 1) (i + 1)
    else if bytes[i] = '}'.toUInt8 then fromOffset? bytes limit (depth - 1) (i + 1)
    else if depth = 0 && endsClauseByte bytes[i] then none
    else if depth = 0 && isWordAt ['f', 'r', 'o', 'm'] bytes i then some i
    else fromOffset? bytes limit depth (i + 1)
  else none
termination_by bytes.length - i

/-- The statement from `start` on whose specifier is quoted at `i`. -/
def closeAt (source : String) (start line : Nat) (clause : Option String) (i : Nat) :
    Except SliceFault (Option Import) := do
  match ← readQuoted source i with
  | none => return none
  | some (specifier, behind) =>
    let text ← slice source start (finish (bytesOf source) behind)
    return some { text, start, stop := finish (bytesOf source) behind, specifier, clause, line }

/-- The statement from `start` on whose clause lies between two offsets. -/
def bindAt (source : String) (start line first last : Nat) :
    Except SliceFault (Option Import) := do
  let text ← slice source first last
  let clause := trim text.toList
  let quote := skipWhile isBlankByte (bytesOf source) (last + 4)
  if clause.isEmpty || Statement.isTypeOnly clause then return none
  else closeAt source start line (some (String.ofList clause)) quote

/-- The statement whose keyword stands at `start`, where `first` is the offset behind the blanks
that follow it. -/
def readAt (source : String) (start line first : Nat) : Except SliceFault (Option Import) :=
  match (bytesOf source)[first]? with
  | none => .ok none
  | some b =>
    if b = '('.toUInt8 || b = '.'.toUInt8 then .ok none
    else if b = '"'.toUInt8 || b = '\''.toUInt8 then closeAt source start line none first
    else match fromOffset? (bytesOf source) (first + Statement.clauseLimit) 0 first with
      | none => .ok none
      | some last => bindAt source start line first last

/-- The statement whose keyword stands at `start`. -/
def statementAt (source : String) (start line : Nat) : Except SliceFault (Option Import) :=
  readAt source start line (skipWhile isBlankByte (bytesOf source) (start + 6))

/-! ## Literals and comments -/

/-- The offset behind a literal whose inside goes on at `i`, and the line number there. -/
def skipLiteral (quote : UInt8) (bytes : List UInt8) (i line : Nat) : Nat × Nat :=
  if h : i < bytes.length then
    if bytes[i] = quote then (i + 1, line)
    else if bytes[i] = '\\'.toUInt8 then skipLiteral quote bytes (i + 2) line
    else if bytes[i] = '\n'.toUInt8 then
      if quote != '\x60'.toUInt8 then (i, line) else skipLiteral quote bytes (i + 1) (line + 1)
    else skipLiteral quote bytes (i + 1) line
  else (bytes.length, line)
termination_by bytes.length - i

/-- The lines by which a byte of a comment advances the line number. -/
def lineFeedsAt (b : UInt8) : Nat :=
  if b = '\n'.toUInt8 then 1 else 0

/-- The offset behind a block comment whose inside goes on at `i`, and the line number there. -/
def skipBlockComment (bytes : List UInt8) (i line : Nat) : Nat × Nat :=
  if h : i + 1 < bytes.length then
    if bytes[i] = '*'.toUInt8 && bytes[i + 1] = '/'.toUInt8 then (i + 2, line)
    else skipBlockComment bytes (i + 1) (line + lineFeedsAt bytes[i])
  else (bytes.length, line)
termination_by bytes.length - i

/-! ## The scan -/

/-- What a step of the scan leaves: the import that it found, if any, and where it goes on. -/
structure Step where
  found : Option Import
  next : Nat
  line : Nat

/-- The step over the word `import` at `i`. -/
def stepKeyword (source : String) (i line : Nat) : Except SliceFault Step := do
  match ← statementAt source i line with
  | none => return ⟨none, i + 6, line⟩
  | some found =>
    let read ← sliceBytes (bytesOf source) found.start found.stop
    return ⟨some found, found.stop, line + read.count '\n'.toUInt8⟩

/-- The step over the byte `b` at `i`, and over what it starts. -/
def stepByte (source : String) (i line : Nat) (b : UInt8) : Except SliceFault Step :=
  if b = '\n'.toUInt8 then .ok ⟨none, i + 1, line + 1⟩
  else if b = '/'.toUInt8 && (bytesOf source)[i + 1]? = some '/'.toUInt8 then
    .ok ⟨none, skipWhile (· != '\n'.toUInt8) (bytesOf source) i, line⟩
  else if b = '/'.toUInt8 && (bytesOf source)[i + 1]? = some '*'.toUInt8 then
    .ok ⟨none, (skipBlockComment (bytesOf source) (i + 2) line).1,
      (skipBlockComment (bytesOf source) (i + 2) line).2⟩
  else if b = '"'.toUInt8 || b = '\''.toUInt8 || b = '\x60'.toUInt8 then
    .ok ⟨none, (skipLiteral b (bytesOf source) (i + 1) line).1,
      (skipLiteral b (bytesOf source) (i + 1) line).2⟩
  else if isWordAt Statement.keyword (bytesOf source) i then stepKeyword source i line
  else .ok ⟨none, i + 1, line⟩

theorem le_skipWhile (test : UInt8 → Bool) (bytes : List UInt8) (i : Nat) :
    i ≤ skipWhile test bytes i :=
  Nat.le_add_right _ _

theorem le_finish (bytes : List UInt8) (i : Nat) : i ≤ finish bytes i := by
  have hskip := le_skipWhile isGapByte bytes i
  unfold finish
  split <;> omega

theorem lt_of_readQuoted {source specifier : String} {i behind : Nat}
    (h : readQuoted source i = .ok (some (specifier, behind))) : i < behind := by
  unfold readQuoted at h
  split at h
  · cases h
  · next quote _ =>
      split at h
      · cases h
      · split at h
        · have hskip := le_skipWhile (fun b => b != quote && b != '\n'.toUInt8)
            (bytesOf source) (i + 1)
          cases hs : slice source (i + 1) (quoteEnd quote (bytesOf source) (i + 1)) with
          | error fault =>
              rw [hs] at h
              cases h
          | ok inside =>
              rw [hs] at h
              cases h
              exact Nat.lt_succ_of_lt hskip
        · cases h

theorem le_of_fromOffset? {bytes : List UInt8} {limit depth i last : Nat}
    (h : fromOffset? bytes limit depth i = some last) : i ≤ last := by
  fun_induction fromOffset? bytes limit depth i with
  | case1 | case4 | case7 => cases h
  | case5 => exact Nat.le_of_eq (Option.some.inj h)
  | case2 _ _ _ _ _ ih | case3 _ _ _ _ _ _ ih | case6 _ _ _ _ _ _ _ _ ih =>
      exact Nat.le_of_succ_le (ih h)

theorem lt_of_closeAt {source : String} {start line i : Nat} {clause : Option String}
    {found : Import} (h : closeAt source start line clause i = .ok (some found)) :
    i < found.stop := by
  obtain ⟨read, hread, h⟩ := bind_eq_ok h
  split at h
  · cases h
  · next specifier behind =>
      obtain ⟨text, -, h⟩ := bind_eq_ok h
      cases h
      exact Nat.lt_of_lt_of_le (lt_of_readQuoted hread) (le_finish _ _)

theorem lt_of_statementAt {source : String} {start line : Nat} {found : Import}
    (h : statementAt source start line = .ok (some found)) : start < found.stop := by
  have hfirst := le_skipWhile isBlankByte (bytesOf source) (start + 6)
  unfold statementAt readAt at h
  split at h
  · cases h
  · split at h
    · cases h
    · split at h
      · have hstop := lt_of_closeAt h
        omega
      · split at h
        · cases h
        · next last hfrom =>
            have hlast := le_of_fromOffset? hfrom
            have hquote := le_skipWhile isBlankByte (bytesOf source) (last + 4)
            obtain ⟨text, -, h⟩ := bind_eq_ok h
            simp only at h
            split at h
            · cases h
            · have hstop := lt_of_closeAt h
              omega

theorem min_le_skipLiteral (quote : UInt8) (bytes : List UInt8) (i line : Nat) :
    min i bytes.length ≤ (skipLiteral quote bytes i line).1 := by
  fun_induction skipLiteral quote bytes i line with
  | case1 | case3 => exact Nat.le_trans (Nat.min_le_left _ _) (by simp only; omega)
  | case2 _ _ _ _ _ ih | case4 _ _ _ _ _ _ _ ih | case5 _ _ _ _ _ _ ih => omega
  | case6 => exact Nat.min_le_right _ _

theorem min_le_skipBlockComment (bytes : List UInt8) (i line : Nat) :
    min i bytes.length ≤ (skipBlockComment bytes i line).1 := by
  fun_induction skipBlockComment bytes i line with
  | case1 => exact Nat.le_trans (Nat.min_le_left _ _) (by simp only; omega)
  | case2 _ _ _ _ ih => omega
  | case3 => exact Nat.min_le_right _ _

theorem lt_skipWhile {test : UInt8 → Bool} {bytes : List UInt8} {i : Nat} {b : UInt8}
    (hi : bytes[i]? = some b) (hb : test b = true) : i < skipWhile test bytes i := by
  obtain ⟨hlt, hget⟩ := List.getElem?_eq_some_iff.1 hi
  rw [skipWhile, List.drop_eq_getElem_cons hlt, hget, List.takeWhile_cons_of_pos hb,
    List.length_cons]
  omega

/-- Every step goes forward, so the scan ends. -/
theorem lt_of_stepByte {source : String} {i line : Nat} {b : UInt8} {s : Step}
    (hi : (bytesOf source)[i]? = some b) (h : stepByte source i line b = .ok s) : i < s.next := by
  obtain ⟨hlt, -⟩ := List.getElem?_eq_some_iff.1 hi
  unfold stepByte at h
  split at h
  · cases h
    exact Nat.lt_succ_self i
  split at h
  · next hb =>
      cases h
      refine lt_skipWhile hi ?_
      rw [Bool.and_eq_true, decide_eq_true_eq] at hb
      rw [hb.1]
      decide
  split at h
  · next hb =>
      cases h
      rw [Bool.and_eq_true, decide_eq_true_eq, decide_eq_true_eq] at hb
      obtain ⟨hlt', -⟩ := List.getElem?_eq_some_iff.1 hb.2
      have hnext := min_le_skipBlockComment (bytesOf source) (i + 2) line
      simp only
      omega
  split at h
  · cases h
    have hnext := min_le_skipLiteral b (bytesOf source) (i + 1) line
    simp only
    omega
  split at h
  · obtain ⟨found, hfound, h⟩ := bind_eq_ok h
    split at h
    · cases h
      simp only
      omega
    · obtain ⟨read, -, h⟩ := bind_eq_ok h
      cases h
      exact lt_of_statementAt hfound
  · cases h
    exact Nat.lt_succ_self i

/-- The imports from offset `i` on, which stands on line `line`. -/
def scanFrom (source : String) (i line : Nat) : Except SliceFault (List Import) :=
  match _hi : (bytesOf source)[i]? with
  | none => .ok []
  | some b =>
    match _h : stepByte source i line b with
    | .error fault => .error fault
    | .ok s => (scanFrom source s.next s.line).map (s.found.toList ++ ·)
termination_by (bytesOf source).length - i
decreasing_by
  obtain ⟨hlt, -⟩ := List.getElem?_eq_some_iff.1 _hi
  have hnext := lt_of_stepByte _hi _h
  omega

/-- The imports of a script, or the first cut that fails. -/
def scan (source : String) : Except SliceFault (List Import) :=
  scanFrom source 0 1

end ScopedStyles.ByteScan
