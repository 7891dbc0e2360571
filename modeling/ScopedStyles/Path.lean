import ScopedStyles.Text.Split
import ScopedStyles.Text.Utf8
/-!
# Paths

A path is the bytes that name a file: names between slashes, absolute if it starts with a slash.
Paths are joined and taken apart as they are written. `.` and `..` are not folded into the path, so
the parent of `a/..` is `a`; only repeated slashes and `.` at the end of a path count for nothing.
-/

namespace ScopedStyles

open Text

/-- The bytes that name a file. -/
structure Path where
  bytes : List UInt8
  deriving DecidableEq, Repr

namespace Path

/-- The byte that separates names. -/
def slash : UInt8 := 0x2F

/-- The byte in front of a file name's extension, and the name of the directory itself. -/
def dot : UInt8 := 0x2E

/-- The path that a text spells. -/
def ofString (s : String) : Path :=
  ⟨Utf8.encode s.toList⟩

/-- The text of a path, unless its bytes are no text. -/
def text? (p : Path) : Option String :=
  (Utf8.decodeString p.bytes).toOption

/-- Whether a path starts at the root of the file system. -/
def isAbsolute (p : Path) : Bool :=
  p.bytes.head? == some slash

/-- The path `q` as seen from the directory `p`. -/
def join (p q : Path) : Path :=
  if q.isAbsolute then q
  else if p.bytes.isEmpty || p.bytes.getLast? == some slash then ⟨p.bytes ++ q.bytes⟩
  else ⟨p.bytes ++ slash :: q.bytes⟩

/-- A path with more text right behind its last name. -/
def append (p : Path) (s : String) : Path :=
  ⟨p.bytes ++ Utf8.encode s.toList⟩

/-- What no parent loses: the root's slash, or the `.` that a relative path starts with. -/
def splitLead : List UInt8 → List UInt8 × List UInt8
  | [] => ([], [])
  | b :: rest =>
    if b = slash then ([b], rest)
    else if b = dot && (rest.isEmpty || rest.head? == some slash) then ([b], rest)
    else ([], b :: rest)

/-- Drops the slashes and `.` at the end of a path whose bytes are given last one first. -/
def dropTrivial : List UInt8 → List UInt8
  | [] => []
  | b :: rest =>
    if b = slash then dropTrivial rest
    else if b = dot && (rest.isEmpty || rest.head? == some slash) then dropTrivial rest
    else b :: rest

/-- The directory that a path's last name stands in. The root has none. -/
def parent? (p : Path) : Option Path :=
  let (lead, body) := splitLead p.bytes
  match dropTrivial body.reverse with
  | [] => if lead = [dot] then some ⟨[]⟩ else none
  | b :: rest => some ⟨lead ++ (dropTrivial ((b :: rest).dropWhile (· != slash))).reverse⟩

theorem splitLead_append (bytes : List UInt8) :
    (splitLead bytes).1 ++ (splitLead bytes).2 = bytes := by
  cases bytes with
  | nil => rfl
  | cons b rest =>
    simp only [splitLead]
    split
    · rfl
    · split <;> rfl

theorem dropTrivial_suffix (bytes : List UInt8) : dropTrivial bytes <:+ bytes := by
  induction bytes with
  | nil => exact List.suffix_refl _
  | cons b rest ih =>
    simp only [dropTrivial]
    split
    · exact ih.trans (List.suffix_cons _ _)
    · split
      · exact ih.trans (List.suffix_cons _ _)
      · exact List.suffix_refl _

theorem head_dropTrivial_ne_slash {bytes rest : List UInt8} {b : UInt8}
    (h : dropTrivial bytes = b :: rest) : b ≠ slash := by
  induction bytes with
  | nil => simp [dropTrivial] at h
  | cons c cs ih =>
    simp only [dropTrivial] at h
    split at h
    · exact ih h
    · next hc =>
      split at h
      · exact ih h
      · exact (List.cons.inj h).1 ▸ hc

theorem length_parent?_lt {p q : Path} (h : p.parent? = some q) :
    q.bytes.length < p.bytes.length := by
  have hp := congrArg List.length (splitLead_append p.bytes)
  simp only [List.length_append] at hp
  simp only [parent?] at h
  split at h
  · split at h
    · next hlead =>
      cases h
      simp only [hlead, List.length_cons, List.length_nil] at hp ⊢
      omega
    · simp at h
  · next b rest hb =>
    cases h
    have hbody := (dropTrivial_suffix (splitLead p.bytes).2.reverse).length_le
    have hname := (List.dropWhile_suffix (l := rest) (· != slash)).length_le
    have htrim := (dropTrivial_suffix (rest.dropWhile (· != slash))).length_le
    have hne := head_dropTrivial_ne_slash hb
    rw [hb] at hbody
    simp only [List.length_reverse, List.length_cons] at hbody
    simp only [List.length_append, List.length_reverse]
    rw [List.dropWhile_cons_of_pos (by simpa using hne)]
    omega

/-- Where a path starts, and its names. Two paths with the same components lead to the same place
wherever their names do. -/
def components (p : Path) : List UInt8 × List (List UInt8) :=
  let (lead, body) := splitLead p.bytes
  (lead, (splitOn slash body).filter fun name => !name.isEmpty && name != [dot])

/-- A path and the directories above it, nearest first. -/
def ancestors (p : Path) : List Path :=
  p :: match _h : p.parent? with
    | some q => ancestors q
    | none => []
termination_by p.bytes.length
decreasing_by exact length_parent?_lt _h

/-- The last name of a path, unless it is `..` or the path has no name. -/
def fileName? (p : Path) : Option (List UInt8) :=
  let (_, body) := splitLead p.bytes
  let name := ((dropTrivial body.reverse).takeWhile (· != slash)).reverse
  if name.isEmpty || name = [dot, dot] then none else some name

/-- The last name of a path without its extension, which is the last `.` and what follows it. A
name that starts with its only `.` has no extension. -/
def fileStem? (p : Path) : Option (List UInt8) :=
  p.fileName?.map fun name =>
    match name.reverse.dropWhile (· != dot) with
    | [] | [_] => name
    | _ :: stem => stem.reverse

end Path

end ScopedStyles
