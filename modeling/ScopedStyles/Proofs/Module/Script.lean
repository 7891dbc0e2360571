import ScopedStyles.Proofs.Import.Layout
import ScopedStyles.Proofs.Import.Standalone
import ScopedStyles.Proofs.Module.Binding
/-!
# Bindings in front of a script

What a JSON string escapes is what could end a literal of a script, so a binding is made of texts
that stand alone, whatever its exports are called. It imports nothing, and the imports of a script
behind it are found as before.
-/

namespace ScopedStyles

namespace Lexeme

theorem digitChar_plain : ∀ n < 16,
    Nat.digitChar n ≠ '"' ∧ Nat.digitChar n ≠ '\\' ∧ Nat.digitChar n ≠ '\n' := by
  decide

/-- What a character is written as closes no literal and is no line feed. -/
theorem LiteralBody.of_escapes {c : Char} {written body : List Char}
    (h : Json.Escapes c written) (hbody : LiteralBody '"' body) :
    LiteralBody '"' (written ++ body) := by
  have hplain {d : Char} (hd : d ≠ '"' ∧ d ≠ '\\' ∧ d ≠ '\n') {ds : List Char}
      (hds : LiteralBody '"' ds) : LiteralBody '"' (d :: ds) :=
    .plain hd.1 hd.2.1 (fun hfeed => absurd hfeed hd.2.2) hds
  cases h with
  | @short e hvalue =>
      apply LiteralBody.escape _ hbody
      rintro rfl
      cases hvalue
  | control hcontrol =>
      have hhigh := digitChar_plain (c.toNat / 16) (by omega)
      have hlow := digitChar_plain (c.toNat % 16) (by omega)
      apply LiteralBody.escape (by decide)
      apply hplain (by decide)
      apply hplain (by decide)
      apply hplain hhigh
      apply hplain hlow
      exact hbody
  | plain hquote hescape hcontrol =>
      apply hplain ⟨hquote, hescape, _⟩ hbody
      rintro rfl
      exact hcontrol (by decide)

theorem literalBody_flatMap_escape (s : List Char) : LiteralBody '"' (s.flatMap Json.escape) := by
  induction s with
  | nil => exact .nil
  | cons c s ih =>
      rw [List.flatMap_cons]
      exact .of_escapes (Json.escapes_escape c) ih

theorem Standalone.string (s : List Char) : Standalone (Json.encode s) :=
  .of_piece (.literal '"' (s.flatMap Json.escape) rfl (literalBody_flatMap_escape s)) rfl

end Lexeme

namespace StyleModule

open Lexeme Statement

theorem standalone_bindingEntry (e : String × String) : Standalone (bindingEntry e) := by
  have hindent : Standalone [' ', ' '] := .plain (by decide) (by decide)
  have hcolon : Standalone [':', ' '] := .plain (by decide) (by decide)
  have hvalue := hcolon.append (Standalone.string e.2.toList)
  exact hindent.append ((Standalone.string e.1.toList).append hvalue)

theorem standalone_laterEntries (entries : List (String × String)) :
    Standalone (laterEntries entries) := by
  have hcomma : Standalone [',', '\n'] := .plain (by decide) (by decide)
  induction entries with
  | nil => exact .nil
  | cons e entries ih =>
      rw [laterEntries, List.flatMap_cons]
      exact (hcomma.append (standalone_bindingEntry e)).append ih

theorem standalone_bindingObject (entries : List (String × String)) :
    Standalone (bindingObject entries ++ [';']) := by
  cases entries with
  | nil =>
      exact .plain (by decide) (by decide)
  | cons e entries =>
      have hopen : Standalone ['{', '\n'] := .plain (by decide) (by decide)
      have hclose : Standalone ['\n', '}', ';'] := .plain (by decide) (by decide)
      have hlater := (standalone_laterEntries entries).append hclose
      have hobject := hopen.append ((standalone_bindingEntry e).append hlater)
      rw [bindingObject_cons]
      simpa using hobject

/-- A binding in front of a script imports nothing and moves the imports of the script by its bytes
and line feeds, whatever its exports are called. -/
theorem scan_binding_append {m : StyleModule}
    (hname : Bindings.isIdentifier m.resolved.defaultImport.toList = true)
    (hne : m.resolved.defaultImport ≠ "import") (source : String) :
    Import.scan (m.binding ++ source) =
      (Import.scan source).map
        (Import.shift m.binding.utf8ByteSize (m.binding.toList.count '\n')) := by
  have hconst : Standalone "const ".toList := .plain (by decide) (by decide)
  have hequals : Standalone ['=', ' '] := .plain (by decide) (by decide)
  have hword : Standalone (m.resolved.defaultImport.toList ++ [' ']) := by
    apply Standalone.word
    · intro c hc
      exact Import.isIdentifierChar_of_isNameChar (Bindings.isNameChar_of_mem hname c hc)
    · decide
    · intro heq
      exact hne (String.toList_inj.1 heq)
  have hbinding : Standalone m.binding.toList := by
    have hobject := hequals.append (standalone_bindingObject m.exports.entries)
    rw [toList_binding]
    simpa using hconst.append (hword.append hobject)
  have hscan := hbinding.import_scan source
  rwa [String.ofList_toList] at hscan

/-- A module whose names hold comments, other quotes and an import, under a name that starts with
the keyword. -/
def withImport : StyleModule where
  css := none
  exports := .ofList [("/* \"\x60", "// \\"), ("';\nimport b from './b.module.css'", "x")]
  status := .transformed
  resolved :=
    ⟨"/a.module.css", "important", ⟨"import important from './a.module.css'", 0, 38,
      "./a.module.css", some "important", 1⟩⟩

theorem scan_binding_append_withImport :
    Bindings.isIdentifier withImport.resolved.defaultImport.toList = true ∧
    withImport.resolved.defaultImport ≠ "import" ∧
    Import.scan (withImport.binding ++ "import 'y'") = [⟨"import 'y'", 87, 97, "y", none, 4⟩] := by
  have hname : Bindings.isIdentifier withImport.resolved.defaultImport.toList = true := by
    decide +kernel
  have hne : withImport.resolved.defaultImport ≠ "import" := by decide
  refine ⟨hname, hne, ?_⟩
  apply (scan_binding_append hname hne "import 'y'").trans
  decide +kernel

end StyleModule

end ScopedStyles
