import ScopedStyles.Module.Binding
import ScopedStyles.Proofs.Import.Clauses
import ScopedStyles.Proofs.Json.Objects
import ScopedStyles.Proofs.Json.Strings
import ScopedStyles.Proofs.Text.Order
/-!
# Bindings that are read back

Behind the name that a binding declares stands a JSON object, and reading it gives the exports of
the module in their order. A binding therefore tells both its name and its exports.
-/

namespace ScopedStyles

namespace Json

/-- Reads the text behind a key and puts both behind the entries in front of them. -/
def readEntry (key : String) (entries : List (String × String)) :
    Reader (List (String × String)) := fun s => do
  let ((), s) ← colon s
  let (value, s) ← text "a string" s
  return (entries ++ [(key, value)], s)

/-- Reads an object of texts. A key that repeats has an entry for each time. -/
def textEntries : Reader (List (String × String)) :=
  object "a map" readEntry []

theorem readEntry_encode (key value : String) (entries : List (String × String))
    (rest : List Char) :
    readEntry key entries (':' :: ' ' :: (encode value.toList ++ rest)) =
      .ok (entries ++ [(key, value)], rest) := by
  have hblank : ∀ c ∈ [' '], isBlank c = true := List.all_eq_true.1 (by decide)
  have hvalue : text "a string" (' ' :: (encode value.toList ++ rest)) = .ok (value, rest) :=
    text_encode hblank "a string" value rest
  have hcolon : colon (':' :: ' ' :: (encode value.toList ++ rest)) =
      .ok ((), ' ' :: (encode value.toList ++ rest)) := rfl
  unfold readEntry
  simp only [hcolon, hvalue, bind, Except.bind]
  rfl

end Json

namespace StyleModule

open Json Text

variable {entries : List (String × String)}

theorem bindingEntry_append (e : String × String) (rest : List Char) :
    bindingEntry e ++ rest =
      ' ' :: ' ' :: (encode e.1.toList ++ ':' :: ' ' :: (encode e.2.toList ++ rest)) := by
  simp only [bindingEntry, List.cons_append, List.append_assoc]

/-- The members behind the first one, with what stands in front of each of them. -/
def laterEntries (entries : List (String × String)) : List Char :=
  entries.flatMap fun e => ',' :: '\n' :: bindingEntry e

theorem intercalate_bindingEntry (e : String × String) (entries : List (String × String)) :
    [',', '\n'].intercalate ((e :: entries).map bindingEntry) =
      bindingEntry e ++ laterEntries entries := by
  induction entries generalizing e with
  | nil => rw [List.map_singleton, List.intercalate_singleton, laterEntries, List.flatMap_nil,
      List.append_nil]
  | cons next entries ih =>
      rw [List.map_cons, List.map_cons, List.intercalate_cons_cons, ← List.map_cons, ih next,
        List.append_assoc]
      rfl

theorem bindingObject_cons (e : String × String) (entries : List (String × String)) :
    bindingObject (e :: entries) =
      '{' :: '\n' :: (bindingEntry e ++ (laterEntries entries ++ ['\n', '}'])) := by
  rw [bindingObject, intercalate_bindingEntry, List.append_assoc]
  rfl

theorem isBlank_of_mem_indent : ∀ c ∈ ['\n', ' ', ' '], Json.isBlank c = true :=
  List.all_eq_true.1 (by decide)

theorem members_laterEntries (rest : List Char) {fuel : Nat} (hfuel : entries.length < fuel)
    (seen : List (String × String)) :
    members readEntry fuel false seen (laterEntries entries ++ '\n' :: '}' :: rest) =
      .ok (seen ++ entries, rest) := by
  -- A member takes one of the fuel, and the closing brace the last of it.
  induction entries generalizing fuel seen with
  | nil =>
      obtain ⟨fuel, rfl⟩ := Nat.exists_eq_add_one_of_ne_zero (Nat.ne_of_gt hfuel)
      rw [List.append_nil]
      have hfeed : ∀ c ∈ ['\n'], Json.isBlank c = true := List.all_eq_true.1 (by decide)
      exact members_close hfeed fuel false seen rest
  | cons e entries ih =>
      have hpos : fuel ≠ 0 := Nat.ne_of_gt (Nat.zero_lt_of_lt hfuel)
      obtain ⟨fuel, rfl⟩ := Nat.exists_eq_add_one_of_ne_zero hpos
      have htext : laterEntries (e :: entries) ++ '\n' :: '}' :: rest =
          ',' :: (['\n', ' ', ' '] ++ (encode e.1.toList ++
            ':' :: ' ' :: (encode e.2.toList ++
              (laterEntries entries ++ '\n' :: '}' :: rest)))) := by
        rw [laterEntries, List.flatMap_cons, List.append_assoc, ← laterEntries, List.cons_append,
          List.cons_append, bindingEntry_append]
        rfl
      rw [htext, members_later isBlank_of_mem_indent (readEntry_encode e.1 e.2 seen _),
        ih (Nat.lt_of_succ_lt_succ hfuel), List.append_assoc]
      rfl

theorem length_le_length_laterEntries (entries : List (String × String)) :
    entries.length ≤ (laterEntries entries).length := by
  induction entries with
  | nil => exact Nat.le_refl 0
  | cons e entries ih =>
      rw [laterEntries, List.flatMap_cons, List.length_append, ← laterEntries, List.length_cons,
        List.length_cons]
      omega

theorem textEntries_bindingObject (entries : List (String × String)) :
    textEntries (bindingObject entries) = .ok (entries, []) := by
  cases entries with
  | nil => rfl
  | cons e entries =>
      rw [bindingObject_cons, bindingEntry_append]
      have hfuel : entries.length < (['\n', ' ', ' '] ++ (encode e.1.toList ++ ':' :: ' ' ::
          (encode e.2.toList ++ (laterEntries entries ++ ['\n', '}'])))).length := by
        have hlater := length_le_length_laterEntries entries
        simp only [List.length_append, List.length_cons]
        omega
      have hfirst := members_first isBlank_of_mem_indent
        (readEntry_encode e.1 e.2 [] (laterEntries entries ++ ['\n', '}']))
      unfold textEntries object
      exact (hfirst _).trans (members_laterEntries [] hfuel [e])

theorem document_bindingObject (entries : List (String × String)) :
    document textEntries (bindingObject entries) = .ok entries := by
  rw [document, textEntries_bindingObject]
  rfl

theorem toList_binding (m : StyleModule) :
    m.binding.toList = "const ".toList ++ (m.resolved.defaultImport.toList ++
      ' ' :: '=' :: ' ' :: (bindingObject m.exports.entries ++ [';'])) := by
  unfold binding
  simp [String.toList_append]

/-- The name ends at the first blank, and the object takes all but the semicolon of what follows. -/
theorem eq_of_binding_eq {m n : StyleModule} (hm : ' ' ∉ m.resolved.defaultImport.toList)
    (hn : ' ' ∉ n.resolved.defaultImport.toList) (h : n.binding = m.binding) :
    n.resolved.defaultImport = m.resolved.defaultImport ∧ n.exports = m.exports := by
  have htext := congrArg String.toList h
  rw [toList_binding, toList_binding] at htext
  have hsplit := congrArg (splitAtFirst? [' ']) (List.append_cancel_left htext)
  rw [splitAtFirst?_append_cons hn, splitAtFirst?_append_cons hm] at hsplit
  obtain ⟨hname, hbehind⟩ := Prod.mk.inj (Option.some.inj hsplit)
  have hobject : bindingObject n.exports.entries = bindingObject m.exports.entries := by
    simpa using hbehind
  have hread := document_bindingObject n.exports.entries
  rw [hobject, document_bindingObject] at hread
  exact ⟨String.toList_inj.1 hname, NameMap.ext (Except.ok.inj hread).symm⟩

/-- A binding is read back: behind its name stands an object that gives the exports, each key once
and in the order of the keys' bytes, and no other name or exports have the same binding. -/
theorem binding_readable {m : StyleModule}
    (hname : Bindings.isIdentifier m.resolved.defaultImport.toList = true) :
    (∃ object : String,
      m.binding = "const " ++ m.resolved.defaultImport ++ " = " ++ object ++ ";" ∧
      document textEntries object.toList = .ok m.exports.entries) ∧
    m.exports.entries.Pairwise (fun e f => Utf8.encode e.1.toList < Utf8.encode f.1.toList) ∧
    ∀ n : StyleModule, Bindings.isIdentifier n.resolved.defaultImport.toList = true →
      n.binding = m.binding →
        n.resolved.defaultImport = m.resolved.defaultImport ∧ n.exports = m.exports := by
  have hblank : Bindings.isNameChar ' ' = false := by decide +kernel
  refine ⟨⟨String.ofList (bindingObject m.exports.entries), rfl, ?_⟩, ?_, ?_⟩
  · rw [String.toList_ofList]
    exact document_bindingObject m.exports.entries
  · apply m.exports.sorted.imp
    intro e f hlt
    exact Utf8.encode_lt_encode (String.lt_iff.1 hlt)
  · intro n hn heq
    apply eq_of_binding_eq _ _ heq
    · exact Bindings.not_mem_of_isIdentifier hname hblank
    · exact Bindings.not_mem_of_isIdentifier hn hblank

/-- A module with quotes, a separator of members and a backslash in its names. -/
def withQuotes : StyleModule where
  css := some ""
  exports := .ofList [("a\"b", "x\\y"), ("a", "\",\n  \"b\": \"\x7d;")]
  status := .transformed
  resolved :=
    ⟨"/a.module.css", "styles", ⟨"import styles from './a.module.css'", 0, 35, "./a.module.css",
      some "styles", 1⟩⟩

theorem binding_readable_withQuotes :
    Bindings.isIdentifier withQuotes.resolved.defaultImport.toList = true ∧
    (∃ object : String, withQuotes.binding = "const styles = " ++ object ++ ";" ∧
      document textEntries object.toList =
        .ok [("a", "\",\n  \"b\": \"\x7d;"), ("a\"b", "x\\y")]) ∧
    ∀ n : StyleModule, Bindings.isIdentifier n.resolved.defaultImport.toList = true →
      n.binding = withQuotes.binding → n.exports = withQuotes.exports := by
  have hname : Bindings.isIdentifier withQuotes.resolved.defaultImport.toList = true := by
    decide +kernel
  have hentries : withQuotes.exports.entries =
      [("a", "\",\n  \"b\": \"\x7d;"), ("a\"b", "x\\y")] := by
    decide +kernel
  obtain ⟨⟨object, hbinding, hread⟩, -, hunique⟩ := binding_readable hname
  rw [hentries] at hread
  exact ⟨hname, ⟨object, hbinding, hread⟩, fun n hn heq => (hunique n hn heq).2⟩

end StyleModule

end ScopedStyles
