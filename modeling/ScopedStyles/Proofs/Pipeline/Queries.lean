import ScopedStyles.Except
import ScopedStyles.Proofs.Pipeline.FoundFile
import ScopedStyles.Proofs.Text.Split
/-!
# Queries

A query behind a specifier is dropped wherever a file is named: where stylesheets are told from
other files, where a file is looked for, and where one is read. Aliases are matched against the
specifier as it stands, so there it matters only to keys that hold a `?` themselves.
-/

namespace ScopedStyles

theorem Specifier.hasExtension_append {s : String} (hs : '?' ∉ s.toList) (query : String)
    (extensions : List String) :
    hasExtension extensions (s ++ "?" ++ query) = hasExtension extensions s := by
  unfold hasExtension
  rw [withoutQuery_append hs, withoutQuery_eq_self_iff.2 hs]

theorem Alias.matches_append {a : Alias} (ha : '?' ∉ a.key.toList) (s query : String) :
    a.matches (s ++ "?" ++ query) = a.matches s := by
  unfold Alias.matches
  rw [Bool.eq_iff_iff, List.isPrefixOf_iff_prefix, List.isPrefixOf_iff_prefix,
    String.toList_append, String.toList_append, List.append_assoc]
  constructor
  · exact Text.prefix_of_prefix_append_cons ha
  · intro h
    exact h.trans (List.prefix_append _ _)

theorem AliasTable.find?_append {t : AliasTable} (ht : ∀ a ∈ t.entries, '?' ∉ a.key.toList)
    (s query : String) : t.find? (s ++ "?" ++ query) = t.find? s := by
  have hfound : t.entries.filter (·.matches (s ++ "?" ++ query)) =
      t.entries.filter (·.matches s) := by
    apply List.filter_congr
    intro a ha
    exact Alias.matches_append (ht a ha) s query
  unfold find?
  rw [hfound]

namespace Resolver.FileSearch

theorem resolve_append (search : FileSearch) (fs : FileSystem) {s : String} (hs : '?' ∉ s.toList)
    (query : String) (importer : Option Path) (matched : Option Alias) :
    search.resolve fs { specifier := s ++ "?" ++ query, importer, matched } =
      (search.resolve fs { specifier := s, importer, matched }).mapError
        fun failure => { failure with specifier := s ++ "?" ++ query } := by
  simp only [resolve, Specifier.withoutQuery_append hs, Specifier.withoutQuery_eq_self_iff.2 hs,
    Request.importerDirectory?]
  rw [mapError_mapError]

end Resolver.FileSearch

namespace Import

variable (resolver : Resolver.Request → Except Resolver.Failure Path)
  (reader : Path → Except FileFault String)
  (engine : Engine.Request → Except EngineError Engine.Output)

/-- An import without an alias is resolved to its specifier, and its module is made from the file
that the specifier names without its query. -/
theorem madeFrom_unaliased {aliases : AliasTable} {i : Import}
    (hfind : aliases.find? i.specifier = none) (importer : Option Path) (name : String) :
    ∃ r : ResolvedImport,
      Answers (i.resolve (Services.recorded resolver reader engine) aliases importer name)
        (.resolved r) {} ∧
      r.path = i.specifier ∧
      r.MadeFrom resolver reader engine (.ofString (Specifier.withoutQuery i.specifier)) := by
  refine ⟨⟨i.specifier, name, i⟩, ?_, rfl, ?_⟩
  · have hanswer := answers_resolve resolver reader engine aliases importer i name
    rwa [outcomeUnder, requests, hfind] at hanswer
  · exact ResolvedImport.madeFrom_file resolver reader engine ⟨i.specifier, name, i⟩

end Import

namespace Specifier

variable (resolver : Resolver.Request → Except Resolver.Failure Path)
  (reader : Path → Except FileFault String)
  (engine : Engine.Request → Except EngineError Engine.Output)

/-- A query changes nothing about the file that a specifier leads to, if no key of an alias holds a
`?`: neither whether it is a stylesheet module, nor the alias, nor what is found or where it was
looked for, nor what is read where there is no alias. -/
theorem query_keeps_file {s : String} (hs : '?' ∉ s.toList) (query : String)
    (extensions : List String) {aliases : AliasTable}
    (haliases : ∀ a ∈ aliases.entries, '?' ∉ a.key.toList) (search : Resolver.FileSearch)
    (fs : FileSystem) (importer : Option Path) :
    (hasExtension extensions (s ++ "?" ++ query) = true ↔ hasExtension extensions s = true) ∧
    aliases.find? (s ++ "?" ++ query) = aliases.find? s ∧
    (∀ matched, search.resolve fs { specifier := s ++ "?" ++ query, importer, matched } =
      (search.resolve fs { specifier := s, importer, matched }).mapError
        fun failure => { failure with specifier := s ++ "?" ++ query }) ∧
    (aliases.find? s = none → ∀ (i : Import) (name : String),
      i.specifier = s ∨ i.specifier = s ++ "?" ++ query →
      ∃ r : ResolvedImport,
        Answers (i.resolve (Services.recorded resolver reader engine) aliases importer name)
          (.resolved r) {} ∧
        r.path = i.specifier ∧ r.MadeFrom resolver reader engine (.ofString s)) := by
  have hfind := AliasTable.find?_append haliases s query
  refine ⟨?_, hfind, ?_, ?_⟩
  · rw [hasExtension_append hs]
  · intro matched
    exact Resolver.FileSearch.resolve_append search fs hs query importer matched
  · intro hnone i name hi
    have hfile : withoutQuery i.specifier = s := by
      rcases hi with hi | hi
      · rw [hi, withoutQuery_eq_self_iff.2 hs]
      · rw [hi, withoutQuery_append hs]
    have hunaliased : aliases.find? i.specifier = none := by
      rcases hi with hi | hi
      · rw [hi, hnone]
      · rw [hi, hfind, hnone]
    have hmade := Import.madeFrom_unaliased resolver reader engine hunaliased importer name
    rwa [hfile] at hmade

/-- Two keys of which one starts the other. -/
def nestedKeys : AliasTable :=
  { entries := [⟨"@", "./packages/"⟩, ⟨"@/", "./styles/"⟩] }

/-- An import with a query and without an alias. -/
def withQuery : Import :=
  ⟨"import a from './b.module.css?inline'", 0, 37, "./b.module.css?inline", some "a", 1⟩

theorem query_keeps_file_of_inline :
    hasExtension [".module.css"] ("@/x.module.css" ++ "?" ++ "inline") = true ∧
    nestedKeys.find? ("@/x.module.css" ++ "?" ++ "inline") = some ⟨"@/", "./styles/"⟩ ∧
    Import.fromProject.resolve (Import.onlyFile (.ofString "/p/styles/x.module.css"))
      { specifier := "@/x.module.css" ++ "?" ++ "inline", matched := some ⟨"@/", "./styles/"⟩ } =
        .ok (.ofString "/p/styles/x.module.css") ∧
    ∃ r : ResolvedImport,
      Answers (withQuery.resolve (Services.recorded (fun _ => .error ⟨"", .notFound, []⟩)
        (fun _ => .error .notFound) Import.rejecting) nestedKeys none "a") (.resolved r) {} ∧
      r.path = "./b.module.css?inline" ∧
      r.MadeFrom (fun _ => .error ⟨"", .notFound, []⟩) (fun _ => .error .notFound)
        Import.rejecting (.ofString "./b.module.css") := by
  have haliases : ∀ a ∈ nestedKeys.entries, '?' ∉ a.key.toList := by decide
  have haliased := query_keeps_file (fun _ => .error ⟨"", .notFound, []⟩)
    (fun _ => .error .notFound) Import.rejecting (s := "@/x.module.css") (by decide) "inline"
    [".module.css"] haliases Import.fromProject
    (Import.onlyFile (.ofString "/p/styles/x.module.css")) none
  have hplain := query_keeps_file (fun _ => .error ⟨"", .notFound, []⟩)
    (fun _ => .error .notFound) Import.rejecting (s := "./b.module.css") (by decide) "inline"
    [".module.css"] haliases Import.fromProject
    (Import.onlyFile (.ofString "/p/styles/x.module.css")) none
  refine ⟨?_, ?_, ?_, ?_⟩
  · apply haliased.1.2
    decide +kernel
  · apply haliased.2.1.trans
    decide +kernel
  · apply (haliased.2.2.1 _).trans
    decide +kernel
  · apply hplain.2.2.2 (by decide +kernel) withQuery "a"
    right
    decide +kernel

end Specifier

end ScopedStyles
