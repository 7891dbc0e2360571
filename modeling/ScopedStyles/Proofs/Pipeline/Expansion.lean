import ScopedStyles.Proofs.Alias
import ScopedStyles.Proofs.Pipeline.FoundFile
import ScopedStyles.Proofs.Resolver.Search
/-!
# The alias that is applied

An alias is chosen by the specifier as it stands, and the search drops the query before it puts the
replacement in place of the key. If the key has no `?`, it still starts what is left of the
specifier, and the file is the one of the replacement with the rest behind it. A key with a `?`
starts no specifier without a query: its alias is chosen and yet not applied.
-/

namespace ScopedStyles

open Resolver (FileSearch)

namespace Import

variable (s : FileSearch) (aliases : AliasTable) (importer : Option Path) (i : Import) (a : Alias)

/-- What a resolver is asked about an import with an alias. -/
def request : Resolver.Request :=
  { specifier := i.specifier, importer, matched := some a }

/-- Whatever the files are, the resolver is asked once about the import, and answers with what a
search for `target` comes to that starts at `anchor` if `target` is relative. -/
def SearchedFor (target : String) (anchor : Path) : Prop :=
  ∀ fs reader engine name,
    Answers (i.resolve (Services.recorded (s.resolve fs) reader engine) aliases importer name)
      (i.outcome name ((s.search fs anchor (s.start (i.request importer a)) target).mapError
        (FileSearch.failure (i.request importer a))))
      { resolved := [i.request importer a] }

variable {s aliases i a}

theorem searchedFor_of_asksFor (hfind : aliases.find? i.specifier = some a) {target : String}
    {anchor : Path} (hasks : s.AsksFor (i.request importer a) target anchor) :
    i.SearchedFor s aliases importer a target anchor := by
  intro fs reader engine name
  have hanswer := answers_resolve (s.resolve fs) reader engine aliases importer i name
  have hsearch := FileSearch.resolve_of_asksFor s fs (i.request importer a) hasks
  refine hanswer.of_eq ?_ ?_
  · rw [← hsearch, outcomeUnder, hfind]
    rfl
  · rw [requests, hfind]
    rfl

/-- The alias of an import is applied exactly if its key has no `?`. Then the replacement, with what
follows the key in the specifier and without the query, is searched for, at the root if it is
relative. Otherwise the specifier without its query is searched for, as if there were no alias. -/
theorem searchedFor_of_find? (s : FileSearch) (importer : Option Path)
    (hfind : aliases.find? i.specifier = some a) :
    ∃ rest, i.specifier = a.key ++ rest ∧
      ('?' ∉ a.key.toList → i.SearchedFor s aliases importer a
        (a.replacement ++ Specifier.withoutQuery rest) s.root) ∧
      ('?' ∈ a.key.toList → i.SearchedFor s aliases importer a
        (Specifier.withoutQuery i.specifier) (s.start (i.request importer a))) := by
  obtain ⟨rest, hrest⟩ := (AliasTable.find?_eq_some_iff.1 hfind).starts
  have hspecifier : i.specifier = a.key ++ String.ofList rest := by
    rw [← String.toList_inj, String.toList_append, String.toList_ofList, hrest]
  refine ⟨String.ofList rest, hspecifier, fun hkey => ?_, fun hkey => ?_⟩
  · have hleft : Specifier.withoutQuery i.specifier =
        a.key ++ Specifier.withoutQuery (String.ofList rest) := by
      rw [hspecifier, Specifier.withoutQuery_append_left hkey]
    apply searchedFor_of_asksFor importer hfind
    rw [← String.ofList_toList (s := Specifier.withoutQuery (String.ofList rest))]
    refine .expanded rfl (Specifier.names_iff.2 ?_)
    rw [request, hleft, String.toList_append]
  · apply searchedFor_of_asksFor importer hfind
    refine .asWritten (Specifier.names_iff.2 rfl) fun b hmatched hstarts => ?_
    obtain rfl : a = b := Option.some.inj hmatched
    exact Specifier.question_not_mem_withoutQuery i.specifier (hstarts.subset hkey)

/-- An import with a query. -/
def themed : Import :=
  ⟨"import a from '@/theme.css?inline';", 0, 35, "@/theme.css?inline", some "a", 1⟩

/-- Two keys that start the import's specifier, one of them up to its end. -/
def themeKeys (policy : AliasPolicy) : AliasTable where
  entries := [⟨"@/", "./styles/"⟩, ⟨"@/theme.css?inline", "./styles/theme.css"⟩]
  policy := policy

/-- The shorter key is replaced. If the longer one is chosen, nothing is. -/
theorem searchedFor_of_find?_themed :
    themed.SearchedFor fromProject (themeKeys .firstMatch) none ⟨"@/", "./styles/"⟩
      "./styles/theme.css" (.ofString "/p") ∧
    themed.SearchedFor fromProject (themeKeys .longestPrefix) none
      ⟨"@/theme.css?inline", "./styles/theme.css"⟩ "@/theme.css" (.ofString "/p") := by
  have hfirst : (themeKeys .firstMatch).find? themed.specifier = some ⟨"@/", "./styles/"⟩ := by
    decide
  have hlongest : (themeKeys .longestPrefix).find? themed.specifier =
      some ⟨"@/theme.css?inline", "./styles/theme.css"⟩ := by
    decide
  obtain ⟨rest, hrest, happlied, -⟩ := searchedFor_of_find? fromProject none hfirst
  obtain ⟨-, -, -, hkept⟩ := searchedFor_of_find? fromProject none hlongest
  constructor
  · have hsplit : themed.specifier = "@/" ++ "theme.css?inline" := by decide
    obtain rfl : rest = "theme.css?inline" :=
      (String.append_right_inj _).1 (hrest.symm.trans hsplit)
    have htarget : "./styles/" ++ Specifier.withoutQuery "theme.css?inline" =
        "./styles/theme.css" := by
      decide
    rw [← htarget]
    exact happlied (by decide)
  · have htarget : Specifier.withoutQuery themed.specifier = "@/theme.css" := by decide
    rw [← htarget]
    exact hkept (by decide)

/-- A key may hold a `?`. Its alias is chosen, and the file that it stands for is not found. -/
theorem not_forall_searchedFor :
    ¬ ∀ (s : FileSearch) (aliases : AliasTable) (importer : Option Path) (i : Import) (a : Alias)
      (rest : String), aliases.find? i.specifier = some a → i.specifier = a.key ++ rest →
      i.SearchedFor s aliases importer a (a.replacement ++ Specifier.withoutQuery rest) s.root := by
  intro h
  have hsearched := h fromProject (themeKeys .longestPrefix) none themed
    ⟨"@/theme.css?inline", "./styles/theme.css"⟩ "" (by decide) (by decide)
  have hfound := congrArg Prod.fst
    (hsearched (onlyFile (.ofString "/p/styles/theme.css")) (fun _ => .error .notFound) rejecting
      "a" {})
  revert hfound
  decide +kernel

end Import

end ScopedStyles
