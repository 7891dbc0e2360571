import ScopedStyles.Proofs.NameMap
import ScopedStyles.Proofs.Pipeline.Recorded
import ScopedStyles.Proofs.Text.Order
/-!
# Exports of a module

The engine tells in no order that means anything which name it has made of which. The exports of a
module depend on these pairs alone: of the names with the same key in camel case, the greatest one
counts.
-/

namespace ScopedStyles

open Text

namespace ExportKey

variable {α : Type} {names : NameMap α} {key : String}

/-- A key has the value of the last of the names that it comes from. -/
theorem mem_camelCaseKeys_iff {value : α} :
    (key, value) ∈ (camelCaseKeys names).entries ↔
      ∃ name, (name, value) ∈ names.entries ∧ camelCase name = key ∧
        ∀ e ∈ names.entries, camelCase e.1 = key → ¬ name < e.1 := by
  rw [camelCaseKeys, NameMap.mem_ofList_iff]
  constructor
  · rintro ⟨front, back, hsplit, hback⟩
    obtain ⟨earlier, rest, hnames, -, hrest⟩ := List.map_eq_append_iff.1 hsplit
    obtain ⟨⟨name, value⟩, later, rfl, he, rfl⟩ := List.map_eq_cons_iff.1 hrest
    obtain ⟨rfl, rfl⟩ := Prod.mk.inj he
    have hsorted := names.sorted
    rw [hnames, List.pairwise_append] at hsorted
    refine ⟨name, hnames ▸ List.mem_append_right _ List.mem_cons_self, rfl, fun e he hkey hlt => ?_⟩
    rw [hnames, List.mem_append, List.mem_cons] at he
    rcases he with he | rfl | he
    · exact String.lt_asymm hlt (hsorted.2.2 e he _ List.mem_cons_self)
    · exact String.lt_irrefl _ hlt
    · exact hback (List.mem_map.2 ⟨_, List.mem_map_of_mem he, hkey⟩)
  · rintro ⟨name, hname, rfl, hgreatest⟩
    obtain ⟨earlier, later, hnames⟩ := List.append_of_mem hname
    have hsorted := names.sorted
    rw [hnames, List.pairwise_append, List.pairwise_cons] at hsorted
    refine ⟨_, _, by rw [hnames, List.map_append, List.map_cons], fun hlater => ?_⟩
    obtain ⟨entry, hentry, hkey⟩ := List.mem_map.1 hlater
    obtain ⟨e, he, rfl⟩ := List.mem_map.1 hentry
    exact hgreatest e (hnames ▸ List.mem_append_right _ (List.mem_cons_of_mem _ he)) hkey
      (hsorted.2.1.1 e he)

theorem mem_keys_camelCaseKeys_iff :
    key ∈ (camelCaseKeys names).entries.map Prod.fst ↔
      ∃ e ∈ names.entries, camelCase e.1 = key := by
  rw [camelCaseKeys, NameMap.mem_names_ofList_iff, List.map_map, List.mem_map]
  rfl

end ExportKey

namespace ResolvedImport

open ExportKey (camelCase)

/-- `table` exports `value` under `key`: it is what the engine has made of the name that has the
greatest bytes of all names with this key. -/
def Exported (table : List (String × Engine.Export)) (key value : String) : Prop :=
  ∃ name e, (name, e) ∈ table ∧ camelCase name = key ∧ e.name = value ∧
    ∀ other ∈ table, camelCase other.1 = key →
      Utf8.encode other.1.toList ≤ Utf8.encode name.toList

section

variable {table table' : List (String × Engine.Export)} (hdistinct : (table.map Prod.fst).Nodup)

/-- The names of a table with what the engine has made of them. -/
def scopedNames (table : List (String × Engine.Export)) : List (String × String) :=
  table.map fun (name, e) => (name, e.name)

theorem map_fst_scopedNames (table : List (String × Engine.Export)) :
    (scopedNames table).map Prod.fst = table.map Prod.fst := by
  rw [scopedNames, List.map_map]
  rfl

theorem exportKeys_some (table : List (String × Engine.Export)) :
    exportKeys (some table) = ExportKey.camelCaseKeys (.ofList (scopedNames table)) := rfl

include hdistinct

theorem mem_ofList_scopedNames_iff {e : String × String} :
    e ∈ (NameMap.ofList (scopedNames table)).entries ↔ e ∈ scopedNames table :=
  NameMap.mem_ofList_iff_of_nodup (map_fst_scopedNames table ▸ hdistinct)

theorem mem_keys_exportKeys_iff {key : String} :
    key ∈ (exportKeys (some table)).entries.map Prod.fst ↔
      ∃ e ∈ table, camelCase e.1 = key := by
  rw [exportKeys_some, ExportKey.mem_keys_camelCaseKeys_iff]
  simp only [mem_ofList_scopedNames_iff hdistinct]
  simp [scopedNames]

theorem mem_exportKeys_iff {key value : String} :
    (key, value) ∈ (exportKeys (some table)).entries ↔ Exported table key value := by
  rw [exportKeys_some, ExportKey.mem_camelCaseKeys_iff]
  simp only [mem_ofList_scopedNames_iff hdistinct, String.lt_iff, ← Utf8.encode_lt_encode_iff]
  constructor
  · rintro ⟨name, hname, hkey, hgreatest⟩
    obtain ⟨⟨name, e⟩, he, heq⟩ := List.mem_map.1 hname
    obtain ⟨rfl, rfl⟩ := Prod.mk.inj heq
    exact ⟨name, e, he, hkey, rfl, fun other hother hkey' =>
      List.not_lt.1 (hgreatest (other.1, other.2.name) (List.mem_map_of_mem hother) hkey')⟩
  · rintro ⟨name, e, he, hkey, rfl, hgreatest⟩
    refine ⟨name, List.mem_map_of_mem (f := fun (name, e) => (name, e.name)) he, hkey, ?_⟩
    intro entry hentry hkey'
    obtain ⟨other, hother, rfl⟩ := List.mem_map.1 hentry
    exact List.not_lt.2 (hgreatest other hother hkey')

theorem exportKeys_perm (h : table.Perm table') :
    exportKeys (some table) = exportKeys (some table') := by
  have hnames : (scopedNames table).Perm (scopedNames table') := h.map _
  rw [exportKeys_some, exportKeys_some,
    NameMap.ofList_perm hnames (map_fst_scopedNames table ▸ hdistinct)]

end

variable (resolver : Resolver.Request → Except Resolver.Failure Path)
  (reader : Path → Except FileFault String)
  (engine : Engine.Request → Except EngineError Engine.Output)

theorem decodeString_encode (text : String) :
    Utf8.decodeString (Utf8.encode text.toList) = .ok text := by
  rw [Utf8.decodeString, Utf8.decode_encode]
  exact congrArg Except.ok (String.ofList_toList)

/-- The module of an engine's answer, whatever is done with stylesheets that are refused. -/
theorem run_transform_of_answer (policy : FailurePolicy) {r : ResolvedImport} {source css : String}
    {exports : Option (List (String × Engine.Export))} (hread : reader r.file = .ok source)
    (hanswer : engine (r.request source) = .ok ⟨Utf8.encode css.toList, exports⟩) (t : Trace) :
    (r.transform (Services.recorded resolver reader engine) policy).run t =
      (.ok { css := some css, exports := exportKeys exports, status := .transformed,
             resolved := r },
        t ++ { read := [r.file], transformed := [r.request source] }) := by
  rw [answers_transform resolver reader engine policy r t, settled, requests, hread]
  simp only [hanswer, Except.bind, finish, decodeString_encode]

/-- The exports of a transformed module have the keys of the engine's names, each with the scoped
name of the greatest of them, and are the same in whatever order the engine tells the names. -/
theorem transform_exports (policy : FailurePolicy) {r : ResolvedImport} {source css : String}
    {table : List (String × Engine.Export)} (hread : reader r.file = .ok source)
    (hanswer : engine (r.request source) = .ok ⟨Utf8.encode css.toList, some table⟩)
    (hdistinct : (table.map Prod.fst).Nodup) (t : Trace) :
    ∃ made t', (r.transform (Services.recorded resolver reader engine) policy).run t =
        (.ok made, t') ∧
      made.status = .transformed ∧ made.css = some css ∧ made.resolved = r ∧
      (∀ key, key ∈ made.exports.entries.map Prod.fst ↔ ∃ e ∈ table, camelCase e.1 = key) ∧
      (∀ key value, (key, value) ∈ made.exports.entries ↔ Exported table key value) ∧
      ∀ engine' table', table.Perm table' →
        engine' (r.request source) = .ok ⟨Utf8.encode css.toList, some table'⟩ →
        (r.transform (Services.recorded resolver reader engine') policy).run t =
          (.ok made, t') := by
  refine ⟨_, _, run_transform_of_answer resolver reader engine policy hread hanswer t, rfl, rfl,
    rfl, fun key => mem_keys_exportKeys_iff hdistinct,
    fun key value => mem_exportKeys_iff hdistinct, fun engine' table' hperm hanswer' => ?_⟩
  rw [run_transform_of_answer resolver reader engine' policy hread hanswer' t,
    exportKeys_perm hdistinct hperm]

/-- An import of a stylesheet with two names that have one key. -/
def twoNames : ResolvedImport :=
  ⟨"/a.module.css", "styles", .of "/a.module.css" (some "styles")⟩

def twoNamesTable : List (String × Engine.Export) :=
  [("foo_bar", ⟨"x", false⟩), ("foo-bar", ⟨"y", false⟩)]

theorem transform_exports_twoNames :
    (twoNamesTable.map Prod.fst).Nodup ∧
    ∃ made t', (twoNames.transform (Services.recorded (fun _ => .ok ⟨[]⟩)
        (fun _ => .ok ".foo_bar \x7b\x7d")
        fun _ => .ok ⟨Utf8.encode "css".toList, some twoNamesTable⟩) .failFast).run {} =
        (.ok made, t') ∧
      made.status = .transformed ∧ ("fooBar", "x") ∈ made.exports.entries := by
  have hdistinct : (twoNamesTable.map Prod.fst).Nodup := by decide
  obtain ⟨made, t', hrun, hstatus, -, -, -, hexports, -⟩ := transform_exports
    (fun _ => .ok ⟨[]⟩) (fun _ => .ok ".foo_bar \x7b\x7d")
    (fun _ => .ok ⟨Utf8.encode "css".toList, some twoNamesTable⟩) .failFast
    (r := twoNames) rfl rfl hdistinct {}
  refine ⟨hdistinct, made, t', hrun, hstatus, (hexports "fooBar" "x").2 ?_⟩
  exact ⟨"foo_bar", ⟨"x", false⟩, List.mem_cons_self, by decide +kernel, rfl, by decide +kernel⟩

end ResolvedImport

end ScopedStyles
