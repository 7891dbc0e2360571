import ScopedStyles.Proofs.Config.Settings
import ScopedStyles.Proofs.Json.Values
/-!
# Configurations that are read back

A configuration is read back from its text. Settings may be left out and reordered, and members that
no configuration has may stand between them, whatever their values: the settings that are kept are
read back, and the others have their defaults.
-/

namespace ScopedStyles.Config

open Json

/-- A member of an object that is read as a configuration: a setting, or a name that no setting has
with a value as it is spelled. -/
inductive Member where
  | setting (f : Setting)
  | unknown (name : String) (value : List Char)

namespace Member

/-- The setting of a member. -/
def setting? : Member → Option Setting
  | setting f => some f
  | unknown _ _ => none

/-- The text of a member that has the setting of `c`. -/
def text? (c : Config) : Member → Option (List Char)
  | setting f => f.member? c
  | unknown name value => some (encode name.toList ++ ':' :: value)

/-- A setting, or a value under a name that no setting has. -/
def IsReadable : Member → Prop
  | setting _ => True
  | unknown name value => (∀ f : Setting, f.name ≠ name) ∧ Spells .value value

end Member

/-- The settings of some members. -/
def settingsOf (members : List Member) : List Setting :=
  members.filterMap Member.setting?

/-- The text of an object with the given members. -/
def membersJson? (c : Config) (members : List Member) : Option String :=
  (members.mapM (Member.text? c)).map fun members =>
    String.ofList ('{' :: Setting.commaSeparated members ++ ['}'])

/-- The settings of `c` that are kept, and the defaults of the others. -/
def only (kept : List Setting) (c : Config) : Config where
  aliases := if .aliases ∈ kept then c.aliases else ({} : Config).aliases
  aliasPolicy := if .aliasPolicy ∈ kept then c.aliasPolicy else ({} : Config).aliasPolicy
  onTransformError :=
    if .onTransformError ∈ kept then c.onTransformError else ({} : Config).onTransformError
  pattern := if .pattern ∈ kept then c.pattern else ({} : Config).pattern
  dashedIdents := if .dashedIdents ∈ kept then c.dashedIdents else ({} : Config).dashedIdents
  extensions := if .extensions ∈ kept then c.extensions else ({} : Config).extensions
  root := if .root ∈ kept then c.root else ({} : Config).root

variable {c : Config} {kept kept' : List Setting}

theorem only_congr (h : ∀ f, f ∈ kept ↔ f ∈ kept') : c.only kept = c.only kept' := by
  simp only [only, h]

theorem only_nil : c.only [] = {} := rfl

theorem only_all : c.only Setting.all = c := rfl

theorem only_cons (f : Setting) : c.only (f :: kept) = f.copy c (c.only kept) := by
  cases f <;> simp [only, Setting.copy]

/-! ## Reading members -/

theorem exists_write? (hroot : ∀ p ∈ c.root, p.text?.isSome = true) (f : Setting) :
    ∃ value, f.write? c = some value := by
  cases f with
  | root =>
      cases hc : c.root with
      | none => exact ⟨_, by rw [Setting.write?, hc]⟩
      | some p =>
          obtain ⟨t, ht⟩ := Option.isSome_iff_exists.1 (hroot p hc)
          exact ⟨encode t.toList, by rw [Setting.write?, hc]; exact congrArg (Option.map _) ht⟩
  | _ => exact ⟨_, rfl⟩

/-- The key of a member and its value as it is spelled. -/
def Member.entry (c : Config) : Member → String × List Char
  | setting f => (f.name, (f.write? c).getD [])
  | unknown name value => (name, value)

theorem mapM_text? (hroot : ∀ p ∈ c.root, p.text?.isSome = true) (members : List Member) :
    members.mapM (Member.text? c) = some (memberTexts (members.map (Member.entry c))) := by
  have htext : ∀ m : Member, m.text? c =
      some (encode (m.entry c).1.toList ++ ':' :: (m.entry c).2) := by
    intro m
    cases m with
    | setting f =>
        obtain ⟨value, hvalue⟩ := exists_write? hroot f
        rw [Member.text?, Setting.member?, Member.entry, hvalue]
        rfl
    | unknown name value => rfl
  induction members with
  | nil => rfl
  | cons m members ih =>
      rw [List.mapM_cons, htext, ih]
      rfl

theorem ofName?_name (f : Setting) : Setting.ofName? f.name = some f := by
  cases f <;> decide

theorem ofName?_of_ne {name : String} (h : ∀ f : Setting, f.name ≠ name) :
    Setting.ofName? name = none :=
  List.find?_eq_none.2 fun f _ heq => h f (beq_iff_eq.1 heq)

/-- The members that are left, together with those that have been read, are the ones to be kept. -/
structure MembersLeft (c : Config) (kept : List Setting) (members : List Member) (p : Progress) :
    Prop where
  readable : ∀ m ∈ members, m.IsReadable
  config : p.config = c.only p.seen
  nodup : (settingsOf members ++ p.seen).Nodup
  mem_iff : ∀ f, f ∈ settingsOf members ++ p.seen ↔ f ∈ kept

theorem ends_of_delimits {rest : List Char} (h : Delimits rest) : Number.Ends rest := by
  obtain ⟨c, hc, cs, rfl⟩ := h
  have hc' : c ∈ [',', ']', '}'] := by
    simp only [List.mem_cons, List.not_mem_nil, or_false] at hc ⊢
    exact hc.imp_right .inr
  exact ends_append (List.forall_mem_nil _) hc' cs

theorem reads_readMember (hroot : ∀ p ∈ c.root, p.text?.isSome = true) (kept : List Setting) :
    Reads Progress.readMember (Member.entry c) (MembersLeft c kept) := by
  intro m members p hleft
  obtain ⟨hm, hreadable⟩ := List.forall_mem_cons.1 hleft.readable
  cases m with
  | setting f =>
      obtain ⟨value, hvalue⟩ := exists_write? hroot f
      refine ⟨⟨f.copy c p.config, f :: p.seen⟩, ⟨hreadable, ?_, ?_, ?_⟩, ?_⟩
      · rw [only_cons, hleft.config]
      · exact (List.perm_middle.nodup_iff).2 hleft.nodup
      · exact fun g => List.perm_middle.mem_iff.trans (hleft.mem_iff g)
      · have hseen : f ∉ p.seen := fun hmem =>
          (List.nodup_append.1 hleft.nodup).2.2 f List.mem_cons_self f hmem rfl
        intro rest _
        have hread := Setting.read_write hvalue p.config rest
        rw [Member.entry, hvalue]
        simp only [Progress.readMember, ofName?_name, if_neg hseen]
        exact congrArg (fun r => r >>= fun x => pure (Progress.mk x.1 (f :: p.seen), x.2)) hread
  | unknown name value =>
      refine ⟨p, ⟨hreadable, hleft.config, hleft.nodup, hleft.mem_iff⟩, fun rest hrest => ?_⟩
      have hskip := skip_value hm.2 (ends_of_delimits hrest)
      simp only [Progress.readMember, Member.entry, ofName?_of_ne hm.1]
      exact congrArg (fun r => r >>= fun s => pure (p, s)) hskip

/-- A configuration is read back from an object with some of its settings in any order, and with the
defaults of the others, whatever unknown members stand between them. -/
theorem exists_membersJson (hroot : ∀ p ∈ c.root, p.text?.isSome = true) {members : List Member}
    (hreadable : ∀ m ∈ members, m.IsReadable) (hnodup : (settingsOf members).Nodup) :
    ∃ text, membersJson? c members = some text ∧
      ofJson text = .ok (c.only (settingsOf members)) := by
  have hleft : MembersLeft c (settingsOf members) members {} :=
    ⟨hreadable, only_nil.symm, by rwa [List.append_nil], fun f => by rw [List.append_nil]⟩
  obtain ⟨p, hp, hobject⟩ := exists_object (reads_readMember hroot (settingsOf members))
    "struct CssModulesConfig" hleft []
  have hconfig : p.config = c.only (settingsOf members) :=
    hp.config.trans (only_congr hp.mem_iff)
  refine ⟨_, congrArg (Option.map _) (mapM_text? hroot members), ?_⟩
  rw [ofJson, String.toList_ofList, document, ← hconfig]
  exact congrArg (fun r => (r >>= fun x => pure (x.1.config, x.2)) >>= _) hobject

theorem settingsOf_all : settingsOf (Setting.all.map .setting) = Setting.all := rfl

theorem toJson?_eq (c : Config) : c.toJson? = membersJson? c (Setting.all.map .setting) := rfl

/-- A configuration whose root is a text is read back from its text, and from any object that has
some of its settings in any order and other members between them, the settings that are left out
having their defaults. -/
theorem ofJson_members (c : Config) (hroot : ∀ p ∈ c.root, p.text?.isSome = true) :
    (∃ text, c.toJson? = some text ∧ ofJson text = .ok c) ∧
    ∀ members : List Member, (∀ m ∈ members, m.IsReadable) → (settingsOf members).Nodup →
      ∃ text, membersJson? c members = some text ∧
        ofJson text = .ok (c.only (settingsOf members)) := by
  refine ⟨?_, fun members => exists_membersJson hroot⟩
  have hreadable : ∀ m ∈ Setting.all.map Member.setting, m.IsReadable := by
    simp [Member.IsReadable]
  have hall := exists_membersJson hroot hreadable (by decide)
  rwa [← toJson?_eq, settingsOf_all, only_all] at hall

/-- A configuration with an alias and a root. -/
def withRoot : Config where
  aliases := .ofList [("@/", "./a\"b/"), ("~", "")]
  root := some (.ofString "/é")

/-- The root of a configuration behind a member that no configuration has. -/
def rootBehindUnknown : List Member :=
  [.unknown "x" ['[', '-', '1', '.', '5', ',', ' ', 'n', 'u', 'l', 'l', ']'], .setting .root]

theorem isReadable_rootBehindUnknown : ∀ m ∈ rootBehindUnknown, m.IsReadable := by
  have hone : Number.IsDigits ['1'] := ⟨by decide, List.forall_mem_singleton.2 rfl⟩
  have hfive : Number.IsDigits ['5'] := ⟨by decide, List.forall_mem_singleton.2 rfl⟩
  have hnumber : Spells .value ['-', '1', '.', '5'] :=
    .number (.inr rfl) (.parts (.digits hone (by decide)) (.digits hfive) .none)
  have hnull : Spells .value ['n', 'u', 'l', 'l'] := .word (by decide)
  have hgap : IsGap [' '] := List.forall_mem_singleton.2 rfl
  have hnone : IsGap [] := List.forall_mem_nil _
  have hvalue := Spells.array (.moreElements (.element hnone hnumber hnone)
    (.oneElement (.element hgap hnull hnone)))
  refine List.forall_mem_cons.2 ⟨⟨fun f => ?_, hvalue⟩, List.forall_mem_singleton.2 trivial⟩
  cases f <;> decide

theorem ofJson_members_withRoot :
    (∃ text, withRoot.toJson? = some text ∧ ofJson text = .ok withRoot) ∧
    ∃ text, membersJson? withRoot rootBehindUnknown = some text ∧
      ofJson text = .ok { root := some (.ofString "/é") } := by
  have hroot : ∀ p ∈ withRoot.root, p.text?.isSome = true := by decide
  obtain ⟨hself, hmembers⟩ := ofJson_members withRoot hroot
  exact ⟨hself, hmembers rootBehindUnknown isReadable_rootBehindUnknown (by decide)⟩

end ScopedStyles.Config
