/-
# Faults of options

Options become settings as a whole or not at all.  This module says when they do not, which fault is
told then, and what the settings hold otherwise.

* **The words for it.**  A key between slashes has the pattern between them (`Rule.HasPattern`), and
  is refused if the engine refuses that pattern (`Rule.Refused`).  `Options.ruleKeys` are the keys
  of all tables one after another: those of the operations, of the tags, and for everything.
* **The argument.**  `FailsAtFirst keys x` says that `x` fails exactly for the first refused key of
  `keys`.  A rule fails so for its one key, and what is done one after another fails so for the keys
  of all (`FailsAtFirst.bind`); a table, the tables of the scopes and the settings are made that
  way.
-/
import Mathlib.Data.List.Forall2
import SchemaMock.Proofs.Lookup

namespace SchemaMock

/-! ## 1. Keys that are refused -/

namespace Rule

/-- A key between slashes has the pattern between them.  A lone slash is both slashes, and has the
empty pattern. -/
inductive HasPattern : (key pattern : String) → Prop
  | lone : HasPattern "/" ""
  | between (pattern : String) : HasPattern ("/" ++ pattern ++ "/") pattern

theorem patternChars?_eq_some_iff {cs pattern : List Char} :
    patternChars? cs = some pattern ↔
      cs = ['/'] ∧ pattern = [] ∨ cs = '/' :: (pattern ++ ['/']) := by
  fun_cases patternChars? cs with
  | case1 => simp [@eq_comm _ [] pattern]
  | case2 rest hlone hlast =>
    obtain ⟨front, rfl⟩ := List.getLast?_eq_some_iff.mp hlast
    simp
  | case3 rest hlone hlast =>
    have hend : rest ≠ pattern ++ ['/'] := by
      rintro rfl
      exact hlast List.getLast?_concat
    have hempty : rest ≠ [] := fun h => hlone h
    simp [hend, hempty]
  | case4 _ hlone hslash =>
    have hshort : cs ≠ ['/'] := hlone
    have hlong : cs ≠ '/' :: (pattern ++ ['/']) := hslash _
    simp [hshort, hlong]

theorem patternOf?_eq_some_iff {key pattern : String} :
    patternOf? key = some pattern ↔ HasPattern key pattern := by
  rw [patternOf?, Option.map_eq_some_iff]
  constructor
  · rintro ⟨cs, hcs, rfl⟩
    rcases patternChars?_eq_some_iff.mp hcs with ⟨hkey, rfl⟩ | hkey
    · have hkey : key = "/" := String.toList_inj.mp hkey
      exact hkey ▸ .lone
    · have hkey : key = "/" ++ String.ofList cs ++ "/" := by
        rw [← String.toList_inj, hkey]
        simp [String.toList_append]
      exact hkey ▸ .between _
  · intro h
    cases h with
    | lone => exact ⟨[], rfl, rfl⟩
    | between pattern =>
      refine ⟨pattern.toList, patternChars?_eq_some_iff.mpr (.inr ?_), String.ofList_toList⟩
      simp [String.toList_append]

/-- A key that has a pattern which the engine does not take. -/
def Refused (engine : PatternEngine) (key : String) : Prop :=
  ∃ pattern, HasPattern key pattern ∧ engine pattern = none

theorem refused_iff {engine : PatternEngine} {key : String} :
    Refused engine key ↔ ((patternOf? key).any fun pattern => (engine pattern).isNone) = true := by
  simp only [Refused, ← patternOf?_eq_some_iff, Option.any_eq_true, Option.isNone_iff_eq_none]

instance (engine : PatternEngine) : DecidablePred (Refused engine) :=
  fun _ => decidable_of_iff _ refused_iff.symm

end Rule

/-! ## 2. The first key that is refused -/

variable {engine : PatternEngine}

/-- The first of some keys that is refused. -/
inductive FirstRefused (engine : PatternEngine) : (keys : List String) → (key : String) → Prop
  | here {key : String} {rest : List String} (h : Rule.Refused engine key) :
      FirstRefused engine (key :: rest) key
  | later {key other : String} {rest : List String} (hother : ¬ Rule.Refused engine other)
      (h : FirstRefused engine rest key) : FirstRefused engine (other :: rest) key

theorem not_firstRefused_nil {key : String} : ¬ FirstRefused engine [] key := nofun

theorem firstRefused_cons {key other : String} {rest : List String} :
    FirstRefused engine (other :: rest) key ↔
      Rule.Refused engine other ∧ key = other ∨
        ¬ Rule.Refused engine other ∧ FirstRefused engine rest key := by
  constructor
  · rintro (h | ⟨hother, h⟩)
    · exact .inl ⟨h, rfl⟩
    · exact .inr ⟨hother, h⟩
  · rintro (⟨h, rfl⟩ | ⟨hother, h⟩)
    · exact .here h
    · exact .later hother h

theorem firstRefused_append {key : String} {keys keys' : List String} :
    FirstRefused engine (keys ++ keys') key ↔
      FirstRefused engine keys key ∨
        (∀ other ∈ keys, ¬ Rule.Refused engine other) ∧ FirstRefused engine keys' key := by
  induction keys with
  | nil => simp [not_firstRefused_nil]
  | cons other rest ih =>
    rw [List.cons_append, firstRefused_cons, firstRefused_cons, ih, List.forall_mem_cons]
    rw [and_or_left, ← or_assoc, and_assoc]

/-- If a key is refused, there is a first one. -/
theorem exists_firstRefused_iff {keys : List String} :
    (∃ key, FirstRefused engine keys key) ↔ ∃ key ∈ keys, Rule.Refused engine key := by
  induction keys with
  | nil => simp [not_firstRefused_nil]
  | cons other rest ih =>
    by_cases hother : Rule.Refused engine other
    · simp [firstRefused_cons, hother]
    · simp [firstRefused_cons, hother, ih]

/-! ## 3. Failing for the first key -/

/-- What fails exactly if one of some keys is refused, and then tells the first of them. -/
def FailsAtFirst {α : Type} (engine : PatternEngine) (keys : List String)
    (x : Except MockFault α) : Prop :=
  ∀ fault, x = .error fault ↔ ∃ key, FirstRefused engine keys key ∧ fault = .badPattern key

namespace FailsAtFirst

variable {α β : Type} {keys keys' : List String} {x : Except MockFault α}

theorem of_ok (a : α) : FailsAtFirst engine [] (.ok a) := by
  intro fault
  simp [not_firstRefused_nil]

theorem ok_iff (h : FailsAtFirst engine keys x) :
    (∃ a, x = .ok a) ↔ ∀ key ∈ keys, ¬ Rule.Refused engine key := by
  have hnone : (∀ key ∈ keys, ¬ Rule.Refused engine key) ↔
      ¬ ∃ key, FirstRefused engine keys key := by
    rw [exists_firstRefused_iff]
    push Not
    rfl
  rw [hnone]
  cases x with
  | ok a =>
    refine iff_of_true ⟨a, rfl⟩ ?_
    rintro ⟨key, hkey⟩
    cases (h (.badPattern key)).mpr ⟨key, hkey, rfl⟩
  | error fault =>
    obtain ⟨key, hkey, -⟩ := (h fault).mp rfl
    exact iff_of_false nofun fun hnot => hnot ⟨key, hkey⟩

/-- **What is done one after another fails for the first key of all.** -/
theorem bind (h : FailsAtFirst engine keys x) {next : α → Except MockFault β}
    (hnext : ∀ a, FailsAtFirst engine keys' (next a)) :
    FailsAtFirst engine (keys ++ keys') (x >>= next) := by
  intro fault
  cases x with
  | error fault' =>
    -- nothing is done any more, and the keys that come now are not looked at
    have hnot : ¬ ∀ key ∈ keys, ¬ Rule.Refused engine key := fun hall => by
      obtain ⟨a, ha⟩ := h.ok_iff.mpr hall
      cases ha
    have hfault : (Except.error fault' >>= next) = .error fault ↔
        (.error fault' : Except MockFault α) = .error fault := by
      simp [bind, Except.bind]
    simp only [firstRefused_append, hnot, false_and, or_false]
    exact hfault.trans (h fault)
  | ok a =>
    have hall : ∀ key ∈ keys, ¬ Rule.Refused engine key := h.ok_iff.mp ⟨a, rfl⟩
    have hfirst : ∀ key, ¬ FirstRefused engine keys key := fun key hkey => by
      cases (h (.badPattern key)).mpr ⟨key, hkey, rfl⟩
    simp only [firstRefused_append, hfirst, false_or]
    refine (hnext a fault).trans (exists_congr fun key => and_congr_left' ?_)
    exact (and_iff_right hall).symm

theorem map (h : FailsAtFirst engine keys x) (f : α → β) :
    FailsAtFirst engine keys (x >>= fun a => .ok (f a)) := by
  have hnext : ∀ a, FailsAtFirst engine [] (.ok (f a)) := fun a => of_ok (f a)
  have hbind := h.bind hnext
  rwa [List.append_nil] at hbind

/-- A list of things fails for the first key of all of them. -/
theorem mapM {f : α → Except MockFault β} {keysOf : α → List String}
    (h : ∀ a, FailsAtFirst engine (keysOf a) (f a)) (as : List α) :
    FailsAtFirst engine (as.flatMap keysOf) (as.mapM f) := by
  induction as with
  | nil => exact of_ok []
  | cons a rest ih =>
    rw [List.mapM_cons, List.flatMap_cons]
    exact (h a).bind fun b => ih.map (b :: ·)

end FailsAtFirst

/-! ## 4. Tables and settings -/

theorem Rule.failsAtFirst_ofEntry (key text : String) :
    FailsAtFirst engine [key] (ofEntry engine key text) := by
  intro fault
  simp only [firstRefused_cons, not_firstRefused_nil, and_false, or_false]
  rw [ofEntry]
  split
  · next hnone =>
    have hnot : ¬ Refused engine key := by
      rintro ⟨pattern, hpattern, -⟩
      rw [patternOf?_eq_some_iff.mpr hpattern] at hnone
      cases hnone
    simp [hnot]
  · next pattern hpattern =>
    have hrefused : Refused engine key ↔ engine pattern = none := by
      simp only [Refused, ← patternOf?_eq_some_iff, hpattern, Option.some.injEq, exists_eq_left']
    rw [hrefused]
    cases engine pattern <;> simp [eq_comm]

theorem RuleTable.failsAtFirst_ofEntries (entries : OrderedMap String) :
    FailsAtFirst engine entries.keys (ofEntries engine entries) := by
  have hkeys : entries.keys = entries.entries.flatMap fun e => [e.1] :=
    List.map_eq_flatMap
  have hentry : ∀ e : String × String,
      FailsAtFirst engine [e.1] (Rule.ofEntry engine e.1 e.2) := fun e =>
    Rule.failsAtFirst_ofEntry e.1 e.2
  rw [hkeys]
  exact FailsAtFirst.mapM hentry entries.entries

/-- The keys of the tables of some scopes, one table after another. -/
def ScopeRules.keysOf (scopes : OrderedMap ScopeRules) : List String :=
  scopes.entries.flatMap fun scope => scope.2.rules.keys

/-- The keys of all tables: of the operations, of the tags, and for everything. -/
def Options.ruleKeys (options : Options) : List String :=
  ScopeRules.keysOf options.operations ++ (ScopeRules.keysOf options.tags ++ options.rules.keys)

namespace Settings

theorem failsAtFirst_tablesOf (scopes : OrderedMap ScopeRules) :
    FailsAtFirst engine (ScopeRules.keysOf scopes) (tablesOf engine scopes) :=
  .mapM (fun scope => (RuleTable.failsAtFirst_ofEntries scope.2.rules).map _) scopes.entries

/-- Where the bounds are right, the rest of the options fails for the first key. -/
theorem failsAtFirst_ofOptions {options : Options} (h : options.arrayMin ≤ options.arrayMax) :
    FailsAtFirst engine options.ruleKeys (ofOptions engine options) := by
  rw [ofOptions, if_neg (UInt64.not_lt.mpr h)]
  exact (failsAtFirst_tablesOf options.operations).bind fun _ =>
    (failsAtFirst_tablesOf options.tags).bind fun _ =>
      (RuleTable.failsAtFirst_ofEntries options.rules).map _

end Settings

/-! ## 5. What settings hold -/

/-- A rule says what an entry says: it has its key and its text, and tests names for the pattern of
the key, if that has one. -/
structure Rule.Says (engine : PatternEngine) (rule : Rule) (entry : String × String) : Prop where
  key : rule.key = entry.1
  text : rule.text = entry.2
  pattern : ∀ pattern, HasPattern entry.1 pattern → rule.test = engine pattern
  path : (∀ pattern, ¬ HasPattern entry.1 pattern) → rule.test = none

theorem Rule.says_read (engine : PatternEngine) (entry : String × String) :
    (read engine entry).Says engine entry where
  key := rfl
  text := rfl
  pattern pattern h := by rw [read, patternOf?_eq_some_iff.mpr h, Option.bind_some]
  path h := by
    have hnone : patternOf? entry.1 = none :=
      Option.eq_none_iff_forall_ne_some.mpr fun pattern hpattern =>
        h pattern (patternOf?_eq_some_iff.mp hpattern)
    rw [read, hnone, Option.bind_none]

/-- A table has one rule for each of some entries, in their order. -/
def RuleTable.Says (engine : PatternEngine) (table : RuleTable) (entries : Entries String) : Prop :=
  List.Forall₂ (Rule.Says engine) table entries

theorem RuleTable.says_readAll (engine : PatternEngine) (entries : Entries String) :
    RuleTable.Says engine (readAll engine entries) entries :=
  List.forall₂_map_left_iff.mpr (List.forall₂_same.mpr fun e _ => Rule.says_read engine e)

/-- Tables are found under the names of some scopes, each saying what its scope says, and under no
other names. -/
structure ScopeRules.FoundIn (engine : PatternEngine) (scopes : OrderedMap ScopeRules)
    (tables : Entries RuleTable) : Prop where
  names : (Entries.keys tables).Perm scopes.keys
  found : ∀ name, Option.Rel (fun table scope => RuleTable.Says engine table scope.rules.entries)
    (Entries.get? name tables) (scopes.get? name)

/-- Settings hold what options say. -/
structure Settings.Holds (engine : PatternEngine) (options : Options) (settings : Settings) :
    Prop where
  rules : RuleTable.Says engine settings.rules.global options.rules.entries
  operations : ScopeRules.FoundIn engine options.operations settings.rules.operations
  tags : ScopeRules.FoundIn engine options.tags settings.rules.tags
  formats : settings.formats = options.formats
  required : settings.required = options.required
  arrayMin : settings.arrayMin = options.arrayMin
  arrayMax : settings.arrayMax = options.arrayMax
  useExamples : settings.useExamples = options.useExamples

theorem ScopeRules.foundIn_readScopes (engine : PatternEngine) (scopes : OrderedMap ScopeRules)
    {tables : Entries RuleTable}
    (hperm : tables.Perm (Settings.readScopes engine scopes.entries)) :
    FoundIn engine scopes tables := by
  have hkeys : Entries.keys (Settings.readScopes engine scopes.entries) = scopes.keys := by
    rw [Entries.keys, Settings.readScopes, List.map_map]
    rfl
  have hnames : (Entries.keys tables).Perm scopes.keys := hkeys ▸ hperm.map Prod.fst
  refine ⟨hnames, fun name => ?_⟩
  have hget : Entries.get? name tables
      = (scopes.get? name).map fun scope => RuleTable.readAll engine scope.rules.entries := by
    rw [Entries.get?_perm (hnames.nodup_iff.mpr scopes.nodup) hperm, Settings.readScopes,
      Entries.get?_map (fun scope : ScopeRules => RuleTable.readAll engine scope.rules.entries)]
    rfl
  rw [hget]
  cases scopes.get? name with
  | none => exact .none
  | some scope => exact .some (RuleTable.says_readAll engine scope.rules.entries)

theorem Settings.holds_ofReadable (engine : PatternEngine) (options : Options) :
    (ofReadable engine options).Holds engine options where
  rules := RuleTable.says_readAll engine options.rules.entries
  operations := ScopeRules.foundIn_readScopes engine options.operations (.refl _)
  tags := ScopeRules.foundIn_readScopes engine options.tags (List.mergeSort_perm _ _)
  formats := rfl
  required := rfl
  arrayMin := rfl
  arrayMax := rfl
  useExamples := rfl

/-- **Options become settings as a whole, or fail for the first thing that is wrong.**  They become
settings exactly if the bounds are not inverted and no key of any table is refused, whatever the
engine refuses.  Otherwise the fault is that of the bounds, if they are inverted, and else that of
the first refused key of the operations, then of the tags, then of the rules for everything.  The
settings hold a table for every scope under its name and no others, and every table has one rule for
each entry, in order, with its key and its text. -/
theorem options_settle_or_fail_at_first (engine : PatternEngine) (options : Options) :
    ((∃ settings, Settings.ofOptions engine options = .ok settings) ↔
      options.arrayMin ≤ options.arrayMax ∧
        ∀ key ∈ options.ruleKeys, ¬ Rule.Refused engine key) ∧
    (∀ fault, Settings.ofOptions engine options = .error fault ↔
      options.arrayMax < options.arrayMin ∧
          fault = .invertedBounds options.arrayMin options.arrayMax ∨
        options.arrayMin ≤ options.arrayMax ∧
          ∃ key, FirstRefused engine options.ruleKeys key ∧ fault = .badPattern key) ∧
    ∀ settings, Settings.ofOptions engine options = .ok settings →
      settings.Holds engine options := by
  refine ⟨?_, ?_, fun settings hok => ?_⟩
  · by_cases hbounds : options.arrayMin ≤ options.arrayMax
    · rw [(Settings.failsAtFirst_ofOptions hbounds).ok_iff, and_iff_right hbounds]
    · refine iff_of_false ?_ fun h => hbounds h.1
      rintro ⟨settings, hok⟩
      exact hbounds (Settings.ofOptions_ok_iff.mp hok).1.1
  · intro fault
    rcases UInt64.lt_or_le options.arrayMax options.arrayMin with hbounds | hbounds
    · have hnot : ¬ options.arrayMin ≤ options.arrayMax := UInt64.not_le.mpr hbounds
      simp [Settings.ofOptions, hbounds, hnot, eq_comm]
    · have hnot : ¬ options.arrayMax < options.arrayMin := UInt64.not_lt.mpr hbounds
      rw [Settings.failsAtFirst_ofOptions hbounds fault]
      simp only [hnot, false_and, false_or, hbounds, true_and]
  · obtain ⟨-, rfl⟩ := Settings.ofOptions_ok_iff.mp hok
    exact Settings.holds_ofReadable engine options

/-- Refuses every pattern in which a bracket is opened. -/
def bracketEngine : PatternEngine := fun pattern =>
  if pattern.toList.contains '(' then none else some fun name => name == pattern

/-- Options with refused keys in a tag, behind a key with the empty pattern, and for everything. -/
def bracketOptions : Options :=
  { Options.default with
    rules := ⟨[("/(x/", "6")], by decide⟩
    operations := ⟨[("list", ⟨⟨[("id", "1"), ("/^a/", "2")], by decide⟩⟩)], by decide⟩
    tags := ⟨[("pets", ⟨⟨[("//", "3"), ("/(/", "4"), ("/((/", "5")], by decide⟩⟩)], by decide⟩ }

/-- The first refused key of the tag is told, and without the tag and the rules for everything there
are settings. -/
theorem options_settle_or_fail_at_first_brackets :
    Settings.ofOptions bracketEngine bracketOptions = .error (.badPattern "/(/") ∧
    ∃ settings,
      Settings.ofOptions bracketEngine { bracketOptions with rules := .empty, tags := .empty }
          = .ok settings ∧
        settings.Holds bracketEngine { bracketOptions with rules := .empty, tags := .empty } := by
  constructor
  · have hkeys : bracketOptions.ruleKeys = ["id", "/^a/", "//", "/(/", "/((/", "/(x/"] := rfl
    have hfirst : FirstRefused bracketEngine bracketOptions.ruleKeys "/(/" := by
      rw [hkeys]
      exact .later (by decide) (.later (by decide) (.later (by decide) (.here (by decide))))
    exact ((options_settle_or_fail_at_first bracketEngine bracketOptions).2.1 _).mpr
      (.inr ⟨by decide, "/(/", hfirst, rfl⟩)
  · have hok : Settings.ofOptions bracketEngine
        { bracketOptions with rules := .empty, tags := .empty }
          = .ok (.ofReadable bracketEngine
              { bracketOptions with rules := .empty, tags := .empty }) := rfl
    exact ⟨_, hok, (options_settle_or_fail_at_first _ _).2.2 _ hok⟩

end SchemaMock
