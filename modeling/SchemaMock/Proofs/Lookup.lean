/-
# Which rule is found

Options are written down as tables of keys and texts; what is looked up in are rules that have been
read, in tables that have been made one.  This module says what is found in terms of the options.

* **The words for it.**  `keySelects` says when a key selects a site.  `firstText?` is the text of
  the first entry with such a key; `lastText?` takes the key from the first such entry and the text
  from the last entry with the same key.  `Options.text?` is what the options tell: `firstText?` for
  the operation, `lastText?` for its tags one after another in the order of their names, and
  `firstText?` for everything.
* **The argument.**  Reading a table refuses it or keeps its keys and texts (`ofEntries_ok_iff`).
  Putting entries into a table keeps first places and last values, and searching the table is
  `lastText?` of the entries (`find?_putAll`).  The tags that an operation carries are one list only
  if they are to be in ascending order (`Entries.Ascending.eq_of_mem_iff`), so it depends neither on
  the order in which they are carried nor on the one in which they are written down.
-/
import Mathlib.Data.List.Induction
import Mathlib.Data.List.Sort
import SchemaMock.Settings

namespace SchemaMock

/-! ## 1. Keys -/

theorem Text.after?_eq_some_iff {start cs rest : List Char} :
    Text.after? start cs = some rest ↔ cs = start ++ rest := by
  induction start generalizing cs with
  | nil => simp [Text.after?, eq_comm]
  | cons s start ih =>
    cases cs with
    | nil => simp [Text.after?]
    | cons c cs =>
      rw [Text.after?]
      by_cases h : s = c
      · rw [if_pos h, ih]
        simp [h]
      · rw [if_neg h]
        simp [Ne.symm h]

/-- A path is written as what stands behind the mark of the root. -/
theorem OverridePath.written?_eq_some_iff {path key : String} :
    OverridePath.written? path = some key ↔ path = "#." ++ key := by
  rw [OverridePath.written?, Option.map_eq_some_iff]
  constructor
  · rintro ⟨rest, hrest, rfl⟩
    refine String.toList_inj.mp ?_
    simp [Text.after?_eq_some_iff.mp hrest]
  · rintro rfl
    refine ⟨key.toList, Text.after?_eq_some_iff.mpr ?_, String.ofList_toList⟩
    rw [String.toList_append]
    rfl

/-- Whether a key selects a site: as a pattern that fits the name there, as the path behind the mark
of the root, or as the name of a site without a path. -/
def keySelects (engine : PatternEngine) (key : String) (site : Site) : Bool :=
  ((Rule.patternOf? key).bind engine).any (fun test => test site.name) ||
    match site.path with
    | some path => path == "#." ++ key
    | none => key == site.name

namespace Rule

/-- A key that is a pattern is one that the engine takes. -/
def Readable (engine : PatternEngine) (key : String) : Prop :=
  ∀ pattern, patternOf? key = some pattern → (engine pattern).isSome

/-- The rule of a key and a text, where the key can be read. -/
def read (engine : PatternEngine) (entry : String × String) : Rule :=
  ⟨entry.1, (patternOf? entry.1).bind engine, entry.2⟩

theorem ofEntry_ok_iff {engine : PatternEngine} {entry : String × String} {rule : Rule} :
    ofEntry engine entry.1 entry.2 = .ok rule ↔
      Readable engine entry.1 ∧ rule = read engine entry := by
  rw [ofEntry, Readable, read]
  cases patternOf? entry.1 with
  | none => simp only [Except.ok.injEq, reduceCtorEq, false_implies, implies_true, true_and,
      Option.bind_none, eq_comm]
  | some pattern =>
    cases hengine : engine pattern with
    | none => simp [hengine]
    | some test =>
      simp only [Except.ok.injEq, Option.some.injEq, forall_eq', hengine, Option.isSome_some,
        true_and, Option.bind_some]
      exact eq_comm

/-- A rule selects what its key selects. -/
theorem selects_read (engine : PatternEngine) (entry : String × String) (site : Site) :
    (read engine entry).selects site = keySelects engine entry.1 site := by
  have hnamed : (read engine entry).isNamedBy site
      = match site.path with
        | some path => path == "#." ++ entry.1
        | none => entry.1 == site.name := by
    rw [isNamedBy]
    cases site.path with
    | none => rfl
    | some path =>
      rw [Bool.eq_iff_iff, beq_iff_eq, beq_iff_eq]
      exact OverridePath.written?_eq_some_iff
  rw [selects, keySelects, hnamed, read]
  cases (patternOf? entry.1).bind engine with
  | none => rfl
  | some test => rfl

end Rule

/-! ## 2. Tables that have been read -/

/-- A list is mapped where every step succeeds, and then all at once. -/
theorem mapM_ok_iff {α β ε : Type} {f : α → Except ε β} {P : α → Prop} {g : α → β}
    (h : ∀ a b, f a = .ok b ↔ P a ∧ b = g a) {as : List α} {bs : List β} :
    as.mapM f = .ok bs ↔ (∀ a ∈ as, P a) ∧ bs = as.map g := by
  induction as generalizing bs with
  | nil => simp [pure, Except.pure, eq_comm]
  | cons a rest ih =>
    rw [List.mapM_cons]
    cases hfirst : f a with
    | error fault =>
      have hnot : ¬ P a := by
        intro hP
        have := (h a (g a)).mpr ⟨hP, rfl⟩
        rw [hfirst] at this
        cases this
      simp [bind, Except.bind, hnot]
    | ok b =>
      obtain ⟨hP, rfl⟩ := (h a b).mp hfirst
      cases hrest : rest.mapM f with
      | error fault =>
        have hnot : ¬ ∀ a ∈ rest, P a := by
          intro hall
          have := ih.mpr ⟨hall, rfl⟩
          rw [hrest] at this
          cases this
        simp [bind, Except.bind, hP, hnot]
      | ok others =>
        obtain ⟨hall, rfl⟩ := ih.mp hrest
        have hboth : ∀ a' ∈ a :: rest, P a' := List.forall_mem_cons.mpr ⟨hP, hall⟩
        simp only [bind, Except.bind, pure, Except.pure, Except.ok.injEq, List.map_cons]
        exact ⟨fun h => ⟨hboth, h.symm⟩, fun h => h.2.symm⟩

namespace RuleTable

/-- The rules of entries, where their keys can be read. -/
def readAll (engine : PatternEngine) (entries : Entries String) : RuleTable :=
  entries.map (Rule.read engine)

theorem ofEntries_ok_iff {engine : PatternEngine} {entries : OrderedMap String}
    {table : RuleTable} :
    ofEntries engine entries = .ok table ↔
      (∀ e ∈ entries.entries, Rule.Readable engine e.1) ∧
        table = readAll engine entries.entries :=
  mapM_ok_iff fun _ _ => Rule.ofEntry_ok_iff

end RuleTable

/-- Every key of a scope can be read. -/
def ScopeRules.Readable (engine : PatternEngine) (scope : ScopeRules) : Prop :=
  ∀ e ∈ scope.rules.entries, Rule.Readable engine e.1

namespace Settings

/-- The tables of named scopes, where their keys can be read. -/
def readScopes (engine : PatternEngine) (scopes : Entries ScopeRules) : Entries RuleTable :=
  scopes.map fun scope => (scope.1, RuleTable.readAll engine scope.2.rules.entries)

theorem tablesOf_ok_iff {engine : PatternEngine} {scopes : OrderedMap ScopeRules}
    {tables : Entries RuleTable} :
    tablesOf engine scopes = .ok tables ↔
      (∀ scope ∈ scopes.entries, scope.2.Readable engine) ∧
        tables = readScopes engine scopes.entries := by
  refine mapM_ok_iff fun scope table => ?_
  rw [ScopeRules.Readable]
  cases hread : RuleTable.ofEntries engine scope.2.rules with
  | error fault =>
    have hnot : ¬ ∀ e ∈ scope.2.rules.entries, Rule.Readable engine e.1 := by
      intro hall
      have := RuleTable.ofEntries_ok_iff.mpr ⟨hall, rfl⟩
      rw [hread] at this
      cases this
    simp only [bind, Except.bind, reduceCtorEq, false_iff]
    exact fun h => hnot h.1
  | ok rules =>
    obtain ⟨hall, rfl⟩ := RuleTable.ofEntries_ok_iff.mp hread
    simp only [bind, Except.bind, Except.ok.injEq]
    exact ⟨fun h => ⟨hall, h.symm⟩, fun h => h.2.symm⟩

/-- Every key of some options can be read. -/
structure Readable (engine : PatternEngine) (options : Options) : Prop where
  operations : ∀ scope ∈ options.operations.entries, scope.2.Readable engine
  tags : ∀ scope ∈ options.tags.entries, scope.2.Readable engine
  rules : ∀ e ∈ options.rules.entries, Rule.Readable engine e.1

/-- The settings of options, where they can be read. -/
def ofReadable (engine : PatternEngine) (options : Options) : Settings :=
  ⟨⟨RuleTable.readAll engine options.rules.entries,
      readScopes engine options.operations.entries,
      sortedByName (readScopes engine options.tags.entries)⟩,
    options.formats, options.required, options.arrayMin, options.arrayMax, options.useExamples⟩

/-- **Options make settings where their bounds are not inverted and every key can be read.** -/
theorem ofOptions_ok_iff {engine : PatternEngine} {options : Options} {settings : Settings} :
    ofOptions engine options = .ok settings ↔
      (options.arrayMin ≤ options.arrayMax ∧ Readable engine options) ∧
        settings = ofReadable engine options := by
  rw [ofOptions]
  by_cases hbounds : options.arrayMax < options.arrayMin
  · have hnot : ¬ options.arrayMin ≤ options.arrayMax := UInt64.not_le.mpr hbounds
    simp [hbounds, hnot]
  · have hle : options.arrayMin ≤ options.arrayMax := UInt64.not_lt.mp hbounds
    rw [if_neg hbounds]
    constructor
    · intro h
      cases hoperations : tablesOf engine options.operations with
      | error fault => simp [hoperations, bind, Except.bind] at h
      | ok operations =>
        cases htags : tablesOf engine options.tags with
        | error fault => simp [hoperations, htags, bind, Except.bind] at h
        | ok tags =>
          cases hrules : RuleTable.ofEntries engine options.rules with
          | error fault => simp [hoperations, htags, hrules, bind, Except.bind] at h
          | ok rules =>
            simp only [hoperations, htags, hrules, bind, Except.bind, Except.ok.injEq] at h
            obtain ⟨hreadOperations, rfl⟩ := tablesOf_ok_iff.mp hoperations
            obtain ⟨hreadTags, rfl⟩ := tablesOf_ok_iff.mp htags
            obtain ⟨hreadRules, rfl⟩ := RuleTable.ofEntries_ok_iff.mp hrules
            exact ⟨⟨hle, hreadOperations, hreadTags, hreadRules⟩, h.symm⟩
    · rintro ⟨⟨-, hoperations, htags, hrules⟩, rfl⟩
      rw [tablesOf_ok_iff.mpr ⟨hoperations, rfl⟩, tablesOf_ok_iff.mpr ⟨htags, rfl⟩,
        RuleTable.ofEntries_ok_iff.mpr ⟨hrules, rfl⟩]
      rfl

end Settings

/-! ## 3. What is found in entries -/

/-- The text of the first entry whose key selects a site. -/
def firstText? (engine : PatternEngine) (site : Site) (entries : Entries String) : Option String :=
  (entries.find? fun e => keySelects engine e.1 site).map Prod.snd

/-- The key of the first entry whose key selects a site, with the text of the last entry that has
the same key. -/
def lastText? (engine : PatternEngine) (site : Site) (entries : Entries String) : Option String :=
  (entries.find? fun e => keySelects engine e.1 site).bind fun e =>
    Entries.get? e.1 entries.reverse

namespace Entries

variable {α β : Type}

/-- What is found in a table after an entry has been put in: the new value in the old place. -/
theorem find?_put (p : String → Bool) (key : String) (value : α) (table : Entries α) :
    (put key value table).find? (fun e => p e.1)
      = match table.find? (fun e => p e.1) with
        | some e => some (if e.1 = key then (key, value) else e)
        | none => if p key then some (key, value) else none := by
  induction table with
  | nil => cases hp : p key <;> simp [put, hp]
  | cons e rest ih =>
    obtain ⟨k, a⟩ := e
    rw [put]
    by_cases hk : k = key
    · subst hk
      rw [if_pos rfl]
      cases hp : p k with
      | true => simp [hp]
      | false =>
        -- what is found behind the place of the key is not the key, which is not looked for
        simp only [List.find?_cons, hp]
        cases hrest : rest.find? (fun e => p e.1) with
        | none => rfl
        | some e =>
          have hfound : p e.1 = true := by simpa only using List.find?_some hrest
          have hne : e.1 ≠ k := by
            intro heq
            rw [heq, hp] at hfound
            cases hfound
          simp [hne]
    · rw [if_neg hk]
      cases hp : p k with
      | true => simp [hp, hk]
      | false => simpa [List.find?_cons, hp] using ih

/-- **Searching a table that entries were put into is looking for the first place and the last
value.** -/
theorem find?_putAll (p : String → Bool) (entries : Entries α) :
    (putAll [] entries).find? (fun e => p e.1)
      = (entries.find? fun e => p e.1).bind fun e =>
          (get? e.1 entries.reverse).map fun value => (e.1, value) := by
  induction entries using List.reverseRecOn with
  | nil => rfl
  | append_singleton entries e ih =>
    obtain ⟨key, value⟩ := e
    have hstep : putAll [] (entries ++ [(key, value)]) = put key value (putAll [] entries) :=
      List.foldl_append
    rw [hstep, find?_put, ih, List.find?_append, List.reverse_append]
    cases hfound : entries.find? (fun e => p e.1) with
    | none => cases hp : p key <;> simp [hp, get?]
    | some e =>
      have hmem : e.1 ∈ keys entries.reverse := by
        rw [keys, List.map_reverse, List.mem_reverse]
        exact List.mem_map_of_mem (List.mem_of_find?_eq_some hfound)
      obtain ⟨last, hlast⟩ : ∃ last, get? e.1 entries.reverse = some last := by
        rw [← Option.isSome_iff_exists, ← Option.ne_none_iff_isSome]
        exact fun hnone => get?_eq_none_iff.mp hnone hmem
      simp only [Option.bind_some, hlast, Option.map_some, Option.some_or,
        List.reverse_singleton, List.singleton_append, get?]
      by_cases hkey : e.1 = key
      · simp [hkey]
      · simp [hkey, Ne.symm hkey]

/-- Values can be replaced before or after an entry is put in. -/
theorem map_put (f : String × α → β) (key : String) (value : α) (table : Entries α) :
    (put key value table).map (fun e => (e.1, f e))
      = put key (f (key, value)) (table.map fun e => (e.1, f e)) := by
  induction table with
  | nil => rfl
  | cons e rest ih =>
    obtain ⟨k, a⟩ := e
    rw [put, List.map_cons, put]
    by_cases hk : k = key
    · rw [if_pos hk, if_pos hk, List.map_cons]
    · rw [if_neg hk, if_neg hk, List.map_cons, ih]

theorem map_putAll (f : String × α → β) (entries : Entries α) :
    (putAll [] entries).map (fun e => (e.1, f e))
      = putAll [] (entries.map fun e => (e.1, f e)) := by
  induction entries using List.reverseRecOn with
  | nil => rfl
  | append_singleton entries e ih =>
    have hstep : putAll [] (entries ++ [e]) = put e.1 e.2 (putAll [] entries) := List.foldl_append
    rw [hstep, map_put, ih, List.map_append, putAll, putAll, List.foldl_append]
    rfl

/-- Looking up a value and replacing it. -/
theorem get?_map (f : α → β) (key : String) (table : Entries α) :
    get? key (table.map fun e => (e.1, f e.2)) = (get? key table).map f := by
  induction table with
  | nil => rfl
  | cons e rest ih =>
    obtain ⟨k, a⟩ := e
    rw [List.map_cons, get?, get?]
    by_cases hk : k = key
    · rw [if_pos hk, if_pos hk, Option.map_some]
    · rw [if_neg hk, if_neg hk, ih]

/-- In the order of their names, each name once. -/
def Ascending (entries : Entries α) : Prop := entries.Pairwise fun a b => a.1 < b.1

/-- Entries in ascending order are told by what is among them. -/
theorem Ascending.eq_of_mem_iff {entries entries' : Entries α} (h : Ascending entries)
    (h' : Ascending entries') (hmem : ∀ e, e ∈ entries ↔ e ∈ entries') : entries = entries' := by
  have : Std.Irrefl fun a b : String × α => a.1 < b.1 := ⟨fun e => String.lt_irrefl e.1⟩
  have : Std.Antisymm fun a b : String × α => a.1 < b.1 :=
    ⟨fun _ _ hab hba => absurd hba (String.lt_asymm hab)⟩
  exact List.Pairwise.eq_of_mem_iff h h' hmem

/-- Entries without repetition are in ascending order once they have been sorted. -/
theorem ascending_sortedByName {entries : Entries α} (h : (keys entries).Nodup) :
    Ascending (Settings.sortedByName entries) := by
  have hsorted : (Settings.sortedByName entries).Pairwise fun a b => a.1 ≤ b.1 := by
    refine (List.pairwise_mergeSort ?_ ?_ entries).imp fun {a b} hab => ?_
    · intro a b c hab hbc
      simp only [Bool.not_eq_true', decide_eq_false_iff_not, String.not_lt] at hab hbc ⊢
      exact String.le_trans hab hbc
    · intro a b
      simp only [Bool.or_eq_true, Bool.not_eq_true', decide_eq_false_iff_not, String.not_lt]
      exact String.le_total a.1 b.1
    · simpa only [Bool.not_eq_true', decide_eq_false_iff_not, String.not_lt] using hab
  have hnodup : (Settings.sortedByName entries).Pairwise fun a b => a.1 ≠ b.1 := by
    have hperm : (keys (Settings.sortedByName entries)).Perm (keys entries) :=
      (List.mergeSort_perm entries _).map Prod.fst
    exact List.pairwise_map.mp (hperm.nodup_iff.mpr h)
  refine hsorted.imp₂ (fun a b hle hne => ?_) hnodup
  by_contra hnot
  exact hne (String.le_antisymm hle (String.not_lt.mp hnot))

end Entries

/-- The mock of a schema whose expression is a text that was written for it. -/
def PlacedSchema.overriddenBy (placed : PlacedSchema) (text : String) : Mock :=
  ⟨(Expression.primitive text).orNull placed.schema.nullable, [], placed.site.name, true, none⟩

namespace RuleTable

/-- **A table that has been read finds the text of the first entry that selects.** -/
theorem mock?_readAll (engine : PatternEngine) (entries : Entries String) (placed : PlacedSchema) :
    mock? (readAll engine entries) placed
      = (firstText? engine placed.site entries).map placed.overriddenBy := by
  have hselects : (fun rule : Rule => rule.selects placed.site) ∘ Rule.read engine
      = fun e => keySelects engine e.1 placed.site :=
    funext fun e => Rule.selects_read engine e placed.site
  rw [mock?, first?, readAll, List.find?_map, hselects, firstText?, Option.map_map, Option.map_map]
  rfl

/-- Tables can be joined before or after they are read. -/
theorem join_readAll (engine : PatternEngine) (tables : List (Entries String)) :
    join (tables.map (readAll engine)) = readAll engine (Entries.putAll [] tables.flatten) := by
  have hkeyed : ((tables.map (readAll engine)).flatten.map fun rule => (rule.key, rule))
      = tables.flatten.map fun e => (e.1, Rule.read engine e) := by
    have hread : tables.map (readAll engine) = tables.map (List.map (Rule.read engine)) := rfl
    rw [hread, ← List.map_flatten, List.map_map]
    rfl
  rw [join, hkeyed, ← Entries.map_putAll, List.map_map]
  rfl

/-- **A table that has been joined finds, for the first key that selects, the text that was written
last.** -/
theorem mock?_join (engine : PatternEngine) (tables : List (Entries String))
    (placed : PlacedSchema) :
    mock? (join (tables.map (readAll engine))) placed
      = (lastText? engine placed.site tables.flatten).map placed.overriddenBy := by
  have hfound := Entries.find?_putAll (fun key => keySelects engine key placed.site) tables.flatten
  rw [join_readAll, mock?_readAll, firstText?, hfound, lastText?]
  cases tables.flatten.find? fun e => keySelects engine e.1 placed.site with
  | none => rfl
  | some e => cases h : Entries.get? e.1 tables.flatten.reverse <;> simp [h]

end RuleTable

/-! ## 4. What the options tell -/

/-- The tags of the options that an operation carries, in the order of their names. -/
structure CarriedTags (options : Options) (tags : List String) (carried : Entries ScopeRules) :
    Prop where
  mem : ∀ scope, scope ∈ carried ↔ scope ∈ options.tags.entries ∧ scope.1 ∈ tags
  ascending : carried.Ascending

/-- The text that options tell for a site in an operation that carries these tags. -/
def Options.text? (engine : PatternEngine) (options : Options) (operationId : String)
    (carried : Entries ScopeRules) (site : Site) : Option String :=
  ((options.operations.get? operationId).bind fun scope =>
      firstText? engine site scope.rules.entries)
    |>.or (lastText? engine site (carried.flatMap fun scope => scope.2.rules.entries))
    |>.or (firstText? engine site options.rules.entries)

theorem carriedTags_exists (options : Options) (tags : List String) :
    ∃ carried, CarriedTags options tags carried := by
  have hnodup : (Entries.keys (options.tags.entries.filter fun e => tags.contains e.1)).Nodup :=
    options.tags.nodup.sublist (List.filter_sublist.map Prod.fst)
  refine ⟨Settings.sortedByName (options.tags.entries.filter fun e => tags.contains e.1),
    fun scope => ?_, Entries.ascending_sortedByName hnodup⟩
  rw [Settings.sortedByName, List.mem_mergeSort, List.mem_filter, List.contains_iff_mem]

/-- The tables that an operation sees of its tags are those of the tags it carries. -/
theorem CarriedTags.tables_eq {engine : PatternEngine} {options : Options} {tags : List String}
    {carried : Entries ScopeRules} (h : CarriedTags options tags carried) :
    ((Settings.ofReadable engine options).rules.tags.filter fun e => tags.contains e.1)
      = Settings.readScopes engine carried := by
  have hascending : Entries.Ascending (Settings.ofReadable engine options).rules.tags := by
    refine Entries.ascending_sortedByName ?_
    rw [Entries.keys, Settings.readScopes, List.map_map]
    exact options.tags.nodup
  refine (hascending.filter _).eq_of_mem_iff (List.pairwise_map.mpr h.ascending) fun e => ?_
  rw [List.mem_filter, List.contains_iff_mem, Settings.ofReadable, Settings.sortedByName,
    List.mem_mergeSort, Settings.readScopes, Settings.readScopes, List.mem_map, List.mem_map]
  constructor
  · rintro ⟨⟨scope, hscope, rfl⟩, htag⟩
    exact ⟨scope, (h.mem scope).mpr ⟨hscope, htag⟩, rfl⟩
  · rintro ⟨scope, hscope, rfl⟩
    obtain ⟨hmem, htag⟩ := (h.mem scope).mp hscope
    exact ⟨⟨scope, hmem, rfl⟩, htag⟩

/-- What options that can be read make an operation see. -/
theorem CarriedTags.mock?_eq {engine : PatternEngine} {options : Options} {tags : List String}
    {carried : Entries ScopeRules} (h : CarriedTags options tags carried) (operationId : String)
    (placed : PlacedSchema) :
    ((Settings.ofReadable engine options).rules.activeFor operationId tags).mock? placed
      = (options.text? engine operationId carried placed.site).map placed.overriddenBy := by
  have htags : RuleTable.mock? (RuleTable.join
      (((Settings.ofReadable engine options).rules.tags.filter fun e => tags.contains e.1).map
        Prod.snd)) placed
      = (lastText? engine placed.site
          (carried.flatMap fun scope => scope.2.rules.entries)).map placed.overriddenBy := by
    rw [h.tables_eq, List.flatMap, ← RuleTable.mock?_join, Settings.readScopes, List.map_map,
      List.map_map]
    rfl
  have hoperation : (Entries.get? operationId
      (Settings.ofReadable engine options).rules.operations).bind (fun table =>
        RuleTable.mock? table placed)
      = ((options.operations.get? operationId).bind fun scope =>
          firstText? engine placed.site scope.rules.entries).map placed.overriddenBy := by
    rw [Settings.ofReadable, Settings.readScopes,
      Entries.get?_map (fun scope : ScopeRules => RuleTable.readAll engine scope.rules.entries),
      OrderedMap.get?]
    cases Entries.get? operationId options.operations.entries with
    | none => rfl
    | some scope => exact RuleTable.mock?_readAll engine scope.rules.entries placed
  rw [ActiveRules.mock?, RuleBook.activeFor, htags, hoperation, Options.text?, Option.map_or,
    Option.map_or, ← RuleTable.mock?_readAll engine options.rules.entries]
  rfl

/-- The order of operations and of tags does not matter for what can be read. -/
theorem Settings.Readable.of_perm {engine : PatternEngine} {options : Options}
    (h : Readable engine options) {operations tags : OrderedMap ScopeRules}
    (hoperations : operations.entries.Perm options.operations.entries)
    (htags : tags.entries.Perm options.tags.entries) :
    Readable engine { options with operations, tags } :=
  ⟨fun scope hscope => h.operations scope (hoperations.subset hscope),
    fun scope hscope => h.tags scope (htags.subset hscope), h.rules⟩

/-- The tags that an operation carries are the same in whatever order they stand. -/
theorem CarriedTags.of_perm {options : Options} {tags tags' : List String}
    {carried : Entries ScopeRules} (h : CarriedTags options tags carried)
    {operations scopes : OrderedMap ScopeRules} (hscopes : scopes.entries.Perm options.tags.entries)
    (htags : ∀ tag, tag ∈ tags' ↔ tag ∈ tags) :
    CarriedTags { options with operations, tags := scopes } tags' carried := by
  refine ⟨fun scope => ?_, h.ascending⟩
  rw [h.mem, htags, hscopes.mem_iff]

/-- **Looking up in the settings is looking up in the options.**  For every operation and any tags,
the mock that the rules make of a schema at its site is that of the text which the options tell
there; and options with their operations and tags in another order make settings in which every
lookup has the same result, for tags that are told in another order or again too. -/
theorem lookup_agrees_with_options {engine : PatternEngine} {options : Options}
    {settings : Settings} (h : Settings.ofOptions engine options = .ok settings)
    (operationId : String) (tags : List String) :
    (∃ carried, CarriedTags options tags carried) ∧
    (∀ carried, CarriedTags options tags carried → ∀ placed,
      (settings.rules.activeFor operationId tags).mock? placed
        = (options.text? engine operationId carried placed.site).map placed.overriddenBy) ∧
    ∀ (operations scopes : OrderedMap ScopeRules) (tags' : List String),
      operations.entries.Perm options.operations.entries →
      scopes.entries.Perm options.tags.entries →
      (∀ tag, tag ∈ tags' ↔ tag ∈ tags) →
      ∃ settings', Settings.ofOptions engine { options with operations, tags := scopes }
          = .ok settings' ∧
        ∀ placed, (settings'.rules.activeFor operationId tags').mock? placed
          = (settings.rules.activeFor operationId tags).mock? placed := by
  obtain ⟨⟨hbounds, hreadable⟩, rfl⟩ := Settings.ofOptions_ok_iff.mp h
  obtain ⟨carried, hcarried⟩ := carriedTags_exists options tags
  refine ⟨⟨carried, hcarried⟩, fun carried hcarried => hcarried.mock?_eq operationId, ?_⟩
  intro operations scopes tags' hoperations hscopes htags
  have hread : Settings.Readable engine { options with operations, tags := scopes } :=
    hreadable.of_perm hoperations hscopes
  refine ⟨_, Settings.ofOptions_ok_iff.mpr ⟨⟨hbounds, hread⟩, rfl⟩, fun placed => ?_⟩
  -- both sides are the text of the same carried tags; only the operation is looked up in tables
  have hcarried' : CarriedTags { options with operations, tags := scopes } tags' carried :=
    hcarried.of_perm hscopes htags
  have htext : Options.text? engine { options with operations, tags := scopes } operationId carried
      placed.site = options.text? engine operationId carried placed.site := by
    have hget : operations.get? operationId = options.operations.get? operationId :=
      Entries.get?_perm operations.nodup hoperations operationId
    rw [Options.text?, Options.text?, hget]
  rw [hcarried'.mock?_eq, hcarried.mock?_eq, htext]

/-- Two tags with a key in common, in an order that is not that of their names. -/
def twoTags : OrderedMap ScopeRules :=
  ⟨[("print", ⟨⟨[("/^ti/", "'late'"), ("author", "'b'")], by decide⟩⟩),
    ("books", ⟨⟨[("title", "'own'"), ("/^ti/", "'early'"), ("pages", "2")], by decide⟩⟩)],
    by decide⟩

/-- The options with these tags, a rule for an operation and one for everything. -/
def twoTagsOptions : Options :=
  { Options.default with
    rules := ⟨[("tiny", "'x'")], by decide⟩
    operations := ⟨[("list", ⟨⟨[("pages", "1")], by decide⟩⟩)], by decide⟩
    tags := twoTags }

/-- Takes every pattern for a mark and the beginning of a name. -/
def beginningEngine : PatternEngine := fun pattern =>
  some fun name => (pattern.toList.drop 1).isPrefixOf name.toList

/-- The pattern stands first among the keys of the tags, and was written last for `print`. -/
theorem lookup_agrees_with_options_twoTags :
    ∃ settings, Settings.ofOptions beginningEngine twoTagsOptions = .ok settings ∧
      CarriedTags twoTagsOptions ["print", "new", "books", "print"] twoTags.entries.reverse ∧
      (∀ placed : PlacedSchema, placed.site = ⟨"tiny", none⟩ →
        (settings.rules.activeFor "list" ["print", "new", "books", "print"]).mock? placed
          = some (placed.overriddenBy "'late'")) ∧
      ∃ settings', Settings.ofOptions beginningEngine
          { twoTagsOptions with tags := ⟨twoTags.entries.reverse, by decide⟩ } = .ok settings' ∧
        ∀ placed, (settings'.rules.activeFor "list" ["books", "new", "print"]).mock? placed
          = (settings.rules.activeFor "list" ["print", "new", "books", "print"]).mock? placed := by
  have hok : Settings.ofOptions beginningEngine twoTagsOptions
      = .ok (Settings.ofReadable beginningEngine twoTagsOptions) := rfl
  obtain ⟨-, hlookup, hreorder⟩ := lookup_agrees_with_options hok "list"
    ["print", "new", "books", "print"]
  have hcarried : CarriedTags twoTagsOptions ["print", "new", "books", "print"]
      twoTags.entries.reverse := by
    have hnamed : ∀ scope ∈ twoTags.entries, scope.1 ∈ ["print", "new", "books", "print"] := by
      simp [twoTags]
    have hascending : Entries.Ascending twoTags.entries.reverse :=
      List.pairwise_pair.mpr (by decide : "books" < "print")
    refine ⟨fun scope => ?_, hascending⟩
    rw [List.mem_reverse]
    exact ⟨fun hmem => ⟨hmem, hnamed scope hmem⟩, fun h => h.1⟩
  refine ⟨_, hok, hcarried, fun placed hplaced => ?_, ?_⟩
  · rw [hlookup _ hcarried placed, hplaced]
    rfl
  · refine hreorder twoTagsOptions.operations ⟨twoTags.entries.reverse, by decide⟩
      ["books", "new", "print"] (List.Perm.refl _) (List.reverse_perm _) fun tag => ?_
    grind

end SchemaMock
