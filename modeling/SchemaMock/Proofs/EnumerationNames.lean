/-
# Enumerations of one name

An import of an enumeration keeps two things of the target that it has been told by: the document,
and a name that is made from the last segment of the way, or from the file where the way has no
segment (`Question.entry`).  The name is in the style of a type, so `Color` and `color` give the
same, and so do `a/Kind` and `b/Kind`.

* A reference that leads to an enumeration comes to a text with that name, and needs that import and
  no other (`Question.Names.answered`).
* So the import is among those of the whole resolution, for every such reference in its course, and
  two enumerations have one import exactly if they stand in the same document and get the same name
  (`enumerations_share_import_iff`).
-/
import SchemaMock.Proofs.UsedImports

namespace SchemaMock

open Expression (uses_orNull_iff uses_primitive_iff)

/-! ## 1. References to enumerations -/

/-- An enumeration with the name of a definition is used by that name, and imported under it. -/
theorem MakesOfParts.of_enumeration {ask : Resolver} {env : Environment}
    {membership : Option Membership} {keywords : Keywords} {site : Site} {name : String}
    {values : List Json} {mock : Mock}
    (h : MakesOfParts ask env membership ⟨.plain keywords, site, some name⟩ mock)
    (hvalues : Keywords.enumeration? keywords = some values) :
    mock.imports = [⟨name, some env.documentKey, true⟩] ∧
      ∀ used, mock.expression.Uses used ↔ name = used := by
  cases h with
  | named =>
    refine ⟨rfl, fun used => ?_⟩
    rw [uses_orNull_iff, uses_primitive_iff]
    exact ⟨fun heq => (namedEnumeration_injective heq).symm,
      fun heq => congrArg namedEnumeration heq.symm⟩
  | plain hnone => cases hvalues.symm.trans hnone

namespace Question

/-- A reference is asked for that leads to an enumeration of some values, which nothing settles.
Where a reference leads to another one, that one is asked for in its course. -/
structure Names (asked : Question) (reference : String) (values : List Json) : Prop where
  schema : asked.placed.schema = .reference reference
  enumeration : ∃ keywords,
    asked.env.store.schemaAt (asked.env.target reference) = .plain keywords ∧
    Keywords.enumeration? keywords = some values
  unsettled : (asked.env.inside reference).Unsettled
    (asked.env.followed reference asked.placed.site)

/-- The import of what a reference leads to: its name, from the document of its target. -/
def entry (asked : Question) (reference : String) : Import :=
  ⟨(Reference.read reference asked.env.documentKey).name,
    some (asked.env.target reference).documentKey, true⟩

variable {asked whole : Question} {reference : String} {values : List Json} {mock : Mock}

/-- **An enumeration that a reference leads to is used by the name that the reference gives to it**,
and nothing else is used or imported. -/
theorem Names.answered (h : asked.Names reference values) (hmock : asked.Answer mock) :
    mock.imports = [asked.entry reference] ∧
      ∀ name, mock.expression.Uses name ↔ (asked.entry reference).name = name := by
  obtain ⟨env, membership, schema, site, definition⟩ := asked
  obtain ⟨hschema, ⟨keywords, hkeywords, hvalues⟩, hunsettled⟩ := h
  cases (hschema : schema = .reference reference)
  obtain ⟨-, htarget⟩ := gives_target hmock
  have hplaced : env.followed reference site = ⟨.plain keywords,
      site.named (Reference.read reference env.documentKey).name,
      some (Reference.read reference env.documentKey).name⟩ := by
    rw [Environment.followed, hkeywords]
  rw [hplaced] at hunsettled htarget
  obtain ⟨made, hmakes, hexpression, himports⟩ := makesOfParts_of_gives rfl hunsettled htarget
  rw [hexpression, himports]
  exact hmakes.of_enumeration hvalues

/-- The import of an enumeration is among those of whatever it is asked for by. -/
theorem Names.mem_imports (h : asked.Names reference values) (hcourse : whole.Course asked)
    (hmock : whole.Answer mock) : asked.entry reference ∈ mock.imports := by
  obtain ⟨answer, hanswer, hsubset⟩ := answered_of_course hcourse hmock
  refine hsubset ?_
  rw [(h.answered hanswer).1]
  exact List.mem_cons_self

/-- The enumeration stands at the target of the reference. -/
theorem Names.stands (h : asked.Names reference values) :
    ∃ keywords, asked.env.store.at? (asked.env.target reference).documentKey
        (asked.env.target reference).segments = some (.obj keywords) ∧
      Keywords.enumeration? keywords = some values := by
  obtain ⟨-, ⟨keywords, hkeywords, hvalues⟩, -⟩ := h
  refine ⟨keywords, ?_, hvalues⟩
  cases hat : asked.env.store.at? (asked.env.target reference).documentKey
      (asked.env.target reference).segments with
  | none =>
    -- a schema that says nothing is no enumeration
    rw [DocumentStore.schemaAt_of_none hat] at hkeywords
    cases hkeywords
  | some node =>
    rw [DocumentStore.schemaAt_of_some hat] at hkeywords
    rw [eq_obj_of_ofJson_eq_plain hkeywords]

/-- The name of the import is made from the last segment of the way to the enumeration. -/
theorem entry_name {segment : String}
    (h : (asked.env.target reference).segments.getLast? = some segment) :
    (asked.entry reference).name = Text.upperCamel segment := by
  have hsegments : (Reference.read reference asked.env.documentKey).segments.getLast?
      = some segment := h
  simp only [entry, Reference.read] at hsegments ⊢
  rw [hsegments, Option.getD_some]

/-- An enumeration that is a whole document is named after the file that the reference tells. -/
theorem entry_name_whole (h : (asked.env.target reference).segments = []) :
    (asked.entry reference).name = Text.upperCamel
      (String.ofList (Reference.stem (Text.splitFirst '#' reference.toList).1)) := by
  have hsegments : (Reference.read reference asked.env.documentKey).segments = [] := h
  simp only [entry, Reference.read] at hsegments ⊢
  rw [hsegments, List.getLast?_nil, Option.getD_none]

/-! ## 2. Enumerations of a resolution -/

/-- An enumeration is used by its name, in the course of a resolution that has come to `mock` and
has left `after` behind. -/
structure NamedIn (asked : Question) (reference : String) (values : List Json)
    (store : DocumentStore) (mock : Mock) (after : Trace) : Prop where
  /-- It is used by the name of its import, and needs no other. -/
  answered : ∃ answer, asked.Answer answer ∧ answer.imports = [asked.entry reference] ∧
    ∀ name, answer.expression.Uses name ↔ (asked.entry reference).name = name
  imported : asked.entry reference ∈ mock.imports
  requested : asked.entry reference ∈ after.imports
  /-- It stands where the reference leads, in the document of its import. -/
  stands : ∃ keywords, store.at? (asked.env.target reference).documentKey
      (asked.env.target reference).segments = some (.obj keywords) ∧
    Keywords.enumeration? keywords = some values
  /-- Its name is made from the last segment of the way. -/
  named : ∀ segment, (asked.env.target reference).segments.getLast? = some segment →
    (asked.entry reference).name = Text.upperCamel segment
  /-- A whole document has a name that is made from that of its file. -/
  namedWhole : (asked.env.target reference).segments = [] →
    (asked.entry reference).name = Text.upperCamel
      (String.ofList (Reference.stem (Text.splitFirst '#' reference.toList).1))

theorem Names.namedIn {trace after : Trace} (h : asked.Names reference values)
    (hcourse : whole.Course asked)
    (hok : (resolver whole.env whole.membership whole.placed).outcome trace = (.ok mock, after)) :
    asked.NamedIn reference values whole.env.store mock after := by
  have hmock : whole.Answer mock := ⟨trace, after, hok⟩
  have himported := h.mem_imports hcourse hmock
  obtain ⟨answer, hanswer, -⟩ := answered_of_course hcourse hmock
  constructor
  case answered => exact ⟨answer, hanswer, h.answered hanswer⟩
  case imported => exact himported
  case requested =>
    exact ((resolver_adds _ _ _).accounts.mem_imports hok _).mpr (.inr himported)
  case stands => exact hcourse.same.1 ▸ h.stands
  case named => exact fun _ hlast => entry_name hlast
  case namedWhole => exact entry_name_whole

/-- Two targets have one import if they lie in one document and get one name. -/
theorem entry_eq_iff {asked' : Question} {reference' : String} :
    asked.entry reference = asked'.entry reference' ↔
      (asked.env.target reference).documentKey = (asked'.env.target reference').documentKey ∧
        (asked.entry reference).name = (asked'.entry reference').name := by
  constructor
  · intro heq
    exact ⟨Option.some.inj (congrArg Import.document heq), congrArg Import.name heq⟩
  · rintro ⟨hdocument, hname⟩
    simp only [entry] at hname ⊢
    rw [hdocument, hname]

end Question

/-- **Two enumerations have one import exactly if they have one name in one document.**  Let two
references, in the course of a resolution, lead to enumerations that are used by their names.  Each
comes to an expression that uses the name of its own import and no other; this import is among those
of the mock, and has been asked for; it tells the document that the enumeration stands in, and a
name that is made from the last segment of the way to it, or from its file if it is a whole
document.  So the imports of the two are different and both there, unless the enumerations stand in
the same document and their names are the same; then there is one import for both, since no import
is there twice. -/
theorem enumerations_share_import_iff (env : Environment) (membership : Option Membership)
    (placed : PlacedSchema) (trace after : Trace) (mock : Mock) (asked asked' : Question)
    (reference reference' : String) (values values' : List Json)
    (hok : (placed.resolve mockResolver env membership).outcome trace = (.ok mock, after))
    (hcourse : Question.Course ⟨env, membership, placed⟩ asked)
    (hcourse' : Question.Course ⟨env, membership, placed⟩ asked')
    (h : asked.Names reference values) (h' : asked'.Names reference' values') :
    asked.NamedIn reference values env.store mock after ∧
    asked'.NamedIn reference' values' env.store mock after ∧ mock.imports.Nodup ∧
    (asked.entry reference = asked'.entry reference' ↔
      (asked.env.target reference).documentKey = (asked'.env.target reference').documentKey ∧
        (asked.entry reference).name = (asked'.entry reference').name) :=
  ⟨h.namedIn hcourse hok, h'.namedIn hcourse' hok,
    (resolver_adds env membership placed).accounts.nodup hok, Question.entry_eq_iff⟩

/-- Two enumerations whose names differ by a capital letter. -/
def shadesDocument : Json :=
  .obj [("Color", .obj [("enum", .arr [.str "red"])]),
    ("color", .obj [("enum", .arr [.str "blue"])])]

/-- A document that is an enumeration. -/
def huesDocument : Json := .obj [("enum", .arr [.str "green"])]

/-- Both documents at hand. -/
def shadesEnvironment : Environment :=
  { listEnvironment with
    store := .ofList [("api.json", shadesDocument), ("hues.json", huesDocument)] }

/-- Something with a property of each. -/
def painted : PlacedSchema :=
  .ofJson (.obj [("required", .arr [.str "a", .str "b", .str "c"]),
    ("properties", .obj [("a", referenceNode "#/Color"), ("b", referenceNode "#/color"),
      ("c", referenceNode "hues.json")])])
    ⟨"thing", none⟩

/-- What is asked for one of them. -/
def askedFor (property reference : String) : Question :=
  ⟨shadesEnvironment, none, ⟨.reference reference, Site.property ⟨"thing", none⟩ property, none⟩⟩

theorem course_painted :
    Question.Course ⟨shadesEnvironment, none, painted⟩ (askedFor "a" "#/Color") ∧
      Question.Course ⟨shadesEnvironment, none, painted⟩ (askedFor "b" "#/color") ∧
      Question.Course ⟨shadesEnvironment, none, painted⟩ (askedFor "c" "hues.json") :=
  ⟨.single (.property ⟨rfl, rfl⟩ (.head _) List.not_mem_nil),
    .single (.property ⟨rfl, rfl⟩ (.tail _ (.head _)) List.not_mem_nil),
    .single (.property ⟨rfl, rfl⟩ (.tail _ (.tail _ (.head _))) List.not_mem_nil)⟩

theorem names_red : (askedFor "a" "#/Color").Names "#/Color" [.str "red"] :=
  ⟨rfl, ⟨[("enum", .arr [.str "red"])], rfl, rfl⟩, ⟨rfl, rfl⟩⟩

theorem names_blue : (askedFor "b" "#/color").Names "#/color" [.str "blue"] :=
  ⟨rfl, ⟨[("enum", .arr [.str "blue"])], rfl, rfl⟩, ⟨rfl, rfl⟩⟩

theorem names_green : (askedFor "c" "hues.json").Names "hues.json" [.str "green"] :=
  ⟨rfl, ⟨[("enum", .arr [.str "green"])], rfl, rfl⟩, ⟨rfl, rfl⟩⟩

/-- Two of them are imported as `Color`, and the document as what its file is called. -/
theorem entry_shades :
    (askedFor "a" "#/Color").entry "#/Color" = ⟨"Color", some "api.json", true⟩ ∧
      (askedFor "b" "#/color").entry "#/color" = ⟨"Color", some "api.json", true⟩ ∧
      (askedFor "c" "hues.json").entry "hues.json" = ⟨"Hues", some "hues.json", true⟩ :=
  ⟨rfl, rfl, rfl⟩

theorem enumerations_share_import_iff_shades :
    ∃ mock after, (painted.resolve mockResolver shadesEnvironment none).outcome .empty
        = (.ok mock, after) ∧ mock.imports.Nodup ∧
      ⟨"Color", some "api.json", true⟩ ∈ mock.imports ∧
      ⟨"Hues", some "hues.json", true⟩ ∈ mock.imports ∧
      (askedFor "a" "#/Color").entry "#/Color" = (askedFor "b" "#/color").entry "#/color" ∧
      (askedFor "a" "#/Color").entry "#/Color" ≠ (askedFor "c" "hues.json").entry "hues.json" := by
  have hok : (painted.resolve mockResolver shadesEnvironment none).outcome .empty
      = (.ok _, _) := rfl
  obtain ⟨hfirst, -, hnodup, hsame⟩ := enumerations_share_import_iff shadesEnvironment none painted
    .empty _ _ _ _ _ _ _ _ hok course_painted.1 course_painted.2.1 names_red names_blue
  obtain ⟨-, hthird, -, hapart⟩ := enumerations_share_import_iff shadesEnvironment none painted
    .empty _ _ _ _ _ _ _ _ hok course_painted.1 course_painted.2.2 names_red names_green
  obtain ⟨hred, hblue, hgreen⟩ := entry_shades
  have himported := hfirst.imported
  have himported' := hthird.imported
  rw [hred] at himported
  rw [hgreen] at himported'
  refine ⟨_, _, hok, hnodup, himported, himported', hsame.mpr ⟨by decide, ?_⟩,
    fun heq => absurd (hapart.mp heq).1 (by decide)⟩
  rw [hred, hblue]

/-- **Two enumerations can have one import.**  It is not so that references with different targets,
which lead to enumerations of different values, always give different imports. -/
theorem enumerations_can_share_import :
    ¬ ∀ (env : Environment) (membership : Option Membership) (placed : PlacedSchema)
      (trace after : Trace) (mock : Mock) (asked asked' : Question) (reference reference' : String)
      (values values' : List Json),
      (placed.resolve mockResolver env membership).outcome trace = (.ok mock, after) →
      Question.Course ⟨env, membership, placed⟩ asked →
      Question.Course ⟨env, membership, placed⟩ asked' →
      asked.Names reference values → asked'.Names reference' values' →
      asked.env.target reference ≠ asked'.env.target reference' → values ≠ values' →
      asked.entry reference ≠ asked'.entry reference' := by
  intro hclaim
  have hok : (painted.resolve mockResolver shadesEnvironment none).outcome .empty
      = (.ok _, _) := rfl
  obtain ⟨hred, hblue, -⟩ := entry_shades
  refine hclaim shadesEnvironment none painted .empty _ _ _ _ _ _ _ _ hok course_painted.1
    course_painted.2.1 names_red names_blue (by decide) (by simp) (hred.trans hblue.symm)

end SchemaMock
