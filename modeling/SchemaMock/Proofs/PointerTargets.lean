/-
# Pointers that are looked for

The mock at a pointer is made in two steps.  The pointer is looked for in the root document, and if
something is there, the pointer is followed as a reference.  The two steps read the pointer apart:
the first one takes the mark away that may lead a pointer, and the second one takes the mark away
that ends the document of a reference and then the mark that may lead what is behind it.

So they lead the same way as long as the pointer is written with one mark at most
(`segments_marked_iff`), and then the mock is that of the schema which has been found
(`mockAt_of_found`).  A pointer with two marks is looked for at one place and followed to another,
and there is always a document in which only one of the places exists (`finds_iff`).
-/
import SchemaMock.Proofs.Dangling
import SchemaMock.Proofs.Threading

namespace SchemaMock

/-! ## 1. Marks in front of a pointer -/

/-- A first character that is no separator belongs to the first piece. -/
theorem Text.cut_cons_of_ne {separator c : Char} (h : c ≠ separator) (rest : List Char) :
    ∃ piece pieces, cut separator rest = piece :: pieces ∧
      cut separator (c :: rest) = (c :: piece) :: pieces := by
  obtain ⟨piece, pieces, hrest⟩ := List.exists_cons_of_ne_nil (cut_ne_nil separator rest)
  refine ⟨piece, pieces, hrest, ?_⟩
  rw [cut, if_neg h, hrest]

namespace Pointer

/-- Two marks: the second one belongs to the first segment. -/
theorem splitChars_two_marks (rest : List Char) :
    splitChars ('#' :: '#' :: rest) = (Text.cut '/' ('#' :: rest)).map unescapeChars := rfl

/-- One mark makes no difference. -/
theorem splitChars_one_mark {cs : List Char} (h : cs.head? ≠ some '#') :
    splitChars ('#' :: cs) = splitChars cs := by
  have hstrip : stripMark cs = cs := by
    cases cs with
    | nil => rfl
    | cons c rest =>
      have hne : '#' ≠ c := fun heq => h (heq ▸ rfl)
      simp [stripMark, Text.after?, hne]
  have hone : stripMark ('#' :: cs) = cs := rfl
  rw [splitChars, splitChars, hstrip, hone]

theorem unescapeChars_mark (rest : List Char) :
    unescapeChars ('#' :: rest) = '#' :: unescapeChars rest := by
  rw [unescapeChars, unescapeChars, replacePair_cons_of_ne (by decide),
    replacePair_cons_of_ne (by decide)]

/-- With a mark more, there are not fewer segments, and they are other ones. -/
theorem splitChars_more_marks (rest : List Char) :
    (splitChars ('#' :: rest)).length ≤ (splitChars ('#' :: '#' :: rest)).length ∧
      splitChars ('#' :: '#' :: rest) ≠ splitChars ('#' :: rest) := by
  have hone : stripMark ('#' :: rest) = rest := rfl
  obtain ⟨piece, pieces, hrest, hmark⟩ := Text.cut_cons_of_ne (by decide : '#' ≠ '/') rest
  rw [splitChars_two_marks, hmark, List.map_cons, unescapeChars_mark, splitChars, hone]
  split
  · exact ⟨Nat.zero_le _, List.cons_ne_nil _ _⟩
  · next rest =>
    -- the slash is gone, so there is a segment less
    have hlength : (Text.cut '/' rest).length = pieces.length := by
      have hcut := congrArg List.length hrest
      simpa [Text.cut] using hcut
    constructor
    · simp [hlength]
    · intro heq
      have hmore := congrArg List.length heq
      simp [hlength] at hmore
  · rw [hrest]
    constructor
    · simp
    · intro heq
      have hfirst := congrArg List.length (List.cons.inj heq).1
      simp at hfirst

end Pointer

namespace Workspace

/-- The way on which a pointer with its mark is followed is not longer than the one on which it is
looked for. -/
theorem length_segments_marked (pointer current : String) :
    (Reference.read (marked pointer) current).segments.length
      ≤ (Pointer.split (marked pointer)).length := by
  obtain ⟨rest, hrest, -⟩ := toList_marked pointer
  rw [(read_marked hrest current).2, Pointer.split, Pointer.split, hrest, String.toList_ofList,
    List.length_map, List.length_map]
  by_cases hhead : rest.head? = some '#'
  · obtain ⟨tail, rfl⟩ := List.head?_eq_some_iff.mp hhead
    exact (Pointer.splitChars_more_marks tail).1
  · exact (congrArg List.length (Pointer.splitChars_one_mark hhead)).ge

/-- **A pointer is followed on the way on which it is looked for**, unless it begins with two
marks. -/
theorem segments_marked_iff (pointer current : String) :
    (Reference.read (marked pointer) current).segments = Pointer.split (marked pointer) ↔
      ¬ ['#', '#'] <+: pointer.toList := by
  obtain ⟨rest, hrest, hmarks⟩ := toList_marked pointer
  rw [(read_marked hrest current).2, Pointer.split, Pointer.split, hrest, String.toList_ofList,
    hmarks, (List.map_injective_iff.mpr fun _ _ => String.ofList_injective).eq_iff]
  constructor
  · intro heq hhead
    obtain ⟨tail, rfl⟩ := List.head?_eq_some_iff.mp hhead
    exact (Pointer.splitChars_more_marks tail).2 heq.symm
  · exact fun hhead => (Pointer.splitChars_one_mark hhead).symm

example : Pointer.split (marked "##/a") = ["#", "a"] ∧
    (Reference.read (marked "##/a") "api.json").segments = ["a"] := ⟨rfl, rfl⟩

end Workspace

/-! ## 2. What is found is what is mocked -/

/-- A reference whose target is there comes to what stands there. -/
theorem result_reference {env : Environment} {membership : Option Membership} {reference : String}
    {site : Site} {definition : Option String} {value : Json}
    (hfresh : (env.target reference).address ∉ env.chain)
    (hat : env.store.at? (env.target reference).documentKey (env.target reference).segments
      = some value) (trace : Trace) :
    ((resolver env membership ⟨.reference reference, site, definition⟩).outcome trace).1
      = ((resolver (env.inside reference) membership (env.followed reference site)).outcome
          trace).1 := by
  have hreported : env.reported reference trace = trace := by rw [Environment.reported, hat]
  rw [resolver_reference, followLayer_of_notMem hfresh, resolver_eq_typed, map_eq_pure_bind,
    Resolve.outcome_bind_of_ok (outcome_targetSchema env reference site trace), hreported,
    Resolve.outcome_bind, Resolve.outcome_bind]
  rcases (makeLayer resolver (env.inside reference) membership
    (env.followed reference site)).outcome trace with ⟨fault | mock, after⟩
  · rfl
  · rfl

namespace Workspace

variable {w : Workspace} {operationId pointer name : String} {tags : List String}

/-- The environment in which a schema of the root document is mocked. -/
def atRoot (w : Workspace) (operationId : String) (tags : List String) : Environment :=
  .start w.root w.store w.settings (w.settings.rules.activeFor operationId tags)

/-- A value of the root document as the schema that a pointer has been followed to. -/
def placedAt (w : Workspace) (pointer name : String) (value : Json) : PlacedSchema :=
  let target := Reference.read (marked pointer) w.root
  ⟨.ofJson value, Site.named ⟨name, none⟩ target.name, some target.name⟩

/-- A mock is what its schema comes to, and has the imports that the schema needs. -/
theorem mock_root (placed : PlacedSchema) :
    (w.mock mockResolver w.root placed operationId tags).1
      = ((resolver (w.atRoot operationId tags) none placed).outcome .empty).1.map
          fun mock => ⟨mock, mock.imports⟩ := by
  have hrun : (placed.resolve mockResolver (w.atRoot operationId tags) none).run Trace.empty
      = (resolver (w.atRoot operationId tags) none placed).outcome .empty := rfl
  rw [atRoot] at hrun ⊢
  simp only [mock, hrun]
  rcases hout : (resolver _ none placed).outcome .empty with ⟨fault | made, after⟩
  · rfl
  · have himports := (resolver_adds _ none placed).accounts.imports_eq_of_nil hout rfl
    simp only [Except.map, himports]

/-- A mock is not made for want of what it is asked for. -/
theorem mock_ne_missing (placed : PlacedSchema) (pointer : String) :
    (w.mock mockResolver w.root placed operationId tags).1 ≠ .error (.missing pointer) := by
  rw [mock_root]
  rcases hout : (resolver (w.atRoot operationId tags) none placed).outcome .empty
    with ⟨fault | made, after⟩
  · obtain ⟨entered, last, -, rfl⟩ := resolver_failsBack _ _ _ hout
    exact nofun
  · exact nofun

theorem mockAt_of_none (h : w.store.at? w.root (Pointer.split (marked pointer)) = none) :
    w.mockAt mockResolver operationId pointer name tags
      = (.error (.missing (marked pointer)), []) := by
  simp only [mockAt, h]

theorem mockAt_of_some {value : Json}
    (h : w.store.at? w.root (Pointer.split (marked pointer)) = some value) :
    w.mockAt mockResolver operationId pointer name tags
      = w.mock mockResolver w.root (.reference (marked pointer) ⟨name, none⟩) operationId tags := by
  simp only [mockAt, h]

/-- A pointer is told to be missing exactly if nothing stands where it is looked for. -/
theorem mockAt_missing_iff :
    (w.mockAt mockResolver operationId pointer name tags).1 = .error (.missing (marked pointer)) ↔
      w.store.at? w.root (Pointer.split (marked pointer)) = none := by
  cases h : w.store.at? w.root (Pointer.split (marked pointer)) with
  | none => simp [mockAt_of_none h]
  | some value => simp [mockAt_of_some h, mock_ne_missing]

/-- The target of a pointer is in the root document. -/
theorem target_marked (w : Workspace) (operationId pointer : String) (tags : List String) :
    (w.atRoot operationId tags).target (marked pointer)
      = ⟨w.root, (Reference.read (marked pointer) w.root).segments⟩ := by
  have htarget : (w.atRoot operationId tags).target (marked pointer)
      = Target.told (marked pointer) w.root := rfl
  have hkey := told_marked pointer w.root
  simp only [Target.told] at hkey
  rw [htarget, Target.told, hkey]

/-- **What is found at a pointer with one mark is what is mocked.** -/
theorem mockAt_of_found (hmarks : ¬ ['#', '#'] <+: pointer.toList) {value : Json}
    (hat : w.store.at? w.root (Reference.read (marked pointer) w.root).segments = some value) :
    (w.mockAt mockResolver operationId pointer name tags).1
        = (((w.placedAt pointer name value).resolve mockResolver
            ((w.atRoot operationId tags).inside (marked pointer)) none).outcome .empty).1.map
          (fun mock => ⟨mock, mock.imports⟩) ∧
      .unresolved (marked pointer) w.root
        ∉ (w.mockAt mockResolver operationId pointer name tags).2 := by
  have htarget := w.target_marked operationId pointer tags
  have hstore : (w.atRoot operationId tags).store = w.store := rfl
  have hthere : (w.atRoot operationId tags).store.at?
      ((w.atRoot operationId tags).target (marked pointer)).documentKey
      ((w.atRoot operationId tags).target (marked pointer)).segments = some value := by
    simpa only [htarget, hstore] using hat
  constructor
  · have hfresh : ((w.atRoot operationId tags).target (marked pointer)).address
        ∉ (w.atRoot operationId tags).chain := List.not_mem_nil
    have hfollowed : (w.atRoot operationId tags).followed (marked pointer) ⟨name, none⟩
        = w.placedAt pointer name value := by
      rw [Environment.followed, DocumentStore.schemaAt_of_some hthere]
      rfl
    rw [segments_marked_iff pointer w.root |>.mpr hmarks] at hat
    rw [mockAt_of_some hat, mock_root, PlacedSchema.reference, result_reference hfresh hthere,
      hfollowed]
    rfl
  · intro hmem
    obtain ⟨current, -, -, hkey, hnone⟩ := dangles_of_mem_mockAt hmem
    rw [told_marked] at hkey
    simp only [hkey, Target.told, hat] at hnone
    cases hnone

end Workspace

/-! ## 3. Pointers with two marks -/

namespace Json

/-- The least document with something on a way. -/
def along : List String → Json
  | [] => .null
  | segment :: rest => .obj [(segment, along rest)]

/-- Nothing else is in it than what is passed on the way. -/
theorem at?_along_eq_none {way segments : List String} (h : ¬ segments <+: way) :
    (along way).at? segments = none := by
  induction segments generalizing way with
  | nil => exact absurd (List.nil_prefix) h
  | cons segment rest ih =>
    cases way with
    | nil => rfl
    | cons first way =>
      by_cases hsame : first = segment
      · subst hsame
        have hrest : ¬ rest <+: way := fun hbegins => h (List.cons_prefix_cons.mpr ⟨rfl, hbegins⟩)
        simp only [along, at?, child?, Entries.get?, if_true, Option.bind_some, ih hrest]
      · simp only [along, at?, child?, Entries.get?, if_neg hsame, Option.bind_none]

theorem at?_along_self (way : List String) : (along way).at? way = some .null := by
  induction way with
  | nil => rfl
  | cons segment rest ih =>
    simp only [along, at?, child?, Entries.get?, if_true, Option.bind_some, ih]

end Json

namespace Workspace

/-- A document at hand, and nothing else said. -/
def ofDocument (document : Json) : Workspace where
  store := .ofList [("api.json", document)]
  root := "api.json"
  settings := ⟨⟨[], [], []⟩, .empty, false, 0, 1, false⟩
  hasRoot := rfl

theorem at?_ofDocument (document : Json) (segments : List String) :
    (ofDocument document).store.at? "api.json" segments = document.at? segments := rfl

/-- **What is looked for at a pointer is what the pointer leads to, in every document, exactly if it
is written with one mark at most.** -/
theorem finds_iff (pointer : String) :
    (∀ (w : Workspace) (operationId name : String) (tags : List String),
      (w.mockAt mockResolver operationId pointer name tags).1 = .error (.missing (marked pointer)) ↔
        w.store.at? w.root (Reference.read (marked pointer) w.root).segments = none) ↔
      ¬ ['#', '#'] <+: pointer.toList := by
  constructor
  · intro hfinds
    rw [← segments_marked_iff pointer "api.json"]
    -- in the least document with something where the pointer leads, it is found only there
    have hiff := hfinds (ofDocument (.along (Reference.read (marked pointer) "api.json").segments))
      "" "" []
    have hroot : ∀ document, (ofDocument document).root = "api.json" := fun _ => rfl
    rw [mockAt_missing_iff, hroot, at?_ofDocument, at?_ofDocument, Json.at?_along_self] at hiff
    by_contra hne
    have hlonger : ¬ Pointer.split (marked pointer)
        <+: (Reference.read (marked pointer) "api.json").segments := fun hbegins =>
      hne (hbegins.eq_of_length_le (length_segments_marked pointer "api.json")).symm
    cases hiff.mp (Json.at?_along_eq_none hlonger)
  · intro hmarks w operationId name tags
    rw [mockAt_missing_iff, (segments_marked_iff pointer w.root).mpr hmarks]

/-- **A pointer is looked for where it leads, unless it is written with two marks.**  For every
other pointer, and for no more of them, the mock fails for want of a schema exactly if there is none
where the pointer leads.  Then, if there is one, the mock is that of this schema, and nothing is
reported of the pointer itself. -/
theorem pointer_is_looked_for_where_it_leads_iff (pointer : String) :
    ((∀ (w : Workspace) (operationId name : String) (tags : List String),
      (w.mockAt mockResolver operationId pointer name tags).1 = .error (.missing (marked pointer)) ↔
        w.store.at? w.root (Reference.read (marked pointer) w.root).segments = none) ↔
      ¬ ['#', '#'] <+: pointer.toList) ∧
    (¬ ['#', '#'] <+: pointer.toList →
      ∀ (w : Workspace) (operationId name : String) (tags : List String) (value : Json),
        w.store.at? w.root (Reference.read (marked pointer) w.root).segments = some value →
        (w.mockAt mockResolver operationId pointer name tags).1
            = (((w.placedAt pointer name value).resolve mockResolver
                ((w.atRoot operationId tags).inside (marked pointer)) none).outcome .empty).1.map
              (fun mock => ⟨mock, mock.imports⟩) ∧
          .unresolved (marked pointer) w.root
            ∉ (w.mockAt mockResolver operationId pointer name tags).2) :=
  ⟨finds_iff pointer, fun hmarks _ _ _ _ _ hat => mockAt_of_found hmarks hat⟩

/-- A document whose only member is named like a mark, and has an integer at `a`. -/
def markDocument : Json := .obj [("#", .obj [("a", .obj [("type", .str "integer")])])]

/-- With one mark, the integer is found, and mocked. -/
theorem pointer_is_looked_for_where_it_leads_mark :
    ((ofDocument markDocument).mockAt mockResolver "" "/#/a" "" []).1
        = .ok ⟨⟨.primitive "faker.number.int()", [], "A", false, some .integer⟩, []⟩ ∧
      .unresolved "#/#/a" "api.json"
        ∉ ((ofDocument markDocument).mockAt mockResolver "" "/#/a" "" []).2 := by
  have hat : (ofDocument markDocument).store.at? (ofDocument markDocument).root
      (Reference.read (marked "/#/a") (ofDocument markDocument).root).segments = some _ := rfl
  obtain ⟨hresult, hunreported⟩ := (pointer_is_looked_for_where_it_leads_iff "/#/a").2
    (by decide) (ofDocument markDocument) "" "" [] _ hat
  exact ⟨hresult.trans rfl, hunreported⟩

/-- **With two marks, the integer is found, and something else is mocked**: the pointer is followed
to a place where nothing is, and reports itself. -/
theorem pointer_with_two_marks_is_lost :
    (ofDocument markDocument).store.at? (ofDocument markDocument).root
        (Reference.read (marked "##/a") (ofDocument markDocument).root).segments = none ∧
      (∃ made, ((ofDocument markDocument).mockAt mockResolver "" "##/a" "" []).1 = .ok made ∧
        made.mock.expression = .object []) ∧
      .unresolved "##/a" "api.json"
        ∈ ((ofDocument markDocument).mockAt mockResolver "" "##/a" "" []).2 :=
  ⟨rfl, ⟨_, rfl, rfl⟩, List.mem_cons_self⟩

end Workspace

end SchemaMock
