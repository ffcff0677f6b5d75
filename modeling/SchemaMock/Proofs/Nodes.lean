/-
# Every node can be pointed at

A node of a document stands at a position: the names of members and the numbers of items on the way
to it.  `Json.Holds` says so of the tree alone, and knows of no text.  The pointer that is built of
a position is read back as it (`Pointer.split_build`), a reference of that text stays in its own
document (`Reference.read_build`), and following the position comes to the node again
(`Json.Holds.at?_eq`), whatever the characters of the names are.

Numbers of items are written in decimal.  A segment such as `0` may be the number of an item or the
name of a member; which of the two it is, is told by the node and not by the segment.
-/
import SchemaMock.Proofs.Names
import SchemaMock.Proofs.Pointers

namespace SchemaMock

/-! ## 1. Numbers of items -/

namespace Pointer

/-- A digit is not the sign that a position may begin with. -/
theorem ne_plus_of_isDigit {c : Char} (h : c.isDigit = true) : c ≠ '+' := by
  rintro rfl
  exact absurd h (by decide)

/-- **A number in decimal is read as the position that it says**, if it fits into a word. -/
theorem position?_repr {i : Nat} (h : i < wordLimit) : position? (Nat.repr i) = some i := by
  have hdigit : ∀ c ∈ Nat.toDigits 10 i, c.isDigit = true := fun c hc =>
    Nat.isDigit_of_mem_toDigits (by decide) (by decide) hc
  have hvalue : (Nat.toDigits 10 i).foldl (fun n c => n * 10 + (c.toNat - 48)) 0 = i := by
    have hread : Nat.ofDigitChars 10 (Nat.toDigits 10 i) 0 = i := Nat.ofDigitChars_ten_toDigits
    simp only [Nat.ofDigitChars, Nat.mul_comm 10] at hread
    exact hread
  rw [position?, Nat.toList_repr]
  cases hdigits : Nat.toDigits 10 i with
  | nil => exact absurd hdigits Nat.toDigits_ne_nil
  | cons c rest =>
    rw [hdigits] at hdigit hvalue
    have hsign := ne_plus_of_isDigit (hdigit c List.mem_cons_self)
    have hform : ¬ ((c :: rest).isEmpty = true ∨ ¬ (c :: rest).all Char.isDigit = true) := by
      simpa using hdigit
    split
    · next heq => exact absurd (List.cons.inj heq).1 hsign
    · rw [if_neg hform, hvalue, if_pos h]

end Pointer

/-! ## 2. Positions of nodes -/

namespace Json

/-- What stands at a position of a document.  An item has a number that fits into a word, since an
array has no more items than words can count. -/
inductive Holds : Json → List String → Json → Prop
  | root (node : Json) : Holds node [] node
  | member {members : List (String × Json)} {key : String} {value node : Json}
      {rest : List String} (hmem : (key, value) ∈ members) (h : Holds value rest node) :
      Holds (.obj members) (key :: rest) node
  | item {items : List Json} {i : Nat} {item node : Json} {rest : List String}
      (hitem : items[i]? = some item) (hword : i < wordLimit) (h : Holds item rest node) :
      Holds (.arr items) (Nat.repr i :: rest) node

/-- **Following a position comes to the node that stands there**, where no object names a member
twice. -/
theorem Holds.at?_eq {document node : Json} {position : List String}
    (h : document.Holds position node) (hdistinct : document.Distinct) :
    document.at? position = some node := by
  induction h with
  | root node => rfl
  | @member members key value node rest hmem _ ih =>
    have hchild : (Json.obj members).child? key = some value :=
      Entries.get?_of_mem hdistinct.1 hmem
    have hinside := inside_of_mem_children (child?_mem_children hchild)
    rw [Json.at?, hchild, Option.bind_some]
    exact ih (hinside.distinct hdistinct)
  | @item items i item node rest hitem hword _ ih =>
    have hchild : (Json.arr items).child? (Nat.repr i) = some item := by
      rw [Json.child?, Pointer.position?_repr hword, Option.bind_some, hitem]
    have hinside := inside_of_mem_children (child?_mem_children hchild)
    rw [Json.at?, hchild, Option.bind_some]
    exact ih (hinside.distinct hdistinct)

end Json

/-! ## 3. Pointers to nodes -/

/-- A reference whose text is a pointer stays in its document. -/
theorem Reference.read_build (segments : List String) (current : String) :
    (Reference.read (Pointer.build "#" segments) current).documentKey = none ∧
      (Reference.read (Pointer.build "#" segments) current).segments = segments := by
  have hsplit : Text.splitFirst '#' (Pointer.build "#" segments).toList
      = ([], some ((segments.map fun s => Pointer.escapeChars s.toList).flatMap ('/' :: ·))) := by
    rw [Pointer.toList_build]
    exact Text.splitFirst_append _ List.not_mem_nil
  simp only [Reference.read, hsplit, Option.getD_some, Pointer.split, String.toList_ofList,
    Pointer.splitChars_flatMap]
  exact ⟨rfl, by simp⟩

/-- **Every node of every document can be pointed at.**  The pointer that is built of the position
of a node is split into that position, with the mark or without; as a reference it stays in the
document and leads the same way; and this way leads to the node.  Whatever a pointer is split into
is what it is split into once it is built again. -/
theorem every_node_can_be_pointed_at :
    (∀ (store : DocumentStore) (key : String) (document node : Json) (position : List String),
      store.get? key = some document → document.Distinct → document.Holds position node →
      Pointer.split (Pointer.build "#" position) = position ∧
        Pointer.split (Pointer.build "" position) = position ∧
        (Reference.read (Pointer.build "#" position) key).documentKey = none ∧
        (Reference.read (Pointer.build "#" position) key).segments = position ∧
        store.at? key position = some node) ∧
      ∀ pointer : String,
        Pointer.split (Pointer.build "#" (Pointer.split pointer)) = Pointer.split pointer := by
  constructor
  · intro store key document node position hdocument hdistinct hholds
    obtain ⟨hlocal, hsegments⟩ := Reference.read_build position key
    refine ⟨Pointer.split_build position, Pointer.split_build_unmarked position, hlocal, hsegments,
      ?_⟩
    rw [DocumentStore.at?, hdocument, Option.bind_some]
    exact hholds.at?_eq hdistinct
  · exact fun pointer => Pointer.split_build (Pointer.split pointer)

/-- A document whose names are hard to write: they are empty, or made of what pointers are made
of. -/
def oddDocument : Json :=
  .obj [("", .obj [("/pets/~1", .arr [.null, .obj [("#", .obj [("%2F.", .str "here")])]])]),
    ("0", .null)]

theorem every_node_can_be_pointed_at_odd :
    Pointer.split (Pointer.build "#" ["", "/pets/~1", "1", "#", "%2F."])
        = ["", "/pets/~1", "1", "#", "%2F."] ∧
      (DocumentStore.ofList [("odd.json", oddDocument)]).at? "odd.json"
        ["", "/pets/~1", "1", "#", "%2F."] = some (.str "here") := by
  have hholds : oddDocument.Holds ["", "/pets/~1", Nat.repr 1, "#", "%2F."] (.str "here") := by
    have hitem : [Json.null, .obj [("#", .obj [("%2F.", .str "here")])]][1]? = some _ := rfl
    refine .member List.mem_cons_self (.member List.mem_cons_self (.item hitem (by decide) ?_))
    exact .member List.mem_cons_self (.member List.mem_cons_self (.root _))
  have hdistinct : oddDocument.Distinct := by
    simp [oddDocument, Json.Distinct, Json.DistinctMembers, Json.DistinctItems, Entries.keys]
  obtain ⟨hmarked, -, -, -, hat⟩ := every_node_can_be_pointed_at.1
    (.ofList [("odd.json", oddDocument)]) "odd.json" oddDocument (.str "here") _ rfl hdistinct
    hholds
  exact ⟨hmarked, hat⟩

end SchemaMock
