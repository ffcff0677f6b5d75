/-
# Addresses tell targets apart

An address is the key of a document with a pointer behind it.  The pointer begins with the mark `#`,
so an address can be read back as long as the key has no mark of its own
(`Target.address_injective`).  Following references from a document whose key has none leads to
documents whose keys have none (`Target.unmarked_told`).
-/
import SchemaMock.Proofs.Joins
import SchemaMock.Proofs.Pointers
import SchemaMock.Proofs.Targets

namespace SchemaMock

/-- A reference that begins with the mark points into the document it stands in. -/
theorem Reference.read_local {reference : String} {fragment : List Char}
    (h : reference.toList = '#' :: fragment) (current : String) :
    (read reference current).documentKey = none ∧
      (read reference current).segments = Pointer.split (String.ofList fragment) := by
  have hsplit : Text.splitFirst '#' ([] ++ '#' :: fragment) = ([], some fragment) :=
    Text.splitFirst_append _ List.not_mem_nil
  rw [List.nil_append, ← h] at hsplit
  simp only [read, hsplit]
  exact ⟨rfl, rfl⟩

namespace Target

/-- The key of the document has no mark. -/
def Unmarked (target : Target) : Prop := '#' ∉ target.documentKey.toList

theorem toList_address (target : Target) :
    ∃ rest, target.address.toList = target.documentKey.toList ++ '#' :: rest ∧
      (Pointer.build "#" target.segments).toList = '#' :: rest := by
  refine ⟨_, ?_, Pointer.toList_build "#" target.segments⟩
  rw [address, String.toList_append, Pointer.toList_build]
  rfl

/-- **Addresses tell targets apart** if the keys of their documents have no mark. -/
theorem address_injective {a b : Target} (ha : a.Unmarked) (hb : b.Unmarked)
    (h : a.address = b.address) : a = b := by
  obtain ⟨resta, hrefa, hbuilda⟩ := toList_address a
  obtain ⟨restb, hrefb, hbuildb⟩ := toList_address b
  have hsplit : (a.documentKey.toList, some resta) = (b.documentKey.toList, some restb) := by
    rw [← Text.splitFirst_append resta ha, ← Text.splitFirst_append restb hb, ← hrefa, ← hrefb, h]
  have hkey : a.documentKey = b.documentKey := String.toList_inj.mp (Prod.mk.inj hsplit).1
  have hrest : resta = restb := Option.some.inj (Prod.mk.inj hsplit).2
  have hbuild : Pointer.build "#" a.segments = Pointer.build "#" b.segments := by
    rw [← String.toList_inj, hbuilda, hbuildb, hrest]
  have hsegments : a.segments = b.segments := by
    rw [← Pointer.split_build a.segments, hbuild, Pointer.split_build]
  obtain ⟨keya, segmentsa⟩ := a
  simp only at hkey hsegments
  rw [hkey, hsegments]

/-- What is told in an unmarked document is told in an unmarked document. -/
theorem unmarked_told (reference : String) {current : String} (h : '#' ∉ current.toList) :
    (told reference current).Unmarked := by
  have hdocument : '#' ∉ (String.ofList (Text.splitFirst '#' reference.toList).1).toList := by
    rw [String.toList_ofList]
    exact Text.notMem_splitFirst '#' reference.toList
  simp only [Unmarked, told, Reference.document, Reference.read]
  split
  · exact h
  · exact DocumentKey.mark_notMem_join h hdocument

end Target

end SchemaMock
