/-
# Records

A record is written as an object with a member for each field, or as an array of the fields in their
order.  An object may have members that are no fields; an array may leave out fields at its end but
may not have more items than there are fields.  Reading a field that is missing is up to the field:
some must be there and some have a default.
-/
import SchemaMock.Json.Basic

namespace SchemaMock.Json

/-- The values of the fields with these names, in this order; `none` for a field that is left out.
There are as many values as names. -/
def fields? (names : List String) : Json → Option (List (Option Json))
  | .obj members => some (names.map fun name => Entries.get? name members)
  | .arr items =>
    if items.length ≤ names.length then
      some (items.map some ++ List.replicate (names.length - items.length) none)
    else none
  | _ => none

/-- A field with a default. -/
def withDefault {α : Type} (default : α) (decode : Json → Option α) : Option Json → Option α
  | none => some default
  | some value => decode value

/-- A field that may be left out, or be `null`, to say nothing. -/
def optional {α : Type} (decode : Json → Option α) : Option Json → Option (Option α)
  | none => some none
  | some .null => some none
  | some value => (decode value).map some

/-- A list of which every item must be right. -/
def listOf? {α : Type} (decode : Json → Option α) (value : Json) : Option (List α) :=
  value.items?.bind fun items => items.mapM decode

/-- A table of which every value must be right; a name that comes again takes the later value. -/
def tableOf? {α : Type} (decode : Json → Option α) (value : Json) : Option (OrderedMap α) :=
  value.members?.bind fun members =>
    (members.mapM fun m => (decode m.2).map fun a => (m.1, a)).map OrderedMap.ofList

/-- A word, written as a string or as the only name of an object whose value is `null`. -/
def word {α : Type} (decode : String → Option α) : Json → Option α
  | .str s => decode s
  | .obj [(s, .null)] => decode s
  | _ => none

/-- A table as an object. -/
def ofTable {α : Type} (encode : α → Json) (table : OrderedMap α) : Json :=
  .obj (table.entries.map fun e => (e.1, encode e.2))

end SchemaMock.Json
