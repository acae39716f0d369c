/-
Tables: finite maps that remember the order in which keys arrived.

A `Table` lists its entries. Setting a key that is already there changes
the value and keeps the entry's place; a new key goes to the end. So the
order of a table is the order of first occurrence, and its values are the
last ones given.

* `Table.insert` — sets a key;
* `Table.ofList` — sets the entries of a list, one after the other.
-/

namespace LivePage

/-- Entries in the order of the first occurrence of their keys. -/
abbrev Table (κ ν : Type) := List (κ × ν)

namespace Table

variable {κ ν : Type} [BEq κ]

/-- Sets a key: in place if it is there, and at the end otherwise. -/
def insert (k : κ) (v : ν) : Table κ ν → Table κ ν
  | [] => [(k, v)]
  | (key, value) :: t => if key == k then (key, v) :: t else (key, value) :: insert k v t

/-- The table made by setting each entry in turn. -/
def ofList (entries : List (κ × ν)) : Table κ ν :=
  entries.foldl (fun t entry => insert entry.1 entry.2 t) []

/-- The value of a key. -/
def get? (k : κ) : Table κ ν → Option ν
  | [] => none
  | (key, value) :: t => if key == k then some value else get? k t

end Table

end LivePage
