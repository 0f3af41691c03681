/-!
# Tables

A table is a list of entries with distinct keys, in the order in which the keys came.
-/

set_option autoImplicit false
namespace SearchQuery

abbrev Table (α : Type) := List (String × α)

namespace Table
variable {α : Type}

def put (key : String) (value : α) : Table α → Table α
  | [] => [(key, value)]
  | (k, v) :: rest => if k = key then (k, value) :: rest else (k, v) :: put key value rest

end Table

end SearchQuery
