import SearchQuery.Analysis
import SearchQuery.Text.TermSet

/-!
# The term dictionary

The terms of every field, and the documents that they were taken from.
-/

set_option autoImplicit false
namespace SearchQuery

/-- The fields in ascending order of their names, each with its terms, and the identifiers of the
documents. -/
structure Index where
  fields : List (String × TermSet)
  ids : TermSet

namespace Index

def empty : Index := ⟨[], ∅⟩

/-- Adds terms to a field, which comes to exist even if there are none. -/
def addToField (field : String) (terms : List String) :
    List (String × TermSet) → List (String × TermSet)
  | [] => [(field, .ofList terms)]
  | (name, known) :: rest =>
    if field < name then (field, .ofList terms) :: (name, known) :: rest
    else if field = name then (name, known.insertAll terms) :: rest
    else (name, known) :: addToField field terms rest

def addTerms (field : String) (terms : List String) (index : Index) : Index :=
  { index with fields := addToField field terms index.fields }

def addDocument (id : String) (texts : List (String × String)) (analyze : Analyzer)
    (index : Index) : Index :=
  let withTexts := texts.foldl
    (fun index (field, text) => index.addTerms field ((analyze text).map (·.term))) index
  { withTexts with ids := withTexts.ids.insert id }

def terms (index : Index) (field : String) : List String :=
  match index.fields.lookup field with
  | some set => set.toList
  | none => []

def fieldNames (index : Index) : List String := index.fields.map (·.1)

def documentCount (index : Index) : Nat := index.ids.toList.length

end Index

end SearchQuery
