import SearchQuery.Analysis
import SearchQuery.Table
import SearchQuery.Text.Quoted

/-!
# Mappings

A mapping tells what the fields of an index hold and how their texts are analyzed.
-/

set_option autoImplicit false
namespace SearchQuery

inductive FieldType where
  | text | numeric | dateTime | boolean | geoPoint | geoShape | ip
  deriving DecidableEq

namespace FieldType

def name : FieldType → String
  | text => "text"
  | numeric => "numeric"
  | dateTime => "datetime"
  | boolean => "boolean"
  | geoPoint => "geopoint"
  | geoShape => "geoshape"
  | ip => "ip"

def title : FieldType → String
  | text => "Text"
  | numeric => "Numeric"
  | dateTime => "DateTime"
  | boolean => "Boolean"
  | geoPoint => "GeoPoint"
  | geoShape => "GeoShape"
  | ip => "Ip"

end FieldType

/-- What is asked of a mapping.  `isDynamic` holds if fields without a type may be searched. -/
structure Mapping where
  defaultField : String
  fieldType : String → Option FieldType
  analyzerNamed : String → Option Analyzer
  analyzerFor : String → Analyzer
  dateLayouts : String → Option (List String) := fun _ => none
  isDynamic : Bool := true

structure Schema where
  defaultField : String
  fields : Table FieldType
  fieldAnalyzers : Table String
  analyzers : Table Analyzer
  dateParsers : Table (List String)
  isDynamic : Bool

namespace Schema

def defaultAnalyzer : String := "standard"

def initial : Schema where
  defaultField := "_all"
  fields := []
  fieldAnalyzers := []
  analyzers := [("keyword", .keyword), ("simple", .simple), ("standard", .standard)]
  dateParsers := []
  isDynamic := true

def withDefaultField (field : String) (s : Schema) : Schema := { s with defaultField := field }

def withField (field : String) (type : FieldType) (s : Schema) : Schema :=
  { s with fields := Table.put field type s.fields }

def withFieldAnalyzer (field analyzer : String) (s : Schema) : Schema :=
  { s with
    fields := Table.put field .text s.fields
    fieldAnalyzers := Table.put field analyzer s.fieldAnalyzers }

def withAnalyzer (name : String) (analyzer : Analyzer) (s : Schema) : Schema :=
  { s with analyzers := Table.put name analyzer s.analyzers }

def withDateParser (name : String) (layouts : List String) (s : Schema) : Schema :=
  { s with dateParsers := Table.put name layouts s.dateParsers }

/-- Refuses fields that have not been mapped. -/
def strict (s : Schema) : Schema := { s with isDynamic := false }

/-- A name without an analyzer stands for the standard one. -/
def analyzerFor (s : Schema) (field : String) : Analyzer :=
  let name := (s.fieldAnalyzers.lookup field).getD defaultAnalyzer
  (s.analyzers.lookup name).getD .standard

def mapping (s : Schema) : Mapping where
  defaultField := s.defaultField
  fieldType name := s.fields.lookup name
  analyzerNamed name := s.analyzers.lookup name
  analyzerFor := s.analyzerFor
  dateLayouts name := s.dateParsers.lookup name
  isDynamic := s.isDynamic

def listed (opening closing : String) (items : List String) : String :=
  opening ++ ", ".intercalate items ++ closing

def describe (s : Schema) : String :=
  let fields := s.fields.map fun (name, type) => quoted name ++ ": " ++ type.title
  let analyzers := (s.analyzers.map (·.1)).mergeSort fun a b => decide (a ≤ b)
  "StaticMapping \x7b default_field: " ++ quoted s.defaultField ++
    ", fields: " ++ listed "\x7b" "\x7d" fields ++
    ", analyzers: " ++ listed "[" "]" (analyzers.map quoted) ++
    ", dynamic: " ++ toString s.isDynamic ++ " \x7d"

end Schema

end SearchQuery
