/-!
# Kinds of queries
-/

set_option autoImplicit false
namespace SearchQuery

inductive Kind where
  | term | match_ | matchPhrase | fuzzy | phrase | multiPhrase
  | boolean | conjunction | disjunction | queryString
  | numericRange | termRange | dateRange
  | stem | regexp | wildcard
  | everything | nothing | documents | flag
  | geoBox | geoDistance | geoPolygon | geoShape | network
  deriving DecidableEq

def Kind.name : Kind → String
  | term => "term"
  | match_ => "match"
  | matchPhrase => "match phrase"
  | fuzzy => "fuzzy"
  | phrase => "phrase"
  | multiPhrase => "multi-phrase"
  | boolean => "boolean"
  | conjunction => "conjunction"
  | disjunction => "disjunction"
  | queryString => "query string"
  | numericRange => "numeric range"
  | termRange => "term range"
  | dateRange => "date range"
  | stem => "prefix"
  | regexp => "regexp"
  | wildcard => "wildcard"
  | everything => "match all"
  | nothing => "match none"
  | documents => "doc id"
  | flag => "bool field"
  | geoBox => "geo bounding box"
  | geoDistance => "geo distance"
  | geoPolygon => "geo bounding polygon"
  | geoShape => "geo shape"
  | network => "ip range"

end SearchQuery
