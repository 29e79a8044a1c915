import LinkedSelect.Text.Percent

/-!
# Requests for options

A `Request` asks an endpoint for the options that belong to a parent. Its `target` is the endpoint with one more query
component, `param=value`, the value percent-encoded.
-/

namespace LinkedSelect

/-- Asks for the options of a field, filtered by the id of a parent. -/
structure Request where
  /-- the endpoint of the field, which may have a query already -/
  endpoint : String
  /-- the name of the filter -/
  param : String
  /-- the id of the parent -/
  value : String
  deriving DecidableEq, Repr

namespace Request

/-- What joins a filter to an endpoint: `&` if the endpoint has a question mark, else `?`. -/
def separator (endpoint : String) : Char :=
  if '?' ∈ endpoint.toList then '&' else '?'

/-- The endpoint with the filter appended. -/
def target (r : Request) : String :=
  r.endpoint ++ String.singleton (separator r.endpoint) ++ r.param ++ "=" ++ Percent.encode r.value

/-- The filter as it was given, not encoded. -/
def key (r : Request) : String :=
  r.param ++ "=" ++ r.value

end Request

end LinkedSelect
