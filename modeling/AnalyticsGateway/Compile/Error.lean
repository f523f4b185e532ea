/-!
# Why a request cannot be compiled
-/

namespace AnalyticsGateway

inductive CompileError where
  | unknownDataset (id : String)
  | unknownField (dataset field : String)
  | duplicateField (field : String)
  | unsupportedOperator (operator : String)
  | invalidValue (field reason : String)
  | invalidFilter (reason : String)
  | sortFieldNotSelected (field : String)
  | tooComplex (excess : String)
  | emptyRequest
deriving DecidableEq, Repr

namespace CompileError

def message : CompileError → String
  | unknownDataset id => s!"Unknown dataset '{id}'"
  | unknownField dataset field => s!"Unknown field '{field}' in dataset '{dataset}'"
  | duplicateField field => s!"Field '{field}' is requested more than once"
  | unsupportedOperator operator => s!"Unsupported filter operator '{operator}'"
  | invalidValue field reason => s!"Invalid value for filter on '{field}': {reason}"
  | invalidFilter reason => s!"Invalid filter: {reason}"
  | sortFieldNotSelected field =>
    s!"Sort field '{field}' must be one of the selected dimensions or metrics"
  | tooComplex excess => s!"Query too complex: {excess}"
  | emptyRequest => "Query selects no dimensions and no metrics"

end CompileError

end AnalyticsGateway
