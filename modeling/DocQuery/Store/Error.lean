/-!
# Errors of a store

Why a store refuses a query.  A fault of a filter, a pipeline or a seed is a cause of its own; its
wording is given once, by `QueryFault.message`.
-/

namespace DocQuery

/-- What is wrong with a query or with the data given to a store. -/
inductive QueryFault where
  /-- A fault that is known only by its text. -/
  | described (text : String)
  | unknownTopLevelOperator (key : String)
  | unknownOperator (op path : String)
  | needsNonEmptyArray (key : String)
  | entriesNotObjects (key : String)
  | regexNeedsString (path : String)
  /-- The engine of regular expressions refused a pattern with this remark. -/
  | invalidRegex (pattern remark : String)
  | sizeNeedsNatural (path : String)
  | elemMatchNeedsObject (path : String)
  | needsArray (op path : String)
  | textNeedsObject
  | textNeedsSearch
  | stageNeedsOneKey
  | stageNeedsObject (stage : String)
  | sortDirection (field : String)
  | stageNeedsCount (stage : String)
  | countNeedsField
  | seedNotObject
  | seedNotArray (collection : String)
  | seedNotDocuments (collection : String)
  | invalidCollectionName (name : String)
  | invalidPath (path : String)
  | textBelowTopLevel
  /-- An operator that a relational store does not know. -/
  | unsupportedOperator (op : String)
  | operandNotString (op : String)
  | operandNotNatural (op : String)
  | operandNotArray (op : String)
  | operandNotObject (op : String)
  /-- A key that may not stand in the filter on an element. -/
  | keyInElement (key : String)
deriving DecidableEq

/-- The text of a fault. -/
def QueryFault.message : QueryFault → String
  | .described text => text
  | .unknownTopLevelOperator key => s!"unknown top-level operator '{key}'"
  | .unknownOperator op path => s!"unknown operator '{op}' on '{path}'"
  | .needsNonEmptyArray key => s!"{key} expects a non-empty array"
  | .entriesNotObjects key => s!"{key} entries must be objects"
  | .regexNeedsString path => s!"$regex on '{path}' expects a string"
  | .invalidRegex pattern remark => s!"invalid regex '{pattern}'{remark}"
  | .sizeNeedsNatural path => s!"$size on '{path}' expects a non-negative integer"
  | .elemMatchNeedsObject path => s!"$elemMatch on '{path}' expects an object"
  | .needsArray op path => s!"{op} on '{path}' expects an array"
  | .textNeedsObject => "$text expects an object"
  | .textNeedsSearch => "$text requires a $search string"
  | .stageNeedsOneKey => "pipeline stages must have exactly one key"
  | .stageNeedsObject stage => s!"{stage} expects an object"
  | .sortDirection field => s!"$sort direction for '{field}' must be 1 or -1"
  | .stageNeedsCount stage => s!"{stage} expects a count"
  | .countNeedsField => "$count expects a field name"
  | .seedNotObject => "seed data must be an object of collections"
  | .seedNotArray collection => s!"seed collection '{collection}' must be an array"
  | .seedNotDocuments collection => s!"seed collection '{collection}' contains a non-object document"
  | .invalidCollectionName name => s!"invalid collection name '{name}'"
  | .invalidPath path => s!"invalid field path '{path}'"
  | .textBelowTopLevel => "$text is only allowed at the top level of a filter"
  | .unsupportedOperator op => s!"unknown operator '{op}'"
  | .operandNotString op => s!"{op} expects a string"
  | .operandNotNatural op => s!"{op} expects a non-negative integer"
  | .operandNotArray op => s!"{op} expects an array"
  | .operandNotObject op => s!"{op} expects an object"
  | .keyInElement key => s!"'{key}' is not supported inside $elemMatch"

/-- Why a store refuses a query. -/
inductive StoreError where
  | invalidQuery (fault : QueryFault)
  /-- Something that this kind of store does not offer. -/
  | unsupported (what : String)
  /-- The database behind the store failed. -/
  | database
deriving DecidableEq

/-- The text of an error. -/
def StoreError.message : StoreError → String
  | .invalidQuery fault => s!"invalid query: {fault.message}"
  | .unsupported what => s!"unsupported by this store: {what}"
  | .database => "database error"

end DocQuery
