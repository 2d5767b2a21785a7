/-
This file names the rules of the grammar and the parts that each of them is made of.
-/

namespace AnnotatedSql.Grammar

inductive Rule
  | parameterMarker | literals | identifier | schemaName | tableName | columnName
  | tableNames | columnNames
  | expr | booleanPrimary | predicate | bitExpr | simpleExpr
  | functionCall | aggregationFunction | specialFunction | castFunction | regularFunction
  | dataTypeName | orderByClause | orderByItem | subquery | select
deriving DecidableEq, Repr

namespace Rule

def all : List Rule :=
  [.parameterMarker, .literals, .identifier, .schemaName, .tableName, .columnName,
   .tableNames, .columnNames,
   .expr, .booleanPrimary, .predicate, .bitExpr, .simpleExpr,
   .functionCall, .aggregationFunction, .specialFunction, .castFunction, .regularFunction,
   .dataTypeName, .orderByClause, .orderByItem, .subquery, .select]

/-- The name of the rule in messages. -/
def name : Rule → String
  | .parameterMarker => "parameterMarker"
  | .literals => "literals"
  | .identifier => "identifier"
  | .schemaName => "schemaName"
  | .tableName => "tableName"
  | .columnName => "columnName"
  | .tableNames => "tableNames"
  | .columnNames => "columnNames"
  | .expr => "expr"
  | .booleanPrimary => "booleanPrimary"
  | .predicate => "predicate"
  | .bitExpr => "bitExpr"
  | .simpleExpr => "simpleExpr"
  | .functionCall => "functionCall"
  | .aggregationFunction => "aggregationFunction"
  | .specialFunction => "specialFunction"
  | .castFunction => "castFunction"
  | .regularFunction => "regularFunction"
  | .dataTypeName => "dataTypeName"
  | .orderByClause => "orderByClause"
  | .orderByItem => "orderByItem"
  | .subquery => "subquery"
  | .select => "select"

/-- The parts that are looked for under the rule, in the order of their priority. -/
def slots : Rule → List String
  | .parameterMarker | .dataTypeName => []
  | .literals =>
      ["stringLiterals", "numberLiterals", "hexadecimalLiterals", "bitValueLiterals",
       "booleanLiterals", "nullValueLiterals"]
  | .identifier => ["unreservedWord"]
  | .schemaName => ["identifier"]
  | .tableName | .columnName => ["owner", "name"]
  | .tableNames => ["tableName"]
  | .columnNames => ["columnName"]
  | .expr => ["booleanPrimary", "logicalOperator", "expr"]
  | .booleanPrimary => ["subquery", "comparisonOperator", "predicate"]
  | .predicate =>
      ["subquery", "IN", "BETWEEN", "NOT", "bitExpr", "expr", "simpleExpr", "predicate"]
  | .bitExpr => ["simpleExpr", "bitExpr"]
  | .simpleExpr => ["subquery", "parameterMarker", "literals", "functionCall", "columnName"]
  | .functionCall => ["aggregationFunction", "specialFunction", "regularFunction"]
  | .aggregationFunction => ["aggregationFunctionName", "distinct", "expr"]
  | .specialFunction => ["castFunction"]
  | .castFunction => ["expr", "dataType"]
  | .regularFunction => ["expr"]
  | .orderByClause => ["orderByItem"]
  | .orderByItem => ["columnName", "numberLiterals", "expr", "DESC"]
  | .subquery => ["select"]
  | .select =>
      ["projections", "tableNames", "whereClause", "groupByClause", "havingClause",
       "orderByClause"]

/-- The parts of the rule in one line. -/
def slotList (rule : Rule) : String := ", ".intercalate rule.slots

end Rule

end AnnotatedSql.Grammar
