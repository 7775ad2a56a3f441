import SqlIndent.Keyword.Basic

/-!
# The built-in keyword set

The marker words of Transact-SQL, in force where a configuration gives no lists of its own.
-/

namespace SqlIndent

/-- The built-in general keywords. -/
def builtinKeywords : List String :=
  ["ADD", "ALL", "ALTER", "AND", "ANY", "AS", "ASC", "BEGIN", "BETWEEN", "BREAK", "BY", "CASE",
   "CATCH", "CLOSE", "COMMIT", "CONTINUE", "CREATE", "CROSS", "CURSOR", "DECLARE", "DEFAULT",
   "DELETE", "DESC", "DISTINCT", "DROP", "ELSE", "END", "EXEC", "EXECUTE", "EXISTS", "FETCH",
   "FROM", "FULL", "FUNCTION", "GO", "GROUP", "HAVING", "IF", "IN", "INDEX", "INNER", "INSERT",
   "INTO", "IS", "JOIN", "LEFT", "LIKE", "MERGE", "NOT", "NULL", "ON", "OPEN", "OR", "ORDER",
   "OUTER", "PRINT", "PROCEDURE", "RETURN", "RIGHT", "ROLLBACK", "SELECT", "SET", "TABLE", "THEN",
   "TOP", "TRAN", "TRANSACTION", "TRY", "UNION", "UPDATE", "VALUES", "VIEW", "WHEN", "WHERE",
   "WHILE", "WITH"]

/-- The built-in words that open a block. -/
def builtinIndent : List String :=
  ["BEGIN", "CASE"]

/-- The built-in words that start a new line. -/
def builtinNewline : List String :=
  ["BEGIN", "DECLARE", "DELETE", "ELSE", "EXEC", "GO", "IF", "INSERT", "PRINT", "RETURN", "SET",
   "UPDATE", "WHEN", "WHILE"]

/-- The built-in word lists. -/
def KeywordLists.builtin : KeywordLists where
  keywords := builtinKeywords.map String.toList
  indent := builtinIndent.map String.toList
  newline := builtinNewline.map String.toList

/-- The built-in keyword set. -/
def KeywordSet.builtin : KeywordSet :=
  .ofLists .builtin

end SqlIndent
