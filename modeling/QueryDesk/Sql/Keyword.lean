/-!
# SQL keywords

A word is a keyword if it reads the same as a keyword in capitals. Capitals are
Unicode's, so a few letters outside ASCII count as the ASCII letters that they
turn into: a dotless i, a long s, a sharp s and the Latin ligatures.
-/
namespace QueryDesk.Sql

def keywords : List String :=
  ["SELECT", "FROM", "WHERE", "JOIN", "INNER", "LEFT", "RIGHT", "OUTER", "FULL", "CROSS", "ON",
    "AS", "AND", "OR", "NOT", "IN", "EXISTS", "BETWEEN", "LIKE", "ILIKE", "IS", "NULL", "TRUE",
    "FALSE", "GROUP", "BY", "HAVING", "ORDER", "ASC", "DESC", "LIMIT", "OFFSET", "INSERT", "INTO",
    "VALUES", "UPDATE", "SET", "DELETE", "CREATE", "TABLE", "ALTER", "DROP", "TRUNCATE", "INDEX",
    "VIEW", "WITH", "CASE", "WHEN", "THEN", "ELSE", "END", "DISTINCT", "UNION", "ALL",
    "INTERSECT", "EXCEPT", "CAST", "SAMPLE", "LATEST", "PARTITION", "TIMESTAMP", "FILL", "ALIGN",
    "CALENDAR", "SPLICE", "ASOF", "LT", "SHOW", "COLUMNS", "TABLES"]

/-- The capitals of a character as far as they are ASCII letters. A character whose capitals hold any
other letter stands for itself, and no keyword holds it. -/
def capitals (c : Char) : List Char :=
  match c with
  | 'ß' => ['S', 'S']
  | 'ı' => ['I']
  | 'ſ' => ['S']
  | 'ﬀ' => ['F', 'F']
  | 'ﬁ' => ['F', 'I']
  | 'ﬂ' => ['F', 'L']
  | 'ﬃ' => ['F', 'F', 'I']
  | 'ﬄ' => ['F', 'F', 'L']
  | 'ﬅ' => ['S', 'T']
  | 'ﬆ' => ['S', 'T']
  | c => [c.toUpper]

def isKeyword (word : List Char) : Bool :=
  keywords.contains (String.ofList (word.flatMap capitals))

end QueryDesk.Sql
