set_option autoImplicit false

namespace SqlOutline

inductive Keyword where
  | ALL | AND | ANY | ARRAY | AS | ASC | ASSERT_ROWS_MODIFIED | AT | BETWEEN | BY | CASE | CAST
  | COLLATE | CONTAINS | CREATE | CROSS | CUBE | CURRENT | DEFAULT | DEFINE | DESC | DISTINCT
  | ELSE | END | ENUM | ESCAPE | EXCEPT | EXCLUDE | EXISTS | EXTRACT | FALSE | FETCH | FOLLOWING
  | FOR | FROM | FULL | GROUP | GROUPING | GROUPS | HASH | HAVING | IF | IGNORE | IN | INNER
  | INTERSECT | INTERVAL | INTO | IS | JOIN | LATERAL | LEFT | LIKE | LIMIT | LOOKUP | MERGE
  | NATURAL | NEW | NO | NOT | NULL | NULLS | OF | ON | OR | ORDER | OUTER | OVER | PARTITION
  | PRECEDING | PRIMARY | PROTO | RANGE | RECURSIVE | RESPECT | RIGHT | ROLLUP | ROWS | SELECT
  | SET | SOME | STRUCT | TABLE | TABLESAMPLE | THEN | TO | TREAT | TRUE | UNBOUNDED | UNION
  | UNNEST | USING | WHEN | WHERE | WINDOW | WITH | WITHIN
deriving DecidableEq

namespace Keyword

def text : Keyword → String
  | .ALL => "ALL"
  | .AND => "AND"
  | .ANY => "ANY"
  | .ARRAY => "ARRAY"
  | .AS => "AS"
  | .ASC => "ASC"
  | .ASSERT_ROWS_MODIFIED => "ASSERT_ROWS_MODIFIED"
  | .AT => "AT"
  | .BETWEEN => "BETWEEN"
  | .BY => "BY"
  | .CASE => "CASE"
  | .CAST => "CAST"
  | .COLLATE => "COLLATE"
  | .CONTAINS => "CONTAINS"
  | .CREATE => "CREATE"
  | .CROSS => "CROSS"
  | .CUBE => "CUBE"
  | .CURRENT => "CURRENT"
  | .DEFAULT => "DEFAULT"
  | .DEFINE => "DEFINE"
  | .DESC => "DESC"
  | .DISTINCT => "DISTINCT"
  | .ELSE => "ELSE"
  | .END => "END"
  | .ENUM => "ENUM"
  | .ESCAPE => "ESCAPE"
  | .EXCEPT => "EXCEPT"
  | .EXCLUDE => "EXCLUDE"
  | .EXISTS => "EXISTS"
  | .EXTRACT => "EXTRACT"
  | .FALSE => "FALSE"
  | .FETCH => "FETCH"
  | .FOLLOWING => "FOLLOWING"
  | .FOR => "FOR"
  | .FROM => "FROM"
  | .FULL => "FULL"
  | .GROUP => "GROUP"
  | .GROUPING => "GROUPING"
  | .GROUPS => "GROUPS"
  | .HASH => "HASH"
  | .HAVING => "HAVING"
  | .IF => "IF"
  | .IGNORE => "IGNORE"
  | .IN => "IN"
  | .INNER => "INNER"
  | .INTERSECT => "INTERSECT"
  | .INTERVAL => "INTERVAL"
  | .INTO => "INTO"
  | .IS => "IS"
  | .JOIN => "JOIN"
  | .LATERAL => "LATERAL"
  | .LEFT => "LEFT"
  | .LIKE => "LIKE"
  | .LIMIT => "LIMIT"
  | .LOOKUP => "LOOKUP"
  | .MERGE => "MERGE"
  | .NATURAL => "NATURAL"
  | .NEW => "NEW"
  | .NO => "NO"
  | .NOT => "NOT"
  | .NULL => "NULL"
  | .NULLS => "NULLS"
  | .OF => "OF"
  | .ON => "ON"
  | .OR => "OR"
  | .ORDER => "ORDER"
  | .OUTER => "OUTER"
  | .OVER => "OVER"
  | .PARTITION => "PARTITION"
  | .PRECEDING => "PRECEDING"
  | .PRIMARY => "PRIMARY"
  | .PROTO => "PROTO"
  | .RANGE => "RANGE"
  | .RECURSIVE => "RECURSIVE"
  | .RESPECT => "RESPECT"
  | .RIGHT => "RIGHT"
  | .ROLLUP => "ROLLUP"
  | .ROWS => "ROWS"
  | .SELECT => "SELECT"
  | .SET => "SET"
  | .SOME => "SOME"
  | .STRUCT => "STRUCT"
  | .TABLE => "TABLE"
  | .TABLESAMPLE => "TABLESAMPLE"
  | .THEN => "THEN"
  | .TO => "TO"
  | .TREAT => "TREAT"
  | .TRUE => "TRUE"
  | .UNBOUNDED => "UNBOUNDED"
  | .UNION => "UNION"
  | .UNNEST => "UNNEST"
  | .USING => "USING"
  | .WHEN => "WHEN"
  | .WHERE => "WHERE"
  | .WINDOW => "WINDOW"
  | .WITH => "WITH"
  | .WITHIN => "WITHIN"

-- Every keyword once, in the order of their spellings when letter case does not count. The
-- underscore comes before the letters.
def all : Array Keyword :=
  #[.ALL, .AND, .ANY, .ARRAY, .AS, .ASC, .ASSERT_ROWS_MODIFIED, .AT, .BETWEEN, .BY, .CASE, .CAST, .COLLATE,
    .CONTAINS, .CREATE, .CROSS, .CUBE, .CURRENT, .DEFAULT, .DEFINE, .DESC, .DISTINCT, .ELSE, .END, .ENUM,
    .ESCAPE, .EXCEPT, .EXCLUDE, .EXISTS, .EXTRACT, .FALSE, .FETCH, .FOLLOWING, .FOR, .FROM, .FULL, .GROUP,
    .GROUPING, .GROUPS, .HASH, .HAVING, .IF, .IGNORE, .IN, .INNER, .INTERSECT, .INTERVAL, .INTO, .IS, .JOIN,
    .LATERAL, .LEFT, .LIKE, .LIMIT, .LOOKUP, .MERGE, .NATURAL, .NEW, .NO, .NOT, .NULL, .NULLS, .OF, .ON, .OR,
    .ORDER, .OUTER, .OVER, .PARTITION, .PRECEDING, .PRIMARY, .PROTO, .RANGE, .RECURSIVE, .RESPECT, .RIGHT,
    .ROLLUP, .ROWS, .SELECT, .SET, .SOME, .STRUCT, .TABLE, .TABLESAMPLE, .THEN, .TO, .TREAT, .TRUE,
    .UNBOUNDED, .UNION, .UNNEST, .USING, .WHEN, .WHERE, .WINDOW, .WITH, .WITHIN]

end Keyword

end SqlOutline
