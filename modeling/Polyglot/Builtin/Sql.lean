import Polyglot.Profile.Basic

/-!
# `Polyglot.Builtin.Sql`: the profile of SQL
-/

set_option autoImplicit false

namespace Polyglot.Builtin

/-- The profile of SQL. -/
def sql : Profile where
  name := "sql"
  displayName := "SQL"
  fileExtensions := [".sql", ".ddl", ".dml"]
  mimeTypes := ["application/sql"]
  lexer := {
    charClasses := .ofList [
      ("identStart", .union [.predefined .letter, .chars "_"]),
      ("identPart", .union [.predefined .alphanumeric, .chars "_"])]
    tokenTypes := .ofList [
      ("whitespace", .whitespace), ("newline", .newline), ("comment", .comment),
      ("string", .string), ("number", .number), ("keyword", .keyword), ("constant", .constant),
      ("identifier", .identifier), ("operator", .operator), ("punctuation", .punctuation),
      ("type", .type), ("variable", .variableName)]
    states := .ofList [
      ("default", [
        { matcher := .charSequence (.predefined .whitespace) (some (.predefined .whitespace))
          token := "whitespace" },
        { matcher := .charSequence (.predefined .newline) (some (.predefined .newline))
          token := "newline" },
        { matcher := .line "--", token := "comment" },
        { matcher := .delimited { opening := "/*", closing := "*/", multiline := true }
          token := "comment" },
        { matcher := .pattern "'(?:[^']|'')*'", token := "string" },
        { matcher := .delimited { opening := "\"", closing := "\"" }, token := "identifier" },
        { matcher := .delimited { opening := "`", closing := "`" }, token := "identifier" },
        { matcher := .delimited { opening := "[", closing := "]" }, token := "identifier" },
        { matcher := .number { hex := true, float := true, scientific := true }
          token := "number" },
        { matcher := .pattern "[@:$][A-Za-z_0-9][A-Za-z0-9_]*|\\?", token := "variable" },
        { matcher := .pattern "(?i:true|false)\\b", token := "constant" },
        { matcher := .pattern
            "(?i:bigint|binary|blob|boolean|bool|char|date|datetime|decimal|double|float|integer|int|json|numeric|real|smallint|text|timestamp|time|uuid|varchar)\\b"
          token := "type" },
        { matcher := .pattern
            "(?i:add|all|alter|and|any|as|asc|begin|between|by|case|cascade|check|column|commit|constraint|create|cross|database|default|delete|desc|distinct|drop|else|end|exists|foreign|from|full|function|group|having|if|in|index|inner|insert|intersect|into|is|join|key|left|like|limit|not|null|offset|on|or|order|outer|primary|procedure|references|replace|returning|right|rollback|schema|select|set|table|then|transaction|trigger|union|unique|update|values|view|when|where|with)\\b"
          token := "keyword" },
        { matcher := .charSequence (.ref "identStart") (some (.ref "identPart"))
          token := "identifier" },
        { matcher := .literal (.many [
            "<>", "!=", "<=", ">=", "||", "::", "=", "<", ">", "+", "-", "*", "/", "%"])
          token := "operator" },
        { matcher := .literal (.many ["(", ")", ",", ";", "."]), token := "punctuation" }])]
    skipTokens := some ["whitespace", "newline", "comment"] }
  structure? := some {
    blocks := [{ name := "parens", opening := "(", closing := ")" }]
    symbols := [
      { name := "create"
        kind := "table"
        pattern := [
          .anyOf [
            { type := "keyword", value := some "CREATE" },
            { type := "keyword", value := some "create" },
            { type := "keyword", value := some "Create" }],
          .skip (some 6),
          .token { type := "identifier", capture := some "name" }] }]
    folding := some { blocks := ["parens"], comments := true } }

end Polyglot.Builtin
