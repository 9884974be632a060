import Polyglot.Profile.Basic

/-!
# `Polyglot.Builtin.JsonData`: the profile of JSON
-/

set_option autoImplicit false

namespace Polyglot.Builtin

/-- The profile of JSON. -/
def json : Profile where
  name := "json"
  displayName := "JSON"
  fileExtensions := [".json", ".jsonc", ".json5", ".geojson"]
  mimeTypes := ["application/json"]
  lexer := {
    tokenTypes := .ofList [
      ("whitespace", .whitespace), ("newline", .newline), ("comment", .comment),
      ("string", .string), ("number", .number), ("keyword", .keyword), ("constant", .constant),
      ("identifier", .identifier), ("operator", .operator), ("punctuation", .punctuation)]
    states := .ofList [
      ("default", [
        { matcher := .charSequence (.predefined .whitespace) (some (.predefined .whitespace))
          token := "whitespace" },
        { matcher := .charSequence (.predefined .newline) (some (.predefined .newline))
          token := "newline" },
        { matcher := .line "//", token := "comment" },
        { matcher := .delimited { opening := "/*", closing := "*/", multiline := true }
          token := "comment" },
        { matcher := .delimited { opening := "\"", closing := "\"", escape := some '\\' }
          token := "string" },
        { matcher := .pattern "-?(?:0|[1-9][0-9]*)(?:\\.[0-9]+)?(?:[eE][+-]?[0-9]+)?"
          token := "number" },
        { matcher := .keywords ["true", "false", "null"], token := "constant" },
        { matcher := .literal (.many ["\x7b", "\x7d", "[", "]", ":", ","])
          token := "punctuation" }])]
    skipTokens := some ["whitespace", "newline", "comment"] }
  structure? := some {
    blocks := [
      { name := "braces", opening := "\x7b", closing := "\x7d" },
      { name := "brackets", opening := "[", closing := "]" }]
    folding := some { blocks := ["braces", "brackets"] } }

end Polyglot.Builtin
