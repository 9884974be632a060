import Polyglot.Profile.Basic

/-!
# `Polyglot.Builtin.Yaml`: the profile of YAML
-/

set_option autoImplicit false

namespace Polyglot.Builtin

/-- The profile of YAML. -/
def yaml : Profile where
  name := "yaml"
  displayName := "YAML"
  fileExtensions := [".yaml", ".yml"]
  mimeTypes := ["application/yaml", "text/yaml"]
  lexer := {
    tokenTypes := .ofList [
      ("whitespace", .whitespace), ("newline", .newline), ("comment", .comment),
      ("string", .string), ("number", .number), ("constant", .constant), ("key", .attribute),
      ("scalar", .plain), ("anchor", .variableName), ("tag", .type), ("marker", .directive),
      ("directive", .directive), ("punctuation", .punctuation)]
    states := .ofList [
      ("default", [
        { matcher := .charSequence (.predefined .whitespace) (some (.predefined .whitespace))
          token := "whitespace" },
        { matcher := .charSequence (.predefined .newline) (some (.predefined .newline))
          token := "newline" },
        { matcher := .line "#", token := "comment" },
        { matcher := .line "%", token := "directive" },
        { matcher := .pattern "(?:---|\\.\\.\\.)", token := "marker" },
        { matcher := .delimited {
            opening := "\""
            closing := "\""
            escape := some '\\'
            multiline := true }
          token := "string" },
        { matcher := .pattern "'(?:[^']|'')*'", token := "string" },
        { matcher := .pattern "[A-Za-z_][\\w.\\-]*(?:[ \\t]+[A-Za-z_][\\w.\\-]*)*[ \\t]*:"
          token := "key" },
        { matcher := .pattern "[&*][\\w\\-]+", token := "anchor" },
        { matcher := .pattern "!!?[\\w\\-/:.]*", token := "tag" },
        { matcher := .keywords [
            "true", "false", "True", "False", "TRUE", "FALSE", "null", "Null", "NULL", "yes",
            "no", "on", "off", "~"]
          token := "constant" },
        { matcher := .number { hex := true, octal := true, float := true, scientific := true }
          token := "number" },
        { matcher := .pattern "[|>][+\\-]?[0-9]?", token := "punctuation" },
        { matcher := .literal (.many ["-", "?", ":", ",", "[", "]", "\x7b", "\x7d"])
          token := "punctuation" },
        { matcher := .pattern "[^\\s#,\\[\\]\x7b\x7d:][^\\r\\n#,\\[\\]\x7b\x7d:]*"
          token := "scalar" }])]
    skipTokens := some ["whitespace", "newline", "comment"]
    indentation := some { tabWidth := 2 } }
  structure? := some {
    blocks := [
      { name := "braces", opening := "\x7b", closing := "\x7d" },
      { name := "brackets", opening := "[", closing := "]" }]
    folding := some { blocks := ["braces", "brackets"], comments := true } }

end Polyglot.Builtin
