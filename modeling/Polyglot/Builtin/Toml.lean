import Polyglot.Profile.Basic

/-!
# `Polyglot.Builtin.Toml`: the profile of TOML
-/

set_option autoImplicit false

namespace Polyglot.Builtin

/-- The profile of TOML. -/
def toml : Profile where
  name := "toml"
  displayName := "TOML"
  fileExtensions := [".toml"]
  mimeTypes := ["application/toml"]
  lexer := {
    tokenTypes := .ofList [
      ("whitespace", .whitespace), ("newline", .newline), ("comment", .comment),
      ("string", .string), ("number", .number), ("keyword", .keyword), ("constant", .constant),
      ("identifier", .identifier), ("operator", .operator), ("punctuation", .punctuation),
      ("table", .tag), ("key", .attribute), ("datetime", .constant)]
    states := .ofList [
      ("default", [
        { matcher := .charSequence (.predefined .whitespace) (some (.predefined .whitespace))
          token := "whitespace" },
        { matcher := .line "#", token := "comment" },
        { matcher := .charSequence (.predefined .newline) (some (.predefined .newline))
          token := "newline" },
        { matcher := .pattern "\\[\\[?[^\\]\\r\\n]*\\]\\]?", token := "table" },
        { matcher := .delimited { opening := "\"", closing := "\"", escape := some '\\' }
          token := "key" },
        { matcher := .delimited { opening := "'", closing := "'" }, token := "key" },
        { matcher := .pattern "[A-Za-z0-9_\\-]+", token := "key" },
        { matcher := .literal (.one "."), token := "punctuation" },
        { matcher := .literal (.one "="), token := "operator", switchTo := some "value" }]),
      ("value", [
        { matcher := .charSequence (.predefined .whitespace) (some (.predefined .whitespace))
          token := "whitespace" },
        { matcher := .line "#", token := "comment" },
        { matcher := .charSequence (.predefined .newline) (some (.predefined .newline))
          token := "newline"
          switchTo := some "default" },
        { matcher := .delimited {
            opening := "\"\"\""
            closing := "\"\"\""
            escape := some '\\'
            multiline := true }
          token := "string" },
        { matcher := .delimited { opening := "'''", closing := "'''", multiline := true }
          token := "string" },
        { matcher := .delimited { opening := "\"", closing := "\"", escape := some '\\' }
          token := "string" },
        { matcher := .delimited { opening := "'", closing := "'" }, token := "string" },
        { matcher := .pattern
            "[0-9]\x7b4\x7d-[0-9]\x7b2\x7d-[0-9]\x7b2\x7d(?:[Tt ][0-9]\x7b2\x7d:[0-9]\x7b2\x7d(?::[0-9]\x7b2\x7d(?:\\.[0-9]+)?)?(?:[Zz]|[+\\-][0-9]\x7b2\x7d:[0-9]\x7b2\x7d)?)?|[0-9]\x7b2\x7d:[0-9]\x7b2\x7d:[0-9]\x7b2\x7d(?:\\.[0-9]+)?"
          token := "datetime" },
        { matcher := .number {
            hex := true
            octal := true
            binary := true
            float := true
            scientific := true
            separator := some '_' }
          token := "number" },
        { matcher := .keywords ["true", "false", "inf", "nan"], token := "constant" },
        { matcher := .literal (.many ["+", "-"]), token := "operator" },
        { matcher := .literal (.one "["), token := "punctuation", push := some "array" },
        { matcher := .literal (.one "\x7b"), token := "punctuation", push := some "inline" },
        { matcher := .literal (.one ","), token := "punctuation" }]),
      ("array", [
        { matcher := .charSequence (.predefined .whitespace) (some (.predefined .whitespace))
          token := "whitespace" },
        { matcher := .line "#", token := "comment" },
        { matcher := .charSequence (.predefined .newline) (some (.predefined .newline))
          token := "newline" },
        { matcher := .delimited {
            opening := "\"\"\""
            closing := "\"\"\""
            escape := some '\\'
            multiline := true }
          token := "string" },
        { matcher := .delimited { opening := "'''", closing := "'''", multiline := true }
          token := "string" },
        { matcher := .delimited { opening := "\"", closing := "\"", escape := some '\\' }
          token := "string" },
        { matcher := .delimited { opening := "'", closing := "'" }, token := "string" },
        { matcher := .pattern
            "[0-9]\x7b4\x7d-[0-9]\x7b2\x7d-[0-9]\x7b2\x7d(?:[Tt ][0-9]\x7b2\x7d:[0-9]\x7b2\x7d(?::[0-9]\x7b2\x7d(?:\\.[0-9]+)?)?(?:[Zz]|[+\\-][0-9]\x7b2\x7d:[0-9]\x7b2\x7d)?)?|[0-9]\x7b2\x7d:[0-9]\x7b2\x7d:[0-9]\x7b2\x7d(?:\\.[0-9]+)?"
          token := "datetime" },
        { matcher := .number {
            hex := true
            octal := true
            binary := true
            float := true
            scientific := true
            separator := some '_' }
          token := "number" },
        { matcher := .keywords ["true", "false", "inf", "nan"], token := "constant" },
        { matcher := .literal (.many ["+", "-"]), token := "operator" },
        { matcher := .literal (.one "]"), token := "punctuation", pop := true },
        { matcher := .literal (.one "["), token := "punctuation", push := some "array" },
        { matcher := .literal (.one "\x7b"), token := "punctuation", push := some "inline" },
        { matcher := .literal (.one ","), token := "punctuation" }]),
      ("inline", [
        { matcher := .charSequence (.predefined .whitespace) (some (.predefined .whitespace))
          token := "whitespace" },
        { matcher := .line "#", token := "comment" },
        { matcher := .charSequence (.predefined .newline) (some (.predefined .newline))
          token := "newline" },
        { matcher := .delimited {
            opening := "\"\"\""
            closing := "\"\"\""
            escape := some '\\'
            multiline := true }
          token := "string" },
        { matcher := .delimited { opening := "'''", closing := "'''", multiline := true }
          token := "string" },
        { matcher := .delimited { opening := "\"", closing := "\"", escape := some '\\' }
          token := "string" },
        { matcher := .delimited { opening := "'", closing := "'" }, token := "string" },
        { matcher := .pattern
            "[0-9]\x7b4\x7d-[0-9]\x7b2\x7d-[0-9]\x7b2\x7d(?:[Tt ][0-9]\x7b2\x7d:[0-9]\x7b2\x7d(?::[0-9]\x7b2\x7d(?:\\.[0-9]+)?)?(?:[Zz]|[+\\-][0-9]\x7b2\x7d:[0-9]\x7b2\x7d)?)?|[0-9]\x7b2\x7d:[0-9]\x7b2\x7d:[0-9]\x7b2\x7d(?:\\.[0-9]+)?"
          token := "datetime" },
        { matcher := .number {
            hex := true
            octal := true
            binary := true
            float := true
            scientific := true
            separator := some '_' }
          token := "number" },
        { matcher := .keywords ["true", "false", "inf", "nan"], token := "constant" },
        { matcher := .literal (.many ["+", "-"]), token := "operator" },
        { matcher := .pattern "[A-Za-z_][A-Za-z0-9_\\-]*", token := "key" },
        { matcher := .literal (.one "\x7d"), token := "punctuation", pop := true },
        { matcher := .literal (.one "["), token := "punctuation", push := some "array" },
        { matcher := .literal (.one "\x7b"), token := "punctuation", push := some "inline" },
        { matcher := .literal (.many [",", "."]), token := "punctuation" },
        { matcher := .literal (.one "="), token := "operator" }])]
    skipTokens := some ["whitespace", "newline", "comment"] }
  structure? := some {
    blocks := [
      { name := "brackets", opening := "[", closing := "]" },
      { name := "braces", opening := "\x7b", closing := "\x7d" }]
    symbols := [
      { name := "table"
        kind := "namespace"
        pattern := [.token { type := "table", capture := some "name" }] }]
    folding := some { comments := true } }

end Polyglot.Builtin
