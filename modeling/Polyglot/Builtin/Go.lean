import Polyglot.Profile.Basic

/-!
# `Polyglot.Builtin.Go`: the profile of Go
-/

set_option autoImplicit false

namespace Polyglot.Builtin

/-- The profile of Go. -/
def go : Profile where
  name := "go"
  displayName := "Go"
  fileExtensions := [".go"]
  mimeTypes := ["text/x-go"]
  lexer := {
    charClasses := .ofList [
      ("identStart", .union [.predefined .letter, .chars "_"]),
      ("identPart", .union [.predefined .alphanumeric, .chars "_"])]
    tokenTypes := .ofList [
      ("whitespace", .whitespace), ("newline", .newline), ("comment", .comment),
      ("string", .string), ("number", .number), ("keyword", .keyword), ("constant", .constant),
      ("identifier", .identifier), ("operator", .operator), ("punctuation", .punctuation),
      ("type", .type)]
    states := .ofList [
      ("default", [
        { matcher := .charSequence (.predefined .whitespace) (some (.predefined .whitespace))
          token := "whitespace" },
        { matcher := .charSequence (.predefined .newline) (some (.predefined .newline))
          token := "newline" },
        { matcher := .line "//", token := "comment" },
        { matcher := .delimited { opening := "/*", closing := "*/", multiline := true }
          token := "comment" },
        { matcher := .delimited { opening := "`", closing := "`", multiline := true }
          token := "string" },
        { matcher := .delimited { opening := "\"", closing := "\"", escape := some '\\' }
          token := "string" },
        { matcher := .delimited { opening := "'", closing := "'", escape := some '\\' }
          token := "string" },
        { matcher := .number {
            hex := true
            octal := true
            binary := true
            float := true
            scientific := true
            separator := some '_'
            suffixes := ["i"] }
          token := "number" },
        { matcher := .keywords [
            "break", "case", "chan", "const", "continue", "default", "defer", "else",
            "fallthrough", "for", "func", "go", "goto", "if", "import", "interface", "map",
            "package", "range", "return", "select", "struct", "switch", "type", "var"]
          token := "keyword" },
        { matcher := .keywords [
            "any", "bool", "byte", "complex64", "complex128", "error", "float32", "float64",
            "int", "int8", "int16", "int32", "int64", "rune", "string", "uint", "uint8",
            "uint16", "uint32", "uint64", "uintptr"]
          token := "type" },
        { matcher := .keywords ["true", "false", "nil", "iota"], token := "constant" },
        { matcher := .charSequence (.ref "identStart") (some (.ref "identPart"))
          token := "identifier" },
        { matcher := .literal (.many [
            "<<=", ">>=", "&^=", "...", ":=", "<-", "&^", "++", "--", "==", "!=", "<=", ">=",
            "&&", "||", "+=", "-=", "*=", "/=", "%=", "&=", "|=", "^=", "<<", ">>", "+", "-",
            "*", "/", "%", "&", "|", "^", "!", "~", "=", "<", ">"])
          token := "operator" },
        { matcher := .literal (.many ["(", ")", "[", "]", "\x7b", "\x7d", ";", ",", ".", ":"])
          token := "punctuation" }])]
    skipTokens := some ["whitespace", "newline", "comment"]
    indentation := some { tabWidth := 4 } }
  structure? := some {
    blocks := [
      { name := "braces", opening := "\x7b", closing := "\x7d" },
      { name := "parens", opening := "(", closing := ")" },
      { name := "brackets", opening := "[", closing := "]" }]
    symbols := [
      { name := "method"
        kind := "method"
        pattern := [
          .token { type := "keyword", value := some "func" },
          .token { type := "punctuation", value := some "(" },
          .skip (some 7),
          .token { type := "punctuation", value := some ")" },
          .token { type := "identifier", capture := some "name" }]
        hasBody := true },
      { name := "function"
        kind := "function"
        pattern := [
          .token { type := "keyword", value := some "func" },
          .token { type := "identifier", capture := some "name" }]
        hasBody := true },
      { name := "struct"
        kind := "struct"
        pattern := [
          .token { type := "keyword", value := some "type" },
          .token { type := "identifier", capture := some "name" },
          .token { type := "keyword", value := some "struct" }]
        hasBody := true },
      { name := "interface"
        kind := "interface"
        pattern := [
          .token { type := "keyword", value := some "type" },
          .token { type := "identifier", capture := some "name" },
          .token { type := "keyword", value := some "interface" }]
        hasBody := true },
      { name := "type"
        kind := "type"
        pattern := [
          .token { type := "keyword", value := some "type" },
          .token { type := "identifier", capture := some "name" }] },
      { name := "constant"
        kind := "constant"
        pattern := [
          .token { type := "keyword", value := some "const" },
          .token { type := "identifier", capture := some "name" }] },
      { name := "variable"
        kind := "variable"
        pattern := [
          .token { type := "keyword", value := some "var" },
          .token { type := "identifier", capture := some "name" }] }]
    folding := some { blocks := ["braces", "brackets"], comments := true } }

end Polyglot.Builtin
