import Polyglot.Profile.Basic

/-!
# `Polyglot.Builtin.Java`: the profile of Java
-/

set_option autoImplicit false

namespace Polyglot.Builtin

/-- The profile of Java. -/
def java : Profile where
  name := "java"
  displayName := "Java"
  fileExtensions := [".java"]
  mimeTypes := ["text/x-java"]
  lexer := {
    charClasses := .ofList [
      ("identStart", .union [.predefined .letter, .chars "_$"]),
      ("identPart", .union [.predefined .alphanumeric, .chars "_$"])]
    tokenTypes := .ofList [
      ("whitespace", .whitespace), ("newline", .newline), ("comment", .comment),
      ("string", .string), ("number", .number), ("keyword", .keyword), ("constant", .constant),
      ("identifier", .identifier), ("operator", .operator), ("punctuation", .punctuation),
      ("type", .type), ("decorator", .decorator)]
    states := .ofList [
      ("default", [
        { matcher := .charSequence (.predefined .whitespace) (some (.predefined .whitespace))
          token := "whitespace" },
        { matcher := .charSequence (.predefined .newline) (some (.predefined .newline))
          token := "newline" },
        { matcher := .line "//", token := "comment" },
        { matcher := .delimited { opening := "/*", closing := "*/", multiline := true }
          token := "comment" },
        { matcher := .delimited {
            opening := "\"\"\""
            closing := "\"\"\""
            escape := some '\\'
            multiline := true }
          token := "string" },
        { matcher := .delimited { opening := "\"", closing := "\"", escape := some '\\' }
          token := "string" },
        { matcher := .delimited { opening := "'", closing := "'", escape := some '\\' }
          token := "string" },
        { matcher := .sequence [
            .literal (.one "@"),
            .charSequence (.ref "identStart") (some (.ref "identPart"))]
          token := "decorator" },
        { matcher := .number {
            hex := true
            binary := true
            float := true
            scientific := true
            separator := some '_'
            suffixes := ["L", "l", "f", "F", "d", "D", "m", "M", "u", "U", "UL", "ul", "uL"] }
          token := "number" },
        { matcher := .keywords [
            "abstract", "assert", "break", "case", "catch", "class", "const", "continue",
            "default", "do", "else", "enum", "extends", "final", "finally", "for", "goto", "if",
            "implements", "import", "instanceof", "interface", "native", "new", "package",
            "permits", "private", "protected", "public", "record", "return", "sealed", "static",
            "strictfp", "super", "switch", "synchronized", "this", "throw", "throws",
            "transient", "try", "var", "volatile", "while", "yield"]
          token := "keyword" },
        { matcher := .keywords [
            "boolean", "byte", "char", "double", "float", "int", "long", "short", "void"]
          token := "type" },
        { matcher := .keywords ["true", "false", "null"], token := "constant" },
        { matcher := .charSequence (.ref "identStart") (some (.ref "identPart"))
          token := "identifier" },
        { matcher := .literal (.many [
            ">>>=", "<<=", ">>=", ">>>", "->", "::", "++", "--", "==", "!=", "<=", ">=", "&&",
            "||", "+=", "-=", "*=", "/=", "%=", "&=", "|=", "^=", "<<", ">>", "+", "-", "*", "/",
            "%", "&", "|", "^", "!", "~", "=", "<", ">", "?", ":", "..."])
          token := "operator" },
        { matcher := .literal (.many ["(", ")", "[", "]", "\x7b", "\x7d", ";", ",", ".", "@"])
          token := "punctuation" }])]
    skipTokens := some ["whitespace", "newline", "comment"] }
  structure? := some {
    blocks := [
      { name := "braces", opening := "\x7b", closing := "\x7d" },
      { name := "parens", opening := "(", closing := ")" },
      { name := "brackets", opening := "[", closing := "]" }]
    symbols := [
      { name := "class"
        kind := "class"
        pattern := [
          .token { type := "keyword", value := some "class" },
          .token { type := "identifier", capture := some "name" }]
        hasBody := true },
      { name := "interface"
        kind := "interface"
        pattern := [
          .token { type := "keyword", value := some "interface" },
          .token { type := "identifier", capture := some "name" }]
        hasBody := true },
      { name := "enum"
        kind := "enum"
        pattern := [
          .token { type := "keyword", value := some "enum" },
          .token { type := "identifier", capture := some "name" }]
        hasBody := true },
      { name := "record"
        kind := "class"
        pattern := [
          .token { type := "keyword", value := some "record" },
          .token { type := "identifier", capture := some "name" }]
        hasBody := true },
      { name := "method"
        kind := "method"
        pattern := [
          .anyOf [{ type := "type" }, { type := "identifier" }],
          .token { type := "identifier", capture := some "name" },
          .token { type := "punctuation", value := some "(" }]
        hasBody := true }]
    folding := some { blocks := ["braces", "brackets"], comments := true } }

end Polyglot.Builtin
