import Polyglot.Profile.Basic

/-!
# `Polyglot.Builtin.Kotlin`: the profile of Kotlin
-/

set_option autoImplicit false

namespace Polyglot.Builtin

/-- The profile of Kotlin. -/
def kotlin : Profile where
  name := "kotlin"
  displayName := "Kotlin"
  fileExtensions := [".kt", ".kts"]
  mimeTypes := ["text/x-kotlin"]
  lexer := {
    charClasses := .ofList [
      ("identStart", .union [.predefined .letter, .chars "_"]),
      ("identPart", .union [.predefined .alphanumeric, .chars "_"])]
    tokenTypes := .ofList [
      ("whitespace", .whitespace), ("newline", .newline), ("comment", .comment),
      ("string", .string), ("number", .number), ("keyword", .keyword), ("constant", .constant),
      ("identifier", .identifier), ("operator", .operator), ("punctuation", .punctuation),
      ("type", .type), ("decorator", .decorator)]
    states := .ofList [
      ("default", [
        { matcher := .charSequence (.predefined .whitespace) (some (.predefined .whitespace))
          token := "whitespace" },
        { matcher := .charSequence (.predefined .newline) (some (.predefined .newline))
          token := "newline" },
        { matcher := .line "//", token := "comment" },
        { matcher := .delimited { opening := "/*", closing := "*/", multiline := true }
          token := "comment" },
        { matcher := .delimited { opening := "\"\"\"", closing := "\"\"\"", multiline := true }
          token := "string" },
        { matcher := .delimited { opening := "\"", closing := "\"", escape := some '\\' }
          token := "string" },
        { matcher := .delimited { opening := "'", closing := "'", escape := some '\\' }
          token := "string" },
        { matcher := .sequence [
            .literal (.one "@"),
            .charSequence (.ref "identStart") (some (.ref "identPart"))]
          token := "decorator" },
        { matcher := .delimited { opening := "`", closing := "`" }, token := "identifier" },
        { matcher := .number {
            hex := true
            binary := true
            float := true
            scientific := true
            separator := some '_'
            suffixes := ["L", "l", "f", "F", "d", "D", "m", "M", "u", "U", "UL", "ul", "uL"] }
          token := "number" },
        { matcher := .keywords [
            "abstract", "annotation", "as", "break", "by", "catch", "class", "companion",
            "const", "constructor", "continue", "crossinline", "data", "do", "else", "enum",
            "external", "final", "finally", "for", "fun", "if", "import", "in", "infix", "init",
            "inline", "inner", "interface", "internal", "is", "lateinit", "noinline", "object",
            "open", "operator", "out", "override", "package", "private", "protected", "public",
            "reified", "return", "sealed", "super", "suspend", "tailrec", "this", "throw", "try",
            "typealias", "val", "var", "vararg", "when", "where", "while"]
          token := "keyword" },
        { matcher := .keywords [
            "Any", "Boolean", "Byte", "Char", "Double", "Float", "Int", "Long", "Nothing",
            "Short", "String", "Unit"]
          token := "type" },
        { matcher := .keywords ["true", "false", "null"], token := "constant" },
        { matcher := .charSequence (.ref "identStart") (some (.ref "identPart"))
          token := "identifier" },
        { matcher := .literal (.many [
            "!==", "===", "?:", "?.", "!!", "::", "..", "->", "++", "--", "==", "!=", "<=", ">=",
            "&&", "||", "+=", "-=", "*=", "/=", "%=", "+", "-", "*", "/", "%", "!", "=", "<",
            ">", "?", ":", "@"])
          token := "operator" },
        { matcher := .literal (.many ["(", ")", "[", "]", "\x7b", "\x7d", ";", ",", "."])
          token := "punctuation" }])]
    skipTokens := some ["whitespace", "newline", "comment"] }
  structure? := some {
    blocks := [
      { name := "braces", opening := "\x7b", closing := "\x7d" },
      { name := "parens", opening := "(", closing := ")" },
      { name := "brackets", opening := "[", closing := "]" }]
    symbols := [
      { name := "extension-function"
        kind := "function"
        pattern := [
          .token { type := "keyword", value := some "fun" },
          .token { type := "identifier" },
          .token { type := "punctuation", value := some "." },
          .token { type := "identifier", capture := some "name" }]
        hasBody := true },
      { name := "fun"
        kind := "function"
        pattern := [
          .token { type := "keyword", value := some "fun" },
          .token { type := "identifier", capture := some "name" }]
        hasBody := true },
      { name := "class"
        kind := "class"
        pattern := [
          .token { type := "keyword", value := some "class" },
          .token { type := "identifier", capture := some "name" }]
        hasBody := true },
      { name := "interface"
        kind := "interface"
        pattern := [
          .token { type := "keyword", value := some "interface" },
          .token { type := "identifier", capture := some "name" }]
        hasBody := true },
      { name := "object"
        kind := "object"
        pattern := [
          .token { type := "keyword", value := some "object" },
          .token { type := "identifier", capture := some "name" }]
        hasBody := true }]
    folding := some { blocks := ["braces", "brackets"], comments := true } }

end Polyglot.Builtin
