import Polyglot.Profile.Basic

/-!
# `Polyglot.Builtin.CSharp`: the profile of C#
-/

set_option autoImplicit false

namespace Polyglot.Builtin

/-- The profile of C#. -/
def csharp : Profile where
  name := "csharp"
  displayName := "C#"
  fileExtensions := [".cs", ".csx"]
  mimeTypes := ["text/x-csharp"]
  lexer := {
    charClasses := .ofList [
      ("identStart", .union [.predefined .letter, .chars "_"]),
      ("identPart", .union [.predefined .alphanumeric, .chars "_"])]
    tokenTypes := .ofList [
      ("whitespace", .whitespace), ("newline", .newline), ("comment", .comment),
      ("string", .string), ("number", .number), ("keyword", .keyword), ("constant", .constant),
      ("identifier", .identifier), ("operator", .operator), ("punctuation", .punctuation),
      ("type", .type), ("directive", .directive)]
    states := .ofList [
      ("default", [
        { matcher := .charSequence (.predefined .whitespace) (some (.predefined .whitespace))
          token := "whitespace" },
        { matcher := .charSequence (.predefined .newline) (some (.predefined .newline))
          token := "newline" },
        { matcher := .line "//", token := "comment" },
        { matcher := .delimited { opening := "/*", closing := "*/", multiline := true }
          token := "comment" },
        { matcher := .pattern "#[ \\t]*[A-Za-z]+[^\\r\\n]*", token := "directive" },
        { matcher := .pattern "\\$?@\"(?:[^\"]|\"\")*\"", token := "string" },
        { matcher := .pattern "\\$\"(?:[^\"\\\\\\r\\n]|\\\\.)*\"", token := "string" },
        { matcher := .delimited { opening := "\"", closing := "\"", escape := some '\\' }
          token := "string" },
        { matcher := .delimited { opening := "'", closing := "'", escape := some '\\' }
          token := "string" },
        { matcher := .pattern "@[A-Za-z_][A-Za-z0-9_]*", token := "identifier" },
        { matcher := .number {
            hex := true
            binary := true
            float := true
            scientific := true
            separator := some '_'
            suffixes := ["L", "l", "f", "F", "d", "D", "m", "M", "u", "U", "UL", "ul", "uL"] }
          token := "number" },
        { matcher := .keywords [
            "abstract", "as", "async", "await", "base", "break", "case", "catch", "checked",
            "class", "const", "continue", "default", "delegate", "do", "else", "enum", "event",
            "explicit", "extern", "finally", "fixed", "for", "foreach", "get", "goto", "if",
            "implicit", "in", "init", "interface", "internal", "is", "lock", "namespace", "new",
            "operator", "out", "override", "params", "partial", "private", "protected", "public",
            "readonly", "record", "ref", "return", "sealed", "set", "sizeof", "stackalloc",
            "static", "struct", "switch", "this", "throw", "try", "typeof", "unchecked",
            "unsafe", "using", "virtual", "volatile", "when", "where", "while", "yield"]
          token := "keyword" },
        { matcher := .keywords [
            "bool", "byte", "char", "decimal", "double", "dynamic", "float", "int", "long",
            "nint", "nuint", "object", "sbyte", "short", "string", "uint", "ulong", "ushort",
            "var", "void"]
          token := "type" },
        { matcher := .keywords ["true", "false", "null"], token := "constant" },
        { matcher := .charSequence (.ref "identStart") (some (.ref "identPart"))
          token := "identifier" },
        { matcher := .literal (.many [
            "??=", "<<=", ">>=", "=>", "??", "?.", "::", "++", "--", "==", "!=", "<=", ">=",
            "&&", "||", "+=", "-=", "*=", "/=", "%=", "&=", "|=", "^=", "<<", ">>", "+", "-",
            "*", "/", "%", "&", "|", "^", "!", "~", "=", "<", ">", "?", ":"])
          token := "operator" },
        { matcher := .literal (.many ["(", ")", "[", "]", "\x7b", "\x7d", ";", ",", "."])
          token := "punctuation" }])]
    skipTokens := some ["whitespace", "newline", "comment"] }
  structure? := some {
    blocks := [
      { name := "braces", opening := "\x7b", closing := "\x7d" },
      { name := "parens", opening := "(", closing := ")" },
      { name := "brackets", opening := "[", closing := "]" }]
    symbols := [
      { name := "namespace"
        kind := "namespace"
        pattern := [
          .token { type := "keyword", value := some "namespace" },
          .token { type := "identifier", capture := some "name" }]
        hasBody := true },
      { name := "class"
        kind := "class"
        pattern := [
          .token { type := "keyword", value := some "class" },
          .token { type := "identifier", capture := some "name" }]
        hasBody := true },
      { name := "struct"
        kind := "struct"
        pattern := [
          .token { type := "keyword", value := some "struct" },
          .token { type := "identifier", capture := some "name" }]
        hasBody := true },
      { name := "interface"
        kind := "interface"
        pattern := [
          .token { type := "keyword", value := some "interface" },
          .token { type := "identifier", capture := some "name" }]
        hasBody := true },
      { name := "enum"
        kind := "enum"
        pattern := [
          .token { type := "keyword", value := some "enum" },
          .token { type := "identifier", capture := some "name" }]
        hasBody := true },
      { name := "record"
        kind := "class"
        pattern := [
          .token { type := "keyword", value := some "record" },
          .token { type := "identifier", capture := some "name" }]
        hasBody := true },
      { name := "method"
        kind := "method"
        pattern := [
          .anyOf [{ type := "type" }, { type := "identifier" }],
          .token { type := "identifier", capture := some "name" },
          .token { type := "punctuation", value := some "(" }]
        hasBody := true }]
    folding := some { blocks := ["braces", "brackets"], comments := true } }

end Polyglot.Builtin
