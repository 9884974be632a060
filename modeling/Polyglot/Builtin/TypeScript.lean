import Polyglot.Profile.Basic

/-!
# `Polyglot.Builtin.TypeScript`: the profile of TypeScript
-/

set_option autoImplicit false

namespace Polyglot.Builtin

/-- The profile of TypeScript. -/
def typescript : Profile where
  name := "typescript"
  displayName := "TypeScript"
  fileExtensions := [".ts", ".tsx", ".mts", ".cts"]
  mimeTypes := ["application/typescript", "text/typescript"]
  lexer := {
    tokenTypes := .ofList [("type", .type)]
    states := .ofList [
      ("default", [
        { matcher := .charSequence (.predefined .whitespace) (some (.predefined .whitespace))
          token := "whitespace" },
        { matcher := .charSequence (.predefined .newline) (some (.predefined .newline))
          token := "newline" },
        { matcher := .line "#!", token := "comment" },
        { matcher := .line "//", token := "comment" },
        { matcher := .delimited { opening := "/*", closing := "*/", multiline := true }
          token := "comment" },
        { matcher := .literal (.one "`"), token := "template", push := some "template" },
        { matcher := .delimited { opening := "\"", closing := "\"", escape := some '\\' }
          token := "string" },
        { matcher := .delimited { opening := "'", closing := "'", escape := some '\\' }
          token := "string" },
        { matcher := .number {
            hex := true
            octal := true
            binary := true
            float := true
            scientific := true
            separator := some '_'
            suffixes := ["n"] }
          token := "number" },
        { matcher := .sequence [
            .literal (.one "@"),
            .charSequence (.ref "identStart") (some (.ref "identPart"))]
          token := "decorator" },
        { matcher := .pattern "#[A-Za-z_$][\\w$]*", token := "identifier" },
        { matcher := .keywords [
            "any", "bigint", "boolean", "never", "number", "object", "string", "symbol",
            "unknown"]
          token := "type" },
        { matcher := .keywords [
            "async", "await", "break", "case", "catch", "class", "const", "continue", "debugger",
            "default", "delete", "do", "else", "export", "extends", "finally", "for", "function",
            "if", "import", "in", "instanceof", "let", "new", "of", "return", "static", "super",
            "switch", "this", "throw", "try", "typeof", "var", "void", "while", "with", "yield",
            "abstract", "as", "asserts", "declare", "enum", "implements", "infer", "interface",
            "is", "keyof", "namespace", "override", "private", "protected", "public", "readonly",
            "satisfies", "type", "unique"]
          token := "keyword" },
        { matcher := .keywords ["true", "false", "null", "undefined", "NaN", "Infinity"]
          token := "constant" },
        { matcher := .charSequence (.ref "identStart") (some (.ref "identPart"))
          token := "identifier" },
        { matcher := .literal (.one "\x7b"), token := "punctuation", push := some "default" },
        { matcher := .literal (.one "\x7d"), token := "punctuation", pop := true },
        { matcher := .literal (.many [
            ">>>=", "===", "!==", "**=", "...", "&&=", "||=", "??=", "<<=", ">>=", ">>>", "=>",
            "==", "!=", "<=", ">=", "&&", "||", "??", "?.", "++", "--", "+=", "-=", "*=", "/=",
            "%=", "&=", "|=", "^=", "<<", ">>", "**", "+", "-", "*", "/", "%", "&", "|", "^",
            "!", "~", "=", "<", ">", "?"])
          token := "operator" },
        { matcher := .literal (.many ["(", ")", "[", "]", ";", ",", ".", ":"])
          token := "punctuation" }])] }
  structure? := some {
    symbols := [
      { name := "interface"
        kind := "interface"
        pattern := [
          .token { type := "keyword", value := some "interface" },
          .token { type := "identifier", capture := some "name" }]
        hasBody := true },
      { name := "enum"
        kind := "enum"
        pattern := [
          .token { type := "keyword", value := some "enum" },
          .token { type := "identifier", capture := some "name" }]
        hasBody := true },
      { name := "namespace"
        kind := "namespace"
        pattern := [
          .token { type := "keyword", value := some "namespace" },
          .token { type := "identifier", capture := some "name" }]
        hasBody := true },
      { name := "type"
        kind := "type"
        pattern := [
          .token { type := "keyword", value := some "type" },
          .token { type := "identifier", capture := some "name" }] },
      { name := "typed-method"
        kind := "method"
        pattern := [
          .token { type := "identifier", capture := some "name" },
          .token { type := "punctuation", value := some "(" },
          .skip (some 13),
          .token { type := "punctuation", value := some ")" },
          .token { type := "punctuation", value := some ":" },
          .skip (some 7),
          .token { type := "punctuation", value := some "\x7b" }]
        hasBody := true }] }
  parent := some "javascript"

end Polyglot.Builtin
