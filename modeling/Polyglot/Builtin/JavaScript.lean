import Polyglot.Profile.Basic

/-!
# `Polyglot.Builtin.JavaScript`: the profile of JavaScript
-/

set_option autoImplicit false

namespace Polyglot.Builtin

/-- The profile of JavaScript. -/
def javascript : Profile where
  name := "javascript"
  displayName := "JavaScript"
  fileExtensions := [".js", ".mjs", ".cjs", ".jsx"]
  mimeTypes := ["text/javascript", "application/javascript"]
  lexer := {
    charClasses := .ofList [
      ("identStart", .union [.predefined .letter, .chars "_$"]),
      ("identPart", .union [.predefined .alphanumeric, .chars "_$"])]
    tokenTypes := .ofList [
      ("whitespace", .whitespace), ("newline", .newline), ("comment", .comment),
      ("string", .string), ("number", .number), ("keyword", .keyword), ("constant", .constant),
      ("identifier", .identifier), ("operator", .operator), ("punctuation", .punctuation),
      ("template", .string), ("escape", .escape), ("interpolation", .punctuation),
      ("decorator", .decorator)]
    states := .ofList [
      ("default", [
        { matcher := .charSequence (.predefined .whitespace) (some (.predefined .whitespace))
          token := "whitespace" },
        { matcher := .charSequence (.predefined .newline) (some (.predefined .newline))
          token := "newline" },
        { matcher := .line "#!", token := "comment" },
        { matcher := .line "//", token := "comment" },
        { matcher := .delimited { opening := "/*", closing := "*/", multiline := true }
          token := "comment" },
        { matcher := .literal (.one "`"), token := "template", push := some "template" },
        { matcher := .delimited { opening := "\"", closing := "\"", escape := some '\\' }
          token := "string" },
        { matcher := .delimited { opening := "'", closing := "'", escape := some '\\' }
          token := "string" },
        { matcher := .number {
            hex := true
            octal := true
            binary := true
            float := true
            scientific := true
            separator := some '_'
            suffixes := ["n"] }
          token := "number" },
        { matcher := .sequence [
            .literal (.one "@"),
            .charSequence (.ref "identStart") (some (.ref "identPart"))]
          token := "decorator" },
        { matcher := .pattern "#[A-Za-z_$][\\w$]*", token := "identifier" },
        { matcher := .keywords [
            "async", "await", "break", "case", "catch", "class", "const", "continue", "debugger",
            "default", "delete", "do", "else", "export", "extends", "finally", "for", "function",
            "if", "import", "in", "instanceof", "let", "new", "of", "return", "static", "super",
            "switch", "this", "throw", "try", "typeof", "var", "void", "while", "with", "yield"]
          token := "keyword" },
        { matcher := .keywords ["true", "false", "null", "undefined", "NaN", "Infinity"]
          token := "constant" },
        { matcher := .charSequence (.ref "identStart") (some (.ref "identPart"))
          token := "identifier" },
        { matcher := .literal (.one "\x7b"), token := "punctuation", push := some "default" },
        { matcher := .literal (.one "\x7d"), token := "punctuation", pop := true },
        { matcher := .literal (.many [
            ">>>=", "===", "!==", "**=", "...", "&&=", "||=", "??=", "<<=", ">>=", ">>>", "=>",
            "==", "!=", "<=", ">=", "&&", "||", "??", "?.", "++", "--", "+=", "-=", "*=", "/=",
            "%=", "&=", "|=", "^=", "<<", ">>", "**", "+", "-", "*", "/", "%", "&", "|", "^",
            "!", "~", "=", "<", ">", "?"])
          token := "operator" },
        { matcher := .literal (.many ["(", ")", "[", "]", ";", ",", ".", ":"])
          token := "punctuation" }]),
      ("template", [
        { matcher := .literal (.one "`"), token := "template", pop := true },
        { matcher := .literal (.one "$\x7b"), token := "interpolation", push := some "default" },
        { matcher := .pattern "\\\\[\\s\\S]", token := "escape" },
        { matcher := .charSequence (.negate (.chars "`$\\")) (some (.negate (.chars "`$\\")))
          token := "template" },
        { matcher := .literal (.many ["$", "\\"]), token := "template" }])]
    skipTokens := some ["whitespace", "newline", "comment"] }
  structure? := some {
    blocks := [
      { name := "braces", opening := "\x7b", closing := "\x7d" },
      { name := "parens", opening := "(", closing := ")" },
      { name := "brackets", opening := "[", closing := "]" }]
    symbols := [
      { name := "function"
        kind := "function"
        pattern := [
          .token { type := "keyword", value := some "function" },
          .optional { type := "operator", value := some "*" },
          .token { type := "identifier", capture := some "name" }]
        hasBody := true },
      { name := "class"
        kind := "class"
        pattern := [
          .token { type := "keyword", value := some "class" },
          .token { type := "identifier", capture := some "name" }]
        hasBody := true },
      { name := "method"
        kind := "method"
        pattern := [
          .token { type := "identifier", capture := some "name" },
          .token { type := "punctuation", value := some "(" },
          .skip (some 5),
          .token { type := "punctuation", value := some ")" },
          .token { type := "punctuation", value := some "\x7b" }]
        hasBody := true },
      { name := "variable"
        kind := "variable"
        pattern := [
          .anyOf [
            { type := "keyword", value := some "const" },
            { type := "keyword", value := some "let" },
            { type := "keyword", value := some "var" }],
          .token { type := "identifier", capture := some "name" }] }]
    folding := some { blocks := ["braces", "brackets"], comments := true } }

end Polyglot.Builtin
