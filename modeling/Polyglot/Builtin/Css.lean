import Polyglot.Profile.Basic

/-!
# `Polyglot.Builtin.Css`: the profile of CSS
-/

set_option autoImplicit false

namespace Polyglot.Builtin

/-- The profile of CSS. -/
def css : Profile where
  name := "css"
  displayName := "CSS"
  fileExtensions := [".css"]
  mimeTypes := ["text/css"]
  lexer := {
    tokenTypes := .ofList [
      ("whitespace", .whitespace), ("newline", .newline), ("comment", .comment),
      ("string", .string), ("number", .number), ("keyword", .keyword), ("constant", .constant),
      ("identifier", .identifier), ("operator", .operator), ("punctuation", .punctuation),
      ("selector", .tag), ("pseudo", .attribute), ("property", .attribute), ("value", .constant),
      ("color", .constant), ("atRule", .keyword)]
    states := .ofList [
      ("default", [
        { matcher := .charSequence (.predefined .whitespace) (some (.predefined .whitespace))
          token := "whitespace" },
        { matcher := .charSequence (.predefined .newline) (some (.predefined .newline))
          token := "newline" },
        { matcher := .delimited { opening := "/*", closing := "*/", multiline := true }
          token := "comment" },
        { matcher := .pattern "@-?[A-Za-z_][\\w-]*", token := "atRule" },
        { matcher := .delimited { opening := "\"", closing := "\"", escape := some '\\' }
          token := "string" },
        { matcher := .delimited { opening := "'", closing := "'", escape := some '\\' }
          token := "string" },
        { matcher := .literal (.one "\x7b"), token := "punctuation", push := some "block" },
        { matcher := .literal (.one "\x7d"), token := "punctuation", pop := true },
        { matcher := .pattern "url\\([^)\\r\\n]*\\)", token := "string" },
        { matcher := .pattern "::?-?[A-Za-z_][\\w-]*", token := "pseudo" },
        { matcher := .number { float := true, scientific := true, suffixes := ["%"] }
          token := "number" },
        { matcher := .pattern "[#.]?-?-?[A-Za-z_][\\w-]*", token := "selector" },
        { matcher := .literal (.many [
            "~=", "|=", "^=", "$=", "*=", ">", "+", "~", "*", "=", "|", "&", "!"])
          token := "operator" },
        { matcher := .literal (.many ["(", ")", "[", "]", ",", ";", ":", "."])
          token := "punctuation" }]),
      ("block", [
        { matcher := .charSequence (.predefined .whitespace) (some (.predefined .whitespace))
          token := "whitespace" },
        { matcher := .charSequence (.predefined .newline) (some (.predefined .newline))
          token := "newline" },
        { matcher := .delimited { opening := "/*", closing := "*/", multiline := true }
          token := "comment" },
        { matcher := .literal (.one "\x7d"), token := "punctuation", pop := true },
        { matcher := .literal (.one "\x7b"), token := "punctuation", push := some "block" },
        { matcher := .literal (.one ":"), token := "punctuation", switchTo := some "value" },
        { matcher := .delimited { opening := "\"", closing := "\"", escape := some '\\' }
          token := "string" },
        { matcher := .delimited { opening := "'", closing := "'", escape := some '\\' }
          token := "string" },
        { matcher := .pattern "-?-?[A-Za-z_][\\w-]*", token := "property" },
        { matcher := .literal (.many [">", "+", "~", "*", "=", "&", "|", "!"])
          token := "operator" },
        { matcher := .literal (.many ["(", ")", "[", "]", ",", ";", ".", "#"])
          token := "punctuation" }]),
      ("value", [
        { matcher := .charSequence (.predefined .whitespace) (some (.predefined .whitespace))
          token := "whitespace" },
        { matcher := .charSequence (.predefined .newline) (some (.predefined .newline))
          token := "newline" },
        { matcher := .delimited { opening := "/*", closing := "*/", multiline := true }
          token := "comment" },
        { matcher := .literal (.one ";"), token := "punctuation", switchTo := some "block" },
        { matcher := .literal (.one "\x7d"), token := "punctuation", pop := true },
        { matcher := .literal (.one "\x7b")
          token := "punctuation"
          push := some "block"
          switchTo := some "block" },
        { matcher := .delimited { opening := "\"", closing := "\"", escape := some '\\' }
          token := "string" },
        { matcher := .delimited { opening := "'", closing := "'", escape := some '\\' }
          token := "string" },
        { matcher := .pattern "!\\s*important", token := "keyword" },
        { matcher := .pattern "#[0-9a-fA-F]\x7b3,8\x7d\\b", token := "color" },
        { matcher := .pattern "url\\([^)\\r\\n]*\\)", token := "string" },
        { matcher := .number {
            float := true
            scientific := true
            suffixes := [
              "%", "px", "em", "rem", "vh", "vw", "vmin", "vmax", "ch", "ex", "cm", "mm", "in",
              "pt", "pc", "deg", "rad", "grad", "turn", "s", "ms", "hz", "khz", "dpi", "dppx",
              "fr"] }
          token := "number" },
        { matcher := .pattern "-?-?[A-Za-z_][\\w-]*", token := "value" },
        { matcher := .literal (.many [
            "+", "-", "*", "/", "=", "!", "<", ">", "&", "|", "~", "%", "#", "$", "^"])
          token := "operator" },
        { matcher := .literal (.many ["(", ")", "[", "]", ",", ":", "."])
          token := "punctuation" }])]
    skipTokens := some ["whitespace", "newline", "comment"] }
  structure? := some {
    blocks := [
      { name := "braces", opening := "\x7b", closing := "\x7d" },
      { name := "parens", opening := "(", closing := ")" },
      { name := "brackets", opening := "[", closing := "]" }]
    symbols := [
      { name := "selector"
        kind := "class"
        pattern := [.token { type := "selector", capture := some "name" }]
        hasBody := true }]
    folding := some { blocks := ["braces"], comments := true } }

end Polyglot.Builtin
