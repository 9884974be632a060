import Polyglot.Profile.Basic

/-!
# `Polyglot.Builtin.Scss`: the profile of SCSS
-/

set_option autoImplicit false

namespace Polyglot.Builtin

/-- The profile of SCSS. -/
def scss : Profile where
  name := "scss"
  displayName := "SCSS"
  fileExtensions := [".scss"]
  mimeTypes := ["text/x-scss"]
  lexer := {
    tokenTypes := .ofList [
      ("variable", .variableName), ("interpolation", .variableName), ("placeholder", .tag)]
    states := .ofList [
      ("default", [
        { matcher := .line "//", token := "comment" },
        { matcher := .delimited { opening := "#\x7b", closing := "\x7d" }
          token := "interpolation" },
        { matcher := .pattern "\\$[A-Za-z_][\\w-]*", token := "variable" },
        { matcher := .pattern "%[A-Za-z_][\\w-]*", token := "selector" },
        { matcher := .pattern "#[0-9a-fA-F]\x7b3,8\x7d\\b", token := "color" },
        { matcher := .number {
            float := true
            scientific := true
            suffixes := [
              "%", "px", "em", "rem", "vh", "vw", "vmin", "vmax", "ch", "ex", "cm", "mm", "in",
              "pt", "pc", "deg", "rad", "grad", "turn", "s", "ms", "hz", "khz", "dpi", "dppx",
              "fr"] }
          token := "number" },
        { matcher := .charSequence (.predefined .whitespace) (some (.predefined .whitespace))
          token := "whitespace" },
        { matcher := .charSequence (.predefined .newline) (some (.predefined .newline))
          token := "newline" },
        { matcher := .delimited { opening := "/*", closing := "*/", multiline := true }
          token := "comment" },
        { matcher := .pattern "@-?[A-Za-z_][\\w-]*", token := "atRule" },
        { matcher := .delimited { opening := "\"", closing := "\"", escape := some '\\' }
          token := "string" },
        { matcher := .delimited { opening := "'", closing := "'", escape := some '\\' }
          token := "string" },
        { matcher := .literal (.one "\x7b"), token := "punctuation", push := some "block" },
        { matcher := .literal (.one "\x7d"), token := "punctuation", pop := true },
        { matcher := .pattern "url\\([^)\\r\\n]*\\)", token := "string" },
        { matcher := .pattern "::?-?[A-Za-z_][\\w-]*", token := "pseudo" },
        { matcher := .number { float := true, scientific := true, suffixes := ["%"] }
          token := "number" },
        { matcher := .pattern "[#.]?-?-?[A-Za-z_][\\w-]*", token := "selector" },
        { matcher := .literal (.many [
            "~=", "|=", "^=", "$=", "*=", ">", "+", "~", "*", "=", "|", "&", "!"])
          token := "operator" },
        { matcher := .literal (.many ["(", ")", "[", "]", ",", ";", ":", "."])
          token := "punctuation" }]),
      ("block", [
        { matcher := .line "//", token := "comment" },
        { matcher := .delimited { opening := "#\x7b", closing := "\x7d" }
          token := "interpolation" },
        { matcher := .pattern "\\$[A-Za-z_][\\w-]*", token := "variable" },
        { matcher := .pattern "@-?[A-Za-z_][\\w-]*", token := "atRule" },
        { matcher := .pattern "%[A-Za-z_][\\w-]*", token := "placeholder" },
        { matcher := .number {
            float := true
            scientific := true
            suffixes := [
              "%", "px", "em", "rem", "vh", "vw", "vmin", "vmax", "ch", "ex", "cm", "mm", "in",
              "pt", "pc", "deg", "rad", "grad", "turn", "s", "ms", "hz", "khz", "dpi", "dppx",
              "fr"] }
          token := "number" },
        { matcher := .charSequence (.predefined .whitespace) (some (.predefined .whitespace))
          token := "whitespace" },
        { matcher := .charSequence (.predefined .newline) (some (.predefined .newline))
          token := "newline" },
        { matcher := .delimited { opening := "/*", closing := "*/", multiline := true }
          token := "comment" },
        { matcher := .literal (.one "\x7d"), token := "punctuation", pop := true },
        { matcher := .literal (.one "\x7b"), token := "punctuation", push := some "block" },
        { matcher := .literal (.one ":"), token := "punctuation", switchTo := some "value" },
        { matcher := .delimited { opening := "\"", closing := "\"", escape := some '\\' }
          token := "string" },
        { matcher := .delimited { opening := "'", closing := "'", escape := some '\\' }
          token := "string" },
        { matcher := .pattern "-?-?[A-Za-z_][\\w-]*", token := "property" },
        { matcher := .literal (.many [">", "+", "~", "*", "=", "&", "|", "!"])
          token := "operator" },
        { matcher := .literal (.many ["(", ")", "[", "]", ",", ";", ".", "#"])
          token := "punctuation" }]),
      ("value", [
        { matcher := .line "//", token := "comment" },
        { matcher := .delimited { opening := "#\x7b", closing := "\x7d" }
          token := "interpolation" },
        { matcher := .pattern "\\$[A-Za-z_][\\w-]*", token := "variable" },
        { matcher := .charSequence (.predefined .whitespace) (some (.predefined .whitespace))
          token := "whitespace" },
        { matcher := .charSequence (.predefined .newline) (some (.predefined .newline))
          token := "newline" },
        { matcher := .delimited { opening := "/*", closing := "*/", multiline := true }
          token := "comment" },
        { matcher := .literal (.one ";"), token := "punctuation", switchTo := some "block" },
        { matcher := .literal (.one "\x7d"), token := "punctuation", pop := true },
        { matcher := .literal (.one "\x7b")
          token := "punctuation"
          push := some "block"
          switchTo := some "block" },
        { matcher := .delimited { opening := "\"", closing := "\"", escape := some '\\' }
          token := "string" },
        { matcher := .delimited { opening := "'", closing := "'", escape := some '\\' }
          token := "string" },
        { matcher := .pattern "!\\s*important", token := "keyword" },
        { matcher := .pattern "#[0-9a-fA-F]\x7b3,8\x7d\\b", token := "color" },
        { matcher := .pattern "url\\([^)\\r\\n]*\\)", token := "string" },
        { matcher := .number {
            float := true
            scientific := true
            suffixes := [
              "%", "px", "em", "rem", "vh", "vw", "vmin", "vmax", "ch", "ex", "cm", "mm", "in",
              "pt", "pc", "deg", "rad", "grad", "turn", "s", "ms", "hz", "khz", "dpi", "dppx",
              "fr"] }
          token := "number" },
        { matcher := .pattern "-?-?[A-Za-z_][\\w-]*", token := "value" },
        { matcher := .literal (.many [
            "+", "-", "*", "/", "=", "!", "<", ">", "&", "|", "~", "%", "#", "$", "^"])
          token := "operator" },
        { matcher := .literal (.many ["(", ")", "[", "]", ",", ":", "."])
          token := "punctuation" }])] }
  structure? := some {
    symbols := [
      { name := "mixin"
        kind := "function"
        pattern := [
          .token { type := "atRule", value := some "@mixin" },
          .token { type := "selector", capture := some "name" }]
        hasBody := true },
      { name := "function"
        kind := "function"
        pattern := [
          .token { type := "atRule", value := some "@function" },
          .token { type := "selector", capture := some "name" }]
        hasBody := true }] }
  parent := some "css"

end Polyglot.Builtin
