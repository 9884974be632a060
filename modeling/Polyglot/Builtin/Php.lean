import Polyglot.Profile.Basic

/-!
# `Polyglot.Builtin.Php`: the profile of PHP
-/

set_option autoImplicit false

namespace Polyglot.Builtin

/-- The profile of PHP. -/
def php : Profile where
  name := "php"
  displayName := "PHP"
  fileExtensions := [".php", ".phtml", ".php8"]
  mimeTypes := ["application/x-php", "text/x-php"]
  lexer := {
    charClasses := .ofList [
      ("identStart", .union [.predefined .letter, .chars "_"]),
      ("identPart", .union [.predefined .alphanumeric, .chars "_"])]
    tokenTypes := .ofList [
      ("whitespace", .whitespace), ("newline", .newline), ("comment", .comment),
      ("string", .string), ("number", .number), ("keyword", .keyword), ("constant", .constant),
      ("identifier", .identifier), ("operator", .operator), ("punctuation", .punctuation),
      ("tag", .directive), ("text", .plain), ("variable", .variableName), ("type", .type)]
    states := .ofList [
      ("html", [
        { matcher := .literal (.many ["<?php", "<?="]), token := "tag", push := some "php" },
        { matcher := .charSequence (.predefined .newline) (some (.predefined .newline))
          token := "newline" },
        { matcher := .charSequence (.negate (.union [.chars "<", .predefined .newline])) (some
              (.negate (.union [.chars "<", .predefined .newline])))
          token := "text" },
        { matcher := .literal (.one "<"), token := "text" }]),
      ("php", [
        { matcher := .charSequence (.predefined .whitespace) (some (.predefined .whitespace))
          token := "whitespace" },
        { matcher := .charSequence (.predefined .newline) (some (.predefined .newline))
          token := "newline" },
        { matcher := .literal (.one "?>"), token := "tag", pop := true },
        { matcher := .line "//", token := "comment" },
        { matcher := .delimited { opening := "/*", closing := "*/", multiline := true }
          token := "comment" },
        { matcher := .line "#", token := "comment" },
        { matcher := .pattern "\\$\\$?[A-Za-z_][A-Za-z0-9_]*", token := "variable" },
        { matcher := .delimited {
            opening := "\""
            closing := "\""
            escape := some '\\'
            multiline := true }
          token := "string" },
        { matcher := .delimited {
            opening := "'"
            closing := "'"
            escape := some '\\'
            multiline := true }
          token := "string" },
        { matcher := .number {
            hex := true
            octal := true
            binary := true
            float := true
            scientific := true
            separator := some '_' }
          token := "number" },
        { matcher := .keywords [
            "abstract", "and", "array", "as", "break", "callable", "case", "catch", "class",
            "clone", "const", "continue", "declare", "default", "do", "echo", "else", "elseif",
            "empty", "enddeclare", "endfor", "endforeach", "endif", "endswitch", "endwhile",
            "enum", "extends", "final", "finally", "fn", "for", "foreach", "function", "global",
            "goto", "if", "implements", "include", "include_once", "instanceof", "insteadof",
            "interface", "isset", "list", "match", "namespace", "new", "or", "print", "private",
            "protected", "public", "readonly", "require", "require_once", "return", "static",
            "switch", "throw", "trait", "try", "unset", "use", "var", "while", "xor", "yield"]
          token := "keyword" },
        { matcher := .keywords [
            "bool", "float", "int", "iterable", "mixed", "never", "object", "string", "void"]
          token := "type" },
        { matcher := .keywords ["true", "false", "null", "TRUE", "FALSE", "NULL"]
          token := "constant" },
        { matcher := .charSequence (.ref "identStart") (some (.ref "identPart"))
          token := "identifier" },
        { matcher := .literal (.many [
            "<=>", "===", "!==", "**=", "??=", "...", "?->", "<<=", ">>=", "->", "=>", "::",
            "==", "!=", "<>", "<=", ">=", "&&", "||", "??", "++", "--", "+=", "-=", "*=", "/=",
            ".=", "%=", "&=", "|=", "^=", "<<", ">>", "**", "+", "-", "*", "/", "%", "&", "|",
            "^", "!", "~", "=", "<", ">", "?", ":", "@", "$"])
          token := "operator" },
        { matcher := .literal (.many ["(", ")", "[", "]", "\x7b", "\x7d", ";", ",", ".", "\\"])
          token := "punctuation" }])]
    initialState := some "html"
    skipTokens := some ["whitespace", "newline", "comment"] }
  structure? := some {
    blocks := [
      { name := "braces", opening := "\x7b", closing := "\x7d" },
      { name := "parens", opening := "(", closing := ")" },
      { name := "brackets", opening := "[", closing := "]" }]
    symbols := [
      { name := "function"
        kind := "function"
        pattern := [
          .token { type := "keyword", value := some "function" },
          .token { type := "identifier", capture := some "name" }]
        hasBody := true },
      { name := "class"
        kind := "class"
        pattern := [
          .token { type := "keyword", value := some "class" },
          .token { type := "identifier", capture := some "name" }]
        hasBody := true },
      { name := "interface"
        kind := "interface"
        pattern := [
          .token { type := "keyword", value := some "interface" },
          .token { type := "identifier", capture := some "name" }]
        hasBody := true },
      { name := "trait"
        kind := "trait"
        pattern := [
          .token { type := "keyword", value := some "trait" },
          .token { type := "identifier", capture := some "name" }]
        hasBody := true },
      { name := "enum"
        kind := "enum"
        pattern := [
          .token { type := "keyword", value := some "enum" },
          .token { type := "identifier", capture := some "name" }]
        hasBody := true }]
    folding := some { blocks := ["braces", "brackets"], comments := true } }

end Polyglot.Builtin
