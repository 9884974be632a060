import Polyglot.Profile.Basic

/-!
# `Polyglot.Builtin.Ruby`: the profile of Ruby
-/

set_option autoImplicit false

namespace Polyglot.Builtin

/-- The profile of Ruby. -/
def ruby : Profile where
  name := "ruby"
  displayName := "Ruby"
  fileExtensions := [".rb", ".rake", ".gemspec", ".ru"]
  mimeTypes := ["text/x-ruby"]
  lexer := {
    tokenTypes := .ofList [
      ("whitespace", .whitespace), ("newline", .newline), ("comment", .comment),
      ("string", .string), ("number", .number), ("keyword", .keyword), ("constant", .constant),
      ("identifier", .identifier), ("operator", .operator), ("punctuation", .punctuation),
      ("type", .type), ("symbol", .constant), ("variable", .variableName)]
    states := .ofList [
      ("default", [
        { matcher := .charSequence (.predefined .whitespace) (some (.predefined .whitespace))
          token := "whitespace" },
        { matcher := .charSequence (.predefined .newline) (some (.predefined .newline))
          token := "newline" },
        { matcher := .pattern "=begin[\\s\\S]*?\\n=end[^\\r\\n]*", token := "comment" },
        { matcher := .line "#", token := "comment" },
        { matcher := .delimited {
            opening := "\""
            closing := "\""
            escape := some '\\'
            multiline := true }
          token := "string" },
        { matcher := .delimited {
            opening := "'"
            closing := "'"
            escape := some '\\'
            multiline := true }
          token := "string" },
        { matcher := .delimited {
            opening := "`"
            closing := "`"
            escape := some '\\'
            multiline := true }
          token := "string" },
        { matcher := .literal (.one "::"), token := "operator" },
        { matcher := .pattern "(?::[A-Za-z_][A-Za-z0-9_]*[?!=]?|:\"(?:[^\"\\\\]|\\\\.)*\")"
          token := "symbol" },
        { matcher := .pattern
            "@@?[A-Za-z_][A-Za-z0-9_]*|\\$[A-Za-z_][A-Za-z0-9_]*|\\$[0-9!@&+`'=~/\\\\,;.<>*$?:\\x22]"
          token := "variable" },
        { matcher := .number {
            hex := true
            octal := true
            binary := true
            float := true
            scientific := true
            separator := some '_' }
          token := "number" },
        { matcher := .keywords [
            "BEGIN", "END", "alias", "and", "begin", "break", "case", "class", "def", "defined",
            "do", "else", "elsif", "end", "ensure", "for", "if", "in", "module", "next", "not",
            "or", "redo", "rescue", "retry", "return", "self", "super", "then", "undef",
            "unless", "until", "when", "while", "yield"]
          token := "keyword" },
        { matcher := .keywords ["true", "false", "nil", "__FILE__", "__LINE__", "__method__"]
          token := "constant" },
        { matcher := .pattern "[A-Z][A-Za-z0-9_]*", token := "type" },
        { matcher := .pattern "[A-Za-z_][A-Za-z0-9_]*[?!]?", token := "identifier" },
        { matcher := .literal (.many [
            "**=", "<=>", "===", "...", "||=", "&&=", "<<=", ">>=", "..", "=>", "->", "==", "!=",
            "=~", "!~", "<=", ">=", "&&", "||", "&.", "<<", ">>", "**", "+=", "-=", "*=", "/=",
            "%=", "|=", "&=", "^=", "+", "-", "*", "/", "%", "=", "<", ">", "!", "&", "|", "^",
            "~", "?", ":"])
          token := "operator" },
        { matcher := .literal (.many ["(", ")", "[", "]", "\x7b", "\x7d", ";", ",", ".", "\\"])
          token := "punctuation" }])]
    skipTokens := some ["whitespace", "newline", "comment"]
    indentation := some { tabWidth := 2 } }
  structure? := some {
    blocks := [
      { name := "braces", opening := "\x7b", closing := "\x7d" },
      { name := "parens", opening := "(", closing := ")" },
      { name := "brackets", opening := "[", closing := "]" }]
    symbols := [
      { name := "class"
        kind := "class"
        pattern := [
          .token { type := "keyword", value := some "class" },
          .token { type := "type", capture := some "name" }]
        hasBody := true
        bodyStyle := some .indentation },
      { name := "module"
        kind := "module"
        pattern := [
          .token { type := "keyword", value := some "module" },
          .token { type := "type", capture := some "name" }]
        hasBody := true
        bodyStyle := some .indentation },
      { name := "method"
        kind := "method"
        pattern := [
          .token { type := "keyword", value := some "def" },
          .optional { type := "keyword", value := some "self" },
          .optional { type := "punctuation", value := some "." },
          .token { type := "identifier", capture := some "name" }]
        hasBody := true
        bodyStyle := some .indentation }]
    folding := some { blocks := ["braces", "brackets"], comments := true } }

end Polyglot.Builtin
