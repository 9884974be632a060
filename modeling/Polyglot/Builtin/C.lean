import Polyglot.Profile.Basic

/-!
# `Polyglot.Builtin.C`: the profile of C
-/

set_option autoImplicit false

namespace Polyglot.Builtin

/-- The profile of C. -/
def c : Profile where
  name := "c"
  displayName := "C"
  fileExtensions := [".c", ".h"]
  mimeTypes := ["text/x-csrc", "text/x-chdr"]
  lexer := {
    charClasses := .ofList [
      ("identStart", .union [.predefined .letter, .chars "_"]),
      ("identPart", .union [.predefined .alphanumeric, .chars "_"])]
    tokenTypes := .ofList [
      ("whitespace", .whitespace), ("newline", .newline), ("comment", .comment),
      ("string", .string), ("number", .number), ("keyword", .keyword), ("constant", .constant),
      ("identifier", .identifier), ("operator", .operator), ("punctuation", .punctuation),
      ("type", .type), ("directive", .directive)]
    states := .ofList [
      ("default", [
        { matcher := .charSequence (.predefined .whitespace) (some (.predefined .whitespace))
          token := "whitespace" },
        { matcher := .charSequence (.predefined .newline) (some (.predefined .newline))
          token := "newline" },
        { matcher := .line "//", token := "comment" },
        { matcher := .delimited { opening := "/*", closing := "*/", multiline := true }
          token := "comment" },
        { matcher := .pattern "#[ \\t]*include\\b", token := "directive", push := some "include" },
        { matcher := .pattern "#[ \\t]*[A-Za-z_]+", token := "directive" },
        { matcher := .delimited { opening := "\"", closing := "\"", escape := some '\\' }
          token := "string" },
        { matcher := .delimited { opening := "'", closing := "'", escape := some '\\' }
          token := "string" },
        { matcher := .number {
            hex := true
            binary := true
            float := true
            scientific := true
            separator := some '\''
            suffixes := [
              "u", "U", "l", "L", "ul", "UL", "uL", "Ul", "lu", "LU", "ll", "LL", "ull", "ULL",
              "f", "F"] }
          token := "number" },
        { matcher := .keywords [
            "auto", "break", "case", "const", "continue", "default", "do", "else", "enum",
            "extern", "for", "goto", "if", "inline", "register", "restrict", "return", "sizeof",
            "static", "struct", "switch", "typedef", "union", "volatile", "while", "_Alignas",
            "_Alignof", "_Atomic", "_Generic", "_Noreturn", "_Static_assert", "_Thread_local"]
          token := "keyword" },
        { matcher := .keywords [
            "bool", "char", "double", "float", "int", "long", "short", "signed", "unsigned",
            "void", "_Bool", "_Complex", "size_t", "ssize_t", "ptrdiff_t", "int8_t", "int16_t",
            "int32_t", "int64_t", "uint8_t", "uint16_t", "uint32_t", "uint64_t"]
          token := "type" },
        { matcher := .keywords ["true", "false", "NULL"], token := "constant" },
        { matcher := .charSequence (.ref "identStart") (some (.ref "identPart"))
          token := "identifier" },
        { matcher := .literal (.many [
            "...", "##", "#", "<<=", ">>=", "->", "++", "--", "==", "!=", "<=", ">=", "&&", "||",
            "+=", "-=", "*=", "/=", "%=", "&=", "|=", "^=", "<<", ">>", "+", "-", "*", "/", "%",
            "&", "|", "^", "!", "~", "=", "<", ">", "?", ":"])
          token := "operator" },
        { matcher := .literal (.many ["(", ")", "[", "]", "\x7b", "\x7d", ";", ",", ".", "\\"])
          token := "punctuation" }]),
      ("include", [
        { matcher := .charSequence (.predefined .whitespace) (some (.predefined .whitespace))
          token := "whitespace" },
        { matcher := .delimited { opening := "<", closing := ">" }
          token := "string"
          pop := true },
        { matcher := .delimited { opening := "\"", closing := "\"" }
          token := "string"
          pop := true },
        { matcher := .charSequence (.ref "identStart") (some (.ref "identPart"))
          token := "identifier" },
        { matcher := .charSequence (.predefined .newline) (some (.predefined .newline))
          token := "newline"
          pop := true }])]
    skipTokens := some ["whitespace", "newline", "comment"] }
  structure? := some {
    blocks := [
      { name := "braces", opening := "\x7b", closing := "\x7d" },
      { name := "parens", opening := "(", closing := ")" },
      { name := "brackets", opening := "[", closing := "]" }]
    symbols := [
      { name := "struct"
        kind := "struct"
        pattern := [
          .token { type := "keyword", value := some "struct" },
          .token { type := "identifier", capture := some "name" },
          .token { type := "punctuation", value := some "\x7b" }]
        hasBody := true },
      { name := "union"
        kind := "struct"
        pattern := [
          .token { type := "keyword", value := some "union" },
          .token { type := "identifier", capture := some "name" },
          .token { type := "punctuation", value := some "\x7b" }]
        hasBody := true },
      { name := "enum"
        kind := "enum"
        pattern := [
          .token { type := "keyword", value := some "enum" },
          .token { type := "identifier", capture := some "name" },
          .token { type := "punctuation", value := some "\x7b" }]
        hasBody := true },
      { name := "function"
        kind := "function"
        pattern := [
          .anyOf [{ type := "type" }, { type := "identifier" }],
          .token { type := "identifier", capture := some "name" },
          .token { type := "punctuation", value := some "(" }]
        hasBody := true }]
    folding := some { blocks := ["braces", "brackets"], comments := true } }

end Polyglot.Builtin
