import Polyglot.Profile.Basic

/-!
# `Polyglot.Builtin.Rust`: the profile of Rust
-/

set_option autoImplicit false

namespace Polyglot.Builtin

/-- The profile of Rust. -/
def rust : Profile where
  name := "rust"
  displayName := "Rust"
  fileExtensions := [".rs"]
  mimeTypes := ["text/rust"]
  lexer := {
    charClasses := .ofList [
      ("identStart", .union [.predefined .letter, .chars "_"]),
      ("identPart", .union [.predefined .alphanumeric, .chars "_"])]
    tokenTypes := .ofList [
      ("whitespace", .whitespace), ("newline", .newline), ("comment", .comment),
      ("string", .string), ("number", .number), ("keyword", .keyword), ("constant", .constant),
      ("identifier", .identifier), ("operator", .operator), ("punctuation", .punctuation),
      ("type", .type), ("char", .string), ("lifetime", .type), ("attribute", .directive)]
    states := .ofList [
      ("default", [
        { matcher := .charSequence (.predefined .whitespace) (some (.predefined .whitespace))
          token := "whitespace" },
        { matcher := .charSequence (.predefined .newline) (some (.predefined .newline))
          token := "newline" },
        { matcher := .line "//", token := "comment" },
        { matcher := .delimited {
            opening := "/*"
            closing := "*/"
            multiline := true
            nested := true }
          token := "comment" },
        { matcher := .pattern
            "b?r(?:\"[^\"]*\"|#\"[\\s\\S]*?\"#|##\"[\\s\\S]*?\"##|###\"[\\s\\S]*?\"###)"
          token := "string" },
        { matcher := .pattern "b\"(?:[^\"\\\\]|\\\\[\\s\\S])*\"", token := "string" },
        { matcher := .pattern "r#[A-Za-z_][A-Za-z0-9_]*", token := "identifier" },
        { matcher := .delimited {
            opening := "\""
            closing := "\""
            escape := some '\\'
            multiline := true }
          token := "string" },
        { matcher := .pattern
            "b?'(?:[^'\\\\\\n]|\\\\(?:[nrt0\\\\'\\x22]|x[0-9a-fA-F]\x7b2\x7d|u\\\x7b[0-9a-fA-F]\x7b1,6\x7d\\\x7d))'"
          token := "char" },
        { matcher := .pattern "'[A-Za-z_][A-Za-z0-9_]*", token := "lifetime" },
        { matcher := .pattern "#!?\\[[^\\]\\n]*\\]", token := "attribute" },
        { matcher := .number {
            hex := true
            octal := true
            binary := true
            float := true
            scientific := true
            separator := some '_'
            suffixes := [
              "i8", "i16", "i32", "i64", "i128", "isize", "u8", "u16", "u32", "u64", "u128",
              "usize", "f32", "f64"] }
          token := "number" },
        { matcher := .keywords [
            "as", "async", "await", "break", "const", "continue", "crate", "dyn", "else", "enum",
            "extern", "fn", "for", "if", "impl", "in", "let", "loop", "match", "mod", "move",
            "mut", "pub", "ref", "return", "self", "Self", "static", "struct", "super", "trait",
            "type", "unsafe", "use", "where", "while", "yield"]
          token := "keyword" },
        { matcher := .keywords [
            "bool", "char", "str", "i8", "i16", "i32", "i64", "i128", "isize", "u8", "u16",
            "u32", "u64", "u128", "usize", "f32", "f64"]
          token := "type" },
        { matcher := .keywords ["true", "false"], token := "constant" },
        { matcher := .charSequence (.ref "identStart") (some (.ref "identPart"))
          token := "identifier" },
        { matcher := .literal (.many [
            "<<=", ">>=", "...", "..=", "::", "->", "=>", "..", "==", "!=", "<=", ">=", "&&",
            "||", "+=", "-=", "*=", "/=", "%=", "&=", "|=", "^=", "<<", ">>", "+", "-", "*", "/",
            "%", "&", "|", "^", "!", "=", "<", ">", "?", "@"])
          token := "operator" },
        { matcher := .literal (.many [
            "(", ")", "[", "]", "\x7b", "\x7d", ";", ",", ".", ":", "#", "$"])
          token := "punctuation" }])]
    skipTokens := some ["whitespace", "newline", "comment"] }
  structure? := some {
    blocks := [
      { name := "braces", opening := "\x7b", closing := "\x7d" },
      { name := "parens", opening := "(", closing := ")" },
      { name := "brackets", opening := "[", closing := "]" }]
    symbols := [
      { name := "function"
        kind := "function"
        pattern := [
          .token { type := "keyword", value := some "fn" },
          .token { type := "identifier", capture := some "name" }]
        hasBody := true },
      { name := "struct"
        kind := "struct"
        pattern := [
          .token { type := "keyword", value := some "struct" },
          .token { type := "identifier", capture := some "name" }]
        hasBody := true },
      { name := "enum"
        kind := "enum"
        pattern := [
          .token { type := "keyword", value := some "enum" },
          .token { type := "identifier", capture := some "name" }]
        hasBody := true },
      { name := "trait"
        kind := "trait"
        pattern := [
          .token { type := "keyword", value := some "trait" },
          .token { type := "identifier", capture := some "name" }]
        hasBody := true },
      { name := "impl"
        kind := "impl"
        pattern := [
          .token { type := "keyword", value := some "impl" },
          .token { type := "identifier", capture := some "name" }]
        hasBody := true },
      { name := "generic-impl"
        kind := "impl"
        pattern := [
          .token { type := "keyword", value := some "impl" },
          .token { type := "operator", value := some "<" },
          .skip (some 9),
          .token { type := "operator", value := some ">" },
          .token { type := "identifier", capture := some "name" }]
        hasBody := true },
      { name := "module"
        kind := "module"
        pattern := [
          .token { type := "keyword", value := some "mod" },
          .token { type := "identifier", capture := some "name" }]
        hasBody := true },
      { name := "constant"
        kind := "constant"
        pattern := [
          .anyOf [
            { type := "keyword", value := some "const" },
            { type := "keyword", value := some "static" }],
          .optional { type := "keyword", value := some "mut" },
          .token { type := "identifier", capture := some "name" }] },
      { name := "type"
        kind := "type"
        pattern := [
          .token { type := "keyword", value := some "type" },
          .token { type := "identifier", capture := some "name" }] },
      { name := "macro"
        kind := "macro"
        pattern := [
          .token { type := "identifier", value := some "macro_rules" },
          .token { type := "operator", value := some "!" },
          .token { type := "identifier", capture := some "name" }]
        hasBody := true }]
    folding := some { blocks := ["braces", "brackets"], comments := true } }

end Polyglot.Builtin
