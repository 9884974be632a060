import Polyglot.Profile.Basic

/-!
# `Polyglot.Builtin.Swift`: the profile of Swift
-/

set_option autoImplicit false

namespace Polyglot.Builtin

/-- The profile of Swift. -/
def swift : Profile where
  name := "swift"
  displayName := "Swift"
  fileExtensions := [".swift"]
  mimeTypes := ["text/x-swift"]
  lexer := {
    charClasses := .ofList [
      ("identStart", .union [.predefined .letter, .chars "_"]),
      ("identPart", .union [.predefined .alphanumeric, .chars "_"])]
    tokenTypes := .ofList [
      ("whitespace", .whitespace), ("newline", .newline), ("comment", .comment),
      ("string", .string), ("number", .number), ("keyword", .keyword), ("constant", .constant),
      ("identifier", .identifier), ("operator", .operator), ("punctuation", .punctuation),
      ("type", .type), ("decorator", .decorator), ("directive", .directive)]
    states := .ofList [
      ("default", [
        { matcher := .charSequence (.predefined .whitespace) (some (.predefined .whitespace))
          token := "whitespace" },
        { matcher := .charSequence (.predefined .newline) (some (.predefined .newline))
          token := "newline" },
        { matcher := .line "//", token := "comment" },
        { matcher := .delimited { opening := "/*", closing := "*/", multiline := true }
          token := "comment" },
        { matcher := .pattern "#\"[^\"\\r\\n]*\"#", token := "string" },
        { matcher := .delimited {
            opening := "\"\"\""
            closing := "\"\"\""
            escape := some '\\'
            multiline := true }
          token := "string" },
        { matcher := .delimited { opening := "\"", closing := "\"", escape := some '\\' }
          token := "string" },
        { matcher := .pattern "#[A-Za-z_]+", token := "directive" },
        { matcher := .sequence [
            .literal (.one "@"),
            .charSequence (.ref "identStart") (some (.ref "identPart"))]
          token := "decorator" },
        { matcher := .delimited { opening := "`", closing := "`" }, token := "identifier" },
        { matcher := .number {
            hex := true
            binary := true
            float := true
            scientific := true
            separator := some '_'
            suffixes := ["L", "l", "f", "F", "d", "D", "m", "M", "u", "U", "UL", "ul", "uL"] }
          token := "number" },
        { matcher := .keywords [
            "any", "as", "associatedtype", "async", "await", "break", "case", "catch", "class",
            "continue", "convenience", "default", "defer", "deinit", "do", "else", "enum",
            "extension", "fallthrough", "fileprivate", "final", "for", "func", "guard", "if",
            "import", "in", "indirect", "init", "inout", "internal", "is", "lazy", "let",
            "mutating", "nonmutating", "open", "operator", "override", "precedencegroup",
            "private", "protocol", "public", "repeat", "required", "rethrows", "return", "self",
            "Self", "some", "static", "struct", "subscript", "super", "switch", "throw",
            "throws", "try", "typealias", "unowned", "var", "weak", "where", "while"]
          token := "keyword" },
        { matcher := .keywords [
            "Any", "Bool", "Character", "Double", "Float", "Int", "String", "UInt", "Void"]
          token := "type" },
        { matcher := .keywords ["true", "false", "nil"], token := "constant" },
        { matcher := .charSequence (.ref "identStart") (some (.ref "identPart"))
          token := "identifier" },
        { matcher := .literal (.many [
            "===", "!==", "...", "..<", "->", "??", "?.", "==", "!=", "<=", ">=", "&&", "||",
            "+=", "-=", "*=", "/=", "%=", "&=", "|=", "^=", "<<", ">>", "+", "-", "*", "/", "%",
            "&", "|", "^", "!", "~", "=", "<", ">", "?", ":"])
          token := "operator" },
        { matcher := .literal (.many [
            "(", ")", "[", "]", "\x7b", "\x7d", ";", ",", ".", "@", "#", "\\"])
          token := "punctuation" }])]
    skipTokens := some ["whitespace", "newline", "comment"] }
  structure? := some {
    blocks := [
      { name := "braces", opening := "\x7b", closing := "\x7d" },
      { name := "parens", opening := "(", closing := ")" },
      { name := "brackets", opening := "[", closing := "]" }]
    symbols := [
      { name := "func"
        kind := "function"
        pattern := [
          .token { type := "keyword", value := some "func" },
          .token { type := "identifier", capture := some "name" }]
        hasBody := true },
      { name := "class"
        kind := "class"
        pattern := [
          .token { type := "keyword", value := some "class" },
          .token { type := "identifier", capture := some "name" }]
        hasBody := true },
      { name := "struct"
        kind := "struct"
        pattern := [
          .token { type := "keyword", value := some "struct" },
          .token { type := "identifier", capture := some "name" }]
        hasBody := true },
      { name := "enum"
        kind := "enum"
        pattern := [
          .token { type := "keyword", value := some "enum" },
          .token { type := "identifier", capture := some "name" }]
        hasBody := true },
      { name := "protocol"
        kind := "interface"
        pattern := [
          .token { type := "keyword", value := some "protocol" },
          .token { type := "identifier", capture := some "name" }]
        hasBody := true },
      { name := "extension"
        kind := "extension"
        pattern := [
          .token { type := "keyword", value := some "extension" },
          .token { type := "identifier", capture := some "name" }]
        hasBody := true }]
    folding := some { blocks := ["braces", "brackets"], comments := true } }

end Polyglot.Builtin
