import Polyglot.Profile.Basic

/-!
# `Polyglot.Builtin.Python`: the profile of Python
-/

set_option autoImplicit false

namespace Polyglot.Builtin

/-- The profile of Python. -/
def python : Profile where
  name := "python"
  displayName := "Python"
  fileExtensions := [".py", ".pyi", ".pyw"]
  mimeTypes := ["text/x-python"]
  lexer := {
    charClasses := .ofList [
      ("identStart", .union [.predefined .letter, .chars "_"]),
      ("identPart", .union [.predefined .alphanumeric, .chars "_"])]
    tokenTypes := .ofList [
      ("whitespace", .whitespace), ("newline", .newline), ("comment", .comment),
      ("string", .string), ("number", .number), ("keyword", .keyword), ("constant", .constant),
      ("identifier", .identifier), ("operator", .operator), ("punctuation", .punctuation),
      ("decorator", .decorator)]
    states := .ofList [
      ("default", [
        { matcher := .charSequence (.predefined .whitespace) (some (.predefined .whitespace))
          token := "whitespace" },
        { matcher := .charSequence (.predefined .newline) (some (.predefined .newline))
          token := "newline" },
        { matcher := .line "#", token := "comment" },
        { matcher := .pattern
            "(?:[rRbBuUfF]|[rR][bBfF]|[bBfF][rR])(?:\"\x7b3\x7d[\\s\\S]*?\"\x7b3\x7d|'''[\\s\\S]*?'''|\"(?:[^\"\\\\\\n]|\\\\[\\s\\S])*\"|'(?:[^'\\\\\\n]|\\\\[\\s\\S])*')"
          token := "string" },
        { matcher := .delimited {
            opening := "\"\"\""
            closing := "\"\"\""
            escape := some '\\'
            multiline := true }
          token := "string" },
        { matcher := .delimited {
            opening := "'''"
            closing := "'''"
            escape := some '\\'
            multiline := true }
          token := "string" },
        { matcher := .delimited { opening := "\"", closing := "\"", escape := some '\\' }
          token := "string" },
        { matcher := .delimited { opening := "'", closing := "'", escape := some '\\' }
          token := "string" },
        { matcher := .number {
            hex := true
            octal := true
            binary := true
            float := true
            scientific := true
            separator := some '_'
            suffixes := ["j", "J"] }
          token := "number" },
        { matcher := .sequence [
            .literal (.one "@"),
            .charSequence (.ref "identStart") (some (.union [.ref "identPart", .chars "."]))]
          token := "decorator" },
        { matcher := .keywords [
            "and", "as", "assert", "async", "await", "break", "class", "continue", "def", "del",
            "elif", "else", "except", "finally", "for", "from", "global", "if", "import", "in",
            "is", "lambda", "nonlocal", "not", "or", "pass", "raise", "return", "try", "while",
            "with", "yield"]
          token := "keyword" },
        { matcher := .keywords ["True", "False", "None"], token := "constant" },
        { matcher := .charSequence (.ref "identStart") (some (.ref "identPart"))
          token := "identifier" },
        { matcher := .literal (.many [
            "**=", "//=", ">>=", "<<=", ":=", "->", "**", "//", "==", "!=", "<=", ">=", "<<",
            ">>", "+=", "-=", "*=", "/=", "%=", "&=", "|=", "^=", "@=", "+", "-", "*", "/", "%",
            "&", "|", "^", "~", "<", ">", "=", "@"])
          token := "operator" },
        { matcher := .literal (.many [
            "(", ")", "[", "]", "\x7b", "\x7d", ":", ";", ",", ".", "\\"])
          token := "punctuation" }])]
    skipTokens := some ["whitespace", "newline", "comment"]
    indentation := some { tabWidth := 8 } }
  structure? := some {
    blocks := [
      { name := "braces", opening := "\x7b", closing := "\x7d" },
      { name := "parens", opening := "(", closing := ")" },
      { name := "brackets", opening := "[", closing := "]" }]
    symbols := [
      { name := "class"
        kind := "class"
        pattern := [
          .token { type := "keyword", value := some "class" },
          .token { type := "identifier", capture := some "name" }]
        hasBody := true
        bodyStyle := some .indentation },
      { name := "function"
        kind := "function"
        pattern := [
          .token { type := "keyword", value := some "def" },
          .token { type := "identifier", capture := some "name" }]
        hasBody := true
        bodyStyle := some .indentation }]
    folding := some { blocks := ["braces", "brackets", "parens"], comments := true } }

end Polyglot.Builtin
