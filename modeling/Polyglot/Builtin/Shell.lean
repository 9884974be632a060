import Polyglot.Profile.Basic

/-!
# `Polyglot.Builtin.Shell`: the profile of Shell
-/

set_option autoImplicit false

namespace Polyglot.Builtin

/-- The profile of Shell. -/
def shell : Profile where
  name := "shell"
  displayName := "Shell"
  fileExtensions := [".sh", ".bash", ".zsh", ".ksh"]
  mimeTypes := ["application/x-sh", "text/x-shellscript"]
  lexer := {
    charClasses := .ofList [("word", .union [.predefined .alphanumeric, .chars "_./~%+@,:-"])]
    tokenTypes := .ofList [
      ("whitespace", .whitespace), ("newline", .newline), ("comment", .comment),
      ("string", .string), ("number", .number), ("keyword", .keyword), ("constant", .constant),
      ("identifier", .identifier), ("operator", .operator), ("punctuation", .punctuation),
      ("variable", .variableName), ("shebang", .directive), ("escape", .escape),
      ("word", .identifier)]
    states := .ofList [
      ("default", [
        { matcher := .charSequence (.predefined .whitespace) (some (.predefined .whitespace))
          token := "whitespace" },
        { matcher := .charSequence (.predefined .newline) (some (.predefined .newline))
          token := "newline" },
        { matcher := .line "#!", token := "shebang" },
        { matcher := .pattern
            "\\$(?:\\\x7b[^\x7d\\r\\n]*\\\x7d|[A-Za-z_][A-Za-z0-9_]*|[0-9#?$!@*\\-])"
          token := "variable" },
        { matcher := .line "#", token := "comment" },
        { matcher := .delimited {
            opening := "\""
            closing := "\""
            escape := some '\\'
            multiline := true }
          token := "string" },
        { matcher := .delimited { opening := "'", closing := "'", multiline := true }
          token := "string" },
        { matcher := .delimited {
            opening := "`"
            closing := "`"
            escape := some '\\'
            multiline := true }
          token := "string" },
        { matcher := .pattern "\\\\[\\s\\S]", token := "escape" },
        { matcher := .keywords [
            "case", "do", "done", "elif", "else", "esac", "fi", "for", "function", "if", "in",
            "select", "then", "time", "until", "while", "break", "continue", "declare", "export",
            "local", "readonly", "return", "shift", "source", "unset"]
          token := "keyword" },
        { matcher := .number {}, token := "number" },
        { matcher := .charSequence (.ref "word") (some (.ref "word")), token := "word" },
        { matcher := .literal (.many [
            "$((", "$(", "&&", "||", ";;", ";&", ">>", "<<<", "<<", "<&", ">&", "&>", "|&", "((",
            "))", "[[", "]]", "|", "&", ";", "<", ">", "=", "!", "$", "?", "*", "^", "\\"])
          token := "operator" },
        { matcher := .literal (.many ["(", ")", "\x7b", "\x7d", "[", "]"])
          token := "punctuation" }])]
    skipTokens := some ["whitespace", "newline", "comment"] }
  structure? := some {
    blocks := [
      { name := "braces", opening := "\x7b", closing := "\x7d" },
      { name := "parens", opening := "(", closing := ")" },
      { name := "brackets", opening := "[", closing := "]" }]
    symbols := [
      { name := "function"
        kind := "function"
        pattern := [
          .token { type := "keyword", value := some "function" },
          .token { type := "word", capture := some "name" }]
        hasBody := true },
      { name := "posix-function"
        kind := "function"
        pattern := [
          .token { type := "word", capture := some "name" },
          .token { type := "punctuation", value := some "(" },
          .token { type := "punctuation", value := some ")" }]
        hasBody := true }]
    folding := some { blocks := ["braces"], comments := true } }

end Polyglot.Builtin
