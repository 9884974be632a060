import Polyglot.Profile.Basic

/-!
# `Polyglot.Builtin.Markdown`: the profile of Markdown
-/

set_option autoImplicit false

namespace Polyglot.Builtin

/-- The profile of Markdown. -/
def markdown : Profile where
  name := "markdown"
  displayName := "Markdown"
  fileExtensions := [".md", ".markdown", ".mdown", ".mkd"]
  mimeTypes := ["text/markdown"]
  lexer := {
    tokenTypes := .ofList [
      ("whitespace", .whitespace), ("newline", .newline), ("heading", .keyword),
      ("code", .string), ("strong", .constant), ("emphasis", .variableName),
      ("link", .attribute), ("tag", .tag), ("escape", .escape), ("rule", .punctuation),
      ("marker", .punctuation), ("text", .plain), ("comment", .comment)]
    states := .ofList [
      ("default", [
        { matcher := .charSequence (.predefined .whitespace) (some (.predefined .whitespace))
          token := "whitespace" },
        { matcher := .charSequence (.predefined .newline) (some (.predefined .newline))
          token := "newline" },
        { matcher := .delimited { opening := "```", closing := "```", multiline := true }
          token := "code" },
        { matcher := .delimited { opening := "~~~", closing := "~~~", multiline := true }
          token := "code" },
        { matcher := .delimited { opening := "`", closing := "`" }, token := "code" },
        { matcher := .pattern "#\x7b1,6\x7d(?:[ \\t][^\\r\\n]*)?(?m:$)", token := "heading" },
        { matcher := .pattern "(?:-\x7b3,\x7d|\\*\x7b3,\x7d|_\x7b3,\x7d)(?m:$)", token := "rule" },
        { matcher := .pattern "(?:[-*+]|[0-9]+[.)])[ \\t]", token := "marker" },
        { matcher := .literal (.one ">"), token := "marker" },
        { matcher := .pattern "\\*\\*[^*\\r\\n]+\\*\\*|__[^_\\r\\n]+__", token := "strong" },
        { matcher := .pattern "\\*[^*\\r\\n]+\\*|_[^_\\r\\n]+_", token := "emphasis" },
        { matcher := .pattern "!?\\[[^\\]\\r\\n]*\\](?:\\([^)\\r\\n]*\\)|\\[[^\\]\\r\\n]*\\])?"
          token := "link" },
        { matcher := .delimited { opening := "<!--", closing := "-->", multiline := true }
          token := "comment" },
        { matcher := .pattern "</?[A-Za-z][^>\\r\\n]*>", token := "tag" },
        { matcher := .pattern "\\\\[\\s\\S]", token := "escape" },
        { matcher := .charSequence (.negate (.union [
              .chars "`*_[!<\\#>~",
              .predefined .whitespace,
              .predefined .newline])) (some (.negate (.union [
              .chars "`*_[!<\\",
              .predefined .whitespace,
              .predefined .newline])))
          token := "text" },
        { matcher := .charSequence (.negate (.predefined .newline)) none, token := "text" }])]
    skipTokens := some ["whitespace", "newline"] }
  structure? := some {
    symbols := [
      { name := "heading"
        kind := "heading"
        pattern := [.token { type := "heading", capture := some "name" }] }] }

end Polyglot.Builtin
