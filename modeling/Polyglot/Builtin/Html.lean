import Polyglot.Profile.Basic

/-!
# `Polyglot.Builtin.Html`: the profile of HTML
-/

set_option autoImplicit false

namespace Polyglot.Builtin

/-- The profile of HTML. -/
def html : Profile where
  name := "html"
  displayName := "HTML"
  fileExtensions := [".html", ".htm", ".xhtml"]
  mimeTypes := ["text/html"]
  lexer := {
    states := .ofList [
      ("tag", [
        { matcher := .charSequence (.predefined .whitespace) (some (.predefined .whitespace))
          token := "whitespace" },
        { matcher := .charSequence (.predefined .newline) (some (.predefined .newline))
          token := "newline" },
        { matcher := .literal (.many ["/>", ">", "?>"]), token := "tag", pop := true },
        { matcher := .pattern "[A-Za-z_:][\\w:.\\-]*", token := "attribute" },
        { matcher := .literal (.one "="), token := "operator" },
        { matcher := .delimited { opening := "\"", closing := "\"", multiline := true }
          token := "string" },
        { matcher := .delimited { opening := "'", closing := "'", multiline := true }
          token := "string" },
        { matcher := .pattern "[^\\s\\x22'=<>`]+", token := "string" }])] }
  embeddedLanguages := some [
    { language := "javascript", opening := "<script", closing := "</script>" },
    { language := "css", opening := "<style", closing := "</style>" }]
  parent := some "xml"

end Polyglot.Builtin
