import Polyglot.Profile.Basic

/-!
# `Polyglot.Builtin.Xml`: the profile of XML
-/

set_option autoImplicit false

namespace Polyglot.Builtin

/-- The profile of XML. -/
def xml : Profile where
  name := "xml"
  displayName := "XML"
  fileExtensions := [".xml", ".xsd", ".xsl", ".xslt", ".svg", ".plist", ".xaml"]
  mimeTypes := ["application/xml", "text/xml"]
  lexer := {
    tokenTypes := .ofList [
      ("whitespace", .whitespace), ("newline", .newline), ("comment", .comment),
      ("cdata", .string), ("processing", .directive), ("doctype", .directive), ("tag", .tag),
      ("entity", .escape), ("text", .plain), ("attribute", .attribute), ("operator", .operator),
      ("string", .string)]
    states := .ofList [
      ("default", [
        { matcher := .delimited { opening := "<!--", closing := "-->", multiline := true }
          token := "comment" },
        { matcher := .delimited { opening := "<![CDATA[", closing := "]]>", multiline := true }
          token := "cdata" },
        { matcher := .delimited { opening := "<?", closing := "?>", multiline := true }
          token := "processing" },
        { matcher := .delimited { opening := "<!", closing := ">", multiline := true }
          token := "doctype" },
        { matcher := .pattern "</?[A-Za-z_:][\\w:.\\-]*", token := "tag", push := some "tag" },
        { matcher := .pattern "&(?:[A-Za-z][A-Za-z0-9]*|#[0-9]+|#[xX][0-9a-fA-F]+);"
          token := "entity" },
        { matcher := .charSequence (.predefined .whitespace) (some (.predefined .whitespace))
          token := "whitespace" },
        { matcher := .charSequence (.predefined .newline) (some (.predefined .newline))
          token := "newline" },
        { matcher := .charSequence (.negate (.union [
              .chars "<&",
              .predefined .whitespace,
              .predefined .newline])) (some (.negate (.union [
              .chars "<&",
              .predefined .whitespace,
              .predefined .newline])))
          token := "text" },
        { matcher := .literal (.many ["<", "&"]), token := "text" }]),
      ("tag", [
        { matcher := .charSequence (.predefined .whitespace) (some (.predefined .whitespace))
          token := "whitespace" },
        { matcher := .charSequence (.predefined .newline) (some (.predefined .newline))
          token := "newline" },
        { matcher := .literal (.many ["/>", ">", "?>"]), token := "tag", pop := true },
        { matcher := .pattern "[A-Za-z_:][\\w:.\\-]*", token := "attribute" },
        { matcher := .literal (.one "="), token := "operator" },
        { matcher := .delimited { opening := "\"", closing := "\"", multiline := true }
          token := "string" },
        { matcher := .delimited { opening := "'", closing := "'", multiline := true }
          token := "string" }])]
    skipTokens := some ["whitespace", "newline", "comment"] }
  structure? := some { folding := some { comments := true } }

end Polyglot.Builtin
