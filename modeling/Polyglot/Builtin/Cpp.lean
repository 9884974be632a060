import Polyglot.Profile.Basic

/-!
# `Polyglot.Builtin.Cpp`: the profile of C++
-/

set_option autoImplicit false

namespace Polyglot.Builtin

/-- The profile of C++. -/
def cpp : Profile where
  name := "cpp"
  displayName := "C++"
  fileExtensions := [".cpp", ".cc", ".cxx", ".c++", ".hpp", ".hh", ".hxx", ".h++"]
  mimeTypes := ["text/x-c++src", "text/x-c++hdr"]
  lexer := {
    states := .ofList [
      ("default", [
        { matcher := .charSequence (.predefined .whitespace) (some (.predefined .whitespace))
          token := "whitespace" },
        { matcher := .charSequence (.predefined .newline) (some (.predefined .newline))
          token := "newline" },
        { matcher := .line "//", token := "comment" },
        { matcher := .delimited { opening := "/*", closing := "*/", multiline := true }
          token := "comment" },
        { matcher := .pattern "#[ \\t]*include\\b", token := "directive", push := some "include" },
        { matcher := .pattern "#[ \\t]*[A-Za-z_]+", token := "directive" },
        { matcher := .pattern "(?:u8|u|U|L)?R\"\\((?s:.*?)\\)\"", token := "string" },
        { matcher := .delimited { opening := "\"", closing := "\"", escape := some '\\' }
          token := "string" },
        { matcher := .delimited { opening := "'", closing := "'", escape := some '\\' }
          token := "string" },
        { matcher := .number {
            hex := true
            binary := true
            float := true
            scientific := true
            separator := some '\''
            suffixes := [
              "u", "U", "l", "L", "ul", "UL", "uL", "Ul", "lu", "LU", "ll", "LL", "ull", "ULL",
              "f", "F"] }
          token := "number" },
        { matcher := .keywords [
            "auto", "break", "case", "const", "continue", "default", "do", "else", "enum",
            "extern", "for", "goto", "if", "inline", "register", "restrict", "return", "sizeof",
            "static", "struct", "switch", "typedef", "union", "volatile", "while", "_Alignas",
            "_Alignof", "_Atomic", "_Generic", "_Noreturn", "_Static_assert", "_Thread_local",
            "alignas", "alignof", "catch", "class", "concept", "consteval", "constexpr",
            "constinit", "co_await", "co_return", "co_yield", "decltype", "delete", "explicit",
            "export", "final", "friend", "module", "mutable", "namespace", "new", "noexcept",
            "operator", "override", "private", "protected", "public", "requires",
            "static_assert", "template", "this", "thread_local", "throw", "try", "typeid",
            "typename", "using", "virtual"]
          token := "keyword" },
        { matcher := .keywords [
            "bool", "char", "double", "float", "int", "long", "short", "signed", "unsigned",
            "void", "_Bool", "_Complex", "size_t", "ssize_t", "ptrdiff_t", "int8_t", "int16_t",
            "int32_t", "int64_t", "uint8_t", "uint16_t", "uint32_t", "uint64_t", "char8_t",
            "char16_t", "char32_t", "wchar_t"]
          token := "type" },
        { matcher := .keywords ["true", "false", "nullptr", "NULL"], token := "constant" },
        { matcher := .charSequence (.ref "identStart") (some (.ref "identPart"))
          token := "identifier" },
        { matcher := .literal (.many [
            "<=>", "::", "->*", ".*", "...", "##", "#", "<<=", ">>=", "->", "++", "--", "==",
            "!=", "<=", ">=", "&&", "||", "+=", "-=", "*=", "/=", "%=", "&=", "|=", "^=", "<<",
            ">>", "+", "-", "*", "/", "%", "&", "|", "^", "!", "~", "=", "<", ">", "?", ":"])
          token := "operator" },
        { matcher := .literal (.many ["(", ")", "[", "]", "\x7b", "\x7d", ";", ",", ".", "\\"])
          token := "punctuation" }])] }
  structure? := some {
    symbols := [
      { name := "namespace"
        kind := "namespace"
        pattern := [
          .token { type := "keyword", value := some "namespace" },
          .token { type := "identifier", capture := some "name" }]
        hasBody := true },
      { name := "class"
        kind := "class"
        pattern := [
          .token { type := "keyword", value := some "class" },
          .token { type := "identifier", capture := some "name" },
          .token { type := "punctuation", value := some "\x7b" }]
        hasBody := true },
      { name := "derived-class"
        kind := "class"
        pattern := [
          .token { type := "keyword", value := some "class" },
          .token { type := "identifier", capture := some "name" },
          .token { type := "operator", value := some ":" },
          .skip (some 7),
          .token { type := "punctuation", value := some "\x7b" }]
        hasBody := true }] }
  parent := some "c"

end Polyglot.Builtin
