import Polyglot.Builtin.C
import Polyglot.Builtin.CSharp
import Polyglot.Builtin.Cpp
import Polyglot.Builtin.Css
import Polyglot.Builtin.Go
import Polyglot.Builtin.Html
import Polyglot.Builtin.Java
import Polyglot.Builtin.JavaScript
import Polyglot.Builtin.JsonData
import Polyglot.Builtin.Kotlin
import Polyglot.Builtin.Markdown
import Polyglot.Builtin.Php
import Polyglot.Builtin.Python
import Polyglot.Builtin.Ruby
import Polyglot.Builtin.Rust
import Polyglot.Builtin.Scss
import Polyglot.Builtin.Shell
import Polyglot.Builtin.Sql
import Polyglot.Builtin.Swift
import Polyglot.Builtin.Toml
import Polyglot.Builtin.TypeScript
import Polyglot.Builtin.Xml
import Polyglot.Builtin.Yaml
import Polyglot.Engine

/-!
# `Polyglot.Builtin.All`: the profiles that come with the library
-/

set_option autoImplicit false

namespace Polyglot.Builtin

/-- The built-in profiles in their fixed order. -/
def profiles : List Profile :=
  [c, cpp, csharp, css, go, html, java, javascript, json, kotlin, markdown, php, python, ruby, rust,
    scss, shell, sql, swift, toml, typescript, xml, yaml]

/-- The names of the built-in profiles in their fixed order. -/
def names : List String := profiles.map (·.name)

/-- The registry of the built-in profiles. -/
def registry : Registry := Registry.registerAll {} profiles

end Polyglot.Builtin

/-- An engine that knows the built-in profiles. -/
def Polyglot.Engine.withBuiltins (settings : Polyglot.Settings) : Polyglot.Engine :=
  .new Polyglot.Builtin.registry settings
