/-!
Patterns of `like` comparisons. In a pattern `%` stands for any text and `_` for any one
character; a backslash makes the next character stand for itself.
-/

namespace Metamodel.Query

/-- Text escaped so that, as a pattern, it matches only itself: a backslash goes before each
`%`, `_` and backslash. -/
def escapeLike (text : String) : String :=
  String.ofList (text.toList.flatMap fun c =>
    if c == '%' || c == '_' || c == '\\' then ['\\', c] else [c])

end Metamodel.Query
