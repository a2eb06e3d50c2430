import ParseForest.Regex.Library
import ParseForest.Regex.Standard.Parser
import ParseForest.Regex.Standard.Size

namespace ParseForest.Regex

-- The library that programs run with. It knows part of the syntax and of the properties of characters and refuses the
-- rest. General results are not about it: they hold of every library.
instance standard : Library where
  Compiled := Standard.Expr
  compile? text := do
    let expr ← Standard.Expr.parse? text
    if expr.fits then some expr else none
  matchesChar expr c := (expr.effect c).isMatch

end ParseForest.Regex
