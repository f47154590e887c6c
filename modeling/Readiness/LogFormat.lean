/-!
# LogFormat — the shape of printed events

`LogFormat.parse` reads the name of a format; the name `json` in any case of its letters chooses one
object a line, and every other name chooses compact text.
-/

namespace Readiness

/-- The shape of printed events. -/
inductive LogFormat where
  | compact
  | json
deriving DecidableEq, Repr, Inhabited

namespace LogFormat

def parse (name : String) : LogFormat :=
  if name.toList.map Char.toLower = ['j', 's', 'o', 'n'] then .json else .compact

def name : LogFormat → String
  | compact => "compact"
  | json => "json"

end LogFormat

end Readiness
