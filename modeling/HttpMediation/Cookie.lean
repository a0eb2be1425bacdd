/-!
# Cookie — what a cookie to be set consists of
-/

namespace HttpMediation

/-- A cookie to be set.  Its security attributes are not the caller's to choose. -/
structure Cookie where
  name : String
  value : String
  /-- Seconds to live; a negative number counts as zero. -/
  maxAge : Option Int := none
  domain : Option String := none
  path : Option String := none
  deriving DecidableEq, Repr

/-- The cookie that makes the client forget the one of that name. -/
def Cookie.expired (name : String) : Cookie :=
  { name := name, value := "", maxAge := some 0, path := some "/" }

end HttpMediation
