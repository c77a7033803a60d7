import DocQuery.Text.Blank

/-!
# Restricted fields

A restricted field hides itself and everything below it.
-/

namespace DocQuery

/-- Whether a path names the given field or a place below it. -/
def isAtOrBelow (field path : String) : Bool :=
  path == field || (field.toList ++ ['.']).isPrefixOf path.toList

/-- Whether a path is restricted. -/
def isRestricted (restricted : List String) (path : String) : Bool :=
  restricted.any fun field => isAtOrBelow field path

end DocQuery
