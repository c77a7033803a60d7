import DocQuery.Collection.Basic
import DocQuery.Toml.Reader

/-!
# The collections file

The definitions of all collections, as a list of tables named `collection` in a TOML file.  Other
keys of the file do not count.
-/

namespace DocQuery

/-- Read the definitions out of a file's value. -/
def Collection.decodeFile : Decoder (List Collection) :=
  Decoder.keyedRecord
    [.defaulted ["collection"] (Decoder.list Collection.decode) fun cs _ => cs] []

/-- The definitions of a file. -/
def Collection.ofToml? (text : String) : Option (List Collection) :=
  (Toml.read? text).bind fun file => (Json.object file).decode? Collection.decodeFile

end DocQuery
