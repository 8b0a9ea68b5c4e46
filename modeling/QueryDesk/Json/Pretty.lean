import QueryDesk.Json.Quoted

/-!
# Objects on several lines

An object is written with one member a line, two spaces before it and a blank after
the colon. An object without members is a pair of braces.
-/
namespace QueryDesk.Json

/-- A member with its value in written form. -/
def prettyMember (key value : List Char) : List Char :=
  [' ', ' '] ++ quote key ++ [':', ' '] ++ value

/-- An object with its values in written form, without an end of line after it. -/
def prettyObject (members : List (List Char × List Char)) : List Char :=
  if members.isEmpty then ['\x7b', '\x7d']
  else
    let lines := members.map fun (key, value) => prettyMember key value
    ['\x7b', '\n'] ++ [',', '\n'].intercalate lines ++ ['\n', '\x7d']

/-- A map of strings on several lines. -/
def prettyStringMap (entries : List (String × String)) : List Char :=
  prettyObject (entries.map fun (key, value) => (key.toList, quote value.toList))

end QueryDesk.Json
