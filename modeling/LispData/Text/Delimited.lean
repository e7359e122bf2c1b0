/-!
# Delimited text — a text between double quotes, character by character

Quoted texts and string literals share one shape: an opening double quote, the
code of each character in turn, a closing double quote. They differ in the code
alone.
-/

namespace LispData

/-- The text of `s` between double quotes, each character given by its code. -/
def delimited (code : Char → List Char) (s : String) : String :=
  String.ofList ('"' :: (s.toList.flatMap code ++ ['"']))

theorem toList_delimited (code : Char → List Char) (s : String) :
    (delimited code s).toList = '"' :: (s.toList.flatMap code ++ ['"']) :=
  String.toList_ofList

end LispData
