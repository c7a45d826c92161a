import GameLobby.Binary64
import GameLobby.Text.Quoted

/-!
# JSON values

A JSON value keeps what its text distinguishes: an integer is exact and apart from a floating-point
number, and the members of an object stand in the order of their names' first occurrences. Request
bodies and settings hold such values before they are checked.
-/

namespace GameLobby

/-- A JSON value. -/
inductive Json where
  | null
  | bool (b : Bool)
  | int (n : Int)
  | float (x : Binary64)
  | str (t : Text)
  | arr (items : List Json)
  | obj (members : List (Text × Json))
  deriving Inhabited

namespace Json

/-- The value of a member of an object. -/
def get? (v : Json) (name : Text) : Option Json :=
  match v with
  | obj members => members.lookup name
  | _ => none

/-- Members with one more: a name that is there keeps its place and takes the new value. -/
def put (name : Text) (v : Json) : List (Text × Json) → List (Text × Json)
  | [] => [(name, v)]
  | (n, w) :: rest => if n = name then (n, v) :: rest else (n, w) :: put name v rest

/-- Whether a value counts as an affirmative answer: it is neither nothing, zero nor empty. -/
def isTruthy : Json → Bool
  | null => false
  | bool b => b
  | int n => n != 0
  | float x => !x.isZero
  | str t => !t.isEmpty
  | arr items => !items.isEmpty
  | obj members => !members.isEmpty

mutual

/-- A value as a message echoes it. -/
def echo : Json → String
  | null => "None"
  | bool b => if b then "True" else "False"
  | int n => toString n
  | float x => x.text
  | str t => t.quoted
  | arr items => "[" ++ String.intercalate ", " (echoItems items) ++ "]"
  | obj members => "\x7b" ++ String.intercalate ", " (echoMembers members) ++ "\x7d"

/-- The items of a list as a message echoes them. -/
def echoItems : List Json → List String
  | [] => []
  | v :: rest => echo v :: echoItems rest

/-- The members of an object as a message echoes them. -/
def echoMembers : List (Text × Json) → List String
  | [] => []
  | (name, v) :: rest => (name.quoted ++ ": " ++ echo v) :: echoMembers rest

end

end Json

end GameLobby
