import FileServer.Settings.Error

/-!
Settings as they are given: values of several kinds, nested in sequences and tables. A value knows
where it was given; tables that were put together from several places do not.
-/

namespace FileServer

/-- A value without parts. Whole numbers have at most 64 bits. -/
inductive Scalar where
  | nothing
  | boolean (b : Bool)
  | integer (n : Int)
  | floating (x : Binary64)
  | string (s : String)
  deriving Repr, DecidableEq, Inhabited

/-- A value of the settings, with the place where it was given. -/
inductive Value where
  | scalar (origin : Option String) (s : Scalar)
  | sequence (origin : Option String) (items : List Value)
  | table (origin : Option String) (entries : List (String × Value))
  deriving Repr, Inhabited

namespace Value

/-- A text of which the place is not yet known. -/
def text (s : String) : Value := scalar none (.string s)

/-- A whole number of which the place is not yet known. -/
def integer (n : Int) : Value := scalar none (.integer n)

/-- A floating-point number of which the place is not yet known. -/
def floating (x : Binary64) : Value := scalar none (.floating x)

/-- A truth value of which the place is not yet known. -/
def boolean (b : Bool) : Value := scalar none (.boolean b)

/-- The absence of a value. -/
def nothing : Value := scalar none .nothing

/-- A table without entries. -/
def emptyTable : Value := table none []

/-- Where the value was given. -/
def origin? : Value → Option String
  | scalar origin _ => origin
  | sequence origin _ => origin
  | table origin _ => origin

mutual

/-- The value, given at a place with all its parts. -/
def givenAt (place : String) : Value → Value
  | scalar _ s => scalar (some place) s
  | sequence _ items => sequence (some place) (allGivenAt place items)
  | table _ entries => table (some place) (entriesGivenAt place entries)

/-- The values, given at a place. -/
def allGivenAt (place : String) : List Value → List Value
  | [] => []
  | v :: rest => givenAt place v :: allGivenAt place rest

/-- The entries, given at a place. -/
def entriesGivenAt (place : String) : List (String × Value) → List (String × Value)
  | [] => []
  | (k, v) :: rest => (k, givenAt place v) :: entriesGivenAt place rest

end

/-- The value as it is named where another kind was expected. -/
def found : Value → Found
  | scalar _ .nothing => .unit
  | scalar _ (.boolean b) => .boolean b
  | scalar _ (.integer n) => .integer n
  | scalar _ (.floating x) => .floating x
  | scalar _ (.string s) => .string s
  | sequence .. => .sequence
  | table .. => .map

/-- Puts a value under a key, in the place of the one that stood there. -/
def putEntry (key : String) (v : Value) : List (String × Value) → List (String × Value)
  | [] => [(key, v)]
  | e :: rest => if e.1 = key then (key, v) :: rest else e :: putEntry key v rest

end Value

end FileServer
