import SchemaEvolution.Json.Token

/-! # From tokens to a JSON value

A value is put together from its tokens one at a time.  The state is the stack of containers that
have been opened and not closed, innermost first, and what may come next.  `parse?` scans a text
and assembles its tokens; it accepts exactly one value, with at most 127 containers open at once.
-/

namespace SchemaEvolution.Json

/-- An open container with the entries that it holds so far, last first. -/
inductive Frame
  | items (done : List Json)
  /-- The key belongs to the member whose value comes next. -/
  | members (done : List (String × Json)) (key : String)

/-- What may come next.  An empty container, an object between two members and a finished value
    are states of their own. -/
inductive Assembly
  /-- A value. -/
  | value (stack : List Frame)
  /-- A first item, or the end of an empty array. -/
  | firstItem (stack : List Frame)
  /-- A first key, or the end of an empty object. -/
  | firstKey (stack : List Frame)
  /-- The key of a further member. -/
  | key (done : List (String × Json)) (stack : List Frame)
  /-- The colon after a key. -/
  | colon (done : List (String × Json)) (key : String) (stack : List Frame)
  /-- A comma or the end of the array. -/
  | afterItem (done : List Json) (stack : List Frame)
  /-- A comma or the end of the object. -/
  | afterMember (done : List (String × Json)) (stack : List Frame)
  /-- Nothing more. -/
  | finished (value : Json)

namespace Assembly

/-- How many containers may be open at once. -/
def maxDepth : Nat := 127

/-- Put a finished value into the innermost open container. -/
def deliver (value : Json) : List Frame → Assembly
  | [] => .finished value
  | .items done :: stack => .afterItem (value :: done) stack
  | .members done k :: stack => .afterMember ((k, value) :: done) stack

def begin? (stack : List Frame) : Token → Option Assembly
  | .scalar v => some (deliver v stack)
  | .text s => some (deliver (.string s) stack)
  | .openBracket => if stack.length < maxDepth then some (.firstItem stack) else none
  | .openBrace => if stack.length < maxDepth then some (.firstKey stack) else none
  | _ => none

def step? : Assembly → Token → Option Assembly
  | .value stack, token => begin? stack token
  | .firstItem stack, .closeBracket => some (deliver (.array []) stack)
  | .firstItem stack, token => begin? (.items [] :: stack) token
  | .firstKey stack, .closeBrace => some (deliver (.object []) stack)
  | .firstKey stack, .text k => some (.colon [] k stack)
  | .key done stack, .text k => some (.colon done k stack)
  | .colon done k stack, .colon => some (.value (.members done k :: stack))
  | .afterItem done stack, .comma => some (.value (.items done :: stack))
  | .afterItem done stack, .closeBracket => some (deliver (.array done.reverse) stack)
  | .afterMember done stack, .comma => some (.key done stack)
  | .afterMember done stack, .closeBrace => some (deliver (.object done.reverse) stack)
  | _, _ => none

def run? : Assembly → List Token → Option Assembly
  | state, [] => some state
  | state, token :: tokens => (state.step? token).bind fun next => run? next tokens

def result? : Assembly → Option Json
  | .finished v => some v
  | _ => none

end Assembly

/-- Read the text of one JSON value. -/
def parse? (text : String) : Option Json :=
  (scan? text.toList).bind fun tokens =>
    ((Assembly.value []).run? tokens).bind Assembly.result?

end SchemaEvolution.Json
