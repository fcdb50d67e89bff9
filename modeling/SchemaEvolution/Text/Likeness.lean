/-! # Likeness of names

How well one name abbreviates another.  The characters of the shorter name have to occur in the
longer one in order; a score rewards characters that follow each other and characters at the
start of a word, and charges for gaps.

The score comes from a table with a row for each character of the pattern and a column for each
place in the text.  Only two rows are kept, and a row is filled into the one that was left two
steps before: cells in front of the first place where a character can stand keep what they had.
-/

namespace SchemaEvolution.Likeness

/-- The characters that matter to the start of a word. -/
inductive Shape
  | upper
  | digit
  /-- A blank, a slash, a bar or a bracket. -/
  | hardBreak
  /-- Another mark of punctuation. -/
  | softBreak
  | other
deriving Repr, DecidableEq

/-- One cell of the table. -/
structure Cell where
  /-- The best score of a match that ends here. -/
  hit : Int
  /-- The best score of a match that ended before. -/
  gap : Int
  /-- What a run of characters was worth that ends here. -/
  bonus : Int
deriving Repr, DecidableEq

/-- One place of the text, with the row above and what the row to fill holds behind the place. -/
structure Place where
  char : Char
  bonus : Int
  above : Cell
  behind : Cell
deriving Repr, DecidableEq

/-- Worse than every score. -/
def hopeless : Int := -32768

def shape (c : Char) : Shape :=
  if c.isUpper then .upper
  else if c.isDigit then .digit
  else if [' ', '/', '\\', '|', '(', ')', '[', ']', '\x7b', '\x7d'].contains c then .hardBreak
  else if '\x21' ≤ c && c ≤ '\x7e' && !c.isAlphanum then .softBreak
  else .other

/-- What it is worth that a character starts a word. -/
def wordBonus (previous : Option Char) (c : Char) : Int :=
  match previous.map shape with
  | none | some .hardBreak => 8
  | some .softBreak => 7
  | some .digit | some .other => if shape c = .upper then 6 else 0
  | some .upper => 0

/-- The bonus of each place; the first place counts twice. -/
def wordBonuses (text : List Char) : List Int :=
  let bonuses := List.zipWith wordBonus (none :: text.map some) text
  match bonuses with
  | [] => []
  | b :: rest => 2 * b :: rest

def agree (exactCase : Bool) (c p : Char) : Bool :=
  if exactCase then c == p else c.toLower == p.toLower

/-- The first places at which the characters of a pattern occur in order. -/
def places? (exactCase : Bool) : Nat → List Char → List Char → Option (List Nat)
  | _, [], _ => some []
  | _, _ :: _, [] => none
  | at_, p :: pattern, c :: text =>
    if agree exactCase c p then (places? exactCase (at_ + 1) pattern text).map (at_ :: ·)
    else places? exactCase (at_ + 1) (p :: pattern) text

/-- Fill a row for one character of the pattern, from the cell `left` on; the first places are
    passed over. -/
def fill (exactCase : Bool) (p : Char) : Nat → Cell → List Place → List Cell
  | _, left, [] => [left]
  | skip + 1, left, place :: rest => left :: fill exactCase p skip place.behind rest
  | 0, left, place :: rest =>
    let gap := max (left.hit - 4) (left.gap - 1)
    if agree exactCase place.char p then
      let run := max left.bonus (max place.bonus 4)
      let worth := if place.char = p then 16 else 14
      let hit := max (place.above.hit + run) (place.above.gap + place.bonus) + worth
      { left with bonus := run } :: fill exactCase p 0 ⟨hit, gap, place.behind.bonus⟩ rest
    else left :: fill exactCase p 0 ⟨hopeless, gap, 0⟩ rest

/-- Fill the row `old` below the row `above`. -/
def nextRow (exactCase : Bool) (text : List Char) (p : Char) (first : Nat)
    (above old : List Cell) : List Cell :=
  match old with
  | [] => []
  | left :: behind =>
    let bare := List.zip (List.zip text (wordBonuses text)) (List.zip above behind)
    fill exactCase p first left (bare.map fun ((c, b), (a, o)) => ⟨c, b, a, o⟩)

/-- The row of the last character, from the last two rows. -/
def lastRow (exactCase : Bool) (text : List Char) :
    List (Char × Nat) → List Cell → List Cell → List Cell
  | [], above, _ => above
  | (p, first) :: rest, above, old =>
    lastRow exactCase text rest (nextRow exactCase text p first above old) above

/-- How well a pattern abbreviates a text; nothing if it does not.  Case counts only if the
    pattern has an upper-case letter. -/
def score? (text pattern : List Char) : Option Int :=
  let exactCase := pattern.any Char.isUpper
  (places? exactCase 0 pattern text).map fun places =>
    let columns := text.length + 1
    let row := lastRow exactCase text (pattern.zip places)
      (List.replicate columns ⟨hopeless, -1, 0⟩) (List.replicate columns ⟨hopeless, hopeless, 0⟩)
    ((row.drop (places.getLastD 0)).map Cell.hit).foldl max hopeless

/-- How alike two names are: the better score of the two directions. -/
def ofNames? (a b : List Char) : Option Int :=
  match score? a b, score? b a with
  | some x, some y => some (max x y)
  | some x, none => some x
  | none, y => y

example : ofNames? ['A', 'c'] ['A', 'c', 'd'] = some 51 := by decide +kernel

example : ofNames? ['A', 'x'] ['A', 'c', 'd'] = none := by decide +kernel

end SchemaEvolution.Likeness
