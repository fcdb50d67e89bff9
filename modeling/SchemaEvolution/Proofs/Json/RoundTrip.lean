import Mathlib
import SchemaEvolution.Json.Assembly
import SchemaEvolution.Json.Printer

/-! # Printed values read back

The compact text of a value reads back as the value, if its numbers are integers of 64 bits and
its containers are not nested deeper than a reader allows (`Json.parse?_compact`).  Text is scanned
and assembled in one go here: `Json.read?` takes a state of the assembly through a text, and a token
at the front of the text takes the state one step further.
-/

namespace SchemaEvolution

section Numbers

namespace Digits

theorem isDigit_of_mem_write {n : Nat} {c : Char} (member : c ∈ write n) : c.isDigit = true :=
  Nat.isDigit_of_mem_toDigits (by decide) (by decide) member

theorem ofDigitChars_write (n : Nat) : Nat.ofDigitChars 10 (write n) 0 = n :=
  Nat.ofDigitChars_toDigits (by decide) (by decide)

/-- No zero is written in front of other digits. -/
theorem write_of_pos {n : Nat} (positive : 0 < n) :
    ∃ c rest, write n = c :: rest ∧ c ≠ '0' := by
  induction n using Nat.strong_induction_on with
  | _ n ih =>
      by_cases small : n < 10
      · refine ⟨n.digitChar, [], Nat.toDigits_of_lt_base small, ?_⟩
        interval_cases n <;> decide
      · obtain ⟨c, rest, spelled, nonzero⟩ := ih (n / 10) (by omega) (by omega)
        refine ⟨c, rest ++ [(n % 10).digitChar], ?_, nonzero⟩
        rw [write] at spelled ⊢
        rw [Nat.toDigits_of_base_le (by decide) (by omega), spelled, List.cons_append]

end Digits

namespace Numeral

theorem takeWhile_isDigit_write (n : Nat) :
    (Digits.write n).takeWhile Char.isDigit = Digits.write n :=
  List.takeWhile_eq_self_iff.mpr fun _ member => Digits.isDigit_of_mem_write member

theorem dropWhile_isDigit_write (n : Nat) : (Digits.write n).dropWhile Char.isDigit = [] :=
  List.dropWhile_eq_nil_iff.mpr fun _ member => Digits.isDigit_of_mem_write member

theorem split?_write (n : Nat) :
    split? (Digits.write n) = some ⟨none, Digits.write n, none, none⟩ := by
  have digits : ∀ c ∈ Digits.write n, c.isDigit = true :=
    fun c member => Digits.isDigit_of_mem_write member
  unfold split?
  split
  case h_1 sign tail signed =>
    have unsigned : (sign, tail) = (none, Digits.write n) := by
      rw [← signed]
      split
      case h_1 rest plus => cases digits '+' (by simp [plus])
      case h_2 rest minus => cases digits '-' (by simp [minus])
      case h_3 => rfl
    obtain ⟨rfl, rfl⟩ := Prod.mk.inj unsigned
    simp only [takeWhile_isDigit_write, dropWhile_isDigit_write]

theorem split?_neg_write (n : Nat) :
    split? ('-' :: Digits.write n) = some ⟨some '-', Digits.write n, none, none⟩ := by
  simp only [split?, takeWhile_isDigit_write, dropWhile_isDigit_write]

theorem plainWhole_write {n : Nat} {sign : Option Char} {fraction : Option (List Char)}
    {power : Option Int} : plainWhole ⟨sign, Digits.write n, fraction, power⟩ = true := by
  rcases Nat.eq_zero_or_pos n with rfl | positive
  · rfl
  · obtain ⟨c, rest, spelled, nonzero⟩ := Digits.write_of_pos positive
    simp only [plainWhole, spelled]
    split
    case h_1 none => cases none
    case h_2 => rfl
    case h_3 d tail same =>
      obtain ⟨rfl, rfl⟩ := List.cons.inj same
      simpa using nonzero

end Numeral

namespace JsonNumber

/-- An integer that a word of 64 bits holds, signed or unsigned. -/
def InWord (n : Int) : Prop := Digits.int64Min ≤ n ∧ n ≤ Digits.word64Max

theorem read?_writeInt {n : Int} (fits : InWord n) :
    read? (Digits.writeInt n) = some (.integer n) := by
  obtain ⟨low, high⟩ := fits
  cases n with
  | ofNat n =>
      have small : (n : Int) ≤ Digits.word64Max := high
      rw [Digits.writeInt, read?, Numeral.split?_write]
      simp [ofNumeral, Numeral.plainWhole_write, Digits.ofDigitChars_write, small]
  | negSucc n =>
      have small : ¬ -Digits.int64Min ≤ (n : Int) := by omega
      rw [Digits.writeInt, read?, Numeral.split?_neg_write]
      simp [ofNumeral, Numeral.plainWhole_write, Digits.ofDigitChars_write, small]
      omega

end JsonNumber

end Numbers

namespace Json

section Strings

theorem hexDigit?_hexChar {n : Nat} (small : n < 16) : hexDigit? (hexChar n) = some n := by
  interval_cases n <;> decide

/-- A character of a string that is not escaped. -/
theorem text?_cons {c : Char} (quote : c ≠ '"') (backslash : c ≠ '\\') (visible : ¬ c.toNat < 0x20)
    (rest : List Char) : text? (c :: rest) = prepend c (text? rest) := by
  rw [text?.eq_def]
  split
  case h_1 none => cases none
  case h_2 same => exact absurd (List.cons.inj same).1 quote
  case h_3 same => exact absurd (List.cons.inj same).1 backslash
  case h_4 same => exact absurd (List.cons.inj same).1 backslash
  case h_5 d tail _ _ _ same =>
    obtain ⟨rfl, rfl⟩ := List.cons.inj same
    simp [visible, backslash]

theorem hexWord?_control {n : Nat} (control : n < 0x20) :
    hexWord? '0' '0' (hexChar (n / 16)) (hexChar (n % 16)) = some n := by
  have zero : hexDigit? '0' = some 0 := rfl
  simp [hexWord?, zero, hexDigit?_hexChar (show n / 16 < 16 by omega),
    hexDigit?_hexChar (show n % 16 < 16 by omega)]
  omega

/-- A character that is written into a string reads back, whatever comes after it. -/
theorem text?_escape (c : Char) (rest : List Char) :
    text? (escape c ++ rest) = prepend c (text? rest) := by
  unfold escape
  split_ifs with quote backslash back tab line form carriage control
  · subst quote; rfl
  · subst backslash; rfl
  · subst back; rfl
  · subst tab; rfl
  · subst line; rfl
  · subst form; rfl
  · subst carriage; rfl
  · have single : isLeading c.toNat = false ∧ isTrailing c.toNat = false := by
      simp only [isLeading, isTrailing, Bool.and_eq_false_iff, decide_eq_false_iff_not]
      omega
    simp only [List.cons_append, List.nil_append, text?, hexWord?_control control, single.1,
      single.2, Char.ofNat_toNat, Bool.false_eq_true, ↓reduceIte]
  · exact text?_cons quote backslash control rest

theorem text?_foldr_escape (cs rest : List Char) :
    text? (cs.foldr (fun c after => escape c ++ after) ('"' :: rest)) = some (cs, rest) := by
  induction cs with
  | nil => rfl
  | cons c cs ih =>
      rw [List.foldr_cons, text?_escape, ih]
      rfl

end Strings

section Tokens

/-- A text that does not go on with a letter, a digit or another character of a word. -/
def Ends (rest : List Char) : Prop := ∀ c ∈ rest.head?, isWord c = false

theorem ends_cons {c : Char} {rest : List Char} (mark : isWord c = false) : Ends (c :: rest) := by
  intro d head
  obtain rfl := Option.some.inj head
  exact mark

theorem scan?_punctuation {c : Char} {token : Token} (mark : punctuation? c = some token)
    (rest : List Char) : scan? (c :: rest) = (scan? rest).map (token :: ·) := by
  have plain : isSpace c = false ∧ c ≠ '"' ∧ isWord c = false := by
    unfold punctuation? at mark
    split at mark <;> first | decide | cases mark
  rw [scan?]
  simp only [plain, mark, Bool.false_eq_true, ↓reduceIte]

theorem scan?_text {cs body after : List Char} (read : text? cs = some (body, after)) :
    scan? ('"' :: cs) = (scan? after).map (.text (String.ofList body) :: ·) := by
  have blank : isSpace '"' = false := by decide
  rw [scan?]
  simp only [blank, Bool.false_eq_true, ↓reduceIte]
  split
  case h_1 found => rw [read] at found; cases found
  case h_2 found =>
    rw [read] at found
    obtain ⟨rfl, rfl⟩ := Prod.mk.inj (Option.some.inj found)
    rfl

theorem plain_of_isWord {c : Char} (word : isWord c = true) : isSpace c = false ∧ c ≠ '"' := by
  constructor
  · cases blank : isSpace c with
    | false => rfl
    | true =>
        simp only [isSpace, Bool.or_eq_true, decide_eq_true_eq] at blank
        obtain ((rfl | rfl) | rfl) | rfl := blank <;> cases word
  · rintro rfl
    cases word

theorem scan?_word {word : List Char} {value : Json} (filled : word ≠ [])
    (plain : ∀ c ∈ word, isWord c = true) (spelled : word? word = some value) {rest : List Char}
    (ends : Ends rest) : scan? (word ++ rest) = (scan? rest).map (.scalar value :: ·) := by
  obtain ⟨c, tail, rfl⟩ := List.exists_cons_of_ne_nil filled
  obtain ⟨first, others⟩ := List.forall_mem_cons.mp plain
  have taken : (tail ++ rest).takeWhile isWord = tail := by
    rw [List.takeWhile_append_of_pos others]
    cases rest with
    | nil => simp
    | cons d rest => simp [ends d rfl]
  have dropped : (tail ++ rest).dropWhile isWord = rest := by
    rw [List.dropWhile_append_of_pos others]
    cases rest with
    | nil => rfl
    | cons d rest => simp [ends d rfl]
  rw [List.cons_append, scan?]
  simp only [plain_of_isWord first, first, taken, dropped, spelled, Bool.false_eq_true, ↓reduceIte]

theorem word?_writeInt {n : Int} (fits : JsonNumber.InWord n) :
    word? (Digits.writeInt n) = some (.int n) := by
  have read := JsonNumber.read?_writeInt fits
  have other {word : List Char} (unreadable : JsonNumber.read? word = none) :
      Digits.writeInt n ≠ word := by
    intro same
    rw [same, unreadable] at read
    cases read
  unfold word?
  rw [if_neg (other (by decide)), if_neg (other (by decide)), if_neg (other (by decide)), read]
  rfl

theorem isWord_of_mem_writeInt {n : Int} {c : Char} (member : c ∈ Digits.writeInt n) :
    isWord c = true := by
  have digit {n : Nat} (member : c ∈ Digits.write n) : isWord c = true := by
    simp [isWord, Char.isAlphanum, Digits.isDigit_of_mem_write member]
  cases n with
  | ofNat n => exact digit member
  | negSucc n =>
      rcases List.mem_cons.mp member with rfl | member
      · rfl
      · exact digit member

end Tokens

/-- A value whose numbers are integers of 64 bits and whose containers are nested at most as deep as
    a number says. -/
inductive Fits : Nat → Json → Prop
  | null {depth} : Fits depth .null
  | bool {depth} (value : Bool) : Fits depth (.bool value)
  | integer {depth} {n : Int} (word : JsonNumber.InWord n) : Fits depth (.int n)
  | string {depth} (text : String) : Fits depth (.string text)
  | array {depth} {items : List Json} (fit : ∀ v ∈ items, Fits depth v) :
    Fits (depth + 1) (.array items)
  | object {depth} {members : List (String × Json)} (fit : ∀ m ∈ members, Fits depth m.2) :
    Fits (depth + 1) (.object members)

section Reading

/-- Take the state of an assembly through a text. -/
def read? (state : Assembly) (cs : List Char) : Option Assembly := (scan? cs).bind state.run?

theorem read?_token {token : Token} {cs after : List Char}
    (scanned : scan? cs = (scan? after).map (token :: ·)) (state : Assembly) :
    read? state cs = (state.step? token).bind fun next => read? next after := by
  unfold read?
  rw [scanned]
  cases scan? after with
  | none => simp
  | some tokens => rfl

/-- Whether a state takes a value that goes into the innermost of some open containers. -/
def Awaits (state : Assembly) (stack : List Frame) : Prop :=
  ∀ token, token ≠ .closeBracket → state.step? token = Assembly.begin? stack token

theorem awaits_value (stack : List Frame) : Awaits (.value stack) stack := fun _ _ => rfl

theorem awaits_firstItem (stack : List Frame) : Awaits (.firstItem stack) (.items [] :: stack) := by
  intro token other
  cases token with
  | closeBracket => exact absurd rfl other
  | _ => rfl

variable {state : Assembly} {stack : List Frame} {rest : List Char}

theorem read?_scalar {word : List Char} {value : Json} (awaits : Awaits state stack)
    (filled : word ≠ []) (plain : ∀ c ∈ word, isWord c = true) (spelled : word? word = some value)
    (ends : Ends rest) :
    read? state (word ++ rest) = read? (Assembly.deliver value stack) rest := by
  rw [read?_token (scan?_word filled plain spelled ends), awaits _ (by simp)]
  rfl

theorem read?_punctuation {c : Char} {token : Token} {next : Assembly}
    (mark : punctuation? c = some token) (step : state.step? token = some next) :
    read? state (c :: rest) = read? next rest := by
  rw [read?_token (scan?_punctuation mark rest), step]
  rfl

theorem read?_writeString {s : String} {next : Assembly}
    (step : state.step? (.text s) = some next) :
    read? state (writeString s rest) = read? next rest := by
  rw [writeString, read?_token (scan?_text (text?_foldr_escape s.toList rest)),
    String.ofList_toList, step]
  rfl

theorem ends_writeItems (items : List Json) : Ends (writeItems items (']' :: rest)) := by
  cases items <;> exact ends_cons rfl

theorem ends_writeMembers (members : List (String × Json)) :
    Ends (writeMembers members ('\x7d' :: rest)) := by
  cases members <;> exact ends_cons rfl

/-- The items after some that have been read, up to the end of the array. -/
theorem read?_writeItems {items : List Json}
    (each : ∀ v ∈ items, ∀ done rest, Ends rest →
      read? (.value (.items done :: stack)) (write v rest) =
        read? (.afterItem (v :: done) stack) rest)
    (done : List Json) :
    read? (.afterItem done stack) (writeItems items (']' :: rest)) =
      read? (Assembly.deliver (.array (done.reverse ++ items)) stack) rest := by
  induction items generalizing done with
  | nil =>
      rw [writeItems, read?_punctuation rfl rfl, List.append_nil]
  | cons v items ih =>
      obtain ⟨first, others⟩ := List.forall_mem_cons.mp each
      rw [writeItems, read?_punctuation rfl rfl, first done _ (ends_writeItems items), ih others]
      simp

/-- The members after some that have been read, up to the end of the object. -/
theorem read?_writeMembers {members : List (String × Json)}
    (each : ∀ m ∈ members, ∀ done rest, Ends rest →
      read? (.value (.members done m.1 :: stack)) (write m.2 rest) =
        read? (.afterMember (m :: done) stack) rest)
    (done : List (String × Json)) :
    read? (.afterMember done stack) (writeMembers members ('\x7d' :: rest)) =
      read? (Assembly.deliver (.object (done.reverse ++ members)) stack) rest := by
  induction members generalizing done with
  | nil =>
      rw [writeMembers, read?_punctuation rfl rfl, List.append_nil]
  | cons m members ih =>
      obtain ⟨first, others⟩ := List.forall_mem_cons.mp each
      rw [writeMembers, read?_punctuation rfl rfl, read?_writeString rfl, read?_punctuation rfl rfl,
        first done _ (ends_writeMembers members), ih others]
      simp

/-- A printed value takes a state that awaits one to the state that has got it. -/
theorem read?_write {depth : Nat} {v : Json} (fits : Fits depth v) (awaits : Awaits state stack)
    (room : stack.length + depth ≤ Assembly.maxDepth) (ends : Ends rest) :
    read? state (write v rest) = read? (Assembly.deliver v stack) rest := by
  induction fits generalizing state stack rest with
  | null =>
      have spelled : word? ['n', 'u', 'l', 'l'] = some .null := by rw [word?, if_pos rfl]
      exact read?_scalar awaits (by simp) (by simp [isWord]) spelled ends
  | bool value =>
      cases value with
      | true =>
          have spelled : word? ['t', 'r', 'u', 'e'] = some (.bool true) := by
            rw [word?, if_neg (by decide), if_pos rfl]
          exact read?_scalar awaits (by simp) (by simp [isWord]) spelled ends
      | false =>
          have spelled : word? ['f', 'a', 'l', 's', 'e'] = some (.bool false) := by
            rw [word?, if_neg (by decide), if_neg (by decide), if_pos rfl]
          exact read?_scalar awaits (by simp) (by simp [isWord]) spelled ends
  | @integer depth n word =>
      have filled : Digits.writeInt n ≠ [] := by
        cases n with
        | ofNat n => exact Nat.toDigits_ne_nil
        | negSucc n => exact List.cons_ne_nil _ _
      exact read?_scalar awaits filled (fun c member => isWord_of_mem_writeInt member)
        (word?_writeInt word) ends
  | string text => exact read?_writeString (awaits _ (by simp))
  | @array depth items fit ih =>
      have opens : state.step? .openBracket = some (.firstItem stack) := by
        rw [awaits _ (by simp), Assembly.begin?, if_pos (by omega)]
      cases items with
      | nil =>
          change read? state ('[' :: ']' :: rest) = _
          rw [read?_punctuation rfl opens, read?_punctuation rfl rfl]
      | cons v items =>
          obtain ⟨first, others⟩ := List.forall_mem_cons.mp ih
          have inner (done : List Json) : (Frame.items done :: stack).length + depth ≤
              Assembly.maxDepth := by
            rw [List.length_cons]
            omega
          change read? state ('[' :: write v (writeItems items (']' :: rest))) = _
          rw [read?_punctuation rfl opens,
            first (awaits_firstItem stack) (inner []) (ends_writeItems items)]
          exact read?_writeItems
            (fun w member done rest ends => others w member (awaits_value _) (inner done) ends) [v]
  | @object depth members fit ih =>
      have opens : state.step? .openBrace = some (.firstKey stack) := by
        rw [awaits _ (by simp), Assembly.begin?, if_pos (by omega)]
      cases members with
      | nil =>
          change read? state ('\x7b' :: '\x7d' :: rest) = _
          rw [read?_punctuation rfl opens, read?_punctuation rfl rfl]
      | cons m members =>
          obtain ⟨first, others⟩ := List.forall_mem_cons.mp ih
          have inner (done : List (String × Json)) (key : String) :
              (Frame.members done key :: stack).length + depth ≤ Assembly.maxDepth := by
            rw [List.length_cons]
            omega
          change read? state ('\x7b' :: writeString m.1 (':' :: write m.2
            (writeMembers members ('\x7d' :: rest)))) = _
          rw [read?_punctuation rfl opens, read?_writeString rfl, read?_punctuation rfl rfl,
            first (awaits_value _) (inner [] m.1) (ends_writeMembers members)]
          exact read?_writeMembers
            (fun n member done rest ends => others n member (awaits_value _) (inner done n.1) ends)
            [m]

/-- A value reads back from its compact text. -/
theorem parse?_compact {v : Json} (fits : Fits Assembly.maxDepth v) : parse? v.compact = some v := by
  have ends : Ends [] := by
    intro c none
    cases none
  have run : read? (.value []) (write v []) = read? (.finished v) [] :=
    read?_write fits (awaits_value []) (by simp) ends
  have done : read? (.finished v) [] = some (.finished v) := by
    rw [read?, scan?]
    rfl
  calc parse? v.compact
    _ = (read? (.value []) (write v [])).bind Assembly.result? := by
        rw [parse?, compact, String.toList_ofList, read?, Option.bind_assoc]
    _ = some v := by
        rw [run, done]
        rfl

end Reading

end Json

end SchemaEvolution
