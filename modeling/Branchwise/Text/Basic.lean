/-
Character lists: cutting at a separator, joining, and case-free helpers that
the other modules share.

* `splitOn`: the pieces between the separators, one more piece than there
  are separators; `intercalate_splitOn` puts them together again.
* `splitLast`: the part after the last separator.
* `joinWith`: texts joined with a separator.
-/
namespace Branchwise.Text

/-- The pieces of a text between the occurrences of `sep`; never empty. -/
def splitOn (sep : Char) : List Char → List (List Char)
  | [] => [[]]
  | c :: cs =>
    match splitOn sep cs with
    | [] => [[c]]
    | w :: ws => if c = sep then [] :: w :: ws else (c :: w) :: ws

/-- There is always a piece. -/
theorem splitOn_ne_nil (sep : Char) (cs : List Char) : splitOn sep cs ≠ [] := by
  induction cs with
  | nil => simp [splitOn]
  | cons c cs ih =>
    rw [splitOn]
    split
    · simp
    · split <;> simp

/-- The pieces, put together with the separator, are the text again. -/
theorem intercalate_splitOn (sep : Char) (cs : List Char) :
    [sep].intercalate (splitOn sep cs) = cs := by
  induction cs with
  | nil => rfl
  | cons c cs ih =>
    rw [splitOn]
    split
    · next h => exact absurd h (splitOn_ne_nil sep cs)
    · next w ws h =>
      rw [h] at ih
      split
      · next hc => rw [List.intercalate_cons_cons, ih, hc]; rfl
      · cases ws with
        | nil => simpa using ih
        | cons v vs =>
          rw [List.intercalate_cons_cons] at ih ⊢
          simp only [List.cons_append, ih]

/-- The text before and after the last `sep`, if there is one. -/
def splitLast (sep : Char) : List Char → Option (List Char × List Char)
  | [] => none
  | c :: cs =>
    match splitLast sep cs with
    | some (before, after) => some (c :: before, after)
    | none => if c = sep then some ([], cs) else none

/-- Texts joined with a separator. -/
def joinWith (sep : String) (parts : List String) : String :=
  sep.intercalate parts

/-- Does the text end with `suffix`? -/
def endsWith (suffix text : List Char) : Bool :=
  suffix.isSuffixOf text

/-- The value of a hexadecimal digit of either case. -/
def hexValue (c : Char) : Option Nat :=
  if '0' ≤ c ∧ c ≤ '9' then some (c.toNat - '0'.toNat)
  else if 'a' ≤ c ∧ c ≤ 'f' then some (c.toNat - 'a'.toNat + 10)
  else if 'A' ≤ c ∧ c ≤ 'F' then some (c.toNat - 'A'.toNat + 10)
  else none

/-- The digit of a value below sixteen, in lower case. -/
def hexDigit (n : Nat) : Char :=
  if n < 10 then Char.ofNat ('0'.toNat + n) else Char.ofNat ('a'.toNat + (n - 10))

/-- The last `width` hexadecimal digits of `n`, in lower case. -/
def hexDigits : Nat → Nat → List Char
  | 0, _ => []
  | width + 1, n => hexDigits width (n / 16) ++ [hexDigit (n % 16)]

end Branchwise.Text
