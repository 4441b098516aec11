/-
White space and line ends.

* `isSpace`: white space of every script, the separators of files, groups,
  records and units included.
* `trimEnd`: a text without the white space at its end.
* `isLineBreak`, `splitLines`: lines end at every line or page break of the
  standard, and a carriage return with a line feed is one break; a break at
  the end opens no further line.
* `unifyNewlines`: carriage returns, alone or before a line feed, become line
  feeds.
-/
namespace Branchwise.Text

/-- Is the character white space? -/
def isSpace (c : Char) : Bool :=
  let n := c.toNat
  if n < 128 then (9 ≤ n && n ≤ 13) || (28 ≤ n && n ≤ 32)
  else n == 0x85 || n == 0xA0 || n == 0x1680 || (0x2000 ≤ n && n ≤ 0x200A) || n == 0x2028
    || n == 0x2029 || n == 0x202F || n == 0x205F || n == 0x3000

/-- The text without the white space at its end. -/
def trimEnd (text : List Char) : List Char :=
  (text.reverse.dropWhile isSpace).reverse

/-- Does the character end a line? -/
def isLineBreak (c : Char) : Bool :=
  let n := c.toNat
  (10 ≤ n && n ≤ 13) || (28 ≤ n && n ≤ 30) || n == 0x85 || n == 0x2028 || n == 0x2029

/-- The lines of a text, without their ends; `line` is the open line,
reversed. -/
def splitLinesFrom (line : List Char) : List Char → List (List Char)
  | [] => if line.isEmpty then [] else [line.reverse]
  | '\r' :: '\n' :: rest => line.reverse :: splitLinesFrom [] rest
  | c :: rest =>
    if isLineBreak c then line.reverse :: splitLinesFrom [] rest
    else splitLinesFrom (c :: line) rest

/-- The lines of a text, without their ends. -/
def splitLines (text : List Char) : List (List Char) :=
  splitLinesFrom [] text

/-- Every line end as one line feed. -/
def unifyNewlines : List Char → List Char
  | [] => []
  | '\r' :: '\n' :: rest => '\n' :: unifyNewlines rest
  | c :: rest => (if c = '\r' then '\n' else c) :: unifyNewlines rest

/-- A character that ends no line is in the text before and after alike. -/
theorem mem_unifyNewlines {c : Char} (hc : c ≠ '\n') (hc' : c ≠ '\r') (text : List Char) :
    c ∈ unifyNewlines text ↔ c ∈ text := by
  fun_induction unifyNewlines text with
  | case1 => rfl
  | case2 rest ih => simp [ih, hc, hc']
  | case3 d rest _ ih =>
      by_cases hd : d = '\r'
      · simp [ih, hd, hc, hc']
      · simp [ih, hd]

end Branchwise.Text
