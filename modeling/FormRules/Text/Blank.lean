/-!
Blank characters and trimming.

The blank characters are those of bidirectional class B, S or WS together with the space
separators: the ASCII controls from tab to carriage return and from file separator to unit
separator, the space, and the space characters of later blocks. Trimming removes them at both
ends of a text.
-/

namespace FormRules.Text

/-- A character that trimming removes and that separates the words of a text. -/
def isBlank
    (character : Char) :
    Bool :=
  let code := character.toNat
  (9 ≤ code && code ≤ 13) || (28 ≤ code && code ≤ 32) || code == 133 || code == 160 ||
    code == 5760 || (8192 ≤ code && code ≤ 8202) || code == 8232 || code == 8233 ||
    code == 8239 || code == 8287 || code == 12288

/-- One of the four ASCII information separators. They are blank, yet no part of the white
space that may surround a number. -/
def isInformationSeparator
    (character : Char) :
    Bool :=
  let code := character.toNat
  28 ≤ code && code ≤ 31

def trimStart
    (text : List Char) :
    List Char :=
  text.dropWhile isBlank

def trimEnd
    (text : List Char) :
    List Char :=
  (trimStart text.reverse).reverse

def trim
    (text : List Char) :
    List Char :=
  trimEnd (trimStart text)

/-- A text of blanks only, the empty text included. -/
def allBlank
    (text : List Char) :
    Bool :=
  text.all isBlank

theorem isBlank_of_isInformationSeparator
    {character : Char} (separator : isInformationSeparator character = true) :
    isBlank character = true := by
  simp only [isInformationSeparator, Bool.and_eq_true, decide_eq_true_eq] at separator
  simp only [isBlank, Bool.or_eq_true, Bool.and_eq_true, decide_eq_true_eq, beq_iff_eq]
  omega

end FormRules.Text
