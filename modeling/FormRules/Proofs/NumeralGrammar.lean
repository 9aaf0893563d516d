import FormRules.Proofs.LowerCase
import FormRules.Proofs.NumericText
import FormRules.Proofs.PlainPattern

/-!
# The grammar of numerals

A numeral is said by a grammar: blanks, a sign or none, digits with or without a point among or
before them, an exponent or none, and blanks. The reader of numerals accepts exactly these texts,
and so does their pattern when it is followed through the whole text. No other text is numeric,
whatever number it may name, and each of them is as large as it is long.
-/

namespace FormRules

open FormRules.Text

namespace Number

/-! ## The grammar -/

/-- At least one digit, of whatever script. -/
structure AreDigits
    (digits : List Char) :
    Prop where
  notNone : digits ≠ []
  decimal : ∀ digit ∈ digits, isDigit digit = true

/-- A sign, or none. -/
inductive IsSign :
    List Char → Prop
  | none : IsSign []
  | plus : IsSign ['+']
  | minus : IsSign ['-']

/-- Digits, perhaps with a point behind them and digits or none behind the point; or a point with
digits behind it. -/
inductive IsMantissa :
    List Char → Prop
  | whole {digits : List Char} (areDigits : AreDigits digits) : IsMantissa digits
  | pointed {digits fraction : List Char} (areDigits : AreDigits digits)
      (decimal : ∀ digit ∈ fraction, isDigit digit = true) :
      IsMantissa (digits ++ '.' :: fraction)
  | fraction {fraction : List Char} (areDigits : AreDigits fraction) : IsMantissa ('.' :: fraction)

/-- The letter of exponents, a sign or none, and digits; or nothing. -/
inductive IsExponent :
    List Char → Prop
  | none : IsExponent []
  | some {letter : Char} {sign digits : List Char} (isLetter : letter = 'e' ∨ letter = 'E')
      (isSign : IsSign sign) (areDigits : AreDigits digits) :
      IsExponent (letter :: (sign ++ digits))

/-- A numeral, with blanks around it. -/
inductive IsNumeral :
    List Char → Prop
  | intro {leading sign mantissa exponent trailing : List Char}
      (blankBefore : allBlank leading = true) (isSign : IsSign sign)
      (isMantissa : IsMantissa mantissa) (isExponent : IsExponent exponent)
      (blankBehind : allBlank trailing = true) :
      IsNumeral (leading ++ (sign ++ (mantissa ++ (exponent ++ trailing))))

/-! ## Digits and what stands beside them -/

theorem isBlank_of_isDigit
    {character : Char} (digit : isDigit character = true) :
    isBlank character = false := by
  obtain ⟨value, read⟩ := Option.isSome_iff_exists.mp digit
  exact isBlank_of_digit read

/-- The text goes on with none of the characters of a kind. -/
def StopsBefore
    (kind : Char → Bool) (text : List Char) :
    Prop :=
  ∀ character ∈ text.head?, kind character = false

theorem readDigits_snd
    (text : List Char) :
    (readDigits text).2 = text.dropWhile isDigit := by
  induction text with
  | nil => rfl
  | cons character rest inductionHypothesis =>
      unfold readDigits
      cases digit : digitValue? character with
      | none => simp [isDigit, digit]
      | some value => simp [isDigit, digit, inductionHypothesis]

theorem readDigits_fst_eq_nil_iff
    {text : List Char} :
    (readDigits text).1 = [] ↔ text.takeWhile isDigit = [] := by
  cases text with
  | nil => exact iff_of_true rfl rfl
  | cons character rest =>
      unfold readDigits
      cases digit : digitValue? character with
      | none => simp [isDigit, digit]
      | some value => simp [isDigit, digit]

/-- Digits are read up to the first character that is none. -/
theorem readDigits_append
    {digits rest : List Char} (decimal : ∀ digit ∈ digits, isDigit digit = true)
    (stops : StopsBefore isDigit rest) :
    (readDigits (digits ++ rest)).2 = rest ∧
      ((readDigits (digits ++ rest)).1 = [] ↔ digits = []) := by
  have stopsHere : rest.takeWhile isDigit = [] ∧ rest.dropWhile isDigit = rest := by
    cases rest with
    | nil => exact ⟨rfl, rfl⟩
    | cons character others =>
        have noDigit : isDigit character = false := stops character rfl
        simp [noDigit]
  rw [readDigits_snd, readDigits_fst_eq_nil_iff, List.dropWhile_append_of_pos decimal,
    List.takeWhile_append_of_pos decimal, stopsHere.1, stopsHere.2, List.append_nil]
  exact ⟨rfl, Iff.rfl⟩

/-- What is read as digits, if it is not nothing, are digits. -/
theorem areDigits_takeWhile
    {text : List Char} (some : (readDigits text).1 ≠ []) :
    AreDigits (text.takeWhile isDigit) := by
  refine ⟨fun none => some (readDigits_fst_eq_nil_iff.mpr none), ?_⟩
  exact List.all_eq_true.mp List.all_takeWhile

theorem append_readDigits
    (text : List Char) :
    text = text.takeWhile isDigit ++ (readDigits text).2 := by
  rw [readDigits_snd]
  exact List.takeWhile_append_dropWhile.symm

/-! ## What is read -/

theorem isSign_readSign
    (text : List Char) :
    ∃ sign, IsSign sign ∧ text = sign ++ (readSign text).2 := by
  unfold readSign
  split
  · exact ⟨['-'], .minus, rfl⟩
  · exact ⟨['+'], .plus, rfl⟩
  · exact ⟨[], .none, rfl⟩

theorem isMantissa_of_read
    {text rest : List Char} {digits : List Nat × Option (List Nat)}
    (read : readMantissa? text = some (digits, rest)) :
    ∃ mantissa, IsMantissa mantissa ∧ text = mantissa ++ rest := by
  have front := append_readDigits text
  unfold readMantissa? at read
  split at read
  · rename_i afterPoint readWhole
    have noDigits : text.takeWhile isDigit = [] := by
      rw [← readDigits_fst_eq_nil_iff, readWhole]
    have behind := append_readDigits afterPoint
    rw [readWhole, noDigits, List.nil_append] at front
    split at read
    · cases read
    · rename_i someDigits readFraction
      cases read
      rw [readFraction] at behind
      have areDigits : AreDigits (afterPoint.takeWhile isDigit) :=
        areDigits_takeWhile (by rw [readFraction]; exact someDigits)
      refine ⟨'.' :: afterPoint.takeWhile isDigit, .fraction areDigits, ?_⟩
      rw [List.cons_append, ← behind]
      exact front
  · cases read
  · rename_i afterPoint someDigits readWhole
    cases read
    have areDigits : AreDigits (text.takeWhile isDigit) :=
      areDigits_takeWhile (by rw [readWhole]; exact someDigits)
    have behind := append_readDigits afterPoint
    rw [readWhole] at front
    refine ⟨text.takeWhile isDigit ++ '.' :: afterPoint.takeWhile isDigit,
      .pointed areDigits (List.all_eq_true.mp List.all_takeWhile), ?_⟩
    rw [List.append_assoc, List.cons_append, ← behind]
    exact front
  · rename_i someDigits _ readWhole
    cases read
    have areDigits : AreDigits (text.takeWhile isDigit) :=
      areDigits_takeWhile (by rw [readWhole]; exact someDigits)
    rw [readWhole] at front
    exact ⟨text.takeWhile isDigit, .whole areDigits, front⟩

theorem isExponent_of_readDigits
    {letter : Char} (isLetter : letter = 'e' ∨ letter = 'E') {text rest : List Char}
    {exponent : Option (Bool × List Nat)}
    (read : readExponentDigits? text = some (exponent, rest)) :
    ∃ written, IsExponent written ∧ letter :: text = written ++ rest := by
  obtain ⟨sign, isSign, split⟩ := isSign_readSign text
  have front := append_readDigits (readSign text).2
  unfold readExponentDigits? at read
  split at read
  · cases read
  · rename_i someDigits readAll
    cases read
    have areDigits : AreDigits ((readSign text).2.takeWhile isDigit) :=
      areDigits_takeWhile (by rw [readAll]; exact someDigits)
    rw [readAll] at front
    refine ⟨letter :: (sign ++ (readSign text).2.takeWhile isDigit),
      .some isLetter isSign areDigits, ?_⟩
    rw [List.cons_append, List.append_assoc, ← front, ← split]

theorem isExponent_of_read
    {text rest : List Char} {exponent : Option (Bool × List Nat)}
    (read : readExponent? text = some (exponent, rest)) :
    ∃ written, IsExponent written ∧ text = written ++ rest := by
  unfold readExponent? at read
  split at read
  · exact isExponent_of_readDigits (Or.inl rfl) read
  · exact isExponent_of_readDigits (Or.inr rfl) read
  · cases read
    exact ⟨[], .none, rfl⟩

theorem isNumeral_of_read
    {text : List Char} {numeral : Numeral} (read : Numeral.read? text = some numeral) :
    IsNumeral text := by
  obtain ⟨sign, isSign, signSplit⟩ := isSign_readSign (trimStart text)
  have blankBefore : allBlank (text.takeWhile isBlank) = true := List.all_takeWhile
  have front : text = text.takeWhile isBlank ++ trimStart text :=
    List.takeWhile_append_dropWhile.symm
  unfold Numeral.read? at read
  dsimp only at read
  split at read
  · cases read
  · rename_i readMantissa
    obtain ⟨mantissa, isMantissa, mantissaSplit⟩ := isMantissa_of_read readMantissa
    split at read
    · cases read
    · rename_i rest readExponent
      obtain ⟨exponent, isExponent, exponentSplit⟩ := isExponent_of_read readExponent
      split at read
      · rename_i blankBehind
        rw [front, signSplit, mantissaSplit, exponentSplit]
        exact .intro blankBefore isSign isMantissa isExponent blankBehind
      · cases read

/-! ## What there is to be read -/

theorem stopsBefore_isDigit_of_blank
    {text : List Char} (blank : allBlank text = true) :
    StopsBefore isDigit text := by
  intro character first
  have isBlankHere := allBlank_iff.mp blank character (List.mem_of_mem_head? first)
  rw [← Bool.not_eq_true]
  intro digit
  rw [isBlank_of_isDigit digit] at isBlankHere
  cases isBlankHere

/-- A sign is read, and what begins with a digit or a point does not begin with another one. -/
theorem readSign_append
    {sign others : List Char} {first : Char} (isSign : IsSign sign)
    (begins : isDigit first = true ∨ first = '.') :
    (readSign (sign ++ first :: others)).2 = first :: others := by
  cases isSign with
  | plus => rfl
  | minus => rfl
  | none =>
      rw [List.nil_append]
      unfold readSign
      split
      · rename_i same
        obtain rfl : first = '-' := (List.cons.inj same).1
        exact absurd begins (by decide)
      · rename_i same
        obtain rfl : first = '+' := (List.cons.inj same).1
        exact absurd begins (by decide)
      · rfl

theorem stopsBefore_isDigit_of_point
    (others : List Char) :
    StopsBefore isDigit ('.' :: others) := by
  intro character first
  obtain rfl : '.' = character := Option.some.inj first
  decide

/-- Where there are digits and the text goes on with them no more, the digits have been read. -/
theorem exists_readDigits
    {digits rest : List Char} (areDigits : AreDigits digits) (stops : StopsBefore isDigit rest) :
    ∃ value values, readDigits (digits ++ rest) = (value :: values, rest) := by
  obtain ⟨behind, none⟩ := readDigits_append areDigits.decimal stops
  obtain ⟨value, values, read⟩ := List.exists_cons_of_ne_nil (mt none.mp areDigits.notNone)
  exact ⟨value, values, Prod.ext read behind⟩

theorem exists_readMantissa
    {mantissa rest : List Char} (isMantissa : IsMantissa mantissa)
    (stops : StopsBefore (fun character => isDigit character || character == '.') rest) :
    ∃ digits, readMantissa? (mantissa ++ rest) = some (digits, rest) := by
  have noDigit : StopsBefore isDigit rest :=
    fun character first => (Bool.or_eq_false_iff.mp (stops character first)).1
  have noPoint : ∀ others, rest ≠ '.' :: others := by
    rintro others rfl
    exact absurd (stops '.' rfl) (by decide)
  unfold readMantissa?
  cases isMantissa with
  | whole areDigits =>
      obtain ⟨value, values, read⟩ := exists_readDigits areDigits noDigit
      rw [read]
      split
      · rename_i same
        cases same
      · rename_i same
        cases same
      · rename_i same
        exact absurd (congrArg Prod.snd same) (noPoint _)
      · rename_i same
        cases same
        exact ⟨_, rfl⟩
  | @pointed digits fraction areDigits decimal =>
      obtain ⟨value, values, read⟩ :=
        exists_readDigits areDigits (stopsBefore_isDigit_of_point (fraction ++ rest))
      have behind := (readDigits_append decimal noDigit).1
      rw [List.append_assoc, List.cons_append, read]
      exact ⟨(value :: values, some (readDigits (fraction ++ rest)).1), by simp only [behind]⟩
  | @fraction fraction areDigits =>
      obtain ⟨value, values, read⟩ := exists_readDigits areDigits noDigit
      have none : readDigits ('.' :: (fraction ++ rest)) = ([], '.' :: (fraction ++ rest)) := by
        have point : digitValue? '.' = Option.none := by decide
        rw [readDigits, point]
      rw [List.cons_append, none]
      exact ⟨([], some (value :: values)), by simp only [read]⟩

theorem exists_readExponent
    {exponent rest : List Char} (isExponent : IsExponent exponent)
    (blank : allBlank rest = true) :
    ∃ written, readExponent? (exponent ++ rest) = some (written, rest) := by
  cases isExponent with
  | none =>
      rw [List.nil_append]
      unfold readExponent?
      split
      · cases blank
      · cases blank
      · exact ⟨_, rfl⟩
  | @some letter sign digits isLetter isSign areDigits =>
      obtain ⟨value, values, read⟩ :=
        exists_readDigits areDigits (stopsBefore_isDigit_of_blank blank)
      have signRead : (readSign (sign ++ (digits ++ rest))).2 = digits ++ rest := by
        obtain ⟨first, others, rfl⟩ := List.exists_cons_of_ne_nil areDigits.notNone
        exact readSign_append isSign (Or.inl (areDigits.decimal first List.mem_cons_self))
      have digitsRead : readExponentDigits? (sign ++ (digits ++ rest)) =
          Option.some (Option.some ((readSign (sign ++ (digits ++ rest))).1, value :: values),
            rest) := by
        rw [readExponentDigits?, signRead, read]
      rw [List.cons_append, List.append_assoc]
      rcases isLetter with rfl | rfl
      · exact ⟨_, digitsRead⟩
      · exact ⟨_, digitsRead⟩

/-- Behind a mantissa there is neither a digit nor a point. -/
theorem stopsBefore_exponent
    {exponent rest : List Char} (isExponent : IsExponent exponent)
    (blank : allBlank rest = true) :
    StopsBefore (fun character => isDigit character || character == '.') (exponent ++ rest) := by
  intro character first
  cases isExponent with
  | none =>
      rw [List.nil_append] at first
      have noDigit := stopsBefore_isDigit_of_blank blank character first
      have isBlankHere := allBlank_iff.mp blank character (List.mem_of_mem_head? first)
      refine Bool.or_eq_false_iff.mpr ⟨noDigit, beq_eq_false_iff_ne.mpr ?_⟩
      rintro rfl
      cases isBlankHere
  | some isLetter isSign areDigits =>
      obtain rfl := Option.some.inj first
      rcases isLetter with rfl | rfl <;> decide

/-- A mantissa begins with a digit or a point, and so neither with a blank nor with a sign. -/
theorem exists_first_of_mantissa
    {mantissa : List Char} (isMantissa : IsMantissa mantissa) :
    ∃ first others, mantissa = first :: others ∧
      (isDigit first = true ∨ first = '.') := by
  cases isMantissa with
  | whole areDigits =>
      obtain ⟨first, others, rfl⟩ := List.exists_cons_of_ne_nil areDigits.notNone
      exact ⟨first, others, rfl, Or.inl (areDigits.decimal first List.mem_cons_self)⟩
  | pointed areDigits decimal =>
      obtain ⟨first, others, rfl⟩ := List.exists_cons_of_ne_nil areDigits.notNone
      exact ⟨first, _, List.cons_append, Or.inl (areDigits.decimal first List.mem_cons_self)⟩
  | fraction areDigits => exact ⟨'.', _, rfl, Or.inr rfl⟩

theorem beginsFilled_of_sign
    {sign mantissa : List Char} (isSign : IsSign sign) (isMantissa : IsMantissa mantissa)
    (rest : List Char) :
    BeginsFilled (sign ++ (mantissa ++ rest)) ∧
      (readSign (sign ++ (mantissa ++ rest))).2 = mantissa ++ rest := by
  obtain ⟨first, others, rfl, begins⟩ := exists_first_of_mantissa isMantissa
  constructor
  · intro character isFirst
    cases isSign with
    | none =>
        obtain rfl : first = character := Option.some.inj isFirst
        rcases begins with digit | rfl
        · exact isBlank_of_isDigit digit
        · decide
    | plus => obtain rfl : '+' = character := Option.some.inj isFirst; decide
    | minus => obtain rfl : '-' = character := Option.some.inj isFirst; decide
  · exact readSign_append isSign begins

/-- The reader of numerals accepts exactly the texts of the grammar. -/
theorem isSome_read_iff
    {text : List Char} :
    (Numeral.read? text).isSome = true ↔ IsNumeral text := by
  constructor
  · intro read
    obtain ⟨numeral, isRead⟩ := Option.isSome_iff_exists.mp read
    exact isNumeral_of_read isRead
  · rintro ⟨blankBefore, isSign, isMantissa, isExponent, blankBehind⟩
    rename_i leading sign mantissa exponent trailing
    obtain ⟨begins, signRead⟩ :=
      beginsFilled_of_sign isSign isMantissa (exponent ++ trailing)
    obtain ⟨digits, mantissaRead⟩ :=
      exists_readMantissa isMantissa (stopsBefore_exponent isExponent blankBehind)
    obtain ⟨written, exponentRead⟩ := exists_readExponent isExponent blankBehind
    unfold Numeral.read?
    rw [trimStart_append_of_allBlank blankBefore, trimStart_of_beginsFilled begins]
    dsimp only
    rw [signRead, mantissaRead]
    dsimp only
    rw [exponentRead]
    simp [blankBehind]

/-! ## The pattern of numerals -/

open FormRules.Pattern

def numeralPattern :
    String :=
  "\\s*[+-]?(?:\\d+(?:\\.\\d*)?|\\.\\d+)(?:[eE][+-]?\\d+)?\\s*"

def blankNode :
    Node :=
  .oneOf ⟨false, [.category .blank false]⟩ .unicode .exact

def digitNode :
    Node :=
  .oneOf ⟨false, [.category .digit false]⟩ .unicode .exact

def signNode :
    Node :=
  .oneOf ⟨false, [.single '+'.toNat, .single '-'.toNat]⟩ .unicode .exact

def exponentLetterNode :
    Node :=
  .oneOf ⟨false, [.single 'e'.toNat, .single 'E'.toNat]⟩ .unicode .exact

def pointNode :
    Node :=
  .letter '.'.toNat false .exact

def mantissaNode :
    Node :=
  .choice
    [[.repeated .greedy 1 none [digitNode],
        .repeated .greedy 0 (some 1) [pointNode, .repeated .greedy 0 none [digitNode]]],
      [pointNode, .repeated .greedy 1 none [digitNode]]]

def numeralNodes :
    List Node :=
  [.repeated .greedy 0 none [blankNode], .repeated .greedy 0 (some 1) [signNode], mantissaNode,
    .repeated .greedy 0 (some 1)
      [exponentLetterNode, .repeated .greedy 0 (some 1) [signNode],
        .repeated .greedy 1 none [digitNode]],
    .repeated .greedy 0 none [blankNode]]

set_option maxRecDepth 10000 in
theorem isReadAs_numeralPattern :
    IsReadAs numeralPattern.toList numeralNodes :=
  ⟨by decide, .anywhere, 1, by cbv⟩

theorem describes_blanks_iff
    {text : List Char} :
    (Node.repeated .greedy 0 none [blankNode]).Describes text ↔ allBlank text = true := by
  have asks : ∀ character : Char,
      CharClass.contains .unicode .exact ⟨false, [.category .blank false]⟩ character.toNat =
        isBlank character := by
    intro character
    simp [CharClass.contains_listed, ClassItem.contains, Category.contains, Char.ofNat_toNat]
  rw [blankNode, Node.describes_repeated_oneOf_iff asks, allBlank_iff]
  simp

theorem describes_digits_iff
    {least : Nat} {text : List Char} :
    (Node.repeated .greedy least none [digitNode]).Describes text ↔
      least ≤ text.length ∧ ∀ digit ∈ text, isDigit digit = true := by
  have asks : ∀ character : Char,
      CharClass.contains .unicode .exact ⟨false, [.category .digit false]⟩ character.toNat =
        isDigit character := by
    intro character
    simp [CharClass.contains_listed, ClassItem.contains, Category.contains, Char.ofNat_toNat]
  rw [digitNode, Node.describes_repeated_oneOf_iff asks]
  simp

theorem describes_someDigits_iff
    {text : List Char} :
    (Node.repeated .greedy 1 none [digitNode]).Describes text ↔ AreDigits text := by
  rw [describes_digits_iff, Nat.succ_le_iff, List.length_pos_iff]
  exact ⟨fun ⟨notNone, decimal⟩ => ⟨notNone, decimal⟩,
    fun areDigits => ⟨areDigits.notNone, areDigits.decimal⟩⟩

theorem describes_sign_iff
    {text : List Char} :
    (Node.repeated .greedy 0 (some 1) [signNode]).Describes text ↔ IsSign text := by
  have asks : ∀ character : Char,
      CharClass.contains .unicode .exact ⟨false, [.single '+'.toNat, .single '-'.toNat]⟩
          character.toNat =
        (character == '+' || character == '-') := by
    intro character
    simp only [CharClass.contains_listed, List.any_cons, List.any_nil, ClassItem.contains_single,
      Bool.or_false]
  rw [Node.Describes, Node.describesAll_singleton, isMadeOf_optional_iff, signNode,
    Node.describes_oneOf_iff asks]
  constructor
  · rintro (rfl | ⟨character, rfl, isSign⟩)
    · exact .none
    · rcases Bool.or_eq_true_iff.mp isSign with isPlus | isMinus
      · rw [beq_iff_eq.mp isPlus]
        exact .plus
      · rw [beq_iff_eq.mp isMinus]
        exact .minus
  · rintro (_ | _ | _)
    · exact Or.inl rfl
    · exact Or.inr ⟨'+', rfl, rfl⟩
    · exact Or.inr ⟨'-', rfl, rfl⟩

theorem describes_point_iff
    {text : List Char} :
    pointNode.Describes text ↔ text = ['.'] := by
  rw [pointNode, Node.describes_letter_iff]

/-- Digits, and perhaps a point behind them. -/
theorem describesAll_wholeMantissa_iff
    {text : List Char} :
    Node.DescribesAll [.repeated .greedy 1 none [digitNode],
        .repeated .greedy 0 (some 1) [pointNode, .repeated .greedy 0 none [digitNode]]] text ↔
      AreDigits text ∨ ∃ digits fraction, text = digits ++ '.' :: fraction ∧ AreDigits digits ∧
        ∀ digit ∈ fraction, isDigit digit = true := by
  have behind : ∀ part,
      (Node.repeated .greedy 0 (some 1)
          [pointNode, .repeated .greedy 0 none [digitNode]]).Describes part ↔
        part = [] ∨
          ∃ fraction, part = '.' :: fraction ∧ ∀ digit ∈ fraction, isDigit digit = true := by
    intro part
    rw [Node.Describes, isMadeOf_optional_iff]
    simp only [Node.DescribesAll, describes_point_iff, describes_digits_iff, Nat.zero_le, true_and]
    refine or_congr_right ⟨?_, ?_⟩
    · rintro ⟨_, _, rfl, rfl, fraction, _, rfl, decimal, rfl⟩
      exact ⟨fraction, by simp, decimal⟩
    · rintro ⟨fraction, rfl, decimal⟩
      exact ⟨['.'], fraction, rfl, rfl, fraction, [], (List.append_nil fraction).symm, decimal,
        rfl⟩
  simp only [Node.DescribesAll, describes_someDigits_iff, behind]
  constructor
  · rintro ⟨digits, _, rfl, areDigits, _, _, rfl, rfl | ⟨fraction, rfl, decimal⟩, rfl⟩
    · exact Or.inl (by simpa using areDigits)
    · exact Or.inr ⟨digits, fraction, by simp, areDigits, decimal⟩
  · rintro (areDigits | ⟨digits, fraction, rfl, areDigits, decimal⟩)
    · exact ⟨text, [], (List.append_nil text).symm, areDigits, [], [], rfl, Or.inl rfl, rfl⟩
    · exact ⟨digits, '.' :: fraction, rfl, areDigits, '.' :: fraction, [],
        (List.append_nil _).symm, Or.inr ⟨fraction, rfl, decimal⟩, rfl⟩

theorem describes_mantissa_iff
    {text : List Char} :
    mantissaNode.Describes text ↔ IsMantissa text := by
  have fraction : Node.DescribesAll [pointNode, .repeated .greedy 1 none [digitNode]] text ↔
      ∃ fraction, text = '.' :: fraction ∧ AreDigits fraction := by
    simp only [Node.DescribesAll, describes_point_iff, describes_someDigits_iff]
    constructor
    · rintro ⟨_, _, rfl, rfl, fraction, _, rfl, areDigits, rfl⟩
      exact ⟨fraction, by simp, areDigits⟩
    · rintro ⟨fraction, rfl, areDigits⟩
      exact ⟨['.'], fraction, rfl, rfl, fraction, [], (List.append_nil fraction).symm, areDigits,
        rfl⟩
  rw [mantissaNode, Node.Describes, Node.DescribesSome, Node.DescribesSome, Node.DescribesSome,
    describesAll_wholeMantissa_iff, fraction, or_false]
  constructor
  · rintro ((areDigits | ⟨digits, fraction, rfl, areDigits, decimal⟩) | ⟨fraction, rfl, areDigits⟩)
    · exact .whole areDigits
    · exact .pointed areDigits decimal
    · exact .fraction areDigits
  · rintro (areDigits | ⟨areDigits, decimal⟩ | areDigits)
    · exact Or.inl (Or.inl areDigits)
    · exact Or.inl (Or.inr ⟨_, _, rfl, areDigits, decimal⟩)
    · exact Or.inr ⟨_, rfl, areDigits⟩

theorem describes_exponentLetter_iff
    {text : List Char} :
    exponentLetterNode.Describes text ↔
      ∃ letter, text = [letter] ∧ (letter = 'e' ∨ letter = 'E') := by
  have asks : ∀ character : Char,
      CharClass.contains .unicode .exact ⟨false, [.single 'e'.toNat, .single 'E'.toNat]⟩
          character.toNat =
        (character == 'e' || character == 'E') := by
    intro character
    simp only [CharClass.contains_listed, List.any_cons, List.any_nil, ClassItem.contains_single,
      Bool.or_false]
  rw [exponentLetterNode, Node.describes_oneOf_iff asks]
  simp only [Bool.or_eq_true_iff, beq_iff_eq]

theorem describes_exponent_iff
    {text : List Char} :
    (Node.repeated .greedy 0 (some 1)
      [exponentLetterNode, .repeated .greedy 0 (some 1) [signNode],
        .repeated .greedy 1 none [digitNode]]).Describes text ↔ IsExponent text := by
  have inside : ∀ part, Node.DescribesAll
      [exponentLetterNode, .repeated .greedy 0 (some 1) [signNode],
        .repeated .greedy 1 none [digitNode]] part ↔
      ∃ letter sign digits, part = letter :: (sign ++ digits) ∧ (letter = 'e' ∨ letter = 'E') ∧
        IsSign sign ∧ AreDigits digits := by
    intro part
    simp only [Node.DescribesAll, describes_exponentLetter_iff, describes_sign_iff,
      describes_someDigits_iff]
    constructor
    · rintro ⟨_, _, rfl, ⟨letter, rfl, isLetter⟩, sign, _, rfl, isSign, digits, _, rfl, areDigits,
        rfl⟩
      exact ⟨letter, sign, digits, by simp, isLetter, isSign, areDigits⟩
    · rintro ⟨letter, sign, digits, rfl, isLetter, isSign, areDigits⟩
      exact ⟨[letter], sign ++ digits, rfl, ⟨letter, rfl, isLetter⟩, sign, digits, rfl, isSign,
        digits, [], (List.append_nil digits).symm, areDigits, rfl⟩
  rw [Node.Describes, isMadeOf_optional_iff, inside]
  constructor
  · rintro (rfl | ⟨letter, sign, digits, rfl, isLetter, isSign, areDigits⟩)
    · exact .none
    · exact .some isLetter isSign areDigits
  · rintro (_ | ⟨isLetter, isSign, areDigits⟩)
    · exact Or.inl rfl
    · exact Or.inr ⟨_, _, _, rfl, isLetter, isSign, areDigits⟩

theorem describesAll_numeralNodes_iff
    {text : List Char} :
    Node.DescribesAll numeralNodes text ↔ IsNumeral text := by
  simp only [numeralNodes, Node.DescribesAll, describes_blanks_iff, describes_sign_iff,
    describes_mantissa_iff, describes_exponent_iff]
  constructor
  · rintro ⟨_, _, rfl, blank, _, _, rfl, isSign, _, _, rfl, isMantissa, _, _, rfl, isExponent, _,
      _, rfl, blankBehind, rfl⟩
    rw [List.append_nil]
    exact .intro blank isSign isMantissa isExponent blankBehind
  · rintro ⟨blank, isSign, isMantissa, isExponent, blankBehind⟩
    exact ⟨_, _, rfl, blank, _, _, rfl, isSign, _, _, rfl, isMantissa, _, _, rfl, isExponent, _, [],
      (List.append_nil _).symm, blankBehind, rfl⟩

/-! ## What is no numeral -/

/-- The characters of a mantissa are digits and points, and one of them is a digit. -/
theorem characters_of_mantissa
    {mantissa : List Char} (isMantissa : IsMantissa mantissa) :
    (∀ character ∈ mantissa, isDigit character = true ∨ character = '.') ∧
      ∃ digit ∈ mantissa, isDigit digit = true := by
  cases isMantissa with
  | whole areDigits =>
      obtain ⟨first, others, rfl⟩ := List.exists_cons_of_ne_nil areDigits.notNone
      exact ⟨fun digit member => Or.inl (areDigits.decimal digit member), first,
        List.mem_cons_self, areDigits.decimal first List.mem_cons_self⟩
  | pointed areDigits decimal =>
      obtain ⟨first, others, rfl⟩ := List.exists_cons_of_ne_nil areDigits.notNone
      refine ⟨fun character member => ?_, first, by simp,
        areDigits.decimal first List.mem_cons_self⟩
      rcases List.mem_append.mp member with before | behind
      · exact Or.inl (areDigits.decimal character before)
      · rcases List.mem_cons.mp behind with point | inFraction
        · exact Or.inr point
        · exact Or.inl (decimal character inFraction)
  | fraction areDigits =>
      obtain ⟨first, others, rfl⟩ := List.exists_cons_of_ne_nil areDigits.notNone
      refine ⟨fun character member => ?_, first, by simp,
        areDigits.decimal first List.mem_cons_self⟩
      rcases List.mem_cons.mp member with point | inFraction
      · exact Or.inr point
      · exact Or.inl (areDigits.decimal character inFraction)

theorem characters_of_sign
    {sign : List Char} (isSign : IsSign sign) :
    ∀ character ∈ sign, character = '+' ∨ character = '-' := by
  cases isSign <;> simp

theorem characters_of_exponent
    {exponent : List Char} (isExponent : IsExponent exponent) :
    ∀ character ∈ exponent, isDigit character = true ∨
      character ∈ ['+', '-', 'e', 'E'] := by
  cases isExponent with
  | none => simp
  | some isLetter isSign areDigits =>
      intro character member
      rcases List.mem_cons.mp member with rfl | behind
      · refine Or.inr ?_
        rcases isLetter with rfl | rfl <;> decide
      · rcases List.mem_append.mp behind with inSign | inDigits
        · refine Or.inr ?_
          rcases characters_of_sign isSign character inSign with rfl | rfl <;> decide
        · exact Or.inl (areDigits.decimal character inDigits)

/-- All that a numeral is written with. -/
theorem characters_of_numeral
    {text : List Char} (isNumeral : IsNumeral text) :
    ∀ character ∈ text, isBlank character = true ∨ isDigit character = true ∨
      character ∈ ['+', '-', 'e', 'E', '.'] := by
  obtain ⟨blankBefore, isSign, isMantissa, isExponent, blankBehind⟩ := isNumeral
  intro character member
  simp only [List.mem_append] at member
  rcases member with before | inSign | inMantissa | inExponent | behind
  · exact Or.inl (allBlank_iff.mp blankBefore character before)
  · rcases characters_of_sign isSign character inSign with rfl | rfl <;> decide
  · rcases (characters_of_mantissa isMantissa).1 character inMantissa with digit | rfl
    · exact Or.inr (Or.inl digit)
    · decide
  · rcases characters_of_exponent isExponent character inExponent with digit | listed
    · exact Or.inr (Or.inl digit)
    · exact Or.inr (Or.inr (List.mem_of_mem_dropLast listed))
  · exact Or.inl (allBlank_iff.mp blankBehind character behind)

def isBeforeExponent
    (character : Char) :
    Bool :=
  character != 'e' && character != 'E'

theorem isBeforeExponent_of_kind
    {kind : Char → Bool} (noLetters : kind 'e' = false ∧ kind 'E' = false) {character : Char}
    (isKind : kind character = true) :
    isBeforeExponent character = true := by
  have notLower : character ≠ 'e' := by
    rintro rfl
    rw [noLetters.1] at isKind
    cases isKind
  have notUpper : character ≠ 'E' := by
    rintro rfl
    rw [noLetters.2] at isKind
    cases isKind
  simp [isBeforeExponent, notLower, notUpper]

/-- A numeral has a digit before its exponent. -/
theorem exists_digit_beforeExponent
    {text : List Char} (isNumeral : IsNumeral text) :
    ∃ digit ∈ text.takeWhile isBeforeExponent, isDigit digit = true := by
  obtain ⟨blankBefore, isSign, isMantissa, isExponent, blankBehind⟩ := isNumeral
  rename_i leading sign mantissa exponent trailing
  obtain ⟨characters, digit, member, isDigitHere⟩ := characters_of_mantissa isMantissa
  have beforeBlanks : ∀ character ∈ leading, isBeforeExponent character = true :=
    fun character blank =>
      isBeforeExponent_of_kind (by decide) (allBlank_iff.mp blankBefore character blank)
  have beforeSign : ∀ character ∈ sign, isBeforeExponent character = true := by
    intro character inSign
    rcases characters_of_sign isSign character inSign with rfl | rfl <;> decide
  have beforeMantissa : ∀ character ∈ mantissa, isBeforeExponent character = true := by
    intro character inMantissa
    rcases characters character inMantissa with decimal | rfl
    · exact isBeforeExponent_of_kind (by decide) decimal
    · decide
  refine ⟨digit, ?_, isDigitHere⟩
  rw [List.takeWhile_append_of_pos beforeBlanks, List.takeWhile_append_of_pos beforeSign,
    List.takeWhile_append_of_pos beforeMantissa]
  exact List.mem_append_right _ (List.mem_append_right _ (List.mem_append_left _ member))

/-- The text is the name of a number that is no numeral, in whatever case and with blanks and a sign
around it. -/
def NamesUnwritableNumber
    (text : List Char) :
    Prop :=
  ∃ leading sign name trailing, text = leading ++ (sign ++ (name ++ trailing)) ∧
    allBlank leading = true ∧ IsSign sign ∧
    name.map Char.toLower ∈ ["nan".toList, "inf".toList, "infinity".toList] ∧
    allBlank trailing = true

/-- Each of these names is written with a letter that no numeral has. -/
theorem not_isNumeral_of_names
    {text : List Char} (names : NamesUnwritableNumber text) :
    ¬ IsNumeral text := by
  obtain ⟨leading, sign, name, trailing, rfl, -, -, isName, -⟩ := names
  -- All three names have this letter, and numerals have it in neither case.
  have holdsLetter : 'n' ∈ name.map Char.toLower := by
    revert isName
    generalize name.map Char.toLower = lowered
    simp only [List.mem_cons, List.not_mem_nil, or_false]
    rintro (rfl | rfl | rfl) <;> decide
  obtain ⟨letter, member, lowered⟩ := List.mem_map.mp holdsLetter
  intro isNumeral
  have allowed := characters_of_numeral isNumeral letter (by simp [member])
  rcases (toLower_eq_iff (by decide)).mp lowered with isSmall | isCapital
  · obtain rfl : letter = 'n' := Char.toNat_inj.mp isSmall
    revert allowed
    decide
  · obtain rfl : letter = 'N' := Char.toNat_inj.mp (Nat.add_right_cancel isCapital)
    revert allowed
    decide

theorem isNumeric_text_iff
    {shown : String} :
    (Value.text shown).isNumeric = true ↔ IsNumeral shown.toList := by
  rw [← isSome_read_iff]
  rfl

/-- The texts that are numeric are exactly the numerals, and these are the ones that the pattern of
numerals describes. The names of what is no finite number, texts with an underscore in them and
texts without a digit before the exponent are not among them. A text that is not numeric is as large
as it is long. -/
theorem numerals_recognized
    (shown : String) :
    ((Value.text shown).isNumeric = true ↔ IsNumeral shown.toList) ∧
      (∀ answer, (Value.text shown).isNumeric = answer ↔
        AnswersWhole numeralPattern.toList shown.toList answer) ∧
      (NamesUnwritableNumber shown.toList → (Value.text shown).isNumeric = false) ∧
      ('_' ∈ shown.toList → (Value.text shown).isNumeric = false) ∧
      ((∀ character ∈ shown.toList.takeWhile isBeforeExponent, isDigit character = false) →
        (Value.text shown).isNumeric = false) ∧
      ((Value.text shown).isNumeric = false →
        (Value.text shown).measure = .ok (some (.integer shown.length))) := by
  have other : ¬ IsNumeral shown.toList → (Value.text shown).isNumeric = false := by
    intro noNumeral
    rwa [← isNumeric_text_iff, Bool.not_eq_true] at noNumeral
  refine ⟨isNumeric_text_iff, fun answer => ?_, fun names => other (not_isNumeral_of_names names),
    fun underscore => other fun isNumeral => ?_, fun noDigit => other fun isNumeral => ?_,
    fun notNumeric => ?_⟩
  · rw [isReadAs_numeralPattern.answersWhole_iff, describesAll_numeralNodes_iff,
      ← isNumeric_text_iff, ← Bool.eq_iff_iff, eq_comm]
  · have allowed := characters_of_numeral isNumeral '_' underscore
    revert allowed
    decide
  · obtain ⟨digit, member, isDigitHere⟩ := exists_digit_beforeExponent isNumeral
    rw [noDigit digit member] at isDigitHere
    cases isDigitHere
  · rw [Value.measure, notNumeric]
    rfl

end Number
end FormRules
