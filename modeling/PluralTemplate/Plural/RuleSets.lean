import PluralTemplate.Plural.Rule

/-!
# Rule sets

The plural rules that languages use, one definition per set of rules. Rules stand in
the order of their categories, and every number that none of them covers is `other`.
-/

set_option autoImplicit false

namespace PluralTemplate.Plural.Rules

/-- No distinction. -/
def uniform : Rules := []

/-- A whole part of zero, or exactly one. -/
def zeroWholeOrOne : Rules :=
  [(.one, [[Term.i.is (just 0)],
      [Term.n.is (just 1)]])]

/-- A whole part of zero or one. -/
def wholeZeroOrOne : Rules :=
  [(.one, [[Term.i.is (just 0 ++ just 1)]])]

/-- A whole part of zero or one, and whole millions. -/
def wholeZeroOrOneAndMillions : Rules :=
  [(.one, [[Term.i.is (span 0 1)]]),
   (.many, [[Term.i.isNot (just 0), Term.i.modIs 1000000 (just 0), Term.v.is (just 0)]])]

/-- One, written without a fraction. -/
def oneWithoutFraction : Rules :=
  [(.one, [[Term.i.is (just 1), Term.v.is (just 0)]])]

/-- One, two to four, and anything with a fraction. -/
def westSlavic : Rules :=
  [(.one, [[Term.i.is (just 1), Term.v.is (just 0)]]),
   (.few, [[Term.i.is (span 2 4), Term.v.is (just 0)]]),
   (.many, [[Term.v.isNot (just 0)]])]

/-- One, and numbers that end in one to nineteen. -/
def romanian : Rules :=
  [(.one, [[Term.i.is (just 1), Term.v.is (just 0)]]),
   (.few, [[Term.v.isNot (just 0)],
      [Term.n.is (just 0)],
      [Term.n.isNot (just 1), Term.n.modIs 100 (span 1 19)]])]

/-- One, endings two to four, and other whole numbers. -/
def polish : Rules :=
  [(.one, [[Term.i.is (just 1), Term.v.is (just 0)]]),
   (.few, [[Term.v.is (just 0), Term.i.modIs 10 (span 2 4), Term.i.modIsNot 100 (span 12 14)]]),
   (.many, [[Term.v.is (just 0), Term.i.isNot (just 1), Term.i.modIs 10 (span 0 1)],
      [Term.v.is (just 0), Term.i.modIs 10 (span 5 9)],
      [Term.v.is (just 0), Term.i.modIs 100 (span 12 14)]])]

/-- One without a fraction, and whole millions. -/
def oneWithoutFractionAndMillions : Rules :=
  [(.one, [[Term.i.is (just 1), Term.v.is (just 0)]]),
   (.many, [[Term.i.isNot (just 0), Term.i.modIs 1000000 (just 0), Term.v.is (just 0)]])]

/-- One or a mere fraction, and two. -/
def hebrew : Rules :=
  [(.one, [[Term.i.is (just 1), Term.v.is (just 0)],
      [Term.i.is (just 0), Term.v.isNot (just 0)]]),
   (.two, [[Term.i.is (just 2), Term.v.is (just 0)]])]

/-- Endings one, two to four, and the rest of the whole numbers. -/
def belarusian : Rules :=
  [(.one, [[Term.n.modIs 10 (just 1), Term.n.modIsNot 100 (just 11)]]),
   (.few, [[Term.n.modIs 10 (span 2 4), Term.n.modIsNot 100 (span 12 14)]]),
   (.many, [[Term.n.modIs 10 (just 0)],
      [Term.n.modIs 10 (span 5 9)],
      [Term.n.modIs 100 (span 11 14)]])]

/-- Endings one, two, and three, four or nine, and whole millions. -/
def breton : Rules :=
  [(.one, [[Term.n.modIs 10 (just 1), Term.n.modIsNot 100 (just 11 ++ just 71 ++ just 91)]]),
   (.two, [[Term.n.modIs 10 (just 2), Term.n.modIsNot 100 (just 12 ++ just 72 ++ just 92)]]),
   (.few, [[Term.n.modIs 10 (span 3 4 ++ just 9), Term.n.modIsNot 100
        (span 10 19 ++ span 70 79 ++ span 90 99)]]),
   (.many, [[Term.n.isNot (just 0), Term.n.modIs 1000000 (just 0)]])]

/-- Endings one and two to nine, and fractions. -/
def lithuanian : Rules :=
  [(.one, [[Term.n.modIs 10 (just 1), Term.n.modIsNot 100 (span 11 19)]]),
   (.few, [[Term.n.modIs 10 (span 2 9), Term.n.modIsNot 100 (span 11 19)]]),
   (.many, [[Term.f.isNot (just 0)]])]

/-- Zero, one, and a fraction that spells one, such as a tenth. -/
def sinhala : Rules :=
  [(.one, [[Term.n.is (just 0 ++ just 1)],
      [Term.i.is (just 0), Term.f.is (just 1)]])]

/-- Zero or one. -/
def zeroToOne : Rules :=
  [(.one, [[Term.n.is (span 0 1)]])]

/-- Exactly one. -/
def one : Rules :=
  [(.one, [[Term.n.is (just 1)]])]

/-- Exactly one, and whole millions. -/
def oneAndMillions : Rules :=
  [(.one, [[Term.n.is (just 1)]]),
   (.many, [[Term.i.isNot (just 0), Term.i.modIs 1000000 (just 0), Term.v.is (just 0)]])]

/-- Exactly one, and exactly two. -/
def oneAndTwo : Rules :=
  [(.one, [[Term.n.is (just 1)]]),
   (.two, [[Term.n.is (just 2)]])]

/-- One, two, and endings up to ten and from eleven to nineteen. -/
def maltese : Rules :=
  [(.one, [[Term.n.is (just 1)]]),
   (.two, [[Term.n.is (just 2)]]),
   (.few, [[Term.n.is (just 0)],
      [Term.n.modIs 100 (span 3 10)]]),
   (.many, [[Term.n.modIs 100 (span 11 19)]])]

/-- One, two, three to six, and seven to ten. -/
def irish : Rules :=
  [(.one, [[Term.n.is (just 1)]]),
   (.two, [[Term.n.is (just 2)]]),
   (.few, [[Term.n.is (span 3 6)]]),
   (.many, [[Term.n.is (span 7 10)]])]

/-- One, or a fraction below two. -/
def danish : Rules :=
  [(.one, [[Term.n.is (just 1)],
      [Term.t.isNot (just 0), Term.i.is (just 0 ++ just 1)]])]

/-- One and eleven, two and twelve, and the rest up to nineteen. -/
def gaelic : Rules :=
  [(.one, [[Term.n.is (just 1 ++ just 11)]]),
   (.two, [[Term.n.is (just 2 ++ just 12)]]),
   (.few, [[Term.n.is (span 3 10 ++ span 13 19)]])]

/-- Endings in one, of the number or of its fraction. -/
def icelandic : Rules :=
  [(.one, [[Term.t.is (just 0), Term.i.modIs 10 (just 1), Term.i.modIsNot 100 (just 11)],
      [Term.t.modIs 10 (just 1), Term.t.modIsNot 100 (just 11)]])]

/-- Endings one, two to four, and the rest, of whole numbers. -/
def eastSlavic : Rules :=
  [(.one, [[Term.v.is (just 0), Term.i.modIs 10 (just 1), Term.i.modIsNot 100 (just 11)]]),
   (.few, [[Term.v.is (just 0), Term.i.modIs 10 (span 2 4), Term.i.modIsNot 100 (span 12 14)]]),
   (.many, [[Term.v.is (just 0), Term.i.modIs 10 (just 0)],
      [Term.v.is (just 0), Term.i.modIs 10 (span 5 9)],
      [Term.v.is (just 0), Term.i.modIs 100 (span 11 14)]])]

/-- Endings in one, of a whole number or of a fraction. -/
def macedonian : Rules :=
  [(.one, [[Term.v.is (just 0), Term.i.modIs 10 (just 1), Term.i.modIsNot 100 (just 11)],
      [Term.f.modIs 10 (just 1), Term.f.modIsNot 100 (just 11)]])]

/-- Endings one and two to four, of a whole number or of a fraction. -/
def southSlavic : Rules :=
  [(.one, [[Term.v.is (just 0), Term.i.modIs 10 (just 1), Term.i.modIsNot 100 (just 11)],
      [Term.f.modIs 10 (just 1), Term.f.modIsNot 100 (just 11)]]),
   (.few, [[Term.v.is (just 0), Term.i.modIs 10 (span 2 4), Term.i.modIsNot 100 (span 12 14)],
      [Term.f.modIs 10 (span 2 4), Term.f.modIsNot 100 (span 12 14)]])]

/-- Endings in one, two, and three or four by hundreds, and fractions. -/
def slovenian : Rules :=
  [(.one, [[Term.v.is (just 0), Term.i.modIs 100 (just 1)]]),
   (.two, [[Term.v.is (just 0), Term.i.modIs 100 (just 2)]]),
   (.few, [[Term.v.is (just 0), Term.i.modIs 100 (span 3 4)],
      [Term.v.isNot (just 0)]])]

/-- Endings in one, two, and three or four by hundreds, also of a fraction. -/
def sorbian : Rules :=
  [(.one, [[Term.v.is (just 0), Term.i.modIs 100 (just 1)],
      [Term.f.modIs 100 (just 1)]]),
   (.two, [[Term.v.is (just 0), Term.i.modIs 100 (just 2)],
      [Term.f.modIs 100 (just 2)]]),
   (.few, [[Term.v.is (just 0), Term.i.modIs 100 (span 3 4)],
      [Term.f.modIs 100 (span 3 4)]])]

/-- One to three, and all endings but four, six and nine. -/
def filipino : Rules :=
  [(.one, [[Term.v.is (just 0), Term.i.is (just 1 ++ just 2 ++ just 3)],
      [Term.v.is (just 0), Term.i.modIsNot 10 (just 4 ++ just 6 ++ just 9)],
      [Term.v.isNot (just 0), Term.f.modIsNot 10 (just 4 ++ just 6 ++ just 9)]])]

/-- Endings in zero and eleven to nineteen, and endings in one. -/
def latvian : Rules :=
  [(.zero, [[Term.n.modIs 10 (just 0)],
      [Term.n.modIs 100 (span 11 19)],
      [Term.v.is (just 2), Term.f.modIs 100 (span 11 19)]]),
   (.one, [[Term.n.modIs 10 (just 1), Term.n.modIsNot 100 (just 11)],
      [Term.v.is (just 2), Term.f.modIs 10 (just 1), Term.f.modIsNot 100 (just 11)],
      [Term.v.isNot (just 2), Term.f.modIs 10 (just 1)]])]

/-- Zero, and one. -/
def zeroAndOne : Rules :=
  [(.zero, [[Term.n.is (just 0)]]),
   (.one, [[Term.n.is (just 1)]])]

/-- Zero, one, two, and endings by hundreds. -/
def arabic : Rules :=
  [(.zero, [[Term.n.is (just 0)]]),
   (.one, [[Term.n.is (just 1)]]),
   (.two, [[Term.n.is (just 2)]]),
   (.few, [[Term.n.modIs 100 (span 3 10)]]),
   (.many, [[Term.n.modIs 100 (span 11 99)]])]

/-- Zero, one, two, three and six. -/
def welsh : Rules :=
  [(.zero, [[Term.n.is (just 0)]]),
   (.one, [[Term.n.is (just 1)]]),
   (.two, [[Term.n.is (just 2)]]),
   (.few, [[Term.n.is (just 3)]]),
   (.many, [[Term.n.is (just 6)]])]

end PluralTemplate.Plural.Rules
