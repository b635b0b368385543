import Casebook.Unicode.Property

/-! What version 17 of the standard says about characters. Texts are quoted and compared by it,
while the classes of patterns go by the version before.
-/

namespace Casebook.Unicode.Current

open Category Property

/-- Characters that the version adds. -/
def added : CodeSet :=
  .ofLines
    ["88F C5C CDC 1ACF-1ADD 1AE0-1AEB 20C1 2B96 A7CE-A7CF A7D2 A7D4 A7F1 FBC3-FBD2 FD90-FD91",
     "FDC8-FDCE 10940-10959 10EC5-10EC7 10ED0-10ED8 10EFA-10EFB 11B60-11B67 11DB0-11DDB",
     "11DE0-11DE9 16EA0-16EB8 16EBB-16ED3 16FF2-16FF6 187F8-187FF 18D09-18D1E 18D80-18DF2",
     "1CCFA-1CCFC 1CEBA-1CED0 1CEE0-1CEF0 1E6C0-1E6DE 1E6E0-1E6F5 1E6FE-1E6FF 1F6D8",
     "1F777-1F77A 1F8D0-1F8D8 1FA54-1FA57 1FA8A 1FA8E 1FAC8 1FACD 1FAEA 1FAEF 1FBFA",
     "2B73A-2B73F 2CEA2-2CEAD 323B0-33479"]

/-- Added characters that are alphabetic. -/
def addedAlphabetic : CodeSet :=
  .ofLines
    ["88F C5C CDC A7CE-A7CF A7D2 A7D4 A7F1 10940-10959 10EC5-10EC7 10EFA-10EFB 11B60-11B67",
     "11DB0-11DDB 16EA0-16EB8 16EBB-16ED3 16FF2-16FF6 187F8-187FF 18D09-18D1E 18D80-18DF2",
     "1E6C0-1E6DE 1E6E0-1E6F5 1E6FE-1E6FF 2B73A-2B73F 2CEA2-2CEAD 323B0-33479"]

/-- Added characters that are numbers. -/
def addedNumber : CodeSet :=
  .ofText "11DE0-11DE9 16FF4-16FF6"

/-- Added characters that have a case. -/
def addedCased : CodeSet :=
  .ofText "A7CE-A7CF A7D2 A7D4 A7F1 16EA0-16EB8 16EBB-16ED3"

/-- Added characters that are passed over when the case of their neighbours is judged. -/
def addedCaseIgnorable : CodeSet :=
  .ofLines
    ["1ACF-1ADD 1AE0-1AEB A7F1 10EC5 10EFA-10EFB 11B60 11B62-11B64 11B66 11DD9 16FF2-16FF3",
     "1E6E3 1E6E6 1E6EE-1E6EF 1E6F5 1E6FF"]

/-- Added marks that join the character before them. -/
def addedCombining : CodeSet :=
  .ofLines
    ["1ACF-1ADD 1AE0-1AEB 10EFA-10EFB 11B60 11B62-11B64 11B66 1E6E3 1E6E6 1E6EE-1E6EF 1E6F5"]

/-- Characters that words of some language are written with. -/
def alphabetic : CodeSet :=
  Property.alphabetic ++ addedAlphabetic

/-- Alphabetic characters and numbers. -/
def alphanumeric : CodeSet :=
  alphabetic ++ number ++ addedNumber

/-- Characters that have a case. U+0295 has lost its own. -/
def cased : CodeSet :=
  Property.cased.minus (.ofText "295") ++ addedCased

/-- Characters that are passed over when the case of their neighbours is judged. -/
def caseIgnorable : CodeSet :=
  Property.caseIgnorable ++ addedCaseIgnorable

/-- Marks that join the character before them. -/
def combining : CodeSet :=
  CodeSet.inter graphemeExtend mark ++ addedCombining

/-- Characters that a person reading quoted text would not see, or would not see as they are:
all that are not letters, marks, numbers, punctuation or symbols, apart from the space.
-/
def invisible : CodeSet :=
  (other ++ separator).minus (added ++ .ofText "20")

end Casebook.Unicode.Current
