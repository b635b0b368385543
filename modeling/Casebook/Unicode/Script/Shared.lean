import Casebook.Unicode.Script

/-! Characters that several scripts share, after version 16 of the standard. The extension of a
script holds the characters that it uses, whether it owns them or shares them with others.
-/

namespace Casebook.Unicode.Script

/-- Sets of characters that do not belong to the script that owns them alone, and the scripts that
use them.
-/
def shared : List (CodeSet × List String) := [
  (.ofText "B7",
    ["avst", "cari", "copt", "dupl", "elba", "geor", "glag", "gong", "goth", "grek", "hani",
     "latn", "lydi", "mahj", "perm", "shaw"]),
  (.ofText "2BC", ["beng", "cyrl", "deva", "latn", "lisu", "thai", "toto"]),
  (.ofText "2C7 2C9-2CB 2D9", ["bopo", "latn"]),
  (.ofText "2CD", ["latn", "lisu"]),
  (.ofText "2D7", ["latn", "thai"]),
  (.ofText "300", ["cher", "copt", "cyrl", "grek", "latn", "perm", "sunu", "tale"]),
  (.ofText "301", ["cher", "cyrl", "grek", "latn", "osge", "sunu", "tale", "todr"]),
  (.ofText "302", ["cher", "cyrl", "latn", "tfng"]),
  (.ofText "303", ["glag", "latn", "sunu", "syrc", "thai"]),
  (.ofText "304",
    ["aghb", "cher", "copt", "cyrl", "goth", "grek", "latn", "osge", "syrc", "tfng", "todr"]),
  (.ofText "305", ["copt", "elba", "glag", "goth", "kana", "latn"]),
  (.ofText "306", ["cyrl", "grek", "latn", "perm", "tfng"]),
  (.ofText "307", ["copt", "dupl", "hebr", "latn", "perm", "syrc", "tale", "tfng", "todr"]),
  (.ofText "308",
    ["armn", "cyrl", "dupl", "goth", "grek", "hebr", "latn", "perm", "syrc", "tale", "tfng"]),
  (.ofText "309", ["latn", "tfng"]),
  (.ofText "30A", ["dupl", "latn", "syrc"]),
  (.ofText "30B", ["cher", "cyrl", "latn", "osge"]),
  (.ofText "30C", ["cher", "latn", "tale"]),
  (.ofText "30D 310", ["latn", "sunu"]),
  (.ofText "30E", ["ethi", "latn"]),
  (.ofText "311", ["cyrl", "latn", "todr"]),
  (.ofText "313", ["grek", "latn", "perm", "todr"]),
  (.ofText "323", ["cher", "dupl", "kana", "latn", "syrc", "tfng"]),
  (.ofText "324", ["cher", "dupl", "latn", "syrc"]),
  (.ofText "325 32E", ["latn", "syrc"]),
  (.ofText "32D", ["latn", "sunu", "syrc"]),
  (.ofText "330", ["cher", "latn", "syrc"]),
  (.ofText "331", ["aghb", "cher", "goth", "latn", "sunu", "syrc", "thai"]),
  (.ofText "342 345 1DC0-1DC1", ["grek"]),
  (.ofText "358", ["latn", "osge"]),
  (.ofText "35E", ["aghb", "latn", "todr"]),
  (.ofText "363-36F", ["latn"]),
  (.ofText "374-375", ["copt", "grek"]),
  (.ofText "483", ["cyrl", "perm"]),
  (.ofText "484 487 2E43 A66F", ["cyrl", "glag"]),
  (.ofText "485-486", ["cyrl", "latn"]),
  (.ofText "589", ["armn", "geor", "glag"]),
  (.ofText "60C 61B", ["arab", "gara", "nkoo", "rohg", "syrc", "thaa", "yezi"]),
  (.ofText "61C", ["arab", "syrc", "thaa"]),
  (.ofText "61F", ["adlm", "arab", "gara", "nkoo", "rohg", "syrc", "thaa", "yezi"]),
  (.ofText "640", ["adlm", "arab", "mand", "mani", "ougr", "phlp", "rohg", "sogd", "syrc"]),
  (.ofText "64B-655 670", ["arab", "syrc"]),
  (.ofText "660-669", ["arab", "thaa", "yezi"]),
  (.ofText "6D4", ["arab", "rohg"]),
  (.ofText "951",
    ["beng", "deva", "gran", "gujr", "guru", "knda", "latn", "mlym", "nand", "newa", "orya",
     "shrd", "taml", "telu", "tirh"]),
  (.ofText "952",
    ["beng", "deva", "gran", "gujr", "guru", "knda", "latn", "mlym", "newa", "orya", "taml",
     "telu", "tirh"]),
  (.ofText "964",
    ["beng", "deva", "dogr", "gong", "gonm", "gran", "gujr", "guru", "knda", "mahj", "mlym",
     "nand", "onao", "orya", "sind", "sinh", "sylo", "takr", "taml", "telu", "tirh"]),
  (.ofText "965",
    ["beng", "deva", "dogr", "gong", "gonm", "gran", "gujr", "gukh", "guru", "knda", "limb",
     "mahj", "mlym", "nand", "onao", "orya", "sind", "sinh", "sylo", "takr", "taml", "telu",
     "tirh"]),
  (.ofText "966-96F", ["deva", "dogr", "kthi", "mahj"]),
  (.ofText "9E6-9EF", ["beng", "cakm", "sylo"]),
  (.ofText "A66-A6F", ["guru", "mult"]),
  (.ofText "AE6-AEF", ["gujr", "khoj"]),
  (.ofText "BE6-BF3 11301 11303 1133B-1133C 11FD0-11FD1 11FD3", ["gran", "taml"]),
  (.ofText "CE6-CEF", ["knda", "nand", "tutg"]),
  (.ofText "1040-1049", ["cakm", "mymr", "tale"]),
  (.ofText "10FB", ["geor", "glag", "latn"]),
  (.ofText "16EB-16ED", ["runr"]),
  (.ofText "1735-1736", ["buhd", "hano", "tagb", "tglg"]),
  (.ofText "1802-1803 1805", ["mong", "phag"]),
  (.ofText "1CD0 1CD2", ["beng", "deva", "gran", "knda"]),
  (.ofText "1CD1 1CD4 1CDB 1CDE-1CDF 1CE3-1CE8 1CEC 1CEE-1CF1", ["deva"]),
  (.ofText "1CD3", ["deva", "gran", "knda"]),
  (.ofText "1CD5", ["beng", "deva", "newa", "telu", "tirh"]),
  (.ofText "1CD6", ["beng", "deva", "telu"]),
  (.ofText "1CD7", ["deva", "newa", "shrd"]),
  (.ofText "1CD8", ["beng", "deva", "newa", "telu"]),
  (.ofText "1CD9 1CDC-1CDD 1CE0", ["deva", "shrd"]),
  (.ofText "1CDA", ["deva", "knda", "mlym", "orya", "taml", "telu"]),
  (.ofText "1CE1 1CF5-1CF6", ["beng", "deva"]),
  (.ofText "1CE2", ["deva", "newa", "tirh"]),
  (.ofText "1CE9", ["deva", "nand", "newa"]),
  (.ofText "1CEA", ["beng", "deva", "shrd"]),
  (.ofText "1CEB", ["deva", "newa"]),
  (.ofText "1CED", ["beng", "deva", "newa", "shrd"]),
  (.ofText "1CF2",
    ["beng", "deva", "gran", "knda", "mlym", "nand", "orya", "sinh", "telu", "tirh", "tutg"]),
  (.ofText "1CF3 1CF8-1CF9", ["deva", "gran"]),
  (.ofText "1CF4", ["deva", "gran", "knda", "tutg"]),
  (.ofText "1CF7", ["beng"]),
  (.ofText "1CFA", ["nand"]),
  (.ofText "1DF8", ["cyrl", "latn", "syrc"]),
  (.ofText "1DFA", ["syrc"]),
  (.ofText "202F", ["latn", "mong", "phag"]),
  (.ofText "204F", ["adlm", "arab"]),
  (.ofText "205A", ["cari", "geor", "glag", "hung", "lyci", "orkh"]),
  (.ofText "205D", ["cari", "grek", "hung", "mero"]),
  (.ofText "20F0", ["deva", "gran", "latn"]),
  (.ofText "2E17", ["copt", "latn"]),
  (.ofText "2E30", ["avst", "orkh"]),
  (.ofText "2E31", ["avst", "cari", "geor", "hung", "kthi", "lydi", "samr"]),
  (.ofText "2E3C 1BCA0-1BCA3", ["dupl"]),
  (.ofText "2E41", ["adlm", "arab", "hung"]),
  (.ofText "2FF0-2FFF 31EF", ["hani", "tang"]),
  (.ofText "3001", ["bopo", "hang", "hani", "hira", "kana", "mong", "yiii"]),
  (.ofText "3002", ["bopo", "hang", "hani", "hira", "kana", "mong", "phag", "yiii"]),
  (.ofText "3003 3013 301C-301F 3030 3037 FE45-FE46", ["bopo", "hang", "hani", "hira", "kana"]),
  (.ofLines
     ["3006 303E-303F 3190-319F 31C0-31E5 3220-3247 3280-32B0 32C0-32CB 32FF 3358-3370",
      "337B-337F 33E0-33FE 1D360-1D371 1F250-1F251"],
    ["hani"]),
  (.ofText "3008-3009", ["bopo", "hang", "hani", "hira", "kana", "mong", "tibt", "yiii"]),
  (.ofText "300A-300B",
    ["bopo", "hang", "hani", "hira", "kana", "lisu", "mong", "tibt", "yiii"]),
  (.ofText "300C-3011 3014-301B 30FB FF61-FF65",
    ["bopo", "hang", "hani", "hira", "kana", "yiii"]),
  (.ofText "302A-302D", ["bopo", "hani"]),
  (.ofText "3031-3035 3099-309C 30A0 30FC FF70 FF9E-FF9F", ["hira", "kana"]),
  (.ofText "303C-303D", ["hani", "hira", "kana"]),
  (.ofText "A700-A707", ["hani", "latn"]),
  (.ofText "A830-A832",
    ["deva", "dogr", "gujr", "guru", "khoj", "knda", "kthi", "mahj", "mlym", "modi", "nand",
     "shrd", "sind", "takr", "tirh", "tutg"]),
  (.ofText "A833-A835",
    ["deva", "dogr", "gujr", "guru", "khoj", "knda", "kthi", "mahj", "modi", "nand", "shrd",
     "sind", "takr", "tirh", "tutg"]),
  (.ofText "A836-A837 A839",
    ["deva", "dogr", "gujr", "guru", "khoj", "kthi", "mahj", "modi", "sind", "takr", "tirh"]),
  (.ofText "A838",
    ["deva", "dogr", "gujr", "guru", "khoj", "kthi", "mahj", "modi", "shrd", "sind", "takr",
     "tirh"]),
  (.ofText "A8F1", ["beng", "deva", "tutg"]),
  (.ofText "A8F3", ["deva", "taml"]),
  (.ofText "A92E", ["kali", "latn", "mymr"]),
  (.ofText "A9CF", ["bugi", "java"]),
  (.ofText "FD3E-FD3F", ["arab", "nkoo"]),
  (.ofText "FDF2 FDFD", ["arab", "thaa"]),
  (.ofText "10100-10101", ["cpmn", "cprt", "linb"]),
  (.ofText "10102 10137-1013F", ["cprt", "linb"]),
  (.ofText "10107-10133", ["cprt", "lina", "linb"]),
  (.ofText "102E0-102FB", ["arab", "copt"]),
  (.ofText "10AF2", ["mani", "ougr"])
]

/-- The characters that some script shares with another or takes over from its owner. -/
def allShared : CodeSet :=
  ⟨shared.flatMap fun row => row.1.ranges⟩

/-- The extension of the script that has some names. The first of them stands for it in the table
of shared characters.
-/
def extension (names : List String) (owned : CodeSet) : CodeSet :=
  owned.minus allShared
    ++ ⟨(shared.filter fun row => names.head?.any row.2.contains).flatMap fun row => row.1.ranges⟩

/-- The extension of the script with a name, which is written like the names of scripts. -/
def extensionNamed? (name : String) : Option CodeSet :=
  (named.find? fun row => row.1.contains name).map fun row => extension row.1 row.2

end Casebook.Unicode.Script
