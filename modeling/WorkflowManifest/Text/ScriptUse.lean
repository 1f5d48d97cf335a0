import WorkflowManifest.Text.Script

namespace WorkflowManifest.Text

structure SharedUse where
  scripts : List String
  ranges : List CodeRange
  deriving DecidableEq

namespace SharedUse

def ofText (scripts : List String) (ranges : String) : SharedUse :=
  ⟨scripts, CodeRange.ofText ranges⟩

def all : List SharedUse :=
  [.ofText ["avst", "cari", "copt", "dupl", "elba", "geor", "glag", "gong", "goth", "grek",
     "hani", "latn", "lydi", "mahj", "perm", "shaw"] "B7",
   .ofText ["beng", "cyrl", "deva", "latn", "lisu", "thai", "toto"] "2BC",
   .ofText ["bopo", "latn"] "2C7 2C9-2CB 2D9",
   .ofText ["latn", "lisu"] "2CD",
   .ofText ["latn", "thai"] "2D7",
   .ofText ["cher", "copt", "cyrl", "grek", "latn", "perm", "sunu", "tale"] "300",
   .ofText ["cher", "cyrl", "grek", "latn", "osge", "sunu", "tale", "todr"] "301",
   .ofText ["cher", "cyrl", "latn", "tfng"] "302",
   .ofText ["glag", "latn", "sunu", "syrc", "thai"] "303",
   .ofText ["aghb", "cher", "copt", "cyrl", "goth", "grek", "latn", "osge", "syrc", "tfng",
     "todr"] "304",
   .ofText ["copt", "elba", "glag", "goth", "kana", "latn"] "305",
   .ofText ["cyrl", "grek", "latn", "perm"] "306",
   .ofText ["copt", "dupl", "hebr", "latn", "perm", "syrc", "tale", "tfng", "todr"] "307",
   .ofText ["armn", "cyrl", "dupl", "goth", "grek", "hebr", "latn", "perm", "syrc", "tale"] "308",
   .ofText ["latn", "tfng"] "309",
   .ofText ["dupl", "latn", "syrc"] "30A",
   .ofText ["cher", "cyrl", "latn", "osge"] "30B",
   .ofText ["cher", "latn", "tale"] "30C",
   .ofText ["latn", "sunu"] "30D 310",
   .ofText ["ethi", "latn"] "30E",
   .ofText ["cyrl", "latn", "todr"] "311",
   .ofText ["grek", "latn", "perm", "todr"] "313",
   .ofText ["latn", "syrc"] "320 325 32E",
   .ofText ["cher", "dupl", "kana", "latn", "syrc"] "323",
   .ofText ["cher", "dupl", "latn", "syrc"] "324",
   .ofText ["latn", "sunu", "syrc"] "32D",
   .ofText ["cher", "latn", "syrc"] "330",
   .ofText ["aghb", "cher", "goth", "latn", "sunu", "thai"] "331",
   .ofText ["grek"] "342 345 1DC0-1DC1",
   .ofText ["latn", "osge"] "358",
   .ofText ["aghb", "latn", "todr"] "35E",
   .ofText ["latn"] "363-36F",
   .ofText ["copt", "grek"] "374-375",
   .ofText ["cyrl", "perm"] "483",
   .ofText ["cyrl", "glag"] "484 487 2E43 A66F",
   .ofText ["cyrl", "latn"] "485-486",
   .ofText ["armn", "geor", "glag"] "589",
   .ofText ["arab", "gara", "nkoo", "rohg", "syrc", "thaa", "yezi"] "60C 61B",
   .ofText ["arab", "syrc", "thaa"] "61C",
   .ofText ["adlm", "arab", "gara", "nkoo", "rohg", "syrc", "thaa", "yezi"] "61F",
   .ofText ["adlm", "arab", "mand", "mani", "ougr", "phlp", "rohg", "sogd", "syrc"] "640",
   .ofText ["arab", "syrc"] "64B-655 670",
   .ofText ["arab", "thaa", "yezi"] "660-669",
   .ofText ["arab", "rohg"] "6D4",
   .ofText ["beng", "deva", "gran", "gujr", "guru", "knda", "latn", "mlym", "orya", "shrd",
     "taml", "telu", "tirh"] "951",
   .ofText ["beng", "deva", "gran", "gujr", "guru", "knda", "latn", "mlym", "orya", "taml",
     "telu", "tirh"] "952",
   .ofText ["beng", "deva", "dogr", "gong", "gonm", "gran", "gujr", "guru", "knda", "mahj",
     "mlym", "nand", "onao", "orya", "sind", "sinh", "sylo", "takr", "taml", "telu", "tirh"]
     "964",
   .ofText ["beng", "deva", "dogr", "gong", "gonm", "gran", "gujr", "gukh", "guru", "knda",
     "limb", "mahj", "mlym", "nand", "onao", "orya", "sind", "sinh", "sylo", "takr", "taml",
     "telu", "tirh"] "965",
   .ofText ["deva", "dogr", "kthi", "mahj"] "966-96F",
   .ofText ["beng", "cakm", "sylo"] "9E6-9EF",
   .ofText ["guru", "mult"] "A66-A6F",
   .ofText ["gujr", "khoj"] "AE6-AEF",
   .ofText ["gran", "taml"] "BE6-BF3 11301 11303 1133B-1133C 11FD0-11FD1 11FD3",
   .ofText ["knda", "nand", "tutg"] "CE6-CEF",
   .ofText ["cakm", "mymr", "tale"] "1040-1049",
   .ofText ["geor", "glag", "latn"] "10FB",
   .ofText ["runr"] "16EB-16ED",
   .ofText ["buhd", "hano", "tagb", "tglg"] "1735-1736",
   .ofText ["mong", "phag"] "1802-1803 1805",
   .ofText ["beng", "deva", "gran", "knda"] "1CD0 1CD2",
   .ofText ["deva"] "1CD1 1CD4 1CDB 1CDE-1CDF 1CE2-1CE8 1CEB-1CEC 1CEE-1CF1",
   .ofText ["deva", "gran", "knda"] "1CD3",
   .ofText ["beng", "deva"] "1CD5-1CD6 1CD8 1CE1 1CEA 1CED 1CF5-1CF6",
   .ofText ["deva", "shrd"] "1CD7 1CD9 1CDC-1CDD 1CE0",
   .ofText ["deva", "knda", "mlym", "orya", "taml", "telu"] "1CDA",
   .ofText ["deva", "nand"] "1CE9",
   .ofText ["beng", "deva", "gran", "knda", "mlym", "nand", "orya", "sinh", "telu", "tirh",
     "tutg"] "1CF2",
   .ofText ["deva", "gran"] "1CF3 1CF8-1CF9",
   .ofText ["deva", "gran", "knda", "tutg"] "1CF4",
   .ofText ["beng"] "1CF7",
   .ofText ["nand"] "1CFA",
   .ofText ["cyrl", "latn", "syrc"] "1DF8",
   .ofText ["syrc"] "1DFA",
   .ofText ["latn", "mong", "phag"] "202F",
   .ofText ["adlm", "arab"] "204F",
   .ofText ["cari", "geor", "glag", "hung", "lyci", "orkh"] "205A",
   .ofText ["cari", "grek", "hung", "mero"] "205D",
   .ofText ["deva", "gran", "latn"] "20F0",
   .ofText ["copt", "latn"] "2E17",
   .ofText ["avst", "orkh"] "2E30",
   .ofText ["avst", "cari", "geor", "hung", "kthi", "lydi", "samr"] "2E31",
   .ofText ["dupl"] "2E3C 1BCA0-1BCA3",
   .ofText ["adlm", "arab", "hung"] "2E41",
   .ofText ["hani", "tang"] "2FF0-2FFF 31EF",
   .ofText ["bopo", "hang", "hani", "hira", "kana", "mong", "yiii"] "3001",
   .ofText ["bopo", "hang", "hani", "hira", "kana", "mong", "phag", "yiii"] "3002",
   .ofText ["bopo", "hang", "hani", "hira", "kana"] "3003 3013 301C-301F 3030 3037 FE45-FE46",
   .ofText ["hani"]
     "3006 303E-303F 3190-319F 31C0-31E5 3220-3247 3280-32B0 32C0-32CB 32FF 3358-3370 337B-337F",
   .ofText ["hani"]
     "33E0-33FE 1D360-1D371 1F250-1F251",
   .ofText ["bopo", "hang", "hani", "hira", "kana", "mong", "tibt", "yiii"] "3008-3009",
   .ofText ["bopo", "hang", "hani", "hira", "kana", "lisu", "mong", "tibt", "yiii"] "300A-300B",
   .ofText ["bopo", "hang", "hani", "hira", "kana", "yiii"] "300C-3011 3014-301B 30FB FF61-FF65",
   .ofText ["bopo", "hani"] "302A-302D",
   .ofText ["hira", "kana"] "3031-3035 3099-309C 30A0 30FC FF70 FF9E-FF9F",
   .ofText ["hani", "hira", "kana"] "303C-303D",
   .ofText ["hani", "latn"] "A700-A707",
   .ofText ["deva", "dogr", "gujr", "guru", "khoj", "knda", "kthi", "mahj", "mlym", "modi",
     "nand", "shrd", "sind", "takr", "tirh", "tutg"] "A830-A832",
   .ofText ["deva", "dogr", "gujr", "guru", "khoj", "knda", "kthi", "mahj", "modi", "nand",
     "shrd", "sind", "takr", "tirh", "tutg"] "A833-A835",
   .ofText ["deva", "dogr", "gujr", "guru", "khoj", "kthi", "mahj", "modi", "sind", "takr",
     "tirh"] "A836-A837 A839",
   .ofText ["deva", "dogr", "gujr", "guru", "khoj", "kthi", "mahj", "modi", "shrd", "sind",
     "takr", "tirh"] "A838",
   .ofText ["beng", "deva", "tutg"] "A8F1",
   .ofText ["deva", "taml"] "A8F3",
   .ofText ["kali", "latn", "mymr"] "A92E",
   .ofText ["bugi", "java"] "A9CF",
   .ofText ["arab", "nkoo"] "FD3E-FD3F",
   .ofText ["arab", "thaa"] "FDF2 FDFD",
   .ofText ["cpmn", "cprt", "linb"] "10100-10101",
   .ofText ["cprt", "linb"] "10102 10137-1013F",
   .ofText ["cprt", "lina", "linb"] "10107-10133",
   .ofText ["arab", "copt"] "102E0-102FB",
   .ofText ["mani", "ougr"] "10AF2"]

end SharedUse

def Script.usedSet (s : Script) : CodeSet :=
  let shared := SharedUse.all.filter (·.scripts.any s.names.contains)
  .listed (shared.flatMap (·.ranges)) ∪ (s.set \ .listed (SharedUse.all.flatMap (·.ranges)))

end WorkflowManifest.Text
