import CodeMigration.Unicode.Script

/-!
# CodeMigration.Unicode.ScriptExtension

The scripts that a code point is used with. Most code points are used with their own
script alone; the table lists the others, which several scripts share or which are
used with a script that is not their own.
-/

namespace CodeMigration.Unicode.ScriptExtension

/-- Reads one line of the table: the length of a gap, the length of a run behind it,
and the codes of the scripts that the run is used with. -/
def readLine (line : String) : Option (Nat × Nat × List String) :=
  match line.splitOn " " with
  | gap :: run :: codes => do return (← gap.toNat?, ← run.toNat?, codes)
  | _ => none

/-- Runs of code points that are used with other scripts than their own. -/
def runs : List (Nat × Nat × List String) := table.filterMap readLine
where
  /-- The runs in the order of the code points. -/
  table : List String :=
    ["834 1 Grek", "2 1 Grek", "29 13 Latn", "275 1 Cyrl Perm", "0 1 Cyrl Glag", "0 2 Cyrl Latn",
     "0 1 Cyrl Glag", "388 1 Arab Nkoo Rohg Syrc Thaa Yezi", "14 1 Arab Nkoo Rohg Syrc Thaa Yezi",
     "0 1 Arab Syrc Thaa", "2 1 Adlm Arab Nkoo Rohg Syrc Thaa Yezi",
     "32 1 Adlm Arab Mand Mani Ougr Phlp Rohg Sogd Syrc", "10 11 Arab Syrc",
     "10 10 Arab Thaa Yezi", "6 1 Arab Syrc", "99 1 Arab Rohg",
     "636 1 Beng Deva Gran Gujr Guru Knda Latn Mlym Orya Shrd Taml Telu Tirh",
     "0 1 Beng Deva Gran Gujr Guru Knda Latn Mlym Orya Taml Telu Tirh",
     "17 1 Beng Deva Dogr Gong Gonm Gran Gujr Guru Knda Mahj Mlym Nand Orya Sind Sinh " ++
       "Sylo Takr Taml Telu Tirh",
     "0 1 Beng Deva Dogr Gong Gonm Gran Gujr Guru Knda Limb Mahj Mlym Nand Orya Sind Sinh " ++
       "Sylo Takr Taml Telu Tirh",
     "0 10 Deva Dogr Kthi Mahj", "118 10 Beng Cakm Sylo", "118 10 Guru Mult", "118 10 Gujr Khoj",
     "246 14 Gran Taml", "242 10 Knda Nand", "848 10 Cakm Mymr Tale", "177 1 Geor Latn",
     "1593 2 Buhd Hano Tagb Tglg", "203 2 Mong Phag", "1 1 Mong Phag",
     "1226 1 Beng Deva Gran Knda", "0 1 Deva", "0 1 Beng Deva Gran Knda", "0 1 Deva Gran",
     "0 1 Deva", "0 2 Beng Deva", "0 1 Deva Shrd", "0 1 Beng Deva", "0 1 Deva Shrd",
     "0 1 Deva Knda Mlym Orya Taml Telu", "0 1 Deva", "0 2 Deva Shrd", "0 2 Deva",
     "0 1 Deva Shrd", "0 1 Beng Deva", "0 7 Deva", "0 1 Deva Nand", "0 1 Beng Deva", "0 2 Deva",
     "0 1 Beng Deva", "0 4 Deva", "0 1 Beng Deva Gran Knda Nand Orya Telu Tirh", "0 1 Deva Gran",
     "0 1 Deva Gran Knda", "0 2 Beng Deva", "0 1 Beng", "0 2 Deva Gran", "0 1 Nand", "197 2 Grek",
     "54 1 Cyrl Syrc", "1 1 Syrc", "564 1 Latn Mong", "192 1 Deva Gran Latn", "3410 1 Cyrl Glag",
     "445 2 Bopo Hang Hani Hira Kana Yiii", "0 1 Bopo Hang Hani Hira Kana", "2 1 Hani",
     "1 10 Bopo Hang Hani Hira Kana Yiii", "1 1 Bopo Hang Hani Hira Kana",
     "0 8 Bopo Hang Hani Hira Kana Yiii", "0 4 Bopo Hang Hani Hira Kana", "10 4 Bopo Hani",
     "2 1 Bopo Hang Hani Hira Kana", "0 5 Hira Kana", "1 1 Bopo Hang Hani Hira Kana",
     "4 2 Hani Hira Kana", "0 2 Hani", "89 4 Hira Kana", "3 1 Hira Kana",
     "90 1 Bopo Hang Hani Hira Kana Yiii", "0 1 Hira Kana", "147 16 Hani", "32 36 Hani",
     "60 40 Hani", "56 49 Hani", "15 12 Hani", "51 1 Hani", "88 25 Hani", "10 5 Hani",
     "96 31 Hani", "29296 1 Cyrl Glag", "144 8 Hani Latn",
     "296 3 Deva Dogr Gujr Guru Khoj Knda Kthi Mahj Mlym Modi Nand Sind Takr Tirh",
     "0 3 Deva Dogr Gujr Guru Khoj Knda Kthi Mahj Modi Nand Sind Takr Tirh",
     "0 4 Deva Dogr Gujr Guru Khoj Kthi Mahj Modi Sind Takr Tirh", "183 1 Beng Deva",
     "1 1 Deva Taml", "58 1 Kali Latn Mymr", "160 1 Bugi Java", "21358 2 Arab Nkoo",
     "178 1 Arab Thaa", "10 1 Arab Thaa", "71 2 Bopo Hang Hani Hira Kana",
     "282 5 Bopo Hang Hani Hira Kana Yiii", "10 1 Hira Kana", "45 2 Hira Kana",
     "352 2 Cpmn Cprt Linb", "0 1 Cprt Linb", "4 45 Cprt Lina Linb", "3 9 Cprt Linb",
     "416 28 Arab Copt", "2038 1 Mani Ougr", "2062 1 Gran Taml", "1 1 Gran Taml",
     "55 2 Gran Taml", "3219 2 Gran Taml", "1 1 Gran Taml", "40140 4 Dupl", "5820 18 Hani",
     "7902 2 Hani"]

/-- The scripts listed for a code point, if it is in the table. The code point is
counted down run by run. -/
def listed? : List (Nat × Nat × List String) → Nat → Option (List String)
  | [], _ => none
  | (gap, run, codes) :: rest, n =>
    if n < gap then none
    else if n - gap < run then some codes
    else listed? rest (n - gap - run)

/-- Is the code point used with the script with this code? -/
def holds (code : String) (n : Nat) : Bool :=
  match listed? runs n with
  | some codes => codes.contains code
  | none => Script.holds code n

end CodeMigration.Unicode.ScriptExtension
