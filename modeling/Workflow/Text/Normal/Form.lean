import Workflow.Text.Decimal
import Workflow.Text.Normal.Parts
import Workflow.Text.Runs

/-! The composed normal form of a text: each character is taken apart, the marks on one character
are put in order, and what can be one character becomes one. -/

namespace Workflow.Text

/-! The classes of combining marks tell the order of the marks on one character. -/

/-- A class and a run of characters of the class, with a colon between them. -/
def readClassRun (word : List Char) : Nat × Run :=
  let (digits, run) := cutAt ':' word
  (ofDigits (spanDigits asciiDigit? digits).1, readRun run)

/-- The runs of marks with their classes. -/
def classRuns : List (Nat × Run) := (
  ["1:334-338 1:1cd4 1:1ce2-1ce8 1:20d2-20d3 1:20d8-20da 1:20e5-20e6 1:20ea-20eb 1:10a39",
   "1:16af0-16af4 1:1bc9e 1:1d167-1d169 6:16ff0-16ff1 7:93c 7:9bc 7:a3c 7:abc 7:b3c 7:c3c 7:cbc",
   "7:1037 7:1b34 7:1be6 7:1c37 7:a9b3 7:110ba 7:11173 7:111ca 7:11236 7:112e9 7:1133b-1133c",
   "7:11446 7:114c3 7:115c0 7:116b7 7:1183a 7:11943 7:11d42 7:1e94a 8:3099-309a 9:94d 9:9cd 9:a4d",
   "9:acd 9:b4d 9:bcd 9:c4d 9:ccd 9:d3b-d3c 9:d4d 9:dca 9:e3a 9:eba 9:f84 9:1039-103a 9:1714-1715",
   "9:1734 9:17d2 9:1a60 9:1b44 9:1baa-1bab 9:1bf2-1bf3 9:2d7f 9:a806 9:a82c 9:a8c4 9:a953 9:a9c0",
   "9:aaf6 9:abed 9:10a3f 9:11046 9:11070 9:1107f 9:110b9 9:11133-11134 9:111c0 9:11235 9:112ea",
   "9:1134d 9:11442 9:114c2 9:115bf 9:1163f 9:116b6 9:1172b 9:11839 9:1193d-1193e 9:119e0 9:11a34",
   "9:11a47 9:11a99 9:11c3f 9:11d44-11d45 9:11d97 10:5b0 11:5b1 12:5b2 13:5b3 14:5b4 15:5b5 16:5b6",
   "17:5b7 18:5b8 18:5c7 19:5b9-5ba 20:5bb 21:5bc 22:5bd 23:5bf 24:5c1 25:5c2 26:fb1e 27:64b",
   "27:8f0 28:64c 28:8f1 29:64d 29:8f2 30:618 30:64e 31:619 31:64f 32:61a 32:650 33:651 34:652",
   "35:670 36:711 84:c55 91:c56 103:e38-e39 107:e48-e4b 118:eb8-eb9 122:ec8-ecb 129:f71 130:f72",
   "130:f7a-f7d 130:f80 132:f74 202:321-322 202:327-328 202:1dd0 214:1dce 216:31b 216:f39",
   "216:1d165-1d166 216:1d16e-1d172 218:1dfa 218:302a 220:316-319 220:31c-320 220:323-326",
   "220:329-333 220:339-33c 220:347-349 220:34d-34e 220:353-356 220:359-35a 220:591 220:596",
   "220:59b 220:5a2-5a7 220:5aa 220:5c5 220:655-656 220:65c 220:65f 220:6e3 220:6ea 220:6ed",
   "220:731 220:734 220:737-739 220:73b-73c 220:73e 220:742-748/2 220:7f2 220:7fd 220:859-85b",
   "220:899-89b 220:8cf-8d3 220:8e3 220:8e6 220:8e9 220:8ed-8ef 220:8f6 220:8f9-8fa 220:952",
   "220:f18-f19 220:f35-f37/2 220:fc6 220:108d 220:193b 220:1a18 220:1a7f 220:1ab5-1aba",
   "220:1abd-1abf/2 220:1ac0 220:1ac3-1ac4 220:1aca 220:1b6c 220:1cd5-1cd9 220:1cdc-1cdf 220:1ced",
   "220:1dc2 220:1dca 220:1dcf 220:1df9 220:1dfd-1dff/2 220:20e8 220:20ec-20ef 220:a92b-a92d",
   "220:aab4 220:fe27-fe2d 220:101fd 220:102e0 220:10a0d 220:10a3a 220:10ae6 220:10f46-10f47",
   "220:10f4b-10f4d/2 220:10f4e-10f50 220:10f83-10f85/2 220:1d17b-1d182 220:1d18a-1d18b",
   "220:1e8d0-1e8d6 222:59a 222:5ad 222:1939 222:302d 224:302e-302f 226:1d16d 228:5ae 228:18a9",
   "228:1df7-1df8 228:302b 230:300-314 230:33d-344 230:346 230:34a-34c 230:350-352 230:357 230:35b",
   "230:363-36f 230:483-487 230:592-595 230:597-599 230:59c-5a1 230:5a8-5a9 230:5ab-5ac 230:5af",
   "230:5c4 230:610-617 230:653-654 230:657-65b 230:65d-65e 230:6d6-6dc 230:6df-6e2 230:6e4",
   "230:6e7-6e8 230:6eb-6ec 230:730-732/2 230:733-735/2 230:736 230:73a 230:73d-73f/2 230:740-741",
   "230:743-749/2 230:74a 230:7eb-7f1 230:7f3 230:816-819 230:81b-823 230:825-827 230:829-82d",
   "230:898 230:89c-89f 230:8ca-8ce 230:8d4-8e1 230:8e4-8e5 230:8e7-8e8 230:8ea-8ec 230:8f3-8f5",
   "230:8f7-8f8 230:8fb-8ff 230:951-953/2 230:954 230:9fe 230:f82-f83 230:f86-f87 230:135d-135f",
   "230:17dd 230:193a 230:1a17 230:1a75-1a7c 230:1ab0-1ab4 230:1abb-1abc 230:1ac1-1ac2",
   "230:1ac5-1ac9 230:1acb-1ace 230:1b6b-1b6d/2 230:1b6e-1b73 230:1cd0-1cd2 230:1cda-1cdb 230:1ce0",
   "230:1cf4 230:1cf8-1cf9 230:1dc0-1dc1 230:1dc3-1dc9 230:1dcb-1dcc 230:1dd1-1df5 230:1dfb",
   "230:1dfe 230:20d0-20d1 230:20d4-20d7 230:20db-20dc 230:20e1 230:20e7-20e9/2 230:20f0",
   "230:2cef-2cf1 230:2de0-2dff 230:a66f 230:a674-a67d 230:a69e-a69f 230:a6f0-a6f1 230:a8e0-a8f1",
   "230:aab0-aab2/2 230:aab3 230:aab7-aab8 230:aabe-aabf 230:aac1 230:fe20-fe26 230:fe2e-fe2f",
   "230:10376-1037a 230:10a0f 230:10a38 230:10ae5 230:10d24-10d27 230:10eab-10eac 230:10f48-10f4a",
   "230:10f4c 230:10f82-10f84/2 230:11100-11102 230:11366-1136c 230:11370-11374 230:1145e",
   "230:16b30-16b36 230:1d185-1d189 230:1d1aa-1d1ad 230:1d242-1d244 230:1e000-1e006",
   "230:1e008-1e018 230:1e01b-1e021 230:1e023-1e024 230:1e026-1e02a 230:1e130-1e136 230:1e2ae",
   "230:1e2ec-1e2ef 230:1e944-1e949 232:315 232:31a 232:358 232:1df6 232:302c 233:35c 233:35f",
   "233:362 233:1dfc 234:35d-35e 234:360-361 234:1dcd 240:345"]).flatMap
    fun line => (splitAtEach ' ' line.toList).map readClassRun

/-- The class of a character; zero for what is no mark with an order. -/
def combiningClass (c : Char) : Nat :=
  match classRuns.find? fun (_, run) => run.contains c.toNat with
  | some (n, _) => n
  | none => 0

/-- The class of the marks that take away a vowel. -/
def killerClass : Nat := 9

/-! Syllables of Hangul are made of two or three letters by their numbers. -/

def isSyllable (n : Nat) : Bool := 0xac00 ≤ n && n < 0xac00 + 19 * 21 * 28

def syllableParts (n : Nat) : List Nat :=
  let i := n - 0xac00
  let ends := [0x1100 + i / (21 * 28), 0x1161 + i / 28 % 21]
  if i % 28 = 0 then ends else ends ++ [0x11a7 + i % 28]

def syllable? (a b : Nat) : Option Nat :=
  if 0x1100 ≤ a && a < 0x1100 + 19 && 0x1161 ≤ b && b < 0x1161 + 21 then
    some (0xac00 + ((a - 0x1100) * 21 + (b - 0x1161)) * 28)
  else if isSyllable a && (a - 0xac00) % 28 = 0 && 0x11a7 < b && b < 0x11a7 + 28 then
    some (a + (b - 0x11a7))
  else none

/-- The parts of a character, taken apart down to some depth. -/
def partsDownTo : Nat → Nat → List Nat
  | 0, n => [n]
  | depth + 1, n =>
    if isSyllable n then syllableParts n
    else
      match composites.find? (·.whole == n) with
      | some c => c.parts.flatMap (partsDownTo depth)
      | none => [n]

/-- The deepest nesting of parts in parts. -/
def deepestParts : Nat := 4

/-- The characters that a text is made of. -/
def takenApart (cs : List Char) : List Char :=
  cs.flatMap fun c =>
    if c.toNat < 0x80 then [c] else (partsDownTo deepestParts c.toNat).map Char.ofNat

/-- Puts a mark in front of marks that are in order; it goes behind those of lower classes. -/
def placeMark (c : Char) : List Char → List Char
  | [] => [c]
  | d :: rest =>
    if 0 < combiningClass d && combiningClass d < combiningClass c then d :: placeMark c rest
    else c :: d :: rest

/-- The marks on each character in the order of their classes. -/
def inOrder (cs : List Char) : List Char := cs.foldr placeMark []

/-- The character that two others are together. -/
def together? (a b : Char) : Option Char :=
  match syllable? a.toNat b.toNat with
  | some n => some (Char.ofNat n)
  | none =>
    (composites.find? fun c => c.isRestored && c.parts == [a.toNat, b.toNat]).map
      fun c => Char.ofNat c.whole

/-- Puts together the marks that follow a character. Those that stay apart from it are kept in
reverse; one of them keeps a later one of the same or a lower class from the character. -/
def putTogether (start : Char) (apart : List Char) : List Char → List Char
  | [] => start :: apart.reverse
  | c :: rest =>
    let isFree := match apart with
      | [] => true
      | d :: _ => combiningClass d < combiningClass c
    match if isFree then together? start c else none with
    | some whole => putTogether whole apart rest
    | none =>
      if combiningClass c = 0 then start :: apart.reverse ++ putTogether c [] rest
      else putTogether start (c :: apart) rest

/-- Puts together what can be one character, from the first character on that is no mark with an
order. -/
def composed : List Char → List Char
  | [] => []
  | c :: rest => if combiningClass c = 0 then putTogether c [] rest else c :: composed rest

def normalForm (cs : List Char) : List Char := composed (inOrder (takenApart cs))

/-- Whether a text is in its composed normal form. -/
def isNormal (cs : List Char) : Bool := normalForm cs == cs

end Workflow.Text
