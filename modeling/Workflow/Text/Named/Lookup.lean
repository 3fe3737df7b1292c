import Workflow.Text.Named.Ancient
import Workflow.Text.Named.Eastern
import Workflow.Text.Named.Living
import Workflow.Text.Named.Other
import Workflow.Text.Named.Pictures
import Workflow.Text.Named.Signs
import Workflow.Text.Runs

/-! Characters by the names that Unicode 14 gives them. -/

namespace Workflow.Text

/-- The last name that was read from a list: its code point and its words. -/
structure LastName where
  code : Nat
  words : List (List Char)

/-- The name that an entry of a list stands for, after another one. A code point that is not the
next one stands before a colon, and a letter tells how many words are those of the last name: one
for a, two for b. -/
def LastName.next (last : LastName) (entry : List Char) : LastName :=
  let (code, words) := if entry.contains ':' then cutAt ':' entry else ([], entry)
  let (shared, words) := match words with
    | c :: rest => if 'a' ≤ c && c ≤ 'z' then (c.toNat - 96, rest) else (0, words)
    | [] => (0, [])
  let words := if words.isEmpty then [] else splitAtEach ' ' words
  ⟨if code.isEmpty then last.code + 1 else ofHexDigits code, last.words.take shared ++ words⟩

/-- The code point of a name, given by its words, among the entries of a list. -/
def findName (words : List (List Char)) : LastName → List (List Char) → Option Nat
  | _, [] => none
  | last, entry :: rest =>
    let name := last.next entry
    if name.words = words then some name.code else findName words name rest

def listedName? (words : List (List Char)) : Option Nat :=
  [livingNames, signNames, easternNames, ancientNames, pictureNames, otherNames].findSome?
    fun lines =>
      findName words ⟨0, []⟩ (lines.flatMap fun line => splitAtEach ';' line.toList)

/-- The starts of names that end with the code point, and the runs of those code points. -/
def numberedNames : List (String × List Run) :=
  [("CJK COMPATIBILITY IDEOGRAPH-", readRuns ["f900-fa6d fa70-fad9 2f800-2fa1d"]),
   ("KHITAN SMALL SCRIPT CHARACTER-", readRuns ["18b00-18cd5"]),
   ("NUSHU CHARACTER-", readRuns ["1b170-1b2fb"])]

/-- The number of some digits in upper case, of which there are four or five. -/
def codeOfDigits? (cs : List Char) : Option Nat :=
  let isDigit (c : Char) : Bool := ('0' ≤ c && c ≤ '9') || ('A' ≤ c && c ≤ 'F')
  if (cs.length = 4 || cs.length = 5) && cs.all isDigit then some (ofHexDigits cs) else none

def numberedName? (name : List Char) : Option Nat :=
  numberedNames.findSome? fun (start, runs) =>
    if start.toList.isPrefixOf name then
      let digits := name.drop start.length
      (codeOfDigits? digits).filter fun n =>
        inAnyRun runs n && digits.length = (if n < 0x10000 then 4 else 5)
    else none

def ideographStart : List Char := "CJK UNIFIED IDEOGRAPH-".toList

def ideographRuns : List Run := readRuns
  ["3400-4dbf 4e00-9fff 20000-2a6df 2a700-2b738 2b740-2b81d 2b820-2cea1 2ceb0-2ebe0 30000-3134a"]

def syllableStart : List Char := "HANGUL SYLLABLE ".toList

/-- The sounds that a syllable starts with, in order. -/
def leadSounds : List String :=
  ["G", "GG", "N", "D", "DD", "R", "M", "B", "BB", "S", "SS", "", "J", "JJ", "C", "K", "T", "P",
   "H"]

def vowelSounds : List String :=
  ["A", "AE", "YA", "YAE", "EO", "E", "YEO", "YE", "O", "WA", "WAE", "OE", "YO", "U", "WEO", "WE",
   "WI", "YU", "EU", "YI", "I"]

/-- The sounds that a syllable ends with, in order; the first one is none. -/
def tailSounds : List String :=
  ["", "G", "GG", "GS", "N", "NJ", "NH", "D", "L", "LG", "LM", "LB", "LS", "LT", "LP", "LH", "M",
   "B", "BS", "S", "SS", "NG", "J", "C", "K", "T", "P", "H"]

/-- The place of the longest sound that a text starts with, and what follows it. -/
def cutSound (sounds : List String) (cs : List Char) : Option (Nat × List Char) :=
  match sounds.filter fun sound => sound.toList.isPrefixOf cs with
  | [] => none
  | first :: rest =>
    let longest := rest.foldl (fun a b => if a.length < b.length then b else a) first
    (sounds.idxOf? longest).map fun i => (i, cs.drop longest.length)

/-- The syllable with a name made of three sounds. -/
def syllableNamed? (cs : List Char) : Option Nat := do
  let (lead, cs) ← cutSound leadSounds cs
  let (vowel, cs) ← cutSound vowelSounds cs
  let (tail, cs) ← cutSound tailSounds cs
  if cs.isEmpty then some (0xac00 + (lead * 21 + vowel) * 28 + tail) else none

/-- The character with a name. The case of the letters matters only in the names of ideographs and
syllables. -/
def named? (name : List Char) : Option Char :=
  let code? : Option Nat :=
    if syllableStart.isPrefixOf name then syllableNamed? (name.drop syllableStart.length)
    else if ideographStart.isPrefixOf name then
      (codeOfDigits? (name.drop ideographStart.length)).filter (inAnyRun ideographRuns)
    else
      let upper := name.map Char.toUpper
      (numberedName? upper).or (listedName? (splitAtEach ' ' upper))
  code?.map Char.ofNat

end Workflow.Text
